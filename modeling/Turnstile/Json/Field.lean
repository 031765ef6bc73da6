/-
Module: Turnstile.Json.Field
Purpose: Members of loosely written objects, which may be left out.
Main exports: Json.field?, Json.raw, Json.textOr, Json.natOr, Json.flagOr, Json.itemsAt, Json.textsAt
-/
import Turnstile.Json

/-!
In a document that people write by hand a member may be left out, and null says the same.  A member of the
wrong type is read as if it were left out.  Where null means something of its own, `raw` gives the member
as it stands.
-/

namespace Turnstile.Json

/-- A member that is given. -/
def field? (json : Json) (key : String) : Option Json :=
  match json.get? key with
  | some .null => none
  | other => other

/-- A member as it stands, null if there is none. -/
def raw (json : Json) (key : String) : Json :=
  (json.get? key).getD .null

/-- A member that is an object, empty if it is not given. -/
def part (json : Json) (key : String) : Json :=
  (json.field? key).getD (.object [])

/-- A text, if it is given. -/
def textAt? (json : Json) (key : String) : Option String :=
  (json.field? key).bind text?

/-- A text, or what stands for it. -/
def textOr (json : Json) (key fallback : String) : String :=
  (json.textAt? key).getD fallback

/-- A whole number, or what stands for it. -/
def intOr (json : Json) (key : String) (fallback : Int) : Int :=
  ((json.field? key).bind int?).getD fallback

/-- A natural number, if it is given. -/
def natAt? (json : Json) (key : String) : Option Nat :=
  ((json.field? key).bind int?).map Int.toNat

/-- A natural number, or what stands for it. -/
def natOr (json : Json) (key : String) (fallback : Nat) : Nat :=
  (json.natAt? key).getD fallback

/-- A truth value, or what stands for it. -/
def flagOr (json : Json) (key : String) (fallback : Bool) : Bool :=
  ((json.field? key).bind bool?).getD fallback

/-- The items of a list, none if it is not given. -/
def itemsAt (json : Json) (key : String) : List Json :=
  ((json.field? key).bind items?).getD []

/-- The texts of a list, none if it is not given. -/
def textsAt (json : Json) (key : String) : List String :=
  (json.itemsAt key).filterMap text?

/-- A natural number as a value. -/
def natural (value : Nat) : Json :=
  .integer value

/-- A value that may be missing; null stands for none. -/
def orNull {α : Type} (encode : α → Json) (value : Option α) : Json :=
  (value.map encode).getD .null

end Turnstile.Json
