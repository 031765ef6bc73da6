/-
Module: Turnstile.Json
Purpose: JSON values as data, and the few operations on members that every other module needs.
Main exports: Json, Members.put, Members.erase, Json.get?, Json.compact
-/

/-!
An object is the list of its members.  The order of members carries no meaning; readers look members up
by key, and writers produce each key once.  A number keeps its decimal digits: `number m p` is
`m / 10 ^ p`, and a number written without a fraction has `p = 0`, so integers stay integers.
-/

namespace Turnstile

/-- A JSON value. -/
inductive Json where
  | null
  | bool (value : Bool)
  | number (mantissa : Int) (places : Nat)
  | string (text : String)
  | array (items : List Json)
  | object (members : List (String × Json))
deriving Inhabited

namespace Members

/-- Give `key` the value `value`: the first member of that key is replaced in place, and a new key goes
to the end. -/
def put {α : Type} (key : String) (value : α) : List (String × α) → List (String × α)
  | [] => [(key, value)]
  | member :: rest => if member.1 = key then (key, value) :: rest else member :: put key value rest

/-- Remove every member of the key. -/
def erase {α : Type} (key : String) (members : List (String × α)) : List (String × α) :=
  members.filter fun member => member.1 != key

end Members

namespace Json

/-- A whole number. -/
def integer (value : Int) : Json :=
  .number value 0

/-- A list of texts. -/
def texts (values : List String) : Json :=
  .array (values.map .string)

/-- The object of those members that have a value. -/
def compact (members : List (String × Option Json)) : Json :=
  .object (members.filterMap fun member => member.2.map fun value => (member.1, value))

/-- The members of an object; no other value has any. -/
def members? : Json → Option (List (String × Json))
  | .object members => some members
  | _ => none

/-- The member of an object with this key. -/
def get? (json : Json) (key : String) : Option Json :=
  json.members?.bind fun members => members.lookup key

/-- The value reached by following the keys through nested objects. -/
def at? (json : Json) : List String → Option Json
  | [] => some json
  | key :: rest => (json.get? key).bind fun value => value.at? rest

/-- The text of a string value. -/
def text? : Json → Option String
  | .string text => some text
  | _ => none

/-- The truth value of a boolean. -/
def bool? : Json → Option Bool
  | .bool value => some value
  | _ => none

/-- The value of a number that is written as an integer. -/
def int? : Json → Option Int
  | .number value 0 => some value
  | _ => none

/-- An integer between the bounds, both included. -/
def intBetween? (low high : Int) (json : Json) : Option Int :=
  json.int?.bind fun value => if low ≤ value ∧ value ≤ high then some value else none

/-- The items of an array. -/
def items? : Json → Option (List Json)
  | .array items => some items
  | _ => none

/-- Every item of an array, read by `decode`; one item that does not fit spoils the array. -/
def list? {α : Type} (decode : Json → Option α) (json : Json) : Option (List α) :=
  json.items?.bind fun items => items.mapM decode

/-- An array of texts. -/
def texts? (json : Json) : Option (List String) :=
  json.list? text?

/-- Null stands for absence; any other value is read by `decode`. -/
def optional? {α : Type} (decode : Json → Option α) : Json → Option (Option α)
  | .null => some none
  | json => (decode json).map some

/-- Set one member of an object; a value that is no object becomes the object of that one member. -/
def set (json : Json) (key : String) (value : Json) : Json :=
  .object (Members.put key value (json.members?.getD []))

/-- Remove one member of an object. -/
def without (json : Json) (key : String) : Json :=
  match json with
  | .object members => .object (Members.erase key members)
  | other => other

end Json

end Turnstile
