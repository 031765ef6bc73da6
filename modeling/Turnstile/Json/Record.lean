/-
Module: Turnstile.Json.Record
Purpose: The two wire forms of a record, by name and by position, and the rules for missing fields.
Main exports: Record, Json.record?, Record.required?, Record.withDefault?, Record.optional?
-/
import Turnstile.Json

/-!
The program's own resources are read as records.  A record is written as an object, whose unknown members
are ignored, or as the array of its field values in declared order, which may stop early where every later
field has a default.  A field with a default may be missing, but an explicit null is only accepted where
the field is optional.
-/

namespace Turnstile

/-- A record on the wire. -/
inductive Record where
  | named (members : List (String × Json))
  | positional (values : List Json)

namespace Record

/-- The value given for a field, found by its key or by its place. -/
def value? (record : Record) (place : Nat) (key : String) : Option Json :=
  match record with
  | named members => members.lookup key
  | positional values => values[place]?

/-- A field that has to be there. -/
def required? {α : Type} (record : Record) (place : Nat) (key : String) (decode : Json → Option α) :
    Option α :=
  (record.value? place key).bind decode

/-- A field that takes `default` when it is missing. -/
def withDefault? {α : Type} (record : Record) (place : Nat) (key : String) (default : α)
    (decode : Json → Option α) : Option α :=
  match record.value? place key with
  | none => some default
  | some json => decode json

/-- A field that may be missing or null. -/
def optional? {α : Type} (record : Record) (place : Nat) (key : String) (decode : Json → Option α) :
    Option (Option α) :=
  record.withDefault? place key none (Json.optional? decode)

end Record

/-- Read a value as a record of at most `most` fields, the last one without a default being number
`least`. -/
def Json.record? (least most : Nat) : Json → Option Record
  | .object members => some (.named members)
  | .array values => if least ≤ values.length ∧ values.length ≤ most then some (.positional values) else none
  | _ => none

end Turnstile
