/-
Module: Turnstile.Json.Shape
Purpose: The shapes of cluster resources on the wire, and what remains of a value that has a shape.
Main exports: Shape, Presence, Shape.fit?, Shape.blank
-/
import Turnstile.Json
import Turnstile.Text.Base64
import Turnstile.Text.Instant

/-!
Resources that belong to the cluster are described by shapes.  A null member counts as absent, members the
shape does not know are dropped, and a member of the wrong type spoils the whole value.  Required members
are always written: one that is absent takes the blank value of its shape.
-/

namespace Turnstile

/-- How a member of a shaped object may be missing. -/
inductive Presence where
  /-- The member is left out when absent. -/
  | optional
  /-- The member takes the blank value when absent. -/
  | required
  /-- The member has one possible text, which is assumed when it is absent. -/
  | fixed (text : String)

/-- The shape of a value on the wire. -/
inductive Shape where
  | text
  | flag
  | integer (low high : Int)
  | instant
  | octets
  | textOrInteger
  | anything
  | list (item : Shape)
  | table (value : Shape)
  | record (fields : List (String × Presence × Shape))

namespace Shape

/-- A signed number of thirty-two bits. -/
def int32 : Shape := .integer (-2147483648) 2147483647

/-- A signed number of sixty-four bits. -/
def int64 : Shape := .integer (-9223372036854775808) 9223372036854775807

mutual

/-- What a required member is when absent. -/
def blank : Shape → Json
  | .text => .string ""
  | .flag => .bool false
  | .integer _ _ => .integer 0
  | .instant => .string "1970-01-01T00:00:00Z"
  | .octets => .string ""
  | .textOrInteger => .integer 0
  | .anything => .null
  | .list _ => .array []
  | .table _ => .object []
  | .record fields => .object (blankFields fields)

/-- The members that an absent record still has. -/
def blankFields : List (String × Presence × Shape) → List (String × Json)
  | [] => []
  | field :: rest => (blankField field).toList ++ blankFields rest

/-- The member that an absent field still is. -/
def blankField : String × Presence × Shape → Option (String × Json)
  | (_, .optional, _) => none
  | (key, .required, shape) => some (key, blank shape)
  | (key, .fixed word, _) => some (key, .string word)

end

/-- Bring every member of a table to its value shape. -/
def fitTable (fit : Json → Option Json) : List (String × Json) → Option (List (String × Json))
  | [] => some []
  | (key, json) :: rest =>
    match fit json, fitTable fit rest with
    | some value, some values => some ((key, value) :: values)
    | _, _ => none

mutual

/-- What remains of a value that has the shape; none if it has not. -/
def fit? (shape : Shape) (json : Json) : Option Json :=
  match shape with
  | .text => json.text?.map .string
  | .flag => json.bool?.map .bool
  | .integer low high => (json.intBetween? low high).map .integer
  | .instant => (json.text?.bind Instant.normalize?).map .string
  | .octets => (json.text?.bind Base64.decode?).map fun octets => .string (Base64.encode octets)
  | .textOrInteger =>
    match json with
    | .string word => some (.string word)
    | other => (other.intBetween? (-2147483648) 2147483647).map .integer
  | .anything => some json
  | .list item => (json.items?.bind fun items => items.mapM (fit? item)).map .array
  | .table value => (json.members?.bind (fitTable (fit? value))).map .object
  | .record fields => (json.members?.bind (fitFields? fields)).map .object

/-- The members that remain of an object with these fields. -/
def fitFields? (fields : List (String × Presence × Shape)) (members : List (String × Json)) :
    Option (List (String × Json)) :=
  match fields with
  | [] => some []
  | field :: rest =>
    match fitField? field members, fitFields? rest members with
    | some member, some later => some (member.toList ++ later)
    | _, _ => none

/-- The member that remains for one field; an absent optional field leaves none. -/
def fitField? (field : String × Presence × Shape) (members : List (String × Json)) :
    Option (Option (String × Json)) :=
  match field with
  | (key, .fixed word, _) =>
    match members.lookup key with
    | none => some (some (key, .string word))
    | some (.string given) => if given = word then some (some (key, .string word)) else none
    | some _ => none
  | (key, .optional, shape) =>
    match members.lookup key with
    | none => some none
    | some .null => some none
    | some json => (fit? shape json).map fun value => some (key, value)
  | (key, .required, shape) =>
    match members.lookup key with
    | none => some (some (key, blank shape))
    | some .null => some (some (key, blank shape))
    | some json => (fit? shape json).map fun value => some (key, value)

end

end Shape

end Turnstile
