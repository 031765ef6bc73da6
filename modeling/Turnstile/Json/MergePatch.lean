/-
Module: Turnstile.Json.MergePatch
Purpose: JSON merge patches: a null removes a member, an object descends, anything else replaces.
Main exports: Json.mergePatch, Json.mergeMembers
-/
import Turnstile.Json

/-!
A merge patch is a JSON value that describes a change of another one.  Arrays are replaced whole, and a
patch cannot set a member to null.
-/

namespace Turnstile.Json

mutual

/-- Apply a merge patch to a value.  Anything but an object patch replaces the value; an object patch
starts from no members when the value is no object. -/
def mergePatch (target patch : Json) : Json :=
  match patch with
  | .object changes => .object (mergeMembers (target.members?.getD []) changes)
  | .null => .null
  | .bool value => .bool value
  | .number mantissa places => .number mantissa places
  | .string text => .string text
  | .array items => .array items

/-- Apply the members of an object patch one after the other. -/
def mergeMembers (members : List (String × Json)) (changes : List (String × Json)) : List (String × Json) :=
  match changes with
  | [] => members
  | change :: rest => mergeMembers (mergeMember members change) rest

/-- Apply one member of an object patch. -/
def mergeMember (members : List (String × Json)) (change : String × Json) : List (String × Json) :=
  match change with
  | (key, .null) => Members.erase key members
  | (key, value) => Members.put key (mergePatch ((members.lookup key).getD .null) value) members

end

end Turnstile.Json
