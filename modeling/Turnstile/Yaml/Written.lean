/-
Module: Turnstile.Yaml.Written
Purpose: The text of a value as a document in blocks.
Main exports: Yaml.written
-/
import Turnstile.Json.Written

/-!
Members and items stand on lines of their own, and what belongs to a member is indented, unless it is a
sequence.  A text is written plainly if it can only be read as that text, and in single quotes otherwise.
-/

namespace Turnstile.Yaml

/-- A character that says nothing about structure. -/
def isInnocent (character : Char) : Bool :=
  character.isAlphanum || "/_.-,()=+<>;\"' `:#".toList.contains character

/-- A character that a plain text may begin with. -/
def mayBegin (character : Char) : Bool :=
  character.isAlphanum || character == '/' || character == '.'

/-- Plain words that stand for something other than a text. -/
def reservedWords : List String :=
  ["null", "true", "false", "yes", "no", "on", "off", "y", "n", ".inf", ".nan"]

/-- The characters read as a number. -/
def looksNumeric (characters : List Char) : Bool :=
  characters.all fun character => character.isDigit || "+-.eExob_".toList.contains character

/-- A colon or a comment sign that would end a plain text. -/
def breaksOff : List Char → Bool
  | [] => false
  | [':'] => true
  | [' '] => true
  | ':' :: ' ' :: _ => true
  | ' ' :: '#' :: _ => true
  | _ :: rest => breaksOff rest

/-- The text can be written as it is. -/
def isPlain (text : String) : Bool :=
  let characters := text.toList
  match characters.head? with
  | none => false
  | some first =>
    mayBegin first && characters.all isInnocent && !breaksOff characters && !looksNumeric characters &&
      !reservedWords.contains text.toLower

/-- A character inside single quotes. -/
def quoted (character : Char) : List Char :=
  if character == Char.ofNat 39 then [character, character] else [character]

/-- The text on one line. -/
def textLine (text : String) : String :=
  let mark := String.ofList [Char.ofNat 39]
  if isPlain text then text
  else if text.toList.all fun character => ' ' ≤ character then
    mark ++ String.ofList (text.toList.flatMap quoted) ++ mark
  else (Json.string text).written

/-- Let lines hang below a dash. -/
def hung : List String → List String
  | [] => []
  | first :: rest => ("- " ++ first) :: rest.map ("  " ++ ·)

/-- The lines of a member whose value has these lines. -/
def memberLines (key : String) (value : Json) (lines : List String) : List String :=
  let name := textLine key ++ ":"
  match value with
  | .object (_ :: _) => name :: lines.map ("  " ++ ·)
  | .array (_ :: _) => name :: lines
  | _ => lines.map ((name ++ " ") ++ ·)

mutual

/-- The lines of a value. -/
def linesOf : Json → List String
  | .string text => [textLine text]
  | .array (item :: items) => hung (linesOf item) ++ linesOfItems items
  | .object (member :: members) => linesOfMember member ++ linesOfMembers members
  | other => [other.written]

/-- The lines of items. -/
def linesOfItems : List Json → List String
  | [] => []
  | item :: items => hung (linesOf item) ++ linesOfItems items

/-- The lines of members. -/
def linesOfMembers : List (String × Json) → List String
  | [] => []
  | member :: members => linesOfMember member ++ linesOfMembers members

/-- The lines of a member. -/
def linesOfMember : String × Json → List String
  | (key, value) => memberLines key value (linesOf value)

end

/-- The text of a value. -/
def written (value : Json) : String :=
  String.join ((linesOf value).map (· ++ "\n"))

end Turnstile.Yaml
