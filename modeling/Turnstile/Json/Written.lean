/-
Module: Turnstile.Json.Written
Purpose: The text of a JSON value, without spaces.
Main exports: Json.written, Json.quoteOnto, Json.numberText
-/
import Turnstile.Json
import Turnstile.Text.Duration

/-!
A text is written between quotation marks; quotation marks, backslashes and control characters in it are
escaped.  An integer is written without a point, every other number with at least one decimal.
-/

namespace Turnstile.Json

/-- The hexadecimal digit of a value below sixteen. -/
def hexDigit (value : Nat) : Char :=
  if value < 10 then Char.ofNat (48 + value) else Char.ofNat (87 + value)

/-- Write one character of a text behind what is written already. -/
def escapeOnto (written : String) (character : Char) : String :=
  if character = '"' then written ++ "\\\""
  else if character = '\\' then written ++ "\\\\"
  else if character = '\n' then written ++ "\\n"
  else if character = '\r' then written ++ "\\r"
  else if character = '\t' then written ++ "\\t"
  else if character.toNat < 32 then
    ((written ++ "\\u00").push (hexDigit (character.toNat / 16))).push (hexDigit (character.toNat % 16))
  else written.push character

/-- Write a text behind what is written already. -/
def quoteOnto (written text : String) : String :=
  (text.toList.foldl escapeOnto (written.push '"')).push '"'

/-- The text of a number. -/
def numberText (mantissa : Int) (places : Nat) : String :=
  if places = 0 then toString mantissa
  else
    let sign := if mantissa < 0 then "-" else ""
    let text := Duration.decimalText mantissa.natAbs places
    sign ++ (if text.toList.contains '.' then text else text ++ ".0")

mutual

/-- Write a value behind what is written already. -/
def writeOnto (written : String) (json : Json) : String :=
  match json with
  | .null => written ++ "null"
  | .bool value => written ++ (if value then "true" else "false")
  | .number mantissa places => written ++ numberText mantissa places
  | .string text => quoteOnto written text
  | .array items => (writeItems (written.push '[') true items).push ']'
  | .object members => (writeMembers (written.push (Char.ofNat 123)) true members).push (Char.ofNat 125)

/-- Write the items of an array, a comma before each but the first. -/
def writeItems (written : String) (first : Bool) (items : List Json) : String :=
  match items with
  | [] => written
  | item :: rest => writeItems (writeOnto (if first then written else written.push ',') item) false rest

/-- Write the members of an object, a comma before each but the first. -/
def writeMembers (written : String) (first : Bool) (members : List (String × Json)) : String :=
  match members with
  | [] => written
  | member :: rest => writeMembers (writeMember (if first then written else written.push ',') member) false rest

/-- Write one member of an object. -/
def writeMember (written : String) (member : String × Json) : String :=
  match member with
  | (key, value) => writeOnto ((quoteOnto written key).push ':') value

end

/-- The text of a value. -/
def written (json : Json) : String :=
  writeOnto "" json

end Turnstile.Json
