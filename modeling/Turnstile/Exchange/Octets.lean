/-
Module: Turnstile.Exchange.Octets
Purpose: The written form of octets: text, hexadecimal digits, repetition, or noise from a seed.
Main exports: Octets.ofJson, Octets.toJson, Octets.hexJson, Octets.ofText
-/
import Turnstile.Json.Field

/-!
Octets that are a text are written as that text, and all others as hexadecimal digits.  To give many
octets in few words, one octet may be repeated, or a seed may be named from which noise is drawn.
-/

namespace Turnstile.Octets

/-- The value of a hexadecimal digit, nothing counting as zero. -/
def digitValue (character : Char) : Nat :=
  if '0' ≤ character ∧ character ≤ '9' then character.toNat - 48
  else if 'a' ≤ character ∧ character ≤ 'f' then character.toNat - 87
  else if 'A' ≤ character ∧ character ≤ 'F' then character.toNat - 55
  else 0

/-- Read pairs of hexadecimal digits after the octets `read`, which have the latest first. -/
def ofHexAfter (read : List UInt8) : List Char → List UInt8
  | high :: low :: rest => ofHexAfter (UInt8.ofNat (digitValue high * 16 + digitValue low) :: read) rest
  | _ => read.reverse

/-- A hexadecimal digit. -/
def digit (value : Nat) : Char :=
  if value < 10 then Char.ofNat (48 + value) else Char.ofNat (87 + value)

/-- The hexadecimal digits of octets. -/
def hex (octets : List UInt8) : String :=
  String.ofList (octets.flatMap fun octet => [digit (octet.toNat / 16), digit (octet.toNat % 16)])

/-- One step of the noise: three shifts, each combined with what was there. -/
def stir (state : UInt64) : UInt64 :=
  let first := state ^^^ (state >>> 12)
  let second := first ^^^ (first <<< 25)
  second ^^^ (second >>> 27)

/-- So many more octets of noise after those drawn, which have the latest first: the top octets of the
stirred states times a constant. -/
def noiseAfter (drawn : List UInt8) : Nat → UInt64 → List UInt8
  | 0, _ => drawn.reverse
  | count + 1, state =>
    let next := stir state
    noiseAfter (((next * 0x2545F4914F6CDD1D) >>> 56).toUInt8 :: drawn) count next

/-- The octets of a text. -/
def ofText (text : String) : List UInt8 :=
  text.toUTF8.toList

/-- The octets that are written down; nothing written stands for none. -/
def ofJson (json : Json) : List UInt8 :=
  match json.textAt? "text", json.textAt? "hex", json.field? "repeat" with
  | some text, _, _ => ofText text
  | none, some digits, _ => ofHexAfter [] digits.toList
  | none, none, some repeated =>
    List.replicate (repeated.natOr "count" 0) (UInt8.ofNat (repeated.natOr "byte" 0))
  | none, none, none =>
    let source := json.part "noise"
    noiseAfter [] (source.natOr "count" 0) (UInt64.ofNat (source.natOr "seed" 0))

/-- Octets as hexadecimal digits. -/
def hexJson (octets : List UInt8) : Json :=
  .object [("hex", .string (hex octets))]

/-- The written form of octets. -/
def toJson (octets : List UInt8) : Json :=
  match String.fromUTF8? ⟨octets.toArray⟩ with
  | some text => .object [("text", .string text)]
  | none => hexJson octets

end Turnstile.Octets
