/-
Module: Turnstile.Text.Base64
Purpose: The standard base64 alphabet with padding, in both directions.
Main exports: Base64.encode, Base64.decode?
-/

/-!
Three octets become four characters; one or two octets at the end are filled up with padding signs.
Reading accepts exactly the texts that writing produces: the padding has to be there and the unused low
bits of the last character have to be zero.
-/

namespace Turnstile.Base64

/-- The character of a six-bit value. -/
def letter (value : Nat) : Char :=
  if value < 26 then Char.ofNat (65 + value)
  else if value < 52 then Char.ofNat (97 + (value - 26))
  else if value < 62 then Char.ofNat (48 + (value - 52))
  else if value = 62 then '+' else '/'

/-- The six-bit value of a character of the alphabet. -/
def value? (character : Char) : Option Nat :=
  let code := character.toNat
  if 65 ≤ code ∧ code ≤ 90 then some (code - 65)
  else if 97 ≤ code ∧ code ≤ 122 then some (code - 97 + 26)
  else if 48 ≤ code ∧ code ≤ 57 then some (code - 48 + 52)
  else if character = '+' then some 62
  else if character = '/' then some 63
  else none

/-- Put the characters of the octets behind those already written, the last one first. -/
def lettersOnto (written : List Char) : List UInt8 → List Char
  | a :: b :: c :: rest =>
    let group := a.toNat * 65536 + b.toNat * 256 + c.toNat
    lettersOnto (letter (group % 64) :: letter (group / 64 % 64) :: letter (group / 4096 % 64) ::
      letter (group / 262144) :: written) rest
  | [a, b] =>
    let group := a.toNat * 1024 + b.toNat * 4
    '=' :: letter (group % 64) :: letter (group / 64 % 64) :: letter (group / 4096) :: written
  | [a] =>
    let group := a.toNat * 16
    '=' :: '=' :: letter (group % 64) :: letter (group / 64) :: written
  | [] => written

/-- The text of the octets. -/
def encode (octets : List UInt8) : String :=
  String.ofList (lettersOnto [] octets).reverse

/-- Read groups of four characters, the octets read so far being given last first. -/
def octetsOnto (read : List UInt8) : List Char → Option (List UInt8)
  | [] => some read
  | [p, q, '=', '='] => do
    let a ← value? p
    let b ← value? q
    if b % 16 = 0 then some (UInt8.ofNat (a * 4 + b / 16) :: read) else none
  | [p, q, r, '='] => do
    let a ← value? p
    let b ← value? q
    let c ← value? r
    if c % 4 = 0 then
      some (UInt8.ofNat (b % 16 * 16 + c / 4) :: UInt8.ofNat (a * 4 + b / 16) :: read)
    else none
  | p :: q :: r :: s :: rest =>
    match value? p, value? q, value? r, value? s with
    | some a, some b, some c, some d =>
      octetsOnto (UInt8.ofNat (c % 4 * 64 + d) :: UInt8.ofNat (b % 16 * 16 + c / 4) ::
        UInt8.ofNat (a * 4 + b / 16) :: read) rest
    | _, _, _, _ => none
  | _ => none

/-- The octets written as this text, if it is one. -/
def decode? (text : String) : Option (List UInt8) :=
  (octetsOnto [] text.toList).map List.reverse

end Turnstile.Base64
