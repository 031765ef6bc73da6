/-
Module: Turnstile.Archive.Gzip
Purpose: Compressed data in its envelope: a header before it, its check sum and its length behind it.
Main exports: Gzip.pack, Gzip.unpack?, Gzip.checkSum
-/
import Turnstile.Archive.Deflate

/-!
The check sum is the cyclic redundancy check of thirty-two bits, the lowest bit first.  What is read is
only accepted when check sum and length agree with the data.
-/

namespace Turnstile.Gzip

/-- One step of the check for one bit. -/
def checkBit (value : UInt32) : UInt32 :=
  if value &&& 1 = 1 then (value >>> 1) ^^^ 0xEDB88320 else value >>> 1

/-- The check of one octet. -/
def checkOctet (octet : Nat) : UInt32 :=
  (List.range 8).foldl (fun value _ => checkBit value) (UInt32.ofNat octet)

/-- The checks of all octets. -/
def checkTable : Array UInt32 :=
  ((List.range 256).map checkOctet).toArray

/-- The check sum of data. -/
def checkSum (data : List UInt8) : UInt32 :=
  let table := checkTable
  let last := data.foldl
    (fun (value : UInt32) octet =>
      (table[((value ^^^ octet.toUInt32) &&& 255).toNat]?).getD 0 ^^^ (value >>> 8))
    0xFFFFFFFF
  last ^^^ 0xFFFFFFFF

/-- A number in four octets, the lowest first. -/
def word32 (value : Nat) : List UInt8 :=
  [UInt8.ofNat value, UInt8.ofNat (value / 256), UInt8.ofNat (value / 65536), UInt8.ofNat (value / 16777216)]

/-- The header: no name, no time, an unknown system. -/
def header : List UInt8 :=
  [0x1f, 0x8b, 8, 0, 0, 0, 0, 0, 0, 255]

/-- Data in its envelope. -/
def pack (data : List UInt8) : List UInt8 :=
  header ++ Deflate.compress data ++ word32 (checkSum data).toNat ++ word32 data.length

/-- Pass the header, whose flags tell which extra fields it has. -/
def afterHeader? (octets : List UInt8) : Option (List UInt8) :=
  match octets with
  | 0x1f :: 0x8b :: 8 :: flags :: _ :: _ :: _ :: _ :: _ :: _ :: rest =>
    let has (bit : Nat) : Bool := flags.toNat / bit % 2 == 1
    let pastText (ahead : List UInt8) : List UInt8 := (ahead.dropWhile (· != 0)).drop 1
    let afterExtra := if has 4 then
        match rest with
        | low :: high :: more => more.drop (low.toNat + 256 * high.toNat)
        | short => short
      else rest
    let afterName := if has 8 then pastText afterExtra else afterExtra
    let afterComment := if has 16 then pastText afterName else afterName
    some (if has 2 then afterComment.drop 2 else afterComment)
  | _ => none

/-- The data of an envelope. -/
def unpack? (octets : List UInt8) : Option (List UInt8) := do
  let body ← afterHeader? octets
  let (data, behind) ← Deflate.decompress? body
  if behind.take 8 = word32 (checkSum data).toNat ++ word32 data.length then some data else none

end Turnstile.Gzip
