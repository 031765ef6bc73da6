/-
Module: Turnstile.Archive.Tar
Purpose: The octets of a tape archive, written from entries and read back.
Main exports: Tar.write, Tar.read?
-/
import Turnstile.Archive

/-!
Every entry is a header of 512 octets, followed by its data filled up with zeros to a multiple of 512; two
blocks of zeros end the archive.  A path or link target that does not fit its field of one hundred octets
is put in front as the data of an entry of its own.  Short link targets are written in their plain
spelling, without empty names and without inner names of the present directory.
-/

namespace Turnstile.Tar

/-- The size of a block. -/
def blockSize : Nat := 512

/-- The size of the fields for paths and targets. -/
def nameSize : Nat := 100

/-- Fill up with zeros, or cut, to a length. -/
def fit (length : Nat) (octets : List UInt8) : List UInt8 :=
  octets.take length ++ List.replicate (length - octets.length) 0

/-- The octets of a text. -/
def octets (text : String) : List UInt8 :=
  text.toUTF8.toList

/-- The octal digits of a number, in a field that ends with a zero. -/
def octalField (length value : Nat) : List UInt8 :=
  let digits := (Nat.toDigits 8 value).map fun digit => UInt8.ofNat digit.toNat
  List.replicate (length - 1 - digits.length) 48 ++ digits ++ [0]

/-- The kinds of entries in a header. -/
inductive Flag where
  | file
  | link
  | directory
  | longPath
  | longTarget
deriving Repr, DecidableEq

/-- The octet of a kind. -/
def Flag.octet : Flag → UInt8
  | .file => 48
  | .link => 50
  | .directory => 53
  | .longPath => 76
  | .longTarget => 75

/-- The kind of an octet. -/
def Flag.ofOctet? (octet : UInt8) : Option Flag :=
  [Flag.file, .link, .directory, .longPath, .longTarget].find? fun flag => flag.octet == octet

/-- The permissions that a kind is written with. -/
def Flag.mode : Flag → Nat
  | .directory => 0o755
  | .link => 0o777
  | _ => 0o644

/-- The sum of octets. -/
def sum (octets : List UInt8) : Nat :=
  octets.foldl (fun total octet => total + octet.toNat) 0

/-- A header. -/
def header (path : List UInt8) (flag : Flag) (size : Nat) (target : List UInt8) : List UInt8 :=
  let front :=
    fit nameSize path ++ octalField 8 flag.mode ++ octalField 8 0 ++ octalField 8 0 ++
      octalField 12 size ++ octalField 12 0
  let back :=
    flag.octet :: fit nameSize target ++ octets "ustar  " ++ List.replicate 248 0
  let total := sum front + 8 * 32 + sum back
  fit blockSize (front ++ octalField 7 total ++ [32] ++ back)

/-- Zeros that fill data up to a block. -/
def padding (length : Nat) : List UInt8 :=
  List.replicate ((blockSize - length % blockSize) % blockSize) 0

/-- An entry that holds a long name for the entry behind it. -/
def longName (flag : Flag) (name : List UInt8) : List UInt8 :=
  if name.length ≤ nameSize then []
  else
    let data := name ++ [0]
    header (octets "././@LongLink") flag data.length [] ++ data ++ padding data.length

/-- The plain spelling of a link target. -/
def plainTarget (target : String) : String :=
  let names := (Files.pieces target.toList).map String.ofList
  let lead := if Files.isAbsolute target then "/" else ""
  let kept := names.zipIdx.filter fun name =>
    name.1 != "" && (name.1 != "." || (name.2 == 0 && lead.isEmpty))
  let trail := if target.toList.getLast? == some '/' && !kept.isEmpty then "/" else ""
  lead ++ "/".intercalate (kept.map Prod.fst) ++ trail

/-- The target of a link as it is written. -/
def targetOctets (target : String) : List UInt8 :=
  let plain := octets (plainTarget target)
  if plain.length ≤ nameSize then plain else octets target

/-- The octets of an entry. -/
def entry (given : Archive.Entry) : List UInt8 :=
  let path := octets ("/".intercalate given.path)
  match given.content with
  | .directory => longName .longPath path ++ header path .directory 0 []
  | .link target =>
    let written := targetOctets target
    longName .longPath path ++ longName .longTarget written ++ header path .link 0 written
  | .file data =>
    longName .longPath path ++ header path .file data.length [] ++ data ++ padding data.length

/-- The octets of an archive. -/
def write (entries : List Archive.Entry) : List UInt8 :=
  entries.flatMap entry ++ List.replicate (2 * blockSize) 0

/-- The octets before the first zero. -/
def untilZero (field : List UInt8) : List UInt8 :=
  field.takeWhile (· != 0)

/-- The number in an octal field. -/
def octal? (field : List UInt8) : Option Nat :=
  let digits := (untilZero field).filter (· != 32)
  digits.foldlM (fun value digit =>
    if 48 ≤ digit.toNat ∧ digit.toNat ≤ 55 then some (value * 8 + (digit.toNat - 48)) else none) 0

/-- Read entries.  Long names that stand in front of an entry are passed on to it. -/
def readFrom (bound : Nat) (longPath longTarget : Option (List UInt8)) (ahead : List UInt8) :
    Option (List Archive.Entry) :=
  match bound with
  | 0 => none
  | bound + 1 =>
    let block := ahead.take blockSize
    if block.length < blockSize then none
    else if block.all (· == 0) then some []
    else do
      let size ← octal? ((block.drop 124).take 12)
      let told ← octal? ((block.drop 148).take 8)
      let flag ← Flag.ofOctet? ((block[156]?).getD 0)
      let total := sum (block.take 148) + 8 * 32 + sum (block.drop 156)
      if told ≠ total then none
      let rest := ahead.drop blockSize
      let data := rest.take size
      if data.length < size then none
      let next := rest.drop (size + (blockSize - size % blockSize) % blockSize)
      let path ← String.fromUTF8? ⟨(longPath.getD (untilZero (block.take nameSize))).toArray⟩
      let target ← String.fromUTF8? ⟨(longTarget.getD (untilZero ((block.drop 157).take nameSize))).toArray⟩
      let names := Files.names path
      match flag with
      | .longPath => readFrom bound (some (untilZero data)) longTarget next
      | .longTarget => readFrom bound longPath (some (untilZero data)) next
      | .file => (readFrom bound none none next).map fun later => ⟨names, .file data⟩ :: later
      | .link => (readFrom bound none none next).map fun later => ⟨names, .link target⟩ :: later
      | .directory => (readFrom bound none none next).map fun later => ⟨names, .directory⟩ :: later

/-- The entries of an archive. -/
def read? (archive : List UInt8) : Option (List Archive.Entry) :=
  readFrom (archive.length / blockSize + 1) none none archive

end Turnstile.Tar
