/-
Module: Turnstile.Launch.Packing
Purpose: How the entries of a payload are stored where a launch is carried out, and how they are read back.
Main exports: Payload.pack, Payload.create, Payload.entries?
-/
import Turnstile.Archive.Gzip
import Turnstile.Archive.Tar
import Turnstile.Launch.Payload

/-!
The rules of a launch hold for every way to store entries.  Only what comes from outside and what goes there
takes this one: a tape archive, compressed.
-/

namespace Turnstile.Payload

/-- The entries as a compressed tape archive. -/
def pack (entries : List Archive.Entry) : List UInt8 :=
  Gzip.pack (Tar.write entries)

/-- The payload of the directory that a path leads to. -/
def create (files : FileTree) (path : String) : Except LaunchFailure (List UInt8) :=
  createBy pack files path

/-- The entries of a payload, if it is one. -/
def entries? (payload : List UInt8) : Option (List Archive.Entry) :=
  (Gzip.unpack? payload).bind Tar.read?

end Turnstile.Payload
