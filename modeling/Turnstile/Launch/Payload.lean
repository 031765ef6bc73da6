/-
Module: Turnstile.Launch.Payload
Purpose: The payload of a launch: the archive of a directory, within the limit of the API server.
Main exports: Payload.limit, Payload.checked, Payload.createBy
-/
import Turnstile.Archive
import Turnstile.Launch.Failure

/-!
The API server holds at most one mebibyte; a payload is refused exactly when its compressed size is beyond
that.  How entries are stored as octets is left open here.
-/

namespace Turnstile.Payload

/-- The largest payload, in octets. -/
def limit : Nat := 1048576

/-- Refuse a payload beyond the limit. -/
def checked (payload : List UInt8) : Except LaunchFailure (List UInt8) :=
  if limit < payload.length then .error (.payloadTooLarge payload.length limit) else .ok payload

/-- The payload of the directory that a path leads to, its entries stored in the given way. -/
def createBy (pack : List Archive.Entry → List UInt8) (files : FileTree) (path : String) :
    Except LaunchFailure (List UInt8) :=
  match Files.list files path with
  | .error fault => .error (.io fault)
  | .ok contents => checked (pack (Archive.entries contents))

end Turnstile.Payload
