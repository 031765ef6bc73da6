/-
Module: Turnstile.Exchange.Files
Purpose: The written form of file trees and of archives.
Main exports: FileTree.ofJson, Archive.Entry.report, Payload.report, FileTree.report
-/
import Turnstile.Exchange.Octets
import Turnstile.Launch.Packing

/-!
A file tree is written as a list of files, directories and links, each created in turn together with the
directories above it; what cannot be created is left out.  An archive is written as its entries; the data
of large files is left out.
-/

namespace Turnstile

namespace FileTree

/-- What was made, or the tree as it was. -/
def orSame (made : Except SystemFault FileTree) (tree : FileTree) : FileTree :=
  match made with
  | .ok next => next
  | .error _ => tree

/-- Create one thing in a tree. -/
def create (tree : FileTree) (json : Json) : FileTree :=
  let path := json.textOr "path" ""
  if json.flagOr "dir" false then orSame (Files.createDirectories tree path) tree
  else
    let raised := orSame (Files.createDirectories tree (Files.parent path)) tree
    match json.textAt? "link" with
    | some target => orSame (Files.link raised path target) raised
    | none => orSame (Files.write raised path (Octets.ofJson json)) raised

/-- The tree that a list of files describes. -/
def ofJson (items : List Json) : FileTree :=
  items.foldl create (.directory [])

/-- The octets of a file, null if it cannot be read. -/
def report (tree : FileTree) (path : String) : Json :=
  match Files.read tree path with
  | .ok data => Octets.toJson data
  | .error _ => .null

end FileTree

/-- The largest file whose data is written. -/
def Archive.reportLimit : Nat := 4096

/-- The written form of an entry. -/
def Archive.Entry.report (entry : Archive.Entry) : Json :=
  let path := ("path", Json.string ("/".intercalate entry.path))
  match entry.content with
  | .directory => .object [path, ("type", .string "dir")]
  | .link target => .object [path, ("type", .string "link"), ("target", .string target)]
  | .file data =>
    let shown := if data.length ≤ Archive.reportLimit then some (Octets.toJson data) else none
    .compact
      [("path", some path.2), ("type", some (.string "file")), ("size", some (.natural data.length)),
       ("data", shown)]

/-- The written form of a payload: its entries, or its octets if it is no archive. -/
def Payload.report (payload : List UInt8) : Json :=
  match Payload.entries? payload with
  | some entries => .array (entries.map Archive.Entry.report)
  | none => Octets.hexJson payload

end Turnstile
