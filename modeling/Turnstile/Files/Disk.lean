/-
Module: Turnstile.Files.Disk
Purpose: Operations on directory trees that the disk may refuse, whatever their paths are.
Main exports: Disk, Disk.createDirectories, Disk.write
-/
import Turnstile.Files

/-!
A disk that is full, worn or somebody else's refuses what the paths of a tree would allow.  An operation that
fails may have done a part of its work, and what it leaves of the tree is up to the disk.
-/

namespace Turnstile

/-- What a disk refuses, and what it leaves of a tree on which an operation fails. -/
structure Disk where
  making : Option SystemFault := none
  writing : Option SystemFault := none
  remains : FileTree → FileTree := id

namespace Disk

/-- Carry out an operation on a tree, unless it is refused: how it ends, and the tree that is left. -/
def perform (disk : Disk) (refusal : Option SystemFault) (root : FileTree)
    (changed : Except SystemFault FileTree) : Except SystemFault Unit × FileTree :=
  match refusal, changed with
  | some fault, _ => (.error fault, disk.remains root)
  | none, .error fault => (.error fault, disk.remains root)
  | none, .ok next => (.ok (), next)

/-- Create a directory and those above it that are missing. -/
def createDirectories (disk : Disk) (root : FileTree) (path : String) : Except SystemFault Unit × FileTree :=
  disk.perform disk.making root (Files.createDirectories root path)

/-- Write a file, creating it if it is not there. -/
def write (disk : Disk) (root : FileTree) (path : String) (data : List UInt8) :
    Except SystemFault Unit × FileTree :=
  disk.perform disk.writing root (Files.write root path data)

end Disk

end Turnstile
