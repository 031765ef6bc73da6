/-
Module: Turnstile.Archive
Purpose: What a launch takes along from a directory: its entries in archive order.
Main exports: Archive.Entry, Archive.Content, Archive.entries, Archive.skipped
-/
import Turnstile.Files

/-!
An archive lists a directory depth first: the entry of a directory stands before the entries below it, and
siblings follow the order of their names.  Links are kept as links.  Directories of two names, which hold
nothing that a run needs, are left out with all they hold, at any depth; files and links of those names
stay.
-/

namespace Turnstile.Archive

/-- What an entry is. -/
inductive Content where
  | directory
  | link (target : String)
  | file (data : List UInt8)
deriving DecidableEq, Inhabited

/-- An entry by its path from the archived directory. -/
structure Entry where
  path : List String
  content : Content
deriving DecidableEq, Inhabited

/-- The names of the directories that are left out. -/
def skipped : List String :=
  [".git", ".terraform"]

mutual

/-- The tree with the entries of every directory in the order of their names. -/
def sorted : FileTree → FileTree
  | .file data => .file data
  | .link target => .link target
  | .directory entries => .directory ((sortedAll entries).mergeSort fun left right => left.1 ≤ right.1)

/-- The entries of a directory, each sorted. -/
def sortedAll : List (String × FileTree) → List (String × FileTree)
  | [] => []
  | entry :: rest => sortedEntry entry :: sortedAll rest

/-- An entry of a directory, sorted. -/
def sortedEntry : String × FileTree → String × FileTree
  | (name, tree) => (name, sorted tree)

end

mutual

/-- The archive entries of what stands at a path. -/
def walk (path : List String) (tree : FileTree) : List Entry :=
  match tree with
  | .file data => [⟨path, .file data⟩]
  | .link target => [⟨path, .link target⟩]
  | .directory entries =>
    if skipped.contains (path.getLast?.getD "") then []
    else ⟨path, .directory⟩ :: walkAll path entries

/-- The archive entries of the contents of a directory. -/
def walkAll (path : List String) (entries : List (String × FileTree)) : List Entry :=
  match entries with
  | [] => []
  | entry :: rest => walkEntry path entry ++ walkAll path rest

/-- The archive entries of one entry of a directory. -/
def walkEntry (path : List String) (entry : String × FileTree) : List Entry :=
  match entry with
  | (name, tree) => walk (path ++ [name]) tree

end

/-- The entries of an archive of a directory with these contents. -/
def entries (contents : List (String × FileTree)) : List Entry :=
  match sorted (.directory contents) with
  | .directory ordered => walkAll [] ordered
  | _ => []

end Turnstile.Archive
