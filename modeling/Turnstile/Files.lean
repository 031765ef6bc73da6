/-
Module: Turnstile.Files
Purpose: Directory trees with files and symbolic links, and the operations on paths that the program uses.
Main exports: FileTree, Files.resolve, Files.read, Files.exists?, Files.createDirectories, Files.write, Files.link
-/
import Turnstile.Files.Fault

/-!
A path is followed from the root of the tree, name by name.  A link on the way leads to its target, taken
from the directory that holds the link; at most forty links are followed.  Nothing outside the tree
exists: a path or a target that starts at the root of the system, or that climbs above the tree, leads
nowhere.

Writing a file through a link that leads nowhere creates the target of the link.
-/

namespace Turnstile

/-- A file, a symbolic link, or a directory with what it holds by name. -/
inductive FileTree where
  | file (data : List UInt8)
  | link (target : String)
  | directory (entries : List (String × FileTree))
deriving Inhabited

namespace FileTree

/-- An entry of a directory. -/
def child? (tree : FileTree) (name : String) : Option FileTree :=
  match tree with
  | .directory entries => entries.lookup name
  | _ => none

/-- What is found by descending through the names, without following links. -/
def descend? (tree : FileTree) : List String → Option FileTree
  | [] => some tree
  | name :: rest => (tree.child? name).bind fun child => child.descend? rest

/-- Give a name in a list of entries a tree. -/
def putEntry (name : String) (tree : FileTree) : List (String × FileTree) → List (String × FileTree)
  | [] => [(name, tree)]
  | entry :: rest => if entry.1 == name then (name, tree) :: rest else entry :: putEntry name tree rest

/-- Put a tree at a place; where the place is not inside directories, nothing changes. -/
def putAt (tree new : FileTree) : List String → FileTree
  | [] => new
  | name :: rest =>
    match tree with
    | .directory entries =>
      if rest.isEmpty then .directory (putEntry name new entries)
      else
        match entries.lookup name with
        | some child => .directory (putEntry name (child.putAt new rest) entries)
        | none => tree
    | other => other

end FileTree

namespace Files

/-- The pieces of a text between its slashes. -/
def pieces : List Char → List (List Char)
  | [] => [[]]
  | '/' :: rest => [] :: pieces rest
  | character :: rest =>
    match pieces rest with
    | [] => [[character]]
    | piece :: others => (character :: piece) :: others

/-- The names of a path.  Empty names and the name of the present directory lead nowhere else. -/
def names (path : String) : List String :=
  ((pieces path.toList).map String.ofList).filter fun name => name != "" && name != "."

/-- A path that starts at the root of the system. -/
def isAbsolute (path : String) : Bool :=
  path.toList.head? == some '/'

/-- Where a path leads: the place, as the names that reach it without links, and what is there. -/
structure Place where
  names : List String
  tree : Option FileTree
deriving Inhabited

/-- Follow names from a directory.  The number bounds the links still followed; `followLast` tells whether
a link at the very end is followed. -/
def follow (root : FileTree) (followLast : Bool) (links : Nat) (here : List String) (path : List String) :
    Except SystemFault Place :=
  match path with
  | [] => .ok ⟨here, root.descend? here⟩
  | ".." :: rest =>
    match root.descend? here with
    | some (.directory _) =>
      if here.isEmpty then .error .notFound else follow root followLast links here.dropLast rest
    | some _ => .error .notDirectory
    | none => .error .notFound
  | name :: rest =>
    match root.descend? here with
    | some (.directory entries) =>
      match entries.lookup name with
      | some (.link target) =>
        if rest.isEmpty && !followLast then .ok ⟨here ++ [name], some (.link target)⟩
        else if isAbsolute target then .error .notFound
        else
          match links with
          | 0 => .error .tooManyLinks
          | left + 1 => follow root followLast left here (names target ++ rest)
      | some _ => follow root followLast links (here ++ [name]) rest
      | none => if rest.isEmpty then .ok ⟨here ++ [name], none⟩ else .error .notFound
    | some _ => .error .notDirectory
    | none => .error .notFound
termination_by (links, path.length)

/-- Where a path leads, links included. -/
def resolve (root : FileTree) (path : String) : Except SystemFault Place :=
  if isAbsolute path then .error .notFound else follow root true 40 [] (names path)

/-- What a path leads to. -/
def get (root : FileTree) (path : String) : Except SystemFault FileTree :=
  match resolve root path with
  | .error fault => .error fault
  | .ok place =>
    match place.tree with
    | some tree => .ok tree
    | none => .error .notFound

/-- The path leads to something. -/
def exists? (root : FileTree) (path : String) : Bool :=
  match get root path with
  | .ok _ => true
  | .error _ => false

/-- The names lead to a directory. -/
def isDirectory (root : FileTree) (path : List String) : Bool :=
  match follow root true 40 [] path with
  | .ok ⟨_, some (.directory _)⟩ => true
  | _ => false

/-- The data of a file. -/
def read (root : FileTree) (path : String) : Except SystemFault (List UInt8) :=
  match get root path with
  | .ok (.file data) => .ok data
  | .ok _ => .error .isDirectory
  | .error fault => .error fault

/-- The text of octets. -/
def decodeText (data : List UInt8) : Except SystemFault String :=
  match String.fromUTF8? ⟨data.toArray⟩ with
  | some text => .ok text
  | none => .error .invalidText

/-- The text of a file. -/
def readText (root : FileTree) (path : String) : Except SystemFault String :=
  (read root path).bind decodeText

/-- What a directory holds. -/
def list (root : FileTree) (path : String) : Except SystemFault (List (String × FileTree)) :=
  match get root path with
  | .ok (.directory entries) => .ok entries
  | .ok _ => .error .notDirectory
  | .error fault => .error fault

/-- Create one directory. -/
def createDirectory (root : FileTree) (path : List String) : Except SystemFault FileTree :=
  match follow root false 40 [] path with
  | .error fault => .error fault
  | .ok place =>
    match place.tree with
    | some _ => .error .alreadyExists
    | none => .ok (root.putAt (.directory []) place.names)

/-- Create a directory and those above it that are missing.  The number of names bounds the climb. -/
def createAll (root : FileTree) : Nat → List String → Except SystemFault FileTree
  | _, [] => .ok root
  | 0, _ => .error .notFound
  | bound + 1, path =>
    let settle (tree : FileTree) (outcome : Except SystemFault FileTree) : Except SystemFault FileTree :=
      match outcome with
      | .ok made => .ok made
      | .error fault => if isDirectory tree path then .ok tree else .error fault
    match createDirectory root path with
    | .error .notFound =>
      match createAll root bound path.dropLast with
      | .error fault => .error fault
      | .ok raised => settle raised (createDirectory raised path)
    | outcome => settle root outcome

/-- Create a directory and those above it that are missing. -/
def createDirectories (root : FileTree) (path : String) : Except SystemFault FileTree :=
  if isAbsolute path then .error .notFound else createAll root (names path).length (names path)

/-- Write a file, creating it if it is not there. -/
def write (root : FileTree) (path : String) (data : List UInt8) : Except SystemFault FileTree :=
  match resolve root path with
  | .error fault => .error fault
  | .ok place =>
    match place.tree with
    | some (.directory _) => .error .isDirectory
    | _ => .ok (root.putAt (.file data) place.names)

/-- Create a symbolic link. -/
def link (root : FileTree) (path target : String) : Except SystemFault FileTree :=
  match follow root false 40 [] (names path) with
  | .error fault => .error fault
  | .ok place =>
    match place.tree with
    | some _ => .error .alreadyExists
    | none => .ok (root.putAt (.link target) place.names)

/-- The path of the directory that holds what a path names. -/
def parent (path : String) : String :=
  "/".intercalate (names path).dropLast

end Files

end Turnstile
