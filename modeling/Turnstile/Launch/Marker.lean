/-
Module: Turnstile.Launch.Marker
Purpose: The marker of a directory, which names the namespace and the workspace that it belongs to.
Main exports: Marker, Marker.parse, Marker.read, Marker.record, Marker.write, LaunchSettings.resolve
-/
import Turnstile.Files.Disk
import Turnstile.Launch.Failure
import Turnstile.Launch.Settings
import Turnstile.Text.Blank

/-!
The marker is one line: the namespace, a slash, and the workspace.  White space around it does not count;
neither part is empty, and there is no second slash.  What a user asks for wins over the marker, which wins
over the defaults.
-/

namespace Turnstile

/-- The namespace and workspace of a directory. -/
structure Marker where
  namespaceName : String
  workspace : String
deriving Repr, DecidableEq, Inhabited

namespace Marker

/-- Where the marker is kept, below the directory. -/
def path : String := ".runq/environment"

/-- The directory of the marker. -/
def directory : String := ".runq"

/-- The two parts of a text without white space at its ends. -/
def split? (characters : List Char) : Option (List Char × List Char) :=
  let namespacePart := characters.takeWhile (· != '/')
  match characters.dropWhile (· != '/') with
  | [] => none
  | _ :: workspacePart =>
    if namespacePart.isEmpty || workspacePart.isEmpty || workspacePart.contains '/' then none
    else some (namespacePart, workspacePart)

/-- What is said of a text that is no marker. -/
def expected (trimmed : List Char) : String :=
  "expected 'namespace/workspace', got '" ++ String.ofList trimmed ++ "'"

/-- Read a marker. -/
def parse (contents : String) : Except ConfigurationFault Marker :=
  let trimmed := Blank.trimmed contents.toList
  match split? trimmed with
  | some (namespacePart, workspacePart) =>
    .ok ⟨String.ofList namespacePart, String.ofList workspacePart⟩
  | none => .error (.ofMessage (expected trimmed))

/-- The text of a marker. -/
def text (marker : Marker) : String :=
  marker.namespaceName ++ "/" ++ marker.workspace ++ "\n"

/-- The path of something below a directory, as it is shown. -/
def shown (directory below : String) : String :=
  if directory.endsWith "/" then directory ++ below else directory ++ "/" ++ below

/-- The path of something below a directory of the tree. -/
def within (directory below : String) : String :=
  if directory.isEmpty then below else directory ++ "/" ++ below

/-- Read the marker of a directory, which is shown by `name`.  A marker that is not there is none. -/
def read (files : FileTree) (folder name : String) : Except ConfigurationFault (Option Marker) :=
  let place := within folder path
  let label := shown name path
  if Files.exists? files place then
    match Files.readText files place with
    | .error fault => .error { contexts := ["Failed to read " ++ label], cause := .inr fault }
    | .ok contents =>
      match parse contents with
      | .error fault => .error (fault.within ("Invalid environment file " ++ label))
      | .ok marker => .ok (some marker)
  else .ok none

/-- Write the marker of a directory, which is shown by `name`, over any that is there: how that ends, and the tree
that is left. -/
def record (disk : Disk) (files : FileTree) (folder name : String) (marker : Marker) :
    Except ConfigurationFault Unit × FileTree :=
  match disk.createDirectories files (within folder directory) with
  | (.error fault, left) =>
    (.error { contexts := ["Failed to create " ++ shown name directory], cause := .inr fault }, left)
  | (.ok _, made) =>
    match disk.write made (within folder path) marker.text.toUTF8.toList with
    | (.error fault, left) =>
      (.error { contexts := ["Failed to write " ++ shown name path], cause := .inr fault }, left)
    | (.ok _, written) => (.ok (), written)

/-- Write the marker of a directory on a disk that refuses nothing. -/
def write (files : FileTree) (folder name : String) (marker : Marker) : Except ConfigurationFault FileTree :=
  let (outcome, left) := record {} files folder name marker
  outcome.map fun _ => left

end Marker

namespace LaunchSettings

/-- The namespace and the workspace when nothing else names them. -/
def defaultName : String := "default"

/-- The settings for what a user asked for and the marker of the directory. -/
def ofMarker (namespaceName workspace : Option String) (marker : Option Marker) : LaunchSettings where
  namespaceName := (namespaceName.orElse fun _ => marker.map Marker.namespaceName).getD defaultName
  workspace := (workspace.orElse fun _ => marker.map Marker.workspace).getD defaultName

/-- The settings for what a user asked for in a directory, which is shown by `name`. -/
def resolve (files : FileTree) (folder name : String) (namespaceName workspace : Option String) :
    Except ConfigurationFault LaunchSettings :=
  (Marker.read files folder name).map (ofMarker namespaceName workspace)

end LaunchSettings

end Turnstile
