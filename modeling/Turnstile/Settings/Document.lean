/-
Module: Turnstile.Settings.Document
Purpose: Settings as they are kept in a document.
Main exports: Settings.ofYaml?, Settings.ofText, Settings.ofFile, Settings.load
-/
import Turnstile.Files
import Turnstile.Settings
import Turnstile.Yaml

/-!
A section is a mapping, or nothing at all.  Keys the program does not know are ignored; a key it knows
stands once.  A text setting takes the text of any scalar as it is written, also one that looks like a
number.  A number is written plainly, in decimal or with the sign of base sixteen, eight or two.
-/

namespace Turnstile

namespace Yaml

/-- Nothing at all. -/
def isNothing : Yaml → Bool
  | .scalar text style _ => text.isEmpty && style == .plain
  | _ => false

/-- The text of a scalar. -/
def text? : Yaml → Option String
  | .scalar text _ _ => some text
  | _ => none

/-- The entries of a section, by key.  Every key is a scalar, and a known key stands once. -/
def section? (known : List String) (node : Yaml) : Option (List (String × Yaml)) :=
  match node with
  | .mapping entries =>
    match entries.mapM fun entry => entry.1.text?.map fun key => (key, entry.2) with
    | none => none
    | some pairs =>
      if known.all fun key => (pairs.filter fun pair => pair.1 == key).length ≤ 1 then some pairs else none
  | other => if other.isNothing then some [] else none

/-- An entry of a section, or the default when the key is missing. -/
def entryOr {α : Type} (pairs : List (String × Yaml)) (key : String) (default : α)
    (decode : Yaml → Option α) : Option α :=
  match pairs.lookup key with
  | none => some default
  | some node => decode node

/-- The items of a sequence, or none of nothing at all. -/
def texts? : Yaml → Option (List String)
  | .sequence items => items.mapM text?
  | other => if other.isNothing then some [] else none

/-- The value of digits of a base; none of other characters, and none of no digits. -/
def digits? (base : Nat) (characters : List Char) : Option Nat :=
  if characters.isEmpty then none
  else
    characters.foldlM
      (fun value character =>
        (hexadecimal? [character]).bind fun digit => if digit < base then some (value * base + digit) else none) 0

/-- A number below two to the power sixty-four, if it is one. -/
def word? (value : Option Nat) : Option UInt64 :=
  value.bind fun number => if number < 18446744073709551616 then some (UInt64.ofNat number) else none

/-- The number of a plain text. -/
def number? (characters : List Char) : Option UInt64 :=
  let unsigned := if characters.head? == some '+' then characters.tail else characters
  let decimal : Option UInt64 :=
    let written := if characters.head? == some '+' || characters.head? == some '-' then characters.tail else characters
    let isPadded := 1 < written.length && written.head? == some '0' && written.all Char.isDigit
    if isPadded then none else word? (digits? 10 unsigned)
  match unsigned with
  | '0' :: 'x' :: rest => (word? (digits? 16 rest)).orElse fun _ => decimal
  | '0' :: 'o' :: rest => (word? (digits? 8 rest)).orElse fun _ => decimal
  | '0' :: 'b' :: rest => (word? (digits? 2 rest)).orElse fun _ => decimal
  | _ => decimal

/-- An unsigned number of sixty-four bits. -/
def word64? : Yaml → Option UInt64
  | .scalar text style tag =>
    if style == .plain || (style == .literal && tag == some "tag:yaml.org,2002:int") then number? text.toList
    else none
  | _ => none

end Yaml

namespace Settings

/-- Read an image; both parts have to be there. -/
def imageOfYaml? (node : Yaml) : Option ImageSettings := do
  let pairs ← node.section? ["repository", "tag"]
  let repository ← (pairs.lookup "repository").bind Yaml.text?
  let tag ← (pairs.lookup "tag").bind Yaml.text?
  some { repository, tag }

/-- Read the settings of the runner. -/
def runnerOfYaml? (node : Yaml) : Option RunnerSettings := do
  let default : RunnerSettings := {}
  let pairs ← node.section? ["image", "imagePullSecrets", "cacheMountPath"]
  let image ← Yaml.entryOr pairs "image" default.image imageOfYaml?
  let imagePullSecrets ← Yaml.entryOr pairs "imagePullSecrets" default.imagePullSecrets Yaml.texts?
  let cacheMountPath ← Yaml.entryOr pairs "cacheMountPath" default.cacheMountPath Yaml.text?
  some { image, imagePullSecrets, cacheMountPath }

/-- Read the settings of caches. -/
def cacheOfYaml? (node : Yaml) : Option CacheSettings := do
  let default : CacheSettings := {}
  let pairs ← node.section? ["defaultSize"]
  let defaultSize ← Yaml.entryOr pairs "defaultSize" default.defaultSize Yaml.text?
  some { defaultSize }

/-- Read the delays. -/
def requeueOfYaml? (node : Yaml) : Option RequeueSettings := do
  let default : RequeueSettings := {}
  let pairs ← node.section? ["errorSeconds", "conflictSeconds"]
  let errorSeconds ← Yaml.entryOr pairs "errorSeconds" default.errorSeconds Yaml.word64?
  let conflictSeconds ← Yaml.entryOr pairs "conflictSeconds" default.conflictSeconds Yaml.word64?
  some { errorSeconds, conflictSeconds }

/-- Read settings from the tree of a document. -/
def ofYaml? (node : Yaml) : Option Settings := do
  let pairs ← node.section? ["runner", "cache", "requeue"]
  let runner ← Yaml.entryOr pairs "runner" {} runnerOfYaml?
  let cache ← Yaml.entryOr pairs "cache" {} cacheOfYaml?
  let requeue ← Yaml.entryOr pairs "requeue" {} requeueOfYaml?
  some { runner, cache, requeue }

/-- Why settings cannot be had from a document. -/
inductive LoadFault where
  | unreadable (fault : SystemFault)
  | malformed
  | invalid (fault : Fault)
deriving Repr, DecidableEq

/-- The usable settings of the tree of a document. -/
def ofDocument (node : Yaml) : Except LoadFault Settings :=
  match ofYaml? node with
  | none => .error .malformed
  | some settings =>
    match settings.fault? with
    | some fault => .error (.invalid fault)
    | none => .ok settings

/-- The usable settings of a text. -/
def ofText (text : String) : Except LoadFault Settings :=
  match Yaml.ofText? text with
  | none => .error .malformed
  | some node => ofDocument node

/-- The usable settings of a file. -/
def ofFile (files : FileTree) (path : String) : Except LoadFault Settings :=
  match Files.readText files path with
  | .error fault => .error (.unreadable fault)
  | .ok text => ofText text

/-- The settings to work with: those of the file, or the defaults if it gives none. -/
def load (files : FileTree) (path : String) : Settings :=
  match ofFile files path with
  | .ok settings => settings
  | .error _ => {}

end Settings

end Turnstile
