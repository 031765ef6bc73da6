/-
Module: Turnstile.Main
Purpose: The programs: the launcher, and the controller when it is called by that name.
Main exports: main
-/
import Turnstile.Definition
import Turnstile.Launch.Invocation
import Turnstile.Launch.RunName
import Turnstile.Reconcile.Service
import Turnstile.Settings.Document
import Turnstile.Yaml.Written

/-!
The programs read the command line, the environment and the files that they are told of, and leave the rest
to the definitions of the library.  No connection to an API server is opened here, so every request is left
unanswered: the launcher ends when its first request would be sent, and the controller waits.
-/

namespace Turnstile.Front

/-- The variables that can stand in for options. -/
def environmentFor (usages : List Usage) : IO (String → Option String) := do
  let names := usages.flatMap fun usage => usage.options.filterMap OptionRule.variableName
  let mut values : List (String × String) := []
  for name in names do
    if let some value ← IO.getEnv name then values := (name, value) :: values
  return fun name => values.lookup name

/-- The place that a link leads to in the end, or nothing if it leads nowhere. -/
def targetOf (link : String) : IO String := do
  try
    return (← IO.FS.realPath link).toString
  catch _ => return ""

/-- The contents of a directory, or none if there is no such directory.  A link in it is kept as a link to
the place that it leads to in the end. -/
partial def tree? (path : String) : IO (Option FileTree) := do
  let directory := (← IO.currentDir) / path
  if !(← directory.isDir) then return none
  let mut entries : List (String × FileTree) := []
  for entry in ← directory.readDir do
    let place := directory / entry.fileName
    let held ← do
      match (← place.symlinkMetadata).type with
      | .symlink => pure (.link (← targetOf place.toString))
      | .dir => pure ((← tree? (path ++ "/" ++ entry.fileName)).getD (.directory []))
      | _ => pure (.file (← IO.FS.readBinFile place).toList)
    entries := (entry.fileName, held) :: entries
  return some (.directory entries)

/-- Tell why there is nothing to do. -/
def stopped (name : String) : Stop → IO UInt32
  | .help text => do
    IO.println text
    return 0
  | .version => do
    IO.println (name ++ " " ++ Service.version)
    return 0
  | .misuse problem => do
    IO.eprintln ("error: " ++ problem)
    return 2

/-- Do what an invocation asks for, up to the first request. -/
def launched (invocation : Invocation) : IO (Except LaunchFailure Unit) := do
  let terminal ← (← IO.getStdin).isTty
  let name := RunName.ofNumber (← IO.rand 0 (RunName.count - 1))
  let begun ← do
    match ← tree? invocation.path with
    | some tree => pure (invocation.begin tree "" terminal)
    | none => pure (invocation.begin (.directory []) "absent" terminal)
  return begun.bind (Opening.refused name .unanswered)

/-- The launcher. -/
def launcher (arguments : List String) : IO UInt32 := do
  let environment ← environmentFor [Invocation.usage, Invocation.creationUsage]
  match Invocation.read environment arguments with
  | .error stop => stopped Invocation.usage.program stop
  | .ok invocation =>
    let outcome ← launched invocation
    if let .error failure := outcome then IO.eprintln failure.message
    return UInt32.ofNat (Launch.processStatus outcome)

/-- The settings of the controller in a file, or the defaults if it gives none. -/
def settingsOf (path : String) : IO Settings := do
  try
    let data ← IO.FS.readBinFile path
    return Settings.load (.directory [("config", .file data.toList)]) "config"
  catch _ => return {}

/-- Wait until the process is stopped from outside. -/
partial def wait : IO Unit := do
  IO.sleep 1000
  wait

/-- The controller. -/
def controller (arguments : List String) : IO UInt32 := do
  let environment ← environmentFor [Service.usage]
  match Service.read environment arguments with
  | .error stop => stopped Service.usage.program stop
  | .ok .definitions =>
    IO.print ("---\n".intercalate (Definition.all.map fun definition => Yaml.written definition.toJson))
    return 0
  | .ok (.run namespaceName path address) =>
    let settings ← settingsOf path
    IO.println ("Starting runq controllers in namespace: " ++ namespaceName)
    if let some fault := settings.fault? then IO.eprintln fault.message
    if Service.isAddress address then
      wait
      return 0
    else
      IO.eprintln ("no address of this machine: " ++ address)
      return 1

end Turnstile.Front

/-- Run the program that goes by the name of the executable. -/
def main (arguments : List String) : IO UInt32 := do
  let name := (← IO.appPath).fileName.getD ""
  if name == Turnstile.Service.usage.program then Turnstile.Front.controller arguments
  else Turnstile.Front.launcher arguments
