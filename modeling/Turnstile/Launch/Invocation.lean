/-
Module: Turnstile.Launch.Invocation
Purpose: What the command line of the launcher asks for, and how far it gets before the first request.
Main exports: Invocation, Invocation.read, Invocation.begin, Opening.refused
-/
import Turnstile.CommandLine.Reading
import Turnstile.Launch.Course
import Turnstile.Launch.Packing
import Turnstile.Launch.Provision

/-!
The launcher runs a command against a workspace or creates a workspace.  Before it sends anything it checks
what it is told: the commands that are to be privileged, or the marker of the directory, the command and
the contents of the directory, in this order.
-/

namespace Turnstile

/-- What the launcher is asked for. -/
inductive Invocation where
  /-- Run a command; the namespace and the workspace may be left to the marker. -/
  | launch (namespaceName workspace : Option String) (attaches : Bool) (timeouts : Timeouts)
      (order : Launch.Order)
  /-- Create a workspace and mark a directory for it. -/
  | create (request : NewWorkspace) (path : String)

namespace Invocation

/-- The seconds that an option gives, in milliseconds. -/
def millis (reading : Reading) (long : String) (seconds : Nat) : Nat :=
  reading.numberOr long seconds * 1000

/-- The directory when none is given. -/
def presentDirectory : String := "."

/-- The usage of the launcher. -/
def usage : Usage where
  program := "runq"
  options :=
    [{ long := "namespace", short := some 'n', variableName := some "RUNQ_NAMESPACE",
       summary := "Namespace of the workspace (defaults to the environment marker, then default)" },
     { long := "workspace", short := some 'w', variableName := some "RUNQ_WORKSPACE",
       summary := "Workspace to run against (defaults to the environment marker, then default)" },
     { long := "path", short := some 'p', form := .path, summary := "Configuration directory to upload" },
     { long := "no-tty", form := .flag, summary := "Follow logs instead of attaching, even on a terminal" },
     { long := "timeout-enqueue", form := .number, summary := "Seconds to wait for the run to be queued" },
     { long := "timeout-queue", form := .number, summary := "Seconds to wait at the back of the queue" },
     { long := "timeout-reconcile", form := .number,
       summary := "Seconds to wait for the controller to pick up the run" },
     { long := "timeout-ready", form := .number,
       summary := "Seconds to wait for the pod once the run is attachable" },
     { long := "timeout-handshake", form := .number, summary := "Seconds the pod waits for the handshake" }]
  operands := ["COMMAND"]
  rest := some "ARGS"
  subcommands := ["workspace"]
  topics := [[], ["help"], ["workspace"], ["workspace", "help"], ["workspace", "new"]]
  subcommandFirst := true

/-- The usage of the subcommand for workspaces. -/
def workspaceUsage : Usage where
  program := "runq workspace"
  subcommands := ["new"]
  topics := [[], ["help"], ["new"]]
  versioned := false

/-- The usage of the subcommand for a new workspace. -/
def creationUsage : Usage where
  program := "runq workspace new"
  options :=
    [{ long := "namespace", short := some 'n', variableName := some "RUNQ_NAMESPACE",
       summary := "Namespace to create the workspace in" },
     { long := "path", short := some 'p', form := .path,
       summary := "Configuration directory to write the environment marker into" },
     { long := "size", summary := "Size of the cache volume" },
     { long := "storage-class", variableName := some "RUNQ_STORAGE_CLASS",
       summary := "Storage class of the cache volume (empty disables dynamic provisioning)" },
     { long := "service-account", summary := "ServiceAccount run pods execute as" },
     { long := "secret", summary := "Secret exposed to run pods as environment variables" },
     { long := "privileged-commands", form := .texts,
       summary := "Commands that need approval before they run (comma-separated)" },
     { long := "repository", summary := "Repository the configuration is sourced from" },
     { long := "branch", summary := "Branch the configuration is sourced from" },
     { long := "working-dir", summary := "Path of the configuration within the repository" },
     { long := "timeout-reconcile", form := .number,
       summary := "Seconds to wait for the controller to pick up the workspace" },
     { long := "timeout-ready", form := .number, summary := "Seconds to wait for the workspace to become ready" },
     { long := "no-cleanup", form := .flag, summary := "Keep the workspace when it fails to become ready" }]
  operands := ["NAME"]
  versioned := false

/-- The directory that a reading names. -/
def pathOf (reading : Reading) : String :=
  (reading.value? "path").getD presentDirectory

/-- The deadlines that a reading gives. -/
def timeoutsOf (reading : Reading) : Timeouts where
  enqueue := millis reading "timeout-enqueue" 10
  queue := millis reading "timeout-queue" 3600
  reconcile := millis reading "timeout-reconcile" 10
  ready := millis reading "timeout-ready" 60
  handshake := millis reading "timeout-handshake" 10

/-- The launch that a reading asks for. -/
def ofReading (reading : Reading) : Invocation :=
  .launch (reading.value? "namespace") (reading.value? "workspace") (!reading.has "no-tty")
    (timeoutsOf reading)
    { command := reading.operands.headD "", args := reading.rest, path := pathOf reading }

/-- The creation that a reading asks for. -/
def creationOf (reading : Reading) : Invocation :=
  .create
    { name := reading.operands.headD ""
      namespaceName := (reading.value? "namespace").getD LaunchSettings.defaultName
      cacheSize := reading.value? "size"
      storageClass := reading.value? "storage-class"
      serviceAccount := reading.value? "service-account"
      secret := reading.value? "secret"
      privilegedCommands := reading.valuesOf "privileged-commands"
      repository := reading.value? "repository"
      branch := reading.value? "branch"
      workingDir := reading.value? "working-dir"
      reconcileTimeout := millis reading "timeout-reconcile" 10
      readyTimeout := millis reading "timeout-ready" 60
      cleanup := !reading.has "no-cleanup" }
    (pathOf reading)

/-- Read the words after the subcommand for a new workspace. -/
def readCreation (environment : String → Option String) (words : List String) : Except Stop Invocation := do
  let (reading, _) ← creationUsage.gather {} words
  return creationOf (← creationUsage.finish environment reading)

/-- Read the words after the subcommand for workspaces. -/
def readWorkspace (environment : String → Option String) (words : List String) : Except Stop Invocation := do
  match ← workspaceUsage.gather {} words with
  | (_, some (_, after)) => readCreation environment after
  | (_, none) => throw (.misuse "a subcommand is missing")

/-- Read a command line. -/
def read (environment : String → Option String) (words : List String) : Except Stop Invocation := do
  match ← usage.gather {} words with
  | (_, some (_, after)) => readWorkspace environment after
  | (reading, none) => return ofReading (← usage.finish environment reading)

end Invocation

/-- What is about to be sent. -/
inductive Opening where
  | launch (settings : LaunchSettings) (prepared : Launch.Prepared) (args : List String)
  | create (request : NewWorkspace) (path : String)

namespace Invocation

/-- The first command of a list that there is not. -/
def unsupported? (commands : List String) : Option String :=
  commands.find? fun name => (Command.parse? name).isNone

/-- The directory that an invocation is about. -/
def path : Invocation → String
  | .launch _ _ _ _ order => order.path
  | .create _ path => path

/-- Do everything that comes before the first request.  The directory is found in the files at `folder`, and
`terminal` tells whether there is a terminal to attach to. -/
def begin (files : FileTree) (folder : String) (terminal : Bool) : Invocation → Except LaunchFailure Opening
  | .create request path =>
    match unsupported? request.privilegedCommands with
    | some name => .error (.unsupportedCommand name)
    | none => .ok (.create request path)
  | .launch namespaceName workspace attaches timeouts order =>
    match LaunchSettings.resolve files folder order.path namespaceName workspace with
    | .error fault => .error (.configuration fault)
    | .ok settings =>
      (Launch.prepare Payload.pack { order with path := folder } files).map fun prepared =>
        .launch { settings with interactive := attaches && terminal, timeouts } prepared order.args

end Invocation

namespace Opening

/-- The outcome when the creations that come first fail; a run would go by `name`. -/
def refused (name : String) (error : ApiError) : Opening → Except LaunchFailure Unit
  | .launch .. => Launch.submitted name (.error error) (.error error)
  | .create request _ => .error (Provision.creationRefused request error)

end Opening

end Turnstile
