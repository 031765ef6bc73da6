/-
Module: Turnstile.Run
Purpose: Runs, that is single commands queued against a workspace, with their wire form.
Main exports: Run, RunSpec, RunStatus, Run.isCompleted, Run.isAttachable, Run.workspaceName?, Run.isFailureReason
-/
import Turnstile.Command
import Turnstile.Condition
import Turnstile.Metadata

/-!
A run asks for a command with arguments and names the payload to unpack first.  Its status tells three
things: whether it may be attached to, whether it is over and why, and whether a client has attached.  The
label of a run names its workspace; an empty label names none.
-/

namespace Turnstile

/-- What a run asks for. -/
structure RunSpec where
  command : Command
  args : List String
  configMap : String
  configMapKey : String
  handshake : Bool
  handshakeTimeoutSeconds : UInt64
deriving DecidableEq, Inhabited

/-- What is known of a run. -/
structure RunStatus where
  conditions : List Condition := []
  exitCode : Option Int32 := none
  podName : Option String := none
deriving DecidableEq, Inhabited

/-- A run. -/
structure Run where
  metadata : Metadata
  spec : RunSpec
  status : Option RunStatus
deriving Inhabited

namespace Run

/-- The kind of runs. -/
def kind : String := "Run"

/-- The label that names the workspace of a run. -/
def workspaceLabel : String := "runq.dev/workspace"

/-- The label that names the run of a pod. -/
def runLabel : String := "runq.dev/run"

/-- The annotation that a client sets once it has attached. -/
def clientAnnotation : String := "runq.dev/client"

/-- The value of that annotation. -/
def clientReadyText : String := "Ready"

/-- The container that executes the command. -/
def containerName : String := "runner"

/-- The line by which pod and client find each other. -/
def handshakeToken : String := "runq-handshake-3f1c"

/-- The key of the payload, unless the run names another. -/
def defaultConfigMapKey : String := "config.tar.gz"

/-- The condition of a run that is over. -/
def completed : String := "Completed"

/-- The condition of a run that a client may connect to. -/
def attachable : String := "Attachable"

/-- The condition of a run whose client has attached. -/
def clientReady : String := "ClientReady"

/-- Why a run is in the state it is in. -/
inductive Reason where
  | unscheduled
  | queued
  | frontOfQueue
  | clientAttached
  | workspaceUnspecified
  | workspaceNotFound
  | workspaceUnhealthy
  | unapproved
  | podSucceeded
  | podFailed
  | podDeleted
  | runCompleted
deriving Repr, DecidableEq

/-- The word for a reason. -/
def Reason.word : Reason → String
  | .unscheduled => "Unscheduled"
  | .queued => "Queued"
  | .frontOfQueue => "FrontOfQueue"
  | .clientAttached => "ClientAttached"
  | .workspaceUnspecified => "WorkspaceUnspecified"
  | .workspaceNotFound => "WorkspaceNotFound"
  | .workspaceUnhealthy => "WorkspaceUnhealthy"
  | .unapproved => "Unapproved"
  | .podSucceeded => "PodSucceeded"
  | .podFailed => "PodFailed"
  | .podDeleted => "PodDeleted"
  | .runCompleted => "Completed"

/-- The reasons for which a run ends without its command having run to its end. -/
def failureReasons : List Reason :=
  [.workspaceUnspecified, .workspaceNotFound, .workspaceUnhealthy, .unapproved, .podDeleted]

/-- A word that says why a run never executed and never will. -/
def isFailureReason (word : String) : Bool :=
  (failureReasons.map Reason.word).contains word

/-- The name of the run. -/
def name (run : Run) : String :=
  run.metadata.displayName

/-- The conditions of the run, none while it has no status. -/
def conditions (run : Run) : List Condition :=
  (run.status.map RunStatus.conditions).getD []

/-- The run is over. -/
def isCompleted (run : Run) : Bool :=
  Condition.isTrueFor run.conditions completed

/-- A client may connect to the run. -/
def isAttachable (run : Run) : Bool :=
  Condition.isTrueFor run.conditions attachable

/-- The workspace the run is labelled for. -/
def workspaceName? (run : Run) : Option String :=
  (run.metadata.label? workspaceLabel).filter fun name => !name.isEmpty

/-- The run carries the mark of an attached client. -/
def hasClient (run : Run) : Bool :=
  run.metadata.annotation? clientAnnotation == some clientReadyText

/-- A reference to the run as controller of its dependents. -/
def controllerReference? (run : Run) : Option OwnerReference :=
  run.metadata.controllerReference? apiVersion kind

end Run

namespace RunSpec

/-- The wire form of what a run asks for; every field is written. -/
def toJson (spec : RunSpec) : Json :=
  .object
    [("command", spec.command.toJson),
     ("args", .texts spec.args),
     ("configMap", .string spec.configMap),
     ("configMapKey", .string spec.configMapKey),
     ("handshake", .bool spec.handshake),
     ("handshakeTimeoutSeconds", .integer spec.handshakeTimeoutSeconds.toNat)]

/-- An unsigned number of sixty-four bits. -/
def word64? (json : Json) : Option UInt64 :=
  (json.intBetween? 0 18446744073709551615).map fun value => UInt64.ofNat value.toNat

/-- Read what a run asks for; command and payload have to be named. -/
def ofJson? (json : Json) : Option RunSpec := do
  let record ← json.record? 3 6
  let command ← record.required? 0 "command" Command.ofJson?
  let args ← record.withDefault? 1 "args" [] Json.texts?
  let configMap ← record.required? 2 "configMap" Json.text?
  let configMapKey ← record.withDefault? 3 "configMapKey" Run.defaultConfigMapKey Json.text?
  let handshake ← record.withDefault? 4 "handshake" false Json.bool?
  let handshakeTimeoutSeconds ← record.withDefault? 5 "handshakeTimeoutSeconds" 10 word64?
  some { command, args, configMap, configMapKey, handshake, handshakeTimeoutSeconds }

end RunSpec

/-- A signed number of thirty-two bits on the wire. -/
def exitCodeOfJson? (json : Json) : Option Int32 :=
  (json.intBetween? (-2147483648) 2147483647).map Int32.ofInt

namespace RunStatus

/-- The wire form of a status; an exit code or pod name that is unset is left out. -/
def toJson (status : RunStatus) : Json :=
  .compact
    [("conditions", some (Condition.listToJson status.conditions)),
     ("exitCode", status.exitCode.map fun code => .integer code.toInt),
     ("podName", status.podName.map .string)]

/-- Read a status. -/
def ofJson? (json : Json) : Option RunStatus := do
  let record ← json.record? 0 3
  let conditions ← record.withDefault? 0 "conditions" [] (Json.list? Condition.ofJson?)
  let exitCode ← record.optional? 1 "exitCode" exitCodeOfJson?
  let podName ← record.optional? 2 "podName" Json.text?
  some { conditions, exitCode, podName }

end RunStatus

namespace Run

/-- The wire form of a run. -/
def toJson (run : Run) : Json :=
  .compact
    [("apiVersion", some (.string apiVersion)),
     ("kind", some (.string kind)),
     ("metadata", some run.metadata.toJson),
     ("spec", some run.spec.toJson),
     ("status", run.status.map RunStatus.toJson)]

/-- Read a run. -/
def ofJson? (json : Json) : Option Run := do
  let record ← json.record? 3 3
  let metadata ← record.required? 0 "metadata" Metadata.ofJson?
  let spec ← record.required? 1 "spec" RunSpec.ofJson?
  let status ← record.optional? 2 "status" RunStatus.ofJson?
  some { metadata, spec, status }

end Run

end Turnstile
