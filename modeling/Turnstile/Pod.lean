/-
Module: Turnstile.Pod
Purpose: Pods as the program sees them: phase, conditions and container states, with their wire form.
Main exports: Pod, PodStatus, ContainerStatus, Pod.ofJson?, Pod.normalize?, Pod.exitCode?, Pod.state
-/
import Turnstile.Pod.Shape
import Turnstile.Run

/-!
A pod executes a run in its container of a fixed name.  The runner is over when that container reports a
terminated state, whose code is the code of the command.

For a client that wants to connect, a pod is pending, ready, finished, or failed for good.  The phase
decides first; then a waiting state of the runner that will not mend by itself; then the ready condition
of a running pod.
-/

namespace Turnstile

/-- A condition of a pod. -/
structure PodCondition where
  type : String
  status : String
deriving Repr, DecidableEq, Inhabited

/-- Why a container does not run yet. -/
structure Waiting where
  reason : Option String
  message : Option String
deriving Repr, DecidableEq, Inhabited

/-- The state of one container: a waiting state, the exit code of a terminated state, or neither. -/
structure ContainerState where
  waiting : Option Waiting
  terminated : Option Int32
deriving DecidableEq, Inhabited

/-- What is known of one container. -/
structure ContainerStatus where
  name : String
  state : Option ContainerState
deriving DecidableEq, Inhabited

/-- What is known of a pod. -/
structure PodStatus where
  phase : Option String
  conditions : Option (List PodCondition)
  containerStatuses : Option (List ContainerStatus)
deriving DecidableEq, Inhabited

/-- A pod. -/
structure Pod where
  metadata : Metadata
  status : Option PodStatus
deriving Inhabited

namespace Pod

/-- The kind of pods. -/
def kind : String := "Pod"

/-- The name of the pod. -/
def name (pod : Pod) : String :=
  pod.metadata.displayName

/-- Bring a pod to its wire form. -/
def normalize? (json : Json) : Option Json :=
  shape.fit? json

/-- Read the state of a container that has its shape. -/
def stateOfShaped (json : Json) : ContainerState where
  waiting := (json.get? "waiting").map fun waiting =>
    { reason := (waiting.get? "reason").bind Json.text?
      message := (waiting.get? "message").bind Json.text? }
  terminated := (json.get? "terminated").map fun terminated =>
    ((terminated.get? "exitCode").bind exitCodeOfJson?).getD 0

/-- Read the status of a container that has its shape. -/
def containerOfShaped (json : Json) : ContainerStatus where
  name := ((json.get? "name").bind Json.text?).getD ""
  state := (json.get? "state").map stateOfShaped

/-- Read a condition that has its shape. -/
def conditionOfShaped (json : Json) : PodCondition where
  type := ((json.get? "type").bind Json.text?).getD ""
  status := ((json.get? "status").bind Json.text?).getD ""

/-- Read a status that has its shape. -/
def statusOfShaped (json : Json) : PodStatus where
  phase := (json.get? "phase").bind Json.text?
  conditions := ((json.get? "conditions").bind Json.items?).map fun items => items.map conditionOfShaped
  containerStatuses :=
    ((json.get? "containerStatuses").bind Json.items?).map fun items => items.map containerOfShaped

/-- Read a pod that has its shape. -/
def ofShaped (json : Json) : Pod where
  metadata := Metadata.ofShaped ((json.get? "metadata").getD .null)
  status := (json.get? "status").map statusOfShaped

/-- Read a pod from the wire. -/
def ofJson? (json : Json) : Option Pod :=
  (normalize? json).map ofShaped

/-- The first container status of the runner. -/
def runner? (pod : Pod) : Option ContainerStatus := do
  let status ← pod.status
  let containers ← status.containerStatuses
  containers.find? fun container => container.name == Run.containerName

/-- The exit code of the runner, once it has terminated. -/
def exitCode? (pod : Pod) : Option Int32 := do
  let container ← pod.runner?
  let state ← container.state
  state.terminated

/-- The phase of a pod. -/
def phase? (pod : Pod) : Option String :=
  pod.status.bind PodStatus.phase

/-- How a pod looks to a client that wants to connect. -/
inductive State where
  | pending
  | ready
  | finished
  | failed (reason : String)
deriving Repr, DecidableEq

/-- Waiting reasons from which a container does not recover by itself. -/
def fatalWaitingReasons : List String :=
  ["ErrImagePull", "ImagePullBackOff", "CrashLoopBackOff", "CreateContainerConfigError", "InvalidImageName"]

/-- The waiting state of the runner. -/
def runnerWaiting? (pod : Pod) : Option Waiting := do
  let container ← pod.runner?
  let state ← container.state
  state.waiting

/-- What a fatal waiting state says. -/
def fatalWaiting? (waiting : Waiting) : Option String :=
  let reason := waiting.reason.getD ""
  if fatalWaitingReasons.contains reason then some (reason ++ ": " ++ waiting.message.getD "") else none

/-- Some ready condition of the pod holds. -/
def hasReadyCondition (pod : Pod) : Bool :=
  ((pod.status.bind PodStatus.conditions).getD []).any fun condition =>
    condition.type == "Ready" && condition.status == "True"

/-- The pod has ended, well or badly. -/
def isFinished (pod : Pod) : Bool :=
  pod.phase? == some "Succeeded" || pod.phase? == some "Failed"

/-- How the pod looks to a client. -/
def state (pod : Pod) : State :=
  if pod.isFinished then .finished
  else if pod.phase? == some "Unknown" then .failed "pod phase is Unknown"
  else
    match pod.runnerWaiting?.bind fatalWaiting? with
    | some reason => .failed reason
    | none => if pod.phase? == some "Running" && pod.hasReadyCondition then .ready else .pending

end Pod

end Turnstile
