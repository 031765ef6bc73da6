/-
Module: Turnstile.Launch.Watchers
Purpose: What a launch waits for: the queue, the run, the pod, the exit code, and a new workspace.
Main exports: Watcher.forQueue, Watcher.forRun, Watcher.forPod, Watcher.forExitCode, Watcher.forReadiness
-/
import Turnstile.Launch.Settings
import Turnstile.Pod
import Turnstile.Watch
import Turnstile.Workspace

/-!
Each watcher has the deadlines of one phase.  A run has to show up in the queue, and then to reach its
head; the controller has to stamp some condition on a run, and its pod has to be ready once the run is
attachable; a new workspace has to be acknowledged, and to become ready.  Deadlines of the second phase
count from the first sight of it and never move again; only the readiness of a workspace counts from the
start.
-/

namespace Turnstile.Watcher

/-- The answer of a watcher that is no longer wanted. -/
def quiet : Except LaunchFailure Unit :=
  .ok ()

/-- Follow the place of a run in the queue until it is at the head.  The state is when the run was first
seen in the queue. -/
def forQueue (run : String) (enqueue queue : Nat) : Watcher (Option Nat) Workspace Unit where
  start := none
  deadline := fun seen => some (match seen with | none => enqueue | some since => since + queue)
  expired := fun seen =>
    match seen with
    | none => .error (.enqueueTimeout (.ofMillis enqueue))
    | some _ => .error (.queueTimeout (.ofMillis queue))
  observe := fun now seen workspace =>
    match workspace.queuePosition? run with
    | none => .wait seen
    | some 0 => .answer (.ok ())
    | some _ => .wait (some (seen.getD now))
  closed := .error (.watchClosed "workspace queue")
  cancelled := quiet

/-- What is known of a run: whether the controller has stamped any condition on it, and when it was first
seen to be attachable. -/
structure RunSeen where
  acknowledged : Bool := false
  attachableSince : Option Nat := none
deriving Repr, DecidableEq, Inhabited

/-- The failure of a run that is over without having executed. -/
def endedUnexecuted? (run : Run) : Option LaunchFailure :=
  match Condition.find? run.conditions Run.completed with
  | none => none
  | some condition =>
    if condition.isTrue && Run.isFailureReason condition.reasonText then
      some (.runFailed condition.reasonText condition.messageText)
    else none

/-- What is known of a run once it was seen again at time `now`. -/
def RunSeen.again (seen : RunSeen) (now : Nat) (run : Run) : RunSeen where
  acknowledged := seen.acknowledged || !run.conditions.isEmpty
  attachableSince :=
    match seen.attachableSince with
    | some since => some since
    | none => if run.isAttachable then some now else none

/-- Follow the conditions of a run; it only ends well by being cancelled. -/
def forRun (reconcile ready : Nat) : Watcher RunSeen Run Unit where
  start := {}
  deadline := fun seen =>
    if seen.acknowledged then seen.attachableSince.map (· + ready) else some reconcile
  expired := fun seen =>
    .error (if seen.acknowledged then .readyTimeout (.ofMillis ready)
      else .reconcileTimeout (.ofMillis reconcile))
  observe := fun now seen run =>
    match endedUnexecuted? run with
    | some failure => .answer (.error failure)
    | none => .wait (seen.again now run)
  closed := .error (.watchClosed "run")
  cancelled := quiet

/-- Wait for a pod that can be connected to, or has finished; the answer is none when cancelled. -/
def forPod : Watcher Unit Pod (Option Pod) where
  start := ()
  expired := fun _ => .ok none
  observe := fun _ _ pod =>
    match pod.state with
    | .pending => .wait ()
    | .ready => .answer (.ok (some pod))
    | .finished => .answer (.ok (some pod))
    | .failed reason => .answer (.error (.podFailed pod.name reason))
  closed := .error (.watchClosed "pod")
  cancelled := .ok none

/-- The outcome of a command that ended with this code. -/
def exitOutcome (code : Int32) : Except LaunchFailure Unit :=
  if code = 0 then .ok () else .error (.exitCode code)

/-- Wait for the end of the runner and pass on its exit code. -/
def forExitCode : Watcher Unit Pod Unit where
  start := ()
  expired := fun _ => quiet
  observe := fun _ _ pod =>
    match pod.exitCode? with
    | none => .wait ()
    | some code => .answer (exitOutcome code)
  closed := .error (.watchClosed "exit code")
  cancelled := quiet

/-- What the conditions of a new workspace decide: unhealthy fails, ready succeeds. -/
def readiness? (workspace : Workspace) : Option (Except LaunchFailure Unit) :=
  if Condition.isFalseFor workspace.conditions Workspace.healthy then
    let message := ((Condition.find? workspace.conditions Workspace.healthy).map Condition.messageText).getD ""
    some (.error (.workspaceUnhealthy workspace.name message))
  else if Condition.isTrueFor workspace.conditions Workspace.ready then some (.ok ())
  else none

/-- Follow a new workspace until it is ready.  The state is whether any condition was seen. -/
def forReadiness (reconcile ready : Nat) : Watcher Bool Workspace Unit where
  start := false
  deadline := fun acknowledged => some (if acknowledged then ready else min reconcile ready)
  expired := fun acknowledged =>
    .error (if acknowledged then .workspaceReadyTimeout (.ofMillis ready)
      else .reconcileTimeout (.ofMillis reconcile))
  observe := fun _ acknowledged workspace =>
    match readiness? workspace with
    | some given => .answer given
    | none => .wait (acknowledged || !workspace.conditions.isEmpty)
  closed := .error (.watchClosed "workspace")
  cancelled := .error .cancelled

end Turnstile.Watcher
