/-
Module: Turnstile.Launch.Monitor
Purpose: The verdict over a submitted run, from the signals of the watchers that follow it.
Main exports: Signal, WorkspaceLookup.signal, Monitor.merge, Monitor.signals, Monitor.wait
-/
import Turnstile.Launch.Watchers

/-!
Four watchers follow a run: one confirms that its workspace exists, and three follow the queue, the run and
the pod.  Each sends at most one signal.  Monitoring succeeds with the last pod reported once both a pod and
the workspace were reported, and fails with the first failure or with its cancellation; what comes after
that changes nothing.  Cancellation stops the watches at once, but an unanswered lookup of the workspace is
waited for.
-/

namespace Turnstile

/-- What a watcher tells the monitor. -/
inductive Signal where
  | podReady (pod : Pod)
  | workspaceExists
  | fatal (failure : LaunchFailure)

/-- The outcome of looking up the workspace, as it counts for the launch. -/
def workspaceConfirmed (name : String) : Except ApiError Workspace → Except LaunchFailure Unit
  | .ok _ => .ok ()
  | .error error => .error (if error.isNotFound then .workspaceNotFound name else .api error)

namespace Monitor

/-- What has been reported so far. -/
structure Reported where
  pod : Option Pod := none
  workspace : Bool := false

/-- What the reports amount to. -/
def Reported.step (reported : Reported) : Step Reported Pod :=
  match reported.pod, reported.workspace with
  | some pod, true => .answer (.ok pod)
  | _, _ => .wait reported

/-- The merge of signals: it waits for a pod and for the workspace. -/
def merge : Watcher Reported Signal Pod where
  start := {}
  expired := fun _ => .error .cancelled
  observe := fun _ reported signal =>
    match signal with
    | .podReady pod => { reported with pod := some pod }.step
    | .workspaceExists => { reported with workspace := true }.step
    | .fatal failure => .answer (.error failure)
  closed := .error (.watchClosed "monitor")
  cancelled := .error .cancelled

/-- What is watched: the answer to the lookup of the workspace with its time, if the workspace is looked
up, and the watches that are followed. -/
structure Scene where
  workspace : Option (Option Nat × Except ApiError Workspace) := none
  queue : Option (Timeline Workspace) := none
  run : Option (Timeline Run) := none
  pod : Option (Timeline Pod) := none

/-- The life of one watcher: when it ends, if it does, and the signal it sends then. -/
structure Life where
  endsAt : Option Nat
  signal : Option Signal

/-- The signal of a failure, which a watcher only sends while monitoring is not cancelled. -/
def failureSignal (cancelAt : Option Nat) (time : Nat) (failure : LaunchFailure) : Option Signal :=
  if comesBy cancelAt (some time) then none else some (.fatal failure)

/-- The life of a watcher that follows a watch. -/
def lifeOfWatch {Object Answer : Type} (cancelAt : Option Nat) (signalOf : Answer → Option Signal) :
    Option (Ending Object Answer) → Life
  | none => ⟨none, none⟩
  | some ending =>
    ⟨some ending.time,
      match ending.answer with
      | .ok answer => signalOf answer
      | .error failure => failureSignal cancelAt ending.time failure⟩

/-- The life of the lookup of the workspace. -/
def lifeOfLookup (cancelAt : Option Nat) (name : String) :
    Option Nat × Except ApiError Workspace → Life
  | (none, _) => ⟨none, none⟩
  | (some time, answer) =>
    ⟨some time,
      match workspaceConfirmed name answer with
      | .ok _ => some .workspaceExists
      | .error failure => failureSignal cancelAt time failure⟩

/-- A watcher that sends nothing when it ends well. -/
def silent (_ : Unit) : Option Signal :=
  none

/-- The lives of the watchers of a run, in the order in which they are started. -/
def lives (settings : LaunchSettings) (run : String) (scene : Scene) (cancelAt : Option Nat) : List Life :=
  let timeouts := settings.timeouts
  (scene.workspace.map (lifeOfLookup cancelAt settings.workspace)).toList ++
  (scene.queue.map fun watch =>
    lifeOfWatch cancelAt silent ((Watcher.forQueue run timeouts.enqueue timeouts.queue).run cancelAt watch)).toList ++
  (scene.run.map fun watch =>
    lifeOfWatch cancelAt silent ((Watcher.forRun timeouts.reconcile timeouts.ready).run cancelAt watch)).toList ++
  (scene.pod.map fun watch =>
    lifeOfWatch cancelAt (fun pod => pod.map .podReady) (Watcher.forPod.run cancelAt watch)).toList

/-- The signal of a life with its time. -/
def Life.timed? (life : Life) : Option (Nat × Except WatchFault Signal) :=
  match life.endsAt, life.signal with
  | some time, some signal => some (time, .ok signal)
  | _, _ => none

/-- The last of the times, if there is none that never comes. -/
def lastOf : List (Option Nat) → Option Nat
  | [] => some 0
  | none :: _ => none
  | some time :: rest => (lastOf rest).map (max time)

/-- The signals of the watchers in the order of their times; of signals at the same time, the watcher that
was started first comes first.  They end when the last watcher has. -/
def signals (lives : List Life) : Timeline Signal where
  events := (lives.filterMap Life.timed?).mergeSort fun first second => first.1 ≤ second.1
  closesAt := lastOf (lives.map Life.endsAt)

/-- The end of waiting: the verdict at its time, but not before the lookup of the workspace has been
answered. -/
def settled (scene : Scene) (verdict : Ending Signal Pod) : Option (Nat × Except LaunchFailure Pod) :=
  match scene.workspace with
  | none => some (verdict.time, verdict.answer)
  | some (none, _) => none
  | some (some answered, _) => some (max verdict.time answered, verdict.answer)

/-- Wait for the verdict: when it is had and what it is; none if that never happens. -/
def wait (settings : LaunchSettings) (run : String) (scene : Scene) (cancelAt : Option Nat) :
    Option (Nat × Except LaunchFailure Pod) :=
  (merge.run cancelAt (signals (lives settings run scene cancelAt))).bind (settled scene)

end Monitor

end Turnstile
