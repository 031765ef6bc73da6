/-
Module: Turnstile.Proofs.Launch.Channel
Purpose: The four watchers of a launch and the merge of their signals, step by step, over a bounded channel.
Main exports: Watcher.Moves, Monitor.Duty, Monitor.Stage, Monitor.Moment, Monitor.Goes, Monitor.Reachable,
  Monitor.Sound, Monitor.sound_of_reachable, Monitor.Uncongested, Monitor.Sound.uncongested
-/
import Mathlib.Data.List.Nodup
import Mathlib.Data.List.Perm.Subperm
import Mathlib.Logic.Function.Basic
import Mathlib.Logic.Relation
import Turnstile.Proofs.Launch.Verdict

/-!
Each watcher is a task of its own, and so is the merge; the tasks take their steps in any order.  A watcher that waits
for several things may go on with any of them that has come.  It sends its signal itself, if it has one to send, and
returns; a failure that it returns is sent on, unless the launch is cancelled by then.  A send waits while the channel
is full.  A poll of the merge is one step, and no other task comes between its looks: it looks for a cancellation
first, then for a signal, and takes an empty channel for closed when no watcher is left that could send.

Two facts carry the rest.  Whoever has not sent by now stands where it still may, and whoever has sent does not come
there again.  And the watcher of the run, as long as nobody is cancelled, does not end without having sent a failure.
-/

namespace Turnstile

/-- What a watcher may make of the next thing that comes, whatever comes first.  It sees its cancellation only once it
is cancelled. -/
inductive Watcher.Moves {State Object Answer : Type} (watcher : Watcher State Object Answer) (cancelled : Bool)
    (state : State) : Step State Answer → Prop where
  | observes (now : Nat) (object : Object) : Moves watcher cancelled state (watcher.observe now state object)
  | fails (fault : WatchFault) : Moves watcher cancelled state (.answer (.error (.watch fault)))
  | closes : Moves watcher cancelled state (.answer watcher.closed)
  | expires {limit : Nat} (due : watcher.deadline state = some limit) :
      Moves watcher cancelled state (.answer (watcher.expired state))
  | obeys (isCancelled : cancelled = true) : Moves watcher cancelled state (.answer watcher.cancelled)

namespace Monitor

/-! ### The watchers -/

/-- What the watchers of a launch are there for. -/
inductive Duty where
  | workspace
  | queue
  | run
  | pod
deriving DecidableEq

/-- All duties, in the order in which the watchers are started. -/
def Duty.all : List Duty :=
  [.workspace, .queue, .run, .pod]

theorem Duty.mem_all (duty : Duty) : duty ∈ Duty.all := by
  cases duty <;> simp [Duty.all]

/-- What a watcher knows while it watches. -/
@[reducible] def Duty.Memory : Duty → Type
  | .workspace => Unit
  | .queue => Option Nat
  | .run => Watcher.RunSeen
  | .pod => Unit

/-- What a watcher knows at the start. -/
def Duty.start : (duty : Duty) → duty.Memory
  | .workspace => ()
  | .queue => none
  | .run => {}
  | .pod => ()

/-- Where the task of a watcher stands. -/
inductive Stage (Memory : Type) where
  /-- It waits for what it watches. -/
  | watching (memory : Memory)
  /-- It is about to send its signal, and returns after that. -/
  | telling (signal : Signal)
  /-- It has returned. -/
  | returned (result : Except LaunchFailure Unit)
  /-- The failure that it returned is about to be sent on. -/
  | reporting (failure : LaunchFailure)
  /-- It is over, and sends nothing any more. -/
  | ended

/-- Where a watcher stands that has its answer. -/
def Stage.answered {Memory Answer : Type} (signalOf : Answer → Option Signal) :
    Except LaunchFailure Answer → Stage Memory
  | .ok answer =>
      match signalOf answer with
      | some signal => .telling signal
      | none => .returned (.ok ())
  | .error failure => .returned (.error failure)

/-- Where a watcher stands that goes on, or has its answer. -/
def Stage.after {Memory Answer : Type} (signalOf : Answer → Option Signal) : Step Memory Answer → Stage Memory
  | .wait memory => .watching memory
  | .answer given => .answered signalOf given

/-- The signal of a workspace that was found. -/
def confirmed (_ : Unit) : Option Signal :=
  some .workspaceExists

/-- The signal of a pod that is ready. -/
def readied (pod : Option Pod) : Option Signal :=
  pod.map .podReady

/-- How a watcher gets on with what it watches.  The lookup of the workspace may be answered by anything, and heeds no
cancellation. -/
def Watches (settings : LaunchSettings) (run : String) (cancelled : Bool) :
    (duty : Duty) → duty.Memory → Stage duty.Memory → Prop
  | .workspace, _, stage =>
      ∃ lookup : Except ApiError Workspace,
        stage = .answered confirmed (workspaceConfirmed settings.workspace lookup)
  | .queue, seen, stage =>
      ∃ step, (Watcher.forQueue run settings.timeouts.enqueue settings.timeouts.queue).Moves cancelled seen step ∧
        stage = .after silent step
  | .run, seen, stage =>
      ∃ step, (Watcher.forRun settings.timeouts.reconcile settings.timeouts.ready).Moves cancelled seen step ∧
        stage = .after silent step
  | .pod, seen, stage => ∃ step, Watcher.forPod.Moves cancelled seen step ∧ stage = .after readied step

/-! ### Monitoring -/

/-- How many signals the channel holds. -/
def signalBuffer : Nat := 8

/-- What has become of the merge, and of the wait for the watchers after it. -/
inductive Course where
  | merging (reported : Reported)
  | judged (answer : Except LaunchFailure Pod)
  | joining (answer : Except LaunchFailure Pod)
  | returned (answer : Except LaunchFailure Pod)

/-- Where the merge stands that goes on, or has its answer. -/
def Course.after : Step Reported Pod → Course
  | .wait reported => .merging reported
  | .answer given => .judged given

/-- A moment of monitoring: where the tasks stand, the signals in the channel and all that were ever sent, and whether
the watchers are cancelled. -/
structure Moment where
  stage : (duty : Duty) → Stage duty.Memory := fun duty => .watching duty.start
  channel : List Signal := []
  sent : List (Duty × Signal) := []
  cancelled : Bool := false
  course : Course := .merging {}

namespace Moment

/-- A watcher comes to stand somewhere else. -/
def put (moment : Moment) (duty : Duty) (stage : Stage duty.Memory) : Moment :=
  { moment with stage := Function.update moment.stage duty stage }

/-- A watcher sends a signal. -/
def send (moment : Moment) (duty : Duty) (signal : Signal) : Moment :=
  { moment with channel := moment.channel ++ [signal], sent := moment.sent ++ [(duty, signal)] }

/-- No watcher is left that could send. -/
def Closed (moment : Moment) : Prop :=
  ∀ duty, moment.stage duty = .ended

section Fields

variable (moment : Moment) (duty : Duty) (stage : Stage duty.Memory) (signal : Signal)

@[simp] theorem put_channel : (moment.put duty stage).channel = moment.channel := rfl
@[simp] theorem put_sent : (moment.put duty stage).sent = moment.sent := rfl
@[simp] theorem put_cancelled : (moment.put duty stage).cancelled = moment.cancelled := rfl
@[simp] theorem put_course : (moment.put duty stage).course = moment.course := rfl
@[simp] theorem send_stage : (moment.send duty signal).stage = moment.stage := rfl
@[simp] theorem send_channel : (moment.send duty signal).channel = moment.channel ++ [signal] := rfl
@[simp] theorem send_sent : (moment.send duty signal).sent = moment.sent ++ [(duty, signal)] := rfl
@[simp] theorem send_cancelled : (moment.send duty signal).cancelled = moment.cancelled := rfl
@[simp] theorem send_course : (moment.send duty signal).course = moment.course := rfl

@[simp] theorem put_stage_self : (moment.put duty stage).stage duty = stage :=
  Function.update_self _ _ _

theorem put_stage_of_ne {other : Duty} (differs : other ≠ duty) :
    (moment.put duty stage).stage other = moment.stage other :=
  Function.update_of_ne differs _ _

end Fields

end Moment

/-- How monitoring goes on. -/
inductive Goes (settings : LaunchSettings) (run : String) : Moment → Moment → Prop where
  /-- A watcher gets on with what it watches. -/
  | watch {moment : Moment} {duty : Duty} {memory : duty.Memory} {stage : Stage duty.Memory}
      (stands : moment.stage duty = .watching memory)
      (watches : Watches settings run moment.cancelled duty memory stage) :
      Goes settings run moment (moment.put duty stage)
  /-- A watcher sends its signal. -/
  | tell {moment : Moment} {duty : Duty} {signal : Signal} (stands : moment.stage duty = .telling signal)
      (room : moment.channel.length < signalBuffer) :
      Goes settings run moment ((moment.send duty signal).put duty (.returned (.ok ())))
  /-- The task of a watcher that ended well is over. -/
  | finish {moment : Moment} {duty : Duty} (stands : moment.stage duty = .returned (.ok ())) :
      Goes settings run moment (moment.put duty .ended)
  /-- The task of a watcher that failed looks whether it is cancelled. -/
  | hush {moment : Moment} {duty : Duty} {failure : LaunchFailure}
      (stands : moment.stage duty = .returned (.error failure)) (isCancelled : moment.cancelled = true) :
      Goes settings run moment (moment.put duty .ended)
  | raise {moment : Moment} {duty : Duty} {failure : LaunchFailure}
      (stands : moment.stage duty = .returned (.error failure)) (uncancelled : moment.cancelled = false) :
      Goes settings run moment (moment.put duty (.reporting failure))
  /-- The failure of a watcher is sent on. -/
  | report {moment : Moment} {duty : Duty} {failure : LaunchFailure} (stands : moment.stage duty = .reporting failure)
      (room : moment.channel.length < signalBuffer) :
      Goes settings run moment ((moment.send duty (.fatal failure)).put duty .ended)
  /-- The launch is cancelled, and with it the watchers. -/
  | cancel {moment : Moment} : Goes settings run moment { moment with cancelled := true }
  /-- The merge sees the cancellation. -/
  | abandon {moment : Moment} {reported : Reported} (merges : moment.course = .merging reported)
      (isCancelled : moment.cancelled = true) :
      Goes settings run moment { moment with course := .judged merge.cancelled }
  /-- The merge receives a signal. -/
  | receive {moment : Moment} {reported : Reported} {signal : Signal} {rest : List Signal}
      (merges : moment.course = .merging reported) (uncancelled : moment.cancelled = false)
      (first : moment.channel = signal :: rest) :
      Goes settings run moment
        { moment with channel := rest, course := .after (merge.observe 0 reported signal) }
  /-- The merge sees that the channel is closed. -/
  | close {moment : Moment} {reported : Reported} (merges : moment.course = .merging reported)
      (uncancelled : moment.cancelled = false) (empty : moment.channel = []) (closed : moment.Closed) :
      Goes settings run moment { moment with course := .judged merge.closed }
  /-- With the verdict the watchers are cancelled. -/
  | stop {moment : Moment} {answer : Except LaunchFailure Pod} (judged : moment.course = .judged answer) :
      Goes settings run moment { moment with cancelled := true, course := .joining answer }
  /-- The verdict is returned when every watcher is over. -/
  | join {moment : Moment} {answer : Except LaunchFailure Pod} (joins : moment.course = .joining answer)
      (closed : moment.Closed) : Goes settings run moment { moment with course := .returned answer }

/-- One moment comes after another. -/
def Comes (settings : LaunchSettings) (run : String) : Moment → Moment → Prop :=
  Relation.ReflTransGen (Goes settings run)

/-- A moment of the monitoring of a launch. -/
def Reachable (settings : LaunchSettings) (run : String) : Moment → Prop :=
  Comes settings run {}

/-! ### What is known at every moment -/

/-- The failure of a merge whose channel is closed. -/
def deserted : LaunchFailure :=
  .watchClosed "monitor"

namespace Stage

variable {Memory : Type}

/-- A watcher that stands here has not sent its signal yet. -/
def Unsent : Stage Memory → Prop
  | .watching _ => True
  | .telling _ => True
  | .returned (.ok _) => False
  | .returned (.error _) => True
  | .reporting _ => True
  | .ended => False

/-- A watcher that stands here is about to send. -/
def Sending : Stage Memory → Prop
  | .telling _ => True
  | .reporting _ => True
  | _ => False

/-- No watcher takes its own failure for that of the merge. -/
def Honest : Stage Memory → Prop
  | .telling signal => signal ≠ .fatal deserted
  | .returned result => result ≠ .error deserted
  | .reporting failure => failure ≠ deserted
  | _ => True

/-- The watcher of the run only ends well by being cancelled, and without being cancelled it ends with a failure. -/
def Lasting (sent : List (Duty × Signal)) (cancelled : Bool) : Stage Memory → Prop
  | .telling _ => False
  | .returned (.ok _) => cancelled = true
  | .ended => cancelled = true ∨ ∃ failure, (.run, .fatal failure) ∈ sent
  | _ => True

theorem Sending.unsent {stage : Stage Memory} (sending : stage.Sending) : stage.Unsent := by
  cases stage with
  | telling signal => trivial
  | reporting failure => trivial
  | watching memory => trivial
  | returned result => cases sending
  | ended => cases sending

theorem Lasting.weaken {sent more : List (Duty × Signal)} {cancelled later : Bool} {stage : Stage Memory}
    (lasting : stage.Lasting sent cancelled) (kept : sent ⊆ more) (stays : cancelled = true → later = true) :
    stage.Lasting more later := by
  cases stage with
  | watching memory => trivial
  | telling signal => exact lasting
  | returned result =>
      cases result with
      | ok value => exact stays lasting
      | error failure => trivial
  | reporting failure => trivial
  | ended =>
      cases lasting with
      | inl isCancelled => exact .inl (stays isCancelled)
      | inr failed =>
          obtain ⟨failure, member⟩ := failed
          exact .inr ⟨failure, kept member⟩

end Stage

/-- What is known of a watcher where it stands. -/
structure Standing (moment : Moment) (duty : Duty) (stage : Stage duty.Memory) : Prop where
  unsent : stage.Unsent → duty ∉ moment.sent.map Prod.fst
  honest : stage.Honest
  lasting : duty = .run → stage.Lasting moment.sent moment.cancelled

/-- What is known of the merge once it has received these signals. -/
def Course.Knows (received : List Signal) : Course → Prop
  | .merging reported => Tells received reported ∧ Undecided received
  | .judged answer => answer ≠ .error deserted
  | .joining answer => answer ≠ .error deserted
  | .returned answer => answer ≠ .error deserted

/-- What every step keeps. -/
structure Sound (moment : Moment) : Prop where
  once : (moment.sent.map Prod.fst).Nodup
  standing : ∀ duty, Standing moment duty (moment.stage duty)
  honest : ∀ told ∈ moment.sent, told.2 ≠ .fatal deserted
  /-- The channel holds what was sent and is not received yet. -/
  queued : ∃ received, moment.sent.map Prod.snd = received ++ moment.channel ∧ moment.course.Knows received

section Watches

theorem honest_answered {Memory Answer : Type} {signalOf : Answer → Option Signal}
    (harmless : ∀ answer failure, signalOf answer ≠ some (.fatal failure)) {given : Except LaunchFailure Answer}
    (own : given ≠ .error deserted) : (Stage.answered signalOf given : Stage Memory).Honest := by
  unfold Stage.answered
  cases given with
  | ok answer =>
      cases told : signalOf answer with
      | some signal =>
          simp only [told]
          intro isFatal
          exact harmless answer deserted (isFatal ▸ told)
      | none =>
          simp only [told]
          intro impossible
          cases impossible
  | error failure =>
      intro same
      cases same
      exact own rfl

/-- A watcher whose rule never answers with the failure of the merge never passes that on. -/
theorem honest_of_moves {State Object Answer : Type} {watcher : Watcher State Object Answer} {cancelled : Bool}
    {state : State} {step : Step State Answer} {signalOf : Answer → Option Signal}
    (harmless : ∀ answer failure, signalOf answer ≠ some (.fatal failure))
    (onObserved : ∀ now object, watcher.observe now state object ≠ .answer (.error deserted))
    (onClosed : watcher.closed ≠ .error deserted) (onExpired : watcher.expired state ≠ .error deserted)
    (onCancelled : watcher.cancelled ≠ .error deserted) (moves : watcher.Moves cancelled state step) :
    (Stage.after signalOf step).Honest := by
  cases moves with
  | observes now object =>
      cases observed : watcher.observe now state object with
      | wait next => trivial
      | answer given =>
          apply honest_answered harmless
          intro same
          exact onObserved now object (observed.trans (congrArg Step.answer same))
  | fails fault =>
      have own : (.error (.watch fault) : Except LaunchFailure Answer) ≠ .error deserted := by simp [deserted]
      exact honest_answered harmless own
  | closes => exact honest_answered harmless onClosed
  | expires => exact honest_answered harmless onExpired
  | obeys => exact honest_answered harmless onCancelled

theorem silent_ne_fatal (answer : Unit) (failure : LaunchFailure) : silent answer ≠ some (.fatal failure) := by
  simp [silent]

theorem readied_ne_fatal (pod : Option Pod) (failure : LaunchFailure) : readied pod ≠ some (.fatal failure) := by
  cases pod <;> simp [readied]

variable {settings : LaunchSettings} {run : String} {cancelled : Bool}

theorem honest_of_watches {duty : Duty} {memory : duty.Memory} {stage : Stage duty.Memory}
    (watches : Watches settings run cancelled duty memory stage) : stage.Honest := by
  cases duty with
  | workspace =>
      obtain ⟨lookup, rfl⟩ := watches
      apply honest_answered
      · simp [confirmed]
      · cases lookup with
        | ok workspace => simp [workspaceConfirmed]
        | error error =>
            simp only [workspaceConfirmed, ne_eq, Except.error.injEq]
            split <;> simp [deserted]
  | queue =>
      obtain ⟨step, moves, rfl⟩ := watches
      apply honest_of_moves silent_ne_fatal _ _ _ _ moves
      · intro now workspace
        simp only [Watcher.forQueue]
        split <;> simp
      · simp [Watcher.forQueue, deserted]
      · simp only [Watcher.forQueue]
        split <;> simp [deserted]
      · simp [Watcher.forQueue, Watcher.quiet]
  | run =>
      obtain ⟨step, moves, rfl⟩ := watches
      apply honest_of_moves silent_ne_fatal _ _ _ _ moves
      · intro now run
        simp only [Watcher.forRun]
        split
        · rename_i failure ended
          intro same
          cases same
          simp only [Watcher.endedUnexecuted?] at ended
          split at ended
          · cases ended
          · split at ended <;> cases ended
        · simp
      · simp [Watcher.forRun, deserted]
      · simp only [Watcher.forRun]
        split <;> simp [deserted]
      · simp [Watcher.forRun, Watcher.quiet]
  | pod =>
      obtain ⟨step, moves, rfl⟩ := watches
      apply honest_of_moves readied_ne_fatal _ _ _ _ moves
      · intro now pod
        simp only [Watcher.forPod]
        split <;> simp [deserted]
      · simp [Watcher.forPod, deserted]
      · simp [Watcher.forPod]
      · simp [Watcher.forPod]

/-- The watcher of the run goes on or fails, unless it is cancelled. -/
theorem lasting_of_watches {memory : Duty.run.Memory} {stage : Stage Duty.run.Memory}
    (watches : Watches settings run cancelled .run memory stage) (sent : List (Duty × Signal)) :
    stage.Lasting sent cancelled := by
  obtain ⟨step, moves, rfl⟩ := watches
  cases moves with
  | observes now run =>
      simp only [Watcher.forRun]
      split <;> trivial
  | fails fault => trivial
  | closes => trivial
  | expires due => trivial
  | obeys isCancelled => exact isCancelled

end Watches

/-! ### What a step keeps -/

section Steps

variable {moment : Moment} {duty : Duty} {stage : Stage duty.Memory}

/-- A watcher that sends nothing comes to stand somewhere else. -/
theorem Sound.put (sound : Sound moment) (standing : Standing moment duty stage) : Sound (moment.put duty stage) where
  once := sound.once
  standing := by
    intro other
    by_cases same : other = duty
    · subst same
      rw [Moment.put_stage_self]
      exact ⟨standing.unsent, standing.honest, standing.lasting⟩
    · have kept := sound.standing other
      rw [Moment.put_stage_of_ne _ _ _ same]
      exact ⟨kept.unsent, kept.honest, kept.lasting⟩
  honest := sound.honest
  queued := sound.queued

/-- A watcher that has not sent by now sends, and does not come to stand where it could send again. -/
theorem Sound.send {signal : Signal} (sound : Sound moment) (unsent : duty ∉ moment.sent.map Prod.fst)
    (own : signal ≠ .fatal deserted) (spent : ¬stage.Unsent) (honest : stage.Honest)
    (lasting : duty = .run → stage.Lasting (moment.sent ++ [(duty, signal)]) moment.cancelled) :
    Sound ((moment.send duty signal).put duty stage) where
  once := by
    simp only [Moment.put_sent, Moment.send_sent, List.map_append, List.map_cons, List.map_nil]
    rw [List.nodup_append]
    refine ⟨sound.once, List.nodup_singleton _, ?_⟩
    intro sender sentBefore other isDuty same
    rw [List.mem_singleton.mp isDuty] at same
    exact unsent (same ▸ sentBefore)
  standing := by
    intro other
    by_cases same : other = duty
    · subst same
      rw [Moment.put_stage_self]
      exact ⟨fun still => absurd still spent, honest, lasting⟩
    · have kept := sound.standing other
      rw [Moment.put_stage_of_ne _ _ _ same]
      refine ⟨?_, kept.honest, ?_⟩
      · intro still
        simp [kept.unsent still, same]
      · intro isRun
        exact (kept.lasting isRun).weaken (List.subset_append_left _ _) id
  honest := by
    intro told member
    cases List.mem_append.mp member with
    | inl before => exact sound.honest told before
    | inr isNew =>
        rw [List.mem_singleton.mp isNew]
        exact own
  queued := by
    obtain ⟨received, same, knows⟩ := sound.queued
    refine ⟨received, ?_, knows⟩
    simp [same]

theorem Sound.cancel (sound : Sound moment) : Sound { moment with cancelled := true } where
  once := sound.once
  standing := by
    intro duty
    have kept := sound.standing duty
    exact ⟨kept.unsent, kept.honest, fun isRun => (kept.lasting isRun).weaken (List.Subset.refl _) fun _ => rfl⟩
  honest := sound.honest
  queued := sound.queued

/-- The merge comes to stand somewhere else, having received no more. -/
theorem Sound.turn {course : Course} (sound : Sound moment)
    (knows : ∀ received, moment.sent.map Prod.snd = received ++ moment.channel → moment.course.Knows received →
      course.Knows received) : Sound { moment with course := course } where
  once := sound.once
  standing := by
    intro duty
    have kept := sound.standing duty
    exact ⟨kept.unsent, kept.honest, kept.lasting⟩
  honest := sound.honest
  queued := by
    obtain ⟨received, same, known⟩ := sound.queued
    exact ⟨received, same, knows received same known⟩

/-- The merge receives a signal: it goes on, or what it answers is not that the channel is closed. -/
theorem Sound.receive {reported : Reported} {signal : Signal} {rest : List Signal} (sound : Sound moment)
    (merges : moment.course = .merging reported) (first : moment.channel = signal :: rest) :
    Sound { moment with channel := rest, course := .after (merge.observe 0 reported signal) } where
  once := sound.once
  standing := by
    intro duty
    have kept := sound.standing duty
    exact ⟨kept.unsent, kept.honest, kept.lasting⟩
  honest := sound.honest
  queued := by
    obtain ⟨received, same, knows⟩ := sound.queued
    rw [merges] at knows
    rw [first, List.append_cons] at same
    refine ⟨received ++ [signal], same, ?_⟩
    cases observe_cases knows.1 knows.2 signal with
    | inl decides =>
        obtain ⟨answer, observed, decision⟩ := decides
        rw [observed]
        intro isDeserted
        rw [isDeserted, decision_error_iff] at decision
        have listed : Signal.fatal deserted ∈ moment.sent.map Prod.snd := by
          rw [same, decision]
          simp
        obtain ⟨told, member, isFatal⟩ := List.mem_map.mp listed
        exact sound.honest told member isFatal
    | inr waits =>
        obtain ⟨next, observed, tells, undecided⟩ := waits
        rw [observed]
        exact ⟨tells, undecided⟩

/-- While nothing is decided, nobody is cancelled and all that was sent is received, the run is still watched: the
failure with which that ends would have been received. -/
theorem Sound.run_not_ended {reported : Reported} (sound : Sound moment) (merges : moment.course = .merging reported)
    (uncancelled : moment.cancelled = false) (empty : moment.channel = []) : moment.stage .run ≠ .ended := by
  intro ended
  have lasting := (sound.standing .run).lasting rfl
  rw [ended] at lasting
  obtain ⟨received, same, knows⟩ := sound.queued
  rw [merges] at knows
  rw [empty, List.append_nil] at same
  cases lasting with
  | inl isCancelled =>
      rw [uncancelled] at isCancelled
      cases isCancelled
  | inr failed =>
      obtain ⟨failure, member⟩ := failed
      apply knows.2.1 failure
      rw [← same]
      exact List.mem_map_of_mem member

variable {settings : LaunchSettings} {run : String} {next : Moment}

theorem sound_start : Sound {} where
  once := List.nodup_nil
  standing := fun _ => ⟨fun _ => List.not_mem_nil, trivial, fun _ => trivial⟩
  honest := fun _ member => absurd member List.not_mem_nil
  queued := ⟨[], rfl, tells_nil, undecided_nil⟩

/-- Every step keeps what is known. -/
theorem Sound.step (sound : Sound moment) (goes : Goes settings run moment next) : Sound next := by
  cases goes with
  | @watch duty memory stage stands watches =>
      have unsent := (sound.standing duty).unsent
      rw [stands] at unsent
      refine sound.put ⟨fun _ => unsent trivial, honest_of_watches watches, ?_⟩
      intro isRun
      subst isRun
      exact lasting_of_watches watches moment.sent
  | @tell duty signal stands room =>
      have standing := sound.standing duty
      rw [stands] at standing
      refine sound.send (standing.unsent trivial) standing.honest id ?_ ?_
      · intro impossible
        cases impossible
      · intro isRun
        exact absurd (standing.lasting isRun) id
  | @finish duty stands =>
      have standing := sound.standing duty
      rw [stands] at standing
      exact sound.put ⟨False.elim, trivial, fun isRun => .inl (standing.lasting isRun)⟩
  | hush stands isCancelled => exact sound.put ⟨False.elim, trivial, fun _ => .inl isCancelled⟩
  | @raise duty failure stands uncancelled =>
      have standing := sound.standing duty
      rw [stands] at standing
      refine sound.put ⟨fun _ => standing.unsent trivial, ?_, fun _ => trivial⟩
      intro same
      exact standing.honest (congrArg Except.error same)
  | @report duty failure stands room =>
      have standing := sound.standing duty
      rw [stands] at standing
      refine sound.send (standing.unsent trivial) ?_ id trivial ?_
      · intro same
        cases same
        exact standing.honest rfl
      · intro isRun
        subst isRun
        exact .inr ⟨failure, by simp⟩
  | cancel => exact sound.cancel
  | abandon merges isCancelled =>
      apply sound.turn
      intro received same knows impossible
      cases impossible
  | receive merges uncancelled first => exact sound.receive merges first
  | close merges uncancelled empty closed => exact absurd (closed .run) (sound.run_not_ended merges uncancelled empty)
  | @stop answer judged =>
      apply sound.cancel.turn
      intro received same knows
      simp only [judged] at knows
      exact knows
  | join joins closed =>
      apply sound.turn
      intro received same knows
      rw [joins] at knows
      exact knows

/-- What is known is known at every later moment. -/
theorem Sound.comes (sound : Sound moment) (comes : Comes settings run moment next) : Sound next := by
  induction comes with
  | refl => exact sound
  | tail _ goes inductionHypothesis => exact inductionHypothesis.step goes

/-- So it is known at every moment of the monitoring of a launch. -/
theorem sound_of_reachable (reachable : Reachable settings run moment) : Sound moment :=
  sound_start.comes reachable

end Steps

/-! ### The channel -/

/-- The answer that the merge has come to. -/
def Course.answer? : Course → Option (Except LaunchFailure Pod)
  | .merging _ => none
  | .judged answer => some answer
  | .joining answer => some answer
  | .returned answer => some answer

theorem Course.Knows.answer_ne {course : Course} {received : List Signal} {answer : Except LaunchFailure Pod}
    (knows : course.Knows received) (answered : course.answer? = some answer) : answer ≠ .error deserted := by
  cases course with
  | merging reported => cases answered
  | judged given =>
      cases answered
      exact knows
  | joining given =>
      cases answered
      exact knows
  | returned given =>
      cases answered
      exact knows

/-- How the channel does at a moment. -/
structure Uncongested (moment : Moment) : Prop where
  /-- Every watcher has sent one signal at most. -/
  once : ∀ duty, (moment.sent.filter fun told => told.1 = duty).length ≤ 1
  /-- So there have never been more than four. -/
  four : moment.sent.length ≤ 4
  /-- The channel holds the last of them, in the order in which they were sent. -/
  holds : moment.channel <:+ moment.sent.map Prod.snd
  /-- There is room for every signal that is about to be sent, also once no more are received. -/
  room : ∀ duty, (moment.stage duty).Sending → moment.channel.length < signalBuffer
  /-- While the merge waits uncancelled, the channel is not both empty and closed. -/
  stays : ∀ reported, moment.course = .merging reported → moment.cancelled = false → moment.channel = [] →
    ¬moment.Closed
  /-- The merge never answers that the channel was closed. -/
  answers : ∀ answer, moment.course.answer? = some answer → answer ≠ .error (.watchClosed "monitor")

section Channel

variable {moment : Moment}

theorem length_filter_fst_le_one {sent : List (Duty × Signal)} (once : (sent.map Prod.fst).Nodup) (duty : Duty) :
    (sent.filter fun told => told.1 = duty).length ≤ 1 := by
  have counts : (sent.filter fun told => told.1 = duty).length = (sent.map Prod.fst).count duty := by
    rw [List.count, List.countP_map, List.countP_eq_length_filter]
    rfl
  rw [counts]
  exact List.nodup_iff_count_le_one.mp once duty

theorem length_le_of_nodup {duties : List Duty} (once : duties.Nodup) : duties.length ≤ 4 :=
  (once.subperm fun duty _ => Duty.mem_all duty).length_le

/-- Whoever is about to send finds room: the others have sent three signals at most. -/
theorem Sound.room {duty : Duty} (sound : Sound moment) (sending : (moment.stage duty).Sending) :
    moment.channel.length < signalBuffer := by
  have unsent := (sound.standing duty).unsent sending.unsent
  have four : (duty :: moment.sent.map Prod.fst).length ≤ 4 :=
    length_le_of_nodup (List.nodup_cons.mpr ⟨unsent, sound.once⟩)
  obtain ⟨received, same, _⟩ := sound.queued
  have lengths := congrArg List.length same
  simp only [List.length_cons, List.length_map, List.length_append] at four lengths
  unfold signalBuffer
  omega

theorem Sound.uncongested (sound : Sound moment) : Uncongested moment where
  once := length_filter_fst_le_one sound.once
  four := by
    have four := length_le_of_nodup sound.once
    rwa [List.length_map] at four
  holds := by
    obtain ⟨received, same, _⟩ := sound.queued
    exact ⟨received, same.symm⟩
  room := fun _ sending => sound.room sending
  stays := fun _ merges uncancelled empty closed => sound.run_not_ended merges uncancelled empty (closed .run)
  answers := by
    intro answer answered
    obtain ⟨received, _, knows⟩ := sound.queued
    exact knows.answer_ne answered

end Channel

end Monitor

end Turnstile
