/-
Module: Turnstile.Proofs.Launch.Schedule
Purpose: What waiting for a verdict comes to is what some order of the steps of the watchers and the merge comes to.
Main exports: Watcher.Leads, Watcher.leads_of_ends, Monitor.comes_of_life, Monitor.exists_returned,
  Monitor.exists_returned_of_wait, Monitor.Flowing, Monitor.flowing
-/
import Turnstile.Proofs.Launch.Channel
import Turnstile.Proofs.Launch.Punctual

/-!
A script with its times is one way in which the steps can go.  Each watcher takes all its steps at the time of its
signal, in the order in which the signals are received; the merge receives each of them at once.  So whatever is
computed for a script is also reached by steps, and what holds of every order of the steps holds of it.

Once the verdict is had, every watcher can be brought to its end without a signal being received, from wherever it
stands.
-/

namespace Turnstile

/-! ### Watchers that come to an answer -/

namespace Watcher

variable {State Object Answer : Type} {watcher : Watcher State Object Answer} {cancelAt closesAt next : Option Nat}
  {now : Nat} {state : State}

/-- A watcher may come to an answer. -/
inductive Leads (watcher : Watcher State Object Answer) (cancelled : Bool) :
    State → Except LaunchFailure Answer → Prop where
  | now {state : State} {given : Except LaunchFailure Answer} (moves : watcher.Moves cancelled state (.answer given)) :
      Leads watcher cancelled state given
  | later {state next : State} {given : Except LaunchFailure Answer}
      (moves : watcher.Moves cancelled state (.wait next)) (leads : Leads watcher cancelled next given) :
      Leads watcher cancelled state given

/-- What interrupts a watcher before its cancellation is its deadline. -/
theorem exists_deadline_of_interrupted {time : Nat} {answer : Except LaunchFailure Answer}
    (interrupted : watcher.interrupted? cancelAt now state next = some (time, answer))
    (uncut : comesBy cancelAt (some time) = false) :
    ∃ limit, watcher.deadline state = some limit ∧ watcher.expired state = answer := by
  unfold interrupted? at interrupted
  simp only at interrupted
  split at interrupted
  · obtain ⟨moment, cancels, same⟩ := Option.map_eq_some_iff.mp interrupted
    obtain ⟨cancel, rfl, rfl⟩ := Option.map_eq_some_iff.mp cancels
    cases same
    have late : ¬cancel ≤ max now cancel := of_decide_eq_false uncut
    exact absurd (Nat.le_max_right _ _) late
  · split at interrupted
    · obtain ⟨moment, expires, same⟩ := Option.map_eq_some_iff.mp interrupted
      obtain ⟨limit, due, _⟩ := Option.map_eq_some_iff.mp expires
      cases same
      exact ⟨limit, due, rfl⟩
    · cases interrupted

/-- A watcher that ends before its cancellation may come to its answer while nobody cancels it. -/
theorem leads_of_ends {events : List (Nat × Except WatchFault Object)} {ending : Ending Object Answer}
    (ends : watcher.Ends cancelAt closesAt now state events ending)
    (uncut : comesBy cancelAt (some ending.time) = false) : watcher.Leads false state ending.answer := by
  induction ends with
  | interrupted interrupted =>
      obtain ⟨limit, due, rfl⟩ := exists_deadline_of_interrupted interrupted uncut
      exact .now (.expires due)
  | closed => exact .now .closes
  | faulty => exact .now (.fails _)
  | @answered now earliest state object given rest _ observed =>
      have moves : watcher.Moves false state (watcher.observe (max now earliest) state object) := .observes _ _
      rw [observed] at moves
      exact .now moves
  | @onward now earliest state next object rest ending _ observed _ inductionHypothesis =>
      have moves : watcher.Moves false state (watcher.observe (max now earliest) state object) := .observes _ _
      rw [observed] at moves
      exact .later moves (inductionHypothesis uncut)

end Watcher

namespace Monitor

/-! ### The steps of one watcher -/

namespace Moment

variable (moment : Moment) (duty : Duty)

/-- A watcher sends a signal, if it has one. -/
def tell : Option Signal → Moment
  | none => moment
  | some signal => moment.send duty signal

@[simp] theorem put_put (stage other : Stage duty.Memory) :
    (moment.put duty stage).put duty other = moment.put duty other := by
  simp [put]

@[simp] theorem put_send (stage : Stage duty.Memory) (signal : Signal) :
    (moment.put duty stage).send duty signal = (moment.send duty signal).put duty stage := rfl

@[simp] theorem put_tell (stage : Stage duty.Memory) (told : Option Signal) :
    (moment.put duty stage).tell duty told = (moment.tell duty told).put duty stage := by
  cases told <;> rfl

@[simp] theorem tell_stage (told : Option Signal) : (moment.tell duty told).stage = moment.stage := by
  cases told <;> rfl

@[simp] theorem tell_cancelled (told : Option Signal) : (moment.tell duty told).cancelled = moment.cancelled := by
  cases told <;> rfl

@[simp] theorem tell_course (told : Option Signal) : (moment.tell duty told).course = moment.course := by
  cases told <;> rfl

theorem put_of_stands {stage : Stage duty.Memory} (stands : moment.stage duty = stage) :
    moment.put duty stage = moment := by
  subst stands
  simp [put]

end Moment

/-- The signal of a watcher for its answer, unless it is cancelled. -/
def signalFor {Answer : Type} (signalOf : Answer → Option Signal) : Except LaunchFailure Answer → Option Signal
  | .ok answer => signalOf answer
  | .error failure => some (.fatal failure)

section Watch

variable {settings : LaunchSettings} {run : String} {moment : Moment} {duty : Duty}

/-- What a watcher comes to from where it comes to stand. -/
theorem comes_through {stage other : Stage duty.Memory} (goes : Goes settings run moment (moment.put duty stage))
    (comes : Comes settings run (moment.put duty stage) ((moment.put duty stage).put duty other)) :
    Comes settings run moment (moment.put duty other) := by
  rw [Moment.put_put] at comes
  exact .head goes comes

/-- A watcher that has ended well is over after one more step. -/
theorem comes_of_finish (stands : moment.stage duty = .returned (.ok ())) :
    Comes settings run moment (moment.put duty .ended) :=
  .single (.finish stands)

theorem comes_of_tell {signal : Signal} (stands : moment.stage duty = .telling signal)
    (room : moment.channel.length < signalBuffer) :
    Comes settings run moment ((moment.send duty signal).put duty .ended) := by
  have finishes : Comes settings run ((moment.send duty signal).put duty (.returned (.ok ()))) _ :=
    comes_of_finish (Moment.put_stage_self _ _ _)
  rw [Moment.put_put] at finishes
  exact .head (.tell stands room) finishes

/-- A watcher that has its answer sends what it has to send, and ends. -/
theorem comes_of_answered {Answer : Type} {signalOf : Answer → Option Signal} {given : Except LaunchFailure Answer}
    (stands : moment.stage duty = .answered signalOf given) (uncancelled : moment.cancelled = false)
    (room : moment.channel.length < signalBuffer) :
    Comes settings run moment ((moment.tell duty (signalFor signalOf given)).put duty .ended) := by
  cases given with
  | ok answer =>
      cases told : signalOf answer with
      | some signal =>
          simp only [Stage.answered, told] at stands
          simp only [signalFor, told]
          exact comes_of_tell stands room
      | none =>
          simp only [Stage.answered, told] at stands
          simp only [signalFor, told]
          exact comes_of_finish stands
  | error failure =>
      have raises : Goes settings run moment (moment.put duty (.reporting failure)) := .raise stands uncancelled
      have reports : Goes settings run (moment.put duty (.reporting failure)) _ :=
        .report (Moment.put_stage_self _ _ _) room
      rw [Moment.put_send, Moment.put_put] at reports
      exact .head raises (.single reports)

theorem comes_of_answering {Answer : Type} {signalOf : Answer → Option Signal} {given : Except LaunchFailure Answer}
    (comes : Comes settings run moment (moment.put duty (.answered signalOf given)))
    (uncancelled : moment.cancelled = false) (room : moment.channel.length < signalBuffer) :
    Comes settings run moment ((moment.tell duty (signalFor signalOf given)).put duty .ended) := by
  have ends : Comes settings run (moment.put duty (.answered signalOf given)) _ :=
    comes_of_answered (Moment.put_stage_self _ _ _) uncancelled room
  rw [Moment.put_tell, Moment.put_put] at ends
  exact comes.trans ends

/-- The steps of a watch are steps of its watcher. -/
def Follows (settings : LaunchSettings) (run : String) (duty : Duty) {Object Answer : Type}
    (watcher : Watcher duty.Memory Object Answer) (signalOf : Answer → Option Signal) : Prop :=
  ∀ cancelled memory step, watcher.Moves cancelled memory step →
    Watches settings run cancelled duty memory (.after signalOf step)

theorem follows_queue : Follows settings run .queue
    (Watcher.forQueue run settings.timeouts.enqueue settings.timeouts.queue) silent :=
  fun _ _ step moves => ⟨step, moves, rfl⟩

theorem follows_run : Follows settings run .run
    (Watcher.forRun settings.timeouts.reconcile settings.timeouts.ready) silent :=
  fun _ _ step moves => ⟨step, moves, rfl⟩

theorem follows_pod : Follows settings run .pod Watcher.forPod readied :=
  fun _ _ step moves => ⟨step, moves, rfl⟩

/-- A watcher that may come to an answer comes to it when the others take no steps. -/
theorem comes_of_leads {Object Answer : Type} {watcher : Watcher duty.Memory Object Answer}
    {signalOf : Answer → Option Signal} (follows : Follows settings run duty watcher signalOf)
    {memory : duty.Memory} {given : Except LaunchFailure Answer} (leads : watcher.Leads moment.cancelled memory given)
    (stands : moment.stage duty = .watching memory) :
    Comes settings run moment (moment.put duty (.answered signalOf given)) := by
  generalize isCancelled : moment.cancelled = cancelled at leads
  induction leads generalizing moment with
  | now moves =>
      subst isCancelled
      exact .single (.watch stands (follows _ _ _ moves))
  | @later memory next given moves _ inductionHypothesis =>
      subst isCancelled
      have goesOn : Goes settings run moment (moment.put duty (.watching next)) := .watch stands (follows _ _ _ moves)
      exact comes_through goesOn (inductionHypothesis (Moment.put_stage_self _ _ (.watching next)) rfl)

end Watch

/-! ### The watchers of a script -/

/-- The life of each watcher of a script. -/
def life (settings : LaunchSettings) (run : String) (script : Script) (cancelAt : Option Nat) : Duty → Life
  | .workspace => lifeOfLookup cancelAt settings.workspace script.lookup
  | .queue => lifeOfWatch cancelAt silent
      ((Watcher.forQueue run settings.timeouts.enqueue settings.timeouts.queue).run cancelAt script.queue)
  | .run => lifeOfWatch cancelAt silent
      ((Watcher.forRun settings.timeouts.reconcile settings.timeouts.ready).run cancelAt script.run)
  | .pod => lifeOfWatch cancelAt readied (Watcher.forPod.run cancelAt script.pod)

section Script

variable {settings : LaunchSettings} {run : String} {script : Script} {cancelAt : Option Nat} {moment : Moment}
  {duty : Duty} {time : Nat}

theorem lives_script : lives settings run script.scene cancelAt = Duty.all.map (life settings run script cancelAt) :=
  rfl

theorem failureSignal_of_uncut (uncut : comesBy cancelAt (some time) = false) (failure : LaunchFailure) :
    failureSignal cancelAt time failure = some (.fatal failure) := by
  simp [failureSignal, uncut]

theorem signal_lifeOfWatch {Object Answer : Type} {signalOf : Answer → Option Signal}
    {given : Except LaunchFailure Answer} {unread : List (Nat × Except WatchFault Object)}
    (uncut : comesBy cancelAt (some time) = false) :
    (lifeOfWatch cancelAt signalOf (some ⟨time, given, unread⟩)).signal = signalFor signalOf given := by
  cases given with
  | ok answer => rfl
  | error failure => exact failureSignal_of_uncut uncut failure

theorem signal_lifeOfLookup {name : String} {lookup : Except ApiError Workspace}
    (uncut : comesBy cancelAt (some time) = false) :
    (lifeOfLookup cancelAt name (some time, lookup)).signal = signalFor confirmed (workspaceConfirmed name lookup) := by
  cases lookup with
  | ok workspace => rfl
  | error error => exact failureSignal_of_uncut uncut _

/-- A watcher of a watch that ends before its cancellation goes through its life when the others take no steps. -/
theorem comes_of_watch {Object Answer : Type} {watcher : Watcher duty.Memory Object Answer}
    {signalOf : Answer → Option Signal} {watch : Timeline Object}
    (follows : Follows settings run duty watcher signalOf) (starts : watcher.start = duty.start)
    (stands : moment.stage duty = .watching duty.start) (uncancelled : moment.cancelled = false)
    (room : moment.channel.length < signalBuffer)
    (endsAt : (lifeOfWatch cancelAt signalOf (watcher.run cancelAt watch)).endsAt = some time)
    (uncut : comesBy cancelAt (some time) = false) :
    Comes settings run moment
      ((moment.tell duty (lifeOfWatch cancelAt signalOf (watcher.run cancelAt watch)).signal).put duty .ended) := by
  cases ended : watcher.run cancelAt watch with
  | none =>
      rw [ended] at endsAt
      cases endsAt
  | some ending =>
      obtain ⟨last, given, unread⟩ := ending
      rw [ended] at endsAt
      cases endsAt
      have leads := Watcher.leads_of_ends (Watcher.ends_of_follow ended) uncut
      rw [starts, ← uncancelled] at leads
      rw [signal_lifeOfWatch uncut]
      exact comes_of_answering (comes_of_leads follows leads stands) uncancelled room

/-- So does the lookup of the workspace once it is answered. -/
theorem comes_of_lookup {lookup : Option Nat × Except ApiError Workspace}
    (stands : moment.stage .workspace = .watching Duty.workspace.start) (uncancelled : moment.cancelled = false)
    (room : moment.channel.length < signalBuffer)
    (endsAt : (lifeOfLookup cancelAt settings.workspace lookup).endsAt = some time)
    (uncut : comesBy cancelAt (some time) = false) :
    Comes settings run moment
      ((moment.tell .workspace (lifeOfLookup cancelAt settings.workspace lookup).signal).put .workspace .ended) := by
  obtain ⟨answered, answer⟩ := lookup
  cases answered with
  | none => cases endsAt
  | some answered =>
      cases endsAt
      have answers : Goes settings run moment
          (moment.put .workspace (.answered confirmed (workspaceConfirmed settings.workspace answer))) :=
        .watch stands ⟨answer, rfl⟩
      rw [signal_lifeOfLookup uncut]
      exact comes_of_answering (.single answers) uncancelled room

/-- A watcher of a script that ends before its cancellation goes through its life when the others take no steps. -/
theorem comes_of_life (stands : moment.stage duty = .watching duty.start) (uncancelled : moment.cancelled = false)
    (room : moment.channel.length < signalBuffer)
    (endsAt : (life settings run script cancelAt duty).endsAt = some time)
    (uncut : comesBy cancelAt (some time) = false) :
    Comes settings run moment ((moment.tell duty (life settings run script cancelAt duty).signal).put duty .ended) := by
  cases duty with
  | workspace => exact comes_of_lookup stands uncancelled room endsAt uncut
  | queue => exact comes_of_watch follows_queue rfl stands uncancelled room endsAt uncut
  | run => exact comes_of_watch follows_run rfl stands uncancelled room endsAt uncut
  | pod => exact comes_of_watch follows_pod rfl stands uncancelled room endsAt uncut

/-- The watcher of the run, if it ends before its cancellation, signals a failure. -/
theorem exists_sends_run (endsAt : (life settings run script cancelAt .run).endsAt = some time)
    (uncut : comesBy cancelAt (some time) = false) :
    ∃ signal, (life settings run script cancelAt .run).Sends time signal := by
  simp only [life] at endsAt ⊢
  cases ended : (Watcher.forRun settings.timeouts.reconcile settings.timeouts.ready).run cancelAt script.run with
  | none =>
      rw [ended] at endsAt
      cases endsAt
  | some ending =>
      obtain ⟨last, given, unread⟩ := ending
      rw [ended] at endsAt
      cases endsAt
      cases given with
      | ok answer =>
          have outcome : (Watcher.forRun settings.timeouts.reconcile settings.timeouts.ready).outcome cancelAt
              script.run = some (last, .ok ()) := by
            rw [Watcher.outcome, ended]
            rfl
          rw [Watcher.cancelled_of_endsWell outcome] at uncut
          exact absurd (Nat.le_refl last) (of_decide_eq_false uncut)
      | error failure => exact ⟨.fatal failure, rfl, signal_lifeOfWatch uncut⟩

end Script

/-! ### The signals in the order of their arrival -/

/-- The signals of the watchers with their senders, in the order in which they are received. -/
def arrivals (life : Duty → Life) : List (Nat × Duty × Signal) :=
  (Duty.all.filterMap fun duty =>
    (life duty).endsAt.bind fun time => (life duty).signal.map fun signal => (time, duty, signal)).mergeSort
      fun first second => first.1 ≤ second.1

section Arrivals

variable {life : Duty → Life}

theorem sentBy_eq_map_arrivals (life : Duty → Life) :
    sentBy (Duty.all.map life) = (arrivals life).map fun arrival => (arrival.1, arrival.2.2) := by
  have sameSent : ((Duty.all.map life).filterMap fun life =>
      life.endsAt.bind fun time => life.signal.map fun signal => (time, signal)) =
      (Duty.all.filterMap fun duty =>
        (life duty).endsAt.bind fun time => (life duty).signal.map fun signal => (time, duty, signal)).map
          fun arrival => (arrival.1, arrival.2.2) := by
    rw [List.filterMap_map, List.map_filterMap]
    congr 1
    funext duty
    cases endsAt : (life duty).endsAt <;> cases signals : (life duty).signal <;> simp [endsAt, signals]
  unfold sentBy arrivals
  rw [sameSent, List.map_mergeSort]
  exact fun _ _ _ _ => rfl

theorem mem_arrivals_iff {time : Nat} {duty : Duty} {signal : Signal} :
    (time, duty, signal) ∈ arrivals life ↔ (life duty).Sends time signal := by
  simp only [arrivals, List.mem_mergeSort, List.mem_filterMap, Option.bind_eq_some_iff, Option.map_eq_some_iff,
    Prod.mk.injEq, Life.Sends]
  constructor
  · rintro ⟨_, _, _, endsAt, _, signals, rfl, rfl, rfl⟩
    exact ⟨endsAt, signals⟩
  · intro sends
    exact ⟨duty, Duty.mem_all duty, time, sends.1, signal, sends.2, rfl, rfl, rfl⟩

/-- No two signals have one sender. -/
theorem pairwise_arrivals (life : Duty → Life) :
    (arrivals life).Pairwise fun first second => first.2.1 ≠ second.2.1 := by
  rw [arrivals, List.Perm.pairwise_iff (fun differs => differs.symm) (List.mergeSort_perm _ _)]
  have distinct : Duty.all.Pairwise fun first second => first ≠ second := by decide
  apply List.Pairwise.filterMap _ _ distinct
  intro first second differs arrival isFirst other isSecond
  simp only [Option.bind_eq_some_iff, Option.map_eq_some_iff] at isFirst isSecond
  obtain ⟨_, _, _, _, rfl⟩ := isFirst
  obtain ⟨_, _, _, _, rfl⟩ := isSecond
  exact differs

end Arrivals

/-! ### Up to the verdict -/

/-- A moment at which all signals but these have arrived and are received, and their senders have taken no step. -/
structure Pending (life : Duty → Life) (after : List (Nat × Duty × Signal)) (reported : Reported)
    (moment : Moment) : Prop where
  merges : moment.course = .merging reported
  uncancelled : moment.cancelled = false
  empty : moment.channel = []
  waits : ∀ arrival ∈ after, moment.stage arrival.2.1 = .watching arrival.2.1.start
  ended : ∀ duty, (∀ arrival ∈ after, arrival.2.1 ≠ duty) →
    (∃ time signal, (life duty).Sends time signal) → moment.stage duty = .ended

section Verdict

variable {settings : LaunchSettings} {run : String} {script : Script} {cancelAt closesAt : Option Nat}
  {after : List (Nat × Duty × Signal)} {reported : Reported} {moment : Moment} {now : Nat}

theorem pending_start : Pending (life settings run script cancelAt) (arrivals (life settings run script cancelAt)) {} {}
    where
  merges := rfl
  uncancelled := rfl
  empty := rfl
  waits := fun _ _ => rfl
  ended := by
    intro duty unlisted sends
    obtain ⟨time, signal, sends⟩ := sends
    exact absurd rfl (unlisted _ (mem_arrivals_iff.mpr sends))

theorem exists_cancel_of_comesBy {limit : Option Nat} (comes : comesBy cancelAt limit = true) :
    ∃ cancel, cancelAt = some cancel := by
  cases cancelAt with
  | none => cases comes
  | some cancel => exact ⟨cancel, rfl⟩

/-- The launch is cancelled, and the merge sees it. -/
theorem Pending.abandon {life : Duty → Life} (pending : Pending life after reported moment)
    (reachable : Reachable settings run moment) :
    ∃ later, Reachable settings run later ∧ later.course = .judged (.error .cancelled) := by
  have cancels : Goes settings run moment { moment with cancelled := true } := .cancel
  have abandons : Goes settings run { moment with cancelled := true }
      { moment with cancelled := true, course := .judged merge.cancelled } := .abandon pending.merges rfl
  exact ⟨_, (reachable.tail cancels).tail abandons, rfl⟩

/-- The next signal is sent and received. -/
theorem Pending.receive {time : Nat} {duty : Duty} {signal : Signal}
    (pending : Pending (life settings run script cancelAt) ((time, duty, signal) :: after) reported moment)
    (reachable : Reachable settings run moment)
    (sends : (life settings run script cancelAt duty).Sends time signal)
    (uncut : comesBy cancelAt (some time) = false) :
    Reachable settings run { (moment.send duty signal).put duty .ended with
      channel := [], course := .after (merge.observe 0 reported signal) } := by
  have stands : moment.stage duty = .watching duty.start := pending.waits _ List.mem_cons_self
  have room : moment.channel.length < signalBuffer := by
    rw [pending.empty]
    decide
  have comes := comes_of_life stands pending.uncancelled room sends.1 uncut
  rw [sends.2] at comes
  have receives : Goes settings run ((moment.send duty signal).put duty .ended) _ :=
    .receive pending.merges pending.uncancelled (by
      simp only [Moment.put_channel, Moment.send_channel, pending.empty]
      rfl)
  exact (reachable.trans comes).tail receives

/-- After that the others wait as before. -/
theorem Pending.next {life : Duty → Life} {time : Nat} {duty : Duty} {signal : Signal} {next : Reported}
    (pending : Pending life ((time, duty, signal) :: after) reported moment)
    (others : ∀ arrival ∈ after, duty ≠ arrival.2.1) :
    Pending life after next { (moment.send duty signal).put duty .ended with
      channel := [], course := .merging next } where
  merges := rfl
  uncancelled := pending.uncancelled
  empty := rfl
  waits := by
    intro arrival member
    have stays := Moment.put_stage_of_ne (moment.send duty signal) duty .ended (others arrival member).symm
    exact stays.trans (pending.waits arrival (List.mem_cons_of_mem _ member))
  ended := by
    intro other unlisted sends
    by_cases same : other = duty
    · subst same
      exact Moment.put_stage_self _ _ _
    · have stays := Moment.put_stage_of_ne (moment.send duty signal) duty .ended same
      refine stays.trans (pending.ended other ?_ sends)
      intro arrival member
      cases member with
      | head => exact fun isDuty => same isDuty.symm
      | tail _ member => exact unlisted arrival member

/-- What had not come by a time had not come before. -/
theorem uncut_of_le {time limit : Nat} (uncut : comesBy cancelAt (some limit) = false) (inTime : time ≤ limit) :
    comesBy cancelAt (some time) = false := by
  cases cancelAt with
  | none => rfl
  | some cancel =>
      have late : ¬cancel ≤ limit := of_decide_eq_false uncut
      exact decide_eq_false fun reached => late (Nat.le_trans reached inTime)

variable {verdict : Ending Signal Pod}

/-- When no signal is still to come, only the cancellation is: while the run is watched, the channel is not closed. -/
theorem Pending.exists_judged_nil (pending : Pending (life settings run script cancelAt) [] reported moment)
    (reachable : Reachable settings run moment)
    (watched : ∀ close, closesAt = some close → comesBy cancelAt (some close) = false →
      ∃ time signal, (life settings run script cancelAt .run).Sends time signal)
    (judged : merge.follow cancelAt closesAt now reported [] = some verdict) :
    ∃ later, Reachable settings run later ∧ later.course = .judged verdict.answer := by
  simp only [Watcher.follow, interrupted?_merge, comesBy_map_max] at judged
  cases cut : comesBy cancelAt (closesAt.map (max now)) with
  | true =>
      obtain ⟨cancel, rfl⟩ := exists_cancel_of_comesBy cut
      simp only [cut, if_true, Option.map_some, Option.some.injEq] at judged
      subst judged
      exact pending.abandon reachable
  | false =>
      simp only [cut, Bool.false_eq_true, if_false, Option.map_eq_some_iff] at judged
      obtain ⟨_, ⟨close, closes, _⟩, _⟩ := judged
      rw [closes, Option.map_some] at cut
      have sends := watched close closes (uncut_of_le cut (Nat.le_max_right _ _))
      have ended := pending.ended .run (by simp) sends
      exact absurd ended
        ((sound_of_reachable reachable).run_not_ended pending.merges pending.uncancelled pending.empty)

/-- The verdict over the signals that are still to come is reached. -/
theorem exists_judged (pending : Pending (life settings run script cancelAt) after reported moment)
    (reachable : Reachable settings run moment) (early : comesBy cancelAt (some now) = false ∨ now = 0)
    (sends : ∀ arrival ∈ after, (life settings run script cancelAt arrival.2.1).Sends arrival.1 arrival.2.2)
    (distinct : after.Pairwise fun first second => first.2.1 ≠ second.2.1)
    (watched : ∀ close, closesAt = some close → comesBy cancelAt (some close) = false →
      ∃ time signal, (life settings run script cancelAt .run).Sends time signal)
    (judged : merge.follow cancelAt closesAt now reported
      (heard (after.map fun arrival => (arrival.1, arrival.2.2)) closesAt).events = some verdict) :
    ∃ later, Reachable settings run later ∧ later.course = .judged verdict.answer := by
  induction after generalizing now reported moment with
  | nil => exact pending.exists_judged_nil reachable watched judged
  | cons arrival after inductionHypothesis =>
      obtain ⟨time, duty, signal⟩ := arrival
      have sameCut : comesBy (cancelAt.map (max now)) (some (max now time)) = comesBy cancelAt (some time) := by
        rw [← comesBy_max early time]
        exact comesBy_map_max cancelAt (some time) now
      have sameObserve : merge.observe (max now time) reported signal = merge.observe 0 reported signal := rfl
      simp only [heard, List.map_cons, Watcher.follow, interrupted?_merge, sameCut, sameObserve] at judged
      cases cut : comesBy cancelAt (some time) with
      | true =>
          obtain ⟨cancel, rfl⟩ := exists_cancel_of_comesBy cut
          simp only [cut, if_true, Option.map_some, Option.some.injEq] at judged
          subst judged
          exact pending.abandon reachable
      | false =>
          simp only [cut, Bool.false_eq_true, if_false] at judged
          have received := pending.receive reachable (sends _ List.mem_cons_self) cut
          cases observed : merge.observe 0 reported signal with
          | answer given =>
              simp only [observed, Option.some.injEq] at judged received
              subst judged
              exact ⟨_, received, rfl⟩
          | wait next =>
              simp only [observed] at judged received
              rw [List.pairwise_cons] at distinct
              have stillEarly : comesBy cancelAt (some (max now time)) = false := by
                rw [comesBy_max early time, cut]
              have laterSends := fun arrival member => sends arrival (List.mem_cons_of_mem _ member)
              exact inductionHypothesis (pending.next distinct.1) received (.inl stillEarly) laterSends distinct.2
                judged

/-- The verdict that is computed for a script is reached. -/
theorem exists_judged_of_run {verdict : Ending Signal Pod}
    (judged : merge.run cancelAt (signals (lives settings run script.scene cancelAt)) = some verdict) :
    ∃ later, Reachable settings run later ∧ later.course = .judged verdict.answer := by
  rw [signals_eq_heard, Watcher.run, lives_script, sentBy_eq_map_arrivals] at judged
  refine exists_judged pending_start .refl (.inr rfl) ?_ (pairwise_arrivals _) ?_ judged
  · intro arrival member
    exact mem_arrivals_iff.mp member
  · intro close closes uncut
    have listed : (life settings run script cancelAt .run).endsAt ∈
        (Duty.all.map (life settings run script cancelAt)).map Life.endsAt :=
      List.mem_map_of_mem (List.mem_map_of_mem (Duty.mem_all .run))
    obtain ⟨time, endsAt, inTime⟩ := le_lastOf closes _ listed
    exact ⟨time, exists_sends_run endsAt (uncut_of_le uncut inTime)⟩

end Verdict

/-! ### After the verdict -/

section Joining

variable {settings : LaunchSettings} {run : String} {moment : Moment} {answer : Except LaunchFailure Pod}

/-- A watcher that sees its cancellation ends without a signal. -/
theorem comes_of_obeys {duty : Duty} {Object Answer : Type} {watcher : Watcher duty.Memory Object Answer}
    {signalOf : Answer → Option Signal} (follows : Follows settings run duty watcher signalOf)
    (quiet : (.answered signalOf watcher.cancelled : Stage duty.Memory) = .returned (.ok ())) {memory : duty.Memory}
    (stands : moment.stage duty = .watching memory) (isCancelled : moment.cancelled = true) :
    Comes settings run moment (moment.put duty .ended) := by
  have obeys : Goes settings run moment (moment.put duty (.answered signalOf watcher.cancelled)) :=
    .watch stands (follows _ _ _ (.obeys isCancelled))
  rw [quiet] at obeys
  exact comes_through obeys (comes_of_finish (Moment.put_stage_self _ _ _))

/-- The lookup of the workspace, which sees no cancellation, ends once it is answered. -/
theorem comes_of_unanswered {memory : Duty.workspace.Memory} (stands : moment.stage .workspace = .watching memory)
    (isCancelled : moment.cancelled = true) : Comes settings run moment (moment.put .workspace .ended) := by
  have fails : Goes settings run moment (moment.put .workspace (.returned (.error (.api .unanswered)))) :=
    .watch stands ⟨.error .unanswered, rfl⟩
  exact comes_through fails (.single (.hush (Moment.put_stage_self _ _ _) isCancelled))

/-- A watcher that is cancelled can be brought to its end, wherever it stands, without a signal being received. -/
theorem exists_leave (sound : Sound moment) (isCancelled : moment.cancelled = true) (duty : Duty) :
    ∃ told, Comes settings run moment ((moment.tell duty told).put duty .ended) := by
  have room : (moment.stage duty).Sending → moment.channel.length < signalBuffer := sound.room
  cases stands : moment.stage duty with
  | watching memory =>
      refine ⟨none, ?_⟩
      cases duty with
      | workspace => exact comes_of_unanswered stands isCancelled
      | queue => exact comes_of_obeys follows_queue rfl stands isCancelled
      | run => exact comes_of_obeys follows_run rfl stands isCancelled
      | pod => exact comes_of_obeys follows_pod rfl stands isCancelled
  | telling signal =>
      rw [stands] at room
      exact ⟨some signal, comes_of_tell stands (room trivial)⟩
  | returned result =>
      refine ⟨none, ?_⟩
      cases result with
      | ok value => exact comes_of_finish stands
      | error failure => exact .single (.hush stands isCancelled)
  | reporting failure =>
      rw [stands] at room
      exact ⟨some (.fatal failure), .single (.report stands (room trivial))⟩
  | ended =>
      refine ⟨none, ?_⟩
      rw [Moment.tell, Moment.put_of_stands moment duty stands]
      exact .refl

/-- So can all of them. -/
theorem exists_ended (sound : Sound moment) (isCancelled : moment.cancelled = true) (duties : List Duty) :
    ∃ later, Comes settings run moment later ∧ later.course = moment.course ∧
      (∀ duty ∈ duties, later.stage duty = .ended) ∧
      ∀ duty, moment.stage duty = .ended → later.stage duty = .ended := by
  induction duties generalizing moment with
  | nil => exact ⟨moment, .refl, rfl, List.forall_mem_nil _, fun _ ended => ended⟩
  | cons duty duties inductionHypothesis =>
      obtain ⟨told, comes⟩ := @exists_leave settings run moment sound isCancelled duty
      obtain ⟨later, goesOn, sameCourse, others, stays⟩ :=
        inductionHypothesis (sound.comes comes) (by simpa using isCancelled)
      refine ⟨later, comes.trans goesOn, by simpa using sameCourse, ?_, ?_⟩
      · exact List.forall_mem_cons.mpr ⟨stays duty (Moment.put_stage_self _ _ _), others⟩
      · intro other ended
        apply stays
        by_cases same : other = duty
        · subst same
          exact Moment.put_stage_self _ _ _
        · rw [Moment.put_stage_of_ne _ _ _ same, Moment.tell_stage, ended]

/-- Once the verdict is had, it can be returned without a signal being received. -/
theorem exists_returned (reachable : Reachable settings run moment) (judged : moment.course = .judged answer) :
    ∃ later, Comes settings run moment later ∧ later.course = .returned answer := by
  have stops : Goes settings run moment { moment with cancelled := true, course := .joining answer } := .stop judged
  have sound := (sound_of_reachable reachable).step stops
  obtain ⟨later, comes, joins, ended, _⟩ := @exists_ended settings run _ sound rfl Duty.all
  have returns : Goes settings run later { later with course := .returned answer } :=
    .join joins fun duty => ended duty (Duty.mem_all duty)
  exact ⟨_, (Relation.ReflTransGen.head stops comes).tail returns, rfl⟩

/-- What waiting for the verdict over a script returns is also returned by steps. -/
theorem exists_returned_of_wait {script : Script} {cancelAt : Option Nat} {time : Nat}
    (waited : wait settings run script.scene cancelAt = some (time, answer)) :
    ∃ later, Reachable settings run later ∧ later.course = .returned answer := by
  obtain ⟨verdict, judged, isSettled⟩ := Option.bind_eq_some_iff.mp waited
  rw [settled_script] at isSettled
  obtain ⟨answered, _, same⟩ := Option.map_eq_some_iff.mp isSettled
  cases same
  obtain ⟨moment, reachable, isJudged⟩ := exists_judged_of_run judged
  obtain ⟨later, comes, returned⟩ := exists_returned reachable isJudged
  exact ⟨later, reachable.trans comes, returned⟩

end Joining

/-! ### Monitoring as a whole -/

/-- How the signals of a launch flow. -/
structure Flowing (settings : LaunchSettings) (run : String) : Prop where
  /-- At no moment is the channel full for a signal that is about to be sent, or closed while the merge waits. -/
  uncongested : ∀ moment, Reachable settings run moment → Uncongested moment
  /-- So the verdict, once it is had, can always be returned, though no more signals are received. -/
  returns : ∀ moment answer, Reachable settings run moment → moment.course = .judged answer →
    ∃ later, Comes settings run moment later ∧ later.course = .returned answer
  /-- What is computed for a script is returned by some order of the steps, and is not that the channel was closed. -/
  computed : ∀ (script : Script) cancelAt time answer,
    wait settings run script.scene cancelAt = some (time, answer) →
    (∃ later, Reachable settings run later ∧ later.course = .returned answer) ∧
      answer ≠ .error (.watchClosed "monitor")

/-- The channel between the watchers of a launch and the merge of their signals is never full and never closed early, in
whatever order they take their steps. -/
theorem flowing (settings : LaunchSettings) (run : String) : Flowing settings run where
  uncongested := fun _ reachable => (sound_of_reachable reachable).uncongested
  returns := fun _ _ reachable judged => exists_returned reachable judged
  computed := by
    intro script cancelAt time answer waited
    obtain ⟨later, reachable, returned⟩ := exists_returned_of_wait waited
    have answered : later.course.answer? = some answer := by rw [returned, Course.answer?]
    exact ⟨⟨later, reachable, returned⟩, (sound_of_reachable reachable).uncongested.answers answer answered⟩

/-! ### How full the channel gets -/

/-- Watchers that all have something to signal may all have sent it before anything is received. -/
theorem exists_unreceived {settings : LaunchSettings} {run : String} {script : Script}
    (sends : ∀ duty, ∃ time signal, (life settings run script none duty).Sends time signal) {duties : List Duty}
    (distinct : duties.Nodup) {moment : Moment} (waits : ∀ duty ∈ duties, moment.stage duty = .watching duty.start)
    (uncancelled : moment.cancelled = false) (room : moment.channel.length + duties.length ≤ signalBuffer) :
    ∃ later, Comes settings run moment later ∧ later.channel.length = moment.channel.length + duties.length := by
  induction duties generalizing moment with
  | nil => exact ⟨moment, .refl, rfl⟩
  | cons duty duties inductionHypothesis =>
      obtain ⟨time, signal, endsAt, signals⟩ := sends duty
      rw [List.nodup_cons] at distinct
      rw [List.length_cons] at room ⊢
      have stands := waits duty List.mem_cons_self
      have lives := comes_of_life stands uncancelled (by omega) endsAt rfl
      rw [signals] at lives
      have longer : ((moment.send duty signal).put duty .ended).channel.length = moment.channel.length + 1 := by simp
      have others : ∀ other ∈ duties,
          ((moment.send duty signal).put duty .ended).stage other = .watching other.start := by
        intro other member
        have differs : other ≠ duty := by
          intro same
          subst same
          exact distinct.1 member
        rw [Moment.put_stage_of_ne _ _ _ differs]
        exact waits other (List.mem_cons_of_mem _ member)
      obtain ⟨later, comes, length⟩ := inductionHypothesis distinct.2 others uncancelled (by omega)
      exact ⟨later, lives.trans comes, by omega⟩

/-- A script in which every watcher has something to signal. -/
def crowding : Script where
  lookup := (some 1, .ok default)
  queue := {}
  run := {}
  pod := { closesAt := some 5 }

/-- With all four signals in the channel and none received, there is room still. -/
theorem flowing_crowded :
    ∃ moment, Reachable ⟨"team", "dev", false, {}⟩ "run-a" moment ∧ moment.channel.length = 4 ∧
      Uncongested moment := by
  have sends : ∀ duty, ∃ time signal,
      (life ⟨"team", "dev", false, {}⟩ "run-a" crowding none duty).Sends time signal := by
    intro duty
    cases duty
    all_goals exact ⟨_, _, rfl, rfl⟩
  have start : ∀ duty ∈ Duty.all, ({} : Moment).stage duty = .watching duty.start := fun _ _ => rfl
  obtain ⟨moment, reachable, full⟩ := exists_unreceived sends (by decide) start rfl (by decide)
  exact ⟨moment, reachable, full, (flowing _ _).uncongested moment reachable⟩

end Monitor

end Turnstile
