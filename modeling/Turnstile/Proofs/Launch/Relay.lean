/-
Module: Turnstile.Proofs.Launch.Relay
Purpose: How a session and the wait for its exit code are carried out, step by step, and what comes of it.
Main exports: Inevitable, inevitable_of_rank, Relay.Moment, Relay.poll, Relay.Step, Relay.Due, Relay.Relaying,
  Relay.relaying
-/
import Mathlib.Logic.Relation
import Turnstile.Launch.Relay

/-!
A call is carried out by two tasks.  The one listens for the exit code and ends by itself.  The other makes the
connection, waits for the end of the session and then for the listener; whenever it is polled it looks first for
a cancellation, then for what it waits for, then at its deadline.  It stops the listener on its way out.  Time
moves on only when neither task has anything to do.

In which order two tasks that have something to do at the same time are polled is left open.  So all executions
end alike, except where the exit code comes at the very end of the grace period.
-/

namespace Turnstile

/-! ### What every execution comes to -/

/-- Every execution from a state comes to the goal. -/
inductive Inevitable {State : Type} (step : State → State → Prop) (goal : State → Prop) : State → Prop where
  | reached {state : State} (met : goal state) : Inevitable step goal state
  | onward {state : State} (moves : ∃ next, step state next)
      (every : ∀ next, step state next → Inevitable step goal next) : Inevitable step goal state

/-- The goal is inevitable if steps keep an invariant and lower a rank, and none is missing before the goal. -/
theorem inevitable_of_rank {State : Type} {step : State → State → Prop} {goal : State → Prop}
    (invariant : State → Prop) (rank : State → Nat)
    (keeps : ∀ {state next}, invariant state → step state next → invariant next ∧ rank next < rank state)
    (progress : ∀ {state}, invariant state → goal state ∨ ∃ next, step state next) {state : State}
    (holds : invariant state) : Inevitable step goal state := by
  induction bound : rank state using Nat.strongRecOn generalizing state with
  | ind bound inductionHypothesis =>
      rcases progress holds with met | moves
      · exact .reached met
      · refine .onward moves fun next move => ?_
        obtain ⟨kept, lower⟩ := keeps holds move
        exact inductionHypothesis (rank next) (bound ▸ lower) kept rfl

namespace Relay

/-! ### Carrying a call out -/

/-- Where the call stands. -/
inductive Phase where
  | begun
  | connected
  | waiting (since : Nat)
  | closed (time : Nat) (result : Except LaunchFailure Unit)

/-- Where the listener for the exit code stands. -/
inductive Listener where
  | listening
  | ended
  | stopped
deriving DecidableEq

/-- A moment of an execution: the time, where the two tasks stand, and the connections that were made. -/
structure Moment where
  time : Nat := 0
  phase : Phase := .begun
  listener : Listener := .listening
  calls : List Connection := []

variable (relay : Relay) (session : Session) (cancelAt : Option Nat)

/-- Return a result, and stop the listener unless it has ended. -/
def Moment.leave (moment : Moment) (result : Except LaunchFailure Unit) : Moment :=
  { moment with
    phase := .closed moment.time result
    listener := if moment.listener = .ended then .ended else .stopped }

/-- Look whether the session is over: a failed one is the result, after a good one the exit code is waited for. -/
def pollSession (moment : Moment) : Moment :=
  match relay.session with
  | none => moment
  | some (left, result) =>
    if left ≤ moment.time then
      match result with
      | .error failure => moment.leave (.error failure)
      | .ok _ => { moment with phase := .waiting moment.time }
    else moment

/-- Look whether the listener has ended, then whether the grace period is over. -/
def pollListener (moment : Moment) (since : Nat) : Moment :=
  match moment.listener, relay.exit with
  | .ended, some (_, told) => moment.leave told.outcome
  | _, _ =>
    if since + relay.grace ≤ moment.time then moment.leave (.error (.exitRelayTimeout (.ofMillis relay.grace)))
    else moment

/-- Poll the call.  The connection is made when it is polled for the first time. -/
def poll (moment : Moment) : Moment :=
  match moment.phase with
  | .closed _ _ => moment
  | .begun =>
    if comesBy cancelAt (some moment.time) then moment.leave (.error .cancelled)
    else relay.pollSession { moment with phase := .connected, calls := moment.calls ++ [session.connection] }
  | .connected =>
    if comesBy cancelAt (some moment.time) then moment.leave (.error .cancelled)
    else relay.pollSession moment
  | .waiting since =>
    if comesBy cancelAt (some moment.time) then moment.leave (.error .cancelled)
    else relay.pollListener moment since

/-- The listener has something to do. -/
def Hears (moment : Moment) : Prop :=
  moment.listener = .listening ∧ ∃ known told, relay.exit = some (known, told) ∧ known ≤ moment.time

/-- How an execution goes on. -/
inductive Step : Moment → Moment → Prop where
  | poll {moment : Moment} (moves : relay.poll session cancelAt moment ≠ moment) :
      Step moment (relay.poll session cancelAt moment)
  | hear {moment : Moment} (hears : relay.Hears moment) : Step moment { moment with listener := .ended }
  | tick {moment : Moment} (running : ∀ time result, moment.phase ≠ .closed time result)
      (idle : relay.poll session cancelAt moment = moment) (quiet : ¬ relay.Hears moment) :
      Step moment { moment with time := moment.time + 1 }

/-! ### What is due -/

/-- What a call may return, and when. -/
inductive Due : Nat → Except LaunchFailure Unit → Prop where
  /-- It is cancelled before it begins, or while the session lasts. -/
  | interrupted {cancel : Nat} (cancels : cancelAt = some cancel)
      (lasts : ∀ left result, relay.session = some (left, result) → cancel ≤ left) : Due cancel (.error .cancelled)
  /-- It is cancelled while it waits for the exit code. -/
  | abandoned {cancel left : Nat} (cancels : cancelAt = some cancel) (ended : relay.session = some (left, .ok ()))
      (later : left < cancel) (unknown : ∀ known told, relay.exit = some (known, told) → cancel ≤ max left known)
      (graced : cancel ≤ left + relay.grace) : Due cancel (.error .cancelled)
  /-- The session fails. -/
  | failed {left : Nat} {failure : LaunchFailure} (ended : relay.session = some (left, .error failure))
      (before : ∀ cancel, cancelAt = some cancel → left < cancel) : Due left (.error failure)
  /-- The exit code is known in time. -/
  | reported {left known : Nat} {told : RelayEnd} (ended : relay.session = some (left, .ok ()))
      (exits : relay.exit = some (known, told)) (inTime : known ≤ left + relay.grace)
      (before : ∀ cancel, cancelAt = some cancel → max left known < cancel) : Due (max left known) told.outcome
  /-- The exit code is not known in time. -/
  | timedOut {left : Nat} (ended : relay.session = some (left, .ok ()))
      (unknown : ∀ known told, relay.exit = some (known, told) → left + relay.grace ≤ known)
      (before : ∀ cancel, cancelAt = some cancel → left + relay.grace < cancel) :
      Due (left + relay.grace) (.error (.exitRelayTimeout (.ofMillis relay.grace)))

/-- The exit code does not come at the very end of the grace period. -/
def Untied : Prop :=
  ∀ left result known told, relay.session = some (left, result) → relay.exit = some (known, told) →
    known ≠ left + relay.grace

variable {relay : Relay} {session : Session} {cancelAt : Option Nat} {moment : Moment} {time : Nat}
  {result : Except LaunchFailure Unit}

theorem comesBy_iff {limit : Nat} :
    comesBy cancelAt (some limit) = true ↔ ∃ cancel, cancelAt = some cancel ∧ cancel ≤ limit := by
  cases cancelAt <;> simp [comesBy]

theorem not_comesBy_iff {limit : Nat} :
    ¬ comesBy cancelAt (some limit) = true ↔ ∀ cancel, cancelAt = some cancel → limit < cancel := by
  cases cancelAt <;> simp [comesBy]

/-- What is due is due once, unless the exit code comes at the very end of the grace period. -/
theorem Due.unique (untied : relay.Untied) (due : relay.Due cancelAt time result) {otherTime : Nat}
    {other : Except LaunchFailure Unit} (otherDue : relay.Due cancelAt otherTime other) :
    time = otherTime ∧ result = other := by
  have apart := untied
  unfold Untied at apart
  cases due <;> cases otherDue <;> grind

/-- What is computed for the wait after a good session is due. -/
theorem due_of_afterSession {left : Nat} (ended : relay.session = some (left, .ok ()))
    (before : ∀ cancel, cancelAt = some cancel → left < cancel) :
    relay.Due cancelAt (relay.afterSession cancelAt left).1 (relay.afterSession cancelAt left).2 := by
  unfold afterSession
  cases exits : relay.exit with
  | none =>
      simp only
      split
      · rename_i graced
        obtain ⟨cancel, cancels, inTime⟩ := comesBy_iff.mp graced
        have moment : cancelAt.getD 0 = cancel := by rw [cancels, Option.getD_some]
        rw [moment]
        exact .abandoned cancels ended (before cancel cancels) (by simp [exits]) inTime
      · rename_i undisturbed
        exact .timedOut ended (by simp [exits]) (not_comesBy_iff.mp undisturbed)
  | some ending =>
      obtain ⟨known, told⟩ := ending
      simp only
      split
      · rename_i graced
        obtain ⟨cancel, cancels, inTime⟩ := comesBy_iff.mp graced
        have moment : cancelAt.getD 0 = cancel := by rw [cancels, Option.getD_some]
        rw [moment]
        obtain ⟨unknown, graced⟩ := Nat.le_min.mp inTime
        refine .abandoned cancels ended (before cancel cancels) ?_ graced
        simpa [exits] using unknown
      · rename_i undisturbed
        have later := not_comesBy_iff.mp undisturbed
        split
        · rename_i inTime
          refine .reported ended exits (by omega) fun cancel cancels => ?_
          have least := later cancel cancels
          omega
        · rename_i late
          refine .timedOut ended (fun other _ same => ?_) fun cancel cancels => ?_
          · rw [exits] at same
            cases same
            omega
          · have least := later cancel cancels
            omega

/-- What is computed for a call is due. -/
theorem due_of_outcome (computed : relay.outcome cancelAt = some (time, result)) : relay.Due cancelAt time result := by
  unfold outcome at computed
  cases ended : relay.session with
  | none =>
      simp only [ended, Option.map_eq_some_iff, Prod.mk.injEq] at computed
      obtain ⟨cancel, cancels, rfl, rfl⟩ := computed
      exact .interrupted cancels (by simp [ended])
  | some ending =>
      obtain ⟨left, given⟩ := ending
      simp only [ended] at computed
      split at computed
      · rename_i during
        obtain ⟨cancel, cancels, inTime⟩ := comesBy_iff.mp during
        simp only [cancels, Option.map_some, Option.some.injEq, Prod.mk.injEq] at computed
        obtain ⟨rfl, rfl⟩ := computed
        exact .interrupted cancels (by simpa [ended] using inTime)
      · rename_i undisturbed
        have before := not_comesBy_iff.mp undisturbed
        cases given with
        | error failure =>
            cases computed
            exact .failed ended before
        | ok value =>
            have due := due_of_afterSession ended before
            rw [Option.some.inj computed] at due
            exact due

/-- A call returns unless its session lasts for ever and nobody cancels it. -/
theorem outcome_eq_none_iff : relay.outcome cancelAt = none ↔ relay.session = none ∧ cancelAt = none := by
  unfold outcome
  cases relay.session with
  | none => simp
  | some ending =>
      obtain ⟨left, given⟩ := ending
      simp only [reduceCtorEq, false_and, iff_false]
      split
      · rename_i during
        obtain ⟨cancel, cancels, _⟩ := comesBy_iff.mp during
        simp [cancels]
      · cases given <;> simp

/-- What is due is what is computed, unless the exit code comes at the very end of the grace period. -/
theorem outcome_eq_some_iff (untied : relay.Untied) :
    relay.outcome cancelAt = some (time, result) ↔ relay.Due cancelAt time result := by
  refine ⟨due_of_outcome, fun due => ?_⟩
  cases computed : relay.outcome cancelAt with
  | none =>
      obtain ⟨endless, uncancelled⟩ := outcome_eq_none_iff.mp computed
      cases due <;> simp_all
  | some ending =>
      obtain ⟨sameTime, sameResult⟩ := due.unique untied (due_of_outcome computed)
      rw [sameTime, sameResult]

/-! ### What an execution keeps -/

/-- The connections of a call that was not cancelled before it began, or none. -/
def expected (session : Session) (cancelAt : Option Nat) : List Connection :=
  if cancelAt = some 0 then [] else [if session.attach then .attach session.pod session.run else .follow session.pod]

/-- What is known of a call where it stands. -/
def Stands (relay : Relay) (session : Session) (cancelAt : Option Nat) (moment : Moment) : Phase → Prop
  | .begun => moment.time = 0 ∧ moment.calls = []
  | .connected => moment.calls = expected session cancelAt ∧ (∀ cancel, cancelAt = some cancel → moment.time ≤ cancel) ∧
      ∀ left result, relay.session = some (left, result) → moment.time ≤ left
  | .waiting since => moment.calls = expected session cancelAt ∧ relay.session = some (since, .ok ()) ∧
      since ≤ moment.time ∧ moment.time ≤ since + relay.grace ∧
      (∀ cancel, cancelAt = some cancel → since < cancel ∧ moment.time ≤ cancel) ∧
      (moment.listener = .ended → ∀ known told, relay.exit = some (known, told) → moment.time ≤ max since known)
  | .closed time result => moment.calls = expected session cancelAt ∧ moment.listener ≠ .listening ∧
      relay.Due cancelAt time result

/-- What every execution keeps. -/
structure Sound (relay : Relay) (session : Session) (cancelAt : Option Nat) (moment : Moment) : Prop where
  stands : relay.Stands session cancelAt moment moment.phase
  listening : moment.listener = .listening → ∀ known told, relay.exit = some (known, told) → moment.time ≤ known
  ended : moment.listener = .ended → ∃ known told, relay.exit = some (known, told) ∧ known ≤ moment.time
  stopped : moment.listener = .stopped → ∃ time result, moment.phase = .closed time result

theorem sound_start : relay.Sound session cancelAt {} where
  stands := ⟨rfl, rfl⟩
  listening := fun _ _ _ _ => Nat.zero_le _
  ended := fun impossible => by cases impossible
  stopped := fun impossible => by cases impossible

/-- While a call runs, its listener is not stopped. -/
theorem Sound.not_stopped (sound : relay.Sound session cancelAt moment)
    (running : ∀ time result, moment.phase ≠ .closed time result) : moment.listener ≠ .stopped := by
  intro stopped
  obtain ⟨time, result, closed⟩ := sound.stopped stopped
  exact running time result closed

/-- A call that returns what is due is sound. -/
theorem Sound.leave (sound : relay.Sound session cancelAt moment) (made : moment.calls = expected session cancelAt)
    (due : relay.Due cancelAt moment.time result) : relay.Sound session cancelAt (moment.leave result) where
  stands := by
    refine ⟨made, ?_, due⟩
    simp only [Moment.leave]
    split <;> simp
  listening := by
    simp only [Moment.leave]
    split <;> simp
  ended := by
    intro ended
    apply sound.ended
    simp only [Moment.leave] at ended
    split at ended
    · assumption
    · cases ended
  stopped := fun _ => ⟨_, _, rfl⟩

/-- A connected call that is not cancelled by now stays sound when it looks for the end of its session. -/
theorem Sound.pollSession (sound : relay.Sound session cancelAt moment) (connected : moment.phase = .connected)
    (undisturbed : ∀ cancel, cancelAt = some cancel → moment.time < cancel) :
    relay.Sound session cancelAt (relay.pollSession moment) := by
  have stands := sound.stands
  rw [connected] at stands
  obtain ⟨made, _, lasts⟩ := stands
  unfold Relay.pollSession
  split
  · exact sound
  · rename_i left given ended
    split
    · rename_i reached
      -- The session was not over before, so it is over just now.
      have now : left = moment.time := Nat.le_antisymm reached (lasts left given ended)
      subst now
      cases given with
      | error failure => exact sound.leave made (.failed ended undisturbed)
      | ok value =>
          refine ⟨⟨made, ended, Nat.le_refl _, Nat.le_add_right _ _, fun cancel cancels => ?_, fun _ _ _ _ => ?_⟩,
            sound.listening, sound.ended, fun stopped => ?_⟩
          · exact ⟨undisturbed cancel cancels, Nat.le_of_lt (undisturbed cancel cancels)⟩
          · exact Nat.le_max_left _ _
          · exact absurd stopped (sound.not_stopped (by simp [connected]))
    · exact sound

/-- A call that waits for its exit code and is not cancelled by now stays sound when it looks for it. -/
theorem Sound.pollListener (sound : relay.Sound session cancelAt moment) {since : Nat}
    (waiting : moment.phase = .waiting since)
    (undisturbed : ∀ cancel, cancelAt = some cancel → moment.time < cancel) :
    relay.Sound session cancelAt (relay.pollListener moment since) := by
  have stands := sound.stands
  rw [waiting] at stands
  obtain ⟨made, good, began, graced, _, prompt⟩ := stands
  unfold Relay.pollListener
  split
  · rename_i exited told ended exits
    obtain ⟨known, told', exits', reached⟩ := sound.ended ended
    cases exits.symm.trans exits'
    have now : moment.time = max since exited := by
      have latest := prompt ended exited told exits
      omega
    refine sound.leave made ?_
    rw [now]
    refine .reported good exits (by omega) fun cancel cancels => ?_
    have later := undisturbed cancel cancels
    omega
  · rename_i unheard
    split
    · rename_i expired
      have now : moment.time = since + relay.grace := by omega
      refine sound.leave made ?_
      rw [now] at undisturbed ⊢
      refine .timedOut good (fun known told exits => ?_) undisturbed
      rw [← now]
      cases listener : moment.listener with
      | listening => exact sound.listening listener known told exits
      | ended => exact absurd exits (unheard known told listener)
      | stopped => exact absurd listener (sound.not_stopped (by simp [waiting]))
    · exact sound

/-- A call that is over stays as it is, and every other call stays sound when it is polled. -/
theorem Sound.poll (sound : relay.Sound session cancelAt moment) :
    relay.Sound session cancelAt (relay.poll session cancelAt moment) := by
  have stands := sound.stands
  unfold Relay.poll
  split
  · exact sound
  · rename_i begun
    rw [begun] at stands
    obtain ⟨atOnce, none⟩ := stands
    split
    · rename_i cancelled
      obtain ⟨cancel, cancels, reached⟩ := comesBy_iff.mp cancelled
      have now : cancel = moment.time := by omega
      subst now
      refine sound.leave ?_ (.interrupted cancels fun _ _ _ => by omega)
      rw [none, expected, if_pos (by rw [cancels, atOnce])]
    · rename_i undisturbed
      have later := not_comesBy_iff.mp undisturbed
      suffices connects : relay.Sound session cancelAt
          { moment with phase := .connected, calls := moment.calls ++ [session.connection] } from
        connects.pollSession rfl later
      refine ⟨⟨?_, fun cancel cancels => ?_, fun _ _ _ => ?_⟩, sound.listening, sound.ended, fun stopped => ?_⟩
      · have early : cancelAt ≠ some 0 := fun cancels => by
          have least := later 0 cancels
          omega
        simp [expected, early, none, Session.connection]
      · exact Nat.le_of_lt (later cancel cancels)
      · simp [atOnce]
      · exact absurd stopped (sound.not_stopped (by simp [begun]))
  · rename_i connected
    rw [connected] at stands
    obtain ⟨made, uncancelled, lasts⟩ := stands
    split
    · rename_i cancelled
      obtain ⟨cancel, cancels, reached⟩ := comesBy_iff.mp cancelled
      have now : cancel = moment.time := Nat.le_antisymm reached (uncancelled cancel cancels)
      subst now
      exact sound.leave made (.interrupted cancels lasts)
    · rename_i undisturbed
      exact sound.pollSession connected (not_comesBy_iff.mp undisturbed)
  · rename_i since waiting
    rw [waiting] at stands
    obtain ⟨made, good, began, graced, uncancelled, prompt⟩ := stands
    split
    · rename_i cancelled
      obtain ⟨cancel, cancels, reached⟩ := comesBy_iff.mp cancelled
      obtain ⟨later, latest⟩ := uncancelled cancel cancels
      have now : cancel = moment.time := Nat.le_antisymm reached latest
      subst now
      refine sound.leave made (.abandoned cancels good later (fun known told exits => ?_) graced)
      cases listener : moment.listener with
      | listening => exact Nat.le_trans (sound.listening listener known told exits) (Nat.le_max_right _ _)
      | ended => exact prompt listener known told exits
      | stopped => exact absurd listener (sound.not_stopped (by simp [waiting]))
    · rename_i undisturbed
      exact sound.pollListener waiting (not_comesBy_iff.mp undisturbed)

/-- The listener hears of the exit code when it comes. -/
theorem Sound.hear (sound : relay.Sound session cancelAt moment) (hears : relay.Hears moment) :
    relay.Sound session cancelAt { moment with listener := .ended } := by
  obtain ⟨listening, known, told, exits, reached⟩ := hears
  have now : moment.time = known := Nat.le_antisymm (sound.listening listening known told exits) reached
  have stands := sound.stands
  refine ⟨?_, (fun impossible => by cases impossible), fun _ => ⟨known, told, exits, reached⟩,
    (fun impossible => by cases impossible)⟩
  cases phase : moment.phase with
  | begun =>
      rw [phase] at stands
      exact stands
  | connected =>
      rw [phase] at stands
      exact stands
  | waiting since =>
      rw [phase] at stands
      obtain ⟨made, good, began, graced, uncancelled, _⟩ := stands
      refine ⟨made, good, began, graced, uncancelled, fun _ other otherTold otherExits => ?_⟩
      cases exits.symm.trans otherExits
      exact now ▸ Nat.le_max_right _ _
  | closed time result =>
      rw [phase] at stands
      obtain ⟨made, _, due⟩ := stands
      exact ⟨made, by simp, due⟩

/-- How many phases a call has before it. -/
def Phase.ahead : Phase → Nat
  | .begun => 3
  | .connected => 2
  | .waiting _ => 1
  | .closed _ _ => 0

/-- One moment comes of another without time passing, and in a later phase. -/
structure Further (moment next : Moment) : Prop where
  time : next.time = moment.time
  phase : next.phase.ahead < moment.phase.ahead
  listener : next.listener = .listening → moment.listener = .listening

theorem further_leave (running : ∀ time result, moment.phase ≠ .closed time result)
    (result : Except LaunchFailure Unit) : Further moment (moment.leave result) where
  time := rfl
  phase := by
    cases phase : moment.phase with
    | closed time result => exact absurd phase (running time result)
    | _ => simp [Moment.leave, Phase.ahead]
  listener := by
    simp only [Moment.leave]
    split <;> simp

theorem further_pollSession (connected : moment.phase = .connected) :
    relay.pollSession moment = moment ∨ Further moment (relay.pollSession moment) := by
  unfold pollSession
  split
  · exact .inl rfl
  · split
    · split
      · exact .inr (further_leave (by simp [connected]) _)
      · exact .inr ⟨rfl, by simp [connected, Phase.ahead], id⟩
    · exact .inl rfl

theorem further_pollListener {since : Nat} (waiting : moment.phase = .waiting since) :
    relay.pollListener moment since = moment ∨ Further moment (relay.pollListener moment since) := by
  unfold pollListener
  split
  · exact .inr (further_leave (by simp [waiting]) _)
  · split
    · exact .inr (further_leave (by simp [waiting]) _)
    · exact .inl rfl

/-- A call that has not begun is brought further by polling. -/
theorem further_poll_of_begun (begun : moment.phase = .begun) :
    Further moment (relay.poll session cancelAt moment) := by
  simp only [poll, begun]
  split
  · exact further_leave (by simp [begun]) _
  · generalize made : ({ moment with
      phase := .connected, calls := moment.calls ++ [session.connection] } : Moment) = next
    have onward : Further moment next := by
      subst made
      exact ⟨rfl, by simp [begun, Phase.ahead], id⟩
    have connected : next.phase = .connected := by rw [← made]
    have polled : relay.pollSession next = next ∨ Further next (relay.pollSession next) :=
      further_pollSession connected
    rcases polled with same | further
    · rw [same]
      exact onward
    · exact ⟨further.time.trans onward.time, Nat.lt_trans further.phase onward.phase,
        fun listening => onward.listener (further.listener listening)⟩

/-- Polling leaves a call as it is, or brings it further. -/
theorem further_poll (relay : Relay) (session : Session) (cancelAt : Option Nat) (moment : Moment) :
    relay.poll session cancelAt moment = moment ∨ Further moment (relay.poll session cancelAt moment) := by
  cases phase : moment.phase with
  | begun => exact .inr (further_poll_of_begun phase)
  | connected =>
      simp only [poll, phase]
      split
      · exact .inr (further_leave (by simp [phase]) _)
      · exact further_pollSession phase
  | waiting since =>
      simp only [poll, phase]
      split
      · exact .inr (further_leave (by simp [phase]) _)
      · exact further_pollListener phase
  | closed time result =>
      simp only [poll, phase]
      exact .inl trivial

/-- What polling leaves as it is, it does not bring further. -/
theorem not_further_of_idle (idle : relay.poll session cancelAt moment = moment) {next : Moment}
    (same : relay.poll session cancelAt moment = next) : ¬ Further moment next := by
  intro further
  rw [← same, idle] at further
  exact Nat.lt_irrefl _ further.phase

/-- A running call that polling leaves as it is has not been cancelled by now, and what it waits for has not
come. -/
structure Idle (relay : Relay) (cancelAt : Option Nat) (moment : Moment) : Prop where
  undisturbed : ∀ cancel, cancelAt = some cancel → moment.time < cancel
  begun : moment.phase ≠ .begun
  lasts : moment.phase = .connected → ∀ left result, relay.session = some (left, result) → moment.time < left
  unheard : ∀ since, moment.phase = .waiting since →
    moment.time < since + relay.grace ∧ (moment.listener = .ended → relay.exit = none)

theorem idle_of_poll (running : ∀ time result, moment.phase ≠ .closed time result)
    (idle : relay.poll session cancelAt moment = moment) : relay.Idle cancelAt moment := by
  have unreturned : ∀ result, relay.poll session cancelAt moment ≠ moment.leave result := fun result same =>
    not_further_of_idle idle same (further_leave running result)
  have uncancelled : ¬ comesBy cancelAt (some moment.time) = true := by
    intro cancelled
    apply unreturned (.error .cancelled)
    cases phase : moment.phase with
    | closed time result => exact absurd phase (running time result)
    | _ => simp [poll, phase, cancelled]
  refine ⟨not_comesBy_iff.mp uncancelled, fun begun => ?_, fun connected left result ended => ?_,
    fun since waiting => ⟨?_, fun heard => ?_⟩⟩
  · exact not_further_of_idle idle rfl (further_poll_of_begun begun)
  · refine Nat.lt_of_not_le fun reached => ?_
    cases result with
    | error failure =>
        exact unreturned (.error failure) (by simp [poll, connected, uncancelled, pollSession, ended, reached])
    | ok value =>
        have onward : Further moment { moment with phase := .waiting moment.time } :=
          ⟨rfl, by simp [connected, Phase.ahead], id⟩
        exact not_further_of_idle idle (by simp [poll, connected, uncancelled, pollSession, ended, reached]) onward
  · refine Nat.lt_of_not_le fun expired => ?_
    have polled : relay.poll session cancelAt moment = relay.pollListener moment since := by
      simp [poll, waiting, uncancelled]
    unfold pollListener at polled
    split at polled
    · exact unreturned _ polled
    · rw [if_pos expired] at polled
      exact unreturned _ polled
  · cases exits : relay.exit with
    | none => rfl
    | some ending =>
        exact absurd (by simp [poll, waiting, uncancelled, pollListener, heard, exits]) (unreturned ending.2.outcome)

/-- Where neither task has anything to do, time may move on. -/
theorem Sound.tick (sound : relay.Sound session cancelAt moment) (idle : relay.Idle cancelAt moment)
    (running : ∀ time result, moment.phase ≠ .closed time result) (quiet : ¬ relay.Hears moment) :
    relay.Sound session cancelAt { moment with time := moment.time + 1 } := by
  have stands := sound.stands
  refine ⟨?_, fun listening known told exits => ?_, fun ended => ?_, sound.stopped⟩
  · cases phase : moment.phase with
    | closed time result => exact absurd phase (running time result)
    | begun => exact absurd phase idle.begun
    | connected =>
        rw [phase] at stands
        exact ⟨stands.1, idle.undisturbed, idle.lasts phase⟩
    | waiting since =>
        rw [phase] at stands
        obtain ⟨made, good, began, _, uncancelled, _⟩ := stands
        obtain ⟨graced, unheard⟩ := idle.unheard since phase
        refine ⟨made, good, Nat.le_succ_of_le began, graced,
          fun cancel cancels => ⟨(uncancelled cancel cancels).1, idle.undisturbed cancel cancels⟩,
          fun ended known told exits => ?_⟩
        rw [unheard ended] at exits
        cases exits
  · exact Nat.lt_of_not_le fun reached => quiet ⟨listening, known, told, exits, reached⟩
  · obtain ⟨known, told, exits, reached⟩ := sound.ended ended
    exact ⟨known, told, exits, Nat.le_succ_of_le reached⟩

/-- Every step keeps a call sound. -/
theorem Sound.step {next : Moment} (sound : relay.Sound session cancelAt moment)
    (step : relay.Step session cancelAt moment next) : relay.Sound session cancelAt next := by
  cases step with
  | poll moves => exact sound.poll
  | hear hears => exact sound.hear hears
  | tick running idle quiet => exact sound.tick (idle_of_poll running idle) running quiet

/-- Every execution is sound. -/
theorem sound_of_reached (reached : Relation.ReflTransGen (relay.Step session cancelAt) {} moment) :
    relay.Sound session cancelAt moment := by
  induction reached with
  | refl => exact sound_start
  | tail _ step inductionHypothesis => exact inductionHypothesis.step step

/-! ### Executions end -/

/-- A running call is not past what is due. -/
theorem Sound.time_le (sound : relay.Sound session cancelAt moment)
    (running : ∀ time result, moment.phase ≠ .closed time result) (due : relay.Due cancelAt time result) :
    moment.time ≤ time := by
  have stands := sound.stands
  cases phase : moment.phase with
  | closed time result => exact absurd phase (running time result)
  | begun =>
      rw [phase] at stands
      exact Nat.le_trans (Nat.le_of_eq stands.1) (Nat.zero_le _)
  | connected =>
      rw [phase] at stands
      obtain ⟨_, uncancelled, lasts⟩ := stands
      cases due <;> grind
  | waiting since =>
      rw [phase] at stands
      obtain ⟨_, good, began, graced, uncancelled, prompt⟩ := stands
      have listening := sound.listening
      have stopped := sound.stopped
      cases listener : moment.listener <;> cases due <;> grind

/-- How much an execution has before it until a time. -/
def rank (last : Nat) (moment : Moment) : Nat :=
  8 * (last - moment.time) + 2 * moment.phase.ahead + if moment.listener = .listening then 1 else 0

/-- Every step lowers the rank of a call in which something is due. -/
theorem rank_step_lt {next : Moment} (sound : relay.Sound session cancelAt moment)
    (due : relay.Due cancelAt time result) (step : relay.Step session cancelAt moment next) :
    rank time next < rank time moment := by
  cases step with
  | poll moves =>
      rcases further_poll relay session cancelAt moment with same | further
      · exact absurd same moves
      · have later := further.phase
        have listener := further.listener
        rw [rank, rank, further.time]
        split <;> split <;> grind
  | hear hears =>
      simp [rank, hears.1]
  | tick running idle quiet =>
      have inTime := (sound.tick (idle_of_poll running idle) running quiet).time_le running due
      simp only [rank] at inTime ⊢
      omega

/-- A call that is not over can go on. -/
theorem exists_step (relay : Relay) (session : Session) (cancelAt : Option Nat) (moment : Moment) :
    (∃ time result, moment.phase = .closed time result) ∨ ∃ next, relay.Step session cancelAt moment next := by
  by_cases closed : ∃ time result, moment.phase = .closed time result
  · exact .inl closed
  · refine .inr ?_
    by_cases idle : relay.poll session cancelAt moment = moment
    · by_cases hears : relay.Hears moment
      · exact ⟨_, .hear hears⟩
      · exact ⟨_, .tick (fun time result same => closed ⟨time, result, same⟩) idle hears⟩
    · exact ⟨_, .poll idle⟩

/-- The call has returned, has made the connection that it should make, and has left no listener behind. -/
structure Returned (session : Session) (cancelAt : Option Nat) (time : Nat) (result : Except LaunchFailure Unit)
    (moment : Moment) : Prop where
  closed : moment.phase = .closed time result
  /-- One connection is made, of the kind that the session asks for, and none if it was cancelled before. -/
  calls : moment.calls = if cancelAt = some 0 then []
    else [if session.attach then .attach session.pod session.run else .follow session.pod]
  /-- The listener has ended or was stopped. -/
  listener : moment.listener = .ended ∨ moment.listener = .stopped

theorem Sound.returned (sound : relay.Sound session cancelAt moment) (closed : moment.phase = .closed time result) :
    relay.Due cancelAt time result ∧ Returned session cancelAt time result moment := by
  have stands := sound.stands
  rw [closed] at stands
  obtain ⟨made, quiet, due⟩ := stands
  refine ⟨due, closed, made, ?_⟩
  cases listener : moment.listener with
  | listening => exact absurd listener quiet
  | ended => exact .inl rfl
  | stopped => exact .inr rfl

/-- What comes of a call. -/
structure Relaying (relay : Relay) (session : Session) (cancelAt : Option Nat) : Prop where
  /-- Every execution returns, with something that is due, unless the session lasts for ever and nobody cancels. -/
  returns : relay.session ≠ none ∨ cancelAt ≠ none →
    Inevitable (relay.Step session cancelAt)
      (fun moment => ∃ time result, relay.Due cancelAt time result ∧ Returned session cancelAt time result moment) {}
  /-- In that case no execution returns. -/
  lasts : relay.session = none → cancelAt = none →
    ∀ moment, Relation.ReflTransGen (relay.Step session cancelAt) {} moment →
      ∀ time result, moment.phase ≠ .closed time result
  /-- What is due is unique, unless the exit code comes at the very end of the grace period. -/
  settled : relay.Untied → ∀ {time result otherTime other}, relay.Due cancelAt time result →
    relay.Due cancelAt otherTime other → otherTime = time ∧ other = result
  /-- What is computed is due, and is all that is due if that is unique. -/
  computed : (∀ time result, relay.outcome cancelAt = some (time, result) → relay.Due cancelAt time result) ∧
    (relay.Untied → ∀ time result,
      relay.outcome cancelAt = some (time, result) ↔ relay.Due cancelAt time result)
  /-- It is computed whether a connection is made. -/
  connects : connects cancelAt = true ↔ cancelAt ≠ some 0

/-- A call returns what is due, after one connection at most, and leaves no listener behind. -/
theorem relaying (relay : Relay) (session : Session) (cancelAt : Option Nat) :
    relay.Relaying session cancelAt where
  returns := by
    intro something
    obtain ⟨time, result, due⟩ : ∃ time result, relay.Due cancelAt time result := by
      cases computed : relay.outcome cancelAt with
      | none =>
          obtain ⟨endless, uncancelled⟩ := outcome_eq_none_iff.mp computed
          exact absurd uncancelled (something.resolve_left (not_not_intro endless))
      | some ending => exact ⟨_, _, due_of_outcome computed⟩
    refine inevitable_of_rank (relay.Sound session cancelAt) (rank time) ?_ ?_ sound_start
    · exact fun sound step => ⟨sound.step step, rank_step_lt sound due step⟩
    · intro moment sound
      rcases exists_step relay session cancelAt moment with ⟨_, _, closed⟩ | goesOn
      · exact .inl ⟨_, _, sound.returned closed⟩
      · exact .inr goesOn
  lasts := by
    intro endless uncancelled moment reached time result closed
    obtain ⟨due, _⟩ := (sound_of_reached reached).returned closed
    cases due <;> simp_all
  settled := fun untied _ _ _ _ due otherDue => otherDue.unique untied due
  computed := ⟨fun _ _ => due_of_outcome, fun untied _ _ => outcome_eq_some_iff untied⟩
  connects := by
    cases cancelAt with
    | none => simp [connects, comesBy]
    | some cancel => simp [connects, comesBy]

end Relay

end Turnstile
