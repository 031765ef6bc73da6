/-
Module: Turnstile.Proofs.Watch
Purpose: What holds of every watcher, whatever it watches and whenever it is cancelled.
Main exports: Watcher.Ends, Watcher.ends_of_follow, Watcher.follow_of_ends, Watcher.le_time_of_ends,
  Watcher.ends_stopped, Watcher.ends_unstopped, Watcher.exists_follow_of_cancelled
-/
import Turnstile.Watch

/-!
A watcher ends in one of five ways: it is interrupted before the next event, its watch ends, its watch fails,
it has its answer, or it goes on and ends later.  Whatever it watches, a watcher that is cancelled has ended
by the time of its cancellation, and one that has ended before a time does not notice that it would have been
stopped at that time.
-/

namespace Turnstile.Watcher

variable {State Object Answer : Type} {watcher : Watcher State Object Answer} {cancelAt closesAt next : Option Nat}
  {now : Nat} {state : State} {events : List (Nat × Except WatchFault Object)}
  {ending : Ending Object Answer} {interruption : Nat × Except LaunchFailure Answer}

theorem le_of_interrupted (interrupted : watcher.interrupted? cancelAt now state next = some interruption) :
    now ≤ interruption.1 := by
  unfold interrupted? at interrupted
  cases cancelAt <;> cases deadline : watcher.deadline state <;> cases next <;> grind [sooner, comesBy]

theorem le_limit_of_interrupted {limit : Nat}
    (interrupted : watcher.interrupted? (some limit) now state next = some interruption) :
    interruption.1 ≤ max now limit := by
  unfold interrupted? at interrupted
  cases deadline : watcher.deadline state <;> cases next <;> grind [sooner, comesBy]

theorem lt_limit_of_not_interrupted {limit : Nat}
    (waited : watcher.interrupted? (some limit) now state next = none) :
    ∃ moment, next = some moment ∧ moment < max now limit := by
  unfold interrupted? at waited
  cases deadline : watcher.deadline state <;> cases next <;> grind [sooner, comesBy]

theorem interrupted_stopped {stop : Nat}
    (interrupted : watcher.interrupted? cancelAt now state next = some interruption) (before : interruption.1 < stop) :
    watcher.interrupted? (sooner cancelAt (some stop)) now state next = some interruption := by
  unfold interrupted? at interrupted ⊢
  cases cancelAt <;> cases deadline : watcher.deadline state <;> cases next <;> grind [sooner, comesBy]

theorem not_interrupted_stopped {stop moment : Nat}
    (waited : watcher.interrupted? cancelAt now state (some moment) = none) (before : moment < stop) :
    watcher.interrupted? (sooner cancelAt (some stop)) now state (some moment) = none := by
  unfold interrupted? at waited ⊢
  cases cancelAt <;> cases deadline : watcher.deadline state <;> grind [sooner, comesBy]

theorem interrupted_unstopped {stop : Nat}
    (interrupted : watcher.interrupted? (sooner cancelAt (some stop)) now state next = some interruption)
    (before : interruption.1 < stop) : watcher.interrupted? cancelAt now state next = some interruption := by
  unfold interrupted? at interrupted ⊢
  cases cancelAt <;> cases deadline : watcher.deadline state <;> cases next <;> grind [sooner, comesBy]

theorem not_interrupted_unstopped {stop : Nat}
    (waited : watcher.interrupted? (sooner cancelAt (some stop)) now state next = none) :
    watcher.interrupted? cancelAt now state next = none := by
  unfold interrupted? at waited ⊢
  cases cancelAt <;> cases deadline : watcher.deadline state <;> cases next <;> grind [sooner, comesBy]

/-- When a watcher that waits since `now` sees its next event, or the end of the watch. -/
def nextTime (closesAt : Option Nat) (now : Nat) : List (Nat × Except WatchFault Object) → Option Nat
  | [] => closesAt.map (max now)
  | (earliest, _) :: _ => some (max now earliest)

/-- How a watcher that waits since `now` ends. -/
inductive Ends (watcher : Watcher State Object Answer) (cancelAt closesAt : Option Nat) :
    Nat → State → List (Nat × Except WatchFault Object) → Ending Object Answer → Prop where
  | interrupted {now time : Nat} {state : State} {events : List (Nat × Except WatchFault Object)}
      {answer : Except LaunchFailure Answer}
      (interrupted : watcher.interrupted? cancelAt now state (nextTime closesAt now events) = some (time, answer)) :
      Ends watcher cancelAt closesAt now state events ⟨time, answer, events⟩
  | closed {now moment : Nat} {state : State}
      (waited : watcher.interrupted? cancelAt now state (some moment) = none)
      (closes : closesAt.map (max now) = some moment) :
      Ends watcher cancelAt closesAt now state [] ⟨moment, watcher.closed, []⟩
  | faulty {now earliest : Nat} {state : State} {fault : WatchFault} {rest : List (Nat × Except WatchFault Object)}
      (waited : watcher.interrupted? cancelAt now state (some (max now earliest)) = none) :
      Ends watcher cancelAt closesAt now state ((earliest, .error fault) :: rest)
        ⟨max now earliest, .error (.watch fault), rest⟩
  | answered {now earliest : Nat} {state : State} {object : Object} {given : Except LaunchFailure Answer}
      {rest : List (Nat × Except WatchFault Object)}
      (waited : watcher.interrupted? cancelAt now state (some (max now earliest)) = none)
      (observed : watcher.observe (max now earliest) state object = .answer given) :
      Ends watcher cancelAt closesAt now state ((earliest, .ok object) :: rest) ⟨max now earliest, given, rest⟩
  | onward {now earliest : Nat} {state next : State} {object : Object} {rest : List (Nat × Except WatchFault Object)}
      {ending : Ending Object Answer}
      (waited : watcher.interrupted? cancelAt now state (some (max now earliest)) = none)
      (observed : watcher.observe (max now earliest) state object = .wait next)
      (later : Ends watcher cancelAt closesAt (max now earliest) next rest ending) :
      Ends watcher cancelAt closesAt now state ((earliest, .ok object) :: rest) ending

theorem ends_of_follow (followed : watcher.follow cancelAt closesAt now state events = some ending) :
    watcher.Ends cancelAt closesAt now state events ending := by
  induction events generalizing now state with
  | nil =>
      rw [follow] at followed
      split at followed
      · rename_i interrupted
        cases followed
        exact .interrupted interrupted
      · rename_i waited
        obtain ⟨moment, closes, rfl⟩ := Option.map_eq_some_iff.mp followed
        rw [closes] at waited
        exact .closed waited closes
  | cons event rest inductionHypothesis =>
      obtain ⟨earliest, event⟩ := event
      unfold follow at followed
      simp only at followed
      split at followed
      · rename_i interrupted
        cases followed
        exact .interrupted interrupted
      · rename_i waited
        cases event with
        | error fault =>
            cases followed
            exact .faulty waited
        | ok object =>
            simp only at followed
            split at followed
            · rename_i observed
              cases followed
              exact .answered waited observed
            · rename_i observed
              exact .onward waited observed (inductionHypothesis followed)

theorem follow_of_ends (ends : watcher.Ends cancelAt closesAt now state events ending) :
    watcher.follow cancelAt closesAt now state events = some ending := by
  induction ends with
  | @interrupted now time state events answer interrupted =>
      cases events with
      | nil =>
          rw [nextTime] at interrupted
          simp [follow, interrupted]
      | cons event rest =>
          rw [nextTime] at interrupted
          simp [follow, interrupted]
  | closed waited closes => simp [follow, closes, waited]
  | faulty waited => simp [follow, waited]
  | answered waited observed => simp [follow, waited, observed]
  | onward waited observed _ inductionHypothesis => simp [follow, waited, observed, inductionHypothesis]

theorem le_time_of_ends (ends : watcher.Ends cancelAt closesAt now state events ending) : now ≤ ending.time := by
  induction ends with
  | interrupted interrupted => exact le_of_interrupted interrupted
  | closed _ closes =>
      obtain ⟨close, rfl, rfl⟩ := Option.map_eq_some_iff.mp closes
      exact Nat.le_max_left _ _
  | faulty => exact Nat.le_max_left _ _
  | answered => exact Nat.le_max_left _ _
  | onward _ _ _ inductionHypothesis => exact Nat.le_trans (Nat.le_max_left _ _) inductionHypothesis

/-- A watcher does not notice that it would have been stopped after its end. -/
theorem ends_stopped {stop : Nat} (ends : watcher.Ends cancelAt closesAt now state events ending)
    (before : ending.time < stop) :
    watcher.Ends (sooner cancelAt (some stop)) closesAt now state events ending := by
  induction ends with
  | interrupted interrupted => exact .interrupted (interrupted_stopped interrupted before)
  | closed waited closes => exact .closed (not_interrupted_stopped waited before) closes
  | faulty waited => exact .faulty (not_interrupted_stopped waited before)
  | answered waited observed => exact .answered (not_interrupted_stopped waited before) observed
  | onward waited observed later inductionHypothesis =>
      have reached := Nat.lt_of_le_of_lt (le_time_of_ends later) before
      exact .onward (not_interrupted_stopped waited reached) observed (inductionHypothesis before)

/-- A watcher that ended before its stop would have ended like that without it. -/
theorem ends_unstopped {stop : Nat} (ends : watcher.Ends (sooner cancelAt (some stop)) closesAt now state events ending)
    (before : ending.time < stop) : watcher.Ends cancelAt closesAt now state events ending := by
  induction ends with
  | interrupted interrupted => exact .interrupted (interrupted_unstopped interrupted before)
  | closed waited closes => exact .closed (not_interrupted_unstopped waited) closes
  | faulty waited => exact .faulty (not_interrupted_unstopped waited)
  | answered waited observed => exact .answered (not_interrupted_unstopped waited) observed
  | onward waited observed _ inductionHypothesis =>
      exact .onward (not_interrupted_unstopped waited) observed (inductionHypothesis before)

/-- A watcher that is cancelled has ended by then. -/
theorem exists_follow_of_cancelled (watcher : Watcher State Object Answer) (limit : Nat) (closesAt : Option Nat)
    (now : Nat) (state : State) (events : List (Nat × Except WatchFault Object)) :
    ∃ ending, watcher.follow (some limit) closesAt now state events = some ending ∧ ending.time ≤ max now limit := by
  have fromEnds {ending : Ending Object Answer} {now : Nat} {state : State}
      {events : List (Nat × Except WatchFault Object)}
      (ends : watcher.Ends (some limit) closesAt now state events ending) (inTime : ending.time ≤ max now limit) :
      ∃ ending, watcher.follow (some limit) closesAt now state events = some ending ∧
        ending.time ≤ max now limit :=
    ⟨ending, follow_of_ends ends, inTime⟩
  induction events generalizing now state with
  | nil =>
      cases interrupted : watcher.interrupted? (some limit) now state (closesAt.map (max now)) with
      | some interruption =>
          exact fromEnds (.interrupted interrupted) (le_limit_of_interrupted interrupted)
      | none =>
          obtain ⟨moment, closes, inTime⟩ := lt_limit_of_not_interrupted interrupted
          rw [closes] at interrupted
          exact fromEnds (.closed interrupted closes) (Nat.le_of_lt inTime)
  | cons event rest inductionHypothesis =>
      obtain ⟨earliest, event⟩ := event
      cases interrupted : watcher.interrupted? (some limit) now state (some (max now earliest)) with
      | some interruption =>
          exact fromEnds (.interrupted interrupted) (le_limit_of_interrupted interrupted)
      | none =>
          obtain ⟨moment, same, inTime⟩ := lt_limit_of_not_interrupted interrupted
          cases same
          cases event with
          | error fault => exact fromEnds (.faulty interrupted) (Nat.le_of_lt inTime)
          | ok object =>
              cases observed : watcher.observe (max now earliest) state object with
              | answer given => exact fromEnds (.answered interrupted observed) (Nat.le_of_lt inTime)
              | wait next =>
                  obtain ⟨ending, followed, endsInTime⟩ := inductionHypothesis (max now earliest) next
                  exact fromEnds (.onward interrupted observed (ends_of_follow followed)) (by omega)

end Turnstile.Watcher
