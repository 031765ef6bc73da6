/-
Module: Turnstile.Proofs.Watch.Earliest
Purpose: A watcher ends at the earliest of what can end it: its cancellation, its deadline, what it reads.
Main exports: arrivals, verdict?, IsEarliest, foremost?, Watcher.Halts, Watcher.Keeps, Watcher.exists_halts,
  Watcher.isEarliest_of_halts, Watcher.eq_foremost?_of_halts
-/
import Turnstile.Proofs.Watch

/-!
A watcher that waits for a watch reads each event as soon as it is delivered, and at the end that the watch is
over.  The deadline of a watcher may depend on all that it has read, so it moves while the watcher waits.  To
foresee it from the whole watch, one states what the state of the watcher and what it has yet to read determine
together, and that no event that it waits through changes that.  The watcher then halts in a state where this
holds, and at the earliest of the causes that were foreseen.
-/

namespace Turnstile

/-- The time that has passed in vain, as far as a failure names one. -/
def LaunchFailure.limit? : LaunchFailure → Option Duration
  | .enqueueTimeout limit | .queueTimeout limit | .reconcileTimeout limit | .readyTimeout limit
  | .exitRelayTimeout limit | .workspaceReadyTimeout limit => some limit
  | _ => none

/-- What a watcher reads: an event, or none since the watch is over; with the time at which it reads it. -/
abbrev Arrival (Object : Type) : Type :=
  Nat × Option (Except WatchFault Object)

section Arrivals

variable {Object : Type} {closesAt : Option Nat} {now : Nat} {arrival : Arrival Object}

/-- What a watcher that waits since `now` reads one after the other. -/
def arrivals (closesAt : Option Nat) : Nat → List (Nat × Except WatchFault Object) → List (Arrival Object)
  | now, [] => (closesAt.map fun close => (max now close, none)).toList
  | now, (earliest, event) :: rest => (max now earliest, some event) :: arrivals closesAt (max now earliest) rest

/-- What a watcher that watches from the start reads one after the other. -/
def Timeline.arrivals (timeline : Timeline Object) : List (Arrival Object) :=
  Turnstile.arrivals timeline.closesAt 0 timeline.events

theorem le_of_mem_arrivals {events : List (Nat × Except WatchFault Object)}
    (member : arrival ∈ arrivals closesAt now events) : now ≤ arrival.1 := by
  induction events generalizing now with
  | nil =>
      obtain ⟨close, rfl, rfl⟩ : ∃ close, closesAt = some close ∧ (max now close, none) = arrival := by
        simpa [arrivals] using member
      exact Nat.le_max_left _ _
  | cons event rest inductionHypothesis =>
      rcases List.mem_cons.mp member with rfl | later
      · exact Nat.le_max_left _ _
      · exact Nat.le_trans (Nat.le_max_left _ _) (inductionHypothesis later)

/-- Arrivals come in the order of their times. -/
theorem pairwise_arrivals (closesAt : Option Nat) (now : Nat) (events : List (Nat × Except WatchFault Object)) :
    (arrivals closesAt now events).Pairwise fun first second => first.1 ≤ second.1 := by
  induction events generalizing now with
  | nil => cases closesAt <;> simp [arrivals]
  | cons event rest inductionHypothesis =>
      exact List.pairwise_cons.mpr ⟨fun later member => le_of_mem_arrivals member, inductionHypothesis _⟩

theorem Timeline.inOrder (timeline : Timeline Object) :
    timeline.arrivals.Pairwise fun first second => first.1 ≤ second.1 :=
  pairwise_arrivals timeline.closesAt 0 timeline.events

/-- What comes with an arrival or behind it comes no sooner. -/
theorem le_of_mem_behind {front back : List (Arrival Object)} {other : Arrival Object}
    (ordered : (front ++ arrival :: back).Pairwise fun first second => first.1 ≤ second.1)
    (member : other ∈ arrival :: back) : arrival.1 ≤ other.1 := by
  rcases List.mem_cons.mp member with rfl | behind
  · exact Nat.le_refl _
  · exact (List.pairwise_cons.mp (List.pairwise_append.mp ordered).2.1).1 other behind

end Arrivals

/-! ### What is read first -/

section First

variable {Object Found : Type} {arrivals later : List (Arrival Object)} {time : Nat} {object : Object}

/-- The first arrival that tells something, with its time. -/
def firstTelling? (tells? : Option (Except WatchFault Object) → Option Found) (arrivals : List (Arrival Object)) :
    Option (Nat × Found) :=
  arrivals.findSome? fun arrival => (tells? arrival.2).map (arrival.1, ·)

variable {tells? : Option (Except WatchFault Object) → Option Found} {found : Nat × Found}

theorem firstTelling?_cons_of_none {event : Option (Except WatchFault Object)} (silent : tells? event = none) :
    firstTelling? tells? ((time, event) :: later) = firstTelling? tells? later := by
  simp [firstTelling?, silent]

theorem firstTelling?_cons_of_some {event : Option (Except WatchFault Object)} {told : Found}
    (tells : tells? event = some told) : firstTelling? tells? ((time, event) :: later) = some (time, told) := by
  simp [firstTelling?, tells]

/-- What is told first is told by an arrival before which nothing is told. -/
theorem exists_of_firstTelling? (first : firstTelling? tells? arrivals = some found) :
    ∃ front event back, arrivals = front ++ (found.1, event) :: back ∧ tells? event = some found.2 ∧
      ∀ arrival ∈ front, tells? arrival.2 = none := by
  obtain ⟨front, ⟨moment, event⟩, back, split, found, silent⟩ := List.findSome?_eq_some_iff.mp first
  obtain ⟨told, tells, rfl⟩ := Option.map_eq_some_iff.mp found
  exact ⟨front, event, back, split, tells, fun arrival member => Option.map_eq_none_iff.mp (silent arrival member)⟩

theorem mem_of_firstTelling? (first : firstTelling? tells? arrivals = some found) :
    ∃ event, (found.1, event) ∈ arrivals ∧ tells? event = some found.2 := by
  obtain ⟨front, event, back, rfl, tells, _⟩ := exists_of_firstTelling? first
  exact ⟨event, by simp, tells⟩

/-- What is told at some time is told first by then. -/
theorem exists_firstTelling?_le (ordered : arrivals.Pairwise fun first second => first.1 ≤ second.1)
    {arrival : Arrival Object} (member : arrival ∈ arrivals) (tells : (tells? arrival.2).isSome) :
    ∃ found, firstTelling? tells? arrivals = some found ∧ found.1 ≤ arrival.1 := by
  cases first : firstTelling? tells? arrivals with
  | none =>
      have silent := List.findSome?_eq_none_iff.mp first arrival member
      rw [Option.map_eq_none_iff.mp silent] at tells
      cases tells
  | some found =>
      obtain ⟨front, event, back, rfl, _, silent⟩ := exists_of_firstTelling? first
      refine ⟨found, rfl, ?_⟩
      rcases List.mem_append.mp member with before | after
      · rw [silent arrival before] at tells
        cases tells
      · exact le_of_mem_behind ordered after

/-- What an object tells by having a property. -/
def noted? (noted : Object → Bool) : Option (Except WatchFault Object) → Option Unit
  | some (.ok object) => if noted object then some () else none
  | _ => none

/-- When an object with this property is read for the first time. -/
def firstTime? (noted : Object → Bool) (arrivals : List (Arrival Object)) : Option Nat :=
  (firstTelling? (noted? noted) arrivals).map Prod.fst

variable {noted : Object → Bool}

theorem firstTime?_cons_of_noted (sees : noted object = true) :
    firstTime? noted ((time, some (.ok object)) :: later) = some time := by
  have tells : noted? noted (some (.ok object)) = some () := by simp [noted?, sees]
  rw [firstTime?, firstTelling?_cons_of_some tells, Option.map_some]

theorem firstTime?_cons_of_not_noted (overlooks : noted object = false) :
    firstTime? noted ((time, some (.ok object)) :: later) = firstTime? noted later := by
  rw [firstTime?, firstTelling?_cons_of_none (by simp [noted?, overlooks]), firstTime?]

theorem exists_mem_of_firstTime? (first : firstTime? noted arrivals = some time) :
    ∃ object, (time, some (.ok object)) ∈ arrivals ∧ noted object = true := by
  obtain ⟨found, told, rfl⟩ := Option.map_eq_some_iff.mp first
  obtain ⟨event, member, tells⟩ := mem_of_firstTelling? told
  unfold noted? at tells
  split at tells
  · split at tells
    · exact ⟨_, member, by assumption⟩
    · cases tells
  · cases tells

theorem exists_firstTime?_le (ordered : arrivals.Pairwise fun first second => first.1 ≤ second.1)
    (member : (time, some (.ok object)) ∈ arrivals) (sees : noted object = true) :
    ∃ first, firstTime? noted arrivals = some first ∧ first ≤ time := by
  have tells : (noted? noted (some (.ok object))).isSome := by simp [noted?, sees]
  obtain ⟨found, first, inTime⟩ := exists_firstTelling?_le ordered member tells
  exact ⟨found.1, by rw [firstTime?, first]; rfl, inTime⟩

/-- If nothing is read before a time, nothing is noted before it. -/
theorem le_firstTime? {limit : Nat} (next : ∀ arrival ∈ arrivals, limit ≤ arrival.1) :
    ∀ first ∈ firstTime? noted arrivals, limit ≤ first := by
  intro first seen
  obtain ⟨object, member, _⟩ := exists_mem_of_firstTime? seen
  exact next _ member

/-- If nothing is noted first before a time, nothing is noted before it. -/
theorem le_of_le_firstTime? {limit : Nat} (ordered : arrivals.Pairwise fun first second => first.1 ≤ second.1)
    (late : ∀ first ∈ firstTime? noted arrivals, limit ≤ first) (member : (time, some (.ok object)) ∈ arrivals)
    (sees : noted object = true) : limit ≤ time := by
  obtain ⟨first, seen, inOrder⟩ := exists_firstTime?_le ordered member sees
  exact Nat.le_trans (late first seen) inOrder

theorem not_any_lt_iff {seen : Option Nat} {limit : Nat} :
    ¬ seen.any (· < limit) = true ↔ ∀ first ∈ seen, limit ≤ first := by
  cases seen <;> simp

end First

/-! ### What comes first -/

section Causes

variable {Answer : Type}

/-- A time, and the answer of a watcher that ends then. -/
abbrev Cause (Answer : Type) : Type :=
  Nat × Except LaunchFailure Answer

/-- The outcome is one of the causes and none of them comes sooner.  Without a cause there is no outcome. -/
def IsEarliest (causes : List (Cause Answer)) : Option (Cause Answer) → Prop
  | none => causes = []
  | some outcome => outcome ∈ causes ∧ ∀ cause ∈ causes, outcome.1 ≤ cause.1

/-- The earliest of the causes, and of several that come at the same time the one listed first. -/
def foremost? : List (Cause Answer) → Option (Cause Answer)
  | [] => none
  | cause :: rest =>
    match foremost? rest with
    | none => some cause
    | some other => if cause.1 ≤ other.1 then some cause else some other

theorem mem_of_foremost? {causes : List (Cause Answer)} {outcome : Cause Answer}
    (foremost : foremost? causes = some outcome) : outcome ∈ causes := by
  induction causes with
  | nil => cases foremost
  | cons cause rest inductionHypothesis =>
      rw [foremost?] at foremost
      split at foremost
      · cases foremost
        exact List.mem_cons_self
      · rename_i other first
        split at foremost
        · cases foremost
          exact List.mem_cons_self
        · cases foremost
          exact List.mem_cons_of_mem _ (inductionHypothesis first)

/-- Of any causes one is the foremost. -/
theorem exists_foremost?_of_mem {causes : List (Cause Answer)} {cause : Cause Answer} (member : cause ∈ causes) :
    ∃ outcome, foremost? causes = some outcome := by
  cases causes with
  | nil => cases member
  | cons head rest =>
      rw [foremost?]
      split
      · exact ⟨_, rfl⟩
      · split <;> exact ⟨_, rfl⟩

/-- A cause that none of the later ones precedes is the foremost. -/
theorem foremost?_cons_of_le {outcome : Cause Answer} {rest : List (Cause Answer)}
    (first : ∀ cause ∈ rest, outcome.1 ≤ cause.1) : foremost? (outcome :: rest) = some outcome := by
  rw [foremost?]
  split
  · rfl
  · rename_i other foremost
    rw [if_pos (first other (mem_of_foremost? foremost))]

/-- Causes that come later than the foremost one of those listed behind them do not change it. -/
theorem foremost?_append_of_lt {outcome : Cause Answer} {front rest : List (Cause Answer)}
    (later : ∀ cause ∈ front, outcome.1 < cause.1) (foremost : foremost? rest = some outcome) :
    foremost? (front ++ rest) = some outcome := by
  induction front with
  | nil => exact foremost
  | cons cause front inductionHypothesis =>
      obtain ⟨here, later⟩ := List.forall_mem_cons.mp later
      rw [List.cons_append, foremost?, inductionHypothesis later]
      exact if_neg (Nat.not_le_of_lt here)

/-- What an arrival settles: an object what is decided of it, a fault and the end of the watch their failures. -/
def ruling? {Object : Type} (decide? : Object → Option (Except LaunchFailure Answer))
    (closed : Except LaunchFailure Answer) : Option (Except WatchFault Object) → Option (Except LaunchFailure Answer)
  | none => some closed
  | some (.error fault) => some (.error (.watch fault))
  | some (.ok object) => decide? object

/-- What the first arrival that settles anything settles. -/
def verdict? {Object : Type} (decide? : Object → Option (Except LaunchFailure Answer))
    (closed : Except LaunchFailure Answer) (arrivals : List (Arrival Object)) : Option (Cause Answer) :=
  firstTelling? (ruling? decide? closed) arrivals

/-- A verdict is the end of the watch, its fault, or what was decided of an object, and nothing before that
settled anything. -/
theorem cases_of_verdict? {Object : Type} {decide? : Object → Option (Except LaunchFailure Answer)}
    {closed : Except LaunchFailure Answer} {arrivals : List (Arrival Object)} {cause : Cause Answer}
    (verdict : verdict? decide? closed arrivals = some cause) :
    cause.2 = closed ∨ (∃ fault, cause.2 = .error (.watch fault)) ∨
      ∃ front object back, arrivals = front ++ (cause.1, some (.ok object)) :: back ∧ decide? object = some cause.2 ∧
        ∀ arrival ∈ front, ruling? decide? closed arrival.2 = none := by
  obtain ⟨front, event, back, split, ruled, silent⟩ := exists_of_firstTelling? verdict
  match event with
  | none => exact .inl (Option.some.inj ruled).symm
  | some (.error fault) => exact .inr (.inl ⟨fault, (Option.some.inj ruled).symm⟩)
  | some (.ok object) => exact .inr (.inr ⟨front, object, back, split, ruled, silent⟩)

/-- An answer that is no timeout. -/
def Undated (answer : Except LaunchFailure Answer) : Prop :=
  ∀ failure, answer = .error failure → failure.limit? = none

theorem undated_ok (given : Answer) : Undated (.ok given : Except LaunchFailure Answer) := by
  intro failure same
  cases same

theorem undated_error {failure : LaunchFailure} (undated : failure.limit? = none) :
    Undated (.error failure : Except LaunchFailure Answer) := by
  intro other same
  cases same
  exact undated

/-- If neither decisions nor the end of the watch are timeouts, the verdict is none. -/
theorem undated_of_verdict? {Object : Type} {decide? : Object → Option (Except LaunchFailure Answer)}
    {closed : Except LaunchFailure Answer} {arrivals : List (Arrival Object)} {cause : Cause Answer}
    (undatedEnd : Undated closed) (undated : ∀ object given, decide? object = some given → Undated given)
    (verdict : verdict? decide? closed arrivals = some cause) : Undated cause.2 := by
  rcases cases_of_verdict? verdict with same | ⟨fault, same⟩ | ⟨_, object, _, _, decided, _⟩
  · exact same ▸ undatedEnd
  · exact same ▸ undated_error rfl
  · exact undated object cause.2 decided

/-- A cause that is listed is the cancellation, the verdict, or was foreseen. -/
theorem cases_of_mem_causes {cancelAt : Option Nat} {cancelled : Except LaunchFailure Answer}
    {verdict : Option (Cause Answer)} {foreseen : List (Cause Answer)} {cause : Cause Answer}
    (member : cause ∈ (cancelAt.map fun time => (time, cancelled)).toList ++ verdict.toList ++ foreseen) :
    (cancelAt = some cause.1 ∧ cause.2 = cancelled) ∨ verdict = some cause ∨ cause ∈ foreseen := by
  rw [List.mem_append, List.mem_append, Option.mem_toList, Option.mem_toList] at member
  rcases member with (isCancellation | isVerdict) | isForeseen
  · obtain ⟨time, due, rfl⟩ := Option.map_eq_some_iff.mp isCancellation
    exact .inl ⟨due, rfl⟩
  · exact .inr (.inl isVerdict)
  · exact .inr (.inr isForeseen)

/-- The foremost of cancellation, deadline and verdict is one of them, and a verdict only before the deadline. -/
theorem cases_of_foremost? {cancelAt : Option Nat} {cancelled : Except LaunchFailure Answer}
    {deadline outcome : Cause Answer} {verdict : Option (Cause Answer)}
    (foremost : foremost? ((cancelAt.map fun time => (time, cancelled)).toList ++ deadline :: verdict.toList) =
      some outcome) :
    (cancelAt = some outcome.1 ∧ outcome.2 = cancelled) ∨
      (outcome = deadline ∧ ∀ cause ∈ verdict, deadline.1 ≤ cause.1) ∨
      (verdict = some outcome ∧ outcome.1 < deadline.1) := by
  cases cancelAt <;> cases verdict <;> grind [foremost?]

end Causes

/-! ### How a watcher halts -/

namespace Watcher

variable {State Object Answer : Type} {watcher : Watcher State Object Answer}
  {decide? : Object → Option (Except LaunchFailure Answer)} {cancelAt closesAt : Option Nat}

/-- When and with which answer the watcher ends, if it does. -/
def outcome (watcher : Watcher State Object Answer) (cancelAt : Option Nat) (timeline : Timeline Object) :
    Option (Cause Answer) :=
  (watcher.run cancelAt timeline).map fun ending => (ending.time, ending.answer)

/-- The cancellation as what may end the watcher. -/
def cancellation (watcher : Watcher State Object Answer) (cancelAt : Option Nat) : List (Cause Answer) :=
  (cancelAt.map fun time => (time, watcher.cancelled)).toList

/-- Whether the watcher answers, and how, depends on the object alone. -/
structure Decides (watcher : Watcher State Object Answer)
    (decide? : Object → Option (Except LaunchFailure Answer)) : Prop where
  answers : ∀ {time : Nat} {state : State} {object : Object} {given : Except LaunchFailure Answer},
    watcher.observe time state object = .answer given → decide? object = some given
  waits : ∀ {time : Nat} {state next : State} {object : Object},
    watcher.observe time state object = .wait next → decide? object = none

/-- What holds of what is left to read, since when the watcher has waited for it, and what it knows, is kept by
each object that it waits through.  The deadline has not passed then. -/
structure Keeps (watcher : Watcher State Object Answer) (holds : List (Arrival Object) → Nat → State → Prop) :
    Prop where
  inTime : ∀ {later : List (Arrival Object)} {now : Nat} {state : State}, holds later now state →
    ∀ limit ∈ watcher.deadline state, now ≤ limit
  step : ∀ {later : List (Arrival Object)} {now time : Nat} {state next : State} {object : Object},
    holds ((time, some (.ok object)) :: later) now state → now ≤ time →
      (∀ limit ∈ watcher.deadline state, time < limit) → watcher.observe time state object = .wait next →
      holds later time next

/-- How the watcher halts with what it knows, and with what it has not read. -/
inductive Halts (watcher : Watcher State Object Answer) (decide? : Object → Option (Except LaunchFailure Answer))
    (cancelAt : Option Nat) (state : State) (later : List (Arrival Object)) : Option (Cause Answer) → Prop where
  | cancelled {time : Nat} (due : cancelAt = some time) (deadline : ∀ limit ∈ watcher.deadline state, time ≤ limit)
      (next : ∀ arrival ∈ later, time ≤ arrival.1) :
      Halts watcher decide? cancelAt state later (some (time, watcher.cancelled))
  | expired {time : Nat} (due : watcher.deadline state = some time) (cancel : ∀ limit ∈ cancelAt, time < limit)
      (next : ∀ arrival ∈ later, time ≤ arrival.1) :
      Halts watcher decide? cancelAt state later (some (time, watcher.expired state))
  | settled {time : Nat} {given : Except LaunchFailure Answer}
      (due : verdict? decide? watcher.closed later = some (time, given)) (cancel : ∀ limit ∈ cancelAt, time < limit)
      (deadline : ∀ limit ∈ watcher.deadline state, time < limit) (next : ∀ arrival ∈ later, time ≤ arrival.1) :
      Halts watcher decide? cancelAt state later (some (time, given))
  | never (cancel : cancelAt = none) (deadline : watcher.deadline state = none) (next : later = []) :
      Halts watcher decide? cancelAt state later none

section Interrupted

variable {now time : Nat} {state : State} {next : Option Nat} {answer : Except LaunchFailure Answer}

/-- A wait that began in time is interrupted by its cancellation or at its deadline, whichever comes first. -/
theorem cases_of_interrupted (waiting : ∀ limit ∈ cancelAt, now ≤ limit)
    (inTime : ∀ limit ∈ watcher.deadline state, now ≤ limit)
    (interrupted : watcher.interrupted? cancelAt now state next = some (time, answer)) :
    (∀ moment ∈ next, time ≤ moment) ∧
      ((cancelAt = some time ∧ answer = watcher.cancelled ∧ ∀ limit ∈ watcher.deadline state, time ≤ limit) ∨
        (watcher.deadline state = some time ∧ answer = watcher.expired state ∧ ∀ limit ∈ cancelAt, time < limit)) := by
  unfold interrupted? at interrupted
  cases cancelAt <;> cases deadline : watcher.deadline state <;> cases next <;> grind [sooner, comesBy]

/-- What is read without an interruption is read before the cancellation and before the deadline. -/
theorem lt_of_not_interrupted {moment : Nat} (notEarlier : now ≤ moment)
    (waited : watcher.interrupted? cancelAt now state (some moment) = none) :
    (∀ limit ∈ cancelAt, moment < limit) ∧ ∀ limit ∈ watcher.deadline state, moment < limit := by
  unfold interrupted? at waited
  cases cancelAt <;> cases deadline : watcher.deadline state <;> grind [sooner, comesBy]

/-- A watcher that waits without an interruption for a watch that never ends has neither cancellation nor deadline. -/
theorem never_of_not_interrupted (waited : watcher.interrupted? cancelAt now state none = none) :
    cancelAt = none ∧ watcher.deadline state = none := by
  unfold interrupted? at waited
  cases cancelAt <;> cases deadline : watcher.deadline state <;> grind [sooner, comesBy]

end Interrupted

/-- If nothing is read before a time, nothing is settled before it. -/
theorem le_of_verdict? {closed : Except LaunchFailure Answer} {arrivals : List (Arrival Object)}
    {cause : Cause Answer} {limit : Nat} (next : ∀ arrival ∈ arrivals, limit ≤ arrival.1)
    (verdict : verdict? decide? closed arrivals = some cause) : limit ≤ cause.1 := by
  obtain ⟨event, member, _⟩ := mem_of_firstTelling? verdict
  exact next _ member

/-- An interruption before the next arrival is a halt. -/
theorem halts_of_interrupted {now : Nat} {state : State} {next : Option Nat} {later : List (Arrival Object)}
    {interruption : Nat × Except LaunchFailure Answer} (waiting : ∀ limit ∈ cancelAt, now ≤ limit)
    (inTime : ∀ limit ∈ watcher.deadline state, now ≤ limit)
    (interrupted : watcher.interrupted? cancelAt now state next = some interruption)
    (ordered : ∀ arrival ∈ later, ∃ moment ∈ next, moment ≤ arrival.1) :
    watcher.Halts decide? cancelAt state later (some interruption) := by
  obtain ⟨time, answer⟩ := interruption
  obtain ⟨before, how⟩ := cases_of_interrupted waiting inTime interrupted
  have sooner : ∀ arrival ∈ later, time ≤ arrival.1 := by
    intro arrival member
    obtain ⟨moment, isNext, inOrder⟩ := ordered arrival member
    exact Nat.le_trans (before moment isNext) inOrder
  rcases how with ⟨due, rfl, deadline⟩ | ⟨due, rfl, cancel⟩
  · exact .cancelled due deadline sooner
  · exact .expired due cancel sooner

/-- What is read and settled without an interruption is a halt. -/
theorem halts_of_ruling {now moment : Nat} {state : State} {event : Option (Except WatchFault Object)}
    {later : List (Arrival Object)} {given : Except LaunchFailure Answer} (notEarlier : now ≤ moment)
    (waited : watcher.interrupted? cancelAt now state (some moment) = none)
    (ruled : ruling? decide? watcher.closed event = some given) (ordered : ∀ arrival ∈ later, moment ≤ arrival.1) :
    watcher.Halts decide? cancelAt state ((moment, event) :: later) (some (moment, given)) := by
  obtain ⟨cancel, deadline⟩ := lt_of_not_interrupted notEarlier waited
  exact .settled (firstTelling?_cons_of_some ruled) cancel deadline
    (List.forall_mem_cons.mpr ⟨Nat.le_refl _, ordered⟩)

/-- The watcher halts where what it keeps still holds, and before anything that settles has been read. -/
theorem exists_halts_follow (decides : watcher.Decides decide?)
    {holds : List (Arrival Object) → Nat → State → Prop} (keeps : watcher.Keeps holds) {now : Nat} {state : State}
    {events : List (Nat × Except WatchFault Object)} (start : holds (arrivals closesAt now events) now state)
    (waiting : ∀ limit ∈ cancelAt, now ≤ limit) :
    ∃ later moment known, holds later moment known ∧
      verdict? decide? watcher.closed later = verdict? decide? watcher.closed (arrivals closesAt now events) ∧
      watcher.Halts decide? cancelAt known later
        ((watcher.follow cancelAt closesAt now state events).map fun ending => (ending.time, ending.answer)) := by
  induction events generalizing now state with
  | nil =>
      refine ⟨_, now, state, start, rfl, ?_⟩
      cases interrupted : watcher.interrupted? cancelAt now state (closesAt.map (max now)) with
      | some interruption =>
          simp only [follow, interrupted, Option.map_some]
          refine halts_of_interrupted waiting (keeps.inTime start) interrupted ?_
          intro arrival member
          simp only [arrivals, Option.mem_toList, Option.map_eq_some_iff] at member
          obtain ⟨close, closes, rfl⟩ := member
          exact ⟨max now close, by simp [closes], Nat.le_refl _⟩
      | none =>
          cases closesAt with
          | none =>
              rw [Option.map_none] at interrupted
              obtain ⟨cancel, deadline⟩ := never_of_not_interrupted interrupted
              simp only [follow, interrupted, Option.map_none]
              exact .never cancel deadline rfl
          | some close =>
              rw [Option.map_some] at interrupted
              simp only [follow, interrupted, Option.map_some, arrivals, Option.toList_some]
              exact halts_of_ruling (Nat.le_max_left _ _) interrupted rfl (by simp)
  | cons event rest inductionHypothesis =>
      obtain ⟨earliest, event⟩ := event
      have ordered : ∀ arrival ∈ arrivals closesAt (max now earliest) rest, max now earliest ≤ arrival.1 :=
        fun arrival member => le_of_mem_arrivals member
      have notSooner : ∀ arrival ∈ arrivals closesAt now ((earliest, event) :: rest), max now earliest ≤ arrival.1 :=
        List.forall_mem_cons.mpr ⟨Nat.le_refl _, ordered⟩
      cases interrupted : watcher.interrupted? cancelAt now state (some (max now earliest)) with
      | some interruption =>
          refine ⟨_, now, state, start, rfl, ?_⟩
          simp only [follow, interrupted, Option.map_some]
          exact halts_of_interrupted waiting (keeps.inTime start) interrupted
            (fun arrival member => ⟨_, rfl, notSooner arrival member⟩)
      | none =>
          cases event with
          | error fault =>
              refine ⟨_, now, state, start, rfl, ?_⟩
              simp only [follow, interrupted, Option.map_some, arrivals]
              exact halts_of_ruling (Nat.le_max_left _ _) interrupted rfl ordered
          | ok object =>
              cases observed : watcher.observe (max now earliest) state object with
              | answer given =>
                  refine ⟨_, now, state, start, rfl, ?_⟩
                  simp only [follow, interrupted, observed, Option.map_some, arrivals]
                  exact halts_of_ruling (Nat.le_max_left _ _) interrupted (decides.answers observed) ordered
              | wait next =>
                  obtain ⟨cancel, deadline⟩ := lt_of_not_interrupted (Nat.le_max_left _ _) interrupted
                  have kept := keeps.step start (Nat.le_max_left _ _) deadline observed
                  obtain ⟨later, moment, known, holds, same, halts⟩ :=
                    inductionHypothesis kept (fun limit isLimit => Nat.le_of_lt (cancel limit isLimit))
                  refine ⟨later, moment, known, holds, same.trans ?_, ?_⟩
                  · exact (firstTelling?_cons_of_none (decides.waits observed)).symm
                  · simpa only [follow, interrupted, observed] using halts

/-- A watcher halts where what it has kept from the start still holds. -/
theorem exists_halts (cancelAt : Option Nat) (decides : watcher.Decides decide?)
    {holds : List (Arrival Object) → Nat → State → Prop} (keeps : watcher.Keeps holds) {timeline : Timeline Object}
    (start : holds timeline.arrivals 0 watcher.start) :
    ∃ later moment known, holds later moment known ∧
      verdict? decide? watcher.closed later = verdict? decide? watcher.closed timeline.arrivals ∧
      watcher.Halts decide? cancelAt known later (watcher.outcome cancelAt timeline) :=
  exists_halts_follow decides keeps start (fun limit _ => Nat.zero_le limit)

section Foreseen

variable {state : State} {later : List (Arrival Object)} {halted : Option (Cause Answer)}

/-- If a deadline that was foreseen comes no sooner than the present one, or than something yet to be read, and
the present one was foreseen if nothing is read before it, then the watcher ends at the earliest cause. -/
theorem isEarliest_of_halts (halts : watcher.Halts decide? cancelAt state later halted)
    (foreseen : List (Cause Answer))
    (notSooner : ∀ cause ∈ foreseen, (∃ limit ∈ watcher.deadline state, limit ≤ cause.1) ∨
      ∃ arrival ∈ later, arrival.1 ≤ cause.1)
    (listed : ∀ limit ∈ watcher.deadline state, (∀ arrival ∈ later, limit ≤ arrival.1) →
      (limit, watcher.expired state) ∈ foreseen) :
    IsEarliest (watcher.cancellation cancelAt ++ (verdict? decide? watcher.closed later).toList ++ foreseen)
      halted := by
  -- No cause comes before a time by which neither cancellation nor deadline nor anything to read has come.
  have earliest {time : Nat} (cancel : ∀ limit ∈ cancelAt, time ≤ limit)
      (deadline : ∀ limit ∈ watcher.deadline state, time ≤ limit) (next : ∀ arrival ∈ later, time ≤ arrival.1) :
      ∀ cause ∈ watcher.cancellation cancelAt ++ (verdict? decide? watcher.closed later).toList ++ foreseen,
        time ≤ cause.1 := by
    intro cause member
    rw [List.mem_append, List.mem_append, cancellation, Option.mem_toList, Option.mem_toList] at member
    rcases member with (isCancellation | isVerdict) | isForeseen
    · obtain ⟨limit, due, rfl⟩ := Option.map_eq_some_iff.mp isCancellation
      exact cancel limit due
    · exact le_of_verdict? next isVerdict
    · rcases notSooner cause isForeseen with ⟨limit, due, inOrder⟩ | ⟨arrival, member, inOrder⟩
      · exact Nat.le_trans (deadline limit due) inOrder
      · exact Nat.le_trans (next arrival member) inOrder
  cases halts with
  | cancelled due deadline next =>
      refine ⟨by simp [cancellation, due], earliest ?_ deadline next⟩
      simp [due]
  | expired due cancel next =>
      refine ⟨?_, earliest (fun limit isLimit => Nat.le_of_lt (cancel limit isLimit)) ?_ next⟩
      · exact List.mem_append_right _ (listed _ due next)
      · simp [due]
  | settled due cancel deadline next =>
      refine ⟨by simp [due], earliest ?_ ?_ next⟩
      · exact fun limit isLimit => Nat.le_of_lt (cancel limit isLimit)
      · exact fun limit isLimit => Nat.le_of_lt (deadline limit isLimit)
  | never cancel deadline next =>
      subst cancel next
      have nothing : foreseen = [] := by
        refine List.eq_nil_iff_forall_not_mem.mpr fun cause member => ?_
        simpa [deadline] using notSooner cause member
      simp [IsEarliest, cancellation, verdict?, firstTelling?, nothing]

/-- If the deadline that was foreseen comes no sooner than the present one, and is the present one if nothing is
read before that, then the watcher ends at the foremost of its cancellation, that deadline, and its verdict. -/
theorem eq_foremost?_of_halts (halts : watcher.Halts decide? cancelAt state later halted) {foreseen : Cause Answer}
    (notSooner : ∃ limit ∈ watcher.deadline state, limit ≤ foreseen.1)
    (listed : ∀ limit ∈ watcher.deadline state, (∀ arrival ∈ later, limit ≤ arrival.1) →
      foreseen = (limit, watcher.expired state)) :
    halted =
      foremost? (watcher.cancellation cancelAt ++ foreseen :: (verdict? decide? watcher.closed later).toList) := by
  obtain ⟨present, isPresent, inOrder⟩ := notSooner
  have settledLater {time : Nat} (next : ∀ arrival ∈ later, time ≤ arrival.1) :
      ∀ cause ∈ (verdict? decide? watcher.closed later).toList, time ≤ cause.1 :=
    fun cause member => le_of_verdict? next (Option.mem_toList.mp member)
  have cancelledLater {time : Nat} (cancel : ∀ limit ∈ cancelAt, time < limit) :
      ∀ cause ∈ watcher.cancellation cancelAt, time < cause.1 := by
    intro cause member
    obtain ⟨limit, due, rfl⟩ := Option.map_eq_some_iff.mp (Option.mem_toList.mp member)
    exact cancel limit due
  symm
  cases halts with
  | cancelled due deadline next =>
      subst due
      refine foremost?_cons_of_le (List.forall_mem_cons.mpr ⟨?_, settledLater next⟩)
      exact Nat.le_trans (deadline present isPresent) inOrder
  | expired due cancel next =>
      have same := listed _ due next
      subst same
      exact foremost?_append_of_lt (cancelledLater cancel) (foremost?_cons_of_le (settledLater next))
  | settled due cancel deadline next =>
      refine foremost?_append_of_lt (cancelledLater cancel) ?_
      have later := Nat.lt_of_lt_of_le (deadline present isPresent) inOrder
      rw [due, ← List.singleton_append, Option.toList_some]
      exact foremost?_append_of_lt (by simpa using later) rfl
  | never cancel deadline next => simp [deadline] at isPresent

end Foreseen

end Watcher

end Turnstile
