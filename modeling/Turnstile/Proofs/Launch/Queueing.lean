/-
Module: Turnstile.Proofs.Launch.Queueing
Purpose: When and how the wait for the head of the queue ends, whatever becomes of the queue.
Main exports: Watcher.inQueue, Watcher.atHead?, Watcher.queueDeadline, Watcher.queueCauses, Watcher.Queueing,
  Watcher.queueing
-/
import Turnstile.Launch.Watchers
import Turnstile.Proofs.Watch.Earliest

/-!
A run has to show up in the queue by one deadline, and to reach its head by another one that counts from the first
sight of it.  Which of the two applies is told by the first event that shows the run in the queue; nothing that
comes later moves the deadline, also if the run leaves the queue and returns.
-/

namespace Turnstile.Watcher

variable {run : String} {enqueue queue : Nat} {cancelAt : Option Nat} {timeline : Timeline Workspace}

/-- The run is in the queue of the workspace. -/
def inQueue (run : String) (workspace : Workspace) : Bool :=
  (workspace.queuePosition? run).isSome

/-- The wait of a run ends well when it is at the head of the queue. -/
def atHead? (run : String) (workspace : Workspace) : Option (Except LaunchFailure Unit) :=
  if workspace.queuePosition? run = some 0 then some (.ok ()) else none

/-- The deadline of a run that is first seen in the queue at some time, or never. -/
def queueDeadline (enqueue queue : Nat) (seen : Option Nat) : Cause Unit :=
  match seen.filter (· < enqueue) with
  | some since => (since + queue, .error (.queueTimeout (.ofMillis queue)))
  | none => (enqueue, .error (.enqueueTimeout (.ofMillis enqueue)))

/-- What may end the wait: the cancellation, the first event with the run at the head, fault or end of the watch,
and the deadline. -/
def queueCauses (run : String) (enqueue queue : Nat) (cancelAt : Option Nat) (timeline : Timeline Workspace) :
    List (Cause Unit) :=
  (cancelAt.map fun time => (time, .ok ())).toList ++
    (verdict? (atHead? run) (.error (.watchClosed "workspace queue")) timeline.arrivals).toList ++
    [queueDeadline enqueue queue (firstTime? (inQueue run) timeline.arrivals)]

theorem queueDeadline_of_early {seen : Option Nat} {since : Nat} (first : seen = some since)
    (early : since < enqueue) :
    queueDeadline enqueue queue seen = (since + queue, .error (.queueTimeout (.ofMillis queue))) := by
  simp [queueDeadline, first, Option.filter_some, early]

theorem filter_lt_eq_none_iff {seen : Option Nat} :
    seen.filter (· < enqueue) = none ↔ ∀ since ∈ seen, enqueue ≤ since := by
  simp [Option.filter_eq_none_iff]

theorem queueDeadline_of_late {seen : Option Nat} (late : ∀ since ∈ seen, enqueue ≤ since) :
    queueDeadline enqueue queue seen = (enqueue, .error (.enqueueTimeout (.ofMillis enqueue))) := by
  rw [queueDeadline, filter_lt_eq_none_iff.mpr late]

theorem decides_forQueue : (forQueue run enqueue queue).Decides (atHead? run) where
  answers := by
    intro time seen workspace given observed
    simp only [forQueue] at observed
    split at observed
    · cases observed
    · rename_i head
      cases observed
      simp [atHead?, head]
    · cases observed
  waits := by
    intro time seen next workspace observed
    simp only [forQueue] at observed
    split at observed
    · rename_i absent
      simp [atHead?, absent]
    · cases observed
    · rename_i place notHead position
      have behind : place ≠ 0 := notHead
      simp [atHead?, position, behind]

/-- What a wait that goes on has told of the run: when it was first seen, be it before or yet to come. -/
structure QueueForesight (run : String) (enqueue queue : Nat) (first : Option Nat) (later : List (Arrival Workspace))
    (now : Nat) (seen : Option Nat) : Prop where
  same : seen.or (firstTime? (inQueue run) later) = first
  early : ∀ since ∈ seen, since < enqueue
  inTime : ∀ limit ∈ (forQueue run enqueue queue).deadline seen, now ≤ limit

theorem keeps_queueForesight {first : Option Nat} :
    (forQueue run enqueue queue).Keeps (QueueForesight run enqueue queue first) where
  inTime foresight := foresight.inTime
  step := by
    intro later now time seen next workspace foresight notEarlier beforeDeadline observed
    simp only [forQueue] at observed
    split at observed
    · rename_i absent
      cases observed
      have overlooked : inQueue run workspace = false := by simp [inQueue, absent]
      refine ⟨?_, foresight.early, fun limit isLimit => Nat.le_of_lt (beforeDeadline limit isLimit)⟩
      rw [← foresight.same, firstTime?_cons_of_not_noted overlooked]
    · cases observed
    · rename_i place position
      cases observed
      have sees : inQueue run workspace = true := by simp [inQueue, position]
      have same := foresight.same
      rw [firstTime?_cons_of_noted sees] at same
      cases seen with
      | none =>
          refine ⟨by simpa using same, ?_, ?_⟩
          · simpa [forQueue] using beforeDeadline
          · simp [forQueue]
      | some since =>
          refine ⟨by simpa using same, by simpa using foresight.early, ?_⟩
          exact fun limit isLimit => Nat.le_of_lt (beforeDeadline limit (by simpa [forQueue] using isLimit))

/-- What becomes of the wait of a run for the head of the queue. -/
structure Queueing (run : String) (enqueue queue : Nat) (cancelAt : Option Nat) (timeline : Timeline Workspace) :
    Prop where
  /-- It ends, at the earliest of its causes. -/
  ends : ∃ outcome, (forQueue run enqueue queue).outcome cancelAt timeline = some outcome ∧
    IsEarliest (queueCauses run enqueue queue cancelAt timeline) (some outcome)
  /-- A run that was not enqueued in time was in no queue that was read before. -/
  notEnqueued : ∀ time limit,
    (forQueue run enqueue queue).outcome cancelAt timeline = some (time, .error (.enqueueTimeout limit)) →
      limit = .ofMillis time ∧ time = enqueue ∧
        ∀ moment workspace, (moment, some (.ok workspace)) ∈ timeline.arrivals → inQueue run workspace = true →
          time ≤ moment
  /-- A run that did not reach the head in time had all its time since it was first seen. -/
  notAtHead : ∀ time limit,
    (forQueue run enqueue queue).outcome cancelAt timeline = some (time, .error (.queueTimeout limit)) →
      limit = .ofMillis queue ∧ ∃ since, firstTime? (inQueue run) timeline.arrivals = some since ∧ since < enqueue ∧
        time = since + queue

/-- The deadline of a wait that goes on is the one that was foreseen, unless the run is yet to be seen. -/
theorem queueDeadline_of_foresight {first : Option Nat} {later : List (Arrival Workspace)} {now : Nat}
    {seen : Option Nat} (foresight : QueueForesight run enqueue queue first later now seen) :
    (∀ limit ∈ (forQueue run enqueue queue).deadline seen, (∀ arrival ∈ later, limit ≤ arrival.1) →
      queueDeadline enqueue queue first = (limit, (forQueue run enqueue queue).expired seen)) ∧
    ((∃ limit ∈ (forQueue run enqueue queue).deadline seen, limit ≤ (queueDeadline enqueue queue first).1) ∨
      ∃ arrival ∈ later, arrival.1 ≤ (queueDeadline enqueue queue first).1) := by
  cases seen with
  | some since =>
      have known : first = some since := by simpa using foresight.same.symm
      have deadline : queueDeadline enqueue queue first = (since + queue, .error (.queueTimeout (.ofMillis queue))) :=
        queueDeadline_of_early known (foresight.early since rfl)
      refine ⟨?_, .inl ⟨since + queue, rfl, by simp [deadline]⟩⟩
      rintro limit isLimit -
      cases isLimit
      exact deadline
  | none =>
      have toCome : firstTime? (inQueue run) later = first := by simpa using foresight.same
      constructor
      · intro limit isLimit notSooner
        cases isLimit
        exact queueDeadline_of_late (toCome ▸ le_firstTime? notSooner)
      · cases timely : first.filter (· < enqueue) with
        | none => exact .inl ⟨enqueue, rfl, by simp [queueDeadline, timely]⟩
        | some since =>
            obtain ⟨sighted, _⟩ := Option.filter_eq_some_iff.mp timely
            obtain ⟨workspace, member, _⟩ := exists_mem_of_firstTime? (toCome.trans sighted)
            exact .inr ⟨_, member, by simp [queueDeadline, timely]⟩

/-- The wait ends at the earliest of its causes. -/
theorem isEarliest_forQueue (run : String) (enqueue queue : Nat) (cancelAt : Option Nat)
    (timeline : Timeline Workspace) :
    IsEarliest (queueCauses run enqueue queue cancelAt timeline)
      ((forQueue run enqueue queue).outcome cancelAt timeline) := by
  have start : QueueForesight run enqueue queue (firstTime? (inQueue run) timeline.arrivals) timeline.arrivals 0
      (forQueue run enqueue queue).start :=
    ⟨rfl, by simp [forQueue], fun limit _ => Nat.zero_le limit⟩
  obtain ⟨later, now, seen, foresight, same, halts⟩ :=
    exists_halts cancelAt decides_forQueue keeps_queueForesight start
  obtain ⟨listed, notSooner⟩ := queueDeadline_of_foresight foresight
  have earliest := isEarliest_of_halts halts
    [queueDeadline enqueue queue (firstTime? (inQueue run) timeline.arrivals)]
    (by simpa using notSooner)
    (fun limit isLimit inOrder => List.mem_singleton.mpr (listed limit isLimit inOrder).symm)
  rw [same] at earliest
  exact earliest

/-- No verdict over a queue is a timeout. -/
theorem undated_of_atHead? {cause : Cause Unit}
    (verdict : verdict? (atHead? run) (.error (.watchClosed "workspace queue")) timeline.arrivals = some cause) :
    Undated cause.2 := by
  refine undated_of_verdict? (undated_error rfl) ?_ verdict
  intro workspace given decided
  simp only [atHead?] at decided
  split at decided
  · cases decided
    exact undated_ok ()
  · cases decided

/-- Only the deadline is a timeout. -/
theorem queueDeadline_of_dated {time : Nat} {failure : LaunchFailure}
    (ended : (forQueue run enqueue queue).outcome cancelAt timeline = some (time, .error failure))
    (dated : failure.limit? ≠ none) :
    queueDeadline enqueue queue (firstTime? (inQueue run) timeline.arrivals) = (time, .error failure) := by
  have earliest := isEarliest_forQueue run enqueue queue cancelAt timeline
  rw [ended] at earliest
  rcases cases_of_mem_causes earliest.1 with ⟨_, same⟩ | isVerdict | isDeadline
  · cases same
  · exact absurd (undated_of_atHead? isVerdict failure rfl) dated
  · exact (List.mem_singleton.mp isDeadline).symm

/-- There always is a deadline, so the wait ends. -/
theorem exists_outcome_forQueue (run : String) (enqueue queue : Nat) (cancelAt : Option Nat)
    (timeline : Timeline Workspace) :
    ∃ outcome, (forQueue run enqueue queue).outcome cancelAt timeline = some outcome := by
  have earliest := isEarliest_forQueue run enqueue queue cancelAt timeline
  cases ended : (forQueue run enqueue queue).outcome cancelAt timeline with
  | none => simp [ended, IsEarliest, queueCauses] at earliest
  | some outcome => exact ⟨outcome, rfl⟩

theorem enqueueTimeout_of_forQueue {time : Nat} {limit : Duration}
    (ended : (forQueue run enqueue queue).outcome cancelAt timeline = some (time, .error (.enqueueTimeout limit))) :
    limit = .ofMillis time ∧ time = enqueue ∧
      ∀ moment workspace, (moment, some (.ok workspace)) ∈ timeline.arrivals → inQueue run workspace = true →
        time ≤ moment := by
  have deadline := queueDeadline_of_dated ended (by simp [LaunchFailure.limit?])
  unfold queueDeadline at deadline
  split at deadline
  · cases deadline
  · rename_i late
    cases deadline
    refine ⟨rfl, rfl, ?_⟩
    intro moment workspace member sees
    exact le_of_le_firstTime? timeline.inOrder (filter_lt_eq_none_iff.mp late) member sees

theorem queueTimeout_of_forQueue {time : Nat} {limit : Duration}
    (ended : (forQueue run enqueue queue).outcome cancelAt timeline = some (time, .error (.queueTimeout limit))) :
    limit = .ofMillis queue ∧ ∃ since, firstTime? (inQueue run) timeline.arrivals = some since ∧ since < enqueue ∧
      time = since + queue := by
  have deadline := queueDeadline_of_dated ended (by simp [LaunchFailure.limit?])
  unfold queueDeadline at deadline
  split at deadline
  · rename_i since timely
    cases deadline
    obtain ⟨first, early⟩ := Option.filter_eq_some_iff.mp timely
    exact ⟨rfl, since, first, of_decide_eq_true early, rfl⟩
  · cases deadline

/-- However the queue changes, the wait of a run has one deadline, which the first sight of the run in the queue
fixes; a run that has been seen is never told that it was not enqueued. -/
theorem queueing (run : String) (enqueue queue : Nat) (cancelAt : Option Nat) (timeline : Timeline Workspace) :
    Queueing run enqueue queue cancelAt timeline where
  ends := by
    obtain ⟨outcome, ended⟩ := exists_outcome_forQueue run enqueue queue cancelAt timeline
    exact ⟨outcome, ended, ended ▸ isEarliest_forQueue run enqueue queue cancelAt timeline⟩
  notEnqueued _ _ := enqueueTimeout_of_forQueue
  notAtHead _ _ := queueTimeout_of_forQueue

end Turnstile.Watcher
