/-
Module: Turnstile.Proofs.Launch.Following
Purpose: When and how the following of a run ends, whatever conditions it takes on.
Main exports: Watcher.isAcknowledged, Watcher.unexecuted?, Watcher.reconcileDeadline, Watcher.readyDeadline,
  Watcher.runCauses, Watcher.Following, Watcher.following
-/
import Turnstile.Launch.Watchers
import Turnstile.Proofs.Watch.Earliest

/-!
The controller has to stamp a condition on a run by one deadline; by another one, which counts from the first time
that the run was attachable, its pod has to be ready.  The first deadline falls with the first condition, the second
one never moves.  A run that is acknowledged and never attachable has no deadline.  One event can do all at once:
acknowledge the run, make it attachable, and end it.
-/

namespace Turnstile.Watcher

variable {reconcile ready : Nat} {cancelAt : Option Nat} {timeline : Timeline Run}

/-- The controller has stamped a condition on the run. -/
def isAcknowledged (run : Run) : Bool :=
  !run.conditions.isEmpty

/-- The following of a run fails when it is over without having executed. -/
def unexecuted? (run : Run) : Option (Except LaunchFailure Unit) :=
  (endedUnexecuted? run).map .error

/-- The deadline of a run that is acknowledged at some time, or never. -/
def reconcileDeadline (reconcile : Nat) (acknowledged : Option Nat) : List (Cause Unit) :=
  if acknowledged.any (· < reconcile) then [] else [(reconcile, .error (.reconcileTimeout (.ofMillis reconcile)))]

/-- The deadline of a run that is first attachable at some time, or never. -/
def readyDeadline (ready : Nat) (attachable : Option Nat) : List (Cause Unit) :=
  (attachable.map fun since => (since + ready, .error (.readyTimeout (.ofMillis ready)))).toList

/-- What is listed of a run: the deadlines that its conditions set. -/
def runDeadlines (reconcile ready : Nat) (timeline : Timeline Run) : List (Cause Unit) :=
  reconcileDeadline reconcile (firstTime? isAcknowledged timeline.arrivals) ++
    readyDeadline ready (firstTime? Run.isAttachable timeline.arrivals)

/-- What may end the following of a run: the cancellation, the first event with the run over unexecuted, fault or
end of the watch, and the deadlines. -/
def runCauses (reconcile ready : Nat) (cancelAt : Option Nat) (timeline : Timeline Run) : List (Cause Unit) :=
  (cancelAt.map fun time => (time, .ok ())).toList ++
    (verdict? unexecuted? (.error (.watchClosed "run")) timeline.arrivals).toList ++
    runDeadlines reconcile ready timeline

/-- A run is over unexecuted if it is completed for a failure reason. -/
theorem endedUnexecuted?_eq_some_iff {run : Run} {failure : LaunchFailure} :
    endedUnexecuted? run = some failure ↔
      ∃ condition, Condition.find? run.conditions Run.completed = some condition ∧ condition.isTrue = true ∧
        Run.isFailureReason condition.reasonText = true ∧
        failure = .runFailed condition.reasonText condition.messageText := by
  unfold endedUnexecuted?
  cases Condition.find? run.conditions Run.completed with
  | none => simp
  | some condition =>
      simp only [Option.ite_none_right_eq_some, Bool.and_eq_true, Option.some.injEq, exists_eq_left', and_assoc,
        eq_comm (a := failure)]

/-- A run whose command ran to its end did not end unexecuted. -/
theorem unexecuted?_of_executed {run : Run} {condition : Condition}
    (completed : Condition.find? run.conditions Run.completed = some condition)
    (executed : condition.reasonText = Run.Reason.podSucceeded.word ∨
      condition.reasonText = Run.Reason.podFailed.word) : unexecuted? run = none := by
  have harmless : Run.isFailureReason condition.reasonText = false := by
    rcases executed with same | same
    · rw [same]; decide
    · rw [same]; decide
  simp [unexecuted?, endedUnexecuted?, completed, harmless]

theorem decides_forRun : (forRun reconcile ready).Decides unexecuted? where
  answers := by
    intro time known run given observed
    simp only [forRun] at observed
    split at observed
    · rename_i failure ended
      cases observed
      simp [unexecuted?, ended]
    · cases observed
  waits := by
    intro time known next run observed
    simp only [forRun] at observed
    split at observed
    · cases observed
    · rename_i goesOn
      simp [unexecuted?, goesOn]

/-- An attachable run is acknowledged. -/
theorem isAcknowledged_of_isAttachable {run : Run} (attachable : run.isAttachable = true) :
    isAcknowledged run = true := by
  unfold Run.isAttachable Condition.isTrueFor Condition.find? at attachable
  cases none : run.conditions with
  | nil => simp [none] at attachable
  | cons condition rest => simp [isAcknowledged, none]

theorem acknowledged_again (known : RunSeen) (time : Nat) (run : Run) :
    (known.again time run).acknowledged = (known.acknowledged || isAcknowledged run) :=
  rfl

theorem attachableSince_again (known : RunSeen) (time : Nat) (run : Run) :
    (known.again time run).attachableSince =
      known.attachableSince.or (if run.isAttachable then some time else none) := by
  unfold RunSeen.again
  cases known.attachableSince <;> rfl

/-- What the following of a run that goes on has told: when it was acknowledged and when it was first attachable, be
it before or yet to come. -/
structure RunForesight (reconcile ready : Nat) (acknowledged attachable : Option Nat) (later : List (Arrival Run))
    (now : Nat) (known : RunSeen) : Prop where
  acknowledgedBefore : known.acknowledged = true → ∃ since, acknowledged = some since ∧ since < reconcile
  acknowledgedLater : known.acknowledged = false → firstTime? isAcknowledged later = acknowledged
  attachable : known.attachableSince.or (firstTime? Run.isAttachable later) = attachable
  inOrder : known.attachableSince.isSome → known.acknowledged = true
  inTime : ∀ limit ∈ (forRun reconcile ready).deadline known, now ≤ limit

theorem deadline_of_unacknowledged {known : RunSeen} (unacknowledged : known.acknowledged = false) :
    (forRun reconcile ready).deadline known = some reconcile := by
  simp [forRun, unacknowledged]

theorem deadline_of_acknowledged {known : RunSeen} (acknowledged : known.acknowledged = true) :
    (forRun reconcile ready).deadline known = known.attachableSince.map (· + ready) := by
  simp [forRun, acknowledged]

section Again

variable {acknowledged attachable : Option Nat} {later : List (Arrival Run)} {now time : Nat} {known : RunSeen}
  {run : Run}

theorem RunForesight.acknowledgedBefore_again
    (foresight : RunForesight reconcile ready acknowledged attachable ((time, some (.ok run)) :: later) now known)
    (beforeDeadline : ∀ limit ∈ (forRun reconcile ready).deadline known, time < limit)
    (acknowledges : (known.again time run).acknowledged = true) :
    ∃ since, acknowledged = some since ∧ since < reconcile := by
  cases before : known.acknowledged with
  | true => exact foresight.acknowledgedBefore before
  | false =>
      have here : isAcknowledged run = true := by simpa [acknowledged_again, before] using acknowledges
      refine ⟨time, ?_, beforeDeadline reconcile (deadline_of_unacknowledged before)⟩
      rw [← foresight.acknowledgedLater before, firstTime?_cons_of_noted here]

theorem RunForesight.attachable_again
    (foresight : RunForesight reconcile ready acknowledged attachable ((time, some (.ok run)) :: later) now known) :
    (known.again time run).attachableSince.or (firstTime? Run.isAttachable later) = attachable := by
  rw [attachableSince_again, ← foresight.attachable, Option.or_assoc]
  cases here : run.isAttachable with
  | true => rw [firstTime?_cons_of_noted here]; rfl
  | false => rw [firstTime?_cons_of_not_noted here]; rfl

theorem RunForesight.inOrder_again
    (foresight : RunForesight reconcile ready acknowledged attachable ((time, some (.ok run)) :: later) now known)
    (isAttachable : (known.again time run).attachableSince.isSome) : (known.again time run).acknowledged = true := by
  rw [attachableSince_again, Option.isSome_or, Bool.or_eq_true] at isAttachable
  rw [acknowledged_again, Bool.or_eq_true]
  rcases isAttachable with before | here
  · exact .inl (foresight.inOrder before)
  · exact .inr (isAcknowledged_of_isAttachable (by simpa using here))

/-- The deadline of a run that is seen again has not passed. -/
theorem RunForesight.inTime_again
    (foresight : RunForesight reconcile ready acknowledged attachable ((time, some (.ok run)) :: later) now known)
    (beforeDeadline : ∀ limit ∈ (forRun reconcile ready).deadline known, time < limit) :
    ∀ limit ∈ (forRun reconcile ready).deadline (known.again time run), time ≤ limit := by
  intro limit isLimit
  cases again : (known.again time run).acknowledged with
  | false =>
      have before : known.acknowledged = false := by
        rw [acknowledged_again, Bool.or_eq_false_iff] at again
        exact again.1
      have unmoved : (forRun reconcile ready).deadline (known.again time run) =
          (forRun reconcile ready).deadline known := by
        rw [deadline_of_unacknowledged again, deadline_of_unacknowledged before]
      exact Nat.le_of_lt (beforeDeadline limit (unmoved ▸ isLimit))
  | true =>
      rw [deadline_of_acknowledged again, attachableSince_again] at isLimit
      cases before : known.attachableSince with
      | some since =>
          have acknowledgedBefore := foresight.inOrder (by simp [before])
          rw [before, Option.some_or, ← before, ← deadline_of_acknowledged acknowledgedBefore] at isLimit
          exact Nat.le_of_lt (beforeDeadline limit isLimit)
      | none =>
          rw [before, Option.none_or] at isLimit
          split at isLimit
          · cases isLimit
            exact Nat.le_add_right time ready
          · cases isLimit

end Again

theorem keeps_runForesight {acknowledged attachable : Option Nat} :
    (forRun reconcile ready).Keeps (RunForesight reconcile ready acknowledged attachable) where
  inTime foresight := foresight.inTime
  step := by
    intro later now time known next run foresight notEarlier beforeDeadline observed
    simp only [forRun] at observed
    split at observed
    · cases observed
    · cases observed
      refine ⟨foresight.acknowledgedBefore_again beforeDeadline, ?_, foresight.attachable_again,
        foresight.inOrder_again, foresight.inTime_again beforeDeadline⟩
      intro unacknowledged
      rw [acknowledged_again, Bool.or_eq_false_iff] at unacknowledged
      rw [← foresight.acknowledgedLater unacknowledged.1, firstTime?_cons_of_not_noted unacknowledged.2]

section Deadlines

variable {acknowledged attachable : Option Nat} {later : List (Arrival Run)} {now : Nat} {known : RunSeen}

/-- If nothing is read before the deadline of a run that is followed on, its conditions set that deadline. -/
theorem RunForesight.mem_deadlines (foresight : RunForesight reconcile ready acknowledged attachable later now known)
    {limit : Nat} (isLimit : limit ∈ (forRun reconcile ready).deadline known)
    (next : ∀ arrival ∈ later, limit ≤ arrival.1) :
    (limit, (forRun reconcile ready).expired known) ∈
      reconcileDeadline reconcile acknowledged ++ readyDeadline ready attachable := by
  cases before : known.acknowledged with
  | true =>
      rw [deadline_of_acknowledged before] at isLimit
      obtain ⟨since, seen, rfl⟩ := Option.map_eq_some_iff.mp isLimit
      have first : attachable = some since := by simpa [seen] using foresight.attachable.symm
      refine List.mem_append_right _ ?_
      simp [readyDeadline, first, forRun, before]
  | false =>
      rw [deadline_of_unacknowledged before] at isLimit
      cases isLimit
      have late : ∀ since ∈ acknowledged, reconcile ≤ since :=
        foresight.acknowledgedLater before ▸ le_firstTime? next
      refine List.mem_append_left _ ?_
      rw [reconcileDeadline, if_neg (not_any_lt_iff.mpr late)]
      simp [forRun, before]

/-- No deadline that the conditions of a run set comes before the present one and before all that is to be read. -/
theorem RunForesight.notSooner (foresight : RunForesight reconcile ready acknowledged attachable later now known)
    {cause : Cause Unit} (member : cause ∈ reconcileDeadline reconcile acknowledged ++ readyDeadline ready attachable) :
    (∃ limit ∈ (forRun reconcile ready).deadline known, limit ≤ cause.1) ∨ ∃ arrival ∈ later, arrival.1 ≤ cause.1 := by
  rcases List.mem_append.mp member with isReconcile | isReady
  · unfold reconcileDeadline at isReconcile
    split at isReconcile
    · cases isReconcile
    · rename_i late
      rw [List.mem_singleton.mp isReconcile]
      cases before : known.acknowledged with
      | true =>
          obtain ⟨since, first, early⟩ := foresight.acknowledgedBefore before
          exact absurd early (Nat.not_lt_of_le (not_any_lt_iff.mp late since first))
      | false => exact .inl ⟨reconcile, deadline_of_unacknowledged before, Nat.le_refl _⟩
  · obtain ⟨since, first, rfl⟩ := Option.map_eq_some_iff.mp (Option.mem_toList.mp isReady)
    cases seen : known.attachableSince with
    | some moment =>
        have same : moment = since := by simpa [seen, first] using foresight.attachable
        have before := foresight.inOrder (by simp [seen])
        exact .inl ⟨since + ready, by simp [deadline_of_acknowledged before, seen, same], Nat.le_refl _⟩
    | none =>
        have toCome : firstTime? Run.isAttachable later = some since := by
          simpa [seen, first] using foresight.attachable
        obtain ⟨run, member, _⟩ := exists_mem_of_firstTime? toCome
        exact .inr ⟨_, member, Nat.le_add_right since ready⟩

end Deadlines

/-- The following of a run ends at the earliest of its causes, and never without one. -/
theorem isEarliest_forRun (reconcile ready : Nat) (cancelAt : Option Nat) (timeline : Timeline Run) :
    IsEarliest (runCauses reconcile ready cancelAt timeline) ((forRun reconcile ready).outcome cancelAt timeline) := by
  have start : RunForesight reconcile ready (firstTime? isAcknowledged timeline.arrivals)
      (firstTime? Run.isAttachable timeline.arrivals) timeline.arrivals 0 (forRun reconcile ready).start :=
    ⟨by simp [forRun], fun _ => rfl, rfl, by simp [forRun], fun limit _ => Nat.zero_le limit⟩
  obtain ⟨later, now, known, foresight, same, halts⟩ :=
    exists_halts cancelAt decides_forRun keeps_runForesight start
  have earliest := isEarliest_of_halts halts (runDeadlines reconcile ready timeline)
    (fun cause member => foresight.notSooner member) (fun limit isLimit next => foresight.mem_deadlines isLimit next)
  rw [same] at earliest
  exact earliest

/-- What becomes of the following of a run. -/
structure Following (reconcile ready : Nat) (cancelAt : Option Nat) (timeline : Timeline Run) : Prop where
  /-- It ends at the earliest of its causes, and never without one. -/
  ends : IsEarliest (runCauses reconcile ready cancelAt timeline) ((forRun reconcile ready).outcome cancelAt timeline)
  /-- It ends well by its cancellation only. -/
  endsWell : ∀ time, (forRun reconcile ready).outcome cancelAt timeline = some (time, .ok ()) → cancelAt = some time
  /-- A failed run is the first that was read to be completed for a failure reason. -/
  failed : ∀ time reason message,
    (forRun reconcile ready).outcome cancelAt timeline = some (time, .error (.runFailed reason message)) →
      ∃ front run back condition, timeline.arrivals = front ++ (time, some (.ok run)) :: back ∧
        Condition.find? run.conditions Run.completed = some condition ∧ condition.isTrue = true ∧
        Run.isFailureReason reason = true ∧ condition.reasonText = reason ∧ condition.messageText = message ∧
        ∀ moment other, (moment, some (.ok other)) ∈ front → unexecuted? other = none
  /-- A run whose command ran to its end is no failure. -/
  executed : ∀ (run : Run) condition, Condition.find? run.conditions Run.completed = some condition →
    condition.reasonText = Run.Reason.podSucceeded.word ∨ condition.reasonText = Run.Reason.podFailed.word →
      unexecuted? run = none
  /-- A run that was not reconciled in time had no condition whenever it was read before. -/
  notReconciled : ∀ time limit,
    (forRun reconcile ready).outcome cancelAt timeline = some (time, .error (.reconcileTimeout limit)) →
      limit = .ofMillis time ∧ time = reconcile ∧
        ∀ moment run, (moment, some (.ok run)) ∈ timeline.arrivals → isAcknowledged run = true → time ≤ moment
  /-- A run whose pod was not ready in time had all its time since it was first attachable. -/
  notReady : ∀ time limit,
    (forRun reconcile ready).outcome cancelAt timeline = some (time, .error (.readyTimeout limit)) →
      limit = .ofMillis ready ∧ ∃ since, firstTime? Run.isAttachable timeline.arrivals = some since ∧
        time = since + ready
  /-- A run that was acknowledged in time and never attachable has no deadline. -/
  unlimited : ∀ since, firstTime? isAcknowledged timeline.arrivals = some since → since < reconcile →
    firstTime? Run.isAttachable timeline.arrivals = none → runDeadlines reconcile ready timeline = []

/-- The verdict over a run is a failure other than a timeout. -/
theorem exists_failure_of_unexecuted? {cause : Cause Unit}
    (verdict : verdict? unexecuted? (.error (.watchClosed "run")) timeline.arrivals = some cause) :
    ∃ failure, cause.2 = .error failure ∧ failure.limit? = none := by
  rcases cases_of_verdict? verdict with same | ⟨fault, same⟩ | ⟨_, run, _, _, decided, _⟩
  · exact ⟨_, same, rfl⟩
  · exact ⟨_, same, rfl⟩
  · obtain ⟨failure, ended, same⟩ := Option.map_eq_some_iff.mp decided
    obtain ⟨condition, _, _, _, rfl⟩ := endedUnexecuted?_eq_some_iff.mp ended
    exact ⟨_, same.symm, rfl⟩

/-- All deadlines of a run are timeouts. -/
theorem exists_limit_of_mem_runDeadlines {cause : Cause Unit} (member : cause ∈ runDeadlines reconcile ready timeline) :
    ∃ failure, cause.2 = .error failure ∧ failure.limit? ≠ none := by
  rcases List.mem_append.mp member with isReconcile | isReady
  · unfold reconcileDeadline at isReconcile
    split at isReconcile
    · cases isReconcile
    · rw [List.mem_singleton.mp isReconcile]
      exact ⟨_, rfl, by simp [LaunchFailure.limit?]⟩
  · obtain ⟨since, _, rfl⟩ := Option.map_eq_some_iff.mp (Option.mem_toList.mp isReady)
    exact ⟨_, rfl, by simp [LaunchFailure.limit?]⟩

/-- An answer is that of the cancellation, or of the verdict over the run, or of a deadline. -/
theorem cases_of_forRun {cause : Cause Unit} (ended : (forRun reconcile ready).outcome cancelAt timeline = some cause) :
    (cancelAt = some cause.1 ∧ cause.2 = .ok ()) ∨
      verdict? unexecuted? (.error (.watchClosed "run")) timeline.arrivals = some cause ∨
      cause ∈ runDeadlines reconcile ready timeline := by
  have earliest := isEarliest_forRun reconcile ready cancelAt timeline
  rw [ended] at earliest
  exact cases_of_mem_causes earliest.1

/-- Only the deadlines that the conditions of the run set are timeouts. -/
theorem mem_runDeadlines_of_dated {time : Nat} {failure : LaunchFailure}
    (ended : (forRun reconcile ready).outcome cancelAt timeline = some (time, .error failure))
    (dated : failure.limit? ≠ none) : (time, .error failure) ∈ runDeadlines reconcile ready timeline := by
  rcases cases_of_forRun ended with ⟨_, same⟩ | isVerdict | isDeadline
  · cases same
  · obtain ⟨other, same, undated⟩ := exists_failure_of_unexecuted? isVerdict
    cases same
    exact absurd undated dated
  · exact isDeadline

theorem cancelled_of_endsWell {time : Nat}
    (ended : (forRun reconcile ready).outcome cancelAt timeline = some (time, .ok ())) : cancelAt = some time := by
  rcases cases_of_forRun ended with ⟨due, _⟩ | isVerdict | isDeadline
  · exact due
  · obtain ⟨failure, same, _⟩ := exists_failure_of_unexecuted? isVerdict
    cases same
  · obtain ⟨failure, same, _⟩ := exists_limit_of_mem_runDeadlines isDeadline
    cases same

theorem exists_unexecuted_of_failed {time : Nat} {reason message : String}
    (ended : (forRun reconcile ready).outcome cancelAt timeline = some (time, .error (.runFailed reason message))) :
    ∃ front run back condition, timeline.arrivals = front ++ (time, some (.ok run)) :: back ∧
      Condition.find? run.conditions Run.completed = some condition ∧ condition.isTrue = true ∧
      Run.isFailureReason reason = true ∧ condition.reasonText = reason ∧ condition.messageText = message ∧
      ∀ moment other, (moment, some (.ok other)) ∈ front → unexecuted? other = none := by
  rcases cases_of_forRun ended with ⟨_, same⟩ | isVerdict | isDeadline
  · cases same
  · rcases cases_of_verdict? isVerdict with same | ⟨fault, same⟩ | ⟨front, run, back, split, decided, silent⟩
    · cases same
    · cases same
    · obtain ⟨failure, isOver, same⟩ := Option.map_eq_some_iff.mp decided
      cases same
      obtain ⟨condition, completed, holds, isFailure, same⟩ := endedUnexecuted?_eq_some_iff.mp isOver
      cases same
      exact ⟨front, run, back, condition, split, completed, holds, isFailure, rfl, rfl,
        fun moment other before => silent _ before⟩
  · obtain ⟨failure, same, isTimeout⟩ := exists_limit_of_mem_runDeadlines isDeadline
    cases same
    exact absurd rfl isTimeout

theorem reconcileTimeout_of_forRun {time : Nat} {limit : Duration}
    (ended : (forRun reconcile ready).outcome cancelAt timeline = some (time, .error (.reconcileTimeout limit))) :
    limit = .ofMillis time ∧ time = reconcile ∧
      ∀ moment run, (moment, some (.ok run)) ∈ timeline.arrivals → isAcknowledged run = true → time ≤ moment := by
  rcases List.mem_append.mp (mem_runDeadlines_of_dated ended (by simp [LaunchFailure.limit?])) with
    isReconcile | isReady
  · unfold reconcileDeadline at isReconcile
    split at isReconcile
    · cases isReconcile
    · rename_i late
      cases List.mem_singleton.mp isReconcile
      refine ⟨rfl, rfl, ?_⟩
      intro moment run member acknowledged
      exact le_of_le_firstTime? timeline.inOrder (not_any_lt_iff.mp late) member acknowledged
  · obtain ⟨since, _, same⟩ := Option.map_eq_some_iff.mp (Option.mem_toList.mp isReady)
    cases same

theorem readyTimeout_of_forRun {time : Nat} {limit : Duration}
    (ended : (forRun reconcile ready).outcome cancelAt timeline = some (time, .error (.readyTimeout limit))) :
    limit = .ofMillis ready ∧ ∃ since, firstTime? Run.isAttachable timeline.arrivals = some since ∧
      time = since + ready := by
  rcases List.mem_append.mp (mem_runDeadlines_of_dated ended (by simp [LaunchFailure.limit?])) with
    isReconcile | isReady
  · unfold reconcileDeadline at isReconcile
    split at isReconcile
    · cases isReconcile
    · cases List.mem_singleton.mp isReconcile
  · obtain ⟨since, first, same⟩ := Option.map_eq_some_iff.mp (Option.mem_toList.mp isReady)
    cases same
    exact ⟨rfl, since, first, rfl⟩

/-- However the conditions of a run change, its deadlines are those of its first condition and of the first time that
it was attachable, and it fails for nothing else than what it was completed for, a fault, or the end of the watch. -/
theorem following (reconcile ready : Nat) (cancelAt : Option Nat) (timeline : Timeline Run) :
    Following reconcile ready cancelAt timeline where
  ends := isEarliest_forRun reconcile ready cancelAt timeline
  endsWell _ := cancelled_of_endsWell
  failed _ _ _ := exists_unexecuted_of_failed
  executed _ _ := unexecuted?_of_executed
  notReconciled _ _ := reconcileTimeout_of_forRun
  notReady _ _ := readyTimeout_of_forRun
  unlimited since acknowledged early never := by
    simp [runDeadlines, reconcileDeadline, readyDeadline, acknowledged, early, never]

end Turnstile.Watcher
