/-
Module: Turnstile.Proofs.Launch.Readying
Purpose: When and how the wait for a new workspace ends, and whether its timeouts tell the time that has passed.
Main exports: Watcher.isReconciled, Watcher.readinessDeadline, Watcher.readinessCauses, Watcher.Readying,
  Watcher.readying
-/
import Turnstile.Launch.Watchers
import Turnstile.Proofs.Watch.Earliest

/-!
A new workspace has to be acknowledged by one deadline and to be ready by another one, and both count from the
start.  A workspace that is never acknowledged is given up by the earlier of the two, and by a failure that names
the first.  So this failure tells the time that has passed if and only if the first deadline is not the later one;
all else that the wait tells is true.
-/

namespace Turnstile.Watcher

variable {reconcile ready : Nat} {cancelAt : Option Nat} {timeline : Timeline Workspace}

/-- The controller has stamped a condition on the workspace. -/
def isReconciled (workspace : Workspace) : Bool :=
  !workspace.conditions.isEmpty

/-- The deadline of a workspace that is acknowledged at some time, or never. -/
def readinessDeadline (reconcile ready : Nat) (acknowledged : Option Nat) : Cause Unit :=
  if acknowledged.any (· < min reconcile ready) then (ready, .error (.workspaceReadyTimeout (.ofMillis ready)))
  else (min reconcile ready, .error (.reconcileTimeout (.ofMillis reconcile)))

/-- The deadline in force once this much was read. -/
def deadlineAfter (reconcile ready : Nat) (read : List (Arrival Workspace)) : Nat :=
  if (firstTime? isReconciled read).isSome then ready else min reconcile ready

/-- What may end the wait, the first of what comes at the same time first: the cancellation, the deadline, and the
first event that shows the workspace unhealthy or ready, fault or end of the watch. -/
def readinessCauses (reconcile ready : Nat) (cancelAt : Option Nat) (timeline : Timeline Workspace) :
    List (Cause Unit) :=
  (cancelAt.map fun time => (time, .error .cancelled)).toList ++
    readinessDeadline reconcile ready (firstTime? isReconciled timeline.arrivals) ::
      (verdict? readiness? (.error (.watchClosed "workspace")) timeline.arrivals).toList

/-- A workspace is found ready if it is, and not known to be unhealthy. -/
theorem readiness?_eq_some_ok_iff {workspace : Workspace} :
    readiness? workspace = some (.ok ()) ↔
      Condition.isTrueFor workspace.conditions Workspace.ready = true ∧
        Condition.isFalseFor workspace.conditions Workspace.healthy = false := by
  unfold readiness?
  cases Condition.isFalseFor workspace.conditions Workspace.healthy <;> simp

/-- A workspace fails if it is known to be unhealthy, for what its condition says. -/
theorem readiness?_eq_some_error_iff {workspace : Workspace} {failure : LaunchFailure} :
    readiness? workspace = some (.error failure) ↔
      ∃ condition, Condition.find? workspace.conditions Workspace.healthy = some condition ∧
        condition.isFalse = true ∧ failure = .workspaceUnhealthy workspace.name condition.messageText := by
  unfold readiness? Condition.isFalseFor
  cases Condition.find? workspace.conditions Workspace.healthy with
  | none => simp
  | some condition =>
      cases known : condition.isFalse with
      | false => simp [known]
      | true =>
          simp only [Option.any_some, known, if_true, Option.some.injEq, Except.error.injEq, exists_eq_left',
            true_and, Option.map_some, Option.getD_some, eq_comm (a := failure)]

/-- A workspace of which nothing is decided is neither ready nor unhealthy. -/
theorem readiness?_eq_none_iff {workspace : Workspace} :
    readiness? workspace = none ↔
      Condition.isTrueFor workspace.conditions Workspace.ready = false ∧
        Condition.isFalseFor workspace.conditions Workspace.healthy = false := by
  unfold readiness?
  cases Condition.isFalseFor workspace.conditions Workspace.healthy <;> simp

theorem decides_forReadiness : (forReadiness reconcile ready).Decides readiness? where
  answers := by
    intro time acknowledged workspace given observed
    simp only [forReadiness] at observed
    split at observed
    · rename_i decided
      cases observed
      exact decided
    · cases observed
  waits := by
    intro time acknowledged next workspace observed
    simp only [forReadiness] at observed
    split at observed
    · cases observed
    · assumption

/-- What a wait that goes on has told: when the workspace was acknowledged, be it before or yet to come. -/
structure ReadinessForesight (reconcile ready : Nat) (first : Option Nat) (later : List (Arrival Workspace)) (now : Nat)
    (acknowledged : Bool) : Prop where
  before : acknowledged = true → ∃ since, first = some since ∧ since < min reconcile ready
  toCome : acknowledged = false → firstTime? isReconciled later = first
  inTime : ∀ limit ∈ (forReadiness reconcile ready).deadline acknowledged, now ≤ limit

/-- An acknowledgement only ever puts the deadline off. -/
theorem deadline_again (acknowledged more : Bool) :
    (if acknowledged then ready else min reconcile ready) ≤
      if acknowledged || more then ready else min reconcile ready := by
  cases acknowledged with
  | true => exact Nat.le_refl _
  | false =>
      cases more with
      | true => exact Nat.min_le_right _ _
      | false => exact Nat.le_refl _

theorem keeps_readinessForesight {first : Option Nat} :
    (forReadiness reconcile ready).Keeps (ReadinessForesight reconcile ready first) where
  inTime foresight := foresight.inTime
  step := by
    intro later now time acknowledged next workspace foresight notEarlier beforeDeadline observed
    simp only [forReadiness] at observed
    split at observed
    · cases observed
    · cases observed
      change ReadinessForesight reconcile ready first later time (acknowledged || isReconciled workspace)
      have early : time < if acknowledged then ready else min reconcile ready := beforeDeadline _ rfl
      have inTime : ∀ limit ∈ (forReadiness reconcile ready).deadline (acknowledged || isReconciled workspace),
          time ≤ limit := by
        intro limit isLimit
        cases isLimit
        exact Nat.le_trans (Nat.le_of_lt early) (deadline_again acknowledged (isReconciled workspace))
      cases acknowledged with
      | true => exact ⟨foresight.before, by simp, inTime⟩
      | false =>
          have told := foresight.toCome rfl
          cases here : isReconciled workspace with
          | true =>
              rw [firstTime?_cons_of_noted here] at told
              exact ⟨fun _ => ⟨time, told.symm, early⟩, by simp, here ▸ inTime⟩
          | false =>
              rw [firstTime?_cons_of_not_noted here] at told
              exact ⟨by simp, fun _ => told, here ▸ inTime⟩

/-- The deadline that was foreseen comes no sooner than the one in force, and is that one if nothing is read before
it. -/
theorem ReadinessForesight.deadline {first : Option Nat} {later : List (Arrival Workspace)} {now : Nat}
    {acknowledged : Bool} (foresight : ReadinessForesight reconcile ready first later now acknowledged) :
    (∃ limit ∈ (forReadiness reconcile ready).deadline acknowledged,
      limit ≤ (readinessDeadline reconcile ready first).1) ∧
    ∀ limit ∈ (forReadiness reconcile ready).deadline acknowledged, (∀ arrival ∈ later, limit ≤ arrival.1) →
      readinessDeadline reconcile ready first = (limit, (forReadiness reconcile ready).expired acknowledged) := by
  cases acknowledged with
  | true =>
      obtain ⟨since, known, early⟩ := foresight.before rfl
      have deadline : readinessDeadline reconcile ready first =
          (ready, .error (.workspaceReadyTimeout (.ofMillis ready))) := by
        rw [readinessDeadline, known, if_pos (by simpa using early)]
      refine ⟨⟨ready, rfl, by simp [deadline]⟩, ?_⟩
      rintro limit isLimit -
      cases isLimit
      exact deadline
  | false =>
      refine ⟨⟨min reconcile ready, rfl, ?_⟩, ?_⟩
      · unfold readinessDeadline
        split
        · exact Nat.min_le_right _ _
        · exact Nat.le_refl _
      · intro limit isLimit next
        cases isLimit
        have late : ∀ since ∈ first, min reconcile ready ≤ since := foresight.toCome rfl ▸ le_firstTime? next
        rw [readinessDeadline, if_neg (not_any_lt_iff.mpr late)]
        rfl

/-- The wait ends at the foremost of its causes. -/
theorem outcome_forReadiness (reconcile ready : Nat) (cancelAt : Option Nat) (timeline : Timeline Workspace) :
    (forReadiness reconcile ready).outcome cancelAt timeline =
      foremost? (readinessCauses reconcile ready cancelAt timeline) := by
  have start : ReadinessForesight reconcile ready (firstTime? isReconciled timeline.arrivals) timeline.arrivals 0
      (forReadiness reconcile ready).start :=
    ⟨by simp [forReadiness], fun _ => rfl, fun limit _ => Nat.zero_le limit⟩
  obtain ⟨later, now, acknowledged, foresight, same, halts⟩ :=
    exists_halts cancelAt decides_forReadiness keeps_readinessForesight start
  obtain ⟨notSooner, listed⟩ := foresight.deadline
  have foremost := eq_foremost?_of_halts halts notSooner listed
  rw [same] at foremost
  exact foremost

/-- An answer is that of the cancellation, or of the deadline, or of the verdict over the workspace before that. -/
theorem cases_of_forReadiness {cause : Cause Unit}
    (ended : (forReadiness reconcile ready).outcome cancelAt timeline = some cause) :
    (cancelAt = some cause.1 ∧ cause.2 = .error .cancelled) ∨
      (cause = readinessDeadline reconcile ready (firstTime? isReconciled timeline.arrivals) ∧
        ∀ verdict ∈ verdict? readiness? (.error (.watchClosed "workspace")) timeline.arrivals, cause.1 ≤ verdict.1) ∨
      (verdict? readiness? (.error (.watchClosed "workspace")) timeline.arrivals = some cause ∧
        cause.1 < (readinessDeadline reconcile ready (firstTime? isReconciled timeline.arrivals)).1) := by
  rw [outcome_forReadiness] at ended
  rcases cases_of_foremost? ended with isCancellation | ⟨rfl, first⟩ | isVerdict
  · exact .inl isCancellation
  · exact .inr (.inl ⟨rfl, first⟩)
  · exact .inr (.inr isVerdict)

/-- The deadline for readiness is the latest there is. -/
theorem readinessDeadline_le (acknowledged : Option Nat) :
    (readinessDeadline reconcile ready acknowledged).1 ≤ ready := by
  unfold readinessDeadline
  split
  · exact Nat.le_refl _
  · exact Nat.min_le_right _ _

/-- What is read before the deadline that was foreseen is read before the one in force. -/
theorem lt_deadlineAfter {front back : List (Arrival Workspace)} {arrival : Arrival Workspace}
    (split : timeline.arrivals = front ++ arrival :: back)
    (early : arrival.1 < (readinessDeadline reconcile ready (firstTime? isReconciled timeline.arrivals)).1) :
    arrival.1 < deadlineAfter reconcile ready front := by
  have ordered : (front ++ arrival :: back).Pairwise fun first second => first.1 ≤ second.1 :=
    split ▸ timeline.inOrder
  rw [deadlineAfter]
  split
  · exact Nat.lt_of_lt_of_le early (readinessDeadline_le _)
  · rename_i unseen
    unfold readinessDeadline at early
    split at early
    · rename_i isEarly
      obtain ⟨since, first, sooner⟩ := (Option.any_eq_true _ _).mp isEarly
      obtain ⟨workspace, member, acknowledges⟩ := exists_mem_of_firstTime? first
      have before : arrival.1 ≤ since := by
        rw [split] at member
        rcases List.mem_append.mp member with ahead | after
        · obtain ⟨other, seen, _⟩ := exists_firstTime?_le (List.pairwise_append.mp ordered).1 ahead acknowledges
          exact absurd (by simp [seen]) unseen
        · exact le_of_mem_behind ordered after
      exact Nat.lt_of_le_of_lt before (of_decide_eq_true sooner)
    · exact early

/-- What becomes of the wait for a new workspace. -/
structure Readying (reconcile ready : Nat) (cancelAt : Option Nat) (timeline : Timeline Workspace) : Prop where
  /-- It ends, at the foremost of its causes. -/
  ends : ∃ outcome, (forReadiness reconcile ready).outcome cancelAt timeline = some outcome ∧
    foremost? (readinessCauses reconcile ready cancelAt timeline) = some outcome
  /-- It ends well when the workspace is found ready and not unhealthy, before the deadline in force. -/
  endsWell : ∀ time, (forReadiness reconcile ready).outcome cancelAt timeline = some (time, .ok ()) →
    ∃ front workspace back, timeline.arrivals = front ++ (time, some (.ok workspace)) :: back ∧
      Condition.isTrueFor workspace.conditions Workspace.ready = true ∧
      Condition.isFalseFor workspace.conditions Workspace.healthy = false ∧ time < deadlineAfter reconcile ready front
  /-- It fails when the workspace is first found unhealthy, before the deadline in force. -/
  unhealthy : ∀ time name message,
    (forReadiness reconcile ready).outcome cancelAt timeline =
        some (time, .error (.workspaceUnhealthy name message)) →
      ∃ front workspace back condition, timeline.arrivals = front ++ (time, some (.ok workspace)) :: back ∧
        Condition.find? workspace.conditions Workspace.healthy = some condition ∧ condition.isFalse = true ∧
        workspace.name = name ∧ condition.messageText = message ∧
        (∀ moment other, (moment, some (.ok other)) ∈ front →
          Condition.isFalseFor other.conditions Workspace.healthy = false) ∧
        time < deadlineAfter reconcile ready front
  /-- A workspace that was not acknowledged in time had no condition whenever it was read before.  The time that the
  failure names has passed if and only if it is not the later of the two. -/
  notReconciled : ∀ time limit,
    (forReadiness reconcile ready).outcome cancelAt timeline = some (time, .error (.reconcileTimeout limit)) →
      limit = .ofMillis reconcile ∧ time = min reconcile ready ∧ (limit = .ofMillis time ↔ reconcile ≤ ready) ∧
        ∀ moment workspace, (moment, some (.ok workspace)) ∈ timeline.arrivals → isReconciled workspace = true →
          time ≤ moment
  /-- A workspace that was not ready in time was acknowledged before, and not ready whenever it was read before.  The
  time that the failure names has passed. -/
  notReady : ∀ time limit,
    (forReadiness reconcile ready).outcome cancelAt timeline = some (time, .error (.workspaceReadyTimeout limit)) →
      limit = .ofMillis time ∧ time = ready ∧
        (∃ moment workspace, (moment, some (.ok workspace)) ∈ timeline.arrivals ∧ isReconciled workspace = true ∧
          moment < time) ∧
        ∀ moment workspace, (moment, some (.ok workspace)) ∈ timeline.arrivals → moment < time →
          Condition.isTrueFor workspace.conditions Workspace.ready = false

/-- There always is a deadline, so the wait ends. -/
theorem exists_outcome_forReadiness (reconcile ready : Nat) (cancelAt : Option Nat) (timeline : Timeline Workspace) :
    ∃ outcome, (forReadiness reconcile ready).outcome cancelAt timeline = some outcome := by
  rw [outcome_forReadiness]
  exact exists_foremost?_of_mem (List.mem_append_right _ List.mem_cons_self)

/-- The deadline is a timeout. -/
theorem exists_limit_of_readinessDeadline (reconcile ready : Nat) (acknowledged : Option Nat) :
    ∃ failure, (readinessDeadline reconcile ready acknowledged).2 = .error failure ∧ failure.limit? ≠ none := by
  unfold readinessDeadline
  split
  · exact ⟨_, rfl, by simp [LaunchFailure.limit?]⟩
  · exact ⟨_, rfl, by simp [LaunchFailure.limit?]⟩

/-- No verdict over a new workspace is a timeout. -/
theorem undated_of_readiness? {cause : Cause Unit}
    (verdict : verdict? readiness? (.error (.watchClosed "workspace")) timeline.arrivals = some cause) :
    Undated cause.2 := by
  refine undated_of_verdict? (undated_error rfl) ?_ verdict
  rintro workspace (failure | _) decided
  · obtain ⟨condition, _, _, rfl⟩ := readiness?_eq_some_error_iff.mp decided
    exact undated_error rfl
  · exact undated_ok ()

/-- Only the deadline is a timeout, and no verdict came before it. -/
theorem readinessDeadline_of_dated {time : Nat} {failure : LaunchFailure}
    (ended : (forReadiness reconcile ready).outcome cancelAt timeline = some (time, .error failure))
    (dated : failure.limit? ≠ none) :
    readinessDeadline reconcile ready (firstTime? isReconciled timeline.arrivals) = (time, .error failure) ∧
      ∀ verdict ∈ verdict? readiness? (.error (.watchClosed "workspace")) timeline.arrivals, time ≤ verdict.1 := by
  rcases cases_of_forReadiness ended with ⟨_, same⟩ | ⟨same, first⟩ | ⟨isVerdict, _⟩
  · cases same
    exact absurd rfl dated
  · exact ⟨same.symm, first⟩
  · exact absurd (undated_of_readiness? isVerdict failure rfl) dated

/-- An answer other than a cancellation or a timeout is decided of the workspace before the deadline in force, or the
watch is over. -/
theorem cases_of_undated {cause : Cause Unit}
    (ended : (forReadiness reconcile ready).outcome cancelAt timeline = some cause) (undated : Undated cause.2) :
    cause.2 = .error .cancelled ∨ cause.2 = .error (.watchClosed "workspace") ∨
      (∃ fault, cause.2 = .error (.watch fault)) ∨
      ∃ front workspace back, timeline.arrivals = front ++ (cause.1, some (.ok workspace)) :: back ∧
        readiness? workspace = some cause.2 ∧ cause.1 < deadlineAfter reconcile ready front ∧
        ∀ moment other, (moment, some (.ok other)) ∈ front → readiness? other = none := by
  rcases cases_of_forReadiness ended with ⟨_, same⟩ | ⟨rfl, _⟩ | ⟨isVerdict, early⟩
  · exact .inl same
  · obtain ⟨failure, same, dated⟩ := exists_limit_of_readinessDeadline reconcile ready
      (firstTime? isReconciled timeline.arrivals)
    exact absurd (undated failure same) dated
  · rcases cases_of_verdict? isVerdict with same | isFault | ⟨front, workspace, back, split, decided, silent⟩
    · exact .inr (.inl same)
    · exact .inr (.inr (.inl isFault))
    · exact .inr (.inr (.inr ⟨front, workspace, back, split, decided, lt_deadlineAfter split early,
        fun moment other before => silent _ before⟩))

theorem ready_of_endsWell {time : Nat}
    (ended : (forReadiness reconcile ready).outcome cancelAt timeline = some (time, .ok ())) :
    ∃ front workspace back, timeline.arrivals = front ++ (time, some (.ok workspace)) :: back ∧
      Condition.isTrueFor workspace.conditions Workspace.ready = true ∧
      Condition.isFalseFor workspace.conditions Workspace.healthy = false ∧
      time < deadlineAfter reconcile ready front := by
  rcases cases_of_undated ended (undated_ok ()) with
    same | same | ⟨_, same⟩ | ⟨front, workspace, back, split, decided, early, _⟩
  · cases same
  · cases same
  · cases same
  · obtain ⟨isReady, notUnhealthy⟩ := readiness?_eq_some_ok_iff.mp decided
    exact ⟨front, workspace, back, split, isReady, notUnhealthy, early⟩

theorem exists_unhealthy_of_failed {time : Nat} {name message : String}
    (ended : (forReadiness reconcile ready).outcome cancelAt timeline =
      some (time, .error (.workspaceUnhealthy name message))) :
    ∃ front workspace back condition, timeline.arrivals = front ++ (time, some (.ok workspace)) :: back ∧
      Condition.find? workspace.conditions Workspace.healthy = some condition ∧ condition.isFalse = true ∧
      workspace.name = name ∧ condition.messageText = message ∧
      (∀ moment other, (moment, some (.ok other)) ∈ front →
        Condition.isFalseFor other.conditions Workspace.healthy = false) ∧
      time < deadlineAfter reconcile ready front := by
  rcases cases_of_undated ended (undated_error rfl) with
    same | same | ⟨_, same⟩ | ⟨front, workspace, back, split, decided, early, silent⟩
  · cases same
  · cases same
  · cases same
  · obtain ⟨condition, found, isFalse, same⟩ := readiness?_eq_some_error_iff.mp decided
    cases same
    exact ⟨front, workspace, back, condition, split, found, isFalse, rfl, rfl,
      fun moment other before => (readiness?_eq_none_iff.mp (silent moment other before)).2, early⟩

theorem ofMillis_inj {first second : Nat} : Duration.ofMillis first = Duration.ofMillis second ↔ first = second := by
  rw [Duration.ofMillis, Duration.ofMillis, Duration.mk.injEq]
  omega

theorem reconcileTimeout_of_forReadiness {time : Nat} {limit : Duration}
    (ended : (forReadiness reconcile ready).outcome cancelAt timeline = some (time, .error (.reconcileTimeout limit))) :
    limit = .ofMillis reconcile ∧ time = min reconcile ready ∧ (limit = .ofMillis time ↔ reconcile ≤ ready) ∧
      ∀ moment workspace, (moment, some (.ok workspace)) ∈ timeline.arrivals → isReconciled workspace = true →
        time ≤ moment := by
  have deadline := (readinessDeadline_of_dated ended (by simp [LaunchFailure.limit?])).1
  unfold readinessDeadline at deadline
  split at deadline
  · cases deadline
  · rename_i late
    cases deadline
    refine ⟨rfl, rfl, ?_, ?_⟩
    · rw [ofMillis_inj]
      omega
    · intro moment workspace member acknowledges
      exact le_of_le_firstTime? timeline.inOrder (not_any_lt_iff.mp late) member acknowledges

theorem readyTimeout_of_forReadiness {time : Nat} {limit : Duration}
    (ended : (forReadiness reconcile ready).outcome cancelAt timeline =
      some (time, .error (.workspaceReadyTimeout limit))) :
    limit = .ofMillis time ∧ time = ready ∧
      (∃ moment workspace, (moment, some (.ok workspace)) ∈ timeline.arrivals ∧ isReconciled workspace = true ∧
        moment < time) ∧
      ∀ moment workspace, (moment, some (.ok workspace)) ∈ timeline.arrivals → moment < time →
        Condition.isTrueFor workspace.conditions Workspace.ready = false := by
  obtain ⟨deadline, first⟩ := readinessDeadline_of_dated ended (by simp [LaunchFailure.limit?])
  unfold readinessDeadline at deadline
  split at deadline
  · rename_i isEarly
    cases deadline
    refine ⟨rfl, rfl, ?_, ?_⟩
    · obtain ⟨since, seen, early⟩ := (Option.any_eq_true _ _).mp isEarly
      obtain ⟨workspace, member, acknowledges⟩ := exists_mem_of_firstTime? seen
      have inTime : since < min reconcile ready := of_decide_eq_true early
      exact ⟨since, workspace, member, acknowledges, by omega⟩
    · intro moment workspace member before
      rw [← Bool.not_eq_true]
      intro isReady
      have settles : (ruling? readiness? (.error (.watchClosed "workspace")) (some (.ok workspace))).isSome := by
        rw [ruling?, Option.isSome_iff_ne_none, Ne, readiness?_eq_none_iff, isReady]
        simp
      obtain ⟨verdict, isVerdict, inOrder⟩ := exists_firstTelling?_le timeline.inOrder member settles
      exact absurd (first verdict isVerdict) (Nat.not_le_of_lt (Nat.lt_of_le_of_lt inOrder before))
  · cases deadline

/-- A new workspace is waited for as its deadlines say, and the failure of a wait tells what was seen.  The time that
it names has passed, unless the workspace was never acknowledged and the deadline for that is the later one. -/
theorem readying (reconcile ready : Nat) (cancelAt : Option Nat) (timeline : Timeline Workspace) :
    Readying reconcile ready cancelAt timeline where
  ends := by
    obtain ⟨outcome, ended⟩ := exists_outcome_forReadiness reconcile ready cancelAt timeline
    exact ⟨outcome, ended, outcome_forReadiness reconcile ready cancelAt timeline ▸ ended⟩
  endsWell _ := ready_of_endsWell
  unhealthy _ _ _ := exists_unhealthy_of_failed
  notReconciled _ _ := reconcileTimeout_of_forReadiness
  notReady _ _ := readyTimeout_of_forReadiness

/-- A workspace that is to be ready before it is to be acknowledged is given up for a time that has not passed. -/
theorem reconcileTimeout_early :
    (forReadiness 200 100).outcome none {} = some (100, .error (.reconcileTimeout (.ofMillis 200))) ∧
      Duration.ofMillis 200 ≠ Duration.ofMillis 100 :=
  ⟨rfl, by decide⟩

end Turnstile.Watcher
