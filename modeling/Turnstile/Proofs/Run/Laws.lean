/-
Module: Turnstile.Proofs.Run.Laws
Purpose: The laws of a run's life, from its submission on, read off the invariant of its status.
Main exports: Run.exitCode_eq_zero_iff, Run.exitCode_ne_zero_iff, Run.exitCode_eq_none_iff, Run.podName_lived,
  Run.clientReady_lived, Run.Lawful
-/
import Turnstile.Proofs.Run.Life

/-!
The laws speak of a life up to some sight and of the rest of it.  Those about one moment follow from the
coherence of the status; those about two moments follow from what a life never takes back.
-/

namespace Turnstile.Run

open Condition

/-! ### Reasons and exit codes -/

/-- Different reasons have different words. -/
theorem Reason.word_injective {first second : Reason} (same : first.word = second.word) : first = second := by
  cases first <;> cases second <;> first | rfl | exact absurd same (by decide)

/-- The word of a reason is a word of failure exactly if the reason is one of failure. -/
theorem isFailureReason_word (reason : Reason) :
    isFailureReason reason.word = true ↔ reason ∈ failureReasons := by
  simp only [isFailureReason, List.contains_eq_mem, decide_eq_true_eq, List.mem_map]
  constructor
  · rintro ⟨other, member, same⟩
    exact Reason.word_injective same ▸ member
  · exact fun member => ⟨reason, member, rfl⟩

/-- A reason of failure goes without exit code, and the two reasons of an exit go with one. -/
theorem ending_code {reason : Reason} {code : Option Int32} (ending : RunStatus.Ending reason code) :
    (code = some 0 ↔ reason = .podSucceeded) ∧
      ((∃ exit, exit ≠ 0 ∧ code = some exit) ↔ reason = .podFailed) ∧
      (code = none ↔ reason ∈ failureReasons) := by
  cases ending with
  | failed failure =>
      refine ⟨⟨(by intro coded; cases coded), ?_⟩, ⟨(by rintro ⟨_, _, coded⟩; cases coded), ?_⟩,
        by simp [failure]⟩
      · rintro rfl
        exact absurd failure (by decide)
      · rintro rfl
        exact absurd failure (by decide)
  | exited exit =>
      by_cases success : exit = 0
      · subst success
        refine ⟨by simp, ⟨?_, by intro impossible; cases impossible⟩, by decide⟩
        rintro ⟨other, failed, same⟩
        exact absurd (Option.some.inj same).symm failed
      · rw [if_neg success]
        refine ⟨⟨?_, by intro impossible; cases impossible⟩, ⟨fun _ => rfl, fun _ => ⟨exit, success, rfl⟩⟩,
          ⟨(by intro coded; cases coded), fun failure => absurd failure (by decide)⟩⟩
        exact fun same => absurd (Option.some.inj same) success

/-- What the completion of a run that is over gives as its reason. -/
theorem reason?_of_over {run : Run} (finished : run.standing.Over) :
    ∃ reason, RunStatus.Ending reason run.standing.exitCode ∧ run.reason? completed = some reason.word := by
  obtain ⟨reason, condition, ending, found, _, because⟩ := finished.ending
  refine ⟨reason, ending, ?_⟩
  rw [reason?, conditions_eq_standing, found]
  exact because

/-- A run that is underway gives no reason for a completion. -/
theorem reason?_of_underway {run : Run} (underway : run.standing.Underway) : run.reason? completed = none := by
  rw [reason?, conditions_eq_standing, underway.unfinished]
  rfl

/-! ### Runs whose status is coherent -/

section Coherent

variable {run : Run} (coherent : run.standing.Coherent run.name)
include coherent

/-- A run that is completed is over, with everything that goes with it. -/
theorem over_of_isCompleted (finished : run.isCompleted = true) : run.standing.Over := by
  rcases coherent.phase with underway | ended
  · rw [isCompleted_eq_standing, isTrueFor, underway.unfinished] at finished
    cases finished
  · exact ended

/-- A completion that is there holds. -/
theorem isCompleted_of_isSome (present : (find? run.conditions completed).isSome = true) :
    run.isCompleted = true := by
  rw [conditions_eq_standing] at present
  rcases coherent.phase with underway | ended
  · rw [underway.unfinished] at present
    cases present
  · rw [isCompleted_eq_standing]
    exact ended.isTrueFor_completed

/-- The exit code is zero exactly for a success. -/
theorem exitCode_eq_zero_iff :
    run.standing.exitCode = some 0 ↔ run.reason? completed = some Reason.podSucceeded.word := by
  rcases coherent.phase with underway | ended
  · simp [underway.uncoded, reason?_of_underway underway]
  · obtain ⟨reason, ending, because⟩ := reason?_of_over ended
    rw [because, (ending_code ending).1]
    exact ⟨fun same => by rw [same], fun same => Reason.word_injective (Option.some.inj same)⟩

/-- The exit code is another one exactly for a failure of the command. -/
theorem exitCode_ne_zero_iff :
    (∃ code, code ≠ 0 ∧ run.standing.exitCode = some code) ↔
      run.reason? completed = some Reason.podFailed.word := by
  rcases coherent.phase with underway | ended
  · simp [underway.uncoded, reason?_of_underway underway]
  · obtain ⟨reason, ending, because⟩ := reason?_of_over ended
    rw [because, (ending_code ending).2.1]
    exact ⟨fun same => by rw [same], fun same => Reason.word_injective (Option.some.inj same)⟩

/-- A run that is over has no exit code exactly if its reason is one of failure. -/
theorem exitCode_eq_none_iff (finished : run.isCompleted = true) :
    run.standing.exitCode = none ↔
      ∃ word, run.reason? completed = some word ∧ isFailureReason word = true := by
  obtain ⟨reason, ending, because⟩ := reason?_of_over (over_of_isCompleted coherent finished)
  rw [because, (ending_code ending).2.2, ← isFailureReason_word]
  constructor
  · exact fun failure => ⟨reason.word, rfl, failure⟩
  · rintro ⟨word, same, failure⟩
    rw [Option.some.inj same]
    exact failure

/-- The pod of a run that may be attached to is recorded. -/
theorem isSome_podName_of_isAttachable (isOpen : run.isAttachable = true) :
    run.standing.podName.isSome = true := by
  rw [isAttachable_eq_standing] at isOpen
  rcases coherent.phase with underway | ended
  · exact underway.housed isOpen
  · rw [ended.isTrueFor_attachable] at isOpen
    cases isOpen

/-- A recorded pod stays recorded. -/
theorem podName_lived {pod : String} (recorded : run.standing.podName = some pod) (sights : List Sight) :
    (run.lived sights).standing.podName = some pod := by
  refine lived_keeps (fun status => status.podName = some pod) ?_ coherent recorded sights
  intro run coherent recorded sight
  exact podName_after coherent sight recorded

/-- The mark of a client stays. -/
theorem clientReady_lived (present : (find? run.conditions clientReady).isSome = true) (sights : List Sight) :
    (find? (run.lived sights).conditions clientReady).isSome = true := by
  rw [conditions_eq_standing, isSome_find?_iff] at present ⊢
  refine lived_keeps (fun status => clientReady ∈ status.conditions.map Condition.type) ?_ coherent present sights
  intro run coherent present sight
  exact mem_map_type_after sight present

end Coherent

/-! ### The laws -/

/-- What holds of a run after the earlier sights of its life, and what the later ones leave of it. -/
structure Lawful (run : Run) (earlier later : List Sight) : Prop where
  /-- The conditions have distinct types. -/
  distinct : ((run.lived earlier).conditions.map Condition.type).Nodup
  /-- A completion that is there holds. -/
  completed_holds : ∀ condition, find? (run.lived earlier).conditions completed = some condition →
    condition.isTrue = true
  /-- Once there is a completion, nothing is planned any more, whatever is observed. -/
  completed_last : (find? (run.lived earlier).conditions completed).isSome = true →
    ∀ sight, (run.lived (earlier ++ later)).planAt sight = { status := none, createPod := false }
  /-- A completion withdraws attachability, and the reason says so. -/
  completed_withdraws : (run.lived earlier).isCompleted = true →
    ∃ condition, find? (run.lived earlier).conditions attachable = some condition ∧
      condition.isFalse = true ∧ condition.reason = some "Completed"
  /-- The exit code is zero exactly for a success. -/
  succeeded_iff : (run.lived earlier).standing.exitCode = some 0 ↔
    (run.lived earlier).reason? completed = some "PodSucceeded"
  /-- The exit code is another one exactly for a failure of the command. -/
  failed_iff : (∃ code, code ≠ 0 ∧ (run.lived earlier).standing.exitCode = some code) ↔
    (run.lived earlier).reason? completed = some "PodFailed"
  /-- A run that is over has no exit code exactly if its reason is one of failure. -/
  uncoded_iff : (run.lived earlier).isCompleted = true →
    ((run.lived earlier).standing.exitCode = none ↔
      ∃ word, (run.lived earlier).reason? completed = some word ∧ isFailureReason word = true)
  /-- The pod of a run that may be attached to is recorded. -/
  attachable_housed : (run.lived earlier).isAttachable = true →
    (run.lived earlier).standing.podName.isSome = true
  /-- A recorded pod goes by the name of the run, for good. -/
  podName_lasts : ∀ pod, (run.lived earlier).standing.podName = some pod →
    pod = run.name ∧ (run.lived (earlier ++ later)).standing.podName = some pod
  /-- The mark of a client comes from the annotation that was seen at some sight. -/
  client_seen : (find? (run.lived earlier).conditions clientReady).isSome = true →
    ∃ sight ∈ earlier, (run.seen sight).hasClient = true
  /-- The mark of a client stays. -/
  client_lasts : (find? (run.lived earlier).conditions clientReady).isSome = true →
    (find? (run.lived (earlier ++ later)).conditions clientReady).isSome = true
  /-- The pod is asked for at one sight at most. -/
  pod_once : (run.planned earlier).countP Plan.createPod ≤ 1

/-- A run that starts without a status lives by the laws, whatever its life brings. -/
theorem lawful_life (metadata : Metadata) (spec : RunSpec) (earlier later : List Sight) :
    Lawful { metadata, spec, status := none } earlier later := by
  generalize submitted : ({ metadata, spec, status := none } : Run) = run
  have fresh : run.standing = {} := by rw [← submitted]; rfl
  have start : run.standing.Coherent run.name := by rw [fresh]; exact RunStatus.coherent_empty run.name
  have coherent : (run.lived earlier).standing.Coherent (run.lived earlier).name := by
    rw [name_lived]
    exact coherent_lived start earlier
  refine
    { distinct := by rw [conditions_eq_standing]; exact coherent.distinct
      completed_holds := ?_
      completed_last := ?_
      completed_withdraws := ?_
      succeeded_iff := exitCode_eq_zero_iff coherent
      failed_iff := exitCode_ne_zero_iff coherent
      uncoded_iff := exitCode_eq_none_iff coherent
      attachable_housed := isSome_podName_of_isAttachable coherent
      podName_lasts := ?_
      client_seen := ?_
      client_lasts := ?_
      pod_once := (countP_createPod_planned start earlier).1 }
  · intro condition found
    have finished := isCompleted_of_isSome coherent (by rw [found]; rfl)
    simpa [isCompleted, isTrueFor, found] using finished
  · intro present sight
    have finished := isCompleted_of_isSome coherent present
    refine (after_of_isCompleted ?_ sight).1
    rw [isCompleted_eq_standing, lived_append, standing_lived_of_isCompleted finished,
      ← isCompleted_eq_standing]
    exact finished
  · intro finished
    obtain ⟨condition, found, fails, because⟩ := (over_of_isCompleted coherent finished).withdrawn
    refine ⟨condition, by rw [conditions_eq_standing]; exact found, ?_, because⟩
    simp [Condition.isFalse, fails]
  · intro pod recorded
    rw [lived_append]
    exact ⟨(coherent.named pod recorded).trans (name_lived run earlier), podName_lived coherent recorded later⟩
  · intro present
    rw [conditions_eq_standing, isSome_find?_iff] at present
    refine hasClient_of_clientReady_lived ?_ present
    rw [fresh]
    exact List.not_mem_nil
  · intro present
    rw [lived_append]
    exact clientReady_lived coherent present later

end Turnstile.Run
