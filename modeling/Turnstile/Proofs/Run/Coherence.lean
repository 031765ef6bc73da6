/-
Module: Turnstile.Proofs.Run.Coherence
Purpose: Which completion, attachability, exit code and pod name may stand together in the status of a run.
Main exports: RunStatus.Underway, RunStatus.Over, RunStatus.Coherent, Run.Verdict.coherent,
  Run.coherent_greeted
-/
import Turnstile.Proofs.Condition.Recording
import Turnstile.Proofs.Run.Verdict

/-!
A status is underway until it is over, and either phase says exactly which of completion, attachability, exit
code and pod name may stand together.  Every verdict on a run that is underway leaves a coherent status, and
so does the mark of the client that may be recorded after it.
-/

namespace Turnstile

namespace RunStatus

/-- The run is not over: it has no completion and no exit code, and it may be attached to only when the name
of its pod is recorded. -/
structure Underway (status : RunStatus) : Prop where
  unfinished : Condition.find? status.conditions Run.completed = none
  uncoded : status.exitCode = none
  housed : Condition.isTrueFor status.conditions Run.attachable = true → status.podName.isSome = true

/-- Which exit code goes with which reason. -/
inductive Ending : Run.Reason → Option Int32 → Prop where
  | failed {reason : Run.Reason} (failure : reason ∈ Run.failureReasons) : Ending reason none
  | exited (code : Int32) : Ending (if code = 0 then .podSucceeded else .podFailed) (some code)

/-- The run is over: its completion holds with a reason that fits the exit code, and attachability is
withdrawn. -/
structure Over (status : RunStatus) : Prop where
  ending : ∃ reason condition, Ending reason status.exitCode ∧
    Condition.find? status.conditions Run.completed = some condition ∧
    condition.status = Condition.statusTrue ∧ condition.reason = some reason.word
  withdrawn : ∃ condition, Condition.find? status.conditions Run.attachable = some condition ∧
    condition.status = Condition.statusFalse ∧ condition.reason = some Run.Reason.runCompleted.word

/-- The joint invariant of all that a status says of the run of this name. -/
structure Coherent (name : String) (status : RunStatus) : Prop where
  distinct : (status.conditions.map Condition.type).Nodup
  phase : status.Underway ∨ status.Over
  named : ∀ pod, status.podName = some pod → pod = name

/-- The completion of a run that is over holds. -/
theorem Over.isTrueFor_completed {status : RunStatus} (finished : status.Over) :
    Condition.isTrueFor status.conditions Run.completed = true := by
  obtain ⟨_, condition, _, found, holds, _⟩ := finished.ending
  simp [Condition.isTrueFor, found, Condition.isTrue, holds]

/-- A run that is over may not be attached to. -/
theorem Over.isTrueFor_attachable {status : RunStatus} (finished : status.Over) :
    Condition.isTrueFor status.conditions Run.attachable = false := by
  obtain ⟨condition, found, fails, _⟩ := finished.withdrawn
  simp [Condition.isTrueFor, found, Condition.isTrue, fails, Condition.statusTrue, Condition.statusFalse]

/-- A coherent status without a completion that holds is underway. -/
theorem Coherent.underway {name : String} {status : RunStatus} (coherent : status.Coherent name)
    (unfinished : Condition.isTrueFor status.conditions Run.completed = false) : status.Underway := by
  rcases coherent.phase with underway | finished
  · exact underway
  · rw [finished.isTrueFor_completed] at unfinished
    cases unfinished

/-- The status that nothing has been recorded in is coherent. -/
theorem coherent_empty (name : String) : ({} : RunStatus).Coherent name where
  distinct := List.nodup_nil
  phase := Or.inl ⟨rfl, rfl, by intro attachable; cases attachable⟩
  named := by intro pod recorded; cases recorded

end RunStatus

namespace Run

open Condition

/-! ### What each decision does to a status -/

@[simp] theorem conditions_setAttachable (now : String) (holds : Bool) (reason : Reason) (message : String)
    (status : RunStatus) :
    (setAttachable now holds reason message status).conditions =
      set now (.observed attachable holds reason.word message) status.conditions := rfl

@[simp] theorem conditions_complete (now : String) (reason : Reason) (message : String) (status : RunStatus) :
    (complete now reason message status).conditions =
      set now (.observed completed true reason.word message)
        (set now (.observed attachable false Reason.runCompleted.word ("Run completed: " ++ reason.word))
          status.conditions) := rfl

@[simp] theorem podName_greeted (now : String) (run : Run) (status : RunStatus) :
    (greeted now run status).podName = status.podName := by
  unfold greeted
  split <;> rfl

@[simp] theorem exitCode_greeted (now : String) (run : Run) (status : RunStatus) :
    (greeted now run status).exitCode = status.exitCode := by
  unfold greeted
  split <;> rfl

/-- The mark of the client touches no condition but its own. -/
theorem find?_greeted_of_ne {type : String} (now : String) (run : Run) (status : RunStatus)
    (other : clientReady ≠ type) :
    find? (greeted now run status).conditions type = find? status.conditions type := by
  unfold greeted
  split
  · exact find?_set_of_ne now status.conditions other
  · rfl

theorem attachable_ne_completed : attachable ≠ completed := by decide

theorem clientReady_ne_completed : clientReady ≠ completed := by decide

theorem clientReady_ne_attachable : clientReady ≠ attachable := by decide

/-- After a completion its condition holds for the reason of the completion. -/
theorem find?_completed_complete (now : String) (reason : Reason) (message : String) (status : RunStatus) :
    ∃ condition, find? (complete now reason message status).conditions completed = some condition ∧
      condition.status = statusTrue ∧ condition.reason = some reason.word := by
  obtain ⟨kept, found, same⟩ := find?_set_self now (.observed completed true reason.word message)
    (setAttachable now false .runCompleted ("Run completed: " ++ reason.word) status).conditions
  obtain ⟨statusEq, reasonEq, _⟩ := eq_of_saysSame same
  exact ⟨kept, found, statusEq, reasonEq⟩

/-- After a completion attachability is withdrawn, and the reason says so. -/
theorem find?_attachable_complete (now : String) (reason : Reason) (message : String) (status : RunStatus) :
    ∃ condition, find? (complete now reason message status).conditions attachable = some condition ∧
      condition.status = statusFalse ∧ condition.reason = some Reason.runCompleted.word := by
  obtain ⟨kept, found, same⟩ := find?_set_self now
    (.observed attachable false Reason.runCompleted.word ("Run completed: " ++ reason.word)) status.conditions
  obtain ⟨statusEq, reasonEq, _⟩ := eq_of_saysSame same
  refine ⟨kept, ?_, statusEq, reasonEq⟩
  rw [conditions_complete, find?_set_of_ne]
  · exact found
  · exact fun equal => attachable_ne_completed equal.symm

/-! ### One step keeps a status coherent -/

/-- A completion for a reason that fits the exit code ends a status. -/
theorem over_complete (now : String) {reason : Reason} (message : String) (status : RunStatus)
    {code : Option Int32} (ending : RunStatus.Ending reason code) :
    RunStatus.Over { complete now reason message status with exitCode := code } := by
  obtain ⟨condition, found, holds, because⟩ := find?_completed_complete now reason message status
  exact ⟨⟨reason, condition, ending, found, holds, because⟩,
    find?_attachable_complete now reason message status⟩

/-- What a run fails for is a reason of failure. -/
theorem Failing.mem_failureReasons {run : Run} {pod : Option Pod} {lookup : Lookup} {reason : Reason}
    (failing : run.Failing pod lookup reason) : reason ∈ failureReasons := by
  cases failing <;> decide

/-- Making a run attachable or not leaves a status underway, if the pod of an attachable run is recorded. -/
theorem underway_setAttachable {now : String} {holds : Bool} {reason : Reason} {message : String}
    {status : RunStatus} {pod : Option String} (underway : status.Underway)
    (housed : holds = true → pod.isSome = true) :
    RunStatus.Underway { setAttachable now holds reason message status with podName := pod } where
  unfinished := by
    rw [conditions_setAttachable, find?_set_of_ne now _ attachable_ne_completed]
    exact underway.unfinished
  uncoded := underway.uncoded
  housed := by
    intro isOpen
    apply housed
    have observation := isTrueFor_set_self now (observed attachable holds reason.word message) status.conditions
    rw [type_observed, isTrue_observed] at observation
    exact observation.symm.trans isOpen

/-- Every verdict on a run whose status is coherent and underway leaves a coherent status. -/
theorem Verdict.coherent {now : String} {run : Run} {lookup : Lookup} {pod : Option Pod} {moved : RunStatus}
    {createPod : Bool} (verdict : Verdict now run lookup pod moved createPod)
    (coherent : run.standing.Coherent run.name) (underway : run.standing.Underway) :
    moved.Coherent run.name := by
  cases verdict with
  | fails message cause =>
      refine ⟨?_, Or.inr ?_, coherent.named⟩
      · exact nodup_map_type_set now _ (nodup_map_type_set now _ coherent.distinct)
      · have finished := over_complete now message run.standing
          (RunStatus.Ending.failed cause.mem_failureReasons)
        rw [← underway.uncoded] at finished
        exact finished
  | @ends workspace code found ended =>
      refine ⟨?_, Or.inr (over_complete now _ run.standing (RunStatus.Ending.exited code)), coherent.named⟩
      exact nodup_map_type_set now _ (nodup_map_type_set now _ coherent.distinct)
  | waits reason message found unsettled behind =>
      refine ⟨nodup_map_type_set now _ coherent.distinct, Or.inl ?_, coherent.named⟩
      exact underway_setAttachable underway (by intro impossible; cases impossible)
  | leads message found unsettled first admitted =>
      refine ⟨nodup_map_type_set now _ coherent.distinct, Or.inl ?_, ?_⟩
      · exact underway_setAttachable underway (fun _ => rfl)
      · intro name recorded
        exact (Option.some.inj recorded).symm

/-- The mark of the client keeps a status coherent. -/
theorem coherent_greeted {now : String} {run : Run} {status : RunStatus} {name : String}
    (coherent : status.Coherent name) : (greeted now run status).Coherent name := by
  have completion := find?_greeted_of_ne now run status clientReady_ne_completed
  have attachability := find?_greeted_of_ne now run status clientReady_ne_attachable
  refine ⟨?_, ?_, by simpa using coherent.named⟩
  · unfold greeted
    split
    · exact nodup_map_type_set now _ coherent.distinct
    · exact coherent.distinct
  · rcases coherent.phase with underway | finished
    · refine Or.inl ⟨by rw [completion]; exact underway.unfinished, by simpa using underway.uncoded, ?_⟩
      intro isOpen
      rw [podName_greeted]
      exact underway.housed (by simpa only [isTrueFor, attachability] using isOpen)
    · exact Or.inr ⟨by simpa only [completion, exitCode_greeted] using finished.ending,
        by simpa only [attachability] using finished.withdrawn⟩

end Run

end Turnstile
