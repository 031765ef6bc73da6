/-
Module: Turnstile.Proofs.Run.Grounds
Purpose: On what grounds a plan asks for the pod of a run, and on what grounds it ends a run that executes.
Main exports: Run.Due, Run.createPod_iff, Run.CutOff, Run.Verdict.ending, Run.ends_iff
-/
import Turnstile.Proofs.Run.Clearance

/-!
The pod of a run is asked for exactly if there is none and the run is due: no pod is on record, its workspace is
not known to be unhealthy, it leads the queue, and it needs no approval or has it.

A run at the head of the queue whose runner executes is ended all the same on two grounds: the workspace has
become unhealthy before the run could be attached to, or the command has become privileged and is not approved.
-/

namespace Turnstile.Run

open Condition

variable {now : String} {run : Run} {lookup : Lookup} {pod : Option Pod}

/-- Whether a run of which no pod is on record is to execute in its workspace. -/
structure Due (run : Run) (workspace : Workspace) : Prop where
  unrecorded : run.standing.podName = none
  healthy : isFalseFor workspace.conditions Workspace.healthy = false
  first : workspace.queuePosition? run.name = some 0
  admitted : workspace.isPrivileged run.spec.command.name = false ∨ workspace.isApproved run.name = true

/-- A run without a recorded pod may not be attached to. -/
theorem isAttachable_of_unrecorded (underway : run.standing.Underway) (unrecorded : run.standing.podName = none) :
    run.isAttachable = false := by
  cases isOpen : run.isAttachable with
  | false => rfl
  | true =>
      rw [isAttachable_eq_standing] at isOpen
      have housed := underway.housed isOpen
      rw [unrecorded] at housed
      cases housed

/-- The pod is asked for exactly if there is none and the run is due. -/
theorem createPod_iff (underway : run.standing.Underway) (unfinished : run.isCompleted = false) (now : String)
    (lookup : Lookup) (pod : Option Pod) : (run.plan now lookup pod).createPod = true ↔
      pod = none ∧ ∃ workspace, lookup = .found workspace ∧ run.Due workspace := by
  rw [createPod_iff_cleared]
  refine and_congr_right fun _ => exists_congr fun workspace => and_congr_right fun _ => ?_
  constructor
  · intro cleared
    have closed := isAttachable_of_unrecorded underway cleared.unrecorded
    refine ⟨cleared.unrecorded, (welcome_iff.mpr cleared.welcome).resolve_right ?_,
      Workspace.queuePosition?_eq_zero_iff.mpr cleared.first, admitted_iff.mpr cleared.permitted⟩
    rw [closed]
    exact Bool.false_ne_true
  · intro due
    refine ⟨?_, due.unrecorded, Workspace.queuePosition?_eq_zero_iff.mp due.first,
      welcome_iff.mp (Or.inl due.healthy), admitted_iff.mp due.admitted⟩
    rw [← Condition.isTrueFor_iff_says, Bool.not_eq_true]
    exact unfinished

/-- The grounds on which a run is ended although its runner may execute. -/
inductive CutOff (run : Run) (workspace : Workspace) : Reason → Prop where
  | unhealthy (sick : isFalseFor workspace.conditions Workspace.healthy = true)
      (waiting : run.isAttachable = false) : CutOff run workspace .workspaceUnhealthy
  | unapproved (privileged : workspace.isPrivileged run.spec.command.name = true)
      (refused : workspace.isApproved run.name = false) : CutOff run workspace .unapproved

/-- A verdict ends a run for a reason that is written down, or because its runner has terminated. -/
theorem Verdict.ending {moved : RunStatus} {createPod : Bool}
    (verdict : Verdict now run lookup pod moved createPod) (underway : run.standing.Underway)
    (finished : isTrueFor moved.conditions completed = true) :
    createPod = false ∧
      ((∃ reason, run.Failing pod lookup reason ∧
          (find? moved.conditions completed).bind Condition.reason = some reason.word) ∨
        ∃ code, pod.bind Pod.exitCode? = some code) := by
  have stays : ∀ (holds : Bool) (reason : Reason) (message : String),
      isTrueFor (setAttachable now holds reason message run.standing).conditions completed = false := by
    intro holds reason message
    rw [isTrueFor, conditions_setAttachable, find?_set_of_ne now _ attachable_ne_completed, underway.unfinished]
    rfl
  cases verdict with
  | fails message cause =>
      obtain ⟨condition, found, _, because⟩ := find?_completed_complete now _ message run.standing
      exact ⟨rfl, Or.inl ⟨_, cause, by rw [found]; exact because⟩⟩
  | ends found ended => exact ⟨rfl, Or.inr ⟨_, ended⟩⟩
  | waits reason message found unsettled behind =>
      rw [stays] at finished
      cases finished
  | leads message found unsettled first admitted =>
      rw [stays] at finished
      cases finished

/-- The mark of the client does not end a run. -/
theorem isTrueFor_completed_greeted (status : RunStatus) :
    isTrueFor (greeted now run status).conditions completed = isTrueFor status.conditions completed := by
  rw [isTrueFor, isTrueFor, find?_greeted_of_ne now run status clientReady_ne_completed]

/-- A run at the head of the queue whose runner executes is ended exactly if it is cut off. -/
theorem ends_iff (underway : run.standing.Underway) (unfinished : run.isCompleted = false) {pod : Pod}
    (running : pod.exitCode? = none) {workspace : Workspace}
    (first : workspace.queuePosition? run.name = some 0) :
    isTrueFor ((run.plan now (.found workspace) (some pod)).status.getD run.standing).conditions completed = true ↔
      ∃ reason, run.CutOff workspace reason := by
  obtain ⟨moved, verdict, stands⟩ := standing_of_plan unfinished now (.found workspace) (some pod)
  rw [stands, isTrueFor_completed_greeted]
  generalize (run.plan now (.found workspace) (some pod)).createPod = asked at verdict
  constructor
  · intro finished
    obtain ⟨_, ⟨reason, cause, _⟩ | ⟨code, ended⟩⟩ := verdict.ending underway finished
    · cases cause with
      | podDeleted _ gone recorded => cases gone
      | unhealthy _ running kept sick waiting => exact ⟨_, .unhealthy sick waiting⟩
      | unapproved _ unsettled first privileged refused => exact ⟨_, .unapproved privileged refused⟩
    · rw [Option.bind_some, running] at ended
      cases ended
  · rintro ⟨reason, cut⟩
    cases verdict with
    | fails message cause =>
        exact (over_complete now message run.standing
          (RunStatus.Ending.failed cause.mem_failureReasons)).isTrueFor_completed
    | ends found ended =>
        rw [Option.bind_some, running] at ended
        cases ended
    | waits reason message found unsettled behind =>
        cases found
        exact absurd first behind
    | leads message found unsettled first admitted =>
        cases found
        cases cut with
        | unhealthy sick waiting =>
            rcases unsettled.welcome with healthy | isOpen
            · rw [sick] at healthy
              cases healthy
            · rw [waiting] at isOpen
              cases isOpen
        | unapproved privileged refused =>
            rcases admitted with free | approved
            · rw [privileged] at free
              cases free
            · rw [refused] at approved
              cases approved

end Turnstile.Run
