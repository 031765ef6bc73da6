/-
Module: Turnstile.Proofs.Run.Clearance
Purpose: Which runs their workspace clears to have a pod, and that a plan asks for the pods of these runs only.
Main exports: Condition.Says, Workspace.isApproved_iff, Run.Cleared, Run.createPod_iff_cleared
-/
import Turnstile.Proofs.Run.Life
import Turnstile.Proofs.Workspace.Queue

/-!
A workspace clears a run if the run is not over, no pod of it is on record and it leads the queue, if the workspace
is not known to be unhealthy or the run may be attached to already, and if the command of the run is free or the
workspace approves the run by name.  Where a status holds several conditions of one type, the first one counts.
-/

namespace Turnstile

/-! ### What conditions and annotations say -/

/-- The first condition of the type has this status. -/
def Condition.Says (conditions : List Condition) (type status : String) : Prop :=
  ∃ before condition after, conditions = before ++ condition :: after ∧ (∀ other ∈ before, other.type ≠ type) ∧
    condition.type = type ∧ condition.status = status

namespace Condition

variable {conditions : List Condition} {type status : String}

theorem any_find?_iff {holds : Condition → Bool}
    (tells : ∀ condition, holds condition = true ↔ condition.status = status) :
    (find? conditions type).any holds = true ↔ Says conditions type status := by
  simp only [find?, Option.any_eq_true, List.find?_eq_some_iff_append, beq_iff_eq, Bool.not_eq_true',
    beq_eq_false_iff_ne, tells, Says]
  constructor
  · rintro ⟨condition, ⟨named, before, after, split, others⟩, status⟩
    exact ⟨before, condition, after, split, others, named, status⟩
  · rintro ⟨before, condition, after, split, others, named, status⟩
    exact ⟨condition, ⟨named, before, after, split, others⟩, status⟩

theorem isTrueFor_iff_says : isTrueFor conditions type = true ↔ Says conditions type statusTrue :=
  any_find?_iff fun _ => beq_iff_eq

theorem isFalseFor_iff_says : isFalseFor conditions type = true ↔ Says conditions type statusFalse :=
  any_find?_iff fun _ => beq_iff_eq

end Condition

/-- A workspace approves a run by an annotation for its name, whatever the text. -/
theorem Workspace.isApproved_iff {workspace : Workspace} {run : String} : workspace.isApproved run = true ↔
    ∃ text, (approvalStem ++ run, text) ∈ workspace.metadata.annotations.getD [] := by
  unfold isApproved Metadata.annotation?
  cases workspace.metadata.annotations with
  | none => simp
  | some annotations => simp [List.lookup_isSome_iff]

namespace Run

/-- The workspace clears the run to have a pod. -/
structure Cleared (run : Run) (workspace : Workspace) : Prop where
  unfinished : ¬ Condition.Says run.conditions completed Condition.statusTrue
  unrecorded : run.standing.podName = none
  first : workspace.queue.head? = some run.name
  welcome : ¬ Condition.Says workspace.conditions Workspace.healthy Condition.statusFalse ∨
    Condition.Says run.conditions attachable Condition.statusTrue
  permitted : run.spec.command.name ∉ workspace.spec.privilegedCommands ∨
    ∃ text, (Workspace.approvalStem ++ run.name, text) ∈ workspace.metadata.annotations.getD []

variable {now : String} {run : Run} {lookup : Lookup} {pod : Option Pod} {workspace : Workspace}

/-- A workspace admits a run if it does not reserve the command, or approves the run. -/
theorem admitted_iff :
    (workspace.isPrivileged run.spec.command.name = false ∨ workspace.isApproved run.name = true) ↔
      (run.spec.command.name ∉ workspace.spec.privilegedCommands ∨
        ∃ text, (Workspace.approvalStem ++ run.name, text) ∈ workspace.metadata.annotations.getD []) := by
  rw [Workspace.isApproved_iff, Workspace.isPrivileged, List.contains_eq_mem, decide_eq_false_iff_not]

/-- A workspace is welcoming unless it is known to be unhealthy and the run may not be attached to yet. -/
theorem welcome_iff :
    (Condition.isFalseFor workspace.conditions Workspace.healthy = false ∨ run.isAttachable = true) ↔
      (¬ Condition.Says workspace.conditions Workspace.healthy Condition.statusFalse ∨
        Condition.Says run.conditions attachable Condition.statusTrue) := by
  rw [← Condition.isFalseFor_iff_says, ← Condition.isTrueFor_iff_says, isAttachable, Bool.not_eq_true]

/-! ### Plans that ask for a pod -/

/-- A verdict that asks for a pod has found none, and a workspace that clears the run. -/
theorem Verdict.cleared {moved : RunStatus} (verdict : Verdict now run lookup pod moved true)
    (unfinished : run.isCompleted = false) :
    pod = none ∧ ∃ workspace, lookup = .found workspace ∧ run.Cleared workspace := by
  have unrecorded := verdict.of_createPod.1
  have notOver : ¬ Condition.Says run.conditions completed Condition.statusTrue := by
    rw [← Condition.isTrueFor_iff_says, Bool.not_eq_true]
    exact unfinished
  generalize created : true = asked at verdict
  cases verdict with
  | leads message found unsettled first admitted =>
      exact ⟨Option.isNone_iff_eq_none.mp created.symm, _, found, notOver, unrecorded,
        Workspace.queuePosition?_eq_zero_iff.mp first, welcome_iff.mp unsettled.welcome, admitted_iff.mp admitted⟩
  | _ => cases created

/-- A verdict on a run that has no pod asks for one if the workspace clears the run. -/
theorem Verdict.createPod_of_cleared {moved : RunStatus} {asked : Bool}
    (verdict : Verdict now run (.found workspace) none moved asked) (cleared : run.Cleared workspace) :
    asked = true := by
  cases verdict with
  | fails message cause =>
      cases cause with
      | podDeleted _ gone recorded =>
          rw [cleared.unrecorded] at recorded
          cases recorded
      | unhealthy _ running kept sick waiting =>
          rcases welcome_iff.mpr cleared.welcome with healthy | isOpen
          · rw [sick] at healthy
            cases healthy
          · rw [waiting] at isOpen
            cases isOpen
      | unapproved _ unsettled first privileged refused =>
          rcases admitted_iff.mpr cleared.permitted with free | approved
          · rw [privileged] at free
            cases free
          · rw [refused] at approved
            cases approved
  | ends found ended => cases ended
  | waits reason message found unsettled behind =>
      cases found
      exact absurd (Workspace.queuePosition?_eq_zero_iff.mpr cleared.first) behind
  | leads message found unsettled first admitted => rfl

/-- A plan asks for the pod of a run exactly if there is none and the workspace that was found clears the run. -/
theorem createPod_iff_cleared (now : String) (run : Run) (lookup : Lookup) (pod : Option Pod) :
    (run.plan now lookup pod).createPod = true ↔
      pod = none ∧ ∃ workspace, lookup = .found workspace ∧ run.Cleared workspace := by
  constructor
  · intro asked
    have unfinished := not_isCompleted_of_plan (Or.inr asked)
    obtain ⟨moved, verdict, _⟩ := plan_of_open unfinished now lookup pod
    rw [asked] at verdict
    exact verdict.cleared unfinished
  · rintro ⟨rfl, workspace, rfl, cleared⟩
    have unfinished : run.isCompleted = false := by
      rw [← Bool.not_eq_true, isCompleted, Condition.isTrueFor_iff_says]
      exact cleared.unfinished
    obtain ⟨moved, verdict, _⟩ := plan_of_open unfinished now (.found workspace) none
    exact verdict.createPod_of_cleared cleared

end Run

end Turnstile
