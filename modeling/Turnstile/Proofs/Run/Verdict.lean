/-
Module: Turnstile.Proofs.Run.Verdict
Purpose: Everything that a plan can decide about a run that is not over, with the guard of each decision.
Main exports: Run.Unsettled, Run.Failing, Run.Verdict, Run.planPending_verdict, Run.plan_of_isCompleted,
  Run.plan_of_open
-/
import Turnstile.Run.Plan

/-!
A run that is not over gets one of four verdicts.  It fails for a reason that has nothing to do with an exit
code, it ends with the exit code of its runner, it waits, or it leads the queue.  Each verdict carries the
whole guard under which it is given, so that later arguments split on the verdict and never on the plan.
-/

namespace Turnstile.Run

/-- The status that the run stands at, the empty one while it has none. -/
def standing (run : Run) : RunStatus :=
  run.status.getD {}

/-- The conditions of a run are those of the status it stands at. -/
theorem conditions_eq_standing (run : Run) : run.conditions = run.standing.conditions := by
  unfold conditions standing
  cases run.status <;> rfl

/-- The place in the queue is left to decide: the runner has not terminated, no recorded pod is gone, and the
workspace is not known to be unhealthy unless the run may be attached to already. -/
structure Unsettled (run : Run) (workspace : Workspace) (pod : Option Pod) : Prop where
  running : pod.bind Pod.exitCode? = none
  kept : pod.isSome = true ∨ run.standing.podName = none
  welcome : Condition.isFalseFor workspace.conditions Workspace.healthy = false ∨ run.isAttachable = true

/-- The run is over without an exit code, for this reason. -/
inductive Failing (run : Run) (pod : Option Pod) : Lookup → Reason → Prop where
  | unspecified : Failing run pod .unspecified .workspaceUnspecified
  | notFound (name : String) : Failing run pod (.notFound name) .workspaceNotFound
  | podDeleted (workspace : Workspace) (gone : pod = none)
      (recorded : run.standing.podName.isSome = true) :
      Failing run pod (.found workspace) .podDeleted
  | unhealthy (workspace : Workspace) (running : pod.bind Pod.exitCode? = none)
      (kept : pod.isSome = true ∨ run.standing.podName = none)
      (sick : Condition.isFalseFor workspace.conditions Workspace.healthy = true)
      (waiting : run.isAttachable = false) :
      Failing run pod (.found workspace) .workspaceUnhealthy
  | unapproved (workspace : Workspace) (unsettled : run.Unsettled workspace pod)
      (first : workspace.queuePosition? run.name = some 0)
      (privileged : workspace.isPrivileged run.spec.command.name = true)
      (refused : workspace.isApproved run.name = false) :
      Failing run pod (.found workspace) .unapproved

/-- What is decided about a run that is not over: its next status, and whether its pod is to be created. -/
inductive Verdict (now : String) (run : Run) (lookup : Lookup) (pod : Option Pod) :
    RunStatus → Bool → Prop where
  | fails {reason : Reason} (message : String) (cause : run.Failing pod lookup reason) :
      Verdict now run lookup pod (complete now reason message run.standing) false
  | ends {workspace : Workspace} {code : Int32} (found : lookup = .found workspace)
      (ended : pod.bind Pod.exitCode? = some code) :
      Verdict now run lookup pod (finish now code run.standing) false
  | waits {workspace : Workspace} (reason : Reason) (message : String) (found : lookup = .found workspace)
      (unsettled : run.Unsettled workspace pod)
      (behind : workspace.queuePosition? run.name ≠ some 0) :
      Verdict now run lookup pod (setAttachable now false reason message run.standing) false
  | leads {workspace : Workspace} (message : String) (found : lookup = .found workspace)
      (unsettled : run.Unsettled workspace pod)
      (first : workspace.queuePosition? run.name = some 0)
      (admitted : workspace.isPrivileged run.spec.command.name = false ∨
        workspace.isApproved run.name = true) :
      Verdict now run lookup pod
        { setAttachable now true .frontOfQueue message run.standing with podName := some run.name }
        pod.isNone

/-- The place in the queue decides an unsettled run. -/
theorem planQueued_verdict (now : String) (run : Run) {workspace : Workspace} {pod : Option Pod}
    (unsettled : run.Unsettled workspace pod) :
    Verdict now run (.found workspace) pod
      (planQueued now run workspace pod run.standing).1
      (planQueued now run workspace pod run.standing).2 := by
  unfold planQueued
  split
  · rename_i absent
    exact .waits _ _ rfl unsettled (by simp [absent])
  · rename_i first
    split
    · rename_i reserved
      simp only [Bool.and_eq_true, Bool.not_eq_true'] at reserved
      exact .fails _ (.unapproved workspace unsettled first reserved.1 reserved.2)
    · rename_i admitted
      refine .leads _ rfl unsettled first ?_
      by_cases privileged : workspace.isPrivileged run.spec.command.name = true
      · exact Or.inr (by simpa [privileged] using admitted)
      · exact Or.inl (by simpa using privileged)
  · rename_i position later place
    exact .waits _ _ rfl unsettled (by rw [place]; exact fun equal => later (Option.some.inj equal))

/-- The pod decides first, then the health of the workspace, then the place in the queue. -/
theorem planFound_verdict (now : String) (run : Run) (workspace : Workspace) (pod : Option Pod) :
    Verdict now run (.found workspace) pod
      (planFound now run workspace pod run.standing).1
      (planFound now run workspace pod run.standing).2 := by
  unfold planFound
  split
  · rename_i code ended
    exact .ends rfl ended
  · rename_i running
    split
    · rename_i lost
      simp only [Bool.and_eq_true, Option.isNone_iff_eq_none] at lost
      exact .fails _ (.podDeleted workspace lost.1 lost.2)
    · rename_i present
      have kept : pod.isSome = true ∨ run.standing.podName = none := by
        cases pod with
        | some _ => exact Or.inl rfl
        | none => exact Or.inr (by simpa using present)
      split
      · rename_i sick
        simp only [Bool.and_eq_true, Bool.not_eq_true'] at sick
        exact .fails _ (.unhealthy workspace running kept sick.1 sick.2)
      · rename_i welcome
        refine planQueued_verdict now run ⟨running, kept, ?_⟩
        by_cases sick : Condition.isFalseFor workspace.conditions Workspace.healthy = true
        · exact Or.inr (by simpa [sick] using welcome)
        · exact Or.inl (by simpa using sick)

/-- What is planned for a run that is not over is one of the verdicts. -/
theorem planPending_verdict (now : String) (run : Run) (lookup : Lookup) (pod : Option Pod) :
    Verdict now run lookup pod
      (planPending now run lookup pod run.standing).1
      (planPending now run lookup pod run.standing).2 := by
  cases lookup with
  | unspecified => exact .fails _ .unspecified
  | notFound name => exact .fails _ (.notFound name)
  | found workspace => exact planFound_verdict now run workspace pod

/-- What is known of a status once the mark of the client has been looked at. -/
def greeted (now : String) (run : Run) (status : RunStatus) : RunStatus :=
  if run.hasClient then setClientReady now status else status

/-- Nothing is planned for a run that is over. -/
theorem plan_of_isCompleted {run : Run} (finished : run.isCompleted = true) (now : String) (lookup : Lookup)
    (pod : Option Pod) : run.plan now lookup pod = {} := by
  simp [plan, finished]

/-- For a run that is not over, a verdict is planned, and the status is written only if it differs. -/
theorem plan_of_open {run : Run} (unfinished : run.isCompleted = false) (now : String) (lookup : Lookup)
    (pod : Option Pod) :
    ∃ moved, Verdict now run lookup pod moved (run.plan now lookup pod).createPod ∧
      (run.plan now lookup pod).status =
        if greeted now run moved = run.standing then none else some (greeted now run moved) := by
  refine ⟨(planPending now run lookup pod run.standing).1, ?_, ?_⟩
  · simp only [plan, unfinished, Bool.false_eq_true, if_false]
    exact planPending_verdict now run lookup pod
  · simp only [plan, unfinished, Bool.false_eq_true, if_false]
    rfl

/-- A plan that changes anything is made for a run that is not over. -/
theorem not_isCompleted_of_plan {run : Run} {now : String} {lookup : Lookup} {pod : Option Pod}
    (changes : (run.plan now lookup pod).status ≠ none ∨ (run.plan now lookup pod).createPod = true) :
    run.isCompleted = false := by
  cases finished : run.isCompleted with
  | false => rfl
  | true => simp [plan_of_isCompleted finished] at changes

end Turnstile.Run
