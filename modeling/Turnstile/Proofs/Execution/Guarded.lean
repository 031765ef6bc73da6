/-
Module: Turnstile.Proofs.Execution.Guarded
Purpose: Which steps let an executing run lead its workspace until it is over, or end it on grounds of their own.
Main exports: Cluster.Executes, Run.IsCutOff, Execution.Revived, Execution.Leading, Execution.Guard,
  Execution.Guarded, Execution.Guarded.leading, Execution.Guarded.isCutOff
-/
import Turnstile.Proofs.Run.Grounds
import Turnstile.Proofs.Turn.Lawful

/-!
A run executes while its pod is stored and the runner of it has not terminated.  A guarded step brings a pod into
being only for a run that leads its workspace; it removes neither runs nor workspaces, restarts no runner, and
ends an executing run only on the grounds on which a run is cut off.

So a run with a pod leads its workspace until it is over, and a run that is over and still executes was cut off.
Where a controller acts on an outdated copy, the run that leads may be over already when its pod comes into being.
Then it executes because the pod was brought back.
-/

namespace Turnstile

/-- The pod of this name is stored, and its runner has not terminated. -/
def Cluster.Executes (cluster : Cluster) (space name : String) : Prop :=
  cluster.find? ⟨.pod, space, name⟩ ≠ none ∧ (cluster.pod? space name).bind Pod.exitCode? = none

theorem Cluster.executes_congr {cluster next : Cluster} {space name : String}
    (same : next.find? ⟨.pod, space, name⟩ = cluster.find? ⟨.pod, space, name⟩) :
    next.Executes space name ↔ cluster.Executes space name := by
  rw [Executes, Executes, pod?, pod?, same]

/-- The run is over because its workspace was unhealthy or because it was not approved. -/
def Run.IsCutOff (run : Run) : Prop :=
  run.isCompleted = true ∧
    (run.reason? completed = some Reason.workspaceUnhealthy.word ∨
      run.reason? completed = some Reason.unapproved.word)

namespace Execution

open Cluster Turn

variable {space : String} {current : Prop} {history : History} {next : Cluster}

/-- The pod that is stored was brought back after its run was over. -/
inductive Revived (space name : String) : History → Prop where
  | now {history : History} {next : Cluster} {run : Run} (absent : history.present.find? ⟨.pod, space, name⟩ = none)
      (present : next.find? ⟨.pod, space, name⟩ ≠ none) (stored : history.present.run? space name = some run)
      (finished : run.isCompleted = true) : Revived space name (next :: history)
  | later {history : History} {next : Cluster} (revived : Revived space name history)
      (present : next.find? ⟨.pod, space, name⟩ ≠ none) : Revived space name (next :: history)

/-- The run heads the queue of the stored workspace that it is labelled for. -/
def Leading (cluster : Cluster) (space name : String) (run : Run) : Prop :=
  ∃ label workspace, run.workspaceName? = some label ∧ cluster.workspace? space label = some workspace ∧
    workspace.queue.head? = some name

/-- A guarded next cluster; whether the controllers of runs act on current copies makes a difference to pods. -/
structure Guard (space : String) (current : Prop) (history : History) (next : Cluster) : Prop where
  legal : Legal space history next
  runs : ∀ name, history.present.find? ⟨.run, space, name⟩ ≠ none → next.find? ⟨.run, space, name⟩ ≠ none
  workspaces : ∀ name, history.present.find? ⟨.workspace, space, name⟩ ≠ none →
    next.find? ⟨.workspace, space, name⟩ ≠ none
  pods : ∀ name, history.present.find? ⟨.pod, space, name⟩ = none → next.find? ⟨.pod, space, name⟩ ≠ none →
    ∃ run, history.present.run? space name = some run ∧ Leading history.present space name run ∧
      (current → run.isCompleted = false)
  exits : ∀ name, history.present.find? ⟨.pod, space, name⟩ ≠ none → next.Executes space name →
    history.present.Executes space name
  ends : ∀ name before after, history.present.run? space name = some before →
    next.run? space name = some after → before.isCompleted = false → after.isCompleted = true →
    next.Executes space name → after.IsCutOff

/-- A history whose every step was guarded. -/
inductive Guarded (space : String) (current : Prop) : History → Prop where
  | start : Guarded space current []
  | step {history : History} {next : Cluster} (guarded : Guarded space current history)
      (guard : Guard space current history next) : Guarded space current (next :: history)

/-- A step that leaves runs alone and removes no workspace is guarded, if its pods are. -/
theorem Guard.of_kept (legal : Legal space history next)
    (run : ∀ name, next.find? ⟨.run, space, name⟩ = history.present.find? ⟨.run, space, name⟩)
    (workspaces : ∀ name, history.present.find? ⟨.workspace, space, name⟩ ≠ none →
      next.find? ⟨.workspace, space, name⟩ ≠ none)
    (pods : ∀ name, history.present.find? ⟨.pod, space, name⟩ = none →
      next.find? ⟨.pod, space, name⟩ ≠ none →
      ∃ run, history.present.run? space name = some run ∧ Leading history.present space name run ∧
        (current → run.isCompleted = false))
    (exits : ∀ name, history.present.find? ⟨.pod, space, name⟩ ≠ none → next.Executes space name →
      history.present.Executes space name) : Guard space current history next where
  legal := legal
  runs := fun name present => by
    rw [run]
    exact present
  workspaces := workspaces
  pods := pods
  exits := exits
  ends := by
    intro name before after was stored unfinished finished
    rw [run?_congr (run name), was] at stored
    cases stored
    rw [unfinished] at finished
    cases finished

/-- A step that leaves runs, workspaces and pods alone is guarded. -/
theorem Guard.of_same (legal : Legal space history next)
    (same : ∀ kind, kind = .workspace ∨ kind = .run ∨ kind = .pod → ∀ name,
      next.find? ⟨kind, space, name⟩ = history.present.find? ⟨kind, space, name⟩) :
    Guard space current history next := by
  refine .of_kept legal (same .run (by simp)) ?_ ?_ ?_
  · intro name present
    rw [same .workspace (by simp)]
    exact present
  · intro name absent present
    rw [same .pod (by simp)] at present
    exact absurd absent present
  · intro name _ executes
    exact (executes_congr (same .pod (by simp) name)).mp executes

/-- A run that is not over leads on. -/
theorem Guard.leading (guard : Guard space current history next) {name : String} {before after : Run}
    (was : history.present.run? space name = some before)
    (unfinished : before.isCompleted = false) (leading : Leading history.present space name before)
    (label : after.metadata.label? Run.workspaceLabel = before.metadata.label? Run.workspaceLabel) :
    Leading next space name after := by
  obtain ⟨workspace, stored, labelled, there, head⟩ := leading
  obtain ⟨object, found, _⟩ := find?_of_workspace? there
  obtain ⟨written, now⟩ := guard.legal.legible.exists_workspace?
    (guard.workspaces workspace (by rw [found]; exact Option.some_ne_none object))
  refine ⟨workspace, written, by rw [Run.workspaceName?, label]; exact labelled, now, ?_⟩
  cases guard.legal.workspaceStep there now with
  | kept queue =>
      rw [queue]
      exact head
  | moved known stable => exact stable name before head was unfinished

namespace Guarded

theorem lawful (guarded : Guarded space current history) : Lawful space history := by
  induction guarded with
  | start => exact .start
  | step guarded guard inductionHypothesis => exact inductionHypothesis.step guard.legal

/-- A step that is lawful and leaves runs, workspaces and pods alone keeps a history guarded. -/
theorem step_of_same (guarded : Guarded space current history) (lawful : Lawful space (next :: history))
    (same : ∀ kind, kind = .workspace ∨ kind = .run ∨ kind = .pod → ∀ name,
      next.find? ⟨kind, space, name⟩ = history.present.find? ⟨kind, space, name⟩) :
    Guarded space current (next :: history) := by
  cases lawful with
  | step lawful legal => exact guarded.step (.of_same legal same)

theorem stutter (guarded : Guarded space current history) : Guarded space current (history.present :: history) :=
  guarded.step_of_same guarded.lawful.stutter fun _ _ _ => rfl

/-- Where a pod is stored, a run of its name is. -/
theorem run_of_pod (guarded : Guarded space current history) {name : String}
    (housed : history.present.find? ⟨.pod, space, name⟩ ≠ none) :
    ∃ run, history.present.run? space name = some run := by
  induction guarded with
  | start => exact absurd rfl housed
  | @step history next guarded guard inductionHypothesis =>
      have before : ∃ run, history.present.run? space name = some run := by
        by_cases absent : history.present.find? ⟨.pod, space, name⟩ = none
        · obtain ⟨run, stored, _⟩ := guard.pods name absent housed
          exact ⟨run, stored⟩
        · exact inductionHypothesis absent
      obtain ⟨run, stored⟩ := before
      obtain ⟨object, found, _⟩ := find?_of_run? stored
      exact guard.legal.legible.exists_run?
        (guard.runs name (by rw [found]; exact Option.some_ne_none object))

/-- A run with a pod leads its workspace until it is over. -/
theorem leading (guarded : Guarded space current history) {name : String} {run : Run}
    (stored : history.present.run? space name = some run) (unfinished : run.isCompleted = false)
    (housed : history.present.find? ⟨.pod, space, name⟩ ≠ none) :
    Leading history.present space name run := by
  induction guarded generalizing run with
  | start => exact absurd rfl housed
  | @step history next guarded guard inductionHypothesis =>
      have before : ∃ before, history.present.run? space name = some before ∧
          (before.isCompleted = false → Leading history.present space name before) := by
        by_cases absent : history.present.find? ⟨.pod, space, name⟩ = none
        · obtain ⟨before, was, leading, _⟩ := guard.pods name absent housed
          exact ⟨before, was, fun _ => leading⟩
        · obtain ⟨before, was⟩ := guarded.run_of_pod absent
          exact ⟨before, was, fun open' => inductionHypothesis was open' absent⟩
      obtain ⟨before, was, leading⟩ := before
      have step := guard.legal.runStep was stored
      have open' : before.isCompleted = false := by
        rcases step.status with same | ⟨open', _⟩
        · rw [← Run.isCompleted_congr same]
          exact unfinished
        · exact open'
      exact guard.leading was open' (leading open') step.label

/-- A run that was stored is stored still, with its label. -/
theorem exists_run_of_mem (guarded : Guarded space current history) {cluster : Cluster}
    (member : cluster ∈ history) {name : String} {copy : Run} (copied : cluster.run? space name = some copy) :
    ∃ run, history.present.run? space name = some run ∧
      run.metadata.label? Run.workspaceLabel = copy.metadata.label? Run.workspaceLabel := by
  induction guarded with
  | start => cases member
  | @step history next guarded guard inductionHypothesis =>
      rcases List.mem_cons.mp member with here | there
      · rw [here] at copied
        exact ⟨copy, copied, rfl⟩
      · obtain ⟨before, was, label⟩ := inductionHypothesis there
        obtain ⟨object, found, _⟩ := find?_of_run? was
        obtain ⟨run, stored⟩ := guard.legal.legible.exists_run?
          (guard.runs name (by rw [found]; exact Option.some_ne_none object))
        exact ⟨run, stored, (guard.legal.runStep was stored).label.trans label⟩

/-- A run that is over and executes was cut off, or its pod was brought back. -/
theorem isCutOff (guarded : Guarded space current history) {name : String} {run : Run}
    (stored : history.present.run? space name = some run) (finished : run.isCompleted = true)
    (executes : history.present.Executes space name) :
    run.IsCutOff ∨ ¬current ∧ Revived space name history := by
  induction guarded generalizing run with
  | start => exact absurd rfl executes.1
  | @step history next guarded guard inductionHypothesis =>
      by_cases absent : history.present.find? ⟨.pod, space, name⟩ = none
      · obtain ⟨before, was, _, lasts⟩ := guard.pods name absent executes.1
        cases wasOver : before.isCompleted with
        | false => exact Or.inl (guard.ends name before run was stored wasOver finished executes)
        | true =>
            refine Or.inr ⟨fun isCurrent => ?_, .now absent executes.1 was wasOver⟩
            rw [lasts isCurrent] at wasOver
            cases wasOver
      · obtain ⟨before, was⟩ := guarded.run_of_pod absent
        cases wasOver : before.isCompleted with
        | false => exact Or.inl (guard.ends name before run was stored wasOver finished executes)
        | true =>
            rcases (guard.legal.runStep was stored).status with same | ⟨unfinished, _⟩
            · rcases inductionHypothesis was wasOver (guard.exits name absent executes) with cut | ⟨late, revived⟩
              · left
                rw [Run.IsCutOff, Run.isCompleted, Run.reason?, Run.conditions, same]
                exact cut
              · exact Or.inr ⟨late, revived.later executes.1⟩
            · rw [wasOver] at unfinished
              cases unfinished

end Guarded

end Execution

end Turnstile
