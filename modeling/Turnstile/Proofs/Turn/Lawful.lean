/-
Module: Turnstile.Proofs.Turn.Lawful
Purpose: What runs and workspaces may become from one cluster to the next, and whose turn it is throughout.
Main exports: Cluster.Legible, History.Leads, Turn.Legal, Turn.Lawful, Turn.Lawful.traced,
  Turn.Lawful.leads_lasts, Turn.Lawful.leads_of_isAttachable
-/
import Turnstile.Proofs.Cluster.History
import Turnstile.Proofs.Run.Life

/-!
A run has its turn while it leads the last stored queue of the workspace that it is labelled for.  Controllers
act on what they have read some time ago, so a step is judged together with the whole history before it.

Three things make a turn last.  A name that is not stored any more is not taken again, so a run that is stored
now and was known then has been stored all the time.  A run that is over stays so.  And a queue that is written
keeps its head while that run is stored and not over.  So a run that is stored, not over, and once seen to lead
still leads when its status is written, and whoever may be attached to is a run that leads.
-/

namespace Turnstile

/-- Every stored run and workspace can be read and goes by the name that it is stored under. -/
structure Cluster.Legible (cluster : Cluster) (space : String) : Prop where
  run : ∀ name object, cluster.find? ⟨.run, space, name⟩ = some object →
    ∃ run, Run.ofJson? object = some run ∧ run.name = name
  workspace : ∀ name object, cluster.find? ⟨.workspace, space, name⟩ = some object →
    ∃ workspace, Workspace.ofJson? object = some workspace ∧ workspace.name = name

namespace Cluster.Legible

variable {cluster : Cluster} {space name : String}

theorem name_of_run? (legible : cluster.Legible space) {run : Run}
    (stored : cluster.run? space name = some run) : run.name = name := by
  obtain ⟨object, found, read⟩ := find?_of_run? stored
  obtain ⟨other, same, named⟩ := legible.run name object found
  cases read.symm.trans same
  exact named

theorem name_of_workspace? (legible : cluster.Legible space) {workspace : Workspace}
    (stored : cluster.workspace? space name = some workspace) : workspace.name = name := by
  obtain ⟨object, found, read⟩ := find?_of_workspace? stored
  obtain ⟨other, same, named⟩ := legible.workspace name object found
  cases read.symm.trans same
  exact named

theorem exists_run? (legible : cluster.Legible space) (present : cluster.find? ⟨.run, space, name⟩ ≠ none) :
    ∃ run, cluster.run? space name = some run := by
  obtain ⟨object, found⟩ := Option.ne_none_iff_exists'.mp present
  obtain ⟨run, read, _⟩ := legible.run name object found
  refine ⟨run, ?_⟩
  rw [run?, found]
  exact read

theorem exists_workspace? (legible : cluster.Legible space)
    (present : cluster.find? ⟨.workspace, space, name⟩ ≠ none) :
    ∃ workspace, cluster.workspace? space name = some workspace := by
  obtain ⟨object, found⟩ := Option.ne_none_iff_exists'.mp present
  obtain ⟨workspace, read, _⟩ := legible.workspace name object found
  refine ⟨workspace, ?_⟩
  rw [workspace?, found]
  exact read

end Cluster.Legible

/-- The run is labelled for the workspace. -/
def Run.IsFor (run : Run) (workspace : String) : Prop :=
  run.metadata.label? Run.workspaceLabel = some workspace

/-- A run is labelled for the workspace that it looks up. -/
theorem Run.isFor_of_workspaceName? {run : Run} {workspace : String}
    (labelled : run.workspaceName? = some workspace) : run.IsFor workspace :=
  (Option.filter_eq_some_iff.mp labelled).1

namespace History

/-- A run of this name was stored at some time, labelled for the workspace. -/
def Knew (history : History) (space workspace name : String) : Prop :=
  ∃ cluster ∈ history, ∃ run, cluster.run? space name = some run ∧ run.IsFor workspace

/-- The workspace as it was stored last; one that was removed is remembered. -/
def lastWorkspace? (history : History) (space name : String) : Option Workspace :=
  history.findSome? fun cluster => cluster.workspace? space name

/-- The run of this name is the head of the last stored queue of the workspace. -/
def Leads (history : History) (space workspace name : String) : Prop :=
  ∃ stored, history.lastWorkspace? space workspace = some stored ∧ stored.queue.head? = some name

end History

namespace Turn

/-- What a stored run may become. -/
structure RunStep (history : History) (space name : String) (before after : Run) : Prop where
  label : after.metadata.label? Run.workspaceLabel = before.metadata.label? Run.workspaceLabel
  status : after.status = before.status ∨
    before.isCompleted = false ∧ after.standing.Coherent name ∧
      (after.isAttachable = true → ∃ workspace, after.IsFor workspace ∧ history.Leads space workspace name)

/-- A run that is over stays so. -/
theorem RunStep.isCompleted {history : History} {space name : String} {before after : Run}
    (step : RunStep history space name before after) (finished : before.isCompleted = true) :
    after.isCompleted = true := by
  rcases step.status with same | ⟨unfinished, _⟩
  · rw [Run.isCompleted_congr same]
    exact finished
  · rw [finished] at unfinished
    cases unfinished

/-- What a stored workspace may become: its queue stays, or it is written from the names of runs that have been
and keeps a head that is stored and not over. -/
inductive WorkspaceStep (history : History) (space name : String) (before after : Workspace) : Prop where
  | kept (queue : after.queue = before.queue)
  | moved (known : ∀ run ∈ after.queue, history.Knew space name run)
      (stable : ∀ head run, before.queue.head? = some head → history.present.run? space head = some run →
        run.isCompleted = false → after.queue.head? = some head)

/-- A legal next cluster. -/
structure Legal (space : String) (history : History) (next : Cluster) : Prop where
  served : ∃ request, history.present.Effect request next
  legible : next.Legible space
  runs : ∀ name run, next.run? space name = some run →
    history.Unused ⟨.run, space, name⟩ ∧ run.status = none ∨
      ∃ before, history.present.run? space name = some before ∧ RunStep history space name before run
  workspaces : ∀ name workspace, next.workspace? space name = some workspace →
    history.Unused ⟨.workspace, space, name⟩ ∧ workspace.queue = [] ∨
      ∃ before, history.present.workspace? space name = some before ∧
        WorkspaceStep history space name before workspace

/-- A history whose every step was legal. -/
inductive Lawful (space : String) : History → Prop where
  | start : Lawful space []
  | step {history : History} {next : Cluster} (lawful : Lawful space history)
      (legal : Legal space history next) : Lawful space (next :: history)

namespace Legal

variable {space : String} {history : History} {next : Cluster} {name : String}

/-- What a run has become that was stored before. -/
theorem runStep (legal : Legal space history next) {before after : Run}
    (was : history.present.run? space name = some before) (stored : next.run? space name = some after) :
    RunStep history space name before after := by
  rcases legal.runs name after stored with ⟨unused, _⟩ | ⟨previous, wasStored, step⟩
  · obtain ⟨object, found, _⟩ := Cluster.find?_of_run? was
    exact absurd unused (History.not_unused_of_mem (History.present_mem found) found)
  · cases was.symm.trans wasStored
    exact step

/-- What a workspace has become that was stored before. -/
theorem workspaceStep (legal : Legal space history next) {before after : Workspace}
    (was : history.present.workspace? space name = some before)
    (stored : next.workspace? space name = some after) : WorkspaceStep history space name before after := by
  rcases legal.workspaces name after stored with ⟨unused, _⟩ | ⟨previous, wasStored, step⟩
  · obtain ⟨object, found, _⟩ := Cluster.find?_of_workspace? was
    exact absurd unused (History.not_unused_of_mem (History.present_mem found) found)
  · cases was.symm.trans wasStored
    exact step

end Legal

namespace Lawful

variable {space : String} {history earlier : History}

theorem served (lawful : Lawful space history) : history.Served := by
  induction lawful with
  | start => exact .start
  | step lawful legal inductionHypothesis =>
      obtain ⟨request, effect⟩ := legal.served
      exact inductionHypothesis.step effect

theorem legible (lawful : Lawful space history) : history.present.Legible space := by
  cases lawful with
  | start => exact ⟨by simp, by simp⟩
  | step lawful legal => exact legal.legible

theorem suffix (lawful : Lawful space history) (before : earlier <:+ history) : Lawful space earlier := by
  induction lawful with
  | start =>
      rw [List.suffix_nil.mp before]
      exact .start
  | step lawful legal inductionHypothesis =>
      rcases List.suffix_cons_iff.mp before with same | deeper
      · rw [same]
        exact lawful.step legal
      · exact inductionHypothesis deeper

/-- Every cluster of a lawful history is legible. -/
theorem legible_of_mem (lawful : Lawful space history) {cluster : Cluster} (member : cluster ∈ history) :
    cluster.Legible space := by
  induction lawful with
  | start => cases member
  | step lawful legal inductionHypothesis =>
      rcases List.mem_cons.mp member with here | there
      · rw [here]
        exact legal.legible
      · exact inductionHypothesis there

/-- A request is legal if the run or the workspace that it is about may become what it makes of it. -/
theorem legal_of_effect (lawful : Lawful space history) {request : Request} {next : Cluster}
    (effect : history.present.Effect request next)
    (run : ∀ name, request.key? = some ⟨.run, space, name⟩ →
      ∃ before after, history.present.run? space name = some before ∧ next.run? space name = some after ∧
        after.name = name ∧ RunStep history space name before after)
    (workspace : ∀ name, request.key? = some ⟨.workspace, space, name⟩ →
      ∃ before after, history.present.workspace? space name = some before ∧
        next.workspace? space name = some after ∧ after.name = name ∧
        WorkspaceStep history space name before after) :
    Legal space history next := by
  refine ⟨⟨request, effect⟩, ⟨?_, ?_⟩, ?_, ?_⟩
  · intro name object found
    by_cases about : request.key? = some ⟨.run, space, name⟩
    · obtain ⟨_, after, _, stored, named, _⟩ := run name about
      rw [Cluster.run?, found] at stored
      exact ⟨after, stored, named⟩
    · exact lawful.legible.run name object ((effect.find?_of_ne about).symm.trans found)
  · intro name object found
    by_cases about : request.key? = some ⟨.workspace, space, name⟩
    · obtain ⟨_, after, _, stored, named, _⟩ := workspace name about
      rw [Cluster.workspace?, found] at stored
      exact ⟨after, stored, named⟩
    · exact lawful.legible.workspace name object ((effect.find?_of_ne about).symm.trans found)
  · intro name stored there
    by_cases about : request.key? = some ⟨.run, space, name⟩
    · obtain ⟨before, after, was, now, _, step⟩ := run name about
      cases there.symm.trans now
      exact Or.inr ⟨before, was, step⟩
    · rw [Cluster.run?_congr (effect.find?_of_ne about)] at there
      exact Or.inr ⟨stored, there, rfl, Or.inl rfl⟩
  · intro name stored there
    by_cases about : request.key? = some ⟨.workspace, space, name⟩
    · obtain ⟨before, after, was, now, _, step⟩ := workspace name about
      cases there.symm.trans now
      exact Or.inr ⟨before, was, step⟩
    · rw [Cluster.workspace?_congr (effect.find?_of_ne about)] at there
      exact Or.inr ⟨stored, there, .kept rfl⟩

/-- That nothing changes is legal. -/
theorem stutter (lawful : Lawful space history) : Lawful space (history.present :: history) := by
  refine lawful.step (lawful.legal_of_effect (.nothing (.list default default default)) ?_ ?_)
  · simp [Request.key?]
  · simp [Request.key?]

/-! ### Runs through time -/

/-- A run that is stored now and was known then was stored then, under the same label, and was not over if it is
not over now. -/
theorem traced (lawful : Lawful space history) (before : earlier <:+ history) {name : String}
    (known : ¬ earlier.Unused ⟨.run, space, name⟩) {run : Run}
    (stored : history.present.run? space name = some run) :
    ∃ past, earlier.present.run? space name = some past ∧
      run.metadata.label? Run.workspaceLabel = past.metadata.label? Run.workspaceLabel ∧
      (past.isCompleted = true → run.isCompleted = true) := by
  induction lawful generalizing run with
  | start =>
      rw [List.suffix_nil.mp before]
      exact ⟨run, stored, rfl, id⟩
  | @step history next lawful legal inductionHypothesis =>
      rcases List.suffix_cons_iff.mp before with same | deeper
      · rw [same]
        exact ⟨run, stored, rfl, id⟩
      · rcases legal.runs name run stored with ⟨unused, _⟩ | ⟨previous, was, step⟩
        · exact absurd (unused.of_suffix deeper) known
        · obtain ⟨past, pastStored, label, completed⟩ := inductionHypothesis deeper was
          exact ⟨past, pastStored, step.label.trans label, fun finished => step.isCompleted (completed finished)⟩

/-- The status of every stored run is coherent. -/
theorem coherent (lawful : Lawful space history) {name : String} {run : Run}
    (stored : history.present.run? space name = some run) : run.standing.Coherent name := by
  induction lawful generalizing run with
  | start => cases stored
  | step lawful legal inductionHypothesis =>
      rcases legal.runs name run stored with ⟨_, fresh⟩ | ⟨before, was, step⟩
      · rw [Run.standing, fresh]
        exact RunStatus.coherent_empty name
      · rcases step.status with same | ⟨_, coherent, _⟩
        · rw [Run.standing, same]
          exact inductionHypothesis was
        · exact coherent

/-- The status of every run that was stored is coherent. -/
theorem coherent_of_mem (lawful : Lawful space history) {cluster : Cluster} (member : cluster ∈ history)
    {name : String} {run : Run} (stored : cluster.run? space name = some run) : run.standing.Coherent name := by
  obtain ⟨newer, older, rfl⟩ := List.append_of_mem member
  exact (lawful.suffix (List.suffix_append newer (cluster :: older))).coherent stored

/-- A stored run that may be attached to is not over. -/
theorem not_isCompleted_of_isAttachable (lawful : Lawful space history) {name : String} {run : Run}
    (stored : history.present.run? space name = some run) (isOpen : run.isAttachable = true) :
    run.isCompleted = false := by
  rw [Run.isAttachable_eq_standing] at isOpen
  rcases (lawful.coherent stored).phase with underway | finished
  · rw [Run.isCompleted_eq_standing, Condition.isTrueFor, underway.unfinished]
    rfl
  · rw [finished.isTrueFor_attachable] at isOpen
    cases isOpen

/-! ### Queues through time -/

/-- What was known is known later. -/
theorem knew_of_suffix {workspace name : String} (before : earlier <:+ history)
    (knew : earlier.Knew space workspace name) : history.Knew space workspace name := by
  obtain ⟨cluster, member, run, stored, label⟩ := knew
  exact ⟨cluster, before.subset member, run, stored, label⟩

theorem not_unused_of_knew {workspace name : String} (knew : history.Knew space workspace name) :
    ¬ history.Unused ⟨.run, space, name⟩ := by
  obtain ⟨cluster, member, run, stored, _⟩ := knew
  obtain ⟨object, found, _⟩ := Cluster.find?_of_run? stored
  exact History.not_unused_of_mem member found

/-- A stored queue names runs that have been, labelled for the workspace. -/
theorem knew_of_mem_queue (lawful : Lawful space history) {name : String} {workspace : Workspace}
    (stored : history.present.workspace? space name = some workspace) {run : String}
    (member : run ∈ workspace.queue) : history.Knew space name run := by
  induction lawful generalizing workspace with
  | start => cases stored
  | step lawful legal inductionHypothesis =>
      apply knew_of_suffix (List.suffix_cons _ _)
      rcases legal.workspaces name workspace stored with ⟨_, empty⟩ | ⟨before, was, step⟩
      · rw [empty] at member
        cases member
      · cases step with
        | kept queue => exact inductionHypothesis was (queue ▸ member)
        | moved known stable => exact known run member

/-- A run that was known under a label and is stored now has that label. -/
theorem isFor_of_knew (lawful : Lawful space history) {workspace name : String}
    (knew : history.Knew space workspace name) {run : Run}
    (stored : history.present.run? space name = some run) : run.IsFor workspace := by
  obtain ⟨cluster, member, known, wasStored, label⟩ := knew
  obtain ⟨newer, older, rfl⟩ := List.append_of_mem member
  have suffix : cluster :: older <:+ newer ++ cluster :: older := List.suffix_append newer _
  obtain ⟨past, pastStored, same, _⟩ :=
    lawful.traced suffix (not_unused_of_knew ⟨cluster, List.mem_cons_self, known, wasStored, label⟩) stored
  rw [History.present_cons, wasStored] at pastStored
  cases pastStored
  exact same.trans label

theorem lastWorkspace?_cons (cluster : Cluster) (history : History) (name : String) :
    History.lastWorkspace? (cluster :: history) space name =
      (cluster.workspace? space name).or (history.lastWorkspace? space name) := by
  simp only [History.lastWorkspace?, List.findSome?_cons]
  cases cluster.workspace? space name <;> rfl

/-- A workspace that is stored is the one that was stored last. -/
theorem lastWorkspace?_of_workspace? {name : String} {workspace : Workspace}
    (stored : history.present.workspace? space name = some workspace) :
    history.lastWorkspace? space name = some workspace := by
  cases history with
  | nil => cases stored
  | cons cluster rest =>
      rw [lastWorkspace?_cons, ← History.present_cons cluster rest, stored]
      rfl

theorem not_unused_of_lastWorkspace? {name : String} {workspace : Workspace}
    (last : history.lastWorkspace? space name = some workspace) :
    ¬ history.Unused ⟨.workspace, space, name⟩ := by
  obtain ⟨cluster, member, stored⟩ := List.exists_of_findSome?_eq_some last
  obtain ⟨object, found, _⟩ := Cluster.find?_of_workspace? stored
  exact History.not_unused_of_mem member found

/-! ### Turns through time -/

/-- One step lets a run lead on that is stored and not over. -/
theorem leads_step {next : Cluster} (legal : Legal space history next) {workspace name : String}
    (leads : history.Leads space workspace name) {run : Run}
    (stored : history.present.run? space name = some run) (unfinished : run.isCompleted = false) :
    History.Leads (next :: history) space workspace name := by
  obtain ⟨last, wasLast, head⟩ := leads
  rw [History.Leads, lastWorkspace?_cons]
  cases now : next.workspace? space workspace with
  | none => exact ⟨last, wasLast, head⟩
  | some written =>
      refine ⟨written, rfl, ?_⟩
      rcases legal.workspaces workspace written now with ⟨unused, _⟩ | ⟨before, was, step⟩
      · exact absurd unused (not_unused_of_lastWorkspace? wasLast)
      · rw [lastWorkspace?_of_workspace? was] at wasLast
        cases wasLast
        cases step with
        | kept queue =>
            rw [queue]
            exact head
        | moved known stable => exact stable name run head stored unfinished

/-- A run that is stored and not over, and that led once, leads. -/
theorem leads_lasts (lawful : Lawful space history) (before : earlier <:+ history) {workspace name : String}
    (known : ¬ earlier.Unused ⟨.run, space, name⟩) (leads : earlier.Leads space workspace name) {run : Run}
    (stored : history.present.run? space name = some run) (unfinished : run.isCompleted = false) :
    history.Leads space workspace name := by
  induction lawful generalizing run with
  | start =>
      rw [List.suffix_nil.mp before] at leads
      exact leads
  | @step history next lawful legal inductionHypothesis =>
      rcases List.suffix_cons_iff.mp before with same | deeper
      · rw [same] at leads
        exact leads
      · have knownNow : ¬ history.Unused ⟨.run, space, name⟩ := fun unused =>
          known (unused.of_suffix deeper)
        obtain ⟨past, wasStored, _, completed⟩ :=
          (lawful.step legal).traced (List.suffix_cons next history) knownNow stored
        have wasUnfinished : past.isCompleted = false := by
          cases finished : past.isCompleted with
          | false => rfl
          | true =>
              rw [completed finished] at unfinished
              cases unfinished
        exact leads_step legal (inductionHypothesis deeper wasStored wasUnfinished) wasStored wasUnfinished

/-- A stored run that may be attached to leads the workspace that it is labelled for. -/
theorem leads_of_isAttachable (lawful : Lawful space history) {name : String} {run : Run}
    (stored : history.present.run? space name = some run) (isOpen : run.isAttachable = true) :
    ∃ workspace, run.IsFor workspace ∧ history.Leads space workspace name := by
  induction lawful generalizing run with
  | start => cases stored
  | step lawful legal inductionHypothesis =>
      rcases legal.runs name run stored with ⟨_, fresh⟩ | ⟨before, was, step⟩
      · rw [Run.isAttachable, Run.conditions, fresh] at isOpen
        cases isOpen
      · rcases step.status with same | ⟨unfinished, _, leads⟩
        · have wasOpen : before.isAttachable = true := by
            rw [← Run.isAttachable_congr same]
            exact isOpen
          obtain ⟨workspace, label, leads⟩ := inductionHypothesis was wasOpen
          exact ⟨workspace, step.label.trans label,
            leads_step legal leads was (lawful.not_isCompleted_of_isAttachable was wasOpen)⟩
        · obtain ⟨workspace, label, leads⟩ := leads isOpen
          exact ⟨workspace, label, leads_step legal leads was unfinished⟩

end Lawful

end Turn

end Turnstile
