/-
Module: Turnstile.Proofs.Workspace.Outline
Purpose: What has to be shown of each request of a reconciliation of a workspace.
Main exports: Workspace.Stage, Workspace.Outline, Workspace.Outline.abides
-/
import Turnstile.Proofs.Run.Outline
import Turnstile.Workspace.Reconcile

/-!
A reconciliation of a workspace prepares what the workspace needs, has observed what is around it, and is done.
While it prepares, it changes no workspace, no run and no pod.  What it lists are the labelled runs.
-/

namespace Turnstile.Workspace

/-- Where a reconciliation of a workspace stands. -/
inductive Stage where
  | preparing
  | observed (observation : Observation)
  | finished

/-- The request that lists the runs labelled for the workspace. -/
def listing (workspace : Workspace) (space : String) : Request :=
  .list .run space (.labelled Run.workspaceLabel workspace.name)

/-- The names of those listed runs that are not over. -/
def pendingNames (runs : List Run) : List String :=
  (runs.filter fun run => !run.isCompleted).map Run.name

/-- What holds at the stages of a reconciliation, and how its requests lead from one stage to the next. -/
structure Outline (law : History → Prop) (moves : History → History → Prop) (now : String) (space : String)
    (workspace : Workspace) (holds : Stage → History → Prop) : Prop where
  stays : ∀ {stage later final}, holds stage later → moves later final → holds stage final
  prepares : ∀ {later request cluster reply}, holds .preparing later → law later → request.Spares →
    Reply later.present request cluster reply → law (cluster :: later) ∧ holds .preparing (cluster :: later)
  lacks : ∀ {later missing}, holds .preparing later → missing ≠ [] →
    holds (.observed { missing }) later
  lists : ∀ {later cluster json runs}, holds .preparing later → law later →
    Reply later.present (workspace.listing space) cluster (.ok json) →
    Program.itemsOf Run.ofJson? json = some runs →
    holds (.observed { pending := pendingNames runs }) (cluster :: later)
  writes : ∀ {later observation status cluster reply}, holds (.observed observation) later → law later →
    workspace.nextStatus? now observation = some status →
    Reply later.present
      (.patchStatus ⟨.workspace, space, workspace.name⟩
        (Attempt.statusPatch workspace.metadata status.toJson)) cluster reply →
    law (cluster :: later) ∧ ∀ json, reply = .ok json → holds .finished (cluster :: later)
  unchanged : ∀ {later observation}, holds (.observed observation) later →
    workspace.nextStatus? now observation = none → holds .finished later

/-! ### The parts of a reconciliation -/

/-- Looking up the prerequisites changes nothing. -/
theorem uses_missingPrerequisites (workspace : Workspace) (space : String) :
    Attempt.Uses Request.Spares (workspace.missingPrerequisites space) := by
  have looks : ∀ (kind : Kind) (name : Option String),
      Attempt.Uses Request.Spares (missing? kind space name) := by
    intro kind name
    cases name with
    | none => exact Attempt.uses_pure none
    | some name =>
        exact Attempt.Uses.bind (Attempt.uses_find? (Request.spares_get _)) fun _ => Attempt.uses_pure _
  exact Attempt.Uses.bind (looks _ _) fun _ => Attempt.Uses.bind (looks _ _) fun _ => Attempt.uses_pure _

theorem uses_ensure_of_kind {kind : Kind} {space name : String} {desired : Json}
    (apart : kind ≠ .workspace ∧ kind ≠ .run ∧ kind ≠ .pod) :
    Attempt.Uses Request.Spares (Attempt.ensure ⟨kind, space, name⟩ desired) :=
  Attempt.uses_ensure (Request.spares_get _) (Request.spares_of_kind apart)

/-- Ensuring what the workspace needs changes no workspace, no run and no pod. -/
theorem uses_ensureResources (workspace : Workspace) (settings : Settings) (space : String) :
    Attempt.Uses Request.Spares (workspace.ensureResources settings space) := by
  unfold ensureResources
  cases workspace.controllerReference? with
  | none => exact Attempt.uses_fail _
  | some owner =>
      apply Attempt.Uses.bind (uses_ensure_of_kind (by decide))
      intro _
      apply Attempt.Uses.bind (uses_ensure_of_kind (by decide))
      intro _
      exact uses_ensure_of_kind (by decide)

namespace Outline

variable {law : History → Prop} {moves : History → History → Prop} {now : String} {space : String}
  {workspace : Workspace} {holds : Stage → History → Prop}

/-- The list of pending runs leads on. -/
theorem abides_pendingRuns (outline : Outline law moves now space workspace holds) {history : History}
    (start : holds .preparing history) :
    Attempt.Abides law moves (fun pending => holds (.observed { pending }))
      (workspace.pendingRuns space) history := by
  refine Attempt.Abides.bind (fun runs => holds (.observed { pending := pendingNames runs })) ?_
    fun _ _ met => Attempt.abides_pure met
  apply Attempt.abides_require
  intro later moved lawful cluster reply served
  have here := outline.stays start moved
  have spares : (workspace.listing space).Spares := by
    simp [Request.Spares, Request.isWrite, Request.verb, Workspace.listing]
  refine ⟨(outline.prepares here lawful spares served).1, ?_⟩
  intro json runs good read
  subst good
  exact outline.lists here lawful served read

/-- The observation leads on. -/
theorem abides_observe (outline : Outline law moves now space workspace holds) (settings : Settings)
    {history : History} (start : holds .preparing history) :
    Attempt.Abides law moves (fun observation => holds (.observed observation))
      (workspace.observe settings space) history := by
  refine Attempt.Abides.bind (fun _ => holds .preparing)
    ((workspace.uses_missingPrerequisites space).abides (holds .preparing) outline.stays outline.prepares start) ?_
  intro missing looked preparing
  split
  · rename_i nothing
    have complete : missing = [] := List.isEmpty_iff.mp nothing
    refine Attempt.Abides.bind (fun _ => holds .preparing)
      ((workspace.uses_ensureResources settings space).abides (holds .preparing) outline.stays outline.prepares
        preparing) ?_
    intro _ ensured prepared
    apply Attempt.Abides.bind _ (outline.abides_pendingRuns prepared)
    intro pending listed observed
    subst complete
    exact Attempt.abides_pure observed
  · rename_i something
    exact Attempt.abides_pure (outline.lacks preparing fun none => something (List.isEmpty_iff.mpr none))

/-- A reconciliation abides by the law if there is an outline of it, and what holds in the end is met. -/
theorem abides (outline : Outline law moves now space workspace holds) (settings : Settings)
    {history : History} (start : holds .preparing history) :
    Attempt.Abides law moves (fun _ => holds .finished) (workspace.reconcile now settings space) history := by
  apply Attempt.Abides.bind _ (outline.abides_observe settings start)
  intro observation seen observed
  split
  · rename_i same
    exact Attempt.abides_pure (outline.unchanged observed same)
  · rename_i status planned
    apply Attempt.abides_require
    intro later moved lawful cluster reply served
    obtain ⟨kept, done⟩ := outline.writes (outline.stays observed moved) lawful planned served
    exact ⟨kept, fun json _ good _ => done json good⟩

end Outline

end Turnstile.Workspace

/-- Reconcile the stored workspace of a name without interruption, if there is one. -/
def Turnstile.History.reconcileWorkspace (history : History) (now space name : String) : History :=
  match history.present.workspace? space name with
  | none => history
  | some workspace => ((workspace.reconcile now {} space).play (fun _ => false) history).1
