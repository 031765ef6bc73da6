/-
Module: Turnstile.Proofs.Turn.World
Purpose: In every interleaving of reconciliations at most one run of a workspace may be attached to.
Main exports: Turn.World, Turn.World.Step, Turn.World.Reachable, Turn.World.Reachable.keeps,
  Turn.World.Reachable.sound, Turn.World.Attachable
-/
import Turnstile.Proofs.Turn.Controllers
import Turnstile.Proofs.Turn.Outside

/-!
A world is a cluster with its history and the reconciliations that are under way in one namespace.  It moves by
single requests: one of a reconciliation under way, which may also fail or lose its reply, or one of somebody
outside.  A reconciliation starts at any time, from the copy of a run or a workspace that was stored at any time
before.
-/

namespace Turnstile.Turn

open Cluster

variable {space : String} {history : History}

/-! ### Worlds -/

/-- A cluster with its history, and the reconciliations that are under way. -/
structure World where
  history : History := []
  underWay : List (Program (Except ReconcileFailure Unit)) := []

namespace World

/-- How a world moves, by one request or by a reconciliation that starts. -/
inductive Step (space : String) : World → World → Prop where
  | outside {world : World} (request : Request) (permitted : Outside space world.history request) :
      Step space world
        { world with history := (world.history.present.answer request).1 :: world.history }
  | startRun {world : World} {cluster : Cluster} {name : String} {run : Run} (now : String)
      (settings : Settings) (seen : cluster ∈ world.history) (stored : cluster.run? space name = some run) :
      Step space world { world with underWay := run.reconcile now settings space :: world.underWay }
  | startWorkspace {world : World} {cluster : Cluster} {name : String} {workspace : Workspace} (now : String)
      (settings : Settings) (seen : cluster ∈ world.history)
      (stored : cluster.workspace? space name = some workspace) :
      Step space world { world with underWay := workspace.reconcile now settings space :: world.underWay }
  | serve {history : History} {before after : List (Program (Except ReconcileFailure Unit))}
      {request : Request} {next : Except ApiError Json → Program (Except ReconcileFailure Unit)}
      {cluster : Cluster} {reply : Except ApiError Json}
      (served : Reply history.present request cluster reply) :
      Step space ⟨history, before ++ .call request next :: after⟩
        ⟨cluster :: history, before ++ next reply :: after⟩

/-- The worlds that are reached from the empty one. -/
inductive Reachable (space : String) : World → Prop where
  | start : Reachable space {}
  | step {world next : World} (reachable : Reachable space world) (step : Step space world next) :
      Reachable space next

/-- Every request of the program is a legal step, whatever legal steps come before it. -/
def Careful (space : String) (program : Program (Except ReconcileFailure Unit)) (history : History) : Prop :=
  program.Abides (Lawful space) (fun earlier later => earlier <:+ later) (fun _ _ => True) history

/-- The history is lawful, and whatever is under way keeps it so. -/
structure Sound (space : String) (world : World) : Prop where
  lawful : Lawful space world.history
  abides : ∀ program ∈ world.underWay, Careful space program world.history

/-- Every request of the program keeps the law, whatever comes before it that keeps it too. -/
def Keeps (law : History → Prop) (program : Program (Except ReconcileFailure Unit)) (history : History) : Prop :=
  program.Abides law (fun earlier later => earlier <:+ later) (fun _ _ => True) history

/-- What is under way keeps the law also when the history goes on. -/
theorem Keeps.later {law : History → Prop} {program : Program (Except ReconcileFailure Unit)} {later : History}
    (keeps : Keeps law program history) (before : history <:+ later) : Keeps law program later :=
  Program.Abides.moved keeps List.IsSuffix.trans (fun _ met => met) before

/-- An attempt that abides by the law keeps it. -/
theorem keeps_of_abides {law : History → Prop} {attempt : Attempt Unit} {goal : Unit → History → Prop}
    (abides : Attempt.Abides law (fun earlier later => earlier <:+ later) goal attempt history) :
    Keeps law attempt history :=
  Program.Abides.weaken abides fun _ _ _ => trivial

/-- A law that is kept by what others ask for and by every reconciliation holds in every world that is reached,
and whatever is under way keeps it. -/
theorem Reachable.keeps (law : History → Prop) (start : law [])
    (outside : ∀ {history : History} {request : Request}, law history → Outside space history request →
      law ((history.present.answer request).1 :: history))
    (runs : ∀ {history : History} {cluster : Cluster} {name : String} {run : Run} (now : String)
      (settings : Settings), law history → cluster ∈ history → cluster.run? space name = some run →
      Keeps law (run.reconcile now settings space) history)
    (workspaces : ∀ {history : History} {cluster : Cluster} {name : String} {workspace : Workspace} (now : String)
      (settings : Settings), law history → cluster ∈ history →
      cluster.workspace? space name = some workspace →
      Keeps law (workspace.reconcile now settings space) history)
    {world : World} (reachable : Reachable space world) :
    law world.history ∧ ∀ program ∈ world.underWay, Keeps law program world.history := by
  induction reachable with
  | start => exact ⟨start, List.forall_mem_nil _⟩
  | step reachable step inductionHypothesis =>
      obtain ⟨lawful, underWay⟩ := inductionHypothesis
      cases step with
      | outside request permitted =>
          exact ⟨outside lawful permitted, fun program member => (underWay program member).later (List.suffix_cons _ _)⟩
      | startRun now settings seen stored =>
          exact ⟨lawful, List.forall_mem_cons.mpr ⟨runs now settings lawful seen stored, underWay⟩⟩
      | startWorkspace now settings seen stored =>
          exact ⟨lawful, List.forall_mem_cons.mpr ⟨workspaces now settings lawful seen stored, underWay⟩⟩
      | @serve history before after request next cluster reply served =>
          have waiting := underWay (.call request next) (by simp)
          obtain ⟨kept, goesOn⟩ := waiting history (List.suffix_refl _) lawful cluster reply served
          refine ⟨kept, ?_⟩
          intro program member
          simp only [List.mem_append, List.mem_cons] at member
          rcases member with earlier | here | later
          · exact (underWay program (by simp [earlier])).later (List.suffix_cons _ _)
          · rw [here]
            exact goesOn
          · exact (underWay program (by simp [later])).later (List.suffix_cons _ _)

/-- Every reachable world is sound. -/
theorem Reachable.sound {world : World} (reachable : Reachable space world) : Sound space world := by
  obtain ⟨lawful, underWay⟩ := reachable.keeps (Lawful space) .start
    (fun lawful permitted => lawful.step (permitted.legal lawful))
    (fun now settings _ seen stored =>
      keeps_of_abides ((run_outline now settings seen stored).abides (List.suffix_refl _)))
    fun now settings _ seen stored =>
      keeps_of_abides ((workspace_outline now seen stored).abides settings (List.suffix_refl _))
  exact ⟨lawful, underWay⟩

/-- Reconciling without interruption is one way in which a world may move. -/
theorem Reachable.serves {program : Program (Except ReconcileFailure Unit)} {final : History}
    {underWay : List (Program (Except ReconcileFailure Unit))} {value : Except ReconcileFailure Unit}
    (served : Program.Serves program history final value)
    (reachable : Reachable space ⟨history, program :: underWay⟩) :
    Reachable space ⟨final, .done value :: underWay⟩ := by
  induction served with
  | done value history => exact reachable
  | @call request next history final cluster reply value served rest inductionHypothesis =>
      have step : Step space ⟨history, [] ++ .call request next :: underWay⟩
          ⟨cluster :: history, [] ++ next reply :: underWay⟩ := .serve served
      exact inductionHypothesis (reachable.step step)

/-- A world with this history is reached. -/
def Reached (space : String) (history : History) : Prop :=
  ∃ underWay, Reachable space ⟨history, underWay⟩

theorem Reached.ask (reached : Reached space history) (request : Request)
    (checked : admits space history request = true) : Reached space (history.ask request) := by
  obtain ⟨underWay, reachable⟩ := reached
  exact ⟨underWay, reachable.step (.outside request (.of_admits checked))⟩

theorem Reached.reconcileRun (reached : Reached space history) (now name : String) (fails : Request → Bool) :
    Reached space (history.reconcileRun now space name fails) := by
  obtain ⟨underWay, reachable⟩ := reached
  unfold History.reconcileRun History.reconcileCopy
  split
  · exact ⟨underWay, reachable⟩
  · rename_i run stored
    obtain ⟨object, found, read⟩ := find?_of_run? stored
    have started := reachable.step (.startRun now {} (History.present_mem found) stored)
    exact ⟨_, started.serves (Program.serves_play fails _ _)⟩

theorem Reached.reconcileWorkspace (reached : Reached space history) (now name : String) :
    Reached space (history.reconcileWorkspace now space name) := by
  obtain ⟨underWay, reachable⟩ := reached
  unfold History.reconcileWorkspace
  split
  · exact ⟨underWay, reachable⟩
  · rename_i workspace stored
    obtain ⟨object, found, read⟩ := find?_of_workspace? stored
    have started := reachable.step (.startWorkspace now {} (History.present_mem found) stored)
    exact ⟨_, started.serves (Program.serves_play _ _ _)⟩

/-- A run of this name is stored that is labelled for the workspace and may be attached to. -/
def Attachable (world : World) (space workspace name : String) : Prop :=
  ∃ run, world.history.present.run? space name = some run ∧ run.IsFor workspace ∧ run.isAttachable = true

/-- In every reachable world, a run that may be attached to leads the last stored queue of its workspace, so
there is one such run of a workspace at most. -/
theorem attachable_leads {world : World} (reachable : Reachable space world) (workspace : String) :
    (∀ name, world.Attachable space workspace name → world.history.Leads space workspace name) ∧
      ∀ first second, world.Attachable space workspace first → world.Attachable space workspace second →
        first = second := by
  have leads : ∀ name, world.Attachable space workspace name → world.history.Leads space workspace name := by
    rintro name ⟨run, stored, label, isOpen⟩
    obtain ⟨other, otherLabel, leads⟩ := reachable.sound.lawful.leads_of_isAttachable stored isOpen
    cases Option.some.inj (label.symm.trans otherLabel)
    exact leads
  refine ⟨leads, ?_⟩
  intro first second firstOpen secondOpen
  obtain ⟨stored, last, head⟩ := leads first firstOpen
  obtain ⟨other, otherLast, otherHead⟩ := leads second secondOpen
  cases last.symm.trans otherLast
  exact Option.some.inj (head.symm.trans otherHead)

/-- A workspace and a run of it are created, and either is reconciled. -/
@[irreducible] def firstTurn : History :=
  ((History.ask [] (.founding "team" "dev")).ask (.submission "team" "dev" "run-a" .plan)).reconcileWorkspace
    "T1" "team" "dev" |>.reconcileRun "T2" "team" "run-a" fun _ => false

/-- The run leads as soon as either is reconciled. -/
theorem attachable_leads_firstTurn : ∃ underWay, Reachable "team" ⟨firstTurn, underWay⟩ ∧
    Attachable ⟨firstTurn, underWay⟩ "team" "dev" "run-a" ∧ firstTurn.Leads "team" "dev" "run-a" := by
  have start : Reached "team" [] := ⟨[], .start⟩
  have founded := start.ask (.founding "team" "dev") (by decide +kernel)
  have submitted := founded.ask (.submission "team" "dev" "run-a" .plan) (by decide +kernel)
  have reached : Reached "team" firstTurn := by
    rw [firstTurn]
    exact (submitted.reconcileWorkspace "T1" "dev").reconcileRun "T2" "run-a" fun _ => false
  obtain ⟨underWay, reachable⟩ := reached
  have isOpen : Attachable ⟨firstTurn, underWay⟩ "team" "dev" "run-a" := by
    have checked : (firstTurn.present.run? "team" "run-a").any (fun run =>
        run.metadata.label? Run.workspaceLabel == some "dev" && run.isAttachable) = true := by
      decide +kernel
    obtain ⟨run, stored, fits⟩ := (Option.any_eq_true _ _).mp checked
    rw [Bool.and_eq_true, beq_iff_eq] at fits
    exact ⟨run, stored, fits⟩
  exact ⟨underWay, reachable, isOpen, (attachable_leads reachable "dev").1 "run-a" isOpen⟩

end World

end Turnstile.Turn
