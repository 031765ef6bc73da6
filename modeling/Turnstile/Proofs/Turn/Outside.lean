/-
Module: Turnstile.Proofs.Turn.Outside
Purpose: What others than the controllers may ask of the cluster, and that it is legal.
Main exports: Turn.Outside, Turn.Outside.legal, Turn.admits, Turn.Outside.of_admits
-/
import Turnstile.Proofs.Cluster.Report
import Turnstile.Proofs.Turn.Lawful

/-!
Others may submit, annotate and remove runs and workspaces, and do as they like with pods and everything else.
They leave the status of runs and workspaces to the controllers, change no label that names a workspace, and take
no name again.  Whether a request is of this kind can be checked on the entries that it leaves.
-/

namespace Turnstile.Turn

open Cluster

/-- What others than the controllers may ask for. -/
structure Outside (space : String) (history : History) (request : Request) : Prop where
  /-- The status of runs and workspaces is left to the controllers. -/
  unreported : ∀ name change, request ≠ .patchStatus ⟨.run, space, name⟩ change ∧
    request ≠ .patchStatus ⟨.workspace, space, name⟩ change
  /-- Runs and workspaces can be read and keep their names. -/
  legible : (history.present.answer request).1.Legible space
  /-- A run is submitted without status, under a name that was never taken. -/
  submitted : ∀ name run, history.present.find? ⟨.run, space, name⟩ = none →
    (history.present.answer request).1.run? space name = some run →
    history.Unused ⟨.run, space, name⟩ ∧ run.status = none
  /-- The label that names the workspace of a run is not changed. -/
  label : ∀ name before after, history.present.run? space name = some before →
    (history.present.answer request).1.run? space name = some after →
    after.metadata.label? Run.workspaceLabel = before.metadata.label? Run.workspaceLabel
  /-- A workspace starts with an empty queue, under a name that was never taken. -/
  founded : ∀ name workspace, history.present.find? ⟨.workspace, space, name⟩ = none →
    (history.present.answer request).1.workspace? space name = some workspace →
    history.Unused ⟨.workspace, space, name⟩ ∧ workspace.queue = []

variable {space : String} {history : History}

/-- What others may ask for is legal. -/
theorem Outside.legal {request : Request} (outside : Outside space history request)
    (lawful : Lawful space history) : Legal space history (history.present.answer request).1 := by
  have effect := effect_answer history.present request
  refine ⟨⟨request, effect⟩, outside.legible, ?_, ?_⟩
  · intro name run stored
    cases found : history.present.find? ⟨.run, space, name⟩ with
    | none => exact Or.inl (outside.submitted name run found stored)
    | some object =>
        obtain ⟨before, read, _⟩ := lawful.legible.run name object found
        have was : history.present.run? space name = some before := by
          rw [run?, found]
          exact read
        exact Or.inr ⟨before, was, outside.label name before run was stored, Or.inl
          (Run.status_of_unreported lawful.served effect (fun change => (outside.unreported name change).1) was
            stored)⟩
  · intro name workspace stored
    cases found : history.present.find? ⟨.workspace, space, name⟩ with
    | none => exact Or.inl (outside.founded name workspace found stored)
    | some object =>
        obtain ⟨before, read, _⟩ := lawful.legible.workspace name object found
        have was : history.present.workspace? space name = some before := by
          rw [workspace?, found]
          exact read
        refine Or.inr ⟨before, was, .kept ?_⟩
        rw [Workspace.queue, Workspace.queue,
          Workspace.status_of_unreported lawful.served effect
            (fun change => (outside.unreported name change).2) was stored]

/-! ### The check of what others may ask for -/

/-- What is stored of runs and workspaces after a request of others, entry by entry. -/
def admitsEntry (space : String) (history : History) (entry : Key × Json) : Bool :=
  let isNew := (history.present.find? entry.1).isNone
  match entry.1.kind with
  | .run => (Run.ofJson? entry.2).any fun after =>
      after.name == entry.1.name &&
      if isNew then history.isUnused entry.1 && after.status.isNone
      else (history.present.run? space entry.1.name).all fun before =>
        after.metadata.label? Run.workspaceLabel == before.metadata.label? Run.workspaceLabel
  | .workspace => (Workspace.ofJson? entry.2).any fun after =>
      after.name == entry.1.name && (!isNew || history.isUnused entry.1 && after.queue.isEmpty)
  | _ => true

/-- The check of a request of others. -/
def admits (space : String) (history : History) (request : Request) : Bool :=
  (request.verb != .patchStatus || request.kind != .run && request.kind != .workspace) &&
    (history.present.answer request).1.objects.all fun entry =>
      entry.1.namespaceName != space || admitsEntry space history entry

/-- What passes the check may be asked for. -/
theorem Outside.of_admits {request : Request} (checked : admits space history request = true) :
    Outside space history request := by
  simp only [admits, Bool.and_eq_true, List.all_eq_true] at checked
  obtain ⟨unreported, entries⟩ := checked
  have run : ∀ name object, (history.present.answer request).1.find? ⟨.run, space, name⟩ = some object →
      ∃ after, Run.ofJson? object = some after ∧ after.name = name ∧
        (if (history.present.find? ⟨.run, space, name⟩).isNone then
            history.isUnused ⟨.run, space, name⟩ && after.status.isNone
          else (history.present.run? space name).all fun before =>
            after.metadata.label? Run.workspaceLabel == before.metadata.label? Run.workspaceLabel) = true := by
    intro name object found
    have passed := entries _ (mem_of_find? found)
    simp only [bne_self_eq_false, Bool.false_or, admitsEntry] at passed
    obtain ⟨after, read, fits⟩ := (Option.any_eq_true _ _).mp passed
    rw [Bool.and_eq_true, beq_iff_eq] at fits
    exact ⟨after, read, fits⟩
  have workspace : ∀ name object,
      (history.present.answer request).1.find? ⟨.workspace, space, name⟩ = some object →
      ∃ after, Workspace.ofJson? object = some after ∧ after.name = name ∧
        (!(history.present.find? ⟨.workspace, space, name⟩).isNone ||
          history.isUnused ⟨.workspace, space, name⟩ && after.queue.isEmpty) = true := by
    intro name object found
    have passed := entries _ (mem_of_find? found)
    simp only [bne_self_eq_false, Bool.false_or, admitsEntry] at passed
    obtain ⟨after, read, fits⟩ := (Option.any_eq_true _ _).mp passed
    rw [Bool.and_eq_true, beq_iff_eq] at fits
    exact ⟨after, read, fits⟩
  refine ⟨?_, ⟨?_, ?_⟩, ?_, ?_, ?_⟩
  · intro name change
    constructor
    · rintro rfl
      simp [Request.verb, Request.kind] at unreported
    · rintro rfl
      simp [Request.verb, Request.kind] at unreported
  · intro name object found
    obtain ⟨after, read, named, _⟩ := run name object found
    exact ⟨after, read, named⟩
  · intro name object found
    obtain ⟨after, read, named, _⟩ := workspace name object found
    exact ⟨after, read, named⟩
  · intro name stored absent there
    obtain ⟨object, found, read⟩ := find?_of_run? there
    obtain ⟨after, sameRead, _, fits⟩ := run name object found
    cases read.symm.trans sameRead
    rw [absent, Option.isNone_none, if_pos rfl, Bool.and_eq_true, Option.isNone_iff_eq_none] at fits
    exact ⟨History.unused_of_isUnused fits.1, fits.2⟩
  · intro name before stored was there
    obtain ⟨object, found, read⟩ := find?_of_run? there
    obtain ⟨after, sameRead, _, fits⟩ := run name object found
    cases read.symm.trans sameRead
    obtain ⟨past, pastFound, _⟩ := find?_of_run? was
    rw [pastFound, was] at fits
    simpa using fits
  · intro name stored absent there
    obtain ⟨object, found, read⟩ := find?_of_workspace? there
    obtain ⟨after, sameRead, _, fits⟩ := workspace name object found
    cases read.symm.trans sameRead
    rw [absent, Option.isNone_none, Bool.not_true, Bool.false_or, Bool.and_eq_true,
      List.isEmpty_iff] at fits
    exact ⟨History.unused_of_isUnused fits.1, fits.2⟩

end Turnstile.Turn
