/-
Module: Turnstile.Proofs.Cluster.Report
Purpose: What becomes of the status of a run or a workspace, by a report of its controller or by any other request.
Main exports: object_of_fresh, Run.of_report, Workspace.of_report, Run.status_of_unreported,
  Workspace.status_of_unreported
-/
import Turnstile.Proofs.Cluster.History
import Turnstile.Proofs.Cluster.Resource

/-!
A controller reports on an object from the copy that it started from.  The report names the version of the copy,
so if it is accepted the object is still that copy, and nothing has happened to it in between.  Requests that are
no reports keep the status.
-/

namespace Turnstile

open Cluster

variable {space : String} {history : History}

/-- A status patch that is not stale finds the object that the patch was made from. -/
theorem object_of_fresh (served : history.Served) {cluster : Cluster} (member : cluster ∈ history) {key : Key}
    {copy object : Json} (seen : cluster.find? key = some copy) {metadata : Metadata}
    (version : metadata.resourceVersion = metadataText? copy "resourceVersion")
    (found : history.present.find? key = some object) {status : Json}
    (fresh : isStale object (Attempt.statusPatch metadata status) = false) : object = copy := by
  obtain ⟨reached, _, _, dated⟩ := (served.dated.2 cluster member).dated key copy seen
  obtain ⟨present, _, _, datedNow⟩ := served.dated.1.dated key object found
  have copyVersion : metadataText? copy "resourceVersion" = some (toString reached) := by
    rw [dated, version_kept]
  have objectVersion : metadataText? object "resourceVersion" = some (toString present) := by
    rw [datedNow, version_kept]
  rw [isStale_statusPatch (version.trans copyVersion) objectVersion, bne_eq_false_iff_eq] at fresh
  apply served.eq_of_version member seen found
  rw [copyVersion, objectVersion, fresh]

/-- The version that is read of a stored workspace is that of its object. -/
theorem Cluster.Dated.version_of_workspace {cluster : Cluster} (dated : cluster.Dated) {name : String}
    {object : Json} {workspace : Workspace} (found : cluster.find? ⟨.workspace, space, name⟩ = some object)
    (read : Workspace.ofJson? object = some workspace) :
    workspace.metadata.resourceVersion = metadataText? object "resourceVersion" := by
  obtain ⟨version, given, _, kept⟩ := dated.dated _ object found
  obtain ⟨members, isObject⟩ := kept_eq_object ⟨.workspace, space, name⟩ version given
  rw [kept, isObject] at read ⊢
  exact (Json.resource?_metadata (Workspace.resource?_of_ofJson? read)).1

/-- A report on a run changes nothing, or the run is still the copy that the report was made from, and takes the
status that is reported if that forgets neither exit code nor pod name. -/
theorem Run.of_report (served : history.Served) {cluster : Cluster} (member : cluster ∈ history)
    {name : String} {run : Run} (copied : cluster.run? space name = some run) {status : RunStatus} {next : Cluster}
    (effect : history.present.Effect
      (.patchStatus ⟨.run, space, name⟩ (Attempt.statusPatch run.metadata status.toJson)) next) :
    next = history.present ∨
      history.present.run? space name = some run ∧
        ((status.exitCode = none → run.standing.exitCode = none) →
          (status.podName = none → run.standing.podName = none) →
          ∃ after, next.run? space name = some after ∧ after.status = some status ∧ after.name = run.name ∧
            ∀ label, after.metadata.label? label = run.metadata.label? label) := by
  obtain ⟨copy, copyFound, read⟩ := find?_of_run? copied
  cases effect with
  | nothing => exact Or.inl rfl
  | @report _ _ object present fresh =>
      obtain ⟨version, given, _, dated⟩ := (served.dated.2 cluster member).dated _ copy copyFound
      obtain ⟨members, isObject⟩ := kept_eq_object ⟨.run, space, name⟩ version given
      rw [dated, isObject] at read copyFound
      have guarded := (Json.resource?_metadata (Run.resource?_of_ofJson? read)).1
      have same := object_of_fresh served member copyFound guarded present fresh
      rw [same] at present ⊢
      refine Or.inr ⟨by rw [run?, present]; exact read, ?_⟩
      intro coded housed
      have readAfter :=
        Run.ofJson?_kept_report read coded housed ⟨.run, space, name⟩ (history.present.version + 1) run.metadata
      refine ⟨run.reported space (toString (history.present.version + 1)) status, ?_, rfl, rfl, fun _ => rfl⟩
      rw [run?, find?_write_self]
      exact readAfter

/-- A report on a workspace changes nothing, or the workspace is still the copy that the report was made from, and
takes the status that is reported. -/
theorem Workspace.of_report (served : history.Served) {cluster : Cluster} (member : cluster ∈ history)
    {name : String} {workspace : Workspace} (copied : cluster.workspace? space name = some workspace)
    {status : WorkspaceStatus} {next : Cluster}
    (effect : history.present.Effect
      (.patchStatus ⟨.workspace, space, name⟩ (Attempt.statusPatch workspace.metadata status.toJson)) next) :
    next = history.present ∨
      history.present.workspace? space name = some workspace ∧
        ∃ after, next.workspace? space name = some after ∧ after.status = some status ∧
          after.name = workspace.name := by
  obtain ⟨copy, copyFound, read⟩ := find?_of_workspace? copied
  cases effect with
  | nothing => exact Or.inl rfl
  | @report _ _ object present fresh =>
      obtain ⟨version, given, _, dated⟩ := (served.dated.2 cluster member).dated _ copy copyFound
      obtain ⟨members, isObject⟩ := kept_eq_object ⟨.workspace, space, name⟩ version given
      rw [dated, isObject] at read copyFound
      have guarded := (Json.resource?_metadata (Workspace.resource?_of_ofJson? read)).1
      have same := object_of_fresh served member copyFound guarded present fresh
      rw [same] at present ⊢
      refine Or.inr ⟨by rw [workspace?, present]; exact read, ?_⟩
      have readAfter :=
        Workspace.ofJson?_kept_report read status ⟨.workspace, space, name⟩ (history.present.version + 1)
          workspace.metadata
      refine ⟨workspace.reported space (toString (history.present.version + 1)) status, ?_, rfl, rfl⟩
      rw [workspace?, find?_write_self]
      exact readAfter

/-! ### Other requests -/

/-- A request that is no status patch of a stored run keeps the status of that run. -/
theorem Run.status_of_unreported (served : history.Served) {request : Request} {next : Cluster}
    (effect : history.present.Effect request next) {name : String}
    (unreported : ∀ change, request ≠ .patchStatus ⟨.run, space, name⟩ change) {before after : Run}
    (was : history.present.run? space name = some before) (stored : next.run? space name = some after) :
    after.status = before.status := by
  obtain ⟨object, found, read⟩ := find?_of_run? was
  obtain ⟨version, given, _, kept⟩ := served.dated.1.dated _ object found
  obtain ⟨members, isObject⟩ := kept_eq_object ⟨.run, space, name⟩ version given
  obtain ⟨later, foundLater, readLater⟩ := find?_of_run? stored
  rcases effect.find?_of_unreported unreported found foundLater with same | ⟨change, patched⟩
  · rw [same, read] at readLater
    cases readLater
    rfl
  · rw [patched, kept, isObject] at readLater
    rw [kept, isObject] at read
    exact Run.status_kept_change read readLater

/-- A request that is no status patch of a stored workspace keeps the status of that workspace. -/
theorem Workspace.status_of_unreported (served : history.Served) {request : Request} {next : Cluster}
    (effect : history.present.Effect request next) {name : String}
    (unreported : ∀ change, request ≠ .patchStatus ⟨.workspace, space, name⟩ change) {before after : Workspace}
    (was : history.present.workspace? space name = some before)
    (stored : next.workspace? space name = some after) : after.status = before.status := by
  obtain ⟨object, found, read⟩ := find?_of_workspace? was
  obtain ⟨version, given, _, kept⟩ := served.dated.1.dated _ object found
  obtain ⟨members, isObject⟩ := kept_eq_object ⟨.workspace, space, name⟩ version given
  obtain ⟨later, foundLater, readLater⟩ := find?_of_workspace? stored
  rcases effect.find?_of_unreported unreported found foundLater with same | ⟨change, patched⟩
  · rw [same, read] at readLater
    cases readLater
    rfl
  · rw [patched, kept, isObject] at readLater
    rw [kept, isObject] at read
    exact Workspace.status_kept_change read readLater

end Turnstile
