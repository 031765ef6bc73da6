/-
Module: Turnstile.Proofs.Clearance.Hearing
Purpose: What a reconciliation of a run has heard by the time it asks for a pod.
Main exports: Run.Admitted, Run.Permits, Run.heeds_reconcile
-/
import Turnstile.Proofs.Cluster.Heard
import Turnstile.Proofs.Run.Clearance
import Turnstile.Proofs.Run.Outline

/-!
A reconciliation has looked up one workspace and one pod by the time it asks for a pod, and it asks for the pod of
its run only.  So whatever the cluster has become in the meantime, the run was cleared by the workspace that the
reconciliation has read.
-/

namespace Turnstile.Run

/-- The lookups of workspaces among what was heard. -/
def readings (heard : List Exchange) : List Exchange :=
  heard.filter fun exchange => exchange.request.kind == .workspace

/-- The run was cleared by the workspace that was read for its label, and no other was looked up. -/
structure Admitted (run : Run) (space : String) (heard : List Exchange) (label : String) (json : Json)
    (workspace : Workspace) : Prop where
  labelled : run.workspaceName? = some label
  only : readings heard = [⟨.get ⟨.workspace, space, label⟩, .ok json⟩]
  read : Workspace.ofJson? json = some workspace
  cleared : run.Cleared workspace

/-- The pod of the run was looked up and does not exist. -/
def Unhoused (run : Run) (space : String) (heard : List Exchange) : Prop :=
  ∃ error : ApiError, error.saysNotFound = true ∧ ⟨.get ⟨.pod, space, run.name⟩, .error error⟩ ∈ heard

/-- Of pods only that of the run is created, and that only after it was not found and the run was cleared. -/
def Permits (run : Run) (space : String) (heard : List Exchange) (request : Request) : Prop :=
  request.verb = .create → request.kind = .pod →
    request.key? = some ⟨.pod, space, run.name⟩ ∧ run.Unhoused space heard ∧
      ∃ label json workspace, run.Admitted space heard label json workspace

variable {now space : String} {run : Run} {settings : Settings} {heard : List Exchange} {lookup : Lookup}
  {pod : Option Pod} {request : Request}

theorem permits_of_kind (apart : request.kind ≠ .pod) : run.Permits space heard request :=
  fun _ about => absurd about apart

theorem permits_get (key : Key) : run.Permits space heard (.get key) := by
  intro impossible
  cases impossible

/-- A lookup that found a workspace was the only one. -/
def Looked (run : Run) (space : String) (heard : List Exchange) (lookup : Lookup) : Prop :=
  ∀ workspace, lookup = .found workspace → ∃ label json, run.workspaceName? = some label ∧
    readings heard = [⟨.get ⟨.workspace, space, label⟩, .ok json⟩] ∧ Workspace.ofJson? json = some workspace

/-- A lookup of something else changes nothing about what was read. -/
theorem readings_cons_of_kind (apart : request.kind ≠ .workspace) (reply : Except ApiError Json)
    (heard : List Exchange) : readings (⟨request, reply⟩ :: heard) = readings heard :=
  List.filter_cons_of_neg (by simpa using apart)

/-- Adopting the payload reads no workspace. -/
theorem heeds_adoptPayload (run : Run) (space : String) :
    Attempt.Heeds (run.Permits space) (fun _ later => readings later = []) (run.adoptPayload space) [] := by
  refine (run.asks_adoptPayload space).heeds (fun later => readings later = []) ?_ rfl
  intro later request unread about
  have apart : request.kind ≠ .pod ∧ request.kind ≠ .workspace := by
    rw [about]
    decide
  exact ⟨permits_of_kind apart.1, fun reply => (readings_cons_of_kind apart.2 reply later).trans unread⟩

/-- The workspace is looked up once. -/
theorem heeds_lookup (unread : readings heard = []) :
    Attempt.Heeds (run.Permits space) (fun lookup later => run.Looked space later lookup) (run.lookup space)
      heard := by
  unfold lookup
  split
  · exact Attempt.heeds_pure fun _ impossible => by cases impossible
  · rename_i label labelled
    refine Attempt.Heeds.bind
      (fun (found : Option Workspace) later => run.Looked space later (found.elim (.notFound label) .found)) ?_ ?_
    · refine Attempt.heeds_find? (permits_get _) ?_ ?_
      · rintro json workspace read _ same
        cases same
        have alone : readings (⟨.get ⟨.workspace, space, label⟩, .ok json⟩ :: heard) =
            [⟨.get ⟨.workspace, space, label⟩, .ok json⟩] := by
          rw [readings, List.filter_cons_of_pos (by rfl)]
          exact congrArg _ unread
        exact ⟨label, json, labelled, alone, read⟩
      · rintro error _ _ impossible
        cases impossible
    · intro found later met
      cases found with
      | none => exact Attempt.heeds_pure met
      | some workspace => exact Attempt.heeds_pure met

/-- The pod is looked up, and found missing if the lookup says so. -/
theorem heeds_pod (looked : run.Looked space heard lookup) :
    Attempt.Heeds (run.Permits space)
      (fun pod later => run.Looked space later lookup ∧ (pod = none → run.Unhoused space later))
      (Attempt.find? Pod.ofJson? ⟨.pod, space, run.name⟩) heard := by
  have still (reply : Except ApiError Json) :
      run.Looked space (⟨.get ⟨.pod, space, run.name⟩, reply⟩ :: heard) lookup := by
    intro workspace found
    rw [readings_cons_of_kind (by simp [Request.kind])]
    exact looked workspace found
  refine Attempt.heeds_find? (permits_get _) ?_ ?_
  · exact fun json pod _ => ⟨still _, fun impossible => by cases impossible⟩
  · exact fun error missing => ⟨still _, fun _ => ⟨error, missing, List.mem_cons_self⟩⟩

/-- The pod that is planned is asked for by its name, and was not found; its run is cleared. -/
theorem heeds_createPod (looked : run.Looked space heard lookup) (unhoused : pod = none → run.Unhoused space heard)
    (planned : (run.plan now lookup pod).createPod = true) :
    Attempt.Heeds (run.Permits space) (fun _ _ => True) (run.createPod settings space lookup) heard := by
  obtain ⟨absent, workspace, rfl, cleared⟩ := (createPod_iff_cleared now run lookup pod).mp planned
  obtain ⟨label, json, labelled, only, read⟩ := looked workspace rfl
  simp only [createPod]
  split
  · exact Attempt.heeds_fail _
  · rename_i desired built
    refine Attempt.Heeds.bind (fun _ _ => True) ?_ fun _ _ _ => Attempt.heeds_pure trivial
    refine Attempt.heeds_createOrGet ?_ fun _ => permits_get _
    intro _ _
    exact ⟨congrArg some (createdKey_manifest built space), unhoused absent, label, json, workspace, labelled, only,
      read, cleared⟩

/-- A report creates nothing. -/
theorem heeds_report (run : Run) (space : String) (status : Option RunStatus) (heard : List Exchange) :
    Attempt.Heeds (run.Permits space) (fun _ _ => True) (run.report space status) heard :=
  (run.asks_report space status).heeds (fun _ => True)
    (fun _ about => ⟨permits_of_kind (by rw [about]; decide), fun _ => trivial⟩) trivial

/-- A reconciliation creates no pod but that of its run, and that only if the workspace that it has read clears the
run. -/
theorem heeds_reconcile (now : String) (settings : Settings) (space : String) (run : Run) :
    Attempt.Heeds (run.Permits space) (fun _ _ => True) (run.reconcile now settings space) [] := by
  rw [reconcile_eq]
  split
  · exact Attempt.heeds_pure trivial
  · apply Attempt.Heeds.bind _ (run.heeds_adoptPayload space)
    intro _ adopted unread
    apply Attempt.Heeds.bind _ (heeds_lookup unread)
    intro lookup heard looked
    apply Attempt.Heeds.bind _ (heeds_pod looked)
    rintro pod later ⟨looked, unhoused⟩
    unfold carryOut
    split
    · rename_i planned
      exact Attempt.Heeds.bind _ (heeds_createPod looked unhoused planned) fun _ final _ =>
        run.heeds_report space _ final
    · exact run.heeds_report space _ later

end Turnstile.Run
