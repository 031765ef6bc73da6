/-
Module: Turnstile.Proofs.Persistence
Purpose: A planned status is what the patch that writes it leaves, and it leaves everything else alone.
Main exports: Json.Reported, Metadata.ofJson?_guarded, Run.ofJson?_statusPatch,
  Workspace.ofJson?_statusPatch, planned_is_persisted
-/
import Turnstile.Proofs.Cluster.Resource
import Turnstile.Proofs.Run.Coherence
import Turnstile.Workspace.Progress

/-!
A status is written as a merge patch that also names the version it is made for.  Such a patch cannot remove what
a status leaves unset, so it says what was planned only because no plan forgets an exit code or a pod name, and
because lists are replaced whole.  The version that it names is the one that is there, so metadata are read as
before.
-/

namespace Turnstile

/-- The second object is the first one with another status: beside the status only the version may have been
written, and it says the same. -/
structure Json.Reported (before after : Json) : Prop where
  members : ∀ key, key ≠ "metadata" → key ≠ "status" → after.get? key = before.get? key
  metadata : ∀ key, key ≠ "resourceVersion" → after.at? ["metadata", key] = before.at? ["metadata", key]
  version : Cluster.metadataText? after "resourceVersion" = Cluster.metadataText? before "resourceVersion"

namespace Metadata

/-- The patch that names the version of an object. -/
def guardPatch (metadata : Metadata) : Json :=
  .object [("resourceVersion", Attempt.versionGuard metadata)]

/-- The version is a text, or it is missing or null. -/
theorem version_cases {json : Json} {metadata : Metadata} (read : ofJson? json = some metadata) :
    (∃ version, metadata.resourceVersion = some version ∧
        json.get? "resourceVersion" = some (.string version)) ∨
      metadata.resourceVersion = none ∧ json.Lacks "resourceVersion" := by
  obtain ⟨shaped, fits, _⟩ := ofJson?_eq_some read
  have named : ("resourceVersion", Presence.optional, Shape.text) ∈ shape.fields := by simp [shape, Shape.fields]
  have version := resourceVersion_ofJson? read
  rcases Shape.get?_of_fit? "resourceVersion" nodup_keys fits named with ⟨lacks, _⟩ | ⟨value, kept, found, fit, _⟩
  · refine Or.inr ⟨?_, lacks⟩
    rcases lacks with missing | null
    · rw [version, missing]
      rfl
    · rw [version, null]
      rfl
  · obtain ⟨text, rfl, _⟩ := Shape.fit?_text_iff.mp fit
    exact Or.inl ⟨text, by rw [version, found]; rfl, found⟩

/-- A field of metadata makes the same of them once their own version was named. -/
theorem fitField?_guarded {members : List (String × Json)} {metadata : Metadata}
    (read : ofJson? (.object members) = some metadata) {field : String × Presence × Shape}
    (member : field ∈ shape.fields) :
    Shape.fitField? field
        (Json.mergeMember members ("resourceVersion", Attempt.versionGuard metadata)) =
      Shape.fitField? field members := by
  by_cases version : field.1 = "resourceVersion"
  · have unique : field = ("resourceVersion", .optional, .text) :=
      List.inj_on_of_nodup_map nodup_keys member (by simp [shape, Shape.fields]) version
    rcases version_cases read with ⟨text, dated, found⟩ | ⟨undated, lacks⟩
    · have guard : Attempt.versionGuard metadata = .string text := by simp [Attempt.versionGuard, dated]
      refine Shape.fitField?_congr ?_
      rw [version, guard, Json.lookup_mergeMember_self _ (Json.string_ne_null text),
        (Json.isWhole_string text).2, ← Json.get?_object members, found]
    · -- Null removes the version, and neither a missing version nor a null one is read.
      have guard : Attempt.versionGuard metadata = .null := by simp [Attempt.versionGuard, undated]
      have removed : (Json.mergeMember members ("resourceVersion", .null)).lookup "resourceVersion" = none := by
        rw [Json.mergeMember]
        exact Members.lookup_erase_self "resourceVersion" members
      rw [guard, unique]
      unfold Shape.fitField?
      rw [removed]
      rcases lacks with missing | null
      · rw [Json.get?_object] at missing
        rw [missing]
      · rw [Json.get?_object] at null
        rw [null]
  · exact Shape.fitField?_congr (Json.lookup_mergeMember_of_ne members _ fun equal => version equal.symm)

/-- Metadata are read as before once their own version was named. -/
theorem ofJson?_guarded {json : Json} {metadata : Metadata} (read : ofJson? json = some metadata) :
    ofJson? (json.mergePatch metadata.guardPatch) = some metadata := by
  obtain ⟨shaped, fits, _⟩ := ofJson?_eq_some read
  obtain ⟨members, kept, rfl, _, _⟩ := Shape.members_of_fit? fits
  have same := Shape.fitFields?_congr fun _ member => fitField?_guarded read member
  rw [← read, guardPatch, Json.mergePatch, Json.mergeMembers, Json.mergeMembers]
  unfold ofJson?
  rw [shape_eq, Shape.fit?_record, Shape.fit?_record]
  simp only [Json.members?, Option.getD_some, same]

end Metadata

namespace Json

variable {members : List (String × Json)} {metadata : Metadata}

theorem nodup_statusPatch (metadata : Metadata) (status : Json) :
    ([("metadata", metadata.guardPatch), ("status", status)].map Prod.fst).Nodup := by
  simp

theorem statusPatch_eq (metadata : Metadata) (status : Json) :
    Attempt.statusPatch metadata status =
      .object [("metadata", metadata.guardPatch), ("status", status)] := rfl

/-- A status patch of an object that is read with these metadata writes nothing but the status. -/
theorem reported_statusPatch {wire : Json} (found : (Json.object members).get? "metadata" = some wire)
    (read : Metadata.ofJson? wire = some metadata) (status : Json) :
    Reported (.object members) ((Json.object members).mergePatch (Attempt.statusPatch metadata status)) := by
  rw [statusPatch_eq]
  have patched : ((Json.object members).mergePatch
      (.object [("metadata", metadata.guardPatch), ("status", status)])).get? "metadata" =
        some (wire.mergePatch metadata.guardPatch) := by
    rw [get?_mergePatch_of_mem _ (nodup_statusPatch metadata status) List.mem_cons_self (object_ne_null _), found]
    rfl
  refine ⟨?_, ?_, ?_⟩
  · intro key notMetadata notStatus
    exact get?_mergePatch_of_notMem _ _ (by simp [notMetadata, notStatus])
  · intro key notVersion
    simp only [at?, patched, found, Option.bind_some]
    rw [Metadata.guardPatch, get?_mergePatch_of_notMem _ _ (by simpa using notVersion)]
  · have before := Metadata.resourceVersion_ofJson? read
    have after := Metadata.resourceVersion_ofJson? (Metadata.ofJson?_guarded read)
    rw [before] at after
    simpa [Cluster.metadataText?, at?, patched, found] using after.symm

end Json

variable {σ τ : Type} {spec : Json → Option σ} {status : Json → Option τ}

/-- What a status patch leaves of a resource: the metadata and what is asked for, and the status that the present
one becomes. -/
theorem Json.resource?_statusPatch {members : List (String × Json)} {metadata : Metadata} {given : σ}
    {known : Option τ} {next : τ}
    (read : (Json.object members).resource? spec status = some (metadata, given, known)) (change : Json)
    (present : change ≠ .null)
    (kept : (((Json.object members).get? "status").getD .null).mergePatch change ≠ .null)
    (decoded : status ((((Json.object members).get? "status").getD .null).mergePatch change) = some next) :
    ((Json.object members).mergePatch (Attempt.statusPatch metadata change)).resource? spec status =
        some (metadata, given, some next) ∧
      Reported (.object members) ((Json.object members).mergePatch (Attempt.statusPatch metadata change)) := by
  obtain ⟨metadataRead, specRead, _⟩ := Json.resource?_object_iff.mp read
  obtain ⟨wire, found, wireRead⟩ := Option.bind_eq_some_iff.mp metadataRead
  have reported := reported_statusPatch found wireRead change
  refine ⟨?_, reported⟩
  have distinct := nodup_statusPatch metadata change
  have metadataAfter := get?_mergePatch_of_mem (.object members) distinct List.mem_cons_self (object_ne_null _)
  have statusAfter := get?_mergePatch_of_mem (.object members) distinct
    (List.mem_cons_of_mem _ List.mem_cons_self) present
  have specAfter := reported.members "spec" (by decide) (by decide)
  rw [statusPatch_eq] at specAfter ⊢
  rw [get?_object members "metadata", found] at metadataAfter
  rw [Json.mergePatch] at metadataAfter statusAfter specAfter ⊢
  rw [Json.resource?_object_iff]
  refine ⟨?_, ?_, ?_⟩
  · rw [← get?_object, metadataAfter]
    exact Metadata.ofJson?_guarded wireRead
  · rw [← get?_object, specAfter]
    exact specRead
  · exact Json.optional?_of_some statusAfter kept decoded 2

/-! ### Runs -/

namespace Run

/-- No verdict forgets an exit code or a pod name. -/
theorem Verdict.remembers {now : String} {run : Run} {lookup : Lookup} {pod : Option Pod} {moved : RunStatus}
    {createPod : Bool} (verdict : Verdict now run lookup pod moved createPod) :
    (moved.exitCode = none → run.standing.exitCode = none) ∧
      (moved.podName = none → run.standing.podName = none) := by
  cases verdict with
  | fails => exact ⟨id, id⟩
  | ends => exact ⟨fun coded => (Option.some_ne_none _ coded).elim, id⟩
  | waits => exact ⟨id, id⟩
  | leads => exact ⟨id, fun housed => (Option.some_ne_none _ housed).elim⟩

/-- No planned status forgets an exit code or a pod name, whatever the present one says. -/
theorem remembers_of_plan {now : String} {run : Run} {lookup : Lookup} {pod : Option Pod} {status : RunStatus}
    (planned : (run.plan now lookup pod).status = some status) :
    (status.exitCode = none → run.standing.exitCode = none) ∧
      (status.podName = none → run.standing.podName = none) := by
  have unfinished := not_isCompleted_of_plan (Or.inl (by rw [planned]; exact Option.some_ne_none status))
  obtain ⟨moved, verdict, written⟩ := plan_of_open unfinished now lookup pod
  rw [planned] at written
  split at written
  · cases written
  · rw [Option.some.inj written, exitCode_greeted, podName_greeted]
    exact verdict.remembers

/-- A status that forgets neither exit code nor pod name is what its patch leaves of a stored run. -/
theorem ofJson?_statusPatch {members : List (String × Json)} {run : Run} {status : RunStatus}
    (read : ofJson? (.object members) = some run)
    (remembers : (status.exitCode = none → run.standing.exitCode = none) ∧
      (status.podName = none → run.standing.podName = none)) :
    ofJson? ((Json.object members).mergePatch (Attempt.statusPatch run.metadata status.toJson)) =
        some { run with status := some status } ∧
      Json.Reported (.object members)
        ((Json.object members).mergePatch (Attempt.statusPatch run.metadata status.toJson)) := by
  obtain ⟨bareCode, bareName⟩ := lacks_of_ofJson? read
  obtain ⟨merged, object⟩ :=
    RunStatus.mergePatch_toJson (((Json.object members).get? "status").getD .null) status
  have decoded := RunStatus.ofJson?_mergePatch (fun unset => bareCode (remembers.1 unset))
    fun unset => bareName (remembers.2 unset)
  obtain ⟨after, reported⟩ := Json.resource?_statusPatch (resource?_of_ofJson? read) status.toJson
    (RunStatus.toJson_ne_null status) (by rw [object]; exact Json.object_ne_null _) decoded
  exact ⟨ofJson?_of_resource? after, reported⟩

end Run

/-! ### Workspaces -/

/-- Whatever its status, a workspace that is patched is stored with the status of the patch. -/
theorem Workspace.ofJson?_statusPatch {members : List (String × Json)} {workspace : Workspace}
    (read : ofJson? (.object members) = some workspace) (status : WorkspaceStatus) :
    ofJson? ((Json.object members).mergePatch (Attempt.statusPatch workspace.metadata status.toJson)) =
        some { workspace with status := some status } ∧
      Json.Reported (.object members)
        ((Json.object members).mergePatch (Attempt.statusPatch workspace.metadata status.toJson)) := by
  obtain ⟨after, reported⟩ := Json.resource?_statusPatch (resource?_of_ofJson? read) status.toJson
    (Json.object_ne_null _) (by rw [WorkspaceStatus.toJson, Json.mergePatch]; exact Json.object_ne_null _)
    (WorkspaceStatus.ofJson?_mergePatch _ status)
  exact ⟨ofJson?_of_resource? after, reported⟩

/-- What is planned for a run or a workspace is what is read of it once the patch is merged into the stored object;
what it asks for and its metadata are read as before, and the patch writes no member beside the status. -/
theorem planned_is_persisted :
    (∀ {members : List (String × Json)} {run : Run} {now : String} {lookup : Lookup} {pod : Option Pod}
        {status : RunStatus}, Run.ofJson? (.object members) = some run →
      (run.plan now lookup pod).status = some status →
      Run.ofJson? ((Json.object members).mergePatch (Attempt.statusPatch run.metadata status.toJson)) =
          some { run with status := some status } ∧
        Json.Reported (.object members)
          ((Json.object members).mergePatch (Attempt.statusPatch run.metadata status.toJson))) ∧
    ∀ {members : List (String × Json)} {workspace : Workspace} {now : String} {observation : Observation}
        {status : WorkspaceStatus}, Workspace.ofJson? (.object members) = some workspace →
      workspace.nextStatus? now observation = some status →
      Workspace.ofJson? ((Json.object members).mergePatch (Attempt.statusPatch workspace.metadata status.toJson)) =
          some { workspace with status := some status } ∧
        Json.Reported (.object members)
          ((Json.object members).mergePatch (Attempt.statusPatch workspace.metadata status.toJson)) := by
  constructor
  · intro members run now lookup pod status read planned
    exact Run.ofJson?_statusPatch read (Run.remembers_of_plan planned)
  · intro members workspace now observation status read _
    exact Workspace.ofJson?_statusPatch read status

/-- A stored run whose pod is recorded; its exit code is null and some of its members are unknown. -/
def recordedMembers : List (String × Json) :=
  [("kind", .string "Run"),
   ("metadata", .object
     [("name", .string "run-a"), ("resourceVersion", .string "7"), ("generation", .integer 2),
      ("labels", .object [(Run.workspaceLabel, .string "dev")])]),
   ("spec", .object [("command", .string "plan"), ("configMap", .string "run-a"), ("priority", .integer 1)]),
   ("status", .object [("exitCode", .null), ("podName", .string "run-a"), ("phase", .string "old")])]

/-- The run that is read of it. -/
def recordedRun : Run where
  metadata :=
    { name := some "run-a", resourceVersion := some "7", labels := some [(Run.workspaceLabel, "dev")],
      others := [("generation", .integer 2)] }
  spec := ⟨.plan, [], "run-a", Run.defaultConfigMapKey, false, 10⟩
  status := some { podName := some "run-a" }

/-- A stored workspace without a status and with a version that is null. -/
def bareMembers : List (String × Json) :=
  [("metadata", .object [("name", .string "dev"), ("resourceVersion", .null)]), ("spec", .object [])]

/-- The workspace that is read of it. -/
def bareWorkspace : Workspace where
  metadata := { name := some "dev" }
  spec := {}
  status := none

theorem planned_is_persisted_recorded :
    (Run.ofJson? (.object recordedMembers) = some recordedRun ∧
      Run.ofJson? ((Json.object recordedMembers).mergePatch (Attempt.statusPatch recordedRun.metadata
          (Run.complete "T1" .podDeleted "Pod run-a was deleted before the runner exited"
            { podName := some "run-a" }).toJson)) =
        some { recordedRun with
          status := some (Run.complete "T1" .podDeleted "Pod run-a was deleted before the runner exited"
            { podName := some "run-a" }) }) ∧
    Workspace.ofJson? (.object bareMembers) = some bareWorkspace ∧
      Workspace.ofJson? ((Json.object bareMembers).mergePatch (Attempt.statusPatch bareWorkspace.metadata
          (Workspace.advanced "T1" {} { pending := ["run-a"] }).toJson)) =
        some { bareWorkspace with status := some (Workspace.advanced "T1" {} { pending := ["run-a"] }) } := by
  have runRead : Run.ofJson? (.object recordedMembers) = some recordedRun := rfl
  have planned : (recordedRun.plan "T1" (.found bareWorkspace) none).status =
      some (Run.complete "T1" .podDeleted "Pod run-a was deleted before the runner exited"
        { podName := some "run-a" }) := rfl
  have workspaceRead : Workspace.ofJson? (.object bareMembers) = some bareWorkspace := rfl
  have advanced : bareWorkspace.nextStatus? "T1" { pending := ["run-a"] } =
      some (Workspace.advanced "T1" {} { pending := ["run-a"] }) := rfl
  exact ⟨⟨runRead, (planned_is_persisted.1 runRead planned).1⟩, workspaceRead,
    (planned_is_persisted.2 workspaceRead advanced).1⟩

end Turnstile
