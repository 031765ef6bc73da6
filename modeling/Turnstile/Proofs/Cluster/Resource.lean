/-
Module: Turnstile.Proofs.Cluster.Resource
Purpose: What is read of a workspace or a run after the server has written it.
Main exports: Json.resource?, Run.ofJson?_eq_resource?, Workspace.ofJson?_eq_resource?,
  Cluster.resource?_kept_report, Cluster.status_kept_change, Cluster.isStale_statusPatch
-/
import Turnstile.Proofs.Cluster.Effect
import Turnstile.Proofs.Metadata
import Turnstile.Proofs.Run.Verdict
import Turnstile.Proofs.Status
import Turnstile.Reconcile.Write

/-!
Workspaces and runs are read in the same way: metadata, what is asked for, and what is known.  So what a write
leaves of them is said once.  A status patch keeps name and labels and what is asked for, and sets what is
known; any other patch keeps what is known.
-/

namespace Turnstile

variable {σ τ : Type} {spec : Json → Option σ} {status : Json → Option τ}

/-- Read the metadata of a resource, what it asks for, and what is known of it. -/
def Json.resource? (spec : Json → Option σ) (status : Json → Option τ) (json : Json) :
    Option (Metadata × σ × Option τ) := do
  let record ← json.record? 3 3
  let metadata ← record.required? 0 "metadata" Metadata.ofJson?
  let given ← record.required? 1 "spec" spec
  let known ← record.optional? 2 "status" status
  some (metadata, given, known)

theorem Run.ofJson?_eq_resource? (json : Json) :
    Run.ofJson? json = (json.resource? RunSpec.ofJson? RunStatus.ofJson?).map fun parts =>
      { metadata := parts.1, spec := parts.2.1, status := parts.2.2 } := by
  simp only [Run.ofJson?, Json.resource?, Option.bind_eq_bind, Option.map_bind, Function.comp_def,
    Option.map_some]

theorem Workspace.ofJson?_eq_resource? (json : Json) :
    Workspace.ofJson? json = (json.resource? WorkspaceSpec.ofJson? WorkspaceStatus.ofJson?).map fun parts =>
      { metadata := parts.1, spec := parts.2.1, status := parts.2.2 } := by
  simp only [Workspace.ofJson?, Json.resource?, Option.bind_eq_bind, Option.map_bind, Function.comp_def,
    Option.map_some]

/-- A resource that is written as an object is read member by member. -/
theorem Json.resource?_object_iff {members : List (String × Json)} {metadata : Metadata} {given : σ}
    {known : Option τ} :
    (Json.object members).resource? spec status = some (metadata, given, known) ↔
      (members.lookup "metadata").bind Metadata.ofJson? = some metadata ∧
        (members.lookup "spec").bind spec = some given ∧
        (Record.named members).optional? 2 "status" status = some known := by
  simp only [Json.resource?, Json.record?, Option.bind_eq_bind, Option.bind_some, Record.required?,
    Record.value?]
  constructor
  · intro read
    obtain ⟨first, firstRead, read⟩ := Option.bind_eq_some_iff.mp read
    obtain ⟨second, secondRead, read⟩ := Option.bind_eq_some_iff.mp read
    obtain ⟨third, thirdRead, read⟩ := Option.bind_eq_some_iff.mp read
    cases read
    exact ⟨firstRead, secondRead, thirdRead⟩
  · rintro ⟨firstRead, secondRead, thirdRead⟩
    rw [firstRead, secondRead, thirdRead]
    rfl

namespace Cluster

/-- A kept object has the members of the object, but for those that the server stamps. -/
theorem get?_kept_of_ne {member : String} (key : Key) (version : Nat) (object : Json)
    (apiVersion : "apiVersion" ≠ member) (kind : "kind" ≠ member) (metadata : "metadata" ≠ member) :
    (kept key version object).get? member = object.get? member := by
  rw [kept, Json.get?_set_of_ne metadata, Json.get?_set_of_ne kind, Json.get?_set_of_ne apiVersion]

theorem get?_kept_metadata (key : Key) (version : Nat) (object : Json) :
    (kept key version object).get? "metadata" =
      some (Metadata.stamped key.namespaceName (toString version) (metadataOf object)) := by
  rw [kept, Json.get?_set_self]
  rfl

/-- What the server writes under a key can be read as a resource if the object could, up to its status. -/
theorem resource?_kept {members : List (String × Json)} {object : Json} {metadata : Metadata} {given : σ}
    {known next : Option τ} (key : Key) (version : Nat)
    (read : (Json.object members).resource? spec status = some (metadata, given, known))
    (sameMetadata : object.get? "metadata" = members.lookup "metadata")
    (sameSpec : object.get? "spec" = members.lookup "spec")
    (statusRead : ∀ after, after.lookup "status" = object.get? "status" →
      (Record.named after).optional? 2 "status" status = some next) :
    (kept key version object).resource? spec status =
      some (metadata.placed key.namespaceName (toString version), given, next) := by
  obtain ⟨metadataRead, specRead, _⟩ := Json.resource?_object_iff.mp read
  obtain ⟨wire, found, decoded⟩ := Option.bind_eq_some_iff.mp metadataRead
  obtain ⟨after, isObject⟩ := kept_eq_object key version object
  have metadataKept := get?_kept_metadata key version object
  have specKept := get?_kept_of_ne key version object (by decide : _ ≠ "spec") (by decide) (by decide)
  have statusKept := get?_kept_of_ne key version object (by decide : _ ≠ "status") (by decide) (by decide)
  have wireSame : metadataOf object = wire := by rw [metadataOf, sameMetadata, found]; rfl
  rw [isObject, Json.get?_object] at metadataKept specKept statusKept
  rw [isObject, Json.resource?_object_iff]
  refine ⟨?_, ?_, statusRead after statusKept⟩
  · rw [metadataKept, wireSame]
    exact Metadata.ofJson?_stamped decoded key.namespaceName (toString version)
  · rw [specKept, sameSpec]
    exact specRead

/-! ### Status patches -/

/-- A status patch merges its status and nothing else. -/
theorem statusPart_of_get? {patch change : Json} (reported : patch.get? "status" = some change) :
    statusPart patch = .object [("status", change)] := by
  simp [statusPart, Json.compact, reported]

theorem get?_statusPatch (metadata : Metadata) (status : Json) :
    (Attempt.statusPatch metadata status).get? "status" = some status := by
  simp [Attempt.statusPatch, Json.get?_object, List.lookup_cons]

/-- A status patch is stale if it is made for another version than that of the object. -/
theorem isStale_statusPatch {metadata : Metadata} {object : Json} {expected present : String}
    (guarded : metadata.resourceVersion = some expected)
    (found : metadataText? object "resourceVersion" = some present) (status : Json) :
    isStale object (Attempt.statusPatch metadata status) = (present != expected) := by
  have version : metadataText? (Attempt.statusPatch metadata status) "resourceVersion" = some expected := by
    simp [metadataText?, Attempt.statusPatch, Attempt.versionGuard, guarded, Json.at?, Json.get?_object,
      Json.text?]
  simp only [isStale, version, found]
  simp [bne]

/-- A status patch sets what is known of a resource and keeps the rest. -/
theorem resource?_kept_report {members : List (String × Json)} {patch change : Json} {metadata : Metadata}
    {given : σ} {known : Option τ} {next : τ} (key : Key) (version : Nat)
    (read : (Json.object members).resource? spec status = some (metadata, given, known))
    (reported : patch.get? "status" = some change) (present : change ≠ .null)
    (kept : (((Json.object members).get? "status").getD .null).mergePatch change ≠ .null)
    (decoded : status ((((Json.object members).get? "status").getD .null).mergePatch change) = some next) :
    (Cluster.kept key version ((Json.object members).mergePatch (statusPart patch))).resource? spec status =
      some (metadata.placed key.namespaceName (toString version), given, some next) := by
  rw [statusPart_of_get? reported]
  refine resource?_kept key version read ?_ ?_ ?_
  · exact Json.get?_mergePatch_of_notMem _ _ (by simp)
  · exact Json.get?_mergePatch_of_notMem _ _ (by simp)
  · intro after found
    rw [Json.get?_mergePatch_of_mem _ (by simp) List.mem_cons_self present, ← Json.get?_object] at found
    exact Json.optional?_of_some found kept decoded 2

/-- A patch that is no status patch keeps what is known of a resource. -/
theorem status_kept_change {members : List (String × Json)} {change : Json} {metadata after : Metadata}
    {given asked : σ} {known next : Option τ} {key : Key} {version : Nat}
    (read : (Json.object members).resource? spec status = some (metadata, given, known))
    (readAfter : (kept key version ((Json.object members).mergePatch (change.without "status"))).resource?
      spec status = some (after, asked, next)) : next = known := by
  obtain ⟨_, _, statusRead⟩ := Json.resource?_object_iff.mp read
  obtain ⟨written, isObject⟩ :=
    kept_eq_object key version ((Json.object members).mergePatch (change.without "status"))
  have specKept := get?_kept_of_ne key version ((Json.object members).mergePatch (change.without "status"))
    (by decide) (by decide : _ ≠ "spec") (by decide)
  have statusKept := get?_kept_of_ne key version ((Json.object members).mergePatch (change.without "status"))
    (by decide) (by decide : _ ≠ "status") (by decide)
  rw [isObject] at readAfter specKept statusKept
  obtain ⟨_, specAfter, statusAfter⟩ := Json.resource?_object_iff.mp readAfter
  cases change with
  | object changes =>
      rw [Json.without, Json.get?_mergePatch_of_notMem _ _ (Members.notMem_map_fst_erase _ changes),
        Json.get?_object, Json.get?_object] at statusKept
      simp only [Record.optional?, Record.withDefault?, Record.value?, statusKept] at statusRead statusAfter
      exact Option.some.inj (statusAfter.symm.trans statusRead)
  | _ =>
      -- A patch that is no object leaves nothing that could be read.
      simp only [Json.without, Json.mergePatch] at specKept
      have missing : written.lookup "spec" = none := specKept
      rw [missing] at specAfter
      cases specAfter

end Cluster

/-- Version and labels of a resource are those of its object. -/
theorem Json.resource?_metadata {members : List (String × Json)} {metadata : Metadata} {given : σ}
    {known : Option τ} (read : (Json.object members).resource? spec status = some (metadata, given, known)) :
    metadata.resourceVersion = Cluster.metadataText? (.object members) "resourceVersion" ∧
      ∀ label, metadata.label? label =
        ((Json.object members).at? ["metadata", "labels", label]).bind Json.text? := by
  obtain ⟨metadataRead, _, _⟩ := Json.resource?_object_iff.mp read
  obtain ⟨wire, found, decoded⟩ := Option.bind_eq_some_iff.mp metadataRead
  constructor
  · rw [Metadata.resourceVersion_ofJson? decoded, Cluster.metadataText?]
    simp only [Json.at?, Json.get?_object, found, Option.bind_some]
    cases wire.get? "resourceVersion" <;> rfl
  · intro label
    rw [Metadata.label?_ofJson? decoded]
    simp only [Json.at?, Json.get?_object, found, Option.bind_some]

/-! ### Runs -/

namespace Run

theorem resource?_of_ofJson? {json : Json} {run : Run} (read : ofJson? json = some run) :
    json.resource? RunSpec.ofJson? RunStatus.ofJson? = some (run.metadata, run.spec, run.status) := by
  rw [ofJson?_eq_resource?] at read
  obtain ⟨parts, found, rfl⟩ := Option.map_eq_some_iff.mp read
  exact found

theorem ofJson?_of_resource? {json : Json} {metadata : Metadata} {spec : RunSpec} {status : Option RunStatus}
    (read : json.resource? RunSpec.ofJson? RunStatus.ofJson? = some (metadata, spec, status)) :
    ofJson? json = some { metadata, spec, status } := by
  rw [ofJson?_eq_resource?, read]
  rfl

/-- The run once the server has stored a status of it. -/
def reported (run : Run) (namespaceName version : String) (status : RunStatus) : Run :=
  { run with metadata := run.metadata.placed namespaceName version, status := some status }

/-- What a run of an object stands at lacks on the wire what it leaves unset. -/
theorem lacks_of_ofJson? {members : List (String × Json)} {run : Run}
    (read : ofJson? (.object members) = some run) :
    (run.standing.exitCode = none → (((Json.object members).get? "status").getD .null).Lacks "exitCode") ∧
      (run.standing.podName = none → (((Json.object members).get? "status").getD .null).Lacks "podName") := by
  obtain ⟨_, _, statusRead⟩ := Json.resource?_object_iff.mp (resource?_of_ofJson? read)
  rcases known : run.status with _ | present
  · rw [known] at statusRead
    have base : ((Json.object members).get? "status").getD .null = .null := by
      rcases Json.lacks_of_optional? statusRead with missing | null
      · rw [missing]
        rfl
      · rw [null]
        rfl
    rw [base]
    exact ⟨fun _ => Or.inl rfl, fun _ => Or.inl rfl⟩
  · rw [known] at statusRead
    obtain ⟨wire, found, decoded⟩ := Json.some_of_optional? statusRead
    have lacks := RunStatus.lacks_of_ofJson? decoded
    simpa only [standing, known, Option.getD_some, found] using lacks

/-- A status patch that forgets neither exit code nor pod name sets the status of a run and no more. -/
theorem ofJson?_kept_report {members : List (String × Json)} {run : Run}
    (read : ofJson? (.object members) = some run) {status : RunStatus}
    (coded : status.exitCode = none → run.standing.exitCode = none)
    (housed : status.podName = none → run.standing.podName = none) (key : Key) (version : Nat)
    (metadata : Metadata) :
    ofJson? (Cluster.kept key version ((Json.object members).mergePatch
        (Cluster.statusPart (Attempt.statusPatch metadata status.toJson)))) =
      some (run.reported key.namespaceName (toString version) status) := by
  obtain ⟨bareCode, bareName⟩ := lacks_of_ofJson? read
  obtain ⟨merged, object⟩ :=
    RunStatus.mergePatch_toJson (((Json.object members).get? "status").getD .null) status
  exact ofJson?_of_resource? (Cluster.resource?_kept_report key version (resource?_of_ofJson? read)
    (Cluster.get?_statusPatch metadata status.toJson) (RunStatus.toJson_ne_null status)
    (by rw [object]; exact Json.object_ne_null _)
    (RunStatus.ofJson?_mergePatch (fun unset => bareCode (coded unset)) fun unset => bareName (housed unset)))

/-- A patch that is no status patch keeps the status of a run. -/
theorem status_kept_change {members : List (String × Json)} {change : Json} {run after : Run} {key : Key}
    {version : Nat} (read : ofJson? (.object members) = some run)
    (readAfter : ofJson? (Cluster.kept key version
      ((Json.object members).mergePatch (change.without "status"))) = some after) :
    after.status = run.status :=
  Cluster.status_kept_change (resource?_of_ofJson? read) (resource?_of_ofJson? readAfter)

end Run

/-! ### Workspaces -/

namespace Workspace

theorem resource?_of_ofJson? {json : Json} {workspace : Workspace} (read : ofJson? json = some workspace) :
    json.resource? WorkspaceSpec.ofJson? WorkspaceStatus.ofJson? =
      some (workspace.metadata, workspace.spec, workspace.status) := by
  rw [ofJson?_eq_resource?] at read
  obtain ⟨parts, found, rfl⟩ := Option.map_eq_some_iff.mp read
  exact found

theorem ofJson?_of_resource? {json : Json} {metadata : Metadata} {spec : WorkspaceSpec}
    {status : Option WorkspaceStatus}
    (read : json.resource? WorkspaceSpec.ofJson? WorkspaceStatus.ofJson? = some (metadata, spec, status)) :
    ofJson? json = some { metadata, spec, status } := by
  rw [ofJson?_eq_resource?, read]
  rfl

/-- The workspace once the server has stored a status of it. -/
def reported (workspace : Workspace) (namespaceName version : String) (status : WorkspaceStatus) : Workspace :=
  { workspace with metadata := workspace.metadata.placed namespaceName version, status := some status }

/-- A status patch sets the status of a workspace and no more. -/
theorem ofJson?_kept_report {members : List (String × Json)} {workspace : Workspace}
    (read : ofJson? (.object members) = some workspace) (status : WorkspaceStatus) (key : Key) (version : Nat)
    (metadata : Metadata) :
    ofJson? (Cluster.kept key version ((Json.object members).mergePatch
        (Cluster.statusPart (Attempt.statusPatch metadata status.toJson)))) =
      some (workspace.reported key.namespaceName (toString version) status) :=
  ofJson?_of_resource? (Cluster.resource?_kept_report key version (resource?_of_ofJson? read)
    (Cluster.get?_statusPatch metadata status.toJson) (Json.object_ne_null _)
    (by rw [WorkspaceStatus.toJson, Json.mergePatch]; exact Json.object_ne_null _)
    (WorkspaceStatus.ofJson?_mergePatch _ status))

/-- A patch that is no status patch keeps the status of a workspace. -/
theorem status_kept_change {members : List (String × Json)} {change : Json} {workspace after : Workspace}
    {key : Key} {version : Nat} (read : ofJson? (.object members) = some workspace)
    (readAfter : ofJson? (Cluster.kept key version
      ((Json.object members).mergePatch (change.without "status"))) = some after) :
    after.status = workspace.status :=
  Cluster.status_kept_change (resource?_of_ofJson? read) (resource?_of_ofJson? readAfter)

end Workspace

end Turnstile
