/-
Module: Turnstile.Proofs.Run.Ownership
Purpose: A payload whose owners were set can be read, and it has the owners that were set.
Main exports: Run.payloadMetadata?_kept, Run.ofJson?_changeOwners, Cluster.payload?, Run.payloadMetadata?_kept_owners
-/
import Turnstile.Proofs.Run.Adoption

/-!
A payload is read in the shape of its kind.  A patch of its owners touches version and owners only, and the server
stamps namespace, version and kind anew; so what could be read before can be read afterwards, under its old name.
-/

namespace Turnstile

/-- The metadata of the payload under a key, if it can be read. -/
def Cluster.payload? (cluster : Cluster) (key : Key) : Option Metadata :=
  (cluster.find? key).bind Run.payloadMetadata?

/-- The owners that metadata list. -/
def Metadata.owners (metadata : Metadata) : List OwnerReference :=
  metadata.ownerReferences.getD []

namespace Run

/-- The members of a payload beside its metadata. -/
theorem fields_configMap : Kind.configMap.clusterShape.fields =
    ("apiVersion", .fixed Kind.configMap.apiVersion, .text) :: ("kind", .fixed Kind.configMap.word, .text) ::
      ("metadata", .required, Metadata.shape) :: Kind.configMap.ownFields := rfl

/-- What the server keeps of a payload can be read if its metadata can and the rest is as it was. -/
theorem payloadMetadata?_kept {object next : Json} {before metadata : Metadata}
    (read : payloadMetadata? object = some before)
    (same : ∀ member, member ≠ "metadata" → next.get? member = object.get? member)
    (readNext : Metadata.ofJson? (Cluster.metadataOf next) = some metadata) (space name : String) (version : Nat) :
    payloadMetadata? (Cluster.kept ⟨.configMap, space, name⟩ version next) =
      some (metadata.placed space (toString version)) := by
  obtain ⟨shaped, fits, _⟩ := Option.map_eq_some_iff.mp read
  obtain ⟨members, shapedMembers, rfl, fit, _⟩ := Shape.members_of_fit? fits
  obtain ⟨kept, isObject⟩ := Cluster.kept_eq_object ⟨.configMap, space, name⟩ version next
  have lookup (member : String) :
      kept.lookup member = (Cluster.kept ⟨.configMap, space, name⟩ version next).get? member := by
    rw [isObject, Json.get?_object]
  have stamped := Metadata.ofJson?_stamped readNext space (toString version)
  obtain ⟨wire, wireFits, _⟩ := Option.map_eq_some_iff.mp stamped
  have metadataKept := (lookup "metadata").trans (Cluster.get?_kept_metadata _ version next)
  -- Every member of the kind has its shape: the server writes three of them, and the others are as they were.
  have all : ∀ field ∈ Kind.configMap.clusterShape.fields, ∃ found, Shape.fitField? field kept = some found := by
    rw [fields_configMap, List.forall_mem_cons, List.forall_mem_cons, List.forall_mem_cons]
    refine ⟨⟨_, Shape.fitField?_fixed ?_⟩, ⟨_, Shape.fitField?_fixed ?_⟩,
      ⟨_, Shape.fitField?_required metadataKept (Json.object_ne_null _) wireFits⟩, ?_⟩
    · rw [lookup, Cluster.kept, Json.get?_set_of_ne (by decide), Json.get?_set_of_ne (by decide), Json.get?_set_self]
    · rw [lookup, Cluster.kept, Json.get?_set_of_ne (by decide), Json.get?_set_self]
    · intro field member
      have apart : "apiVersion" ≠ field.1 ∧ "kind" ≠ field.1 ∧ "metadata" ≠ field.1 := by
        revert field
        decide
      have old : kept.lookup field.1 = members.lookup field.1 := by
        rw [lookup, Cluster.get?_kept_of_ne _ _ _ apart.1 apart.2.1 apart.2.2, same _ apart.2.2.symm, Json.get?_object]
      rw [Shape.fitField?_congr old]
      exact Shape.fitField?_of_fitFields? fit field (List.mem_append_right _ member)
  obtain ⟨left, keptFit⟩ := Shape.fitFields?_of_fitField? all
  have readable : payloadMetadata? (Cluster.kept ⟨.configMap, space, name⟩ version next) =
      some (Metadata.ofShaped (((Json.object left).get? "metadata").getD .null)) := by
    have fits : Kind.configMap.clusterShape.fit? (.object kept) = some (.object left) := by
      rw [Kind.clusterShape, Shape.fit?_record]
      exact congrArg (Option.map Json.object) keptFit
    rw [isObject, payloadMetadata?, fits, Option.map_some]
  have same := metadata_of_payloadMetadata? readable (Cluster.get?_kept_metadata _ version next) (Json.object_ne_null _)
  rw [readable, ← same, stamped]

/-- A payload that the server keeps is read with the version that it is kept at. -/
theorem resourceVersion_kept {given : Json} {metadata : Metadata} {key : Key} {version : Nat}
    (read : payloadMetadata? (Cluster.kept key version given) = some metadata) :
    metadata.resourceVersion = some (toString version) := by
  have wire := metadata_of_payloadMetadata? read (Cluster.get?_kept_metadata key version given) (Json.object_ne_null _)
  rw [Metadata.resourceVersion_ofJson? wire, Metadata.stamped, Json.get?_set_self]
  rfl

/-- Owners are refused for any other version than that for which they are set. -/
theorem isStale_ownersPatch {metadata : Metadata} {version : String} (guarded : metadata.resourceVersion = some version)
    (object : Json) (references : List OwnerReference) :
    Cluster.isStale object (ownersPatch metadata references) =
      (Cluster.metadataText? object "resourceVersion" != some version) := by
  have names : Cluster.metadataText? (ownersPatch metadata references) "resourceVersion" = some version := by
    simp [Cluster.metadataText?, ownersPatch, Attempt.versionGuard, guarded, Json.at?, Json.get?_object, Json.text?]
  rw [Cluster.isStale, names]

/-- The reference to a run carries its identity. -/
theorem uid_of_controllerReference? {run : Run} {owner : OwnerReference}
    (known : run.controllerReference? = some owner) : run.metadata.uid = some owner.uid := by
  unfold controllerReference? Metadata.controllerReference? at known
  obtain ⟨name, _, known⟩ := Option.bind_eq_some_iff.mp known
  obtain ⟨uid, identity, known⟩ := Option.bind_eq_some_iff.mp known
  cases known
  exact identity

/-- A change of version and owners. -/
theorem mergePatch_owners (json : Json) (version : String) (owners : List Json) :
    json.mergePatch (.object [("resourceVersion", .string version), ("ownerReferences", .array owners)]) =
      (json.set "resourceVersion" (.string version)).set "ownerReferences" (.array owners) := by
  simp only [Json.mergePatch, Json.mergeMembers, Json.mergeMember, Json.set, Json.members?, Option.getD_some]

/-- Metadata whose owners are changed can be read: they keep their name and have the owners that were set. -/
theorem ofJson?_changeOwners {json : Json} {metadata : Metadata} (read : Metadata.ofJson? json = some metadata)
    (version : String) (references : List OwnerReference) :
    ∃ next, Metadata.ofJson? (json.mergePatch (.object
        [("resourceVersion", .string version), ("ownerReferences", .array (references.map OwnerReference.toJson))])) =
      some next ∧ next.name = metadata.name ∧ next.ownerReferences = some references := by
  obtain ⟨shaped, fits, _⟩ := Metadata.ofJson?_eq_some read
  obtain ⟨dated, datedFits, _, _⟩ :=
    Shape.fit?_set "resourceVersion" Metadata.nodup_keys fits (by simp [Metadata.shape, Shape.fields])
      (Json.string_ne_null version) (Shape.fit?_text_iff.mpr ⟨_, rfl, rfl⟩)
  obtain ⟨owned, ownedFits, _, _⟩ :=
    Shape.fit?_set "ownerReferences" Metadata.nodup_keys datedFits (by simp [Metadata.shape, Shape.fields])
      (Json.isWhole_array _).1 (Shape.fit?_list_map OwnerReference.fit?_toJson references)
  have readNext : Metadata.ofJson? ((json.set "resourceVersion" (.string version)).set "ownerReferences"
      (.array (references.map OwnerReference.toJson))) = some (Metadata.ofShaped owned) := by
    rw [Metadata.ofJson?, Metadata.shape_eq, ownedFits, Option.map_some]
  refine ⟨Metadata.ofShaped owned, ?_, ?_, ?_⟩
  · rw [mergePatch_owners]
    exact readNext
  · rw [Metadata.name_ofJson? readNext, Metadata.name_ofJson? read, Json.get?_set_of_ne (by decide),
      Json.get?_set_of_ne (by decide)]
  · exact Metadata.ownerReferences_ofJson? readNext (Json.get?_set_self _ _ _)

/-- The payload that the server keeps after its owners were set. -/
theorem payloadMetadata?_kept_owners {object wire : Json} {metadata : Metadata} {version : String}
    (read : payloadMetadata? object = some metadata) (found : object.get? "metadata" = some wire)
    (present : wire ≠ .null) (guarded : metadata.resourceVersion = some version)
    (references : List OwnerReference) (space name : String) (count : Nat) :
    ∃ next, payloadMetadata? (Cluster.kept ⟨.configMap, space, name⟩ count
        (object.mergePatch ((ownersPatch metadata references).without "status"))) = some next ∧
      next.name = metadata.name ∧ next.owners = references := by
  have patch : (ownersPatch metadata references).without "status" = .object
      [("metadata", .object [("resourceVersion", .string version),
        ("ownerReferences", .array (references.map OwnerReference.toJson))])] := by
    rw [ownersPatch, Attempt.versionGuard, guarded]
    rfl
  rw [patch]
  obtain ⟨changed, readChanged, named, owned⟩ :=
    ofJson?_changeOwners (metadata_of_payloadMetadata? read found present) version references
  have merged := Json.get?_mergePatch_of_mem object (by simp) (List.mem_singleton_self ("metadata", _))
    (Json.object_ne_null [("resourceVersion", .string version),
      ("ownerReferences", .array (references.map OwnerReference.toJson))])
  refine ⟨_, payloadMetadata?_kept read ?_ ?_ space name count, named, ?_⟩
  · intro member apart
    exact Json.get?_mergePatch_of_notMem _ _ (by simpa using apart)
  · rw [Cluster.metadataOf, merged, found, Option.getD_some, Option.getD_some]
    exact readChanged
  · simp only [Metadata.owners, Metadata.placed, owned, Option.getD_some]

end Run

end Turnstile
