/-
Module: Turnstile.Proofs.Run.Adoption
Purpose: Becoming an owner of a payload is done once, and asking for it again changes nothing.
Main exports: Metadata.ownerReferences_ofJson?, Run.Adopted, Run.Adopted.answered, Run.adopted_of_patch,
  Run.answered_adoptPayload_again
-/
import Turnstile.Proofs.Cluster.Answered
import Turnstile.Proofs.Cluster.Resource
import Turnstile.Run.Reconcile

/-!
A run adopts its payload by writing the list of owners that it has read, with itself at the end.  What the server
keeps is read with the identity of the run among the owners, so the next adoption finds nothing to do.  If what the
server keeps cannot be read, both fail: the one that wrote it, and the one that looks it up.
-/

namespace Turnstile

namespace OwnerReference

/-- A reference is read as it was written. -/
theorem fit?_toJson (reference : OwnerReference) : shape.fit? reference.toJson = some reference.toJson := by
  rcases reference with ⟨apiVersion, kind, name, uid, _ | controller, _ | deletion⟩ <;> rfl

theorem ofShaped_toJson (reference : OwnerReference) : ofShaped reference.toJson = reference := by
  rcases reference with ⟨apiVersion, kind, name, uid, _ | controller, _ | deletion⟩ <;> rfl

end OwnerReference

/-- Owners that are written into metadata are read from them. -/
theorem Metadata.ownerReferences_ofJson? {json : Json} {metadata : Metadata} (read : ofJson? json = some metadata)
    {references : List OwnerReference}
    (written : json.get? "ownerReferences" = some (.array (references.map OwnerReference.toJson))) :
    metadata.ownerReferences = some references := by
  obtain ⟨shaped, fits, rfl⟩ := ofJson?_eq_some read
  have field : ("ownerReferences", Presence.optional, Shape.list OwnerReference.shape) ∈ shape.fields := by
    simp [shape, Shape.fields]
  rcases Shape.get?_of_fit? "ownerReferences" nodup_keys fits field with ⟨lacks, _⟩ | ⟨value, kept, found, fit, left⟩
  · rcases lacks with missing | null
    · cases written.symm.trans missing
    · cases written.symm.trans null
  · cases written.symm.trans found
    cases fit.symm.trans (Shape.fit?_list_map OwnerReference.fit?_toJson references)
    simp only [ofShaped, left, Option.map_some, Option.getD_some, Json.items?, List.map_map]
    exact congrArg some (List.map_id'' OwnerReference.ofShaped_toJson references)

/-- Owners that are written into metadata are among those that are read from them. -/
theorem Metadata.mem_ownerReferences {json : Json} {metadata : Metadata} (read : ofJson? json = some metadata)
    {references : List OwnerReference}
    (written : json.get? "ownerReferences" = some (.array (references.map OwnerReference.toJson)))
    {reference : OwnerReference} (member : reference ∈ references) :
    reference ∈ metadata.ownerReferences.getD [] := by
  rw [ownerReferences_ofJson? read written]
  exact member

namespace Run

/-- The payload as a run looks it up. -/
def payload (run : Run) (space : String) (cluster : Cluster) : Except ReconcileFailure (Option Metadata) :=
  cluster.look payloadMetadata? ⟨.configMap, space, run.spec.configMap⟩

/-- An object of this metadata has the identity of the run among its owners. -/
def Owns (run : Run) (metadata : Metadata) : Prop :=
  ∃ uid, run.metadata.uid = some uid ∧
    ((metadata.ownerReferences.getD []).any fun reference => reference.uid == uid) = true

/-- There is no payload, or the run is an owner of it. -/
inductive Adopted (run : Run) (space : String) (cluster : Cluster) : Prop where
  | missing (seen : run.payload space cluster = .ok none)
  | owned {metadata : Metadata} (seen : run.payload space cluster = .ok (some metadata)) (owns : run.Owns metadata)

/-- A payload whose metadata are there has metadata that can be read. -/
theorem metadata_of_payloadMetadata? {json wire : Json} {metadata : Metadata}
    (read : payloadMetadata? json = some metadata) (found : json.get? "metadata" = some wire)
    (present : wire ≠ .null) : Metadata.ofJson? wire = some metadata := by
  obtain ⟨shaped, fits, rfl⟩ := Option.map_eq_some_iff.mp read
  obtain ⟨members, kept, rfl, fit, rfl⟩ := Shape.members_of_fit? fits
  have distinct : ((Kind.configMap.clusterShape.fields).map Prod.fst).Nodup := by decide
  have field : ("metadata", Presence.required, Metadata.shape) ∈ Kind.configMap.clusterShape.fields := by
    simp [Kind.clusterShape, Shape.fields]
  obtain ⟨remains, fieldFits⟩ := Shape.fitField?_of_fitFields? fit _ field
  have known := Shape.lookup_fitFields? distinct fit _ field remains fieldFits
  rw [Json.get?_object] at found
  unfold Shape.fitField? at fieldFits
  simp only [found] at fieldFits
  cases wire with
  | null => exact absurd rfl present
  | _ =>
      obtain ⟨value, valueFits, same⟩ := Option.map_eq_some_iff.mp fieldFits
      rw [Metadata.ofJson?, valueFits, Json.get?_object, known, ← same]
      rfl

/-- The owners that a patch sets are read from what the server keeps of the payload. -/
theorem owners_of_patch {object : Json} {payload next : Metadata} {references : List OwnerReference} {key : Key}
    {version : Nat}
    (read : payloadMetadata? (Cluster.kept key version
      (object.mergePatch ((ownersPatch payload references).without "status"))) = some next)
    {reference : OwnerReference} (member : reference ∈ references) :
    reference ∈ next.ownerReferences.getD [] := by
  have patched : (ownersPatch payload references).without "status" = ownersPatch payload references := rfl
  generalize owners : Json.array (references.map OwnerReference.toJson) = written
  generalize listed : [("resourceVersion", Attempt.versionGuard payload), ("ownerReferences", written)] = changes
  have patch : ownersPatch payload references = .object [("metadata", .object changes)] := by
    rw [← listed, ← owners]
    rfl
  have distinct : (changes.map Prod.fst).Nodup := by simp [← listed]
  have merged : (object.mergePatch (ownersPatch payload references)).get? "metadata" =
      some (((object.get? "metadata").getD .null).mergePatch (.object changes)) := by
    rw [patch]
    exact Json.get?_mergePatch_of_mem object (by simp) List.mem_cons_self (Json.object_ne_null changes)
  have set : (((object.get? "metadata").getD .null).mergePatch (.object changes)).get? "ownerReferences" =
      some written :=
    Json.get?_mergePatch_whole _ distinct (by simp [← listed]) (by rw [← owners]; exact Json.isWhole_array _)
  have stamped := Cluster.get?_kept_metadata key version (object.mergePatch (ownersPatch payload references))
  rw [patched] at read
  rw [Cluster.metadataOf, merged, Option.getD_some] at stamped
  refine Metadata.mem_ownerReferences (metadata_of_payloadMetadata? read stamped (Json.object_ne_null _)) ?_ member
  rw [Metadata.stamped, Json.get?_set_of_ne (by decide), Json.get?_set_of_ne (by decide), set, owners]

/-! ### Adopting a second time -/

variable {run : Run} {space : String} {cluster : Cluster}

/-- An adoption has nothing to do, cannot name the run, or sets owners of which the run is one. -/
theorem adopt_cases (run : Run) (space : String) (payload : Metadata) :
    run.Owns payload ∧ run.adopt space payload = pure () ∨
      run.adopt space payload = Attempt.fail .missingObjectKey ∨
      ¬ run.Owns payload ∧ ∃ references : List OwnerReference,
        (∃ uid, run.metadata.uid = some uid ∧ ∃ reference ∈ references, reference.uid = uid) ∧
          run.adopt space payload = Attempt.require (Program.ofKind .configMap)
            (.patch ⟨.configMap, space, payload.displayName⟩ (ownersPatch payload references)) := by
  unfold adopt
  cases identity : run.metadata.uid with
  | none => exact Or.inr (Or.inl rfl)
  | some uid =>
      simp only
      split
      · rename_i owned
        exact Or.inl ⟨⟨uid, identity, owned⟩, rfl⟩
      · rename_i unowned
        cases reference : run.controllerReference? with
        | none => exact Or.inr (Or.inl rfl)
        | some owner =>
            refine Or.inr (Or.inr ⟨?_, _, ⟨uid, rfl, _, List.mem_append_right _ List.mem_cons_self, ?_⟩, rfl⟩)
            · rintro ⟨other, same, owned⟩
              cases identity.symm.trans same
              exact unowned owned
            · -- The reference carries the identity of the run.
              unfold controllerReference? Metadata.controllerReference? at reference
              obtain ⟨name, _, reference⟩ := Option.bind_eq_some_iff.mp reference
              obtain ⟨given, same, reference⟩ := Option.bind_eq_some_iff.mp reference
              cases identity.symm.trans same
              cases reference
              rfl

/-- Once the server has set owners of which the run is one, the run has adopted its payload, unless what the server
keeps cannot be read. -/
theorem adopted_of_patch {payload : Metadata} {references : List OwnerReference}
    (named : run.spec.configMap.isEmpty = false)
    (lists : ∃ uid, run.metadata.uid = some uid ∧ ∃ reference ∈ references, reference.uid = uid) {json : Json}
    {next : Cluster}
    (answered : cluster.answer (.patch ⟨.configMap, space, run.spec.configMap⟩ (ownersPatch payload references)) =
      (next, .ok json)) :
    if Kind.configMap.fits json then run.Adopted space next
    else run.payload space next = .error (.api .unanswered) := by
  obtain ⟨uid, identity, reference, member, same⟩ := lists
  obtain ⟨object, _, written, kept⟩ := Cluster.patched_ok answered
  have seen : run.payload space next =
      (payloadMetadata? json).elim (.error (.api .unanswered)) fun value => .ok (some value) := by
    apply Cluster.look_of_find? payloadMetadata? named
    rw [written, kept, Cluster.find?_write_self]
  cases read : payloadMetadata? json with
  | none =>
      have unfit : Kind.configMap.fits json = false := by
        simpa [payloadMetadata?, Kind.fits] using read
      rw [unfit, seen, read]
      rfl
  | some metadata =>
      have fits : Kind.configMap.fits json = true := by
        obtain ⟨shaped, fit, _⟩ := Option.map_eq_some_iff.mp read
        simp [Kind.fits, fit]
      rw [read] at seen
      rw [kept] at read
      rw [if_pos fits]
      exact .owned seen ⟨uid, identity,
        List.any_eq_true.mpr ⟨reference, owners_of_patch read member, by simpa using same⟩⟩

/-- What an adoption makes of a cluster is told by the payload that it looks up. -/
theorem answered_adoptPayload (run : Run) (space : String) (cluster : Cluster) :
    Attempt.answered (run.adoptPayload space) cluster =
      match run.payload space cluster with
      | .ok none => (cluster, .ok ())
      | .ok (some metadata) => Attempt.answered (run.adopt space metadata) cluster
      | .error failure => (cluster, .error failure) := by
  rw [adoptPayload, Attempt.answered_bind, Attempt.answered_find?, ← payload]
  rcases run.payload space cluster with failure | _ | metadata <;> rfl

/-- A run that has adopted its payload has nothing to do. -/
theorem Adopted.answered (adopted : run.Adopted space cluster) :
    Attempt.answered (run.adoptPayload space) cluster = (cluster, .ok ()) := by
  rw [answered_adoptPayload]
  cases adopted with
  | missing seen => rw [seen]
  | @owned metadata seen owns =>
      rw [seen]
      obtain ⟨uid, identity, owned⟩ := owns
      simp only [adopt, identity, owned, if_true]
      rfl

/-- The payload that is found is stored under the name that it goes by, unless the run owns it already. -/
def Addresses (run : Run) (space : String) (cluster : Cluster) : Prop :=
  ∀ metadata, run.payload space cluster = .ok (some metadata) →
    run.Owns metadata ∨ metadata.displayName = run.spec.configMap

/-- A payload that is adopted need not be stored under the name that it goes by. -/
theorem Adopted.addresses (adopted : run.Adopted space cluster) : run.Addresses space cluster := by
  intro metadata seen
  cases adopted with
  | missing nothing => cases seen.symm.trans nothing
  | owned there owns =>
      cases seen.symm.trans there
      exact Or.inl owns

/-- What adoption has come to depends on the payload alone. -/
theorem Adopted.congr {next : Cluster} (adopted : run.Adopted space cluster)
    (same : next.find? ⟨.configMap, space, run.spec.configMap⟩ =
      cluster.find? ⟨.configMap, space, run.spec.configMap⟩) : run.Adopted space next := by
  have seen : run.payload space next = run.payload space cluster := Cluster.look_congr same
  cases adopted with
  | missing nothing => exact .missing (seen.trans nothing)
  | owned there owns => exact .owned (seen.trans there) owns

/-- An adoption that asks for owners to be set comes to what the server makes of that. -/
theorem answered_adoptPayload_of_sends {metadata : Metadata} {references : List OwnerReference}
    (seen : run.payload space cluster = .ok (some metadata)) (goesBy : metadata.displayName = run.spec.configMap)
    (sends : run.adopt space metadata = Attempt.require (Program.ofKind .configMap)
      (.patch ⟨.configMap, space, metadata.displayName⟩ (ownersPatch metadata references))) :
    let served := cluster.answer (.patch ⟨.configMap, space, run.spec.configMap⟩ (ownersPatch metadata references))
    Attempt.answered (run.adoptPayload space) cluster =
      (served.1, (Program.readable (Program.ofKind .configMap) served.2).mapError .api) := by
  have addressed : Program.isAddressed (.patch ⟨.configMap, space, run.spec.configMap⟩
      (ownersPatch metadata references)) = true :=
    Program.isAddressed_of_key? rfl (Cluster.name_of_look seen)
  rw [answered_adoptPayload, seen]
  simp only
  rw [sends, goesBy, Attempt.answered_require _ _ addressed]

/-- After an adoption whose requests were answered the run has adopted its payload, or adoption fails again and
makes nothing of the cluster. -/
theorem answered_adoptPayload_again (addresses : run.Addresses space cluster) {next : Cluster}
    {result : Except ReconcileFailure Unit}
    (adopts : Attempt.answered (run.adoptPayload space) cluster = (next, result)) :
    result = .ok () ∧ run.Adopted space next ∨
      (∃ failure, result = .error failure) ∧ run.Addresses space next ∧
        ∃ failure, Attempt.answered (run.adoptPayload space) next = (next, .error failure) := by
  have first := adopts
  rw [answered_adoptPayload] at adopts
  rcases seen : run.payload space cluster with failure | _ | metadata
  · rw [seen] at adopts
    cases adopts
    exact Or.inr ⟨⟨_, rfl⟩, addresses, _, first⟩
  · rw [seen] at adopts
    cases adopts
    exact Or.inl ⟨rfl, .missing seen⟩
  · rw [seen] at adopts
    simp only at adopts
    rcases adopt_cases run space metadata with ⟨owns, skips⟩ | fails | ⟨disowns, references, lists, sends⟩
    · rw [skips] at adopts
      cases adopts
      exact Or.inl ⟨rfl, .owned seen owns⟩
    · rw [fails] at adopts
      cases adopts
      exact Or.inr ⟨⟨_, rfl⟩, addresses, _, first⟩
    · have sent := answered_adoptPayload_of_sends seen ((addresses metadata seen).resolve_left disowns) sends
      rw [first] at sent
      rcases answer : cluster.answer (.patch ⟨.configMap, space, run.spec.configMap⟩
        (ownersPatch metadata references)) with ⟨after, error | json⟩
      · rw [answer] at sent
        cases sent
        cases Cluster.patched_error answer
        exact Or.inr ⟨⟨_, rfl⟩, addresses, _, first⟩
      · rw [answer] at sent
        have settled := adopted_of_patch (Cluster.name_of_look seen) lists answer
        simp only [Program.readable, Program.ofKind] at sent
        split at settled
        · rename_i fits
          rw [if_pos fits] at sent
          cases sent
          exact Or.inl ⟨rfl, settled⟩
        · rename_i unfit
          rw [if_neg unfit] at sent
          cases sent
          refine Or.inr ⟨⟨_, rfl⟩, ?_, .api .unanswered, ?_⟩
          · intro other there
            cases settled.symm.trans there
          · rw [answered_adoptPayload, settled]

end Run

end Turnstile
