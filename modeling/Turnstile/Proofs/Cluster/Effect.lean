/-
Module: Turnstile.Proofs.Cluster.Effect
Purpose: What a request can change in a cluster, and which versions its objects have.
Main exports: Cluster.Effect, Cluster.effect_answer, Cluster.Effect.find?_of_ne, Cluster.Dated,
  Cluster.Effect.find?_cases, Cluster.Effect.dated
-/
import Turnstile.Cluster
import Turnstile.Proofs.Json.Members

/-!
A request writes or removes one object at most.  Everything that is said of a step of the cluster later on is
said of these few effects, so that no proof but those here looks into the server.

Every write counts up, and an object carries the count of its last write.  So two objects that are found under
one key with the same version are the same object.
-/

namespace Turnstile.Cluster

/-! ### Objects under their keys -/

theorem lookup_replaced_self (key : Key) (object : Json) (entries : List (Key × Json)) :
    (replaced key object entries).lookup key = some object := by
  induction entries with
  | nil => simp [replaced]
  | cons entry rest inductionHypothesis =>
      rcases entry with ⟨name, present⟩
      by_cases same : name = key
      · simp [replaced, same]
      · rw [replaced, if_neg same, Members.lookup_cons_of_ne same]
        exact inductionHypothesis

theorem lookup_replaced_of_ne {key other : Key} (apart : other ≠ key) (object : Json)
    (entries : List (Key × Json)) :
    (replaced key object entries).lookup other = entries.lookup other := by
  induction entries with
  | nil => exact Members.lookup_cons_of_ne apart.symm object []
  | cons entry rest inductionHypothesis =>
      rcases entry with ⟨name, present⟩
      by_cases same : name = key
      · rw [replaced, if_pos same, same, Members.lookup_cons_of_ne apart.symm, Members.lookup_cons_of_ne apart.symm]
      · rw [replaced, if_neg same, List.lookup_cons, List.lookup_cons, inductionHypothesis]

theorem lookup_filter_of_ne {key other : Key} (apart : other ≠ key) (entries : List (Key × Json)) :
    (entries.filter fun entry => entry.1 != key).lookup other = entries.lookup other := by
  induction entries with
  | nil => rfl
  | cons entry rest inductionHypothesis =>
      rcases entry with ⟨name, present⟩
      by_cases same : name = key
      · rw [List.filter_cons_of_neg (by simpa using same), inductionHypothesis,
          Members.lookup_cons_of_ne fun equal => apart (equal.symm.trans same)]
      · rw [List.filter_cons_of_pos (by simpa using same)]
        simp only [List.lookup_cons]
        split
        · rfl
        · exact inductionHypothesis

/-- A written object is found as it is kept. -/
@[simp] theorem find?_write_self (cluster : Cluster) (key : Key) (object : Json) :
    (cluster.write key object).find? key = some (kept key (cluster.version + 1) object) :=
  lookup_replaced_self key _ cluster.objects

/-- Writing leaves the other keys alone. -/
theorem find?_write_of_ne {key other : Key} (apart : other ≠ key) (cluster : Cluster) (object : Json) :
    (cluster.write key object).find? other = cluster.find? other :=
  lookup_replaced_of_ne apart _ cluster.objects

theorem filter_replaced {counts : Key × Json → Bool} {key : Key} (ignored : ∀ object, counts (key, object) = false)
    (object : Json) (entries : List (Key × Json)) :
    (replaced key object entries).filter counts = entries.filter counts := by
  induction entries with
  | nil => simp [replaced, ignored]
  | cons entry rest inductionHypothesis =>
      rcases entry with ⟨name, present⟩
      by_cases same : name = key
      · subst same
        rw [replaced, if_pos rfl, List.filter_cons_of_neg (by simp [ignored]),
          List.filter_cons_of_neg (by simp [ignored])]
      · rw [replaced, if_neg same, List.filter_cons, List.filter_cons, inductionHypothesis]

/-- Writing an object does not change what is listed of another kind. -/
theorem listed_write {kind : Kind} {key : Key} (apart : key.kind ≠ kind) (cluster : Cluster) (object : Json)
    (space : String) (selection : Selection) :
    (cluster.write key object).listed kind space selection = cluster.listed kind space selection := by
  unfold listed
  congr 1
  exact filter_replaced (fun _ => by simp [apart]) _ cluster.objects

/-- A removed object is not found. -/
@[simp] theorem find?_remove_self (cluster : Cluster) (key : Key) : (cluster.remove key).find? key = none := by
  simp only [find?, remove, List.lookup_eq_none_iff, List.mem_filter]
  intro entry member
  exact bne_iff_ne.mpr fun equal => by simp [equal] at member

/-- Removing leaves the other keys alone. -/
theorem find?_remove_of_ne {key other : Key} (apart : other ≠ key) (cluster : Cluster) :
    (cluster.remove key).find? other = cluster.find? other :=
  lookup_filter_of_ne apart cluster.objects

/-! ### Effects -/

/-- What a request can make of a cluster. -/
inductive Effect (cluster : Cluster) : Request → Cluster → Prop where
  | nothing (request : Request) : Effect cluster request cluster
  | creation {kind : Kind} {space : String} {object : Json}
      (absent : cluster.find? (Request.createdKey kind space object) = none) :
      Effect cluster (.create kind space object)
        (cluster.write (Request.createdKey kind space object)
          (identified (Request.createdKey kind space object) object))
  | change {key : Key} {change object : Json} (present : cluster.find? key = some object)
      (fresh : isStale object change = false) :
      Effect cluster (.patch key change) (cluster.write key (object.mergePatch (change.without "status")))
  | report {key : Key} {change object : Json} (present : cluster.find? key = some object)
      (fresh : isStale object change = false) :
      Effect cluster (.patchStatus key change) (cluster.write key (object.mergePatch (statusPart change)))
  | removal {key : Key} {object : Json} (present : cluster.find? key = some object) :
      Effect cluster (.delete key) (cluster.remove key)

/-- The server makes of a cluster what a request can make of it. -/
theorem effect_answer (cluster : Cluster) (request : Request) :
    Effect cluster request (cluster.answer request).1 := by
  cases request with
  | create kind space object =>
      simp only [answer]
      split
      · exact .nothing _
      · rename_i absent
        exact .creation absent
  | patch key change =>
      simp only [answer, patched]
      split
      · exact .nothing _
      · rename_i object present
        cases stale : isStale object change with
        | true => exact .nothing _
        | false => exact .change present stale
  | patchStatus key change =>
      simp only [answer, patched]
      split
      · exact .nothing _
      · rename_i object present
        cases stale : isStale object change with
        | true => exact .nothing _
        | false => exact .report present stale
  | delete key =>
      simp only [answer]
      split
      · exact .nothing _
      · rename_i object present
        exact .removal present
  | _ => exact .nothing _

/-- A request leaves alone every object but the one that it is about. -/
theorem Effect.find?_of_ne {cluster next : Cluster} {request : Request} (effect : Effect cluster request next)
    {key : Key} (apart : request.key? ≠ some key) : next.find? key = cluster.find? key := by
  cases effect with
  | nothing => rfl
  | creation absent => exact find?_write_of_ne (fun equal => apart (congrArg some equal.symm)) cluster _
  | change present fresh => exact find?_write_of_ne (fun equal => apart (congrArg some equal.symm)) cluster _
  | report present fresh => exact find?_write_of_ne (fun equal => apart (congrArg some equal.symm)) cluster _
  | removal present => exact find?_remove_of_ne (fun equal => apart (congrArg some equal.symm)) cluster

/-- A request is about an object of its kind. -/
theorem kind_of_key? {request : Request} {key : Key} (about : request.key? = some key) :
    request.kind = key.kind := by
  cases request <;> cases about <;> rfl

/-- A request leaves alone every object of another kind. -/
theorem Effect.find?_of_kind {cluster next : Cluster} {request : Request} (effect : Effect cluster request next)
    {kind : Kind} (apart : request.kind ≠ kind) (space name : String) :
    next.find? ⟨kind, space, name⟩ = cluster.find? ⟨kind, space, name⟩ :=
  effect.find?_of_ne fun about => apart (kind_of_key? about)

/-- Only the request to create it brings an object into being. -/
theorem Effect.find?_of_uncreated {cluster next : Cluster} {request : Request}
    (effect : Effect cluster request next) {key : Key}
    (uncreated : request.verb = .create → request.key? ≠ some key) (absent : cluster.find? key = none) :
    next.find? key = none := by
  by_cases about : request.key? = some key
  · cases effect with
    | nothing => exact absent
    | creation => exact absurd about (uncreated rfl)
    | change present =>
        cases about
        cases present.symm.trans absent
    | report present =>
        cases about
        cases present.symm.trans absent
    | removal present =>
        cases about
        cases present.symm.trans absent
  · rw [effect.find?_of_ne about]
    exact absent

/-- Only the request to delete it takes an object away. -/
theorem Effect.find?_of_undeleted {cluster next : Cluster} {request : Request}
    (effect : Effect cluster request next) (undeleted : request.verb ≠ .delete) {key : Key}
    (present : cluster.find? key ≠ none) : next.find? key ≠ none := by
  have written : ∀ (name : Key) (object : Json), (cluster.write name object).find? key ≠ none := by
    intro name object
    by_cases same : key = name
    · subst same
      rw [find?_write_self]
      exact Option.some_ne_none _
    · rw [find?_write_of_ne same]
      exact present
  cases effect with
  | nothing => exact present
  | removal => exact absurd rfl undeleted
  | _ => exact written _ _

/-- An object that is stored before and after a request that is no status patch of it stays as it is, or it takes
a patch that leaves its status alone. -/
theorem Effect.find?_of_unreported {cluster next : Cluster} {request : Request}
    (effect : Effect cluster request next) {key : Key} (unreported : ∀ change, request ≠ .patchStatus key change)
    {before after : Json} (was : cluster.find? key = some before) (stored : next.find? key = some after) :
    after = before ∨
      ∃ change : Json, after = kept key (cluster.version + 1) (before.mergePatch (change.without "status")) := by
  by_cases about : request.key? = some key
  · cases effect with
    | nothing => exact Or.inl (Option.some.inj (stored.symm.trans was))
    | creation absent =>
        rw [Option.some.inj about, was] at absent
        cases absent
    | @change key change present there fresh =>
        cases about
        cases there.symm.trans was
        rw [find?_write_self] at stored
        exact Or.inr ⟨change, (Option.some.inj stored).symm⟩
    | @report key change present there fresh =>
        cases about
        exact absurd rfl (unreported change)
    | @removal key present there =>
        cases about
        rw [find?_remove_self] at stored
        cases stored
  · rw [effect.find?_of_ne about, was] at stored
    exact Or.inl (Option.some.inj stored).symm

/-- A creation replaces nothing. -/
theorem Effect.find?_of_create {cluster next : Cluster} {kind : Kind} {space : String} {given : Json}
    (effect : Effect cluster (.create kind space given) next) {key : Key} {object : Json}
    (stored : cluster.find? key = some object) : next.find? key = some object := by
  cases effect with
  | nothing => exact stored
  | creation absent =>
      have elsewhere : key ≠ Request.createdKey kind space given := by
        rintro rfl
        cases absent.symm.trans stored
      rw [find?_write_of_ne elsewhere]
      exact stored

/-- A request that asks for no change makes none. -/
theorem Effect.eq_of_not_isWrite {cluster next : Cluster} {request : Request}
    (effect : Effect cluster request next) (reads : request.isWrite = false) : next = cluster := by
  cases effect with
  | nothing => rfl
  | _ => cases reads

/-! ### Versions -/

/-- Different counts are different versions. -/
theorem version_injective {first second : Nat} (same : toString first = toString second) : first = second := by
  have digits : Nat.toDigits 10 first = Nat.toDigits 10 second := by
    rw [← Nat.toList_repr, ← Nat.toList_repr]
    exact congrArg String.toList same
  rw [← @Nat.ofDigitChars_ten_toDigits first, digits, Nat.ofDigitChars_ten_toDigits]

/-- A kept object is an object with members. -/
theorem kept_eq_object (key : Key) (version : Nat) (object : Json) :
    ∃ members, kept key version object = .object members := ⟨_, rfl⟩

/-- The version of an object as it is kept. -/
theorem version_kept (key : Key) (version : Nat) (object : Json) :
    metadataText? (kept key version object) "resourceVersion" = some (toString version) := by
  simp [metadataText?, Json.at?, kept, Json.text?]

/-- Every key has one object, and every object is kept at a version that has been reached. -/
structure Dated (cluster : Cluster) : Prop where
  distinct : (cluster.objects.map Prod.fst).Nodup
  dated : ∀ key object, cluster.find? key = some object →
    ∃ version given, version ≤ cluster.version ∧ object = kept key version given

theorem dated_empty : Dated {} where
  distinct := List.nodup_nil
  dated := by
    intro key object found
    cases found

theorem mem_map_fst_replaced {key other : Key} {object : Json} {entries : List (Key × Json)}
    (member : other ∈ (replaced key object entries).map Prod.fst) :
    other = key ∨ other ∈ entries.map Prod.fst := by
  induction entries with
  | nil => exact Or.inl (by simpa [replaced] using member)
  | cons entry rest inductionHypothesis =>
      by_cases same : entry.1 = key
      · simp only [replaced, same, if_true, List.map_cons, List.mem_cons] at member ⊢
        rcases member with here | there
        · exact Or.inl here
        · exact Or.inr (Or.inr there)
      · simp only [replaced, same, if_false, List.map_cons, List.mem_cons] at member ⊢
        rcases member with here | there
        · exact Or.inr (Or.inl here)
        · exact (inductionHypothesis there).imp_right Or.inr

/-- Replacing or adding an entry keeps the keys distinct. -/
theorem nodup_map_fst_replaced {entries : List (Key × Json)} (distinct : (entries.map Prod.fst).Nodup)
    (key : Key) (object : Json) : ((replaced key object entries).map Prod.fst).Nodup := by
  induction entries with
  | nil => simp [replaced]
  | cons entry rest inductionHypothesis =>
      rw [List.map_cons, List.nodup_cons] at distinct
      by_cases same : entry.1 = key
      · simp only [replaced, same, if_true, List.map_cons, List.nodup_cons]
        exact ⟨same ▸ distinct.1, distinct.2⟩
      · simp only [replaced, same, if_false, List.map_cons, List.nodup_cons]
        refine ⟨?_, inductionHypothesis distinct.2⟩
        intro member
        rcases mem_map_fst_replaced member with own | other
        · exact same own
        · exact distinct.1 other

/-- Where keys are distinct, an entry is what is found under its key. -/
theorem find?_of_mem {cluster : Cluster} (distinct : (cluster.objects.map Prod.fst).Nodup) {key : Key}
    {object : Json} (member : (key, object) ∈ cluster.objects) : cluster.find? key = some object := by
  unfold find?
  generalize cluster.objects = entries at distinct member ⊢
  induction entries with
  | nil => cases member
  | cons entry rest inductionHypothesis =>
      rw [List.map_cons, List.nodup_cons] at distinct
      rcases List.mem_cons.mp member with here | there
      · subst here
        exact List.lookup_cons_self
      · have apart : entry.1 ≠ key := fun equal => distinct.1 (equal ▸ List.mem_map_of_mem there)
        rw [Members.lookup_cons_of_ne apart]
        exact inductionHypothesis distinct.2 there

/-- What is found is an entry. -/
theorem mem_of_find? {cluster : Cluster} {key : Key} {object : Json}
    (found : cluster.find? key = some object) : (key, object) ∈ cluster.objects := by
  obtain ⟨before, after, split, _⟩ := List.lookup_eq_some_iff.mp found
  rw [split]
  exact List.mem_append_right _ List.mem_cons_self

/-- A request does not take back a write. -/
theorem Effect.version_le {cluster next : Cluster} {request : Request} (effect : Effect cluster request next) :
    cluster.version ≤ next.version := by
  cases effect with
  | nothing => exact Nat.le_refl _
  | _ => exact Nat.le_succ _

/-- What is found after a request was there before, or was written at the version that is reached now. -/
theorem Effect.find?_cases {cluster next : Cluster} {request : Request} (effect : Effect cluster request next)
    {key : Key} {object : Json} (found : next.find? key = some object) :
    cluster.find? key = some object ∨
      ∃ given, object = kept key next.version given ∧ next.version = cluster.version + 1 := by
  have written : ∀ {name : Key} {given : Json}, (cluster.write name given).find? key = some object →
      cluster.find? key = some object ∨
        ∃ given, object = kept key (cluster.version + 1) given ∧ cluster.version + 1 = cluster.version + 1 := by
    intro name given found
    by_cases same : key = name
    · subst same
      rw [find?_write_self] at found
      exact Or.inr ⟨given, (Option.some.inj found).symm, rfl⟩
    · rw [find?_write_of_ne same] at found
      exact Or.inl found
  cases effect with
  | nothing => exact Or.inl found
  | creation absent => exact written found
  | change present fresh => exact written found
  | report present fresh => exact written found
  | @removal name _ present =>
      by_cases same : key = name
      · subst same
        rw [find?_remove_self] at found
        cases found
      · rw [find?_remove_of_ne same] at found
        exact Or.inl found

/-- A request keeps the keys distinct. -/
theorem Effect.distinct {cluster next : Cluster} {request : Request} (effect : Effect cluster request next)
    (distinct : (cluster.objects.map Prod.fst).Nodup) : (next.objects.map Prod.fst).Nodup := by
  cases effect with
  | nothing => exact distinct
  | creation absent => exact nodup_map_fst_replaced distinct _ _
  | change present fresh => exact nodup_map_fst_replaced distinct _ _
  | report present fresh => exact nodup_map_fst_replaced distinct _ _
  | removal present => exact (List.filter_sublist.map Prod.fst).nodup distinct

/-- A request keeps the objects dated. -/
theorem Effect.dated {cluster next : Cluster} {request : Request} (effect : Effect cluster request next)
    (dated : cluster.Dated) : next.Dated where
  distinct := effect.distinct dated.distinct
  dated := by
    intro key object found
    rcases effect.find?_cases found with before | ⟨given, written, _⟩
    · obtain ⟨version, given, bound, same⟩ := dated.dated key object before
      exact ⟨version, given, Nat.le_trans bound effect.version_le, same⟩
    · exact ⟨next.version, given, Nat.le_refl _, written⟩

end Turnstile.Cluster
