/-
Module: Turnstile.Proofs.Metadata
Purpose: What is read from metadata on the wire, and what is read once the server has stamped it.
Main exports: Metadata.name_ofJson?, Metadata.resourceVersion_ofJson?, Metadata.label?_ofJson?, Metadata.placed,
  Metadata.ofJson?_stamped
-/
import Turnstile.Metadata
import Turnstile.Proofs.Json.Shape

/-!
Texts and labels are read as they stand on the wire.  The server stamps the metadata of every object that it
writes with a namespace and a version; that changes what is read of these two and nothing else.
-/

namespace Turnstile.Metadata

theorem shape_eq : shape = .record shape.fields := rfl

theorem nodup_keys : (shape.fields.map Prod.fst).Nodup := by decide

/-- The metadata as the server stamps them. -/
def stamped (namespaceName version : String) (json : Json) : Json :=
  (json.set "namespace" (.string namespaceName)).set "resourceVersion" (.string version)

/-- Metadata are read from what remains of a value that has their shape. -/
theorem ofJson?_eq_some {json : Json} {metadata : Metadata} (read : ofJson? json = some metadata) :
    ∃ shaped, Shape.fit? (.record shape.fields) json = some shaped ∧ metadata = ofShaped shaped := by
  obtain ⟨shaped, fits, equal⟩ := Option.map_eq_some_iff.mp read
  exact ⟨shaped, fits, equal.symm⟩

/-- The name is read as it stands. -/
theorem name_ofJson? {json : Json} {metadata : Metadata} (read : ofJson? json = some metadata) :
    metadata.name = (json.get? "name").bind Json.text? := by
  obtain ⟨shaped, fits, rfl⟩ := ofJson?_eq_some read
  exact Shape.text_of_fit? "name" nodup_keys fits (by simp [shape, Shape.fields])

/-- The version is read as it stands. -/
theorem resourceVersion_ofJson? {json : Json} {metadata : Metadata} (read : ofJson? json = some metadata) :
    metadata.resourceVersion = (json.get? "resourceVersion").bind Json.text? := by
  obtain ⟨shaped, fits, rfl⟩ := ofJson?_eq_some read
  exact Shape.text_of_fit? "resourceVersion" nodup_keys fits (by simp [shape, Shape.fields])

/-- A table of texts is looked up as it stands. -/
theorem lookup_tableOf {entries : List (String × Json)} (texts : ∀ entry ∈ entries, ∃ text, entry.2 = .string text)
    (key : String) : (tableOf (.object entries)).lookup key = (entries.lookup key).bind Json.text? := by
  unfold tableOf
  simp only [Json.members?, Option.getD_some]
  induction entries with
  | nil => rfl
  | cons entry rest inductionHypothesis =>
      rcases entry with ⟨name, json⟩
      obtain ⟨text, isText⟩ := texts (name, json) List.mem_cons_self
      simp only at isText
      subst isText
      simp only [List.filterMap_cons, Json.text?, Option.map_some]
      by_cases here : name = key
      · subst here
        rw [List.lookup_cons_self, List.lookup_cons_self]
        rfl
      · rw [Members.lookup_cons_of_ne here, Members.lookup_cons_of_ne here]
        exact inductionHypothesis fun entry member => texts entry (List.mem_cons_of_mem _ member)

/-- A label is read as it stands. -/
theorem label?_ofJson? {json : Json} {metadata : Metadata} (read : ofJson? json = some metadata) (key : String) :
    metadata.label? key = (json.at? ["labels", key]).bind Json.text? := by
  obtain ⟨shaped, fits, rfl⟩ := ofJson?_eq_some read
  have known := Shape.table_of_fit? "labels" nodup_keys fits (by simp [shape, Shape.fields])
  simp only [label?, ofShaped, Json.at?]
  rcases known with ⟨absent, nothing⟩ | ⟨entries, found, remains, texts⟩
  · rw [nothing]
    rcases absent with missing | null
    · rw [missing]
      rfl
    · rw [null]
      rfl
  · rw [remains, found]
    simp only [Option.map_some, Option.bind_some, lookup_tableOf texts, Json.get?_object]
    cases entries.lookup key <;> rfl

/-- The metadata that are read once the server has stamped them. -/
def placed (metadata : Metadata) (namespaceName version : String) : Metadata :=
  { metadata with namespaceName := some namespaceName, resourceVersion := some version }

/-- Stamped metadata can be read if the metadata can, and only namespace and version are read anew. -/
theorem ofJson?_stamped {json : Json} {metadata : Metadata} (read : ofJson? json = some metadata)
    (namespaceName version : String) :
    ofJson? (stamped namespaceName version json) = some (metadata.placed namespaceName version) := by
  obtain ⟨shaped, fits, rfl⟩ := ofJson?_eq_some read
  obtain ⟨spaced, spacedFits, spacedName, spacedSame⟩ :=
    Shape.fit?_set "namespace" nodup_keys fits (by simp [shape, Shape.fields]) (Json.string_ne_null namespaceName)
      (Shape.fit?_text_iff.mpr ⟨_, rfl, rfl⟩)
  obtain ⟨dated, datedFits, datedVersion, datedSame⟩ :=
    Shape.fit?_set "resourceVersion" nodup_keys spacedFits (by simp [shape, Shape.fields])
      (Json.string_ne_null version) (Shape.fit?_text_iff.mpr ⟨_, rfl, rfl⟩)
  have datedName : dated.get? "namespace" = some (.string namespaceName) := by
    rw [datedSame ("namespace", .optional, .text) (by simp [shape, Shape.fields]) (by decide)]
    exact spacedName
  have same : ∀ field ∈ shape.fields, field.1 ≠ "namespace" → field.1 ≠ "resourceVersion" →
      dated.get? field.1 = shaped.get? field.1 := by
    intro field member notPlace notVersion
    rw [datedSame field member notVersion, spacedSame field member notPlace]
  have name := same ("name", .optional, .text) (by simp [shape, Shape.fields]) (by decide) (by decide)
  have stem := same ("generateName", .optional, .text) (by simp [shape, Shape.fields]) (by decide) (by decide)
  have uid := same ("uid", .optional, .text) (by simp [shape, Shape.fields]) (by decide) (by decide)
  have labels := same ("labels", .optional, .table .text) (by simp [shape, Shape.fields]) (by decide) (by decide)
  have annotations :=
    same ("annotations", .optional, .table .text) (by simp [shape, Shape.fields]) (by decide) (by decide)
  have owners := same ("ownerReferences", .optional, .list OwnerReference.shape)
    (by simp [shape, Shape.fields]) (by decide) (by decide)
  have others : ((dated.members?.getD []).filter fun member => (otherFields.map Prod.fst).contains member.1) =
      (shaped.members?.getD []).filter fun member => (otherFields.map Prod.fst).contains member.1 := by
    obtain ⟨members, kept, rfl, keptFits, rfl⟩ := Shape.members_of_fit? fits
    obtain ⟨_, left, isSet, leftFits, rfl⟩ := Shape.members_of_fit? datedFits
    cases isSet
    refine Shape.filter_fitFields?_congr (otherFields.map Prod.fst).contains ?_ leftFits keptFits
    intro field _ other
    have apart : ∀ key, (otherFields.map Prod.fst).contains key = false → key ≠ field.1 := by
      rintro key absent rfl
      rw [absent] at other
      cases other
    apply Shape.fitField?_congr
    rw [Members.lookup_put_of_ne (apart "resourceVersion" (by decide))]
    exact Members.lookup_put_of_ne (apart "namespace" (by decide)) _ members
  unfold ofJson? stamped
  rw [shape_eq, datedFits]
  simp only [Option.map_some, placed, ofShaped, name, stem, uid, labels, annotations, owners, others, datedName,
    datedVersion, Option.bind_some, Json.text?]

end Turnstile.Metadata
