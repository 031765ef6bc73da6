/-
Module: Turnstile.Proofs.Json.Shape
Purpose: What remains of the fields of a record that has its shape, and how setting one field changes that.
Main exports: Shape.fields, Shape.get?_of_fit?, Shape.fit?_set, Shape.text_of_fit?, Shape.table_of_fit?
-/
import Mathlib.Data.List.Nodup
import Turnstile.Json.Shape
import Turnstile.Proofs.Json.Members

/-!
A record fits its shape exactly if each of its fields does, and a field looks at nothing but the member of its
own key.  So what remains under a key is what the field makes of the member of that key, and setting one
member to a value that fits changes what remains under that key alone.
-/

namespace Turnstile.Shape

/-- The fields of a record shape. -/
def fields : Shape → List (String × Presence × Shape)
  | .record fields => fields
  | _ => []

/-- The member that remains for a field has the key of the field. -/
theorem key_of_fitField? {field : String × Presence × Shape} {members : List (String × Json)}
    {member : String × Json} (fits : fitField? field members = some (some member)) :
    member.1 = field.1 := by
  rcases field with ⟨key, presence, shape⟩
  unfold fitField? at fits
  cases presence with
  | optional =>
      simp only at fits
      split at fits
      · cases fits
      · cases fits
      · obtain ⟨value, _, equal⟩ := Option.map_eq_some_iff.mp fits
        rw [← Option.some.inj equal]
  | required =>
      simp only at fits
      split at fits
      · rw [← Option.some.inj (Option.some.inj fits)]
      · rw [← Option.some.inj (Option.some.inj fits)]
      · obtain ⟨value, _, equal⟩ := Option.map_eq_some_iff.mp fits
        rw [← Option.some.inj equal]
  | fixed word =>
      simp only at fits
      split at fits
      · rw [← Option.some.inj (Option.some.inj fits)]
      · split at fits
        · rw [← Option.some.inj (Option.some.inj fits)]
        · cases fits
      · cases fits

/-- A member that has its only possible text fits. -/
theorem fitField?_fixed {key word : String} {shape : Shape} {members : List (String × Json)}
    (found : members.lookup key = some (.string word)) :
    fitField? (key, .fixed word, shape) members = some (some (key, .string word)) := by
  unfold fitField?
  simp only [found, if_true]

/-- A required member that is there fits if its value does. -/
theorem fitField?_required {key : String} {shape : Shape} {members : List (String × Json)} {json value : Json}
    (found : members.lookup key = some json) (present : json ≠ .null) (fits : fit? shape json = some value) :
    fitField? (key, .required, shape) members = some (some (key, value)) := by
  unfold fitField?
  rw [found]
  cases json with
  | null => exact absurd rfl present
  | _ => simp only [fits, Option.map_some]

/-- A field looks at nothing but the member of its key. -/
theorem fitField?_congr {field : String × Presence × Shape} {members others : List (String × Json)}
    (same : members.lookup field.1 = others.lookup field.1) :
    fitField? field members = fitField? field others := by
  rcases field with ⟨key, presence, shape⟩
  unfold fitField?
  cases presence <;> simp only at same ⊢ <;> rw [same]

/-- A record looks at nothing but what its fields look at. -/
theorem fitFields?_congr {fields : List (String × Presence × Shape)} {members others : List (String × Json)}
    (same : ∀ field ∈ fields, fitField? field members = fitField? field others) :
    fitFields? fields members = fitFields? fields others := by
  induction fields with
  | nil =>
      unfold fitFields?
      rfl
  | cons first rest inductionHypothesis =>
      unfold fitFields?
      rw [same first List.mem_cons_self,
        inductionHypothesis fun field member => same field (List.mem_cons_of_mem first member)]

/-- Every field of a record that fits does fit. -/
theorem fitField?_of_fitFields? {fields : List (String × Presence × Shape)} {members : List (String × Json)} :
    ∀ {kept : List (String × Json)}, fitFields? fields members = some kept →
      ∀ field ∈ fields, ∃ found, fitField? field members = some found := by
  induction fields with
  | nil =>
      intro kept _ field member
      cases member
  | cons first rest inductionHypothesis =>
      intro kept fits field member
      unfold fitFields? at fits
      split at fits
      · rename_i found later firstFits restFits
        rcases List.mem_cons.mp member with here | there
        · rw [here]
          exact ⟨found, firstFits⟩
        · exact inductionHypothesis restFits field there
      · cases fits

/-- A record fits if every field does. -/
theorem fitFields?_of_fitField? {fields : List (String × Presence × Shape)} {members : List (String × Json)}
    (fit : ∀ field ∈ fields, ∃ found, fitField? field members = some found) :
    ∃ kept, fitFields? fields members = some kept := by
  induction fields with
  | nil => exact ⟨[], by unfold fitFields?; rfl⟩
  | cons first rest inductionHypothesis =>
      obtain ⟨found, firstFits⟩ := fit first List.mem_cons_self
      obtain ⟨later, restFits⟩ :=
        inductionHypothesis fun field member => fit field (List.mem_cons_of_mem first member)
      exact ⟨found.toList ++ later, by unfold fitFields?; rw [firstFits, restFits]⟩

/-- Nothing remains under a key that no field has. -/
theorem lookup_fitFields?_of_notMem {fields : List (String × Presence × Shape)}
    {members : List (String × Json)} {key : String} :
    ∀ {kept : List (String × Json)}, fitFields? fields members = some kept →
      key ∉ fields.map Prod.fst → kept.lookup key = none := by
  induction fields with
  | nil =>
      intro kept fits _
      unfold fitFields? at fits
      cases fits
      rfl
  | cons first rest inductionHypothesis =>
      intro kept fits absent
      simp only [List.map_cons, List.mem_cons, not_or] at absent
      unfold fitFields? at fits
      split at fits
      · rename_i found later firstFits restFits
        cases fits
        cases found with
        | none => exact inductionHypothesis restFits absent.2
        | some member =>
            rcases member with ⟨name, value⟩
            have own : name = first.1 := key_of_fitField? firstFits
            simp only [Option.toList_some, List.cons_append, List.nil_append]
            rw [Members.lookup_cons_of_ne fun equal => absent.1 (equal.symm.trans own)]
            exact inductionHypothesis restFits absent.2
      · cases fits

/-- What remains under the key of a field is what the field makes of its member. -/
theorem lookup_fitFields? {fields : List (String × Presence × Shape)} {members : List (String × Json)} :
    ∀ {kept : List (String × Json)}, (fields.map Prod.fst).Nodup → fitFields? fields members = some kept →
      ∀ field ∈ fields, ∀ found, fitField? field members = some found →
        kept.lookup field.1 = found.map Prod.snd := by
  induction fields with
  | nil =>
      intro kept _ _ field member
      cases member
  | cons first rest inductionHypothesis =>
      intro kept distinct fits field member found fieldFits
      rw [List.map_cons, List.nodup_cons] at distinct
      unfold fitFields? at fits
      split at fits
      · rename_i firstFound later firstFits restFits
        cases fits
        rcases List.mem_cons.mp member with here | there
        · subst here
          rw [fieldFits] at firstFits
          cases firstFits
          cases found with
          | none => exact lookup_fitFields?_of_notMem restFits distinct.1
          | some present =>
              rcases present with ⟨name, value⟩
              have own : name = field.1 := key_of_fitField? fieldFits
              simp only [Option.toList_some, List.cons_append, List.nil_append, Option.map_some]
              rw [← own]
              exact List.lookup_cons_self
        · have apart : first.1 ≠ field.1 := fun equal =>
            distinct.1 (equal ▸ List.mem_map_of_mem there)
          have known := inductionHypothesis distinct.2 restFits field there found fieldFits
          cases firstFound with
          | none => exact known
          | some present =>
              rcases present with ⟨name, value⟩
              have own : name = first.1 := key_of_fitField? firstFits
              simp only [Option.toList_some, List.cons_append, List.nil_append]
              rw [Members.lookup_cons_of_ne (by rw [own]; exact apart)]
              exact known
      · cases fits

/-- What remains under some keys is determined by what the fields of these keys look at. -/
theorem filter_fitFields?_congr {fields : List (String × Presence × Shape)} {members others : List (String × Json)}
    (chosen : String → Bool) :
    ∀ {kept left : List (String × Json)},
      (∀ field ∈ fields, chosen field.1 = true → fitField? field members = fitField? field others) →
      fitFields? fields members = some kept → fitFields? fields others = some left →
      (kept.filter fun member => chosen member.1) = left.filter fun member => chosen member.1 := by
  induction fields with
  | nil =>
      intro kept left _ fits fitsOthers
      unfold fitFields? at fits fitsOthers
      cases fits
      cases fitsOthers
      rfl
  | cons first rest inductionHypothesis =>
      intro kept left same fits fitsOthers
      unfold fitFields? at fits fitsOthers
      split at fits
      · rename_i found later firstFits restFits
        split at fitsOthers
        · rename_i other latest otherFits othersFit
          cases fits
          cases fitsOthers
          rw [List.filter_append, List.filter_append,
            inductionHypothesis (fun field member => same field (List.mem_cons_of_mem first member)) restFits
              othersFit]
          congr 1
          cases counts : chosen first.1 with
          | true =>
              rw [same first List.mem_cons_self counts, otherFits] at firstFits
              cases firstFits
              rfl
          | false =>
              -- A field that is not chosen leaves nothing on either side.
              have dropped : ∀ {given : List (String × Json)} {remains : Option (String × Json)},
                  fitField? first given = some remains →
                    (remains.toList.filter fun member => chosen member.1) = [] := by
                intro given remains fit
                cases remains with
                | none => rfl
                | some member =>
                    have own := key_of_fitField? fit
                    simp [own, counts]
              rw [dropped firstFits, dropped otherFits]
        · cases fitsOthers
      · cases fits

/-! ### Records as values -/

theorem fit?_record (fields : List (String × Presence × Shape)) (members : List (String × Json)) :
    fit? (.record fields) (.object members) = (fitFields? fields members).map .object := by
  unfold fit?
  rfl

/-- A value that fits a record shape has members, of which those remain that fit the fields. -/
theorem members_of_fit? {fields : List (String × Presence × Shape)} {json shaped : Json}
    (fits : fit? (.record fields) json = some shaped) :
    ∃ members kept, json = .object members ∧ fitFields? fields members = some kept ∧
      shaped = .object kept := by
  unfold fit? at fits
  obtain ⟨kept, found, equal⟩ := Option.map_eq_some_iff.mp fits
  obtain ⟨members, object, fit⟩ := Option.bind_eq_some_iff.mp found
  refine ⟨members, kept, ?_, fit, equal.symm⟩
  cases json with
  | object given => cases object; rfl
  | _ => cases object

/-- What remains under the key of an optional field: nothing if the member is absent or null, and otherwise
what the shape of the field makes of it. -/
theorem get?_of_fit? {fields : List (String × Presence × Shape)} {json shaped : Json} (key : String)
    {shape : Shape} (distinct : (fields.map Prod.fst).Nodup) (fits : fit? (.record fields) json = some shaped)
    (member : (key, .optional, shape) ∈ fields) :
    ((json.get? key = none ∨ json.get? key = some .null) ∧ shaped.get? key = none) ∨
      ∃ value kept, json.get? key = some value ∧ fit? shape value = some kept ∧
        shaped.get? key = some kept := by
  obtain ⟨members, kept, rfl, fit, rfl⟩ := members_of_fit? fits
  obtain ⟨found, fieldFits⟩ := fitField?_of_fitFields? fit _ member
  have known := lookup_fitFields? distinct fit _ member found fieldFits
  simp only [Json.get?_object] at known ⊢
  rw [known]
  unfold fitField? at fieldFits
  split at fieldFits
  · rename_i absent
    cases fieldFits
    exact Or.inl ⟨Or.inl absent, rfl⟩
  · rename_i absent
    cases fieldFits
    exact Or.inl ⟨Or.inr absent, rfl⟩
  · rename_i value _ present
    obtain ⟨shapedValue, valueFits, equal⟩ := Option.map_eq_some_iff.mp fieldFits
    exact Or.inr ⟨value, shapedValue, present, valueFits, by rw [← equal]; rfl⟩

/-- Setting a field to a value that fits keeps the record in shape and changes that field alone. -/
theorem fit?_set {fields : List (String × Presence × Shape)} {json shaped value kept : Json} (key : String)
    {shape : Shape} (distinct : (fields.map Prod.fst).Nodup) (fits : fit? (.record fields) json = some shaped)
    (member : (key, .optional, shape) ∈ fields) (present : value ≠ .null)
    (valueFits : fit? shape value = some kept) :
    ∃ next, fit? (.record fields) (json.set key value) = some next ∧ next.get? key = some kept ∧
      ∀ field ∈ fields, field.1 ≠ key → next.get? field.1 = shaped.get? field.1 := by
  obtain ⟨members, before, rfl, fit, rfl⟩ := members_of_fit? fits
  have own : fitField? (key, .optional, shape) (Members.put key value members) =
      some (some (key, kept)) := by
    unfold fitField?
    simp only [Members.lookup_put_self, valueFits]
    rfl
  have others : ∀ field ∈ fields, field.1 ≠ key →
      fitField? field (Members.put key value members) = fitField? field members := by
    intro field _ apart
    exact fitField?_congr (Members.lookup_put_of_ne (fun equal => apart equal.symm) value members)
  -- Keys are distinct, so a field with this key is the field that was set.
  have unique : ∀ field ∈ fields, field.1 = key → field = (key, .optional, shape) := by
    intro field there equal
    exact List.inj_on_of_nodup_map distinct there member equal
  have all : ∀ field ∈ fields, ∃ found, fitField? field (Members.put key value members) = some found := by
    intro field there
    by_cases same : field.1 = key
    · rw [unique field there same]
      exact ⟨_, own⟩
    · rw [others field there same]
      exact fitField?_of_fitFields? fit field there
  obtain ⟨after, fitAfter⟩ := fitFields?_of_fitField? all
  refine ⟨.object after, ?_, ?_, ?_⟩
  · unfold fit?
    simp [Json.set, Json.members?, fitAfter]
  · exact lookup_fitFields? distinct fitAfter _ member _ own
  · intro field there apart
    obtain ⟨found, fieldFits⟩ := fitField?_of_fitFields? fit field there
    rw [Json.get?_object, Json.get?_object, lookup_fitFields? distinct fit field there found fieldFits]
    exact lookup_fitFields? distinct fitAfter field there found
      ((others field there apart).trans fieldFits)

/-! ### Texts and tables of texts -/

/-- Only a text fits the shape of texts, and it remains as it is. -/
theorem fit?_text_iff {json shaped : Json} :
    fit? .text json = some shaped ↔ ∃ text, json = .string text ∧ shaped = .string text := by
  unfold fit?
  cases json <;> simp [Json.text?, eq_comm]

/-- A table of texts remains as it is. -/
theorem fitTable_text {members kept : List (String × Json)}
    (fits : fitTable (fit? .text) members = some kept) :
    kept = members ∧ ∀ member ∈ members, ∃ text, member.2 = .string text := by
  induction members generalizing kept with
  | nil =>
      cases fits
      exact ⟨rfl, by intro member impossible; cases impossible⟩
  | cons member rest inductionHypothesis =>
      rcases member with ⟨key, json⟩
      unfold fitTable at fits
      split at fits
      · rename_i value values first later
        cases fits
        obtain ⟨text, isText, remains⟩ := fit?_text_iff.mp first
        obtain ⟨same, texts⟩ := inductionHypothesis later
        refine ⟨by rw [same, isText, remains], ?_⟩
        intro member there
        rcases List.mem_cons.mp there with here | deeper
        · exact ⟨text, by rw [here]; exact isText⟩
        · exact texts member deeper
      · cases fits

/-- An optional text remains as it is. -/
theorem text_of_fit? {fields : List (String × Presence × Shape)} {json shaped : Json} (key : String)
    (distinct : (fields.map Prod.fst).Nodup) (fits : fit? (.record fields) json = some shaped)
    (member : (key, .optional, .text) ∈ fields) :
    (shaped.get? key).bind Json.text? = (json.get? key).bind Json.text? := by
  rcases get?_of_fit? key distinct fits member with ⟨absent, nothing⟩ | ⟨value, kept, found, valueFits, remains⟩
  · rcases absent with missing | null
    · rw [nothing, missing]
    · rw [nothing, null]
      rfl
  · obtain ⟨text, isText, same⟩ := fit?_text_iff.mp valueFits
    rw [remains, found, isText, same]

/-- An optional table of texts remains as it is; null counts as absent. -/
theorem table_of_fit? {fields : List (String × Presence × Shape)} {json shaped : Json} (key : String)
    (distinct : (fields.map Prod.fst).Nodup) (fits : fit? (.record fields) json = some shaped)
    (member : (key, .optional, .table .text) ∈ fields) :
    ((json.get? key = none ∨ json.get? key = some .null) ∧ shaped.get? key = none) ∨
      ∃ entries, json.get? key = some (.object entries) ∧ shaped.get? key = some (.object entries) ∧
        ∀ entry ∈ entries, ∃ text, entry.2 = .string text := by
  rcases get?_of_fit? key distinct fits member with absent | ⟨value, kept, found, valueFits, remains⟩
  · exact Or.inl absent
  · unfold fit? at valueFits
    obtain ⟨entries, fit, equal⟩ := Option.map_eq_some_iff.mp valueFits
    obtain ⟨given, object, fit⟩ := Option.bind_eq_some_iff.mp fit
    obtain ⟨same, texts⟩ := fitTable_text fit
    cases value with
    | object members =>
        cases object
        exact Or.inr ⟨given, found, by rw [remains, ← equal, same], texts⟩
    | _ => cases object

/-! ### Lists -/

/-- A list of values that remain as they are remains as it is. -/
theorem fit?_list_map {α : Type} {shape : Shape} {encode : α → Json}
    (remains : ∀ value, fit? shape (encode value) = some (encode value)) (values : List α) :
    fit? (.list shape) (.array (values.map encode)) = some (.array (values.map encode)) := by
  have items : (values.map encode).mapM (fit? shape) = some (values.map encode) := by
    induction values with
    | nil => rfl
    | cons value rest inductionHypothesis =>
        rw [List.map_cons, List.mapM_cons, remains value, inductionHypothesis]
        rfl
  unfold fit?
  simp only [Json.items?, Option.bind_some, items, Option.map_some]

end Turnstile.Shape
