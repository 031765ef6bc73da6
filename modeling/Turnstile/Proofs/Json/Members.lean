/-
Module: Turnstile.Proofs.Json.Members
Purpose: Looking up members after they were put, removed or merged.
Main exports: Members.lookup_put_self, Members.lookup_put_of_ne, Json.get?_set_self, Json.get?_set_of_ne,
  Json.get?_mergePatch_of_notMem, Json.get?_mergePatch_compact_whole, Json.get?_mergePatch_compact_none
-/
import Mathlib.Data.List.Nodup
import Turnstile.Json.MergePatch

/-!
Readers look members up by key, so an operation on members is known by what it does to the lookup of each key:
the key that is written gets its value, and every other key keeps its own.
-/

namespace Turnstile

namespace Members

variable {α : Type} {key other : String}

theorem lookup_cons_of_ne {κ : Type} [BEq κ] [LawfulBEq κ] {key other : κ} (distinct : key ≠ other) (value : α)
    (members : List (κ × α)) : ((key, value) :: members).lookup other = members.lookup other := by
  have check : (other == key) = false := beq_eq_false_iff_ne.mpr fun equal => distinct equal.symm
  rw [List.lookup_cons, check]

/-- A member that was put is found. -/
theorem lookup_put_self (key : String) (value : α) (members : List (String × α)) :
    (put key value members).lookup key = some value := by
  induction members with
  | nil => exact List.lookup_cons_self
  | cons member rest inductionHypothesis =>
      rcases member with ⟨name, present⟩
      by_cases same : name = key
      · simp only [put, same, if_true]
        exact List.lookup_cons_self
      · simp only [put, same, if_false]
        rw [lookup_cons_of_ne same]
        exact inductionHypothesis

/-- Putting a member leaves the other keys alone. -/
theorem lookup_put_of_ne (distinct : key ≠ other) (value : α) (members : List (String × α)) :
    (put key value members).lookup other = members.lookup other := by
  induction members with
  | nil => exact lookup_cons_of_ne distinct value []
  | cons member rest inductionHypothesis =>
      rcases member with ⟨name, present⟩
      by_cases same : name = key
      · subst same
        simp only [put, if_true]
        rw [lookup_cons_of_ne distinct, lookup_cons_of_ne distinct]
      · simp only [put, same, if_false]
        by_cases here : name = other
        · subst here
          rw [List.lookup_cons_self, List.lookup_cons_self]
        · rw [lookup_cons_of_ne here, lookup_cons_of_ne here]
          exact inductionHypothesis

/-- Removing a key leaves the other keys alone. -/
theorem lookup_erase_of_ne (distinct : key ≠ other) (members : List (String × α)) :
    (erase key members).lookup other = members.lookup other := by
  induction members with
  | nil => rfl
  | cons member rest inductionHypothesis =>
      rcases member with ⟨name, present⟩
      unfold erase at inductionHypothesis ⊢
      by_cases same : name = key
      · subst same
        rw [List.filter_cons_of_neg (by simp), lookup_cons_of_ne distinct]
        exact inductionHypothesis
      · rw [List.filter_cons_of_pos (by simpa using same)]
        by_cases here : name = other
        · subst here
          rw [List.lookup_cons_self, List.lookup_cons_self]
        · rw [lookup_cons_of_ne here, lookup_cons_of_ne here]
          exact inductionHypothesis

/-- A key that is removed is not found. -/
theorem lookup_erase_self (key : String) (members : List (String × α)) :
    (erase key members).lookup key = none := by
  rw [List.lookup_eq_none_iff]
  intro member kept
  have apart : member.1 ≠ key := bne_iff_ne.mp (List.mem_filter.mp kept).2
  exact bne_iff_ne.mpr apart.symm

/-- A key that is removed is no key of what remains. -/
theorem notMem_map_fst_erase (key : String) (members : List (String × α)) :
    key ∉ (erase key members).map Prod.fst := by
  simp [erase]

end Members

namespace Json

theorem string_ne_null (text : String) : Json.string text ≠ .null := by simp

theorem object_ne_null (members : List (String × Json)) : Json.object members ≠ .null := by simp

theorem get?_object (members : List (String × Json)) (key : String) :
    (Json.object members).get? key = members.lookup key := rfl

/-- A member that was set is found. -/
@[simp] theorem get?_set_self (json : Json) (key : String) (value : Json) :
    (json.set key value).get? key = some value :=
  Members.lookup_put_self key value (json.members?.getD [])

/-- Setting a member leaves the other keys alone. -/
theorem get?_set_of_ne {key other : String} (distinct : key ≠ other) (json value : Json) :
    (json.set key value).get? other = json.get? other := by
  rw [set, get?_object, Members.lookup_put_of_ne distinct]
  cases json <;> rfl

/-! ### Merge patches -/

/-- A change merges no key but its own. -/
theorem lookup_mergeMember_of_ne {key : String} (members : List (String × Json)) (change : String × Json)
    (distinct : change.1 ≠ key) : (mergeMember members change).lookup key = members.lookup key := by
  rcases change with ⟨name, value⟩
  unfold mergeMember
  split
  · rename_i equal
    cases equal
    exact Members.lookup_erase_of_ne distinct members
  · rename_i equal
    cases equal
    exact Members.lookup_put_of_ne distinct _ members

/-- A change that is not null is merged into what stands under its key. -/
theorem lookup_mergeMember_self {key : String} {value : Json} (members : List (String × Json))
    (present : value ≠ .null) :
    (mergeMember members (key, value)).lookup key =
      some (mergePatch ((members.lookup key).getD .null) value) := by
  unfold mergeMember
  split
  · rename_i equal
    cases equal
    exact absurd rfl present
  · rename_i equal
    cases equal
    exact Members.lookup_put_self _ _ members

/-- Changes leave alone the keys that they do not name. -/
theorem lookup_mergeMembers_of_notMem {key : String} (changes : List (String × Json)) :
    ∀ (members : List (String × Json)), key ∉ changes.map Prod.fst →
      (mergeMembers members changes).lookup key = members.lookup key := by
  induction changes with
  | nil =>
      intro members _
      unfold mergeMembers
      rfl
  | cons change rest inductionHypothesis =>
      intro members absent
      simp only [List.map_cons, List.mem_cons, not_or] at absent
      unfold mergeMembers
      rw [inductionHypothesis _ absent.2]
      exact lookup_mergeMember_of_ne members change fun equal => absent.1 equal.symm

/-- Among changes of distinct keys, one that is not null is merged into what stood under its key. -/
theorem lookup_mergeMembers_of_mem {key : String} {value : Json} (changes : List (String × Json)) :
    ∀ (members : List (String × Json)), (changes.map Prod.fst).Nodup → (key, value) ∈ changes →
      value ≠ .null →
      (mergeMembers members changes).lookup key =
        some (mergePatch ((members.lookup key).getD .null) value) := by
  induction changes with
  | nil =>
      intro members _ member
      cases member
  | cons change rest inductionHypothesis =>
      intro members distinct member present
      rw [List.map_cons, List.nodup_cons] at distinct
      unfold mergeMembers
      rcases List.mem_cons.mp member with here | there
      · subst here
        rw [lookup_mergeMembers_of_notMem rest _ distinct.1]
        exact lookup_mergeMember_self members present
      · have apart : change.1 ≠ key := fun equal => distinct.1 (equal ▸ List.mem_map_of_mem there)
        rw [inductionHypothesis _ distinct.2 there present, lookup_mergeMember_of_ne members change apart]

theorem get?_eq_lookup_members (json : Json) (key : String) :
    json.get? key = (json.members?.getD []).lookup key := by
  cases json <;> rfl

/-- An object patch leaves alone the keys that it does not name. -/
theorem get?_mergePatch_of_notMem {key : String} (json : Json) (changes : List (String × Json))
    (absent : key ∉ changes.map Prod.fst) :
    (json.mergePatch (.object changes)).get? key = json.get? key := by
  unfold mergePatch
  rw [get?_object, lookup_mergeMembers_of_notMem changes _ absent, get?_eq_lookup_members json]

/-- An object patch of distinct keys merges what is not null into what stood under its key. -/
theorem get?_mergePatch_of_mem {key : String} {value : Json} (json : Json) {changes : List (String × Json)}
    (distinct : (changes.map Prod.fst).Nodup) (member : (key, value) ∈ changes) (present : value ≠ .null) :
    (json.mergePatch (.object changes)).get? key =
      some (mergePatch ((json.get? key).getD .null) value) := by
  have merged := lookup_mergeMembers_of_mem changes (json.members?.getD []) distinct member present
  rw [← get?_eq_lookup_members] at merged
  rw [← merged, mergePatch, get?_object]

/-- A value that takes the place of whatever it is merged into. -/
def IsWhole (value : Json) : Prop :=
  value ≠ .null ∧ ∀ target : Json, target.mergePatch value = value

theorem isWhole_string (text : String) : (Json.string text).IsWhole :=
  ⟨string_ne_null text, fun _ => by rw [mergePatch]⟩

theorem isWhole_integer (value : Int) : (Json.integer value).IsWhole :=
  ⟨by simp [integer], fun _ => by rw [integer, mergePatch]⟩

theorem isWhole_array (items : List Json) : (Json.array items).IsWhole :=
  ⟨by simp, fun _ => by rw [mergePatch]⟩

/-- An object patch of distinct keys puts a whole value under its key. -/
theorem get?_mergePatch_whole {key : String} {value : Json} (json : Json) {changes : List (String × Json)}
    (distinct : (changes.map Prod.fst).Nodup) (member : (key, value) ∈ changes) (whole : value.IsWhole) :
    (json.mergePatch (.object changes)).get? key = some value := by
  rw [get?_mergePatch_of_mem json distinct member whole.1, whole.2]

/-! ### Patches of those members that have a value -/

/-- The changes of a patch that leaves out what has no value. -/
def changesOf (members : List (String × Option Json)) : List (String × Json) :=
  members.filterMap fun member => member.2.map fun value => (member.1, value)

theorem mem_changesOf {members : List (String × Option Json)} {key : String} {value : Json} :
    (key, value) ∈ changesOf members ↔ (key, some value) ∈ members := by
  unfold changesOf
  rw [List.mem_filterMap]
  constructor
  · rintro ⟨⟨name, optional⟩, member, equal⟩
    obtain ⟨given, found, same⟩ := Option.map_eq_some_iff.mp equal
    cases same
    simp only at found
    rw [← found]
    exact member
  · exact fun member => ⟨_, member, rfl⟩

theorem nodup_changesOf {members : List (String × Option Json)} (distinct : (members.map Prod.fst).Nodup) :
    ((changesOf members).map Prod.fst).Nodup := by
  refine List.Sublist.nodup ?_ distinct
  clear distinct
  unfold changesOf
  induction members with
  | nil => exact List.Sublist.refl []
  | cons member rest inductionHypothesis =>
      rcases member with ⟨key, _ | value⟩
      · exact inductionHypothesis.cons key
      · exact inductionHypothesis.cons_cons key

/-- Such a patch puts a whole value under its key. -/
theorem get?_mergePatch_compact_whole {members : List (String × Option Json)} {key : String} {value : Json}
    (json : Json) (distinct : (members.map Prod.fst).Nodup) (member : (key, some value) ∈ members)
    (whole : value.IsWhole) : (json.mergePatch (.compact members)).get? key = some value :=
  get?_mergePatch_whole json (nodup_changesOf distinct) (mem_changesOf.mpr member) whole

/-- Such a patch leaves alone a member that has no value. -/
theorem get?_mergePatch_compact_none {members : List (String × Option Json)} {key : String} (json : Json)
    (distinct : (members.map Prod.fst).Nodup) (member : (key, none) ∈ members) :
    (json.mergePatch (.compact members)).get? key = json.get? key := by
  apply get?_mergePatch_of_notMem json (changesOf members)
  intro named
  obtain ⟨⟨name, value⟩, change, same⟩ := List.mem_map.mp named
  cases same
  have equal := List.inj_on_of_nodup_map distinct member (mem_changesOf.mp change) rfl
  cases equal

end Json

end Turnstile
