/-
Module: Turnstile.Proofs.Condition.Recording
Purpose: What a list of conditions says after an observation has been recorded.
Main exports: Condition.find?_set_self, Condition.find?_set_of_ne, Condition.map_type_set,
  Condition.isTrueFor_set_self
-/
import Turnstile.Condition

/-!
Recording an observation is seen through `find?`: the first condition of the observed type now says what was
observed, and the first condition of any other type is what it was.  The types in the list stay in place, and
a type that was not there comes last, so distinct types stay distinct.
-/

namespace Turnstile.Condition

/-- What stands in the place of a condition keeps its type when the observation has that type. -/
theorem type_updated {now : String} {present new : Condition} (same : present.type = new.type) :
    (present.updated now new).type = new.type := by
  unfold updated
  split
  · exact same
  · split <;> rfl

/-- What stands in the place of a condition says what was observed. -/
theorem saysSame_updated (now : String) (present new : Condition) :
    (present.updated now new).saysSame new = true := by
  unfold updated
  split
  · assumption
  · split <;> simp [saysSame]

/-- Two conditions that say the same have the same status and the same reason. -/
theorem eq_of_saysSame {first second : Condition} (same : first.saysSame second = true) :
    first.status = second.status ∧ first.reason = second.reason ∧ first.message = second.message := by
  simpa [saysSame, and_assoc] using same

theorem find?_cons_self {present : Condition} {rest : List Condition} {type : String}
    (same : present.type = type) : find? (present :: rest) type = some present := by
  simp [find?, same]

theorem find?_cons_of_ne {present : Condition} {rest : List Condition} {type : String}
    (other : present.type ≠ type) : find? (present :: rest) type = find? rest type := by
  simp [find?, other]

/-- After an observation the first condition of its type says what was observed. -/
theorem find?_set_self (now : String) (new : Condition) (conditions : List Condition) :
    ∃ kept, find? (set now new conditions) new.type = some kept ∧ kept.saysSame new = true := by
  induction conditions with
  | nil =>
      refine ⟨{ new with lastTransitionTime := some now }, ?_, by simp [saysSame]⟩
      exact find?_cons_self rfl
  | cons present rest inductionHypothesis =>
      by_cases same : present.type = new.type
      · refine ⟨present.updated now new, ?_, saysSame_updated now present new⟩
        simp only [set, same, beq_self_eq_true, if_true]
        exact find?_cons_self (type_updated same)
      · simp only [set, beq_eq_false_iff_ne.mpr same, Bool.false_eq_true, if_false]
        rw [find?_cons_of_ne same]
        exact inductionHypothesis

/-- An observation leaves the first condition of every other type alone. -/
theorem find?_set_of_ne {type : String} (now : String) {new : Condition} (conditions : List Condition)
    (other : new.type ≠ type) :
    find? (set now new conditions) type = find? conditions type := by
  induction conditions with
  | nil => exact find?_cons_of_ne other
  | cons present rest inductionHypothesis =>
      by_cases same : present.type = new.type
      · simp only [set, same, beq_self_eq_true, if_true]
        rw [find?_cons_of_ne (by rw [type_updated same]; exact other),
          find?_cons_of_ne (by rw [same]; exact other)]
      · simp only [set, beq_eq_false_iff_ne.mpr same, Bool.false_eq_true, if_false]
        by_cases here : present.type = type
        · rw [find?_cons_self here, find?_cons_self here]
        · rw [find?_cons_of_ne here, find?_cons_of_ne here]
          exact inductionHypothesis

/-- The types stay in place; a type that was not there comes last. -/
theorem map_type_set (now : String) (new : Condition) (conditions : List Condition) :
    (set now new conditions).map Condition.type =
      if new.type ∈ conditions.map Condition.type then conditions.map Condition.type
      else conditions.map Condition.type ++ [new.type] := by
  induction conditions with
  | nil => simp [set]
  | cons present rest inductionHypothesis =>
      by_cases same : present.type = new.type
      · simp [set, same, type_updated same]
      · have other : new.type ≠ present.type := fun equal => same equal.symm
        simp only [set, beq_eq_false_iff_ne.mpr same, Bool.false_eq_true, if_false, List.map_cons,
          inductionHypothesis, List.mem_cons, other, false_or]
        split <;> simp

/-- Distinct types stay distinct. -/
theorem nodup_map_type_set {conditions : List Condition} (now : String) (new : Condition)
    (distinct : (conditions.map Condition.type).Nodup) :
    ((set now new conditions).map Condition.type).Nodup := by
  rw [map_type_set]
  split
  · exact distinct
  · rename_i absent
    rw [List.nodup_append]
    refine ⟨distinct, by simp, ?_⟩
    intro type member other last
    rw [List.mem_singleton.mp last]
    exact fun equal => absent (equal ▸ member)

/-- The type is there exactly when a condition of the type is found. -/
theorem isSome_find?_iff (conditions : List Condition) (type : String) :
    (find? conditions type).isSome = true ↔ type ∈ conditions.map Condition.type := by
  simp [find?, List.mem_map]

/-- After an observation its type holds exactly if it was observed to hold. -/
theorem isTrueFor_set_self (now : String) (new : Condition) (conditions : List Condition) :
    isTrueFor (set now new conditions) new.type = new.isTrue := by
  obtain ⟨kept, found, same⟩ := find?_set_self now new conditions
  simp [isTrueFor, found, isTrue, (eq_of_saysSame same).1]

@[simp] theorem type_observed (type : String) (holds : Bool) (reason message : String) :
    (observed type holds reason message).type = type := rfl

@[simp] theorem status_observed (type : String) (holds : Bool) (reason message : String) :
    (observed type holds reason message).status = if holds then statusTrue else statusFalse := rfl

/-- An observation holds exactly when it says so. -/
@[simp] theorem isTrue_observed (type : String) (holds : Bool) (reason message : String) :
    (observed type holds reason message).isTrue = holds := by
  cases holds <;> simp [isTrue, statusTrue, statusFalse]

end Turnstile.Condition
