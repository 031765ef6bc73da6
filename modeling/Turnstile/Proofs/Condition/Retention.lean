/-
Module: Turnstile.Proofs.Condition.Retention
Purpose: What recorded observations leave of the conditions that were there: all others, and the times of those
  whose status stays.
Main exports: Condition.without, Condition.besides, Condition.besides_record, Condition.find?_record_of_find?,
  Condition.time_updated
-/
import Turnstile.Proofs.Condition.Timeless

/-!
A list may hold several conditions of one type; a recording is about the first of them.  Take the first condition
of every recorded type out of the list, and what is left is the same before and after, in the same order.  What
stands in the place of the first condition has its time as long as it has its status.
-/

namespace Turnstile.Condition

/-! ### The time -/

/-- A condition whose status stays keeps its time. -/
theorem time_updated {now : String} {present new : Condition}
    (same : (present.updated now new).status = present.status) :
    (present.updated now new).lastTransitionTime = present.lastTransitionTime := by
  unfold updated at same ⊢
  split
  · rfl
  · rename_i differs
    rw [if_neg differs] at same
    split
    · rfl
    · rename_i flips
      rw [if_neg flips] at same
      exact absurd (beq_iff_eq.mpr same.symm) flips

/-- An observation updates the first condition of its type. -/
theorem find?_set_of_find? {conditions : List Condition} {new present : Condition}
    (found : find? conditions new.type = some present) (now : String) :
    find? (set now new conditions) new.type = some (present.updated now new) := by
  induction conditions with
  | nil => cases found
  | cons first rest inductionHypothesis =>
      by_cases here : first.type = new.type
      · rw [find?_cons_self here] at found
        cases found
        simp only [set, here, beq_self_eq_true, if_true]
        exact find?_cons_self (type_updated here)
      · rw [find?_cons_of_ne here] at found
        simp only [set, beq_eq_false_iff_ne.mpr here, Bool.false_eq_true, if_false]
        rw [find?_cons_of_ne here]
        exact inductionHypothesis found

/-- Observations of distinct types update the first condition of each of these types. -/
theorem find?_record_of_find? {observations conditions : List Condition} {new present : Condition}
    (distinct : (observations.map Condition.type).Nodup) (member : new ∈ observations)
    (found : find? conditions new.type = some present) (now : String) :
    find? (record now observations conditions) new.type = some (present.updated now new) := by
  induction observations generalizing conditions with
  | nil => cases member
  | cons first rest inductionHypothesis =>
      rw [List.map_cons, List.nodup_cons] at distinct
      rw [record, List.foldl_cons, ← record]
      rcases List.mem_cons.mp member with rfl | later
      · rw [find?_record_of_notMem now distinct.1]
        exact find?_set_of_find? found now
      · apply inductionHypothesis distinct.2 later
        rw [find?_set_of_ne now conditions fun same => distinct.1 (same ▸ List.mem_map_of_mem later)]
        exact found

/-! ### The other conditions -/

/-- The conditions without the first one of a type. -/
def without (type : String) (conditions : List Condition) : List Condition :=
  conditions.eraseP fun condition => condition.type == type

/-- The conditions without the first one of each of the types. -/
def besides (types : List String) (conditions : List Condition) : List Condition :=
  types.foldl (fun kept type => without type kept) conditions

theorem without_cons_self {present : Condition} {rest : List Condition} {type : String}
    (same : present.type = type) : without type (present :: rest) = rest := by
  simp [without, same]

theorem without_cons_of_ne {present : Condition} {rest : List Condition} {type : String}
    (other : present.type ≠ type) : without type (present :: rest) = present :: without type rest := by
  simp [without, other]

/-- An observation touches no condition but the first of its type. -/
theorem without_set_self (now : String) (new : Condition) (conditions : List Condition) :
    without new.type (set now new conditions) = without new.type conditions := by
  induction conditions with
  | nil => exact without_cons_self rfl
  | cons present rest inductionHypothesis =>
      by_cases here : present.type = new.type
      · simp only [set, here, beq_self_eq_true, if_true]
        rw [without_cons_self (type_updated here), without_cons_self here]
      · simp only [set, beq_eq_false_iff_ne.mpr here, Bool.false_eq_true, if_false]
        rw [without_cons_of_ne here, without_cons_of_ne here, inductionHypothesis]

/-- An observation is recorded whether or not a condition of another type is there. -/
theorem without_set_of_ne {type : String} (now : String) {new : Condition} (other : new.type ≠ type)
    (conditions : List Condition) :
    without type (set now new conditions) = set now new (without type conditions) := by
  induction conditions with
  | nil => exact without_cons_of_ne other
  | cons present rest inductionHypothesis =>
      by_cases here : present.type = new.type
      · have apart : present.type ≠ type := fun same => other (here.symm.trans same)
        have stays : (present.updated now new).type ≠ type := by
          rw [type_updated here]
          exact other
        rw [without_cons_of_ne apart]
        simp only [set, here, beq_self_eq_true, if_true]
        exact without_cons_of_ne stays
      · by_cases taken : present.type = type
        · rw [without_cons_self taken]
          simp only [set, beq_eq_false_iff_ne.mpr here, Bool.false_eq_true, if_false]
          exact without_cons_self taken
        · rw [without_cons_of_ne taken]
          simp only [set, beq_eq_false_iff_ne.mpr here, Bool.false_eq_true, if_false]
          rw [without_cons_of_ne taken, inductionHypothesis]

theorem without_record_of_notMem {observations : List Condition} {type : String} (now : String)
    (absent : type ∉ observations.map Condition.type) (conditions : List Condition) :
    without type (record now observations conditions) = record now observations (without type conditions) := by
  induction observations generalizing conditions with
  | nil => rfl
  | cons new rest inductionHypothesis =>
      simp only [List.map_cons, List.mem_cons, not_or] at absent
      have other : new.type ≠ type := fun same => absent.1 same.symm
      simp only [record, List.foldl_cons] at inductionHypothesis ⊢
      rw [inductionHypothesis absent.2, without_set_of_ne now other]

/-- Observations of distinct types touch no condition but the first of each of these types. -/
theorem besides_record {observations : List Condition} (now : String)
    (distinct : (observations.map Condition.type).Nodup) (conditions : List Condition) :
    besides (observations.map Condition.type) (record now observations conditions) =
      besides (observations.map Condition.type) conditions := by
  induction observations generalizing conditions with
  | nil => rfl
  | cons first rest inductionHypothesis =>
      rw [List.map_cons, List.nodup_cons] at distinct
      simp only [besides, List.map_cons, List.foldl_cons] at inductionHypothesis ⊢
      rw [record, List.foldl_cons, ← record, without_record_of_notMem now distinct.1, without_set_self,
        inductionHypothesis distinct.2]

end Turnstile.Condition
