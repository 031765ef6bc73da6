/-
Module: Turnstile.Proofs.Condition.Timeless
Purpose: What a list of conditions says apart from its times, and when recording observations changes nothing.
Main exports: Condition.timeless, Condition.set_eq_self_iff, Condition.record, Condition.record_eq_self_iff,
  Condition.isTrueFor_record, Condition.record_record, Condition.map_timeless_record
-/
import Mathlib.Data.List.Nodup
import Turnstile.Proofs.Condition.Recording

/-!
Two observers who record the same at different times disagree on the times only.  Whether a recording changes
anything does not depend on when it is made, and making it a second time changes nothing, not even a time.
-/

namespace Turnstile.Condition

/-- The condition without its time. -/
def timeless (condition : Condition) : Condition :=
  { condition with lastTransitionTime := none }

/-- Conditions of one type that say the same differ in their times at most. -/
theorem timeless_eq_iff {first second : Condition} :
    first.timeless = second.timeless ↔ first.type = second.type ∧ first.saysSame second = true := by
  simp [timeless, saysSame, and_assoc]

/-- What stands in the place of a condition is the observation, but for the time. -/
theorem timeless_updated {present new : Condition} (same : present.type = new.type) (now : String) :
    (present.updated now new).timeless = new.timeless :=
  timeless_eq_iff.mpr ⟨type_updated same, saysSame_updated now present new⟩

/-- What a list says after an observation does not depend on any time. -/
theorem map_timeless_set {first second : List Condition} (same : first.map timeless = second.map timeless)
    (now later : String) (new : Condition) :
    (set now new first).map timeless = (set later new second).map timeless := by
  induction first generalizing second with
  | nil =>
      rw [List.map_eq_nil_iff.mp same.symm]
      simp [set, timeless]
  | cons present rest inductionHypothesis =>
      obtain ⟨other, others, rfl, head, tail⟩ := List.map_eq_cons_iff.mp same.symm
      have sameType : other.type = present.type := (timeless_eq_iff.mp head).1
      by_cases here : present.type = new.type
      · have there := sameType.trans here
        simp only [set, here, there, beq_self_eq_true, if_true, List.map_cons]
        rw [timeless_updated here, timeless_updated there, tail]
      · have elsewhere : ¬ other.type = new.type := fun equal => here (sameType.symm.trans equal)
        simp only [set, beq_eq_false_iff_ne.mpr here, beq_eq_false_iff_ne.mpr elsewhere, Bool.false_eq_true,
          if_false, List.map_cons]
        rw [head, inductionHypothesis tail.symm]

/-! ### When an observation changes nothing -/

/-- An observation that was just recorded changes nothing. -/
theorem changes_eq_false_of_find? {conditions : List Condition} {new kept : Condition}
    (found : find? conditions new.type = some kept) (same : kept.saysSame new = true) :
    changes new conditions = false := by
  simp [changes, found, same]

/-- Only the first condition of its type decides whether an observation changes anything. -/
theorem changes_congr {first second : List Condition} {new : Condition}
    (same : find? first new.type = find? second new.type) : changes new first = changes new second := by
  rw [changes, changes, same]

/-- Recording leaves a list as it is exactly if the list says the same already. -/
theorem set_eq_self_iff (now : String) (new : Condition) (conditions : List Condition) :
    set now new conditions = conditions ↔ changes new conditions = false := by
  induction conditions with
  | nil => simp [set, changes, find?]
  | cons present rest inductionHypothesis =>
      by_cases here : present.type = new.type
      · simp only [set, here, beq_self_eq_true, if_true, List.cons.injEq, and_true]
        constructor
        · intro kept
          have said := saysSame_updated now present new
          rw [kept] at said
          exact changes_eq_false_of_find? (find?_cons_self here) said
        · intro unchanged
          have said : present.saysSame new = true := by
            simpa [changes, find?_cons_self here] using unchanged
          rw [updated, if_pos said]
      · simp only [set, beq_eq_false_iff_ne.mpr here, Bool.false_eq_true, if_false, List.cons.injEq, true_and]
        rw [inductionHypothesis, changes_congr (find?_cons_of_ne here)]

/-! ### Several observations -/

/-- Record observations one after the other, all at one time. -/
def record (now : String) (observations conditions : List Condition) : List Condition :=
  observations.foldl (fun kept new => set now new kept) conditions

/-- Observations leave the conditions of every other type alone. -/
theorem find?_record_of_notMem {observations : List Condition} {type : String} (now : String)
    (absent : type ∉ observations.map Condition.type) (conditions : List Condition) :
    find? (record now observations conditions) type = find? conditions type := by
  induction observations generalizing conditions with
  | nil => rfl
  | cons new rest inductionHypothesis =>
      simp only [List.map_cons, List.mem_cons, not_or] at absent
      rw [record, List.foldl_cons, ← record, inductionHypothesis absent.2]
      exact find?_set_of_ne now conditions fun equal => absent.1 equal.symm

/-- What was recorded changes nothing any more. -/
theorem changes_record {observations : List Condition} (now : String)
    (distinct : (observations.map Condition.type).Nodup) (conditions : List Condition) :
    ∀ new ∈ observations, changes new (record now observations conditions) = false := by
  induction observations generalizing conditions with
  | nil => exact List.forall_mem_nil _
  | cons first rest inductionHypothesis =>
      rw [List.map_cons, List.nodup_cons] at distinct
      rw [record, List.foldl_cons, ← record]
      refine List.forall_mem_cons.mpr ⟨?_, inductionHypothesis distinct.2 _⟩
      rw [changes_congr (find?_record_of_notMem now distinct.1 _)]
      obtain ⟨kept, found, same⟩ := find?_set_self now first conditions
      exact changes_eq_false_of_find? found same

/-- Recording observations leaves a list as it is exactly if the list says all of it already. -/
theorem record_eq_self_iff {observations : List Condition} (now : String)
    (distinct : (observations.map Condition.type).Nodup) (conditions : List Condition) :
    record now observations conditions = conditions ↔
      ∀ new ∈ observations, changes new conditions = false := by
  constructor
  · intro same new member
    rw [← same]
    exact changes_record now distinct conditions new member
  · intro unchanged
    clear distinct
    induction observations with
    | nil => rfl
    | cons first rest inductionHypothesis =>
        obtain ⟨here, there⟩ := List.forall_mem_cons.mp unchanged
        rw [record, List.foldl_cons, (set_eq_self_iff now first conditions).mpr here]
        exact inductionHypothesis there

/-- A type that was recorded holds exactly if it was observed to hold. -/
theorem isTrueFor_record {observations : List Condition} (now : String)
    (distinct : (observations.map Condition.type).Nodup) (conditions : List Condition) {new : Condition}
    (member : new ∈ observations) :
    isTrueFor (record now observations conditions) new.type = new.isTrue := by
  have recorded := changes_record now distinct conditions new member
  rw [changes, Bool.not_eq_false'] at recorded
  obtain ⟨kept, found, same⟩ := (Option.any_eq_true _ _).mp recorded
  simp [isTrueFor, found, isTrue, (eq_of_saysSame same).1]

/-- Recording the same a second time changes nothing, at whatever time. -/
theorem record_record {observations : List Condition} (distinct : (observations.map Condition.type).Nodup)
    (now later : String) (conditions : List Condition) :
    record later observations (record now observations conditions) = record now observations conditions :=
  (record_eq_self_iff later distinct _).mpr (changes_record now distinct conditions)

/-- What a list says after some observations does not depend on any time. -/
theorem map_timeless_record {first second : List Condition} (same : first.map timeless = second.map timeless)
    (now later : String) (observations : List Condition) :
    (record now observations first).map timeless = (record later observations second).map timeless := by
  induction observations generalizing first second with
  | nil => exact same
  | cons new rest inductionHypothesis => exact inductionHypothesis (map_timeless_set same now later new)

end Turnstile.Condition
