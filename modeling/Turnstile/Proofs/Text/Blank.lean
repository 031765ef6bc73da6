/-
Module: Turnstile.Proofs.Text.Blank
Purpose: What is left of a text without the white space at its ends.
Main exports: Blank.trimmed_append_blank, Blank.trimmed_eq_self_iff, Blank.Core, Blank.trimmed_eq_iff
-/
import Mathlib.Data.List.DropRight
import Turnstile.Text.Blank

/-!
White space is removed in front first and behind afterwards.  A text is left as it is if and only if it neither
begins nor ends with white space, and what is left of any text is the part of it between its outer white space.
-/

namespace Turnstile.Blank

variable {characters core : List Char}

/-- What is behind is removed from what is left by the removal of what is in front. -/
theorem trimmed_eq_rdropWhile (characters : List Char) :
    trimmed characters = (characters.dropWhile isBlank).rdropWhile isBlank := rfl

/-- White space at the end does not count. -/
theorem trimmed_append_blank {character : Char} (blank : isBlank character = true) (characters : List Char) :
    trimmed (characters ++ [character]) = trimmed characters := by
  rw [trimmed_eq_rdropWhile, trimmed_eq_rdropWhile, List.dropWhile_append]
  split
  · rename_i nothing
    rw [List.isEmpty_iff.mp nothing]
    simp [blank]
  · exact List.rdropWhile_concat_pos _ _ _ blank

theorem dropWhile_eq_self_iff_head? : characters.dropWhile isBlank = characters ↔
    ∀ first ∈ characters.head?, isBlank first = false := by
  cases characters with
  | nil => simp
  | cons first rest => simp [List.dropWhile_eq_self_iff]

theorem rdropWhile_eq_self_iff_getLast? : characters.rdropWhile isBlank = characters ↔
    ∀ last ∈ characters.getLast?, isBlank last = false := by
  rw [List.rdropWhile_eq_self_iff]
  rcases List.eq_nil_or_concat characters with rfl | ⟨front, last, rfl⟩
  · simp
  · simp

/-- A text is left as it is if it neither begins nor ends with white space, and only then. -/
theorem trimmed_eq_self_iff : trimmed characters = characters ↔
    (∀ first ∈ characters.head?, isBlank first = false) ∧ ∀ last ∈ characters.getLast?, isBlank last = false := by
  rw [← dropWhile_eq_self_iff_head?, ← rdropWhile_eq_self_iff_getLast?, trimmed_eq_rdropWhile]
  constructor
  · intro whole
    have inFront : characters.dropWhile isBlank = characters := by
      refine (List.dropWhile_suffix isBlank).eq_of_length_le ?_
      calc characters.length
        _ = ((characters.dropWhile isBlank).rdropWhile isBlank).length := by rw [whole]
        _ ≤ (characters.dropWhile isBlank).length := (List.rdropWhile_prefix isBlank _).length_le
    rw [inFront] at whole
    exact ⟨inFront, whole⟩
  · rintro ⟨inFront, behind⟩
    rw [inFront, behind]

/-! ### The core of a text -/

/-- The text is `core` with white space around it, and `core` neither begins nor ends with white space. -/
structure Core (characters core : List Char) : Prop where
  around : ∃ before behind, characters = before ++ core ++ behind ∧
    (∀ character ∈ before, isBlank character = true) ∧ ∀ character ∈ behind, isBlank character = true
  front : ∀ first ∈ core.head?, isBlank first = false
  back : ∀ last ∈ core.getLast?, isBlank last = false

theorem trimmed_append_of_blank {behind : List Char} (blank : ∀ character ∈ behind, isBlank character = true)
    (characters : List Char) : trimmed (characters ++ behind) = trimmed characters := by
  induction behind generalizing characters with
  | nil => rw [List.append_nil]
  | cons character behind inductionHypothesis =>
      rw [List.forall_mem_cons] at blank
      rw [List.append_cons, inductionHypothesis blank.2, trimmed_append_blank blank.1]

/-- What is left of a text is its core. -/
theorem core_trimmed (characters : List Char) : Core characters (trimmed characters) where
  around := by
    refine ⟨characters.takeWhile isBlank, (characters.dropWhile isBlank).rtakeWhile isBlank, ?_,
      fun _ => List.mem_takeWhile_imp, fun _ => List.mem_rtakeWhile_imp⟩
    rw [trimmed_eq_rdropWhile, List.append_assoc, List.rdropWhile_append_rtakeWhile, List.takeWhile_append_dropWhile]
  front := by
    intro first leads
    -- What is removed behind leaves the first character where it is, unless it leaves nothing.
    obtain ⟨removed, whole⟩ := List.rdropWhile_prefix isBlank (characters.dropWhile isBlank)
    have stillLeads : (characters.dropWhile isBlank).head? = some first := by
      rw [← whole, ← trimmed_eq_rdropWhile, List.head?_append, Option.mem_def.mp leads, Option.some_or]
    have stops := List.head?_dropWhile_not isBlank characters
    rwa [stillLeads] at stops
  back := rdropWhile_eq_self_iff_getLast?.mp (List.rdropWhile_idempotent isBlank _)

/-- A text has one core, which is what is left of it. -/
theorem trimmed_eq_iff : trimmed characters = core ↔ Core characters core := by
  constructor
  · rintro rfl
    exact core_trimmed characters
  · rintro ⟨⟨before, behind, rfl, blankBefore, blankBehind⟩, front, back⟩
    calc trimmed (before ++ core ++ behind)
      _ = trimmed (before ++ core) := trimmed_append_of_blank blankBehind _
      _ = trimmed core := by rw [trimmed, trimmed, List.dropWhile_append_of_pos blankBefore]
      _ = core := trimmed_eq_self_iff.mpr ⟨front, back⟩

end Turnstile.Blank
