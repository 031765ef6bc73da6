/-
Module: Turnstile.Proofs.Launch.Display
Purpose: What the user sees of the output behind the token, and what that owes to the way the output came.
Main exports: Handshake.shown?, Handshake.heard, Handshake.skipped, Handshake.shown?_eq_iff_skipped_eq
-/
import Mathlib.Data.List.Infix
import Turnstile.Proofs.Launch.Handshake

/-!
The reader drops the line ending of the token only as far as it came in the read that completes the token.  What
comes later is shown as it is.  So the same output is shown alike if and only if the same part of the line ending
came along with the token; a line ending that is cut off from its token appears before the output of the command.
-/

namespace Turnstile.Handshake

variable {token seen stream before behind : List UInt8} {pieces others : List (List UInt8)}

/-- What the user sees after the handshake: what the wait hands on, then what it left unread.  None if the wait
fails. -/
def shown? (token : List UInt8) (pieces : List (List UInt8)) : Option (List UInt8) :=
  match await token [] (pieces.map .octets) with
  | (.ok follows, left) => some (follows ++ unread left)
  | (.error _, _) => none

/-- What has been read once the token is complete, after `seen` was read without it. -/
def heard (token seen : List UInt8) : List (List UInt8) → List UInt8
  | [] => seen
  | piece :: later => if token <:+: seen ++ piece then seen ++ piece else heard token (seen ++ piece) later

/-- How much of the line ending behind the token came in the read that completes the token. -/
def skipped (token : List UInt8) (pieces : List (List UInt8)) : Nat :=
  (((after? token (heard token [] pieces)).getD []).takeWhile isLineEnding).length

/-- Reads without the token are passed over. -/
theorem heard_of_absent {taken later : List (List UInt8)} (absent : ¬ token <:+: seen ++ taken.flatten) :
    heard token seen (taken ++ later) = heard token (seen ++ taken.flatten) later := by
  induction taken generalizing seen with
  | nil => simp
  | cons piece taken inductionHypothesis =>
      rw [List.flatten_cons, ← List.append_assoc] at absent ⊢
      have notYet : ¬ token <:+: seen ++ piece := fun occurs => absent (occurs.trans (List.prefix_append _ _).isInfix)
      rw [List.cons_append, heard, if_neg notYet, inductionHypothesis absent]

/-- A stream in which the token stands first somewhere splits there in one way only. -/
theorem First.behind_unique {other after : List UInt8} (first : First token stream before behind)
    (same : First token stream other after) : after = behind := by
  have found : after? token stream = some behind := after?_eq_some_iff.mpr ⟨before, first⟩
  have again : after? token stream = some after := after?_eq_some_iff.mpr ⟨other, same⟩
  exact Option.some.inj (again.symm.trans found)

/-- Dropping as many octets as end the line is dropping the line ending. -/
theorem drop_length_takeWhile (octets : List UInt8) :
    octets.drop (octets.takeWhile isLineEnding).length = octets.dropWhile isLineEnding := by
  calc octets.drop (octets.takeWhile isLineEnding).length
      = (octets.takeWhile isLineEnding ++ octets.dropWhile isLineEnding).drop
          (octets.takeWhile isLineEnding).length := by rw [List.takeWhile_append_dropWhile]
    _ = octets.dropWhile isLineEnding := List.drop_left

/-- More octets only make a line ending longer. -/
theorem length_takeWhile_append_le (reached later : List UInt8) :
    (reached.takeWhile isLineEnding).length ≤ ((reached ++ later).takeWhile isLineEnding).length := by
  rw [List.takeWhile_append]
  split
  · rename_i whole
    simp [whole]
  · exact Nat.le_refl _

/-- The read that completes the token brings along what it reached behind it, and the rest is left unread. -/
theorem exists_reached (nonempty : token ≠ []) (filled : ∀ piece ∈ pieces, piece ≠ [])
    (first : First token pieces.flatten before behind) :
    ∃ reached left, behind = reached ++ left ∧ after? token (heard token [] pieces) = some reached ∧
      shown? token pieces = some (reached.dropWhile isLineEnding ++ left) := by
  have unseen : ¬ token <:+: [] := by simpa using nonempty
  obtain ⟨taken, piece, left, rfl, notYet, complete⟩ := exists_completing unseen (by simpa using first.occurs)
  rw [List.nil_append] at notYet
  have here : token <:+: taken.flatten ++ piece := by simpa using complete
  obtain ⟨reached, found⟩ := Option.ne_none_iff_exists'.mp (mt after?_eq_none_iff.mp (not_not_intro here))
  obtain ⟨front, last⟩ := after?_eq_some_iff.mp found
  refine ⟨reached, left.flatten, ?_, ?_, ?_⟩
  · have whole : First token (taken ++ piece :: left).flatten front (reached ++ left.flatten) := by
      simpa using last.append left.flatten
    exact whole.behind_unique first
  · rw [heard_of_absent (by simpa using notYet), List.nil_append, heard, if_pos here, found]
  · have filledTaken : ∀ other ∈ taken, other ≠ [] := fun other member => filled other (by simp [member])
    have outcome : await token [] ((taken ++ piece :: left).map .octets) =
        (.ok (reached.dropWhile isLineEnding), left.map .octets) := by
      rw [List.map_append, await_of_absent filledTaken (by simpa using notYet), List.nil_append, List.map_cons]
      exact await_cons_of_first (filled piece (by simp)) last
    rw [shown?, outcome]
    simp [unread_octets]

/-- What is shown is the output behind the token, without as much of its line ending as came along with it. -/
theorem shown?_eq_some_drop (nonempty : token ≠ []) (filled : ∀ piece ∈ pieces, piece ≠ [])
    (first : First token pieces.flatten before behind) :
    shown? token pieces = some (behind.drop (skipped token pieces)) := by
  obtain ⟨reached, left, rfl, found, outcome⟩ := exists_reached nonempty filled first
  have within : (reached.takeWhile isLineEnding).length ≤ reached.length := (List.takeWhile_sublist _).length_le
  rw [outcome, skipped, found, Option.getD_some, List.drop_append_of_le_length within, drop_length_takeWhile]

/-- No more than the whole line ending comes along with the token. -/
theorem skipped_le (nonempty : token ≠ []) (filled : ∀ piece ∈ pieces, piece ≠ [])
    (first : First token pieces.flatten before behind) :
    skipped token pieces ≤ (behind.takeWhile isLineEnding).length := by
  obtain ⟨reached, left, rfl, found, _⟩ := exists_reached nonempty filled first
  rw [skipped, found, Option.getD_some]
  exact length_takeWhile_append_le reached left

/-- Of a line ending, different parts leave different outputs. -/
theorem drop_eq_drop_iff {first second : Nat} (firstWithin : first ≤ (behind.takeWhile isLineEnding).length)
    (secondWithin : second ≤ (behind.takeWhile isLineEnding).length) :
    behind.drop first = behind.drop second ↔ first = second := by
  have within : (behind.takeWhile isLineEnding).length ≤ behind.length := (List.takeWhile_sublist _).length_le
  constructor
  · intro same
    have lengths := congrArg List.length same
    simp only [List.length_drop] at lengths
    omega
  · rintro rfl
    rfl

/-- Two ways in which the same output comes show the user the same if and only if the same part of the line
ending came along with the token.  The user sees the output behind the token and its line ending if and only if
the whole line ending did. -/
theorem shown?_eq_iff_skipped_eq (nonempty : token ≠ []) (filled : ∀ piece ∈ pieces, piece ≠ [])
    (filledOthers : ∀ piece ∈ others, piece ≠ []) (same : others.flatten = pieces.flatten)
    (occurs : token <:+: pieces.flatten) :
    ∃ before behind, First token pieces.flatten before behind ∧
      shown? token pieces = some (behind.drop (skipped token pieces)) ∧
      (shown? token pieces = some (behind.dropWhile isLineEnding) ↔
        skipped token pieces = (behind.takeWhile isLineEnding).length) ∧
      (shown? token others = shown? token pieces ↔ skipped token others = skipped token pieces) := by
  obtain ⟨behind, found⟩ := Option.ne_none_iff_exists'.mp (mt after?_eq_none_iff.mp (not_not_intro occurs))
  obtain ⟨before, first⟩ := after?_eq_some_iff.mp found
  have firstOthers : First token others.flatten before behind := same ▸ first
  have within := skipped_le nonempty filled first
  have withinOthers := skipped_le nonempty filledOthers firstOthers
  refine ⟨before, behind, first, shown?_eq_some_drop nonempty filled first, ?_, ?_⟩
  · rw [shown?_eq_some_drop nonempty filled first, Option.some.injEq, ← drop_length_takeWhile,
      drop_eq_drop_iff within (Nat.le_refl _)]
  · rw [shown?_eq_some_drop nonempty filled first, shown?_eq_some_drop nonempty filledOthers firstOthers,
      Option.some.injEq, drop_eq_drop_iff withinOthers within]

/-- A line ending that is cut in two is skipped in part only. -/
theorem shown?_eq_iff_skipped_eq_cut :
    (∃ before behind, First [97, 98] [[120, 97], [98, 13], [10, 99]].flatten before behind ∧
      shown? [97, 98] [[120, 97], [98, 13], [10, 99]] =
        some (behind.drop (skipped [97, 98] [[120, 97], [98, 13], [10, 99]])) ∧
      (shown? [97, 98] [[120, 97], [98, 13], [10, 99]] = some (behind.dropWhile isLineEnding) ↔
        skipped [97, 98] [[120, 97], [98, 13], [10, 99]] = (behind.takeWhile isLineEnding).length) ∧
      (shown? [97, 98] [[120], [97, 98, 13, 10, 99]] = shown? [97, 98] [[120, 97], [98, 13], [10, 99]] ↔
        skipped [97, 98] [[120], [97, 98, 13, 10, 99]] = skipped [97, 98] [[120, 97], [98, 13], [10, 99]])) ∧
      skipped [97, 98] [[120], [97, 98, 13, 10, 99]] = 2 ∧ skipped [97, 98] [[120, 97], [98, 13], [10, 99]] = 1 :=
  ⟨shown?_eq_iff_skipped_eq (by decide) (by decide) (by decide) (by decide) (by decide), by decide, by decide⟩

/-- A line ending that comes by itself is shown to the user, and one that comes with its token is not. -/
theorem shown?_parted :
    [Handshake.token, [13, 10, 111, 107]].flatten = [Handshake.token ++ [13, 10, 111, 107]].flatten ∧
      shown? Handshake.token [Handshake.token, [13, 10, 111, 107]] = some [13, 10, 111, 107] ∧
      shown? Handshake.token [Handshake.token ++ [13, 10, 111, 107]] = some [111, 107] := by
  decide +kernel

end Turnstile.Handshake
