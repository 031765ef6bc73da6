/-
Module: Turnstile.Proofs.Launch.Handshake
Purpose: The token of a pod is found wherever it first comes, however the output is cut into reads.
Main exports: Handshake.First, Handshake.after?_eq_some_iff, Handshake.await_of_absent, Handshake.Detected,
  Handshake.detected
-/
import Mathlib.Data.List.TakeWhile
import Turnstile.Launch.Handshake

/-!
The reader keeps everything that it has read and looks for the token in it anew after every read.  It carries on
as long as the token is not in what it has read, so the read at which it stops is the one that completes the first
occurrence, and that occurrence is the first of the whole output: one that began earlier would have been complete
earlier.
-/

namespace Turnstile.Handshake

variable {token seen stream before behind : List UInt8} {pieces : List (List UInt8)} {later : List Read}

/-- The token stands in the stream between what is before it and what is behind it, and nowhere sooner. -/
structure First (token stream before behind : List UInt8) : Prop where
  split : stream = before ++ token ++ behind
  least : ∀ other after, stream = other ++ token ++ after → before.length ≤ other.length

/-- Where the token stands first, it occurs. -/
theorem First.occurs (first : First token stream before behind) : token <:+: stream :=
  ⟨before, behind, first.split.symm⟩

/-- An occurrence behind the first octet is one in the rest, moved by one place. -/
theorem First.cons {octet : UInt8} (absent : ¬ token <+: octet :: stream) (first : First token stream before behind) :
    First token (octet :: stream) (octet :: before) behind where
  split := by rw [first.split]; simp
  least := by
    intro other after same
    cases other with
    | nil => exact absurd ⟨after, same.symm⟩ absent
    | cons head rest =>
        simp only [List.cons_append, List.cons.injEq] at same
        simpa using first.least rest after same.2

/-- A token that does not stand at the front stands first in the rest. -/
theorem First.tail {octet : UInt8} (absent : ¬ token <+: octet :: stream)
    (first : First token (octet :: stream) before behind) :
    ∃ rest, before = octet :: rest ∧ First token stream rest behind := by
  obtain ⟨split, least⟩ := first
  cases before with
  | nil => exact absurd ⟨behind, split.symm⟩ absent
  | cons head rest =>
      simp only [List.cons_append, List.cons.injEq] at split
      obtain ⟨rfl, split⟩ := split
      refine ⟨rest, rfl, split, ?_⟩
      intro other after same
      simpa using least (octet :: other) after (by simp [same])

/-- The first occurrence in the front of a stream is the first of the whole stream. -/
theorem First.append (first : First token stream before behind) (more : List UInt8) :
    First token (stream ++ more) before (behind ++ more) where
  split := by rw [first.split]; simp
  least := by
    intro other after same
    by_contra sooner
    -- An occurrence that begins sooner also ends sooner, within the front.
    have short : (other ++ token).length ≤ stream.length := by
      rw [first.split]
      simp only [List.length_append]
      omega
    obtain ⟨rest, inside⟩ := List.prefix_of_prefix_length_le ⟨after, same.symm⟩ (List.prefix_append stream more) short
    exact sooner (first.least other rest inside.symm)

/-- What follows the token is what stands behind its first occurrence. -/
theorem after?_eq_some_iff : after? token stream = some behind ↔ ∃ before, First token stream before behind := by
  induction stream with
  | nil =>
      simp only [after?, List.isEmpty_iff]
      constructor
      · intro found
        split at found
        · rename_i empty
          cases found
          exact ⟨[], by simp [empty], by simp⟩
        · cases found
      · rintro ⟨before, split, _⟩
        simp only [List.nil_eq, List.append_eq_nil_iff] at split
        rw [if_pos split.1.2, split.2]
  | cons octet stream inductionHypothesis =>
      simp only [after?]
      split
      · rename_i front
        obtain ⟨rest, same⟩ := List.isPrefixOf_iff_prefix.mp front
        rw [← same, List.drop_left, Option.some.injEq]
        constructor
        · rintro rfl
          exact ⟨[], by simp, by simp⟩
        · rintro ⟨before, split, least⟩
          have none : before = [] := List.length_eq_zero_iff.mp (Nat.le_zero.mp (least [] rest (by simp)))
          subst none
          exact List.append_cancel_left split
      · rename_i back
        have absent : ¬ token <+: octet :: stream := fun front => back (List.isPrefixOf_iff_prefix.mpr front)
        rw [inductionHypothesis]
        constructor
        · rintro ⟨before, first⟩
          exact ⟨_, first.cons absent⟩
        · rintro ⟨before, first⟩
          obtain ⟨rest, _, inside⟩ := first.tail absent
          exact ⟨rest, inside⟩

/-- Where the token occurs, it occurs first somewhere. -/
theorem after?_eq_none_iff : after? token stream = none ↔ ¬ token <:+: stream := by
  induction stream with
  | nil => simp [after?]
  | cons octet stream inductionHypothesis =>
      rw [after?, List.infix_cons_iff, not_or, ← inductionHypothesis]
      split
      · rename_i front
        simp [List.isPrefixOf_iff_prefix.mp front]
      · rename_i back
        simp [mt List.isPrefixOf_iff_prefix.mpr back]

/-- What follows the token is skipped as far as it ends the line. -/
theorem exists_skipped (follows : List UInt8) :
    ∃ skipped, follows = skipped ++ follows.dropWhile isLineEnding ∧ ∀ octet ∈ skipped, octet = 13 ∨ octet = 10 := by
  refine ⟨follows.takeWhile isLineEnding, List.takeWhile_append_dropWhile.symm, ?_⟩
  intro octet member
  simpa [isLineEnding] using List.mem_takeWhile_imp member

/-! ### The wait -/

/-- A read that does not complete the token is only remembered. -/
theorem await_cons_of_absent {piece : List UInt8} (filled : piece ≠ []) (absent : ¬ token <:+: seen ++ piece) :
    await token seen (.octets piece :: later) = await token (seen ++ piece) later := by
  have read : hear token seen (.octets piece) = .more (seen ++ piece) := by
    simp [hear, filled, after?_eq_none_iff.mpr absent]
  rw [await, read]

/-- A read that completes the token is the last one. -/
theorem await_cons_of_first {piece : List UInt8} (filled : piece ≠ [])
    (first : First token (seen ++ piece) before behind) :
    await token seen (.octets piece :: later) = (.ok (behind.dropWhile isLineEnding), later) := by
  have read : hear token seen (.octets piece) = .ended (.ok (behind.dropWhile isLineEnding)) := by
    simp [hear, filled, after?_eq_some_iff.mpr ⟨before, first⟩]
  rw [await, read]

/-- As long as the token is not in what was read, reads are only remembered. -/
theorem await_of_absent (filled : ∀ piece ∈ pieces, piece ≠ []) (absent : ¬ token <:+: seen ++ pieces.flatten) :
    await token seen (pieces.map .octets ++ later) = await token (seen ++ pieces.flatten) later := by
  induction pieces generalizing seen with
  | nil => simp
  | cons piece pieces inductionHypothesis =>
      rw [List.flatten_cons, ← List.append_assoc] at absent ⊢
      have notYet : ¬ token <:+: seen ++ piece := fun occurs => absent (occurs.trans (List.prefix_append _ _).isInfix)
      rw [List.map_cons, List.cons_append, await_cons_of_absent (filled piece (by simp)) notYet]
      exact inductionHypothesis (fun other member => filled other (by simp [member])) absent

/-- A token that comes in pieces is completed by one of them. -/
theorem exists_completing (absent : ¬ token <:+: seen) (occurs : token <:+: seen ++ pieces.flatten) :
    ∃ taken piece left, pieces = taken ++ piece :: left ∧ ¬ token <:+: seen ++ taken.flatten ∧
      token <:+: seen ++ (taken ++ [piece]).flatten := by
  induction pieces generalizing seen with
  | nil => exact absurd (by simpa using occurs) absent
  | cons piece pieces inductionHypothesis =>
      by_cases here : token <:+: seen ++ piece
      · exact ⟨[], piece, pieces, rfl, by simpa using absent, by simpa using here⟩
      · obtain ⟨taken, last, left, rfl, notYet, complete⟩ := inductionHypothesis here (by simpa using occurs)
        exact ⟨piece :: taken, last, left, rfl, by simpa using notYet, by simpa using complete⟩

/-- Reads at which the output is over: there are none, or the first one takes nothing. -/
def Over (reads : List Read) : Prop :=
  reads = [] ∨ ∃ rest, reads = .octets [] :: rest

/-- Output that is over without the token is a failed attachment. -/
theorem await_of_over (closed : Over later) (seen : List UInt8) : (await token seen later).1 = .error endedEarly := by
  rcases closed with rfl | ⟨rest, rfl⟩
  · rfl
  · rfl

/-- The octets of reads are those of the pieces that they took. -/
theorem unread_octets (left : List (List UInt8)) : unread (left.map .octets) = left.flatten := by
  simp [unread, List.flatMap_map, List.flatMap_id']

/-- The wait takes the reads up to the first one that completes the token.  What it hands on and what it leaves
unread is what stands behind the first occurrence in the whole output, without some octets that end the line. -/
def Stops (token : List UInt8) (pieces : List (List UInt8)) (later : List Read) : Prop :=
  ∃ taken piece left shown, pieces = taken ++ piece :: left ∧
    ¬ token <:+: taken.flatten ∧ token <:+: (taken ++ [piece]).flatten ∧
    await token [] (pieces.map .octets ++ later) = (.ok shown, left.map .octets ++ later) ∧
    ∃ before skipped, First token pieces.flatten before (skipped ++ shown ++ unread (left.map .octets)) ∧
      ∀ octet ∈ skipped, octet = 13 ∨ octet = 10

/-- The wait for a token that occurs stops, whatever comes after the output. -/
theorem stops_of_occurs (nonempty : token ≠ []) (filled : ∀ piece ∈ pieces, piece ≠ [])
    (occurs : token <:+: pieces.flatten) (later : List Read) : Stops token pieces later := by
  have unseen : ¬ token <:+: [] := by simpa using nonempty
  obtain ⟨taken, piece, left, rfl, notYet, complete⟩ := exists_completing unseen (by simpa using occurs)
  rw [List.nil_append] at notYet complete
  obtain ⟨behind, follows⟩ := Option.ne_none_iff_exists'.mp (mt after?_eq_none_iff.mp (not_not_intro complete))
  obtain ⟨before, first⟩ := after?_eq_some_iff.mp follows
  obtain ⟨skipped, same, lineEnding⟩ := exists_skipped behind
  refine ⟨taken, piece, left, behind.dropWhile isLineEnding, rfl, notYet, complete, ?_, before, skipped, ?_, lineEnding⟩
  · have silent : await token [] (taken.map .octets ++ .octets piece :: (left.map .octets ++ later)) =
        await token ([] ++ taken.flatten) (.octets piece :: (left.map .octets ++ later)) :=
      await_of_absent (fun other member => filled other (by simp [member])) (by simpa using notYet)
    have last : First token (taken.flatten ++ piece) before behind := by simpa using first
    simp only [List.map_append, List.map_cons, List.append_assoc, List.cons_append, silent, List.nil_append]
    exact await_cons_of_first (filled piece (by simp)) last
  · rw [← same, unread_octets]
    simpa using first.append left.flatten

/-- What the wait for a token makes of output that comes in these pieces. -/
structure Detected (token : List UInt8) (pieces : List (List UInt8)) : Prop where
  /-- It ends well if and only if the token occurs in the whole output. -/
  succeeds : ∀ later, Over later →
    ((∃ shown, (await token [] (pieces.map .octets ++ later)).1 = .ok shown) ↔ token <:+: pieces.flatten)
  /-- It stops at the first read that completes the first occurrence, and loses nothing behind it. -/
  stops : token <:+: pieces.flatten → ∀ later, Stops token pieces later
  /-- Output that ends without the token is a failed attachment. -/
  fails : ¬ token <:+: pieces.flatten → ∀ later, Over later →
    ∃ text, (await token [] (pieces.map .octets ++ later)).1 = .error (.attach text)

/-- The token is found wherever it first comes, and nothing behind it is lost, doubled or moved. -/
theorem detected (nonempty : token ≠ []) (filled : ∀ piece ∈ pieces, piece ≠ []) : Detected token pieces := by
  have silent : ¬ token <:+: pieces.flatten → ∀ later, Over later →
      (await token [] (pieces.map .octets ++ later)).1 = .error endedEarly := by
    intro absent later closed
    rw [await_of_absent filled (by simpa using absent), await_of_over closed]
  refine ⟨?_, stops_of_occurs nonempty filled, fun absent later closed => ⟨_, silent absent later closed⟩⟩
  intro later closed
  constructor
  · rintro ⟨shown, succeeds⟩
    by_contra absent
    rw [silent absent later closed] at succeeds
    cases succeeds
  · intro occurs
    obtain ⟨_, _, _, shown, _, _, _, outcome, _⟩ := stops_of_occurs nonempty filled occurs later
    exact ⟨shown, by rw [outcome]⟩

/-- A token that overlaps itself is found behind a false start that is cut across two reads. -/
theorem detected_overlapping : Detected [97, 97, 98] [[120, 97], [97, 97], [98, 13], [10, 99]] ∧
    await [97, 97, 98] [] [.octets [120, 97], .octets [97, 97], .octets [98, 13], .octets [10, 99]] =
      (.ok [], [.octets [10, 99]]) :=
  ⟨detected (by decide) (by decide), by decide⟩

end Turnstile.Handshake
