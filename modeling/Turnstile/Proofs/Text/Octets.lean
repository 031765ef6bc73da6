/-
Module: Turnstile.Proofs.Text.Octets
Purpose: The order of texts is the order of their octets, and a text is decoded from its octets.
Main exports: Text.octets, Text.octets_lt, Text.fromUTF8?_octets
-/
import Mathlib.Data.String.Basic
import Mathlib.Tactic.SplitIfs

/-!
A character is encoded in one to four octets, which begin with its highest digits; the leading octet also grows
with their number.  So of two characters the lower one has the lower octets, and what follows does not matter.
-/

namespace Turnstile.Text

/-- The octets of a text. -/
def octets (text : String) : List UInt8 :=
  text.toUTF8.data.toList

theorem toList_loop (bytes : ByteArray) (index : Nat) (read : List UInt8) :
    ByteArray.toList.loop bytes index read = read.reverse ++ bytes.data.toList.drop index := by
  induction index, read using ByteArray.toList.loop.induct bytes with
  | case1 index read more inductionHypothesis =>
      have inside : index < bytes.data.toList.length := more
      have here : bytes.data.toList[index] = bytes.get! index := (getElem!_pos bytes.data index more).symm
      rw [ByteArray.toList.loop, if_pos more, inductionHypothesis, List.drop_eq_getElem_cons inside, here]
      simp
  | case2 index read done =>
      rw [ByteArray.toList.loop, if_neg done, List.drop_eq_nil_of_le (Nat.le_of_not_lt done), List.append_nil]

/-- Octets are listed in the order in which they are kept. -/
theorem toList_toUTF8 (text : String) : text.toUTF8.toList = octets text := by
  rw [ByteArray.toList, toList_loop]
  rfl

/-- A text is decoded from its octets. -/
theorem fromUTF8?_octets (text : String) : String.fromUTF8? ⟨(octets text).toArray⟩ = some text := by
  have whole : (⟨(octets text).toArray⟩ : ByteArray) = text.toByteArray := by
    rw [octets, Array.toArray_toList]
    rfl
  rw [whole, String.fromUTF8?, dif_pos text.isValidUTF8]
  rfl

theorem octets_eq_flatMap (text : String) : octets text = text.toList.flatMap String.utf8EncodeChar := by
  have encoded : text.toByteArray = text.toList.utf8Encode := by
    rw [← String.toByteArray_ofList, String.ofList_toList]
  rw [octets, String.toUTF8, encoded, List.utf8Encode, List.toList_data_toByteArray]

/-- Octets compare as the numbers that they stand for. -/
theorem ofNat_cons_lt_iff {low high : Nat} (small : low < 256) (smaller : high < 256) (front back : List UInt8) :
    UInt8.ofNat low :: front < UInt8.ofNat high :: back ↔ low < high ∨ low = high ∧ front < back := by
  rw [List.cons_lt_cons_iff, UInt8.ofNat_lt_iff_lt small smaller, ← UInt8.toNat_inj,
    UInt8.toNat_ofNat_of_lt' small, UInt8.toNat_ofNat_of_lt' smaller]

/-- The lower of two characters has the lower octets. -/
theorem utf8EncodeChar_lt {first second : Char} (below : first < second) (front back : List UInt8) :
    String.utf8EncodeChar first ++ front < String.utf8EncodeChar second ++ back := by
  have values : first.val.toNat < second.val.toNat := below
  have bound : second.val.toNat < 1114112 := by
    rcases second.valid with small | ⟨_, small⟩
    · exact Nat.lt_trans small (by decide)
    · exact small
  have digits (value : Nat) : value / 4096 = value / 64 / 64 ∧ value / 262144 = value / 64 / 64 / 64 := by omega
  unfold String.utf8EncodeChar
  simp only
  generalize first.val.toNat = low at values ⊢
  generalize second.val.toNat = high at values bound ⊢
  -- One case for each pair of lengths; a lower character is not the longer one.
  split_ifs
  all_goals first
    | omega
    | simp (disch := omega) only [List.cons_append, List.nil_append, ofNat_cons_lt_iff, (digits _).1, (digits _).2]
      omega

theorem flatMap_utf8EncodeChar_lt {first second : List Char} (below : first < second) :
    first.flatMap String.utf8EncodeChar < second.flatMap String.utf8EncodeChar := by
  induction first generalizing second with
  | nil =>
      cases second with
      | nil => exact absurd below (List.lt_irrefl [])
      | cons head rest =>
          have filled : 0 < (String.utf8EncodeChar head).length := by
            rw [String.length_utf8EncodeChar]
            exact head.utf8Size_pos
          obtain ⟨octet, more, encoded⟩ := List.exists_cons_of_length_pos filled
          rw [List.flatMap_nil, List.flatMap_cons, encoded]
          exact List.nil_lt_cons _ _
  | cons head rest inductionHypothesis =>
      cases second with
      | nil => exact absurd below (List.not_lt_nil _)
      | cons other others =>
          rw [List.flatMap_cons, List.flatMap_cons]
          rcases List.cons_lt_cons_iff.mp below with lower | ⟨rfl, deeper⟩
          · exact utf8EncodeChar_lt lower _ _
          · exact List.append_left_lt (inductionHypothesis deeper)

/-- Of two texts the lower one has the lower octets. -/
theorem octets_lt {first second : String} (below : first < second) : octets first < octets second := by
  rw [octets_eq_flatMap, octets_eq_flatMap]
  exact flatMap_utf8EncodeChar_lt (String.lt_iff_toList_lt.mp below)

end Turnstile.Text
