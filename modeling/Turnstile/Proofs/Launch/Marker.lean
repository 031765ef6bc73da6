/-
Module: Turnstile.Proofs.Launch.Marker
Purpose: Which texts are markers of what, and that a marker that is written names what a launch uses afterwards.
Main exports: Marker.parse_eq_ok_iff, Marker.Legible, Marker.parse_text_iff, Marker.read_of_record,
  LaunchSettings.resolve_iff_of_record
-/
import Turnstile.Launch.Marker
import Turnstile.Proofs.Files
import Turnstile.Proofs.Text.Blank
import Turnstile.Proofs.Text.Octets

/-!
A text is a marker if, without the white space at its ends, it consists of two parts with one slash between them.
The line that is written for a marker is read as that marker if its parts are such parts, and if the white space that
does not count is none of theirs.
-/

namespace Turnstile

namespace Marker

variable {marker : Marker} {characters namespacePart workspacePart : List Char}

/-! ### The line of a marker -/

/-- A text is split where its only slash is, with something on either side of it. -/
theorem split?_eq_some_iff : split? characters = some (namespacePart, workspacePart) ↔
    characters = namespacePart ++ '/' :: workspacePart ∧ namespacePart ≠ [] ∧ workspacePart ≠ [] ∧
      '/' ∉ namespacePart ∧ '/' ∉ workspacePart := by
  constructor
  · intro divided
    have whole : characters.takeWhile (· != '/') ++ characters.dropWhile (· != '/') = characters :=
      List.takeWhile_append_dropWhile
    have unbroken : '/' ∉ characters.takeWhile (· != '/') := by
      intro member
      simpa using List.mem_takeWhile_imp member
    unfold split? at divided
    cases dropped : characters.dropWhile (· != '/') with
    | nil =>
        rw [dropped] at divided
        cases divided
    | cons slash behind =>
        have isSlash : slash = '/' := by
          have stops := List.head_dropWhile_not (· != '/') (dropped ▸ List.cons_ne_nil slash behind)
          simpa [dropped] using stops
        rw [dropped] at divided whole
        simp only at divided
        split at divided
        · cases divided
        · rename_i parts
          simp only [Bool.or_eq_true, List.isEmpty_iff, List.contains_iff_mem, not_or] at parts
          cases divided
          exact ⟨isSlash ▸ whole.symm, parts.1.1, parts.1.2, unbroken, parts.2⟩
  · rintro ⟨rfl, placed, named, unbroken, whole⟩
    have passes : ∀ character ∈ namespacePart, (character != '/') = true := by
      rintro character member
      exact bne_iff_ne.mpr fun same => unbroken (same ▸ member)
    simp [split?, List.takeWhile_append_of_pos passes, List.dropWhile_append_of_pos passes, placed, named, whole]

/-- A text is read as the two parts that are left of it. -/
theorem parse_eq_ok_iff {contents : String} : parse contents = .ok marker ↔
    Blank.trimmed contents.toList = marker.namespaceName.toList ++ '/' :: marker.workspace.toList ∧
      marker.namespaceName ≠ "" ∧ marker.workspace ≠ "" ∧
      '/' ∉ marker.namespaceName.toList ∧ '/' ∉ marker.workspace.toList := by
  rw [Ne, Ne, ← String.toList_eq_nil_iff, ← String.toList_eq_nil_iff, ← Ne, ← Ne, ← split?_eq_some_iff]
  unfold parse
  cases found : split? (Blank.trimmed contents.toList) with
  | none => simp [found]
  | some parts =>
      obtain ⟨namespacePart, workspacePart⟩ := parts
      obtain ⟨namespaceName, workspace⟩ := marker
      simp only [found, Except.ok.injEq, Marker.mk.injEq, Option.some.injEq, Prod.mk.injEq]
      constructor
      · rintro ⟨rfl, rfl⟩
        exact ⟨String.toList_ofList.symm, String.toList_ofList.symm⟩
      · rintro ⟨rfl, rfl⟩
        exact ⟨String.ofList_toList, String.ofList_toList⟩

/-- Nothing of a marker is lost when it is written as a line: neither part is empty or holds a slash, and the white
space at the ends of the line is none of its parts'. -/
structure Legible (marker : Marker) : Prop where
  placed : marker.namespaceName ≠ ""
  named : marker.workspace ≠ ""
  unbroken : '/' ∉ marker.namespaceName.toList ∧ '/' ∉ marker.workspace.toList
  front : ∀ first ∈ marker.namespaceName.toList.head?, Blank.isBlank first = false
  back : ∀ last ∈ marker.workspace.toList.getLast?, Blank.isBlank last = false

/-- The end of the line of a marker does not count. -/
theorem trimmed_text (marker : Marker) : Blank.trimmed marker.text.toList =
    Blank.trimmed (marker.namespaceName.toList ++ '/' :: marker.workspace.toList) := by
  have spelled : marker.text.toList =
      (marker.namespaceName.toList ++ '/' :: marker.workspace.toList) ++ ['\n'] := by
    simp [text, String.toList_append]
  rw [spelled, Blank.trimmed_append_blank (by decide)]

/-- The line of a marker is read as that marker exactly if it is legible. -/
theorem parse_text_iff (marker : Marker) : parse marker.text = .ok marker ↔ marker.Legible := by
  have ends : marker.namespaceName ≠ "" → marker.workspace ≠ "" →
      (marker.namespaceName.toList ++ '/' :: marker.workspace.toList).head? = marker.namespaceName.toList.head? ∧
        (marker.namespaceName.toList ++ '/' :: marker.workspace.toList).getLast? =
          marker.workspace.toList.getLast? := by
    intro placed named
    have begun : marker.namespaceName.toList ≠ [] := fun empty => placed (String.toList_eq_nil_iff.mp empty)
    have ended : marker.workspace.toList ≠ [] := fun empty => named (String.toList_eq_nil_iff.mp empty)
    exact ⟨List.head?_append_of_ne_nil _ begun,
      by rw [List.append_cons, List.getLast?_append_of_ne_nil _ ended]⟩
  rw [parse_eq_ok_iff, trimmed_text, Blank.trimmed_eq_self_iff]
  constructor
  · rintro ⟨⟨front, back⟩, placed, named, unbroken⟩
    obtain ⟨first, last⟩ := ends placed named
    rw [first] at front
    rw [last] at back
    exact ⟨placed, named, unbroken, front, back⟩
  · rintro ⟨placed, named, unbroken, front, back⟩
    obtain ⟨first, last⟩ := ends placed named
    rw [first, last]
    exact ⟨⟨front, back⟩, placed, named, unbroken⟩

/-! ### The file of a marker -/

section Record

variable {disk : Disk} {files left : FileTree} {folder name : String}

/-- An operation that ended well was not refused, and left what it was to leave. -/
theorem of_perform {refusal : Option SystemFault} {root next : FileTree} {changed : Except SystemFault FileTree}
    (performed : disk.perform refusal root changed = (.ok (), next)) : changed = .ok next := by
  unfold Disk.perform at performed
  split at performed
  · cases performed
  · cases performed
  · cases performed
    rfl

/-- A marker that was recorded is written to its file. -/
theorem written_of_record (recorded : marker.record disk files folder name = (.ok (), left)) :
    ∃ made, Files.write made (within folder path) marker.text.toUTF8.toList = .ok left := by
  unfold record at recorded
  split at recorded
  · cases recorded
  · rename_i made _
    split at recorded
    · cases recorded
    · rename_i written
      cases recorded
      exact ⟨made, of_perform written⟩

/-- The file of a marker that was recorded holds its line. -/
theorem readText_of_record (recorded : marker.record disk files folder name = (.ok (), left)) :
    Files.exists? left (within folder path) = true ∧ Files.readText left (within folder path) = .ok marker.text := by
  obtain ⟨made, written⟩ := written_of_record recorded
  obtain ⟨there, same⟩ := Files.read_of_write written
  refine ⟨there, ?_⟩
  rw [Files.readText, same, Text.toList_toUTF8, Except.bind, Files.decodeText, Text.fromUTF8?_octets]

/-- What is read of a marker that was recorded is what its line is read as. -/
theorem read_of_record (recorded : marker.record disk files folder name = (.ok (), left)) (shownAs : String) :
    read left folder shownAs =
      match parse marker.text with
      | .error fault => .error (fault.within ("Invalid environment file " ++ shown shownAs path))
      | .ok same => .ok (some same) := by
  obtain ⟨there, decoded⟩ := readText_of_record recorded
  cases parsed : parse marker.text with
  | error fault => simp only [read, there, decoded, parsed, if_true]
  | ok same => simp only [read, there, decoded, parsed, if_true]

end Record

end Marker

/-- After a marker was recorded, a launch that names nothing uses what the marker names if the marker is legible, and
only then. -/
theorem LaunchSettings.resolve_iff_of_record {marker : Marker} {disk : Disk} {files left : FileTree}
    {folder name : String} (recorded : marker.record disk files folder name = (.ok (), left)) (shownAs : String) :
    resolve left folder shownAs none none =
        .ok { namespaceName := marker.namespaceName, workspace := marker.workspace } ↔ marker.Legible := by
  rw [← Marker.parse_text_iff, resolve, Marker.read_of_record recorded]
  cases Marker.parse marker.text with
  | error fault => exact ⟨nofun, nofun⟩
  | ok same =>
      obtain ⟨namespaceName, workspace⟩ := marker
      obtain ⟨sameSpace, sameName⟩ := same
      simp [Except.map, ofMarker]

end Turnstile
