/-
Module: Turnstile.Proofs.Launch.MarkerLine
Purpose: Which texts are markers, and that markers survive being written and read again.
Main exports: Marker.parse_iff_core, Marker.parse_text_of_parse, Marker.exists_record_of_read,
  LaunchSettings.resolve_of_record, Marker.Reads, Marker.Keeps, Marker.roundTrip
-/
import Turnstile.Proofs.Launch.Marker

/-!
A text is a marker if the part of it between its outer white space has one slash, with something on either side.
What is read of a text is legible, so the line that is written for it is read as the same marker.  The line can be
written over any marker that is there; and a launch that is told one part only takes the other one from the marker.
-/

namespace Turnstile

namespace Marker

variable {marker : Marker} {contents : String} {front back : List Char}

/-- Around a slash there is no other one if it is the only one. -/
theorem count_slash_iff : (front ++ '/' :: back).count '/' = 1 ↔ '/' ∉ front ∧ '/' ∉ back := by
  rw [List.count_append, List.count_cons_self, ← List.count_eq_zero, ← List.count_eq_zero]
  omega

/-- A text is read as the parts around the only slash between its outer white space. -/
theorem parse_iff_core : parse contents = .ok marker ↔
    ∃ core, Blank.Core contents.toList core ∧ core.count '/' = 1 ∧
      core = marker.namespaceName.toList ++ '/' :: marker.workspace.toList ∧
      marker.namespaceName ≠ "" ∧ marker.workspace ≠ "" := by
  rw [parse_eq_ok_iff, Blank.trimmed_eq_iff]
  constructor
  · rintro ⟨isCore, placed, named, unbroken⟩
    exact ⟨_, isCore, count_slash_iff.mpr unbroken, rfl, placed, named⟩
  · rintro ⟨_, isCore, single, rfl, placed, named⟩
    exact ⟨isCore, placed, named, count_slash_iff.mp single⟩

/-- A text is read exactly if there is one slash between its outer white space, with something on either side. -/
theorem parse_ok_iff : (∃ marker, parse contents = .ok marker) ↔
    ∃ front back, Blank.Core contents.toList (front ++ '/' :: back) ∧ (front ++ '/' :: back).count '/' = 1 ∧
      front ≠ [] ∧ back ≠ [] := by
  constructor
  · rintro ⟨marker, parsed⟩
    obtain ⟨_, isCore, single, rfl, placed, named⟩ := parse_iff_core.mp parsed
    exact ⟨_, _, isCore, single, fun nothing => placed (String.toList_eq_nil_iff.mp nothing),
      fun nothing => named (String.toList_eq_nil_iff.mp nothing)⟩
  · rintro ⟨front, back, isCore, single, placed, named⟩
    refine ⟨⟨String.ofList front, String.ofList back⟩, parse_iff_core.mpr ⟨_, isCore, single, ?_, ?_, ?_⟩⟩
    · rw [String.toList_ofList, String.toList_ofList]
    · rwa [Ne, ← String.toList_eq_nil_iff, String.toList_ofList]
    · rwa [Ne, ← String.toList_eq_nil_iff, String.toList_ofList]

/-- What was read of a text is read again of its line. -/
theorem parse_text_of_parse (parsed : parse contents = .ok marker) : parse marker.text = .ok marker := by
  rw [parse_eq_ok_iff] at parsed ⊢
  obtain ⟨left, parts⟩ := parsed
  refine ⟨?_, parts⟩
  calc Blank.trimmed marker.text.toList
    _ = Blank.trimmed (marker.namespaceName.toList ++ '/' :: marker.workspace.toList) := trimmed_text marker
    _ = marker.namespaceName.toList ++ '/' :: marker.workspace.toList := by
      rw [← left]
      exact Blank.trimmed_eq_self_iff.mpr ⟨(Blank.core_trimmed _).front, (Blank.core_trimmed _).back⟩

/-! ### Writing over a marker -/

theorem within_path (folder : String) : within folder path = within folder directory ++ "/" ++ "environment" := by
  unfold within
  split
  · rfl
  · have parts : path = directory ++ "/" ++ "environment" := rfl
    rw [parts, ← String.append_assoc, ← String.append_assoc]

theorem within_directory_ne_empty (folder : String) : within folder directory ≠ "" := by
  unfold within
  split
  · decide
  · simp [directory]

/-- On a disk that refuses nothing, a marker is recorded over any that is there. -/
theorem exists_record_of_read {files : FileTree} {folder : String} {data : List UInt8}
    (kept : Files.read files (within folder path) = .ok data) (marker : Marker) (name : String) :
    ∃ left, marker.record {} files folder name = (.ok (), left) := by
  obtain ⟨left, written⟩ := Files.exists_write_of_read kept marker.text.toUTF8.toList
  obtain ⟨relative, place, leads, _⟩ := Files.leads_of_read kept
  rw [within_path, String.append_assoc, Files.isAbsolute_append (within_directory_ne_empty folder)] at relative
  rw [within_path, Files.names_append] at leads
  obtain ⟨middle, above, isDirectory⟩ := leads.front (by decide)
  have made := Files.createDirectories_of_leads relative above isDirectory
  exact ⟨left, by simp only [record, Disk.createDirectories, made, Disk.write, written, Disk.perform]⟩

end Marker

/-- After a legible marker was recorded, a launch uses what it is told, and the marker for what it is not told. -/
theorem LaunchSettings.resolve_of_record {marker : Marker} {disk : Disk} {files left : FileTree} {folder name : String}
    (legible : marker.Legible) (recorded : marker.record disk files folder name = (.ok (), left)) (shownAs : String)
    (namespaceName workspace : Option String) :
    resolve left folder shownAs namespaceName workspace =
      .ok { namespaceName := namespaceName.getD marker.namespaceName
            workspace := workspace.getD marker.workspace } := by
  have readAgain : Marker.read left folder shownAs = .ok (some marker) := by
    rw [Marker.read_of_record recorded, (Marker.parse_text_iff marker).mpr legible]
  rw [resolve, readAgain]
  cases namespaceName <;> cases workspace <;> rfl

namespace Marker

/-- What a text is read as. -/
structure Reads (contents : String) : Prop where
  /-- It is a marker exactly if it has one slash between its outer white space, with something on either side. -/
  accepted : (∃ marker, parse contents = .ok marker) ↔
    ∃ front back, Blank.Core contents.toList (front ++ '/' :: back) ∧ (front ++ '/' :: back).count '/' = 1 ∧
      front ≠ [] ∧ back ≠ []
  /-- The marker is what stands on either side. -/
  parts : ∀ marker, parse contents = .ok marker ↔
    ∃ core, Blank.Core contents.toList core ∧ core.count '/' = 1 ∧
      core = marker.namespaceName.toList ++ '/' :: marker.workspace.toList ∧
      marker.namespaceName ≠ "" ∧ marker.workspace ≠ ""
  /-- The line of that marker is read as the same marker. -/
  again : ∀ marker, parse contents = .ok marker → parse marker.text = .ok marker

/-- What is kept of a marker that is written. -/
structure Keeps (marker : Marker) : Prop where
  /-- It is read again exactly if neither part is empty or has a slash, and no white space is at the outer ends. -/
  read : parse marker.text = .ok marker ↔
    marker.namespaceName ≠ "" ∧ marker.workspace ≠ "" ∧
      '/' ∉ marker.namespaceName.toList ∧ '/' ∉ marker.workspace.toList ∧
      (∀ first ∈ marker.namespaceName.toList.head?, Blank.isBlank first = false) ∧
      ∀ last ∈ marker.workspace.toList.getLast?, Blank.isBlank last = false
  /-- A disk that refuses nothing takes it over any marker that is there, legible or not. -/
  overwrites : ∀ files folder name data, Files.read files (within folder path) = .ok data →
    ∃ left, marker.record {} files folder name = (.ok (), left)
  /-- Its line is what the file holds once it was recorded, whatever was there before. -/
  line : ∀ disk files folder name left, marker.record disk files folder name = (.ok (), left) →
    Files.readText left (within folder path) = .ok marker.text
  /-- Then a launch uses what it is told, and this marker for what it is not told. -/
  resolves : parse marker.text = .ok marker → ∀ disk files folder name left,
    marker.record disk files folder name = (.ok (), left) → ∀ shownAs namespaceName workspace,
      LaunchSettings.resolve left folder shownAs namespaceName workspace =
        .ok { namespaceName := namespaceName.getD marker.namespaceName
              workspace := workspace.getD marker.workspace }

/-- Markers survive being written and read again. -/
theorem roundTrip : (∀ contents, Reads contents) ∧ ∀ marker, Keeps marker := by
  refine ⟨fun contents => ⟨parse_ok_iff, fun _ => parse_iff_core, fun _ => parse_text_of_parse⟩, fun marker => ?_⟩
  constructor
  case read =>
    rw [parse_text_iff]
    constructor
    · rintro ⟨placed, named, unbroken, front, back⟩
      exact ⟨placed, named, unbroken.1, unbroken.2, front, back⟩
    · rintro ⟨placed, named, whole, unbroken, front, back⟩
      exact ⟨placed, named, ⟨whole, unbroken⟩, front, back⟩
  case overwrites => exact fun _ _ name _ kept => exists_record_of_read kept marker name
  case line => exact fun _ _ _ _ _ recorded => (readText_of_record recorded).2
  case resolves =>
    intro parsed disk files folder name left recorded
    exact LaunchSettings.resolve_of_record ((parse_text_iff marker).mp parsed) recorded

end Marker

end Turnstile
