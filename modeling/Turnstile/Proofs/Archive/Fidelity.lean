/-
Module: Turnstile.Proofs.Archive.Fidelity
Purpose: What is unpacked from the archive of a directory, and when its payload is refused.
Main exports: Archive.LeftOut, Archive.Rebuilds, Archive.Faithful, Payload.Limited, Archive.entries_faithful
-/
import Turnstile.Launch.Packing
import Turnstile.Proofs.Archive.Walk

/-!
The directory that is unpacked is described path by path.  A path is left out if it is that of a directory of a
skipped name, or below one; everything else stands where it stood, as it stood, and nothing is added.

The octets in which entries are stored are not described here.  So what is said of a payload holds for every way to
store entries; what can be unpacked from it rests on reading back what was stored.
-/

namespace Turnstile

namespace Archive

open FileTree

/-- The path is that of a directory that is skipped, or goes through one. -/
def LeftOut (tree : FileTree) (path : List String) : Prop :=
  ∃ front name behind, path = front ++ name :: behind ∧ name ∈ skipped ∧ tree.at? (front ++ [name]) = some .directory

/-- The tree is rebuilt except for what is left out. -/
structure Rebuilds (tree rebuilt : FileTree) : Prop where
  distinct : rebuilt.Distinct
  absent : ∀ path, LeftOut tree path → rebuilt.at? path = none
  present : ∀ path, ¬LeftOut tree path → rebuilt.at? path = tree.at? path

variable {tree : FileTree} {name : String} {rest : List String} {contents : List (String × FileTree)}

theorem not_leftOut_nil : ¬LeftOut tree [] := by
  rintro ⟨front, name, behind, split, _⟩
  exact absurd split.symm (by simp)

/-- A path is left out by the entry that it begins with, or below it. -/
theorem leftOut_cons : LeftOut tree (name :: rest) ↔
    ∃ child, tree.held.lookup name = some child ∧ (takes (name, child) = false ∨ LeftOut child rest) := by
  constructor
  · rintro ⟨front, skip, behind, split, isSkipped, isDirectory⟩
    cases front with
    | nil =>
        cases split
        rw [List.nil_append, at?_cons] at isDirectory
        obtain ⟨child, found, isDirectory⟩ := Option.bind_eq_some_iff.mp isDirectory
        exact ⟨child, found, .inl (takes_eq_false_iff.mpr ⟨Option.some.inj isDirectory, isSkipped⟩)⟩
    | cons head front =>
        cases split
        rw [List.cons_append, at?_cons] at isDirectory
        obtain ⟨child, found, isDirectory⟩ := Option.bind_eq_some_iff.mp isDirectory
        exact ⟨child, found, .inr ⟨front, skip, behind, rfl, isSkipped, isDirectory⟩⟩
  · rintro ⟨child, found, out | ⟨front, skip, behind, rfl, isSkipped, isDirectory⟩⟩
    · obtain ⟨isDirectory, isSkipped⟩ := takes_eq_false_iff.mp out
      exact ⟨[], name, rest, rfl, isSkipped, by simp [found, isDirectory]⟩
    · exact ⟨name :: front, skip, behind, rfl, isSkipped, by simpa [found] using isDirectory⟩

/-- A pruned tree holds under a name what the tree holds there, pruned, unless it is left out. -/
theorem lookup_held_pruned (distinct : tree.Distinct) (name : String) :
    (pruned tree).held.lookup name =
      ((tree.held.lookup name).filter fun child => takes (name, child)).map pruned := by
  cases tree with
  | directory entries =>
      rw [held_pruned, prunedAll_eq_map, lookup_map_snd, held, lookup_filter distinct.names]
  | _ => rw [held_pruned]; rfl

theorem rebuilds_pruned (distinct : tree.Distinct) : Rebuilds tree (pruned tree) := by
  suffices look : ∀ path, (LeftOut tree path → (pruned tree).at? path = none) ∧
      (¬LeftOut tree path → (pruned tree).at? path = tree.at? path) from
    ⟨distinct_pruned distinct, fun path => (look path).1, fun path => (look path).2⟩
  intro path
  induction path generalizing tree with
  | nil => exact ⟨fun out => absurd out not_leftOut_nil, fun _ => by rw [at?_nil, at?_nil, content_pruned]⟩
  | cons name rest inductionHypothesis =>
      rw [leftOut_cons, at?_cons, at?_cons, lookup_held_pruned distinct]
      cases found : tree.held.lookup name with
      | none => simp
      | some child =>
          cases taken : takes (name, child) with
          | false => simp [taken]
          | true => simpa [taken, Option.filter_some] using inductionHypothesis (distinct.child found)

/-! ### The entries of a directory -/

theorem entries_eq (contents : List (String × FileTree)) : entries contents = walkAll [] (arranged contents) := by
  rw [entries, sorted_directory]

/-- The entries of a directory unpack to it, sorted and without what is left out. -/
theorem unpack_entries (distinct : (directory contents).Distinct) :
    unpack (entries contents) = some (pruned (sorted (.directory contents))) := by
  have ordered := ordered_arranged distinct
  rw [entries_eq, sorted_directory, pruned]
  exact unpackInto_walkAll ordered.distinct [] ordered.distinct.names

/-- A tree that looks like one that is rebuilt is rebuilt as well. -/
theorem Rebuilds.congr {other rebuilt : FileTree} (rebuilds : Rebuilds tree rebuilt)
    (alike : ∀ path, tree.at? path = other.at? path) : Rebuilds other rebuilt := by
  have same (path : List String) : LeftOut other path ↔ LeftOut tree path := by
    simp only [LeftOut, alike]
  exact ⟨rebuilds.distinct, fun path out => rebuilds.absent path ((same path).mp out),
    fun path stays => (rebuilds.present path (stays ∘ (same path).mpr)).trans (alike path)⟩

/-- The archive of a directory is true to it. -/
structure Faithful (contents : List (String × FileTree)) : Prop where
  /-- What is unpacked is the directory without what is left out. -/
  rebuilds : ∃ rebuilt, unpack (entries contents) = some rebuilt ∧ Rebuilds (.directory contents) rebuilt
  /-- Every path is listed once. -/
  once : ((entries contents).map Entry.path).Nodup
  /-- A directory is listed before what is below it. -/
  founded : Founded (entries contents)
  /-- Siblings are listed in the order of their names. -/
  siblings : (entries contents).Pairwise InOrder
  /-- The order in which directories list their entries does not show. -/
  steady : ∀ listing, (directory listing).Distinct →
    (∀ path, (directory listing).at? path = (directory contents).at? path) → entries listing = entries contents
  /-- A payload that gives back the entries stored in it unpacks to the directory as well. -/
  restores : ∀ (pack : List Entry → List UInt8) (read? : List UInt8 → Option (List Entry)) files path payload,
    read? (pack (entries contents)) = some (entries contents) → Files.list files path = .ok contents →
      Payload.createBy pack files path = .ok payload →
        ∃ rebuilt, (read? payload).bind unpack = some rebuilt ∧ Rebuilds (.directory contents) rebuilt

end Archive

/-! ### The limit of a payload -/

namespace Payload

/-- A payload is the entries of the directory, stored, and is refused exactly if it is beyond one mebibyte. -/
structure Limited (pack : List Archive.Entry → List UInt8)
    (make : FileTree → String → Except LaunchFailure (List UInt8)) : Prop where
  refused : ∀ files path size bound, make files path = .error (.payloadTooLarge size bound) ↔
    ∃ contents, Files.list files path = .ok contents ∧ size = (pack (Archive.entries contents)).length ∧
      bound = 1048576 ∧ 1048576 < size
  accepted : ∀ files path payload, make files path = .ok payload ↔
    ∃ contents, Files.list files path = .ok contents ∧ payload = pack (Archive.entries contents) ∧
      payload.length ≤ 1048576

theorem checked_error_iff {payload : List UInt8} {size bound : Nat} :
    checked payload = .error (.payloadTooLarge size bound) ↔
      size = payload.length ∧ bound = 1048576 ∧ 1048576 < size := by
  unfold checked limit
  split
  · rename_i beyond
    simp only [Except.error.injEq, LaunchFailure.payloadTooLarge.injEq]
    omega
  · rename_i within
    exact ⟨nofun, fun ⟨same, _, beyond⟩ => absurd (same ▸ beyond) within⟩

theorem checked_ok_iff {payload given : List UInt8} :
    checked payload = .ok given ↔ given = payload ∧ given.length ≤ 1048576 := by
  unfold checked limit
  split
  · rename_i beyond
    exact ⟨nofun, fun ⟨same, within⟩ => absurd (same ▸ within) (Nat.not_le.mpr beyond)⟩
  · rename_i within
    refine ⟨fun same => ?_, fun ⟨same, _⟩ => congrArg Except.ok same.symm⟩
    cases same
    exact ⟨rfl, Nat.not_lt.mp within⟩

theorem limited (pack : List Archive.Entry → List UInt8) : Limited pack (createBy pack) := by
  constructor
  · intro files path size bound
    unfold createBy
    cases Files.list files path with
    | error fault => simp
    | ok contents => simp only [checked_error_iff, Except.ok.injEq, exists_eq_left']
  · intro files path payload
    unfold createBy
    cases Files.list files path with
    | error fault => simp
    | ok contents => simp only [checked_ok_iff, Except.ok.injEq, exists_eq_left']

end Payload

namespace Archive

open FileTree

/-- The archive of a directory rebuilds it, without version control and providers, whatever the order of its
listing, and its payload is refused exactly if it is beyond one mebibyte. -/
theorem entries_faithful {contents : List (String × FileTree)} (distinct : (directory contents).Distinct) :
    Faithful contents ∧ (∀ pack, Payload.Limited pack (Payload.createBy pack)) ∧
      Payload.Limited (fun listed => Gzip.pack (Tar.write listed)) Payload.create := by
  have rebuilds : ∃ rebuilt, unpack (entries contents) = some rebuilt ∧ Rebuilds (.directory contents) rebuilt :=
    ⟨_, unpack_entries distinct, (rebuilds_pruned (ordered_sorted distinct).distinct).congr (at?_sorted distinct)⟩
  obtain ⟨_, once, founded⟩ := listing_of_unpack (unpack_entries distinct)
  refine ⟨⟨rebuilds, once, founded, ?_, ?_, ?_⟩, Payload.limited, Payload.limited _⟩
  · rw [entries_eq]
    exact siblings_walkAll (ordered_arranged distinct)
  · intro listing distinct' alike
    have same := sorted_eq_of_at? distinct' distinct alike
    rw [sorted_directory, sorted_directory] at same
    rw [entries_eq, entries_eq, directory.inj same]
  · intro pack read? files path payload stored listed created
    obtain ⟨contents', listed', rfl, _⟩ := ((Payload.limited pack).accepted files path payload).mp created
    cases listed.symm.trans listed'
    rwa [stored, Option.bind_some]

/-- A working copy: directories that are left out at two depths, and a link and a file of their names. -/
def checkout : List (String × FileTree) :=
  [("modules", .directory
     [("net", .directory [(".terraform", .directory [("cache", .file [1])]), ("main.tf", .file [10])]),
      (".git", .file [103])]),
   (".git", .directory [("HEAD", .link "../modules")]),
   (".terraform", .link "modules")]

theorem entries_checkout : entries checkout =
    [⟨[".terraform"], .link "modules"⟩, ⟨["modules"], .directory⟩, ⟨["modules", ".git"], .file [103]⟩,
     ⟨["modules", "net"], .directory⟩, ⟨["modules", "net", "main.tf"], .file [10]⟩] := by
  simp [entries, checkout, sorted, sortedAll, sortedEntry, List.mergeSort, List.MergeSort.Internal.splitInTwo,
    walkAll, walkEntry, walk, skipped]

/-- The working copy, stored as a tape archive, is rebuilt from its payload. -/
theorem entries_faithful_checkout : (directory checkout).Distinct ∧
    (Faithful checkout ∧ (∀ pack, Payload.Limited pack (Payload.createBy pack)) ∧
      Payload.Limited (fun listed => Gzip.pack (Tar.write listed)) Payload.create) ∧
    LeftOut (.directory checkout) ["modules", "net", ".terraform", "cache"] ∧
    ¬LeftOut (.directory checkout) ["modules", ".git"] ∧
    ∃ payload rebuilt, Payload.createBy Tar.write (directory checkout) "" = .ok payload ∧
      (Tar.read? payload).bind unpack = some rebuilt ∧ Rebuilds (directory checkout) rebuilt := by
  have distinct : (directory checkout).Distinct := by
    simp [distinct_directory_iff, distinct_file, distinct_link, checkout]
  have faithful := entries_faithful distinct
  refine ⟨distinct, faithful, ?_, ?_, ?_⟩
  · exact ⟨["modules", "net"], ".terraform", ["cache"], rfl, by decide, by decide⟩
  · simp [leftOut_cons, not_leftOut_nil, lookup_cons_eq, checkout, held, takes, skipped]
  · have stored : Tar.read? (Tar.write (entries checkout)) = some (entries checkout) := by
      rw [entries_checkout]
      decide +kernel
    have small : (Tar.write (entries checkout)).length ≤ 1048576 := by
      rw [entries_checkout]
      decide +kernel
    have listed : Files.list (directory checkout) "" = .ok checkout := by cbv
    have created : Payload.createBy Tar.write (directory checkout) "" = .ok (Tar.write (entries checkout)) :=
      ((faithful.2.1 Tar.write).accepted _ _ _).mpr ⟨checkout, listed, rfl, small⟩
    obtain ⟨rebuilt, unpacked, rebuilds⟩ :=
      faithful.1.restores Tar.write Tar.read? _ _ _ stored listed created
    exact ⟨_, rebuilt, created, unpacked, rebuilds⟩

end Archive

end Turnstile
