/-
Module: Turnstile.Proofs.Archive.Unpack
Purpose: How entries are unpacked one by one, and what it tells of them that they can be unpacked.
Main exports: FileTree.place?, FileTree.at?_place?, Archive.unpack, Archive.Founded, Archive.listing_of_unpack
-/
import Mathlib.Data.List.Induction
import Turnstile.Proofs.Archive.Tree

/-!
Unpacking is strict: the directory that an entry belongs to has to be there, and its own place has to be vacant.  So
entries that can be unpacked list every path once, and every directory before what is below it; and what stands in
the unpacked tree is what they list.
-/

namespace Turnstile

/-- What an entry brings along: its file, its link, or a directory that is still empty. -/
def Archive.Content.tree : Content → FileTree
  | .file data => .file data
  | .link target => .link target
  | .directory => .directory []

namespace FileTree

/-- Put a tree at a path that is vacant, in a directory that is there. -/
def place? (new : FileTree) : List String → FileTree → Option FileTree
  | [name], .directory entries =>
    if (entries.lookup name).isSome then none else some (.directory (entries ++ [(name, new)]))
  | name :: rest, .directory entries =>
    (entries.lookup name).bind fun child =>
      (place? new rest child).map fun grown => .directory (putEntry name grown entries)
  | _, _ => none

variable {new tree grown : FileTree} {name : String} {path : List String}

/-- How a tree is put at a path: in the root, or in what is held under the first name. -/
theorem place?_cases (placed : place? new path tree = some grown) :
    (∃ name entries, path = [name] ∧ tree = .directory entries ∧ entries.lookup name = none ∧
      grown = .directory (entries ++ [(name, new)])) ∨
    ∃ name next rest entries child child', path = name :: next :: rest ∧ tree = .directory entries ∧
      entries.lookup name = some child ∧ place? new (next :: rest) child = some child' ∧
      grown = .directory (putEntry name child' entries) := by
  unfold place? at placed
  split at placed
  · rename_i name entries
    split at placed
    · cases placed
    · rename_i vacant
      cases placed
      exact .inl ⟨name, entries, rfl, rfl, Option.not_isSome_iff_eq_none.mp vacant, rfl⟩
  · rename_i name rest entries several
    obtain ⟨child, found, placed⟩ := Option.bind_eq_some_iff.mp placed
    obtain ⟨child', inside, rfl⟩ := Option.map_eq_some_iff.mp placed
    cases rest with
    | nil => exact absurd rfl several
    | cons next rest => exact .inr ⟨name, next, rest, entries, child, child', rfl, rfl, found, inside, rfl⟩
  · cases placed

/-- Only the path at which a tree was put looks different. -/
theorem at?_place? (placed : place? new path tree = some grown) (bare : new.held = []) (other : List String) :
    grown.at? other = if other = path then some new.content else tree.at? other := by
  induction path generalizing tree grown other with
  | nil => cases placed
  | cons name path inductionHypothesis =>
      cases other with
      | nil =>
          rcases place?_cases placed with ⟨_, _, _, rfl, _, rfl⟩ | ⟨_, _, _, _, _, _, _, rfl, _, _, rfl⟩ <;> rfl
      | cons first rest =>
          rcases place?_cases placed with
            ⟨name, entries, same, rfl, vacant, rfl⟩ |
            ⟨name, next, behind, entries, child, child', same, rfl, found, inside, rfl⟩
          · cases same
            simp only [at?_cons, held, List.lookup_append, lookup_cons_eq, List.lookup_nil]
            by_cases here : first = name
            · subst here
              cases rest <;> simp [vacant, bare]
            · simp [here]
          · cases same
            simp only [at?_cons, held, lookup_putEntry]
            by_cases here : first = name
            · subst here
              simp [found, inductionHypothesis inside]
            · simp [here]

/-- The path at which a tree was put was vacant. -/
theorem vacant_of_place? (placed : place? new path tree = some grown) : tree.at? path = none := by
  induction path generalizing tree grown with
  | nil => cases placed
  | cons name path inductionHypothesis =>
      rcases place?_cases placed with
        ⟨name, entries, same, rfl, vacant, _⟩ |
        ⟨name, next, behind, entries, child, child', same, rfl, found, inside, _⟩
      · cases same
        simp [held, vacant]
      · cases same
        rw [at?_cons]
        simp only [held, found, Option.bind_some]
        exact inductionHypothesis inside

/-- Every path above one at which a tree was put leads to a directory. -/
theorem directory_of_place? {front behind : List String} (placed : place? new (front ++ behind) tree = some grown)
    (above : behind ≠ []) : tree.at? front = some .directory := by
  induction front generalizing tree grown with
  | nil =>
      rcases place?_cases placed with ⟨_, _, _, rfl, _⟩ | ⟨_, _, _, _, _, _, _, rfl, _⟩ <;> rfl
  | cons first front inductionHypothesis =>
      rcases place?_cases placed with
        ⟨name, entries, same, _⟩ | ⟨name, next, rest, entries, child, child', same, rfl, found, inside, _⟩
      · simp only [List.cons_append, List.cons.injEq, List.append_eq_nil_iff] at same
        exact absurd same.2.2 above
      · simp only [List.cons_append, List.cons.injEq] at same
        obtain ⟨rfl, same⟩ := same
        rw [← same] at inside
        simpa [held, found] using inductionHypothesis inside

end FileTree

namespace Archive

open FileTree

/-- Unpack one entry into a tree. -/
def extract (tree : FileTree) (entry : Entry) : Option FileTree :=
  place? entry.content.tree entry.path tree

/-- Unpack entries into a tree, one by one. -/
def unpackInto (tree : FileTree) (entries : List Entry) : Option FileTree :=
  entries.foldlM extract tree

/-- Unpack entries into an empty directory. -/
def unpack (entries : List Entry) : Option FileTree :=
  unpackInto (.directory []) entries

/-- The entry of every directory stands before the entries below it. -/
def Founded (entries : List Entry) : Prop :=
  ∀ before entry after, entries = before ++ entry :: after →
    ∀ front behind, entry.path = front ++ behind → front ≠ [] → behind ≠ [] → ⟨front, .directory⟩ ∈ before

/-- What stands in the tree is what the entries list. -/
def Shows (tree : FileTree) (entries : List Entry) : Prop :=
  tree.content = .directory ∧
    ∀ path content, path ≠ [] → (tree.at? path = some content ↔ ⟨path, content⟩ ∈ entries)

variable {tree grown : FileTree} {entries : List Entry} {entry : Entry}

@[simp] theorem unpackInto_nil (tree : FileTree) : unpackInto tree [] = some tree := rfl

theorem unpackInto_cons (tree : FileTree) (entry : Entry) (rest : List Entry) :
    unpackInto tree (entry :: rest) = (extract tree entry).bind fun grown => unpackInto grown rest :=
  List.foldlM_cons

theorem unpackInto_append (tree : FileTree) (entries more : List Entry) :
    unpackInto tree (entries ++ more) = (unpackInto tree entries).bind fun grown => unpackInto grown more :=
  List.foldlM_append

theorem held_tree (content : Content) : content.tree.held = [] := by
  cases content <;> rfl

theorem content_tree (content : Content) : content.tree.content = content := by
  cases content <;> rfl

/-- The path of an entry that was unpacked is not that of the root. -/
theorem path_ne_nil_of_extract (extracts : extract tree entry = some grown) : entry.path ≠ [] := by
  intro root
  rw [extract, root] at extracts
  cases extracts

/-- An entry that is unpacked is listed for the first time. -/
theorem Shows.notMem_of_extract (shows' : Shows tree entries) (extracts : extract tree entry = some grown) :
    entry.path ∉ entries.map Entry.path := by
  intro member
  obtain ⟨other, listed, same⟩ := List.mem_map.mp member
  have there : ⟨entry.path, other.content⟩ ∈ entries := by rwa [← same]
  rw [← shows'.2 _ _ (path_ne_nil_of_extract extracts), vacant_of_place? extracts] at there
  cases there

/-- A tree goes on to show what is listed when one more entry is unpacked. -/
theorem Shows.extract (shows' : Shows tree entries) (extracts : extract tree entry = some grown) :
    Shows grown (entries ++ [entry]) := by
  have look := at?_place? extracts (held_tree entry.content)
  have filled := path_ne_nil_of_extract extracts
  refine ⟨?_, fun path content below => ?_⟩
  · have root := look []
    rw [if_neg (Ne.symm filled), at?_nil, at?_nil, shows'.1] at root
    exact Option.some.inj root
  · rw [look, List.mem_append, List.mem_singleton, content_tree]
    by_cases here : path = entry.path
    · subst here
      have new := shows'.notMem_of_extract extracts
      rw [if_pos rfl]
      constructor
      · intro same
        exact .inr (by rw [← Option.some.inj same])
      · rintro (listed | same)
        · exact absurd (List.mem_map_of_mem listed) new
        · rw [← same]
    · rw [if_neg here, shows'.2 path content below]
      refine (or_iff_left fun same => ?_).symm
      exact here (congrArg Entry.path same)

/-- Entries that can be unpacked list every path once and every directory before what is below it, and the tree
shows what they list. -/
theorem listing_of_unpack (unpacks : unpack entries = some tree) :
    Shows tree entries ∧ (entries.map Entry.path).Nodup ∧ Founded entries := by
  induction entries using List.reverseRecOn generalizing tree with
  | nil =>
      cases unpacks
      refine ⟨⟨rfl, fun path content below => ?_⟩, List.nodup_nil, fun before entry after impossible => ?_⟩
      · cases path with
        | nil => exact absurd rfl below
        | cons name rest => simp [held]
      · simp at impossible
  | append_singleton entries last inductionHypothesis =>
      rw [unpack, unpackInto_append] at unpacks
      obtain ⟨earlier, unpacked, extracts⟩ := Option.bind_eq_some_iff.mp unpacks
      simp only [unpackInto_cons, unpackInto_nil, Option.bind_fun_some] at extracts
      obtain ⟨shows', once, founded⟩ := inductionHypothesis unpacked
      refine ⟨shows'.extract extracts, ?_, ?_⟩
      · rw [List.map_append, List.map_cons, List.map_nil, ← List.concat_eq_append]
        exact once.concat (shows'.notMem_of_extract extracts)
      · intro before entry after split front behind path inside above
        rcases List.eq_nil_or_concat after with rfl | ⟨others, final, rfl⟩
        · obtain ⟨rfl, same⟩ := List.append_inj' split rfl
          cases same
          rw [extract, path] at extracts
          exact (shows'.2 front .directory inside).mp (directory_of_place? extracts above)
        · rw [List.concat_eq_append, ← List.cons_append, ← List.append_assoc] at split
          obtain ⟨same, _⟩ := List.append_inj' split rfl
          exact founded before entry others same front behind path inside above

end Archive

end Turnstile
