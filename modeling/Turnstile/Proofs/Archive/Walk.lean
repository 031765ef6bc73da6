/-
Module: Turnstile.Proofs.Archive.Walk
Purpose: The entries of an archive in terms of the tree alone: which they are, how they are ordered, and that they
  rebuild the tree without what is left out.
Main exports: Archive.takes, Archive.walkAll_cons, Archive.walkAll_under, Archive.siblings_walkAll, Archive.pruned,
  Archive.unpackInto_walkAll
-/
import Turnstile.Proofs.Archive.Unpack
import Turnstile.Proofs.Text.Octets

/-!
The walk through a directory lists, for each entry that is taken, the entry itself and then what is below it, moved
under its name.  So whatever holds of the walk through a tree is shown for one entry at a time, and for what it
holds by induction.
-/

namespace Turnstile.Archive

open FileTree

/-- An entry of a directory is taken unless it is a directory of one of the names that are left out. -/
def takes (entry : String × FileTree) : Bool :=
  match entry.2 with
  | .directory _ => !skipped.contains entry.1
  | _ => true

/-- The entry as it stands below a directory. -/
def under (front : List String) (entry : Entry) : Entry :=
  ⟨front ++ entry.path, entry.content⟩

variable {tree : FileTree} {name : String} {child : FileTree} {entries rest : List (String × FileTree)}
  {entry : Entry}

theorem takes_eq_false_iff : takes (name, child) = false ↔ child.content = .directory ∧ name ∈ skipped := by
  cases child <;> simp [takes, content]

/-- What is taken is listed before what it holds. -/
theorem walk_eq (path : List String) (name : String) (tree : FileTree) : walk (path ++ [name]) tree =
    if takes (name, tree) then ⟨path ++ [name], tree.content⟩ :: walkAll (path ++ [name]) tree.held else [] := by
  cases tree with
  | directory entries =>
      have last : (path ++ [name]).getLast?.getD "" = name := by simp
      have taken : takes (name, .directory entries) = !skipped.contains name := rfl
      rw [walk, last, taken]
      by_cases leaves : skipped.contains name = true
      · rw [if_pos leaves, leaves]
        rfl
      · rw [if_neg leaves, (Bool.not_eq_true _).mp leaves]
        rfl
  | _ => simp [walk, takes, content, held, walkAll]

/-- A directory below others is walked through as if it stood alone, and its entries are moved. -/
theorem walkAll_under (path : List String) (entries : List (String × FileTree)) :
    walkAll path entries = (walkAll [] entries).map (under path) := by
  induction entries using FileTree.entries_induction generalizing path with
  | nil => simp [walkAll]
  | cons name child rest first others =>
      rw [walkAll, walkAll, walkEntry, walkEntry, walk_eq, walk_eq, List.map_append, others]
      congr 1
      split
      · rw [first, first ([] ++ [name]), List.map_cons, List.map_map]
        simp [under, Function.comp_def]
      · rfl

/-- The walk through a directory takes one entry after the other. -/
theorem walkAll_cons (name : String) (child : FileTree) (rest : List (String × FileTree)) :
    walkAll [] ((name, child) :: rest) =
      (if takes (name, child) then ⟨[name], child.content⟩ :: (walkAll [] child.held).map (under [name]) else []) ++
        walkAll [] rest := by
  rw [walkAll, walkEntry, walk_eq, walkAll_under, List.nil_append]

/-- What is listed is in the directory, or below an entry of it. -/
theorem exists_of_mem_walkAll (member : entry ∈ walkAll [] entries) :
    ∃ name path, entry.path = name :: path ∧ name ∈ entries.map Prod.fst := by
  induction entries with
  | nil => simp [walkAll] at member
  | cons first rest inductionHypothesis =>
      obtain ⟨name, child⟩ := first
      rw [walkAll_cons] at member
      rcases List.mem_append.mp member with here | there
      · split at here
        · rcases List.mem_cons.mp here with rfl | below
          · exact ⟨name, [], rfl, by simp⟩
          · obtain ⟨inner, _, rfl⟩ := List.mem_map.mp below
            exact ⟨name, inner.path, rfl, by simp⟩
        · cases here
      · obtain ⟨other, path, same, listed⟩ := inductionHypothesis there
        exact ⟨other, path, same, List.mem_cons_of_mem name listed⟩

theorem path_ne_nil_of_mem_walkAll (member : entry ∈ walkAll [] entries) : entry.path ≠ [] := by
  obtain ⟨name, path, starts, _⟩ := exists_of_mem_walkAll member
  rw [starts]
  exact List.cons_ne_nil name path

/-! ### The order of siblings -/

/-- If the two entries are in one directory, the first has the lower name, octet by octet. -/
def InOrder (first second : Entry) : Prop :=
  ∀ front name other, first.path = front ++ [name] → second.path = front ++ [other] →
    Text.octets name < Text.octets other

/-- Entries that begin with different names are in order if the names are. -/
theorem inOrder_of_lt {first second : Entry} {other : String} {path behind : List String}
    (starts : first.path = name :: path) (starts' : second.path = other :: behind) (below : name < other) :
    InOrder first second := by
  intro front last final same same'
  rw [starts] at same
  rw [starts'] at same'
  cases front with
  | nil =>
      cases same
      cases same'
      exact Text.octets_lt below
  | cons head front =>
      cases same
      cases same'
      exact absurd below (String.lt_irrefl _)

/-- An entry is in order with what is below it. -/
theorem inOrder_below {deeper : Entry} (filled : deeper.path ≠ []) (name : String) (content : Content) :
    InOrder ⟨[name], content⟩ (under [name] deeper) := by
  intro front last final same same'
  cases front with
  | nil =>
      cases same
      exact absurd (List.cons.inj same').2 filled
  | cons head front => exact absurd (List.cons.inj same).2.symm (by simp)

/-- Entries stay in order when they are moved below a directory. -/
theorem InOrder.under {first second : Entry} (inOrder : InOrder first second) (filled : first.path ≠ [])
    (name : String) : InOrder (under [name] first) (under [name] second) := by
  intro front last final same same'
  cases front with
  | nil => exact absurd (List.cons.inj same).2 filled
  | cons head front => exact inOrder front last final (List.cons.inj same).2 (List.cons.inj same').2

/-- Siblings are listed in the order of their names. -/
theorem siblings_walkAll (ordered : (directory entries).Ordered) : (walkAll [] entries).Pairwise InOrder := by
  induction entries using FileTree.entries_induction with
  | nil => simp [walkAll]
  | cons name child rest first others =>
      obtain ⟨lowest, increasing⟩ := List.pairwise_cons.mp ordered.names
      obtain ⟨inner, outer⟩ := List.forall_mem_cons.mp ordered.entry
      rw [walkAll_cons]
      refine List.pairwise_append.mpr ⟨?_, others (.directory increasing outer), ?_⟩
      · split
        · refine List.pairwise_cons.mpr ⟨?_, List.pairwise_map.mpr ?_⟩
          · intro second member
            obtain ⟨deeper, listed, rfl⟩ := List.mem_map.mp member
            exact inOrder_below (path_ne_nil_of_mem_walkAll listed) name child.content
          · exact (first (inner.held List.Pairwise.nil)).imp_of_mem fun listed _ inOrder =>
              inOrder.under (path_ne_nil_of_mem_walkAll listed) name
        · exact List.Pairwise.nil
      · intro early here late there
        obtain ⟨other, behind, starts', listed⟩ := exists_of_mem_walkAll there
        obtain ⟨path, starts⟩ : ∃ path, early.path = name :: path := by
          split at here
          · rcases List.mem_cons.mp here with rfl | member
            · exact ⟨[], rfl⟩
            · obtain ⟨deeper, _, rfl⟩ := List.mem_map.mp member
              exact ⟨deeper.path, rfl⟩
          · cases here
        exact inOrder_of_lt starts starts' (lowest other listed)

/-! ### What is left out -/

mutual

/-- The tree without the directories that are left out. -/
def pruned : FileTree → FileTree
  | .file data => .file data
  | .link target => .link target
  | .directory entries => .directory (prunedAll entries)

/-- The entries of a directory that are taken, each without what is left out. -/
def prunedAll : List (String × FileTree) → List (String × FileTree)
  | [] => []
  | entry :: rest => prunedEntry entry ++ prunedAll rest

/-- An entry of a directory without what is left out. -/
def prunedEntry : String × FileTree → List (String × FileTree)
  | (name, tree) => if takes (name, tree) then [(name, pruned tree)] else []

end

theorem prunedAll_eq_map (entries : List (String × FileTree)) :
    prunedAll entries = (entries.filter takes).map fun entry => (entry.1, pruned entry.2) := by
  induction entries with
  | nil => simp [prunedAll]
  | cons entry rest inductionHypothesis =>
      obtain ⟨name, child⟩ := entry
      rw [prunedAll, prunedEntry, inductionHypothesis, List.filter_cons]
      cases takes (name, child) <;> rfl

theorem content_pruned (tree : FileTree) : (pruned tree).content = tree.content := by
  cases tree with
  | directory entries =>
      rw [pruned]
      rfl
  | _ => rw [pruned]

theorem held_pruned (tree : FileTree) : (pruned tree).held = prunedAll tree.held := by
  cases tree with
  | directory entries =>
      rw [pruned]
      rfl
  | _ => simp [pruned, held, prunedAll]

/-- The names in a pruned directory are some of those in the directory. -/
theorem names_prunedAll (entries : List (String × FileTree)) :
    ((prunedAll entries).map Prod.fst).Sublist (entries.map Prod.fst) := by
  have names : (prunedAll entries).map Prod.fst = (entries.filter takes).map Prod.fst := by
    rw [prunedAll_eq_map, List.map_map]
    rfl
  rw [names]
  exact List.filter_sublist.map Prod.fst

/-- A tree that is pruned stays well formed. -/
theorem distinct_pruned (distinct : tree.Distinct) : (pruned tree).Distinct := by
  induction tree using FileTree.induction with
  | file data =>
      rw [pruned]
      exact .file data
  | link target =>
      rw [pruned]
      exact .link target
  | directory entries inductionHypothesis =>
      rw [pruned]
      refine .directory (distinct.names.sublist (names_prunedAll entries)) fun entry member => ?_
      rw [prunedAll_eq_map] at member
      obtain ⟨given, listed, rfl⟩ := List.mem_map.mp member
      have held' := List.mem_of_mem_filter listed
      exact inductionHypothesis given held' (distinct.entry given held')

/-! ### Unpacking what was listed -/

theorem putEntry_append {base : List (String × FileTree)} (fresh : name ∉ base.map Prod.fst)
    (child grown : FileTree) : putEntry name grown (base ++ [(name, child)]) = base ++ [(name, grown)] := by
  induction base with
  | nil => simp [putEntry]
  | cons entry rest inductionHypothesis =>
      have apart : entry.1 ≠ name := fun same => fresh (by simp [same])
      rw [List.cons_append, putEntry, if_neg (by simpa using apart),
        inductionHypothesis fun member => fresh (List.mem_cons_of_mem _ member), List.cons_append]

/-- What is unpacked below an entry of a directory changes that entry only. -/
theorem unpackInto_under {base : List (String × FileTree)} (fresh : name ∉ base.map Prod.fst) {listed : List Entry}
    (filled : ∀ entry ∈ listed, entry.path ≠ []) :
    unpackInto (.directory (base ++ [(name, child)])) (listed.map (under [name])) =
      (unpackInto child listed).map fun grown => .directory (base ++ [(name, grown)]) := by
  induction listed generalizing child with
  | nil => rfl
  | cons entry rest inductionHypothesis =>
      obtain ⟨first, others⟩ := List.forall_mem_cons.mp filled
      have found : (base ++ [(name, child)]).lookup name = some child := by
        rw [List.lookup_append, lookup_eq_none_iff_notMem.mpr fresh, Option.none_or, lookup_cons_eq, if_pos rfl]
      have extracts : extract (.directory (base ++ [(name, child)])) (under [name] entry) =
          (extract child entry).map fun grown => .directory (base ++ [(name, grown)]) := by
        obtain ⟨path, content⟩ := entry
        cases path with
        | nil => exact absurd rfl first
        | cons head path => simp [extract, under, place?, found, putEntry_append fresh]
      rw [List.map_cons, unpackInto_cons, unpackInto_cons, extracts]
      cases extract child entry with
      | none => rfl
      | some grown => exact inductionHypothesis others

/-- What is listed of a directory unpacks to the directory without what is left out. -/
theorem unpackInto_walkAll (distinct : (directory entries).Distinct) (base : List (String × FileTree))
    (fresh : ((base ++ entries).map Prod.fst).Nodup) :
    unpackInto (.directory base) (walkAll [] entries) = some (.directory (base ++ prunedAll entries)) := by
  induction entries using FileTree.entries_induction generalizing base with
  | nil => simp [walkAll, prunedAll]
  | cons name child rest first others =>
      obtain ⟨inner, outer⟩ := List.forall_mem_cons.mp distinct.entry
      have others := others (.directory (List.nodup_cons.mp distinct.names).2 outer)
      rw [walkAll_cons, unpackInto_append, prunedAll, prunedEntry]
      split
      · have new : name ∉ base.map Prod.fst := by
          rw [List.map_append, List.nodup_append] at fresh
          exact fun member => fresh.2.2 name member name (by simp) rfl
        have extracts : extract (.directory base) ⟨[name], child.content⟩ =
            some (.directory (base ++ [(name, child.content.tree)])) := by
          simp [extract, place?, lookup_eq_none_iff_notMem.mpr new]
        have rebuilt : unpackInto child.content.tree (walkAll [] child.held) = some (pruned child) := by
          have within := inner.held List.nodup_nil
          cases child with
          | directory entries => rw [pruned]; exact first within [] within.names
          | _ => simp [held, walkAll, pruned, content, Content.tree]
        rw [unpackInto_cons, extracts, Option.bind_some, unpackInto_under new fun _ => path_ne_nil_of_mem_walkAll,
          rebuilt, Option.map_some, Option.bind_some, others _ (by simpa using fresh), List.append_assoc]
      · rw [unpackInto_nil, Option.bind_some]
        exact others base (fresh.sublist (by simp))

end Turnstile.Archive
