/-
Module: Turnstile.Proofs.Archive.Tree
Purpose: What stands at the paths of a directory tree, and that sorting its directories changes nothing of it.
Main exports: FileTree.entries_induction, FileTree.at?, FileTree.Distinct, FileTree.Ordered, FileTree.eq_of_at?,
  Archive.at?_sorted, Archive.ordered_sorted, Archive.sorted_eq_of_at?
-/
import Mathlib.Data.List.Nodup
import Turnstile.Archive

/-!
A tree is seen through its paths: what stands at a path is a file, a link or a directory, or nothing.  If no name
comes twice in a directory, the order in which the directories list their entries does not show.  So two trees that
look alike are one and the same once they are sorted.
-/

namespace Turnstile

/-! ### Tables of entries -/

section Tables

variable {α β : Type} {name : String} {entries others : List (String × α)}

theorem lookup_cons_eq (entry : String × α) (rest : List (String × α)) (name : String) :
    (entry :: rest).lookup name = if name = entry.1 then some entry.2 else rest.lookup name := by
  rw [List.lookup_cons]
  by_cases same : name = entry.1
  · rw [if_pos same, beq_iff_eq.mpr same]
  · rw [if_neg same, beq_eq_false_iff_ne.mpr same]

/-- In a table without doubles an entry is found under its name. -/
theorem lookup_eq_some_iff_mem (distinct : (entries.map Prod.fst).Nodup) {value : α} :
    entries.lookup name = some value ↔ (name, value) ∈ entries := by
  constructor
  · intro found
    obtain ⟨before, after, split, _⟩ := List.lookup_eq_some_iff.mp found
    rw [split]
    exact List.mem_append_right before List.mem_cons_self
  · intro member
    obtain ⟨before, after, rfl⟩ := List.append_of_mem member
    refine List.lookup_eq_some_iff.mpr ⟨before, after, rfl, fun entry sooner => bne_iff_ne.mpr fun same => ?_⟩
    rw [List.map_append, List.nodup_append] at distinct
    exact distinct.2.2 entry.1 (List.mem_map_of_mem sooner) name (by simp) same.symm

theorem lookup_eq_none_iff_notMem : entries.lookup name = none ↔ name ∉ entries.map Prod.fst := by
  rw [← not_iff_not, not_not, ← ne_eq, ← Option.isSome_iff_ne_none, List.lookup_isSome_iff]
  simp

/-- Tables without doubles that hold the same under every name hold the same entries. -/
theorem perm_of_lookup (distinct : (entries.map Prod.fst).Nodup) (distinct' : (others.map Prod.fst).Nodup)
    (same : ∀ name, entries.lookup name = others.lookup name) : entries.Perm others := by
  refine (List.perm_ext_iff_of_nodup distinct.of_map distinct'.of_map).mpr fun ⟨name, value⟩ => ?_
  rw [← lookup_eq_some_iff_mem distinct, ← lookup_eq_some_iff_mem distinct', same]

/-- Where the entries of a table stand does not matter, if there are no doubles. -/
theorem lookup_eq_of_perm (same : entries.Perm others) (distinct : (entries.map Prod.fst).Nodup) (name : String) :
    entries.lookup name = others.lookup name := by
  have distinct' : (others.map Prod.fst).Nodup := (same.map Prod.fst).nodup_iff.mp distinct
  refine Option.ext fun value => ?_
  rw [lookup_eq_some_iff_mem distinct, lookup_eq_some_iff_mem distinct', same.mem_iff]

theorem lookup_map_snd (change : α → β) (entries : List (String × α)) (name : String) :
    (entries.map fun entry => (entry.1, change entry.2)).lookup name = (entries.lookup name).map change := by
  induction entries with
  | nil => rfl
  | cons entry rest inductionHypothesis =>
      rw [List.map_cons, lookup_cons_eq, lookup_cons_eq, inductionHypothesis]
      split <;> rfl

/-- What is kept of a table without doubles is found as before. -/
theorem lookup_filter (distinct : (entries.map Prod.fst).Nodup) (keep : String × α → Bool) (name : String) :
    (entries.filter keep).lookup name = (entries.lookup name).filter fun value => keep (name, value) := by
  have distinct' : ((entries.filter keep).map Prod.fst).Nodup := distinct.sublist (List.filter_sublist.map Prod.fst)
  refine Option.ext fun value => ?_
  rw [lookup_eq_some_iff_mem distinct', List.mem_filter, Option.filter_eq_some_iff, lookup_eq_some_iff_mem distinct]

end Tables

namespace FileTree

/-- What holds of files and links, and of every directory if it holds of its entries, holds of every tree. -/
@[elab_as_elim]
theorem induction {motive : FileTree → Prop} (file : ∀ data, motive (.file data))
    (link : ∀ target, motive (.link target))
    (directory : ∀ entries, (∀ entry ∈ entries, motive entry.2) → motive (.directory entries)) (tree : FileTree) :
    motive tree :=
  @FileTree.rec motive (fun entries => ∀ entry ∈ entries, motive entry.2) (fun entry => motive entry.2) file link
    directory (List.forall_mem_nil _) (fun _ _ first rest => List.forall_mem_cons.mpr ⟨first, rest⟩)
    (fun _ _ below => below) tree

/-- What a directory holds; nothing else holds anything. -/
def held : FileTree → List (String × FileTree)
  | .directory entries => entries
  | _ => []

/-- What the root of a tree is. -/
def content : FileTree → Archive.Content
  | .file data => .file data
  | .link target => .link target
  | .directory _ => .directory

/-- What holds of no entries, and of entries if it holds of what the first of them holds and of the others, holds of
all entries. -/
@[elab_as_elim]
theorem entries_induction {motive : List (String × FileTree) → Prop} (nil : motive [])
    (cons : ∀ name (child : FileTree) rest, motive child.held → motive rest → motive ((name, child) :: rest))
    (entries : List (String × FileTree)) : motive entries := by
  suffices within : ∀ tree : FileTree, motive tree.held from within (.directory entries)
  intro tree
  induction tree using FileTree.induction with
  | file data => exact nil
  | link target => exact nil
  | directory entries inductionHypothesis =>
      simp only [held]
      induction entries with
      | nil => exact nil
      | cons entry rest others =>
          obtain ⟨first, below⟩ := List.forall_mem_cons.mp inductionHypothesis
          exact cons entry.1 entry.2 rest first (others below)

/-- What stands at a path, links not followed. -/
def at? (tree : FileTree) (path : List String) : Option Archive.Content :=
  (tree.descend? path).map content

@[simp] theorem at?_nil (tree : FileTree) : tree.at? [] = some tree.content := rfl

@[simp] theorem at?_cons (tree : FileTree) (name : String) (rest : List String) :
    tree.at? (name :: rest) = (tree.held.lookup name).bind fun child => child.at? rest := by
  have entry : tree.child? name = tree.held.lookup name := by
    cases tree <;> rfl
  rw [at?, descend?, entry, Option.map_bind]
  rfl

/-- An entry that is put is found under its name, and every other entry as before. -/
theorem lookup_putEntry (name : String) (tree : FileTree) (entries : List (String × FileTree)) (other : String) :
    (putEntry name tree entries).lookup other = if other = name then some tree else entries.lookup other := by
  induction entries with
  | nil => rw [putEntry, lookup_cons_eq]
  | cons entry rest inductionHypothesis =>
      rw [putEntry]
      split
      · rename_i here
        have named : entry.1 = name := beq_iff_eq.mp here
        rw [lookup_cons_eq, lookup_cons_eq, named]
        split <;> rfl
      · rename_i elsewhere
        have apart : entry.1 ≠ name := fun same => elsewhere (beq_iff_eq.mpr same)
        rw [lookup_cons_eq, lookup_cons_eq, inductionHypothesis]
        split
        · rename_i here
          rw [if_neg (here ▸ apart)]
        · rfl

/-! ### Trees that are well formed -/

/-- The names in every directory of the tree fit. -/
inductive Everywhere (fits : List String → Prop) : FileTree → Prop where
  | file (data : List UInt8) : Everywhere fits (.file data)
  | link (target : String) : Everywhere fits (.link target)
  | directory {entries : List (String × FileTree)} (here : fits (entries.map Prod.fst))
      (below : ∀ entry ∈ entries, entry.2.Everywhere fits) : Everywhere fits (.directory entries)

/-- No directory of the tree holds two entries of one name. -/
def Distinct (tree : FileTree) : Prop :=
  tree.Everywhere List.Nodup

/-- Every directory of the tree lists its entries in the strict order of their names. -/
def Ordered (tree : FileTree) : Prop :=
  tree.Everywhere (List.Pairwise (· < ·))

variable {fits : List String → Prop} {tree other : FileTree} {entries : List (String × FileTree)}

theorem Everywhere.names (everywhere : (FileTree.directory entries).Everywhere fits) :
    fits (entries.map Prod.fst) := by
  cases everywhere
  assumption

theorem Everywhere.entry (everywhere : (FileTree.directory entries).Everywhere fits) :
    ∀ entry ∈ entries, entry.2.Everywhere fits := by
  cases everywhere
  assumption

/-- What a tree holds fits as a directory. -/
theorem Everywhere.held (everywhere : tree.Everywhere fits) (empty : fits []) :
    (FileTree.directory tree.held).Everywhere fits := by
  cases everywhere with
  | directory here below => exact .directory here below
  | _ => exact .directory empty (List.forall_mem_nil _)

theorem distinct_file (data : List UInt8) : (file data).Distinct :=
  .file data

theorem distinct_link (target : String) : (link target).Distinct :=
  .link target

theorem distinct_directory_iff : (directory entries).Distinct ↔
    (entries.map Prod.fst).Nodup ∧ ∀ entry ∈ entries, entry.2.Distinct :=
  ⟨fun distinct => ⟨distinct.names, distinct.entry⟩, fun ⟨names, below⟩ => .directory names below⟩

theorem Everywhere.weaken {weak : List String → Prop} (weaker : ∀ names, fits names → weak names)
    (everywhere : tree.Everywhere fits) : tree.Everywhere weak := by
  induction everywhere with
  | file data => exact .file data
  | link target => exact .link target
  | directory here _ inductionHypothesis => exact .directory (weaker _ here) inductionHypothesis

theorem Ordered.distinct (ordered : tree.Ordered) : tree.Distinct := by
  refine Everywhere.weaken (fun names increasing => increasing.imp fun {first second} below same => ?_) ordered
  rw [same] at below
  exact String.lt_irrefl second below

/-- What is held under a name is well formed. -/
theorem Distinct.child {child : FileTree} {name : String} (distinct : tree.Distinct)
    (found : tree.held.lookup name = some child) : child.Distinct := by
  cases tree with
  | directory entries => exact distinct.entry _ ((lookup_eq_some_iff_mem distinct.names).mp found)
  | _ => cases found

/-- Directories that are ordered and hold the same are equal. -/
theorem entries_eq_of_lookup {others : List (String × FileTree)} (ordered : (directory entries).Ordered)
    (ordered' : (directory others).Ordered) (same : ∀ name, entries.lookup name = others.lookup name) :
    entries = others := by
  refine List.Perm.eq_of_pairwise (fun first second _ _ below above => ?_) (List.pairwise_map.mp ordered.names)
    (List.pairwise_map.mp ordered'.names) (perm_of_lookup ordered.distinct.names ordered'.distinct.names same)
  exact absurd (String.lt_trans below above) (String.lt_irrefl _)

/-- Ordered trees that look alike are equal. -/
theorem eq_of_at? (ordered : tree.Ordered) (ordered' : other.Ordered)
    (alike : ∀ path, tree.at? path = other.at? path) : tree = other := by
  have root : tree.content = other.content := Option.some.inj (alike [])
  induction tree using FileTree.induction generalizing other with
  | file data => cases other <;> cases root; rfl
  | link target => cases other <;> cases root; rfl
  | directory entries inductionHypothesis =>
      cases other with
      | file data => cases root
      | link target => cases root
      | directory others =>
          refine congrArg directory (entries_eq_of_lookup ordered ordered' fun name => ?_)
          have below (rest : List String) : (entries.lookup name).bind (fun child => child.at? rest) =
              (others.lookup name).bind fun child => child.at? rest := by
            simpa [held] using alike (name :: rest)
          cases found : entries.lookup name with
          | none =>
              cases found' : others.lookup name with
              | none => rfl
              | some child => simpa [found, found'] using below []
          | some child =>
              cases found' : others.lookup name with
              | none => simpa [found, found'] using below []
              | some child' =>
                  have member := (lookup_eq_some_iff_mem ordered.distinct.names).mp found
                  have member' := (lookup_eq_some_iff_mem ordered'.distinct.names).mp found'
                  have same (rest : List String) : child.at? rest = child'.at? rest := by
                    simpa [found, found'] using below rest
                  exact congrArg some (inductionHypothesis _ member (ordered.entry _ member)
                    (ordered'.entry _ member') same (Option.some.inj (same [])))

end FileTree

/-! ### Sorted trees -/

namespace Archive

open FileTree

variable {tree other : FileTree} {entries : List (String × FileTree)}

/-- The entries of a directory, each sorted, in the order of their names. -/
def arranged (entries : List (String × FileTree)) : List (String × FileTree) :=
  (entries.map fun entry => (entry.1, sorted entry.2)).mergeSort fun left right => left.1 ≤ right.1

theorem sortedAll_eq_map (entries : List (String × FileTree)) :
    sortedAll entries = entries.map fun entry => (entry.1, sorted entry.2) := by
  induction entries with
  | nil => rw [sortedAll, List.map_nil]
  | cons entry rest inductionHypothesis => rw [sortedAll, sortedEntry, inductionHypothesis, List.map_cons]

theorem sorted_directory (entries : List (String × FileTree)) :
    sorted (.directory entries) = .directory (arranged entries) := by
  rw [sorted, sortedAll_eq_map, arranged]

theorem arranged_perm (entries : List (String × FileTree)) :
    (arranged entries).Perm (entries.map fun entry => (entry.1, sorted entry.2)) :=
  List.mergeSort_perm _ _

/-- Arranging a directory keeps its names. -/
theorem names_arranged_perm (entries : List (String × FileTree)) :
    ((arranged entries).map Prod.fst).Perm (entries.map Prod.fst) := by
  have kept := (arranged_perm entries).map Prod.fst
  rwa [List.map_map] at kept

/-- An arranged directory lists distinct names in their strict order. -/
theorem arranged_pairwise (distinct : (entries.map Prod.fst).Nodup) :
    ((arranged entries).map Prod.fst).Pairwise (· < ·) := by
  have weak : ((arranged entries).map Prod.fst).Pairwise (· ≤ ·) := by
    have increasing : (arranged entries).Pairwise fun left right => decide (left.1 ≤ right.1) = true :=
      List.pairwise_mergeSort
        (fun _ _ _ lower upper => by simpa using String.le_trans (by simpa using lower) (by simpa using upper))
        (fun left right => by simpa using String.le_total left.1 right.1) _
    exact List.pairwise_map.mpr (increasing.imp of_decide_eq_true)
  have apart := List.nodup_iff_pairwise_ne.mp ((names_arranged_perm entries).nodup_iff.mpr distinct)
  refine (weak.and apart).imp fun ⟨below, apart⟩ => ?_
  exact String.not_le.mp fun above => apart (String.le_antisymm below above)

theorem ordered_sorted (distinct : tree.Distinct) : (sorted tree).Ordered := by
  induction tree using FileTree.induction with
  | file data =>
      rw [sorted]
      exact .file data
  | link target =>
      rw [sorted]
      exact .link target
  | directory entries inductionHypothesis =>
      rw [sorted_directory]
      refine .directory (arranged_pairwise distinct.names) fun entry member => ?_
      obtain ⟨given, listed, rfl⟩ := List.mem_map.mp ((arranged_perm entries).mem_iff.mp member)
      exact inductionHypothesis given listed (distinct.entry given listed)

theorem ordered_arranged (distinct : (directory entries).Distinct) : (directory (arranged entries)).Ordered := by
  rw [← sorted_directory]
  exact ordered_sorted distinct

theorem content_sorted (tree : FileTree) : (sorted tree).content = tree.content := by
  cases tree with
  | directory entries =>
      rw [sorted]
      rfl
  | _ => rw [sorted]

/-- A sorted tree holds under a name what the tree holds there, sorted. -/
theorem lookup_held_sorted (distinct : tree.Distinct) (name : String) :
    (sorted tree).held.lookup name = (tree.held.lookup name).map sorted := by
  cases tree with
  | file data =>
      rw [sorted]
      rfl
  | link target =>
      rw [sorted]
      rfl
  | directory entries =>
      rw [sorted_directory]
      exact (lookup_eq_of_perm (arranged_perm entries)
        ((names_arranged_perm entries).nodup_iff.mpr distinct.names) name).trans (lookup_map_snd sorted entries name)

/-- A sorted tree looks like the tree. -/
theorem at?_sorted (distinct : tree.Distinct) (path : List String) : (sorted tree).at? path = tree.at? path := by
  induction path generalizing tree with
  | nil => rw [at?_nil, at?_nil, content_sorted]
  | cons name rest inductionHypothesis =>
      rw [at?_cons, at?_cons, lookup_held_sorted distinct]
      cases found : tree.held.lookup name with
      | none => rfl
      | some child => exact inductionHypothesis (distinct.child found)

/-- Trees that look alike are one and the same once they are sorted. -/
theorem sorted_eq_of_at? (distinct : tree.Distinct) (distinct' : other.Distinct)
    (alike : ∀ path, tree.at? path = other.at? path) : sorted tree = sorted other :=
  eq_of_at? (ordered_sorted distinct) (ordered_sorted distinct') fun path => by
    rw [at?_sorted distinct, at?_sorted distinct', alike]

end Archive

end Turnstile
