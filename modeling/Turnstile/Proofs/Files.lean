/-
Module: Turnstile.Proofs.Files
Purpose: Where paths lead in a directory tree, and that what is written at a path is read there again.
Main exports: FileTree.Above, FileTree.at?_putAt_file, Files.Leads, Files.follow_eq_ok_iff, Files.Leads.rewritten,
  Files.read_of_write, Files.Leads.front, Files.createDirectories_of_leads, Files.exists_write_of_read,
  Files.names_append
-/
import Turnstile.Proofs.Archive.Tree

/-!
Following a path is a matter of what stands at the places on the way.  Writing a file changes what stands at one
place, which holds no directory, and at no place that leads anywhere else.  So the path leads to the same place
afterwards, links or not, and there is the file.  A file that is there can be written over, and the directory that
holds it can be created once more.
-/

namespace Turnstile

namespace FileTree

variable {tree : FileTree} {place path front : List String}

theorem descend?_append (tree : FileTree) (front behind : List String) :
    tree.descend? (front ++ behind) = (tree.descend? front).bind fun found => found.descend? behind := by
  induction front generalizing tree with
  | nil => rfl
  | cons name front inductionHypothesis =>
      rw [List.cons_append, descend?, descend?, Option.bind_assoc]
      exact Option.bind_congr fun child _ => inductionHypothesis child

/-- What stands in a directory is found among its entries. -/
theorem at?_append_singleton {entries : List (String × FileTree)}
    (found : tree.descend? front = some (.directory entries)) (name : String) :
    tree.at? (front ++ [name]) = (entries.lookup name).map content := by
  rw [at?, descend?_append, found]
  cases named : entries.lookup name <;> simp [descend?, child?, named]

theorem at?_eq_directory_iff :
    tree.at? path = some .directory ↔ ∃ entries, tree.descend? path = some (.directory entries) := by
  rw [at?, Option.map_eq_some_iff]
  constructor
  · rintro ⟨found, stands, isDirectory⟩
    cases found with
    | directory entries => exact ⟨entries, stands⟩
    | _ => cases isDirectory
  · rintro ⟨entries, stands⟩
    exact ⟨_, stands, rfl⟩

/-! ### A file that is put -/

/-- The directory that holds the place is there. -/
def Above (tree : FileTree) (place : List String) : Prop :=
  ∀ front name, place = front ++ [name] → tree.at? front = some .directory

/-- What is above the place in a tree is above the rest of the place in what the tree holds. -/
theorem Above.cases {name : String} {rest : List String} (above : tree.Above (name :: rest)) :
    ∃ entries, tree = .directory entries ∧
      (rest = [] ∨ ∃ child, entries.lookup name = some child ∧ child.Above rest) := by
  rcases List.eq_nil_or_concat rest with rfl | ⟨front, last, rfl⟩
  · have root := above [] name rfl
    cases tree with
    | directory entries => exact ⟨entries, rfl, Or.inl rfl⟩
    | _ => cases root
  · have holder := above (name :: front) last (by rw [List.concat_eq_append, List.cons_append])
    rw [at?_cons] at holder
    obtain ⟨child, found, _⟩ := Option.bind_eq_some_iff.mp holder
    cases tree with
    | directory entries =>
        refine ⟨entries, rfl, Or.inr ⟨child, found, ?_⟩⟩
        intro inner final same
        have outer := above (name :: inner) final (by rw [same, List.cons_append])
        rw [at?_cons] at outer
        simp only [held] at found outer
        rwa [found] at outer
    | _ => cases found

/-- Where a file is put there is the file, with nothing below it; all other places are as before. -/
theorem at?_putAt_file (above : tree.Above place) (data : List UInt8) (path : List String) :
    (tree.putAt (.file data) place).at? path =
      if path = place then some (.file data) else if place <+: path then none else tree.at? path := by
  induction place generalizing tree path with
  | nil =>
      cases path with
      | nil => rfl
      | cons first rest => simp [putAt, held]
  | cons name rest inductionHypothesis =>
      obtain ⟨entries, rfl, below⟩ := above.cases
      -- One entry is replaced; it need not have been there only if the place ends with it.
      have grown : ∃ child', (directory entries).putAt (.file data) (name :: rest) =
            .directory (putEntry name child' entries) ∧
          ∀ inner, child'.at? inner =
            if inner = rest then some (.file data) else if rest <+: inner then none
            else (entries.lookup name).bind fun child => child.at? inner := by
        rcases below with rfl | ⟨child, found, deeper⟩
        · refine ⟨.file data, rfl, fun inner => ?_⟩
          cases inner with
          | nil => rfl
          | cons first more => simp [held]
        · cases rest with
          | nil =>
              refine ⟨.file data, rfl, fun inner => ?_⟩
              cases inner with
              | nil => rfl
              | cons first more => simp [held]
          | cons second more =>
              refine ⟨child.putAt (.file data) (second :: more), ?_, fun inner => ?_⟩
              · rw [putAt, found]
                rfl
              · rw [found, inductionHypothesis deeper]
                rfl
      obtain ⟨child', shape, inside⟩ := grown
      rw [shape]
      cases path with
      | nil => simp [content]
      | cons first inner =>
          rw [at?_cons, at?_cons]
          simp only [held, lookup_putEntry]
          by_cases here : first = name
          · subst here
            simp [inside]
          · simp [here, Ne.symm here]

/-- What is above something that stands in a tree is a directory. -/
theorem directory_of_at? {behind : List String} (stands : (tree.at? (front ++ behind)).isSome = true)
    (apart : behind ≠ []) : tree.at? front = some .directory := by
  induction front generalizing tree with
  | nil =>
      obtain ⟨name, rest, rfl⟩ := List.exists_cons_of_ne_nil apart
      rw [List.nil_append, at?_cons] at stands
      cases tree with
      | directory entries => rfl
      | _ => cases stands
  | cons first front inductionHypothesis =>
      rw [List.cons_append, at?_cons] at stands
      rw [at?_cons]
      cases found : tree.held.lookup first with
      | none =>
          rw [found] at stands
          cases stands
      | some child =>
          rw [found] at stands
          exact inductionHypothesis stands

/-- What holds a directory is a directory. -/
theorem directory_dropLast (directory : tree.at? path = some .directory) (below : path ≠ []) :
    tree.at? path.dropLast = some .directory := by
  have whole : (tree.at? (path.dropLast ++ [path.getLast below])).isSome = true := by
    rw [List.dropLast_append_getLast below, directory]
    rfl
  exact directory_of_at? whole (List.cons_ne_nil _ _)

end FileTree

namespace Files

open FileTree

variable {root : FileTree} {links : Nat} {here path place : List String}

/-- Where a path leads from a place of the tree, if links are followed to the end and no more of them than this. -/
inductive Leads (root : FileTree) : Nat → List String → List String → List String → Prop where
  | here {links : Nat} {here : List String} : Leads root links here [] here
  | up {links : Nat} {here rest place : List String} (directory : root.at? here = some .directory)
      (below : here ≠ []) (next : Leads root links here.dropLast rest place) :
      Leads root links here (".." :: rest) place
  | link {links : Nat} {here rest place : List String} {name target : String} (named : name ≠ "..")
      (directory : root.at? here = some .directory) (stands : root.at? (here ++ [name]) = some (.link target))
      (relative : isAbsolute target = false) (next : Leads root links here (names target ++ rest) place) :
      Leads root (links + 1) here (name :: rest) place
  | into {links : Nat} {here rest place : List String} {name : String} {content : Archive.Content}
      (named : name ≠ "..") (directory : root.at? here = some .directory)
      (stands : root.at? (here ++ [name]) = some content) (unlinked : ∀ target, content ≠ .link target)
      (next : Leads root links (here ++ [name]) rest place) : Leads root links here (name :: rest) place
  | vacant {links : Nat} {here : List String} {name : String} (named : name ≠ "..")
      (directory : root.at? here = some .directory) (nothing : root.at? (here ++ [name]) = none) :
      Leads root links here [name] (here ++ [name])

/-- A path that is followed leads to the place that is found. -/
theorem leads_of_follow {found : Place} :
    follow root true links here path = .ok found →
      Leads root links here path found.names ∧ found.tree = root.descend? found.names := by
  fun_induction follow root true links here path
  case case1 links here =>
    intro followed
    cases followed
    exact ⟨.here, rfl⟩
  case case3 links here rest entries holder below inductionHypothesis =>
    intro followed
    obtain ⟨leads, stands⟩ := inductionHypothesis followed
    refine ⟨.up (at?_eq_directory_iff.mpr ⟨entries, holder⟩) ?_ leads, stands⟩
    exact fun top => below (List.isEmpty_iff.mpr top)
  case case9 here name rest named entries holder target linked last relative left inductionHypothesis =>
    intro followed
    obtain ⟨leads, stands⟩ := inductionHypothesis followed
    refine ⟨.link named (at?_eq_directory_iff.mpr ⟨entries, holder⟩) ?_ (by simpa using relative) leads, stands⟩
    rw [at?_append_singleton holder, linked]
    rfl
  case case10 links here name rest named entries holder inner unlinked found inductionHypothesis =>
    intro followed
    obtain ⟨leads, stands⟩ := inductionHypothesis followed
    have inside := at?_append_singleton holder name
    rw [found, Option.map_some] at inside
    refine ⟨.into named (at?_eq_directory_iff.mpr ⟨entries, holder⟩) inside ?_ leads, stands⟩
    intro target linked
    cases inner with
    | link target => exact unlinked target rfl
    | _ => cases linked
  case case11 links here name rest named entries holder nothing last =>
    intro followed
    cases List.isEmpty_iff.mp last
    cases followed
    have absent := at?_append_singleton holder name
    rw [nothing, Option.map_none] at absent
    exact ⟨.vacant named (at?_eq_directory_iff.mpr ⟨entries, holder⟩) absent,
      (Option.map_eq_none_iff.mp absent).symm⟩
  case case6 links here name rest named entries holder target linked last => simp at last
  -- In all other cases the path leads nowhere.
  all_goals exact nofun

/-- The place to which a path leads is found by following it. -/
theorem Leads.follow (leads : Leads root links here path place) :
    follow root true links here path = .ok ⟨place, root.descend? place⟩ := by
  induction leads with
  | here => rw [Files.follow]
  | up directory below next inductionHypothesis =>
      obtain ⟨entries, holder⟩ := at?_eq_directory_iff.mp directory
      rw [Files.follow, holder]
      simp only [List.isEmpty_iff, below, if_false]
      exact inductionHypothesis
  | link named directory stands relative next inductionHypothesis =>
      obtain ⟨entries, holder⟩ := at?_eq_directory_iff.mp directory
      rw [at?_append_singleton holder] at stands
      obtain ⟨inner, found, isLink⟩ := Option.map_eq_some_iff.mp stands
      cases inner with
      | link target =>
          cases isLink
          rw [Files.follow, holder]
          · simp only [found, Bool.not_true, Bool.and_false, Bool.false_eq_true, relative, if_false]
            exact inductionHypothesis
          · exact named
      | _ => cases isLink
  | into named directory stands unlinked next inductionHypothesis =>
      obtain ⟨entries, holder⟩ := at?_eq_directory_iff.mp directory
      rw [at?_append_singleton holder] at stands
      obtain ⟨inner, found, rfl⟩ := Option.map_eq_some_iff.mp stands
      rw [Files.follow, holder]
      · cases inner with
        | link target => exact absurd rfl (unlinked target)
        | _ =>
            simp only [found]
            exact inductionHypothesis
      · exact named
  | @vacant links here name named directory nothing =>
      obtain ⟨entries, holder⟩ := at?_eq_directory_iff.mp directory
      have absent : root.descend? (here ++ [name]) = none := Option.map_eq_none_iff.mp nothing
      rw [at?_append_singleton holder, Option.map_eq_none_iff] at nothing
      rw [Files.follow, holder, absent]
      · simp only [nothing, List.isEmpty_nil, if_true]
      · exact named

theorem follow_eq_ok_iff {found : Place} : Files.follow root true links here path = .ok found ↔
    Leads root links here path found.names ∧ found.tree = root.descend? found.names := by
  refine ⟨leads_of_follow, ?_⟩
  rintro ⟨leads, stands⟩
  rw [leads.follow, ← stands]

/-! ### What is written -/

/-- The containing directory of the place to which a path leads is there. -/
theorem Leads.above (leads : Leads root links here path place) (start : (root.at? here).isSome = true) :
    root.Above place := by
  induction leads with
  | here =>
      rintro front name rfl
      exact directory_of_at? start (by simp)
  | @up links here rest place directory below next inductionHypothesis =>
      apply inductionHypothesis
      rw [directory_dropLast directory below]
      rfl
  | link named directory stands relative next inductionHypothesis => exact inductionHypothesis start
  | into named directory stands unlinked next inductionHypothesis =>
      apply inductionHypothesis
      rw [stands]
      rfl
  | vacant named directory nothing =>
      intro front name same
      obtain ⟨rfl, _⟩ := List.append_inj' same rfl
      exact directory

/-- A path leads to no link, but for a root that is one. -/
theorem Leads.unlinked (leads : Leads root links here path place) {target : String}
    (start : here = [] ∨ root.at? here ≠ some (.link target)) :
    place = [] ∨ root.at? place ≠ some (.link target) := by
  induction leads with
  | here => exact start
  | @up links here rest place directory below next inductionHypothesis =>
      apply inductionHypothesis
      rw [directory_dropLast directory below]
      exact Or.inr nofun
  | link named directory stands relative next inductionHypothesis => exact inductionHypothesis start
  | into named directory stands unlinked next inductionHypothesis =>
      apply inductionHypothesis
      rw [stands]
      exact Or.inr fun linked => unlinked target (Option.some.inj linked)
  | vacant named directory nothing =>
      rw [nothing]
      exact Or.inr nofun

/-- A tree after a file was put at a place where there was no directory. -/
structure Rewritten (root next : FileTree) (place : List String) (data : List UInt8) : Prop where
  there : next.at? place = some (.file data)
  kept : ∀ path content, path ≠ place → root.at? path = some content → next.at? path = some content
  vacated : root.at? place ≠ some .directory

theorem rewritten_putAt (above : root.Above place) (vacated : root.at? place ≠ some .directory) (data : List UInt8) :
    Rewritten root (root.putAt (.file data) place) place data where
  there := by
    rw [at?_putAt_file above, if_pos rfl]
  kept := by
    intro path content apart stands
    have outside : ¬ place <+: path := by
      rintro ⟨behind, rfl⟩
      have below : behind ≠ [] := by
        rintro rfl
        exact apart (List.append_nil place)
      exact vacated (directory_of_at? (by rw [stands]; rfl) below)
    rw [at?_putAt_file above, if_neg apart, if_neg outside]
    exact stands
  vacated := vacated

/-- A path leads where it led before a file was put there. -/
theorem Leads.rewritten {next : FileTree} {data : List UInt8} (leads : Leads root links here path place)
    (unlinked : ∀ target, place = [] ∨ root.at? place ≠ some (.link target))
    (changed : Rewritten root next place data) : Leads next links here path place := by
  have directories : ∀ {front}, root.at? front = some .directory → next.at? front = some .directory := by
    intro front directory
    refine changed.kept front _ ?_ directory
    rintro rfl
    exact changed.vacated directory
  induction leads with
  | here => exact .here
  | up directory below further inductionHypothesis =>
      exact .up (directories directory) below (inductionHypothesis unlinked changed)
  | @link links here rest place name target named directory stands relative further inductionHypothesis =>
      refine .link named (directories directory) (changed.kept _ _ ?_ stands) relative
        (inductionHypothesis unlinked changed)
      rintro rfl
      rcases unlinked target with top | other
      · simp at top
      · exact other stands
  | @into links here rest place name content named directory stands plain further inductionHypothesis =>
      have deeper := inductionHypothesis unlinked changed
      -- The step may come to the very place of the file, and whatever stood there has given way to it.
      by_cases same : here ++ [name] = place
      · have there : next.at? (here ++ [name]) = some (.file data) := same ▸ changed.there
        exact .into named (directories directory) there nofun deeper
      · exact .into named (directories directory) (changed.kept _ _ same stands) plain deeper
  | vacant named directory nothing =>
      exact .into named (directories directory) changed.there nofun .here

theorem resolve_eq_ok_iff {path : String} {found : Place} : resolve root path = .ok found ↔
    isAbsolute path = false ∧ Leads root 40 [] (names path) found.names ∧
      found.tree = root.descend? found.names := by
  unfold resolve
  cases isAbsolute path <;> simp [follow_eq_ok_iff]

/-- A file is written at the place to which its path leads, where there is no directory. -/
theorem placed_of_write {next : FileTree} {path : String} {data : List UInt8}
    (written : write root path data = .ok next) : isAbsolute path = false ∧
      ∃ place, Leads root 40 [] (names path) place ∧ root.at? place ≠ some .directory ∧
        next = root.putAt (.file data) place := by
  unfold write at written
  cases resolved : resolve root path with
  | error fault =>
      rw [resolved] at written
      cases written
  | ok found =>
      obtain ⟨relative, leads, stands⟩ := resolve_eq_ok_iff.mp resolved
      rw [resolved] at written
      simp only at written
      refine ⟨relative, found.names, leads, ?_, ?_⟩
      · intro directory
        obtain ⟨entries, isDirectory⟩ := at?_eq_directory_iff.mp directory
        rw [stands, isDirectory] at written
        cases written
      · split at written
        · cases written
        · cases written
          rfl

/-- What was written at a path is there. -/
theorem get_of_write {next : FileTree} {path : String} {data : List UInt8}
    (written : write root path data = .ok next) : get next path = .ok (.file data) := by
  obtain ⟨relative, place, leads, vacated, rfl⟩ := placed_of_write written
  have changed := rewritten_putAt (leads.above rfl) vacated data
  have again := (leads.rewritten (fun target => leads.unlinked (Or.inl rfl)) changed).follow
  obtain ⟨file, there, isFile⟩ := Option.map_eq_some_iff.mp changed.there
  cases file with
  | file kept =>
      cases isFile
      simp only [get, resolve, relative, Bool.false_eq_true, if_false, again, there]
  | _ => cases isFile

/-- What was written at a path is read there. -/
theorem read_of_write {next : FileTree} {path : String} {data : List UInt8}
    (written : write root path data = .ok next) : exists? next path = true ∧ read next path = .ok data := by
  simp only [exists?, read, get_of_write written, and_self]

/-! ### What is there already -/

/-- Names lead to a directory if more names lead on from there. -/
theorem Leads.front {front back : List String} (leads : Leads root links here (front ++ back) place)
    (further : back ≠ []) : ∃ middle, Leads root links here front middle ∧ root.at? middle = some .directory := by
  generalize split : front ++ back = path at leads
  induction leads generalizing front with
  | here => exact absurd (List.append_eq_nil_iff.mp split).2 further
  | @up links here rest place directory below next inductionHypothesis =>
      cases front with
      | nil => exact ⟨here, .here, directory⟩
      | cons name front =>
          obtain ⟨rfl, same⟩ := List.cons_eq_cons.mp split
          obtain ⟨middle, leads, isDirectory⟩ := inductionHypothesis same
          exact ⟨middle, .up directory below leads, isDirectory⟩
  | @link links here rest place name target named directory stands relative next inductionHypothesis =>
      cases front with
      | nil => exact ⟨here, .here, directory⟩
      | cons name front =>
          obtain ⟨rfl, rfl⟩ := List.cons_eq_cons.mp split
          obtain ⟨middle, leads, isDirectory⟩ := inductionHypothesis (List.append_assoc ..)
          exact ⟨middle, .link named directory stands relative leads, isDirectory⟩
  | @into links here rest place name content named directory stands unlinked next inductionHypothesis =>
      cases front with
      | nil => exact ⟨here, .here, directory⟩
      | cons name front =>
          obtain ⟨rfl, same⟩ := List.cons_eq_cons.mp split
          obtain ⟨middle, leads, isDirectory⟩ := inductionHypothesis same
          exact ⟨middle, .into named directory stands unlinked leads, isDirectory⟩
  | @vacant links here name named directory nothing =>
      cases front with
      | nil => exact ⟨here, .here, directory⟩
      | cons name front =>
          obtain ⟨rfl, same⟩ := List.cons_eq_cons.mp split
          exact absurd (List.append_eq_nil_iff.mp same).2 further

/-- Names that lead to something lead to something, too, if a link at their very end is not followed. -/
theorem Leads.exists_unfollowed (leads : Leads root links here path place) (there : (root.at? place).isSome) :
    ∃ found, Files.follow root false links here path = .ok found ∧ found.tree.isSome := by
  induction leads with
  | here =>
      rw [at?, Option.isSome_map] at there
      exact ⟨_, by rw [Files.follow], there⟩
  | up directory below next inductionHypothesis =>
      obtain ⟨entries, holder⟩ := at?_eq_directory_iff.mp directory
      rw [Files.follow, holder]
      simp only [List.isEmpty_iff, below, if_false]
      exact inductionHypothesis there
  | @link links here rest place name target named directory stands relative next inductionHypothesis =>
      obtain ⟨entries, holder⟩ := at?_eq_directory_iff.mp directory
      rw [at?_append_singleton holder] at stands
      obtain ⟨inner, found, isLink⟩ := Option.map_eq_some_iff.mp stands
      cases inner with
      | link target =>
          cases isLink
          rw [Files.follow, holder]
          · simp only [found, Bool.not_false, Bool.and_true, relative, Bool.false_eq_true, if_false]
            cases last : rest.isEmpty with
            | true => exact ⟨_, rfl, rfl⟩
            | false => exact inductionHypothesis there
          · exact named
      | _ => cases isLink
  | into named directory stands unlinked next inductionHypothesis =>
      obtain ⟨entries, holder⟩ := at?_eq_directory_iff.mp directory
      rw [at?_append_singleton holder] at stands
      obtain ⟨inner, found, rfl⟩ := Option.map_eq_some_iff.mp stands
      rw [Files.follow, holder]
      · cases inner with
        | link target => exact absurd rfl (unlinked target)
        | _ =>
            simp only [found]
            exact inductionHypothesis there
      · exact named
  | vacant named directory nothing =>
      rw [nothing] at there
      cases there

/-- Creating a directory that is there already leaves the tree as it is. -/
theorem createDirectories_of_leads {path : String} (relative : isAbsolute path = false)
    (leads : Leads root 40 [] (names path) place) (directory : root.at? place = some .directory) :
    createDirectories root path = .ok root := by
  rw [createDirectories, relative]
  cases named : names path with
  | nil => rfl
  | cons name rest =>
      rw [named] at leads
      obtain ⟨entries, isDirectory⟩ := at?_eq_directory_iff.mp directory
      obtain ⟨found, followed, there⟩ := leads.exists_unfollowed (by rw [directory]; rfl)
      obtain ⟨tree, isTree⟩ := Option.isSome_iff_exists.mp there
      have refused : createDirectory root (name :: rest) = .error .alreadyExists := by
        rw [createDirectory, followed]
        simp only [isTree]
      simp only [Bool.false_eq_true, if_false, List.length_cons, createAll, refused, Files.isDirectory, leads.follow,
        isDirectory, if_true]

/-- A path that is read leads to a file. -/
theorem leads_of_read {path : String} {data : List UInt8} (kept : read root path = .ok data) :
    isAbsolute path = false ∧
      ∃ place, Leads root 40 [] (names path) place ∧ root.descend? place = some (.file data) := by
  unfold read get at kept
  cases resolved : resolve root path with
  | error fault =>
      rw [resolved] at kept
      cases kept
  | ok found =>
      obtain ⟨relative, leads, stands⟩ := resolve_eq_ok_iff.mp resolved
      rw [resolved] at kept
      simp only [stands] at kept
      refine ⟨relative, found.names, leads, ?_⟩
      cases tree : root.descend? found.names with
      | none =>
          rw [tree] at kept
          cases kept
      | some inner =>
          rw [tree] at kept
          cases inner with
          | file other =>
              cases kept
              rfl
          | _ => cases kept

/-- A file that is there is written over. -/
theorem exists_write_of_read {path : String} {old : List UInt8} (kept : read root path = .ok old)
    (data : List UInt8) : ∃ next, write root path data = .ok next := by
  obtain ⟨relative, place, leads, stands⟩ := leads_of_read kept
  refine ⟨root.putAt (.file data) place, ?_⟩
  simp only [write, resolve, relative, Bool.false_eq_true, if_false, leads.follow, stands]

/-! ### The names of paths -/

theorem pieces_ne_nil (characters : List Char) : pieces characters ≠ [] := by
  fun_induction pieces characters <;> simp

/-- The pieces of two texts with a slash between them are the pieces of one and of the other. -/
theorem pieces_append (front back : List Char) : pieces (front ++ '/' :: back) = pieces front ++ pieces back := by
  fun_induction pieces front with
  | case1 => simp [pieces]
  | case2 rest inductionHypothesis => simp [pieces, inductionHypothesis]
  | case3 character rest apart none inductionHypothesis => exact absurd none (pieces_ne_nil rest)
  | case4 character rest apart piece others split inductionHypothesis =>
      rw [List.cons_append, pieces, inductionHypothesis, split]
      · rfl
      · exact apart

theorem names_append (front back : String) : names (front ++ "/" ++ back) = names front ++ names back := by
  have split : (front ++ "/" ++ back).toList = front.toList ++ '/' :: back.toList := by simp
  rw [names, split, pieces_append, List.map_append, List.filter_append]
  rfl

theorem isAbsolute_append {front : String} (begun : front ≠ "") (back : String) :
    isAbsolute (front ++ back) = isAbsolute front := by
  have characters : front.toList ≠ [] := fun nothing => begun (String.toList_eq_nil_iff.mp nothing)
  rw [isAbsolute, String.toList_append, List.head?_append_of_ne_nil _ characters]
  rfl

end Files

end Turnstile
