/-
Module: Turnstile.Proofs.Settings.Pruned
Purpose: Documents from which keys were removed, and what is still read of their sections.
Main exports: Yaml.at?, Yaml.Fewer, Yaml.Pruned, Yaml.lookup_of_fewer, Yaml.section?_of_pruned, Yaml.Steadfast,
  Yaml.entryOr_of_pruned, Yaml.entryOr_of_steadfast
-/
import Mathlib.Data.List.Forall2
import Turnstile.Proofs.Json.Members
import Turnstile.Settings.Document

/-!
Keys may be removed from a document at any depth: what is left of a mapping are some of its entries, each with what
is left of its value.  A known key stands once in a section, so removing it does not bring another entry of that key
to light: an entry is either gone or what is left of the one that was there.
-/

namespace Turnstile.Yaml

/-! ### What a document says -/

/-- The value that a node has for a key. -/
def field? (node : Yaml) (key : String) : Option Yaml :=
  match node with
  | .mapping entries => (entries.find? fun entry => entry.1.text? == some key).map Prod.snd
  | _ => none

/-- What is found in a document by following keys. -/
def at? (node : Yaml) : List String → Option Yaml
  | [] => some node
  | key :: rest => (node.field? key).bind fun value => value.at? rest

@[simp] theorem at?_singleton (node : Yaml) (key : String) : node.at? [key] = node.field? key := by
  rw [at?]
  cases node.field? key <;> rfl

theorem field?_mapping (entries : List (Yaml × Yaml)) (key : String) :
    (Yaml.mapping entries).field? key = (entries.find? fun entry => entry.1.text? == some key).map Prod.snd := rfl

/-! ### Removing keys -/

/-- Some entries were removed, and what is left of the others is related to what there was. -/
inductive Fewer {Key Value : Type} (left : Value → Value → Prop) : List (Key × Value) → List (Key × Value) → Prop where
  | nil : Fewer left [] []
  | removed {entry : Key × Value} {entries rest : List (Key × Value)} (fewer : Fewer left entries rest) :
      Fewer left (entry :: entries) rest
  | kept {key : Key} {value less : Value} {entries rest : List (Key × Value)} (pruned : left value less)
      (fewer : Fewer left entries rest) : Fewer left ((key, value) :: entries) ((key, less) :: rest)

/-- What may be left of a node when keys are removed from it, at any depth.  A mapping that has lost all its keys may
be left as nothing at all. -/
inductive Pruned : Yaml → Yaml → Prop where
  | same {node : Yaml} : Pruned node node
  | sequence {items rest : List Yaml} (each : List.Forall₂ Pruned items rest) :
      Pruned (.sequence items) (.sequence rest)
  | mapping {entries rest : List (Yaml × Yaml)} (fewer : Fewer Pruned entries rest) :
      Pruned (.mapping entries) (.mapping rest)
  | emptied {entries : List (Yaml × Yaml)} : Pruned (.mapping entries) .empty

section Fewer

variable {Key Value : Type} {left : Value → Value → Prop} {entries rest : List (Key × Value)}

theorem Fewer.refl (self : ∀ value, left value value) : ∀ entries : List (Key × Value), Fewer left entries entries
  | [] => .nil
  | _ :: entries => .kept (self _) (Fewer.refl self entries)

theorem Fewer.keys_subset (fewer : Fewer left entries rest) : rest.map Prod.fst ⊆ entries.map Prod.fst := by
  induction fewer with
  | nil => exact List.Subset.refl _
  | removed _ inductionHypothesis => exact List.subset_cons_of_subset _ inductionHypothesis
  | kept _ _ inductionHypothesis => exact List.cons_subset_cons _ inductionHypothesis

theorem Fewer.filter_length_le (fewer : Fewer left entries rest) (wanted : Key → Bool) :
    (rest.filter fun entry => wanted entry.1).length ≤ (entries.filter fun entry => wanted entry.1).length := by
  induction fewer with
  | nil => exact Nat.le_refl _
  | @removed entry _ _ _ inductionHypothesis =>
      exact Nat.le_trans inductionHypothesis ((List.sublist_cons_self entry _).filter _).length_le
  | @kept key _ _ _ _ _ _ inductionHypothesis =>
      cases isWanted : wanted key with
      | true => simpa [isWanted] using inductionHypothesis
      | false => simpa [isWanted] using inductionHypothesis

end Fewer

/-- An entry whose key stood once is gone, or is what is left of the one that was there. -/
theorem lookup_of_fewer {left : Yaml → Yaml → Prop} {pairs rest : List (String × Yaml)} {key : String}
    (fewer : Fewer left pairs rest) (once : (pairs.filter fun pair => pair.1 == key).length ≤ 1) :
    rest.lookup key = none ∨
      ∃ value less, pairs.lookup key = some value ∧ rest.lookup key = some less ∧ left value less := by
  induction fewer with
  | nil => exact Or.inl rfl
  | @removed pair pairs rest fewer inductionHypothesis =>
      obtain ⟨name, value⟩ := pair
      by_cases here : name = key
      · subst here
        have nothing : name ∉ pairs.map Prod.fst := by
          rintro member
          obtain ⟨other, listed, same⟩ := List.mem_map.mp member
          have twice : 0 < (pairs.filter fun pair => pair.1 == name).length :=
            List.length_pos_of_mem (List.mem_filter.mpr ⟨listed, beq_iff_eq.mpr same⟩)
          rw [List.filter_cons_of_pos (by simp), List.length_cons] at once
          omega
        refine Or.inl (List.lookup_eq_none_iff.mpr fun other listed => bne_iff_ne.mpr ?_)
        rintro rfl
        exact nothing (fewer.keys_subset (List.mem_map_of_mem listed))
      · rw [List.filter_cons_of_neg (by simpa using here)] at once
        rw [Members.lookup_cons_of_ne here]
        exact inductionHypothesis once
  | @kept name value less pairs rest pruned fewer inductionHypothesis =>
      by_cases here : name = key
      · subst here
        exact Or.inr ⟨value, less, List.lookup_cons_self, List.lookup_cons_self, pruned⟩
      · rw [List.filter_cons_of_neg (by simpa using here)] at once
        rw [Members.lookup_cons_of_ne here, Members.lookup_cons_of_ne here]
        exact inductionHypothesis once

/-! ### Sections -/

/-- The entries of a mapping whose keys are texts, by these texts. -/
def keyed? (entries : List (Yaml × Yaml)) : Option (List (String × Yaml)) :=
  entries.mapM fun entry => entry.1.text?.map fun key => (key, entry.2)

theorem keyed?_cons_eq_some_iff {entry : Yaml × Yaml} {entries : List (Yaml × Yaml)} {pairs : List (String × Yaml)} :
    keyed? (entry :: entries) = some pairs ↔
      ∃ key rest, entry.1.text? = some key ∧ keyed? entries = some rest ∧ pairs = (key, entry.2) :: rest := by
  simp only [keyed?, List.mapM_cons, Option.bind_eq_bind, Option.bind_eq_some_iff, Option.map_eq_some_iff,
    Option.pure_def, Option.some.injEq]
  constructor
  · rintro ⟨_, ⟨key, isKey, rfl⟩, rest, read, rfl⟩
    exact ⟨key, rest, isKey, read, rfl⟩
  · rintro ⟨key, rest, isKey, read, rfl⟩
    exact ⟨_, ⟨key, isKey, rfl⟩, rest, read, rfl⟩

/-- Fewer entries have fewer keys. -/
theorem keyed?_of_fewer {left : Yaml → Yaml → Prop} {entries rest : List (Yaml × Yaml)}
    (fewer : Fewer left entries rest) :
    ∀ {pairs : List (String × Yaml)}, keyed? entries = some pairs →
      ∃ fewerPairs, keyed? rest = some fewerPairs ∧ Fewer left pairs fewerPairs := by
  induction fewer with
  | nil =>
      rintro pairs ⟨⟩
      exact ⟨[], rfl, .nil⟩
  | removed _ inductionHypothesis =>
      intro pairs read
      obtain ⟨key, later, _, readLater, rfl⟩ := keyed?_cons_eq_some_iff.mp read
      obtain ⟨fewerPairs, readFewer, fewer⟩ := inductionHypothesis readLater
      exact ⟨fewerPairs, readFewer, .removed fewer⟩
  | kept pruned _ inductionHypothesis =>
      intro pairs read
      obtain ⟨key, later, isKey, readLater, rfl⟩ := keyed?_cons_eq_some_iff.mp read
      obtain ⟨fewerPairs, readFewer, fewer⟩ := inductionHypothesis readLater
      exact ⟨_, keyed?_cons_eq_some_iff.mpr ⟨key, fewerPairs, isKey, readFewer, rfl⟩, .kept pruned fewer⟩

/-- A key is found among the entries of a mapping where it is found in the mapping. -/
theorem lookup_of_keyed? {entries : List (Yaml × Yaml)} {pairs : List (String × Yaml)}
    (read : keyed? entries = some pairs) (key : String) : pairs.lookup key = (Yaml.mapping entries).field? key := by
  induction entries generalizing pairs with
  | nil =>
      cases read
      rfl
  | cons entry entries inductionHypothesis =>
      obtain ⟨name, rest, isName, readRest, rfl⟩ := keyed?_cons_eq_some_iff.mp read
      have later := inductionHypothesis readRest
      rw [field?_mapping] at later ⊢
      by_cases here : name = key
      · subst here
        rw [List.lookup_cons_self, List.find?_cons_of_pos (by simp [isName])]
        rfl
      · rw [Members.lookup_cons_of_ne here, later, List.find?_cons_of_neg (by simpa [isName] using here)]

/-- A section is a mapping whose known keys stand once, or nothing. -/
theorem section?_eq_some_iff {known : List String} {node : Yaml} {pairs : List (String × Yaml)} :
    node.section? known = some pairs ↔
      (∃ entries, node = .mapping entries ∧ keyed? entries = some pairs ∧
        ∀ key ∈ known, (pairs.filter fun pair => pair.1 == key).length ≤ 1) ∨
      (node.isNothing = true ∧ pairs = []) := by
  cases node with
  | mapping entries =>
      have opened : (Yaml.mapping entries).section? known = (keyed? entries).bind fun read =>
          if known.all fun key => (read.filter fun pair => pair.1 == key).length ≤ 1 then some read else none := by
        rw [keyed?, section?]
        cases entries.mapM fun entry => entry.1.text?.map fun key => (key, entry.2) with
        | none => rfl
        | some read => rfl
      simp only [opened, Option.bind_eq_some_iff, List.all_eq_true, decide_eq_true_eq, Option.ite_none_right_eq_some,
        Option.some.injEq, mapping.injEq, exists_eq_left', isNothing, Bool.false_eq_true, false_and, or_false]
      constructor
      · rintro ⟨_, keyed, once, rfl⟩
        exact ⟨keyed, once⟩
      · rintro ⟨keyed, once⟩
        exact ⟨pairs, keyed, once, rfl⟩
  | scalar text style tag =>
      change (if (Yaml.scalar text style tag).isNothing then some [] else none) = some pairs ↔ _
      simp only [Option.ite_none_right_eq_some, Option.some.injEq, reduceCtorEq, false_and, exists_false, false_or]
      exact and_congr_right fun _ => eq_comm
  | sequence items => exact ⟨nofun, by rintro (⟨_, ⟨⟩, _⟩ | ⟨⟨⟩, _⟩)⟩

/-- The entries of a section are those of its node. -/
theorem lookup_of_section? {known : List String} {node : Yaml} {pairs : List (String × Yaml)}
    (read : node.section? known = some pairs) (key : String) : pairs.lookup key = node.field? key := by
  rcases section?_eq_some_iff.mp read with ⟨entries, rfl, keyed, _⟩ | ⟨nothing, rfl⟩
  · exact lookup_of_keyed? keyed key
  · cases node with
    | scalar text style tag => rfl
    | _ => cases nothing

/-- What is left of a section is a section, whose known entries are what is left of those that it had. -/
theorem section?_of_pruned {known : List String} {node less : Yaml} {pairs : List (String × Yaml)}
    (pruned : Pruned node less) (read : node.section? known = some pairs) :
    ∃ rest, less.section? known = some rest ∧ ∀ key ∈ known,
      rest.lookup key = none ∨
        ∃ value left, pairs.lookup key = some value ∧ rest.lookup key = some left ∧ Pruned value left := by
  rcases section?_eq_some_iff.mp read with ⟨entries, rfl, keyed, once⟩ | ⟨nothing, rfl⟩
  · have fewerRead : ∀ {rest : List (Yaml × Yaml)}, Fewer Pruned entries rest →
        ∃ fewerPairs, (Yaml.mapping rest).section? known = some fewerPairs ∧ Fewer Pruned pairs fewerPairs := by
      intro rest fewer
      obtain ⟨fewerPairs, readFewer, fewer⟩ := keyed?_of_fewer fewer keyed
      refine ⟨fewerPairs, section?_eq_some_iff.mpr (Or.inl ⟨rest, rfl, readFewer, fun key isKnown => ?_⟩), fewer⟩
      exact Nat.le_trans (fewer.filter_length_le (· == key)) (once key isKnown)
    cases pruned with
    | same =>
        obtain ⟨rest, readRest, fewer⟩ := fewerRead (Fewer.refl (fun _ => Pruned.same) entries)
        exact ⟨rest, readRest, fun key isKnown => lookup_of_fewer fewer (once key isKnown)⟩
    | mapping fewer =>
        obtain ⟨rest, readRest, fewer⟩ := fewerRead fewer
        exact ⟨rest, readRest, fun key isKnown => lookup_of_fewer fewer (once key isKnown)⟩
    | emptied => exact ⟨[], rfl, fun key _ => Or.inl rfl⟩
  · cases pruned with
    | same => exact ⟨[], read, fun key _ => Or.inl rfl⟩
    | _ => cases nothing

/-! ### Values -/

/-- A value that is read of a node is read of all that may be left of it. -/
def Steadfast {α : Type} (decode : Yaml → Option α) : Prop :=
  ∀ node less value, Pruned node less → decode node = some value → decode less = some value

theorem steadfast_text? : Steadfast text? := by
  intro node less value pruned read
  cases node with
  | scalar text style tag =>
      cases pruned
      exact read
  | _ => cases read

theorem steadfast_word64? : Steadfast word64? := by
  intro node less value pruned read
  cases node with
  | scalar text style tag =>
      cases pruned
      exact read
  | _ => cases read

theorem steadfast_texts? : Steadfast texts? := by
  intro node less value pruned read
  cases pruned with
  | same => exact read
  | @sequence items rest each =>
      change items.mapM text? = some value at read
      change rest.mapM text? = some value
      induction each generalizing value with
      | nil => exact read
      | cons pruned _ inductionHypothesis =>
          simp only [List.mapM_cons, Option.bind_eq_bind, Option.bind_eq_some_iff, Option.pure_def,
            Option.some.injEq] at read ⊢
          obtain ⟨text, readText, texts, readTexts, rfl⟩ := read
          exact ⟨text, steadfast_text? _ _ _ pruned readText, texts, inductionHypothesis _ readTexts, rfl⟩
  | _ => cases read

section Entry

variable {α : Type} {decode : Yaml → Option α} {pairs rest : List (String × Yaml)} {key : String} {default value : α}

/-- What is read of an entry is what remains of its value, or the default if the entry is gone. -/
theorem entryOr_of_pruned {remains : Yaml → Option α}
    (reads : ∀ {node less}, Pruned node less → decode node = some value → decode less = remains less)
    (entry : rest.lookup key = none ∨
      ∃ value less, pairs.lookup key = some value ∧ rest.lookup key = some less ∧ Pruned value less)
    (read : entryOr pairs key default decode = some value) :
    entryOr rest key default decode = (rest.lookup key).elim (some default) remains := by
  rcases entry with gone | ⟨node, less, there, left, pruned⟩
  · rw [entryOr, gone]
    rfl
  · rw [entryOr, there] at read
    rw [entryOr, left]
    exact reads pruned read

/-- A setting keeps its value while it is there, and takes its default once it is not. -/
def kept {α : Type} (node : Option Yaml) (value default : α) : α :=
  if node.isSome then value else default

theorem apply_kept {β : Type} (node : Option Yaml) (after : α → β) (value default : α) :
    after (kept node value default) = kept node (after value) (after default) :=
  apply_ite after _ _ _

/-- A setting below a key has its default if the key is gone. -/
theorem kept_at?_cons (node : Yaml) (key : String) (path : List String) (value default : α) :
    kept (node.at? (key :: path)) value default =
      (node.field? key).elim default fun inner => kept (inner.at? path) value default := by
  rw [at?]
  cases node.field? key <;> rfl

/-- A value that is read of all that may be left of it stays while its entry is there. -/
theorem entryOr_of_steadfast (steadfast : Steadfast decode)
    (entry : rest.lookup key = none ∨
      ∃ value less, pairs.lookup key = some value ∧ rest.lookup key = some less ∧ Pruned value less)
    (read : entryOr pairs key default decode = some value) :
    entryOr rest key default decode = some (kept (rest.lookup key) value default) := by
  rw [entryOr_of_pruned (steadfast _ _ _) entry read]
  cases rest.lookup key <;> rfl

end Entry

end Turnstile.Yaml
