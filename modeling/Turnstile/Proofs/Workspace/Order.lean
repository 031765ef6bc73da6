/-
Module: Turnstile.Proofs.Workspace.Order
Purpose: What the next queue of a workspace holds, and in which order.
Main exports: Queue.mem_recompute_iff, Queue.nodup_recompute, Queue.Ahead, Queue.ahead_recompute,
  Queue.ahead_recompute_of_newcomer, Queue.ahead_recompute_of_newcomers, Queue.findIdx?_recompute_le,
  Queue.recompute_of_exact
-/
import Turnstile.Proofs.Workspace.Queue

/-!
Places in a queue are those of first occurrences.  A traversal that keeps the first occurrence of what is
wanted never puts a name behind one that it was ahead of, and it can only move a name towards the head.  The
next queue puts newcomers behind all that stay, in the order in which they are listed, so the same holds of it.
-/

namespace Turnstile.Queue

/-! ### What a traversal keeps -/

/-- In the end a traversal has seen what was seen before and what it kept. -/
theorem mem_seen_firsts_iff {wanted : String → Bool} {names : List String} {name : String} :
    ∀ {seen : List String},
      name ∈ (firsts wanted seen names).2 ↔ name ∈ seen ∨ name ∈ (firsts wanted seen names).1 := by
  induction names with
  | nil => simp [firsts]
  | cons first rest inductionHypothesis =>
      intro seen
      unfold firsts
      split
      · change name ∈ (firsts wanted (first :: seen) rest).2 ↔ _ ∨ name ∈ first :: (firsts wanted _ rest).1
        rw [inductionHypothesis, List.mem_cons, List.mem_cons, or_assoc, or_left_comm]
      · exact inductionHypothesis

theorem nodup_firsts {wanted : String → Bool} {names : List String} :
    ∀ {seen : List String}, (firsts wanted seen names).1.Nodup := by
  induction names with
  | nil => simp [firsts]
  | cons first rest inductionHypothesis =>
      intro seen
      unfold firsts
      split
      · refine List.nodup_cons.mpr ⟨?_, inductionHypothesis⟩
        rw [mem_firsts_iff]
        rintro ⟨_, _, unseen⟩
        exact unseen List.mem_cons_self
      · exact inductionHypothesis

/-! ### Places -/

/-- The first occurrence of `first` comes before that of `second`, and both occur. -/
def Ahead (queue : List String) (first second : String) : Prop :=
  ∃ place behind, (queue.findIdx? fun name => name == first) = some place ∧
    (queue.findIdx? fun name => name == second) = some behind ∧ place < behind

theorem ahead_cons_iff {queue : List String} {name first second : String} :
    Ahead (name :: queue) first second ↔
      (name = first ∧ first ≠ second ∧ second ∈ queue) ∨
        (name ≠ first ∧ name ≠ second ∧ Ahead queue first second) := by
  unfold Ahead
  by_cases leads : name = first
  · subst leads
    by_cases same : name = second
    · simp [List.findIdx?_cons, same]
    · have occurs : (∃ behind, (queue.findIdx? fun other => other == second) = some behind) ↔ second ∈ queue := by
        rw [← Option.isSome_iff_exists, List.findIdx?_isSome, List.any_eq_true]
        simp
      rw [← occurs]
      simp only [List.findIdx?_cons, BEq.rfl, ↓reduceIte, Option.some.injEq, beq_iff_eq, same,
        Option.map_eq_some_iff, exists_and_left, exists_eq_left', ne_eq, not_false_eq_true, true_and,
        not_true_eq_false, false_and, or_false]
      constructor
      · rintro ⟨_, ⟨behind, found, rfl⟩, _⟩
        exact ⟨behind, found⟩
      · rintro ⟨behind, found⟩
        exact ⟨behind + 1, ⟨behind, found, rfl⟩, Nat.succ_pos behind⟩
  · by_cases same : name = second
    · subst same
      simp [List.findIdx?_cons, leads]
    · simp only [List.findIdx?_cons, beq_iff_eq, leads, ↓reduceIte, Option.map_eq_some_iff, same,
        exists_and_left, ne_eq, false_and, not_false_eq_true, true_and, false_or]
      constructor
      · rintro ⟨_, ⟨place, found, rfl⟩, _, ⟨behind, foundBehind, rfl⟩, less⟩
        exact ⟨place, found, behind, foundBehind, Nat.lt_of_succ_lt_succ less⟩
      · rintro ⟨place, found, behind, foundBehind, less⟩
        exact ⟨place + 1, ⟨place, found, rfl⟩, behind + 1, ⟨behind, foundBehind, rfl⟩, Nat.succ_lt_succ less⟩

theorem ahead_append {queue later : List String} {first second : String} (ahead : Ahead queue first second) :
    Ahead (queue ++ later) first second := by
  obtain ⟨place, behind, found, foundBehind, less⟩ := ahead
  refine ⟨place, behind, ?_, ?_, less⟩
  · simp [List.findIdx?_append, found]
  · simp [List.findIdx?_append, foundBehind]

theorem findIdx?_isSome_of_mem {queue : List String} {name : String} (member : name ∈ queue) :
    ∃ place, (queue.findIdx? fun other => other == name) = some place := by
  rw [← Option.isSome_iff_exists, List.findIdx?_isSome, List.any_eq_true]
  exact ⟨name, member, beq_self_eq_true name⟩

theorem findIdx?_eq_none_of_notMem {queue : List String} {name : String} (absent : name ∉ queue) :
    (queue.findIdx? fun other => other == name) = none := by
  rw [List.findIdx?_eq_none_iff]
  intro other member
  exact beq_eq_false_iff_ne.mpr fun same => absent (same ▸ member)

/-- Of two names in a queue one is ahead of the other. -/
theorem ahead_or_ahead {queue : List String} {first second : String} (apart : first ≠ second)
    (queued : first ∈ queue) (queuedSecond : second ∈ queue) :
    Ahead queue first second ∨ Ahead queue second first := by
  obtain ⟨place, found⟩ := findIdx?_isSome_of_mem queued
  obtain ⟨behind, foundBehind⟩ := findIdx?_isSome_of_mem queuedSecond
  rcases Nat.lt_trichotomy place behind with less | same | more
  · exact Or.inl ⟨place, behind, found, foundBehind, less⟩
  · subst same
    obtain ⟨_, isFirst, _⟩ := List.findIdx?_eq_some_iff_getElem.mp found
    obtain ⟨_, isSecond, _⟩ := List.findIdx?_eq_some_iff_getElem.mp foundBehind
    exact absurd ((beq_iff_eq.mp isFirst).symm.trans (beq_iff_eq.mp isSecond)) apart
  · exact Or.inr ⟨behind, place, foundBehind, found, more⟩

/-- Of two names one at most is ahead of the other. -/
theorem Ahead.asymm {queue : List String} {first second : String} (ahead : Ahead queue first second) :
    ¬ Ahead queue second first := by
  rintro ⟨behind, place, foundBehind, found, more⟩
  obtain ⟨_, _, foundFirst, foundSecond, less⟩ := ahead
  cases found.symm.trans foundFirst
  cases foundBehind.symm.trans foundSecond
  exact Nat.lt_asymm less more

/-- Whoever is in a queue is ahead of those who are added to it. -/
theorem ahead_append_of_mem {queue later : List String} {first second : String} (queued : first ∈ queue)
    (absent : second ∉ queue) (added : second ∈ later) : Ahead (queue ++ later) first second := by
  obtain ⟨place, found⟩ := findIdx?_isSome_of_mem queued
  obtain ⟨behind, foundBehind⟩ := findIdx?_isSome_of_mem added
  have inside : place < queue.length := (List.findIdx?_eq_some_iff_findIdx_eq.mp found).1
  refine ⟨place, behind + queue.length, ?_, ?_, Nat.lt_add_left behind inside⟩
  · simp [List.findIdx?_append, found]
  · simp [List.findIdx?_append, findIdx?_eq_none_of_notMem absent, foundBehind]

/-- Those who are added to a queue keep their order. -/
theorem ahead_append_right {queue later : List String} {first second : String} (absent : first ∉ queue)
    (absentSecond : second ∉ queue) (ahead : Ahead later first second) : Ahead (queue ++ later) first second := by
  obtain ⟨place, behind, found, foundBehind, less⟩ := ahead
  refine ⟨place + queue.length, behind + queue.length, ?_, ?_, Nat.add_lt_add_right less _⟩
  · simp [List.findIdx?_append, findIdx?_eq_none_of_notMem absent, found]
  · simp [List.findIdx?_append, findIdx?_eq_none_of_notMem absentSecond, foundBehind]

/-- Names that are listed in order are ahead of each other in that order. -/
theorem ahead_of_pairwise {names : List String} (sorted : names.Pairwise (· ≤ ·)) {first second : String}
    (listed : first ∈ names) (listedSecond : second ∈ names) (less : first < second) :
    Ahead names first second := by
  have apart : first ≠ second := by
    rintro rfl
    exact String.lt_irrefl first less
  induction names with
  | nil => cases listed
  | cons name rest inductionHypothesis =>
      rw [List.pairwise_cons] at sorted
      refine ahead_cons_iff.mpr ?_
      rcases List.mem_cons.mp listedSecond with leads | follows
      · rcases List.mem_cons.mp listed with here | there
        · exact absurd (here.trans leads.symm) apart
        · exact absurd (leads ▸ sorted.1 first there) (String.not_le.mpr less)
      · by_cases leads : name = first
        · exact Or.inl ⟨leads, apart, follows⟩
        · have deeper := List.mem_of_ne_of_mem (Ne.symm leads) listed
          refine Or.inr ⟨leads, ?_, inductionHypothesis sorted.2 deeper follows⟩
          rintro rfl
          exact String.not_le.mpr less (sorted.1 first deeper)

/-- A traversal keeps the order of what it keeps. -/
theorem ahead_firsts {wanted : String → Bool} {names : List String} {first second : String}
    (wantsFirst : wanted first = true) (wantsSecond : wanted second = true) :
    ∀ {seen : List String}, first ∉ seen → second ∉ seen → Ahead names first second →
      Ahead (firsts wanted seen names).1 first second := by
  induction names with
  | nil =>
      rintro seen _ _ ⟨place, _, found, _⟩
      cases found
  | cons name rest inductionHypothesis =>
      intro seen unseen unseenSecond ahead
      unfold firsts
      rcases ahead_cons_iff.mp ahead with ⟨leads, apart, follows⟩ | ⟨other, otherSecond, deeper⟩
      · subst leads
        rw [if_pos (by simp [wantsFirst, unseen])]
        refine ahead_cons_iff.mpr (Or.inl ⟨rfl, apart, ?_⟩)
        exact mem_firsts_iff.mpr ⟨follows, wantsSecond, by simp [Ne.symm apart, unseenSecond]⟩
      · split
        · refine ahead_cons_iff.mpr (Or.inr ⟨other, otherSecond, inductionHypothesis ?_ ?_ deeper⟩)
          · simp [Ne.symm other, unseen]
          · simp [Ne.symm otherSecond, unseenSecond]
        · exact inductionHypothesis unseen unseenSecond deeper

/-- A traversal moves what it keeps towards the head, if it moves it at all. -/
theorem findIdx?_firsts_le {wanted : String → Bool} {names : List String} {name : String}
    (isWanted : wanted name = true) :
    ∀ {seen : List String} {place : Nat}, name ∉ seen →
      (names.findIdx? fun other => other == name) = some place →
      ∃ nearer ≤ place, ((firsts wanted seen names).1.findIdx? fun other => other == name) = some nearer := by
  induction names with
  | nil =>
      intro seen place _ found
      cases found
  | cons first rest inductionHypothesis =>
      intro seen place unseen found
      unfold firsts
      by_cases here : first = name
      · subst here
        rw [if_pos (by simp [isWanted, unseen])]
        exact ⟨0, Nat.zero_le place, by simp [List.findIdx?_cons]⟩
      · simp only [List.findIdx?_cons, beq_iff_eq, here, if_false, Option.map_eq_some_iff] at found
        obtain ⟨deeper, foundDeeper, rfl⟩ := found
        split
        · have stillUnseen : name ∉ first :: seen := by simp [Ne.symm here, unseen]
          obtain ⟨nearer, bound, foundNearer⟩ := inductionHypothesis stillUnseen foundDeeper
          exact ⟨nearer + 1, Nat.succ_le_succ bound, by simp [List.findIdx?_cons, here, foundNearer]⟩
        · obtain ⟨nearer, bound, foundNearer⟩ := inductionHypothesis unseen foundDeeper
          exact ⟨nearer, Nat.le_succ_of_le bound, foundNearer⟩

/-! ### The next queue -/

/-- The next queue holds exactly the pending names. -/
theorem mem_recompute_iff {current pending : List String} {name : String} :
    name ∈ recompute current pending ↔ name ∈ pending := by
  refine ⟨mem_recompute, fun waiting => List.mem_append.mpr ?_⟩
  by_cases survives : name ∈ (firsts pending.contains [] current).1
  · exact Or.inl survives
  · refine Or.inr (mem_firsts_iff.mpr ⟨waiting, rfl, fun seen => ?_⟩)
    rcases mem_seen_firsts_iff.mp seen with before | kept
    · cases before
    · exact survives kept

theorem nodup_recompute (current pending : List String) : (recompute current pending).Nodup := by
  refine List.nodup_append.mpr ⟨nodup_firsts, nodup_firsts, ?_⟩
  rintro survivor survives newcomer isNew rfl
  exact (mem_firsts_iff.mp isNew).2.2 (mem_seen_firsts_iff.mpr (Or.inr survives))

/-- The next queue keeps the order of any two names that stay. -/
theorem ahead_recompute {current pending : List String} {first second : String}
    (ahead : Ahead current first second) (waits : first ∈ pending) (waitsSecond : second ∈ pending) :
    Ahead (recompute current pending) first second := by
  apply ahead_append
  exact ahead_firsts (by simpa using waits) (by simpa using waitsSecond) List.not_mem_nil List.not_mem_nil ahead

/-- Two names that stay are ordered in the next queue as in the present one. -/
theorem ahead_recompute_iff {current pending : List String} {first second : String} (apart : first ≠ second)
    (queued : first ∈ current) (queuedSecond : second ∈ current) (waits : first ∈ pending)
    (waitsSecond : second ∈ pending) :
    Ahead (recompute current pending) first second ↔ Ahead current first second := by
  refine ⟨?_, fun ahead => ahead_recompute ahead waits waitsSecond⟩
  intro ahead
  rcases ahead_or_ahead apart queued queuedSecond with same | other
  · exact same
  · exact absurd (ahead_recompute other waitsSecond waits) ahead.asymm

/-- Whoever stays in a queue is ahead of the newcomers. -/
theorem ahead_recompute_of_newcomer {current pending : List String} {first second : String}
    (queued : first ∈ current) (waits : first ∈ pending) (absent : second ∉ current) (arrives : second ∈ pending) :
    Ahead (recompute current pending) first second := by
  have stays : first ∈ (firsts pending.contains [] current).1 :=
    mem_firsts_iff.mpr ⟨queued, by simpa using waits, List.not_mem_nil⟩
  have isNew : second ∉ (firsts pending.contains [] current).1 := fun stays => absent (mem_firsts_iff.mp stays).1
  refine ahead_append_of_mem stays isNew (mem_firsts_iff.mpr ⟨arrives, rfl, fun seen => ?_⟩)
  rcases mem_seen_firsts_iff.mp seen with before | kept
  · cases before
  · exact isNew kept

/-- Newcomers are queued in the order in which they are listed. -/
theorem ahead_recompute_of_newcomers {current pending : List String} {first second : String}
    (absent : first ∉ current) (absentSecond : second ∉ current) (ahead : Ahead pending first second) :
    Ahead (recompute current pending) first second := by
  have isNew : ∀ name, name ∉ current → name ∉ (firsts pending.contains [] current).1 :=
    fun name away stays => away (mem_firsts_iff.mp stays).1
  have unseen : ∀ name, name ∉ current → name ∉ (firsts pending.contains [] current).2 := by
    intro name away seen
    rcases mem_seen_firsts_iff.mp seen with before | kept
    · cases before
    · exact isNew name away kept
  exact ahead_append_right (isNew first absent) (isNew second absentSecond)
    (ahead_firsts rfl rfl (unseen first absent) (unseen second absentSecond) ahead)

/-- Newcomers that are listed in the order of names are queued in that order. -/
theorem ahead_recompute_newcomers_iff {current pending : List String} (sorted : pending.Pairwise (· ≤ ·))
    {first second : String} (apart : first ≠ second) (absent : first ∉ current) (absentSecond : second ∉ current)
    (arrives : first ∈ pending) (arrivesSecond : second ∈ pending) :
    Ahead (recompute current pending) first second ↔ first < second := by
  refine ⟨?_, fun less =>
    ahead_recompute_of_newcomers absent absentSecond (ahead_of_pairwise sorted arrives arrivesSecond less)⟩
  intro ahead
  rw [← String.not_le]
  intro notLess
  have less : second < first := by
    rw [← String.not_le]
    exact fun atMost => apart (String.le_antisymm atMost notLess)
  exact ahead.asymm
    (ahead_recompute_of_newcomers absentSecond absent (ahead_of_pairwise sorted arrivesSecond arrives less))

/-- In the next queue nobody who stays is farther from the head than in the present one. -/
theorem findIdx?_recompute_le {current pending : List String} {name : String} {place : Nat}
    (found : (current.findIdx? fun other => other == name) = some place) (waits : name ∈ pending) :
    ∃ nearer ≤ place, ((recompute current pending).findIdx? fun other => other == name) = some nearer := by
  have isWanted : pending.contains name = true := by simpa using waits
  have unseen : name ∉ ([] : List String) := List.not_mem_nil
  obtain ⟨nearer, bound, foundNearer⟩ := findIdx?_firsts_le isWanted unseen found
  exact ⟨nearer, bound, by simp [recompute, List.findIdx?_append, foundNearer]⟩

/-- A traversal of names that were all seen keeps nothing. -/
theorem firsts_of_seen {wanted : String → Bool} {seen names : List String} (known : ∀ name ∈ names, name ∈ seen) :
    (firsts wanted seen names).1 = [] := by
  rw [List.eq_nil_iff_forall_not_mem]
  intro name member
  obtain ⟨listed, _, unseen⟩ := mem_firsts_iff.mp member
  exact unseen (known name listed)

/-- A traversal of distinct names that are all wanted and new keeps them all. -/
theorem firsts_of_nodup {wanted : String → Bool} {names : List String} (distinct : names.Nodup)
    (isWanted : ∀ name ∈ names, wanted name = true) :
    ∀ {seen : List String}, (∀ name ∈ names, name ∉ seen) → (firsts wanted seen names).1 = names := by
  induction names with
  | nil => exact fun _ => rfl
  | cons first rest inductionHypothesis =>
      intro seen unseen
      rw [List.nodup_cons] at distinct
      rw [List.forall_mem_cons] at isWanted unseen
      have deeper : ∀ name ∈ rest, name ∉ first :: seen := by
        intro name member known
        rcases List.mem_cons.mp known with rfl | before
        · exact distinct.1 member
        · exact unseen.2 name member before
      rw [firsts, if_pos (by simp [isWanted.1, unseen.1])]
      exact congrArg (first :: ·) (inductionHypothesis distinct.2 isWanted.2 deeper)

/-- A queue that holds exactly the pending names, each of them once, is its own next queue. -/
theorem recompute_of_exact {queue pending : List String} (distinct : queue.Nodup)
    (exact : ∀ name, name ∈ queue ↔ name ∈ pending) : recompute queue pending = queue := by
  have stay : (firsts pending.contains [] queue).1 = queue :=
    firsts_of_nodup distinct (fun name member => by simpa using (exact name).mp member)
      fun name _ => List.not_mem_nil
  have none : (firsts (fun _ => true) (firsts pending.contains [] queue).2 pending).1 = [] := by
    apply firsts_of_seen
    intro name waiting
    rw [mem_seen_firsts_iff, stay]
    exact Or.inr ((exact name).mpr waiting)
  exact (congr (congrArg List.append stay) none).trans (List.append_nil queue)

end Turnstile.Queue
