/-
Module: Turnstile.Proofs.Condition.History
Purpose: What becomes of a list of conditions over a history of recordings, and since when a condition has its status.
Main exports: Condition.Recording, Condition.recorded, Condition.entries, Condition.Edits, Condition.stretch,
  Condition.Dated, Condition.Recorded, Condition.Chronicle, Condition.chronicled
-/
import Mathlib.Data.List.DropRight
import Turnstile.Proofs.Condition.Retention

/-!
A recording looks at one entry only, yet the time it leaves behind is one of the whole history.  The recordings of
a type fall into stretches of one status, whatever is recorded of other types in between.  An entry whose type was
not there at the start has the time at which the latest stretch of its type began: a recording of the same status
goes on with the stretch and keeps the time, and one of another status begins a new stretch and sets it.
-/

namespace Turnstile.Condition

/-! ### One recording -/

/-- The conditions of a type. -/
def entries (type : String) (conditions : List Condition) : List Condition :=
  conditions.filter fun condition => condition.type == type

/-- The change of a list by a recording: the first condition of the type is replaced where it stands, or else a
condition is appended. -/
inductive Edits (now : String) (new : Condition) : List Condition → List Condition → Prop where
  | replaces {before behind : List Condition} {present : Condition}
      (first : ∀ other ∈ before, other.type ≠ new.type) (here : present.type = new.type) :
      Edits now new (before ++ present :: behind) (before ++ present.updated now new :: behind)
  | appends {conditions : List Condition} (absent : ∀ other ∈ conditions, other.type ≠ new.type) :
      Edits now new conditions (conditions ++ [{ new with lastTransitionTime := some now }])

section Recording

variable {now type : String} {new present : Condition} {conditions rest : List Condition}

theorem set_cons_self (same : present.type = new.type) :
    set now new (present :: rest) = present.updated now new :: rest := by
  simp [set, same]

theorem set_cons_of_ne (other : present.type ≠ new.type) :
    set now new (present :: rest) = present :: set now new rest := by
  simp [set, other]

theorem Edits.cons {after : List Condition} (other : present.type ≠ new.type)
    (edits : Edits now new conditions after) : Edits now new (present :: conditions) (present :: after) := by
  cases edits with
  | @replaces before behind found first here =>
      exact @Edits.replaces now new (present :: before) behind found (List.forall_mem_cons.mpr ⟨other, first⟩) here
  | appends absent => exact .appends (List.forall_mem_cons.mpr ⟨other, absent⟩)

/-- A recording touches one place of the list. -/
theorem edits_set (now : String) (new : Condition) (conditions : List Condition) :
    Edits now new conditions (set now new conditions) := by
  induction conditions with
  | nil => exact .appends (List.forall_mem_nil _)
  | cons present rest inductionHypothesis =>
      by_cases same : present.type = new.type
      · rw [set_cons_self same]
        exact @Edits.replaces now new [] rest present (List.forall_mem_nil _) same
      · rw [set_cons_of_ne same]
        exact inductionHypothesis.cons same

theorem entries_cons_self (same : present.type = type) :
    entries type (present :: rest) = present :: entries type rest := by
  simp [entries, same]

theorem entries_cons_of_ne (other : present.type ≠ type) : entries type (present :: rest) = entries type rest := by
  simp [entries, other]

theorem entries_eq_nil_iff : entries type conditions = [] ↔ type ∉ conditions.map Condition.type := by
  simp [entries, List.filter_eq_nil_iff]

theorem Edits.entries_of_ne {after : List Condition} (edits : Edits now new conditions after)
    (other : new.type ≠ type) : entries type after = entries type conditions := by
  cases edits with
  | @replaces before behind present _ here =>
      have apart : present.type ≠ type := fun same => other (here.symm.trans same)
      have stays : (present.updated now new).type ≠ type := fun same => other ((type_updated here).symm.trans same)
      simp [entries, apart, stays]
  | appends _ => simp [entries, other]

/-- A recording leaves the conditions of every other type alone. -/
theorem entries_set_of_ne (other : new.type ≠ type) :
    entries type (set now new conditions) = entries type conditions :=
  (edits_set now new conditions).entries_of_ne other

/-- To the conditions of its type, a recording does what it would do if they stood alone. -/
theorem entries_set_self : entries new.type (set now new conditions) = set now new (entries new.type conditions) := by
  induction conditions with
  | nil => exact entries_cons_self rfl
  | cons present rest inductionHypothesis =>
      by_cases same : present.type = new.type
      · rw [set_cons_self same, entries_cons_self (type_updated same), entries_cons_self same, set_cons_self same]
      · rw [set_cons_of_ne same, entries_cons_of_ne same, entries_cons_of_ne same, inductionHypothesis]

/-- No type that is there gets more conditions, or fewer. -/
theorem length_entries_set (member : type ∈ conditions.map Condition.type) :
    (entries type (set now new conditions)).length = (entries type conditions).length := by
  by_cases other : new.type = type
  · subst other
    rw [entries_set_self]
    cases found : entries new.type conditions with
    | nil => exact absurd member (entries_eq_nil_iff.mp found)
    | cons present rest =>
        have same : present.type = new.type := by
          have listed : present ∈ entries new.type conditions := found ▸ List.mem_cons_self
          simpa [entries] using (List.mem_filter.mp listed).2
        rw [set_cons_self same, List.length_cons, List.length_cons]
  · rw [entries_set_of_ne other]

/-- A recording that flips the status sets the time. -/
theorem time_updated_of_flips (flips : present.status ≠ new.status) :
    (present.updated now new).lastTransitionTime = some now := by
  have differs : ¬present.saysSame new = true := fun same => flips (eq_of_saysSame same).1
  rw [updated, if_neg differs, if_neg (by simpa using flips)]

/-- A recorded condition has the status that was observed. -/
theorem status_updated (now : String) (present new : Condition) : (present.updated now new).status = new.status :=
  (eq_of_saysSame (saysSame_updated now present new)).1

end Recording

/-! ### Histories -/

/-- A recording: what is observed, and what the clock shows then. -/
structure Recording where
  now : String
  new : Condition

/-- The list after a history of recordings. -/
def recorded (history : List Recording) (start : List Condition) : List Condition :=
  history.foldl (fun conditions recording => set recording.now recording.new conditions) start

/-- The recordings of a type. -/
def about (type : String) (history : List Recording) : List Recording :=
  history.filter fun recording => recording.new.type == type

/-- The latest unbroken stretch of recordings of a type with a status.  Recordings of other types break no stretch. -/
def stretch (type status : String) (history : List Recording) : List Recording :=
  (about type history).rtakeWhile fun recording => recording.new.status == status

section History

variable {type status : String} {recording : Recording} {history : List Recording} {start : List Condition}

theorem recorded_concat :
    recorded (history ++ [recording]) start = set recording.now recording.new (recorded history start) := by
  simp [recorded]

theorem about_concat_self (same : recording.new.type = type) :
    about type (history ++ [recording]) = about type history ++ [recording] := by
  simp [about, same]

theorem about_concat_of_ne (other : recording.new.type ≠ type) :
    about type (history ++ [recording]) = about type history := by
  simp [about, other]

/-- A recording of another type is no part of a stretch and breaks none. -/
theorem stretch_concat_of_ne (other : recording.new.type ≠ type) :
    stretch type status (history ++ [recording]) = stretch type status history := by
  rw [stretch, about_concat_of_ne other, ← stretch]

/-- A recording goes on with the stretch of its type and status. -/
theorem stretch_concat_self :
    stretch recording.new.type recording.new.status (history ++ [recording]) =
      stretch recording.new.type recording.new.status history ++ [recording] := by
  rw [stretch, about_concat_self rfl, List.rtakeWhile_concat, if_pos (beq_self_eq_true _), ← stretch]

/-- While one stretch lasts, there is none of another status. -/
theorem stretch_eq_nil_of_ne {other : String} (differs : other ≠ status) (lasts : stretch type status history ≠ []) :
    stretch type other history = [] := by
  rw [stretch, ne_eq, List.rtakeWhile_eq_nil_iff] at lasts
  rw [stretch, List.rtakeWhile_eq_nil_iff]
  intro nonempty hasOther
  apply lasts
  intro _ hasStatus
  exact differs ((beq_iff_eq.mp hasOther).symm.trans (beq_iff_eq.mp hasStatus))

/-- The conditions of a type that was not there at the start: none as long as nothing of the type is recorded, and then
one with the time at which the latest stretch of its status began. -/
inductive Dated (type : String) (history : List Recording) : List Condition → Prop where
  | absent (unrecorded : about type history = []) : Dated type history []
  | since {present : Condition} {opening : Recording} (same : present.type = type)
      (opens : (stretch type present.status history).head? = some opening)
      (time : present.lastTransitionTime = some opening.now) : Dated type history [present]

theorem dated_concat_of_ne {conditions : List Condition} (other : recording.new.type ≠ type)
    (dated : Dated type history conditions) : Dated type (history ++ [recording]) conditions := by
  cases dated with
  | absent unrecorded =>
      apply Dated.absent
      rw [about_concat_of_ne other, unrecorded]
  | since same opens time =>
      apply Dated.since same _ time
      rw [stretch_concat_of_ne other, opens]

/-- A recording of the type goes on with the stretch of the present condition, or begins a new one. -/
theorem dated_concat_self {conditions : List Condition} (dated : Dated recording.new.type history conditions) :
    Dated recording.new.type (history ++ [recording]) (set recording.now recording.new conditions) := by
  cases dated with
  | absent unrecorded =>
      have first : stretch recording.new.type recording.new.status history = [] := by
        rw [stretch, unrecorded, List.rtakeWhile_nil]
      have opens :
          (stretch recording.new.type recording.new.status (history ++ [recording])).head? = some recording := by
        rw [stretch_concat_self, first, List.nil_append, List.head?_cons]
      exact @Dated.since _ _ { recording.new with lastTransitionTime := some recording.now } recording rfl opens rfl
  | @since present opening same opens time =>
      rw [set_cons_self same]
      by_cases goesOn : present.status = recording.new.status
      · have kept : (present.updated recording.now recording.new).status = present.status := by
          rw [status_updated, goesOn]
        have stillOpens : (stretch recording.new.type (present.updated recording.now recording.new).status
            (history ++ [recording])).head? = some opening := by
          rw [status_updated, stretch_concat_self, List.head?_append, ← goesOn, opens, Option.some_or]
        exact .since (type_updated same) stillOpens ((time_updated kept).trans time)
      · have lasts : stretch recording.new.type present.status history ≠ [] := by
          intro nothing
          rw [nothing] at opens
          cases opens
        have opensNow : (stretch recording.new.type (present.updated recording.now recording.new).status
            (history ++ [recording])).head? = some recording := by
          rw [status_updated, stretch_concat_self, stretch_eq_nil_of_ne (Ne.symm goesOn) lasts, List.nil_append,
            List.head?_cons]
        exact .since (type_updated same) opensNow (time_updated_of_flips goesOn)

/-- Whatever the history, a type that was not there at the start is dated by it. -/
theorem dated_recorded (absent : type ∉ start.map Condition.type) (history : List Recording) :
    Dated type history (entries type (recorded history start)) := by
  induction history using List.reverseRecOn with
  | nil =>
      rw [recorded, List.foldl_nil, entries_eq_nil_iff.mpr absent]
      exact .absent rfl
  | append_singleton history recording inductionHypothesis =>
      rw [recorded_concat]
      by_cases same : recording.new.type = type
      · subst same
        rw [entries_set_self]
        exact dated_concat_self inductionHypothesis
      · rw [entries_set_of_ne same]
        exact dated_concat_of_ne same inductionHypothesis

/-- The types of the start stay. -/
theorem mem_types_recorded (member : type ∈ start.map Condition.type) (history : List Recording) :
    type ∈ (recorded history start).map Condition.type := by
  induction history using List.reverseRecOn with
  | nil => exact member
  | append_singleton history recording inductionHypothesis =>
      rw [recorded_concat, map_type_set]
      split
      · exact inductionHypothesis
      · exact List.mem_append_left _ inductionHypothesis

/-- A type of the start has as many conditions after any history. -/
theorem length_entries_recorded (member : type ∈ start.map Condition.type) (history : List Recording) :
    (entries type (recorded history start)).length = (entries type start).length := by
  induction history using List.reverseRecOn with
  | nil => rfl
  | append_singleton history recording inductionHypothesis =>
      rw [recorded_concat, length_entries_set (mem_types_recorded member history), inductionHypothesis]

theorem nodup_types_recorded (distinct : (start.map Condition.type).Nodup) (history : List Recording) :
    ((recorded history start).map Condition.type).Nodup := by
  induction history using List.reverseRecOn with
  | nil => exact distinct
  | append_singleton history recording inductionHypothesis =>
      rw [recorded_concat]
      exact nodup_map_type_set _ _ inductionHypothesis

end History

/-! ### The chronicle of a list -/

/-- What one recording does to a list, and what it tells about that. -/
structure Recorded (recording : Recording) (before after : List Condition) : Prop where
  /-- It tells whether the list changed. -/
  tells : changes recording.new before = true ↔ after ≠ before
  /-- It changes one place at most: that of the first condition of its type, or the end. -/
  place : Edits recording.now recording.new before after
  /-- The conditions of every other type are left alone. -/
  others : ∀ type, type ≠ recording.new.type → entries type after = entries type before
  /-- Every condition stays in its place; a new type comes last. -/
  order : after.map Condition.type =
    if recording.new.type ∈ before.map Condition.type then before.map Condition.type
    else before.map Condition.type ++ [recording.new.type]
  /-- A type that is there gets no more conditions. -/
  number : ∀ type ∈ before.map Condition.type, (entries type after).length ≤ (entries type before).length
  /-- The first condition of the type then says what was observed. -/
  holds : ∃ present, find? after recording.new.type = some present ∧ present.status = recording.new.status ∧
    present.reason = recording.new.reason ∧ present.message = recording.new.message

theorem recorded_set (recording : Recording) (conditions : List Condition) :
    Recorded recording conditions (set recording.now recording.new conditions) where
  tells := by
    rw [ne_eq, set_eq_self_iff, Bool.not_eq_false]
  place := edits_set _ _ _
  others := fun _ other => entries_set_of_ne other.symm
  order := map_type_set _ _ _
  number := fun _ member => (length_entries_set member).le
  holds := by
    obtain ⟨present, found, same⟩ := find?_set_self recording.now recording.new conditions
    exact ⟨present, found, eq_of_saysSame same⟩

/-- What a history makes of a list. -/
structure Chronicle (start : List Condition) (history : List Recording) : Prop where
  /-- Every recording of it does what a recording does, to the list that those before it have left. -/
  each : ∀ earlier recording later, history = earlier ++ recording :: later →
    Recorded recording (recorded earlier start) (recorded (earlier ++ [recording]) start)
  /-- No type of the start gets more conditions. -/
  number : ∀ type ∈ start.map Condition.type,
    (entries type (recorded history start)).length = (entries type start).length
  /-- Distinct types stay distinct. -/
  distinct : (start.map Condition.type).Nodup → ((recorded history start).map Condition.type).Nodup
  /-- A type that was not there at the start has the time at which the latest stretch of its status began. -/
  dated : ∀ type, type ∉ start.map Condition.type → Dated type history (entries type (recorded history start))

/-- Every history of recordings leaves such a chronicle, whatever the clock shows at each of them. -/
theorem chronicled (start : List Condition) (history : List Recording) : Chronicle start history where
  each := by
    intro earlier recording later _
    rw [recorded_concat]
    exact recorded_set recording (recorded earlier start)
  number := fun _ member => length_entries_recorded member history
  distinct := fun distinct => nodup_types_recorded distinct history
  dated := fun _ absent => dated_recorded absent history

-- A status that flips and flips back begins a new stretch; a new message and another type do not.
example :
    let history : List Recording :=
      [⟨"1", observed "Ready" true "Up" ""⟩, ⟨"2", observed "Ready" false "Down" ""⟩,
        ⟨"3", observed "Ready" true "Up" ""⟩, ⟨"4", observed "Healthy" true "Fine" ""⟩,
        ⟨"5", observed "Ready" true "Up" "again"⟩]
    (entries "Ready" (recorded history [])).map Condition.lastTransitionTime = [some "3"] := by
  decide

end Turnstile.Condition
