/-
Module: Turnstile.Proofs.Turn.Succession
Purpose: In which order the runs of a workspace stand in its queue, whatever has happened until it was stored.
Main exports: History.Pending, History.Precedes, History.Parted, Turn.QueueStep, Turn.Queued,
  Turn.Queued.mem_queue_iff, Turn.Queued.mem_of_pending, Turn.Queued.ahead_iff
-/
import Turnstile.Proofs.Turn.Lawful
import Turnstile.Proofs.Workspace.Order

/-!
A queue that is written is recomputed from the queue that stood already when the pending runs were listed, and
the list comes in the order of names.  So every stored queue names exactly the runs that were pending at some
moment, and a run that once stood in a queue stands in every later one while it is pending.

A run that was submitted first can therefore not come into the queue after the other one.  It is ahead of it if
it came before it.  If both came at the same time, their names decide.
-/

namespace Turnstile

namespace History

/-- A run of this name is stored that is labelled for the workspace and not over. -/
def Pending (history : History) (space workspace name : String) : Prop :=
  ∃ run, history.present.run? space name = some run ∧ run.IsFor workspace ∧ run.isCompleted = false

/-- At some moment a run of the first name had been stored, and none of the second name. -/
def Precedes (history : History) (space first second : String) : Prop :=
  ∃ moment : History, moment <:+ history ∧ ¬ moment.Unused ⟨.run, space, first⟩ ∧
    moment.Unused ⟨.run, space, second⟩

/-- Some stored queue of the workspace named the first run without the second one. -/
def Parted (history : History) (space workspace first second : String) : Prop :=
  ∃ cluster ∈ history, ∃ stored, cluster.workspace? space workspace = some stored ∧
    first ∈ stored.queue ∧ second ∉ stored.queue

variable {history : History} {space workspace first second : String}

theorem Pending.knew (pending : history.Pending space workspace first) : history.Knew space workspace first := by
  obtain ⟨run, stored, label, _⟩ := pending
  obtain ⟨object, found, _⟩ := Cluster.find?_of_run? stored
  exact ⟨history.present, present_mem found, run, stored, label⟩

theorem Precedes.ne (precedes : history.Precedes space first second) : first ≠ second := by
  obtain ⟨moment, _, known, unused⟩ := precedes
  rintro rfl
  exact known unused

/-- Whoever precedes a run was known as soon as that run was. -/
theorem Precedes.not_unused (precedes : history.Precedes space first second) {moment : History}
    (before : moment <:+ history) (known : ¬ moment.Unused ⟨.run, space, second⟩) :
    ¬ moment.Unused ⟨.run, space, first⟩ := by
  obtain ⟨past, pastBefore, firstKnown, secondUnused⟩ := precedes
  rcases List.suffix_or_suffix_of_suffix pastBefore before with earlier | later
  · exact fun unused => firstKnown (unused.of_suffix earlier)
  · exact absurd (secondUnused.of_suffix later) known

/-- Whoever precedes a run that was known already preceded it before. -/
theorem Precedes.of_cons {next : Cluster} (precedes : History.Precedes (next :: history) space first second)
    (known : ¬ history.Unused ⟨.run, space, second⟩) : history.Precedes space first second := by
  obtain ⟨moment, before, firstKnown, secondUnused⟩ := precedes
  rcases List.suffix_cons_iff.mp before with same | deeper
  · rw [same] at secondUnused
    exact absurd (secondUnused.of_suffix (List.suffix_cons _ _)) known
  · exact ⟨moment, deeper, firstKnown, secondUnused⟩

/-- A queue that names both runs parts nobody. -/
theorem parted_cons_iff {next : Cluster} {stored : Workspace}
    (isNow : next.workspace? space workspace = some stored) (queued : second ∈ stored.queue) :
    Parted (next :: history) space workspace first second ↔ history.Parted space workspace first second := by
  constructor
  · rintro ⟨cluster, member, past, was, named, unnamed⟩
    rcases List.mem_cons.mp member with here | there
    · rw [here, isNow] at was
      cases was
      exact absurd queued unnamed
    · exact ⟨cluster, there, past, was, named, unnamed⟩
  · rintro ⟨cluster, member, past⟩
    exact ⟨cluster, List.mem_cons_of_mem next member, past⟩

end History

namespace Turn

/-- What the queue of a stored workspace may become: it stays, or it is recomputed from a list of the runs that
were pending at a moment since which the workspace has stood as it does. -/
inductive QueueStep (history : History) (space name : String) (before after : Workspace) : Prop where
  | kept (same : after.queue = before.queue)
  | moved (moment : History) (pending : List String) (past : moment <:+ history)
      (steady : ∀ later : History, moment <:+ later → later <:+ history →
        later.present.workspace? space name = some before)
      (names : ∀ run, run ∈ pending ↔ moment.Pending space name run)
      (sorted : pending.Pairwise (· ≤ ·))
      (next : after.queue = Queue.recompute before.queue pending)

/-- A history of legal steps that write queues in this way only. -/
inductive Queued (space : String) : History → Prop where
  | start : Queued space []
  | step {history : History} {next : Cluster} (queued : Queued space history)
      (legal : Legal space history next)
      (queues : ∀ name before after, history.present.workspace? space name = some before →
        next.workspace? space name = some after → QueueStep history space name before after) :
      Queued space (next :: history)

/-- A run that is pending now and was known then was pending then. -/
theorem Lawful.pending_of_later {space workspace name : String} {history moment : History}
    (lawful : Lawful space history) (before : moment <:+ history) (known : ¬ moment.Unused ⟨.run, space, name⟩)
    (pending : history.Pending space workspace name) : moment.Pending space workspace name := by
  obtain ⟨run, stored, label, unfinished⟩ := pending
  obtain ⟨past, pastStored, sameLabel, completed⟩ := lawful.traced before known stored
  refine ⟨past, pastStored, sameLabel.symm.trans label, ?_⟩
  cases finished : past.isCompleted with
  | false => rfl
  | true =>
      rw [completed finished] at unfinished
      cases unfinished

namespace Queued

variable {space : String} {history earlier : History}

theorem lawful (queued : Queued space history) : Lawful space history := by
  induction queued with
  | start => exact .start
  | step queued legal queues inductionHypothesis => exact inductionHypothesis.step legal

theorem suffix (queued : Queued space history) (before : earlier <:+ history) : Queued space earlier := by
  induction queued with
  | start =>
      rw [List.suffix_nil.mp before]
      exact .start
  | step queued legal queues inductionHypothesis =>
      rcases List.suffix_cons_iff.mp before with same | deeper
      · rw [same]
        exact queued.step legal queues
      · exact inductionHypothesis deeper

/-- A stored queue names exactly the runs that were pending at some moment. -/
theorem mem_queue_iff (queued : Queued space history) {name : String} {workspace : Workspace}
    (stored : history.present.workspace? space name = some workspace) :
    ∃ moment : History, moment <:+ history ∧
      ∀ run, run ∈ workspace.queue ↔ moment.Pending space name run := by
  induction queued generalizing workspace with
  | start => cases stored
  | @step history next queued legal queues inductionHypothesis =>
      rcases legal.workspaces name workspace stored with ⟨_, empty⟩ | ⟨before, was, _⟩
      · refine ⟨[], List.nil_suffix, ?_⟩
        intro run
        rw [empty]
        constructor
        · intro member
          cases member
        · rintro ⟨_, impossible, _⟩
          cases impossible
      · cases queues name before workspace was stored with
        | kept same =>
            obtain ⟨moment, past, names⟩ := inductionHypothesis was
            exact ⟨moment, past.trans (List.suffix_cons _ _), fun run => same ▸ names run⟩
        | moved moment pending past steady names sorted recomputed =>
            refine ⟨moment, past.trans (List.suffix_cons _ _), ?_⟩
            intro run
            rw [recomputed, Queue.mem_recompute_iff]
            exact names run

/-- A run that stood in a queue stands in every later one while it is pending. -/
theorem mem_of_pending (queued : Queued space history) {name run : String} {old workspace : Workspace}
    (before : earlier <:+ history) (was : earlier.present.workspace? space name = some old)
    (stood : run ∈ old.queue) (stored : history.present.workspace? space name = some workspace)
    (pending : history.Pending space name run) : run ∈ workspace.queue := by
  induction queued generalizing workspace with
  | start => cases stored
  | @step history next queued legal queues inductionHypothesis =>
      rcases List.suffix_cons_iff.mp before with same | deeper
      · rw [same] at was
        cases was.symm.trans stored
        exact stood
      · have knew := Lawful.knew_of_suffix deeper ((queued.lawful.suffix deeper).knew_of_mem_queue was stood)
        rcases legal.workspaces name workspace stored with ⟨unused, _⟩ | ⟨previous, wasStored, _⟩
        · obtain ⟨object, found, _⟩ := Cluster.find?_of_workspace? was
          exact absurd (unused.of_suffix deeper) (History.not_unused_of_mem (History.present_mem found) found)
        · have wasPending := (queued.lawful.step legal).pending_of_later (List.suffix_cons next history)
            (Lawful.not_unused_of_knew knew) pending
          have stands := inductionHypothesis deeper wasStored wasPending
          cases queues name previous workspace wasStored stored with
          | kept same => exact same ▸ stands
          | moved moment listed past steady names sorted recomputed =>
              have stoodThen := steady moment (List.suffix_refl _) past
              have known := (queued.lawful.suffix past).knew_of_mem_queue stoodThen stands
              rw [recomputed, Queue.mem_recompute_iff, names]
              exact queued.lawful.pending_of_later past (Lawful.not_unused_of_knew known) wasPending

/-- A run that is listed anew has not stood in any queue before. -/
theorem not_mem_of_newcomer (queued : Queued space history) {name run : String} {workspace : Workspace}
    {moment : History} (past : moment <:+ history)
    (steady : ∀ later : History, moment <:+ later → later <:+ history →
      later.present.workspace? space name = some workspace)
    (pending : moment.Pending space name run) (absent : run ∉ workspace.queue) {cluster : Cluster}
    (member : cluster ∈ history) {old : Workspace} (was : cluster.workspace? space name = some old) :
    run ∉ old.queue := by
  intro stood
  obtain ⟨newer, older, rfl⟩ := List.append_of_mem member
  have before : cluster :: older <:+ newer ++ cluster :: older := List.suffix_append newer _
  rcases List.suffix_or_suffix_of_suffix before past with since | until'
  · exact absent ((queued.suffix past).mem_of_pending since was stood (steady moment (List.suffix_refl _) past)
      pending)
  · cases was.symm.trans (steady (cluster :: older) until' before)
    exact absent stood

/-- A run cannot be listed anew after one that it precedes: it was pending when that one was listed. -/
theorem mem_of_precedes (queued : Queued space history) {name first second : String} {workspace : Workspace}
    (stored : history.present.workspace? space name = some workspace) {final : History}
    (before : history <:+ final) (precedes : final.Precedes space first second)
    (pending : history.Pending space name first) (stands : second ∈ workspace.queue) :
    first ∈ workspace.queue := by
  obtain ⟨moment, past, names⟩ := queued.mem_queue_iff stored
  have known := Lawful.not_unused_of_knew ((names second).mp stands).knew
  exact (names first).mpr
    (queued.lawful.pending_of_later past (precedes.not_unused (past.trans before) known) pending)

/-- Whoever a run that is listed anew precedes comes into the queue with it. -/
theorem newcomers_of_precedes (queued : Queued space history) {name first second : String} {workspace : Workspace}
    {moment : History} (past : moment <:+ history)
    (steady : ∀ later : History, moment <:+ later → later <:+ history →
      later.present.workspace? space name = some workspace)
    (pending : moment.Pending space name first) (absent : first ∉ workspace.queue) {final : History}
    (before : history <:+ final) (precedes : final.Precedes space first second) :
    second ∉ workspace.queue ∧ ¬ history.Parted space name first second := by
  constructor
  · exact fun stands => absent ((queued.suffix past).mem_of_precedes (steady moment (List.suffix_refl _) past)
      (past.trans before) precedes pending stands)
  · rintro ⟨cluster, member, old, was, stood, _⟩
    exact queued.not_mem_of_newcomer past steady pending absent member was stood

/-- Of two runs in a stored queue the one that was submitted first is ahead exactly if it stood in a queue without
the other one, or its name comes first. -/
theorem ahead_iff (queued : Queued space history) {name first second : String} {workspace : Workspace}
    (stored : history.present.workspace? space name = some workspace)
    (precedes : history.Precedes space first second) (stands : first ∈ workspace.queue)
    (standsSecond : second ∈ workspace.queue) :
    Queue.Ahead workspace.queue first second ↔
      history.Parted space name first second ∨ first < second := by
  induction queued generalizing workspace with
  | start => cases stored
  | @step history next queued legal queues inductionHypothesis =>
      have isNow : next.workspace? space name = some workspace := stored
      rw [History.parted_cons_iff isNow standsSecond]
      rcases legal.workspaces name workspace stored with ⟨_, empty⟩ | ⟨before, was, _⟩
      · rw [empty] at stands
        cases stands
      · have earlierPrecedes (member : second ∈ before.queue) : history.Precedes space first second :=
          precedes.of_cons (Lawful.not_unused_of_knew (queued.lawful.knew_of_mem_queue was member))
        cases queues name before workspace was stored with
        | kept same =>
            rw [same] at stands standsSecond ⊢
            exact inductionHypothesis was (earlierPrecedes standsSecond) stands standsSecond
        | moved moment pending past steady names sorted recomputed =>
            rw [recomputed, Queue.mem_recompute_iff] at stands standsSecond
            rw [recomputed]
            by_cases stood : first ∈ before.queue
            · by_cases stoodSecond : second ∈ before.queue
              · rw [Queue.ahead_recompute_iff precedes.ne stood stoodSecond stands standsSecond]
                exact inductionHypothesis was (earlierPrecedes stoodSecond) stood stoodSecond
              · obtain ⟨object, found, _⟩ := Cluster.find?_of_workspace? was
                have parted : history.Parted space name first second :=
                  ⟨history.present, History.present_mem found, before, was, stood, stoodSecond⟩
                exact iff_of_true (Queue.ahead_recompute_of_newcomer stood stands stoodSecond standsSecond)
                  (Or.inl parted)
            · obtain ⟨stoodNotSecond, unparted⟩ := queued.newcomers_of_precedes past steady
                ((names first).mp stands) stood (List.suffix_cons next history) precedes
              rw [or_iff_right unparted]
              exact Queue.ahead_recompute_newcomers_iff sorted precedes.ne stood stoodNotSecond stands standsSecond

end Queued

end Turn

end Turnstile
