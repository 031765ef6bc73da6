/-
Module: Turnstile.Proofs.Workspace.Life
Purpose: The queue of a workspace throughout its life: nobody overtakes anybody.
Main exports: Workspace.Sight, Workspace.lived, Workspace.ahead_lived, Workspace.queuePosition?_lived_le,
  Workspace.Orderly
-/
import Turnstile.Proofs.Workspace.Order

/-!
A life of a workspace is a sequence of sights.  At each sight the clock, the missing prerequisites and the
pending runs may be anything, and the status that follows, if there is one, is stored before the next sight.
What one sight keeps between two runs that stay pending, a life keeps.
-/

namespace Turnstile.Workspace

/-- What is observed when the next status of a workspace is decided. -/
structure Sight where
  now : String
  observation : Observation

namespace Sight

/-- Nothing that the workspace refers to is missing. -/
def Healthy (sight : Sight) : Prop :=
  sight.observation.missing = []

/-- The run is pending if the queue moves on at all. -/
def Lists (sight : Sight) (run : String) : Prop :=
  sight.Healthy → run ∈ sight.observation.pending

end Sight

/-- The workspace after the sight: the status that follows, if there is one, is stored. -/
def after (workspace : Workspace) (sight : Sight) : Workspace :=
  { workspace with status := workspace.nextStatus? sight.now sight.observation <|> workspace.status }

/-- The workspace after a sequence of sights. -/
def lived (workspace : Workspace) (sights : List Sight) : Workspace :=
  sights.foldl after workspace

theorem lived_append (workspace : Workspace) (earlier later : List Sight) :
    workspace.lived (earlier ++ later) = (workspace.lived earlier).lived later :=
  List.foldl_append

theorem queue_eq_standing (workspace : Workspace) : workspace.queue = (workspace.status.getD {}).queue := by
  unfold queue
  cases workspace.status <;> rfl

/-- What a workspace stands at after a sight, whether or not that had to be written. -/
theorem standing_after (workspace : Workspace) (sight : Sight) :
    (workspace.after sight).status.getD {} =
      advanced sight.now (workspace.status.getD {}) sight.observation := by
  simp only [after, nextStatus?]
  split
  · rename_i unchanged
    rw [unchanged]
    rfl
  · rfl

/-- The queue after a sight: the next one if nothing is missing, else the same. -/
theorem queue_after (workspace : Workspace) (sight : Sight) :
    (workspace.after sight).queue =
      if sight.observation.missing = [] then Queue.recompute workspace.queue sight.observation.pending
      else workspace.queue := by
  rw [queue_eq_standing, standing_after, advanced, ← queue_eq_standing]
  by_cases healthy : sight.observation.missing = []
  · rw [if_pos healthy, if_pos (List.isEmpty_iff.mpr healthy)]
  · rw [if_neg healthy, if_neg fun empty => healthy (List.isEmpty_iff.mp empty)]

/-! ### One sight -/

theorem queue_after_healthy {workspace : Workspace} {sight : Sight} (healthy : sight.Healthy) :
    (workspace.after sight).queue = Queue.recompute workspace.queue sight.observation.pending :=
  (queue_after workspace sight).trans (if_pos healthy)

theorem queue_after_unhealthy {workspace : Workspace} {sight : Sight} (unhealthy : ¬ sight.Healthy) :
    (workspace.after sight).queue = workspace.queue :=
  (queue_after workspace sight).trans (if_neg unhealthy)

/-- One sight keeps the order of two runs that are pending in it. -/
theorem ahead_after {workspace : Workspace} {sight : Sight} {first second : String}
    (ahead : Queue.Ahead workspace.queue first second) (lists : sight.Lists first)
    (listsSecond : sight.Lists second) : Queue.Ahead (workspace.after sight).queue first second := by
  by_cases healthy : sight.Healthy
  · rw [queue_after_healthy healthy]
    exact Queue.ahead_recompute ahead (lists healthy) (listsSecond healthy)
  · rw [queue_after_unhealthy healthy]
    exact ahead

/-- One sight does not move a run that is pending in it away from the head. -/
theorem queuePosition?_after_le {workspace : Workspace} {sight : Sight} {run : String} {place : Nat}
    (stands : workspace.queuePosition? run = some place) (lists : sight.Lists run) :
    ∃ nearer ≤ place, (workspace.after sight).queuePosition? run = some nearer := by
  unfold queuePosition?
  by_cases healthy : sight.Healthy
  · rw [queue_after_healthy healthy]
    exact Queue.findIdx?_recompute_le stands (lists healthy)
  · rw [queue_after_unhealthy healthy]
    exact ⟨place, Nat.le_refl place, stands⟩

/-! ### A life -/

/-- A life keeps the order of two runs that stay pending. -/
theorem ahead_lived {workspace : Workspace} {first second : String} (sights : List Sight)
    (ahead : Queue.Ahead workspace.queue first second) (lists : ∀ sight ∈ sights, sight.Lists first)
    (listsSecond : ∀ sight ∈ sights, sight.Lists second) :
    Queue.Ahead (workspace.lived sights).queue first second := by
  induction sights generalizing workspace with
  | nil => exact ahead
  | cons sight rest inductionHypothesis =>
      rw [List.forall_mem_cons] at lists listsSecond
      exact inductionHypothesis (ahead_after ahead lists.1 listsSecond.1) lists.2 listsSecond.2

/-- A life does not move a run that stays pending away from the head. -/
theorem queuePosition?_lived_le {workspace : Workspace} {run : String} {place : Nat} (sights : List Sight)
    (stands : workspace.queuePosition? run = some place) (lists : ∀ sight ∈ sights, sight.Lists run) :
    ∃ nearer ≤ place, (workspace.lived sights).queuePosition? run = some nearer := by
  induction sights generalizing workspace place with
  | nil => exact ⟨place, Nat.le_refl place, stands⟩
  | cons sight rest inductionHypothesis =>
      rw [List.forall_mem_cons] at lists
      obtain ⟨between, bound, standsAfter⟩ := queuePosition?_after_le stands lists.1
      obtain ⟨nearer, boundAfter, standsLater⟩ := inductionHypothesis standsAfter lists.2
      exact ⟨nearer, Nat.le_trans boundAfter bound, standsLater⟩

/-- Whoever is at the head and stays pending stays at the head. -/
theorem head?_lived {workspace : Workspace} {run : String} (sights : List Sight)
    (leads : workspace.queue.head? = some run) (lists : ∀ sight ∈ sights, sight.Lists run) :
    (workspace.lived sights).queue.head? = some run := by
  rw [← queuePosition?_eq_zero_iff] at leads ⊢
  obtain ⟨nearer, bound, stands⟩ := queuePosition?_lived_le sights leads lists
  rw [stands, Nat.le_zero.mp bound]

/-- What holds of the queue of a workspace after the earlier sights of its life, and what the later ones
leave of it. -/
structure Orderly (workspace : Workspace) (earlier later : List Sight) : Prop where
  /-- Of two runs that stay pending, the one ahead stays ahead. -/
  not_overtaken : ∀ first second, Queue.Ahead (workspace.lived earlier).queue first second →
    (∀ sight ∈ later, sight.Lists first) → (∀ sight ∈ later, sight.Lists second) →
    Queue.Ahead (workspace.lived (earlier ++ later)).queue first second
  /-- A run that stays pending never gets farther from the head. -/
  position_le : ∀ run place, (workspace.lived earlier).queuePosition? run = some place →
    (∀ sight ∈ later, sight.Lists run) →
    ∃ nearer ≤ place, (workspace.lived (earlier ++ later)).queuePosition? run = some nearer
  /-- The head stays the head as long as it is pending. -/
  head_stays : ∀ run, (workspace.lived earlier).queue.head? = some run →
    (∀ sight ∈ later, sight.Lists run) → (workspace.lived (earlier ++ later)).queue.head? = some run
  /-- With nothing missing, the queue holds exactly the pending names, each of them once. -/
  healthy_exact : ∀ sight : Sight, sight.Healthy →
    ((workspace.lived earlier).after sight).queue.Nodup ∧
      ∀ run, run ∈ ((workspace.lived earlier).after sight).queue ↔ run ∈ sight.observation.pending
  /-- With something missing, the queue is left as it is. -/
  unhealthy_same : ∀ sight : Sight, ¬ sight.Healthy →
    ((workspace.lived earlier).after sight).queue = (workspace.lived earlier).queue

/-- The queue of a workspace is orderly, whatever status it starts with and whatever its life brings. -/
theorem orderly_life (workspace : Workspace) (earlier later : List Sight) :
    Orderly workspace earlier later where
  not_overtaken first second ahead lists listsSecond := by
    rw [lived_append]
    exact ahead_lived later ahead lists listsSecond
  position_le run place stands lists := by
    rw [lived_append]
    exact queuePosition?_lived_le later stands lists
  head_stays run leads lists := by
    rw [lived_append]
    exact head?_lived later leads lists
  healthy_exact sight healthy := by
    rw [queue_after_healthy healthy]
    exact ⟨Queue.nodup_recompute _ _, fun run => Queue.mem_recompute_iff⟩
  unhealthy_same sight unhealthy := queue_after_unhealthy unhealthy

end Turnstile.Workspace
