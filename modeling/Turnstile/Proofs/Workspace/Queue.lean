/-
Module: Turnstile.Proofs.Workspace.Queue
Purpose: Which names the next queue of a workspace holds, and who leads it.
Main exports: Queue.mem_recompute, Queue.head?_recompute, Workspace.queuePosition?_eq_zero_iff,
  Workspace.queue_nextStatus?
-/
import Turnstile.Workspace.Progress

/-!
The next queue holds pending names only, and whoever leads the queue and is still pending leads the next one.
-/

namespace Turnstile

namespace Queue

/-- A traversal keeps what is wanted and was not seen before. -/
theorem mem_firsts_iff {wanted : String → Bool} {names : List String} {name : String} :
    ∀ {seen : List String},
      name ∈ (firsts wanted seen names).1 ↔ name ∈ names ∧ wanted name = true ∧ name ∉ seen := by
  induction names with
  | nil => simp [firsts]
  | cons first rest inductionHypothesis =>
      intro seen
      unfold firsts
      split
      · rename_i kept
        simp only [Bool.and_eq_true, Bool.not_eq_true', List.contains_eq_mem, decide_eq_false_iff_not] at kept
        by_cases here : name = first
        · subst here
          simp [kept]
        · simp [inductionHypothesis, here]
      · rename_i dropped
        simp only [Bool.and_eq_true, Bool.not_eq_true', List.contains_eq_mem, decide_eq_false_iff_not,
          not_and, Decidable.not_not] at dropped
        rw [inductionHypothesis, List.mem_cons]
        constructor
        · exact fun met => ⟨Or.inr met.1, met.2⟩
        · rintro ⟨here | there, isWanted, unseen⟩
          · exact absurd (dropped (here ▸ isWanted)) (here ▸ unseen)
          · exact ⟨there, isWanted, unseen⟩

/-- The next queue holds pending names only. -/
theorem mem_recompute {current pending : List String} {name : String}
    (member : name ∈ recompute current pending) : name ∈ pending := by
  rcases List.mem_append.mp member with survivor | newcomer
  · simpa using (mem_firsts_iff.mp survivor).2.1
  · exact (mem_firsts_iff.mp newcomer).1

/-- Whoever leads the queue and is still pending leads the next queue. -/
theorem head?_recompute {current pending : List String} {name : String} (leads : current.head? = some name)
    (waiting : name ∈ pending) : (recompute current pending).head? = some name := by
  cases current with
  | nil => cases leads
  | cons first rest =>
      cases leads
      simp [recompute, firsts, waiting]

end Queue

namespace Workspace

/-- Place zero is that of the head of the queue. -/
theorem queuePosition?_eq_zero_iff {workspace : Workspace} {name : String} :
    workspace.queuePosition? name = some 0 ↔ workspace.queue.head? = some name := by
  unfold queuePosition?
  cases workspace.queue with
  | nil => simp
  | cons head rest =>
      rw [List.findIdx?_cons, List.head?_cons]
      by_cases same : head = name
      · simp [same]
      · simp [same]

/-- A status that is to be written is the one that follows from the observation. -/
theorem eq_advanced_of_nextStatus? {now : String} {workspace : Workspace} {observation : Observation}
    {status : WorkspaceStatus} (planned : workspace.nextStatus? now observation = some status) :
    status = advanced now (workspace.status.getD {}) observation := by
  simp only [nextStatus?] at planned
  split at planned
  · cases planned
  · exact (Option.some.inj planned).symm

/-- The queue that is written: the present one while something is missing, and the next one otherwise. -/
theorem queue_nextStatus? {now : String} {workspace : Workspace} {observation : Observation}
    {status : WorkspaceStatus} (planned : workspace.nextStatus? now observation = some status) :
    status.queue = workspace.queue ∨
      observation.missing = [] ∧ status.queue = Queue.recompute workspace.queue observation.pending := by
  have standing : (workspace.status.getD {}).queue = workspace.queue := by
    unfold queue
    cases workspace.status <;> rfl
  rw [eq_advanced_of_nextStatus? planned, advanced]
  split
  · rename_i complete
    exact Or.inr ⟨List.isEmpty_iff.mp complete, by rw [standing]⟩
  · exact Or.inl standing

end Workspace

end Turnstile
