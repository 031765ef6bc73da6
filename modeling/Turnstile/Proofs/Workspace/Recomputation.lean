/-
Module: Turnstile.Proofs.Workspace.Recomputation
Purpose: The next queue of a workspace as one expression, and that it stays as it is.
Main exports: Queue.firsts_eq_eraseDups, Queue.recompute_eq, Queue.Recomputed, Queue.recomputed
-/
import Turnstile.Proofs.Workspace.Order

/-!
A traversal remembers what it has kept, and so do the two traversals of one recomputation together.  What they
keep can be told without that memory: the present queue without what is no longer pending, then the pending names
without the present queue, each name where it occurs first.
-/

namespace Turnstile.Queue

/-- A traversal keeps the first occurrences of what is wanted and was not seen before. -/
theorem firsts_eq_eraseDups (wanted : String → Bool) (names : List String) :
    ∀ seen : List String,
      (firsts wanted seen names).1 = (names.filter fun name => wanted name && !seen.contains name).eraseDups := by
  induction names with
  | nil => exact fun _ => rfl
  | cons first rest inductionHypothesis =>
      intro seen
      unfold firsts
      rw [List.filter_cons]
      split
      · rw [List.eraseDups_cons, List.filter_filter]
        change first :: (firsts wanted (first :: seen) rest).1 = _
        rw [inductionHypothesis]
        -- From here on the name counts as seen, which is to say that it is erased from the rest.
        congr 3
        funext name
        rw [List.contains_cons, Bool.not_or, Bool.and_left_comm]
      · exact inductionHypothesis seen

/-- The names that the first of the two traversals has seen are those of the present queue that are pending. -/
theorem mem_seen_survivors_iff {current pending : List String} {name : String} :
    name ∈ (firsts pending.contains [] current).2 ↔ name ∈ current ∧ name ∈ pending := by
  rw [mem_seen_firsts_iff, mem_firsts_iff]
  simp

/-- The next queue is what stays of the present one, followed by what is new, each name where it occurs first. -/
theorem recompute_eq (current pending : List String) :
    recompute current pending =
      (current.filter fun name => name ∈ pending).eraseDups ++
        (pending.filter fun name => name ∉ current).eraseDups := by
  have survivors : (firsts pending.contains [] current).1 =
      (current.filter fun name => name ∈ pending).eraseDups := by
    rw [firsts_eq_eraseDups]
    simp
  have newcomers : (firsts (fun _ => true) (firsts pending.contains [] current).2 pending).1 =
      (pending.filter fun name => name ∉ current).eraseDups := by
    rw [firsts_eq_eraseDups]
    congr 1
    apply List.filter_congr
    intro name waits
    simp [mem_seen_survivors_iff, waits]
  rw [← survivors, ← newcomers]
  rfl

/-- What the next queue is, and what it comes to when the pending names are listed again. -/
structure Recomputed (current pending : List String) : Prop where
  /-- Nobody stands in it twice. -/
  distinct : (recompute current pending).Nodup
  /-- It holds the pending names and no others. -/
  exact : ∀ name, name ∈ recompute current pending ↔ name ∈ pending
  /-- Those who stay keep their order, and newcomers follow in the order in which they are listed. -/
  order : recompute current pending =
    (current.filter fun name => name ∈ pending).eraseDups ++
      (pending.filter fun name => name ∉ current).eraseDups
  /-- It is the next queue of itself, however the same names are listed. -/
  settled : ∀ listed : List String, (∀ name, name ∈ listed ↔ name ∈ pending) →
    recompute (recompute current pending) listed = recompute current pending

/-- The next queue is exactly what the present one and the pending names make it. -/
theorem recomputed (current pending : List String) : Recomputed current pending where
  distinct := nodup_recompute current pending
  exact := fun _ => mem_recompute_iff
  order := recompute_eq current pending
  settled := by
    intro listed same
    apply recompute_of_exact (nodup_recompute current pending)
    intro name
    rw [mem_recompute_iff, same]

example : recompute ["b", "gone", "a", "b"] ["c", "a", "b", "c"] = ["b", "a", "c"] := by decide

end Turnstile.Queue
