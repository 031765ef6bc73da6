/-
Module: Turnstile.Proofs.Cluster.History
Purpose: The clusters that have been, what is stored in them, and how a request may end.
Main exports: History, History.present, Cluster.run?, Cluster.workspace?, Cluster.pod?, Reply, Reply.effect,
  Reply.of_get, History.Served, History.creations
-/
import Turnstile.Pod
import Turnstile.Proofs.Cluster.Effect

/-!
A history lists the clusters that have been, the latest first, and starts from the empty cluster.  A request is
served at the present cluster.  It is answered, or it fails before it reaches the server, or its answer is lost
on the way back; a failure of the last two kinds never claims that an object does not exist.
-/

namespace Turnstile

/-- The clusters that have been, the latest first. -/
abbrev History : Type :=
  List Cluster

/-- The latest cluster, the empty one at the start. -/
def History.present (history : History) : Cluster :=
  history.headD {}

@[simp] theorem History.present_cons (cluster : Cluster) (history : History) :
    History.present (cluster :: history) = cluster := rfl

@[simp] theorem History.find?_present_nil (key : Key) : (History.present []).find? key = none := rfl

/-- Where something is stored, there is a latest cluster. -/
theorem History.present_mem {history : History} {key : Key} {object : Json}
    (found : history.present.find? key = some object) : history.present ∈ history := by
  cases history with
  | nil => cases found
  | cons cluster earlier => exact List.mem_cons_self

/-- The history once a request is answered. -/
def History.ask (history : History) (request : Request) : History :=
  (history.present.answer request).1 :: history

/-- No object was ever stored under the key. -/
def History.Unused (history : History) (key : Key) : Prop :=
  ∀ cluster ∈ history, cluster.find? key = none

/-- The check that no object was ever stored under the key. -/
def History.isUnused (history : History) (key : Key) : Bool :=
  history.all fun cluster => (cluster.find? key).isNone

theorem History.unused_of_isUnused {history : History} {key : Key} (checked : history.isUnused key = true) :
    history.Unused key := by
  intro cluster member
  exact Option.isNone_iff_eq_none.mp (List.all_eq_true.mp checked cluster member)

theorem History.Unused.of_suffix {history earlier : History} {key : Key} (unused : history.Unused key)
    (before : earlier <:+ history) : earlier.Unused key :=
  fun cluster member => unused cluster (before.subset member)

/-- A key under which something was stored is not unused. -/
theorem History.not_unused_of_mem {history : History} {cluster : Cluster} {key : Key} {object : Json}
    (member : cluster ∈ history) (found : cluster.find? key = some object) : ¬ history.Unused key := by
  intro unused
  rw [unused cluster member] at found
  cases found

namespace Cluster

/-- The stored run of a name, if it can be read. -/
def run? (cluster : Cluster) (space name : String) : Option Run :=
  (cluster.find? ⟨.run, space, name⟩).bind Run.ofJson?

/-- The stored workspace of a name, if it can be read. -/
def workspace? (cluster : Cluster) (space name : String) : Option Workspace :=
  (cluster.find? ⟨.workspace, space, name⟩).bind Workspace.ofJson?

/-- The stored pod of a name, if it can be read. -/
def pod? (cluster : Cluster) (space name : String) : Option Pod :=
  (cluster.find? ⟨.pod, space, name⟩).bind Pod.ofJson?

variable {cluster next : Cluster} {space name : String}

theorem run?_congr (same : next.find? ⟨.run, space, name⟩ = cluster.find? ⟨.run, space, name⟩) :
    next.run? space name = cluster.run? space name := by
  rw [run?, run?, same]

theorem workspace?_congr
    (same : next.find? ⟨.workspace, space, name⟩ = cluster.find? ⟨.workspace, space, name⟩) :
    next.workspace? space name = cluster.workspace? space name := by
  rw [workspace?, workspace?, same]

/-- A run that can be read is stored. -/
theorem find?_of_run? {run : Run} (stored : cluster.run? space name = some run) :
    ∃ object, cluster.find? ⟨.run, space, name⟩ = some object ∧ Run.ofJson? object = some run :=
  Option.bind_eq_some_iff.mp stored

/-- A workspace that can be read is stored. -/
theorem find?_of_workspace? {workspace : Workspace} (stored : cluster.workspace? space name = some workspace) :
    ∃ object, cluster.find? ⟨.workspace, space, name⟩ = some object ∧
      Workspace.ofJson? object = some workspace :=
  Option.bind_eq_some_iff.mp stored

end Cluster

/-- How a request ends: what it makes of the cluster, and what is had for a reply. -/
inductive Reply (cluster : Cluster) (request : Request) : Cluster → Except ApiError Json → Prop where
  | answered : Reply cluster request (cluster.answer request).1 (cluster.answer request).2
  | refused {error : ApiError} (honest : error.saysNotFound = false) :
      Reply cluster request cluster (.error error)
  | lost {error : ApiError} (honest : error.saysNotFound = false) :
      Reply cluster request (cluster.answer request).1 (.error error)

namespace Reply

variable {cluster next : Cluster} {request : Request} {reply : Except ApiError Json}

/-- However a request ends, it makes of the cluster what a request can make of it. -/
theorem effect (served : Reply cluster request next reply) : cluster.Effect request next := by
  cases served with
  | answered => exact Cluster.effect_answer cluster request
  | refused honest => exact .nothing request
  | lost honest => exact Cluster.effect_answer cluster request

/-- A request with a good reply was answered. -/
theorem of_ok {json : Json} (served : Reply cluster request next (.ok json)) :
    next = (cluster.answer request).1 ∧ (cluster.answer request).2 = .ok json := by
  generalize good : Except.ok json = reply at served
  cases served with
  | answered => exact ⟨rfl, rfl⟩
  | refused honest => cases good
  | lost honest => cases good

/-- A lookup changes nothing, and finds what is there. -/
theorem of_get {key : Key} (served : Reply cluster (.get key) next reply) :
    next = cluster ∧
      ((∃ object, cluster.find? key = some object ∧ reply = .ok object) ∨
        (cluster.find? key = none ∧ reply = .error (Cluster.notFound key)) ∨
        ∃ error : ApiError, error.saysNotFound = false ∧ reply = .error error) := by
  cases served with
  | answered =>
      refine ⟨rfl, ?_⟩
      cases found : cluster.find? key with
      | some object => exact Or.inl ⟨object, rfl, by simp [Cluster.answer, found]⟩
      | none => exact Or.inr (Or.inl ⟨rfl, by simp [Cluster.answer, found]⟩)
  | @refused error honest => exact ⟨rfl, Or.inr (Or.inr ⟨error, honest, rfl⟩)⟩
  | @lost error honest => exact ⟨rfl, Or.inr (Or.inr ⟨error, honest, rfl⟩)⟩

/-- A write that is answered well changes the cluster. -/
theorem ne_of_ok {json : Json} (served : Reply cluster request next (.ok json))
    (writes : request.isWrite = true) : next ≠ cluster := by
  obtain ⟨rfl, good⟩ := served.of_ok
  suffices counted : (cluster.answer request).1.version = cluster.version + 1 by
    intro same
    rw [same] at counted
    exact Nat.succ_ne_self _ counted.symm
  cases request with
  | create kind space object =>
      simp only [Cluster.answer] at good ⊢
      split at good
      · cases good
      · rfl
  | delete key =>
      simp only [Cluster.answer] at good ⊢
      split at good
      · cases good
      · rfl
  | patch key change =>
      simp only [Cluster.answer, Cluster.patched] at good ⊢
      split at good
      · cases good
      · split at good
        · cases good
        · rename_i fresh
          rw [if_neg fresh]
          rfl
  | patchStatus key change =>
      simp only [Cluster.answer, Cluster.patched] at good ⊢
      split at good
      · cases good
      · split at good
        · cases good
        · rename_i fresh
          rw [if_neg fresh]
          rfl
  | _ => cases writes

/-- An object that was created is there as it was answered. -/
theorem of_create_ok {kind : Kind} {space : String} {object json : Json}
    (served : Reply cluster (.create kind space object) next (.ok json)) :
    next.find? (Request.createdKey kind space object) = some json := by
  obtain ⟨rfl, good⟩ := served.of_ok
  simp only [Cluster.answer] at good ⊢
  split at good
  · cases good
  · cases good
    simp only [Cluster.written, Cluster.find?_write_self]

end Reply

/-! ### Histories of requests -/

namespace History

/-- Every cluster of the history comes from the one before it by a request. -/
inductive Served : History → Prop where
  | start : Served []
  | step {history : History} {request : Request} {next : Cluster} (served : Served history)
      (effect : history.present.Effect request next) : Served (next :: history)

variable {history : History}

/-- Every cluster of a history of requests is dated. -/
theorem Served.dated (served : Served history) : history.present.Dated ∧ ∀ cluster ∈ history, cluster.Dated := by
  induction served with
  | start => exact ⟨Cluster.dated_empty, List.forall_mem_nil _⟩
  | step served effect inductionHypothesis =>
      have now := effect.dated inductionHypothesis.1
      refine ⟨now, ?_⟩
      intro cluster member
      rcases List.mem_cons.mp member with here | there
      · rw [here]
        exact now
      · exact inductionHypothesis.2 cluster there

/-- Versions only grow. -/
theorem Served.version_le (served : Served history) {cluster : Cluster} (member : cluster ∈ history) :
    cluster.version ≤ history.present.version := by
  induction served with
  | start => cases member
  | step served effect inductionHypothesis =>
      rcases List.mem_cons.mp member with here | there
      · rw [here]
        exact Nat.le_refl _
      · exact Nat.le_trans (inductionHypothesis there) effect.version_le

/-- No earlier object has the version that is reached now. -/
theorem Served.version_ne (served : Served history) {cluster next : Cluster} (member : cluster ∈ history)
    {key : Key} {earlier : Json} (found : cluster.find? key = some earlier)
    (counted : next.version = history.present.version + 1) :
    Cluster.metadataText? earlier "resourceVersion" ≠ some (toString next.version) := by
  intro same
  obtain ⟨version, kept, bound, dated⟩ := (served.dated.2 cluster member).dated key earlier found
  rw [dated, Cluster.version_kept] at same
  have equal := Cluster.version_injective (Option.some.inj same)
  have older := served.version_le member
  omega

/-- An object that has the version of an earlier one of its key is that one. -/
theorem Served.eq_of_version (served : Served history) {cluster : Cluster} (member : cluster ∈ history)
    {key : Key} {earlier object : Json} (foundEarlier : cluster.find? key = some earlier)
    (found : history.present.find? key = some object)
    (same : Cluster.metadataText? earlier "resourceVersion" = Cluster.metadataText? object "resourceVersion") :
    object = earlier := by
  induction served with
  | start => cases member
  | @step history request next served effect inductionHypothesis =>
      rcases List.mem_cons.mp member with here | there
      · rw [here] at foundEarlier
        exact Option.some.inj (found.symm.trans foundEarlier)
      · rcases effect.find?_cases found with before | ⟨given, written, counted⟩
        · exact inductionHypothesis there before
        · rw [written, Cluster.version_kept] at same
          exact absurd same (served.version_ne there foundEarlier counted)

/-- An object that is there now and was there earlier has been there in between. -/
theorem Served.steady (served : Served history) {earlier moment : History} (before : earlier <:+ moment)
    (until' : moment <:+ history) {key : Key} {object : Json} (was : earlier.present.find? key = some object)
    (found : history.present.find? key = some object) : moment.present.find? key = some object := by
  induction served with
  | start => cases found
  | @step history request next served effect inductionHypothesis =>
      rcases List.suffix_cons_iff.mp until' with same | deeper
      · rw [same]
        exact found
      · rcases effect.find?_cases found with there | ⟨given, written, counted⟩
        · exact inductionHypothesis deeper there
        · have member := (before.trans deeper).subset (present_mem was)
          rw [written] at was
          exact absurd (Cluster.version_kept _ _ _) (served.version_ne member was counted)

/-! ### Creations -/

/-- How often an object came to be stored under the key. -/
def creations (key : Key) : History → Nat
  | [] => 0
  | next :: history =>
    creations key history + if ((present history).find? key).isNone && (next.find? key).isSome then 1 else 0

/-- A step that leaves the key alone creates nothing under it. -/
theorem creations_of_same {key : Key} {next : Cluster} (same : next.find? key = history.present.find? key) :
    creations key (next :: history) = creations key history := by
  rw [creations, same]
  cases history.present.find? key <;> rfl

/-- A step creates one object at most, and only where there was none. -/
theorem creations_of_absent {key : Key} (absent : history.present.find? key = none) (next : Cluster) :
    creations key (next :: history) = creations key history + if (next.find? key).isSome then 1 else 0 := by
  rw [creations, absent]
  rfl

end History

end Turnstile
