/-
Module: Turnstile.Proofs.Creation.Account
Purpose: An account of how often the pod of a run was created, and which steps keep it.
Main exports: History.isServed, History.losses, History.revivals, Creation.Bystander, Creation.Accounted,
  Creation.Accounted.step, Creation.Bystander.accounted
-/
import Turnstile.Proofs.Cluster.Report
import Turnstile.Proofs.Run.Life

/-!
The pod of a run is created first, and its name is recorded afterwards in another request.  A pod that is lost in
between leaves no trace.  So while nothing is on record, the pod was created once for every loss, and once more if
it is there.  Once something is, whoever looks at the run leaves its pod alone; only a reconciliation from an
outdated copy may bring it back.

Others than the reconciliation do as they like, but leave the status of the run alone and create no pod of its
name.
-/

namespace Turnstile

namespace History

/-- The pod of the run was recorded at some time, or the run was over. -/
def isServed (space name : String) (history : History) : Bool :=
  history.any fun cluster => (cluster.run? space name).any fun run =>
    run.standing.podName.isSome || run.isCompleted

/-- How often the pod was lost while nothing was on record of it. -/
def losses (space name : String) : History → Nat
  | [] => 0
  | next :: history =>
    losses space name history +
      if ((present history).find? ⟨.pod, space, name⟩).isSome && (next.find? ⟨.pod, space, name⟩).isNone &&
        !isServed space name history then 1 else 0

/-- How often the pod came into being although it was on record, or the run was over. -/
def revivals (space name : String) : History → Nat
  | [] => 0
  | next :: history =>
    revivals space name history +
      if ((present history).find? ⟨.pod, space, name⟩).isNone && (next.find? ⟨.pod, space, name⟩).isSome &&
        isServed space name history then 1 else 0

variable {space name : String} {history : History} {next : Cluster}

/-- A run is served now, or was before. -/
theorem isServed_cons_iff : isServed space name (next :: history) = true ↔
    (∃ run, next.run? space name = some run ∧ run.IsServed) ∨ history.isServed space name = true := by
  simp only [isServed, List.any_cons, Bool.or_eq_true, Option.any_eq_true, Run.IsServed]

/-- A run that is stored while none was served is not served. -/
theorem not_isServed_of_run? (unserved : history.isServed space name = false) {run : Run}
    (stored : history.present.run? space name = some run) : ¬ run.IsServed := by
  intro served
  cases history with
  | nil => cases stored
  | cons cluster earlier =>
      have already : isServed space name (cluster :: earlier) = true :=
        isServed_cons_iff.mpr (Or.inl ⟨run, stored, served⟩)
      rw [unserved] at already
      cases already

theorem isServed_cons_of_not (unserved : history.isServed space name = false)
    (spared : ∀ run, next.run? space name = some run → ¬ run.IsServed) :
    isServed space name (next :: history) = false := by
  by_contra served
  rw [Bool.not_eq_false, isServed_cons_iff, unserved] at served
  rcases served with ⟨run, stored, isServed⟩ | impossible
  · exact spared run stored isServed
  · cases impossible

/-- A step that leaves the run alone does not serve it. -/
theorem isServed_cons_of_same (unserved : history.isServed space name = false)
    (same : next.find? ⟨.run, space, name⟩ = history.present.find? ⟨.run, space, name⟩) :
    isServed space name (next :: history) = false := by
  apply isServed_cons_of_not unserved
  intro run stored
  rw [Cluster.run?_congr same] at stored
  exact not_isServed_of_run? unserved stored

/-- A history in which no run of the name was stored has served none. -/
theorem isServed_of_unused (unused : history.Unused ⟨.run, space, name⟩) :
    history.isServed space name = false := by
  rw [isServed, List.any_eq_false]
  intro cluster member
  rw [Cluster.run?, unused cluster member]
  exact Bool.false_ne_true

/-- The losses with one more step. -/
theorem losses_cons (unserved : history.isServed space name = false) (next : Cluster) :
    losses space name (next :: history) = losses space name history +
      if (history.present.find? ⟨.pod, space, name⟩).isSome && (next.find? ⟨.pod, space, name⟩).isNone
        then 1 else 0 := by
  rw [losses, unserved, Bool.not_false, Bool.and_true]

theorem losses_le (next : Cluster) : history.losses space name ≤ losses space name (next :: history) :=
  Nat.le_add_right _ _

/-- The revivals with one more step. -/
theorem revivals_cons (served : history.isServed space name = true) (next : Cluster) :
    revivals space name (next :: history) = revivals space name history +
      if (history.present.find? ⟨.pod, space, name⟩).isNone && (next.find? ⟨.pod, space, name⟩).isSome
        then 1 else 0 := by
  rw [revivals, served, Bool.and_true]

/-- A step that brings no pod into being revives none. -/
theorem revivals_of_uncreated
    (uncreated : history.present.find? ⟨.pod, space, name⟩ = none → next.find? ⟨.pod, space, name⟩ = none) :
    revivals space name (next :: history) = revivals space name history := by
  rw [revivals]
  cases absent : history.present.find? ⟨.pod, space, name⟩ with
  | some object => rfl
  | none =>
      rw [uncreated absent]
      rfl

theorem revivals_le_of_suffix {earlier : History} (before : earlier <:+ history) :
    earlier.revivals space name ≤ history.revivals space name := by
  induction history with
  | nil =>
      cases List.suffix_nil.mp before
      exact Nat.le_refl _
  | cons next history inductionHypothesis =>
      rcases List.suffix_cons_iff.mp before with same | deeper
      · cases same
        exact Nat.le_refl _
      · exact Nat.le_trans (inductionHypothesis deeper) (Nat.le_add_right _ _)

/-- Where no pod was brought back, none came into being once the run was served. -/
theorem creations_of_unrevived (unrevived : history.revivals space name = 0) {earlier : History}
    (before : next :: earlier <:+ history) (served : earlier.isServed space name = true) :
    creations ⟨.pod, space, name⟩ (next :: earlier) = earlier.creations ⟨.pod, space, name⟩ := by
  have none : revivals space name (next :: earlier) ≤ history.revivals space name := revivals_le_of_suffix before
  rw [unrevived, revivals_cons served] at none
  rw [creations]
  omega

end History

namespace Creation

open Cluster

variable {space name : String} {outdated : Nat} {history : History} {run : Run}

/-- What others may ask for. -/
structure Bystander (space name : String) (history : History) (request : Request) : Prop where
  /-- The status of the run is left to its reconciliation. -/
  unreported : ∀ change, request ≠ .patchStatus ⟨.run, space, name⟩ change
  /-- The pod is created by nobody else. -/
  uncreated : request.verb = .create → request.key? ≠ some ⟨.pod, space, name⟩
  /-- The run can be read and keeps its name. -/
  legible : ∀ object, (history.present.answer request).1.find? ⟨.run, space, name⟩ = some object →
    ∃ run, Run.ofJson? object = some run ∧ run.name = name
  /-- The run is submitted without status, and its name is not taken again. -/
  submitted : ∀ run, history.present.find? ⟨.run, space, name⟩ = none →
    (history.present.answer request).1.run? space name = some run →
    history.Unused ⟨.run, space, name⟩ ∧ run.status = none

/-- The check of a request of others. -/
def tolerates (space name : String) (history : History) (request : Request) : Bool :=
  (request.verb != .patchStatus || request.key? != some ⟨.run, space, name⟩) &&
  (request.verb != .create || request.key? != some ⟨.pod, space, name⟩) &&
  ((history.present.answer request).1.find? ⟨.run, space, name⟩).all fun object =>
    (Run.ofJson? object).any fun after => after.name == name &&
      ((history.present.find? ⟨.run, space, name⟩).isSome ||
        history.isUnused ⟨.run, space, name⟩ && after.status.isNone)

/-- What passes the check may be asked for. -/
theorem Bystander.of_tolerates {request : Request} (checked : tolerates space name history request = true) :
    Bystander space name history request := by
  simp only [tolerates, Bool.and_eq_true, Option.all_eq_true, Option.any_eq_true, beq_iff_eq] at checked
  obtain ⟨⟨unreported, uncreated⟩, stored⟩ := checked
  refine ⟨?_, ?_, ?_, ?_⟩
  · rintro change rfl
    simp [Request.verb, Request.key?] at unreported
  · intro creates about
    simp [creates, about] at uncreated
  · intro object found
    obtain ⟨after, read, named, _⟩ := stored object found
    exact ⟨after, read, named⟩
  · intro run absent there
    obtain ⟨object, found, read⟩ := find?_of_run? there
    obtain ⟨after, sameRead, _, fits⟩ := stored object found
    cases read.symm.trans sameRead
    rw [absent, Option.isSome_none, Bool.false_or, Bool.and_eq_true, Option.isNone_iff_eq_none] at fits
    exact ⟨History.unused_of_isUnused fits.1, fits.2⟩

/-! ### The account of a history -/

/-- What is kept in order of the run, and how often its pod was created.  It was brought back once at most for every
reconciliation that was outdated. -/
structure Accounted (space name : String) (outdated : Nat) (history : History) : Prop where
  served : history.Served
  legible : ∀ cluster ∈ history, ∀ object, cluster.find? ⟨.run, space, name⟩ = some object →
    ∃ run, Run.ofJson? object = some run ∧ run.name = name
  coherent : ∀ run, history.present.run? space name = some run → run.standing.Coherent name
  lasting : history.isServed space name = true →
    ∀ run, history.present.run? space name = some run → run.IsServed
  counted : history.isServed space name = false →
    history.creations ⟨.pod, space, name⟩ =
      history.losses space name + if (history.present.find? ⟨.pod, space, name⟩).isSome then 1 else 0
  bounded : history.creations ⟨.pod, space, name⟩ ≤ history.losses space name + 1 + history.revivals space name
  afforded : history.revivals space name ≤ outdated

theorem Accounted.weaken (accounted : Accounted space name outdated history) {more : Nat} (le : outdated ≤ more) :
    Accounted space name more history :=
  { accounted with afforded := Nat.le_trans accounted.afforded le }

theorem Accounted.name_of_run? (accounted : Accounted space name outdated history) {cluster : Cluster}
    (seen : cluster ∈ history) (copied : cluster.run? space name = some run) : run.name = name := by
  obtain ⟨object, found, read⟩ := find?_of_run? copied
  obtain ⟨other, same, named⟩ := accounted.legible cluster seen object found
  cases read.symm.trans same
  exact named

theorem accounted_start (space name : String) : Accounted space name 0 [] where
  served := .start
  legible := List.forall_mem_nil _
  coherent := by
    intro run stored
    cases stored
  lasting := by
    intro served
    cases served
  counted := fun _ => rfl
  bounded := Nat.zero_le _
  afforded := Nat.le_refl _

/-- While the run is not served, the count goes on with every pod that comes into being or is lost. -/
theorem Accounted.count (accounted : Accounted space name outdated history) {next : Cluster}
    (unserved : history.isServed space name = false) :
    History.creations ⟨.pod, space, name⟩ (next :: history) = History.losses space name (next :: history) +
      if (next.find? ⟨.pod, space, name⟩).isSome then 1 else 0 := by
  rw [History.creations, History.losses_cons unserved, accounted.counted unserved]
  cases history.present.find? ⟨.pod, space, name⟩ <;> cases next.find? ⟨.pod, space, name⟩ <;> rfl

/-- A step keeps the account, if it keeps the run in order and brings a pod back only where that can be afforded. -/
theorem Accounted.step (accounted : Accounted space name outdated history) {request : Request} {next : Cluster}
    (effect : history.present.Effect request next)
    (legible : ∀ object, next.find? ⟨.run, space, name⟩ = some object →
      ∃ run, Run.ofJson? object = some run ∧ run.name = name)
    (coherent : ∀ run, next.run? space name = some run → run.standing.Coherent name)
    (lasting : history.isServed space name = true → ∀ run, next.run? space name = some run → run.IsServed)
    (afforded : history.present.find? ⟨.pod, space, name⟩ = none → next.find? ⟨.pod, space, name⟩ ≠ none →
      history.isServed space name = true → history.revivals space name < outdated) :
    Accounted space name outdated (next :: history) where
  served := accounted.served.step effect
  legible := List.forall_mem_cons.mpr ⟨legible, accounted.legible⟩
  coherent := coherent
  lasting := by
    intro served run stored
    rcases History.isServed_cons_iff.mp served with ⟨now, there, isServed⟩ | before
    · cases there.symm.trans stored
      exact isServed
    · exact lasting before run stored
  counted := by
    intro unserved
    apply accounted.count
    by_contra served
    rw [History.isServed_cons_iff.mpr (Or.inr (by simpa using served))] at unserved
    cases unserved
  bounded := by
    cases served : history.isServed space name with
    | true =>
        have bounded := accounted.bounded
        have losses : history.losses space name ≤ History.losses space name (next :: history) :=
          History.losses_le next
        rw [History.creations, History.revivals_cons served]
        omega
    | false =>
        rw [accounted.count served]
        split <;> omega
  afforded := by
    rw [History.revivals]
    split
    · rename_i revived
      simp only [Bool.and_eq_true, Option.isNone_iff_eq_none, Option.isSome_iff_ne_none] at revived
      exact afforded revived.1.1 revived.1.2 revived.2
    · exact accounted.afforded

/-- A step that leaves the run alone keeps the account, if it brings a pod back only where that can be afforded. -/
theorem Accounted.step_of_same (accounted : Accounted space name outdated history) {request : Request}
    {next : Cluster} (effect : history.present.Effect request next)
    (same : next.find? ⟨.run, space, name⟩ = history.present.find? ⟨.run, space, name⟩)
    (afforded : history.present.find? ⟨.pod, space, name⟩ = none → next.find? ⟨.pod, space, name⟩ ≠ none →
      history.isServed space name = true → history.revivals space name < outdated) :
    Accounted space name outdated (next :: history) := by
  refine accounted.step effect ?_ ?_ ?_ afforded
  · intro object found
    rw [same] at found
    exact accounted.legible _ (History.present_mem found) object found
  · rw [run?_congr same]
    exact accounted.coherent
  · rw [run?_congr same]
    exact accounted.lasting

theorem Accounted.stutter (accounted : Accounted space name outdated history) :
    Accounted space name outdated (history.present :: history) :=
  accounted.step_of_same (.nothing (.get default)) rfl fun absent present => absurd absent present

/-- A run that others leave behind is as they found it, or it is new. -/
theorem Bystander.status (accounted : Accounted space name outdated history) {request : Request}
    (bystander : Bystander space name history request)
    (stored : (history.present.answer request).1.run? space name = some run) :
    (∃ before, history.present.run? space name = some before ∧ run.status = before.status) ∨
      history.Unused ⟨.run, space, name⟩ ∧ run.status = none := by
  cases found : history.present.find? ⟨.run, space, name⟩ with
  | none => exact Or.inr (bystander.submitted run found stored)
  | some object =>
      obtain ⟨before, read, _⟩ := accounted.legible _ (History.present_mem found) object found
      have was : history.present.run? space name = some before := by
        rw [run?, found]
        exact read
      exact Or.inl ⟨before, was, Run.status_of_unreported accounted.served
        (effect_answer history.present request) bystander.unreported was stored⟩

/-- A run serves as long as its status is the same. -/
theorem isServed_congr {before after : Run} (same : after.status = before.status) (served : before.IsServed) :
    after.IsServed := by
  rw [Run.IsServed, Run.standing, Run.isCompleted, Run.conditions, same]
  exact served

/-- Others keep the account. -/
theorem Bystander.accounted (accounted : Accounted space name outdated history) {request : Request}
    (bystander : Bystander space name history request) : Accounted space name outdated (history.ask request) := by
  have effect := effect_answer history.present request
  apply accounted.step effect bystander.legible
  · intro run stored
    rcases bystander.status accounted stored with ⟨before, was, same⟩ | ⟨_, fresh⟩
    · rw [Run.standing, same]
      exact accounted.coherent before was
    · rw [Run.standing, fresh]
      exact RunStatus.coherent_empty name
  · intro served run stored
    rcases bystander.status accounted stored with ⟨before, was, same⟩ | ⟨unused, _⟩
    · exact isServed_congr same (accounted.lasting served before was)
    · rw [History.isServed_of_unused unused] at served
      cases served
  · intro absent present
    exact absurd (effect.find?_of_uncreated bystander.uncreated absent) present

/-- Others do not serve the run. -/
theorem Bystander.unserved (accounted : Accounted space name outdated history) {request : Request}
    (bystander : Bystander space name history request) (unserved : history.isServed space name = false) :
    History.isServed space name (history.ask request) = false := by
  apply History.isServed_cons_of_not unserved
  intro run stored served
  rcases bystander.status accounted stored with ⟨before, was, same⟩ | ⟨_, fresh⟩
  · exact History.not_isServed_of_run? unserved was (isServed_congr same.symm served)
  · rw [Run.IsServed, Run.standing, Run.isCompleted, Run.conditions, fresh] at served
    rcases served with impossible | impossible <;> cases impossible

end Creation

end Turnstile
