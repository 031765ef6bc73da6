/-
Module: Turnstile.Proofs.Run.Resumption
Purpose: After each write of a reconciliation, one that starts over comes to the same end.
Main exports: Run.outcome, Run.InPlace, Run.Settles, Run.InPlace.settles, Run.Resumes, Run.Ready,
  Run.resumes_adopted, Run.resumes_created, Run.resumes_reported
-/
import Turnstile.Proofs.Run.Outcome

/-!
A reconciliation writes three times at most: it adopts the payload, it creates the pod, and it reports a status.
After each of these writes the cluster is one from which an undisturbed reconciliation comes to the same end as
from the cluster before.  What it finds done already it does not do again: the payload has its owner, the pod is
there, and once the status is reported nothing is planned.
-/

namespace Turnstile.Run

variable {space name now : String} {settings : Settings} {cluster next : Cluster} {run : Run} {lookup : Lookup}
  {pod : Option Pod}

/-- What an undisturbed reconciliation of the stored run of a name makes of a cluster. -/
def outcome (now : String) (settings : Settings) (space name : String) (cluster : Cluster) : Cluster :=
  match cluster.run? space name with
  | none => cluster
  | some run => (Attempt.answered (run.reconcile now settings space) cluster).1

/-- The run is stored under its name, and so is its payload; it may not be attached to unless it leads its queue. -/
structure InPlace (space name : String) (cluster : Cluster) (run : Run) : Prop where
  dated : cluster.Dated
  stored : cluster.run? space name = some run
  named : run.name = name
  addresses : run.Addresses space cluster
  poised : ∀ lookup, run.finds space cluster = .ok lookup → run.Poised lookup

/-- Undisturbed reconciliations come to the same end from both clusters, at whatever times. -/
def Settles (settings : Settings) (space name : String) (first second : Cluster) : Prop :=
  ∀ now later, (outcome now settings space name first).Alike space name (outcome later settings space name second)

/-- If the run takes a status by which a client may connect, or that names another pod, there is a pod. -/
def Founded (space name : String) (before after : Cluster) : Prop :=
  ∀ earlier later, before.run? space name = some earlier → after.run? space name = some later →
    later.status ≠ earlier.status → later.isAttachable = true ∨ later.standing.podName ≠ earlier.standing.podName →
      before.find? ⟨.pod, space, name⟩ ≠ none

/-- One step of a reconciliation leads to a cluster from which it can be resumed. -/
structure Resumes (settings : Settings) (space name : String) (before after : Cluster) : Prop where
  settles : Settles settings space name before after
  founded : Founded space name before after

theorem founded_of_same (same : next.run? space name = cluster.run? space name) :
    Founded space name cluster next := by
  intro earlier later was stored changed
  rw [same, was] at stored
  cases stored
  exact absurd rfl changed

/-- The payload of the run is adopted. -/
structure Housekept (space name : String) (run : Run) (cluster : Cluster) : Prop where
  inPlace : InPlace space name cluster run
  adopted : run.Adopted space cluster

/-- The run has looked around. -/
structure Ready (space name : String) (run : Run) (lookup : Lookup) (pod : Option Pod) (cluster : Cluster) : Prop
    extends Housekept space name run cluster where
  seen : run.sees space cluster = .ok (lookup, pod)

theorem Ready.finds (ready : Ready space name run lookup pod cluster) : run.finds space cluster = .ok lookup :=
  (sees_eq_ok_iff.mp ready.seen).1

theorem Ready.look (ready : Ready space name run lookup pod cluster) :
    cluster.look Pod.ofJson? ⟨.pod, space, run.name⟩ = .ok pod :=
  (sees_eq_ok_iff.mp ready.seen).2

/-! ### Reconciliations at different times -/

/-- What the workspace of a run is depends on the workspaces alone. -/
theorem finds_congr (run : Run) (same : ∀ label, next.find? ⟨.workspace, space, label⟩ =
    cluster.find? ⟨.workspace, space, label⟩) : run.finds space next = run.finds space cluster := by
  unfold finds
  cases run.workspaceName? with
  | none => rfl
  | some label => simp only [Cluster.look_congr (same label)]

/-- Adoption leaves workspaces, runs and pods alone. -/
theorem InPlace.adoption (inPlace : InPlace space name cluster run) :
    let next := (Attempt.answered (run.adoptPayload space) cluster).1
    next.Dated ∧ ∀ kind, kind = .workspace ∨ kind = .run ∨ kind = .pod → ∀ label,
      next.find? ⟨kind, space, label⟩ = cluster.find? ⟨kind, space, label⟩ := by
  refine (run.uses_adoptPayload space).answered (fun next => next.Dated ∧
    ∀ kind, kind = .workspace ∨ kind = .run ∨ kind = .pod → ∀ label,
      next.find? ⟨kind, space, label⟩ = cluster.find? ⟨kind, space, label⟩) ?_ ⟨inPlace.dated, fun _ _ _ => rfl⟩
  rintro later request ⟨dated, same⟩ spares
  have effect := Cluster.effect_answer later request
  exact ⟨effect.dated dated, fun kind spared label =>
    (spares.find?_eq effect spared space label).trans (same kind spared label)⟩

theorem alike_concludes (dated : cluster.Dated) (stored : cluster.run? space run.name = some run)
    (now later : String) (settings : Settings) :
    (run.concludes now settings space cluster).Alike space run.name
      (run.concludes later settings space cluster) := by
  unfold concludes
  rcases seen : run.sees space cluster with failure | ⟨lookup, pod⟩
  · exact .refl stored
  · exact alike_carryOut dated stored (sees_eq_ok_iff.mp seen).2 now later settings lookup

/-- What a reconciliation of a stored run makes of its cluster. -/
theorem InPlace.outcome_eq (inPlace : InPlace space name cluster run) (now : String) (settings : Settings) :
    outcome now settings space name cluster = (Attempt.answered (run.reconcile now settings space) cluster).1 := by
  rw [outcome, inPlace.stored]

theorem InPlace.outcome_of_isCompleted (inPlace : InPlace space name cluster run)
    (finished : run.isCompleted = true) (now : String) (settings : Settings) :
    outcome now settings space name cluster = cluster := by
  rw [inPlace.outcome_eq, reconcile_eq, if_pos finished]
  rfl

/-- The end of a reconciliation that has adopted its payload. -/
theorem Housekept.outcome_eq (housekept : Housekept space name run cluster) (unfinished : run.isCompleted = false)
    (now : String) (settings : Settings) :
    outcome now settings space name cluster = run.concludes now settings space cluster := by
  rw [housekept.inPlace.outcome_eq, answered_reconcile unfinished, housekept.adopted.answered]

/-- The end of a reconciliation that has adopted its payload and looked around. -/
theorem Ready.outcome_eq (ready : Ready space name run lookup pod cluster) (unfinished : run.isCompleted = false)
    (now : String) (settings : Settings) :
    outcome now settings space name cluster =
      (Attempt.answered (run.carryOut now settings space lookup pod) cluster).1 := by
  rw [ready.toHousekept.outcome_eq unfinished, concludes, ready.seen]

/-- A run that is in place stays in place once its payload is adopted as far as it can be, and a reconciliation that
starts over comes to the same end. -/
theorem resumes_adopted (inPlace : InPlace space name cluster run) (unfinished : run.isCompleted = false)
    (settings : Settings) :
    let next := (Attempt.answered (run.adoptPayload space) cluster).1
    InPlace space name next run ∧ Resumes settings space name cluster next := by
  obtain ⟨dated, same⟩ := inPlace.adoption
  rcases adopts : Attempt.answered (run.adoptPayload space) cluster with ⟨next, result⟩
  rw [adopts] at dated same
  simp only at dated same ⊢
  have stored : next.run? space name = some run := by
    rw [Cluster.run?_congr (same .run (by simp) name)]
    exact inPlace.stored
  have found := finds_congr run (same .workspace (by simp))
  have begins := fun now => (inPlace.outcome_eq now settings).trans (answered_reconcile unfinished now settings space cluster)
  rw [adopts] at begins
  have again := answered_adoptPayload_again inPlace.addresses adopts
  have inPlaceNext : InPlace space name next run := by
    refine ⟨dated, stored, inPlace.named, ?_, fun lookup finds => inPlace.poised lookup (found.symm.trans finds)⟩
    rcases again with ⟨_, adopted⟩ | ⟨_, addresses, _⟩
    · exact adopted.addresses
    · exact addresses
  refine ⟨inPlaceNext, ?_, founded_of_same (Cluster.run?_congr (same .run (by simp) name))⟩
  intro now later
  have named := inPlace.named
  subst named
  rcases again with ⟨rfl, adopted⟩ | ⟨⟨failure, rfl⟩, _, repeated, fails⟩
  · rw [begins, Housekept.outcome_eq ⟨inPlaceNext, adopted⟩ unfinished]
    exact alike_concludes dated stored now later settings
  · rw [begins, inPlaceNext.outcome_eq, answered_reconcile unfinished, fails]
    exact .refl stored

/-- A reconciliation of a run that is in place comes to the same end at whatever time. -/
theorem InPlace.settles (inPlace : InPlace space name cluster run) (settings : Settings) :
    Settles settings space name cluster cluster := by
  intro now later
  cases finished : run.isCompleted with
  | true =>
      rw [inPlace.outcome_of_isCompleted finished, inPlace.outcome_of_isCompleted finished]
      exact .refl inPlace.stored
  | false =>
      have resumes := (resumes_adopted inPlace finished settings).2.settles
      exact (resumes now now).trans (resumes later now).symm

/-! ### The pod -/

section Creation

variable {workspace : Workspace} {desired : Json}

/-- Once the pod is created the run is in place and finds its workspace as before. -/
theorem housekept_created (ready : Ready space name run lookup none cluster)
    (built : run.manifest workspace settings = .ok desired) :
    let next := (cluster.answer (.create .pod space desired)).1
    Housekept space name run next ∧ run.finds space next = .ok lookup := by
  intro next
  have same {key : Key} (other : key ≠ ⟨.pod, space, run.name⟩) : next.find? key = cluster.find? key :=
    find?_of_created built other
  have finds : run.finds space next = .ok lookup := (finds_congr run fun label => same (by simp)).trans ready.finds
  have adopted : run.Adopted space next := ready.adopted.congr (same (by simp))
  refine ⟨⟨⟨(Cluster.effect_answer cluster _).dated ready.inPlace.dated, ?_, ready.inPlace.named,
    adopted.addresses, ?_⟩, adopted⟩, finds⟩
  · rw [Cluster.run?_congr (same (by simp))]
    exact ready.inPlace.stored
  · intro found also
    cases finds.symm.trans also
    exact ready.inPlace.poised _ ready.finds

/-- The pod that was created is seen as it is read. -/
theorem look_created (absent : cluster.look Pod.ofJson? ⟨.pod, space, run.name⟩ = .ok none)
    (built : run.manifest workspace settings = .ok desired) :
    (cluster.answer (.create .pod space desired)).1.look Pod.ofJson? ⟨.pod, space, run.name⟩ =
      (Pod.ofJson? (Cluster.kept ⟨.pod, space, run.name⟩ (cluster.version + 1)
        (Cluster.identified ⟨.pod, space, run.name⟩ desired))).elim
          (.error (.api .unanswered)) fun created => .ok (some created) := by
  apply Cluster.look_of_find? Pod.ofJson? (Cluster.name_of_look absent)
  rw [Cluster.answer_create (createdKey_manifest built space) (Cluster.find?_of_look_none absent)]
  exact Cluster.find?_write_self cluster _ _

/-- Once the pod is created a reconciliation that starts over comes to the same end: it reports what the other one
reports, or neither can read the pod. -/
theorem settles_created (ready : Ready space name run (.found workspace) none cluster)
    (asked : (run.plan now (.found workspace) none).createPod = true)
    (built : run.manifest workspace settings = .ok desired) :
    Settles settings space name cluster (cluster.answer (.create .pod space desired)).1 := by
  obtain ⟨housekept, finds⟩ := housekept_created ready built
  have unfinished := not_isCompleted_of_plan (Or.inr asked)
  have look := look_created ready.look built
  have named := ready.inPlace.named
  subst named
  intro first second
  have asks : (run.plan first (.found workspace) none).createPod = true :=
    (timeless_plan first now run _ none).1.trans asked
  rw [ready.outcome_eq unfinished, answered_carryOut, if_pos asks,
    answered_createPod built (Cluster.find?_of_look_none ready.look), housekept.outcome_eq unfinished]
  cases read : Pod.ofJson? (Cluster.kept ⟨.pod, space, run.name⟩ (cluster.version + 1)
    (Cluster.identified ⟨.pod, space, run.name⟩ desired)) with
  | none =>
      rw [read] at look
      rw [concludes, sees, finds, look]
      exact .refl housekept.inPlace.stored
  | some created =>
      rw [read] at look
      have young := exitCode?_of_created built read
      rw [concludes, sees_eq_ok_iff.mpr ⟨finds, look⟩]
      simp only [Option.elim]
      rw [answered_carryOut, plan_of_created asked young second]
      exact alike_report (Cluster.name_of_look ready.look) housekept.inPlace.dated housekept.inPlace.stored first
        second _ none

/-- A reconciliation can be resumed once the pod is created. -/
theorem resumes_created (ready : Ready space name run (.found workspace) none cluster)
    (asked : (run.plan now (.found workspace) none).createPod = true)
    (built : run.manifest workspace settings = .ok desired) :
    Resumes settings space name cluster (cluster.answer (.create .pod space desired)).1 := by
  refine ⟨settles_created ready asked built, founded_of_same ?_⟩
  rw [ready.inPlace.stored]
  exact (housekept_created ready built).1.inPlace.stored

end Creation

/-! ### The report -/

section Report

variable {status : RunStatus}

/-- A report does not undo the adoption of the payload. -/
theorem Adopted.reported (adopted : run.Adopted space cluster) (version : String) (status : RunStatus) :
    (run.reported space version status).Adopted space cluster := by
  cases adopted with
  | missing seen => exact .missing seen
  | owned seen owns => exact .owned seen owns

/-- Once a status is reported the run is in place and sees what it saw. -/
theorem ready_reported (ready : Ready space run.name run lookup pod cluster)
    (planned : (run.plan now lookup pod).status = some status) :
    Ready space run.name (run.reported space (toString (cluster.version + 1)) status) lookup pod
      (cluster.answer (run.reportRequest space status)).1 := by
  obtain ⟨others, stored⟩ := answer_reportRequest ready.inPlace.dated ready.inPlace.stored planned
  have dated := (Cluster.effect_answer cluster (run.reportRequest space status)).dated ready.inPlace.dated
  generalize (cluster.answer (run.reportRequest space status)).1 = next at others stored dated
  have finds : (run.reported space (toString (cluster.version + 1)) status).finds space next = .ok lookup :=
    (finds_congr run fun label => others _ (by simp)).trans ready.finds
  have look : next.look Pod.ofJson? ⟨.pod, space, run.name⟩ = .ok pod :=
    (Cluster.look_congr (others _ (by simp))).trans ready.look
  have adopted : (run.reported space (toString (cluster.version + 1)) status).Adopted space next :=
    (ready.adopted.congr (others _ (by simp))).reported _ status
  refine ⟨⟨⟨dated, stored, rfl, adopted.addresses, ?_⟩, adopted⟩, sees_eq_ok_iff.mpr ⟨finds, look⟩⟩
  intro found same
  cases finds.symm.trans same
  exact poised_reported planned space _

/-- Once the planned status is reported nothing is left to be done. -/
theorem outcome_reported (ready : Ready space run.name run lookup pod cluster)
    (unasked : (run.plan now lookup pod).createPod = false)
    (planned : (run.plan now lookup pod).status = some status) (later : String) (settings : Settings) :
    outcome later settings space run.name (cluster.answer (run.reportRequest space status)).1 =
      (cluster.answer (run.reportRequest space status)).1 := by
  have after := ready_reported ready planned
  cases finished : (run.reported space (toString (cluster.version + 1)) status).isCompleted with
  | true => exact after.inPlace.outcome_of_isCompleted finished later settings
  | false =>
      rw [after.outcome_eq finished, answered_carryOut,
        plan_reported planned unasked (ready.inPlace.poised lookup ready.finds).tempered space _ later]
      rfl

/-- Once the planned status is reported a reconciliation that starts over comes to the same end. -/
theorem settles_reported (ready : Ready space run.name run lookup pod cluster)
    (unasked : (run.plan now lookup pod).createPod = false)
    (planned : (run.plan now lookup pod).status = some status) (settings : Settings) :
    Settles settings space run.name cluster (cluster.answer (run.reportRequest space status)).1 := by
  intro first second
  have unfinished := not_isCompleted_of_plan (Or.inl (by rw [planned]; exact Option.some_ne_none status))
  obtain ⟨asks, same⟩ := timeless_plan first now run lookup pod
  rw [planned, Option.map_some] at same
  obtain ⟨other, replanned, equal⟩ := Option.map_eq_some_iff.mp same
  rw [outcome_reported ready unasked planned, ready.outcome_eq unfinished, answered_carryOut, asks, unasked,
    replanned]
  simp only [Bool.false_eq_true, if_false]
  rw [answered_report (Cluster.name_of_look ready.look)]
  exact alike_reports ready.inPlace.dated ready.inPlace.stored replanned planned equal

/-- A status that lets a client connect, or that names another pod, is reported when there is a pod. -/
theorem founded_reported (ready : Ready space run.name run lookup pod cluster)
    (unasked : (run.plan now lookup pod).createPod = false)
    (planned : (run.plan now lookup pod).status = some status) :
    Founded space run.name cluster (cluster.answer (run.reportRequest space status)).1 := by
  intro earlier later was reported changed grants
  cases ready.inPlace.stored.symm.trans was
  cases (ready_reported ready planned).inPlace.stored.symm.trans reported
  obtain ⟨seen, rfl⟩ := Option.isSome_iff_exists.mp (isSome_of_plan planned unasked grants)
  obtain ⟨object, there, _⟩ := Cluster.find?_of_look_some ready.look
  rw [there]
  exact Option.some_ne_none object

/-- A reconciliation can be resumed once its status is reported. -/
theorem resumes_reported (ready : Ready space run.name run lookup pod cluster)
    (unasked : (run.plan now lookup pod).createPod = false)
    (planned : (run.plan now lookup pod).status = some status) (settings : Settings) :
    Resumes settings space run.name cluster (cluster.answer (run.reportRequest space status)).1 :=
  ⟨settles_reported ready unasked planned settings, founded_reported ready unasked planned⟩

end Report

end Turnstile.Run
