/-
Module: Turnstile.Proofs.Run.Settlement
Purpose: What a reconciliation makes of a run, if nobody comes between.
Main exports: Run.Finds, Cluster.Houses, Run.Observes, Run.Still, Run.Settled, Run.settling_outline,
  Run.settled_of_serves
-/
import Turnstile.Proofs.Cluster.Report
import Turnstile.Proofs.Run.Life
import Turnstile.Proofs.Run.Outline

/-!
A reconciliation that is served without interruption carries out the plan that belongs to its copy of the run and
to the cluster at its start.  If it succeeds, the pod was created exactly if that was planned, and a run that it
saw as it is stored stands where the plan leaves it.
-/

namespace Turnstile

/-- The pod of a name is found as the cluster has it. -/
inductive Cluster.Houses (cluster : Cluster) (space name : String) : Option Pod → Prop where
  | empty (absent : cluster.find? ⟨.pod, space, name⟩ = none) : cluster.Houses space name none
  | occupied {pod : Pod} (stored : cluster.pod? space name = some pod) : cluster.Houses space name (some pod)

namespace Run

open Cluster

/-- The workspace of the run is found as the cluster has it. -/
inductive Finds (cluster : Cluster) (space : String) (run : Run) : Lookup → Prop where
  | unspecified (unlabelled : run.workspaceName? = none) : Finds cluster space run .unspecified
  | notFound {name : String} (labelled : run.workspaceName? = some name)
      (absent : cluster.find? ⟨.workspace, space, name⟩ = none) : Finds cluster space run (.notFound name)
  | found {name : String} {workspace : Workspace} (labelled : run.workspaceName? = some name)
      (stored : cluster.workspace? space name = some workspace) : Finds cluster space run (.found workspace)

/-- A workspace that is stored is found. -/
theorem Finds.eq_found {cluster : Cluster} {space label : String} {run : Run} {lookup : Lookup}
    (finds : run.Finds cluster space lookup) (labelled : run.workspaceName? = some label) {workspace : Workspace}
    (stored : cluster.workspace? space label = some workspace) : lookup = .found workspace := by
  cases finds with
  | unspecified unlabelled =>
      rw [labelled] at unlabelled
      cases unlabelled
  | notFound other absent =>
      cases labelled.symm.trans other
      rw [workspace?, absent] at stored
      cases stored
  | found other there =>
      cases labelled.symm.trans other
      cases stored.symm.trans there
      rfl

/-- Workspace and pod of the run are found as the cluster has them. -/
structure Observes (cluster : Cluster) (space : String) (run : Run) (lookup : Lookup) (pod : Option Pod) :
    Prop where
  workspace : run.Finds cluster space lookup
  pod : cluster.Houses space run.name pod

/-- Since the start no run and no workspace has changed. -/
structure Kept (space : String) (start later : History) : Prop where
  since : start <:+ later
  run : ∀ name, later.present.find? ⟨.run, space, name⟩ = start.present.find? ⟨.run, space, name⟩
  workspace : ∀ name,
    later.present.find? ⟨.workspace, space, name⟩ = start.present.find? ⟨.workspace, space, name⟩

/-- Since the start no run, no workspace and no pod has changed. -/
structure Still (space : String) (start later : History) : Prop extends Kept space start later where
  pod : ∀ name, later.present.find? ⟨.pod, space, name⟩ = start.present.find? ⟨.pod, space, name⟩
  creations : ∀ name, later.creations ⟨.pod, space, name⟩ = start.creations ⟨.pod, space, name⟩

variable {space now : String} {settings : Settings} {start later : History} {run : Run}

theorem Still.refl (space : String) (start : History) : Still space start start :=
  ⟨⟨List.suffix_refl _, fun _ => rfl, fun _ => rfl⟩, fun _ => rfl, fun _ => rfl⟩

/-- A request that changes no run, no workspace and no pod keeps them still. -/
theorem Still.next (still : Still space start later) {next : Cluster}
    (same : ∀ kind, kind = .workspace ∨ kind = .run ∨ kind = .pod → ∀ name,
      next.find? ⟨kind, space, name⟩ = later.present.find? ⟨kind, space, name⟩) :
    Still space start (next :: later) where
  since := still.since.trans (List.suffix_cons _ _)
  run := fun name => (same .run (by simp) name).trans (still.run name)
  workspace := fun name => (same .workspace (by simp) name).trans (still.workspace name)
  pod := fun name => (same .pod (by simp) name).trans (still.pod name)
  creations := fun name =>
    (History.creations_of_same (same .pod (by simp) name)).trans (still.creations name)

theorem Still.rests (still : Still space start later) : Still space start (later.present :: later) :=
  still.next fun _ _ _ => rfl

/-- What a reconciliation has come to when it is done. -/
structure Settled (space now : String) (start later : History) (run : Run) (lookup : Lookup)
    (pod : Option Pod) : Prop where
  observes : run.Observes start.present space lookup pod
  created : later.creations ⟨.pod, space, run.name⟩ =
    start.creations ⟨.pod, space, run.name⟩ + if (run.plan now lookup pod).createPod then 1 else 0
  spared : (run.plan now lookup pod).createPod = false →
    ∀ name, later.present.find? ⟨.pod, space, name⟩ = start.present.find? ⟨.pod, space, name⟩
  stands : start.present.run? space run.name = some run →
    ∃ after, later.present.run? space run.name = some after ∧
      after.standing = (run.plan now lookup pod).status.getD run.standing

/-- What holds at the stages of a reconciliation that is served without interruption. -/
def Settling (space now : String) (start : History) (run : Run) : Stage → History → Prop
  | .adopting, later => Still space start later
  | .looked lookup, later => Still space start later ∧ run.Finds start.present space lookup
  | .housed lookup pod, later => Still space start later ∧ run.Observes start.present space lookup pod
  | .asked lookup pod, later =>
    Kept space start later ∧ run.Observes start.present space lookup pod ∧
      later.creations ⟨.pod, space, run.name⟩ = start.creations ⟨.pod, space, run.name⟩ +
        if (later.present.find? ⟨.pod, space, run.name⟩).isSome then 1 else 0
  | .made lookup pod, later =>
    Kept space start later ∧ run.Observes start.present space lookup pod ∧
      ((run.plan now lookup pod).createPod = false → Still space start later) ∧
      later.creations ⟨.pod, space, run.name⟩ = start.creations ⟨.pod, space, run.name⟩ +
        if (run.plan now lookup pod).createPod then 1 else 0
  | .finished, later => ∃ lookup pod, Settled space now start later run lookup pod

/-- The pod is asked for only if none was found. -/
theorem none_of_createPod {lookup : Lookup} {pod : Option Pod}
    (planned : (run.plan now lookup pod).createPod = true) : pod = none := by
  obtain ⟨moved, verdict, _⟩ := plan_of_open (not_isCompleted_of_plan (Or.inr planned)) now lookup pod
  generalize (run.plan now lookup pod).createPod = asked at verdict planned
  cases verdict with
  | leads message found unsettled first admitted => exact Option.isNone_iff_eq_none.mp planned
  | _ => cases planned

/-- A reconciliation from a copy of a run that is not over settles it, if it is served without interruption. -/
theorem settling_outline (now : String) (settings : Settings) {cluster : Cluster} (member : cluster ∈ start)
    (copied : cluster.run? space run.name = some run) (coherent : run.standing.Coherent run.name)
    (unfinished : run.isCompleted = false) :
    Outline History.Served Eq now settings space run (Settling space now start run) where
  stutters := fun later served => served.step (.nothing (.get default))
  stays := fun holds same => same ▸ holds
  completed := fun finished => absurd finished (by simp [unfinished])
  adopts := fun (still : Still ..) served spares reply =>
    ⟨served.step reply.effect, still.next fun _ kind => spares.find?_eq reply.effect kind space⟩
  unspecified := fun unlabelled _ still => ⟨still, .unspecified unlabelled⟩
  notFound := fun labelled (still : Still ..) absent =>
    ⟨still.rests, .notFound labelled ((still.workspace _).symm.trans absent)⟩
  found := fun labelled (still : Still ..) there =>
    ⟨still.rests, .found labelled (by rw [← workspace?_congr (still.workspace _)]; exact there)⟩
  houses := by
    rintro later lookup pod ⟨still, finds⟩ there
    refine ⟨still.rests, finds, .occupied ?_⟩
    rw [pod?, ← still.pod]
    exact there
  unhoused := by
    rintro later lookup ⟨still, finds⟩ absent
    exact ⟨still.rests, finds, .empty ((still.pod _).symm.trans absent)⟩
  creates := by
    rintro later workspace pod desired cluster reply ⟨still, observes⟩ served planned built answer
    refine ⟨served.step answer.effect, ⟨still.since.trans (List.suffix_cons _ _), ?_, ?_⟩, observes, ?_⟩
    · intro name
      exact (answer.effect.find?_of_kind (by decide : Kind.pod ≠ .run) space name).trans (still.run name)
    · intro name
      exact (answer.effect.find?_of_kind (by decide : Kind.pod ≠ .workspace) space name).trans
        (still.workspace name)
    · have nothing := observes.pod
      rw [none_of_createPod planned] at nothing
      cases nothing with
      | empty absent => rw [History.creations_of_absent ((still.pod _).trans absent), still.creations,
          History.present_cons]
  rests := by
    rintro later lookup pod ⟨kept, observes, counted⟩
    refine ⟨⟨kept.since.trans (List.suffix_cons _ _), kept.run, kept.workspace⟩, observes, ?_⟩
    rw [History.creations_of_same rfl]
    exact counted
  created := by
    rintro later lookup pod ⟨kept, observes, counted⟩ planned present
    refine ⟨kept, observes, fun spared => ?_, ?_⟩
    · rw [planned] at spared
      cases spared
    · rw [counted, planned, Option.isSome_iff_ne_none.mpr present]
  spared := by
    rintro later lookup pod ⟨still, observes⟩ spared
    refine ⟨still.toKept, observes, fun _ => still, ?_⟩
    rw [still.creations, spared]
    rfl
  writes := by
    rintro later lookup pod status cluster reply ⟨kept, observes, spared, counted⟩ served planned answer
    refine ⟨served.step answer.effect, ?_⟩
    rintro json rfl
    rcases of_report served (kept.since.subset member) copied answer.effect with same | ⟨_, reported⟩
    · exact absurd same (answer.ne_of_ok rfl)
    · obtain ⟨_, _, coded, housed, _⟩ := status_of_plan coherent planned
      obtain ⟨after, now', known, _⟩ := reported coded housed
      have pods := answer.effect.find?_of_kind (by decide : Kind.run ≠ .pod) space
      refine ⟨lookup, pod, observes, ?_, ?_, fun _ => ⟨after, now', ?_⟩⟩
      · exact (History.creations_of_same (pods run.name)).trans counted
      · exact fun unasked name => (pods name).trans ((spared unasked).pod name)
      · rw [standing, known, planned]
        rfl
  unchanged := by
    rintro later lookup pod ⟨kept, observes, spared, counted⟩ planned
    refine ⟨lookup, pod, observes, counted, fun unasked => (spared unasked).pod, fun stored => ⟨run, ?_, ?_⟩⟩
    · rw [run?_congr (kept.run _)]
      exact stored
    · rw [planned]
      rfl

/-- A reconciliation that succeeds without interruption has settled the run. -/
theorem settled_of_serves {final : History} (served : start.Served)
    (stored : start.present.run? space run.name = some run) (coherent : run.standing.Coherent run.name)
    (unfinished : run.isCompleted = false)
    (serves : Program.Serves (run.reconcile now settings space) start final (.ok ())) :
    ∃ lookup pod, Settled space now start final run lookup pod := by
  obtain ⟨object, found, _⟩ := find?_of_run? stored
  have outline := settling_outline now settings (History.present_mem found) stored coherent unfinished
  exact (Program.Abides.of_serves serves (fun _ => rfl) served (outline.abides (Still.refl space start))).2 () rfl

end Run

end Turnstile
