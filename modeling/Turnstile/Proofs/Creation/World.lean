/-
Module: Turnstile.Proofs.Creation.World
Purpose: The pod of a run is created once, and once more for every loss that comes before its record and for every
  reconciliation from an outdated copy.
Main exports: Creation.Passes, Creation.tending_outline, Creation.Accounted.creates_iff, Creation.World,
  Creation.World.Step, Creation.World.Reachable, Creation.World.Reachable.sound
-/
import Turnstile.Proofs.Creation.Account
import Turnstile.Proofs.Run.Grounds
import Turnstile.Proofs.Run.Settlement

/-!
One run is looked after in a world.  Its reconciliations follow one another; any request may fail or lose its
reply, and a reconciliation may be given up at any time.  Others come in between any two requests.  A reconciliation
starts from the run as it is stored then, or from a copy that was stored before.  A copy may be outdated, so that
nothing tells of a pod that was recorded since; but the status that is planned from it is not accepted, and it asks
for the pod once at most.
-/

namespace Turnstile.Creation

open Cluster

variable {space name : String} {outdated : Nat} {history start later : History} {run : Run}

/-! ### The reconciliation keeps the account -/

/-- What others do while a reconciliation waits. -/
inductive Passes (space name : String) : History → History → Prop where
  | rest (history : History) : Passes space name history history
  | step {history later : History} {request : Request} (passes : Passes space name history later)
      (bystander : Bystander space name later request) : Passes space name history (later.ask request)

theorem Passes.trans {first second third : History} (earlier : Passes space name first second)
    (further : Passes space name second third) : Passes space name first third := by
  induction further with
  | rest => exact earlier
  | step passes bystander inductionHypothesis => exact inductionHypothesis.step bystander

theorem Passes.since {final : History} (passes : Passes space name history final) : history <:+ final := by
  induction passes with
  | rest => exact List.suffix_refl _
  | step passes bystander inductionHypothesis => exact inductionHypothesis.trans (List.suffix_cons _ _)

/-- What a reconciliation minds until it asks for the pod: the account is kept, and if the run is served by now
although its copy is not, bringing the pod back can be afforded. -/
structure Minds (space name : String) (outdated : Nat) (start : History) (run : Run) (later : History) : Prop where
  accounted : Accounted space name outdated later
  since : start <:+ later
  spare : ¬ run.IsServed → later.isServed space name = true → later.revivals space name < outdated

theorem Minds.passes {final : History} (minds : Minds space name outdated start run later)
    (passes : Passes space name later final) : Minds space name outdated start run final := by
  induction passes with
  | rest => exact minds
  | @step later request passes bystander inductionHypothesis =>
      have accounted := inductionHypothesis.accounted
      refine ⟨bystander.accounted accounted, inductionHypothesis.since.trans (List.suffix_cons _ _), ?_⟩
      intro open' served
      have uncreated := (effect_answer later.present request).find?_of_uncreated bystander.uncreated
      rw [History.ask, History.revivals_of_uncreated uncreated]
      cases before : later.isServed space name with
      | true => exact inductionHypothesis.spare open' before
      | false =>
          rw [bystander.unserved accounted before] at served
          cases served

/-- A request that leaves run and pod alone keeps in mind what is minded. -/
theorem Minds.next (minds : Minds space name outdated start run later) {request : Request} {next : Cluster}
    (effect : later.present.Effect request next)
    (same : next.find? ⟨.run, space, name⟩ = later.present.find? ⟨.run, space, name⟩)
    (pod : next.find? ⟨.pod, space, name⟩ = later.present.find? ⟨.pod, space, name⟩) :
    Minds space name outdated start run (next :: later) where
  accounted := minds.accounted.step_of_same effect same fun absent present => absurd (pod.trans absent) present
  since := minds.since.trans (List.suffix_cons _ _)
  spare := by
    intro open' served
    rw [History.revivals_of_uncreated pod.trans]
    cases before : later.isServed space name with
    | true => exact minds.spare open' before
    | false =>
        rw [History.isServed_cons_of_same before same] at served
        cases served

theorem Minds.stutter (minds : Minds space name outdated start run later) :
    Minds space name outdated start run (later.present :: later) :=
  minds.next (.nothing (.get default)) rfl rfl

/-- What holds at the stages of a reconciliation. -/
def Tending (space name : String) (outdated : Nat) (start : History) (run : Run) : Run.Stage → History → Prop
  | .asked _ _, later => start <:+ later
  | .made _ _, later => start <:+ later
  | .finished, _ => True
  | _, later => Minds space name outdated start run later

/-- The pod is asked for only for a run that is not served. -/
theorem not_isServed_of_createPod {now : String} {lookup : Lookup} {pod : Option Pod}
    (planned : (run.plan now lookup pod).createPod = true) : ¬ run.IsServed := by
  have unfinished := Run.not_isCompleted_of_plan (Or.inr planned)
  obtain ⟨moved, verdict, _⟩ := Run.plan_of_open unfinished now lookup pod
  rw [planned] at verdict
  rintro (recorded | finished)
  · rw [verdict.of_createPod.1] at recorded
    cases recorded
  · rw [unfinished] at finished
    cases finished

/-- The status that a reconciliation writes keeps the account. -/
theorem accounted_of_report (accounted : Accounted space run.name outdated later) {cluster : Cluster}
    (member : cluster ∈ later) (copied : cluster.run? space run.name = some run) {now : String} {lookup : Lookup}
    {pod : Option Pod} {status : RunStatus} (planned : (run.plan now lookup pod).status = some status)
    {next : Cluster}
    (effect : later.present.Effect
      (.patchStatus ⟨.run, space, run.name⟩ (Attempt.statusPatch run.metadata status.toJson)) next) :
    Accounted space run.name outdated (next :: later) := by
  rcases Run.of_report accounted.served member copied effect with same | ⟨stored, reported⟩
  · rw [same]
    exact accounted.stutter
  · obtain ⟨unfinished, coherent, coded, housed, _⟩ :=
      Run.status_of_plan (accounted.coherent run stored) planned
    obtain ⟨after, now', known, named, _⟩ := reported coded housed
    have standing : after.standing = status := by rw [Run.standing, known]; rfl
    apply accounted.step effect
    · intro object found
      rw [run?, found] at now'
      exact ⟨after, now', named⟩
    · intro other there
      cases there.symm.trans now'
      rw [standing]
      exact coherent
    · intro served other there
      cases there.symm.trans now'
      rcases accounted.lasting served run stored with recorded | finished
      · apply Or.inl
        rw [standing, Option.isSome_iff_ne_none]
        intro unset
        rw [housed unset] at recorded
        cases recorded
      · rw [unfinished] at finished
        cases finished
    · intro absent present
      rw [effect.find?_of_kind (by decide : Kind.run ≠ .pod)] at present
      exact absurd absent present

/-- A reconciliation that starts from a copy of the run keeps the account, whatever others do meanwhile. -/
theorem tending_outline (outdated : Nat) (now : String) (settings : Settings) {cluster : Cluster}
    (seen : cluster ∈ start) (copied : cluster.run? space run.name = some run) :
    Run.Outline (Accounted space run.name outdated) (Passes space run.name) now settings space run
      (Tending space run.name outdated start run) where
  stutters := fun later accounted => accounted.stutter
  stays := by
    intro stage later final holds passes
    cases stage with
    | finished => trivial
    | asked => exact List.IsSuffix.trans holds passes.since
    | made => exact List.IsSuffix.trans holds passes.since
    | _ => exact Minds.passes holds passes
  completed := fun _ _ _ => trivial
  adopts := by
    intro later request cluster reply (minds : Minds ..) accounted spares answer
    have next : Minds space run.name outdated start run (cluster :: later) :=
      minds.next answer.effect (spares.find?_eq answer.effect (by simp) space run.name)
        (spares.find?_eq answer.effect (by simp) space run.name)
    exact ⟨next.accounted, next⟩
  unspecified := fun _ _ minds => minds
  notFound := fun _ (minds : Minds ..) _ => minds.stutter
  found := fun _ (minds : Minds ..) _ => minds.stutter
  houses := fun (minds : Minds ..) _ => minds.stutter
  unhoused := fun (minds : Minds ..) _ => minds.stutter
  creates := by
    intro later workspace pod desired cluster reply (minds : Minds ..) accounted planned built answer
    have same := answer.effect.find?_of_kind (by decide : Kind.pod ≠ .run) space run.name
    refine ⟨accounted.step_of_same answer.effect same ?_, minds.since.trans (List.suffix_cons _ _)⟩
    exact fun _ _ => minds.spare (not_isServed_of_createPod planned)
  rests := fun since => List.IsSuffix.trans since (List.suffix_cons _ _)
  created := fun since _ _ => since
  spared := fun (minds : Minds ..) _ => minds.since
  writes := by
    intro later lookup pod status cluster reply since accounted planned answer
    exact ⟨accounted_of_report accounted (List.IsSuffix.subset since seen) copied planned answer.effect,
      fun _ _ => trivial⟩
  unchanged := fun _ _ => trivial

/-- A reconciliation that succeeds creates the pod exactly if there is none and the run is due. -/
theorem Accounted.creates_iff (accounted : Accounted space run.name outdated history) {now : String}
    {settings : Settings} {final : History} (stored : history.present.run? space run.name = some run)
    (serves : Program.Serves (run.reconcile now settings space) history final (.ok ())) :
    final.creations ⟨.pod, space, run.name⟩ = history.creations ⟨.pod, space, run.name⟩ + 1 ↔
      run.isCompleted = false ∧ history.present.find? ⟨.pod, space, run.name⟩ = none ∧
        ∃ label workspace, run.workspaceName? = some label ∧
          history.present.workspace? space label = some workspace ∧ run.Due workspace := by
  cases finished : run.isCompleted with
  | true =>
      have idle : run.reconcile now settings space = pure () := by rw [Run.reconcile, if_pos finished]
      rw [idle] at serves
      cases serves
      constructor
      · intro more
        omega
      · rintro ⟨impossible, _⟩
        cases impossible
  | false =>
      have coherent := accounted.coherent run stored
      have underway := Run.underway_of_open coherent finished
      obtain ⟨lookup, pod, settled⟩ := Run.settled_of_serves accounted.served stored coherent finished serves
      have planned := Run.createPod_iff underway finished now lookup pod
      obtain ⟨finds, houses⟩ := settled.observes
      rw [settled.created]
      constructor
      · intro more
        have asked : (run.plan now lookup pod).createPod = true := by
          by_contra spared
          rw [if_neg spared] at more
          omega
        obtain ⟨rfl, workspace, rfl, due⟩ := planned.mp asked
        cases houses with
        | empty absent =>
            cases finds with
            | found labelled there => exact ⟨rfl, absent, _, _, labelled, there, due⟩
      · rintro ⟨_, absent, label, workspace, labelled, there, due⟩
        have asked : (run.plan now lookup pod).createPod = true := by
          refine planned.mpr ⟨?_, workspace, finds.eq_found labelled there, due⟩
          cases houses with
          | empty => rfl
          | occupied stored =>
              rw [pod?, absent] at stored
              cases stored
        rw [if_pos asked]

/-! ### Worlds -/

/-- A cluster with its history, the reconciliation of the run that is under way, if any, and how many of them started
from a copy that may have been outdated. -/
structure World where
  history : History := []
  underWay : Option (Program (Except ReconcileFailure Unit)) := none
  outdated : Nat := 0

namespace World

/-- How a world moves. -/
inductive Step (space name : String) : World → World → Prop where
  | outside {world : World} {request : Request} (bystander : Bystander space name world.history request) :
      Step space name world { world with history := world.history.ask request }
  | start {history : History} {outdated : Nat} {run : Run} (now : String) (settings : Settings)
      (stored : history.present.run? space name = some run) :
      Step space name ⟨history, none, outdated⟩ ⟨history, some (run.reconcile now settings space), outdated⟩
  | startLate {history : History} {outdated : Nat} {cluster : Cluster} {run : Run} (now : String)
      (settings : Settings) (seen : cluster ∈ history) (copied : cluster.run? space name = some run) :
      Step space name ⟨history, none, outdated⟩ ⟨history, some (run.reconcile now settings space), outdated + 1⟩
  | serve {history : History} {outdated : Nat} {request : Request}
      {next : Except ApiError Json → Program (Except ReconcileFailure Unit)} {cluster : Cluster}
      {reply : Except ApiError Json} (served : Reply history.present request cluster reply) :
      Step space name ⟨history, some (.call request next), outdated⟩ ⟨cluster :: history, some (next reply), outdated⟩
  | stop {history : History} {outdated : Nat} {program : Program (Except ReconcileFailure Unit)} :
      Step space name ⟨history, some program, outdated⟩ ⟨history, none, outdated⟩

/-- The worlds that are reached from the empty one. -/
inductive Reachable (space name : String) : World → Prop where
  | start : Reachable space name {}
  | step {world next : World} (reachable : Reachable space name world) (step : Step space name world next) :
      Reachable space name next

/-- The account is kept, and what is under way goes on keeping it. -/
structure Sound (space name : String) (world : World) : Prop where
  accounted : Accounted space name world.outdated world.history
  abides : ∀ program ∈ world.underWay,
    program.Abides (Accounted space name world.outdated) (Passes space name) (fun _ _ => True) world.history

/-- Every step keeps a world sound. -/
theorem Sound.step {world next : World} (sound : Sound space name world) (step : Step space name world next) :
    Sound space name next := by
  cases step with
  | outside bystander =>
      refine ⟨bystander.accounted sound.accounted, ?_⟩
      intro program member
      exact (sound.abides program member).moved Passes.trans (fun _ met => met)
        ((Passes.rest _).step bystander)
  | @start history outdated run now settings stored =>
      refine ⟨sound.accounted, ?_⟩
      rintro program member
      cases member
      obtain ⟨object, found, _⟩ := find?_of_run? stored
      have seen := History.present_mem found
      obtain rfl := sound.accounted.name_of_run? seen stored
      refine ((tending_outline outdated now settings seen stored).abides ?_).weaken fun _ _ _ => trivial
      exact ⟨sound.accounted, List.suffix_refl _, fun open' served =>
        absurd (sound.accounted.lasting served run stored) open'⟩
  | @startLate history outdated cluster run now settings seen copied =>
      have accounted := sound.accounted.weaken (Nat.le_succ outdated)
      refine ⟨accounted, ?_⟩
      rintro program member
      cases member
      obtain rfl := accounted.name_of_run? seen copied
      refine ((tending_outline (outdated + 1) now settings seen copied).abides ?_).weaken fun _ _ _ => trivial
      exact ⟨accounted, List.suffix_refl _, fun _ _ => Nat.lt_succ_of_le sound.accounted.afforded⟩
  | serve served =>
      obtain ⟨accounted, goesOn⟩ := sound.abides _ rfl _ (.rest _) sound.accounted _ _ served
      refine ⟨accounted, ?_⟩
      rintro program member
      cases member
      exact goesOn
  | stop => exact ⟨sound.accounted, by simp⟩

theorem Reachable.sound {world : World} (reachable : Reachable space name world) : Sound space name world := by
  induction reachable with
  | start => exact ⟨accounted_start space name, by simp⟩
  | step reachable step inductionHypothesis => exact inductionHypothesis.step step

/-- In every reachable world the pod was created once at most, once more for every loss that came before its record,
and once more for every time that it was brought back; and that took a reconciliation from an outdated copy each
time.  While nothing is on record the count is exact; once something is, no pod comes into being any more, if all
reconciliations started from the run as it was stored.  Such a reconciliation that succeeds creates the pod exactly if
there is none and the run is due. -/
theorem creations_of_reachable {world : World} (reachable : Reachable space name world) :
    (world.history.creations ⟨.pod, space, name⟩ ≤
        world.history.losses space name + 1 + world.history.revivals space name ∧
      world.history.revivals space name ≤ world.outdated) ∧
      (world.history.isServed space name = false →
        world.history.creations ⟨.pod, space, name⟩ = world.history.losses space name +
          if (world.history.present.find? ⟨.pod, space, name⟩).isSome then 1 else 0) ∧
      (world.outdated = 0 → ∀ (next : Cluster) (earlier : History), next :: earlier <:+ world.history →
        earlier.isServed space name = true →
        History.creations ⟨.pod, space, name⟩ (next :: earlier) = earlier.creations ⟨.pod, space, name⟩) ∧
      ∀ run now settings final, world.history.present.run? space name = some run →
        Program.Serves (run.reconcile now settings space) world.history final (.ok ()) →
        (final.creations ⟨.pod, space, name⟩ = world.history.creations ⟨.pod, space, name⟩ + 1 ↔
          run.isCompleted = false ∧ world.history.present.find? ⟨.pod, space, name⟩ = none ∧
            ∃ label workspace, run.workspaceName? = some label ∧
              world.history.present.workspace? space label = some workspace ∧ run.Due workspace) := by
  have accounted := reachable.sound.accounted
  refine ⟨⟨accounted.bounded, accounted.afforded⟩, accounted.counted, ?_, ?_⟩
  · intro current next earlier before served
    exact History.creations_of_unrevived (Nat.le_zero.mp (current ▸ accounted.afforded)) before served
  · intro run now settings final stored serves
    obtain ⟨object, found, _⟩ := find?_of_run? stored
    obtain rfl := accounted.name_of_run? (History.present_mem found) stored
    exact accounted.creates_iff stored serves

/-! ### A pod that is created twice -/

/-- A reconciliation that is served without interruption moves a world on, and is over. -/
theorem Reachable.serves {program : Program (Except ReconcileFailure Unit)} {final : History}
    {value : Except ReconcileFailure Unit} (served : Program.Serves program history final value)
    (reachable : Reachable space name ⟨history, some program, outdated⟩) :
    Reachable space name ⟨final, none, outdated⟩ := by
  induction served with
  | done => exact reachable.step .stop
  | call served rest inductionHypothesis => exact inductionHypothesis (reachable.step (.serve served))

theorem Reachable.ask (reachable : Reachable space name ⟨history, none, outdated⟩) (request : Request)
    (checked : tolerates space name history request = true) :
    Reachable space name ⟨history.ask request, none, outdated⟩ :=
  reachable.step (.outside (.of_tolerates checked))

theorem Reachable.reconcileRun (reachable : Reachable space name ⟨history, none, outdated⟩) (now : String)
    (fails : Request → Bool) : Reachable space name ⟨history.reconcileRun now space name fails, none, outdated⟩ := by
  unfold History.reconcileRun History.reconcileCopy
  split
  · exact reachable
  · rename_i run stored
    exact (reachable.step (.start now {} stored)).serves (Program.serves_play fails _ _)

theorem Reachable.reconcileCopy (reachable : Reachable space name ⟨history, none, outdated⟩) {cluster : Cluster}
    (seen : cluster ∈ history) {run : Run} (copied : cluster.run? space name = some run) (now : String)
    (fails : Request → Bool) :
    Reachable space name ⟨history.reconcileCopy cluster now space name fails, none, outdated + 1⟩ := by
  rw [History.reconcileCopy, copied]
  exact (reachable.step (.startLate now {} seen copied)).serves (Program.serves_play fails _ _)

/-- The report that a run leads the queue of its workspace. -/
def heading : Request :=
  .patchStatus ⟨.workspace, "team", "dev"⟩
    (.object [("status", ({ queue := ["run-a"] } : WorkspaceStatus).toJson)])

/-- A run that leads the queue of its workspace. -/
@[irreducible] def headed : History :=
  ((History.ask [] (.founding "team" "dev")).ask (.submission "team" "dev" "run-a" .plan)).ask heading

/-- The status of the run is not written after its pod was created, and the pod is deleted. -/
@[irreducible] def lost : History :=
  (headed.reconcileRun "T1" "team" "run-a" fun request => request.verb == .patchStatus)
    |>.ask (.delete ⟨.pod, "team", "run-a"⟩)

/-- The run is reconciled once more. -/
@[irreducible] def recreated : History :=
  lost.reconcileRun "T2" "team" "run-a" fun _ => false

theorem reachable_headed : Reachable "team" "run-a" ⟨headed, none, 0⟩ := by
  have empty : Reachable "team" "run-a" ⟨[], none, 0⟩ := .start
  have founded := empty.ask (.founding "team" "dev") (by decide +kernel)
  have submitted := founded.ask (.submission "team" "dev" "run-a" .plan) (by decide +kernel)
  have leading := submitted.ask heading (by decide +kernel)
  rw [headed]
  exact leading

theorem reachable_recreated :
    Reachable "team" "run-a" ⟨lost, none, 0⟩ ∧ Reachable "team" "run-a" ⟨recreated, none, 0⟩ := by
  have deleted := (reachable_headed.reconcileRun "T1" fun request => request.verb == .patchStatus).ask
    (.delete ⟨.pod, "team", "run-a"⟩) (by decide +kernel)
  rw [recreated, lost]
  exact ⟨deleted, deleted.reconcileRun "T2" _⟩

/-- The run whose pod was lost is due once more. -/
theorem creations_of_reachable_lost : Reachable "team" "run-a" ⟨lost, none, 0⟩ ∧
    lost.creations ⟨.pod, "team", "run-a"⟩ ≤ lost.losses "team" "run-a" + 1 ∧
    ∃ run, lost.present.run? "team" "run-a" = some run ∧
      Program.Serves (run.reconcile "T2" {} "team") lost recreated (.ok ()) ∧
      ∃ label workspace, run.workspaceName? = some label ∧
        lost.present.workspace? "team" label = some workspace ∧ run.Due workspace := by
  obtain ⟨⟨bounded, afforded⟩, _, _, creates⟩ := creations_of_reachable reachable_recreated.1
  refine ⟨reachable_recreated.1, Nat.le_trans bounded (Nat.add_le_add_left afforded _), ?_⟩
  obtain ⟨run, stored, serves⟩ := History.exists_reconcileRun
    (by decide +kernel : ((lost.present.run? "team" "run-a").any fun run =>
      ((run.reconcile "T2" {} "team").play (fun _ => false) lost).2.toBool) = true)
  obtain ⟨_, _, due⟩ := (creates run "T2" {} _ stored serves).mp (by decide +kernel)
  rw [recreated]
  exact ⟨run, stored, serves, due⟩

/-- The pod of a run may be created twice, although every reconciliation starts from the run as it is stored. -/
theorem creations_recreated : ¬ ∀ world : World, Reachable "team" "run-a" world → world.outdated = 0 →
    world.history.creations ⟨.pod, "team", "run-a"⟩ ≤ 1 := by
  intro once
  exact absurd (once ⟨recreated, none, 0⟩ reachable_recreated.2 rfl) (by decide +kernel)

/-- The pod is recorded and deleted, and the run is reconciled from a copy of before. -/
@[irreducible] def revived : History :=
  ((headed.reconcileRun "T1" "team" "run-a" fun _ => false).ask (.delete ⟨.pod, "team", "run-a"⟩)).reconcileCopy
    headed.present "T2" "team" "run-a" fun _ => false

/-- From an outdated copy the pod is created twice although it was recorded before it was lost. -/
theorem creations_revived : Reachable "team" "run-a" ⟨revived, none, 1⟩ ∧
    revived.losses "team" "run-a" = 0 ∧ revived.creations ⟨.pod, "team", "run-a"⟩ = 2 := by
  have recorded := (reachable_headed.reconcileRun "T1" fun _ => false).ask (.delete ⟨.pod, "team", "run-a"⟩)
    (by decide +kernel)
  obtain ⟨run, copied⟩ := Option.isSome_iff_exists.mp
    (by decide +kernel : (headed.present.run? "team" "run-a").isSome = true)
  obtain ⟨object, found, _⟩ := find?_of_run? copied
  have since : headed <:+ (headed.reconcileRun "T1" "team" "run-a" fun _ => false).ask
      (.delete ⟨.pod, "team", "run-a"⟩) :=
    (headed.suffix_reconcileCopy _ _ _ _ _).trans (List.suffix_cons _ _)
  have late := recorded.reconcileCopy (since.subset (History.present_mem found)) copied "T2" fun _ => false
  rw [revived]
  exact ⟨late, by decide +kernel, by decide +kernel⟩

end World

end Turnstile.Creation
