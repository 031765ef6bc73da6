/-
Module: Turnstile.Proofs.Execution.System
Purpose: How far one run of a workspace executes at a time, if whole reconciliations follow one another.
Main exports: Execution.Others, Execution.Reached, Execution.Reached.guarded, Execution.IsExecuting,
  Execution.IsExecuting.cases, Execution.IsExecuting.ends_iff
-/
import Turnstile.Proofs.Execution.Guarded
import Turnstile.Proofs.Run.Settlement
import Turnstile.Proofs.Turn.Controllers
import Turnstile.Proofs.Turn.Outside

/-!
Reconciliations start from what is stored, or from a copy of what was stored before, and follow one another, each
served without interruption; any of their requests may fail.  In between, others submit runs, edit workspaces,
take away or bring back what workspaces refer to, let runners start and terminate, and delete pods.  They remove
no run and no workspace, create no pod, and restart no runner that has terminated.

One run of a workspace executes at a time, unless a run was cut off while it executed.  That happens when a run
is reconciled after its workspace has become unhealthy before it could be attached to, or after its command has
become privileged without an approval; its pod stays, and the next run comes up.  Only a reconciliation from an
outdated copy does more: a run that is over but still heads the queue gets its pod once more.
-/

namespace Turnstile.Execution

open Cluster Turn

variable {space now : String} {settings : Settings} {current : Prop} {history start later : History} {run : Run}

/-- What others than the controllers may ask for. -/
structure Others (space : String) (history : History) (request : Request) : Prop
    extends Outside space history request where
  /-- Runs and workspaces are not removed. -/
  stays : ∀ kind, kind = .run ∨ kind = .workspace → ∀ name, history.present.find? ⟨kind, space, name⟩ ≠ none →
    (history.present.answer request).1.find? ⟨kind, space, name⟩ ≠ none
  /-- Pods are created by nobody else. -/
  uncreated : request.verb = .create → request.kind ≠ .pod
  /-- A runner that has terminated stays so. -/
  terminated : ∀ name, history.present.find? ⟨.pod, space, name⟩ ≠ none →
    (history.present.answer request).1.Executes space name → history.present.Executes space name

/-- The histories in which whole reconciliations follow one another.  They start from a copy of what is stored or was
stored before; where copies of runs are to be current, from the run as it is stored. -/
inductive Reached (space : String) (current : Prop) : History → Prop where
  | start : Reached space current []
  | outside {history : History} {request : Request} (reached : Reached space current history)
      (others : Others space history request) : Reached space current (history.ask request)
  | run {history final : History} {cluster : Cluster} {name : String} {run : Run} {now : String}
      {settings : Settings} {result : Except ReconcileFailure Unit} (reached : Reached space current history)
      (seen : cluster ∈ history) (copied : cluster.run? space name = some run)
      (asStored : current → history.present.run? space name = some run)
      (serves : Program.Serves (run.reconcile now settings space) history final result) :
      Reached space current final
  | workspace {history final : History} {cluster : Cluster} {name : String} {workspace : Workspace} {now : String}
      {settings : Settings} {result : Except ReconcileFailure Unit} (reached : Reached space current history)
      (seen : cluster ∈ history) (copied : cluster.workspace? space name = some workspace)
      (serves : Program.Serves (workspace.reconcile now settings space) history final result) :
      Reached space current final

/-! ### Every step is guarded -/

/-- Others take guarded steps. -/
theorem Others.guarded {request : Request} (others : Others space history request)
    (guarded : Guarded space current history) : Guarded space current (history.ask request) := by
  have effect := effect_answer history.present request
  refine guarded.step ⟨others.legal guarded.lawful, others.stays .run (by simp),
    others.stays .workspace (by simp), ?_, others.terminated, ?_⟩
  · intro name absent present
    exact absurd (effect.find?_of_uncreated
      (fun creates about => others.uncreated creates (kind_of_key? about)) absent) present
  · intro name before after was stored unfinished finished _
    have same := Run.status_of_unreported guarded.lawful.served effect
      (fun change => (others.unreported name change).1) was stored
    rw [Run.isCompleted_congr same, unfinished] at finished
    cases finished

/-- The pod that a reconciliation creates is that of a run that leads its workspace. -/
theorem guarded_of_create (guarded : Guarded space current later) {cluster : Cluster} (seen : cluster ∈ start)
    (copied : cluster.run? space run.name = some run)
    (asStored : current → start.present.run? space run.name = some run) {workspace : Workspace} {pod : Option Pod}
    {desired : Json} {next : Cluster}
    (housed : Run.Settling space now start run (.housed (.found workspace) pod) later)
    (planned : (run.plan now (.found workspace) pod).createPod = true)
    (built : run.manifest workspace settings = .ok desired)
    (effect : later.present.Effect (.create .pod space desired) next)
    (lawful : Lawful space (next :: later)) : Guarded space current (next :: later) := by
  obtain ⟨still, observes⟩ := housed
  have member := still.since.subset seen
  obtain ⟨stored, there, sameLabel⟩ := guarded.exists_run_of_mem member copied
  have unfinished := Run.not_isCompleted_of_plan (Or.inr planned)
  have isCurrent : current → stored.isCompleted = false := by
    intro holds
    have same := asStored holds
    rw [← run?_congr (still.run _), there] at same
    cases same
    exact unfinished
  cases lawful with
  | step lawful legal =>
      refine guarded.step (.of_kept legal (effect.find?_of_kind (by decide : Kind.pod ≠ .run) space)
        (fun _ => effect.find?_of_undeleted (by simp [Request.verb])) ?_ ?_)
      · intro name absent present
        by_cases own : name = run.name
        · subst own
          have underway := Run.underway_of_open (lawful.coherent_of_mem member copied) unfinished
          obtain ⟨_, found, same, due⟩ := (Run.createPod_iff underway unfinished _ _ _).mp planned
          cases same
          cases observes.workspace with
          | @found label _ labelled wasThere =>
              refine ⟨stored, there, ⟨label, workspace, ?_, ?_, Workspace.queuePosition?_eq_zero_iff.mp due.first⟩,
                isCurrent⟩
              · rw [Run.workspaceName?, sameLabel]
                exact labelled
              · rw [workspace?_congr (still.workspace _)]
                exact wasThere
        · have apart : (Request.create .pod space desired).key? ≠ some ⟨.pod, space, name⟩ := by
            rw [Request.key?, Run.createdKey_manifest built space]
            exact fun equal => own (congrArg Key.name (Option.some.inj equal)).symm
          rw [effect.find?_of_ne apart] at present
          exact absurd absent present
      · intro name present executes
        refine (executes_congr ?_).mp executes
        by_cases about : (Request.create .pod space desired).key? = some ⟨.pod, space, name⟩
        · cases effect with
          | nothing => rfl
          | creation absent =>
              rw [Option.some.inj about] at absent
              exact absurd absent present
        · exact effect.find?_of_ne about

/-- The pod of an executing run is found, and its runner has not terminated. -/
theorem exists_of_executes {cluster : Cluster} {name : String} {pod : Option Pod}
    (executes : cluster.Executes space name) (houses : cluster.Houses space name pod) :
    ∃ present, pod = some present ∧ present.exitCode? = none := by
  cases houses with
  | empty absent => exact absurd absent executes.1
  | @occupied present stored =>
      have running := executes.2
      rw [stored] at running
      exact ⟨present, rfl, running⟩

/-- A run whose status is written has the grounds on which it is ended, if it still executes. -/
theorem isCutOff_of_plan (guarded : Guarded space current later) {lookup : Lookup} {pod : Option Pod} {status : RunStatus}
    {after : Run} (stored : start.present.run? space run.name = some run)
    (made : Run.Settling space now start run (.made lookup pod) later)
    (planned : (run.plan now lookup pod).status = some status) (reported : after.status = some status)
    (finished : after.isCompleted = true) (executes : later.present.Executes space run.name) : after.IsCutOff := by
  obtain ⟨kept, observes, spared, _⟩ := made
  have there : later.present.run? space run.name = some run := by
    rw [run?_congr (kept.run _)]
    exact stored
  have unfinished := Run.not_isCompleted_of_plan (Or.inl (by rw [planned]; exact Option.some_ne_none status))
  have underway := Run.underway_of_open (guarded.lawful.coherent there) unfinished
  obtain ⟨moved, verdict, stands⟩ := Run.standing_of_plan unfinished now lookup pod
  have standing : after.standing = Run.greeted now run moved := by
    rw [Run.standing, reported, ← stands, planned]
    rfl
  have ended : Condition.isTrueFor moved.conditions Run.completed = true := by
    rw [← Run.isTrueFor_completed_greeted moved, ← standing, ← Run.isCompleted_eq_standing]
    exact finished
  obtain ⟨unasked, grounds⟩ := verdict.ending underway ended
  have still := spared unasked
  have executed := (executes_congr (still.pod run.name)).mp executes
  obtain ⟨finds, houses⟩ := observes
  obtain ⟨present, rfl, running⟩ := exists_of_executes executed houses
  obtain ⟨label, workspace, labelled, wasThere, _⟩ := guarded.leading there unfinished executes.1
  rw [workspace?_congr (kept.workspace label)] at wasThere
  cases finds.eq_found labelled wasThere
  refine ⟨finished, ?_⟩
  rw [Run.reason?, Run.conditions_eq_standing, standing,
    Run.find?_greeted_of_ne now run moved Run.clientReady_ne_completed]
  rcases grounds with ⟨reason, cause, because⟩ | ⟨code, terminated⟩
  · cases cause with
    | podDeleted _ gone recorded => cases gone
    | unhealthy _ running kept sick waiting => exact Or.inl because
    | unapproved _ unsettled first privileged refused => exact Or.inr because
  · rw [Option.bind_some, running] at terminated
    cases terminated

/-- The status that a reconciliation of a run writes is a guarded step. -/
theorem guarded_of_report (guarded : Guarded space current later) {cluster : Cluster} (seen : cluster ∈ start)
    (copied : cluster.run? space run.name = some run) {lookup : Lookup} {pod : Option Pod} {status : RunStatus}
    {next : Cluster} (made : Run.Settling space now start run (.made lookup pod) later)
    (planned : (run.plan now lookup pod).status = some status)
    (effect : later.present.Effect
      (.patchStatus ⟨.run, space, run.name⟩ (Attempt.statusPatch run.metadata status.toJson)) next)
    (lawful : Lawful space (next :: later)) : Guarded space current (next :: later) := by
  have pods := effect.find?_of_kind (by decide : Kind.run ≠ .pod) space
  rcases Run.of_report guarded.lawful.served (made.1.since.subset seen) copied effect with same | ⟨there, reported⟩
  · rw [same]
    exact guarded.stutter
  · -- What is accepted was written from the run as it is stored.
    have stored : start.present.run? space run.name = some run := by
      rw [← run?_congr (made.1.run _)]
      exact there
    obtain ⟨_, _, coded, housed, _⟩ := Run.status_of_plan (guarded.lawful.coherent there) planned
    obtain ⟨after, now', known, _⟩ := reported coded housed
    cases lawful with
    | step lawful legal =>
        refine guarded.step ⟨legal, fun _ => effect.find?_of_undeleted (by simp [Request.verb]),
          fun _ => effect.find?_of_undeleted (by simp [Request.verb]), ?_, ?_, ?_⟩
        · intro name absent present
          rw [pods] at present
          exact absurd absent present
        · intro name _ executes
          exact (executes_congr (pods name)).mp executes
        · intro name before later' was storedNow unfinished finished executes
          by_cases own : name = run.name
          · subst own
            cases storedNow.symm.trans now'
            have executed := (executes_congr (pods run.name)).mp executes
            exact isCutOff_of_plan guarded stored made planned known finished executed
          · rw [run?_congr (effect.find?_of_ne fun about =>
              own (congrArg Key.name (Option.some.inj about)).symm), was] at storedNow
            cases storedNow
            rw [unfinished] at finished
            cases finished

/-- A reconciliation of a run takes guarded steps only. -/
theorem guarded_run_outline (now : String) (settings : Settings) (guarded : Guarded space current start)
    {cluster : Cluster} (seen : cluster ∈ start) (copied : cluster.run? space run.name = some run)
    (asStored : current → start.present.run? space run.name = some run) (unfinished : run.isCompleted = false) :
    Run.Outline (Guarded space current) Eq now settings space run fun stage later =>
      Run.Settling space now start run stage later ∧ RunHolds space start run stage later := by
  have coherent := guarded.lawful.coherent_of_mem seen copied
  refine Run.Outline.join (Run.settling_outline now settings seen copied coherent unfinished)
    (run_outline now settings seen copied).alone (fun guarded => ⟨guarded.lawful.served, guarded.lawful⟩)
    (fun _ guarded => guarded.stutter) ?_ ?_ ?_
  · intro later request next reply guarded spares served _ lawful
    exact guarded.step_of_same lawful fun kind spared => spares.find?_eq served.effect spared space
  · intro later workspace pod desired next reply housed guarded planned built served _ lawful
    exact guarded_of_create guarded seen copied asStored housed planned built served.effect lawful
  · intro later lookup pod status next reply made guarded planned served _ lawful
    exact guarded_of_report guarded seen copied made planned served.effect lawful

/-- A reconciliation of a workspace takes guarded steps only. -/
theorem guarded_workspace_outline (current : Prop) (now : String) {cluster : Cluster} (seen : cluster ∈ start)
    {workspace : Workspace} {name : String} (copied : cluster.workspace? space name = some workspace) :
    Workspace.Outline (Guarded space current) (fun earlier later => earlier <:+ later) now space workspace
      (WorkspaceHolds space start workspace) := by
  have outline := workspace_outline now seen copied
  refine ⟨outline.stays, ?_, outline.lacks, ?_, ?_, outline.unchanged⟩
  · intro later request cluster reply holds guarded spares served
    obtain ⟨lawful, next⟩ := outline.prepares holds guarded.lawful spares served
    exact ⟨guarded.step_of_same lawful fun kind spared => spares.find?_eq served.effect spared space, next⟩
  · exact fun holds guarded served read => outline.lists holds guarded.lawful served read
  · intro later observation status cluster reply holds guarded planned served
    obtain ⟨lawful, finished⟩ := outline.writes holds guarded.lawful planned served
    have effect := served.effect
    have pods := effect.find?_of_kind (by decide : Kind.workspace ≠ .pod) space
    cases lawful with
    | step lawful legal =>
        refine ⟨guarded.step (.of_kept legal (effect.find?_of_kind (by decide : Kind.workspace ≠ .run) space)
          (fun _ => effect.find?_of_undeleted (by simp [Request.verb])) ?_ ?_), finished⟩
        · intro name absent present
          rw [pods] at present
          exact absurd absent present
        · intro name _ executes
          exact (executes_congr (pods name)).mp executes

/-- Every history that is reached is guarded. -/
theorem Reached.guarded (reached : Reached space current history) : Guarded space current history := by
  induction reached with
  | start => exact .start
  | outside reached others inductionHypothesis => exact others.guarded inductionHypothesis
  | @run history final cluster name run now settings result reached seen copied asStored serves
      inductionHypothesis =>
      obtain rfl := (inductionHypothesis.lawful.legible_of_mem seen).name_of_run? copied
      cases finished : run.isCompleted with
      | true =>
          rw [Run.reconcile, if_pos finished] at serves
          cases serves
          exact inductionHypothesis
      | false =>
          exact (Program.Abides.of_serves serves (fun _ => rfl) inductionHypothesis
            ((guarded_run_outline now settings inductionHypothesis seen copied asStored finished).abides
              ⟨.refl space history, List.suffix_refl _⟩)).1
  | @workspace history final cluster name workspace now settings result reached seen copied serves
      inductionHypothesis =>
      exact (Program.Abides.of_serves serves List.suffix_refl inductionHypothesis
        ((guarded_workspace_outline current now seen copied).abides settings (List.suffix_refl _))).1

/-! ### How far executions exclude each other -/

/-- A run of a workspace executes: its pod is stored, and its runner has not terminated. -/
structure IsExecuting (cluster : Cluster) (space workspace name : String) (run : Run) : Prop where
  stored : cluster.run? space name = some run
  label : run.IsFor workspace
  executes : cluster.Executes space name

/-- A run that executes and is not over heads the queue of its workspace. -/
theorem IsExecuting.leads (guarded : Guarded space current history) {workspace name : String}
    (executing : IsExecuting history.present space workspace name run) (unfinished : run.isCompleted = false) :
    run.workspaceName? = some workspace ∧ ∃ stored,
      history.present.workspace? space workspace = some stored ∧ stored.queue.head? = some name := by
  obtain ⟨label, stored, labelled, there, head⟩ := guarded.leading executing.stored unfinished executing.executes.1
  cases (Run.isFor_of_workspaceName? labelled).symm.trans executing.label
  exact ⟨labelled, stored, there, head⟩

/-- A run that executes heads the queue of its workspace and is not over, or it was cut off or brought back. -/
theorem IsExecuting.cases (guarded : Guarded space current history) {workspace name : String}
    (executing : IsExecuting history.present space workspace name run) :
    run.IsCutOff ∨
      (run.isCompleted = false ∧ ∃ stored,
        history.present.workspace? space workspace = some stored ∧ stored.queue.head? = some name) ∨
      ¬current ∧ Revived space name history := by
  cases finished : run.isCompleted with
  | true => exact (guarded.isCutOff executing.stored finished executing.executes).imp_right Or.inr
  | false => exact Or.inr (Or.inl ⟨rfl, (executing.leads guarded finished).2⟩)

/-- A reconciliation that succeeds leaves an executing run executing, and ends it exactly if there are grounds to cut
it off. -/
theorem IsExecuting.ends_iff (guarded : Guarded space current history) {workspace name : String} {final : History}
    (executing : IsExecuting history.present space workspace name run) (unfinished : run.isCompleted = false)
    (serves : Program.Serves (run.reconcile now settings space) history final (.ok ())) :
    ∃ stored after, history.present.workspace? space workspace = some stored ∧
      final.present.run? space name = some after ∧ final.present.Executes space name ∧
      (after.isCompleted = true ↔ ∃ reason, run.CutOff stored reason) := by
  obtain ⟨labelled, stored, there, head⟩ := executing.leads guarded unfinished
  obtain rfl := guarded.lawful.legible.name_of_run? executing.stored
  have coherent := guarded.lawful.coherent executing.stored
  have underway := Run.underway_of_open coherent unfinished
  obtain ⟨lookup, pod, settled⟩ :=
    Run.settled_of_serves guarded.lawful.served executing.stored coherent unfinished serves
  obtain ⟨finds, houses⟩ := settled.observes
  obtain ⟨after, now', standing⟩ := settled.stands executing.stored
  obtain ⟨present, rfl, running⟩ := exists_of_executes executing.executes houses
  cases finds.eq_found labelled there
  have unasked : (run.plan now (.found stored) (some present)).createPod = false := by
    by_contra asked
    cases Run.none_of_createPod (by simpa using asked)
  refine ⟨stored, after, there, now',
    (executes_congr (settled.spared unasked run.name)).mpr executing.executes, ?_⟩
  rw [Run.isCompleted_eq_standing, standing]
  exact Run.ends_iff underway unfinished running (Workspace.queuePosition?_eq_zero_iff.mpr head)

/-- In every history that is reached, a run that executes heads the queue of its workspace and is not over, or it
was cut off, or its pod was brought back from an outdated copy.  So of two such runs of a workspace one was cut
off or brought back.  A reconciliation that succeeds leaves an executing run that is not over executing, and ends it
exactly if there are grounds to cut it off. -/
theorem isCutOff_of_reached (reached : Reached space current history) (workspace : String) :
    (∀ name run, IsExecuting history.present space workspace name run →
      run.IsCutOff ∨
        (run.isCompleted = false ∧ ∃ stored,
          history.present.workspace? space workspace = some stored ∧ stored.queue.head? = some name) ∨
        ¬current ∧ Revived space name history) ∧
    (∀ first second firstRun secondRun, IsExecuting history.present space workspace first firstRun →
      IsExecuting history.present space workspace second secondRun → first ≠ second →
      firstRun.IsCutOff ∨ secondRun.IsCutOff ∨
        ¬current ∧ (Revived space first history ∨ Revived space second history)) ∧
    ∀ name run now settings final, IsExecuting history.present space workspace name run →
      run.isCompleted = false → Program.Serves (run.reconcile now settings space) history final (.ok ()) →
      ∃ stored after, history.present.workspace? space workspace = some stored ∧
        final.present.run? space name = some after ∧ final.present.Executes space name ∧
        (after.isCompleted = true ↔ ∃ reason, run.CutOff stored reason) := by
  have guarded := reached.guarded
  refine ⟨fun _ _ executing => executing.cases guarded, ?_,
    fun _ _ _ _ _ executing unfinished serves => executing.ends_iff guarded unfinished serves⟩
  intro first second firstRun secondRun firstExecutes secondExecutes apart
  rcases firstExecutes.cases guarded with cut | ⟨_, stored, there, head⟩ | ⟨late, revived⟩
  · exact Or.inl cut
  · rcases secondExecutes.cases guarded with cut | ⟨_, other, otherThere, otherHead⟩ | ⟨late, revived⟩
    · exact Or.inr (Or.inl cut)
    · cases there.symm.trans otherThere
      exact absurd (Option.some.inj (head.symm.trans otherHead)) apart
    · exact Or.inr (Or.inr ⟨late, Or.inr revived⟩)
  · exact Or.inr (Or.inr ⟨late, Or.inl revived⟩)

/-! ### Two runs that execute -/

theorem Reached.ask (reached : Reached space current history) (request : Request)
    (checked : admits space history request = true) (apart : request.kind ≠ .pod)
    (undeleted : request.verb ≠ .delete) : Reached space current (history.ask request) := by
  have effect := effect_answer history.present request
  refine reached.outside ⟨.of_admits checked, ?_, fun _ => apart, ?_⟩
  · exact fun kind _ name => effect.find?_of_undeleted undeleted
  · exact fun name _ executes => (executes_congr (effect.find?_of_kind apart space name)).mp executes

theorem Reached.deletePod (reached : Reached space current history) (name : String)
    (checked : admits space history (.delete ⟨.pod, space, name⟩) = true) :
    Reached space current (history.ask (.delete ⟨.pod, space, name⟩)) := by
  have effect := effect_answer history.present (.delete ⟨.pod, space, name⟩)
  refine reached.outside ⟨.of_admits checked, ?_, by simp [Request.verb], ?_⟩
  · rintro kind (rfl | rfl) other present
    · rw [effect.find?_of_kind (by decide : Kind.pod ≠ .run)]
      exact present
    · rw [effect.find?_of_kind (by decide : Kind.pod ≠ .workspace)]
      exact present
  · intro other present executes
    by_cases own : other = name
    · subst own
      obtain ⟨object, found⟩ := Option.ne_none_iff_exists'.mp present
      refine absurd ?_ executes.1
      rw [answer, found]
      exact find?_remove_self _ _
    · refine (executes_congr (effect.find?_of_ne fun about => own ?_)).mp executes
      exact (congrArg Key.name (Option.some.inj about)).symm

theorem Reached.reconcileCopy (reached : Reached space current history) {cluster : Cluster}
    (seen : cluster ∈ history) (now name : String)
    (asStored : current → history.present.run? space name = cluster.run? space name) :
    Reached space current (history.reconcileCopy cluster now space name fun _ => false) := by
  unfold History.reconcileCopy
  split
  · exact reached
  · rename_i run copied
    exact reached.run seen copied (fun isCurrent => (asStored isCurrent).trans copied) (Program.serves_play _ _ _)

theorem Reached.reconcileRun (reached : Reached space current history) (now name : String) :
    Reached space current (history.reconcileRun now space name fun _ => false) := by
  cases history with
  | nil => exact reached
  | cons cluster earlier => exact reached.reconcileCopy List.mem_cons_self now name fun _ => rfl

theorem Reached.reconcileWorkspace (reached : Reached space current history) (now name : String) :
    Reached space current (history.reconcileWorkspace now space name) := by
  unfold History.reconcileWorkspace
  split
  · exact reached
  · rename_i workspace stored
    obtain ⟨object, found, _⟩ := find?_of_workspace? stored
    exact reached.workspace (History.present_mem found) stored (Program.serves_play _ _ _)

/-- The command of a run that executes becomes privileged. -/
def reserving : Request :=
  .patch ⟨.workspace, "team", "dev"⟩ (.object [("spec", .object [("privilegedCommands", .texts ["apply"])])])

/-- Of two runs that are submitted the first leads. -/
@[irreducible] def waiting : History :=
  (((History.ask [] (.founding "team" "dev")).ask (.submission "team" "dev" "run-a" .apply)).ask
    (.submission "team" "dev" "run-b" .plan)).reconcileWorkspace "T1" "team" "dev"

/-- It executes, and its command becomes privileged. -/
@[irreducible] def reserved : History :=
  (waiting.reconcileRun "T2" "team" "run-a" fun _ => false).ask reserving

/-- Everything is reconciled once more. -/
@[irreducible] def overlapping : History :=
  (reserved.reconcileRun "T3" "team" "run-a" fun _ => false).reconcileWorkspace "T4" "team" "dev"
    |>.reconcileRun "T5" "team" "run-b" fun _ => false

theorem reached_waiting (current : Prop) : Reached "team" current waiting := by
  have founded := (.start : Reached "team" current []).ask (.founding "team" "dev")
    (by decide +kernel) (by decide) (by decide)
  have first := founded.ask (.submission "team" "dev" "run-a" .apply)
    (by decide +kernel) (by decide) (by decide)
  have second := first.ask (.submission "team" "dev" "run-b" .plan)
    (by decide +kernel) (by decide) (by decide)
  rw [waiting]
  exact second.reconcileWorkspace "T1" "dev"

theorem reached_overlapping : Reached "team" True reserved ∧ Reached "team" True overlapping := by
  have edited := ((reached_waiting True).reconcileRun "T2" "run-a").ask reserving
    (by decide +kernel) (by decide) (by decide)
  rw [overlapping, reserved]
  exact ⟨edited, ((edited.reconcileRun "T3" "run-a").reconcileWorkspace "T4" "dev").reconcileRun "T5" "run-b"⟩

/-- The check that a run executes. -/
def checksExecuting (cluster : Cluster) (space workspace name : String) : Bool :=
  (cluster.find? ⟨.pod, space, name⟩).isSome && ((cluster.pod? space name).bind Pod.exitCode?).isNone &&
    (cluster.run? space name).any fun run => run.metadata.label? Run.workspaceLabel == some workspace

theorem exists_of_checksExecuting {cluster : Cluster} {workspace name : String}
    (checked : checksExecuting cluster space workspace name = true) :
    ∃ run, IsExecuting cluster space workspace name run := by
  simp only [checksExecuting, Bool.and_eq_true, Option.isSome_iff_ne_none, Option.isNone_iff_eq_none,
    Option.any_eq_true, beq_iff_eq] at checked
  obtain ⟨executes, run, stored, label⟩ := checked
  exact ⟨run, stored, label, executes⟩

theorem exists_executing_overlapping :
    (∃ run, IsExecuting overlapping.present "team" "dev" "run-a" run) ∧
      ∃ run, IsExecuting overlapping.present "team" "dev" "run-b" run :=
  ⟨exists_of_checksExecuting (by decide +kernel), exists_of_checksExecuting (by decide +kernel)⟩

/-- The first run is cut off as soon as it is reconciled, and one of the two that execute then was cut off. -/
theorem isCutOff_of_reached_overlapping : Reached "team" True reserved ∧ Reached "team" True overlapping ∧
    (∃ run final stored reason, IsExecuting reserved.present "team" "dev" "run-a" run ∧
      run.isCompleted = false ∧ Program.Serves (run.reconcile "T3" {} "team") reserved final (.ok ()) ∧
      final.present.Executes "team" "run-a" ∧ run.CutOff stored reason) ∧
    ∃ first second, IsExecuting overlapping.present "team" "dev" "run-a" first ∧
      IsExecuting overlapping.present "team" "dev" "run-b" second ∧ (first.IsCutOff ∨ second.IsCutOff) := by
  obtain ⟨reachedReserved, reachedOverlapping⟩ := reached_overlapping
  refine ⟨reachedReserved, reachedOverlapping, ?_, ?_⟩
  · obtain ⟨run, stored, serves⟩ := History.exists_reconcileRun
      (by decide +kernel : ((reserved.present.run? "team" "run-a").any fun run =>
        ((run.reconcile "T3" {} "team").play (fun _ => false) reserved).2.toBool) = true)
    obtain ⟨other, executing⟩ := exists_of_checksExecuting
      (by decide +kernel : checksExecuting reserved.present "team" "dev" "run-a" = true)
    cases stored.symm.trans executing.stored
    have unfinished : run.isCompleted = false := by
      have checked : (reserved.present.run? "team" "run-a").all (fun run => !run.isCompleted) = true := by
        decide +kernel
      simpa using (Option.all_eq_true _ _).mp checked run stored
    obtain ⟨workspace, after, _, now, executes, ends⟩ :=
      (isCutOff_of_reached reachedReserved "dev").2.2 "run-a" run "T3" {} _ executing unfinished serves
    have finished : after.isCompleted = true := by
      have checked : ((reserved.reconcileRun "T3" "team" "run-a" fun _ => false).present.run? "team" "run-a").all
          Run.isCompleted = true := by
        decide +kernel
      exact (Option.all_eq_true _ _).mp checked after now
    obtain ⟨reason, cut⟩ := ends.mp finished
    exact ⟨run, _, workspace, reason, executing, unfinished, serves, executes, cut⟩
  · obtain ⟨⟨first, firstExecutes⟩, second, secondExecutes⟩ := exists_executing_overlapping
    refine ⟨first, second, firstExecutes, secondExecutes, ?_⟩
    rcases (isCutOff_of_reached reachedOverlapping "dev").2.1 _ _ _ _ firstExecutes secondExecutes (by decide) with
      cut | cut | ⟨late, _⟩
    · exact Or.inl cut
    · exact Or.inr cut
    · exact absurd trivial late

/-- Two runs of a workspace may execute at a time, although every run is reconciled as it is stored. -/
theorem executing_overlapping : ¬ ∀ history, Reached "team" True history → ∀ first second firstRun secondRun,
    IsExecuting history.present "team" "dev" first firstRun →
    IsExecuting history.present "team" "dev" second secondRun → first = second := by
  intro exclusive
  obtain ⟨⟨first, firstExecutes⟩, second, secondExecutes⟩ := exists_executing_overlapping
  exact absurd (exclusive overlapping reached_overlapping.2 _ _ _ _ firstExecutes secondExecutes) (by decide)

/-- The pod of the first run is deleted, and the run ends. -/
@[irreducible] def bereft : History :=
  ((waiting.reconcileRun "T2" "team" "run-a" fun _ => false).ask (.delete ⟨.pod, "team", "run-a"⟩)).reconcileRun
    "T3" "team" "run-a" fun _ => false

/-- It is reconciled from a copy of before it had a pod, and everything else is reconciled after that. -/
@[irreducible] def haunted : History :=
  (bereft.reconcileCopy waiting.present "T4" "team" "run-a" fun _ => false).reconcileWorkspace "T5" "team" "dev"
    |>.reconcileRun "T6" "team" "run-b" fun _ => false

theorem reached_haunted : Reached "team" False haunted := by
  have deleted := ((reached_waiting False).reconcileRun "T2" "run-a").deletePod "run-a" (by decide +kernel)
  have ended := deleted.reconcileRun "T3" "run-a"
  obtain ⟨run, copied⟩ := Option.isSome_iff_exists.mp
    (by decide +kernel : (waiting.present.run? "team" "run-a").isSome = true)
  obtain ⟨object, found, _⟩ := find?_of_run? copied
  have since : waiting <:+ ((waiting.reconcileRun "T2" "team" "run-a" fun _ => false).ask
      (.delete ⟨.pod, "team", "run-a"⟩)).reconcileRun "T3" "team" "run-a" fun _ => false :=
    ((waiting.suffix_reconcileCopy _ _ _ _ _).trans (List.suffix_cons _ _)).trans
      (History.suffix_reconcileCopy _ _ _ _ _ _)
  have late := ended.reconcileCopy (since.subset (History.present_mem found)) "T4" "run-a" False.elim
  rw [haunted, bereft]
  exact (late.reconcileWorkspace "T5" "dev").reconcileRun "T6" "run-b"

/-- A run that is over may execute beside the next one although neither was cut off: its pod was brought back from an
outdated copy. -/
theorem executing_haunted : Reached "team" False haunted ∧
    ∃ first second, IsExecuting haunted.present "team" "dev" "run-a" first ∧
      IsExecuting haunted.present "team" "dev" "run-b" second ∧ ¬first.IsCutOff ∧ ¬second.IsCutOff ∧
      Revived "team" "run-a" haunted := by
  obtain ⟨first, firstExecutes⟩ := exists_of_checksExecuting
    (by decide +kernel : checksExecuting haunted.present "team" "dev" "run-a" = true)
  obtain ⟨second, secondExecutes⟩ := exists_of_checksExecuting
    (by decide +kernel : checksExecuting haunted.present "team" "dev" "run-b" = true)
  have ended : first.isCompleted = true ∧ first.reason? Run.completed = some Run.Reason.podDeleted.word := by
    have checked : (haunted.present.run? "team" "run-a").all (fun run =>
        run.isCompleted && run.reason? Run.completed == some Run.Reason.podDeleted.word) = true := by
      decide +kernel
    simpa using (Option.all_eq_true _ _).mp checked first firstExecutes.stored
  have unfinished : second.isCompleted = false := by
    have checked : (haunted.present.run? "team" "run-b").all (fun run => !run.isCompleted) = true := by
      decide +kernel
    simpa using (Option.all_eq_true _ _).mp checked second secondExecutes.stored
  have spared : ¬first.IsCutOff := by
    rintro ⟨_, because | because⟩
    · exact absurd (ended.2.symm.trans because) (by decide)
    · exact absurd (ended.2.symm.trans because) (by decide)
  have grounds := reached_haunted.guarded.isCutOff firstExecutes.stored ended.1 firstExecutes.executes
  refine ⟨reached_haunted, first, second, firstExecutes, secondExecutes, spared, ?_, (grounds.resolve_left spared).2⟩
  rintro ⟨finished, _⟩
  rw [unfinished] at finished
  cases finished

end Turnstile.Execution
