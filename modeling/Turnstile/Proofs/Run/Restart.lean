/-
Module: Turnstile.Proofs.Run.Restart
Purpose: A reconciliation that was cut off, however often and wherever, is made good by one that is not.
Main exports: Run.Grounded, History.undisturbed, Run.Attempts, Run.Steady, Run.Steady.attempt,
  Cluster.Named, Run.restartable
-/
import Turnstile.Proofs.Run.Resumption

/-!
An attempt to reconcile a run may lose any of its requests: one that fails may have reached the server or not.
Every request of an attempt leaves a cluster from which the reconciliation can be resumed, so after any number of
attempts one that loses nothing comes to the same end as one that was made at once.  On the way no client is let in
and no pod is recorded before there is a pod.
-/

namespace Turnstile

open Cluster

/-- Reconcile the stored run of a name once, with every request answered. -/
def History.undisturbed (history : History) (now : String) (settings : Settings) (space name : String) : History :=
  match history.present.run? space name with
  | none => history
  | some run => ((run.reconcile now settings space).perform Cluster.answer history).1

namespace Run

variable {space name now : String} {settings : Settings} {start : Cluster} {history : History} {run : Run}
  {lookup : Lookup} {pod : Option Pod}

theorem present_undisturbed (history : History) (now : String) (settings : Settings) (space name : String) :
    (history.undisturbed now settings space name).present =
      outcome now settings space name history.present := by
  unfold History.undisturbed outcome
  cases history.present.run? space name with
  | none => rfl
  | some run => exact (Program.perform_answer _ history).1

/-- At every step of a history at which the run takes a status by which a client may connect, or that names another
pod, there is a pod. -/
def Grounded (space name : String) : History → Prop
  | [] => True
  | next :: history => Founded space name (History.present history) next ∧ Grounded space name history

/-- Attempts to reconcile the run, one after the other and each as it is stored by then; any of their requests may
fail. -/
inductive Attempts (settings : Settings) (space name : String) (start : History) : History → Prop where
  | none : Attempts settings space name start start
  | next {middle final : History} {run : Run} {now : String} {result : Except ReconcileFailure Unit}
      (before : Attempts settings space name start middle)
      (stored : middle.present.run? space name = some run)
      (served : Program.Serves (run.reconcile now settings space) middle final result) :
      Attempts settings space name start final

/-- Since the start nothing has happened from which the reconciliation cannot be resumed. -/
structure Steady (settings : Settings) (space name : String) (start : Cluster) (history : History) : Prop where
  inPlace : ∃ run, InPlace space name history.present run
  settles : Settles settings space name start history.present
  grounded : Grounded space name history

/-- A step from which the reconciliation can be resumed keeps the history steady. -/
theorem Steady.next (steady : Steady settings space name start history) {cluster : Cluster}
    (inPlace : ∃ run, InPlace space name cluster run)
    (resumes : Resumes settings space name history.present cluster) :
    Steady settings space name start (cluster :: history) where
  inPlace := inPlace
  settles := fun first second => (steady.settles first second).trans (resumes.settles second second)
  grounded := ⟨resumes.founded, steady.grounded⟩

theorem Steady.rests (steady : Steady settings space name start history) :
    Steady settings space name start (history.present :: history) := by
  obtain ⟨run, inPlace⟩ := steady.inPlace
  exact steady.next ⟨run, inPlace⟩ ⟨inPlace.settles settings, founded_of_same rfl⟩

/-- A request from whose effect the reconciliation can be resumed keeps the history steady, however it ends. -/
theorem Steady.served (steady : Steady settings space name start history) {request : Request} {cluster : Cluster}
    {reply : Except ApiError Json} (served : Reply history.present request cluster reply)
    (inPlace : ∃ run, InPlace space name (history.present.answer request).1 run)
    (resumes : Resumes settings space name history.present (history.present.answer request).1) :
    Steady settings space name start (cluster :: history) := by
  cases served with
  | answered => exact steady.next inPlace resumes
  | refused honest => exact steady.rests
  | lost honest => exact steady.next inPlace resumes

/-! ### One attempt -/

/-- Adopting the payload keeps the history steady. -/
theorem abides_adoptPayload (unfinished : run.isCompleted = false)
    (inPlace : InPlace space name history.present run) :
    Attempt.Abides (Steady settings space name start) Eq
      (fun _ later => Housekept space name run later.present) (run.adoptPayload space) history := by
  unfold adoptPayload
  refine Attempt.Abides.bind
    (fun found later => InPlace space name later.present run ∧ run.payload space later.present = .ok found)
    (Attempt.abides_look (fun _ steady => steady.rests) fun found seen => ⟨inPlace, seen⟩) ?_
  rintro found later ⟨inPlace, seen⟩
  cases found with
  | none => exact Attempt.abides_pure ⟨inPlace, .missing seen⟩
  | some metadata =>
      simp only
      rcases adopt_cases run space metadata with ⟨owns, skips⟩ | fails | ⟨disowns, references, lists, sends⟩
      · rw [skips]
        exact Attempt.abides_pure ⟨inPlace, .owned seen owns⟩
      · rw [fails]
        exact Attempt.abides_fail _ later
      · rw [sends]
        apply Attempt.abides_require
        rintro _ rfl steady cluster reply served
        have goesBy := (inPlace.addresses metadata seen).resolve_left disowns
        have adopts := answered_adoptPayload_of_sends seen goesBy sends
        rw [goesBy] at served
        obtain ⟨inPlaceNext, resumes⟩ := resumes_adopted inPlace unfinished settings
        rw [adopts] at inPlaceNext resumes
        refine ⟨steady.served served ⟨run, inPlaceNext⟩ resumes, ?_⟩
        rintro json value rfl decoded
        obtain ⟨rfl, good⟩ := served.of_ok
        refine ⟨inPlaceNext, ?_⟩
        rcases answered_adoptPayload_again inPlace.addresses adopts with ⟨_, adopted⟩ | ⟨⟨failure, failed⟩, _⟩
        · exact adopted
        · rw [good, Program.readable, decoded] at failed
          cases failed

/-- Looking up the workspace keeps the history steady. -/
theorem abides_lookup (housekept : Housekept space name run history.present) :
    Attempt.Abides (Steady settings space name start) Eq
      (fun lookup later => Housekept space name run later.present ∧ run.finds space later.present = .ok lookup)
      (run.lookup space) history := by
  unfold lookup
  split
  · rename_i unlabelled
    exact Attempt.abides_pure ⟨housekept, by rw [finds, unlabelled]⟩
  · rename_i label labelled
    refine Attempt.Abides.bind (fun found later => Housekept space name run later.present ∧
      later.present.look Workspace.ofJson? ⟨.workspace, space, label⟩ = .ok found)
      (Attempt.abides_look (fun _ steady => steady.rests) fun found seen => ⟨housekept, seen⟩) ?_
    rintro found later ⟨housekept, seen⟩
    have finds : run.finds space later.present = .ok (found.elim (.notFound label) .found) := by
      simp only [finds, labelled, seen]
      rfl
    cases found with
    | none => exact Attempt.abides_pure ⟨housekept, finds⟩
    | some workspace => exact Attempt.abides_pure ⟨housekept, finds⟩

/-- Looking up the pod keeps the history steady. -/
theorem abides_pod (housekept : Housekept space name run history.present)
    (finds : run.finds space history.present = .ok lookup) :
    Attempt.Abides (Steady settings space name start) Eq
      (fun pod later => Ready space name run lookup pod later.present)
      (Attempt.find? Pod.ofJson? ⟨.pod, space, run.name⟩) history :=
  Attempt.abides_look (fun _ steady => steady.rests) fun _ seen =>
    ⟨housekept, sees_eq_ok_iff.mpr ⟨finds, seen⟩⟩

/-- The pod was asked for: it may be there, and nothing is known of it yet. -/
structure Ordered (space name : String) (run : Run) (lookup : Lookup) (cluster : Cluster) : Prop
    extends Housekept space name run cluster where
  finds : run.finds space cluster = .ok lookup
  young : ∀ object pod, cluster.find? ⟨.pod, space, run.name⟩ = some object → Pod.ofJson? object = some pod →
    pod.exitCode? = none

/-- Creating the pod keeps the history steady, and once it is there the plan only has a status to report. -/
theorem abides_createPod (ready : Ready space name run lookup none history.present)
    (asked : (run.plan now lookup none).createPod = true) :
    Attempt.Abides (Steady settings space name start) Eq
      (fun _ later => ∃ pod, Ready space name run lookup (some pod) later.present ∧
        run.plan now lookup (some pod) = { run.plan now lookup none with createPod := false })
      (run.createPod settings space lookup) history := by
  have absent := Cluster.find?_of_look_none ready.look
  obtain ⟨workspace, found⟩ := found_of_createPod asked
  subst found
  simp only [createPod]
  split
  · exact Attempt.abides_fail _ history
  · rename_i desired built
    refine Attempt.Abides.bind _ (Attempt.abides_createOrGet
      (fun later => Ordered space name run (.found workspace) later.present) (createdKey_manifest built space)
      (fun _ steady => steady.rests) (fun ordered same => same ▸ ordered) id ?_ ?_)
      fun _ _ made => Attempt.abides_pure made
    · rintro _ rfl steady cluster reply served
      obtain ⟨housekept, finds⟩ := housekept_created ready built
      refine ⟨steady.served served ⟨run, housekept.inPlace⟩ (resumes_created ready asked built), ?_⟩
      have ordered : Ordered space name run (.found workspace)
          (history.present.answer (.create .pod space desired)).1 := by
        refine ⟨housekept, finds, ?_⟩
        intro object pod there read
        rw [Cluster.answer_create (createdKey_manifest built space) absent] at there
        cases (Cluster.find?_write_self history.present _ _).symm.trans there
        exact exitCode?_of_created built read
      cases served with
      | answered => exact ordered
      | refused honest =>
          refine ⟨ready.toHousekept, ready.finds, ?_⟩
          intro object pod there
          cases absent.symm.trans there
      | lost honest => exact ordered
    · intro later object pod ordered there read
      refine ⟨pod, ⟨ordered.toHousekept, sees_eq_ok_iff.mpr ⟨ordered.finds, ?_⟩⟩,
        plan_of_created asked (ordered.young object pod there read) now⟩
      rw [Cluster.look_of_find? Pod.ofJson? (Cluster.name_of_look ready.look) there, read]
      rfl

/-- Reporting a status keeps the history steady. -/
theorem abides_report (ready : Ready space name run lookup pod history.present)
    (unasked : (run.plan now lookup pod).createPod = false) :
    Attempt.Abides (Steady settings space name start) Eq (fun _ _ => True)
      (run.report space (run.plan now lookup pod).status) history := by
  cases planned : (run.plan now lookup pod).status with
  | none => exact Attempt.abides_pure trivial
  | some status =>
      apply Attempt.abides_require
      rintro _ rfl steady cluster reply served
      have named := ready.inPlace.named
      subst named
      exact ⟨steady.served served ⟨_, (ready_reported ready planned).inPlace⟩
        (resumes_reported ready unasked planned settings), fun _ _ _ _ => trivial⟩

/-- An attempt keeps the history steady. -/
theorem abides_reconcile (inPlace : InPlace space name history.present run) (now : String) :
    Attempt.Abides (Steady settings space name start) Eq (fun _ _ => True)
      (run.reconcile now settings space) history := by
  rw [reconcile_eq]
  split
  · exact Attempt.abides_pure trivial
  · rename_i unfinished
    refine Attempt.Abides.bind _ (abides_adoptPayload (by simpa using unfinished) inPlace) ?_
    intro _ adopted housekept
    refine Attempt.Abides.bind _ (abides_lookup housekept) ?_
    rintro lookup looked ⟨housekept, finds⟩
    refine Attempt.Abides.bind _ (abides_pod housekept finds) ?_
    intro pod seen ready
    unfold carryOut
    split
    · rename_i asked
      cases none_of_createPod asked
      refine Attempt.Abides.bind _ (abides_createPod ready asked) ?_
      rintro _ made ⟨pod, ready, planned⟩
      have status : (run.plan now lookup none).status = (run.plan now lookup (some pod)).status := by
        rw [planned]
      simp only [status]
      exact abides_report ready (by rw [planned])
    · rename_i spared
      exact abides_report ready (by simpa using spared)

/-- An attempt, whichever of its requests fail, keeps the history steady. -/
theorem Steady.attempt (steady : Steady settings space name start history)
    (stored : history.present.run? space name = some run) {final : History} {result : Except ReconcileFailure Unit}
    (served : Program.Serves (run.reconcile now settings space) history final result) :
    Steady settings space name start final := by
  obtain ⟨kept, inPlace⟩ := steady.inPlace
  cases inPlace.stored.symm.trans stored
  exact (Program.Abides.of_serves served (fun _ => rfl) steady (abides_reconcile inPlace now)).1

/-- Any number of attempts keep the history steady. -/
theorem Steady.attempts {origin final : History} (steady : Steady settings space name start origin)
    (attempts : Attempts settings space name origin final) : Steady settings space name start final := by
  induction attempts with
  | none => exact steady
  | next before stored served inductionHypothesis => exact inductionHypothesis.attempt stored served

/-- An undisturbed reconciliation keeps the history steady. -/
theorem Steady.undisturbed (steady : Steady settings space name start history) (now : String) :
    Steady settings space name start (history.undisturbed now settings space name) := by
  obtain ⟨run, inPlace⟩ := steady.inPlace
  rw [History.undisturbed, inPlace.stored]
  exact steady.attempt inPlace.stored (Program.serves_perform (fun _ _ => rfl) _ history)

end Run

/-! ### Any number of attempts -/

/-- Every object is stored under the name that it gives itself. -/
def Cluster.Named (cluster : Cluster) : Prop :=
  ∀ key object, cluster.find? key = some object → metadataText? object "name" = some key.name

/-- An object goes by the name that it gives itself. -/
theorem Metadata.displayName_of_metadataText? {object wire : Json} {metadata : Metadata} {name : String}
    (found : object.get? "metadata" = some wire) (read : ofJson? wire = some metadata)
    (named : metadataText? object "name" = some name) : metadata.displayName = name := by
  have given : metadata.name = some name := by
    rw [name_ofJson? read, ← named]
    simp only [metadataText?, Json.at?, found, Option.bind_some]
    cases wire.get? "name" <;> rfl
  rw [displayName, given]
  rfl

/-- A resource goes by the name that it is stored under, in a cluster whose objects have their names. -/
theorem Cluster.Named.displayName {cluster : Cluster} (named : cluster.Named) (dated : cluster.Dated) {key : Key}
    {object : Json} (found : cluster.find? key = some object) {σ τ : Type} {spec : Json → Option σ}
    {status : Json → Option τ} {metadata : Metadata} {given : σ} {known : Option τ}
    (read : object.resource? spec status = some (metadata, given, known)) : metadata.displayName = key.name := by
  obtain ⟨version, original, _, isKept⟩ := dated.dated _ object found
  obtain ⟨members, isObject⟩ := kept_eq_object key version original
  rw [isKept, isObject] at read found
  obtain ⟨metadataRead, _, _⟩ := Json.resource?_object_iff.mp read
  obtain ⟨wire, wireFound, decoded⟩ := Option.bind_eq_some_iff.mp metadataRead
  rw [← Json.get?_object] at wireFound
  exact Metadata.displayName_of_metadataText? wireFound decoded (named _ _ found)

namespace Run

variable {space name : String} {settings : Settings} {cluster : Cluster} {run : Run}

/-- A run is in place in a cluster whose objects have their names, if it may not be attached to or is at the head of
its queue. -/
theorem inPlace_of_named (dated : cluster.Dated) (named : cluster.Named)
    (stored : cluster.run? space name = some run)
    (poised : run.isAttachable = false ∨ ∃ label workspace, run.workspaceName? = some label ∧
      cluster.workspace? space label = some workspace ∧ workspace.queuePosition? name = some 0) :
    InPlace space name cluster run := by
  obtain ⟨object, found, read⟩ := find?_of_run? stored
  have goesBy : run.name = name := named.displayName dated found (resource?_of_ofJson? read)
  refine ⟨dated, stored, goesBy, ?_, ?_⟩
  · intro metadata seen
    obtain ⟨payload, payloadFound, payloadRead⟩ := find?_of_look_some seen
    obtain ⟨reached, original, _, payloadKept⟩ := dated.dated _ payload payloadFound
    have stamped := get?_kept_metadata ⟨.configMap, space, run.spec.configMap⟩ reached original
    rw [← payloadKept] at stamped
    exact Or.inr (Metadata.displayName_of_metadataText? stamped
      (metadata_of_payloadMetadata? payloadRead stamped (Json.object_ne_null _)) (named _ _ payloadFound))
  · intro lookup finds attached
    rcases poised with unattached | ⟨label, workspace, labelled, there, first⟩
    · rw [unattached] at attached
      cases attached
    · refine ⟨workspace, ?_, by rw [goesBy]; exact first⟩
      obtain ⟨held, heldFound, heldRead⟩ := find?_of_workspace? there
      simp only [Run.finds, labelled] at finds
      rcases seen : cluster.look Workspace.ofJson? ⟨.workspace, space, label⟩ with failure | _ | other
      · rw [seen] at finds
        cases finds
      · cases heldFound.symm.trans (find?_of_look_none seen)
      · rw [seen] at finds
        cases finds
        obtain ⟨same, sameFound, sameRead⟩ := find?_of_look_some seen
        cases heldFound.symm.trans sameFound
        cases heldRead.symm.trans sameRead
        rfl

/-- Start from a cluster in which a run may not be attached to or is at the head of its queue.  However many attempts
to reconcile it lose whichever of their requests, one more that loses none leaves every object as a single undisturbed
reconciliation does, the status of the run up to its times; and at every step by which the run takes a status that
lets a client connect or names another pod, there is a pod. -/
theorem restartable (dated : cluster.Dated) (named : cluster.Named) (stored : cluster.run? space name = some run)
    (poised : run.isAttachable = false ∨ ∃ label workspace, run.workspaceName? = some label ∧
      cluster.workspace? space label = some workspace ∧ workspace.queuePosition? name = some 0)
    {middle : History} (attempts : Attempts settings space name [cluster] middle) (now later : String) :
    (History.undisturbed [cluster] now settings space name).present.Alike space name
        (middle.undisturbed later settings space name).present ∧
      Grounded space name (middle.undisturbed later settings space name) := by
  have inPlace := inPlace_of_named dated named stored poised
  have begins : Steady settings space name cluster [cluster] := by
    refine ⟨⟨run, inPlace⟩, inPlace.settles settings, ?_, trivial⟩
    intro earlier later nowhere
    cases nowhere
  have steady := begins.attempts attempts
  refine ⟨?_, (steady.undisturbed later).grounded⟩
  rw [present_undisturbed, present_undisturbed]
  exact steady.settles now later

theorem Attempts.reconcileRun {origin middle : History} (attempts : Attempts {} space name origin middle)
    (now : String) (fails : Request → Bool) :
    Attempts {} space name origin (middle.reconcileRun now space name fails) := by
  unfold History.reconcileRun History.reconcileCopy
  split
  · exact attempts
  · rename_i run stored
    exact attempts.next stored (Program.serves_play fails _ middle)

end Run

theorem Cluster.named_of_all {cluster : Cluster}
    (checked : (cluster.objects.all fun entry => metadataText? entry.2 "name" == some entry.1.name) = true) :
    cluster.Named :=
  fun _ _ found => beq_iff_eq.mp (List.all_eq_true.mp checked _ (mem_of_find? found))

namespace Run

/-- A payload and its run are submitted, and the workspace reports that the run leads its queue. -/
@[irreducible] def prepared : History :=
  (((History.ask [] (.founding "team" "dev")).ask
    (.create .configMap "team"
      (Submission.payloadObject "run-a" [] { namespaceName := "team", workspace := "dev" }))).ask
    (.submission "team" "dev" "run-a" .plan)).ask
      (.patchStatus ⟨.workspace, "team", "dev"⟩
        (.object [("status", ({ queue := ["run-a"] } : WorkspaceStatus).toJson)]))

/-- The run is reconciled twice; the first attempt fails to create the pod, and the second to report the status. -/
@[irreducible] def cutOff : History :=
  (History.reconcileRun [prepared.present] "T1" "team" "run-a" fun request => request.verb == .create).reconcileRun
    "T2" "team" "run-a" fun request => request.verb == .patchStatus

theorem served_prepared : prepared.Served := by
  rw [prepared]
  exact (((History.Served.start.step (effect_answer _ _)).step (effect_answer _ _)).step (effect_answer _ _)).step
    (effect_answer _ _)

/-- A run whose pod was created but not recorded is reconciled as if nothing had failed. -/
theorem restartable_cutOff :
    (cutOff.present.pod? "team" "run-a").isSome = true ∧
      ((cutOff.present.run? "team" "run-a").any fun run => run.status.isNone) = true ∧
      (History.undisturbed [prepared.present] "T3" {} "team" "run-a").present.Alike "team" "run-a"
        (cutOff.undisturbed "T4" {} "team" "run-a").present ∧
      Grounded "team" "run-a" (cutOff.undisturbed "T4" {} "team" "run-a") := by
  have named : prepared.present.Named := by
    apply named_of_all
    rw [prepared]
    decide +kernel
  have waiting : ((prepared.present.run? "team" "run-a").any fun run => !run.isAttachable) = true := by
    rw [prepared]
    decide +kernel
  obtain ⟨run, stored, unattached⟩ := (Option.any_eq_true _ _).mp waiting
  have attempts : Attempts {} "team" "run-a" [prepared.present] cutOff := by
    rw [cutOff]
    exact (Attempts.none.reconcileRun "T1" _).reconcileRun "T2" _
  refine ⟨?_, ?_, restartable served_prepared.dated.1 named stored (Or.inl (by simpa using unattached)) attempts
    "T3" "T4"⟩
  · rw [cutOff, prepared]
    decide +kernel
  · rw [cutOff, prepared]
    decide +kernel

end Run

end Turnstile
