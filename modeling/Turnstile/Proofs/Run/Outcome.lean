/-
Module: Turnstile.Proofs.Run.Outcome
Purpose: What a reconciliation makes of a cluster if nothing fails and nobody comes between.
Main exports: Cluster.Alike, Run.finds, Run.sees, Run.concludes, Run.answered_reconcile, Run.alike_carryOut
-/
import Turnstile.Proofs.Persistence
import Turnstile.Proofs.Run.Adoption
import Turnstile.Proofs.Run.Outline
import Turnstile.Proofs.Run.Ruling
import Turnstile.Proofs.Run.Settlement

/-!
After the adoption of the payload a reconciliation only looks until it carries out its plan: it creates the pod if
the plan asks for it, and it reports the status if the plan has one.  The time enters the report and nothing else.
So reconciliations that are made at different times leave the same cluster, but for the times in the status.
-/

namespace Turnstile

/-- The run without the times of its conditions. -/
def Run.timeless (run : Run) : Run :=
  { run with status := run.status.map RunStatus.timeless }

/-- Two clusters have the same objects, but for the times in the status of one run. -/
structure Cluster.Alike (space name : String) (first second : Cluster) : Prop where
  others : ∀ key, key ≠ ⟨.run, space, name⟩ → first.find? key = second.find? key
  runs : ∃ kept left, first.run? space name = some kept ∧ second.run? space name = some left ∧
    kept.timeless = left.timeless

namespace Cluster

variable {space name : String} {first second third : Cluster}

theorem Alike.refl {run : Run} (stored : first.run? space name = some run) : Alike space name first first :=
  ⟨fun _ _ => rfl, run, run, stored, stored, rfl⟩

theorem Alike.symm (alike : Alike space name first second) : Alike space name second first := by
  obtain ⟨kept, left, keptStored, leftStored, same⟩ := alike.runs
  exact ⟨fun key other => (alike.others key other).symm, left, kept, leftStored, keptStored, same.symm⟩

theorem Alike.trans (alike : Alike space name first second) (further : Alike space name second third) :
    Alike space name first third := by
  obtain ⟨kept, middle, keptStored, middleStored, same⟩ := alike.runs
  obtain ⟨given, left, givenStored, leftStored, alsoSame⟩ := further.runs
  cases middleStored.symm.trans givenStored
  exact ⟨fun key other => (alike.others key other).trans (further.others key other),
    kept, left, keptStored, leftStored, same.trans alsoSame⟩

end Cluster

namespace Run

/-! ### What is looked up -/

/-- The workspace of the run as the cluster has it. -/
def finds (run : Run) (space : String) (cluster : Cluster) : Except ReconcileFailure Lookup :=
  match run.workspaceName? with
  | none => .ok .unspecified
  | some name =>
    (cluster.look Workspace.ofJson? ⟨.workspace, space, name⟩).map fun found =>
      found.elim (.notFound name) .found

/-- The workspace and the pod of the run as the cluster has them. -/
def sees (run : Run) (space : String) (cluster : Cluster) : Except ReconcileFailure (Lookup × Option Pod) := do
  let lookup ← run.finds space cluster
  let pod ← cluster.look Pod.ofJson? ⟨.pod, space, run.name⟩
  return (lookup, pod)

/-- What a run sees is what it finds and which pod there is. -/
theorem sees_eq_ok_iff {run : Run} {space : String} {cluster : Cluster} {lookup : Lookup} {pod : Option Pod} :
    run.sees space cluster = .ok (lookup, pod) ↔
      run.finds space cluster = .ok lookup ∧ cluster.look Pod.ofJson? ⟨.pod, space, run.name⟩ = .ok pod := by
  unfold sees
  rcases run.finds space cluster with failure | found
  · simp [bind, Except.bind]
  · rcases cluster.look Pod.ofJson? ⟨.pod, space, run.name⟩ with failure | there
    · simp [bind, Except.bind]
    · simp [bind, Except.bind, pure, Except.pure]

theorem answered_lookup (run : Run) (space : String) (cluster : Cluster) :
    Attempt.answered (run.lookup space) cluster = (cluster, run.finds space cluster) := by
  unfold lookup finds
  cases run.workspaceName? with
  | none => rfl
  | some name =>
      simp only
      rw [Attempt.answered_bind, Attempt.answered_find?]
      rcases cluster.look Workspace.ofJson? ⟨.workspace, space, name⟩ with failure | _ | workspace <;> rfl

/-- What a reconciliation makes of a cluster once the payload is adopted. -/
def concludes (now : String) (settings : Settings) (space : String) (run : Run) (cluster : Cluster) : Cluster :=
  match run.sees space cluster with
  | .ok (lookup, pod) => (Attempt.answered (run.carryOut now settings space lookup pod) cluster).1
  | .error _ => cluster

/-- What a reconciliation of a run that is not over makes of a cluster. -/
theorem answered_reconcile {run : Run} (unfinished : run.isCompleted = false) (now : String) (settings : Settings)
    (space : String) (cluster : Cluster) :
    (Attempt.answered (run.reconcile now settings space) cluster).1 =
      match Attempt.answered (run.adoptPayload space) cluster with
      | (next, .ok _) => run.concludes now settings space next
      | (next, .error _) => next := by
  rw [reconcile_eq, if_neg (by simp [unfinished]), Attempt.answered_bind]
  rcases Attempt.answered (run.adoptPayload space) cluster with ⟨next, failure | done⟩
  · rfl
  · simp only
    rw [Attempt.answered_bind, answered_lookup, concludes, sees]
    rcases run.finds space next with failure | lookup
    · rfl
    · simp only
      rw [Attempt.answered_bind, Attempt.answered_find?]
      rcases next.look Pod.ofJson? ⟨.pod, space, run.name⟩ with failure | pod <;> rfl

/-! ### The report -/

variable {run : Run} {space now : String} {cluster : Cluster} {lookup : Lookup} {pod : Option Pod}

/-- The request by which a status is reported. -/
def reportRequest (run : Run) (space : String) (status : RunStatus) : Request :=
  .patchStatus ⟨.run, space, run.name⟩ (Attempt.statusPatch run.metadata status.toJson)

/-- What a report makes of a cluster is what the server makes of it. -/
theorem answered_report (named : run.name.isEmpty = false) (status : RunStatus) :
    (Attempt.answered (run.report space (some status)) cluster).1 =
      (cluster.answer (run.reportRequest space status)).1 := by
  have addressed : Program.isAddressed (run.reportRequest space status) = true :=
    Program.isAddressed_of_key? rfl named
  exact congrArg Prod.fst (Attempt.answered_require _ cluster addressed)

/-- A planned status is reported for the run that is stored, and nothing else is changed. -/
theorem answer_reportRequest (dated : cluster.Dated) (stored : cluster.run? space run.name = some run)
    {status : RunStatus} (planned : (run.plan now lookup pod).status = some status) :
    (∀ key, key ≠ ⟨.run, space, run.name⟩ →
        (cluster.answer (run.reportRequest space status)).1.find? key = cluster.find? key) ∧
      (cluster.answer (run.reportRequest space status)).1.run? space run.name =
        some (run.reported space (toString (cluster.version + 1)) status) := by
  obtain ⟨object, found, read⟩ := Cluster.find?_of_run? stored
  obtain ⟨version, given, _, kept⟩ := dated.dated _ object found
  obtain ⟨members, isObject⟩ := Cluster.kept_eq_object ⟨.run, space, run.name⟩ version given
  obtain ⟨coded, housed⟩ := remembers_of_plan planned
  have fresh : Cluster.isStale object (Attempt.statusPatch run.metadata status.toJson) = false := by
    have reached : Cluster.metadataText? object "resourceVersion" = some (toString version) := by
      rw [kept, Cluster.version_kept]
    have seen : run.metadata.resourceVersion = some (toString version) := by
      rw [kept, isObject] at read reached
      rw [← reached]
      exact (Json.resource?_metadata (resource?_of_ofJson? read)).1
    rw [Cluster.isStale_statusPatch seen reached]
    exact bne_self_eq_false _
  have answer : (cluster.answer (run.reportRequest space status)).1 =
      cluster.write ⟨.run, space, run.name⟩
        (object.mergePatch (Cluster.statusPart (Attempt.statusPatch run.metadata status.toJson))) := by
    simp only [reportRequest, Cluster.answer, Cluster.patched, found, fresh]
    rfl
  rw [answer]
  refine ⟨fun key other => Cluster.find?_write_of_ne other cluster _, ?_⟩
  rw [Cluster.run?, Cluster.find?_write_self, Option.bind_some]
  rw [kept, isObject] at read ⊢
  exact ofJson?_kept_report read coded housed ⟨.run, space, run.name⟩ (cluster.version + 1) run.metadata

/-- Reports of planned statuses that differ in their times leave the same cluster, but for these times. -/
theorem alike_reports (dated : cluster.Dated) (stored : cluster.run? space run.name = some run)
    {later : String} {first second : RunStatus} (planned : (run.plan now lookup pod).status = some first)
    (replanned : (run.plan later lookup pod).status = some second) (same : first.timeless = second.timeless) :
    (cluster.answer (run.reportRequest space first)).1.Alike space run.name
      (cluster.answer (run.reportRequest space second)).1 := by
  obtain ⟨firstOthers, firstRun⟩ := answer_reportRequest dated stored planned
  obtain ⟨secondOthers, secondRun⟩ := answer_reportRequest dated stored replanned
  refine ⟨fun key other => (firstOthers key other).trans (secondOthers key other).symm,
    _, _, firstRun, secondRun, ?_⟩
  simp only [timeless, reported, Option.map_some, same]

/-! ### The pod -/

/-- Nothing is known yet of a pod that was just created for a run. -/
theorem exitCode?_of_created {workspace : Workspace} {settings : Settings} {desired : Json}
    (built : run.manifest workspace settings = .ok desired) {key : Key} {version : Nat} {pod : Pod}
    (read : Pod.ofJson? (Cluster.kept key version (Cluster.identified key desired)) = some pod) :
    pod.exitCode? = none := by
  obtain ⟨shaped, fits, rfl⟩ := Option.map_eq_some_iff.mp read
  have distinct : (Pod.shape.fields.map Prod.fst).Nodup := by decide
  have field : ("status", Presence.optional, Pod.statusShape) ∈ Pod.shape.fields := by
    simp [Pod.shape, Shape.fields]
  have bare : (Cluster.kept key version (Cluster.identified key desired)).get? "status" = none := by
    rw [Cluster.get?_kept_of_ne key version _ (by decide) (by decide) (by decide), Cluster.identified,
      Json.get?_set_of_ne (by decide)]
    unfold manifest at built
    split at built
    · cases built
    · cases built
      rfl
  have unknown : shaped.get? "status" = none := by
    rcases Shape.get?_of_fit? "status" distinct fits field with ⟨_, nothing⟩ | ⟨value, _, found, _⟩
    · exact nothing
    · cases bare.symm.trans found
  simp only [Pod.exitCode?, Pod.runner?, Pod.ofShaped, unknown]
  rfl

/-- What the creation of an absent pod makes of a cluster, and how it ends. -/
theorem answered_createPod {workspace : Workspace} {settings : Settings} {desired : Json}
    (built : run.manifest workspace settings = .ok desired)
    (absent : cluster.find? ⟨.pod, space, run.name⟩ = none) :
    Attempt.answered (run.createPod settings space (.found workspace)) cluster =
      ((cluster.answer (.create .pod space desired)).1,
        (Pod.ofJson? (Cluster.kept ⟨.pod, space, run.name⟩ (cluster.version + 1)
          (Cluster.identified ⟨.pod, space, run.name⟩ desired))).elim
            (.error (.api .unanswered)) fun _ => .ok ()) := by
  have created := Attempt.answered_createOrGet Pod.ofJson? (createdKey_manifest built space) absent
  simp only [createPod, built]
  rw [Attempt.answered_bind, created]
  cases Pod.ofJson? (Cluster.kept ⟨.pod, space, run.name⟩ (cluster.version + 1)
    (Cluster.identified ⟨.pod, space, run.name⟩ desired)) <;> rfl

/-- A created pod changes neither the run nor anything else but the pod. -/
theorem find?_of_created {workspace : Workspace} {settings : Settings} {desired : Json}
    (built : run.manifest workspace settings = .ok desired) {key : Key} (other : key ≠ ⟨.pod, space, run.name⟩) :
    (cluster.answer (.create .pod space desired)).1.find? key = cluster.find? key := by
  refine (Cluster.effect_answer cluster _).find?_of_ne ?_
  rw [Request.key?, createdKey_manifest built space]
  exact fun same => other (Option.some.inj same).symm

/-! ### Carrying out a plan at different times -/

theorem answered_carryOut (now : String) (settings : Settings) (space : String) (run : Run) (lookup : Lookup)
    (pod : Option Pod) (cluster : Cluster) :
    Attempt.answered (run.carryOut now settings space lookup pod) cluster =
      if (run.plan now lookup pod).createPod then
        match Attempt.answered (run.createPod settings space lookup) cluster with
        | (next, .ok _) => Attempt.answered (run.report space (run.plan now lookup pod).status) next
        | (next, .error failure) => (next, .error failure)
      else Attempt.answered (run.report space (run.plan now lookup pod).status) cluster := by
  unfold carryOut
  split
  · rw [Attempt.answered_bind]
    rcases Attempt.answered (run.createPod settings space lookup) cluster with ⟨next, failure | done⟩ <;> rfl
  · rfl

/-- The reports of plans that are made at different times leave the same cluster, but for the times. -/
theorem alike_report (named : run.name.isEmpty = false) (dated : cluster.Dated)
    (stored : cluster.run? space run.name = some run) (now later : String) (lookup : Lookup) (pod : Option Pod) :
    (Attempt.answered (run.report space (run.plan now lookup pod).status) cluster).1.Alike space run.name
      (Attempt.answered (run.report space (run.plan later lookup pod).status) cluster).1 := by
  have same := (timeless_plan now later run lookup pod).2
  rcases planned : (run.plan now lookup pod).status with _ | first
  · rcases replanned : (run.plan later lookup pod).status with _ | second
    · exact .refl stored
    · rw [planned, replanned] at same
      cases same
  · rcases replanned : (run.plan later lookup pod).status with _ | second
    · rw [planned, replanned] at same
      cases same
    · rw [answered_report named, answered_report named]
      rw [planned, replanned] at same
      exact alike_reports dated stored planned replanned (Option.some.inj same)

/-- A plan that is carried out at different times leaves the same cluster, but for the times. -/
theorem alike_carryOut (dated : cluster.Dated) (stored : cluster.run? space run.name = some run)
    (seen : cluster.look Pod.ofJson? ⟨.pod, space, run.name⟩ = .ok pod) (now later : String) (settings : Settings)
    (lookup : Lookup) :
    (Attempt.answered (run.carryOut now settings space lookup pod) cluster).1.Alike space run.name
      (Attempt.answered (run.carryOut later settings space lookup pod) cluster).1 := by
  have named := Cluster.name_of_look seen
  rw [answered_carryOut, answered_carryOut, (timeless_plan later now run lookup pod).1]
  cases asked : (run.plan now lookup pod).createPod with
  | false => exact alike_report named dated stored now later lookup pod
  | true =>
      simp only [if_true]
      obtain ⟨workspace, rfl⟩ := found_of_createPod asked
      cases none_of_createPod asked
      have absent := Cluster.find?_of_look_none seen
      cases built : run.manifest workspace settings with
      | error failure =>
          have fails : Attempt.answered (run.createPod settings space (.found workspace)) cluster =
              (cluster, .error failure) := by
            simp only [createPod, built]
            rfl
          rw [fails]
          exact .refl stored
      | ok desired =>
          have storedNext : (cluster.answer (.create .pod space desired)).1.run? space run.name = some run := by
            rw [Cluster.run?_congr (find?_of_created built (by simp))]
            exact stored
          rw [answered_createPod built absent]
          cases Pod.ofJson? (Cluster.kept ⟨.pod, space, run.name⟩ (cluster.version + 1)
            (Cluster.identified ⟨.pod, space, run.name⟩ desired)) with
          | none => exact .refl storedNext
          | some created =>
              exact alike_report named ((Cluster.effect_answer cluster _).dated dated) storedNext now later _ none

end Run

end Turnstile
