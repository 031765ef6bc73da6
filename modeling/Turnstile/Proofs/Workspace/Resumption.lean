/-
Module: Turnstile.Proofs.Workspace.Resumption
Purpose: What attempts to reconcile a workspace make of a cluster, however often and wherever they are cut off.
Main exports: Workspace.Reported, Workspace.Added, Workspace.Partway, Workspace.Foreseen, Workspace.Underway,
  Workspace.abides_reconcile
-/
import Turnstile.Proofs.Condition.Timeless
import Turnstile.Proofs.Workspace.Convergence
import Turnstile.Proofs.Workspace.Outcome

/-!
What the workspace needs is fixed by the workspace and the settings, and so is its next status by what is observed, up
to its times.  So an attempt can leave of a cluster only this: some of the things that were not there are, as they are
created, and the status may be the next one.
-/

namespace Turnstile.Workspace

open Attempt Cluster Condition

variable {workspace current : Workspace} {settings : Settings} {space now : String} {observation : Observation}
  {start cluster next : Cluster} {owner : OwnerReference} {key : Key}

/-! ### The workspace after attempts -/

/-- The workspace as it was, or with the status that follows from the observation. -/
inductive Reported (workspace : Workspace) (space : String) (observation : Observation) : Workspace → Prop where
  | unreported : Reported workspace space observation workspace
  | reported {now : String} {status : WorkspaceStatus} (version : String)
      (planned : workspace.nextStatus? now observation = some status) :
      Reported workspace space observation (workspace.reported space version status)

/-- Whether a status is to be written does not depend on the time. -/
theorem nextStatus?_eq_none_iff (now : String) :
    workspace.nextStatus? now observation = none ↔
      advanced now (workspace.status.getD {}) observation = workspace.status.getD {} := by
  simp only [nextStatus?, ite_eq_left_iff, reduceCtorEq, imp_false, not_not]

theorem nextStatus?_eq_none_congr (now later : String) :
    workspace.nextStatus? now observation = none ↔ workspace.nextStatus? later observation = none := by
  have queue : (advanced now (workspace.status.getD {}) observation).queue =
      (advanced later (workspace.status.getD {}) observation).queue := by
    unfold advanced
    split <;> rfl
  rw [nextStatus?_eq_none_iff, nextStatus?_eq_none_iff, WorkspaceStatus.mk.injEq, WorkspaceStatus.mk.injEq, queue,
    conditions_advanced, conditions_advanced, record_eq_self_iff now (nodup_findings _),
    record_eq_self_iff later (nodup_findings _)]

/-- Once the status is reported there is none to write. -/
theorem nextStatus?_reported {version later : String} {status : WorkspaceStatus}
    (planned : workspace.nextStatus? now observation = some status) :
    (workspace.reported space version status).nextStatus? later observation = none := by
  rw [nextStatus?_eq_none_iff, reported, Option.getD_some, eq_advanced_of_nextStatus? planned]
  exact advanced_again ⟨rfl, fun _ => Iff.rfl⟩ now later _

/-- A report changes nothing that a reconciliation looks for or creates. -/
theorem Reported.same (reported : workspace.Reported space observation current) :
    current.name = workspace.name ∧ current.controllerReference? = workspace.controllerReference? ∧
      current.prerequisites space = workspace.prerequisites space ∧
      (∀ cluster, current.surveys space cluster = workspace.surveys space cluster) ∧
      (∀ cluster, current.lists space cluster = workspace.lists space cluster) ∧
      ∀ settings owner, current.dependents settings space owner = workspace.dependents settings space owner := by
  cases reported with
  | unreported => exact ⟨rfl, rfl, rfl, fun _ => rfl, fun _ => rfl, fun _ _ => rfl⟩
  | reported version planned => exact ⟨rfl, rfl, rfl, fun _ => rfl, fun _ => rfl, fun _ _ => rfl⟩

/-! ### The things that the workspace needs -/

/-- The object is the thing of this key that the workspace needs, as it is created. -/
inductive Added (workspace : Workspace) (settings : Settings) (space : String) (key : Key) : Json → Prop where
  | intro {owner : OwnerReference} {desired : Json} (known : workspace.controllerReference? = some owner)
      (needed : (key, desired) ∈ workspace.dependents settings space owner) (version : Nat) :
      Added workspace settings space key (kept key version (identified key desired))

theorem Added.fits {object : Json} (added : workspace.Added settings space key object) :
    key.kind.fits object = true := by
  cases added with
  | intro known needed version => exact fits_dependents known needed version

/-- The things that the workspace needs are fixed but for the version at which they are kept. -/
theorem Added.unique {first second : Json} (added : workspace.Added settings space key first)
    (again : workspace.Added settings space key second) :
    ∃ given version other, first = kept key version given ∧ second = kept key other given := by
  cases added with
  | @intro owner desired known needed version =>
      cases again with
      | @intro owner' desired' known' needed' other =>
          cases known.symm.trans known'
          have distinct : ((workspace.dependents settings space owner).map Prod.fst).Nodup := by
            rw [map_fst_dependents]
            simp [resources]
          have same : desired = desired' :=
            congrArg Prod.snd (List.inj_on_of_nodup_map distinct needed needed' rfl)
          exact ⟨_, version, other, rfl, by rw [same]⟩

/-- What attempts may have made of a cluster. -/
structure Partway (workspace : Workspace) (settings : Settings) (space : String) (observation : Observation)
    (start cluster : Cluster) : Prop where
  dated : cluster.Dated
  others : ∀ key, key ≠ ⟨.workspace, space, workspace.name⟩ → key ∉ workspace.resources space →
    cluster.find? key = start.find? key
  added : ∀ key ∈ workspace.resources space, cluster.find? key = start.find? key ∨
    observation.missing = [] ∧ start.find? key = none ∧
      ∃ object, cluster.find? key = some object ∧ workspace.Added settings space key object
  listed : cluster.listed .run space (.labelled Run.workspaceLabel workspace.name) =
    start.listed .run space (.labelled Run.workspaceLabel workspace.name)
  reported : ∃ current, cluster.workspace? space workspace.name = some current ∧
    workspace.Reported space observation current

theorem partway_start (dated : start.Dated) (stored : start.workspace? space workspace.name = some workspace) :
    Partway workspace settings space observation start start where
  dated := dated
  others := fun _ _ _ => rfl
  added := fun _ _ => Or.inl rfl
  listed := rfl
  reported := ⟨workspace, stored, .unreported⟩

/-- One of the things that the workspace needs is created where there is nothing. -/
theorem Partway.add (partway : Partway workspace settings space observation start cluster)
    (healthy : observation.missing = []) (known : workspace.controllerReference? = some owner)
    {resource : Key × Json} (needed : resource ∈ workspace.dependents settings space owner)
    (absent : cluster.find? resource.1 = none) :
    Partway workspace settings space observation start
      (cluster.write resource.1 (identified resource.1 resource.2)) := by
  have place := mem_resources_of_mem_dependents needed
  refine ⟨?_, ?_, ?_, ?_, ?_⟩
  · have effect := effect_answer cluster (.create resource.1.kind resource.1.namespaceName resource.2)
    rw [answer_create (createdKey_dependents needed) absent] at effect
    exact effect.dated partway.dated
  · intro key other apart
    have elsewhere : key ≠ resource.1 := by
      rintro rfl
      exact apart place
    rw [find?_write_of_ne elsewhere]
    exact partway.others key other apart
  · intro key wanted
    by_cases own : key = resource.1
    · subst own
      refine Or.inr ⟨healthy, ?_, _, find?_write_self _ _ _, .intro known needed _⟩
      rcases partway.added _ wanted with same | ⟨_, nothing, _⟩
      · rw [← same]
        exact absent
      · exact nothing
    · rw [find?_write_of_ne own]
      exact partway.added key wanted
  · rw [listed_write (kind_ne_of_mem_resources place (by decide))]
    exact partway.listed
  · obtain ⟨current, stored, reported⟩ := partway.reported
    refine ⟨current, ?_, reported⟩
    rw [workspace?_congr (find?_write_of_ne (ne_of_mem_resources place _ _).symm _ _)]
    exact stored

/-- The next status is reported for the workspace as it was. -/
theorem Partway.report (partway : Partway workspace settings space observation start cluster)
    (stored : cluster.workspace? space workspace.name = some workspace) {status : WorkspaceStatus}
    (planned : workspace.nextStatus? now observation = some status) :
    Partway workspace settings space observation start
      (cluster.answer (workspace.statusRequest space status)).1 := by
  have effect := effect_answer cluster (workspace.statusRequest space status)
  have others : ∀ key, key ≠ ⟨.workspace, space, workspace.name⟩ →
      (cluster.answer (workspace.statusRequest space status)).1.find? key = cluster.find? key :=
    fun key other => effect.find?_of_ne fun same => other (Option.some.inj same).symm
  refine ⟨effect.dated partway.dated, fun key other apart => (others key other).trans (partway.others key other apart),
    ?_, ?_, _, workspace?_statusRequest partway.dated stored status, .reported _ planned⟩
  · intro key needed
    rw [others key (ne_of_mem_resources needed _ _)]
    exact partway.added key needed
  · obtain ⟨object, written, _⟩ := answer_statusRequest partway.dated stored status
    rw [written]
    exact (listed_write Kind.noConfusion cluster object space _).trans partway.listed

/-- However a request ends, attempts are where they were or where the answered request takes them. -/
theorem Partway.of_reply {request : Request} {reply : Except ApiError Json}
    (partway : Partway workspace settings space observation start cluster)
    (served : Reply cluster request next reply)
    (answers : Partway workspace settings space observation start (cluster.answer request).1) :
    Partway workspace settings space observation start next := by
  cases served with
  | answered => exact answers
  | refused honest => exact partway
  | lost honest => exact answers

/-- A request that asks for no change leaves attempts where they were. -/
theorem Partway.of_not_isWrite {request : Request}
    (partway : Partway workspace settings space observation start cluster) (reads : request.isWrite = false) :
    Partway workspace settings space observation start (cluster.answer request).1 := by
  rw [(effect_answer cluster request).eq_of_not_isWrite reads]
  exact partway

/-- The creation of one of the things that the workspace needs leads attempts on. -/
theorem Partway.create (partway : Partway workspace settings space observation start cluster)
    (healthy : observation.missing = []) (known : workspace.controllerReference? = some owner)
    {resource : Key × Json} (needed : resource ∈ workspace.dependents settings space owner) :
    Partway workspace settings space observation start
      (cluster.answer (.create resource.1.kind resource.1.namespaceName resource.2)).1 := by
  have named := createdKey_dependents needed
  cases found : cluster.find? resource.1 with
  | none =>
      rw [answer_create named found]
      exact partway.add healthy known needed found
  | some object =>
      simp only [Cluster.answer, named, found]
      exact partway

/-! ### One attempt -/

/-- What the observation should be, of the cluster that the attempts start from. -/
structure Foreseen (workspace : Workspace) (space : String) (observation : Observation) (start : Cluster) : Prop where
  looked : workspace.surveys space start = .ok observation.missing
  listed : observation.missing = [] → workspace.lists space start = .ok observation.pending
  unlisted : observation.missing ≠ [] → observation.pending = []

/-- The prerequisites are as they were. -/
theorem Partway.surveys (partway : Partway workspace settings space observation start cluster) :
    workspace.surveys space cluster = workspace.surveys space start := by
  refine surveys_congr fun key wanted => partway.others key ?_ (not_mem_resources_of_mem_prerequisites wanted)
  rintro rfl
  simpa using kind_of_mem_prerequisites wanted

/-- The runs are listed as they were. -/
theorem Partway.lists (partway : Partway workspace settings space observation start cluster) :
    workspace.lists space cluster = workspace.lists space start :=
  lists_congr partway.listed

section Attempt

variable {law : History → Prop} {history : History}

/-- A lookup of a prerequisite tells what the cluster lacks. -/
theorem abides_missing? (kind : Kind) (name : Option String)
    (stutters : ∀ later, law later → law (later.present :: later)) :
    Attempt.Abides law Eq
      (fun lacks later => later.present = history.present ∧ misses? kind space name history.present = .ok lacks)
      (missing? kind space name) history := by
  cases name with
  | none => exact abides_pure ⟨rfl, rfl⟩
  | some name =>
      refine Attempt.Abides.bind (fun found later => later.present = history.present ∧
        history.present.look (Program.ofKind kind) ⟨kind, space, name⟩ = .ok found)
        (abides_look stutters fun found seen => ⟨rfl, seen⟩) ?_
      rintro found later ⟨same, seen⟩
      refine abides_pure ⟨same, ?_⟩
      simp only [misses?, seen]
      rfl

/-- The lookup of the prerequisites tells what the cluster lacks. -/
theorem abides_missingPrerequisites (stutters : ∀ later, law later → law (later.present :: later)) :
    Attempt.Abides law Eq
      (fun missing later => later.present = history.present ∧ workspace.surveys space history.present = .ok missing)
      (workspace.missingPrerequisites space) history := by
  refine Attempt.Abides.bind _ (abides_missing? .serviceAccount _ stutters) ?_
  rintro account later ⟨same, noAccount⟩
  refine Attempt.Abides.bind _ (abides_missing? .secret _ stutters) ?_
  rintro secret final ⟨alsoSame, noSecret⟩
  rw [same] at noSecret
  refine abides_pure ⟨alsoSame.trans same, ?_⟩
  simp only [Workspace.surveys, noAccount, noSecret]
  rfl

end Attempt

/-- Attempts are partway at the end of the history. -/
def Underway (workspace : Workspace) (settings : Settings) (space : String) (observation : Observation)
    (start : Cluster) (history : History) : Prop :=
  Partway workspace settings space observation start history.present

section Underway

variable {history : History}

/-- Ensuring what the workspace needs leads attempts on, where nothing is missing. -/
theorem abides_ensureResources (healthy : observation.missing = [])
    (stored : history.present.workspace? space workspace.name = some current)
    (reported : workspace.Reported space observation current) :
    Attempt.Abides (Underway workspace settings space observation start) Eq
      (fun _ later => later.present.workspace? space workspace.name = some current)
      (current.ensureResources settings space) history := by
  obtain ⟨_, reference, _, _, _, dependents⟩ := reported.same
  rw [ensureResources_eq, reference]
  cases known : workspace.controllerReference? with
  | none => exact abides_fail _ history
  | some owner =>
      simp only [dependents]
      have uses : Attempt.Uses
          (fun request => (∃ key, request = .get key) ∨ ∃ resource ∈ workspace.dependents settings space owner,
            request = .create resource.1.kind resource.1.namespaceName resource.2)
          (ensureAll (workspace.dependents settings space owner)) :=
        uses_ensureAll fun resource needed => ⟨Or.inl ⟨_, rfl⟩, Or.inr ⟨resource, needed, rfl⟩⟩
      refine uses.abides (fun later : History => later.present.workspace? space workspace.name = some current)
        ?_ ?_ stored
      · rintro later _ stored rfl
        exact stored
      · rintro later request cluster reply stored partway (⟨key, rfl⟩ | ⟨resource, needed, rfl⟩) served
        · refine ⟨Partway.of_reply partway served (partway.of_not_isWrite rfl), ?_⟩
          rw [History.present_cons, served.effect.eq_of_not_isWrite rfl]
          exact stored
        · refine ⟨Partway.of_reply partway served (partway.create healthy known needed), ?_⟩
          have apart : resource.1.kind ≠ .workspace :=
            kind_ne_of_mem_resources (mem_resources_of_mem_dependents needed) (by decide)
          rw [History.present_cons, workspace?_congr (served.effect.find?_of_kind apart space workspace.name)]
          exact stored

/-- The list of the runs tells what is foreseen. -/
theorem abides_pendingRuns (foreseen : Foreseen workspace space observation start)
    (healthy : observation.missing = [])
    (stored : history.present.workspace? space workspace.name = some current)
    (reported : workspace.Reported space observation current) :
    Attempt.Abides (Underway workspace settings space observation start) Eq
      (fun pending later => pending = observation.pending ∧
        later.present.workspace? space workspace.name = some current)
      (current.pendingRuns space) history := by
  refine Attempt.Abides.bind (fun runs later => pendingNames runs = observation.pending ∧
    later.present.workspace? space workspace.name = some current) (abides_require ?_)
      fun runs later met => abides_pure met
  rintro _ rfl partway cluster reply served
  refine ⟨Partway.of_reply partway served (partway.of_not_isWrite rfl), ?_⟩
  rintro json runs rfl read
  obtain ⟨rfl, good⟩ := served.of_ok
  refine ⟨?_, stored⟩
  have told : current.lists space history.present = .ok (pendingNames runs) := by
    cases good
    have listed : Json.list? Run.ofJson? (.array ((history.present.listed .run space
        (.labelled Run.workspaceLabel current.name)).map Prod.snd)) = some runs := read
    rw [Workspace.lists, listed]
    rfl
  obtain ⟨_, _, _, _, lists, _⟩ := reported.same
  rw [lists, Partway.lists partway, foreseen.listed healthy] at told
  exact (Except.ok.inj told).symm

/-- An observation tells what is foreseen. -/
theorem abides_observe (foreseen : Foreseen workspace space observation start)
    (partway : Underway workspace settings space observation start history)
    (stored : history.present.workspace? space workspace.name = some current)
    (reported : workspace.Reported space observation current) :
    Attempt.Abides (Underway workspace settings space observation start) Eq
      (fun seen later => seen = observation ∧ later.present.workspace? space workspace.name = some current)
      (current.observe settings space) history := by
  refine Attempt.Abides.bind _ (abides_missingPrerequisites fun _ partway => partway) ?_
  rintro missing later ⟨same, told⟩
  have foretold : missing = observation.missing := by
    obtain ⟨_, _, _, surveys, _⟩ := reported.same
    rw [surveys, Partway.surveys partway, foreseen.looked] at told
    exact (Except.ok.inj told).symm
  have storedLater : later.present.workspace? space workspace.name = some current := by
    rw [same]
    exact stored
  split
  · rename_i nothing
    have healthy : observation.missing = [] := foretold ▸ List.isEmpty_iff.mp nothing
    refine Attempt.Abides.bind _ (abides_ensureResources healthy storedLater reported) ?_
    intro _ ensured stored
    refine Attempt.Abides.bind _ (abides_pendingRuns foreseen healthy stored reported) ?_
    rintro pending final ⟨rfl, stored⟩
    exact abides_pure ⟨by rw [foretold], stored⟩
  · rename_i something
    have lacks : observation.missing ≠ [] := fun nothing =>
      something (List.isEmpty_iff.mpr (foretold.trans nothing))
    refine abides_pure ⟨?_, storedLater⟩
    rw [foretold, ← foreseen.unlisted lacks]

/-- An attempt leads on from where attempts have led, whichever of its requests fail. -/
theorem abides_reconcile (foreseen : Foreseen workspace space observation start)
    (partway : Underway workspace settings space observation start history)
    (stored : history.present.workspace? space workspace.name = some current)
    (reported : workspace.Reported space observation current) (now : String) :
    Attempt.Abides (Underway workspace settings space observation start) Eq (fun _ _ => True)
      (current.reconcile now settings space) history := by
  refine Attempt.Abides.bind _ (abides_observe foreseen partway stored reported) ?_
  rintro _ later ⟨rfl, stored⟩
  split
  · exact abides_pure trivial
  · rename_i status planned
    refine abides_require ?_
    rintro _ rfl partway cluster reply served
    refine ⟨?_, fun _ _ _ _ => trivial⟩
    cases reported with
    | unreported => exact Partway.of_reply partway served (Partway.report partway stored planned)
    | reported version before =>
        rw [nextStatus?_reported before] at planned
        cases planned

end Underway

end Turnstile.Workspace
