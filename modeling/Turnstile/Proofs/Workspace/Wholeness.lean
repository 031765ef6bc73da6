/-
Module: Turnstile.Proofs.Workspace.Wholeness
Purpose: A reconciliation of a workspace does all of its work or leaves the status alone, and one that was cut off is
  made good by the next.
Main exports: Workspace.Feasible, Workspace.Partway.resumes, Workspace.Tallies, Workspace.Attempts, Workspace.Whole,
  Workspace.whole, History.attemptWorkspace
-/
import Turnstile.Proofs.Run.Restart
import Turnstile.Proofs.Workspace.Conduct
import Turnstile.Proofs.Workspace.Resumption

/-!
From any cluster that attempts may have left, an undisturbed reconciliation succeeds if one would have succeeded at
once: what it finds it can read, and what it creates can be read as well.  Both leave each thing that the workspace
needs, and the same next status.
-/

namespace Turnstile.Workspace

open Attempt Cluster Condition

variable {workspace current : Workspace} {settings : Settings} {space now : String} {observation : Observation}
  {start cluster next : Cluster} {owner : OwnerReference} {key : Key}

/-! ### Undisturbed reconciliations -/

/-- Whatever an undisturbed reconciliation needs of the cluster that the attempts start from. -/
structure Feasible (workspace : Workspace) (settings : Settings) (space : String) (observation : Observation)
    (start : Cluster) : Prop extends Foreseen workspace space observation start where
  named : ∀ now status, workspace.nextStatus? now observation = some status → workspace.name.isEmpty = false
  known : observation.missing = [] → ∃ owner, workspace.controllerReference? = some owner
  legible : observation.missing = [] → ∀ key ∈ workspace.resources space, key.name.isEmpty = false ∧
    ∀ object, start.find? key = some object → key.kind.fits object = true

/-- Things that were ensured in order could be addressed, and what was there could be read. -/
theorem of_answered_ensureAll {resources : List (Key × Json)}
    (succeeds : answered (ensureAll resources) cluster = (next, .ok ())) :
    ∀ resource ∈ resources, resource.1.name.isEmpty = false ∧
      ∀ object, cluster.find? resource.1 = some object → resource.1.kind.fits object = true := by
  induction resources generalizing cluster with
  | nil => exact List.forall_mem_nil _
  | cons resource rest inductionHypothesis =>
      obtain ⟨middle, _, first, further⟩ := of_answered_bind succeeds
      refine List.forall_mem_cons.mpr ⟨of_answered_ensure first, ?_⟩
      intro other needed
      obtain ⟨named, legible⟩ := inductionHypothesis further other needed
      exact ⟨named, fun object stored => legible object (find?_of_answered_ensure first stored)⟩

/-- Ensuring what the workspace needs does not change which runs are listed. -/
theorem listed_of_answered_ensureAll {resources : List (Key × Json)}
    (needed : ∀ resource ∈ resources, resource ∈ workspace.dependents settings space owner)
    (ensured : answered (ensureAll resources) cluster = (next, .ok ())) :
    workspace.lists space next = workspace.lists space cluster := by
  have uses : Uses (fun request => (∃ key, request = .get key) ∨
      ∃ resource ∈ workspace.dependents settings space owner,
        request = .create resource.1.kind resource.1.namespaceName resource.2) (ensureAll resources) :=
    uses_ensureAll fun resource member => ⟨Or.inl ⟨_, rfl⟩, Or.inr ⟨resource, needed resource member, rfl⟩⟩
  have kept := Program.Uses.answered uses (fun middle => workspace.lists space middle = workspace.lists space cluster)
    ?_ rfl
  · rw [show Program.answered (ensureAll resources) cluster = (next, .ok ()) from ensured] at kept
    exact kept
  · rintro middle request same (⟨key, rfl⟩ | ⟨resource, member, rfl⟩)
    · exact same
    · rw [← same]
      have isRun : resource.1.kind ≠ .run :=
        kind_ne_of_mem_resources (mem_resources_of_mem_dependents member) (by decide)
      cases found : middle.find? resource.1 with
      | some object => simp only [Cluster.answer, createdKey_dependents member, found]
      | none =>
          rw [answer_create (createdKey_dependents member) found]
          exact lists_congr (listed_write isRun middle _ space _)

/-- Where an undisturbed reconciliation succeeds, nothing that it needs is wanting. -/
theorem feasible_of_answered (succeeds : answered (workspace.reconcile now settings space) start = (next, .ok ())) :
    ∃ observation, Feasible workspace settings space observation start := by
  obtain ⟨middle, observation, observed, concluded⟩ := of_answered_bind succeeds
  have named : ∀ now status, workspace.nextStatus? now observation = some status →
      workspace.name.isEmpty = false := by
    intro later status planned
    cases plannedNow : workspace.nextStatus? now observation with
    | none =>
        rw [(nextStatus?_eq_none_congr now later).mp plannedNow] at planned
        cases planned
    | some given =>
        rw [plannedNow] at concluded
        simpa [Program.isAddressed, Request.verb, Request.key?] using isAddressed_of_answered concluded
  obtain ⟨_, missing, looked, rest⟩ := of_answered_bind observed
  rw [answered_missingPrerequisites] at looked
  obtain ⟨rfl, told⟩ := Prod.mk.inj looked
  cases nothing : missing.isEmpty with
  | false =>
      rw [nothing] at rest
      cases rest
      have lacks : missing ≠ [] := by simpa using nothing
      exact ⟨_, ⟨⟨told, fun complete => absurd complete lacks, fun _ => rfl⟩, named,
        fun complete => absurd complete lacks, fun complete => absurd complete lacks⟩⟩
  | true =>
      rw [nothing] at rest
      cases List.isEmpty_iff.mp nothing
      obtain ⟨ensured, _, ensures, rest⟩ := of_answered_bind rest
      obtain ⟨listed, pending, lists, rest⟩ := of_answered_bind rest
      cases rest
      rw [ensureResources_eq] at ensures
      rw [answered_pendingRuns] at lists
      obtain ⟨_, lists⟩ := Prod.mk.inj lists
      cases known : workspace.controllerReference? with
      | none =>
          rw [known] at ensures
          cases ensures
      | some owner =>
          rw [known] at ensures
          refine ⟨_, ⟨⟨told, fun _ => ?_, fun lacks => absurd rfl lacks⟩, named, fun _ => ⟨owner, known⟩, fun _ => ?_⟩⟩
          · rw [← lists]
            exact (listed_of_answered_ensureAll (fun _ needed => needed) ensures).symm
          · intro key needed
            rw [← map_fst_dependents workspace settings space owner] at needed
            obtain ⟨resource, dependent, rfl⟩ := List.mem_map.mp needed
            exact of_answered_ensureAll ensures resource dependent

/-! ### Undisturbed reconciliations after attempts -/

/-- What is stored of the things that the workspace needs can be read. -/
theorem Partway.fits (partway : Partway workspace settings space observation start cluster)
    (feasible : Feasible workspace settings space observation start) (healthy : observation.missing = [])
    (needed : key ∈ workspace.resources space) {object : Json} (stored : cluster.find? key = some object) :
    key.kind.fits object = true := by
  rcases partway.added key needed with same | ⟨_, _, given, created, added⟩
  · exact (feasible.legible healthy key needed).2 object (same.symm.trans stored)
  · cases created.symm.trans stored
    exact added.fits

/-- Once one of the things that the workspace needs is ensured it exists; the workspace stays, and whatever else is
there. -/
theorem Partway.ensure (partway : Partway workspace settings space observation start cluster)
    (feasible : Feasible workspace settings space observation start) (healthy : observation.missing = [])
    (known : workspace.controllerReference? = some owner) {resource : Key × Json}
    (needed : resource ∈ workspace.dependents settings space owner) :
    ∃ next, answered (Attempt.ensure resource.1 resource.2) cluster = (next, .ok ()) ∧
      Partway workspace settings space observation start next ∧
      next.workspace? space workspace.name = cluster.workspace? space workspace.name ∧
      ∀ key, cluster.find? key ≠ none ∨ key = resource.1 → next.find? key ≠ none := by
  have place := mem_resources_of_mem_dependents needed
  have named := (feasible.legible healthy _ place).1
  cases found : cluster.find? resource.1 with
  | some object =>
      refine ⟨cluster, answered_ensure_of_some named found (partway.fits feasible healthy place found), partway, rfl,
        ?_⟩
      rintro key (there | rfl)
      · exact there
      · rw [found]
        exact Option.some_ne_none object
  | none =>
      refine ⟨_, answered_ensure_of_none named (createdKey_dependents needed) found (fits_dependents known needed _),
        partway.add healthy known needed found, ?_, ?_⟩
      · exact workspace?_congr (find?_write_of_ne (ne_of_mem_resources place _ _).symm _ _)
      · intro key there
        by_cases own : key = resource.1
        · rw [own, find?_write_self]
          exact Option.some_ne_none _
        · rw [find?_write_of_ne own]
          exact there.resolve_right own

/-- Once the things that the workspace needs are ensured they exist. -/
theorem Partway.ensureAll (partway : Partway workspace settings space observation start cluster)
    (feasible : Feasible workspace settings space observation start) (healthy : observation.missing = [])
    (known : workspace.controllerReference? = some owner) {resources : List (Key × Json)}
    (needed : ∀ resource ∈ resources, resource ∈ workspace.dependents settings space owner) :
    ∃ next, answered (Attempt.ensureAll resources) cluster = (next, .ok ()) ∧
      Partway workspace settings space observation start next ∧
      next.workspace? space workspace.name = cluster.workspace? space workspace.name ∧
      ∀ key, cluster.find? key ≠ none ∨ key ∈ resources.map Prod.fst → next.find? key ≠ none := by
  induction resources generalizing cluster with
  | nil => exact ⟨cluster, rfl, partway, rfl, fun key there => there.resolve_right (by simp)⟩
  | cons resource rest inductionHypothesis =>
      obtain ⟨dependent, others⟩ := List.forall_mem_cons.mp needed
      obtain ⟨middle, ensured, partwayThere, same, here⟩ := partway.ensure feasible healthy known dependent
      obtain ⟨next, further, partwayNext, alsoSame, there⟩ := inductionHypothesis partwayThere others
      refine ⟨next, (answered_bind_of_ok () ensured).trans further, partwayNext, alsoSame.trans same, ?_⟩
      rintro key (present | listed)
      · exact there key (Or.inl (here key (Or.inl present)))
      · rcases List.mem_cons.mp listed with own | later
        · exact there key (Or.inl (here key (Or.inr own)))
        · exact there key (Or.inr later)

/-- After attempts an undisturbed observation is what was foreseen, and what the workspace needs exists if nothing is
missing. -/
theorem Partway.observe (partway : Partway workspace settings space observation start cluster)
    (feasible : Feasible workspace settings space observation start)
    (reported : workspace.Reported space observation current) :
    ∃ next, answered (current.observe settings space) cluster = (next, .ok observation) ∧
      Partway workspace settings space observation start next ∧
      next.workspace? space workspace.name = cluster.workspace? space workspace.name ∧
      (observation.missing = [] → ∀ key ∈ workspace.resources space, next.find? key ≠ none) := by
  obtain ⟨_, reference, _, surveys, lists, dependents⟩ := reported.same
  have looked : answered (current.missingPrerequisites space) cluster = (cluster, .ok observation.missing) := by
    rw [answered_missingPrerequisites, surveys, partway.surveys, feasible.looked]
  cases nothing : observation.missing.isEmpty with
  | false =>
      have lacks : observation.missing ≠ [] := by simpa using nothing
      refine ⟨cluster, ?_, partway, rfl, fun healthy => absurd healthy lacks⟩
      refine (answered_bind_of_ok _ looked).trans ?_
      rw [nothing, ← feasible.unlisted lacks]
      rfl
  | true =>
      have healthy := List.isEmpty_iff.mp nothing
      obtain ⟨owner, known⟩ := feasible.known healthy
      obtain ⟨next, ensured, partwayNext, same, there⟩ :=
        partway.ensureAll feasible healthy known fun _ needed => needed
      have ensures : answered (current.ensureResources settings space) cluster = (next, .ok ()) := by
        rw [ensureResources_eq, reference, known]
        simp only [dependents]
        exact ensured
      have listed : answered (current.pendingRuns space) next = (next, .ok observation.pending) := by
        rw [answered_pendingRuns, lists, partwayNext.lists, feasible.listed healthy]
      refine ⟨next, ?_, partwayNext, same, fun _ key needed => there key (Or.inr needed)⟩
      refine (answered_bind_of_ok _ looked).trans ?_
      rw [nothing]
      exact (answered_bind_of_ok () ensures).trans (answered_bind_of_ok _ listed)

/-- What an undisturbed reconciliation has come to after attempts. -/
structure Finished (workspace : Workspace) (settings : Settings) (space : String) (observation : Observation)
    (start final : Cluster) : Prop extends Partway workspace settings space observation start final where
  complete : observation.missing = [] → ∀ key ∈ workspace.resources space, final.find? key ≠ none
  settled : ∃ current, final.workspace? space workspace.name = some current ∧
    workspace.Reported space observation current ∧ ∀ now, current.nextStatus? now observation = none

/-- From wherever attempts have led an undisturbed reconciliation succeeds and is finished. -/
theorem Partway.resumes (partway : Partway workspace settings space observation start cluster)
    (feasible : Feasible workspace settings space observation start)
    (stored : cluster.workspace? space workspace.name = some current)
    (reported : workspace.Reported space observation current) (now : String) :
    ∃ final, answered (current.reconcile now settings space) cluster = (final, .ok ()) ∧
      Finished workspace settings space observation start final := by
  obtain ⟨next, observed, partwayNext, same, there⟩ := partway.observe feasible reported
  have storedNext := same.trans stored
  cases planned : current.nextStatus? now observation with
  | none =>
      refine ⟨next, ?_, partwayNext, there, current, storedNext, reported,
        fun later => (nextStatus?_eq_none_congr now later).mp planned⟩
      refine (answered_bind_of_ok _ observed).trans ?_
      rw [planned]
      rfl
  | some status =>
      cases reported with
      | reported version before =>
          rw [nextStatus?_reported before] at planned
          cases planned
      | unreported =>
          have addressed : Program.isAddressed (workspace.statusRequest space status) = true :=
            Program.isAddressed_of_key? rfl (feasible.named now status planned)
          obtain ⟨object, written, read⟩ := answer_statusRequest partwayNext.dated storedNext status
          have fits : Kind.workspace.fits (kept ⟨.workspace, space, workspace.name⟩ (next.version + 1) object) =
              true := by
            rw [Kind.fits, read]
            rfl
          refine ⟨(next.answer (workspace.statusRequest space status)).1, ?_,
            partwayNext.report storedNext planned, ?_, _,
            workspace?_statusRequest partwayNext.dated storedNext status, .reported _ planned,
            fun later => nextStatus?_reported planned⟩
          · refine (answered_bind_of_ok _ observed).trans ?_
            rw [planned]
            refine (answered_require _ next addressed).trans ?_
            rw [written]
            simp only [Cluster.written, Program.readable, Program.ofKind, fits]
            rfl
          · intro healthy key needed
            have other : (workspace.statusRequest space status).key? ≠ some key :=
              fun same => ne_of_mem_resources needed _ _ (Option.some.inj same).symm
            rw [(effect_answer next _).find?_of_ne other]
            exact there healthy key needed

/-! ### The same end -/

/-- The workspace without its version and without the times of its conditions. -/
def timeless (workspace : Workspace) : Workspace :=
  { workspace with
    metadata := { workspace.metadata with resourceVersion := none }
    status := workspace.status.map fun status =>
      { status with conditions := status.conditions.map Condition.timeless } }

/-- Two clusters hold the same objects, but for the versions of those that a reconciliation of the workspace writes and
for the times in its status. -/
structure Tallies (workspace : Workspace) (space : String) (first second : Cluster) : Prop where
  others : ∀ key, key ≠ ⟨.workspace, space, workspace.name⟩ → key ∉ workspace.resources space →
    first.find? key = second.find? key
  resources : ∀ key ∈ workspace.resources space, first.find? key = second.find? key ∨
    ∃ given version other, first.find? key = some (kept key version given) ∧
      second.find? key = some (kept key other given)
  workspaces : ∃ earlier later, first.workspace? space workspace.name = some earlier ∧
    second.workspace? space workspace.name = some later ∧ earlier.timeless = later.timeless

/-- Statuses that follow from one observation differ in their times only. -/
theorem timeless_reported {later version other : String} {status another : WorkspaceStatus}
    (planned : workspace.nextStatus? now observation = some status)
    (replanned : workspace.nextStatus? later observation = some another) :
    (workspace.reported space version status).timeless = (workspace.reported space other another).timeless := by
  have queue : status.queue = another.queue := by
    rw [eq_advanced_of_nextStatus? planned, eq_advanced_of_nextStatus? replanned]
    unfold advanced
    split <;> rfl
  have conditions : status.conditions.map Condition.timeless = another.conditions.map Condition.timeless := by
    rw [eq_advanced_of_nextStatus? planned, eq_advanced_of_nextStatus? replanned, conditions_advanced,
      conditions_advanced]
    exact map_timeless_record rfl now later _
  simp only [timeless, reported, Metadata.placed, Option.map_some, queue, conditions]

/-- Where the things that the workspace needs are finished twice, they differ in their versions only. -/
theorem Finished.resources_tally {first second : Cluster}
    (finished : Finished workspace settings space observation start first)
    (again : Finished workspace settings space observation start second) (needed : key ∈ workspace.resources space) :
    first.find? key = second.find? key ∨ ∃ given version other, first.find? key = some (kept key version given) ∧
      second.find? key = some (kept key other given) := by
  rcases finished.added key needed with same | ⟨healthy, absent, object, created, added⟩
  · rcases again.added key needed with alsoSame | ⟨healthy, absent, _⟩
    · exact Or.inl (same.trans alsoSame.symm)
    · exact absurd (same.trans absent) (finished.complete healthy key needed)
  · rcases again.added key needed with same | ⟨_, _, other, alsoCreated, alsoAdded⟩
    · exact absurd (same.trans absent) (again.complete healthy key needed)
    · obtain ⟨given, version, later, rfl, rfl⟩ := added.unique alsoAdded
      exact Or.inr ⟨given, version, later, created, alsoCreated⟩

/-- Reconciliations that have finished have come to the same end. -/
theorem Finished.tallies {first second : Cluster}
    (finished : Finished workspace settings space observation start first)
    (again : Finished workspace settings space observation start second) :
    workspace.Tallies space first second where
  others := fun key other apart =>
    (finished.others key other apart).trans (again.others key other apart).symm
  resources := fun _ needed => finished.resources_tally again needed
  workspaces := by
    obtain ⟨earlier, stored, reported, settled⟩ := finished.settled
    obtain ⟨later, storedAgain, reportedAgain, settledAgain⟩ := again.settled
    refine ⟨earlier, later, stored, storedAgain, ?_⟩
    cases reported with
    | unreported =>
        cases reportedAgain with
        | unreported => rfl
        | reported version planned =>
            rw [settled] at planned
            cases planned
    | reported version planned =>
        cases reportedAgain with
        | unreported =>
            rw [settledAgain] at planned
            cases planned
        | reported other replanned => exact timeless_reported planned replanned

/-! ### Any number of attempts -/

/-- Attempts to reconcile the workspace, one after the other and each as it is stored by then; any of their requests
may fail. -/
inductive Attempts (settings : Settings) (space name : String) (start : History) : History → Prop where
  | none : Attempts settings space name start start
  | next {middle final : History} {workspace : Workspace} {now : String} {result : Except ReconcileFailure Unit}
      (before : Attempts settings space name start middle)
      (stored : middle.present.workspace? space name = some workspace)
      (served : Program.Serves (workspace.reconcile now settings space) middle final result) :
      Attempts settings space name start final

/-- Any number of attempts lead somewhere partway. -/
theorem Attempts.underway {origin final : History} (foreseen : Foreseen workspace space observation start)
    (begins : Underway workspace settings space observation start origin)
    (attempts : Attempts settings space workspace.name origin final) :
    Underway workspace settings space observation start final := by
  induction attempts with
  | none => exact begins
  | next before stored served inductionHypothesis =>
      obtain ⟨current, there, reported⟩ := Partway.reported inductionHypothesis
      cases there.symm.trans stored
      exact (Program.Abides.of_serves served (fun _ => rfl) inductionHypothesis
        (abides_reconcile foreseen inductionHypothesis stored reported _)).1

/-- A workspace goes by the name that it is stored under, in a cluster whose objects have their names. -/
theorem name_of_named (dated : cluster.Dated) (named : cluster.Named) {name : String}
    (stored : cluster.workspace? space name = some workspace) : workspace.name = name := by
  obtain ⟨object, found, read⟩ := find?_of_workspace? stored
  exact named.displayName dated found (resource?_of_ofJson? read)

/-- What holds of reconciliations of workspaces with these settings. -/
structure Whole (settings : Settings) (space : String) : Prop where
  /-- Each of them behaves well, whatever its requests meet and whichever of them fail. -/
  conduct : ∀ (workspace : Workspace) now transactions result,
    (workspace.reconcile now settings space).Transacts transactions result →
      workspace.Conduct space transactions result
  /-- From a cluster in which one would succeed, however many attempts lose whichever of their requests, one more that
  loses none succeeds and comes to the same end. -/
  resumes : ∀ (cluster next : Cluster) (middle : History) (workspace : Workspace) now later name,
    cluster.Dated → cluster.Named → cluster.workspace? space name = some workspace →
      answered (workspace.reconcile now settings space) cluster = (next, .ok ()) →
      Attempts settings space name [cluster] middle →
        ∃ current final, middle.present.workspace? space name = some current ∧
          answered (current.reconcile later settings space) middle.present = (final, .ok ()) ∧
          workspace.Tallies space next final

/-- Whatever becomes of its requests, a reconciliation of a workspace breaks off at the first failure and leaves the
status alone, or does all of its work; and what it leaves undone the next one does. -/
theorem whole (settings : Settings) (space : String) : Whole settings space where
  conduct := fun _ _ _ _ => conduct
  resumes := by
    intro cluster next middle workspace now later name dated named stored succeeds attempts
    obtain rfl := name_of_named dated named stored
    obtain ⟨observation, feasible⟩ := feasible_of_answered succeeds
    have begins : Partway workspace settings space observation cluster cluster := partway_start dated stored
    have start : Underway workspace settings space observation cluster [cluster] := begins
    have partway : Partway workspace settings space observation cluster middle.present :=
      attempts.underway feasible.toForeseen start
    obtain ⟨first, done, finished⟩ := begins.resumes feasible stored .unreported now
    cases succeeds.symm.trans done
    obtain ⟨current, there, reported⟩ := partway.reported
    obtain ⟨final, redone, again⟩ := partway.resumes feasible there reported later
    exact ⟨current, final, there, redone, finished.tallies again⟩

end Turnstile.Workspace

/-- Reconcile the stored workspace of a name once, if there is one; a request that is chosen to fail is refused as a
conflict. -/
def Turnstile.History.attemptWorkspace (history : History) (now space name : String) (fails : Request → Bool) :
    History :=
  match history.present.workspace? space name with
  | none => history
  | some workspace => ((workspace.reconcile now {} space).play fails history).1

namespace Turnstile.Workspace

open Cluster Condition

theorem Attempts.attemptWorkspace {space name : String} {origin middle : History}
    (attempts : Attempts {} space name origin middle) (now : String) (fails : Request → Bool) :
    Attempts {} space name origin (middle.attemptWorkspace now space name fails) := by
  unfold History.attemptWorkspace
  split
  · exact attempts
  · rename_i workspace stored
    exact attempts.next stored (Program.serves_play fails _ middle)

/-- A workspace that needs nothing but what is made for it. -/
@[irreducible] def founded : History :=
  History.ask [] (.founding "team" "dev")

/-- The workspace is reconciled twice; the first attempt fails to list the runs, and the second to write the status. -/
@[irreducible] def cutOff : History :=
  (History.attemptWorkspace [founded.present] "T1" "team" "dev" fun request => request.verb == .list).attemptWorkspace
    "T2" "team" "dev" fun request => request.verb == .patchStatus

/-- A reconciliation that is seen to succeed when every request is answered succeeds. -/
theorem exists_answered (cluster : Cluster) (now space name : String)
    (checked : ((cluster.workspace? space name).any fun workspace =>
      ((workspace.reconcile now {} space).perform Cluster.computed [cluster]).2.toBool) = true) :
    ∃ workspace next, cluster.workspace? space name = some workspace ∧
      Attempt.answered (workspace.reconcile now {} space) cluster = (next, .ok ()) := by
  obtain ⟨workspace, stored, succeeds⟩ := (Option.any_eq_true _ _).mp checked
  have computes : Cluster.computed = Cluster.answer := by
    funext cluster request
    exact cluster.computed_eq_answer request
  rw [computes, (Program.perform_answer _ [cluster]).2] at succeeds
  refine ⟨workspace, (Attempt.answered (workspace.reconcile now {} space) cluster).1, stored, ?_⟩
  refine Prod.ext rfl ?_
  cases value : (Attempt.answered (workspace.reconcile now {} space) cluster).2 with
  | ok done => rfl
  | error failure =>
      rw [History.present_cons, show (Program.answered (workspace.reconcile now {} space) cluster).2 = .error failure
        from value] at succeeds
      cases succeeds

/-- A workspace for which everything was made, but whose status was never written, is reconciled as if nothing had
failed. -/
theorem whole_cutOff :
    ((cutOff.present.find? ⟨.roleBinding, "team", roleName "dev"⟩).isSome = true ∧
      ((cutOff.present.workspace? "team" "dev").any fun workspace => workspace.status.isNone) = true) ∧
      ∃ workspace current next final, founded.present.workspace? "team" "dev" = some workspace ∧
        Attempt.answered (workspace.reconcile "T3" {} "team") founded.present = (next, .ok ()) ∧
        cutOff.present.workspace? "team" "dev" = some current ∧
        Attempt.answered (current.reconcile "T4" {} "team") cutOff.present = (final, .ok ()) ∧
        workspace.Tallies "team" next final := by
  have served : founded.Served := by
    rw [founded]
    exact .step .start (effect_answer _ _)
  have named : founded.present.Named := by
    apply named_of_all
    rw [founded]
    decide +kernel
  have attempts : Attempts {} "team" "dev" [founded.present] cutOff := by
    rw [cutOff]
    exact (Attempts.none.attemptWorkspace "T1" _).attemptWorkspace "T2" _
  obtain ⟨workspace, next, stored, succeeds⟩ := exists_answered founded.present "T3" "team" "dev" (by
    rw [founded]
    decide +kernel)
  obtain ⟨current, final, there, resumed, tallies⟩ :=
    (whole {} "team").resumes founded.present next cutOff workspace "T3" "T4" "dev" served.dated.1 named stored
      succeeds attempts
  refine ⟨⟨?_, ?_⟩, workspace, current, next, final, stored, succeeds, there, resumed, tallies⟩
  · rw [cutOff, founded]
    decide +kernel
  · rw [cutOff, founded]
    decide +kernel

/-- A reconciliation that is seen to succeed is served without interruption. -/
theorem exists_attemptWorkspace (history : History) (now space name : String) (fails : Request → Bool)
    (checked : ((history.present.workspace? space name).any fun workspace =>
      ((workspace.reconcile now {} space).play fails history).2.toBool) = true) :
    ∃ workspace, history.present.workspace? space name = some workspace ∧
      Program.Serves (workspace.reconcile now {} space) history (history.attemptWorkspace now space name fails)
        (.ok ()) := by
  obtain ⟨workspace, stored, succeeds⟩ := (Option.any_eq_true _ _).mp checked
  refine ⟨workspace, stored, ?_⟩
  rw [History.attemptWorkspace, stored]
  exact Program.serves_play_of_toBool succeeds

/-- The workspace is reconciled, and the creation of its claim is refused as a conflict. -/
@[irreducible] def misled : History :=
  History.attemptWorkspace [founded.present] "T1" "team" "dev" fun request =>
    request.verb == .create && request.kind == .persistentVolumeClaim

/-- A workspace says that it is ready, though the one reconciliation that there was never met its claim: the server
refused to create the claim for another reason than that there is one. -/
theorem misled_ready :
    (∃ workspace, founded.present.workspace? "team" "dev" = some workspace ∧
      Program.Serves (workspace.reconcile "T1" {} "team") [founded.present] misled (.ok ())) ∧
      (∀ cluster ∈ misled, cluster.find? ⟨.persistentVolumeClaim, "team", "dev"⟩ = none) ∧
      ∃ workspace status, misled.present.workspace? "team" "dev" = some workspace ∧ workspace.status = some status ∧
        isTrueFor status.conditions ready = true := by
  refine ⟨?_, ?_, ?_⟩
  · rw [misled]
    apply exists_attemptWorkspace [founded.present]
    rw [founded]
    decide +kernel
  · have never : (misled.isUnused ⟨.persistentVolumeClaim, "team", "dev"⟩) = true := by
      rw [misled, founded]
      decide +kernel
    exact History.unused_of_isUnused never
  · have isReady : ((misled.present.workspace? "team" "dev").any fun workspace =>
        workspace.status.any fun status => isTrueFor status.conditions ready) = true := by
      rw [misled, founded]
      decide +kernel
    obtain ⟨workspace, stored, ready⟩ := (Option.any_eq_true _ _).mp isReady
    obtain ⟨status, reported, ready⟩ := (Option.any_eq_true _ _).mp ready
    exact ⟨workspace, status, stored, reported, ready⟩

end Turnstile.Workspace
