/-
Module: Turnstile.Proofs.Run.Outline
Purpose: What has to be shown of each request of a reconciliation of a run.
Main exports: Request.Spares, Run.carryOut, Run.reconcile_eq, Run.Stage, Run.Outline, Run.Outline.abides,
  Run.Outline.join
-/
import Turnstile.Launch.NewWorkspace
import Turnstile.Launch.Submission
import Turnstile.Proofs.Cluster.Conduct
import Turnstile.Run.Reconcile

/-!
A reconciliation of a run passes through stages: it adopts its payload, has looked up its workspace, has looked
up its pod, has asked for its pod, has its pod, and is done.  An outline says what holds at each stage and why
the requests lead from one stage to the next; whoever gives an outline need not look into the program again.
-/

namespace Turnstile

/-- The request changes no workspace, no run and no pod. -/
def Request.Spares (request : Request) : Prop :=
  request.isWrite = true → request.kind ≠ .workspace ∧ request.kind ≠ .run ∧ request.kind ≠ .pod

theorem Request.spares_get (key : Key) : (Request.get key).Spares := by
  simp [Spares, isWrite, verb]

theorem Request.spares_of_kind {request : Request}
    (apart : request.kind ≠ .workspace ∧ request.kind ≠ .run ∧ request.kind ≠ .pod) : request.Spares :=
  fun _ => apart

/-- What a request spares stays as it is. -/
theorem Request.Spares.find?_eq {request : Request} (spares : request.Spares) {cluster next : Cluster}
    (effect : cluster.Effect request next) {kind : Kind} (spared : kind = .workspace ∨ kind = .run ∨ kind = .pod)
    (space name : String) : next.find? ⟨kind, space, name⟩ = cluster.find? ⟨kind, space, name⟩ := by
  cases writes : request.isWrite with
  | false => rw [effect.eq_of_not_isWrite writes]
  | true =>
      obtain ⟨notWorkspace, notRun, notPod⟩ := spares writes
      rcases spared with rfl | rfl | rfl
      · exact effect.find?_of_kind notWorkspace space name
      · exact effect.find?_of_kind notRun space name
      · exact effect.find?_of_kind notPod space name

namespace Run

/-- Where a reconciliation of a run stands. -/
inductive Stage where
  | adopting
  | looked (lookup : Lookup)
  | housed (lookup : Lookup) (pod : Option Pod)
  | asked (lookup : Lookup) (pod : Option Pod)
  | made (lookup : Lookup) (pod : Option Pod)
  | finished

/-- What holds at the stages of a reconciliation, and how its requests lead from one stage to the next. -/
structure Outline (law : History → Prop) (moves : History → History → Prop) (now : String)
    (settings : Settings) (space : String) (run : Run) (holds : Stage → History → Prop) : Prop where
  stutters : ∀ later, law later → law (later.present :: later)
  stays : ∀ {stage later final}, holds stage later → moves later final → holds stage final
  completed : run.isCompleted = true → ∀ {later}, holds .adopting later → holds .finished later
  adopts : ∀ {later request cluster reply}, holds .adopting later → law later → request.Spares →
    Reply later.present request cluster reply → law (cluster :: later) ∧ holds .adopting (cluster :: later)
  unspecified : run.workspaceName? = none → ∀ {later}, holds .adopting later →
    holds (.looked .unspecified) later
  notFound : ∀ {later name}, run.workspaceName? = some name → holds .adopting later →
    later.present.find? ⟨.workspace, space, name⟩ = none →
    holds (.looked (.notFound name)) (later.present :: later)
  found : ∀ {later name workspace}, run.workspaceName? = some name → holds .adopting later →
    later.present.workspace? space name = some workspace →
    holds (.looked (.found workspace)) (later.present :: later)
  houses : ∀ {later lookup pod}, holds (.looked lookup) later → later.present.pod? space run.name = some pod →
    holds (.housed lookup (some pod)) (later.present :: later)
  unhoused : ∀ {later lookup}, holds (.looked lookup) later →
    later.present.find? ⟨.pod, space, run.name⟩ = none →
    holds (.housed lookup none) (later.present :: later)
  creates : ∀ {later workspace pod desired cluster reply}, holds (.housed (.found workspace) pod) later →
    law later → (run.plan now (.found workspace) pod).createPod = true →
    run.manifest workspace settings = .ok desired →
    Reply later.present (.create .pod space desired) cluster reply →
    law (cluster :: later) ∧ holds (.asked (.found workspace) pod) (cluster :: later)
  rests : ∀ {later lookup pod}, holds (.asked lookup pod) later →
    holds (.asked lookup pod) (later.present :: later)
  created : ∀ {later lookup pod}, holds (.asked lookup pod) later →
    (run.plan now lookup pod).createPod = true →
    later.present.find? ⟨.pod, space, run.name⟩ ≠ none → holds (.made lookup pod) later
  spared : ∀ {later lookup pod}, holds (.housed lookup pod) later →
    (run.plan now lookup pod).createPod = false → holds (.made lookup pod) later
  writes : ∀ {later lookup pod status cluster reply}, holds (.made lookup pod) later → law later →
    (run.plan now lookup pod).status = some status →
    Reply later.present
      (.patchStatus ⟨.run, space, run.name⟩ (Attempt.statusPatch run.metadata status.toJson)) cluster reply →
    law (cluster :: later) ∧ ∀ json, reply = .ok json → holds .finished (cluster :: later)
  unchanged : ∀ {later lookup pod}, holds (.made lookup pod) later →
    (run.plan now lookup pod).status = none → holds .finished later

/-! ### The parts of a reconciliation -/

/-- Report the status that is planned, if there is one. -/
def report (run : Run) (space : String) : Option RunStatus → Attempt Unit
  | none => pure ()
  | some status => Attempt.writeStatus ⟨.run, space, run.name⟩ run.metadata status.toJson

/-- Carry out the plan. -/
def carryOut (now : String) (settings : Settings) (space : String) (run : Run) (lookup : Lookup)
    (pod : Option Pod) : Attempt Unit := do
  if (run.plan now lookup pod).createPod then run.createPod settings space lookup
  run.report space (run.plan now lookup pod).status

/-- A reconciliation of a run that is not over adopts the payload, looks twice and carries out its plan. -/
theorem reconcile_eq (now : String) (settings : Settings) (space : String) (run : Run) :
    run.reconcile now settings space =
      if run.isCompleted then pure ()
      else
        run.adoptPayload space >>= fun _ =>
          run.lookup space >>= fun lookup =>
            Attempt.find? Pod.ofJson? ⟨.pod, space, run.name⟩ >>= fun pod =>
              run.carryOut now settings space lookup pod := rfl

/-- Becoming an owner of a payload takes a request about the payload. -/
theorem asks_adopt (run : Run) (space : String) (payload : Metadata) :
    Attempt.Uses (fun request => request.kind = .configMap) (run.adopt space payload) := by
  unfold adopt
  cases run.metadata.uid with
  | none => exact Attempt.uses_fail _
  | some uid =>
      simp only
      split
      · exact Attempt.uses_pure ()
      · cases run.controllerReference? with
        | none => exact Attempt.uses_fail _
        | some owner => exact Attempt.uses_require rfl

/-- Adopting the payload takes requests about the payload. -/
theorem asks_adoptPayload (run : Run) (space : String) :
    Attempt.Uses (fun request => request.kind = .configMap) (run.adoptPayload space) := by
  refine Attempt.Uses.bind (Attempt.uses_find? rfl) ?_
  intro payload
  cases payload with
  | none => exact Attempt.uses_pure ()
  | some metadata => exact run.asks_adopt space metadata

/-- Adopting the payload changes no workspace, no run and no pod. -/
theorem uses_adoptPayload (run : Run) (space : String) :
    Attempt.Uses Request.Spares (run.adoptPayload space) :=
  (run.asks_adoptPayload space).weaken fun about => Request.spares_of_kind (by rw [about]; decide)

/-- A report takes a request about the run. -/
theorem asks_report (run : Run) (space : String) (status : Option RunStatus) :
    Attempt.Uses (fun request => request.kind = .run) (run.report space status) := by
  cases status with
  | none => exact Attempt.uses_pure ()
  | some status => exact Attempt.uses_require rfl

/-- A reconciliation of a run changes no workspace. -/
theorem uses_reconcile (now : String) (settings : Settings) (space : String) (run : Run) :
    Attempt.Uses (fun request => request.isWrite = true → request.kind ≠ .workspace)
      (run.reconcile now settings space) := by
  have looks {key : Key} : (Request.get key).isWrite = true → (Request.get key).kind ≠ .workspace :=
    fun writes => Bool.noConfusion writes
  rw [reconcile_eq]
  split
  · exact Attempt.uses_pure ()
  · have reports (status : Option RunStatus) :
        Attempt.Uses (fun request => request.isWrite = true → request.kind ≠ .workspace) (run.report space status) :=
      (run.asks_report space status).weaken fun about _ => by rw [about]; decide
    refine Attempt.Uses.bind ((run.uses_adoptPayload space).weaken fun spares asks => (spares asks).1) ?_
    intro _
    refine Attempt.Uses.bind ?_ ?_
    · unfold lookup
      split
      · exact Attempt.uses_pure _
      · refine Attempt.Uses.bind (Attempt.uses_find? looks) ?_
        intro found
        cases found <;> exact Attempt.uses_pure _
    · intro lookup
      refine Attempt.Uses.bind (Attempt.uses_find? looks) ?_
      intro pod
      unfold carryOut
      split
      · refine Attempt.Uses.bind ?_ fun _ => reports _
        unfold createPod
        split
        · split
          · exact Attempt.uses_fail _
          · exact Attempt.Uses.bind (Attempt.uses_createOrGet looks (by simp [Request.kind]))
              fun _ => Attempt.uses_pure ()
        · exact Attempt.uses_pure ()
      · exact reports _

/-- The pod of a run goes by the name of the run. -/
theorem createdKey_manifest {run : Run} {workspace : Workspace} {settings : Settings} {desired : Json}
    (built : run.manifest workspace settings = .ok desired) (space : String) :
    Request.createdKey .pod space desired = ⟨.pod, space, run.name⟩ := by
  unfold manifest at built
  split at built
  · cases built
  · cases built
    simp [Request.createdKey, Cluster.metadataText?, Json.at?, Json.get?_object, List.lookup_cons, Json.text?]

/-- Only a run whose workspace was found asks for its pod. -/
theorem found_of_createPod {now : String} {run : Run} {lookup : Lookup} {pod : Option Pod}
    (asked : (run.plan now lookup pod).createPod = true) : ∃ workspace, lookup = .found workspace := by
  cases lookup with
  | found workspace => exact ⟨workspace, rfl⟩
  | _ =>
      unfold plan at asked
      split at asked
      · cases asked
      · cases asked

namespace Outline

variable {law : History → Prop} {moves : History → History → Prop} {now : String} {settings : Settings}
  {space : String} {run : Run} {holds : Stage → History → Prop}

/-- The lookup of the workspace leads on. -/
theorem abides_lookup (outline : Outline law moves now settings space run holds) {history : History}
    (start : holds .adopting history) :
    Attempt.Abides law moves (fun lookup => holds (.looked lookup)) (run.lookup space) history := by
  unfold lookup
  split
  · rename_i unlabelled
    exact Attempt.abides_pure (outline.unspecified unlabelled start)
  · rename_i name labelled
    refine Attempt.Abides.bind
      (fun (found : Option Workspace) => holds (.looked (found.elim (.notFound name) .found))) ?_ ?_
    · refine Attempt.abides_find? outline.stutters ?_ ?_
      · intro later object workspace moved there read
        apply outline.found labelled (outline.stays start moved)
        rw [Cluster.workspace?, there]
        exact read
      · intro later moved missing
        exact outline.notFound labelled (outline.stays start moved) missing
    · intro found later met
      cases found with
      | none => exact Attempt.abides_pure met
      | some workspace => exact Attempt.abides_pure met

/-- The lookup of the pod leads on. -/
theorem abides_pod (outline : Outline law moves now settings space run holds) {history : History}
    {lookup : Lookup} (start : holds (.looked lookup) history) :
    Attempt.Abides law moves (fun pod => holds (.housed lookup pod))
      (Attempt.find? Pod.ofJson? ⟨.pod, space, run.name⟩) history := by
  refine Attempt.abides_find? outline.stutters ?_ ?_
  · intro later object pod moved there read
    apply outline.houses (outline.stays start moved)
    rw [Cluster.pod?, there]
    exact read
  · intro later moved missing
    exact outline.unhoused (outline.stays start moved) missing

/-- The creation of the pod leads on. -/
theorem abides_createPod (outline : Outline law moves now settings space run holds) {history : History}
    {lookup : Lookup} {pod : Option Pod} (start : holds (.housed lookup pod) history)
    (planned : (run.plan now lookup pod).createPod = true) :
    Attempt.Abides law moves (fun _ => holds (.made lookup pod)) (run.createPod settings space lookup) history := by
  obtain ⟨workspace, rfl⟩ := found_of_createPod planned
  simp only [createPod]
  split
  · exact Attempt.abides_fail _ history
  · rename_i desired built
    have named := createdKey_manifest built space
    refine Attempt.Abides.bind _
      (Attempt.abides_createOrGet (holds (.asked (.found workspace) pod)) named outline.stutters outline.stays
        outline.rests ?_ ?_)
      fun _ _ met => Attempt.abides_pure met
    · intro later moved lawful cluster reply served
      exact outline.creates (outline.stays start moved) lawful planned built served
    · intro later object pod wasAsked present _
      exact outline.created wasAsked planned (by rw [present]; exact Option.some_ne_none object)

/-- The status that was planned is written, and leads to the end. -/
theorem abides_write (outline : Outline law moves now settings space run holds) {history : History}
    {lookup : Lookup} {pod : Option Pod} (start : holds (.made lookup pod) history) :
    Attempt.Abides law moves (fun _ => holds .finished) (run.report space (run.plan now lookup pod).status)
      history := by
  cases planned : (run.plan now lookup pod).status with
  | none => exact Attempt.abides_pure (outline.unchanged start planned)
  | some status =>
      apply Attempt.abides_require
      intro later moved lawful cluster reply served
      obtain ⟨kept, done⟩ := outline.writes (outline.stays start moved) lawful planned served
      exact ⟨kept, fun json _ good _ => done json good⟩

/-- A reconciliation abides by the law if there is an outline of it, and what holds in the end is met. -/
theorem abides (outline : Outline law moves now settings space run holds) {history : History}
    (start : holds .adopting history) :
    Attempt.Abides law moves (fun _ => holds .finished) (run.reconcile now settings space) history := by
  rw [reconcile_eq]
  split
  · rename_i finished
    exact Attempt.abides_pure (outline.completed finished start)
  · refine Attempt.Abides.bind _
      ((run.uses_adoptPayload space).abides (holds .adopting) outline.stays outline.adopts start) ?_
    intro _ adopted adopting
    apply Attempt.Abides.bind _ (outline.abides_lookup adopting)
    intro lookup looked lookedUp
    apply Attempt.Abides.bind _ (outline.abides_pod lookedUp)
    intro pod seen housed
    unfold carryOut
    split
    · rename_i planned
      exact Attempt.Abides.bind _ (outline.abides_createPod housed planned)
        fun _ later made => outline.abides_write made
    · rename_i planned
      exact outline.abides_write (outline.spared housed (by simpa using planned))

/-! ### Several outlines of one reconciliation -/

/-- An outline for any moves is one for a reconciliation that is not interrupted. -/
theorem alone (outline : Outline law moves now settings space run holds) :
    Outline law Eq now settings space run holds :=
  { outline with stays := fun met same => same ▸ met }

/-- Two outlines make one, for a law under which both laws hold and that is kept wherever both are. -/
theorem join {other : History → Prop} {known : Stage → History → Prop}
    (first : Outline law moves now settings space run holds)
    (second : Outline other moves now settings space run known) {both : History → Prop}
    (implies : ∀ {later}, both later → law later ∧ other later)
    (stutters : ∀ later, both later → both (later.present :: later))
    (adopts : ∀ {later request cluster reply}, both later → request.Spares →
      Reply later.present request cluster reply → law (cluster :: later) → other (cluster :: later) →
      both (cluster :: later))
    (creates : ∀ {later workspace pod desired cluster reply}, holds (.housed (.found workspace) pod) later →
      both later → (run.plan now (.found workspace) pod).createPod = true →
      run.manifest workspace settings = .ok desired →
      Reply later.present (.create .pod space desired) cluster reply → law (cluster :: later) →
      other (cluster :: later) → both (cluster :: later))
    (writes : ∀ {later lookup pod status cluster reply}, holds (.made lookup pod) later → both later →
      (run.plan now lookup pod).status = some status →
      Reply later.present
        (.patchStatus ⟨.run, space, run.name⟩ (Attempt.statusPatch run.metadata status.toJson)) cluster reply →
      law (cluster :: later) → other (cluster :: later) → both (cluster :: later)) :
    Outline both moves now settings space run fun stage later => holds stage later ∧ known stage later where
  stutters := stutters
  stays := fun met moved => ⟨first.stays met.1 moved, second.stays met.2 moved⟩
  completed := fun finished _ met => ⟨first.completed finished met.1, second.completed finished met.2⟩
  adopts := by
    intro later request cluster reply met lawful spares served
    obtain ⟨firstKept, firstMet⟩ := first.adopts met.1 (implies lawful).1 spares served
    obtain ⟨secondKept, secondMet⟩ := second.adopts met.2 (implies lawful).2 spares served
    exact ⟨adopts lawful spares served firstKept secondKept, firstMet, secondMet⟩
  unspecified := fun unlabelled _ met => ⟨first.unspecified unlabelled met.1, second.unspecified unlabelled met.2⟩
  notFound := fun labelled met absent =>
    ⟨first.notFound labelled met.1 absent, second.notFound labelled met.2 absent⟩
  found := fun labelled met stored => ⟨first.found labelled met.1 stored, second.found labelled met.2 stored⟩
  houses := fun met stored => ⟨first.houses met.1 stored, second.houses met.2 stored⟩
  unhoused := fun met absent => ⟨first.unhoused met.1 absent, second.unhoused met.2 absent⟩
  creates := by
    intro later workspace pod desired cluster reply met lawful planned built served
    obtain ⟨firstKept, firstMet⟩ := first.creates met.1 (implies lawful).1 planned built served
    obtain ⟨secondKept, secondMet⟩ := second.creates met.2 (implies lawful).2 planned built served
    exact ⟨creates met.1 lawful planned built served firstKept secondKept, firstMet, secondMet⟩
  rests := fun met => ⟨first.rests met.1, second.rests met.2⟩
  created := fun met planned present => ⟨first.created met.1 planned present, second.created met.2 planned present⟩
  spared := fun met planned => ⟨first.spared met.1 planned, second.spared met.2 planned⟩
  writes := by
    intro later lookup pod status cluster reply met lawful planned served
    obtain ⟨firstKept, firstOver⟩ := first.writes met.1 (implies lawful).1 planned served
    obtain ⟨secondKept, secondOver⟩ := second.writes met.2 (implies lawful).2 planned served
    exact ⟨writes met.1 lawful planned served firstKept secondKept,
      fun json good => ⟨firstOver json good, secondOver json good⟩⟩
  unchanged := fun met planned => ⟨first.unchanged met.1 planned, second.unchanged met.2 planned⟩

end Outline

end Run

/-- The creation of a workspace. -/
def Request.founding (space name : String) : Request :=
  .create .workspace space (NewWorkspace.build { name, namespaceName := space }).toJson

/-- The creation of a run of a workspace. -/
def Request.submission (space workspace name : String) (command : Command) : Request :=
  .create .run space (Submission.run name command [] { namespaceName := space, workspace }).toJson

/-- Reconcile a run of a name without interruption from its copy in a cluster, if there is one; a request that is
chosen to fail is refused as a conflict. -/
def History.reconcileCopy (history : History) (cluster : Cluster) (now space name : String)
    (fails : Request → Bool) : History :=
  match cluster.run? space name with
  | none => history
  | some run => ((run.reconcile now {} space).play fails history).1

/-- Reconcile the stored run of a name without interruption. -/
def History.reconcileRun (history : History) (now space name : String) (fails : Request → Bool) : History :=
  history.reconcileCopy history.present now space name fails

theorem History.suffix_reconcileCopy (history : History) (cluster : Cluster) (now space name : String)
    (fails : Request → Bool) : history <:+ history.reconcileCopy cluster now space name fails := by
  unfold reconcileCopy
  split
  · exact List.suffix_refl _
  · exact (Program.serves_play fails _ history).since

/-- A reconciliation that is seen to succeed is served without interruption. -/
theorem History.exists_reconcileRun {history : History} {now space name : String} {fails : Request → Bool}
    (checked : ((history.present.run? space name).any fun run =>
      ((run.reconcile now {} space).play fails history).2.toBool) = true) :
    ∃ run, history.present.run? space name = some run ∧
      Program.Serves (run.reconcile now {} space) history (history.reconcileRun now space name fails)
        (.ok ()) := by
  obtain ⟨run, stored, succeeds⟩ := (Option.any_eq_true _ _).mp checked
  refine ⟨run, stored, ?_⟩
  rw [reconcileRun, reconcileCopy, stored]
  exact Program.serves_play_of_toBool succeeds

end Turnstile
