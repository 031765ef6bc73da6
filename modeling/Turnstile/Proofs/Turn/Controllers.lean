/-
Module: Turnstile.Proofs.Turn.Controllers
Purpose: The reconciliations of runs and of workspaces take legal steps only, however old the copy they start from.
Main exports: Turn.lawful_of_kind, Turn.run_outline, Turn.workspace_outline
-/
import Turnstile.Proofs.Cluster.Report
import Turnstile.Proofs.Turn.Lawful
import Turnstile.Proofs.Workspace.Outline
import Turnstile.Proofs.Workspace.Queue

/-!
Between any two requests of a reconciliation others may take any number of legal steps.  What a reconciliation
has read is kept in mind as the moment at which it was true.  When a status is written, its version tells that
the object is still the copy that the reconciliation started from; so the run has neither been removed nor
completed since that moment, and the laws of turns carry what was read over to now.
-/

namespace Turnstile.Turn

open Cluster

variable {space : String} {history start : History}

/-! ### Steps of controllers -/

/-- A request that changes neither a run nor a workspace is legal. -/
theorem lawful_of_kind (lawful : Lawful space history) {request : Request} {next : Cluster}
    (effect : history.present.Effect request next)
    (apart : request.isWrite = true → request.kind ≠ .run ∧ request.kind ≠ .workspace) :
    Lawful space (next :: history) := by
  cases writes : request.isWrite with
  | false =>
      rw [effect.eq_of_not_isWrite writes]
      exact lawful.stutter
  | true =>
      obtain ⟨notRun, notWorkspace⟩ := apart writes
      exact lawful.step (lawful.legal_of_effect effect
        (fun name about => absurd (kind_of_key? about) notRun)
        fun name about => absurd (kind_of_key? about) notWorkspace)

/-! ### Runs -/

/-- A workspace that was found was stored, at some moment since the start, under the name that the run is
labelled with. -/
def Saw (space : String) (start : History) (run : Run) (lookup : Lookup) (later : History) : Prop :=
  start <:+ later ∧ ∀ workspace, lookup = .found workspace →
    ∃ moment : History, start <:+ moment ∧ moment <:+ later ∧
      ∃ name, run.workspaceName? = some name ∧ moment.present.workspace? space name = some workspace

/-- What holds at the stages of a reconciliation of a run. -/
def RunHolds (space : String) (start : History) (run : Run) : Run.Stage → History → Prop
  | .adopting, later => start <:+ later
  | .looked lookup, later => Saw space start run lookup later
  | .housed lookup _, later => Saw space start run lookup later
  | .asked lookup _, later => Saw space start run lookup later
  | .made lookup _, later => Saw space start run lookup later
  | .finished, _ => True

theorem Saw.suffix {run : Run} {lookup : Lookup} {later final : History} (saw : Saw space start run lookup later)
    (before : later <:+ final) : Saw space start run lookup final := by
  refine ⟨saw.1.trans before, ?_⟩
  intro workspace found
  obtain ⟨moment, since, until', known⟩ := saw.2 workspace found
  exact ⟨moment, since, until'.trans before, known⟩

theorem RunHolds.stays {run : Run} {stage : Run.Stage} {later final : History}
    (holds : RunHolds space start run stage later) (before : later <:+ final) :
    RunHolds space start run stage final := by
  have keeps : ∀ lookup, Saw space start run lookup later → Saw space start run lookup final :=
    fun _ saw => saw.suffix before
  cases stage with
  | adopting => exact List.IsSuffix.trans holds before
  | finished => trivial
  | _ => exact keeps _ holds

/-- The status that a reconciliation writes is legal, for a run whose copy it started from. -/
theorem lawful_of_runWrite (lawful : Lawful space history) {cluster : Cluster} (member : cluster ∈ start)
    {name : String} {run : Run} (copied : cluster.run? space name = some run) {now : String} {lookup : Lookup}
    {pod : Option Pod} {status : RunStatus} (saw : Saw space start run lookup history)
    (planned : (run.plan now lookup pod).status = some status) {next : Cluster}
    (effect : history.present.Effect
      (.patchStatus ⟨.run, space, run.name⟩ (Attempt.statusPatch run.metadata status.toJson)) next) :
    Lawful space (next :: history) := by
  have seen := saw.1.subset member
  obtain rfl := (lawful.legible_of_mem seen).name_of_run? copied
  rcases Run.of_report lawful.served seen copied effect with same | ⟨stored, reported⟩
  · rw [same]
    exact lawful.stutter
  · obtain ⟨unfinished, coherent, coded, housed, opened⟩ := Run.status_of_plan (lawful.coherent stored) planned
    obtain ⟨after, now, status', named, labels⟩ := reported coded housed
    have standing : after.standing = status := by rw [Run.standing, status']; rfl
    refine lawful.step (lawful.legal_of_effect effect ?_ (by simp [Request.key?]))
    intro name about
    cases about
    refine ⟨run, after, stored, now, named, labels _, Or.inr ⟨unfinished, by rw [standing]; exact coherent, ?_⟩⟩
    intro isOpen
    rw [Run.isAttachable_eq_standing, standing] at isOpen
    obtain ⟨workspace, found, first⟩ := opened isOpen
    obtain ⟨moment, since, before, label, labelled, was⟩ := saw.2 workspace found
    refine ⟨label, ?_, ?_⟩
    · rw [Run.IsFor, labels]
      exact Run.isFor_of_workspaceName? labelled
    · refine lawful.leads_lasts before ?_ ?_ stored unfinished
      · obtain ⟨copy, copyFound, _⟩ := find?_of_run? copied
        exact History.not_unused_of_mem (since.subset member) copyFound
      · exact ⟨workspace, Lawful.lastWorkspace?_of_workspace? was, Workspace.queuePosition?_eq_zero_iff.mp first⟩

/-- A reconciliation of a run takes legal steps only, if it starts from a copy of a stored run. -/
theorem run_outline (now : String) (settings : Settings) {cluster : Cluster} (member : cluster ∈ start)
    {name : String} {run : Run} (copied : cluster.run? space name = some run) :
    Run.Outline (Lawful space) (fun earlier later => earlier <:+ later) now settings space run
      (RunHolds space start run) where
  stutters := fun later lawful => lawful.stutter
  stays := RunHolds.stays
  completed := fun _ _ _ => trivial
  adopts := by
    intro later request cluster reply since lawful spares served
    refine ⟨lawful_of_kind lawful served.effect ?_, List.IsSuffix.trans since (List.suffix_cons _ _)⟩
    exact fun writes => ⟨(spares writes).2.1, (spares writes).1⟩
  unspecified := by
    intro _ later since
    exact ⟨since, by simp⟩
  notFound := by
    intro later label _ since _
    exact ⟨List.IsSuffix.trans since (List.suffix_cons _ _), by simp⟩
  found := by
    intro later label workspace labelled since stored
    refine ⟨List.IsSuffix.trans since (List.suffix_cons _ _), ?_⟩
    intro found same
    cases same
    exact ⟨later, since, List.suffix_cons _ _, label, labelled, stored⟩
  houses := fun (saw : Saw ..) _ => saw.suffix (List.suffix_cons _ _)
  unhoused := fun (saw : Saw ..) _ => saw.suffix (List.suffix_cons _ _)
  creates := by
    intro later workspace pod desired cluster reply saw lawful _ _ served
    exact ⟨lawful_of_kind lawful served.effect (by simp [Request.kind]), Saw.suffix saw (List.suffix_cons _ _)⟩
  rests := fun (saw : Saw ..) => saw.suffix (List.suffix_cons _ _)
  created := fun saw _ _ => saw
  spared := fun saw _ => saw
  writes := fun saw lawful planned served =>
    ⟨lawful_of_runWrite lawful member copied saw planned served.effect, fun _ _ => trivial⟩
  unchanged := fun _ _ => trivial

/-! ### Workspaces -/

/-- An observation in which nothing is missing names, as of some moment since the start, the stored runs that
are labelled for the workspace and not over. -/
def Surveyed (space : String) (start : History) (workspace : Workspace) (observation : Observation)
    (later : History) : Prop :=
  start <:+ later ∧ (observation.missing = [] →
    ∃ moment : History, start <:+ moment ∧ moment <:+ later ∧
      ∀ name, name ∈ observation.pending ↔
        ∃ run, moment.present.run? space name = some run ∧ run.IsFor workspace.name ∧ run.isCompleted = false)

/-- What holds at the stages of a reconciliation of a workspace. -/
def WorkspaceHolds (space : String) (start : History) (workspace : Workspace) :
    Workspace.Stage → History → Prop
  | .preparing, later => start <:+ later
  | .observed observation, later => Surveyed space start workspace observation later
  | .finished, _ => True

theorem WorkspaceHolds.stays {workspace : Workspace} {stage : Workspace.Stage} {later final : History}
    (holds : WorkspaceHolds space start workspace stage later) (before : later <:+ final) :
    WorkspaceHolds space start workspace stage final := by
  cases stage with
  | preparing => exact List.IsSuffix.trans holds before
  | observed observation =>
      refine ⟨List.IsSuffix.trans holds.1 before, ?_⟩
      intro complete
      obtain ⟨moment, since, until', names⟩ := holds.2 complete
      exact ⟨moment, since, until'.trans before, names⟩
  | finished => trivial

/-- The runs of a list are the stored runs that are labelled for the workspace. -/
theorem mem_of_listing (lawful : Lawful space history) {workspace : Workspace} {cluster : Cluster} {json : Json}
    {runs : List Run} (served : Reply history.present (workspace.listing space) cluster (.ok json))
    (read : Program.itemsOf Run.ofJson? json = some runs) (run : Run) :
    run ∈ runs ↔ history.present.run? space run.name = some run ∧ run.IsFor workspace.name := by
  obtain ⟨_, good⟩ := served.of_ok
  cases good
  have dated := lawful.served.dated.1
  have labels : ∀ key object, history.present.find? key = some object → Run.ofJson? object = some run →
      run.metadata.label? Run.workspaceLabel =
        (object.at? ["metadata", "labels", Run.workspaceLabel]).bind Json.text? := by
    intro key object found readRun
    obtain ⟨_, given, _, kept⟩ := dated.dated key object found
    obtain ⟨members, isObject⟩ := kept_eq_object key _ given
    rw [kept, isObject] at readRun ⊢
    exact (Json.resource?_metadata (Run.resource?_of_ofJson? readRun)).2 _
  rw [Json.mem_of_list? read]
  constructor
  · rintro ⟨object, listed, readRun⟩
    obtain ⟨entry, member, rfl⟩ := List.mem_map.mp listed
    rw [Cluster.listed, List.mem_mergeSort, List.mem_filter] at member
    obtain ⟨⟨kind, place, name⟩, object⟩ := entry
    simp only [Bool.and_eq_true, beq_iff_eq, selects] at member
    obtain ⟨there, ⟨rfl, rfl⟩, label⟩ := member
    have found := find?_of_mem dated.distinct there
    obtain ⟨legible, legibleRead, named⟩ := lawful.legible.run name object found
    cases readRun.symm.trans legibleRead
    rw [named]
    refine ⟨?_, (labels _ object found readRun).trans label⟩
    rw [run?, found]
    exact readRun
  · rintro ⟨stored, label⟩
    obtain ⟨object, found, readRun⟩ := find?_of_run? stored
    refine ⟨object, List.mem_map.mpr ⟨(⟨.run, space, run.name⟩, object), ?_, rfl⟩, readRun⟩
    rw [Cluster.listed, List.mem_mergeSort, List.mem_filter]
    refine ⟨mem_of_find? found, ?_⟩
    simp only [Bool.and_eq_true, beq_iff_eq, selects, true_and]
    exact (labels _ object found readRun).symm.trans label

/-- The pending names of a list are those of the stored runs that are labelled and not over. -/
theorem mem_pendingNames (lawful : Lawful space history) {workspace : Workspace} {cluster : Cluster}
    {json : Json} {runs : List Run}
    (served : Reply history.present (workspace.listing space) cluster (.ok json))
    (read : Program.itemsOf Run.ofJson? json = some runs) (name : String) :
    name ∈ Workspace.pendingNames runs ↔
      ∃ run, history.present.run? space name = some run ∧ run.IsFor workspace.name ∧
        run.isCompleted = false := by
  simp only [Workspace.pendingNames, List.mem_map, List.mem_filter, Bool.not_eq_true']
  constructor
  · rintro ⟨run, ⟨listed, unfinished⟩, rfl⟩
    obtain ⟨stored, label⟩ := (mem_of_listing lawful served read run).mp listed
    exact ⟨run, stored, label, unfinished⟩
  · rintro ⟨run, stored, label, unfinished⟩
    obtain rfl := lawful.legible.name_of_run? stored
    exact ⟨run, ⟨(mem_of_listing lawful served read run).mpr ⟨stored, label⟩, unfinished⟩, rfl⟩

/-- The head of the queue of a copy was pending when the runs were listed, if it is stored now and not over. -/
theorem pending_of_head (lawful : Lawful space history) {cluster : Cluster} (member : cluster ∈ start)
    {workspace : Workspace} (copied : cluster.workspace? space workspace.name = some workspace)
    {moment : History} (since : start <:+ moment) (before : moment <:+ history) {head : String}
    (first : workspace.queue.head? = some head) {run : Run}
    (stored : history.present.run? space head = some run) (unfinished : run.isCompleted = false) :
    ∃ past, moment.present.run? space head = some past ∧ past.IsFor workspace.name ∧
      past.isCompleted = false := by
  obtain ⟨newer, older, rfl⟩ := List.append_of_mem member
  have copyMoment : cluster :: older <:+ moment := (List.suffix_append newer _).trans since
  have copyKnew : History.Knew (cluster :: older) space workspace.name head :=
    (lawful.suffix (copyMoment.trans before)).knew_of_mem_queue copied (List.mem_of_head? first)
  have momentKnew := Lawful.knew_of_suffix copyMoment copyKnew
  obtain ⟨past, pastStored, label, completed⟩ :=
    lawful.traced before (Lawful.not_unused_of_knew momentKnew) stored
  refine ⟨past, pastStored, (lawful.suffix before).isFor_of_knew momentKnew pastStored, ?_⟩
  cases finished : past.isCompleted with
  | false => rfl
  | true =>
      rw [completed finished] at unfinished
      cases unfinished

/-- The status that a reconciliation writes is legal, for a workspace whose copy it started from. -/
theorem lawful_of_workspaceWrite (lawful : Lawful space history) {cluster : Cluster} (member : cluster ∈ start)
    {name : String} {workspace : Workspace} (copied : cluster.workspace? space name = some workspace)
    {now : String} {observation : Observation} {status : WorkspaceStatus}
    (surveyed : Surveyed space start workspace observation history)
    (planned : workspace.nextStatus? now observation = some status) {next : Cluster}
    (effect : history.present.Effect
      (.patchStatus ⟨.workspace, space, workspace.name⟩
        (Attempt.statusPatch workspace.metadata status.toJson)) next) :
    Lawful space (next :: history) := by
  have seen := surveyed.1.subset member
  obtain rfl := (lawful.legible_of_mem seen).name_of_workspace? copied
  rcases Workspace.of_report lawful.served seen copied effect with same | ⟨stored, after, now, status', named⟩
  · rw [same]
    exact lawful.stutter
  · have queue : after.queue = status.queue := by rw [Workspace.queue, status']; rfl
    refine lawful.step (lawful.legal_of_effect effect (by simp [Request.key?]) ?_)
    intro name about
    cases about
    refine ⟨workspace, after, stored, now, named, ?_⟩
    rcases Workspace.queue_nextStatus? planned with kept | ⟨complete, next⟩
    · exact .kept (queue.trans kept)
    · obtain ⟨moment, since, before, names⟩ := surveyed.2 complete
      refine .moved ?_ ?_
      · intro run listed
        rw [queue, next] at listed
        obtain ⟨known, wasStored, label, _⟩ := (names run).mp (Queue.mem_recompute listed)
        refine Lawful.knew_of_suffix before ⟨moment.present, ?_, known, wasStored, label⟩
        cases moment with
        | nil => cases wasStored
        | cons latest rest => exact List.mem_cons_self
      · intro head run first storedRun unfinished
        rw [queue, next]
        exact Queue.head?_recompute first ((names head).mpr
          (pending_of_head lawful member copied since before first storedRun unfinished))

/-- A reconciliation of a workspace takes legal steps only, if it starts from a copy of a stored workspace. -/
theorem workspace_outline (now : String) {cluster : Cluster} (member : cluster ∈ start) {name : String}
    {workspace : Workspace} (copied : cluster.workspace? space name = some workspace) :
    Workspace.Outline (Lawful space) (fun earlier later => earlier <:+ later) now space workspace
      (WorkspaceHolds space start workspace) where
  stays := WorkspaceHolds.stays
  prepares := by
    intro later request cluster reply since lawful spares served
    refine ⟨lawful_of_kind lawful served.effect ?_, List.IsSuffix.trans since (List.suffix_cons _ _)⟩
    exact fun writes => ⟨(spares writes).2.1, (spares writes).1⟩
  lacks := by
    intro later missing since something
    exact ⟨since, fun nothing => absurd nothing something⟩
  lists := by
    intro later cluster json runs since lawful served read
    refine ⟨List.IsSuffix.trans since (List.suffix_cons _ _), fun _ => ?_⟩
    exact ⟨later, since, List.suffix_cons _ _, mem_pendingNames lawful served read⟩
  writes := fun surveyed lawful planned served =>
    ⟨lawful_of_workspaceWrite lawful member copied surveyed planned served.effect, fun _ _ => trivial⟩
  unchanged := fun _ _ => trivial

end Turnstile.Turn
