/-
Module: Turnstile.Proofs.Turn.Precedence
Purpose: In every interleaving of submissions and reconciliations, what decides the order of two runs in a queue.
Main exports: Turn.pairwise_pendingNames, Turn.queueing_outline, Turn.World.Reachable.queued,
  Turn.World.ahead_iff_parted_or_lt, Turn.World.not_ahead_of_precedes
-/
import Mathlib.Data.List.Infix
import Turnstile.Proofs.Turn.Succession
import Turnstile.Proofs.Turn.World

/-!
Every reconciliation of a workspace lists the runs while the workspace stands as it does when the queue is
written, so queues change as the theory of succession has it, also when several reconciliations are under way and
their requests fail.

The runs are listed in the order of their names.  So runs that come into the queue together are queued by name,
whichever of them was submitted first.
-/

namespace Turnstile.Turn

open Cluster

variable {space : String} {history start : History}

/-! ### Lists -/

/-- What is read of objects that go by the names of their keys has those names. -/
theorem map_name_of_list? {entries : List (Key × Json)} {runs : List Run}
    (named : ∀ entry ∈ entries, ∀ run, Run.ofJson? entry.2 = some run → run.name = entry.1.name)
    (read : Json.list? Run.ofJson? (.array (entries.map Prod.snd)) = some runs) :
    runs.map Run.name = entries.map fun entry => entry.1.name := by
  simp only [Json.list?, Json.items?, Option.bind_some] at read
  induction entries generalizing runs with
  | nil =>
      cases read
      rfl
  | cons entry rest inductionHypothesis =>
      rw [List.map_cons, List.mapM_cons] at read
      obtain ⟨run, runRead, read⟩ := Option.bind_eq_some_iff.mp read
      obtain ⟨others, othersRead, same⟩ := Option.bind_eq_some_iff.mp read
      cases same
      rw [List.forall_mem_cons] at named
      rw [List.map_cons, List.map_cons, named.1 run runRead, inductionHypothesis named.2 othersRead]

/-- Objects are listed in the order of their names. -/
theorem pairwise_listed (cluster : Cluster) (kind : Kind) (selection : Selection) :
    ((cluster.listed kind space selection).map fun entry => entry.1.name).Pairwise (· ≤ ·) := by
  have transitive (first second third : Key × Json)
      (lower : decide (first.1.name ≤ second.1.name) = true)
      (upper : decide (second.1.name ≤ third.1.name) = true) :
      decide (first.1.name ≤ third.1.name) = true :=
    decide_eq_true (String.le_trans (of_decide_eq_true lower) (of_decide_eq_true upper))
  have total (first second : Key × Json) :
      (decide (first.1.name ≤ second.1.name) || decide (second.1.name ≤ first.1.name)) = true := by
    simpa using String.le_total first.1.name second.1.name
  rw [List.pairwise_map, listed]
  exact (List.pairwise_mergeSort transitive total _).imp fun ordered => of_decide_eq_true ordered

/-- The pending names of a list come in order. -/
theorem pairwise_pendingNames (lawful : Lawful space history) {workspace : Workspace} {cluster : Cluster}
    {json : Json} {runs : List Run}
    (served : Reply history.present (workspace.listing space) cluster (.ok json))
    (read : Program.itemsOf Run.ofJson? json = some runs) :
    (Workspace.pendingNames runs).Pairwise (· ≤ ·) := by
  obtain ⟨_, good⟩ := served.of_ok
  cases good
  have dated := lawful.served.dated.1
  have names : runs.map Run.name =
      (history.present.listed .run space (.labelled Run.workspaceLabel workspace.name)).map
        fun entry => entry.1.name := by
    refine map_name_of_list? ?_ read
    intro entry member run readRun
    obtain ⟨⟨kind, place, name⟩, object⟩ := entry
    rw [Cluster.listed, List.mem_mergeSort, List.mem_filter] at member
    simp only [Bool.and_eq_true, beq_iff_eq] at member
    obtain ⟨there, ⟨rfl, rfl⟩, _⟩ := member
    obtain ⟨legible, legibleRead, named⟩ := lawful.legible.run name object (find?_of_mem dated.distinct there)
    cases readRun.symm.trans legibleRead
    exact named
  have sublist : (Workspace.pendingNames runs).Sublist (runs.map Run.name) :=
    List.filter_sublist.map Run.name
  refine List.Pairwise.sublist sublist ?_
  rw [names]
  exact pairwise_listed history.present .run _

/-! ### The steps of others and of reconciliations -/

/-- A legal step that writes no workspace writes no queue. -/
theorem queued_of_lawful (queued : Queued space history) {request : Request} {next : Cluster}
    (effect : history.present.Effect request next)
    (apart : request.isWrite = true → request.kind ≠ .workspace) (lawful : Lawful space (next :: history)) :
    Queued space (next :: history) := by
  cases lawful with
  | step _ legal =>
      refine queued.step legal ?_
      intro name before after was stored
      have same : next.find? ⟨.workspace, space, name⟩ = history.present.find? ⟨.workspace, space, name⟩ := by
        cases writes : request.isWrite with
        | false => rw [effect.eq_of_not_isWrite writes]
        | true => exact effect.find?_of_kind (apart writes) space name
      rw [workspace?_congr same, was] at stored
      cases stored
      exact .kept rfl

/-- What others may ask for leaves the queues alone. -/
theorem Outside.queued {request : Request} (outside : Outside space history request)
    (queued : Queued space history) : Queued space ((history.present.answer request).1 :: history) := by
  have lawful := queued.lawful
  refine queued.step (outside.legal lawful) ?_
  intro name before after was stored
  refine .kept ?_
  rw [Workspace.queue, Workspace.queue,
    Workspace.status_of_unreported lawful.served (effect_answer history.present request)
      (fun change => (outside.unreported name change).2) was stored]

/-- An observation in which nothing is missing names, as of some moment since the start and in order, the runs
that were pending. -/
def Polled (space : String) (start : History) (workspace : Workspace) (observation : Observation)
    (later : History) : Prop :=
  start <:+ later ∧ (observation.missing = [] →
    ∃ moment : History, start <:+ moment ∧ moment <:+ later ∧
      (∀ name, name ∈ observation.pending ↔ moment.Pending space workspace.name name) ∧
      observation.pending.Pairwise (· ≤ ·))

theorem Polled.surveyed {workspace : Workspace} {observation : Observation}
    (polled : Polled space start workspace observation history) :
    Surveyed space start workspace observation history := by
  refine ⟨polled.1, fun complete => ?_⟩
  obtain ⟨moment, since, before, names, _⟩ := polled.2 complete
  exact ⟨moment, since, before, names⟩

/-- What holds at the stages of a reconciliation of a workspace. -/
def QueueingHolds (space : String) (start : History) (workspace : Workspace) :
    Workspace.Stage → History → Prop
  | .preparing, later => start <:+ later
  | .observed observation, later => Polled space start workspace observation later
  | .finished, _ => True

theorem QueueingHolds.stays {workspace : Workspace} {stage : Workspace.Stage} {later final : History}
    (holds : QueueingHolds space start workspace stage later) (before : later <:+ final) :
    QueueingHolds space start workspace stage final := by
  cases stage with
  | preparing => exact List.IsSuffix.trans holds before
  | observed observation =>
      refine ⟨List.IsSuffix.trans holds.1 before, ?_⟩
      intro complete
      obtain ⟨moment, since, until', known⟩ := holds.2 complete
      exact ⟨moment, since, until'.trans before, known⟩
  | finished => trivial

/-- A workspace that is stored as it was copied has stood so all the time. -/
theorem workspace?_steady (served : history.Served) {moment : History} {cluster : Cluster}
    (member : cluster ∈ moment) (past : moment <:+ history) {name : String} {workspace : Workspace}
    (copied : cluster.workspace? space name = some workspace)
    (stored : history.present.workspace? space name = some workspace) :
    moment.present.workspace? space name = some workspace := by
  obtain ⟨copy, copyFound, copyRead⟩ := find?_of_workspace? copied
  obtain ⟨object, found, read⟩ := find?_of_workspace? stored
  have seen := past.subset member
  have same : object = copy := by
    apply served.eq_of_version seen copyFound found
    rw [← (served.dated.2 cluster seen).version_of_workspace copyFound copyRead,
      ← served.dated.1.version_of_workspace found read]
  rw [same] at found
  obtain ⟨newer, older, rfl⟩ := List.append_of_mem member
  rw [workspace?, served.steady (List.suffix_append newer (cluster :: older)) past copyFound found]
  exact copyRead

/-- The queue that a reconciliation writes is recomputed from the queue that stood when the runs were listed. -/
theorem queued_of_workspaceWrite (queued : Queued space history) {cluster : Cluster} (member : cluster ∈ start)
    {name : String} {workspace : Workspace} (copied : cluster.workspace? space name = some workspace)
    {now : String} {observation : Observation} {status : WorkspaceStatus}
    (polled : Polled space start workspace observation history)
    (planned : workspace.nextStatus? now observation = some status) {next : Cluster}
    (effect : history.present.Effect
      (.patchStatus ⟨.workspace, space, workspace.name⟩
        (Attempt.statusPatch workspace.metadata status.toJson)) next) :
    Queued space (next :: history) := by
  have lawful := queued.lawful
  have seen := polled.1.subset member
  obtain rfl := (lawful.legible_of_mem seen).name_of_workspace? copied
  cases lawful_of_workspaceWrite lawful member copied polled.surveyed planned effect with
  | step _ legal =>
      refine queued.step legal ?_
      intro name before after was stored
      by_cases about : workspace.name = name
      · subst about
        rcases Workspace.of_report lawful.served seen copied effect with same | ⟨isStored, written, now, status', _⟩
        · rw [same, was] at stored
          cases stored
          exact .kept rfl
        · cases was.symm.trans isStored
          cases stored.symm.trans now
          have queue : after.queue = status.queue := by rw [Workspace.queue, status']; rfl
          rcases Workspace.queue_nextStatus? planned with kept | ⟨complete, recomputed⟩
          · exact .kept (queue.trans kept)
          · obtain ⟨moment, since, past, names, sorted⟩ := polled.2 complete
            refine .moved moment observation.pending past ?_ names sorted (queue.trans recomputed)
            intro later begun until'
            exact workspace?_steady lawful.served ((since.trans begun).subset member) until' copied was
      · have apart : (Request.patchStatus ⟨.workspace, space, workspace.name⟩
            (Attempt.statusPatch workspace.metadata status.toJson)).key? ≠ some ⟨.workspace, space, name⟩ := by
          simpa [Request.key?] using about
        rw [workspace?_congr (effect.find?_of_ne apart), was] at stored
        cases stored
        exact .kept rfl

/-- A reconciliation of a workspace writes queues in this way only, if it starts from a copy of a stored one. -/
theorem queueing_outline (now : String) {cluster : Cluster} (member : cluster ∈ start) {name : String}
    {workspace : Workspace} (copied : cluster.workspace? space name = some workspace) :
    Workspace.Outline (Queued space) (fun earlier later => earlier <:+ later) now space workspace
      (QueueingHolds space start workspace) where
  stays := QueueingHolds.stays
  prepares := by
    intro later request cluster reply since queued spares served
    have apart : request.isWrite = true → request.kind ≠ .run ∧ request.kind ≠ .workspace :=
      fun writes => ⟨(spares writes).2.1, (spares writes).1⟩
    exact ⟨queued_of_lawful queued served.effect (fun writes => (apart writes).2)
        (lawful_of_kind queued.lawful served.effect apart),
      List.IsSuffix.trans since (List.suffix_cons _ _)⟩
  lacks := by
    intro later missing since something
    exact ⟨since, fun nothing => absurd nothing something⟩
  lists := by
    intro later cluster json runs since queued served read
    refine ⟨List.IsSuffix.trans since (List.suffix_cons _ _), fun _ => ?_⟩
    exact ⟨later, since, List.suffix_cons _ _, mem_pendingNames queued.lawful served read,
      pairwise_pendingNames queued.lawful served read⟩
  writes := fun polled queued planned served =>
    ⟨queued_of_workspaceWrite queued member copied polled planned served.effect, fun _ _ => trivial⟩
  unchanged := fun _ _ => trivial

namespace World

/-- In every world that is reached, queues have been written in this way only. -/
theorem Reachable.queued {world : World} (reachable : Reachable space world) : Queued space world.history := by
  refine (reachable.keeps (Queued space) .start (fun queued permitted => permitted.queued queued) ?_ ?_).1
  · intro history cluster name run now settings queued seen stored
    have careful : Keeps (Lawful space) (run.reconcile now settings space) history :=
      keeps_of_abides ((run_outline now settings seen stored).abides (List.suffix_refl _))
    exact careful.strengthen (run.uses_reconcile now settings space) Queued.lawful
      fun queued apart served lawful => queued_of_lawful queued served.effect apart lawful
  · intro history cluster name workspace now settings _ seen stored
    exact keeps_of_abides ((queueing_outline now seen stored).abides settings (List.suffix_refl _))

/-- In every world that is reached, of two runs in the stored queue of a workspace the one that was submitted first
is ahead exactly if some stored queue named it without the other one, or its name comes first. -/
theorem ahead_iff_parted_or_lt {world : World} (reachable : Reachable space world) {workspace : String}
    {stored : Workspace} (isStored : world.history.present.workspace? space workspace = some stored)
    {first second : String} (precedes : world.history.Precedes space first second) (queued : first ∈ stored.queue)
    (queuedSecond : second ∈ stored.queue) :
    Queue.Ahead stored.queue first second ↔
      world.history.Parted space workspace first second ∨ first < second :=
  reachable.queued.ahead_iff isStored precedes queued queuedSecond

/-- The check that a run was submitted before another one. -/
def submittedBefore (history : History) (space first second : String) : Bool :=
  history.tails.any fun (moment : History) =>
    !moment.isUnused ⟨.run, space, first⟩ && moment.isUnused ⟨.run, space, second⟩

theorem precedes_of_submittedBefore {first second : String}
    (checked : submittedBefore history space first second = true) : history.Precedes space first second := by
  obtain ⟨moment, member, fits⟩ := List.any_eq_true.mp checked
  simp only [Bool.and_eq_true, Bool.not_eq_true'] at fits
  refine ⟨moment, (List.mem_tails _ _).mp member, ?_, History.unused_of_isUnused fits.2⟩
  intro unused
  have never : History.isUnused moment ⟨.run, space, first⟩ = true :=
    List.all_eq_true.mpr fun cluster there => Option.isNone_iff_eq_none.mpr (unused cluster there)
  rw [never] at fits
  cases fits.1

/-- Reconcile the stored workspace of a name without interruption, if there is one, in whatever order its runs are
stored. -/
def queueRuns (history : History) (now space name : String) : History :=
  match history.present.workspace? space name with
  | none => history
  | some workspace => ((workspace.reconcile now {} space).perform Cluster.ranked history).1

theorem Reached.queueRuns (reached : Reached space history) (now name : String) :
    Reached space (queueRuns history now space name) := by
  obtain ⟨underWay, reachable⟩ := reached
  unfold World.queueRuns
  split
  · exact ⟨underWay, reachable⟩
  · rename_i workspace stored
    obtain ⟨object, found, _⟩ := find?_of_workspace? stored
    have started := reachable.step (.startWorkspace now {} (History.present_mem found) stored)
    exact ⟨_, started.serves (Program.serves_perform Cluster.ranked_eq_answer _ _)⟩

/-- Two runs are submitted to a workspace that is only reconciled afterwards. -/
@[irreducible] def hurried : History :=
  queueRuns (((History.ask [] (.founding "team" "dev")).ask (.submission "team" "dev" "run-b" .plan)).ask
    (.submission "team" "dev" "run-a" .plan)) "T1" "team" "dev"

/-- A run that was submitted first need not be ahead of one whose name comes first. -/
theorem not_ahead_of_precedes :
    ¬ ∀ (world : World) (stored : Workspace) (first second : String), Reachable "team" world →
      world.history.present.workspace? "team" "dev" = some stored →
      world.history.Precedes "team" first second →
      (∀ run, world.history.present.run? "team" first = some run → run.isCompleted = false) →
      (∀ run, world.history.present.run? "team" second = some run → run.isCompleted = false) →
      first ∈ stored.queue → second ∈ stored.queue → Queue.Ahead stored.queue first second := by
  intro ordered
  have start : Reached "team" [] := ⟨[], .start⟩
  have founded := start.ask (.founding "team" "dev") (by decide +kernel)
  have submitted := founded.ask (.submission "team" "dev" "run-b" .plan) (by decide +kernel)
  have both := submitted.ask (.submission "team" "dev" "run-a" .plan) (by decide +kernel)
  have reached : Reached "team" hurried := by
    rw [hurried]
    exact both.queueRuns "T1" "dev"
  obtain ⟨underWay, reachable⟩ := reached
  have unfinished : ∀ name ∈ ["run-a", "run-b"], ∀ run,
      hurried.present.run? "team" name = some run → run.isCompleted = false := by
    have checked : ["run-a", "run-b"].all (fun name =>
        (hurried.present.run? "team" name).all fun run => !run.isCompleted) = true := by
      decide +kernel
    intro name member run isStored
    have passed := List.all_eq_true.mp checked name member
    simpa [isStored] using passed
  have queued : (hurried.present.workspace? "team" "dev").any
      (fun stored => stored.queue == ["run-a", "run-b"]) = true := by
    decide +kernel
  have checked : submittedBefore hurried "team" "run-b" "run-a" = true := by
    decide +kernel
  obtain ⟨stored, isStored, queue⟩ := (Option.any_eq_true _ _).mp queued
  have ahead := ordered ⟨hurried, underWay⟩ stored "run-b" "run-a" reachable isStored
    (precedes_of_submittedBefore checked) (unfinished "run-b" (by simp)) (unfinished "run-a" (by simp))
    (by simp [beq_iff_eq.mp queue]) (by simp [beq_iff_eq.mp queue])
  rw [beq_iff_eq.mp queue] at ahead
  obtain ⟨place, behind, found, foundBehind, less⟩ := ahead
  cases found
  cases foundBehind
  cases less

/-- Two runs are submitted to a workspace that is reconciled after each of them. -/
@[irreducible] def unhurried : History :=
  queueRuns ((queueRuns ((History.ask [] (.founding "team" "dev")).ask
    (.submission "team" "dev" "run-b" .plan)) "T1" "team" "dev").ask
    (.submission "team" "dev" "run-a" .plan)) "T2" "team" "dev"

/-- A run that was queued on its own stays ahead of one whose name comes first. -/
theorem ahead_iff_parted_or_lt_unhurried :
    ∃ underWay stored, Reachable "team" ⟨unhurried, underWay⟩ ∧
      unhurried.present.workspace? "team" "dev" = some stored ∧
      unhurried.Precedes "team" "run-b" "run-a" ∧ "run-b" ∈ stored.queue ∧ "run-a" ∈ stored.queue ∧
      Queue.Ahead stored.queue "run-b" "run-a" := by
  have start : Reached "team" [] := ⟨[], .start⟩
  have founded := start.ask (.founding "team" "dev") (by decide +kernel)
  have submitted := founded.ask (.submission "team" "dev" "run-b" .plan) (by decide +kernel)
  have reached : Reached "team" unhurried := by
    rw [unhurried]
    exact ((submitted.queueRuns "T1" "dev").ask (.submission "team" "dev" "run-a" .plan)
      (by decide +kernel)).queueRuns "T2" "dev"
  obtain ⟨underWay, reachable⟩ := reached
  have checked : (unhurried.present.workspace? "team" "dev").any
      (fun stored => stored.queue == ["run-b", "run-a"]) = true := by
    decide +kernel
  obtain ⟨stored, isStored, queue⟩ := (Option.any_eq_true _ _).mp checked
  have parted : unhurried.Parted "team" "dev" "run-b" "run-a" := by
    have found : unhurried.any (fun cluster => (cluster.workspace? "team" "dev").any
        fun past => past.queue == ["run-b"]) = true := by
      decide +kernel
    obtain ⟨cluster, member, held⟩ := List.any_eq_true.mp found
    obtain ⟨past, was, alone⟩ := (Option.any_eq_true _ _).mp held
    exact ⟨cluster, member, past, was, by simp [beq_iff_eq.mp alone], by simp [beq_iff_eq.mp alone]⟩
  have precedes : unhurried.Precedes "team" "run-b" "run-a" := precedes_of_submittedBefore (by decide +kernel)
  have queued : "run-b" ∈ stored.queue := by simp [beq_iff_eq.mp queue]
  have queuedSecond : "run-a" ∈ stored.queue := by simp [beq_iff_eq.mp queue]
  exact ⟨underWay, stored, reachable, isStored, precedes, queued, queuedSecond,
    (ahead_iff_parted_or_lt reachable isStored precedes queued queuedSecond).mpr (Or.inl parted)⟩

end World

end Turnstile.Turn
