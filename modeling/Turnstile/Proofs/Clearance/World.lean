/-
Module: Turnstile.Proofs.Clearance.World
Purpose: In every interleaving of reconciliations a pod comes into being only for a run that was cleared.
Main exports: Clearance.Course, Clearance.World, Clearance.World.Step, Clearance.World.Reachable,
  Clearance.World.Reachable.sound, Clearance.World.admitted_of_created
-/
import Turnstile.Proofs.Clearance.Hearing
import Turnstile.Proofs.Workspace.Outline

/-!
A world is a cluster with its history and the reconciliations that are under way in one namespace, each with what
it has heard.  A reconciliation starts at any time, from any copy of a run or a workspace that was ever stored, and
may be given up at any time; any request of it may fail or lose its reply.  Others may ask for anything between two
requests, but create no pods.
-/

namespace Turnstile

/-- A reconciliation of a workspace creates no pod. -/
theorem Workspace.uses_reconcile (now : String) (settings : Settings) (space : String) (workspace : Workspace) :
    Attempt.Uses (fun request => request.verb = .create → request.kind ≠ .pod)
      (workspace.reconcile now settings space) := by
  have spared {request : Request} (spares : request.Spares) : request.verb = .create → request.kind ≠ .pod :=
    fun creates => (spares (by rw [Request.isWrite, creates])).2.2
  unfold reconcile observe
  refine Attempt.Uses.bind (Attempt.Uses.bind ((workspace.uses_missingPrerequisites space).weaken spared) ?_) ?_
  · intro missing
    split
    · refine Attempt.Uses.bind ((workspace.uses_ensureResources settings space).weaken spared) fun _ => ?_
      refine Attempt.Uses.bind ?_ fun pending => Attempt.uses_pure _
      exact Attempt.Uses.bind (Attempt.uses_require (by simp [Request.verb])) fun runs => Attempt.uses_pure _
    · exact Attempt.uses_pure _
  · intro observation
    split
    · exact Attempt.uses_pure ()
    · exact Attempt.uses_require (by simp [Request.verb])

namespace Clearance

open Cluster

/-- What is reconciled, as it was seen. -/
inductive Subject where
  | run (run : Run)
  | workspace (workspace : Workspace)

/-- A reconciliation under way: what is reconciled, what was heard, the latest first, and what is left to do. -/
structure Course where
  subject : Subject
  heard : List Exchange := []
  rest : Program (Except ReconcileFailure Unit)

/-- A cluster with its history, and the reconciliations that are under way. -/
structure World where
  history : History := []
  courses : List Course := []

/-- Which requests a reconciliation may send after what it has heard. -/
def Subject.Permits (space : String) : Subject → List Exchange → Request → Prop
  | .run subject, heard, request => subject.Permits space heard request
  | .workspace _, _, request => request.verb = .create → request.kind ≠ .pod

namespace World

variable {space : String} {world next : World} {mover : Option Course} {history : History} {course : Course}

/-- How a world moves, by one request or by a reconciliation that starts or is given up; a reconciliation whose
request is served is the mover. -/
inductive Step (space : String) : World → Option Course → World → Prop where
  | outside {world : World} {request : Request} (uncreated : request.verb = .create → request.kind ≠ .pod) :
      Step space world none { world with history := world.history.ask request }
  | startRun {world : World} {cluster : Cluster} {name : String} {run : Run} (now : String) (settings : Settings)
      (seen : cluster ∈ world.history) (stored : cluster.run? space name = some run) :
      Step space world none
        { world with courses := { subject := .run run, rest := run.reconcile now settings space } :: world.courses }
  | startWorkspace {world : World} {cluster : Cluster} {name : String} {workspace : Workspace} (now : String)
      (settings : Settings) (seen : cluster ∈ world.history)
      (stored : cluster.workspace? space name = some workspace) :
      Step space world none
        { world with
          courses := { subject := .workspace workspace, rest := workspace.reconcile now settings space } ::
            world.courses }
  | serve {history : History} {before after : List Course} {subject : Subject} {heard : List Exchange}
      {request : Request} {next : Except ApiError Json → Program (Except ReconcileFailure Unit)}
      {cluster : Cluster} {reply : Except ApiError Json} (served : Reply history.present request cluster reply) :
      Step space ⟨history, before ++ ⟨subject, heard, .call request next⟩ :: after⟩
        (some ⟨subject, heard, .call request next⟩)
        ⟨cluster :: history, before ++ ⟨subject, ⟨request, reply⟩ :: heard, next reply⟩ :: after⟩
  | giveUp {history : History} {before after : List Course} {course : Course} :
      Step space ⟨history, before ++ course :: after⟩ none ⟨history, before ++ after⟩

/-- The worlds that are reached from the empty one. -/
inductive Reachable (space : String) : World → Prop where
  | start : Reachable space {}
  | step {world next : World} {mover : Option Course} (reachable : Reachable space world)
      (step : Step space world mover next) : Reachable space next

/-! ### What reconciliations keep -/

/-- Whatever is left to do is permitted by what will have been heard, and what was read was stored. -/
structure Sound (space : String) (history : History) (course : Course) : Prop where
  heeds : course.rest.Heeds (course.subject.Permits space) (fun _ _ => True) course.heard
  honest : ∀ key json, ⟨.get key, .ok json⟩ ∈ course.heard → ∃ cluster ∈ history, cluster.find? key = some json

/-- What was stored has been stored also when the history goes on. -/
theorem Sound.later {later : History} (sound : Sound space history course) (before : history ⊆ later) :
    Sound space later course where
  heeds := sound.heeds
  honest := fun key json heard => by
    obtain ⟨cluster, member, stored⟩ := sound.honest key json heard
    exact ⟨cluster, before member, stored⟩

theorem sound_startRun (run : Run) (now : String) (settings : Settings) (history : History) :
    Sound space history { subject := .run run, rest := run.reconcile now settings space } where
  heeds := (run.heeds_reconcile now settings space).weaken fun _ _ _ => trivial
  honest := fun _ _ heard => by cases heard

theorem sound_startWorkspace (workspace : Workspace) (now : String) (settings : Settings) (history : History) :
    Sound space history { subject := .workspace workspace, rest := workspace.reconcile now settings space } where
  heeds := (workspace.uses_reconcile now settings space).heeds (fun _ => True)
    (fun _ spared => ⟨spared, fun _ => trivial⟩) trivial |>.weaken fun _ _ _ => trivial
  honest := fun _ _ heard => by cases heard

/-- A reconciliation stays sound when its request is served. -/
theorem Sound.serve {subject : Subject} {heard : List Exchange} {request : Request}
    {next : Except ApiError Json → Program (Except ReconcileFailure Unit)} {cluster : Cluster}
    {reply : Except ApiError Json} (sound : Sound space history ⟨subject, heard, .call request next⟩)
    (served : Reply history.present request cluster reply) :
    Sound space (cluster :: history) ⟨subject, ⟨request, reply⟩ :: heard, next reply⟩ where
  heeds := sound.heeds.2 reply
  honest := by
    intro key json member
    rcases List.mem_cons.mp member with here | there
    · cases here
      obtain ⟨rfl, outcome⟩ := served.of_get
      rcases outcome with ⟨object, found, same⟩ | ⟨_, impossible⟩ | ⟨_, _, impossible⟩
      · cases same
        exact ⟨_, List.mem_cons_self, found⟩
      · cases impossible
      · cases impossible
    · exact (sound.later (List.subset_cons_self cluster history)).honest key json there

/-- Every step keeps the reconciliations that are under way sound. -/
theorem sound_step (sound : ∀ course ∈ world.courses, Sound space world.history course)
    (step : Step space world mover next) : ∀ course ∈ next.courses, Sound space next.history course := by
  cases step with
  | outside uncreated => exact fun course member => (sound course member).later (List.subset_cons_self _ _)
  | startRun now settings seen stored =>
      exact List.forall_mem_cons.mpr ⟨sound_startRun _ now settings _, sound⟩
  | startWorkspace now settings seen stored =>
      exact List.forall_mem_cons.mpr ⟨sound_startWorkspace _ now settings _, sound⟩
  | @serve history before after subject heard request next cluster reply served =>
      intro course member
      simp only [List.mem_append, List.mem_cons] at member
      rcases member with earlier | rfl | later
      · exact (sound course (by simp [earlier])).later (List.subset_cons_self cluster history)
      · exact (sound ⟨subject, heard, .call request next⟩ (by simp)).serve served
      · exact (sound course (by simp [later])).later (List.subset_cons_self cluster history)
  | giveUp =>
      intro course member
      simp only [List.mem_append] at member
      exact sound course (by simp only [List.mem_append, List.mem_cons]; tauto)

theorem Reachable.sound (reachable : Reachable space world) :
    ∀ course ∈ world.courses, Sound space world.history course := by
  induction reachable with
  | start => exact List.forall_mem_nil _
  | step reachable step inductionHypothesis => exact sound_step inductionHypothesis step

/-! ### Pods that come into being -/

/-- Where a pod comes into being, a reconciliation has asked for it. -/
theorem exists_of_created (step : Step space world mover next) {name : String}
    (absent : world.history.present.find? ⟨.pod, space, name⟩ = none)
    (present : next.history.present.find? ⟨.pod, space, name⟩ ≠ none) :
    ∃ course ∈ world.courses, mover = some course ∧ ∃ request rest, course.rest = .call request rest ∧
      request.verb = .create ∧ request.key? = some ⟨.pod, space, name⟩ := by
  cases step with
  | @outside world request uncreated =>
      have effect := effect_answer world.history.present request
      exact absurd (effect.find?_of_uncreated (fun creates about => uncreated creates (kind_of_key? about)) absent)
        present
  | startRun => exact absurd absent present
  | startWorkspace => exact absurd absent present
  | @serve history before after subject heard request next cluster reply served =>
      refine ⟨_, List.mem_append_right before List.mem_cons_self, rfl, request, next, rfl, ?_⟩
      by_contra other
      exact present (served.effect.find?_of_uncreated (fun creates about => other ⟨creates, about⟩) absent)
  | giveUp => exact absurd absent present

/-- A reconciliation that asks for a pod looks after the run of that name, which was cleared by the workspace that
it has read. -/
theorem Sound.admitted (sound : Sound space history course) {request : Request}
    {rest : Except ApiError Json → Program (Except ReconcileFailure Unit)} (waits : course.rest = .call request rest)
    (creates : request.verb = .create) {name : String} (about : request.key? = some ⟨.pod, space, name⟩) :
    ∃ run, course.subject = .run run ∧ run.name = name ∧ run.Unhoused space course.heard ∧
      ∃ label json workspace, run.Admitted space course.heard label json workspace ∧
        ∃ cluster ∈ history, cluster.find? ⟨.workspace, space, label⟩ = some json := by
  obtain ⟨subject, heard, program⟩ := course
  cases waits
  have kind : request.kind = .pod := kind_of_key? about
  have permitted := sound.heeds.1
  cases subject with
  | workspace workspace => exact absurd kind (permitted creates)
  | run run =>
      obtain ⟨own, unhoused, label, json, workspace, admitted⟩ := permitted creates kind
      have named : run.name = name := congrArg Key.name (Option.some.inj (own.symm.trans about))
      have member : ⟨.get ⟨.workspace, space, label⟩, .ok json⟩ ∈ Run.readings heard := by
        rw [admitted.only]
        exact List.mem_cons_self
      exact ⟨run, rfl, named, unhoused, label, json, workspace, admitted,
        sound.honest _ _ (List.mem_of_mem_filter member)⟩

/-- A plan asks for the pod of a run exactly if there is none and the workspace that was found clears the run.
Wherever a pod comes into being in a world, it is that of a run whose reconciliation has read, as its only
workspace, a copy that was stored under the label of the run and that clears the run. -/
theorem admitted_of_created :
    (∀ (now : String) (run : Run) (lookup : Lookup) (pod : Option Pod),
      (run.plan now lookup pod).createPod = true ↔
        pod = none ∧ ∃ workspace, lookup = .found workspace ∧ run.Cleared workspace) ∧
      ∀ (space name : String) (world next : World) (mover : Option Course), Reachable space world →
        Step space world mover next → world.history.present.find? ⟨.pod, space, name⟩ = none →
        next.history.present.find? ⟨.pod, space, name⟩ ≠ none →
        ∃ course run, mover = some course ∧ course.subject = .run run ∧ run.name = name ∧
          run.Unhoused space course.heard ∧
          ∃ label json workspace, run.Admitted space course.heard label json workspace ∧
            ∃ cluster ∈ world.history, cluster.find? ⟨.workspace, space, label⟩ = some json := by
  refine ⟨Run.createPod_iff_cleared, ?_⟩
  intro space name world next mover reachable step absent present
  obtain ⟨course, member, moved, request, rest, waits, creates, about⟩ := exists_of_created step absent present
  obtain ⟨run, subject, named, admitted⟩ := (reachable.sound course member).admitted waits creates about
  exact ⟨course, run, moved, subject, named, admitted⟩

/-! ### A privileged run that is approved -/

/-- The reconciliation has a request to send. -/
def waits (course : Course) : Bool :=
  match course.rest with
  | .call _ _ => true
  | .done _ => false

/-- Start to reconcile the stored run of a name, if there is one. -/
def started (world : World) (now space name : String) : World :=
  match world.history.present.run? space name with
  | none => world
  | some run => { world with courses := { subject := .run run, rest := run.reconcile now {} space } :: world.courses }

/-- Answer the next request of the reconciliation that was started last. -/
def proceed (world : World) : World :=
  match world.courses with
  | ⟨subject, heard, .call request next⟩ :: others =>
    let (cluster, reply) := world.history.present.computed request
    ⟨cluster :: world.history, ⟨subject, ⟨request, reply⟩ :: heard, next reply⟩ :: others⟩
  | _ => world

theorem Reachable.ask (reachable : Reachable space world) (request : Request)
    (uncreated : request.verb = .create → request.kind ≠ .pod) :
    Reachable space { world with history := world.history.ask request } :=
  reachable.step (.outside uncreated)

theorem Reachable.started (reachable : Reachable space world) (now name : String) :
    Reachable space (world.started now space name) := by
  unfold World.started
  split
  · exact reachable
  · rename_i run stored
    obtain ⟨object, found, _⟩ := find?_of_run? stored
    exact reachable.step (.startRun now {} (History.present_mem found) stored)

theorem step_proceed {others : List Course} (first : world.courses = course :: others)
    (waiting : waits course = true) : Step space world (some course) world.proceed := by
  obtain ⟨history, courses⟩ := world
  obtain ⟨subject, heard, program⟩ := course
  cases first
  cases program with
  | done value => cases waiting
  | call request next =>
      have step : Step space ⟨history, [] ++ ⟨subject, heard, .call request next⟩ :: others⟩
          (some ⟨subject, heard, .call request next⟩)
          ⟨(history.present.answer request).1 :: history,
            [] ++ ⟨subject, ⟨request, (history.present.answer request).2⟩ :: heard,
              next (history.present.answer request).2⟩ :: others⟩ := .serve .answered
      simp only [proceed, computed_eq_answer]
      exact step

theorem Reachable.proceed (reachable : Reachable space world) : Reachable space world.proceed := by
  cases first : world.courses with
  | nil =>
      unfold World.proceed
      rw [first]
      exact reachable
  | cons course others =>
      cases waiting : waits course with
      | true => exact reachable.step (step_proceed first waiting)
      | false =>
          unfold World.proceed
          rw [first]
          split
          · rename_i same
            cases same
            cases waiting
          · exact reachable

/-- The command of a run is privileged in its workspace, which approves the run. -/
def reserving : Request :=
  .patch ⟨.workspace, "team", "dev"⟩
    (.object
      [("metadata", .object [("annotations", .object [("approvals.runq.dev/run-a", .string "by hand")])]),
       ("spec", .object [("privilegedCommands", .texts ["apply"])])])

/-- The run leads the queue of its workspace. -/
def heading : Request :=
  .patchStatus ⟨.workspace, "team", "dev"⟩ (.object [("status", ({ queue := ["run-a"] } : WorkspaceStatus).toJson)])

/-- A privileged run that is approved leads its workspace. -/
@[irreducible] def approved : World where
  history := (((History.ask [] (.founding "team" "dev")).ask reserving).ask
    (.submission "team" "dev" "run-a" .apply)).ask heading

/-- A reconciliation of the run has heard of its payload, its workspace and its pod. -/
@[irreducible] def informed : World :=
  (approved.started "T1" "team" "run-a").proceed.proceed.proceed

/-- The workspace that was read reserves the command. -/
def reserves (exchange : Exchange) : Bool :=
  match exchange.reply with
  | .ok json => (Workspace.ofJson? json).all fun workspace => workspace.spec.privilegedCommands.contains "apply"
  | .error _ => false

theorem reachable_informed : Reachable "team" informed := by
  have empty : Reachable "team" {} := .start
  have submitted := ((empty.ask (.founding "team" "dev") (by decide)).ask reserving (by decide)).ask
    (.submission "team" "dev" "run-a" .apply) (by decide)
  have leading : Reachable "team" approved := by
    rw [approved]
    exact submitted.ask heading (by decide)
  rw [informed]
  exact (leading.started "T1" "run-a").proceed.proceed.proceed

/-- The pod of a privileged run comes into being, and the run was approved. -/
theorem admitted_of_created_informed : ∃ course run label json workspace, Reachable "team" informed ∧
    Step "team" informed (some course) informed.proceed ∧
    informed.history.present.find? ⟨.pod, "team", "run-a"⟩ = none ∧
    informed.proceed.history.present.find? ⟨.pod, "team", "run-a"⟩ ≠ none ∧
    course.subject = .run run ∧ run.Admitted "team" course.heard label json workspace ∧
    "apply" ∈ workspace.spec.privilegedCommands ∧ run.spec.command = .apply := by
  have absent : informed.history.present.find? ⟨.pod, "team", "run-a"⟩ = none :=
    Option.isNone_iff_eq_none.mp (by decide +kernel)
  have present : informed.proceed.history.present.find? ⟨.pod, "team", "run-a"⟩ ≠ none :=
    Option.isSome_iff_ne_none.mp (by decide +kernel)
  have checked : informed.courses.head?.any (fun course => waits course &&
      ((Run.readings course.heard).all reserves && match course.subject with
        | .run run => run.spec.command == .apply
        | .workspace _ => false)) = true := by
    decide +kernel
  obtain ⟨course, first, fits⟩ := (Option.any_eq_true _ _).mp checked
  simp only [Bool.and_eq_true] at fits
  obtain ⟨waiting, reserved, commanded⟩ := fits
  obtain ⟨others, courses⟩ : ∃ others, informed.courses = course :: others := List.head?_eq_some_iff.mp first
  have step : Step "team" informed (some course) informed.proceed := step_proceed courses waiting
  obtain ⟨moved, run, same, subject, _, _, label, json, workspace, admitted, _⟩ :=
    admitted_of_created.2 "team" "run-a" informed _ _ reachable_informed step absent present
  cases same
  rw [admitted.only, List.all_cons, List.all_nil, Bool.and_true, reserves] at reserved
  simp only [admitted.read, Option.all_some, List.contains_eq_mem, decide_eq_true_eq] at reserved
  rw [subject] at commanded
  exact ⟨course, run, label, json, workspace, reachable_informed, step, absent, present, subject, admitted, reserved,
    beq_iff_eq.mp commanded⟩

end World

end Clearance

end Turnstile
