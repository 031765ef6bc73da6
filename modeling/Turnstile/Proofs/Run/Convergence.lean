/-
Module: Turnstile.Proofs.Run.Convergence
Purpose: Once a plan is carried out nothing more is planned, until something else is observed.
Main exports: Run.carried, Plan.housed, Run.plan_congr, Run.lived_of_still, Run.Convergent, Run.convergent_of_tempered
-/
import Turnstile.Proofs.Run.Ruling
import Turnstile.Proofs.Run.Settlement

/-!
A plan is carried out by storing its status and creating its pod.  The next plan starts from that status and sees
that pod; it decides as before, or finds the run over, and has nothing to write at any time.  So a controller that
is woken by its own writes comes to rest.

Nothing is assumed of the stored status but this: a run that may be attached to although it does not lead its queue
is in a workspace that is not known to be unhealthy.  In an unhealthy workspace such a run first loses its
attachability to the queue, and is ended for its loss at the next plan only.
-/

namespace Turnstile

/-- The pod that is there once a plan is carried out: the one that was created, if the plan asks for it. -/
def Plan.housed (plan : Plan) (created : Pod) (pod : Option Pod) : Option Pod :=
  if plan.createPod then some created else pod

namespace Run

variable {run : Run} {now : String} {lookup : Lookup} {pod : Option Pod} {created : Pod}

/-- The run once the status of a plan is stored, if there is one. -/
def carried (run : Run) (plan : Plan) : Run :=
  { run with status := plan.status <|> run.status }

/-! ### The second plan -/

/-- A plan depends on the name of the run, on its command, on the mark of its client and on its status. -/
theorem plan_congr {first second : Run} (named : first.name = second.name) (spec : first.spec = second.spec)
    (marked : first.hasClient = second.hasClient) (status : first.status = second.status) (now : String)
    (lookup : Lookup) (pod : Option Pod) : first.plan now lookup pod = second.plan now lookup pod := by
  have queued : ∀ workspace current, planQueued now first workspace pod current =
      planQueued now second workspace pod current := by
    intro workspace current
    simp only [planQueued, named, spec]
  have found : ∀ workspace current, planFound now first workspace pod current =
      planFound now second workspace pod current := by
    intro workspace current
    simp only [planFound, named, isAttachable_congr status, queued]
  have pending : planPending now first lookup pod (second.status.getD {}) =
      planPending now second lookup pod (second.status.getD {}) := by
    cases lookup with
    | found workspace => exact found workspace _
    | _ => rfl
  simp only [plan, isCompleted_congr status, status, marked, pending]

/-- With the pod that was asked for in sight, the same status is planned and no pod any more. -/
theorem plan_housed (young : (run.plan now lookup pod).createPod = true → created.exitCode? = none)
    (later : String) :
    run.plan later lookup ((run.plan now lookup pod).housed created pod) =
      { status := (run.plan later lookup pod).status, createPod := false } := by
  unfold Plan.housed
  cases asked : (run.plan now lookup pod).createPod with
  | false =>
      have unasked := (timeless_plan later now run lookup pod).1.trans asked
      exact congrArg (Plan.mk _) unasked
  | true =>
      cases none_of_createPod asked
      exact plan_of_created asked (young asked) later

/-- Once the status is stored and the pod is there, nothing is planned at any time. -/
theorem plan_carried (tempered : run.Tempered lookup)
    (young : (run.plan now lookup pod).createPod = true → created.exitCode? = none) (later : String) :
    (run.carried (run.plan now lookup pod)).plan later lookup ((run.plan now lookup pod).housed created pod) =
      {} := by
  have present := plan_housed young now
  cases planned : (run.plan now lookup pod).status with
  | none =>
      have unchanged : run.carried (run.plan now lookup pod) = run := by
        unfold carried
        rw [planned]
        rfl
      have unwritten : (run.plan later lookup pod).status = none := by
        have timeless := (timeless_plan later now run lookup pod).2
        rw [planned] at timeless
        exact Option.map_eq_none_iff.mp timeless
      rw [unchanged, plan_housed young later, unwritten]
  | some status =>
      have written : (run.plan now lookup ((run.plan now lookup pod).housed created pod)).status = some status := by
        rw [present]
        exact planned
      have nothing := plan_reported written (by rw [present]) tempered "" "" later
      rw [← nothing]
      refine plan_congr ?_ ?_ ?_ ?_ later lookup _
      · rfl
      · rfl
      · rfl
      · unfold carried
        rw [planned]
        rfl

/-! ### The plans from then on -/

/-- A run of which nothing is planned at any of the sights is at the end what it was. -/
theorem lived_of_still {sights : List Sight}
    (still : ∀ sight ∈ sights, sight.annotations = run.metadata.annotations ∧ run.planAt sight = {}) :
    run.lived sights = run := by
  induction sights with
  | nil => rfl
  | cons sight rest inductionHypothesis =>
      obtain ⟨annotated, nothing⟩ := still sight List.mem_cons_self
      have unchanged : run.after sight = run := by
        unfold after seen
        rw [nothing, annotated]
        rfl
      rw [lived, List.foldl_cons, unchanged]
      exact inductionHypothesis fun later member => still later (List.mem_cons_of_mem _ member)

/-- A sight that shows the run as it is, its workspace as it was found, and this pod. -/
structure Sight.Shows (sight : Sight) (run : Run) (lookup : Lookup) (pod : Option Pod) : Prop where
  annotated : sight.annotations = run.metadata.annotations
  found : sight.lookup = lookup
  housed : sight.pod = pod

/-- What one plan makes of a run, if it is carried out. -/
structure Convergent (run : Run) (now : String) (lookup : Lookup) (pod : Option Pod) (created : Pod) : Prop where
  /-- The second plan, made at any time, writes nothing and asks for no pod. -/
  settled : ∀ later,
    (run.carried (run.plan now lookup pod)).plan later lookup ((run.plan now lookup pod).housed created pod) =
      { status := none, createPod := false }
  /-- The run stays as it is however often it is looked at, until something else is in sight. -/
  rests : ∀ sights : List Sight,
    (∀ sight ∈ sights, sight.Shows run lookup ((run.plan now lookup pod).housed created pod)) →
      (run.carried (run.plan now lookup pod)).lived sights = run.carried (run.plan now lookup pod)

/-- A plan that is carried out leaves nothing to plan, whatever the stored status was: its conditions may repeat types
and lack times. -/
theorem convergent_of_tempered (tempered : run.Tempered lookup)
    (young : (run.plan now lookup pod).createPod = true → created.exitCode? = none) :
    run.Convergent now lookup pod created where
  settled := plan_carried tempered young
  rests := by
    intro sights same
    refine lived_of_still fun sight member => ?_
    have shows := same sight member
    refine ⟨shows.annotated, ?_⟩
    have unmarked : (run.carried (run.plan now lookup pod)).seen sight = run.carried (run.plan now lookup pod) := by
      unfold seen
      rw [shows.annotated]
      rfl
    rw [planAt, unmarked, shows.found, shows.housed]
    exact plan_carried tempered young sight.now

/-- A run of which it is said twice, and without a time, whether it may be attached to. -/
def doubled : Run where
  metadata := { name := some "run-a", annotations := some [( clientAnnotation, clientReadyText)] }
  spec :=
    { command := .plan, args := [], configMap := "run-a", configMapKey := defaultConfigMapKey, handshake := false,
      handshakeTimeoutSeconds := 10 }
  status := some { conditions := [.observed attachable true "First" "", .observed attachable false "Second" ""] }

/-- The run leads the queue of this workspace, which has become unhealthy. -/
def ailing : Workspace where
  metadata := { name := some "dev" }
  spec := {}
  status := some { queue := ["run-a"], conditions := [.observed Workspace.healthy false "MissingResource" ""] }

/-- A run may be attached to, has no pod and leads the queue of an unhealthy workspace.  One plan asks for the pod and
records its name; then the run is left alone. -/
theorem convergent_doubled :
    (doubled.plan "T1" (.found ailing) none).createPod = true ∧
      (doubled.plan "T1" (.found ailing) none).status.isSome = true ∧
      doubled.Tempered (.found ailing) ∧
      doubled.Convergent "T1" (.found ailing) none { metadata := {}, status := none } :=
  ⟨by decide, by decide, Or.inr (Or.inl rfl), convergent_of_tempered (Or.inr (Or.inl rfl)) fun _ => rfl⟩

end Run

end Turnstile
