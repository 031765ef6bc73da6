/-
Module: Turnstile.Proofs.Run.Agreement
Purpose: When a run ends whose pod a client takes to be over, and how it blocks its queue otherwise.
Main exports: Run.isCompleted_carried_iff, Run.ends_ruling_iff, Run.Agrees, Run.Sight.Stalls, Run.open_lived,
  Run.Accord, Run.accord_of_open, Run.not_agrees_evicted
-/
import Turnstile.Proofs.Run.Convergence
import Turnstile.Proofs.Run.Grounds

/-!
A client takes a pod to be over by its phase; a plan takes it to be over once the runner reports a terminated state.
A pod that was evicted before its containers reported, or whose report lacks the runner, is over for the client and
not for the plan.  Unless such a run is ended on grounds that have nothing to do with its pod, it goes on; at the head
of its queue it may be attached to from then on, and it stays there as long as its pod shows no more.
-/

namespace Turnstile.Run

open Condition

variable {run : Run} {now : String} {lookup : Lookup} {workspace : Workspace} {pod : Pod}

/-! ### What ends a run -/

/-- Once a plan is carried out, a run that was not over stands where its ruling leads. -/
theorem standing_carried (unfinished : run.isCompleted = false) (now : String) (lookup : Lookup) (pod : Option Pod) :
    (run.carried (run.plan now lookup pod)).standing = ruled now run (run.ruling pod lookup) := by
  rw [plan_eq_ruling unfinished, carried]
  by_cases same : ruled now run (run.ruling pod lookup) = run.standing
  · rw [if_pos same, same]
    rfl
  · rw [if_neg same]
    rfl

/-- A ruling by which a run goes on leaves it open. -/
theorem completed_ruled_of_goesOn (unfinished : run.isCompleted = false) (now : String) {ruling : Ruling}
    (goesOn : ruling.GoesOn) : isTrueFor (ruled now run ruling).conditions completed = false := by
  have unrecorded : completed ∉ (ruling.observations ++ run.greeting).map Condition.type := by
    unfold greeting
    cases ruling with
    | ends reason message code => exact absurd rfl (goesOn reason message code)
    | _ => split <;> simp [Ruling.observations, completed, attachable, clientReady]
  rw [isTrueFor, ruled, Ruling.applied, find?_record_of_notMem now unrecorded, ← isTrueFor,
    ← isCompleted_eq_standing]
  exact unfinished

/-- A plan that is carried out ends a run exactly if its ruling does. -/
theorem isCompleted_carried_iff (unfinished : run.isCompleted = false) (now : String) (lookup : Lookup)
    (pod : Option Pod) :
    (run.carried (run.plan now lookup pod)).isCompleted = true ↔ ¬ (run.ruling pod lookup).GoesOn := by
  rw [isCompleted_eq_standing, standing_carried unfinished]
  constructor
  · intro finished goesOn
    rw [completed_ruled_of_goesOn unfinished now goesOn] at finished
    cases finished
  · intro ends
    cases decided : run.ruling pod lookup with
    | ends reason message code => exact completed_ruled now run reason message code
    | _ => exact absurd (fun _ _ _ differ => Ruling.noConfusion (decided.symm.trans differ)) ends

/-- The place of a run in the queue ends it exactly if it leads and lacks the approval that its command takes. -/
theorem ends_place_iff (run : Run) (workspace : Workspace) :
    ¬ (run.place workspace).GoesOn ↔
      run.CutOff workspace .unapproved ∧ workspace.queuePosition? run.name = some 0 := by
  unfold place
  rcases workspace.queuePosition? run.name with _ | _ | later
  · simp [Ruling.GoesOn]
  · simp only
    split
    · rename_i reserved
      rw [Bool.and_eq_true, Bool.not_eq_true'] at reserved
      exact ⟨fun _ => ⟨.unapproved reserved.1 reserved.2, trivial⟩, fun _ goesOn => goesOn _ _ _ rfl⟩
    · rename_i free
      refine ⟨fun ends => absurd (fun _ _ _ differ => Ruling.noConfusion differ) ends, ?_⟩
      rintro ⟨cut, _⟩
      cases cut with
      | unapproved privileged refused => exact absurd (by rw [privileged, refused]; rfl) free
  · simp [Ruling.GoesOn]

/-- A run whose workspace and pod are in sight ends exactly if the runner reports that it has terminated, or if the
run is cut off: at the head of the queue for want of approval, and anywhere for the health of the workspace. -/
theorem ends_ruling_iff (run : Run) (workspace : Workspace) (pod : Pod) :
    ¬ (run.ruling (some pod) (.found workspace)).GoesOn ↔
      pod.exitCode?.isSome = true ∨ run.CutOff workspace .workspaceUnhealthy ∨
        run.CutOff workspace .unapproved ∧ workspace.queuePosition? run.name = some 0 := by
  cases reported : pod.exitCode? with
  | some code =>
      simp only [ruling, Option.bind_some, reported]
      exact ⟨fun _ => Or.inl rfl, fun _ goesOn => goesOn _ _ _ rfl⟩
  | none =>
      by_cases sick : isFalseFor workspace.conditions Workspace.healthy = true ∧ run.isAttachable = false
      · simp only [ruling, Option.bind_some, reported, sick]
        exact ⟨fun _ => Or.inr (Or.inl (.unhealthy sick.1 sick.2)), fun _ goesOn => goesOn _ _ _ rfl⟩
      · have unsettled : run.Unsettled workspace (some pod) := by
          refine ⟨reported, Or.inl rfl, ?_⟩
          cases ill : isFalseFor workspace.conditions Workspace.healthy with
          | false => exact Or.inl rfl
          | true => exact Or.inr (by simpa [ill] using sick)
        rw [ruling_of_unsettled unsettled, ends_place_iff]
        constructor
        · exact fun refused => Or.inr (Or.inr refused)
        · rintro (ended | cut | refused)
          · cases ended
          · cases cut with
            | unhealthy ill closed => exact absurd ⟨ill, closed⟩ sick
          · exact refused

/-! ### A run that goes on -/

/-- The sight shows a run at the head of its queue that needs no approval or has it, and a pod whose runner has not
reported that it has terminated. -/
structure Sight.Stalls (sight : Sight) (name command : String) : Prop where
  leads : ∃ workspace, sight.lookup = .found workspace ∧ workspace.queuePosition? name = some 0 ∧
    (workspace.isPrivileged command = false ∨ workspace.isApproved name = true)
  unreported : ∃ pod, sight.pod = some pod ∧ pod.exitCode? = none

/-- A plan by whose ruling an open run leads leaves it open, and it may be attached to. -/
theorem open_of_leading (unfinished : run.isCompleted = false) {pod : Option Pod}
    (leads : run.ruling pod lookup = .leading) (now : String) :
    (run.carried (run.plan now lookup pod)).isCompleted = false ∧
      (run.carried (run.plan now lookup pod)).isAttachable = true := by
  have goesOn : Ruling.leading.GoesOn := fun _ _ _ differ => Ruling.noConfusion differ
  rw [isCompleted_eq_standing, isAttachable_eq_standing, standing_carried unfinished, leads]
  exact ⟨completed_ruled_of_goesOn unfinished now goesOn, (attachable_ruled_iff now run .leading).mpr rfl⟩

/-- An open run that may be attached to stays so at a sight that stalls it. -/
theorem open_after (unfinished : run.isCompleted = false) (isOpen : run.isAttachable = true) {sight : Sight}
    (stalls : sight.Stalls run.name run.spec.command.name) :
    (run.after sight).isCompleted = false ∧ (run.after sight).isAttachable = true := by
  obtain ⟨⟨workspace, found, first, admitted⟩, pod, housed, unreported⟩ := stalls
  have still : (run.seen sight).isCompleted = false := unfinished
  have unsettled : (run.seen sight).Unsettled workspace (some pod) := ⟨unreported, Or.inl rfl, Or.inr isOpen⟩
  have leads : (run.seen sight).ruling sight.pod sight.lookup = .leading := by
    rw [found, housed, ruling_of_unsettled unsettled]
    have free : (workspace.isPrivileged run.spec.command.name && !workspace.isApproved run.name) = false := by
      rcases admitted with unreserved | approved
      · simp [unreserved]
      · simp [approved]
    have place : run.place workspace = .leading := by
      simp only [Run.place, first, free, Bool.false_eq_true, if_false]
    exact place
  exact open_of_leading still leads sight.now

/-- An open run that may be attached to stays so through all sights that stall it. -/
theorem open_lived (unfinished : run.isCompleted = false) (isOpen : run.isAttachable = true) {sights : List Sight}
    (stall : ∀ sight ∈ sights, sight.Stalls run.name run.spec.command.name) :
    (run.lived sights).isCompleted = false ∧ (run.lived sights).isAttachable = true := by
  induction sights generalizing run with
  | nil => exact ⟨unfinished, isOpen⟩
  | cons sight rest inductionHypothesis =>
      obtain ⟨stillUnfinished, stillOpen⟩ := open_after unfinished isOpen (stall sight List.mem_cons_self)
      exact inductionHypothesis stillUnfinished stillOpen fun later member =>
        stall later (List.mem_cons_of_mem sight member)

/-! ### Client and plan -/

/-- If a client takes the pod to be over, a plan that sees it ends the run. -/
def Agrees (run : Run) (now : String) (workspace : Workspace) (pod : Pod) : Prop :=
  pod.state = .finished → (run.carried (run.plan now (.found workspace) (some pod))).isCompleted = true

/-- How far clients and plans agree on the end of a pod. -/
structure Accord (run : Run) (now : String) (workspace : Workspace) (pod : Pod) : Prop where
  /-- Of a pod that is over for the client they agree exactly if the runner reports that it has terminated, or if the
  run is cut off anyway. -/
  agrees_iff : run.Agrees now workspace pod ↔
    (pod.state = .finished →
      pod.exitCode?.isSome = true ∨ run.CutOff workspace .workspaceUnhealthy ∨
        run.CutOff workspace .unapproved ∧ workspace.queuePosition? run.name = some 0)
  /-- If they do not agree on the pod of a leading run, then the run is open and may be attached to, and remains so at
  the head of its queue for as long as its pod shows no more and it is not refused. -/
  blocks : ¬ run.Agrees now workspace pod → workspace.queuePosition? run.name = some 0 →
    ∀ sights : List Sight, (∀ sight ∈ sights, sight.Stalls run.name run.spec.command.name) →
      ((run.carried (run.plan now (.found workspace) (some pod))).lived sights).isCompleted = false ∧
        ((run.carried (run.plan now (.found workspace) (some pod))).lived sights).isAttachable = true

/-- A run that is not over ends with its pod if the runner has reported, and is stuck behind it otherwise. -/
theorem accord_of_open (unfinished : run.isCompleted = false) (now : String) (workspace : Workspace) (pod : Pod) :
    run.Accord now workspace pod where
  agrees_iff := by
    rw [← ends_ruling_iff, ← isCompleted_carried_iff unfinished now]
    rfl
  blocks := by
    intro differ first sights stall
    have goesOn : (run.ruling (some pod) (.found workspace)).GoesOn := by
      by_contra ends
      exact differ fun _ => (isCompleted_carried_iff unfinished now _ _).mpr ends
    obtain ⟨_, found, unsettled, placed⟩ := unsettled_of_ruling goesOn
    cases found
    have leads : run.place workspace = .leading := by
      rw [placed] at goesOn
      cases decided : run.place workspace with
      | leading => rfl
      | ends reason message code => exact absurd decided (goesOn reason message code)
      | waiting reason message => exact absurd first (behind_of_waiting decided)
    obtain ⟨stillUnfinished, isOpen⟩ := open_of_leading unfinished (placed.trans leads) now
    exact open_lived stillUnfinished isOpen stall

/-- A run that may be attached to and whose pod is recorded. -/
def engaged : Run where
  metadata := { name := some "run-a" }
  spec :=
    { command := .plan, args := [], configMap := "run-a", configMapKey := defaultConfigMapKey, handshake := false,
      handshakeTimeoutSeconds := 10 }
  status := some
    { conditions := [.observed attachable true Reason.frontOfQueue.word "At front of workspace queue"]
      podName := some "run-a" }

/-- The run leads the queue of this workspace, and another run waits behind it. -/
def contended : Workspace where
  metadata := { name := some "dev" }
  spec := {}
  status := some { queue := ["run-a", "run-b"] }

/-- A pod that has failed before any of its containers reported. -/
def evicted : Pod where
  metadata := { name := some "run-a" }
  status := some { phase := some "Failed", conditions := none, containerStatuses := none }

/-- A run whose pod was evicted holds its place at the head of the queue, although a client takes the pod to be
over. -/
theorem accord_of_open_evicted :
    evicted.state = .finished ∧ engaged.plan "T1" (.found contended) (some evicted) = {} ∧
      engaged.Accord "T1" contended evicted ∧
      ∀ sights : List Sight, (∀ sight ∈ sights, sight.Stalls "run-a" "plan") →
        ((engaged.carried {}).lived sights).isCompleted = false := by
  have accord := accord_of_open (rfl : engaged.isCompleted = false) "T1" contended evicted
  have nothing : engaged.plan "T1" (.found contended) (some evicted) = {} := by decide
  refine ⟨by decide, nothing, accord, fun sights stall => ?_⟩
  have differ : ¬ engaged.Agrees "T1" contended evicted := by
    intro agrees
    exact absurd (agrees (by decide)) (by decide)
  have blocked := (accord.blocks differ rfl sights stall).1
  rw [nothing] at blocked
  exact blocked

/-- A plan need not end a run whose pod a client takes to be over. -/
theorem not_agrees_evicted : ¬ ∀ (run : Run) (now : String) (workspace : Workspace) (pod : Pod),
    run.isCompleted = false → run.Agrees now workspace pod := by
  intro agree
  exact absurd (agree engaged "T1" contended evicted rfl (by decide)) (by decide)

end Turnstile.Run
