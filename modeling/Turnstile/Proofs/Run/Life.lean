/-
Module: Turnstile.Proofs.Run.Life
Purpose: What holds of the status of a run throughout its life, whatever is observed on the way.
Main exports: Run.Sight, Run.lived, Run.planned, Run.coherent_lived, Run.lived_keeps,
  Run.countP_createPod_planned
-/
import Turnstile.Proofs.Run.Coherence

/-!
A life of a run is a sequence of sights.  At each sight the clock, the annotations, the workspace and the pod
may be anything; a plan is made, and its status is stored before the next sight.  A life keeps the status
coherent, and it asks for the pod of the run once at most: whoever asks for the pod records its name, and a
run whose recorded pod is gone is over.
-/

namespace Turnstile.Run

open Condition

/-- What is observed when a plan is made for a run. -/
structure Sight where
  now : String
  annotations : Option (List (String × String))
  lookup : Lookup
  pod : Option Pod

/-- The run with the annotations of the sight. -/
def seen (run : Run) (sight : Sight) : Run :=
  { run with metadata := { run.metadata with annotations := sight.annotations } }

/-- The plan that is made at the sight. -/
def planAt (run : Run) (sight : Sight) : Plan :=
  (run.seen sight).plan sight.now sight.lookup sight.pod

/-- The run after the sight: the status of its plan, if there is one, is stored. -/
def after (run : Run) (sight : Sight) : Run :=
  { run.seen sight with status := (run.planAt sight).status <|> run.status }

/-- The run after a sequence of sights. -/
def lived (run : Run) (sights : List Sight) : Run :=
  sights.foldl after run

/-- The plans that are made at a sequence of sights, in order. -/
def planned (run : Run) : List Sight → List Plan
  | [] => []
  | sight :: rest => run.planAt sight :: (run.after sight).planned rest

/-- The reason of the first condition of a type. -/
def reason? (run : Run) (type : String) : Option String :=
  (find? run.conditions type).bind Condition.reason

@[simp] theorem standing_seen (run : Run) (sight : Sight) : (run.seen sight).standing = run.standing := rfl

@[simp] theorem name_after (run : Run) (sight : Sight) : (run.after sight).name = run.name := rfl

@[simp] theorem isCompleted_seen (run : Run) (sight : Sight) :
    (run.seen sight).isCompleted = run.isCompleted := rfl

/-- What the run stands at after a sight is the planned status, or the old one if none was planned. -/
theorem standing_after (run : Run) (sight : Sight) :
    (run.after sight).standing = (run.planAt sight).status.getD run.standing := by
  unfold after standing
  cases (run.planAt sight).status <;> rfl

theorem isCompleted_eq_standing (run : Run) :
    run.isCompleted = isTrueFor run.standing.conditions completed := by
  rw [isCompleted, conditions_eq_standing]

theorem isAttachable_eq_standing (run : Run) :
    run.isAttachable = isTrueFor run.standing.conditions attachable := by
  rw [isAttachable, conditions_eq_standing]

theorem isCompleted_congr {before after : Run} (same : after.status = before.status) :
    after.isCompleted = before.isCompleted := by
  rw [isCompleted, isCompleted, conditions, conditions, same]

theorem isAttachable_congr {before after : Run} (same : after.status = before.status) :
    after.isAttachable = before.isAttachable := by
  rw [isAttachable, isAttachable, conditions, conditions, same]

/-- A run that is not over is underway, if its status is coherent. -/
theorem underway_of_open {run : Run} {name : String} (coherent : run.standing.Coherent name)
    (unfinished : run.isCompleted = false) : run.standing.Underway := by
  rw [isCompleted_eq_standing] at unfinished
  exact coherent.underway unfinished

/-- A run that is over plans nothing and stands where it stood. -/
theorem after_of_isCompleted {run : Run} (finished : run.isCompleted = true) (sight : Sight) :
    run.planAt sight = {} ∧ (run.after sight).standing = run.standing := by
  have still : (run.seen sight).isCompleted = true := finished
  have nothing : run.planAt sight = {} := plan_of_isCompleted still sight.now sight.lookup sight.pod
  refine ⟨nothing, ?_⟩
  rw [standing_after, nothing]
  rfl

/-- Where a plan leaves a run that is not over: what it writes, or what there is if it writes nothing, is what a
verdict and the mark of the client leave. -/
theorem standing_of_plan {run : Run} (unfinished : run.isCompleted = false) (now : String) (lookup : Lookup)
    (pod : Option Pod) :
    ∃ moved, Verdict now run lookup pod moved (run.plan now lookup pod).createPod ∧
      (run.plan now lookup pod).status.getD run.standing = greeted now run moved := by
  obtain ⟨moved, verdict, written⟩ := plan_of_open unfinished now lookup pod
  refine ⟨moved, verdict, ?_⟩
  rw [written]
  split
  · rename_i unchanged
    exact unchanged.symm
  · rfl

/-- A run that is not over stands, after a sight, where a verdict and the mark of the client leave it. -/
theorem after_of_open {run : Run} (unfinished : run.isCompleted = false) (sight : Sight) :
    ∃ moved, Verdict sight.now (run.seen sight) sight.lookup sight.pod moved (run.planAt sight).createPod ∧
      (run.after sight).standing = greeted sight.now (run.seen sight) moved := by
  have still : (run.seen sight).isCompleted = false := unfinished
  rw [standing_after]
  exact standing_of_plan still sight.now sight.lookup sight.pod

/-! ### The invariant of a life -/

/-- One sight keeps the status coherent. -/
theorem coherent_after {run : Run} (coherent : run.standing.Coherent run.name) (sight : Sight) :
    (run.after sight).standing.Coherent (run.after sight).name := by
  rw [name_after]
  cases finished : run.isCompleted with
  | true =>
      rw [(after_of_isCompleted finished sight).2]
      exact coherent
  | false =>
      obtain ⟨moved, verdict, stands⟩ := after_of_open finished sight
      have underway := underway_of_open coherent finished
      rw [stands]
      exact coherent_greeted (verdict.coherent coherent underway)

/-- A life keeps the name of the run. -/
theorem name_lived (run : Run) (sights : List Sight) : (run.lived sights).name = run.name := by
  induction sights generalizing run with
  | nil => rfl
  | cons sight rest inductionHypothesis => exact inductionHypothesis (run.after sight)

/-- A life keeps the status coherent. -/
theorem coherent_lived {run : Run} (coherent : run.standing.Coherent run.name) (sights : List Sight) :
    (run.lived sights).standing.Coherent run.name := by
  induction sights generalizing run with
  | nil => exact coherent
  | cons sight rest inductionHypothesis =>
      have kept := inductionHypothesis (coherent_after coherent sight)
      rw [name_after] at kept
      exact kept

theorem lived_append (run : Run) (earlier later : List Sight) :
    run.lived (earlier ++ later) = (run.lived earlier).lived later := by
  simp [lived, List.foldl_append]

/-- A run that is over stands where it stands for the rest of its life. -/
theorem standing_lived_of_isCompleted {run : Run} (finished : run.isCompleted = true) (sights : List Sight) :
    (run.lived sights).standing = run.standing := by
  induction sights generalizing run with
  | nil => rfl
  | cons sight rest inductionHypothesis =>
      have stands := (after_of_isCompleted finished sight).2
      have still : (run.after sight).isCompleted = true := by
        rw [isCompleted_eq_standing, stands, ← isCompleted_eq_standing]
        exact finished
      exact (inductionHypothesis still).trans stands

/-! ### What a life never takes back -/

/-- What every sight keeps of a coherent status, a life keeps. -/
theorem lived_keeps (kept : RunStatus → Prop)
    (keeps : ∀ {run : Run}, run.standing.Coherent run.name → kept run.standing →
      ∀ sight, kept (run.after sight).standing)
    {run : Run} (coherent : run.standing.Coherent run.name) (holds : kept run.standing)
    (sights : List Sight) : kept (run.lived sights).standing := by
  induction sights generalizing run with
  | nil => exact holds
  | cons sight rest inductionHypothesis =>
      exact inductionHypothesis (coherent_after coherent sight) (keeps coherent holds sight)

/-- An observation forgets no type of condition. -/
theorem mem_map_type_set {type : String} {conditions : List Condition} (now : String) (new : Condition)
    (present : type ∈ conditions.map Condition.type) :
    type ∈ (set now new conditions).map Condition.type := by
  rw [map_type_set]
  split
  · exact present
  · exact List.mem_append_left _ present

/-- An observation brings in no type but its own. -/
theorem mem_of_mem_map_type_set {type : String} {conditions : List Condition} {now : String}
    {new : Condition} (present : type ∈ (set now new conditions).map Condition.type)
    (other : new.type ≠ type) : type ∈ conditions.map Condition.type := by
  rw [map_type_set] at present
  split at present
  · exact present
  · rcases List.mem_append.mp present with old | own
    · exact old
    · exact absurd (List.mem_singleton.mp own).symm other

/-- A verdict forgets no type of condition. -/
theorem Verdict.keeps_type {now : String} {run : Run} {lookup : Lookup} {pod : Option Pod}
    {moved : RunStatus} {createPod : Bool} (verdict : Verdict now run lookup pod moved createPod)
    {type : String} (present : type ∈ run.standing.conditions.map Condition.type) :
    type ∈ moved.conditions.map Condition.type := by
  cases verdict with
  | fails message cause => exact mem_map_type_set now _ (mem_map_type_set now _ present)
  | ends found ended => exact mem_map_type_set now _ (mem_map_type_set now _ present)
  | waits reason message found unsettled behind => exact mem_map_type_set now _ present
  | leads message found unsettled first admitted => exact mem_map_type_set now _ present

/-- A verdict does not bring in the mark of the client. -/
theorem Verdict.clientReady_mem {now : String} {run : Run} {lookup : Lookup} {pod : Option Pod}
    {moved : RunStatus} {createPod : Bool} (verdict : Verdict now run lookup pod moved createPod)
    (present : clientReady ∈ moved.conditions.map Condition.type) :
    clientReady ∈ run.standing.conditions.map Condition.type := by
  have attachability : attachable ≠ clientReady := fun equal => clientReady_ne_attachable equal.symm
  have completion : completed ≠ clientReady := fun equal => clientReady_ne_completed equal.symm
  cases verdict with
  | fails message cause =>
      exact mem_of_mem_map_type_set (mem_of_mem_map_type_set present completion) attachability
  | ends found ended =>
      exact mem_of_mem_map_type_set (mem_of_mem_map_type_set present completion) attachability
  | waits reason message found unsettled behind => exact mem_of_mem_map_type_set present attachability
  | leads message found unsettled first admitted => exact mem_of_mem_map_type_set present attachability

/-- A verdict keeps a recorded pod name. -/
theorem Verdict.keeps_podName {now : String} {run : Run} {lookup : Lookup} {pod : Option Pod}
    {moved : RunStatus} {createPod : Bool} (verdict : Verdict now run lookup pod moved createPod)
    (coherent : run.standing.Coherent run.name) {name : String}
    (recorded : run.standing.podName = some name) : moved.podName = some name := by
  cases verdict with
  | fails message cause => exact recorded
  | ends found ended => exact recorded
  | waits reason message found unsettled behind => exact recorded
  | leads message found unsettled first admitted => rw [coherent.named name recorded]

/-- A sight forgets no type of condition. -/
theorem mem_map_type_after {run : Run} (sight : Sight) {type : String}
    (present : type ∈ run.standing.conditions.map Condition.type) :
    type ∈ (run.after sight).standing.conditions.map Condition.type := by
  cases finished : run.isCompleted with
  | true =>
      rw [(after_of_isCompleted finished sight).2]
      exact present
  | false =>
      obtain ⟨moved, verdict, stands⟩ := after_of_open finished sight
      rw [stands, greeted]
      split
      · exact mem_map_type_set _ _ (verdict.keeps_type present)
      · exact verdict.keeps_type present

/-- A sight keeps a recorded pod name. -/
theorem podName_after {run : Run} (coherent : run.standing.Coherent run.name) (sight : Sight)
    {name : String} (recorded : run.standing.podName = some name) :
    (run.after sight).standing.podName = some name := by
  cases finished : run.isCompleted with
  | true =>
      rw [(after_of_isCompleted finished sight).2]
      exact recorded
  | false =>
      obtain ⟨moved, verdict, stands⟩ := after_of_open finished sight
      rw [stands, podName_greeted]
      exact verdict.keeps_podName coherent recorded

/-- A sight brings in the mark of the client only if the run carries it there. -/
theorem hasClient_of_clientReady_after {run : Run} (sight : Sight)
    (present : clientReady ∈ (run.after sight).standing.conditions.map Condition.type)
    (absent : clientReady ∉ run.standing.conditions.map Condition.type) :
    (run.seen sight).hasClient = true := by
  cases finished : run.isCompleted with
  | true =>
      rw [(after_of_isCompleted finished sight).2] at present
      exact absurd present absent
  | false =>
      obtain ⟨moved, verdict, stands⟩ := after_of_open finished sight
      rw [stands, greeted] at present
      split at present
      · assumption
      · exact absurd (verdict.clientReady_mem present) absent

/-- A life brings in the mark of the client only if the run carries it at some sight. -/
theorem hasClient_of_clientReady_lived {run : Run} {sights : List Sight}
    (absent : clientReady ∉ run.standing.conditions.map Condition.type)
    (present : clientReady ∈ (run.lived sights).standing.conditions.map Condition.type) :
    ∃ sight ∈ sights, (run.seen sight).hasClient = true := by
  induction sights generalizing run with
  | nil => exact absurd present absent
  | cons sight rest inductionHypothesis =>
      by_cases now : clientReady ∈ (run.after sight).standing.conditions.map Condition.type
      · exact ⟨sight, List.mem_cons_self, hasClient_of_clientReady_after sight now absent⟩
      · obtain ⟨later, member, carried⟩ := inductionHypothesis now present
        exact ⟨later, List.mem_cons_of_mem sight member, carried⟩

/-- Only a verdict on the head of the queue lets a client connect. -/
theorem Verdict.first_of_attachable {now : String} {run : Run} {lookup : Lookup} {pod : Option Pod}
    {moved : RunStatus} {createPod : Bool} (verdict : Verdict now run lookup pod moved createPod)
    (isOpen : isTrueFor moved.conditions attachable = true) :
    ∃ workspace, lookup = .found workspace ∧ workspace.queuePosition? run.name = some 0 := by
  cases verdict with
  | fails message cause =>
      have closed := (over_complete now message run.standing
        (RunStatus.Ending.failed cause.mem_failureReasons)).isTrueFor_attachable
      rw [closed] at isOpen
      cases isOpen
  | @ends workspace code found ended =>
      have closed := (over_complete now ("Runner exited with code " ++ toString code.toInt) run.standing
        (RunStatus.Ending.exited code)).isTrueFor_attachable
      rw [finish, closed] at isOpen
      cases isOpen
  | waits reason message found unsettled behind =>
      have closed := isTrueFor_set_self now (.observed attachable false reason.word message) run.standing.conditions
      rw [type_observed, isTrue_observed] at closed
      rw [conditions_setAttachable, closed] at isOpen
      cases isOpen
  | leads message found unsettled first admitted => exact ⟨_, found, first⟩

/-- The status that a plan asks for is one for a run that is not over.  It is coherent, forgets neither exit code
nor pod name, and lets a client connect only at the head of the queue. -/
theorem status_of_plan {now : String} {run : Run} {lookup : Lookup} {pod : Option Pod} {status : RunStatus}
    (coherent : run.standing.Coherent run.name) (planned : (run.plan now lookup pod).status = some status) :
    run.isCompleted = false ∧ status.Coherent run.name ∧
      (status.exitCode = none → run.standing.exitCode = none) ∧
      (status.podName = none → run.standing.podName = none) ∧
      (isTrueFor status.conditions attachable = true →
        ∃ workspace, lookup = .found workspace ∧ workspace.queuePosition? run.name = some 0) := by
  have unfinished : run.isCompleted = false :=
    not_isCompleted_of_plan (Or.inl (by rw [planned]; exact Option.some_ne_none status))
  have underway := underway_of_open coherent unfinished
  obtain ⟨moved, verdict, written⟩ := plan_of_open unfinished now lookup pod
  have greets : status = greeted now run moved := by
    rw [planned] at written
    split at written
    · cases written
    · exact Option.some.inj written
  refine ⟨unfinished, ?_, fun _ => underway.uncoded, ?_, ?_⟩
  · rw [greets]
    exact coherent_greeted (verdict.coherent coherent underway)
  · intro unset
    cases recorded : run.standing.podName with
    | none => rfl
    | some name =>
        rw [greets, podName_greeted, verdict.keeps_podName coherent recorded] at unset
        cases unset
  · intro isOpen
    apply verdict.first_of_attachable
    rw [greets, isTrueFor, find?_greeted_of_ne now run moved clientReady_ne_attachable] at isOpen
    exact isOpen

/-! ### The pod is asked for once -/

/-- The pod of the run will not be asked for any more: its name is recorded, or the run is over. -/
def IsServed (run : Run) : Prop :=
  run.standing.podName.isSome = true ∨ run.isCompleted = true

/-- The pod is asked for only while its name is not recorded, and asking records it. -/
theorem Verdict.of_createPod {now : String} {run : Run} {lookup : Lookup} {pod : Option Pod}
    {moved : RunStatus} (verdict : Verdict now run lookup pod moved true) :
    run.standing.podName = none ∧ moved.podName = some run.name := by
  generalize asked : true = createPod at verdict
  cases verdict with
  | fails message cause => cases asked
  | ends found ended => cases asked
  | waits reason message found unsettled behind => cases asked
  | leads message found unsettled first admitted =>
      refine ⟨?_, rfl⟩
      rcases unsettled.kept with present | unrecorded
      · cases pod with
        | none => cases present
        | some _ => cases asked
      · exact unrecorded

/-- A sight that asks for the pod is the first to do so, and serves the run. -/
theorem isServed_of_createPod {run : Run} (sight : Sight) (asked : (run.planAt sight).createPod = true) :
    ¬ run.IsServed ∧ (run.after sight).IsServed := by
  have unfinished : (run.seen sight).isCompleted = false := not_isCompleted_of_plan (Or.inr asked)
  rw [isCompleted_seen] at unfinished
  obtain ⟨moved, verdict, stands⟩ := after_of_open unfinished sight
  rw [asked] at verdict
  obtain ⟨unrecorded, records⟩ := verdict.of_createPod
  refine ⟨?_, Or.inl ?_⟩
  · rintro (recorded | finished)
    · rw [standing_seen] at unrecorded
      rw [unrecorded] at recorded
      cases recorded
    · rw [unfinished] at finished
      cases finished
  · rw [stands, podName_greeted, records]
    rfl

/-- A run that is served stays so. -/
theorem isServed_after {run : Run} (coherent : run.standing.Coherent run.name) (served : run.IsServed)
    (sight : Sight) : (run.after sight).IsServed := by
  rcases served with recorded | finished
  · obtain ⟨name, found⟩ := Option.isSome_iff_exists.mp recorded
    apply Or.inl
    rw [podName_after coherent sight found]
    rfl
  · apply Or.inr
    rw [isCompleted_eq_standing, (after_of_isCompleted finished sight).2, ← isCompleted_eq_standing]
    exact finished

/-- The plans of a life ask for the pod once at most, and never if the run was served at its start. -/
theorem countP_createPod_planned {run : Run} (coherent : run.standing.Coherent run.name)
    (sights : List Sight) :
    (run.planned sights).countP Plan.createPod ≤ 1 ∧
      (run.IsServed → (run.planned sights).countP Plan.createPod = 0) := by
  induction sights generalizing run with
  | nil => exact ⟨Nat.zero_le 1, fun _ => rfl⟩
  | cons sight rest inductionHypothesis =>
      obtain ⟨atMost, noMore⟩ := inductionHypothesis (coherent_after coherent sight)
      simp only [planned, List.countP_cons]
      cases asked : (run.planAt sight).createPod with
      | true =>
          obtain ⟨unserved, served⟩ := isServed_of_createPod sight asked
          refine ⟨?_, fun already => absurd already unserved⟩
          rw [noMore served]
          exact Nat.le_refl 1
      | false =>
          refine ⟨by simpa using atMost, fun already => ?_⟩
          simpa using noMore (isServed_after coherent already sight)

end Turnstile.Run
