/-
Module: Turnstile.Proofs.Run.Ruling
Purpose: What a plan decides apart from the time, and what a second plan decides once the first is carried out.
Main exports: Run.Ruling, Run.ruling, Run.plan_eq_ruling, Run.timeless_plan, Run.plan_of_created,
  Run.Poised, Run.Tempered, Run.poised_reported, Run.isSome_of_plan, Run.plan_reported
-/
import Turnstile.Proofs.Cluster.Resource
import Turnstile.Proofs.Condition.Timeless
import Turnstile.Proofs.Run.Verdict

/-!
A plan records observations.  Which ones does not depend on the time, nor does it whether the status changes at
all; so plans that are made at different times for the same run differ in the times only.

A plan that was carried out is not made again.  If the pod was created, the same status is planned and the pod
is left alone; if the status was written, nothing is planned.  The latter takes a run that may not be attached
to unless it is at the head of its queue, or its workspace is not known to be unhealthy.
-/

namespace Turnstile

/-- The status without the times of its conditions. -/
def RunStatus.timeless (status : RunStatus) : RunStatus :=
  { status with conditions := status.conditions.map Condition.timeless }

namespace Run

/-- What is decided about a run that is not over. -/
inductive Ruling where
  | ends (reason : Reason) (message : String) (code : Option Int32)
  | waiting (reason : Reason) (message : String)
  | leading

/-- What is decided at the place of the run in the queue. -/
def place (run : Run) (workspace : Workspace) : Ruling :=
  match workspace.queuePosition? run.name with
  | none => .waiting .unscheduled "Not in workspace queue"
  | some 0 =>
    if workspace.isPrivileged run.spec.command.name && !workspace.isApproved run.name then
      .ends .unapproved
        ("Command " ++ run.spec.command.name ++ " is privileged and run " ++ run.name ++
          " has not been approved") none
    else .leading
  | some position => .waiting .queued ("In workspace queue position " ++ toString position)

/-- What is decided about the run. -/
def ruling (run : Run) (pod : Option Pod) : Lookup → Ruling
  | .unspecified =>
    .ends .workspaceUnspecified ("Run is missing the " ++ workspaceLabel ++ " label") none
  | .notFound name => .ends .workspaceNotFound ("Workspace " ++ name ++ " not found") none
  | .found workspace =>
    match pod.bind Pod.exitCode? with
    | some code =>
      .ends (if code = 0 then .podSucceeded else .podFailed)
        ("Runner exited with code " ++ toString code.toInt) (some code)
    | none =>
      if pod.isNone && run.standing.podName.isSome then
        .ends .podDeleted ("Pod " ++ run.name ++ " was deleted before the runner exited") none
      else if Condition.isFalseFor workspace.conditions Workspace.healthy && !run.isAttachable then
        .ends .workspaceUnhealthy
          ("Workspace " ++ workspace.name ++ " is unhealthy: " ++
            ((Condition.find? workspace.conditions Workspace.healthy).map Condition.messageText).getD "") none
      else run.place workspace

namespace Ruling

/-- What is recorded for a ruling. -/
def observations : Ruling → List Condition
  | .ends reason message _ =>
    [.observed attachable false Reason.runCompleted.word ("Run completed: " ++ reason.word),
     .observed completed true reason.word message]
  | .waiting reason message => [.observed attachable false reason.word message]
  | .leading => [.observed attachable true Reason.frontOfQueue.word "At front of workspace queue"]

/-- The exit code that a status has after a ruling. -/
def exitCode? (ruling : Ruling) (present : Option Int32) : Option Int32 :=
  match ruling with
  | .ends _ _ (some code) => some code
  | _ => present

/-- The pod name that a status has after a ruling. -/
def podName? (ruling : Ruling) (name : String) (present : Option String) : Option String :=
  match ruling with
  | .leading => some name
  | _ => present

/-- The run is not over by the ruling. -/
def GoesOn (ruling : Ruling) : Prop :=
  ∀ reason message code, ruling ≠ .ends reason message code

/-- Whether a ruling asks for a pod. -/
def createPod (ruling : Ruling) (pod : Option Pod) : Bool :=
  match ruling with
  | .leading => pod.isNone
  | _ => false

/-- The status that a ruling leads to, with more that is recorded at the same time. -/
def applied (ruling : Ruling) (now name : String) (more : List Condition) (current : RunStatus) : RunStatus where
  conditions := Condition.record now (ruling.observations ++ more) current.conditions
  exitCode := ruling.exitCode? current.exitCode
  podName := ruling.podName? name current.podName

end Ruling

/-- What is recorded for the mark of a client. -/
def greeting (run : Run) : List Condition :=
  if run.hasClient then
    [.observed clientReady true Reason.clientAttached.word "Client has attached"]
  else []

/-- The status that a ruling leads to, with the mark of the client. -/
def ruled (now : String) (run : Run) (ruling : Ruling) : RunStatus :=
  ruling.applied now run.name run.greeting run.standing

/-- No type is recorded twice. -/
theorem nodup_observations (run : Run) (ruling : Ruling) :
    ((ruling.observations ++ run.greeting).map Condition.type).Nodup := by
  unfold greeting
  cases ruling <;> split <;> simp [Ruling.observations, attachable, completed, clientReady]

/-! ### Plans as rulings -/

theorem planQueued_eq_place (now : String) (run : Run) (workspace : Workspace) (pod : Option Pod)
    (current : RunStatus) :
    planQueued now run workspace pod current =
      ((run.place workspace).applied now run.name [] current, (run.place workspace).createPod pod) := by
  unfold planQueued place
  rcases workspace.queuePosition? run.name with _ | _ | later
  · rfl
  · simp only
    split <;> rfl
  · rfl

theorem planPending_eq_ruling (now : String) (run : Run) (lookup : Lookup) (pod : Option Pod) :
    planPending now run lookup pod run.standing =
      ((run.ruling pod lookup).applied now run.name [] run.standing, (run.ruling pod lookup).createPod pod) := by
  cases lookup with
  | unspecified => rfl
  | notFound name => rfl
  | found workspace =>
      simp only [planPending, planFound, ruling]
      rcases pod.bind Pod.exitCode? with _ | code
      · simp only
        split
        · rfl
        · split
          · rfl
          · exact planQueued_eq_place now run workspace pod run.standing
      · rfl

/-- A plan for a run that is not over carries out the ruling. -/
theorem plan_eq_ruling {run : Run} (unfinished : run.isCompleted = false) (now : String) (lookup : Lookup)
    (pod : Option Pod) :
    run.plan now lookup pod =
      { status :=
          if ruled now run (run.ruling pod lookup) = run.standing then none
          else some (ruled now run (run.ruling pod lookup))
        createPod := (run.ruling pod lookup).createPod pod } := by
  have pending := planPending_eq_ruling now run lookup pod
  have next : (if run.hasClient then setClientReady now (planPending now run lookup pod run.standing).1
      else (planPending now run lookup pod run.standing).1) = ruled now run (run.ruling pod lookup) := by
    rw [pending, ruled, greeting]
    split
    · simp [setClientReady, Ruling.applied, Condition.record]
    · rfl
  simp only [plan, unfinished, Bool.false_eq_true, if_false]
  rw [← standing, next, pending]

/-- The status that is planned is the one that the ruling leads to. -/
theorem status_eq_ruled {run : Run} {now : String} {lookup : Lookup} {pod : Option Pod} {status : RunStatus}
    (planned : (run.plan now lookup pod).status = some status) :
    run.isCompleted = false ∧ status = ruled now run (run.ruling pod lookup) := by
  have unfinished : run.isCompleted = false :=
    not_isCompleted_of_plan (Or.inl (by rw [planned]; exact Option.some_ne_none status))
  refine ⟨unfinished, ?_⟩
  rw [plan_eq_ruling unfinished] at planned
  simp only at planned
  split at planned
  · cases planned
  · exact (Option.some.inj planned).symm

/-! ### Plans at different times -/

/-- Whether a ruling changes the status does not depend on the time. -/
theorem ruled_eq_standing_iff (now later : String) (run : Run) (ruling : Ruling) :
    ruled now run ruling = run.standing ↔ ruled later run ruling = run.standing := by
  have fields : ∀ time, ruled time run ruling = run.standing ↔
      (∀ new ∈ ruling.observations ++ run.greeting, Condition.changes new run.standing.conditions = false) ∧
        ruling.exitCode? run.standing.exitCode = run.standing.exitCode ∧
        ruling.podName? run.name run.standing.podName = run.standing.podName := by
    intro time
    rw [← Condition.record_eq_self_iff time (run.nodup_observations ruling), ruled, Ruling.applied]
    cases run.standing
    simp
  rw [fields now, fields later]

/-- Plans that are made at different times ask for the same and differ in their times only. -/
theorem timeless_plan (now later : String) (run : Run) (lookup : Lookup) (pod : Option Pod) :
    (run.plan now lookup pod).createPod = (run.plan later lookup pod).createPod ∧
      (run.plan now lookup pod).status.map RunStatus.timeless =
        (run.plan later lookup pod).status.map RunStatus.timeless := by
  cases finished : run.isCompleted with
  | true =>
      rw [plan_of_isCompleted finished, plan_of_isCompleted finished]
      exact ⟨rfl, rfl⟩
  | false =>
      rw [plan_eq_ruling finished, plan_eq_ruling finished]
      refine ⟨rfl, ?_⟩
      by_cases same : ruled now run (run.ruling pod lookup) = run.standing
      · simp only [if_pos same, if_pos ((ruled_eq_standing_iff now later run _).mp same)]
      · have changed := fun equal => same ((ruled_eq_standing_iff now later run _).mpr equal)
        simp only [if_neg same, if_neg changed, Option.map_some]
        simp only [ruled, Ruling.applied, RunStatus.timeless]
        rw [Condition.map_timeless_record rfl now later]

/-! ### Plans that were carried out -/

/-- The place in the queue decides an unsettled run. -/
theorem ruling_of_unsettled {run : Run} {workspace : Workspace} {pod : Option Pod}
    (unsettled : run.Unsettled workspace pod) : run.ruling pod (.found workspace) = run.place workspace := by
  have present : (pod.isNone && run.standing.podName.isSome) = false := by
    rcases unsettled.kept with there | unset
    · cases pod with
      | none => cases there
      | some _ => rfl
    · simp [unset]
  have welcome : (Condition.isFalseFor workspace.conditions Workspace.healthy && !run.isAttachable) = false := by
    rcases unsettled.welcome with healthy | attached
    · simp [healthy]
    · simp [attached]
  simp only [ruling, unsettled.running, present, welcome, Bool.false_eq_true, if_false]

/-- A run that is not over was decided by its place in the queue. -/
theorem unsettled_of_ruling {run : Run} {lookup : Lookup} {pod : Option Pod}
    (goesOn : (run.ruling pod lookup).GoesOn) :
    ∃ workspace, lookup = .found workspace ∧ run.Unsettled workspace pod ∧
      run.ruling pod lookup = run.place workspace := by
  cases lookup with
  | unspecified => exact absurd rfl (goesOn _ _ _)
  | notFound name => exact absurd rfl (goesOn _ _ _)
  | found workspace =>
      suffices unsettled : run.Unsettled workspace pod from
        ⟨workspace, rfl, unsettled, ruling_of_unsettled unsettled⟩
      cases running : pod.bind Pod.exitCode? with
      | some code =>
          simp only [ruling, running] at goesOn
          exact absurd rfl (goesOn _ _ _)
      | none =>
          cases lost : pod.isNone && run.standing.podName.isSome with
          | true =>
              simp only [ruling, running, lost, if_true] at goesOn
              exact absurd rfl (goesOn _ _ _)
          | false =>
              cases sick : Condition.isFalseFor workspace.conditions Workspace.healthy && !run.isAttachable with
              | true =>
                  simp only [ruling, running, lost, sick, Bool.false_eq_true, if_false, if_true] at goesOn
                  exact absurd rfl (goesOn _ _ _)
              | false =>
                  refine ⟨running, ?_, ?_⟩
                  · cases pod with
                    | none => exact Or.inr (by simpa using lost)
                    | some _ => exact Or.inl rfl
                  · cases attached : run.isAttachable with
                    | true => exact Or.inr rfl
                    | false => exact Or.inl (by simpa [attached] using sick)

/-- A run that leads was decided by its place in the queue. -/
theorem unsettled_of_leading {run : Run} {lookup : Lookup} {pod : Option Pod}
    (leads : run.ruling pod lookup = .leading) :
    ∃ workspace, lookup = .found workspace ∧ run.Unsettled workspace pod ∧ run.place workspace = .leading := by
  have goesOn : (run.ruling pod lookup).GoesOn := by
    rw [leads]
    exact fun _ _ _ differ => Ruling.noConfusion differ
  obtain ⟨workspace, found, unsettled, placed⟩ := unsettled_of_ruling goesOn
  exact ⟨workspace, found, unsettled, placed.symm.trans leads⟩

/-- A leading run is at the head of its queue. -/
theorem first_of_leading {run : Run} {workspace : Workspace} (leads : run.place workspace = .leading) :
    workspace.queuePosition? run.name = some 0 := by
  unfold place at leads
  rcases position : workspace.queuePosition? run.name with _ | _ | later
  · rw [position] at leads
    cases leads
  · rfl
  · rw [position] at leads
    cases leads

/-- A run that waits is not at the head of its queue. -/
theorem behind_of_waiting {run : Run} {workspace : Workspace} {reason : Reason} {message : String}
    (waits : run.place workspace = .waiting reason message) : workspace.queuePosition? run.name ≠ some 0 := by
  intro first
  simp only [place, first] at waits
  split at waits <;> cases waits

/-- What is recorded for a ruling holds exactly if it was observed to hold. -/
theorem isTrueFor_ruled (now : String) (run : Run) (ruling : Ruling) {new : Condition}
    (member : new ∈ ruling.observations) :
    Condition.isTrueFor (ruled now run ruling).conditions new.type = new.isTrue :=
  Condition.isTrueFor_record now (run.nodup_observations ruling) _ (List.mem_append_left _ member)

/-- A ruling lets a client connect exactly if the run leads. -/
theorem attachable_ruled_iff (now : String) (run : Run) (ruling : Ruling) :
    Condition.isTrueFor (ruled now run ruling).conditions attachable = true ↔ ruling = .leading := by
  cases ruling with
  | leading =>
      have holds := isTrueFor_ruled now run .leading List.mem_cons_self
      simpa using holds
  | ends reason message code =>
      have fails := isTrueFor_ruled now run (.ends reason message code) List.mem_cons_self
      rw [Condition.type_observed, Condition.isTrue_observed] at fails
      simp [fails]
  | waiting reason message =>
      have fails := isTrueFor_ruled now run (.waiting reason message) List.mem_cons_self
      rw [Condition.type_observed, Condition.isTrue_observed] at fails
      simp [fails]

/-- A ruling that the run is over completes it. -/
theorem completed_ruled (now : String) (run : Run) (reason : Reason) (message : String) (code : Option Int32) :
    Condition.isTrueFor (ruled now run (.ends reason message code)).conditions completed = true := by
  have member : Condition.observed completed true reason.word message ∈
      (Ruling.ends reason message code).observations := by simp [Ruling.observations]
  exact (isTrueFor_ruled now run _ member).trans (Condition.isTrue_observed _ _ _ _)

/-- A status that lets a client connect, or that names another pod, is planned for a leading run only. -/
theorem leading_of_ruled {now : String} {run : Run} {ruling : Ruling}
    (grants : Condition.isTrueFor (ruled now run ruling).conditions attachable = true ∨
      (ruled now run ruling).podName ≠ run.standing.podName) : ruling = .leading := by
  rcases grants with attached | renamed
  · exact (attachable_ruled_iff now run ruling).mp attached
  · cases ruling with
    | leading => rfl
    | _ => exact absurd rfl renamed

/-- What is planned once the pod was created is the same status, and no pod any more. -/
theorem plan_of_created {run : Run} {now : String} {lookup : Lookup}
    (asked : (run.plan now lookup none).createPod = true) {pod : Pod} (young : pod.exitCode? = none)
    (later : String) :
    run.plan later lookup (some pod) = { run.plan later lookup none with createPod := false } := by
  have unfinished := not_isCompleted_of_plan (Or.inr asked)
  rw [plan_eq_ruling unfinished] at asked
  have leads : run.ruling none lookup = .leading := by
    cases ruling : run.ruling none lookup with
    | leading => rfl
    | _ =>
        rw [ruling] at asked
        cases asked
  obtain ⟨workspace, rfl, unsettled, placed⟩ := unsettled_of_leading leads
  have same : run.ruling (some pod) (.found workspace) = run.ruling none (.found workspace) := by
    rw [leads, ← placed]
    exact ruling_of_unsettled ⟨young, Or.inl rfl, unsettled.welcome⟩
  rw [plan_eq_ruling unfinished, plan_eq_ruling unfinished, same, leads]
  rfl

/-- The run may not be attached to, unless it is at the head of the queue of the workspace that was found. -/
def Poised (run : Run) (lookup : Lookup) : Prop :=
  run.isAttachable = true → ∃ workspace, lookup = .found workspace ∧ workspace.queuePosition? run.name = some 0

/-- The run may not be attached to, or it is at the head of the queue of the workspace that was found, or that
workspace is not known to be unhealthy. -/
def Tempered (run : Run) : Lookup → Prop
  | .found workspace =>
    run.isAttachable = false ∨ workspace.queuePosition? run.name = some 0 ∨
      Condition.isFalseFor workspace.conditions Workspace.healthy = false
  | _ => True

theorem Poised.tempered {run : Run} {lookup : Lookup} (poised : run.Poised lookup) : run.Tempered lookup := by
  cases lookup with
  | found workspace =>
      cases attached : run.isAttachable with
      | false => exact Or.inl attached
      | true =>
          obtain ⟨_, same, first⟩ := poised attached
          cases same
          exact Or.inr (Or.inl first)
  | _ => trivial

/-- A run whose planned status was written is poised, whether it was before or not. -/
theorem poised_reported {run : Run} {now : String} {lookup : Lookup} {pod : Option Pod} {status : RunStatus}
    (planned : (run.plan now lookup pod).status = some status) (space version : String) :
    (run.reported space version status).Poised lookup := by
  obtain ⟨_, rfl⟩ := status_eq_ruled planned
  intro attached
  have leads := (attachable_ruled_iff now run (run.ruling pod lookup)).mp attached
  obtain ⟨workspace, found, _, placed⟩ := unsettled_of_leading leads
  exact ⟨workspace, found, first_of_leading placed⟩

/-- A status that lets a client connect, or that names another pod, is planned where a pod is seen or asked for. -/
theorem isSome_of_plan {run : Run} {now : String} {lookup : Lookup} {pod : Option Pod} {status : RunStatus}
    (planned : (run.plan now lookup pod).status = some status)
    (unasked : (run.plan now lookup pod).createPod = false)
    (grants : Condition.isTrueFor status.conditions attachable = true ∨ status.podName ≠ run.standing.podName) :
    pod.isSome = true := by
  obtain ⟨unfinished, rfl⟩ := status_eq_ruled planned
  rw [plan_eq_ruling unfinished] at unasked
  have leads := leading_of_ruled grants
  rw [leads] at unasked
  cases pod with
  | none => cases unasked
  | some _ => rfl

/-- A run whose planned status was written is decided as before, unless it is over. -/
theorem ruling_reported {run : Run} (now : String) {lookup : Lookup} {pod : Option Pod}
    (goesOn : (run.ruling pod lookup).GoesOn) (unasked : (run.ruling pod lookup).createPod pod = false)
    (tempered : run.Tempered lookup) (space version : String) :
    (run.reported space version (ruled now run (run.ruling pod lookup))).ruling pod lookup =
      run.ruling pod lookup := by
  obtain ⟨workspace, rfl, unsettled, placed⟩ := unsettled_of_ruling goesOn
  generalize ruled' : ruled now run (run.ruling pod (.found workspace)) = status
  have settled : (run.reported space version status).Unsettled workspace pod := by
    rw [placed] at goesOn unasked ruled'
    subst ruled'
    cases decided : run.place workspace with
    | ends reason message code => exact absurd decided (goesOn reason message code)
    | leading =>
        rw [decided] at unasked
        refine ⟨unsettled.running, Or.inl ?_, Or.inr ?_⟩
        · cases pod with
          | none => cases unasked
          | some _ => rfl
        · exact (attachable_ruled_iff now run .leading).mpr rfl
    | waiting reason message =>
        refine ⟨unsettled.running, unsettled.kept, Or.inl ?_⟩
        -- A run that may be attached to and waits is tempered only if the workspace is not known to be unhealthy.
        rcases tempered with unattached | first | healthy
        · exact unsettled.welcome.resolve_right (by simp [unattached])
        · exact absurd first (behind_of_waiting decided)
        · exact healthy
  rw [ruling_of_unsettled settled, placed]
  rfl

/-- A ruling that was carried out leads to the status that is there. -/
theorem ruled_reported (run : Run) (ruling : Ruling) (now later space version : String) :
    ruled later (run.reported space version (ruled now run ruling)) ruling =
      (run.reported space version (ruled now run ruling)).standing := by
  have recorded :=
    Condition.record_record (run.nodup_observations ruling) now later run.standing.conditions
  have coded : ruling.exitCode? (ruling.exitCode? run.standing.exitCode) =
      ruling.exitCode? run.standing.exitCode := by
    rcases ruling with ⟨_, _, _ | code⟩ | _ | _ <;> rfl
  have housed : ruling.podName? run.name (ruling.podName? run.name run.standing.podName) =
      ruling.podName? run.name run.standing.podName := by
    cases ruling <;> rfl
  exact congr (congr (congrArg RunStatus.mk recorded) coded) housed

/-- Nothing is planned once the status was written. -/
theorem plan_reported {run : Run} {now : String} {lookup : Lookup} {pod : Option Pod} {status : RunStatus}
    (planned : (run.plan now lookup pod).status = some status)
    (unasked : (run.plan now lookup pod).createPod = false) (tempered : run.Tempered lookup)
    (space version later : String) :
    (run.reported space version status).plan later lookup pod = {} := by
  obtain ⟨unfinished, rfl⟩ := status_eq_ruled planned
  rw [plan_eq_ruling unfinished] at unasked
  cases finished : (run.reported space version (ruled now run (run.ruling pod lookup))).isCompleted with
  | true => exact plan_of_isCompleted finished later lookup pod
  | false =>
      have goesOn : (run.ruling pod lookup).GoesOn := by
        intro reason message code ended
        have finishes := completed_ruled now run reason message code
        rw [ended] at finished
        exact Bool.noConfusion (finishes.symm.trans finished)
      have again := ruling_reported now goesOn unasked tempered space version
      rw [plan_eq_ruling finished, again, if_pos (ruled_reported run _ now later space version)]
      exact congrArg (Plan.mk none) unasked

end Run

end Turnstile
