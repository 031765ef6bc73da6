/-
Module: Turnstile.Run.Plan
Purpose: What a reconciliation of a run should write and create, from what was observed.
Main exports: Lookup, Plan, Run.plan, Run.complete, Run.setAttachable
-/
import Turnstile.Pod
import Turnstile.Workspace

/-!
A run that is over is never touched again.  A run without a workspace completes at once.  Otherwise what
happened to its pod decides first, then the health of the workspace, then the place in the queue.  Only
the head of the queue asks for a pod, and only once: its pod name is recorded together with the request,
and a run whose recorded pod is gone completes instead of executing a second time.  Completion withdraws
attachability, so that a finished run never shares the head with its successor.
-/

namespace Turnstile

/-- The outcome of looking up the workspace a run is labelled for. -/
inductive Lookup where
  | unspecified
  | notFound (name : String)
  | found (workspace : Workspace)

/-- What a reconciliation of a run should do: a status to write, if it differs from the present one, and
whether to create the pod. -/
structure Plan where
  status : Option RunStatus := none
  createPod : Bool := false
deriving DecidableEq, Inhabited

namespace Run

/-- Record whether a client may connect. -/
def setAttachable (now : String) (holds : Bool) (reason : Reason) (message : String) (status : RunStatus) :
    RunStatus :=
  { status with
    conditions := Condition.set now (.observed attachable holds reason.word message) status.conditions }

/-- Record that the run is over. -/
def complete (now : String) (reason : Reason) (message : String) (status : RunStatus) : RunStatus :=
  let withdrawn := setAttachable now false .runCompleted ("Run completed: " ++ reason.word) status
  { withdrawn with
    conditions := Condition.set now (.observed completed true reason.word message) withdrawn.conditions }

/-- Record the end of the runner. -/
def finish (now : String) (code : Int32) (status : RunStatus) : RunStatus :=
  let reason := if code = 0 then Reason.podSucceeded else Reason.podFailed
  { complete now reason ("Runner exited with code " ++ toString code.toInt) status with exitCode := some code }

/-- Record that a client has attached. -/
def setClientReady (now : String) (status : RunStatus) : RunStatus :=
  { status with
    conditions :=
      Condition.set now
        (.observed clientReady true Reason.clientAttached.word "Client has attached") status.conditions }

/-- The next status of a run at its place in the queue, and whether its pod is to be created. -/
def planQueued (now : String) (run : Run) (workspace : Workspace) (pod : Option Pod) (current : RunStatus) :
    RunStatus × Bool :=
  match workspace.queuePosition? run.name with
  | none => (setAttachable now false .unscheduled "Not in workspace queue" current, false)
  | some 0 =>
    if workspace.isPrivileged run.spec.command.name && !workspace.isApproved run.name then
      (complete now .unapproved
        ("Command " ++ run.spec.command.name ++ " is privileged and run " ++ run.name ++
          " has not been approved") current, false)
    else
      ({ setAttachable now true .frontOfQueue "At front of workspace queue" current with
          podName := some run.name }, pod.isNone)
  | some position =>
    (setAttachable now false .queued ("In workspace queue position " ++ toString position) current, false)

/-- The next status of a run whose workspace was found, and whether its pod is to be created. -/
def planFound (now : String) (run : Run) (workspace : Workspace) (pod : Option Pod) (current : RunStatus) :
    RunStatus × Bool :=
  match pod.bind Pod.exitCode? with
  | some code => (finish now code current, false)
  | none =>
    if pod.isNone && current.podName.isSome then
      (complete now .podDeleted
        ("Pod " ++ run.name ++ " was deleted before the runner exited") current, false)
    else if Condition.isFalseFor workspace.conditions Workspace.healthy && !run.isAttachable then
      let detail := ((Condition.find? workspace.conditions Workspace.healthy).map Condition.messageText).getD ""
      (complete now .workspaceUnhealthy
        ("Workspace " ++ workspace.name ++ " is unhealthy: " ++ detail) current, false)
    else planQueued now run workspace pod current

/-- The next status of a run that is not over, and whether its pod is to be created. -/
def planPending (now : String) (run : Run) (lookup : Lookup) (pod : Option Pod) (current : RunStatus) :
    RunStatus × Bool :=
  match lookup with
  | .unspecified =>
    (complete now .workspaceUnspecified ("Run is missing the " ++ workspaceLabel ++ " label") current, false)
  | .notFound name =>
    (complete now .workspaceNotFound ("Workspace " ++ name ++ " not found") current, false)
  | .found workspace => planFound now run workspace pod current

/-- What to write and create for a run, observed at time `now`. -/
def plan (now : String) (run : Run) (lookup : Lookup) (pod : Option Pod) : Plan :=
  if run.isCompleted then {}
  else
    let current := run.status.getD {}
    let (moved, createPod) := planPending now run lookup pod current
    let next := if run.hasClient then setClientReady now moved else moved
    { status := if next = current then none else some next, createPod }

end Run

end Turnstile
