/-
Module: Turnstile.Workspace.Reconcile
Purpose: One reconciliation of a workspace: what it looks at, what it creates, and the status it writes.
Main exports: Workspace.reconcile
-/
import Turnstile.Reconcile.Write
import Turnstile.Workspace.Progress
import Turnstile.Workspace.Resources

/-!
First the prerequisites are looked up.  While one is missing, nothing is created, no run is listed, and the
status says so.  Otherwise the claim, the role and its binding are ensured, and only then is the queue moved
on with the labelled runs that are not over.  The status is written last, if it changes.
-/

namespace Turnstile.Workspace

/-- The prerequisite of this name if it does not exist. -/
def missing? (kind : Kind) (namespaceName : String) : Option String → Attempt (Option String)
  | none => return none
  | some name => do
    let found ← Attempt.find? (Program.ofKind kind) ⟨kind, namespaceName, name⟩
    return if found.isSome then none else some (kind.word ++ "/" ++ name)

/-- The prerequisites that do not exist. -/
def missingPrerequisites (workspace : Workspace) (namespaceName : String) : Attempt (List String) := do
  let account ← missing? .serviceAccount namespaceName workspace.spec.serviceAccountName
  let secret ← missing? .secret namespaceName workspace.spec.secretName
  return account.toList ++ secret.toList

/-- See to it that everything the workspace needs in its namespace exists. -/
def ensureResources (workspace : Workspace) (settings : Settings) (namespaceName : String) : Attempt Unit := do
  match workspace.controllerReference? with
  | none => Attempt.fail .missingObjectKey
  | some owner =>
    let role := roleName workspace.name
    Attempt.ensure ⟨.persistentVolumeClaim, namespaceName, workspace.claimName⟩ (workspace.claim settings owner)
    Attempt.ensure ⟨.role, namespaceName, role⟩ (workspace.role owner)
    Attempt.ensure ⟨.roleBinding, namespaceName, role⟩ (workspace.binding namespaceName owner)

/-- The names of the labelled runs that are not over, in list order. -/
def pendingRuns (workspace : Workspace) (namespaceName : String) : Attempt (List String) := do
  let runs ← Attempt.require (Program.itemsOf Run.ofJson?)
    (.list .run namespaceName (.labelled Run.workspaceLabel workspace.name))
  return (runs.filter fun run => !run.isCompleted).map Run.name

/-- What is seen around the workspace; what it needs is created on the way. -/
def observe (workspace : Workspace) (settings : Settings) (namespaceName : String) : Attempt Observation := do
  let missing ← workspace.missingPrerequisites namespaceName
  if missing.isEmpty then
    workspace.ensureResources settings namespaceName
    let pending ← workspace.pendingRuns namespaceName
    return { missing, pending }
  else return { missing }

/-- Reconcile a workspace as it was seen, at time `now`. -/
def reconcile (now : String) (settings : Settings) (namespaceName : String) (workspace : Workspace) :
    Attempt Unit := do
  let observation ← workspace.observe settings namespaceName
  match workspace.nextStatus? now observation with
  | none => return ()
  | some status =>
    Attempt.writeStatus ⟨.workspace, namespaceName, workspace.name⟩ workspace.metadata status.toJson

end Turnstile.Workspace
