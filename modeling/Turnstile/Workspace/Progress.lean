/-
Module: Turnstile.Workspace.Progress
Purpose: The next status of a workspace, from what was observed around it.
Main exports: Observation, Workspace.advanced, Workspace.nextStatus?
-/
import Turnstile.Workspace
import Turnstile.Workspace.Queue

/-!
A workspace is healthy and ready when nothing it refers to is missing, and neither otherwise.  Only a
healthy workspace moves its queue on; while prerequisites are missing the queue stays as it is.  A status
that would not differ from the present one is not written.
-/

namespace Turnstile

/-- What was seen around a workspace: the prerequisites that do not exist, as kind and name, and the names
of the labelled runs that are not over, in list order. -/
structure Observation where
  missing : List String := []
  pending : List String := []
deriving Repr, DecidableEq, Inhabited

namespace Workspace

/-- What is said of missing prerequisites. -/
def missingMessage (missing : List String) : String :=
  "Missing: " ++ ", ".intercalate missing

/-- The status that follows `current` once the observation is made at time `now`. -/
def advanced (now : String) (current : WorkspaceStatus) (observation : Observation) : WorkspaceStatus :=
  if observation.missing.isEmpty then
    { queue := Queue.recompute current.queue observation.pending
      conditions :=
        Condition.set now
          (.observed ready true "ResourcesEnsured" "Cache volume and RBAC resources ensured")
          (Condition.set now
            (.observed healthy true "AllResourcesFound" "All referenced resources found")
            current.conditions) }
  else
    let message := missingMessage observation.missing
    { queue := current.queue
      conditions :=
        Condition.set now (.observed ready false "MissingResource" message)
          (Condition.set now (.observed healthy false "MissingResource" message) current.conditions) }

/-- The status to write, if it differs from the one the workspace has. -/
def nextStatus? (now : String) (workspace : Workspace) (observation : Observation) :
    Option WorkspaceStatus :=
  let current := workspace.status.getD {}
  let next := advanced now current observation
  if next = current then none else some next

end Workspace

end Turnstile
