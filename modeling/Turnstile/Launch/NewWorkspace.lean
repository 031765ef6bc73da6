/-
Module: Turnstile.Launch.NewWorkspace
Purpose: What a user asks for who wants a new workspace, and the workspace that is created for it.
Main exports: NewWorkspace, NewWorkspace.build
-/
import Turnstile.Workspace

/-!
What is not asked for takes the defaults of a workspace.  An empty storage class is kept: it says that no
volume is to be provisioned by itself.
-/

namespace Turnstile

/-- A request for a new workspace; times are milliseconds. -/
structure NewWorkspace where
  name : String
  namespaceName : String
  cacheSize : Option String := none
  storageClass : Option String := none
  serviceAccount : Option String := none
  secret : Option String := none
  privilegedCommands : List String := []
  repository : Option String := none
  branch : Option String := none
  workingDir : Option String := none
  reconcileTimeout : Nat := 10000
  readyTimeout : Nat := 60000
  cleanup : Bool := true
deriving Repr, DecidableEq, Inhabited

/-- The workspace to create. -/
def NewWorkspace.build (request : NewWorkspace) : Workspace where
  metadata := { name := some request.name, namespaceName := some request.namespaceName }
  spec :=
    { cache :=
        { size := request.cacheSize.getD ({} : CacheSpec).size
          storageClass := request.storageClass }
      serviceAccountName := request.serviceAccount
      secretName := request.secret
      privilegedCommands := request.privilegedCommands
      vcs := { repository := request.repository, branch := request.branch, workingDir := request.workingDir } }
  status := none

end Turnstile
