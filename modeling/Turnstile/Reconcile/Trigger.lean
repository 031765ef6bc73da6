/-
Module: Turnstile.Reconcile.Trigger
Purpose: Which runs and workspaces a change in the cluster calls for reconciliation.
Main exports: Subject, Subject.calledBy, Subject.existing
-/
import Turnstile.Cluster
import Turnstile.Run
import Turnstile.Workspace

/-!
Whatever a reconciliation looks at calls it again when it changes.  A run looks at itself, at the pod it owns
and at the workspace it is labelled for; a workspace looks at itself, at the claim it owns, at the account
and the secret that it names, and at the runs that are labelled for it.
-/

namespace Turnstile

/-- What is reconciled. -/
inductive Subject where
  | run (name : String)
  | workspace (name : String)
deriving Repr, DecidableEq

namespace Subject

/-- The key of a subject in a namespace. -/
def key (space : String) : Subject → Key
  | .run name => ⟨.run, space, name⟩
  | .workspace name => ⟨.workspace, space, name⟩

/-- The subject is a run. -/
def isRun : Subject → Bool
  | .run _ => true
  | .workspace _ => false

/-- The names of the owners of an object that are of a kind. -/
def owners (kind : String) (object : Json) : List String :=
  let references := ((Metadata.ofJson? (Cluster.metadataOf object)).bind Metadata.ownerReferences).getD []
  (references.filter fun reference => reference.apiVersion == apiVersion && reference.kind == kind).map
    OwnerReference.name

/-- The runs that are labelled for a workspace. -/
def labelledFor (cluster : Cluster) (space workspace : String) : List Subject :=
  let runs := (cluster.listed .run space .all).filterMap fun entry => Run.ofJson? entry.2
  (runs.filter fun run => run.workspaceName? == some workspace).map fun run => .run run.name

/-- The workspaces whose wishes are of a sort. -/
def wishing (cluster : Cluster) (space : String) (wish : WorkspaceSpec → Bool) : List Subject :=
  let workspaces := (cluster.listed .workspace space .all).filterMap fun entry => Workspace.ofJson? entry.2
  (workspaces.filter fun workspace => wish workspace.spec).map fun workspace => .workspace workspace.name

/-- The subjects that a change of this object calls. -/
def calledBy (cluster : Cluster) (key : Key) (object : Json) : List Subject :=
  match key.kind with
  | .run =>
    .run key.name :: ((Run.ofJson? object).bind Run.workspaceName?).toList.map .workspace
  | .workspace => .workspace key.name :: labelledFor cluster key.namespaceName key.name
  | .pod => (owners Run.kind object).map .run
  | .persistentVolumeClaim => (owners Workspace.kind object).map .workspace
  | .serviceAccount =>
    wishing cluster key.namespaceName fun spec => spec.serviceAccountName == some key.name
  | .secret => wishing cluster key.namespaceName fun spec => spec.secretName == some key.name
  | _ => []

/-- All subjects of a namespace, runs first. -/
def existing (cluster : Cluster) (space : String) : List Subject :=
  ((cluster.listed .run space .all).map fun entry => .run entry.1.name) ++
    (cluster.listed .workspace space .all).map fun entry => .workspace entry.1.name

end Subject

end Turnstile
