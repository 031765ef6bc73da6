/-
Module: Turnstile.Workspace
Purpose: Workspaces, that is named contexts with a queue of runs, with their wire form.
Main exports: Workspace, WorkspaceSpec, WorkspaceStatus, Workspace.queuePosition?, Workspace.isApproved
-/
import Turnstile.Condition
import Turnstile.Metadata

/-!
The queue of a workspace lists the names of its pending runs; only the run at the head may execute.  A
workspace may reserve commands: a run of such a command needs an annotation of the workspace that approves
it by name.
-/

namespace Turnstile

/-- The volume that the runs of a workspace share. -/
structure CacheSpec where
  size : String := "1Gi"
  storageClass : Option String := none
deriving Repr, DecidableEq, Inhabited

/-- Where the configuration of a workspace is kept under version control. -/
structure VcsSpec where
  repository : Option String := none
  branch : Option String := none
  workingDir : Option String := none
deriving Repr, DecidableEq, Inhabited

/-- What a workspace asks for. -/
structure WorkspaceSpec where
  cache : CacheSpec := {}
  serviceAccountName : Option String := none
  secretName : Option String := none
  privilegedCommands : List String := []
  vcs : VcsSpec := {}
deriving Repr, DecidableEq, Inhabited

/-- What is known of a workspace. -/
structure WorkspaceStatus where
  queue : List String := []
  conditions : List Condition := []
deriving Repr, DecidableEq, Inhabited

/-- A workspace. -/
structure Workspace where
  metadata : Metadata
  spec : WorkspaceSpec
  status : Option WorkspaceStatus
deriving Inhabited

namespace Workspace

/-- The kind of workspaces. -/
def kind : String := "Workspace"

/-- The condition of a workspace whose prerequisites exist. -/
def healthy : String := "Healthy"

/-- The condition of a workspace that runs may use. -/
def ready : String := "Ready"

/-- What the annotation that approves a run starts with. -/
def approvalStem : String := "approvals.runq.dev/"

/-- The name of the workspace. -/
def name (workspace : Workspace) : String :=
  workspace.metadata.displayName

/-- The queue, empty while the workspace has no status. -/
def queue (workspace : Workspace) : List String :=
  (workspace.status.map WorkspaceStatus.queue).getD []

/-- The conditions, none while the workspace has no status. -/
def conditions (workspace : Workspace) : List Condition :=
  (workspace.status.map WorkspaceStatus.conditions).getD []

/-- The place of a run in the queue, the head being place zero. -/
def queuePosition? (workspace : Workspace) (run : String) : Option Nat :=
  workspace.queue.findIdx? fun name => name == run

/-- The workspace reserves the command. -/
def isPrivileged (workspace : Workspace) (command : String) : Bool :=
  workspace.spec.privilegedCommands.contains command

/-- The workspace carries the annotation that approves the run. -/
def isApproved (workspace : Workspace) (run : String) : Bool :=
  (workspace.metadata.annotation? (approvalStem ++ run)).isSome

/-- The claim of the cache volume goes by the name of the workspace. -/
def claimName (workspace : Workspace) : String :=
  workspace.name

end Workspace

namespace CacheSpec

/-- The wire form. -/
def toJson (cache : CacheSpec) : Json :=
  .compact [("size", some (.string cache.size)), ("storageClass", cache.storageClass.map .string)]

/-- Read the settings of a cache volume. -/
def ofJson? (json : Json) : Option CacheSpec := do
  let record ← json.record? 0 2
  let size ← record.withDefault? 0 "size" "1Gi" Json.text?
  let storageClass ← record.optional? 1 "storageClass" Json.text?
  some { size, storageClass }

end CacheSpec

namespace VcsSpec

/-- The wire form. -/
def toJson (vcs : VcsSpec) : Json :=
  .compact
    [("repository", vcs.repository.map .string),
     ("branch", vcs.branch.map .string),
     ("workingDir", vcs.workingDir.map .string)]

/-- Read the version control settings. -/
def ofJson? (json : Json) : Option VcsSpec := do
  let record ← json.record? 0 3
  let repository ← record.optional? 0 "repository" Json.text?
  let branch ← record.optional? 1 "branch" Json.text?
  let workingDir ← record.optional? 2 "workingDir" Json.text?
  some { repository, branch, workingDir }

end VcsSpec

namespace WorkspaceSpec

/-- The wire form. -/
def toJson (spec : WorkspaceSpec) : Json :=
  .compact
    [("cache", some spec.cache.toJson),
     ("serviceAccountName", spec.serviceAccountName.map .string),
     ("secretName", spec.secretName.map .string),
     ("privilegedCommands", some (.texts spec.privilegedCommands)),
     ("vcs", some spec.vcs.toJson)]

/-- Read what a workspace asks for; everything has a default. -/
def ofJson? (json : Json) : Option WorkspaceSpec := do
  let record ← json.record? 0 5
  let cache ← record.withDefault? 0 "cache" {} CacheSpec.ofJson?
  let serviceAccountName ← record.optional? 1 "serviceAccountName" Json.text?
  let secretName ← record.optional? 2 "secretName" Json.text?
  let privilegedCommands ← record.withDefault? 3 "privilegedCommands" [] Json.texts?
  let vcs ← record.withDefault? 4 "vcs" {} VcsSpec.ofJson?
  some { cache, serviceAccountName, secretName, privilegedCommands, vcs }

end WorkspaceSpec

namespace WorkspaceStatus

/-- The wire form. -/
def toJson (status : WorkspaceStatus) : Json :=
  .object
    [("queue", .texts status.queue),
     ("conditions", Condition.listToJson status.conditions)]

/-- Read a status. -/
def ofJson? (json : Json) : Option WorkspaceStatus := do
  let record ← json.record? 0 2
  let queue ← record.withDefault? 0 "queue" [] Json.texts?
  let conditions ← record.withDefault? 1 "conditions" [] (Json.list? Condition.ofJson?)
  some { queue, conditions }

end WorkspaceStatus

namespace Workspace

/-- The wire form of a workspace. -/
def toJson (workspace : Workspace) : Json :=
  .compact
    [("apiVersion", some (.string apiVersion)),
     ("kind", some (.string kind)),
     ("metadata", some workspace.metadata.toJson),
     ("spec", some workspace.spec.toJson),
     ("status", workspace.status.map WorkspaceStatus.toJson)]

/-- Read a workspace. -/
def ofJson? (json : Json) : Option Workspace := do
  let record ← json.record? 3 3
  let metadata ← record.required? 0 "metadata" Metadata.ofJson?
  let spec ← record.required? 1 "spec" WorkspaceSpec.ofJson?
  let status ← record.optional? 2 "status" WorkspaceStatus.ofJson?
  some { metadata, spec, status }

end Workspace

end Turnstile
