/-
Module: Turnstile.Launch.Provision
Purpose: Creating a workspace, waiting until it is ready, and undoing the creation when that fails.
Main exports: Provision.Course, Provision.Ending, Provision.cleansUp, Provision.settled, Provision.conclude,
  Provision.carryOut
-/
import Turnstile.Cluster.Program
import Turnstile.Launch.Marker
import Turnstile.Launch.NewWorkspace
import Turnstile.Launch.Watchers

/-!
A new workspace is created, followed until it is ready, and recorded in the marker of the directory.  If
the creation fails there is nothing to undo.  If anything fails after it, the workspace is deleted again,
unless it is to be kept; what the deletion comes to changes nothing about the failure that is reported.
-/

namespace Turnstile.Provision

/-- What the surroundings do besides answering requests: what the watch of the workspace delivers, when the
wait is cancelled, and what the disk makes of the marker. -/
structure Course where
  watch : Timeline Workspace
  cancelAt : Option Nat := none
  disk : Disk := {}

/-- The end of provisioning: when, how, and with which files. -/
structure Ending where
  time : Nat
  outcome : Except LaunchFailure Unit
  files : FileTree
  /-- How the writing of the marker ended, if it was begun. -/
  marked : Option (Except ConfigurationFault Unit) := none
  /-- The answers to the deletions that were asked for. -/
  deletions : List (Except ApiError Json) := []

/-- A new workspace is deleted again when something failed, unless it is to be kept. -/
def cleansUp (cleanup : Bool) : Except LaunchFailure Unit → Bool
  | .ok _ => false
  | .error _ => cleanup

/-- The failure of provisioning when the creation fails. -/
def creationRefused (request : NewWorkspace) (error : ApiError) : LaunchFailure :=
  .admission ("Workspace/" ++ request.name) error

/-- What the user asked for, as a marker. -/
def marker (request : NewWorkspace) : Marker :=
  ⟨request.namespaceName, request.name⟩

/-- The key of the new workspace. -/
def key (request : NewWorkspace) : Key :=
  ⟨.workspace, request.namespaceName, request.name⟩

/-- The request that creates the workspace. -/
def creation (request : NewWorkspace) : Request :=
  .create .workspace request.namespaceName request.build.toJson

/-- Create the workspace. -/
def create (request : NewWorkspace) : Program (Except ApiError Unit) :=
  Program.read (Program.ofKind .workspace) (creation request)

/-- The answers to the deletions that the outcome calls for. -/
def cleanUp (request : NewWorkspace) (outcome : Except LaunchFailure Unit) :
    Program (List (Except ApiError Json)) :=
  if cleansUp request.cleanup outcome then do
    let answer ← Program.ask (.delete (key request))
    return [answer]
  else return []

/-- The end of the wait for the workspace, which is recorded in the marker of the folder if it is ready.  The
folder is shown by `name`. -/
def settled (request : NewWorkspace) (disk : Disk) (files : FileTree) (folder name : String)
    (awaited : Turnstile.Ending Workspace Unit) : Ending :=
  match awaited.answer with
  | .error failure => { time := awaited.time, outcome := .error failure, files }
  | .ok _ =>
    let (marked, left) := (marker request).record disk files folder name
    { time := awaited.time, outcome := marked.mapError .configuration, files := left, marked := some marked }

/-- Wait for the workspace and record it; none if the wait never ends. -/
def settle (request : NewWorkspace) (course : Course) (files : FileTree) (folder name : String) :
    Option Ending :=
  ((Watcher.forReadiness request.reconcileTimeout request.readyTimeout).run course.cancelAt course.watch).map
    (settled request course.disk files folder name)

/-- Go on after the answer to the creation; none if that never ends. -/
def conclude (request : NewWorkspace) (course : Course) (files : FileTree) (folder name : String) :
    Except ApiError Unit → Program (Option Ending)
  | .error error => return some { time := 0, outcome := .error (creationRefused request error), files }
  | .ok _ =>
    match settle request course files folder name with
    | none => return none
    | some ending => do
      let deletions ← cleanUp request ending.outcome
      return some { ending with deletions }

/-- Provision a workspace; none if that never ends. -/
def carryOut (request : NewWorkspace) (course : Course) (files : FileTree) (folder name : String) :
    Program (Option Ending) := do
  let created ← create request
  conclude request course files folder name created

end Turnstile.Provision
