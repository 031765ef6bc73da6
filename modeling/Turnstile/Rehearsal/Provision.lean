/-
Module: Turnstile.Rehearsal.Provision
Purpose: Provisioning of a workspace, played through in a scenario.
Main exports: Provision.Rehearsed, Provision.courseAfter, Provision.rehearse
-/
import Turnstile.Cluster.Script
import Turnstile.Launch.Provision

/-!
The rules of provisioning decide what happens; the scenario decides what the API server answers and what
the watch delivers.  The script goes on until the wait ends; only then is the deletion asked for, if it is.
-/

namespace Turnstile.Provision

/-- What has come of provisioning: the scenario at its end, the files, and the outcome with its time. -/
structure Rehearsed where
  scenario : Scenario
  files : FileTree
  ending : Option (Nat × Except LaunchFailure Unit)

/-- The course of provisioning that leaves its creation in a scenario. -/
def courseAfter (request : NewWorkspace) (script : List Cue) (cancelAt : Option Nat) (created : Scenario) : Course :=
  let (watched, watch) := created.openWatch Workspace.ofJson? (key request)
  { watch := watch.timeline 0 (watched.playAll script).journal, cancelAt }

/-- The scenario in which provisioning goes on after the answer to the creation: the one in which it was answered if
it failed, and the one at the end of the wait otherwise. -/
def resumed (request : NewWorkspace) (course : Course) (files : FileTree) (folder name : String) (script : List Cue)
    (created watched : Scenario) : Except ApiError Unit → Scenario
  | .error _ => created
  | .ok _ =>
    match settle request course files folder name with
    | none => watched.playAll script
    | some ending => (Scenario.playUntil ending.time script watched).1

/-- Play provisioning through. -/
def rehearse (request : NewWorkspace) (files : FileTree) (folder name : String) (script : List Cue)
    (cancelAt : Option Nat) (scenario : Scenario) : Rehearsed :=
  let (created, answer) := (create request).run scenario
  let (watched, _) := created.openWatch Workspace.ofJson? (key request)
  let course := courseAfter request script cancelAt created
  let scene := resumed request course files folder name script created watched answer
  let (final, ending) := (conclude request course files folder name answer).run scene
  ⟨final, ending.elim files Ending.files, ending.map fun reached => (reached.time, reached.outcome)⟩

end Turnstile.Provision
