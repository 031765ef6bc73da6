/-
Module: Turnstile.Rehearsal.Launch
Purpose: A launch, played through in a scenario.
Main exports: Launch.Rehearsed, Launch.courseAfter, Launch.rehearseBy, Launch.rehearse
-/
import Turnstile.Cluster.Script
import Turnstile.Launch.Course
import Turnstile.Launch.Packing

/-!
The rules of a launch decide what happens; the scenario decides what the API server answers and what the
watches deliver.  Nothing that a launch does between its submission and its session changes the cluster,
so the script can be played ahead to see what the watches will deliver.  A session either follows a script
of its own or asks the cluster: the output of a pod can be followed, but no connection can be attached.
-/

namespace Turnstile.Launch

/-- How sessions go: as the cluster answers, or as scripted, with an end or without. -/
inductive Connector where
  | cluster
  | scripted (ending : Option (Nat × Except LaunchFailure Unit))

/-- What has come of a launch: the scenario at its end, the outcome with its time, the connections that
were scripted, and what the user saw. -/
structure Rehearsed where
  scenario : Scenario
  ending : Option (Nat × Except LaunchFailure Unit)
  connections : List Connection := []
  output : String := ""

/-- The watches of a launch and the lookup of its workspace, once they are opened. -/
structure Watches where
  lookup : Except ApiError Workspace
  workspace : OpenWatch Workspace
  run : OpenWatch Run
  pod : OpenWatch Pod

/-- Open the watches of a launch. -/
def openWatches (settings : LaunchSettings) (name : String) (scenario : Scenario) : Scenario × Watches :=
  let space := settings.namespaceName
  let workspaceKey : Key := ⟨.workspace, space, settings.workspace⟩
  let (first, lookup) := (Program.read Workspace.ofJson? (.get workspaceKey)).run scenario
  let (second, workspace) := first.openWatch Workspace.ofJson? workspaceKey
  let (third, run) := second.openWatch Run.ofJson? ⟨.run, space, name⟩
  let (fourth, pod) := third.openWatch Pod.ofJson? ⟨.pod, space, name⟩
  (fourth, ⟨lookup, workspace, run, pod⟩)

/-- What the monitor sees of the watches in a scenario that was played ahead. -/
def Watches.scene (watches : Watches) (played : Scenario) : Monitor.Scene where
  workspace := some (some 0, watches.lookup)
  queue := some (watches.workspace.timeline 0 played.journal)
  run := some (watches.run.timeline 0 played.journal)
  pod := some (watches.pod.timeline 0 played.journal)

/-- A session that has begun: the scenario with its requests, its end, what the user saw, and the watch of
its pod. -/
structure Begun where
  scenario : Scenario
  ending : Option (Nat × Except LaunchFailure Unit)
  output : String
  exit : OpenWatch Pod

/-- The end of a session that asks the cluster, and what the user saw. -/
def ask (space : String) (scenario : Scenario) :
    Connection → Scenario × Option (Nat × Except LaunchFailure Unit) × String
  | .attach pod _ =>
    let (later, _) := (Program.ask (.attach ⟨.pod, space, pod⟩ Run.containerName)).run scenario
    (later, some (0, .error (.api .unanswered)), "")
  | .follow pod =>
    let (later, answer) := (Program.read Json.text? (.log ⟨.pod, space, pod⟩ Run.containerName)).run scenario
    match answer with
    | .ok text => (later, some (0, .ok ()), text)
    | .error error => (later, some (0, .error (.api error)), "")

/-- Begin a session. -/
def begin (settings : LaunchSettings) (name : String) (connector : Connector) (session : Session)
    (scenario : Scenario) : Begun :=
  let (watched, exit) := scenario.openWatch Pod.ofJson? ⟨.pod, settings.namespaceName, name⟩
  match connector with
  | .scripted ending => ⟨watched, ending, "", exit⟩
  | .cluster =>
    let (later, ending, output) := ask settings.namespaceName watched session.connection
    ⟨later, ending, output, exit⟩

/-- The course of a launch in a scenario whose watches are open. -/
def courseIn (settings : LaunchSettings) (name : String) (connector : Connector) (script : List Cue)
    (watches : Watches) (scenario : Scenario) : Course where
  scene := watches.scene (scenario.playAll script)
  session := fun session begun =>
    let (reached, _) := Scenario.playUntil begun script scenario
    (begin settings name connector session reached).ending
  exitWatch := fun session begun =>
    let (reached, rest) := Scenario.playUntil begun script scenario
    let opened := begin settings name connector session reached
    opened.exit.timeline begun (opened.scenario.playAll rest).journal

/-- The scenario at the end of a session that begins at a time. -/
def withSession (settings : LaunchSettings) (name : String) (connector : Connector) (script : List Cue)
    (ending : Option (Nat × Except LaunchFailure Unit)) (session : Session) (begun : Nat)
    (scenario : Scenario) : Rehearsed :=
  let (reached, _) := Scenario.playUntil begun script scenario
  let opened := begin settings name connector session reached
  let connections := match connector with
    | .scripted _ => [session.connection]
    | .cluster => []
  ⟨opened.scenario, ending, connections, opened.output⟩

/-- The course of a launch that leaves its submission in a scenario. -/
def courseAfter (settings : LaunchSettings) (name : String) (connector : Connector) (script : List Cue)
    (scenario : Scenario) : Course :=
  let (watched, watches) := openWatches settings name scenario
  courseIn settings name connector script watches watched

/-- Play a submitted launch through. -/
def follow (settings : LaunchSettings) (name : String) (connector : Connector) (script : List Cue)
    (cancelAt : Option Nat) (scenario : Scenario) : Rehearsed :=
  let (watched, watches) := openWatches settings name scenario
  let course := courseIn settings name connector script watches watched
  let ending := outcome settings name course cancelAt
  match Monitor.wait settings name course.scene cancelAt with
  | some (time, .ok pod) =>
    withSession settings name connector script ending (Session.forPod pod name settings.interactive) time watched
  | _ => ⟨watched, ending, [], ""⟩

/-- Play a launch through, the entries of its payload stored in the given way. -/
def rehearseBy (pack : List Archive.Entry → List UInt8) (settings : LaunchSettings) (name : String) (order : Order)
    (files : FileTree) (connector : Connector) (script : List Cue) (cancelAt : Option Nat) (scenario : Scenario) :
    Rehearsed :=
  let (served, submission) := (submit pack settings name order files).run scenario
  match submission with
  | .error failure => ⟨served, some (0, .error failure), [], ""⟩
  | .ok _ => follow settings name connector script cancelAt served

/-- Play a launch through. -/
def rehearse (settings : LaunchSettings) (name : String) (order : Order) (files : FileTree)
    (connector : Connector) (script : List Cue) (cancelAt : Option Nat) (scenario : Scenario) : Rehearsed :=
  rehearseBy Payload.pack settings name order files connector script cancelAt scenario

end Turnstile.Launch
