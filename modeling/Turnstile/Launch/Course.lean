/-
Module: Turnstile.Launch.Course
Purpose: A whole launch: packing, submission, monitoring, and the session that relays the exit code.
Main exports: Launch.Order, Launch.prepare, Launch.submit, Launch.Course, Launch.outcome, Launch.carryOut
-/
import Turnstile.Launch.Monitor
import Turnstile.Launch.Payload
import Turnstile.Launch.Relay
import Turnstile.Launch.Submission

/-!
A launch first reads its command and packs its directory; nothing is sent if one of them fails.  Then the
payload and the run are created, the run is monitored, and a session with its pod begins when the monitor
has its verdict.  A launch succeeds only at the end of that session, with the exit code of the command.

The requests of the submission are those of a program.  What the surroundings do from then on is the course of
the launch.
-/

namespace Turnstile.Launch

/-- What a user wants to be run: a command with arguments, on the contents of a directory. -/
structure Order where
  command : String
  args : List String
  path : String

/-- An order that can be submitted. -/
structure Prepared where
  command : Command
  payload : List UInt8

/-- Read the command and pack the directory, its entries stored in the given way. -/
def prepare (pack : List Archive.Entry → List UInt8) (order : Order) (files : FileTree) :
    Except LaunchFailure Prepared :=
  match Command.parse? order.command with
  | none => .error (.unsupportedCommand order.command)
  | some command => (Payload.createBy pack files order.path).map fun payload => ⟨command, payload⟩

/-- What the surroundings do after a submission: what the monitor watches, and, for a session that begins at a
time, its end and the watch of its pod, both counted from then. -/
structure Course where
  scene : Monitor.Scene
  session : Session → Nat → Option (Nat × Except LaunchFailure Unit)
  exitWatch : Session → Nat → Timeline Pod

/-- The outcome of submitting payload and run under a name. -/
def submitted (name : String) (payload run : Except ApiError Unit) : Except LaunchFailure Unit :=
  match payload, run with
  | .error error, _ => .error (.admission ("ConfigMap/" ++ name) error)
  | .ok _, .error error => .error (.admission ("Run/" ++ name) error)
  | .ok _, .ok _ => .ok ()

/-- Submit an order under a name; nothing is sent unless it can be prepared. -/
def submit (pack : List Archive.Entry → List UInt8) (settings : LaunchSettings) (name : String) (order : Order)
    (files : FileTree) : Program (Except LaunchFailure Unit) :=
  match prepare pack order files with
  | .error failure => return .error failure
  | .ok prepared => do
    let sent ← Submission.send name prepared.command order.args prepared.payload settings
    return submitted name sent.payload sent.run

/-- The end of the listener for the exit code. -/
def exitOf (watch : Timeline Pod) : Option (Nat × RelayEnd) :=
  (Watcher.forExitCode.run none watch).map fun ending => (ending.time, .reported ending.answer)

/-- The session that begins at a time, beside the listener for the exit code. -/
def relayOf (settings : LaunchSettings) (course : Course) (session : Session) (begun : Nat) : Relay where
  session := course.session session begun
  exit := exitOf (course.exitWatch session begun)
  grace := settings.timeouts.exitGrace

/-- The end of a session that begins at a time. -/
def connected (settings : LaunchSettings) (course : Course) (cancelAt : Option Nat) (session : Session)
    (begun : Nat) : Option (Nat × Except LaunchFailure Unit) :=
  ((relayOf settings course session begun).outcome (cancelAt.map (· - begun))).map fun ending =>
    (begun + ending.1, ending.2)

/-- The end of a launch whose run was submitted under a name; none if it never ends. -/
def outcome (settings : LaunchSettings) (name : String) (course : Course) (cancelAt : Option Nat) :
    Option (Nat × Except LaunchFailure Unit) :=
  match Monitor.wait settings name course.scene cancelAt with
  | none => none
  | some (time, .error failure) => some (time, .error failure)
  | some (time, .ok pod) =>
    connected settings course cancelAt (Session.forPod pod name settings.interactive) time

/-- The end of a launch that is submitted with this result: with a failure it ends at once. -/
def concluded (settings : LaunchSettings) (name : String) (course : Course) (cancelAt : Option Nat) :
    Except LaunchFailure Unit → Option (Nat × Except LaunchFailure Unit)
  | .error failure => some (0, .error failure)
  | .ok _ => outcome settings name course cancelAt

/-- Launch an order under a name; none if that never ends. -/
def carryOut (pack : List Archive.Entry → List UInt8) (settings : LaunchSettings) (name : String) (order : Order)
    (files : FileTree) (course : Course) (cancelAt : Option Nat) :
    Program (Option (Nat × Except LaunchFailure Unit)) := do
  let submission ← submit pack settings name order files
  return concluded settings name course cancelAt submission

end Turnstile.Launch
