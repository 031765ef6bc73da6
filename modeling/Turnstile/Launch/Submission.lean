/-
Module: Turnstile.Launch.Submission
Purpose: The two objects that a launch creates: the payload and the run.
Main exports: Submission.payloadObject, Submission.run, Submission.Sent, Submission.send
-/
import Turnstile.Cluster.Program
import Turnstile.Launch.Settings
import Turnstile.Run
import Turnstile.Text.Base64

/-!
Payload and run go by one name and carry the label of the workspace.  The run refers to the payload by
that name.  Each of them is asked for whatever is said of the other.
-/

namespace Turnstile.Submission

/-- The labels of both objects. -/
def labels (settings : LaunchSettings) : List (String × String) :=
  [(Run.workspaceLabel, settings.workspace)]

/-- The metadata of both objects. -/
def metadata (name : String) (settings : LaunchSettings) : Metadata where
  name := some name
  namespaceName := some settings.namespaceName
  labels := some (labels settings)

/-- The object that holds the payload. -/
def payloadObject (name : String) (payload : List UInt8) (settings : LaunchSettings) : Json :=
  .object
    [("apiVersion", .string "v1"),
     ("kind", .string "ConfigMap"),
     ("metadata", (metadata name settings).toJson),
     ("binaryData", .object [(Run.defaultConfigMapKey, .string (Base64.encode payload))])]

/-- The run. -/
def run (name : String) (command : Command) (args : List String) (settings : LaunchSettings) : Run where
  metadata := metadata name settings
  spec :=
    { command, args
      configMap := name
      configMapKey := Run.defaultConfigMapKey
      handshake := settings.interactive
      handshakeTimeoutSeconds := UInt64.ofNat (settings.timeouts.handshake / 1000) }
  status := none

/-- The request that creates the payload. -/
def payloadCreation (name : String) (payload : List UInt8) (settings : LaunchSettings) : Request :=
  .create .configMap settings.namespaceName (payloadObject name payload settings)

/-- The request that creates the run. -/
def runCreation (name : String) (command : Command) (args : List String) (settings : LaunchSettings) : Request :=
  .create .run settings.namespaceName (run name command args settings).toJson

/-- The answers to the two creations. -/
structure Sent where
  payload : Except ApiError Unit
  run : Except ApiError Unit

/-- Ask for a creation; of the object that is answered only the shape of its kind counts. -/
def create (creation : Request) : Program (Except ApiError Unit) :=
  Program.read (Program.ofKind creation.kind) creation

/-- Create the payload and the run. -/
def send (name : String) (command : Command) (args : List String) (payload : List UInt8)
    (settings : LaunchSettings) : Program Sent := do
  let payloadAnswer ← create (payloadCreation name payload settings)
  let runAnswer ← create (runCreation name command args settings)
  return ⟨payloadAnswer, runAnswer⟩

end Turnstile.Submission
