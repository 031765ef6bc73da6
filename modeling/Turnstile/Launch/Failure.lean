/-
Module: Turnstile.Launch.Failure
Purpose: Everything that can stop a launch short of a clean end, with its wording and exit code.
Main exports: LaunchFailure, ConfigurationFault, LaunchFailure.message, LaunchFailure.leavingCode, exitStatus
-/
import Turnstile.Cluster.ApiError
import Turnstile.Command
import Turnstile.Files.Fault
import Turnstile.Text.Duration

/-!
A launch that fails leaves with code one, unless the command itself ended with a code, which is passed on.
A process can only pass on codes of one octet; every other code becomes one.
-/

namespace Turnstile

/-- A fault in what the user configured: what was being done, outermost first, and why it failed. -/
structure ConfigurationFault where
  contexts : List String := []
  cause : String ⊕ SystemFault
deriving Repr, DecidableEq

namespace ConfigurationFault

/-- A fault that is told in one sentence. -/
def ofMessage (message : String) : ConfigurationFault where
  cause := .inl message

/-- Say what was being done when the fault arose. -/
def within (context : String) (fault : ConfigurationFault) : ConfigurationFault :=
  { fault with contexts := context :: fault.contexts }

/-- The innermost sentence. -/
def causeText (fault : ConfigurationFault) : String :=
  match fault.cause with
  | .inl message => message
  | .inr system => system.message

/-- The sentences, outermost first. -/
def text (fault : ConfigurationFault) : String :=
  ": ".intercalate (fault.contexts ++ [fault.causeText])

end ConfigurationFault

/-- The ways a launch fails. -/
inductive LaunchFailure where
  | admission (resource : String) (error : ApiError)
  | configuration (fault : ConfigurationFault)
  | unsupportedCommand (name : String)
  | payloadTooLarge (size limit : Nat)
  | enqueueTimeout (limit : Duration)
  | queueTimeout (limit : Duration)
  | reconcileTimeout (limit : Duration)
  | readyTimeout (limit : Duration)
  | exitRelayTimeout (limit : Duration)
  | workspaceNotFound (name : String)
  | workspaceReadyTimeout (limit : Duration)
  | workspaceUnhealthy (workspace message : String)
  | runFailed (reason message : String)
  | podFailed (pod reason : String)
  | exitCode (code : Int32)
  | attach (problem : String)
  | api (error : ApiError)
  | watch (fault : WatchFault)
  | watchClosed (watch : String)
  | io (fault : SystemFault)
  | cancelled
deriving DecidableEq

namespace LaunchFailure

/-- The wording of a failed request, as far as it is the program's own. -/
def apiText : ApiError → String
  | .refused _ reason message => message ++ ": " ++ reason
  | .unanswered => "no answer"

/-- The wording of a watch that broke off. -/
def watchText : WatchFault → String
  | .listFailed error => "failed to perform initial object list: " ++ apiText error
  | .startFailed error => "failed to start watching object: " ++ apiText error
  | .broken error => "watch stream failed: " ++ apiText error
  | .reported code => "error returned by apiserver during watch: " ++ toString code
  | .noResourceVersion => "no metadata.resourceVersion in watch result"

/-- The wording of a failure. -/
def message : LaunchFailure → String
  | .admission resource error => "failed to create " ++ resource ++ ": " ++ apiText error
  | .configuration fault => "invalid configuration: " ++ fault.text
  | .unsupportedCommand name => Command.unsupportedMessage name
  | .payloadTooLarge size limit =>
    "configuration archive is " ++ toString size ++ " bytes, exceeding the " ++ toString limit ++ " byte limit"
  | .enqueueTimeout limit => "run was not added to the workspace queue within " ++ limit.text
  | .queueTimeout limit => "run did not reach the front of the workspace queue within " ++ limit.text
  | .reconcileTimeout limit => "controller did not respond within " ++ limit.text
  | .readyTimeout limit => "run pod was not ready within " ++ limit.text ++ " of the run becoming attachable"
  | .exitRelayTimeout limit => "exit code was not reported within " ++ limit.text ++ " of the session ending"
  | .workspaceNotFound name => "workspace " ++ name ++ " not found"
  | .workspaceReadyTimeout limit => "workspace was not ready within " ++ limit.text
  | .workspaceUnhealthy workspace message => "workspace " ++ workspace ++ " is unhealthy: " ++ message
  | .runFailed reason message => "run failed (" ++ reason ++ "): " ++ message
  | .podFailed pod reason => "pod " ++ pod ++ " failed: " ++ reason
  | .exitCode code => "command exited with code " ++ toString code.toInt
  | .attach problem => "attach to pod failed: " ++ problem
  | .api error => "Kubernetes API error: " ++ apiText error
  | .watch fault => "watch error: " ++ watchText fault
  | .watchClosed name => name ++ " watch ended unexpectedly"
  | .io fault => "I/O error: " ++ fault.message
  | .cancelled => "launch cancelled"

/-- The code a launch with this failure leaves with. -/
def leavingCode : LaunchFailure → Int32
  | .exitCode code => code
  | _ => 1

end LaunchFailure

/-- The status of the process for an exit code: the code itself if it fits an octet, else one. -/
def exitStatus (code : Int32) : Nat :=
  if 0 ≤ code.toInt ∧ code.toInt ≤ 255 then code.toInt.toNat else 1

/-- The status of the process for the outcome of a launch. -/
def Launch.processStatus : Except LaunchFailure Unit → Nat
  | .ok _ => 0
  | .error failure => exitStatus failure.leavingCode

end Turnstile
