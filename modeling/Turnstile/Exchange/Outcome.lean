/-
Module: Turnstile.Exchange.Outcome
Purpose: The written form of failures and of the outcomes of calls.
Main exports: LaunchFailure.report, LaunchFailure.ofJson, ReconcileFailure.report, Outcome.report
-/
import Turnstile.Json.Field
import Turnstile.Launch.Failure
import Turnstile.Reconcile.Failure

/-!
A failure is reported by the word for its kind and by what it carries: its message, if all of that is the
program's own, and else the parts.  A call is reported by its value or by its failure.
-/

namespace Turnstile

/-- The report of something that failed. -/
def Outcome.failed (word : String) (parts : List (String × Json)) : Json :=
  .object (("error", .string word) :: parts)

/-- The report of a value. -/
def Outcome.value (json : Json) : Json :=
  .object [("ok", json)]

/-- The report of a failed request. -/
def ApiError.report : ApiError → Json
  | .refused code reason message =>
    .object [("code", .natural code), ("reason", .string reason), ("message", .string message)]
  | .unanswered => .string "other"

/-- The report of a watch that broke off. -/
def WatchFault.report : WatchFault → Json
  | .listFailed error => .object [("kind", .string "InitialListFailed"), ("api", error.report)]
  | .startFailed error => .object [("kind", .string "WatchStartFailed"), ("api", error.report)]
  | .broken error => .object [("kind", .string "WatchFailed"), ("api", error.report)]
  | .reported code => .object [("kind", .string "WatchError"), ("code", .natural code)]
  | .noResourceVersion => .object [("kind", .string "NoResourceVersion")]

namespace ConfigurationFault

/-- The sentences of a fault, outermost first; a cause that is the system's own is only marked. -/
def chain (fault : ConfigurationFault) : Json :=
  .texts (fault.contexts ++ [match fault.cause with | .inl message => message | .inr _ => "<io>"])

/-- The report of a fault. -/
def report (fault : ConfigurationFault) : Json :=
  Outcome.failed "Config" [("chain", fault.chain)]

end ConfigurationFault

namespace LaunchFailure

/-- The word for a failure. -/
def word : LaunchFailure → String
  | .admission .. => "Admission"
  | .configuration .. => "Config"
  | .unsupportedCommand .. => "UnsupportedCommand"
  | .payloadTooLarge .. => "PayloadTooLarge"
  | .enqueueTimeout .. => "EnqueueTimeout"
  | .queueTimeout .. => "QueueTimeout"
  | .reconcileTimeout .. => "ReconcileTimeout"
  | .readyTimeout .. => "ReadyTimeout"
  | .exitRelayTimeout .. => "ExitRelayTimeout"
  | .workspaceNotFound .. => "WorkspaceNotFound"
  | .workspaceReadyTimeout .. => "WorkspaceReadyTimeout"
  | .workspaceUnhealthy .. => "WorkspaceUnhealthy"
  | .runFailed .. => "RunFailed"
  | .podFailed .. => "PodFailed"
  | .exitCode .. => "ExitCode"
  | .attach .. => "Attach"
  | .api .. => "Kube"
  | .watch .. => "Watch"
  | .watchClosed .. => "WatchClosed"
  | .io .. => "Io"
  | .cancelled => "Cancelled"

/-- What a failure carries: its parts where the wording is not all the program's own, else its message. -/
def parts : LaunchFailure → List (String × Json)
  | .admission resource error => [("resource", .string resource), ("api", error.report)]
  | .configuration fault => [("chain", fault.chain)]
  | .payloadTooLarge _ limit => [("limit", .natural limit)]
  | .api error => [("api", error.report)]
  | .watch fault => [("watch", fault.report)]
  | .io _ => []
  | failure => [("message", .string failure.message)]

/-- The report of a failure. -/
def report (failure : LaunchFailure) : Json :=
  Outcome.failed failure.word (("exit_code", .integer failure.leavingCode.toInt) :: failure.parts)

/-- A fault of the user's configuration in words, its cause only marked if it is the system's own. -/
def configurationWording (fault : ConfigurationFault) : String :=
  let cause := match fault.cause with
    | .inl message => message
    | .inr .invalidText => SystemFault.invalidText.message
    | .inr _ => "<io>"
  "invalid configuration: " ++ ": ".intercalate (fault.contexts ++ [cause])

/-- The wording of a failure as far as it is the program's own, and whether that is all of it. -/
def ownWording : LaunchFailure → String × Bool
  | .admission resource _ => ("failed to create " ++ resource, false)
  | .api _ => ("Kubernetes API error", false)
  | .watch _ => ("watch error", false)
  | .io _ => ("I/O error", false)
  | .configuration fault => (configurationWording fault, true)
  | failure => (failure.message, true)

/-- A failure that is written down by its kind and what it carries. -/
def ofJson (json : Json) : LaunchFailure :=
  let text := json.textOr "text" ""
  let limit : Duration := ⟨json.natOr "secs" 0 * 1000000000 + json.natOr "nanos" 0⟩
  let error := ApiError.refused (json.natOr "code" 500) (json.textOr "reason" "") text
  match json.textOr "kind" "" with
  | "Admission" => .admission (json.textOr "resource" "") error
  | "Config" => .configuration { contexts := (json.textsAt "context").reverse, cause := .inl text }
  | "UnsupportedCommand" => .unsupportedCommand text
  | "PayloadTooLarge" => .payloadTooLarge (json.natOr "size" 0) (json.natOr "limit" 0)
  | "EnqueueTimeout" => .enqueueTimeout limit
  | "QueueTimeout" => .queueTimeout limit
  | "ReconcileTimeout" => .reconcileTimeout limit
  | "ReadyTimeout" => .readyTimeout limit
  | "ExitRelayTimeout" => .exitRelayTimeout limit
  | "WorkspaceNotFound" => .workspaceNotFound text
  | "WorkspaceReadyTimeout" => .workspaceReadyTimeout limit
  | "WorkspaceUnhealthy" => .workspaceUnhealthy (json.textOr "workspace" "") text
  | "RunFailed" => .runFailed (json.textOr "reason" "") text
  | "PodFailed" => .podFailed (json.textOr "pod" "") (json.textOr "reason" "")
  | "ExitCode" => .exitCode (Int32.ofInt (json.intOr "exit" 0))
  | "Attach" => .attach text
  | "Kube" => .api error
  | "Watch" => .watch .noResourceVersion
  | "WatchClosed" => .watchClosed text
  | "Io" => .io (.other text)
  | _ => .cancelled

/-- The outcome that a failure stands for when it is given, and success when it is not. -/
def outcomeAt (json : Json) (key : String) : Except LaunchFailure Unit :=
  match json.field? key with
  | none => .ok ()
  | some given => .error (ofJson given)

end LaunchFailure

/-- The report of a failed reconciliation. -/
def ReconcileFailure.report (failure : ReconcileFailure) : Json :=
  let conflict := ("conflict", Json.bool failure.isConflict)
  match failure with
  | .api error => Outcome.failed "KubeError" [conflict, ("api", error.report)]
  | .configuration _ => Outcome.failed "ConfigError" [conflict, ("message", .string failure.message)]
  | .missingObjectKey => Outcome.failed "MissingObjectKey" [conflict, ("message", .string failure.message)]

namespace Outcome

/-- The report of a call. -/
def report {α : Type} (encode : α → Json) : Except LaunchFailure α → Json
  | .ok value => Outcome.value (encode value)
  | .error failure => failure.report

/-- The value of a call that gives none. -/
def nothing (_ : Unit) : Json :=
  .null

end Outcome

end Turnstile
