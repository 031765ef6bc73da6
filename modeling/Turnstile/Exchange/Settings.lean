/-
Module: Turnstile.Exchange.Settings
Purpose: The written form of what a launch or the controller is told, and of what came of it.
Main exports: LaunchSettings.ofJson, NewWorkspace.ofJson, LaunchSettings.report, Settings.loadReport
-/
import Turnstile.Exchange.Outcome
import Turnstile.Launch.Marker
import Turnstile.Launch.NewWorkspace
import Turnstile.Settings.Document

/-!
What is not written down takes its default.  Lengths of time are given in milliseconds and reported in
seconds and nanoseconds.
-/

namespace Turnstile

/-- The written form of a length of time. -/
def Duration.report (duration : Duration) : Json :=
  .object [("secs", .natural duration.seconds), ("nanos", .natural duration.subsecond)]

/-- The deadlines that are written down. -/
def Timeouts.ofJson (json : Json) : Timeouts :=
  let default : Timeouts := {}
  { enqueue := json.natOr "enqueue" default.enqueue
    queue := json.natOr "queue" default.queue
    reconcile := json.natOr "reconcile" default.reconcile
    ready := json.natOr "ready" default.ready
    exitGrace := json.natOr "exit_grace" default.exitGrace
    handshake := json.natOr "handshake" default.handshake }

/-- The written form of deadlines. -/
def Timeouts.report (timeouts : Timeouts) : Json :=
  let part (key : String) (millis : Nat) := (key, (Duration.ofMillis millis).report)
  .object
    [part "enqueue" timeouts.enqueue, part "queue" timeouts.queue, part "reconcile" timeouts.reconcile,
     part "ready" timeouts.ready, part "exit_grace" timeouts.exitGrace, part "handshake" timeouts.handshake]

/-- What a launch is told. -/
def LaunchSettings.ofJson (json : Json) : LaunchSettings where
  namespaceName := json.textOr "namespace" "team"
  workspace := json.textOr "workspace" "dev"
  interactive := json.flagOr "interactive" false
  timeouts := Timeouts.ofJson (json.part "timeouts")

/-- The written form of what a launch is told. -/
def LaunchSettings.report (settings : LaunchSettings) : Json :=
  .object
    [("namespace", .string settings.namespaceName),
     ("workspace", .string settings.workspace),
     ("interactive", .bool settings.interactive),
     ("timeouts", settings.timeouts.report)]

/-- The request for a new workspace that is written down. -/
def NewWorkspace.ofJson (json : Json) : NewWorkspace where
  name := json.textOr "name" ""
  namespaceName := json.textOr "namespace" "team"
  cacheSize := json.textAt? "cache_size"
  storageClass := json.textAt? "storage_class"
  serviceAccount := json.textAt? "service_account"
  secret := json.textAt? "secret"
  privilegedCommands := json.textsAt "privileged_commands"
  repository := json.textAt? "repository"
  branch := json.textAt? "branch"
  workingDir := json.textAt? "working_dir"
  reconcileTimeout := json.natOr "reconcile_ms" 10000
  readyTimeout := json.natOr "ready_ms" 60000
  cleanup := json.flagOr "cleanup" true

/-- The written form of a marker. -/
def Marker.report (marker : Marker) : Json :=
  .object [("namespace", .string marker.namespaceName), ("workspace", .string marker.workspace)]

namespace Settings

/-- The settings that are given as the value of a document; null stands for the defaults. -/
def given? (json : Json) : Option Settings :=
  match json.field? "config" with
  | none => some {}
  | some value => ofJson? value

/-- What the settings say of the image. -/
def imageReport (settings : Settings) : List (String × Json) :=
  [("image", .string settings.runner.image.reference),
   ("configured", .bool settings.runner.image.isConfigured)]

/-- The report of loading settings. -/
def loadReport : Except LoadFault Settings → Json
  | .error (.unreadable _) => Outcome.failed "ConfigRead" []
  | .error .malformed => Outcome.failed "ConfigParse" []
  | .error (.invalid fault) => Outcome.failed "ConfigInvalid" [("message", .string fault.message)]
  | .ok settings =>
    .object
      ([("config", settings.toJson),
        ("after_error", (Duration.ofSeconds settings.requeue.errorSeconds.toNat).report),
        ("after_conflict", (Duration.ofSeconds settings.requeue.conflictSeconds.toNat).report)] ++
        settings.imageReport)

end Settings

end Turnstile
