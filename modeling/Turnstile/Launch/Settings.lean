/-
Module: Turnstile.Launch.Settings
Purpose: What a launch is told: namespace, workspace, whether to attach, and how long to wait for what.
Main exports: Timeouts, LaunchSettings
-/
import Turnstile.Text.Duration

/-!
Times are whole milliseconds.
-/

namespace Turnstile

/-- The deadlines of a launch, in milliseconds. -/
structure Timeouts where
  /-- Until the run first shows up in the queue. -/
  enqueue : Nat := 10000
  /-- From then on, until it reaches the head. -/
  queue : Nat := 3600000
  /-- Until the controller stamps any condition. -/
  reconcile : Nat := 10000
  /-- From the run becoming attachable until its pod is ready. -/
  ready : Nat := 60000
  /-- From the end of the session until the exit code is known. -/
  exitGrace : Nat := 10000
  /-- Until the pod has asked for the client. -/
  handshake : Nat := 10000
deriving Repr, DecidableEq, Inhabited

/-- What a launch is told. -/
structure LaunchSettings where
  namespaceName : String
  workspace : String
  interactive : Bool := false
  timeouts : Timeouts := {}
deriving Repr, DecidableEq, Inhabited

end Turnstile
