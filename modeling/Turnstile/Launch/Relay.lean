/-
Module: Turnstile.Launch.Relay
Purpose: The session of a client with its pod, and the wait for the exit code that follows it.
Main exports: Connection, Session.connection, Relay, Relay.outcome
-/
import Turnstile.Launch.Session
import Turnstile.Launch.Settings
import Turnstile.Watch

/-!
The exit code is listened for from before the session begins, so that no end is missed.  A session that
fails is the outcome at once.  After a session that ended well the exit code is waited for, but only for a
grace period; an exit code that is there when the grace is over still counts.  Cancellation ends both waits
and comes before everything else that happens at the same time.
-/

namespace Turnstile

/-- What a client does with its pod. -/
inductive Connection where
  | attach (pod run : String)
  | follow (pod : String)
deriving Repr, DecidableEq, Inhabited

/-- How the session connects. -/
def Session.connection (session : Session) : Connection :=
  if session.attach then .attach session.pod session.run else .follow session.pod

/-- How the listener for the exit code ends. -/
inductive RelayEnd where
  | reported (outcome : Except LaunchFailure Unit)
  | crashed

/-- What the end of the listener means for the launch. -/
def RelayEnd.outcome : RelayEnd → Except LaunchFailure Unit
  | .reported outcome => outcome
  | .crashed => .error (.io (.other "the exit relay did not finish"))

/-- A session beside the listener for the exit code: when each of them ends and how, if it does. -/
structure Relay where
  session : Option (Nat × Except LaunchFailure Unit)
  exit : Option (Nat × RelayEnd)
  /-- How long the exit code is waited for after the session, in milliseconds. -/
  grace : Nat

namespace Relay

/-- No connection is made for a launch that is cancelled before it begins. -/
def connects (cancelAt : Option Nat) : Bool :=
  !comesBy cancelAt (some 0)

/-- The wait for the exit code after a session that ended well at time `left`. -/
def afterSession (relay : Relay) (cancelAt : Option Nat) (left : Nat) : Nat × Except LaunchFailure Unit :=
  let limit := left + relay.grace
  match relay.exit with
  | some (time, reported) =>
    let known := max left time
    if comesBy cancelAt (some (min known limit)) then (cancelAt.getD 0, .error .cancelled)
    else if known ≤ limit then (known, reported.outcome)
    else (limit, .error (.exitRelayTimeout (.ofMillis relay.grace)))
  | none =>
    if comesBy cancelAt (some limit) then (cancelAt.getD 0, .error .cancelled)
    else (limit, .error (.exitRelayTimeout (.ofMillis relay.grace)))

/-- When the connection is over and how; none if it lasts for ever. -/
def outcome (relay : Relay) (cancelAt : Option Nat) : Option (Nat × Except LaunchFailure Unit) :=
  match relay.session with
  | none => cancelAt.map fun time => (time, .error .cancelled)
  | some (left, ended) =>
    if comesBy cancelAt (some left) then cancelAt.map fun time => (time, .error .cancelled)
    else
      match ended with
      | .error failure => some (left, .error failure)
      | .ok _ => some (relay.afterSession cancelAt left)

end Relay

end Turnstile
