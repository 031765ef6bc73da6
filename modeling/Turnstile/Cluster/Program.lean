/-
Module: Turnstile.Cluster.Program
Purpose: Programs of requests to the API server, kept apart from what answers them.
Main exports: Program, Program.run, Program.ask, Program.read, Attempt, Attempt.find?
-/
import Turnstile.Cluster.Scenario
import Turnstile.Cluster.Shape
import Turnstile.Reconcile.Failure

/-!
A program is done, or it sends a request and goes on with the answer, whatever that is.  So one program can
be run against a cluster, against a cluster in which others interfere, or step by step between the requests
of other programs.  A request that lacks the name it needs is never sent, and an answer that cannot be read
counts as none.
-/

namespace Turnstile

/-- A program of requests. -/
inductive Program (α : Type) where
  | done (value : α)
  | call (request : Request) (next : Except ApiError Json → Program α)

namespace Program

/-- Go on with the value of a program. -/
def bind {α β : Type} : Program α → (α → Program β) → Program β
  | .done value, next => next value
  | .call request after, next => .call request fun reply => (after reply).bind next

instance : Monad Program where
  pure := .done
  bind := bind

/-- Run a program in a scenario. -/
def run {α : Type} : Program α → Scenario → Scenario × α
  | .done value, scenario => (scenario, value)
  | .call request next, scenario =>
    let (served, reply) := scenario.serve request
    (next reply).run served

/-- The request has the name it needs. -/
def isAddressed (request : Request) : Bool :=
  match request.verb, request.key? with
  | .create, _ => true
  | _, some key => !key.name.isEmpty
  | _, none => true

/-- Send a request. -/
def ask (request : Request) : Program (Except ApiError Json) :=
  if isAddressed request then .call request .done else .done (.error .unanswered)

/-- Read an answer. -/
def readable {α : Type} (decode : Json → Option α) : Except ApiError Json → Except ApiError α
  | .error error => .error error
  | .ok json => (decode json).elim (.error .unanswered) .ok

/-- Send a request and read its answer. -/
def read {α : Type} (decode : Json → Option α) (request : Request) : Program (Except ApiError α) := do
  let reply ← ask request
  return readable decode reply

/-- Take an answer for an object of a kind without looking at it. -/
def ofKind (kind : Kind) (json : Json) : Option Unit :=
  if kind.fits json then some () else none

/-- Read the items of a list. -/
def itemsOf {α : Type} (decode : Json → Option α) (json : Json) : Option (List α) :=
  (json.get? "items").bind (Json.list? decode)

end Program

/-- A program that a failed request may end. -/
abbrev Attempt (α : Type) : Type :=
  ExceptT ReconcileFailure Program α

namespace Attempt

/-- Fail for a reason of its own. -/
def fail {α : Type} (failure : ReconcileFailure) : Attempt α :=
  throw failure

/-- Go on with a good answer only. -/
def ofReply {α : Type} (program : Program (Except ApiError α)) : Attempt α :=
  ExceptT.mk do
    match ← program with
    | .ok value => return .ok value
    | .error error => return .error (.api error)

/-- Send a request whose answer has to be good. -/
def require {α : Type} (decode : Json → Option α) (request : Request) : Attempt α :=
  ofReply (Program.read decode request)

/-- Look up an object that need not exist. -/
def find? {α : Type} (decode : Json → Option α) (key : Key) : Attempt (Option α) :=
  ofReply do
    match ← Program.read decode (.get key) with
    | .ok value => return .ok (some value)
    | .error error => return if error.saysNotFound then .ok none else .error error

end Attempt

end Turnstile
