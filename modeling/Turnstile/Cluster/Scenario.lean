/-
Module: Turnstile.Cluster.Scenario
Purpose: A cluster together with what goes wrong in it and what others do in it.
Main exports: Fault, Action, Reaction, Change, Scenario, Scenario.serve, Scenario.act
-/
import Turnstile.Cluster

/-!
A fault makes requests fail before they reach the server; the first fault that matches a request counts,
and each counts only so often.  A reaction is what others do right after a request that succeeded.  All
that is written, by a request or by others, is kept in a journal with its time, so that a watch can be
served from it.
-/

namespace Turnstile

/-- A reason for requests to fail. -/
structure Fault where
  verb : Request.Verb
  kind : Kind
  /-- The object that the request has to be about, if only one counts. -/
  name : Option String := none
  error : ApiError
  /-- How many more requests fail. -/
  times : Nat := 1

/-- Something that others do. -/
inductive Action where
  | put (key : Key) (object : Json)
  | merge (key : Key) (change : Json)
  | delete (key : Key)
  | fault (fault : Fault)

/-- What others do after a request that succeeded. -/
structure Reaction where
  verb : Request.Verb
  kind : Kind
  actions : List Action

/-- A write: what was there before it and what is there after it. -/
structure Change where
  time : Nat
  key : Key
  before : Option Json
  after : Option Json

/-- A request that was sent, and the code of its answer. -/
structure Served where
  request : Request
  code : Nat

/-- A cluster with its faults and reactions; `journal` and `served` have the latest entry first. -/
structure Scenario where
  cluster : Cluster := {}
  faults : List Fault := []
  reactions : List Reaction := []
  clock : Nat := 0
  journal : List Change := []
  served : List Served := []

namespace Fault

/-- The fault makes this request fail. -/
def hits (fault : Fault) (request : Request) : Bool :=
  0 < fault.times && fault.verb == request.verb && fault.kind == request.kind &&
    (match fault.name with
      | none => true
      | some name => (request.key?.map Key.name) == some name)

/-- The first fault that a request meets, and the faults that are left. -/
def meet (request : Request) : List Fault → Option (ApiError × List Fault)
  | [] => none
  | fault :: rest =>
    if fault.hits request then some (fault.error, { fault with times := fault.times - 1 } :: rest)
    else (meet request rest).map fun met => (met.1, fault :: met.2)

end Fault

namespace Scenario

/-- Move on to a cluster in which the object under the key was written. -/
def moved (scenario : Scenario) (key : Key) (next : Cluster) : Scenario :=
  { scenario with
    cluster := next
    journal := ⟨scenario.clock, key, scenario.cluster.find? key, next.find? key⟩ :: scenario.journal }

/-- Let others do something; it is not done if the object it is about is absent. -/
def act (scenario : Scenario) : Action → Scenario × Bool
  | .put key object => (scenario.moved key (scenario.cluster.put key object), true)
  | .merge key change =>
    match scenario.cluster.find? key with
    | none => (scenario, false)
    | some object => (scenario.moved key (scenario.cluster.write key (object.mergePatch change)), true)
  | .delete key =>
    match scenario.cluster.find? key with
    | none => (scenario, false)
    | some _ => (scenario.moved key (scenario.cluster.remove key), true)
  | .fault fault => ({ scenario with faults := scenario.faults ++ [fault] }, true)

/-- Let others do several things. -/
def actAll (scenario : Scenario) (actions : List Action) : Scenario :=
  actions.foldl (fun state action => (state.act action).1) scenario

/-- What others do after the request. -/
def react (scenario : Scenario) (request : Request) : Scenario :=
  scenario.reactions.foldl
    (fun state reaction =>
      if reaction.verb == request.verb && reaction.kind == request.kind then state.actAll reaction.actions
      else state)
    scenario

/-- The code of an answer. -/
def codeOf (request : Request) : Except ApiError Json → Nat
  | .ok _ => request.goodCode
  | .error (.refused code _ _) => code
  | .error .unanswered => 0

/-- Take the step that a request makes the server take, and note what it wrote. -/
def handle (scenario : Scenario) (request : Request) : Scenario × Except ApiError Json :=
  let (next, reply) := scenario.cluster.answer request
  match reply, request.key? with
  | .ok _, some key => (if request.isWrite then scenario.moved key next else scenario, reply)
  | _, _ => (scenario, reply)

/-- Note a request and its answer. -/
def noted (scenario : Scenario) (request : Request) (reply : Except ApiError Json) : Scenario :=
  { scenario with served := ⟨request, codeOf request reply⟩ :: scenario.served }

/-- Serve a request: it meets its fault, or the server answers it and others react to a good answer. -/
def serve (scenario : Scenario) (request : Request) : Scenario × Except ApiError Json :=
  match Fault.meet request scenario.faults with
  | some (error, left) => ({ scenario with faults := left }.noted request (.error error), .error error)
  | none =>
    let (handled, reply) := scenario.handle request
    let noted := handled.noted request reply
    match reply with
    | .ok _ => (noted.react request, reply)
    | .error _ => (noted, reply)

/-- Forget which requests were served. -/
def cleared (scenario : Scenario) : Scenario :=
  { scenario with served := [] }

/-- The requests that were served, in order. -/
def requests (scenario : Scenario) : List Served :=
  scenario.served.reverse

/-- The keys of all objects as texts, in order. -/
def names (scenario : Scenario) : List String :=
  (scenario.cluster.objects.map fun entry => entry.1.text).mergeSort fun first second => first ≤ second

end Scenario

end Turnstile
