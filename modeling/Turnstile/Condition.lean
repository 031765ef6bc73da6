/-
Module: Turnstile.Condition
Purpose: Status conditions, and the rule by which a status records a new observation.
Main exports: Condition, Condition.observed, Condition.find?, Condition.isTrueFor, Condition.set
-/
import Turnstile.Json.Record

/-!
A condition says of one aspect of a resource whether it holds, why, and since when.  Recording an
observation replaces the first condition of its type or appends a new one.  The time only moves when the
status flips: a new reason or message alone keeps the time of the present status, and an observation that
says nothing new changes nothing.
-/

namespace Turnstile

/-- One condition of a resource. -/
structure Condition where
  type : String
  status : String
  lastTransitionTime : Option String
  reason : Option String
  message : Option String
deriving Repr, DecidableEq, Inhabited

namespace Condition

/-- The status of a condition that holds. -/
def statusTrue : String := "True"

/-- The status of a condition that does not hold. -/
def statusFalse : String := "False"

/-- A fresh observation, not yet stamped with a time. -/
def observed (type : String) (holds : Bool) (reason message : String) : Condition where
  type := type
  status := if holds then statusTrue else statusFalse
  lastTransitionTime := none
  reason := some reason
  message := some message

/-- The condition holds. -/
def isTrue (condition : Condition) : Bool :=
  condition.status == statusTrue

/-- The condition does not hold; it may also be unknown. -/
def isFalse (condition : Condition) : Bool :=
  condition.status == statusFalse

/-- The reason, empty when none is given. -/
def reasonText (condition : Condition) : String :=
  condition.reason.getD ""

/-- The message, empty when none is given. -/
def messageText (condition : Condition) : String :=
  condition.message.getD ""

/-- The first condition of a type. -/
def find? (conditions : List Condition) (type : String) : Option Condition :=
  conditions.find? fun condition => condition.type == type

/-- The first condition of the type holds. -/
def isTrueFor (conditions : List Condition) (type : String) : Bool :=
  (find? conditions type).any isTrue

/-- The first condition of the type is known not to hold. -/
def isFalseFor (conditions : List Condition) (type : String) : Bool :=
  (find? conditions type).any isFalse

/-- The two conditions differ in their time at most. -/
def saysSame (first second : Condition) : Bool :=
  first.status == second.status && first.reason == second.reason && first.message == second.message

/-- What stands in the place of `present` once `new` was observed at time `now`. -/
def updated (now : String) (present new : Condition) : Condition :=
  if present.saysSame new then present
  else if present.status == new.status then { new with lastTransitionTime := present.lastTransitionTime }
  else { new with lastTransitionTime := some now }

/-- Record an observation made at time `now`. -/
def set (now : String) (new : Condition) : List Condition → List Condition
  | [] => [{ new with lastTransitionTime := some now }]
  | present :: rest =>
    if present.type == new.type then present.updated now new :: rest else present :: set now new rest

/-- Whether recording the observation changes anything: it does unless the first condition of its type
already says the same. -/
def changes (new : Condition) (conditions : List Condition) : Bool :=
  !(find? conditions new.type).any fun present => present.saysSame new

/-- The wire form; what is unset is left out. -/
def toJson (condition : Condition) : Json :=
  .compact
    [("type", some (.string condition.type)),
     ("status", some (.string condition.status)),
     ("lastTransitionTime", condition.lastTransitionTime.map .string),
     ("reason", condition.reason.map .string),
     ("message", condition.message.map .string)]

/-- Read a condition; type and status have to be there. -/
def ofJson? (json : Json) : Option Condition := do
  let record ← json.record? 2 5
  let type ← record.required? 0 "type" Json.text?
  let status ← record.required? 1 "status" Json.text?
  let lastTransitionTime ← record.optional? 2 "lastTransitionTime" Json.text?
  let reason ← record.optional? 3 "reason" Json.text?
  let message ← record.optional? 4 "message" Json.text?
  some { type, status, lastTransitionTime, reason, message }

/-- A list of conditions on the wire. -/
def listToJson (conditions : List Condition) : Json :=
  .array (conditions.map toJson)

end Condition

end Turnstile
