/-
Module: Turnstile.Exchange.Watch
Purpose: The written form of watches in time and of the ends of calls.
Main exports: Timeline.ofJson?, Workspace.ofEvent?, Run.ofEvent?, Pod.ofEvent?, Elapsed.report
-/
import Turnstile.Exchange.Outcome
import Turnstile.Watch
import Turnstile.Pod
import Turnstile.Workspace

/-!
Events are written with their times.  An event of a workspace or a run only tells its status, and one of a
pod the whole pod.  A call that is still waiting after a million seconds is reported as pending.
-/

namespace Turnstile

/-- An event: an error code, or an object. -/
def Timeline.eventOf? {Object : Type} (decode : Json → Option Object) (json : Json) :
    Option (Nat × Except WatchFault Object) :=
  let time := json.natOr "at" 0
  match json.natAt? "error" with
  | some code => some (time, .error (.reported code))
  | none => (decode json).map fun object => (time, .ok object)

/-- The events under one key and the end under another. -/
def Timeline.ofJson? {Object : Type} (decode : Json → Option Object) (json : Json) (events closes : String) :
    Option (Timeline Object) := do
  let events ← (json.itemsAt events).mapM (eventOf? decode)
  some { events, closesAt := json.natAt? closes }

/-- The conditions of an event, if it tells any. -/
def Condition.ofEvent? (json : Json) : Option (Option (List Condition)) :=
  match json.field? "conditions" with
  | none => some none
  | some list => (Json.list? ofJson? list).map some

/-- A workspace with the queue and the conditions that an event tells. -/
def Workspace.ofEvent? (json : Json) : Option Workspace := do
  let conditions ← Condition.ofEvent? json
  let status : Option WorkspaceStatus :=
    match conditions, json.field? "queue" with
    | none, none => none
    | _, _ => some { queue := json.textsAt "queue", conditions := conditions.getD [] }
  some { metadata := { name := some (json.textOr "name" "dev") }, spec := {}, status }

/-- A run with the conditions that an event tells. -/
def Run.ofEvent? (json : Json) : Option Run := do
  let conditions ← Condition.ofEvent? json
  some
    { metadata := { name := some (json.textOr "name" "run-a") }
      spec := default
      status := conditions.map fun list => { conditions := list } }

/-- The pod that an event tells. -/
def Pod.ofEvent? (json : Json) : Option Pod :=
  Pod.ofJson? (json.raw "pod")

/-- The name of a pod, null if it has none. -/
def Pod.nameReport (pod : Pod) : Json :=
  .orNull .string pod.metadata.name

namespace Elapsed

/-- The last millisecond at which the end of a call is still seen. -/
def horizon : Nat := 1000000000

/-- The end of a call as far as it is seen. -/
def seen {α : Type} (ending : Option (Nat × α)) : Option (Nat × α) :=
  ending.filter fun finish => finish.1 ≤ horizon

/-- The report of a call with the time it took. -/
def report {α : Type} (encode : α → Json) (ending : Option (Nat × Except LaunchFailure α))
    (more : List (String × Json)) : Json :=
  match seen ending with
  | none => Outcome.value (.object (("result", .string "pending") :: more))
  | some (time, outcome) =>
    Outcome.value (.object
      ([("result", Outcome.report encode outcome), ("elapsed_ms", .natural time)] ++ more))

/-- The time and the answer of a watcher. -/
def ofEnding {Object Answer : Type} (ending : Option (Ending Object Answer)) :
    Option (Nat × Except LaunchFailure Answer) :=
  ending.map fun finish => (finish.time, finish.answer)

end Elapsed

end Turnstile
