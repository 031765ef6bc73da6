/-
Module: Turnstile.Exchange.Snapshot
Purpose: The written form of what a namespace holds at a moment.
Main exports: Cluster.snapshot
-/
import Turnstile.Cluster
import Turnstile.Json.Field

/-!
Of a workspace or a run the status is told, without its times; of any other object, who owns it.
-/

namespace Turnstile.Cluster

/-- A condition without its time. -/
def timeless (condition : Json) : Json :=
  condition.without "lastTransitionTime"

/-- The status of an object, its conditions without their times. -/
def statusReport (object : Json) : Json :=
  match object.get? "status" with
  | none => .null
  | some status =>
    match status.get? "conditions" with
    | some (.array conditions) => status.set "conditions" (.array (conditions.map timeless))
    | _ => status

/-- The names of the owners of an object. -/
def ownerReport (object : Json) : Json :=
  match object.at? ["metadata", "ownerReferences"] with
  | some (.array references) => .texts (references.map fun reference => reference.textOr "name" "")
  | _ => .null

/-- What is told of an object. -/
def glance (key : Key) (object : Json) : Json :=
  match key.kind with
  | .workspace => statusReport object
  | .run => statusReport object
  | _ => ownerReport object

/-- What is told of all objects of a namespace. -/
def snapshot (cluster : Cluster) (space : String) : Json :=
  let present := cluster.objects.filter fun entry => entry.1.namespaceName == space
  .object (present.map fun entry => (entry.1.kind.word ++ "/" ++ entry.1.name, glance entry.1 entry.2))

end Turnstile.Cluster
