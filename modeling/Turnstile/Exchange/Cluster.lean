/-
Module: Turnstile.Exchange.Cluster
Purpose: The written form of scenarios and of the requests that were served in them.
Main exports: Scenario.ofJson, Action.ofJson?, Served.report, Scenario.report
-/
import Turnstile.Cluster.Scenario
import Turnstile.Exchange.Files
import Turnstile.Json.Field

/-!
A scenario is written as the objects of its cluster, its faults and its reactions; objects without a
namespace are in the namespace of the scenario.  A request is reported with the code of its answer, and a
payload in it as the entries of the archive.
-/

namespace Turnstile

namespace Request.Verb

/-- The word for a verb. -/
def word : Verb → String
  | .get => "get"
  | .list => "list"
  | .watch => "watch"
  | .create => "create"
  | .patch => "patch"
  | .patchStatus => "patch_status"
  | .delete => "delete"
  | .log => "log"
  | .attach => "attach"

/-- Every verb. -/
def all : List Verb :=
  [.get, .list, .watch, .create, .patch, .patchStatus, .delete, .log, .attach]

/-- The verb that is written down. -/
def ofJson (json : Json) : Verb :=
  (all.find? fun verb => verb.word == json.textOr "verb" "").getD .get

end Request.Verb

/-- The kind that is written down. -/
def Kind.ofJson (json : Json) : Kind :=
  (Kind.ofWord? (json.textOr "kind" "")).getD .workspace

/-- The key of an object in a namespace, unless the object names another. -/
def Key.ofObject (space : String) (json : Json) : Key :=
  ⟨Kind.ofJson json, (json.raw "metadata").textOr "namespace" space, (json.raw "metadata").textOr "name" ""⟩

/-- The key that is written down. -/
def Key.ofJson (space : String) (json : Json) : Key :=
  ⟨Kind.ofJson json, json.textOr "namespace" space, json.textOr "name" ""⟩

/-- The fault that is written down. -/
def Fault.ofJson (json : Json) : Fault where
  verb := Request.Verb.ofJson json
  kind := Kind.ofJson json
  name := json.textAt? "name"
  error := .refused (json.natOr "code" 500) (json.textOr "reason" "Injected") (json.textOr "message" "injected")
  times := json.natOr "times" 1

/-- The action that is written down. -/
def Action.ofJson? (space : String) (json : Json) : Option Action :=
  match json.textOr "do" "" with
  | "put" => some (.put (Key.ofObject space (json.raw "object")) (json.raw "object"))
  | "merge" => some (.merge (Key.ofJson space json) (json.raw "patch"))
  | "delete" => some (.delete (Key.ofJson space json))
  | "fault" => some (.fault (Fault.ofJson json))
  | _ => none

/-- The reaction that is written down. -/
def Reaction.ofJson (space : String) (json : Json) : Reaction where
  verb := Request.Verb.ofJson json
  kind := Kind.ofJson json
  actions := (json.itemsAt "actions").filterMap (Action.ofJson? space)

/-- The namespace of a scenario. -/
def Scenario.spaceOf (json : Json) : String :=
  json.textOr "namespace" "team"

/-- The scenario that is written down. -/
def Scenario.ofJson (json : Json) : Scenario :=
  let space := spaceOf json
  let empty : Scenario :=
    { faults := (json.itemsAt "faults").map Fault.ofJson
      reactions := (json.itemsAt "reactions").map (Reaction.ofJson space) }
  empty.actAll ((json.itemsAt "store").map fun object => .put (Key.ofObject space object) object)

/-- The report of an action: whether it was done or its object was absent. -/
def Action.report (happened : Bool) : Json :=
  .string (if happened then "ok" else "absent")

/-- The written form of a selection. -/
def Selection.report : Selection → List (String × Json)
  | .all => []
  | .labelled key value => [("labelSelector", .string (key ++ "=" ++ value))]
  | .named name => [("fieldSelector", .string ("metadata.name=" ++ name))]

namespace Request

/-- The body of a request with its payloads as entries. -/
def bodyReport (kind : Kind) (body : Json) : Json :=
  match kind, body.get? "binaryData" with
  | .configMap, some (.object members) =>
    body.set "binaryData" (.object (members.map fun member =>
      (member.1, ((member.2.text?.bind Base64.decode?).map Payload.report).getD member.2)))
  | _, _ => body

/-- What a request carries beside its verb and its object. -/
def parts : Request → List (String × Json)
  | .get _ => []
  | .list _ _ selection => selection.report
  | .watch _ _ selection => selection.report
  | .create kind _ object => [("body", bodyReport kind object)]
  | .patch key change => [("body", bodyReport key.kind change)]
  | .patchStatus _ change => [("body", change)]
  | .delete _ => []
  | .log _ container => [("container", .string container), ("follow", .string "true")]
  | .attach _ container => [("container", .string container)]

/-- The namespace that a request is about. -/
def space : Request → String
  | .list _ namespaceName _ => namespaceName
  | .watch _ namespaceName _ => namespaceName
  | request => (request.key?.map Key.namespaceName).getD ""

end Request

/-- The report of a request with the code of its answer. -/
def Served.report (served : Served) : Json :=
  let request := served.request
  let name := (request.key?.map Key.name).filter fun name => !name.isEmpty
  .object
    ([("verb", .string request.verb.word),
      ("kind", .string request.kind.word),
      ("namespace", .string request.space),
      ("code", .natural served.code)] ++
      (name.map fun name => ("name", Json.string name)).toList ++ request.parts)

/-- The requests that were served, those of the given verbs left out. -/
def Scenario.requestReport (scenario : Scenario) (without : List Request.Verb) : Json :=
  .array ((scenario.requests.filter fun served => !without.contains served.request.verb).map Served.report)

/-- The names of all objects. -/
def Scenario.nameReport (scenario : Scenario) : Json :=
  .texts scenario.names

end Turnstile
