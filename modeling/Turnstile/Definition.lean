/-
Module: Turnstile.Definition
Purpose: The definitions by which a cluster learns of runs and workspaces.
Main exports: Schema, Definition.run, Definition.workspace, Definition.all
-/
import Turnstile.Run
import Turnstile.Workspace

/-!
A definition names a kind, tells which columns a listing shows, and gives the schema of spec and status.
The schema says of every field what it holds, what it is when missing, and whether null may stand for it.
-/

namespace Turnstile

/-- The schema of a value. -/
structure Schema where
  members : List (String × Json)

namespace Schema

/-- A schema with nothing but a type. -/
def ofType (type : String) : Schema :=
  ⟨[("type", .string type)]⟩

/-- Say one more thing in a schema. -/
def saying (schema : Schema) (key : String) (value : Json) : Schema :=
  ⟨schema.members ++ [(key, value)]⟩

/-- Say what a value is for. -/
def described (schema : Schema) (text : String) : Schema :=
  schema.saying "description" (.string text)

/-- Say what a value is when missing. -/
def orElse (schema : Schema) (value : Json) : Schema :=
  schema.saying "default" value

/-- Allow null. -/
def nullable (schema : Schema) : Schema :=
  schema.saying "nullable" (.bool true)

/-- The schema as a value. -/
def toJson (schema : Schema) : Json :=
  .object schema.members

/-- A text. -/
def text : Schema := ofType "string"

/-- A list. -/
def listOf (item : Schema) : Schema :=
  (ofType "array").saying "items" item.toJson

/-- An object with these fields. -/
def object (fields : List (String × Schema)) : Schema :=
  (ofType "object").saying "properties" (.object (fields.map fun field => (field.1, field.2.toJson)))

/-- Name the fields that have to be there. -/
def requiring (schema : Schema) (keys : List String) : Schema :=
  schema.saying "required" (.texts keys)

/-- The schema of a condition. -/
def condition : Schema :=
  ((object
    [("type", text.described "Type of condition"),
     ("status", text.described "Status of the condition (True, False, or Unknown)"),
     ("lastTransitionTime",
       (text.described "Last time the condition transitioned (RFC3339 format)").nullable),
     ("reason", (text.described "Reason for the condition's last transition").nullable),
     ("message", (text.described "Human-readable message about the condition").nullable)]).described
    "Condition for a runq resource").requiring ["status", "type"]

/-- The schema of a list of conditions. -/
def conditions : Schema :=
  (listOf condition).orElse (.array [])

/-- The schema of a command. -/
def command : Schema :=
  (text.described ("Commands a run may execute. Every kind shares the same resource, so the set of " ++
    "supported operations is checked here rather than by resource kind.")).saying "enum"
    (.texts (Command.all.map Command.name))

/-- The schema of what a run asks for. -/
def runSpec : Schema :=
  ((object
    [("command", command),
     ("args", (listOf text).orElse (.array [])),
     ("configMap", text.described "ConfigMap holding the configuration archive"),
     ("configMapKey",
       (text.described "Key within the ConfigMap's binary data").orElse (.string Run.defaultConfigMapKey)),
     ("handshake",
       ((ofType "boolean").described "Whether the pod waits for an interactive client before running").orElse
         (.bool false)),
     ("handshakeTimeoutSeconds",
       ((((ofType "integer").described "Seconds the pod waits for the client to complete the handshake").orElse
         (.integer 10)).saying "format" (.string "uint64")).saying "minimum" (.number 0 1))]).described
    "`Run` CRD for a single command execution").requiring ["command", "configMap"]

/-- The schema of what is known of a run. -/
def runStatus : Schema :=
  ((object
    [("conditions", conditions),
     ("exitCode",
       (((ofType "integer").described "Exit code of the runner container once it has terminated").saying
         "format" (.string "int32")).nullable),
     ("podName", text.nullable)]).described "Status of the `Run`").nullable

/-- The schema of a cache volume. -/
def cache : Schema :=
  ((object
    [("size", (text.described "Requested size of the cache volume").orElse (.string ({} : CacheSpec).size)),
     ("storageClass",
       (text.described "Storage class for the cache volume (cluster default when unset)").nullable)]).described
    "Cache volume settings").orElse ({} : CacheSpec).toJson

/-- The schema of the version control settings. -/
def vcs : Schema :=
  ((object
    [("repository", text.nullable),
     ("branch", text.nullable),
     ("workingDir", (text.described "Path of the configuration within the repository").nullable)]).described
    "Version control settings the workspace's configuration is sourced from").orElse ({} : VcsSpec).toJson

/-- The schema of what a workspace asks for. -/
def workspaceSpec : Schema :=
  (object
    [("cache", cache),
     ("serviceAccountName", (text.described "ServiceAccount the run pods execute as").nullable),
     ("secretName", (text.described "Secret exposed to run pods as environment variables").nullable),
     ("privilegedCommands",
       ((listOf text).described "Commands that need an explicit approval annotation before they run").orElse
         (.array [])),
     ("vcs", vcs)]).described "`Workspace` CRD: a named execution context with a queue of runs"

/-- The schema of what is known of a workspace. -/
def workspaceStatus : Schema :=
  ((object
    [("queue",
       ((listOf text).described "Names of pending runs; the head is the run allowed to execute").orElse
         (.array [])),
     ("conditions", conditions)]).described "Status of the `Workspace`").nullable

end Schema

/-- A column of a listing. -/
structure Column where
  name : String
  type : String
  path : String

/-- The definition of a kind. -/
structure Definition where
  kind : String
  singular : String
  plural : String
  shortNames : List String
  columns : List Column
  spec : Schema
  status : Schema

namespace Definition

/-- The definition of runs. -/
def run : Definition where
  kind := Run.kind
  singular := "run"
  plural := "runs"
  shortNames := []
  columns :=
    [⟨"Command", "string", ".spec.command"⟩,
     ⟨"Workspace", "string", ".metadata.labels.runq\\.dev/workspace"⟩,
     ⟨"Exit", "integer", ".status.exitCode"⟩,
     ⟨"Age", "date", ".metadata.creationTimestamp"⟩]
  spec := Schema.runSpec
  status := Schema.runStatus

/-- The definition of workspaces. -/
def workspace : Definition where
  kind := Workspace.kind
  singular := "workspace"
  plural := "workspaces"
  shortNames := ["ws"]
  columns := [⟨"Queue", "string", ".status.queue"⟩, ⟨"Age", "date", ".metadata.creationTimestamp"⟩]
  spec := Schema.workspaceSpec
  status := Schema.workspaceStatus

/-- Every definition, in the order in which they are printed. -/
def all : List Definition :=
  [workspace, run]

/-- The wire form of a column. -/
def columnToJson (column : Column) : Json :=
  .object
    [("name", .string column.name), ("type", .string column.type), ("jsonPath", .string column.path)]

/-- The schema of a whole object. -/
def objectSchema (definition : Definition) : Json :=
  (((((Schema.ofType "object").described
    ("Auto-generated derived type for " ++ definition.kind ++ "Spec via `CustomResource`")).saying
    "properties" (.object
      [("spec", definition.spec.toJson), ("status", definition.status.toJson)])).requiring ["spec"]).saying
    "title" (.string definition.kind)).toJson

/-- The wire form of a definition. -/
def toJson (definition : Definition) : Json :=
  .object
    [("apiVersion", .string "apiextensions.k8s.io/v1"),
     ("kind", .string "CustomResourceDefinition"),
     ("metadata", .object [("name", .string (definition.plural ++ ".runq.dev"))]),
     ("spec", .object
       [("group", .string "runq.dev"),
        ("names", .object
          [("categories", .array []),
           ("kind", .string definition.kind),
           ("plural", .string definition.plural),
           ("shortNames", .texts definition.shortNames),
           ("singular", .string definition.singular)]),
        ("scope", .string "Namespaced"),
        ("versions", .array [.object
          [("additionalPrinterColumns", .array (definition.columns.map columnToJson)),
           ("name", .string "v1alpha1"),
           ("schema", .object [("openAPIV3Schema", definition.objectSchema)]),
           ("served", .bool true),
           ("storage", .bool true),
           ("subresources", .object [("status", .object [])])]])])]

end Definition

end Turnstile
