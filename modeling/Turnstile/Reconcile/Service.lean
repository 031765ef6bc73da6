/-
Module: Turnstile.Reconcile.Service
Purpose: What the command line of the controller asks for, and what its service says about its health.
Main exports: Service.Order, Service.read, Service.isAddress, Service.Health
-/
import Turnstile.CommandLine.Reading
import Turnstile.Json

/-!
The controller runs for a namespace, or it writes down the definitions of its kinds.  While it runs it
answers two questions over its address: it is healthy as long as it answers at all, and it is ready as long
as its controllers run.
-/

namespace Turnstile.Service

/-- What the controller is asked for. -/
inductive Order where
  /-- Write down the definitions. -/
  | definitions
  /-- Run for a namespace with the settings of a file, and answer at an address. -/
  | run (namespaceName settingsPath address : String)
deriving Repr, DecidableEq

/-- The usage of the controller. -/
def usage : Usage where
  program := "runq-controller"
  options :=
    [{ long := "namespace", variableName := some "NAMESPACE", summary := "Namespace to watch" },
     { long := "config", variableName := some "CONTROLLER_CONFIG_PATH",
       summary := "Controller configuration file" },
     { long := "listen", variableName := some "HEALTH_ADDR", summary := "Address for the health server" }]
  subcommands := ["crdgen"]
  topics := [[], ["help"], ["crdgen"]]

/-- The usage of the subcommand for definitions. -/
def definitionsUsage : Usage where
  program := "runq-controller crdgen"
  versioned := false

/-- The order that a reading gives. -/
def ofReading (reading : Reading) : Order :=
  .run ((reading.value? "namespace").getD "default")
    ((reading.value? "config").getD "/config/config.yaml")
    ((reading.value? "listen").getD "0.0.0.0:8080")

/-- Read a command line. -/
def read (environment : String → Option String) (words : List String) : Except Stop Order := do
  let (reading, next) ← usage.gather {} words
  match next with
  | none => return ofReading (← usage.finish environment reading)
  | some (_, after) =>
    let (inner, _) ← definitionsUsage.gather {} after
    let _ ← definitionsUsage.finish environment inner
    let _ ← usage.finish environment reading
    return .definitions

/-- A number up to a limit. -/
def isUpTo (limit : Nat) (text : String) : Bool :=
  match OptionForm.number? text with
  | some value => decide (value ≤ limit)
  | none => false

/-- A host that is this machine. -/
def isLocalHost (host : String) : Bool :=
  ["localhost", "0.0.0.0", "[::]", "[::1]"].contains host ||
    (match host.splitOn "." with
      | ["127", second, third, fourth] => [second, third, fourth].all (isUpTo 255)
      | _ => false)

/-- An address of this machine: a host, a colon and a port. -/
def isAddress (address : String) : Bool :=
  match (address.splitOn ":").reverse with
  | port :: host@(_ :: _) =>
    isLocalHost (":".intercalate host.reverse) && isUpTo 65535 port
  | _ => false

/-- The version of the program. -/
def version : String := "0.1.0"

/-- An answer about health: a code, and what is said with it. -/
structure Health where
  code : Nat
  body : Option Json

/-- What is said of a service that is in this condition. -/
def condition (status : String) : Json :=
  .object
    [("status", .string status), ("service", .string usage.program), ("version", .string version)]

/-- The answer to a question, by its path. -/
def health (controllersRun : Bool) (path : String) : Health :=
  match path with
  | "/health" => ⟨200, some (condition "healthy")⟩
  | "/ready" => if controllersRun then ⟨200, some (condition "ready")⟩ else ⟨503, none⟩
  | _ => ⟨404, none⟩

end Turnstile.Service
