/-
Module: Turnstile.Command
Purpose: The commands a run may execute.
Main exports: Command, Command.all, Command.name, Command.parse?, Command.program, Command.needsTerminal
-/
import Turnstile.Json

/-!
A run executes one of ten commands.  All but the shell are subcommands of one program; two of them read
from a terminal and only make sense attached.
-/

namespace Turnstile

/-- The commands of a run. -/
inductive Command where
  | init
  | plan
  | apply
  | destroy
  | validate
  | refresh
  | output
  | show
  | console
  | sh
deriving Repr, DecidableEq, Inhabited

namespace Command

/-- Every command, in the order in which they are offered. -/
def all : List Command :=
  [.init, .plan, .apply, .destroy, .validate, .refresh, .output, .show, .console, .sh]

/-- The name by which a command is asked for. -/
def name : Command → String
  | .init => "init"
  | .plan => "plan"
  | .apply => "apply"
  | .destroy => "destroy"
  | .validate => "validate"
  | .refresh => "refresh"
  | .output => "output"
  | .show => "show"
  | .console => "console"
  | .sh => "sh"

/-- The command of that name. -/
def parse? (name : String) : Option Command :=
  all.find? fun command => command.name == name

/-- The program and its leading arguments. -/
def program : Command → List String
  | .sh => ["sh"]
  | command => ["terraform", command.name]

/-- Commands that read from a terminal. -/
def needsTerminal : Command → Bool
  | .console => true
  | .sh => true
  | _ => false

/-- What is said of a name that is no command. -/
def unsupportedMessage (name : String) : String :=
  "unsupported command '" ++ name ++ "' (supported: " ++ ", ".intercalate (all.map Command.name) ++ ")"

/-- A command is written as its name. -/
def toJson (command : Command) : Json :=
  .string command.name

/-- A command is read from its name, or from an object whose one member has that name and no value. -/
def ofJson? : Json → Option Command
  | .string name => parse? name
  | .object [(name, .null)] => parse? name
  | _ => none

end Command

end Turnstile
