/-
Module: Turnstile.CommandLine
Purpose: What a command line may consist of: options, operands, subcommands, and the help that tells of them.
Main exports: OptionForm, OptionRule, Usage, Usage.help, Stop
-/

/-!
An option is given by its long name, or by a letter if it has one.  Operands are told apart by their place;
after the last of them a command may take everything else as it stands.  Subcommands have a usage of their
own, and a command with subcommands also knows the subcommand for help.
-/

namespace Turnstile

/-- What an option takes. -/
inductive OptionForm where
  /-- Nothing: it is there or not. -/
  | flag
  /-- Nothing: it asks for help. -/
  | help
  /-- Nothing: it asks for the version. -/
  | version
  /-- Any text. -/
  | text
  /-- A text that is not empty. -/
  | path
  /-- A number of sixty-four bits. -/
  | number
  /-- Texts with commas between them; the option may be given again. -/
  | texts
deriving Repr, DecidableEq, Inhabited

/-- An option, with the variable that stands in for it when it is not given. -/
structure OptionRule where
  long : String
  short : Option Char := none
  form : OptionForm := .text
  variableName : Option String := none
  summary : String := ""
deriving Repr, Inhabited

/-- What a command takes. -/
structure Usage where
  program : String
  options : List OptionRule := []
  /-- The operands that have to be there. -/
  operands : List String := []
  /-- What the operands after those are called, if there may be any. -/
  rest : Option String := none
  subcommands : List String := []
  /-- What help can be asked for by the subcommand for help. -/
  topics : List (List String) := []
  /-- A subcommand has to come before everything else. -/
  subcommandFirst : Bool := false
  versioned : Bool := true
deriving Repr, Inhabited

/-- Why a command line leads to no command. -/
inductive Stop where
  | help (text : String)
  | version
  | misuse (problem : String)
deriving Repr, DecidableEq, Inhabited

namespace OptionForm

/-- The option takes a value. -/
def takesValue : OptionForm → Bool
  | .flag => false
  | .help => false
  | .version => false
  | _ => true

/-- The number that a text stands for; a plus sign may stand before it. -/
def number? (text : String) : Option Nat :=
  let digits := match text.toList with
    | '+' :: digits => digits
    | digits => digits
  if digits.isEmpty || !digits.all Char.isDigit then none
  else
    let value := digits.foldl (fun sum digit => sum * 10 + (digit.toNat - '0'.toNat)) 0
    if value < 18446744073709551616 then some value else none

/-- The option takes this value. -/
def accepts (form : OptionForm) (value : String) : Bool :=
  match form with
  | .path => !value.isEmpty
  | .number => (number? value).isSome
  | _ => true

end OptionForm

namespace Usage

/-- The option for help. -/
def helpOption : OptionRule :=
  { long := "help", short := some 'h', form := .help, summary := "Print help" }

/-- The option for the version. -/
def versionOption : OptionRule :=
  { long := "version", short := some 'V', form := .version, summary := "Print version" }

/-- All options of a command. -/
def allOptions (usage : Usage) : List OptionRule :=
  usage.options ++ [helpOption] ++ (if usage.versioned then [versionOption] else [])

/-- The option of a long name. -/
def option? (usage : Usage) (long : String) : Option OptionRule :=
  usage.allOptions.find? fun rule => rule.long == long

/-- The option of a letter. -/
def letter? (usage : Usage) (letter : Char) : Option OptionRule :=
  usage.allOptions.find? fun rule => rule.short == some letter

/-- The line of help for an option. -/
def optionHelp (rule : OptionRule) : String :=
  let letter := match rule.short with
    | some letter => "-" ++ String.ofList [letter] ++ ", "
    | none => "    "
  let value := if rule.form.takesValue then " <" ++ rule.long.toUpper ++ ">" else ""
  "  " ++ letter ++ "--" ++ rule.long ++ value ++ "  " ++ rule.summary

/-- The help of a command. -/
def help (usage : Usage) : String :=
  let operands := usage.operands.map fun operand => " <" ++ operand ++ ">"
  let rest := usage.rest.toList.map fun rest => " [" ++ rest ++ "]..."
  let line := "Usage: " ++ usage.program ++ " [OPTIONS]" ++ String.join (operands ++ rest)
  let commands := if usage.subcommands.isEmpty then [] else
    "" :: "Commands:" :: usage.subcommands.map fun name => "  " ++ name
  let options := "" :: "Options:" :: usage.allOptions.map optionHelp
  "\n".intercalate (line :: commands ++ options)

end Usage

end Turnstile
