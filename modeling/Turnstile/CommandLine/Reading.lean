/-
Module: Turnstile.CommandLine.Reading
Purpose: How the words of a command line are taken for options, operands and subcommands.
Main exports: Reading, Usage.gather, Usage.finish
-/
import Turnstile.CommandLine

/-!
Words are taken one by one.  An option without a value at its side takes the next word, unless that is an
option itself.  Two dashes alone end the options, and so does the first word beyond the operands, so that
whatever follows belongs to the command that is to be run.  At that place a word with a dash at its front
is only an option if it is known as one.  An option that is given twice, other than one that takes several
texts, is a misuse.
-/

namespace Turnstile

/-- What has been taken from a command line so far. -/
structure Reading where
  /-- The options that were given, with their values. -/
  given : List (String × List String) := []
  operands : List String := []
  /-- What stands after the operands. -/
  rest : List String := []
  /-- The last option, as long as its value is not settled. -/
  pending : Option (OptionRule × List String) := none
  /-- An option or an operand has been taken. -/
  begun : Bool := false
  /-- No more options follow. -/
  trailing : Bool := false
deriving Repr, Inhabited

namespace Reading

/-- The values that an option was given. -/
def valuesOf (reading : Reading) (long : String) : List String :=
  (reading.given.lookup long).getD []

/-- The option was given. -/
def has (reading : Reading) (long : String) : Bool :=
  (reading.given.lookup long).isSome

/-- The value that an option was given. -/
def value? (reading : Reading) (long : String) : Option String :=
  (reading.valuesOf long).head?

/-- The number that an option was given. -/
def numberOr (reading : Reading) (long : String) (fallback : Nat) : Nat :=
  ((reading.value? long).bind OptionForm.number?).getD fallback

/-- The last option waits for its value. -/
def isAwaiting (reading : Reading) : Bool :=
  match reading.pending with
  | some (_, []) => true
  | _ => false

/-- Take an option with its values. -/
def record (rule : OptionRule) (values : List String) (reading : Reading) : Except Stop Reading :=
  if values.isEmpty && rule.form.takesValue then
    .error (.misuse ("a value is required for --" ++ rule.long))
  else if !values.all rule.form.accepts then .error (.misuse ("invalid value for --" ++ rule.long))
  else
    match rule.form with
    | .texts =>
      let texts := values.flatMap fun value => value.splitOn ","
      let others := reading.given.filter fun entry => entry.1 != rule.long
      .ok { reading with given := others ++ [(rule.long, reading.valuesOf rule.long ++ texts)] }
    | _ =>
      if reading.has rule.long then .error (.misuse ("--" ++ rule.long ++ " is given twice"))
      else .ok { reading with given := reading.given ++ [(rule.long, values)] }

/-- Settle the value of the last option. -/
def settle (reading : Reading) : Except Stop Reading :=
  match reading.pending with
  | none => .ok reading
  | some (rule, values) => record rule values { reading with pending := none }

end Reading

namespace Usage

/-- Take an option, with the value at its side if there is one. -/
def takeOption (usage : Usage) (rule : OptionRule) (value : Option String) (reading : Reading) :
    Except Stop Reading := do
  let begun := { reading with begun := true }
  match rule.form.takesValue, value with
  | true, some value => (← begun.settle).record rule [value]
  | true, none => return { ← begun.settle with pending := some (rule, []) }
  | false, some _ => throw (.misuse ("--" ++ rule.long ++ " takes no value"))
  | false, none =>
    let settled ← begun.settle
    match rule.form with
    | .help => throw (.help usage.help)
    | .version => throw .version
    | _ => settled.record rule []

/-- Take letters that stand for options; what follows the letter of an option with a value is its value. -/
def takeLetters (usage : Usage) (reading : Reading) : List Char → Except Stop Reading
  | [] => .ok reading
  | letter :: rest =>
    match usage.letter? letter with
    | none => .error (.misuse ("unexpected argument -" ++ String.ofList [letter]))
    | some rule =>
      if rule.form.takesValue then
        let value := match rest with
          | [] => none
          | '=' :: value => some (String.ofList value)
          | value => some (String.ofList value)
        usage.takeOption rule value reading
      else do usage.takeLetters (← usage.takeOption rule none reading) rest

/-- Take an operand. -/
def takeOperand (usage : Usage) (reading : Reading) (word : String) : Except Stop Reading := do
  let settled ← reading.settle
  if settled.operands.length < usage.operands.length then
    return { settled with operands := settled.operands ++ [word], begun := true }
  else
    match usage.rest with
    | some _ => return { settled with rest := settled.rest ++ [word], begun := true, trailing := true }
    | none => throw (.misuse ("unexpected argument " ++ word))

/-- Take a word that is no option: the value of the last option or an operand. -/
def takePlain (usage : Usage) (reading : Reading) (word : String) : Except Stop Reading :=
  match reading.pending with
  | some (rule, []) => .ok { reading with pending := some (rule, [word]) }
  | _ => usage.takeOperand reading word

/-- The next operand may begin with a dash. -/
def allowsDash (usage : Usage) (reading : Reading) : Bool :=
  usage.rest.isSome && reading.operands.length == usage.operands.length

/-- Take a word with two dashes at its front. -/
def takeLong (usage : Usage) (reading : Reading) (word : String) : Except Stop Reading :=
  let characters := word.toList.drop 2
  let name := String.ofList (characters.takeWhile (· != '='))
  let value := match characters.dropWhile (· != '=') with
    | [] => none
    | _ :: value => some (String.ofList value)
  match usage.option? name with
  | some rule => usage.takeOption rule value reading
  | none =>
    if usage.allowsDash reading then usage.takePlain reading word
    else .error (.misuse ("unexpected argument " ++ word))

/-- Take a word. -/
def take (usage : Usage) (reading : Reading) (word : String) : Except Stop Reading :=
  if reading.trailing then usage.takeOperand reading word
  else
    match word.toList with
    | ['-', '-'] => .ok { reading with trailing := true }
    | '-' :: '-' :: _ => usage.takeLong reading word
    | '-' :: letter :: letters =>
      if usage.allowsDash reading && (letter :: letters).any fun each => (usage.letter? each).isNone then
        usage.takePlain reading word
      else usage.takeLetters reading (letter :: letters)
    | _ => usage.takePlain reading word

/-- The subcommand for help. -/
def helpWord : String := "help"

/-- The word is a subcommand where it stands. -/
def isSubcommand (usage : Usage) (reading : Reading) (word : String) : Bool :=
  let known := usage.subcommands.contains word || (word == helpWord && !usage.subcommands.isEmpty)
  known && !reading.trailing && !reading.isAwaiting && !(usage.subcommandFirst && reading.begun)

/-- Take words up to the end or up to a subcommand; a subcommand is given back with the words after it. -/
def gather (usage : Usage) (reading : Reading) :
    List String → Except Stop (Reading × Option (String × List String))
  | [] => .ok (reading, none)
  | word :: words =>
    if usage.isSubcommand reading word then
      if word == helpWord then
        .error (if usage.topics.contains words then .help usage.help else .misuse "unknown help topic")
      else .ok (reading, some (word, words))
    else do usage.gather (← usage.take reading word) words

/-- Let the variable of an option stand in for it. -/
def standIn (environment : String → Option String) (reading : Reading) (rule : OptionRule) :
    Except Stop Reading :=
  match rule.variableName.bind environment with
  | some value => if reading.has rule.long then .ok reading else reading.record rule [value]
  | none => .ok reading

/-- Bring a reading to its end: variables stand in for options, and the operands have to be there. -/
def finish (usage : Usage) (environment : String → Option String) (reading : Reading) :
    Except Stop Reading := do
  let completed ← usage.options.foldlM (standIn environment) (← reading.settle)
  if completed.operands.length < usage.operands.length then throw (.misuse "an argument is missing")
  else return completed

end Usage

end Turnstile
