/-
Module: Turnstile.Proofs.Shell.Token
Purpose: How a shell reads a script: characters into tokens, tokens into commands.
Main exports: Shell.Piece, Shell.Token, Shell.Mode, Shell.step, Shell.scan, Shell.gather, Shell.phrases?,
  Shell.Reads, Shell.Reads.append
-/
import Turnstile.Shell.Quoted

/-!
The reading follows the token recognition of the POSIX shell, one character at a time: blanks and newlines,
comments, single and double quotes, the backslash, parameters and the longest operator.  It refuses what
would need more than that, here-documents, command substitution and parameters in braces, and a text that
ends inside a quote.  So a text that it reads has none of these.

The commands of a script are then the runs of words between its newlines, semicolons and control operators.
A reserved word stands alone and only counts unquoted and in the first place.  What follows `case` and `for`
has rules of its own, which a reading without these two never needs.
-/

namespace Turnstile.Shell

/-- A piece of a word.  An active character is one that an unquoted pattern or a home directory starts with. -/
inductive Piece where
  | char (character : Char)
  | active (character : Char)
  | parameter (name : List Char) (quoted : Bool)
deriving DecidableEq

/-- A word, which is bare as long as no part of it was quoted. -/
structure Word where
  pieces : List Piece := []
  bare : Bool := true
deriving DecidableEq

inductive Token where
  | word (word : Word)
  | descriptor (digits : List Char)
  | operator (symbol : List Char)
  | newline
deriving DecidableEq

inductive Quoting where
  | none
  | single
  | double
deriving DecidableEq

/-- What the reader is in the middle of. -/
inductive Mode where
  | between
  | comment
  | operator (symbol : List Char)
  | inside (quoting : Quoting) (word : Word)
  | escaped (quoting : Quoting) (word : Word)
  | dollar (quoting : Quoting) (word : Word)
  | parameter (quoting : Quoting) (word : Word) (name : List Char)
deriving DecidableEq

/-- What a character is to a reader that is not inside quotes. -/
inductive Role where
  | blank
  | newline
  | operator
  | apostrophe
  | quotation
  | backslash
  | dollar
  | backtick
  | active
  | ordinary
deriving DecidableEq

/-- The backtick. -/
def backtick : Char := Char.ofNat 96

def role (character : Char) : Role :=
  if character = ' ' ∨ character = '\t' then .blank
  else if character = '\n' then .newline
  else if character ∈ ['|', '&', ';', '<', '>', '(', ')'] then .operator
  else if character = apostrophe then .apostrophe
  else if character = '"' then .quotation
  else if character = '\\' then .backslash
  else if character = '$' then .dollar
  else if character = backtick then .backtick
  else if character ∈ ['*', '?', '[', '~'] then .active
  else .ordinary

/-- The operators of two characters.  The two that start a here-document are refused instead. -/
def doubleOperators : List (List Char) :=
  ["||".toList, "&&".toList, ";;".toList, "<&".toList, "<>".toList, ">>".toList, ">&".toList, ">|".toList]

namespace Word

def push (word : Word) (piece : Piece) : Word :=
  { word with pieces := word.pieces ++ [piece] }

/-- The word with a part of it quoted. -/
def quote (word : Word) : Word :=
  { word with bare := false }

/-- The digits of a bare word of digits alone. -/
def digits? (word : Word) : Option (List Char) :=
  if word.bare && !word.pieces.isEmpty then
    word.pieces.mapM fun
      | .char character => if character.isDigit then some character else none
      | _ => none
  else none

/-- The token that the word is in front of a character: digits in front of a redirection say what is redirected. -/
def token (word : Word) (next : Char) : Token :=
  match word.digits? with
  | some digits => if next = '<' ∨ next = '>' then .descriptor digits else .word word
  | none => .word word

end Word

/-- A character inside a word, or the one that ends it. -/
def stepInside (quoting : Quoting) (word : Word) (character : Char) : Option (List Token × Mode) :=
  match quoting, role character with
  | .none, .blank => some ([.word word], .between)
  | .none, .newline => some ([.word word, .newline], .between)
  | .none, .operator => some ([word.token character], .operator [character])
  | .none, .apostrophe => some ([], .inside .single word.quote)
  | .none, .quotation => some ([], .inside .double word.quote)
  | .none, .active => some ([], .inside .none (word.push (.active character)))
  | .single, .apostrophe => some ([], .inside .none word)
  | .double, .quotation => some ([], .inside .none word)
  | .none, .backslash | .double, .backslash => some ([], .escaped quoting word)
  | .none, .dollar | .double, .dollar => some ([], .dollar quoting word)
  | .none, .backtick | .double, .backtick => none
  | _, _ => some ([], .inside quoting (word.push (.char character)))

/-- The first character of a token, or what separates tokens. -/
def stepBetween (character : Char) : Option (List Token × Mode) :=
  match role character with
  | .blank => some ([], .between)
  | .newline => some ([.newline], .between)
  | .operator => some ([], .operator [character])
  | _ => if character = '#' then some ([], .comment) else stepInside .none {} character

/-- The character behind a backslash; a newline there joins two lines. -/
def stepEscaped (quoting : Quoting) (word : Word) (character : Char) : List Token × Mode :=
  match quoting, role character with
  | .none, .newline => ([], if word = {} then .between else .inside .none word)
  | .none, _ => ([], .inside .none (word.push (.char character)).quote)
  | _, .newline => ([], .inside quoting word)
  | _, .dollar | _, .backtick | _, .quotation | _, .backslash =>
      ([], .inside quoting (word.push (.char character)))
  | _, _ => ([], .inside quoting ((word.push (.char '\\')).push (.char character)))

/-- The character behind a dollar sign. -/
def stepDollar (quoting : Quoting) (word : Word) (character : Char) : Option (List Token × Mode) :=
  if character.isAlpha ∨ character = '_' then some ([], .parameter quoting word [character])
  else if character.isDigit ∨ character ∈ ['@', '*', '#', '?', '-', '$', '!'] then
    some ([], .inside quoting (word.push (.parameter [character] (quoting = .double))))
  else if character ∈ ['{', '(', '\\'] ∨ (quoting = .none ∧ character ∈ [apostrophe, '"']) then none
  else stepInside quoting (word.push (.char '$')) character

/-- One character more.  Nothing is read where a joined line could continue an operator or a name. -/
def step : Mode → Char → Option (List Token × Mode)
  | .between, character => stepBetween character
  | .comment, character =>
      if character = '\n' then some ([.newline], .between) else some ([], .comment)
  | .operator symbol, character =>
      if symbol ++ [character] ∈ doubleOperators then some ([], .operator (symbol ++ [character]))
      else if character = '\\' ∨ symbol ++ [character] = "<<".toList then none
      else (stepBetween character).map fun (tokens, mode) => (.operator symbol :: tokens, mode)
  | .inside quoting word, character => stepInside quoting word character
  | .escaped quoting word, character => some (stepEscaped quoting word character)
  | .dollar quoting word, character => stepDollar quoting word character
  | .parameter quoting word name, character =>
      if character.isAlphanum ∨ character = '_' then some ([], .parameter quoting word (name ++ [character]))
      else if character = '\\' then none
      else stepInside quoting (word.push (.parameter name (quoting = .double))) character

/-- The tokens that the characters complete, and what the reader is then in the middle of. -/
def scan (mode : Mode) : List Char → Option (List Token × Mode)
  | [] => some ([], mode)
  | character :: characters =>
      (step mode character).bind fun (tokens, next) =>
        (scan next characters).map fun (more, last) => (tokens ++ more, last)

/-- Words that are not words of a command when they come first and unquoted. -/
def reservedWords : List String :=
  ["!", "\x7b", "\x7d", "case", "do", "done", "elif", "else", "esac", "fi", "for", "if", "in", "then", "until", "while"]

/-- A part of a command. -/
inductive Part where
  | word (pieces : List Piece)
  | descriptor (digits : List Char)
  | redirection (symbol : List Char)
deriving DecidableEq

inductive Phrase where
  | command (parts : List Part)
  | reserved (name : String)
  | control (symbol : List Char)
deriving DecidableEq

/-- The command of the parts gathered so far, if there are any. -/
def ended (parts : List Part) : List Phrase :=
  if parts = [] then [] else [.command parts]

/-- The word that stands for exactly this text. -/
def literal (text : String) : Part :=
  .word (text.toList.map .char)

/-- The reserved word that the word is in the first place of a command. -/
def Word.reserved? (word : Word) : Option String :=
  if word.bare then reservedWords.find? fun name => literal name = .word word.pieces else none

/-- The commands of the tokens, the first of which goes on from the parts gathered so far. -/
def gather : List Part → List Token → List Phrase
  | parts, [] => ended parts
  | parts, .newline :: tokens => ended parts ++ gather [] tokens
  | parts, .operator symbol :: tokens =>
      if symbol.head? ∈ [some '<', some '>'] then gather (parts ++ [.redirection symbol]) tokens
      else if symbol = [';'] then ended parts ++ gather [] tokens
      else ended parts ++ .control symbol :: gather [] tokens
  | parts, .descriptor digits :: tokens => gather (parts ++ [.descriptor digits]) tokens
  | parts, .word word :: tokens =>
      match parts, word.reserved? with
      | [], some name => .reserved name :: gather [] tokens
      | _, _ => gather (parts ++ [.word word.pieces]) tokens

/-- The commands of a script; its end also ends its last line. -/
def phrases? (text : String) : Option (List Phrase) :=
  match scan .between (text.toList ++ ['\n']) with
  | some (tokens, .between) => some (gather [] tokens)
  | _ => none

/-- The command of these words, every one standing for itself. -/
def saying (words : List String) : Phrase :=
  .command (words.map literal)

theorem scan_append {mode middle last : Mode} {first second : List Char} {tokens more : List Token}
    (scannedFirst : scan mode first = some (tokens, middle))
    (scannedSecond : scan middle second = some (more, last)) :
    scan mode (first ++ second) = some (tokens ++ more, last) := by
  induction first generalizing mode tokens with
  | nil =>
      cases scannedFirst
      exact scannedSecond
  | cons character characters inductionHypothesis =>
      simp only [scan, Option.bind_eq_some_iff, Option.map_eq_some_iff] at scannedFirst
      rcases scannedFirst with ⟨⟨completed, next⟩, stepped, ⟨others, _⟩, scanned, same⟩
      cases same
      have scannedRest := inductionHypothesis scanned
      simp [scan, stepped, scannedRest]

/-- The characters are complete lines, and these are their commands. -/
def Reads (characters : List Char) (phrases : List Phrase) : Prop :=
  ∃ tokens, scan .between characters = some (tokens, .between) ∧
    ∀ rest, gather [] (tokens ++ rest) = phrases ++ gather [] rest

theorem Reads.nil : Reads [] [] :=
  ⟨[], rfl, fun _ => rfl⟩

theorem Reads.append {first second : List Char} {earlier later : List Phrase}
    (readsFirst : Reads first earlier) (readsSecond : Reads second later) :
    Reads (first ++ second) (earlier ++ later) := by
  rcases readsFirst with ⟨tokens, scannedFirst, gatheredFirst⟩
  rcases readsSecond with ⟨more, scannedSecond, gatheredSecond⟩
  refine ⟨tokens ++ more, scan_append scannedFirst scannedSecond, ?_⟩
  intro rest
  rw [List.append_assoc, gatheredFirst, gatheredSecond, List.append_assoc]

/-- A text of complete lines is read as their commands. -/
theorem phrases?_of_reads {text : String} {phrases : List Phrase} (reads : Reads text.toList phrases) :
    phrases? text = some phrases := by
  rcases reads with ⟨tokens, scanned, gathered⟩
  have ended : scan .between ['\n'] = some ([.newline], .between) := rfl
  unfold phrases?
  rw [scan_append scanned ended]
  simp only [gathered]
  simp [gather, Shell.ended]

end Turnstile.Shell
