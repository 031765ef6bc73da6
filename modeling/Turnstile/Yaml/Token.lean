/-
Module: Turnstile.Yaml.Token
Purpose: The tokens of a document: its signs, texts and marks, and the starts and ends that indentation implies.
Main exports: Token, Token.ofText?
-/
import Turnstile.Yaml.Scalar

/-!
Indentation becomes visible here: a deeper column at an entry opens a collection, and a column further left
closes the collections it leaves.  A key of one line is only known to be one when its colon is met, so a
place where such a key may have started is remembered, and the key sign is put in front of it then.

A document with a sign in the wrong place has no tokens.
-/

namespace Turnstile.Yaml

/-- How a text is written. -/
inductive ScalarStyle where
  | plain
  | quoted
  | literal
  | folded
deriving Repr, DecidableEq, Inhabited

/-- A token. -/
inductive Token where
  | version
  | tagDirective (handle : String)
  | documentStart
  | documentEnd
  | blockSequence
  | blockMapping
  | blockEnd
  | flowSequence
  | flowSequenceEnd
  | flowMapping
  | flowMappingEnd
  | entry
  | flowEntry
  | key
  | value
  | alias (name : String)
  | anchor (name : String)
  | tag (handle rest : String)
  | scalar (text : String) (style : ScalarStyle)
  | streamEnd
deriving DecidableEq, Inhabited

/-- A place where a key of one line may have started. -/
structure KeyStart where
  isRequired : Bool
  token : Nat
  index : Nat
  line : Nat
  column : Nat
deriving Inhabited

/-- A document that is being read. -/
structure Scan where
  cursor : Cursor
  tokens : Array Token := #[]
  indent : Int := -1
  outerIndents : List Int := []
  keyAllowed : Bool := true
  keyStart : Option KeyStart := none
  outerKeyStarts : List (Option KeyStart) := []
deriving Inhabited

namespace Scan

/-- Inside a collection in brackets. -/
def inFlow (scan : Scan) : Bool :=
  !scan.outerKeyStarts.isEmpty

/-- Add a token. -/
def add (scan : Scan) (token : Token) : Scan :=
  { scan with tokens := scan.tokens.push token }

/-- A possible key is over once its line is left or it grew too long; one that had to be a key is a fault. -/
def dropStale? (scan : Scan) : Option Scan :=
  let isStale (start : KeyStart) : Bool :=
    start.line < scan.cursor.line || start.index + 1024 < scan.cursor.index
  let check (start : Option KeyStart) : Option (Option KeyStart) :=
    match start with
    | none => some none
    | some start => if isStale start then (if start.isRequired then none else some none) else some (some start)
  match check scan.keyStart, scan.outerKeyStarts.mapM check with
  | some keyStart, some outer => some { scan with keyStart := keyStart, outerKeyStarts := outer }
  | _, _ => none

/-- Forget the possible key of this level; one that had to be a key is a fault. -/
def forgetKey? (scan : Scan) : Option Scan :=
  match scan.keyStart with
  | some start => if start.isRequired then none else some { scan with keyStart := none }
  | none => some scan

/-- Remember that a key may start here. -/
def saveKey? (scan : Scan) : Option Scan :=
  if scan.keyAllowed then
    (forgetKey? scan).map fun cleared =>
      { cleared with
        keyStart := some
          { isRequired := !scan.inFlow && scan.indent == (scan.cursor.column : Int)
            token := scan.tokens.size
            index := scan.cursor.index
            line := scan.cursor.line
            column := scan.cursor.column } }
  else some scan

/-- Close the collections that are indented further than the column. -/
def closeTo (column : Int) : Nat → Scan → Scan
  | 0, scan => scan
  | bound + 1, scan =>
    if scan.inFlow || scan.indent ≤ column then scan
    else
      match scan.outerIndents with
      | [] => scan
      | outer :: rest =>
        closeTo column bound
          { scan with tokens := scan.tokens.push .blockEnd, indent := outer, outerIndents := rest }

/-- Close the collections that are indented further than the column. -/
def unroll (column : Int) (scan : Scan) : Scan :=
  closeTo column (scan.outerIndents.length + 1) scan

/-- Open a collection at the column, unless one is open there; its token goes to the given place. -/
def roll (column : Nat) (place : Nat) (token : Token) (scan : Scan) : Scan :=
  if scan.inFlow || (column : Int) ≤ scan.indent then scan
  else
    { scan with
      tokens := (scan.tokens.toList.take place ++ token :: scan.tokens.toList.drop place).toArray
      indent := column
      outerIndents := scan.indent :: scan.outerIndents }

/-- Pass gaps, comments and line ends before the next token. -/
def passGaps : Nat → Scan → Scan
  | 0, scan => scan
  | bound + 1, scan =>
    let cursor := scan.cursor
    match cursor.peek? with
    | none => scan
    | some character =>
      if character == ' ' || (character == '\t' && (scan.inFlow || !scan.keyAllowed)) ||
          (cursor.index == 0 && character.toNat == 0xFEFF) then
        passGaps bound { scan with cursor := cursor.advance }
      else if character == '#' then
        passGaps bound { scan with cursor := (cursor.takeWhile fun next => !isBreak next).2 }
      else if isBreak character then
        passGaps bound
          { scan with cursor := cursor.takeBreak.2, keyAllowed := scan.keyAllowed || !scan.inFlow }
      else scan

/-- Pass the sign of a token. -/
def passing (places : Nat) (scan : Scan) : Scan :=
  { scan with cursor := scan.cursor.skip places }

/-- A token that no key may contain. -/
def sign? (places : Nat) (token : Token) (keyAllowed : Bool) (scan : Scan) : Option Scan :=
  (forgetKey? scan).map fun cleared => { (cleared.add token).passing places with keyAllowed := keyAllowed }

/-- Open a collection in brackets, which may itself be a key. -/
def openFlow? (token : Token) (scan : Scan) : Option Scan :=
  (saveKey? scan).map fun saved =>
    { (saved.add token).passing 1 with
      keyAllowed := true, keyStart := none, outerKeyStarts := saved.keyStart :: saved.outerKeyStarts }

/-- Close a collection in brackets. -/
def closeFlow? (token : Token) (scan : Scan) : Option Scan :=
  (forgetKey? scan).map fun cleared =>
    let outer := match cleared.outerKeyStarts with
      | [] => cleared
      | start :: rest => { cleared with keyStart := start, outerKeyStarts := rest }
    { (outer.add token).passing 1 with keyAllowed := false }

/-- The entry of a sequence in a block. -/
def blockEntry? (scan : Scan) : Option Scan :=
  if !scan.inFlow && !scan.keyAllowed then none
  else (scan.roll scan.cursor.column scan.tokens.size .blockSequence).sign? 1 .entry true

/-- A key behind its own sign. -/
def explicitKey? (scan : Scan) : Option Scan :=
  if !scan.inFlow && !scan.keyAllowed then none
  else (scan.roll scan.cursor.column scan.tokens.size .blockMapping).sign? 1 .key (!scan.inFlow)

/-- The sign between key and value.  If a key may have started on this level, it is one. -/
def valueSign? (scan : Scan) : Option Scan :=
  match scan.keyStart with
  | some start =>
    let keyed :=
      { scan with
        tokens := (scan.tokens.toList.take start.token ++ Token.key :: scan.tokens.toList.drop start.token).toArray
        keyStart := none
        keyAllowed := false }
    some (((keyed.roll start.column start.token .blockMapping).add .value).passing 1)
  | none =>
    if !scan.inFlow && !scan.keyAllowed then none
    else
      let rolled := scan.roll scan.cursor.column scan.tokens.size .blockMapping
      some { (rolled.add .value).passing 1 with keyAllowed := !scan.inFlow }

/-- The name behind the sign of an anchor or an alias. -/
def name? (make : String → Token) (scan : Scan) : Option Scan :=
  (saveKey? scan).bind fun saved =>
    let (name, behind) := saved.cursor.advance.takeWhile isWordChar
    let isOver := behind.endsAt 0 ||
      (behind.peek?.map fun next =>
        "?:,]%@`".toList.contains next || next == Char.ofNat 125).getD false
    if name.isEmpty || !isOver then none
    else some { saved.add (make (String.ofList name)) with cursor := behind, keyAllowed := false }

/-- May stand in the rest of a tag. -/
def isTagChar (verbatim : Bool) (character : Char) : Bool :=
  isWordChar character || ";/?:@&=+$.%!~*()".toList.contains character || character.toNat == 39 ||
    (verbatim && ",[]".toList.contains character)

/-- A tag. -/
def tag? (scan : Scan) : Option Scan :=
  (saveKey? scan).bind fun saved =>
    let finish (handle rest : List Char) (behind : Cursor) : Option Scan :=
      let isOver := behind.endsAt 0 || (scan.inFlow && behind.sees ',')
      if isOver then
        some { saved.add (.tag (String.ofList handle) (String.ofList rest)) with
          cursor := behind, keyAllowed := false }
      else none
    let cursor := saved.cursor
    if cursor.ahead? 1 == some '<' then
      let (uri, behind) := (cursor.skip 2).takeWhile (isTagChar true)
      if uri.isEmpty || !behind.sees '>' then none else finish [] uri behind.advance
    else
      let (word, behind) := cursor.advance.takeWhile isWordChar
      if behind.sees '!' then
        let (rest, next) := behind.advance.takeWhile (isTagChar false)
        if rest.isEmpty then none else finish (['!'] ++ word ++ ['!']) rest next
      else
        let (rest, next) := behind.takeWhile (isTagChar false)
        if word.isEmpty && rest.isEmpty then finish [] ['!'] next else finish ['!'] (word ++ rest) next

/-- A line that speaks about the document. -/
def directive? (scan : Scan) : Option Scan :=
  (forgetKey? (scan.unroll (-1))).bind fun cleared =>
    let (word, behind) := cleared.cursor.advance.takeWhile isWordChar
    let argument := (behind.takeWhile isGap).2
    let finish (token : Token) (next : Cursor) : Option Scan :=
      (takeLineRest? next).map fun rest =>
        { cleared.add token with cursor := rest, keyAllowed := false }
    if word == "YAML".toList then
      let (version, next) := argument.takeWhile fun character => character.isDigit || character == '.'
      if version == "1.1".toList || version == "1.2".toList then finish .version next else none
    else if word == "TAG".toList then
      let (handle, next) := argument.takeWhile fun character => isWordChar character || character == '!'
      let isHandle := handle.head? == some '!' && handle.getLast? == some '!'
      let (uri, last) := (next.takeWhile isGap).2.takeWhile (isTagChar true)
      if isHandle && !uri.isEmpty && next.endsAt 0 then finish (.tagDirective (String.ofList handle)) last
      else none
    else none

/-- A text. -/
def scalar? (scan : Scan) : Option Scan :=
  (saveKey? scan).bind fun saved =>
    let cursor := saved.cursor
    let bound := cursor.rest.length + 2
    let quoted (single : Bool) (quote : Char) : Option Scan :=
      (quotedScalar? single quote bound cursor.advance []).map fun read =>
        { saved.add (.scalar (String.ofList read.1) .quoted) with cursor := read.2, keyAllowed := false }
    if cursor.sees '"' then quoted false '"'
    else if cursor.sees (Char.ofNat 39) then quoted true (Char.ofNat 39)
    else
      (plainScalar? scan.inFlow (scan.indent + 1).toNat bound cursor {} []).map fun read =>
        { saved.add (.scalar (String.ofList read.1) .plain) with
          cursor := read.2.1, keyAllowed := read.2.2 }

/-- A text in a block. -/
def block? (literal : Bool) (scan : Scan) : Option Scan := do
  let cleared ← forgetKey? scan
  let (text, next) ← blockScalar? literal scan.indent scan.cursor.advance
  some { cleared.add (.scalar (String.ofList text) (if literal then .literal else .folded)) with
    cursor := next, keyAllowed := true }

/-- May start a plain text.  A tab that was not passed stands where no tab may stand. -/
def startsPlain (scan : Scan) (character : Char) : Bool :=
  let isSign := "-?:,[]#&*!|>%@`\"".toList.contains character || character.toNat == 39 ||
    character.toNat == 123 || character.toNat == 125
  (!isSign && !isGap character) || (character == '-' && !((scan.cursor.ahead? 1).map isGap).getD false) ||
    (!scan.inFlow && (character == '?' || character == ':') && !scan.cursor.endsAt 1)

/-- Read the token whose first character is ahead. -/
def token? (character : Char) (scan : Scan) : Option Scan :=
  let cursor := scan.cursor
  if cursor.column == 0 && character == '%' then scan.directive?
  else if cursor.atDocumentMark then
    (scan.unroll (-1)).sign? 3 (if character == '-' then .documentStart else .documentEnd) false
  else if character == '[' then scan.openFlow? .flowSequence
  else if character.toNat == 123 then scan.openFlow? .flowMapping
  else if character == ']' then scan.closeFlow? .flowSequenceEnd
  else if character.toNat == 125 then scan.closeFlow? .flowMappingEnd
  else if character == ',' then scan.sign? 1 .flowEntry true
  else if character == '-' && cursor.endsAt 1 then scan.blockEntry?
  else if character == '?' && (scan.inFlow || cursor.endsAt 1) then scan.explicitKey?
  else if character == ':' && (scan.inFlow || cursor.endsAt 1) then scan.valueSign?
  else if character == '*' then scan.name? .alias
  else if character == '&' then scan.name? .anchor
  else if character == '!' then scan.tag?
  else if character == '|' && !scan.inFlow then scan.block? true
  else if character == '>' && !scan.inFlow then scan.block? false
  else if character == '"' || character.toNat == 39 || scan.startsPlain character then scan.scalar?
  else none

/-- Read tokens up to the end of the document. -/
def run? : Nat → Scan → Option Scan
  | 0, _ => none
  | bound + 1, scan =>
    let next := passGaps (scan.cursor.rest.length + 1) scan
    match dropStale? next with
    | none => none
    | some fresh =>
      let closed := fresh.unroll fresh.cursor.column
      match closed.cursor.peek? with
      | none =>
        (forgetKey? (closed.unroll (-1))).map fun last => last.add .streamEnd
      | some character =>
        match closed.token? character with
        | none => none
        | some later => run? bound later

end Scan

/-- The tokens of a document. -/
def Token.ofText? (text : String) : Option (List Token) :=
  let characters := text.toList
  if characters.all isPrintable then
    (Scan.run? (characters.length + 2) { cursor := { rest := characters } }).map fun scan =>
      scan.tokens.toList
  else none

end Turnstile.Yaml
