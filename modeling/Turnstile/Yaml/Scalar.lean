/-
Module: Turnstile.Yaml.Scalar
Purpose: The texts of a document: plain, quoted, and in blocks.
Main exports: Folding, plainScalar?, quotedScalar?, blockScalar?
-/
import Turnstile.Yaml.Cursor

/-!
Line ends inside a plain or quoted text are folded: a single one becomes a space, and of several the first
vanishes.  A block keeps its lines, or folds them unless they are indented further; at its end it keeps
one line end, none, or all, as its header says.

Every function here takes a bound on its steps; the length of what is ahead is always enough.
-/

namespace Turnstile.Yaml

/-- White space met inside a plain or quoted text that has not been written yet. -/
structure Folding where
  gap : List Char := []
  firstBreak : List Char := []
  laterBreaks : List Char := []
  brokeLine : Bool := false
deriving Inhabited

namespace Folding

/-- What the white space becomes. -/
def folded (folding : Folding) : List Char :=
  if folding.brokeLine then
    if folding.firstBreak.head? == some '\n' then
      (if folding.laterBreaks.isEmpty then [' '] else folding.laterBreaks)
    else folding.firstBreak ++ folding.laterBreaks
  else folding.gap

/-- One more gap character; gaps at the start of a line do not count. -/
def withGap (folding : Folding) (character : Char) : Folding :=
  if folding.brokeLine then folding else { folding with gap := folding.gap ++ [character] }

/-- One more line end. -/
def withBreak (folding : Folding) (lineEnd : List Char) : Folding :=
  if folding.brokeLine then { folding with laterBreaks := folding.laterBreaks ++ lineEnd }
  else { folding with gap := [], firstBreak := lineEnd, brokeLine := true }

end Folding

/-- Pass gaps and line ends.  In a plain text of a block, a tab before the indentation is refused. -/
def takeBlank? (refuseTabBefore : Option Nat) : Nat → Cursor → Folding → Option (Cursor × Folding)
  | 0, cursor, folding => some (cursor, folding)
  | bound + 1, cursor, folding =>
    match cursor.peek? with
    | none => some (cursor, folding)
    | some character =>
      if isGap character then
        let isEarlyTab := folding.brokeLine && character == '\t' &&
          (refuseTabBefore.map fun indent => decide (cursor.column < indent)).getD false
        if isEarlyTab then none
        else takeBlank? refuseTabBefore bound cursor.advance (folding.withGap character)
      else if isBreak character then
        let (lineEnd, next) := cursor.takeBreak
        takeBlank? refuseTabBefore bound next (folding.withBreak lineEnd)
      else some (cursor, folding)

/-- Separates the items of a collection in brackets. -/
def isFlowSign (character : Char) : Bool :=
  character == ',' || character == '[' || character == ']' || character == Char.ofNat 123 ||
    character == Char.ofNat 125

/-- Pass the characters of a plain text up to a gap or to a sign that ends it, given last first. -/
def takePlain? (inFlow : Bool) : Nat → Cursor → List Char → Option (Cursor × List Char)
  | 0, cursor, taken => some (cursor, taken)
  | bound + 1, cursor, taken =>
    match cursor.peek? with
    | none => some (cursor, taken)
    | some character =>
      if isGap character || isBreak character then some (cursor, taken)
      else
        let next := cursor.ahead? 1
        if inFlow && character == ':' && (next == some '?' || (next.map isFlowSign).getD false) then none
        else if (character == ':' && cursor.endsAt 1) || (inFlow && isFlowSign character) then
          some (cursor, taken)
        else takePlain? inFlow bound cursor.advance (character :: taken)

/-- Read a plain text: the text, what follows, and whether a line end was passed at its end. -/
def plainScalar? (inFlow : Bool) (indent : Nat) :
    Nat → Cursor → Folding → List Char → Option (List Char × Cursor × Bool)
  | 0, _, _, _ => none
  | bound + 1, cursor, folding, taken =>
    if cursor.atDocumentMark || cursor.sees '#' then some (taken.reverse, cursor, folding.brokeLine)
    else
      match takePlain? inFlow cursor.rest.length cursor [] with
      | none => none
      | some (behind, word) =>
        let written := if word.isEmpty then taken else word ++ folding.folded.reverse ++ taken
        let goesOn := match behind.peek? with
          | none => false
          | some character => isGap character || isBreak character
        if !goesOn then
          some (written.reverse, behind, if word.isEmpty then folding.brokeLine else false)
        else
          let start := if word.isEmpty then folding else {}
          match takeBlank? (some indent) behind.rest.length behind start with
          | none => none
          | some (next, blank) =>
            if !inFlow && next.column < indent then some (written.reverse, next, blank.brokeLine)
            else plainScalar? inFlow indent bound next blank written

/-- The value of hexadecimal digits. -/
def hexadecimal? (digits : List Char) : Option Nat :=
  digits.foldlM
    (fun value digit =>
      if digit.isDigit then some (value * 16 + (digit.toNat - 48))
      else if 'a' ≤ digit ∧ digit ≤ 'f' then some (value * 16 + (digit.toNat - 87))
      else if 'A' ≤ digit ∧ digit ≤ 'F' then some (value * 16 + (digit.toNat - 55))
      else none) 0

/-- The character written by a number of hexadecimal digits. -/
def codePoint? (cursor : Cursor) (digits : Nat) : Option (Char × Cursor) :=
  let written := (cursor.rest.drop 2).take digits
  if written.length < digits then none
  else
    (hexadecimal? written).bind fun code =>
      if (0xD800 ≤ code && code ≤ 0xDFFF) || 0x10FFFF < code then none
      else some (Char.ofNat code, cursor.skip (digits + 2))

/-- The character written behind a backslash. -/
def escape? (cursor : Cursor) : Option (Char × Cursor) :=
  let simple (code : Nat) := some (Char.ofNat code, cursor.skip 2)
  match cursor.ahead? 1 with
  | some '0' => simple 0
  | some 'a' => simple 7
  | some 'b' => simple 8
  | some 't' => simple 9
  | some '\t' => simple 9
  | some 'n' => simple 10
  | some 'v' => simple 11
  | some 'f' => simple 12
  | some 'r' => simple 13
  | some 'e' => simple 27
  | some ' ' => simple 32
  | some '"' => simple 34
  | some '/' => simple 47
  | some '\\' => simple 92
  | some 'N' => simple 0x85
  | some '_' => simple 0xA0
  | some 'L' => simple 0x2028
  | some 'P' => simple 0x2029
  | some 'x' => codePoint? cursor 2
  | some 'u' => codePoint? cursor 4
  | some 'U' => codePoint? cursor 8
  | _ => none

/-- Pass the characters of a quoted text up to a gap, a line end or the closing quote, given last first,
and tell whether an escaped line end was passed. -/
def takeQuoted? (single : Bool) (quote : Char) :
    Nat → Cursor → List Char → Option (Cursor × List Char × Bool)
  | 0, _, _ => none
  | bound + 1, cursor, taken =>
    match cursor.peek? with
    | none => some (cursor, taken, false)
    | some character =>
      if isGap character || isBreak character then some (cursor, taken, false)
      else if single && character == quote && cursor.ahead? 1 == some quote then
        takeQuoted? single quote bound (cursor.skip 2) (quote :: taken)
      else if character == quote then some (cursor, taken, false)
      else if !single && character == '\\' then
        if (cursor.ahead? 1).isSome && cursor.lineEndsAt 1 then
          some (cursor.advance.takeBreak.2, taken, true)
        else
          match escape? cursor with
          | none => none
          | some (meant, next) => takeQuoted? single quote bound next (meant :: taken)
      else takeQuoted? single quote bound cursor.advance (character :: taken)

/-- Read a quoted text behind its opening quote. -/
def quotedScalar? (single : Bool) (quote : Char) :
    Nat → Cursor → List Char → Option (List Char × Cursor)
  | 0, _, _ => none
  | bound + 1, cursor, taken =>
    if cursor.atDocumentMark || cursor.rest.isEmpty then none
    else
      match takeQuoted? single quote (cursor.rest.length + 1) cursor taken with
      | none => none
      | some (behind, written, escapedBreak) =>
        if behind.sees quote then some (written.reverse, behind.advance)
        else
          let start : Folding := if escapedBreak then { brokeLine := true } else {}
          match takeBlank? none behind.rest.length behind start with
          | none => none
          | some (next, blank) => quotedScalar? single quote bound next (blank.folded.reverse ++ written)

/-- What a block keeps of the line ends at its end. -/
inductive Chomping where
  | strip
  | clip
  | keep
deriving Repr, DecidableEq

/-- The header of a block: how it ends, how far it is indented if it says so, and what follows. -/
def blockHeader? (cursor : Cursor) : Option (Chomping × Option Nat × Cursor) :=
  let chomping? (character : Option Char) : Option Chomping :=
    if character == some '+' then some .keep else if character == some '-' then some .strip else none
  let digit? (character : Option Char) : Option (Option Nat) :=
    match character with
    | some digit =>
      if digit == '0' then none else if digit.isDigit then some (some (digit.toNat - 48)) else some none
    | none => some none
  match chomping? cursor.peek? with
  | some chomping =>
    let behind := cursor.advance
    match digit? behind.peek? with
    | none => none
    | some none => some (chomping, none, behind)
    | some (some indent) => some (chomping, some indent, behind.advance)
  | none =>
    match digit? cursor.peek? with
    | none => none
    | some none => some (.clip, none, cursor)
    | some (some indent) =>
      let behind := cursor.advance
      match chomping? behind.peek? with
      | some chomping => some (chomping, some indent, behind.advance)
      | none => some (.clip, some indent, behind)

/-- Pass the empty lines of a block and the indentation of its next line.  The widest indentation met is
kept for a block that does not tell its own. -/
def takeIndentation? (indent : Option Nat) :
    Nat → Cursor → List Char → Nat → Option (Cursor × List Char × Nat)
  | 0, cursor, breaks, widest => some (cursor, breaks, widest)
  | bound + 1, cursor, breaks, widest =>
    let spaces := cursor.rest.takeWhile (· == ' ')
    let count := match indent with
      | none => spaces.length
      | some width => min spaces.length (width - cursor.column)
    let behind := cursor.skip count
    let widest := max widest behind.column
    let within := match indent with
      | none => true
      | some width => behind.column < width
    if within && behind.sees '\t' then none
    else if (behind.peek?.map isBreak).getD false then
      let (lineEnd, next) := behind.takeBreak
      takeIndentation? indent bound next (breaks ++ lineEnd) widest
    else some (behind, breaks, widest)

/-- The lines of a block, the text being given last first, with the line ends that are still open. -/
def blockLines? (literal : Bool) (indent : Nat) :
    Nat → Cursor → List Char → List Char → List Char → Bool → Option (List Char × List Char × List Char × Cursor)
  | 0, _, _, _, _, _ => none
  | bound + 1, cursor, taken, firstBreak, laterBreaks, leadingGap =>
    if cursor.column == indent && !cursor.rest.isEmpty then
      let startsWithGap := (cursor.peek?.map isGap).getD false
      let joint :=
        if !literal && firstBreak.head? == some '\n' && !leadingGap && !startsWithGap then
          (if laterBreaks.isEmpty then [' '] else [])
        else firstBreak
      let (line, behind) := cursor.takeWhile fun character => !isBreak character
      let (lineEnd, next) := behind.takeBreak
      match takeIndentation? (some indent) (next.rest.length + 1) next [] 0 with
      | none => none
      | some (start, breaks, _) =>
        blockLines? literal indent bound start (line.reverse ++ laterBreaks.reverse ++ joint.reverse ++ taken)
          lineEnd breaks startsWithGap
    else some (taken, firstBreak, laterBreaks, cursor)

/-- Pass the rest of a line that may only hold a comment. -/
def takeLineRest? (cursor : Cursor) : Option Cursor :=
  let behind := (cursor.takeWhile isGap).2
  let behind := if behind.sees '#' then (behind.takeWhile fun character => !isBreak character).2 else behind
  if behind.lineEndsAt 0 then some behind.takeBreak.2 else none

/-- Read a block behind its sign, inside a collection that is indented that far. -/
def blockScalar? (literal : Bool) (parentIndent : Int) (cursor : Cursor) : Option (List Char × Cursor) := do
  let (chomping, increment, behind) ← blockHeader? cursor
  let start ← takeLineRest? behind
  let parent := parentIndent.toNat
  let told := increment.map fun width => if 0 ≤ parentIndent then parent + width else width
  let (first, breaks, widest) ← takeIndentation? told (start.rest.length + 1) start [] 0
  let indent := told.getD (max widest (max (parentIndent + 1).toNat 1))
  let (taken, firstBreak, laterBreaks, next) ←
    blockLines? literal indent (first.rest.length + 1) first [] [] breaks false
  let tail := match chomping with
    | .strip => []
    | .clip => firstBreak
    | .keep => firstBreak ++ laterBreaks
  some (taken.reverse ++ tail, next)

end Turnstile.Yaml
