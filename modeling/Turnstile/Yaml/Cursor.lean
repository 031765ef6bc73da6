/-
Module: Turnstile.Yaml.Cursor
Purpose: A place in a document, with the characters ahead of it and its line and column.
Main exports: Cursor, Cursor.peek?, Cursor.advance, Cursor.takeBreak, Cursor.takeWhile
-/

/-!
Documents know four kinds of line ends.  A line feed, a carriage return, the two together, and the next
line sign all count as one line feed; the line and paragraph separators stand for themselves.
-/

namespace Turnstile.Yaml

/-- A place in a document. -/
structure Cursor where
  rest : List Char
  index : Nat := 0
  line : Nat := 0
  column : Nat := 0
deriving Inhabited

/-- Ends a line. -/
def isBreak (character : Char) : Bool :=
  let code := character.toNat
  code == 0x0A || code == 0x0D || code == 0x85 || code == 0x2028 || code == 0x2029

/-- A space or a tab. -/
def isGap (character : Char) : Bool :=
  character == ' ' || character == '\t'

/-- May stand in an anchor or in the handle of a tag. -/
def isWordChar (character : Char) : Bool :=
  character.isAlphanum || character == '_' || character == '-'

/-- May stand in a document at all. -/
def isPrintable (character : Char) : Bool :=
  let code := character.toNat
  code == 0x09 || code == 0x0A || code == 0x0D || (0x20 ≤ code && code ≤ 0x7E) || code == 0x85 ||
    (0xA0 ≤ code && code ≤ 0xD7FF) || (0xE000 ≤ code && code ≤ 0xFFFD) || 0x10000 ≤ code

namespace Cursor

/-- The character ahead. -/
def peek? (cursor : Cursor) : Option Char :=
  cursor.rest.head?

/-- The character that many places ahead. -/
def ahead? (cursor : Cursor) (places : Nat) : Option Char :=
  cursor.rest[places]?

/-- The character ahead is this one. -/
def sees (cursor : Cursor) (character : Char) : Bool :=
  cursor.peek? == some character

/-- That many places ahead a word is over: there is a gap, a line end, or nothing. -/
def endsAt (cursor : Cursor) (places : Nat) : Bool :=
  match cursor.ahead? places with
  | none => true
  | some character => isGap character || isBreak character

/-- That many places ahead the line is over. -/
def lineEndsAt (cursor : Cursor) (places : Nat) : Bool :=
  match cursor.ahead? places with
  | none => true
  | some character => isBreak character

/-- Pass one character of a line. -/
def advance (cursor : Cursor) : Cursor :=
  { cursor with rest := cursor.rest.tail, index := cursor.index + 1, column := cursor.column + 1 }

/-- Pass that many characters of a line. -/
def skip (cursor : Cursor) (places : Nat) : Cursor :=
  { cursor with
    rest := cursor.rest.drop places, index := cursor.index + places, column := cursor.column + places }

/-- Start the next line behind a line end of that many characters. -/
def nextLine (cursor : Cursor) (places : Nat) : Cursor :=
  { rest := cursor.rest.drop places, index := cursor.index + places, line := cursor.line + 1, column := 0 }

/-- Pass a line end, which is given in its one form; without one ahead nothing is passed. -/
def takeBreak (cursor : Cursor) : List Char × Cursor :=
  match cursor.rest with
  | '\r' :: '\n' :: _ => (['\n'], cursor.nextLine 2)
  | character :: _ =>
    if isBreak character then
      let code := character.toNat
      (if code == 0x2028 || code == 0x2029 then [character] else ['\n'], cursor.nextLine 1)
    else ([], cursor)
  | [] => ([], cursor)

/-- Pass the characters of the line for which the test holds. -/
def takeWhile (test : Char → Bool) (cursor : Cursor) : List Char × Cursor :=
  let taken := cursor.rest.takeWhile test
  (taken, cursor.skip taken.length)

/-- A line starts here with the mark between documents, or with the mark behind a document. -/
def atDocumentMark (cursor : Cursor) : Bool :=
  cursor.column == 0 &&
    (cursor.rest.take 3 == ['-', '-', '-'] || cursor.rest.take 3 == ['.', '.', '.']) && cursor.endsAt 3

end Cursor

end Turnstile.Yaml
