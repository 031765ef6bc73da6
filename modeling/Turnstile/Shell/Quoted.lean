/-
Module: Turnstile.Shell.Quoted
Purpose: Words of a shell script, written so that the shell reads back exactly the given text.
Main exports: Shell.isPlain, Shell.quoted, Shell.quote
-/

/-!
A word of harmless characters alone is written as it is.  Every other word, the empty one included, goes
between single quotes, where the shell takes each character for itself; a single quote inside closes the
quotes, follows behind a backslash, and opens them again.
-/

namespace Turnstile.Shell

/-- The single quote. -/
def apostrophe : Char := Char.ofNat 39

/-- Characters that mean nothing but themselves anywhere in a word. -/
def isPlain (character : Char) : Bool :=
  ('a' ≤ character && character ≤ 'z') || ('A' ≤ character && character ≤ 'Z') ||
    ('0' ≤ character && character ≤ '9') || "-_./=:@%+,".toList.contains character

/-- One character inside single quotes. -/
def quotedChar (character : Char) : List Char :=
  if character = apostrophe then [apostrophe, '\\', apostrophe, apostrophe] else [character]

/-- The written form of a word. -/
def quoted (word : List Char) : List Char :=
  if !word.isEmpty && word.all isPlain then word
  else apostrophe :: word.flatMap quotedChar ++ [apostrophe]

/-- The written form of a word, as text. -/
def quote (word : String) : String :=
  String.ofList (quoted word.toList)

end Turnstile.Shell
