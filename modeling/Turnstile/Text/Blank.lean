/-
Module: Turnstile.Text.Blank
Purpose: White space as the character property of that name, and the removal of it at both ends of a text.
Main exports: Blank.isBlank, Blank.trimmed, Blank.trim, Blank.isEmpty
-/

/-!
White space is the set of the twenty-five characters with the property White_Space.  It leaves out the
zero width space and the byte order mark.
-/

namespace Turnstile.Blank

/-- A character with the property White_Space. -/
def isBlank (character : Char) : Bool :=
  let code := character.toNat
  (0x09 ≤ code && code ≤ 0x0D) || code == 0x20 || code == 0x85 || code == 0xA0 || code == 0x1680 ||
    (0x2000 ≤ code && code ≤ 0x200A) || code == 0x2028 || code == 0x2029 || code == 0x202F ||
    code == 0x205F || code == 0x3000

/-- The characters without the white space before the first and after the last other character. -/
def trimmed (characters : List Char) : List Char :=
  ((characters.dropWhile isBlank).reverse.dropWhile isBlank).reverse

/-- The text without white space at its ends. -/
def trim (text : String) : String :=
  String.ofList (trimmed text.toList)

/-- A text of nothing but white space. -/
def isEmpty (text : String) : Bool :=
  text.toList.all isBlank

end Turnstile.Blank
