/-
Module: Turnstile.Launch.RunName
Purpose: Fresh names for runs.
Main exports: RunName.ofNumber, RunName.count
-/

/-!
A run name is a fixed stem and five characters, each a small letter or a digit.  A launch picks one of them
by a random number below `RunName.count`.
-/

namespace Turnstile.RunName

/-- The characters that names are made of. -/
def alphabet : List Char :=
  "abcdefghijklmnopqrstuvwxyz0123456789".toList

/-- How many characters follow the stem. -/
def length : Nat := 5

/-- How many names there are. -/
def count : Nat :=
  Nat.pow alphabet.length length

/-- The lowest `places` digits of a number, written in the alphabet. -/
def digits : Nat → Nat → List Char
  | 0, _ => []
  | places + 1, number =>
    alphabet.getD (number % alphabet.length) 'a' :: digits places (number / alphabet.length)

/-- The name for a number. -/
def ofNumber (number : Nat) : String :=
  "run-" ++ String.ofList (digits length number)

end Turnstile.RunName
