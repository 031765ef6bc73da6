/-
Module: Turnstile.Text.Instant
Purpose: Points of time in their dated text, brought to whole seconds of universal time.
Main exports: Instant.normalize?
-/

/-!
A dated text gives a day, a time of day with or without a fraction, and the offset from universal time.
Two texts of the same second are brought to one form, the one with offset `Z` and no fraction.
-/

namespace Turnstile.Instant

/-- The number written by decimal digits; none of other characters. -/
def digits? (characters : List Char) : Option Nat :=
  characters.foldlM
    (fun value character => if character.isDigit then some (value * 10 + (character.toNat - 48)) else none) 0

/-- Whether February of the year has a twenty-ninth day. -/
def isLeap (year : Nat) : Bool :=
  year % 4 == 0 && (year % 100 != 0 || year % 400 == 0)

/-- The number of days of a month. -/
def daysOfMonth (year month : Nat) : Nat :=
  if month = 2 then (if isLeap year then 29 else 28)
  else if month = 4 ∨ month = 6 ∨ month = 9 ∨ month = 11 then 30 else 31

/-- The day before the given one, as year, month and day. -/
def dayBefore : Nat × Nat × Nat → Nat × Nat × Nat
  | (year, month, day) =>
    if 1 < day then (year, month, day - 1)
    else if 1 < month then (year, month - 1, daysOfMonth year (month - 1))
    else (year - 1, 12, 31)

/-- The day after the given one, as year, month and day. -/
def dayAfter : Nat × Nat × Nat → Nat × Nat × Nat
  | (year, month, day) =>
    if day < daysOfMonth year month then (year, month, day + 1)
    else if month < 12 then (year, month + 1, 1)
    else (year + 1, 1, 1)

/-- The seconds east of universal time, written as `Z` or as sign, hours and minutes. -/
def offset? : List Char → Option Int
  | ['Z'] => some 0
  | ['z'] => some 0
  | sign :: h :: i :: ':' :: m :: n :: [] => do
    let hours ← digits? [h, i]
    let minutes ← digits? [m, n]
    if 24 ≤ hours ∨ 60 ≤ minutes then none
    else if sign = '+' then some (hours * 3600 + minutes * 60)
    else if sign = '-' then some (-(hours * 3600 + minutes * 60))
    else none
  | _ => none

/-- What follows the fraction of a second, if there is a fraction; a point alone is none. -/
def afterFraction? : List Char → Option (List Char)
  | '.' :: rest => if (rest.head?.map Char.isDigit).getD false then some (rest.dropWhile Char.isDigit) else none
  | rest => some rest

/-- A number in the given count of digits. -/
def padded (places value : Nat) : List Char :=
  let written := (toString value).toList
  List.replicate (places - written.length) '0' ++ written

/-- The text of a day and a second of that day in universal time. -/
def render (day : Nat × Nat × Nat) (second : Nat) : String :=
  let (year, month, date) := day
  String.ofList (padded 4 year ++ ['-'] ++ padded 2 month ++ ['-'] ++ padded 2 date ++ ['T'] ++
    padded 2 (second / 3600) ++ [':'] ++ padded 2 (second / 60 % 60) ++ [':'] ++ padded 2 (second % 60) ++ ['Z'])

/-- The same second in universal time. -/
def normalizeCharacters? : List Char → Option String
  | y :: e :: a :: r :: '-' :: m :: n :: '-' :: d :: g :: separator :: h :: i :: ':' :: j :: k :: ':' :: s :: t :: rest => do
    let year ← digits? [y, e, a, r]
    let month ← digits? [m, n]
    let date ← digits? [d, g]
    let hour ← digits? [h, i]
    let minute ← digits? [j, k]
    let second ← digits? [s, t]
    let east ← offset? (← afterFraction? rest)
    if separator ≠ 'T' ∧ separator ≠ 't' ∧ separator ≠ ' ' then none
    else if month < 1 ∨ 12 < month ∨ date < 1 ∨ daysOfMonth year month < date then none
    else if 24 ≤ hour ∨ 60 ≤ minute ∨ 60 ≤ second then none
    else
      let shifted : Int := (hour * 3600 + minute * 60 + second : Nat) - east
      if shifted < 0 then some (render (dayBefore (year, month, date)) (shifted + 86400).toNat)
      else if 86400 ≤ shifted then some (render (dayAfter (year, month, date)) (shifted - 86400).toNat)
      else some (render (year, month, date) shifted.toNat)
  | _ => none

/-- The same second in universal time, if the text is a dated one. -/
def normalize? (text : String) : Option String :=
  normalizeCharacters? text.toList

end Turnstile.Instant
