/-
Module: Turnstile.Text.Duration
Purpose: Lengths of time to the nanosecond and their short text.
Main exports: Duration, Duration.ofMillis, Duration.ofSeconds, Duration.text
-/

/-!
A duration is written in its largest unit among seconds, milliseconds, microseconds and nanoseconds that
fits at least once, with as many decimals as it needs and no trailing zeros.
-/

namespace Turnstile

/-- A length of time in nanoseconds. -/
structure Duration where
  nanos : Nat
deriving Repr, DecidableEq, Inhabited

namespace Duration

/-- A number of milliseconds. -/
def ofMillis (millis : Nat) : Duration :=
  ⟨millis * 1000000⟩

/-- A number of seconds. -/
def ofSeconds (seconds : Nat) : Duration :=
  ⟨seconds * 1000000000⟩

/-- The whole seconds of the duration. -/
def seconds (duration : Duration) : Nat :=
  duration.nanos / 1000000000

/-- The nanoseconds beyond the whole seconds. -/
def subsecond (duration : Duration) : Nat :=
  duration.nanos % 1000000000

/-- The digits of `value` in `places` places, with leading zeros. -/
def paddedDigits (places value : Nat) : List Char :=
  let digits := (toString value).toList
  List.replicate (places - digits.length) '0' ++ digits

/-- `value / 10 ^ places` in decimal, without trailing zeros after the point. -/
def decimalText (value places : Nat) : String :=
  let unit := Nat.pow 10 places
  let whole := toString (value / unit)
  let digits := ((paddedDigits places (value % unit)).reverse.dropWhile (· == '0')).reverse
  if digits.isEmpty then whole else whole ++ "." ++ String.ofList digits

/-- The duration in its largest fitting unit. -/
def text (duration : Duration) : String :=
  if 1000000000 ≤ duration.nanos then decimalText duration.nanos 9 ++ "s"
  else if 1000000 ≤ duration.nanos then decimalText duration.nanos 6 ++ "ms"
  else if 1000 ≤ duration.nanos then decimalText duration.nanos 3 ++ "µs"
  else decimalText duration.nanos 0 ++ "ns"

end Duration

end Turnstile
