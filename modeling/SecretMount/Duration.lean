/-!
# Durations

A duration is a number of nanoseconds. Its text uses the greatest of the units s, ms, µs and ns
that is not above it, with the exact fraction and no zeros at its end. The greatest duration has
64 bits of whole seconds. The clock counts milliseconds, so that a sleep is rounded up to one.
-/

namespace SecretMount.Duration

/-- A length of time in nanoseconds. -/
abbrev Nanoseconds := Nat

/-- A length of time, or a point of it, in milliseconds. -/
abbrev Milliseconds := Nat

/-- A thousand nanoseconds. -/
def microsecond : Nanoseconds := 1000

/-- A million nanoseconds. -/
def millisecond : Nanoseconds := 1000000

/-- A thousand million nanoseconds. -/
def second : Nanoseconds := 1000000000

/-- The greatest duration: 64 bits of seconds and all but one nanosecond of another. -/
def greatest : Nanoseconds := 0x10000000000000000 * second - 1

/-- Nanoseconds of a number of milliseconds. -/
def ofMilliseconds (ms : Milliseconds) : Nanoseconds := ms * millisecond

/-- Nanoseconds of a number of seconds. -/
def ofSeconds (s : Nat) : Nanoseconds := s * second

/-- The least number of milliseconds that is not shorter. -/
def ceilMilliseconds (ns : Nanoseconds) : Milliseconds := (ns + (millisecond - 1)) / millisecond

/-- A whole number of milliseconds is not rounded. -/
theorem ceilMilliseconds_ofMilliseconds (ms : Nat) :
    ceilMilliseconds (ofMilliseconds ms) = ms := by
  change (ms * 1000000 + 999999) / 1000000 = ms
  omega

/-- The digits of a fraction with the given number of places, without the zeros at its end. -/
def fractionDigits (places fraction : Nat) : List Char :=
  let digits := Nat.toDigits 10 fraction
  let padded := List.replicate (places - digits.length) '0' ++ digits
  (padded.reverse.dropWhile (· = '0')).reverse

/-- A number of units, whose fractions have the given number of places. -/
def textInUnit (unit : Nanoseconds) (places : Nat) (ns : Nanoseconds) : String :=
  let whole := toString (ns / unit)
  if ns % unit = 0 then whole
  else whole ++ "." ++ String.ofList (fractionDigits places (ns % unit))

/-- The text of a duration. -/
def text (ns : Nanoseconds) : String :=
  if second ≤ ns then textInUnit second 9 ns ++ "s"
  else if millisecond ≤ ns then textInUnit millisecond 6 ns ++ "ms"
  else if microsecond ≤ ns then textInUnit microsecond 3 ns ++ "µs"
  else toString ns ++ "ns"

end SecretMount.Duration
