/-!
# The shortest decimal that reads back

A positive binary floating-point number stands for an interval of reals: those that are nearer to
it than to its neighbours, the ends included when its significand is even. `Binary.shortest` is the
decimal of fewest digits in that interval, and of those the one nearest to the number itself; of
two equally near ones the even one. All arithmetic is exact, on natural numbers.
-/

namespace SecretMount

/-- The number `digits * 10 ^ exponent`. -/
structure Decimal where
  digits : Nat
  exponent : Int
deriving Repr, DecidableEq

namespace Decimal

/-- The number `significand * 2 ^ exponent`. The gap below it is half as wide when the significand
is the least one of its binade. -/
structure Binary where
  significand : Nat
  exponent : Int
  narrowBelow : Bool
deriving Repr, DecidableEq

/-- The magnitude of a finite double by its bits. -/
def Binary.ofBits (bits : Nat) : Binary :=
  let fraction : Nat := bits % Nat.pow 2 52
  let biased : Nat := bits / Nat.pow 2 52 % Nat.pow 2 11
  if biased = 0 then ⟨fraction, -1074, false⟩
  else ⟨fraction + Nat.pow 2 52, (biased : Int) - 1075, fraction = 0 ∧ 1 < biased⟩

/-- A number and the ends of its interval, as fractions over one denominator. -/
structure Interval where
  lower : Nat
  value : Nat
  upper : Nat
  denominator : Nat
  closed : Bool

/-- The reals that round to the number: a quarter of a unit suffices to write both ends. -/
def Binary.interval (b : Binary) : Interval :=
  let scale := Nat.pow 2 (b.exponent - 2).toNat
  { lower := (4 * b.significand - if b.narrowBelow then 1 else 2) * scale
    value := 4 * b.significand * scale
    upper := (4 * b.significand + 2) * scale
    denominator := Nat.pow 2 (2 - b.exponent).toNat
    closed := b.significand % 2 = 0 }

/-- The exponent of the leading decimal digit of a positive fraction. -/
def leading (num den : Nat) : Int :=
  if den ≤ num then ((Nat.toDigits 10 (num / den)).length : Int) - 1
  else
    let len := (Nat.toDigits 10 (den / num)).length
    if den = num * Nat.pow 10 (len - 1) then 1 - (len : Int) else -(len : Int)

/-- The multiple of `10 ^ place` that stands for the number, if one in its interval is next to
it. -/
def Interval.atPlace (i : Interval) (place : Int) : Option Decimal :=
  let up := Nat.pow 10 (-place).toNat
  let unit := i.denominator * Nat.pow 10 place.toNat
  let value := i.value * up
  let inside := fun g : Nat =>
    if i.closed then decide (i.lower * up ≤ g * unit ∧ g * unit ≤ i.upper * up)
    else decide (i.lower * up < g * unit ∧ g * unit < i.upper * up)
  let below := value / unit
  let above := below + 1
  let belowDistance := value - below * unit
  let aboveDistance := above * unit - value
  match inside below, inside above with
  | true, true =>
    if belowDistance < aboveDistance ∨ (belowDistance = aboveDistance ∧ below % 2 = 0) then
      some ⟨below, place⟩
    else some ⟨above, place⟩
  | true, false => some ⟨below, place⟩
  | false, true => some ⟨above, place⟩
  | false, false => none

/-- The same number without zeros at the end of its digits. -/
def strip (d : Decimal) : Decimal :=
  if h : d.digits ≠ 0 ∧ d.digits % 10 = 0 then strip ⟨d.digits / 10, d.exponent + 1⟩ else d
termination_by d.digits
decreasing_by omega

/-- The shortest decimal of a positive number. Seventeen digits always suffice. -/
def Binary.shortest (b : Binary) : Decimal :=
  let i := b.interval
  let lead := leading i.value i.denominator
  let found := (List.range 17).findSome? fun (n : Nat) => i.atPlace (lead - n)
  (found.getD ⟨0, 0⟩).strip

end Decimal

end SecretMount
