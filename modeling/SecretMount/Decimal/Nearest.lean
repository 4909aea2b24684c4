import SecretMount.Decimal.Shortest

/-!
# The double nearest to a decimal

A decimal is read as the nearest double, ties going to the even significand; what is at least half
a unit above the greatest double is infinite. The arithmetic is exact, on natural numbers.
-/

namespace SecretMount.Decimal

/-- The quotient to the nearest whole number, a half going to the even one. -/
def roundedQuotient (num den : Nat) : Nat :=
  let q := num / den
  let twice := 2 * (num % den)
  if den < twice ∨ (twice = den ∧ q % 2 = 1) then q + 1 else q

/-- The bits of infinity. -/
def infinityBits : Nat := 2047 * Nat.pow 2 52

/-- The bits of the double nearest to a positive fraction. -/
def nearestBitsOfFraction (num den : Nat) : Nat :=
  let estimate := (num.log2 : Int) - (den.log2 : Int) - 52
  let reaches := fun (q : Int) =>
    decide (den * Nat.pow 2 (q + 52).toNat ≤ num * Nat.pow 2 (-(q + 52)).toNat)
  let place := max (-1074) (if reaches estimate then estimate else estimate - 1)
  let significand :=
    roundedQuotient (num * Nat.pow 2 (-place).toNat) (den * Nat.pow 2 place.toNat)
  -- a significand of 2 ^ 53 carries into the exponent, one below 2 ^ 52 has exponent field zero
  min infinityBits ((place + 1074).toNat * Nat.pow 2 52 + significand)

/-- The bits of the double nearest to the number. -/
def nearestBits (d : Decimal) : Nat :=
  let size : Int := (Nat.toDigits 10 d.digits).length + d.exponent
  if d.digits = 0 ∨ size < -400 then 0
  else if 400 < size then infinityBits
  else
    nearestBitsOfFraction (d.digits * Nat.pow 10 d.exponent.toNat)
      (Nat.pow 10 (-d.exponent).toNat)

/-- The double nearest to the number. -/
def toFloat (d : Decimal) : Float :=
  Float.ofBits (UInt64.ofNat d.nearestBits)

end SecretMount.Decimal
