import SecretMount.Decimal.Nearest
import SecretMount.Json.Basic

/-!
# Numbers as they are written

A `Numeral` keeps the digits of a number's text. `Numeral.value?` gives the number: an integer if
the text has neither fraction nor exponent and 64 bits hold it, else a double. The double comes
from the leading digits that fit an unsigned 64-bit word, scaled by one power of ten, so that it
may differ from the nearest one in its last place; a number beyond the doubles has no value.
Minus zero is a double.
-/

namespace SecretMount.Json

/-- The text of a number, taken apart. -/
structure Numeral where
  negative : Bool
  whole : List Char
  /-- The digits after the point; there is no point without digits. -/
  fraction : List Char
  /-- Whether the exponent is negative, and its digits. -/
  exponent : Option (Bool × List Char)
deriving Repr, DecidableEq

namespace Numeral

/-- The first word that a 64-bit significand cannot hold. -/
def wordLimit : Nat := 0x10000000000000000

/-- Takes digits while the significand fits a word; also says which digits are left. -/
def takeFitting (significand : Nat) : List Char → Nat × List Char
  | [] => (significand, [])
  | c :: rest =>
    let next := 10 * significand + (c.toNat - 48)
    if next < wordLimit then takeFitting next rest else (significand, c :: rest)

/-- A power of ten as a double. -/
def powerOfTen (n : Nat) : Float :=
  (⟨1, n⟩ : Decimal).toFloat

/-- Scales by a power of ten with one multiplication or division, after as many divisions by
`1e308` as a very small exponent needs; there is no result beyond the doubles. -/
def scale? (x : Float) (exponent : Int) : Option Float :=
  if exponent.natAbs ≤ 308 then
    if 0 ≤ exponent then
      let y := x * powerOfTen exponent.natAbs
      if y.isInf then none else some y
    else some (x / powerOfTen exponent.natAbs)
  else if x == 0 then some x
  else if 0 ≤ exponent then none
  else scale? (x / powerOfTen 308) (exponent + 308)
termination_by exponent.natAbs
decreasing_by omega

/-- The exponent that is written, zero if none is. -/
def writtenExponent (n : Numeral) : Int :=
  match n.exponent with
  | none => 0
  | some (negative, digits) =>
    let magnitude : Int := Nat.ofDigitChars 10 digits 0
    if negative then -magnitude else magnitude

/-- The number as a double: whole digits that do not fit raise the exponent, and fraction digits
that do not fit are dropped. -/
def float? (n : Numeral) : Option Float := do
  let (significand, wholeLeft) := takeFitting 0 n.whole
  let (significand, fractionLeft) := takeFitting significand n.fraction
  let taken : Int := (n.fraction.length : Int) - fractionLeft.length
  let x ← scale? (UInt64.ofNat significand).toFloat
    ((wholeLeft.length : Int) - taken + n.writtenExponent)
  pure (if n.negative then -x else x)

/-- The value of the number, if a number of 64 bits is near it. -/
def value? (n : Numeral) : Option Number :=
  if n.fraction = [] ∧ n.exponent = none then
    let magnitude := Nat.ofDigitChars 10 n.whole 0
    if n.negative then
      if 1 ≤ magnitude ∧ magnitude ≤ Nat.pow 2 63 then some (.int (-magnitude))
      else n.float?.map .float
    else if magnitude < wordLimit then some (.int magnitude)
    else n.float?.map .float
  else n.float?.map .float

end Numeral

end SecretMount.Json
