import SecretMount.Decimal.Nearest
import SecretMount.Duration

/-!
# Token buckets

A bucket holds up to a number of tokens and is refilled at a constant rate. `Bucket.take`
refills it up to now and takes a token, or says how long it takes until there is one. The
arithmetic is a parameter: a limiter counts in doubles on a clock of milliseconds, and the rational
numbers, with seconds as times, are the same bucket without rounding. Where a rate may be undefined,
so may every number.
-/

namespace SecretMount.RateLimit

/-- The numbers `K` that a bucket counts with, and the times `T` at which it is used. -/
class Counting (K : Type) (T : outParam Type) where
  ofNat : Nat → K
  /-- The seconds from one time to a later one. -/
  elapsed : T → T → K
  add : K → K → K
  sub : K → K → K
  mul : K → K → K
  div : K → K → K
  /-- The lesser of two numbers, of which one that is undefined does not count. -/
  lesser : K → K → K
  /-- The number itself if it is positive, else zero. -/
  positivePart : K → K
  /-- Whether the first number is at most the second. -/
  atMost : K → K → Bool

/-- A bucket: what it holds, when that was last reckoned, and its limits. -/
structure Bucket (K T : Type) where
  tokens : K
  capacity : K
  rate : K
  refilled : T

/-- The outcome of an attempt to take a token. -/
inductive Attempt (K : Type) where
  | admitted
  /-- The seconds until there is a token. -/
  | retryAfter (seconds : K)
  | never

namespace Bucket

variable {K T : Type} [Counting K T]

open Counting

/-- A full bucket, which holds one token at least. -/
def full (rate : K) (burst : Nat) (now : T) : Bucket K T :=
  let capacity := Counting.ofNat (max burst 1)
  ⟨capacity, capacity, positivePart rate, now⟩

/-- The bucket with what has come in since it was last reckoned. -/
def refill (b : Bucket K T) (now : T) : Bucket K T :=
  { b with
    tokens := lesser (add b.tokens (mul (elapsed b.refilled now) b.rate)) b.capacity
    refilled := now }

/-- Refills the bucket and takes a token if there is one. -/
def take (b : Bucket K T) (now : T) : Bucket K T × Attempt K :=
  let b := b.refill now
  let one : K := Counting.ofNat 1
  if atMost one b.tokens then ({ b with tokens := sub b.tokens one }, .admitted)
  else if atMost b.rate (Counting.ofNat 0) then (b, .never)
  else (b, .retryAfter (div (sub one b.tokens) b.rate))

end Bucket

instance : Counting Rat Rat where
  ofNat n := (n : Rat)
  elapsed s t := t - s
  add := (· + ·)
  sub := (· - ·)
  mul := (· * ·)
  div := (· / ·)
  lesser x y := if x ≤ y then x else y
  positivePart x := if 0 < x then x else 0
  atMost x y := decide (x ≤ y)

/-- Exact arithmetic with a number that is undefined, as the setting of a rate can be. -/
instance : Counting (Option Rat) Rat where
  ofNat n := some (n : Rat)
  elapsed s t := some (t - s)
  add x y := do return (← x) + (← y)
  sub x y := do return (← x) - (← y)
  mul x y := do return (← x) * (← y)
  div x y := do return (← x) / (← y)
  lesser
    | none, y => y
    | x, none => x
    | some x, some y => some (if x ≤ y then x else y)
  positivePart
    | none => some 0
    | some x => some (if 0 < x then x else 0)
  atMost
    | some x, some y => decide (x ≤ y)
    | _, _ => false

/-- Milliseconds as seconds: the whole seconds plus the rest, divided on its own. -/
def secondsOfMilliseconds (ms : Nat) : Float :=
  Float.ofNat (ms / 1000) +
    Float.ofNat (Duration.ofMilliseconds (ms % 1000)) / Float.ofNat Duration.second

instance : Counting Float Nat where
  ofNat := Float.ofNat
  elapsed s t := secondsOfMilliseconds (t - s)
  add := (· + ·)
  sub := (· - ·)
  mul := (· * ·)
  div := (· / ·)
  lesser x y := if x.isNaN then y else if y.isNaN then x else if x ≤ y then x else y
  positivePart x := if 0 < x then x else 0
  atMost x y := x ≤ y

/-- Seconds to the nearest nanosecond, a half going to the even one. There is no duration for a
negative or undefined number or for one beyond the greatest duration. -/
def durationOfSeconds? (x : Float) : Option Duration.Nanoseconds :=
  if x.isNaN || x.isInf || x < 0 then none
  else
    let b := Decimal.Binary.ofBits (x.toBits.toNat % Nat.pow 2 63)
    let num := b.significand * Nat.pow 2 b.exponent.toNat * Duration.second
    let ns := Decimal.roundedQuotient num (Nat.pow 2 (-b.exponent).toNat)
    if Duration.greatest < ns then none else some ns

end SecretMount.RateLimit
