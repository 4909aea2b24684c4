import SecretMount.Duration

/-!
# Exponential backoff

The delay before a retry doubles with every attempt and has a ceiling. The factor stays within 32
bits, where it stops growing, and a delay that no duration can hold is the ceiling.
-/

namespace SecretMount

/-- A delay for the first attempt, and the greatest delay. -/
structure Backoff where
  base : Duration.Nanoseconds := Duration.ofMilliseconds 1000
  ceiling : Duration.Nanoseconds := Duration.ofMilliseconds 10000
deriving Repr, DecidableEq

namespace Backoff

/-- The factor of an attempt: a power of two, or the greatest number of 32 bits. -/
def factor (attempt : Nat) : Nat :=
  if attempt < 32 then Nat.pow 2 attempt else 0xFFFFFFFF

/-- The delay before the given attempt. -/
def delay (b : Backoff) (attempt : Nat) : Duration.Nanoseconds :=
  let product := b.base * factor attempt
  if Duration.greatest < product then b.ceiling else min product b.ceiling

end Backoff

end SecretMount
