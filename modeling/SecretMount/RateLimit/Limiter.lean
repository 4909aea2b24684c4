import SecretMount.Backend.Basic
import SecretMount.RateLimit.Bucket

/-!
# Rate limiters

A limiter has a bucket for some kinds of backend; the others are not limited. An attempt to take a
token at a time says for how many milliseconds to wait before the next one.
-/

namespace SecretMount

/-- Tokens per second, and how many tokens a bucket holds. -/
structure RateLimit where
  perSecond : Float
  burst : Nat

/-- Buckets for the kinds of backend that are limited. -/
abbrev Limiter := PerKind (Option (RateLimit.Bucket Float Nat))

/-- The outcome of an attempt, with waiting times on a clock of milliseconds. -/
inductive TokenReply where
  | unlimited
  | admitted
  | retryAfter (ms : Nat)
  | never
deriving Repr, DecidableEq

namespace Limiter

/-- The limiter without any limit. -/
def unlimited : Limiter := ⟨none, none⟩

/-- Limits a kind, with a full bucket, in place of any limit it had. -/
def limit (l : Limiter) (kind : BackendKind) (rate : RateLimit) (now : Nat) : Limiter :=
  PerKind.set l kind (some (.full rate.perSecond rate.burst now))

/-- The reply to an attempt: a sleep before another one is rounded up to a millisecond. -/
def replyOfAttempt : RateLimit.Attempt Float → TokenReply
  | .admitted => .admitted
  | .never => .never
  | .retryAfter seconds =>
    match RateLimit.durationOfSeconds? seconds with
    | some ns => .retryAfter (Duration.ceilMilliseconds ns)
    | none => .never

/-- Tries to take a token of a kind. -/
def tryToken (l : Limiter) (kind : BackendKind) (now : Nat) : TokenReply × Limiter :=
  match l.get kind with
  | none => (.unlimited, l)
  | some bucket =>
    let (bucket, attempt) := bucket.take now
    (replyOfAttempt attempt, PerKind.set l kind (some bucket))

end Limiter

/-- No token became available in time. -/
structure RateLimitExceeded where
  kind : BackendKind
  waited : Duration.Nanoseconds
deriving Repr, DecidableEq

/-- The text of the error. -/
def RateLimitExceeded.message (e : RateLimitExceeded) : String :=
  "no " ++ e.kind.name ++ " rate-limit token available after " ++ Duration.text e.waited

end SecretMount
