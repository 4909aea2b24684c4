import SecretMount.Proofs.Pass.Exchange
import SecretMount.Proofs.RateLimit.Attempts

/-!
# Waits for a token

What a wait does that is alone at a bucket: it makes attempts at later and later times, of which
none succeeds but the last one, or none at all (`acquire_ends`). Every sleep is a millisecond long at
least, so it makes no more attempts than milliseconds pass, and one (`Tried.few`); how long the
bucket asks it to sleep does not matter. Main statement: `wait_ends`.
-/

namespace SecretMount

namespace RateLimit.Bucket

variable {K T : Type} [Counting K T]

/-- The times of the attempts that succeed. -/
def successes (b : Bucket K T) (times : List T) : List T :=
  ((b.admissions times).filter (·.2)).map (·.1)

/-- The first attempt counts if it succeeds, and then the others. -/
lemma successes_cons (b : Bucket K T) (t : T) (rest : List T) :
    b.successes (t :: rest) =
      if (b.take t).2.isAdmitted then t :: (b.take t).1.successes rest
      else (b.take t).1.successes rest := by
  rw [successes, admissions]
  cases h : (b.take t).2.isAdmitted <;> rfl

end RateLimit.Bucket

/-- The attempts at the bucket of a kind that a trace shows, and whether they succeed. It starts at
the given time, and the clock moves with its sleeps. -/
def Trace.attempts (kind : BackendKind) : Nat → Trace → List (Nat × Bool)
  | _, [] => []
  | now, .asked (.token k) reply :: rest =>
    if k = kind then (now, decide (reply = .admitted)) :: attempts kind now rest
    else attempts kind now rest
  | now, .asked _ _ :: rest => attempts kind now rest
  | now, .slept time :: rest => attempts kind (max now time) rest

/-- An attempt is replied to as admitted if it has succeeded. -/
lemma Limiter.decide_replyOfAttempt (attempt : RateLimit.Attempt Float) :
    decide (replyOfAttempt attempt = .admitted) = attempt.isAdmitted := by
  cases attempt with
  | admitted => rfl
  | never => rfl
  | retryAfter seconds =>
    cases h : RateLimit.durationOfSeconds? seconds <;>
      simp [replyOfAttempt, h, RateLimit.Attempt.isAdmitted]

/-- No attempt at a bucket is replied to as unlimited. -/
lemma Limiter.replyOfAttempt_ne_unlimited (attempt : RateLimit.Attempt Float) :
    replyOfAttempt attempt ≠ .unlimited := by
  cases attempt with
  | admitted => nofun
  | never => nofun
  | retryAfter seconds => cases h : RateLimit.durationOfSeconds? seconds <;> simp [replyOfAttempt, h]

namespace Pass

open Process RateLimit

variable {kind : BackendKind} {bucket : Bucket Float Nat} {w v : World} {t : Trace}
  {times : List Nat} {deadline : Nat}

/-- The world at a time after an attempt that has been made at the bucket of the kind. -/
def afterAttempt (kind : BackendKind) (bucket : Bucket Float Nat) (w : World) (time : Nat) :
    World :=
  { w with
    clock := time
    limiter := PerKind.set w.limiter kind (some (bucket.take w.clock).1) }

/-- After an attempt the bucket of its kind is the one that the attempt leaves. -/
lemma get_afterAttempt (kind : BackendKind) (bucket : Bucket Float Nat) (w : World) (time : Nat) :
    (afterAttempt kind bucket w time).limiter.get kind = some (bucket.take w.clock).1 :=
  (PerKind.get_set _ _ _ _).trans (if_pos rfl)

/-- A sleep after an attempt moves the clock only. -/
lemma sleepUntil_afterAttempt {time : Nat} (h : w.clock ≤ time) :
    (afterAttempt kind bucket w w.clock).sleepUntil time = afterAttempt kind bucket w time := by
  rw [World.sleepUntil, afterAttempt, Nat.max_eq_right h, afterAttempt]

/-- A request for a token is answered by an attempt at the bucket of its kind. -/
lemma answer_token (h : w.limiter.get kind = some bucket) :
    w.answer (.token kind) =
      (Limiter.replyOfAttempt (bucket.take w.clock).2, afterAttempt kind bucket w w.clock) := by
  simp only [World.answer, Limiter.tryToken, h]
  rfl

/-- From `w` to `v`, attempts at the bucket of the kind are all that has been done, at the given
times: each later than the one before, and no more of them than milliseconds pass, and one. -/
structure Tried (kind : BackendKind) (bucket : Bucket Float Nat) (w v : World) (t : Trace)
    (times : List Nat) : Prop where
  clock : w.clock ≤ v.clock
  world : v = { w with
    clock := v.clock
    limiter := PerKind.set w.limiter kind (some (bucket.after times)) }
  attempts : t.attempts kind w.clock = bucket.admissions times
  increasing : times.Pairwise (· < ·)
  within : ∀ time ∈ times, w.clock ≤ time ∧ time ≤ v.clock
  few : times.length ≤ v.clock - w.clock + 1

/-- A single attempt, and time that passes after it. -/
lemma tried_once {time : Nat} (htime : w.clock ≤ time)
    (hattempts : t.attempts kind w.clock = bucket.admissions [w.clock]) :
    Tried kind bucket w (afterAttempt kind bucket w time) t [w.clock] where
  clock := htime
  world := rfl
  attempts := hattempts
  increasing := List.pairwise_singleton _ _
  within := by
    intro first hfirst
    rw [List.mem_singleton.1 hfirst]
    exact ⟨Nat.le_refl _, htime⟩
  few := Nat.le_add_left _ _

/-- The attempts after a sleep come later than the one before it. -/
lemma Tried.cons {reply : TokenReply} {time : Nat} (htime : w.clock < time)
    (hreply : decide (reply = .admitted) = (bucket.take w.clock).2.isAdmitted)
    (h : Tried kind (bucket.take w.clock).1 (afterAttempt kind bucket w time) v t times) :
    Tried kind bucket w v (.asked (.token kind) reply :: .slept time :: t) (w.clock :: times) where
  clock := Nat.le_trans (Nat.le_of_lt htime) h.clock
  world := by
    refine h.world.trans ?_
    rw [afterAttempt, PerKind.set_set, Bucket.after_cons]
  attempts := by
    have hlater : t.attempts kind time = (bucket.take w.clock).1.admissions times := h.attempts
    rw [Trace.attempts, if_pos rfl, Trace.attempts, Nat.max_eq_right (Nat.le_of_lt htime), hlater,
      hreply, Bucket.admissions]
  increasing := by
    refine List.pairwise_cons.2 ⟨?_, h.increasing⟩
    intro later hlater
    exact Nat.lt_of_lt_of_le htime (h.within later hlater).1
  within := by
    have hend : time ≤ v.clock := h.clock
    refine List.forall_mem_cons.2 ⟨⟨Nat.le_refl _, by omega⟩, ?_⟩
    intro later hlater
    have hwithin : time ≤ later ∧ later ≤ v.clock := h.within later hlater
    omega
  few := by
    have hend : time ≤ v.clock := h.clock
    have hfew : times.length ≤ v.clock - time + 1 := h.few
    rw [List.length_cons]
    omega

/-- How the attempts end: one has succeeded, now and not after the deadline, or none has and the
deadline has come. -/
inductive Ended (bucket : Bucket Float Nat) (times : List Nat) (deadline now : Nat) :
    Option Nat → Prop where
  | admitted :
    now ≤ deadline →
    bucket.successes times = [now] →
    Ended bucket times deadline now (some now)
  | late :
    now = deadline →
    bucket.successes times = [] →
    Ended bucket times deadline now none

/-- One more attempt before that fails changes nothing about the end. -/
lemma Ended.cons {time now : Nat} {result : Option Nat}
    (hrefused : (bucket.take time).2.isAdmitted = false)
    (h : Ended (bucket.take time).1 times deadline now result) :
    Ended bucket (time :: times) deadline now result := by
  have hsame : bucket.successes (time :: times) = (bucket.take time).1.successes times := by
    rw [Bucket.successes_cons, hrefused]
    rfl
  cases h with
  | admitted hnow hone => exact .admitted hnow (hsame.trans hone)
  | late hnow hnone => exact .late hnow (hsame.trans hnone)

/-- What is done between `w` and the end are attempts at the bucket of the kind, until one succeeds
or the deadline has come. -/
def TriesUntil (kind : BackendKind) (bucket : Bucket Float Nat) (deadline : Nat) (w : World)
    (ending : Option Nat × World) (t : Trace) : Prop :=
  ∃ times, Tried kind bucket w ending.2 t times ∧
    Ended bucket times deadline ending.2.clock ending.1

/-- An attempt that fails is the last one if the sleep after it lasts until the deadline. -/
lemma triesUntil_late (kind : BackendKind) {reply : TokenReply} (hnow : w.clock ≤ deadline)
    (hreply : decide (reply = .admitted) = (bucket.take w.clock).2.isAdmitted)
    (hrefused : decide (reply = .admitted) = false) :
    TriesUntil kind bucket deadline w (none, afterAttempt kind bucket w deadline)
      [.asked (.token kind) reply, .slept deadline] := by
  have hfailed : (bucket.take w.clock).2.isAdmitted = false := hreply.symm.trans hrefused
  refine ⟨[w.clock], tried_once hnow ?_, .late rfl ?_⟩
  · rw [Trace.attempts, if_pos rfl, Trace.attempts, Trace.attempts, hreply]
    rfl
  · rw [Bucket.successes_cons, hfailed]
    rfl

/-- A wait makes attempts at its bucket until one succeeds or the deadline has come. -/
lemma acquire_ends (hbucket : w.limiter.get kind = some bucket) (hnow : w.clock ≤ deadline) :
    TriesUntil kind bucket deadline w ((acquire kind deadline w.clock).run w)
      ((acquire kind deadline w.clock).trace w) := by
  generalize hclock : w.clock = now at hnow ⊢
  induction now using acquire.induct deadline generalizing w bucket with
  | case1 now ih =>
    subst hclock
    have hrun : (token kind).run w = w.answer (.token kind) := rfl
    have htrace : (token kind).trace w = [.asked (.token kind) (w.answer (.token kind)).1] := rfl
    rw [acquire, run_sequence, trace_sequence, hrun, htrace, answer_token hbucket]
    have hreply := Limiter.decide_replyOfAttempt (bucket.take w.clock).2
    have hlimited := Limiter.replyOfAttempt_ne_unlimited (bucket.take w.clock).2
    generalize Limiter.replyOfAttempt (bucket.take w.clock).2 = reply at hreply hlimited ⊢
    cases reply with
    | unlimited => exact absurd rfl hlimited
    | admitted =>
      refine ⟨[w.clock], tried_once (Nat.le_refl _) ?_, .admitted hnow ?_⟩
      · rw [Bucket.admissions, ← hreply]
        simp [Trace.attempts, Bucket.admissions]
      · rw [Bucket.successes_cons, ← hreply]
        rfl
    | never =>
      simpa [sleepUntil_afterAttempt hnow] using triesUntil_late kind hnow hreply rfl
    | retryAfter ms =>
      dsimp only
      split
      case isTrue hle =>
        have htime : w.clock < w.clock + max ms 1 := by omega
        have hfailed : (bucket.take w.clock).2.isAdmitted = false := hreply.symm.trans rfl
        obtain ⟨times, htried, hended⟩ := ih ms hle (get_afterAttempt kind bucket w _) rfl hle
        simp only [run_sequence, trace_sequence, run_sleepTo, trace_sleepTo, List.cons_append,
          List.nil_append, sleepUntil_afterAttempt (Nat.le_of_lt htime)]
        exact ⟨w.clock :: times, htried.cons htime hreply, hended.cons hfailed⟩
      case isFalse =>
        simpa [sleepUntil_afterAttempt hnow] using triesUntil_late kind hnow hreply rfl

/-- A wait makes its attempts up to the deadline and says how long they took, or that none came in
time. -/
lemma run_wait (kind : BackendKind) (timeout : Duration.Milliseconds) (w : World) :
    (wait kind (Duration.ofMilliseconds timeout)).run w =
      let ending := (acquire kind (w.clock + timeout) w.clock).run w
      (match ending.1 with
        | some time => .ok (time - w.clock)
        | none => .error ⟨kind, Duration.ofMilliseconds timeout⟩,
        ending.2) := by
  simp only [wait, run_sequence, run_clock, Duration.ceilMilliseconds_ofMilliseconds]
  cases ((acquire kind (w.clock + timeout) w.clock).run w).1 with
  | some time => rfl
  | none => rfl

/-- A wait looks at the clock and then makes its attempts. -/
lemma trace_wait (kind : BackendKind) (timeout : Duration.Milliseconds) (w : World) :
    (wait kind (Duration.ofMilliseconds timeout)).trace w =
      .asked .clock w.clock :: (acquire kind (w.clock + timeout) w.clock).trace w := by
  simp only [wait, trace_sequence, run_clock, trace_clock,
    Duration.ceilMilliseconds_ofMilliseconds]
  cases ((acquire kind (w.clock + timeout) w.clock).run w).1 with
  | some time => exact congrArg _ (List.append_nil _)
  | none => exact congrArg _ (List.append_nil _)

/-- Looking at the clock is no attempt. -/
lemma Tried.look (h : Tried kind bucket w v t times) :
    Tried kind bucket w v (.asked .clock w.clock :: t) times :=
  { h with }

/-- Attempts at the bucket of a kind leave those of other kinds as they are. -/
lemma Tried.get_other (h : Tried kind bucket w v t times) {other : BackendKind}
    (hother : other ≠ kind) : v.limiter.get other = w.limiter.get other := by
  rw [h.world]
  exact (PerKind.get_set _ _ _ _).trans (if_neg hother)

/-- A wait at a bucket makes its attempts and ends as they do. -/
lemma wait_of_bucket (timeout : Duration.Milliseconds)
    (hbucket : w.limiter.get kind = some bucket) :
    let waiting := wait kind (Duration.ofMilliseconds timeout)
    let result := (waiting.run w).1
    let after := (waiting.run w).2
    ∃ times, Tried kind bucket w after (waiting.trace w) times ∧
      times.length ≤ timeout + 1 ∧
      ((∃ waited, result = .ok waited ∧ waited ≤ timeout ∧
        after.clock = w.clock + waited ∧
        bucket.successes times = [after.clock]) ∨
      (result = .error ⟨kind, Duration.ofMilliseconds timeout⟩ ∧
        after.clock = w.clock + timeout ∧
        bucket.successes times = [])) := by
  obtain ⟨times, htried, hended⟩ := acquire_ends hbucket (Nat.le_add_right w.clock timeout)
  simp only [run_wait, trace_wait]
  generalize (acquire kind (w.clock + timeout) w.clock).trace w = t at htried ⊢
  generalize (acquire kind (w.clock + timeout) w.clock).run w = ending at htried hended ⊢
  obtain ⟨got, after⟩ := ending
  dsimp only at htried hended ⊢
  have hclock := htried.clock
  have hfew := htried.few
  cases hended with
  | admitted hdeadline hone =>
    exact ⟨times, htried.look, by omega,
      .inl ⟨after.clock - w.clock, rfl, by omega, by omega, hone⟩⟩
  | late hdeadline hnone =>
    exact ⟨times, htried.look, by omega, .inr ⟨rfl, hdeadline, hnone⟩⟩

/-- However a bucket counts, a wait ends. Where there is no bucket it is over at once, and nothing has
changed. Where there is one, the wait makes attempts at later and later times, at most one more than
milliseconds pass, and does nothing else: either exactly one succeeds, within the timeout, and the
wait is over at that time; or none does, and the wait is over when the timeout has passed. The buckets
of other kinds are left alone. -/
theorem wait_ends (kind : BackendKind) (timeout : Duration.Milliseconds) (w : World) :
    let waiting := wait kind (Duration.ofMilliseconds timeout)
    let result := (waiting.run w).1
    let after := (waiting.run w).2
    (w.limiter.get kind = none → waiting.run w = (.ok 0, w)) ∧
    (∀ bucket, w.limiter.get kind = some bucket →
      ∃ times, Tried kind bucket w after (waiting.trace w) times ∧
        times.length ≤ timeout + 1 ∧
        ((∃ waited, result = .ok waited ∧ waited ≤ timeout ∧
          after.clock = w.clock + waited ∧
          bucket.successes times = [after.clock]) ∨
        (result = .error ⟨kind, Duration.ofMilliseconds timeout⟩ ∧
          after.clock = w.clock + timeout ∧
          bucket.successes times = []))) ∧
    (∀ other, other ≠ kind → after.limiter.get other = w.limiter.get other) := by
  intro waiting result after
  have hfree (h : w.limiter.get kind = none) : waiting.run w = (.ok 0, w) :=
    run_wait_of_unlimited h _
  refine ⟨hfree, fun bucket => wait_of_bucket timeout, ?_⟩
  intro other hother
  cases hbucket : w.limiter.get kind with
  | none =>
    show (waiting.run w).2.limiter.get other = w.limiter.get other
    rw [hfree hbucket]
  | some bucket =>
    obtain ⟨times, htried, -⟩ := wait_of_bucket timeout hbucket
    exact htried.get_other hother

end Pass

end SecretMount
