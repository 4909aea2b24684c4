import SecretMount.Proofs.RateLimit.Admission

/-!
# When to try again

In exact arithmetic, refilling a bucket in steps is refilling it at once (`refill_refill`), and an
attempt that fails does nothing but refill (`take_of_empty`), so it makes no difference how often
one is made (`polled`). What a failed attempt is told is the time that is missing until there is a
token (`take_later`). Main statement: `hint_exact`.
-/

namespace SecretMount.RateLimit

namespace Bucket

variable {b : Bucket ℚ ℚ} {s t : ℚ} {times : List ℚ}

/-- What the capacity cuts off in the first step, it cuts off in the second. -/
lemma level_refill (h : 0 ≤ b.rate) (hst : s ≤ t) : (b.refill s).level t = b.level t := by
  have hcame : 0 ≤ (t - s) * b.rate := mul_nonneg (sub_nonneg.2 hst) h
  have hsum : b.tokens + (s - b.refilled) * b.rate + (t - s) * b.rate =
      b.tokens + (t - b.refilled) * b.rate := by ring
  rw [refill_eq]
  show min (min (b.tokens + (s - b.refilled) * b.rate) b.capacity + (t - s) * b.rate) b.capacity =
    min (b.tokens + (t - b.refilled) * b.rate) b.capacity
  rw [← min_add_add_right, hsum, min_assoc, min_eq_right (le_add_of_nonneg_right hcame)]

/-- A refill in between makes no difference to a later one. -/
lemma refill_refill (h : 0 ≤ b.rate) (hst : s ≤ t) : (b.refill s).refill t = b.refill t := by
  rw [refill_eq, level_refill h hst, refill_eq, refill_eq]

/-- How long a bucket that holds less than a token takes to get what is missing. -/
def hint (b : Bucket ℚ ℚ) (t : ℚ) : ℚ := (1 - b.level t) / b.rate

/-- A refill in between makes no difference to a later attempt. -/
lemma take_of_refill (h : 0 ≤ b.rate) (hst : s ≤ t) : (b.refill s).take t = b.take t := by
  simp only [take, refill_refill h hst]

/-- An attempt that fails at a bucket that gets something refills it, and is told how long it takes
to get what is missing. -/
lemma take_of_empty (hrate : 0 < b.rate) (h : b.level t < 1) :
    b.take t = (b.refill t, .retryAfter (b.hint t)) := by
  simp only [take, refill_eq, hint, Counting.atMost, Counting.ofNat, Nat.cast_one, Nat.cast_zero,
    Counting.sub, Counting.div, decide_eq_true_eq, if_neg (not_le.2 h), if_neg (not_le.2 hrate)]

/-- An attempt succeeds just if there is a token. -/
lemma isAdmitted_take_iff (b : Bucket ℚ ℚ) (t : ℚ) :
    (b.take t).2.isAdmitted = true ↔ 1 ≤ b.level t := by
  rcases b.take_cases t with ⟨hone, hadmitted, -⟩ | ⟨hone, hadmitted, -⟩
  · exact iff_of_true hadmitted hone
  · rw [hadmitted]
    exact ⟨nofun, fun hle => absurd hle (not_le.2 hone)⟩

/-- An attempt fails just if there is less than a token. -/
lemma isAdmitted_take_eq_false_iff (b : Bucket ℚ ℚ) (t : ℚ) :
    (b.take t).2.isAdmitted = false ↔ b.level t < 1 := by
  rw [Bool.eq_false_iff, ne_eq, isAdmitted_take_iff, not_le]

/-- Attempts before there is a token all fail, and after them an attempt comes to what it would have
come to without them. -/
lemma polled (hrate : 0 < b.rate) (htimes : times.Pairwise (· ≤ ·))
    (hempty : ∀ s ∈ times, b.level s < 1) :
    b.admissions times = times.map (·, false) ∧
    ∀ t, (∀ s ∈ times, s ≤ t) → (b.after times).take t = b.take t := by
  induction times generalizing b with
  | nil => exact ⟨rfl, fun _ _ => rfl⟩
  | cons s rest ih =>
    obtain ⟨hs, hrest⟩ := List.forall_mem_cons.1 hempty
    obtain ⟨hhead, htimes⟩ := List.pairwise_cons.1 htimes
    -- the first attempt leaves the bucket refilled, and the others find it as empty as before
    have hstep : (b.take s).1 = b.refill s := by rw [take_of_empty hrate hs]
    have hempty' : ∀ u ∈ rest, (b.refill s).level u < 1 := by
      intro u hu
      rw [level_refill hrate.le (hhead u hu)]
      exact hrest u hu
    obtain ⟨hfailed, hsame⟩ := ih (b := b.refill s) hrate htimes hempty'
    constructor
    · rw [admissions, hstep, hfailed, (isAdmitted_take_eq_false_iff b s).2 hs]
      rfl
    · intro t hlater
      obtain ⟨hst, hlater⟩ := List.forall_mem_cons.1 hlater
      rw [after_cons, hstep, hsame t hlater, take_of_refill hrate.le hst]

/-- What an empty bucket holds after a while in which nothing is taken. -/
lemma level_later (hcapacity : 1 ≤ b.capacity) (h : b.level t < 1) (x : ℚ) :
    b.level (t + x) = min (b.level t + x * b.rate) b.capacity := by
  have hsum : b.tokens + (t + x - b.refilled) * b.rate =
      b.tokens + (t - b.refilled) * b.rate + x * b.rate := by ring
  have hlevel : b.level t = b.tokens + (t - b.refilled) * b.rate := by
    rcases min_lt_iff.1 h with hlt | hlt
    · exact min_eq_left (hlt.le.trans hcapacity)
    · exact absurd hcapacity (not_le.2 hlt)
  rw [hlevel, ← hsum]
  rfl

/-- A token is missing for just as long as the hint says. -/
lemma level_later_lt_iff (hcapacity : 1 ≤ b.capacity) (hrate : 0 < b.rate) (h : b.level t < 1)
    (x : ℚ) : b.level (t + x) < 1 ↔ x < b.hint t := by
  rw [level_later hcapacity h, min_lt_iff, or_iff_left (not_lt.2 hcapacity), hint,
    lt_div_iff₀ hrate, lt_sub_iff_add_lt']

/-- As time goes by the hint becomes shorter by this time. -/
lemma hint_later (hcapacity : 1 ≤ b.capacity) (hrate : 0 < b.rate) (h : b.level t < 1) {x : ℚ}
    (hx : x < b.hint t) : b.hint (t + x) = b.hint t - x := by
  have hbelow := (level_later_lt_iff hcapacity hrate h x).2 hx
  have hlevel : b.level (t + x) = b.level t + x * b.rate := by
    rw [level_later hcapacity h] at hbelow ⊢
    rcases min_lt_iff.1 hbelow with hlt | hlt
    · exact min_eq_left (hlt.le.trans hcapacity)
    · exact absurd hcapacity (not_le.2 hlt)
  rw [hint, hint, hlevel, ← sub_sub, sub_div, mul_div_cancel_right₀ x hrate.ne']

/-- An attempt after a while in which nothing is taken succeeds if that was long enough, and if not
it is told what is left. -/
lemma take_later (hcapacity : 1 ≤ b.capacity) (hrate : 0 < b.rate) (h : b.level t < 1) (x : ℚ) :
    ((b.take (t + x)).2.isAdmitted = true ↔ b.hint t ≤ x) ∧
    (x < b.hint t → (b.take (t + x)).2 = .retryAfter (b.hint t - x)) := by
  constructor
  · rw [isAdmitted_take_iff, ← not_lt, level_later_lt_iff hcapacity hrate h, not_lt]
  · intro hx
    rw [take_of_empty hrate ((level_later_lt_iff hcapacity hrate h x).2 hx),
      hint_later hcapacity hrate h hx]

/-- Attempts do not change what the bucket gets in a second. -/
lemma after_rate (b : Bucket ℚ ℚ) (times : List ℚ) : (b.after times).rate = b.rate := by
  induction times generalizing b with
  | nil => rfl
  | cons t rest ih => rw [after_cons, ih, take_rate]

end Bucket

/-- Where an attempt at a bucket that gets something fails, it is told exactly how long to wait: a
later attempt succeeds just if that time has passed, and if not it is told what is left of it. Any
attempts in between fail, and what a later one comes to is the same without them. -/
theorem hint_exact {rate : ℚ} (hrate : 0 < rate) (burst : ℕ) (start t : ℚ) (earlier : List ℚ)
    (h : (start :: (earlier ++ [t])).Pairwise (· ≤ ·)) :
    let b : Bucket ℚ ℚ := (Bucket.full rate burst start).after earlier
    (b.take t).2.isAdmitted = false →
    ∃ d, 0 < d ∧ (b.take t).2 = .retryAfter d ∧
      ∀ polls : List ℚ, (t :: polls).Pairwise (· ≤ ·) → (∀ p ∈ polls, p < t + d) →
        (b.take t).1.admissions polls = polls.map (·, false) ∧
        ∀ x, (∀ p ∈ t :: polls, p ≤ t + x) →
          let later := ((b.take t).1.after polls).take (t + x)
          (later.2.isAdmitted = true ↔ d ≤ x) ∧
          (x < d → later.2 = .retryAfter (d - x)) ∧
          later = (b.take t).1.take (t + x) := by
  intro b hfailed
  have hempty := (b.isAdmitted_take_eq_false_iff t).1 hfailed
  have hrate' : 0 < b.rate := by
    rw [Bucket.after_rate, Bucket.full_rate hrate.le]
    exact hrate
  have hcapacity : 1 ≤ b.capacity := by
    have hearlier : (start :: earlier).Pairwise (· ≤ ·) :=
      h.sublist (List.Sublist.cons_cons _ (List.sublist_append_left _ _))
    exact (Bucket.Sound.after (Bucket.sound_full hrate.le burst start) hearlier).1.one_le_capacity
  have hlast : b.take t = (b.refill t, .retryAfter (b.hint t)) := Bucket.take_of_empty hrate' hempty
  refine ⟨b.hint t, div_pos (sub_pos.2 hempty) hrate', by rw [hlast], ?_⟩
  intro polls hpolls hbefore
  obtain ⟨hstart, hpolls⟩ := List.pairwise_cons.1 hpolls
  have hempty' : ∀ p ∈ polls, (b.refill t).level p < 1 := by
    intro p hp
    have hlt : p - t < b.hint t := sub_lt_iff_lt_add'.2 (hbefore p hp)
    rw [Bucket.level_refill hrate'.le (hstart p hp), ← add_sub_cancel t p]
    exact (Bucket.level_later_lt_iff hcapacity hrate' hempty _).2 hlt
  obtain ⟨hfailed, hsame⟩ := Bucket.polled (b := b.refill t) hrate' hpolls hempty'
  rw [hlast]
  refine ⟨hfailed, ?_⟩
  intro x hx
  obtain ⟨hnow, hx⟩ := List.forall_mem_cons.1 hx
  obtain ⟨hiff, hleft⟩ := Bucket.take_later hcapacity hrate' hempty x
  -- the attempt comes to what it comes to at `b`, with and without the polls
  rw [← Bucket.take_of_refill hrate'.le hnow, ← hsame _ hx] at hiff hleft
  exact ⟨hiff, hleft, hsame _ hx⟩

/-- A bucket of one token that gets two in a second and is tried twice at the start: after half a
second, and not before, there is a token, and it makes no difference that the bucket is tried in
between. -/
theorem hint_exact_polled :
    let b : Bucket ℚ ℚ := (Bucket.full 2 1 0).after [0]
    let polls : List ℚ := [1 / 8, 3 / 8]
    (0 : ℚ) < 2 ∧ [(0 : ℚ), 0, 0].Pairwise (· ≤ ·) ∧ (b.take 0).2.isAdmitted = false ∧
      (b.take 0).2 = .retryAfter (1 / 2) ∧
      ((0 : ℚ) :: polls).Pairwise (· ≤ ·) ∧ (∀ p ∈ polls, p < 0 + 1 / 2) ∧
      (b.take 0).1.admissions polls = [(1 / 8, false), (3 / 8, false)] ∧
      (((b.take 0).1.after polls).take (0 + 1 / 2)).2.isAdmitted = true ∧
      (((b.take 0).1.after polls).take (0 + 7 / 16)).2 = .retryAfter (1 / 2 - 7 / 16) := by
  intro b polls
  have hrate : (0 : ℚ) < 2 := by norm_num
  have hearlier : [(0 : ℚ), 0, 0].Pairwise (· ≤ ·) := by decide +kernel
  have hfailed : (b.take 0).2.isAdmitted = false := by decide +kernel
  have hpolls : ((0 : ℚ) :: polls).Pairwise (· ≤ ·) := by decide +kernel
  obtain ⟨d, -, hhint, hlater⟩ := hint_exact hrate 1 0 0 [0] hearlier hfailed
  have hd : d = 1 / 2 := by
    have htold : (b.take 0).2 = .retryAfter (b.hint 0) := by
      rw [Bucket.take_of_empty (by decide +kernel) (by decide +kernel)]
    have hmissing : b.hint 0 = 1 / 2 := by decide +kernel
    rw [hhint] at htold
    exact (Attempt.retryAfter.inj htold).trans hmissing
  subst hd
  have hbefore : ∀ p ∈ polls, p < 0 + 1 / 2 := by decide +kernel
  obtain ⟨hrefused, hlater⟩ := hlater polls hpolls hbefore
  obtain ⟨hadmitted, -, -⟩ := hlater (1 / 2) (by decide +kernel)
  obtain ⟨-, hleft, -⟩ := hlater (7 / 16) (by decide +kernel)
  exact ⟨hrate, hearlier, hfailed, hhint, hpolls, hbefore, hrefused, hadmitted.2 le_rfl,
    hleft (by norm_num)⟩

end SecretMount.RateLimit
