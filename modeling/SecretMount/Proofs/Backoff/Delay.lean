import Mathlib.Tactic.Lemma
import SecretMount.Backoff

/-!
# Delays

The factor of an attempt doubles until 32 bits are full and stays there (`factor_eq_min`). A product
that no duration can hold is above every ceiling, so the delay is the product or the ceiling,
whichever is less (`delay_eq_min`), and the laws of delays come from those of the factor. Main
statements: `delay_formula`, the delay is the base doubled with every attempt up to the ceiling,
unless the factor is full and the ceiling not reached with it (`delay_full_factor` is such a case);
and `delay_growth`, delays grow with the attempt, the base and the ceiling, and at most double.
-/

namespace SecretMount.Backoff

variable {b c : Backoff} {n m : Nat}

/-- The base doubled with every attempt, up to the ceiling, in numbers without a bound. -/
def doubled (b : Backoff) (attempt : Nat) : Duration.Nanoseconds :=
  min (b.base * Nat.pow 2 attempt) b.ceiling

/-- For the first attempts the factor is the power of two. -/
lemma factor_of_lt (h : n < 32) : factor n = Nat.pow 2 n := if_pos h

/-- From attempt 32 on the factor is the greatest number of 32 bits. -/
lemma factor_of_le (h : 32 ≤ n) : factor n = 0xFFFFFFFF := if_neg (Nat.not_lt.2 h)

/-- The powers of two that fit 32 bits. -/
lemma pow_le_of_lt (h : n < 32) : Nat.pow 2 n ≤ 0x80000000 := by
  have hpow : Nat.pow 2 n ≤ Nat.pow 2 31 := Nat.pow_le_pow_right (by omega) (by omega)
  exact Nat.le_trans hpow (by decide)

/-- The powers of two that do not fit 32 bits. -/
lemma lt_pow_of_le (h : 32 ≤ n) : 0xFFFFFFFF < Nat.pow 2 n := by
  have hpow : Nat.pow 2 32 ≤ Nat.pow 2 n := Nat.pow_le_pow_right (by omega) h
  exact Nat.lt_of_lt_of_le (by decide) hpow

/-- The factor is the power of two, cut off at the greatest number of 32 bits. -/
lemma factor_eq_min (n : Nat) : factor n = min (Nat.pow 2 n) 0xFFFFFFFF := by
  rcases Nat.lt_or_ge n 32 with hn | hn
  · have hpow := pow_le_of_lt hn
    rw [factor_of_lt hn]
    omega
  · have hpow := lt_pow_of_le hn
    rw [factor_of_le hn]
    omega

/-- No factor makes a delay shorter than the base. -/
lemma one_le_factor (n : Nat) : 1 ≤ factor n := by
  have hpow : 0 < Nat.pow 2 n := Nat.pow_pos (by omega)
  rw [factor_eq_min]
  omega

/-- Factors grow with the attempts. -/
lemma factor_mono (h : n ≤ m) : factor n ≤ factor m := by
  have hpow : Nat.pow 2 n ≤ Nat.pow 2 m := Nat.pow_le_pow_right (by omega) h
  rw [factor_eq_min, factor_eq_min]
  omega

/-- From one attempt to the next the factor doubles at most. -/
lemma factor_succ_le (n : Nat) : factor (n + 1) ≤ 2 * factor n := by
  have hpow : Nat.pow 2 (n + 1) = Nat.pow 2 n * 2 := Nat.pow_succ 2 n
  rw [factor_eq_min, factor_eq_min]
  omega

/-- A product beyond the greatest duration counts as the ceiling. -/
lemma delay_of_lt (h : Duration.greatest < b.base * factor n) : b.delay n = b.ceiling := if_pos h

/-- A product that is a duration is cut off at the ceiling. -/
lemma delay_of_le (h : b.base * factor n ≤ Duration.greatest) :
    b.delay n = min (b.base * factor n) b.ceiling := if_neg (Nat.not_lt.2 h)

/-- Where the ceiling is a duration, the two cases are one: the product, cut off at the ceiling. -/
lemma delay_eq_min (h : b.ceiling ≤ Duration.greatest) (n : Nat) :
    b.delay n = min (b.base * factor n) b.ceiling := by
  rcases Nat.lt_or_ge Duration.greatest (b.base * factor n) with hgreat | hsmall
  · rw [delay_of_lt hgreat, Nat.min_eq_right (Nat.le_trans h (Nat.le_of_lt hgreat))]
  · exact delay_of_le hsmall

/-- No delay is above the ceiling. -/
lemma delay_le_ceiling (b : Backoff) (n : Nat) : b.delay n ≤ b.ceiling := by
  rcases Nat.lt_or_ge Duration.greatest (b.base * factor n) with hgreat | hsmall
  · exact Nat.le_of_eq (delay_of_lt hgreat)
  · rw [delay_of_le hsmall]
    exact Nat.min_le_right _ _

/-- A delay grows with the product and the ceiling that it comes from. -/
lemma delay_le_delay (hproduct : b.base * factor n ≤ c.base * factor m)
    (hceiling : b.ceiling ≤ c.ceiling) : b.delay n ≤ c.delay m := by
  rcases Nat.lt_or_ge Duration.greatest (c.base * factor m) with hgreat | hsmall
  · rw [delay_of_lt hgreat]
    exact Nat.le_trans (delay_le_ceiling b n) hceiling
  · rw [delay_of_le hsmall, delay_of_le (Nat.le_trans hproduct hsmall)]
    exact Nat.le_min.2 ⟨Nat.le_trans (Nat.min_le_left _ _) hproduct,
      Nat.le_trans (Nat.min_le_right _ _) hceiling⟩

/-- No delay is below the base, unless the ceiling is. -/
lemma min_le_delay (h : b.ceiling ≤ Duration.greatest) (n : Nat) :
    min b.base b.ceiling ≤ b.delay n := by
  have hproduct : b.base ≤ b.base * factor n := Nat.le_mul_of_pos_right _ (one_le_factor n)
  rw [delay_eq_min h]
  exact Nat.le_min.2 ⟨Nat.le_trans (Nat.min_le_left _ _) hproduct, Nat.min_le_right _ _⟩

/-- From one attempt to the next the delay doubles at most. -/
lemma delay_succ_le (h : b.ceiling ≤ Duration.greatest) (n : Nat) :
    b.delay (n + 1) ≤ 2 * b.delay n := by
  have hproduct : b.base * factor (n + 1) ≤ 2 * (b.base * factor n) := by
    rw [Nat.mul_left_comm]
    exact Nat.mul_le_mul_left _ (factor_succ_le n)
  -- capping keeps it: twice a capped delay is capped at twice the ceiling
  have hcapped (x y top : Nat) (hle : x ≤ 2 * y) : min x top ≤ 2 * min y top := by omega
  rw [delay_eq_min h, delay_eq_min h]
  exact hcapped _ _ _ hproduct

/-- The delay is the formula with the full power where the power fits 32 bits, where the base is
zero, and where the ceiling hides the difference. -/
lemma delay_eq_doubled_iff (h : b.ceiling ≤ Duration.greatest) (n : Nat) :
    b.delay n = b.doubled n ↔ n < 32 ∨ b.base = 0 ∨ b.ceiling ≤ b.base * 0xFFFFFFFF := by
  rw [delay_eq_min h, doubled]
  rcases Nat.lt_or_ge n 32 with hn | hn
  · rw [factor_of_lt hn]
    exact ⟨fun _ => .inl hn, fun _ => rfl⟩
  rw [factor_of_le hn]
  rcases Nat.eq_zero_or_pos b.base with hzero | hpos
  · rw [hzero, Nat.zero_mul, Nat.zero_mul]
    exact ⟨fun _ => .inr (.inl rfl), fun _ => rfl⟩
  · have hless : b.base * 0xFFFFFFFF < b.base * Nat.pow 2 n :=
      Nat.mul_lt_mul_of_pos_left (lt_pow_of_le hn) hpos
    have hcapped (x y top : Nat) (hlt : x < y) : min x top = min y top ↔ top ≤ x := by omega
    rw [hcapped _ _ _ hless]
    constructor
    · exact fun hreached => .inr (.inr hreached)
    · rintro (hlt | hzero | hreached)
      · exact absurd hlt (Nat.not_lt.2 hn)
      · exact absurd hzero (Nat.ne_of_gt hpos)
      · exact hreached

/-- A delay is a duration again, and it is the base doubled with every attempt up to the ceiling,
but that the factor stays within 32 bits. That does not show exactly where the factor has room, the
base is zero, or the ceiling is reached with the full factor. -/
theorem delay_formula (b : Backoff) (hceiling : b.ceiling ≤ Duration.greatest) (attempt : Nat) :
    b.delay attempt = min (b.base * min (Nat.pow 2 attempt) 0xFFFFFFFF) b.ceiling ∧
    b.delay attempt ≤ Duration.greatest ∧
    (b.delay attempt = b.doubled attempt ↔
      attempt < 32 ∨ b.base = 0 ∨ b.ceiling ≤ b.base * 0xFFFFFFFF) := by
  refine ⟨?_, ?_, delay_eq_doubled_iff hceiling attempt⟩
  · rw [delay_eq_min hceiling, factor_eq_min]
  · exact Nat.le_trans (delay_le_ceiling b attempt) hceiling

/-- The least base under the greatest ceiling: the delay stops at the full factor. -/
theorem delay_formula_greatest :
    let b : Backoff := ⟨1, Duration.greatest⟩
    b.ceiling ≤ Duration.greatest ∧ b.delay 64 = 0xFFFFFFFF ∧ ¬ b.delay 64 = b.doubled 64 := by
  intro b
  obtain ⟨hdelay, -, hdoubled⟩ := delay_formula b (Nat.le_refl _) 64
  refine ⟨Nat.le_refl _, hdelay.trans (by decide), ?_⟩
  rw [hdoubled]
  decide

/-- The factor has no room for the last doubling, and the delay is a nanosecond less than the base
doubled as often; it stays there at attempts for which that is the ceiling. -/
theorem delay_full_factor :
    let b : Backoff := ⟨1, 10000000000⟩
    b.base ≤ Duration.greatest ∧ b.ceiling ≤ Duration.greatest ∧
      b.delay 32 = 4294967295 ∧ b.doubled 32 = 4294967296 ∧
      b.delay 64 = 4294967295 ∧ b.doubled 64 = b.ceiling := by
  decide

/-- Delays are between the base, or the ceiling if that is less, and the ceiling; they grow with the
attempt and at most double from one to the next; and they grow with the base and with the ceiling. -/
theorem delay_growth (b : Backoff) (hceiling : b.ceiling ≤ Duration.greatest) :
    (∀ n m, n ≤ m →
      min b.base b.ceiling ≤ b.delay n ∧ b.delay n ≤ b.delay m ∧ b.delay m ≤ b.ceiling) ∧
    (∀ n, b.delay (n + 1) ≤ 2 * b.delay n) ∧
    (∀ n base, b.base ≤ base → b.delay n ≤ { b with base }.delay n) ∧
    (∀ n ceiling, b.ceiling ≤ ceiling → b.delay n ≤ { b with ceiling }.delay n) := by
  refine ⟨?_, delay_succ_le hceiling, ?_, ?_⟩
  · intro n m hle
    have hproduct := Nat.mul_le_mul_left b.base (factor_mono hle)
    exact ⟨min_le_delay hceiling n, delay_le_delay hproduct (Nat.le_refl _), delay_le_ceiling b m⟩
  · intro n base hbase
    exact delay_le_delay (Nat.mul_le_mul_right _ hbase) (Nat.le_refl _)
  · intro n ceiling hle
    exact delay_le_delay (Nat.le_refl _) hle

/-- Growth where the factor fills up: from one attempt to the next the delay does not quite double,
and a greater base passes what durations hold and is cut to the ceiling. -/
theorem delay_growth_full_factor :
    let b : Backoff := ⟨1, Duration.greatest⟩
    b.ceiling ≤ Duration.greatest ∧ b.delay 31 ≤ b.delay 32 ∧ b.delay 32 ≤ 2 * b.delay 31 ∧
      b.delay 32 < 2 * b.delay 31 ∧
      b.delay 32 ≤ { b with base := Duration.greatest }.delay 32 := by
  intro b
  obtain ⟨hattempt, hdouble, hbase, -⟩ := delay_growth b (Nat.le_refl _)
  exact ⟨Nat.le_refl _, (hattempt 31 32 (by decide)).2.1, hdouble 31, by decide,
    hbase 32 Duration.greatest (by decide)⟩

end SecretMount.Backoff
