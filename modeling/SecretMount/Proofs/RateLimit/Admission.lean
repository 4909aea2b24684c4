import Mathlib.Algebra.Order.Field.Basic
import Mathlib.Algebra.Order.Field.Rat
import Mathlib.Tactic.Linarith
import Mathlib.Tactic.Ring
import SecretMount.Proofs.RateLimit.Attempts

/-!
# How many attempts are admitted

In exact arithmetic, a bucket admits in any window of time no more attempts than it can hold tokens
and gets tokens during the window. The budget of a bucket up to a time is what it holds and what it
gets until then (`budget`): an attempt that is admitted takes one from it, and no attempt adds to it
(`admitted_add_budget_take`), so it bounds all that is admitted up to that time
(`admittedIn_le_budget`). Where a window starts, the budget is bounded by the capacity
(`admittedIn_le`). A rate that is undefined or not positive counts as zero (`full_eq_lift`). Main
statement: `admitted_bounded`.
-/

namespace SecretMount.RateLimit

namespace Bucket

section Counts

variable {K T : Type} [Counting K T] [LE T] [DecidableLE T]

/-- How many of the attempts at the given times are admitted in a window, its ends included. -/
def admittedIn (b : Bucket K T) (times : List T) (s e : T) : ℕ :=
  (b.admissions times).countP fun a => a.2 && decide (s ≤ a.1 ∧ a.1 ≤ e)

/-- Of no attempts none is admitted. -/
@[simp] lemma admittedIn_nil (b : Bucket K T) (s e : T) : b.admittedIn [] s e = 0 := rfl

/-- What is admitted of the first attempt, if it lies in the window, and of those after it. -/
lemma admittedIn_cons (b : Bucket K T) (t : T) (rest : List T) (s e : T) :
    b.admittedIn (t :: rest) s e =
      (b.take t).1.admittedIn rest s e +
        if s ≤ t ∧ t ≤ e then (b.take t).2.isAdmitted.toNat else 0 := by
  rw [admittedIn, admissions, List.countP_cons, admittedIn]
  by_cases hin : s ≤ t ∧ t ≤ e <;> cases (b.take t).2.isAdmitted <;> simp [hin]

end Counts

section Exact

variable {b : Bucket ℚ ℚ} {t s e : ℚ} {times : List ℚ}

/-- What the bucket holds at a time before anything is taken. -/
def level (b : Bucket ℚ ℚ) (t : ℚ) : ℚ :=
  min (b.tokens + (t - b.refilled) * b.rate) b.capacity

/-- After a refill the bucket holds its level at that time. -/
lemma refill_eq (b : Bucket ℚ ℚ) (t : ℚ) :
    b.refill t = { b with tokens := b.level t, refilled := t } := by
  have hlevel : (b.refill t).tokens = b.level t := (min_def _ _).symm
  rw [← hlevel]
  rfl

/-- Either there is a token and it is taken, or the attempt fails and only what has come in is
reckoned. -/
lemma take_cases (b : Bucket ℚ ℚ) (t : ℚ) :
    (1 ≤ b.level t ∧ (b.take t).2.isAdmitted = true ∧
      (b.take t).1 = { b with tokens := b.level t - 1, refilled := t }) ∨
    (b.level t < 1 ∧ (b.take t).2.isAdmitted = false ∧
      (b.take t).1 = { b with tokens := b.level t, refilled := t }) := by
  by_cases hone : 1 ≤ b.level t
  · refine .inl ⟨hone, ?_⟩
    simp [take, b.refill_eq t, Counting.atMost, Counting.ofNat, Counting.sub, hone,
      Attempt.isAdmitted]
  · refine .inr ⟨not_le.1 hone, ?_⟩
    simp only [take, b.refill_eq t, Counting.atMost, Counting.ofNat, Nat.cast_one,
      decide_eq_true_eq, if_neg hone]
    split <;> exact ⟨rfl, rfl⟩

/-- What every bucket keeps to: it holds no more than its capacity, which is one token at least,
and loses nothing as time goes by. -/
structure Sound (b : Bucket ℚ ℚ) : Prop where
  nonneg : 0 ≤ b.tokens
  le_capacity : b.tokens ≤ b.capacity
  one_le_capacity : 1 ≤ b.capacity
  rate_nonneg : 0 ≤ b.rate

/-- A sound bucket never holds less than nothing. -/
lemma Sound.level_nonneg (h : b.Sound) (ht : b.refilled ≤ t) : 0 ≤ b.level t := by
  have hcame : 0 ≤ (t - b.refilled) * b.rate := mul_nonneg (sub_nonneg.2 ht) h.rate_nonneg
  exact le_min (add_nonneg h.nonneg hcame) (zero_le_one.trans h.one_le_capacity)

/-- An attempt leaves a bucket sound. -/
lemma Sound.take (h : b.Sound) (ht : b.refilled ≤ t) : (b.take t).1.Sound := by
  have hcapacity : b.level t ≤ b.capacity := min_le_right _ _
  rcases b.take_cases t with ⟨hone, -, hafter⟩ | ⟨-, -, hafter⟩
  · rw [hafter]
    exact ⟨sub_nonneg.2 hone, by linarith, h.one_le_capacity, h.rate_nonneg⟩
  · rw [hafter]
    exact ⟨h.level_nonneg ht, hcapacity, h.one_le_capacity, h.rate_nonneg⟩

/-- After an attempt the bucket is reckoned up to its time. -/
lemma take_refilled (b : Bucket ℚ ℚ) (t : ℚ) : (b.take t).1.refilled = t := by
  rcases b.take_cases t with ⟨-, -, hafter⟩ | ⟨-, -, hafter⟩ <;> rw [hafter]

/-- An attempt does not change what the bucket can hold. -/
lemma take_capacity (b : Bucket ℚ ℚ) (t : ℚ) : (b.take t).1.capacity = b.capacity := by
  rcases b.take_cases t with ⟨-, -, hafter⟩ | ⟨-, -, hafter⟩ <;> rw [hafter]

/-- An attempt does not change what the bucket gets in a second. -/
lemma take_rate (b : Bucket ℚ ℚ) (t : ℚ) : (b.take t).1.rate = b.rate := by
  rcases b.take_cases t with ⟨-, -, hafter⟩ | ⟨-, -, hafter⟩ <;> rw [hafter]

/-- What is taken and what is left make up what was there. -/
lemma admitted_add_tokens_take (b : Bucket ℚ ℚ) (t : ℚ) :
    ((b.take t).2.isAdmitted.toNat : ℚ) + (b.take t).1.tokens = b.level t := by
  rcases b.take_cases t with ⟨-, hadmitted, hafter⟩ | ⟨-, hadmitted, hafter⟩
  · rw [hafter, hadmitted]
    simp
  · rw [hafter, hadmitted]
    simp

/-- What the bucket holds and what it gets up to a time. -/
def budget (b : Bucket ℚ ℚ) (e : ℚ) : ℚ := b.tokens + b.rate * (e - b.refilled)

/-- The budget of a sound bucket is never less than nothing. -/
lemma Sound.budget_nonneg (h : b.Sound) (he : b.refilled ≤ e) : 0 ≤ b.budget e :=
  add_nonneg h.nonneg (mul_nonneg h.rate_nonneg (sub_nonneg.2 he))

/-- The budget after an attempt is what is left and what comes in from then. -/
lemma budget_take (b : Bucket ℚ ℚ) (t e : ℚ) :
    (b.take t).1.budget e = (b.take t).1.tokens + b.rate * (e - t) := by
  rw [budget, take_rate, take_refilled]

/-- An attempt takes from the budget what it admits; what the capacity cuts off is lost. -/
lemma admitted_add_budget_take (b : Bucket ℚ ℚ) (t e : ℚ) :
    ((b.take t).2.isAdmitted.toNat : ℚ) + (b.take t).1.budget e ≤ b.budget e := by
  have htaken := b.admitted_add_tokens_take t
  have hlevel : b.level t ≤ b.tokens + (t - b.refilled) * b.rate := min_le_left _ _
  rw [budget_take, budget]
  linarith

/-- Right after an attempt the budget is no more than the capacity and what comes in from then. -/
lemma admitted_add_budget_take_le (b : Bucket ℚ ℚ) (t e : ℚ) :
    ((b.take t).2.isAdmitted.toNat : ℚ) + (b.take t).1.budget e ≤
      b.capacity + b.rate * (e - t) := by
  have htaken := b.admitted_add_tokens_take t
  have hlevel : b.level t ≤ b.capacity := min_le_right _ _
  rw [budget_take]
  linarith

/-- After the end of a window nothing counts. -/
lemma admittedIn_of_later (b : Bucket ℚ ℚ) (s : ℚ) (h : ∀ t ∈ times, e < t) :
    b.admittedIn times s e = 0 := by
  induction times generalizing b with
  | nil => rfl
  | cons t rest ih =>
    obtain ⟨ht, hrest⟩ := List.forall_mem_cons.1 h
    rw [admittedIn_cons, ih _ hrest, if_neg fun hin => not_lt.2 hin.2 ht]

/-- Where the first of several attempts lies after the end of a window, all of them do. -/
lemma later_of_sorted {rest : List ℚ} (h : (t :: rest).Pairwise (· ≤ ·)) (ht : e < t) :
    ∀ u ∈ t :: rest, e < u := by
  intro u hu
  rcases List.mem_cons.1 hu with rfl | hu
  · exact ht
  · exact ht.trans_le (List.rel_of_pairwise_cons h hu)

/-- No more is admitted up to a time than the budget up to then. -/
lemma admittedIn_le_budget (h : b.Sound) (htimes : (b.refilled :: times).Pairwise (· ≤ ·))
    (s : ℚ) (he : b.refilled ≤ e) : (b.admittedIn times s e : ℚ) ≤ b.budget e := by
  induction times generalizing b with
  | nil => simpa using h.budget_nonneg he
  | cons t rest ih =>
    obtain ⟨hstart, hrest⟩ := List.pairwise_cons.1 htimes
    have ht : b.refilled ≤ t := hstart t List.mem_cons_self
    by_cases hte : t ≤ e
    · have hlater := ih (h.take ht) (by rwa [take_refilled]) (by rwa [take_refilled])
      have hstep := b.admitted_add_budget_take t e
      have hcounted : ((if s ≤ t ∧ t ≤ e then (b.take t).2.isAdmitted.toNat else 0 : ℕ) : ℚ) ≤
          (b.take t).2.isAdmitted.toNat := by
        split
        case isTrue => exact le_rfl
        case isFalse => exact Nat.cast_le.2 (Nat.zero_le _)
      rw [admittedIn_cons, Nat.cast_add]
      linarith
    · rw [b.admittedIn_of_later s (later_of_sorted hrest (not_le.1 hte))]
      simpa using h.budget_nonneg he

/-- A window of time allows for no less than nothing. -/
lemma Sound.allowance_nonneg (h : b.Sound) (hse : s ≤ e) : 0 ≤ b.capacity + b.rate * (e - s) :=
  add_nonneg (zero_le_one.trans h.one_le_capacity)
    (mul_nonneg h.rate_nonneg (sub_nonneg.2 hse))

/-- In no window is more admitted than the capacity and what comes in during the window. -/
lemma admittedIn_le (h : b.Sound) (htimes : (b.refilled :: times).Pairwise (· ≤ ·)) (hse : s ≤ e) :
    (b.admittedIn times s e : ℚ) ≤ b.capacity + b.rate * (e - s) := by
  induction times generalizing b with
  | nil => simpa using h.allowance_nonneg hse
  | cons t rest ih =>
    obtain ⟨hstart, hrest⟩ := List.pairwise_cons.1 htimes
    have hsound := h.take (hstart t List.mem_cons_self)
    have htimes' : ((b.take t).1.refilled :: rest).Pairwise (· ≤ ·) := by rwa [take_refilled]
    by_cases hts : t < s
    · -- the attempt lies before the window
      have hlater := ih hsound htimes'
      rw [admittedIn_cons, if_neg fun hin => not_le.2 hts hin.1]
      rwa [take_capacity, take_rate] at hlater
    by_cases hte : t ≤ e
    · -- the window starts with this attempt, and from here on the budget counts
      have he : (b.take t).1.refilled ≤ e := by rwa [take_refilled]
      have hlater := admittedIn_le_budget hsound htimes' s he
      have hstep := b.admitted_add_budget_take_le t e
      have hrate : b.rate * (e - t) ≤ b.rate * (e - s) :=
        mul_le_mul_of_nonneg_left (by linarith [not_lt.1 hts]) h.rate_nonneg
      rw [admittedIn_cons, if_pos ⟨not_lt.1 hts, hte⟩, Nat.cast_add]
      linarith
    · rw [b.admittedIn_of_later s (later_of_sorted hrest (not_le.1 hte))]
      simpa using h.allowance_nonneg hse

/-- Attempts leave a bucket sound and with the same capacity. -/
lemma Sound.after (h : b.Sound) (htimes : (b.refilled :: times).Pairwise (· ≤ ·)) :
    (b.after times).Sound ∧ (b.after times).capacity = b.capacity := by
  induction times generalizing b with
  | nil => exact ⟨h, rfl⟩
  | cons t rest ih =>
    obtain ⟨hstart, hrest⟩ := List.pairwise_cons.1 htimes
    obtain ⟨hsound, hcapacity⟩ := ih (h.take (hstart t List.mem_cons_self)) (by rwa [take_refilled])
    exact ⟨hsound, hcapacity.trans (b.take_capacity t)⟩

/-- A bucket that gets nothing admits as many attempts as it holds tokens, and then none. -/
lemma admitted_iff_of_rate_zero {n i : ℕ} {a : ℚ × Bool} (hrate : b.rate = 0)
    (htokens : b.tokens = n) (hcapacity : b.tokens ≤ b.capacity)
    (ha : (b.admissions times)[i]? = some a) : a.2 = true ↔ i < n := by
  induction times generalizing b n i with
  | nil => cases ha
  | cons t rest ih =>
    have hlevel : b.level t = n := by
      rw [level, hrate, mul_zero, add_zero, min_eq_left hcapacity, htokens]
    rcases b.take_cases t with ⟨hone, hadmitted, hafter⟩ | ⟨hone, hadmitted, hafter⟩
    · obtain ⟨m, rfl⟩ : ∃ m, n = m + 1 := by
        refine Nat.exists_eq_succ_of_ne_zero ?_
        rintro rfl
        rw [hlevel] at hone
        exact absurd hone (by norm_num)
      cases i with
      | zero =>
        cases ha
        simp [hadmitted]
      | succ i =>
        have hleft : (b.take t).1.tokens = m := by simp [hafter, hlevel]
        rw [Nat.add_lt_add_iff_right]
        refine ih (b.take_rate t ▸ hrate) hleft ?_ ha
        rw [take_capacity, hleft]
        have : (m : ℚ) + 1 ≤ b.capacity := by simpa [htokens] using hcapacity
        linarith
    · obtain rfl : n = 0 := by
        rw [hlevel] at hone
        exact Nat.lt_one_iff.1 (by exact_mod_cast hone)
      cases i with
      | zero =>
        cases ha
        simp [hadmitted]
      | succ i =>
        have hleft : (b.take t).1.tokens = (0 : ℕ) := by rw [hafter, hlevel]
        simpa using ih (b.take_rate t ▸ hrate) hleft (by
          rw [take_capacity, hleft, ← htokens]
          exact hcapacity) ha

end Exact

/-- A bucket whose numbers are all defined. -/
def lift (b : Bucket ℚ ℚ) : Bucket (Option ℚ) ℚ :=
  ⟨some b.tokens, some b.capacity, some b.rate, b.refilled⟩

/-- A rate that is undefined or not positive counts as zero. -/
lemma full_eq_lift (rate : Option ℚ) (burst : ℕ) (start : ℚ) :
    full rate burst start = (full (max (rate.getD 0) 0) burst start : Bucket ℚ ℚ).lift := by
  cases rate with
  | none => simp [full, lift, Counting.ofNat, Counting.positivePart]
  | some q =>
    by_cases hq : 0 < q
    · simp [full, lift, Counting.ofNat, Counting.positivePart, hq, max_eq_left hq.le]
    · simp [full, lift, Counting.ofNat, Counting.positivePart, hq, max_eq_right (not_lt.1 hq)]

/-- Where all numbers are defined, an attempt comes to the same. -/
lemma take_lift (b : Bucket ℚ ℚ) (t : ℚ) :
    (b.lift.take t).1 = (b.take t).1.lift ∧
      (b.lift.take t).2.isAdmitted = (b.take t).2.isAdmitted := by
  have hrefill : b.lift.refill t = (b.refill t).lift := rfl
  simp only [take, hrefill]
  generalize b.refill t = filled
  by_cases hone : 1 ≤ filled.tokens
  · simp [lift, Counting.ofNat, Counting.atMost, Counting.sub, hone, Attempt.isAdmitted]
  · by_cases hrate : filled.rate ≤ 0 <;>
      simp [lift, Counting.ofNat, Counting.atMost, hone, hrate, Attempt.isAdmitted]

/-- Where all numbers are defined, attempts leave the same bucket. -/
lemma after_lift (b : Bucket ℚ ℚ) (times : List ℚ) : b.lift.after times = (b.after times).lift := by
  induction times generalizing b with
  | nil => rfl
  | cons t rest ih => rw [after_cons, after_cons, (b.take_lift t).1, ih]

/-- Where all numbers are defined, the same attempts are admitted. -/
lemma admissions_lift (b : Bucket ℚ ℚ) (times : List ℚ) :
    b.lift.admissions times = b.admissions times := by
  induction times generalizing b with
  | nil => rfl
  | cons t rest ih =>
    obtain ⟨hafter, hadmitted⟩ := b.take_lift t
    rw [admissions, admissions, hafter, hadmitted, ih]

/-- A full bucket is sound. -/
lemma sound_full {rate : ℚ} (h : 0 ≤ rate) (burst : ℕ) (start : ℚ) :
    (full rate burst start : Bucket ℚ ℚ).Sound where
  nonneg := Nat.cast_nonneg _
  le_capacity := le_rfl
  one_le_capacity := Nat.one_le_cast.2 (le_max_right _ _)
  rate_nonneg := by
    show (0 : ℚ) ≤ if 0 < rate then rate else 0
    split
    case isTrue => exact h
    case isFalse => exact le_rfl

/-- A rate that is not negative is the rate of its full bucket. -/
lemma full_rate {rate : ℚ} (h : 0 ≤ rate) (burst : ℕ) (start : ℚ) :
    (full rate burst start : Bucket ℚ ℚ).rate = rate := by
  show (if 0 < rate then rate else 0) = rate
  split
  case isTrue => rfl
  case isFalse hnot => exact le_antisymm h (not_lt.1 hnot)

end Bucket

/-- However often a bucket is tried that was full at the start, the number of attempts that succeed
in a window of time is at most what the bucket can hold and what it gets during the window, and it
holds no less than nothing and no more than it can. A bucket that gets nothing admits the first
attempts, as many as it can hold tokens, and no later one. The token requests that processes put
side by side are such sequences of attempts, one for each bucket of the limiter, and nothing else
happens to its buckets. -/
theorem admitted_bounded (rate : Option ℚ) (burst : ℕ) (start : ℚ) (times : List ℚ)
    (h : (start :: times).Pairwise (· ≤ ·)) :
    let b : Bucket (Option ℚ) ℚ := .full rate burst start
    let capacity : ℕ := max burst 1
    let perSecond : ℚ := max (rate.getD 0) 0
    (∀ s e, s ≤ e → (b.admittedIn times s e : ℚ) ≤ capacity + perSecond * (e - s)) ∧
    (∃ tokens, (b.after times).tokens = some tokens ∧ 0 ≤ tokens ∧ tokens ≤ capacity) ∧
    (perSecond = 0 → ∀ i a, (b.admissions times)[i]? = some a → (a.2 = true ↔ i < capacity)) ∧
    ∀ (α : Type) (wakeUps : ℕ) (processes : List (Process α)) (w : World),
      w.Uses (Concurrent.tokenRequests wakeUps processes w)
        (Concurrent.run wakeUps processes w).2 := by
  intro b capacity perSecond
  have hnonneg : 0 ≤ perSecond := le_max_right _ _
  let exact : Bucket ℚ ℚ := .full perSecond burst start
  have hb : b = exact.lift := Bucket.full_eq_lift rate burst start
  have hsound : exact.Sound := Bucket.sound_full hnonneg burst start
  have hrate : exact.rate = perSecond := Bucket.full_rate hnonneg burst start
  refine ⟨?_, ?_, ?_, fun α => Concurrent.uses_run⟩
  · intro s e hse
    rw [hb, Bucket.admittedIn, Bucket.admissions_lift, ← hrate]
    exact Bucket.admittedIn_le hsound h hse
  · obtain ⟨hafter, hcapacity⟩ := hsound.after h
    rw [hb, Bucket.after_lift]
    exact ⟨_, rfl, hafter.nonneg, hafter.le_capacity.trans_eq hcapacity⟩
  · intro hzero i a ha
    rw [hb, Bucket.admissions_lift] at ha
    exact Bucket.admitted_iff_of_rate_zero (hrate.trans hzero) rfl le_rfl ha

/-- A bucket of three tokens that gets two in a second admits five attempts in the first second. -/
theorem admitted_bounded_tight :
    let b : Bucket (Option ℚ) ℚ := .full (some 2) 3 0
    let times : List ℚ := [0, 0, 0, 0, 1 / 2, 1, 3]
    ((0 : ℚ) :: times).Pairwise (· ≤ ·) ∧
      b.admittedIn times 0 1 = 5 ∧ (b.admittedIn times 0 1 : ℚ) ≤ 3 + 2 * (1 - 0) := by
  intro b times
  have htimes : ((0 : ℚ) :: times).Pairwise (· ≤ ·) := by decide +kernel
  obtain ⟨hwindow, -⟩ := admitted_bounded (some 2) 3 0 times htimes
  refine ⟨htimes, by decide +kernel, ?_⟩
  simpa using hwindow 0 1 zero_le_one

end SecretMount.RateLimit
