import Mathlib.Data.List.Basic
import SecretMount.Json.Printer
import SecretMount.Json.Written

/-!
# Integers in JSON texts

A printed integer is read as its numeral, up to what ends a value (`readNumeral_printInt`). The
value of a numeral without fraction and exponent is an integer where 64 bits hold it
(`Plain.value?`), and the numeral of such an integer has the integer for its value (`value?_ofInt`).
-/

namespace SecretMount.Json

/-- The numeral of an integer. -/
def Numeral.ofInt (n : Int) : Numeral :=
  ⟨decide (n < 0), Nat.toDigits 10 n.natAbs, [], none⟩

/-- What may come after a value: nothing, or what goes on in its container or closes it. -/
def Ends (rest : List Char) : Prop :=
  ∀ c ∈ rest.head?, c = ',' ∨ c = ']' ∨ c = '\x7d'

/-- The end of the text ends a value. -/
lemma ends_nil : Ends [] := nofun

/-- A comma ends a value, and so does a closing bracket or brace. -/
lemma ends_cons {c : Char} {rest : List Char} (h : c = ',' ∨ c = ']' ∨ c = '\x7d') :
    Ends (c :: rest) := by
  intro d hd
  cases hd
  exact h

/-- No number is printed without a digit. -/
lemma exists_cons_toDigits (n : Nat) : ∃ c cs, Nat.toDigits 10 n = c :: cs :=
  List.exists_cons_of_ne_nil Nat.toDigits_ne_nil

/-- Only zero is printed with a zero first. -/
lemma toDigits_of_head {n : Nat} (h : (Nat.toDigits 10 n).head? = some '0') :
    Nat.toDigits 10 n = ['0'] := by
  induction n using Nat.strongRecOn with
  | _ n ih =>
    by_cases hsmall : n < 10
    · rw [Nat.toDigits_of_lt_base hsmall] at h ⊢
      exact congrArg (fun c => [c]) (Option.some.inj h)
    · -- the first digit is that of the number without its last digit, which is not zero
      rw [Nat.toDigits_of_base_le (by decide) (by omega),
        List.head?_append_of_ne_nil _ Nat.toDigits_ne_nil] at h
      have hzero := congrArg (Nat.ofDigitChars 10 · 0) (ih (n / 10) (by omega) h)
      simp only [Nat.ofDigitChars_ten_toDigits] at hzero
      have hnone : Nat.ofDigitChars 10 ['0'] 0 = 0 := by decide
      omega

/-- What ends a value does not go on with digits. -/
lemma Ends.not_digit {rest : List Char} (h : Ends rest) :
    rest.takeWhile Char.isDigit = [] ∧ rest.dropWhile Char.isDigit = rest := by
  cases rest with
  | nil => exact ⟨rfl, rfl⟩
  | cons c rest =>
    have hc : c.isDigit = false := by
      rcases h c rfl with rfl | rfl | rfl <;> rfl
    simp [hc]

/-- The digits of a number are read as its numeral, and nothing behind them is touched. -/
lemma readMagnitude_toDigits (negative : Bool) (n : Nat) {rest : List Char} (h : Ends rest) :
    readMagnitude negative (Nat.toDigits 10 n ++ rest) =
      some (⟨negative, Nat.toDigits 10 n, [], none⟩, rest) := by
  have hdigits : readDigits (Nat.toDigits 10 n ++ rest) = some (Nat.toDigits 10 n, rest) := by
    have hall : ∀ c ∈ Nat.toDigits 10 n, c.isDigit = true :=
      fun c hc => Nat.isDigit_of_mem_toDigits (by decide) (by decide) hc
    rw [readDigits, spanDigits, List.takeWhile_append_of_pos hall,
      List.dropWhile_append_of_pos hall, h.not_digit.1, h.not_digit.2, List.append_nil]
    exact if_neg Nat.toDigits_ne_nil
  have hfirst : ¬ ((Nat.toDigits 10 n).head? = some '0' ∧ Nat.toDigits 10 n ≠ ['0']) :=
    fun hzero => hzero.2 (toDigits_of_head hzero.1)
  have hfraction : readFraction rest = some ([], rest) := by
    apply readFraction.eq_2
    rintro _ rfl
    rcases h '.' rfl with hc | hc | hc <;> cases hc
  have hexponent : readExponent rest = some (none, rest) := by
    apply readExponent.eq_3
    · rintro _ rfl
      rcases h 'e' rfl with hc | hc | hc <;> cases hc
    · rintro _ rfl
      rcases h 'E' rfl with hc | hc | hc <;> cases hc
  rw [readMagnitude, hdigits]
  simp [hfirst, hfraction, hexponent]

/-- An integer starts with its sign or with a digit. -/
lemma exists_head_printInt (n : Int) :
    ∃ c cs, Number.printInt n = c :: cs ∧ (c = '-' ∨ c.isDigit = true) := by
  rw [Number.printInt]
  split
  case isTrue => exact ⟨_, _, rfl, .inl rfl⟩
  case isFalse =>
    obtain ⟨c, cs, hdigits⟩ := exists_cons_toDigits n.natAbs
    have hc : c ∈ Nat.toDigits 10 n.natAbs := by
      rw [hdigits]
      exact List.mem_cons_self
    exact ⟨c, cs, hdigits, .inr (Nat.isDigit_of_mem_toDigits (by decide) (by decide) hc)⟩

/-- A printed integer is read as its numeral, and nothing behind it is touched. -/
lemma readNumeral_printInt (n : Int) {rest : List Char} (h : Ends rest) :
    readNumeral (Number.printInt n ++ rest) = some (.ofInt n, rest) := by
  rw [Number.printInt, Numeral.ofInt]
  split
  case isTrue hn =>
    rw [List.cons_append, readNumeral, decide_eq_true hn]
    exact readMagnitude_toDigits true _ h
  case isFalse hn =>
    have hminus : '-' ∉ Nat.toDigits 10 n.natAbs := by
      intro hmem
      have hdigit := Nat.isDigit_of_mem_toDigits (by decide) (by decide) hmem
      cases hdigit
    obtain ⟨c, cs, hdigits⟩ := exists_cons_toDigits n.natAbs
    rw [decide_eq_false hn, readNumeral.eq_2]
    · exact readMagnitude_toDigits false _ h
    · intro others hothers
      rw [hdigits] at hothers hminus
      cases hothers
      exact hminus List.mem_cons_self

/-- The integers that 64 bits hold, with or without a sign. -/
def IsWord (n : Int) : Prop := -0x8000000000000000 ≤ n ∧ n < 0x10000000000000000

instance (n : Int) : Decidable (IsWord n) :=
  inferInstanceAs (Decidable (-0x8000000000000000 ≤ n ∧ n < 0x10000000000000000))

namespace Numeral

/-- The number that the digits before the point make. -/
def magnitude (n : Numeral) : Nat := Nat.ofDigitChars 10 n.whole 0

/-- The same number with the sign. -/
def signed (n : Numeral) : Int := if n.negative then -(n.magnitude : Int) else n.magnitude

/-- A numeral with neither fraction nor exponent that 64 bits hold; minus zero is none. -/
structure Plain (n : Numeral) : Prop where
  fraction : n.fraction = []
  exponent : n.exponent = none
  fits : IsWord n.signed
  zero : n.negative = true → n.magnitude ≠ 0

/-- A plain numeral has the integer for its value that it spells. -/
lemma Plain.value? {n : Numeral} (h : n.Plain) : n.value? = some (.int n.signed) := by
  obtain ⟨hfraction, hexponent, ⟨hleast, hgreatest⟩, hzero⟩ := h
  unfold Numeral.value?
  rw [if_pos ⟨hfraction, hexponent⟩]
  change (if n.negative then if 1 ≤ n.magnitude ∧ n.magnitude ≤ Nat.pow 2 63 then _ else _
    else if n.magnitude < wordLimit then _ else _) = _
  unfold signed at hleast hgreatest ⊢
  cases hnegative : n.negative with
  | true =>
    have hpositive := hzero hnegative
    have hpower : Nat.pow 2 63 = 0x8000000000000000 := rfl
    simp only [hnegative, if_true] at hleast ⊢
    exact if_pos ⟨by omega, by omega⟩
  | false =>
    simp only [hnegative, Bool.false_eq_true, if_false] at hgreatest ⊢
    exact if_pos (by unfold wordLimit; omega)

/-- The digits of an integer spell its magnitude. -/
lemma magnitude_ofInt (n : Int) : (ofInt n).magnitude = n.natAbs :=
  Nat.ofDigitChars_ten_toDigits

/-- The numeral of an integer spells the integer. -/
lemma signed_ofInt (n : Int) : (ofInt n).signed = n := by
  rw [signed, magnitude_ofInt, ofInt]
  by_cases hn : n < 0
  · rw [if_pos (decide_eq_true hn)]
    omega
  · rw [if_neg (by simpa using hn)]
    omega

/-- The numeral of an integer of 64 bits is plain. -/
lemma plain_ofInt {n : Int} (h : IsWord n) : (ofInt n).Plain := by
  refine ⟨rfl, rfl, (signed_ofInt n).symm ▸ h, ?_⟩
  intro hnegative
  have hn : n < 0 := of_decide_eq_true hnegative
  rw [magnitude_ofInt]
  omega

/-- The numeral of an integer of 64 bits has the integer for its value. -/
lemma value?_ofInt {n : Int} (h : IsWord n) : (ofInt n).value? = some (.int n) := by
  rw [(plain_ofInt h).value?, signed_ofInt]

end Numeral

end SecretMount.Json
