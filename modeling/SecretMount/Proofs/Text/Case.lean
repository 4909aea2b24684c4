import Mathlib.Data.List.Forall2
import SecretMount.Text.Ascii

/-!
# Words in either letter case

A character is a small letter up to case if it is that letter or its capital (`toLower_eq_iff`), and
a text is a word of small letters up to case if that holds letter by letter
(`equalIgnoringCase_iff`).
-/

namespace SecretMount.Text

/-- The capital letters stand 32 numbers before the small ones. -/
lemma toNat_toLower (c : Char) :
    c.toLower.toNat = if 65 ≤ c.toNat ∧ c.toNat ≤ 90 then c.toNat + 32 else c.toNat := by
  by_cases hc : c.val ≥ 'A'.val ∧ c.val ≤ 'Z'.val
  · have hlower : c.toLower.toNat = (c.toNat + 32) % 2 ^ 32 := congrArg Char.toNat (dif_pos hc)
    have hle : c.toNat ≤ 90 := UInt32.le_iff_toNat_le.1 hc.2
    rw [if_pos ⟨UInt32.le_iff_toNat_le.1 hc.1, hle⟩, hlower, Nat.mod_eq_of_lt (by omega)]
  · have hlower : c.toLower = c := dif_neg hc
    rw [hlower, if_neg]
    rintro ⟨hge, hle⟩
    exact hc ⟨UInt32.le_iff_toNat_le.2 hge, UInt32.le_iff_toNat_le.2 hle⟩

/-- A small letter stands 32 numbers behind its capital. -/
lemma toNat_toUpper {l : Char} (h : l.isLower = true) :
    97 ≤ l.toNat ∧ l.toNat ≤ 122 ∧ l.toUpper.toNat + 32 = l.toNat := by
  obtain ⟨hge, hle⟩ := Bool.and_eq_true_iff.1 h
  have hletter : 'a'.val ≤ l.val ∧ l.val ≤ 'z'.val :=
    ⟨of_decide_eq_true hge, of_decide_eq_true hle⟩
  have hlow : 97 ≤ l.toNat := UInt32.le_iff_toNat_le.1 hletter.1
  have hhigh : l.toNat ≤ 122 := UInt32.le_iff_toNat_le.1 hletter.2
  -- the offset from lower to upper case is negative, so the sum of the words wraps around
  have hoffset : ('A'.val - 'a'.val).toNat = 4294967264 := by decide
  have hsum := UInt32.toNat_add l.val ('A'.val - 'a'.val)
  obtain ⟨hvalid, hupper⟩ : ∃ hvalid, l.toUpper = ⟨l.val + ('A'.val - 'a'.val), hvalid⟩ :=
    ⟨_, dif_pos hletter⟩
  rw [hoffset, Char.toNat_val] at hsum
  refine ⟨hlow, hhigh, ?_⟩
  rw [hupper, ← Char.toNat_val, hsum]
  omega

/-- What becomes a small letter is this letter or its capital. -/
lemma toLower_eq_iff {c l : Char} (h : l.isLower = true) :
    c.toLower = l ↔ c = l ∨ c = l.toUpper := by
  obtain ⟨hlow, hhigh, hupper⟩ := toNat_toUpper h
  rw [← Char.toNat_inj, ← Char.toNat_inj, ← Char.toNat_inj, toNat_toLower]
  split <;> omega

/-- What becomes a word of small letters has each of them in either case. -/
lemma map_toLower_eq_iff {cs ls : List Char} (h : ∀ l ∈ ls, l.isLower = true) :
    cs.map Char.toLower = ls ↔ List.Forall₂ (fun c l => c = l ∨ c = l.toUpper) cs ls := by
  rw [← List.forall₂_eq_eq_eq, List.forall₂_map_left_iff]
  induction cs generalizing ls with
  | nil => cases ls <;> simp
  | cons c cs ih =>
    cases ls with
    | nil => simp
    | cons l ls =>
      obtain ⟨hl, hls⟩ := List.forall_mem_cons.1 h
      rw [List.forall₂_cons, List.forall₂_cons, toLower_eq_iff hl, ih hls]

/-- A text that has the letters of a word, each as it is or as its capital. -/
def Spells (word s : String) : Prop :=
  List.Forall₂ (fun c l => c = l ∨ c = l.toUpper) s.toList word.toList

/-- A text is a word but for case where it spells the word. -/
lemma equalIgnoringCase_iff {word : String} (h : ∀ l ∈ word.toList, l.isLower = true)
    (s : String) : equalIgnoringCase s word = true ↔ Spells word s := by
  have hword : word.toList.map Char.toLower = word.toList :=
    (map_toLower_eq_iff h).2 (List.forall₂_same.2 fun _ _ => .inl rfl)
  rw [equalIgnoringCase, beq_iff_eq, hword, map_toLower_eq_iff h, Spells]

end SecretMount.Text
