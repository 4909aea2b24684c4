import Mathlib.Tactic.Lemma

/-!
# Texts in the order of their bytes

The order of texts compares their characters. It is the order of their UTF-8 bytes too
(`bytes_lt_of_lt`), because a smaller character has a code that is smaller at the first byte at
which the two differ (`before_encode`).
-/

namespace SecretMount.Text

/-- The bytes of a text in UTF-8. -/
def bytes (s : String) : List UInt8 := s.toUTF8.data.toList

/-- Two codes differ at some byte, and at the first such byte one is smaller. -/
inductive Before : List UInt8 → List UInt8 → Prop where
  | here {x y : UInt8} {s t : List UInt8} :
    x < y →
    Before (x :: s) (y :: t)
  | there {x : UInt8} {s t : List UInt8} :
    Before s t →
    Before (x :: s) (x :: t)

/-- Nothing that follows changes the order of two codes that differ. -/
lemma Before.append_lt {s t : List UInt8} (h : Before s t) (s' t' : List UInt8) :
    s ++ s' < t ++ t' := by
  induction h with
  | here hlt => exact .rel hlt
  | there _ ih => exact .cons ih

/-- The first byte decides where it is smaller. -/
lemma before_of_lt {a b : Nat} {s t : List UInt8} (h : a < b) (hb : b < 256) :
    Before (UInt8.ofNat a :: s) (UInt8.ofNat b :: t) := by
  refine .here (UInt8.lt_iff_toNat_lt.2 ?_)
  rw [UInt8.toNat_ofNat', UInt8.toNat_ofNat']
  omega

/-- The first byte decides unless it is the same, and then the others do. -/
lemma before_cons {a b : Nat} {s t : List UInt8} (hle : a ≤ b) (hb : b < 256)
    (h : a = b → Before s t) : Before (UInt8.ofNat a :: s) (UInt8.ofNat b :: t) := by
  rcases Nat.lt_or_eq_of_le hle with hlt | heq
  · exact before_of_lt hlt hb
  · subst heq
    exact .there (h rfl)

/-- The code of a smaller character is smaller at the first byte at which they differ. -/
lemma before_encode {c d : Char} (h : c < d) :
    Before (String.utf8EncodeChar c) (String.utf8EncodeChar d) := by
  have hval : c.val.toNat < d.val.toNat := h
  have hmax : d.val.toNat < 0x110000 := by
    rcases d.valid with hlow | hhigh
    · exact Nat.lt_trans hlow (by decide)
    · exact hhigh.2
  unfold String.utf8EncodeChar
  dsimp only
  generalize c.val.toNat = v at hval ⊢
  generalize d.val.toNat = u at hval hmax ⊢
  -- the longer code starts with the greater byte; codes of one length are compared byte by byte
  by_cases hone : v ≤ 0x7f
  · rw [if_pos hone]
    split
    case isTrue => exact before_of_lt (by omega) (by omega)
    case isFalse =>
      split
      case isTrue => exact before_of_lt (by omega) (by omega)
      case isFalse => split <;> exact before_of_lt (by omega) (by omega)
  have hone' : ¬ u ≤ 0x7f := by omega
  rw [if_neg hone, if_neg hone']
  by_cases htwo : v ≤ 0x7ff
  · rw [if_pos htwo]
    split
    case isTrue =>
      exact before_cons (by omega) (by omega) fun heq => before_of_lt (by omega) (by omega)
    case isFalse => split <;> exact before_of_lt (by omega) (by omega)
  have htwo' : ¬ u ≤ 0x7ff := by omega
  rw [if_neg htwo, if_neg htwo']
  by_cases hthree : v ≤ 0xffff
  · rw [if_pos hthree]
    split
    case isTrue =>
      exact before_cons (by omega) (by omega) fun heq =>
        before_cons (by omega) (by omega) fun heq =>
          before_of_lt (by omega) (by omega)
    case isFalse => exact before_of_lt (by omega) (by omega)
  have hthree' : ¬ u ≤ 0xffff := by omega
  rw [if_neg hthree, if_neg hthree']
  exact before_cons (by omega) (by omega) fun heq =>
    before_cons (by omega) (by omega) fun heq =>
      before_cons (by omega) (by omega) fun heq =>
        before_of_lt (by omega) (by omega)

/-- The bytes of a text are the codes of its characters. -/
lemma bytes_eq (s : String) : bytes s = s.toList.flatMap String.utf8EncodeChar := by
  show s.toByteArray.data.toList = _
  rw [← String.utf8Encode_toList, List.utf8Encode, List.toList_data_toByteArray]

/-- The codes of a smaller list of characters are smaller. -/
lemma flatMap_encode_lt {s t : List Char} (h : s < t) :
    s.flatMap String.utf8EncodeChar < t.flatMap String.utf8EncodeChar := by
  induction h with
  | @nil c rest =>
    -- where one text ends, the other has a code to come, and no code is empty
    rw [List.flatMap_cons]
    cases hcode : String.utf8EncodeChar c with
    | nil => exact absurd hcode String.utf8EncodeChar_ne_nil
    | cons x code => exact .nil
  | rel hlt => exact (before_encode hlt).append_lt _ _
  | cons _ ih => exact List.append_left_lt ih

/-- The order of texts is that of their bytes. -/
lemma bytes_lt_of_lt {s t : String} (h : s < t) : bytes s < bytes t := by
  rw [bytes_eq, bytes_eq]
  exact flatMap_encode_lt h

end SecretMount.Text
