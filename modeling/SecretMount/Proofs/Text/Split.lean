import Mathlib.Data.List.Basic
import SecretMount.Text.Ascii

/-!
# Pieces of texts

The pieces of a text without the separator, of two texts with the separator between them, and of a
text that is cut at its first separator. No piece holds the separator (`notMem_of_mem_split`), and
there is one piece more than there are separators (`length_split`).
-/

namespace SecretMount.Text

variable {sep : Char} {s : List Char}

/-- A text without the separator is one piece. -/
lemma split_of_notMem (h : sep ∉ s) : split sep s = [s] := by
  induction s with
  | nil => rfl
  | cons c rest ih =>
    obtain ⟨hc, hrest⟩ := List.ne_and_not_mem_of_not_mem_cons h
    rw [split, if_neg hc.symm, ih hrest]

/-- At a separator the pieces of a text are those before it and those behind it. -/
lemma split_append_sep (sep : Char) (s t : List Char) :
    split sep (s ++ sep :: t) = split sep s ++ split sep t := by
  induction s with
  | nil => simp [split]
  | cons c rest ih =>
    rw [List.cons_append, split, split, ih]
    by_cases hc : c = sep
    · simp [hc]
    · cases hs : split sep rest with
      | nil => exact absurd hs (split_ne_nil sep rest)
      | cons piece pieces => simp [hc]

/-- A text that cannot be cut is one piece. -/
lemma split_of_cut?_eq_none (h : cut? sep s = none) : split sep s = [s] := by
  induction s with
  | nil => rfl
  | cons c rest ih =>
    rw [cut?] at h
    split at h
    case isTrue => cases h
    case isFalse hc => rw [split, if_neg hc, ih (Option.map_eq_none_iff.1 h)]

/-- What is cut off is the first piece, and the others are those of what is left. -/
lemma split_of_cut?_eq_some {piece rest : List Char} (h : cut? sep s = some (piece, rest)) :
    split sep s = piece :: split sep rest := by
  induction s generalizing piece with
  | nil => cases h
  | cons c others ih =>
    rw [cut?] at h
    split at h
    case isTrue hc =>
      cases h
      rw [split, if_pos hc]
    case isFalse hc =>
      obtain ⟨⟨before, after⟩, hcut, heq⟩ := Option.map_eq_some_iff.1 h
      cases heq
      rw [split, if_neg hc, ih hcut]

/-- No piece has the separator in it. -/
lemma notMem_of_mem_split {piece : List Char} (h : piece ∈ split sep s) : sep ∉ piece := by
  induction s generalizing piece with
  | nil =>
    rw [List.mem_singleton.1 h]
    exact List.not_mem_nil
  | cons c rest ih =>
    rw [split] at h
    split at h
    case isTrue =>
      rcases List.mem_cons.1 h with rfl | h
      · exact List.not_mem_nil
      · exact ih h
    case isFalse hc =>
      cases hs : split sep rest with
      | nil => exact absurd hs (split_ne_nil sep rest)
      | cons first others =>
        rw [hs] at h
        rcases List.mem_cons.1 h with rfl | h
        · have hfirst : sep ∉ first := ih (hs ▸ List.mem_cons_self)
          exact List.not_mem_cons_of_ne_of_not_mem (Ne.symm hc) hfirst
        · exact ih (hs ▸ List.mem_cons_of_mem _ h)

/-- There is one piece more than there are separators. -/
lemma length_split (sep : Char) (s : List Char) : (split sep s).length = s.count sep + 1 := by
  induction s with
  | nil => rfl
  | cons c rest ih =>
    rw [split]
    split
    case isTrue hc => rw [List.length_cons, ih, hc, List.count_cons_self]
    case isFalse hc =>
      rw [List.count_cons_of_ne hc, ← ih]
      cases hs : split sep rest with
      | nil => exact absurd hs (split_ne_nil sep rest)
      | cons piece pieces => rfl

end SecretMount.Text
