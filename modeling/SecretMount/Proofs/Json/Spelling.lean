import Mathlib.Data.List.Basic
import SecretMount.Json.Printer
import SecretMount.Json.Written

/-!
# Spellings of texts

A text between quotes can be spelled in many ways: a character as itself, by a short escape, or by
one or two escaped UTF-16 units. All spellings of a text are read as the text (`Quotes.read?`), and
what is printed is one of them (`quotes_printString`).
-/

namespace SecretMount.Json

/-- A UTF-16 unit that is no character by itself. -/
def IsSurrogate (n : Nat) : Prop := 0xD800 ≤ n ∧ n < 0xE000

instance (n : Nat) : Decidable (IsSurrogate n) :=
  inferInstanceAs (Decidable (0xD800 ≤ n ∧ n < 0xE000))

/-- A spelling of a character, and the pieces that it is read as. -/
inductive Spelled : Char → List Char → List Piece → Prop where
  | plain {c : Char} :
    0x20 ≤ c.toNat →
    c ≠ '"' →
    c ≠ '\\' →
    Spelled c [c] [.char c]
  | short {c e : Char} :
    shortEscape? e = some c →
    Spelled c ['\\', e] [.char c]
  | unit {n : Nat} {a b c d : Char} :
    Text.Hex.ofFour? a b c d = some n →
    ¬ IsSurrogate n →
    Spelled (Char.ofNat n) ['\\', 'u', a, b, c, d] [.unit n]
  | units {high low : Nat} {a b c d a' b' c' d' : Char} :
    Text.Hex.ofFour? a b c d = some high →
    Text.Hex.ofFour? a' b' c' d' = some low →
    0xD800 ≤ high →
    high < 0xDC00 →
    0xDC00 ≤ low →
    low < 0xE000 →
    Spelled (Char.ofNat (0x10000 + 1024 * (high - 0xD800) + (low - 0xDC00)))
      ['\\', 'u', a, b, c, d, '\\', 'u', a', b', c', d'] [.unit high, .unit low]

/-- A spelling of several characters, one after the other. -/
inductive Spelling : List Char → List Char → List Piece → Prop where
  | nil : Spelling [] [] []
  | cons {c : Char} {cs spelled rest : List Char} {pieces others : List Piece} :
    Spelled c spelled pieces →
    Spelling cs rest others →
    Spelling (c :: cs) (spelled ++ rest) (pieces ++ others)

/-- The second text is the first one, spelled between quotes. -/
def Quotes (s quoted : String) : Prop :=
  ∃ spelled pieces, Spelling s.toList spelled pieces ∧ quoted.toList = '"' :: spelled ++ ['"']

variable {c : Char} {s quoted : String} {cs spelled : List Char} {pieces : List Piece}

/-- A short escape is read as its character. -/
lemma readPieces_short {e : Char} (h : shortEscape? e = some c) (rest : List Char) :
    readPieces ('\\' :: e :: rest) =
      (readPieces rest).map fun r => (.char c :: r.1, r.2) := by
  have hunit : e ≠ 'u' := by
    rintro rfl
    cases h
  rw [readPieces.eq_4]
  · rw [h]
    cases readPieces rest <;> rfl
  · intro _ _ _ _ _ hu
    exact absurd hu hunit

/-- An escaped code unit is read as the unit. -/
lemma readPieces_unit {n : Nat} {a b c d : Char} (h : Text.Hex.ofFour? a b c d = some n)
    (rest : List Char) :
    readPieces ('\\' :: 'u' :: a :: b :: c :: d :: rest) =
      (readPieces rest).map fun r => (.unit n :: r.1, r.2) := by
  rw [readPieces, h]
  cases readPieces rest <;> rfl

/-- The spelling of a character is read as its pieces. -/
lemma Spelled.readPieces (h : Spelled c spelled pieces) (rest : List Char) :
    readPieces (spelled ++ rest) =
      (readPieces rest).map fun r => (pieces ++ r.1, r.2) := by
  cases h with
  | plain hcontrol hquote hescape =>
    have hplain : ¬ (c.toNat < 0x20 ∨ c = '\\') := by
      rintro (hlow | heq)
      · omega
      · exact hescape heq
    rw [List.singleton_append, Json.readPieces.eq_5]
    · rw [if_neg hplain]
      cases Json.readPieces rest <;> rfl
    · exact hquote
    · intro _ _ _ _ _ heq
      exact absurd heq hescape
    · intro _ _ heq
      exact absurd heq hescape
  | short he => exact readPieces_short he rest
  | unit hn _ => exact readPieces_unit hn rest
  | units hhigh hlow _ _ _ _ =>
    show Json.readPieces
      ('\\' :: 'u' :: _ :: _ :: _ :: _ :: '\\' :: 'u' :: _ :: _ :: _ :: _ :: rest) = _
    rw [readPieces_unit hhigh, readPieces_unit hlow, Option.map_map]
    rfl

/-- A code unit that is no surrogate is a character. -/
lemma chars?_unit {n : Nat} (h : ¬ IsSurrogate n) (others : List Piece) :
    Piece.chars? (.unit n :: others) = (Piece.chars? others).map (Char.ofNat n :: ·) := by
  have hhigh : ¬ (0xD800 ≤ n ∧ n < 0xDC00) := fun hrange => h ⟨hrange.1, by omega⟩
  have hlow : ¬ (0xDC00 ≤ n ∧ n < 0xE000) := fun hrange => h ⟨by omega, hrange.2⟩
  rw [Piece.chars?.eq_def]
  simp only [if_neg hhigh, if_neg hlow]

/-- The pieces of a character are the character. -/
lemma Spelled.chars? (h : Spelled c spelled pieces) (others : List Piece) :
    Piece.chars? (pieces ++ others) = (Piece.chars? others).map (c :: ·) := by
  cases h with
  | plain => rfl
  | short => rfl
  | unit _ hsurrogate => exact chars?_unit hsurrogate others
  | units _ _ hmin hmax hmin' hmax' =>
    show Piece.chars? (.unit _ :: .unit _ :: others) = _
    rw [Piece.chars?, if_pos ⟨hmin, hmax⟩, if_pos ⟨hmin', hmax'⟩]

/-- The spelling of a text is read as its pieces, up to the closing quote. -/
lemma Spelling.readPieces (h : Spelling cs spelled pieces) (rest : List Char) :
    readPieces (spelled ++ '"' :: rest) = some (pieces, rest) := by
  induction h with
  | nil => rfl
  | cons hc _ ih => rw [List.append_assoc, hc.readPieces, ih, Option.map_some]

/-- The pieces of a text are its characters. -/
lemma Spelling.chars? (h : Spelling cs spelled pieces) : Piece.chars? pieces = some cs := by
  induction h with
  | nil => rfl
  | cons hc _ ih => rw [hc.chars?, ih, Option.map_some]

/-- The pieces of a text spell the text. -/
lemma Spelling.text? (h : Spelling s.toList spelled pieces) : Piece.text? pieces = some s := by
  rw [Piece.text?, h.chars?, Option.map_some, String.ofList_toList]

/-- The tree of a text that one value takes up as a whole. -/
lemma Written.read?_of_readValue {w : Written}
    (h : readValue (2 * s.toList.length + 2) s.toList = some (w, [])) :
    Written.read? s = some w := by
  unfold Written.read?
  simp only [h]
  rfl

/-- A value that starts with a quote is a text. -/
lemma readValue_quote (h : readPieces (spelled ++ ['"']) = some (pieces, [])) (fuel : Nat) :
    readValue (fuel + 1) ('"' :: spelled ++ ['"']) = some (.string pieces, []) := by
  have hblank : skipBlank ('"' :: spelled ++ ['"']) = '"' :: spelled ++ ['"'] := rfl
  rw [readValue, hblank]
  simp [h]

/-- Every spelling of a text is read as the text. -/
lemma Quotes.read? (h : Quotes s quoted) : read? quoted = some (.string s) := by
  obtain ⟨spelled, pieces, hspelling, hquoted⟩ := h
  have hread : Written.read? quoted = some (.string pieces) := by
    apply Written.read?_of_readValue
    rw [hquoted]
    exact readValue_quote (hspelling.readPieces []) _
  rw [Json.read?, hread]
  show (Piece.text? pieces).map Json.string = some (.string s)
  rw [hspelling.text?, Option.map_some]

/-- The characters that are printed by a short escape. -/
def printedShort : List Char := ['"', '\\', '\x08', '\x0c', '\n', '\r', '\t']

/-- The piece that a printed character is read as: a control character without a short escape is
printed by its number. -/
def Piece.ofChar (c : Char) : Piece :=
  if c.toNat < 0x20 ∧ c ∉ printedShort then .unit c.toNat else .char c

/-- The pieces of a printed text. -/
def Piece.ofText (s : String) : List Piece := s.toList.map ofChar

/-- A printed character is a spelling of the character. -/
lemma spelled_printChar (c : Char) : Spelled c (printChar c) [Piece.ofChar c] := by
  by_cases hshort : c ∈ printedShort
  · simp only [printedShort, List.mem_cons, List.not_mem_nil, or_false] at hshort
    rcases hshort with rfl | rfl | rfl | rfl | rfl | rfl | rfl <;> exact .short rfl
  · have hprint : printChar c =
        if c.toNat < 0x20 then '\\' :: 'u' :: Text.Hex.four c.toNat else [c] := by
      have hne := hshort
      simp only [printedShort, List.mem_cons, List.not_mem_nil, or_false, not_or] at hne
      obtain ⟨hquote, hescape, hb, hf, hn, hr, ht⟩ := hne
      rw [printChar, if_neg hquote, if_neg hescape, if_neg hb, if_neg hf, if_neg hn, if_neg hr,
        if_neg ht]
    rw [hprint, Piece.ofChar]
    by_cases hcontrol : c.toNat < 0x20
    · rw [if_pos hcontrol, if_pos ⟨hcontrol, hshort⟩]
      have hunit : Spelled (Char.ofNat c.toNat) ('\\' :: 'u' :: Text.Hex.four c.toNat)
          [.unit c.toNat] :=
        .unit (Text.Hex.ofFour?_digits (by omega)) (fun hsurrogate => by
          have := hsurrogate.1
          omega)
      rwa [Char.ofNat_toNat] at hunit
    · rw [if_neg hcontrol, if_neg fun h => hcontrol h.1]
      refine .plain (by omega) ?_ ?_
      · rintro rfl
        exact hshort (by decide)
      · rintro rfl
        exact hshort (by decide)

/-- Printed characters are a spelling of the text. -/
lemma spelling_print (cs : List Char) :
    Spelling cs (cs.flatMap printChar) (cs.map Piece.ofChar) := by
  induction cs with
  | nil => exact .nil
  | cons c rest ih => exact .cons (spelled_printChar c) ih

/-- The pieces that a text is printed with spell the text. -/
lemma text?_ofText (s : String) : Piece.text? (Piece.ofText s) = some s :=
  (spelling_print s.toList).text?

/-- A printed text quotes the text. -/
lemma quotes_printString (s : String) : Quotes s (String.ofList (printString s)) :=
  ⟨_, _, spelling_print s.toList, String.toList_ofList⟩

end SecretMount.Json
