import SecretMount.JmesPath.Expr
import SecretMount.Proofs.Json.Spelling

/-!
# Quoted identifiers

The scanner of expressions looks for the closing quote by itself and leaves what stands in front of
it to the JSON reader. No spelling of a text has a quote that would end it early
(`Spelling.delimited`), so however a name is spelled between quotes, the expression is the field of
that name (`compile?_quoted`).
-/

namespace SecretMount

namespace Text.Hex

variable {a b c d : Char} {n : Nat}

/-- A digit is neither a quote nor a backslash. -/
lemma ne_of_value? (h : value? c = some n) : c ≠ '"' ∧ c ≠ '\\' := by
  constructor
  · rintro rfl
    cases h
  · rintro rfl
    cases h

/-- None of four hexadecimal digits is a quote or a backslash. -/
lemma ne_of_ofFour? (h : ofFour? a b c d = some n) :
    ∀ e ∈ [a, b, c, d], e ≠ '"' ∧ e ≠ '\\' := by
  simp only [ofFour?, Option.bind_eq_bind, Option.bind_eq_some_iff] at h
  obtain ⟨_, ha, _, hb, _, hc, _, hd, -⟩ := h
  simp only [List.forall_mem_cons]
  exact ⟨ne_of_value? ha, ne_of_value? hb, ne_of_value? hc, ne_of_value? hd,
    List.forall_mem_nil _⟩

end Text.Hex

namespace JmesPath.Token

variable {c : Char} {cs : List Char}

/-- A quote ends a quoted text. -/
lemma delimited_quote (rest : List Char) : delimited '"' ('"' :: rest) = some ([], rest) := by
  rw [delimited.eq_def]
  rfl

/-- A character that is neither a quote nor a backslash stands as it is. -/
lemma delimited_plain (hquote : c ≠ '"') (hescape : c ≠ '\\') (rest : List Char) :
    delimited '"' (c :: rest) = (delimited '"' rest).map fun r => (c :: r.1, r.2) := by
  rw [delimited.eq_def]
  simp only [if_neg hquote, if_neg hescape]

/-- What follows a backslash does not end a quoted text. -/
lemma delimited_escaped (e : Char) (rest : List Char) :
    delimited '"' ('\\' :: e :: rest) =
      (delimited '"' rest).map fun r => ('\\' :: e :: r.1, r.2) := by
  rw [delimited.eq_def]
  rfl

/-- What has neither a quote nor a backslash is passed over. -/
lemma delimited_append (h : ∀ e ∈ cs, e ≠ '"' ∧ e ≠ '\\') (rest : List Char) :
    delimited '"' (cs ++ rest) = (delimited '"' rest).map fun r => (cs ++ r.1, r.2) := by
  induction cs with
  | nil => simp
  | cons c cs ih =>
    obtain ⟨⟨hquote, hescape⟩, hcs⟩ := List.forall_mem_cons.1 h
    rw [List.cons_append, delimited_plain hquote hescape, ih hcs, Option.map_map]
    rfl

/-- The digits of an escaped code unit do not end a quoted text. -/
lemma delimited_unit {n : Nat} {a b c d : Char} (h : Text.Hex.ofFour? a b c d = some n)
    (rest : List Char) :
    delimited '"' ('\\' :: 'u' :: a :: b :: c :: d :: rest) =
      (delimited '"' rest).map fun r => ('\\' :: 'u' :: a :: b :: c :: d :: r.1, r.2) := by
  have hdigits := delimited_append (Text.Hex.ne_of_ofFour? h) rest
  rw [List.cons_append, List.cons_append, List.cons_append, List.singleton_append] at hdigits
  rw [delimited_escaped, hdigits, Option.map_map]
  rfl

end JmesPath.Token

namespace Json

open JmesPath.Token

variable {c : Char} {cs spelled : List Char} {pieces : List Piece}

/-- No spelling of a character ends a quoted text. -/
lemma Spelled.delimited (h : Spelled c spelled pieces) (rest : List Char) :
    delimited '"' (spelled ++ rest) =
      (delimited '"' rest).map fun r => (spelled ++ r.1, r.2) := by
  cases h with
  | plain _ hquote hescape => exact delimited_plain hquote hescape rest
  | short _ => exact delimited_escaped _ rest
  | unit hn _ => exact delimited_unit hn rest
  | units hhigh hlow =>
    show JmesPath.Token.delimited '"'
      ('\\' :: 'u' :: _ :: _ :: _ :: _ :: '\\' :: 'u' :: _ :: _ :: _ :: _ :: rest) = _
    rw [delimited_unit hhigh, delimited_unit hlow, Option.map_map]
    rfl

/-- The spelling of a text is found between its quotes. -/
lemma Spelling.delimited (h : Spelling cs spelled pieces) (rest : List Char) :
    delimited '"' (spelled ++ '"' :: rest) = some (spelled, rest) := by
  induction h with
  | nil => exact delimited_quote rest
  | cons hc _ ih => rw [List.append_assoc, hc.delimited, ih, Option.map_some]

end Json

namespace JmesPath

variable {name quoted : String}

/-- However a name is spelled between quotes, it is one token. -/
lemma Token.ofText?_quoted (h : Json.Quotes name quoted) :
    Token.ofText? quoted = some [.quotedIdentifier name] := by
  have hread := h.read?
  obtain ⟨spelled, pieces, hspelling, hquoted⟩ := h
  have hbody : '"' :: spelled ++ ['"'] = quoted.toList := hquoted.symm
  have hnext : next? ('"' :: (spelled ++ ['"'])) = some (.quotedIdentifier name, []) := by
    show readQuotedIdentifier (spelled ++ ['"']) = _
    rw [readQuotedIdentifier, hspelling.delimited [], Option.bind_eq_bind, Option.bind_some]
    dsimp only
    rw [hbody, String.ofList_toList, hread]
    rfl
  have hblank : Json.skipBlank ('"' :: (spelled ++ ['"'])) = '"' :: (spelled ++ ['"']) := rfl
  have hend (fuel : Nat) : readAll fuel [] = some [] := by cases fuel <;> rfl
  rw [Token.ofText?, hquoted, List.cons_append, List.length_cons, readAll, hblank]
  simp only [hnext, hend, Option.bind_eq_bind, Option.bind_some, Option.pure_def]

/-- A quoted name is the expression for the field of this name. -/
lemma Expr.compile?_quoted (h : Json.Quotes name quoted) :
    Expr.compile? quoted = some (.field name) := by
  rw [Expr.compile?, Token.ofText?_quoted h]
  simp [Expr.readExpr, Expr.readFirst, Expr.readMore, Expr.powerAt]

end JmesPath

end SecretMount
