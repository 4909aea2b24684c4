import SecretMount.Proofs.Text.Split
import SecretMount.ResourceName

/-!
# Sections of resource names

Reading a fully qualified name cuts off its first sections one by one. What it comes to shows in the
parts of the text between colons (`read_cases`): it succeeds where there are five or more of them,
and the service is the second one (`exists_read_iff`).
-/

namespace SecretMount

namespace Text

/-- A start is dropped from just those texts that have it. -/
lemma dropStart?_eq_some_iff {start s rest : List Char} :
    dropStart? start s = some rest ↔ s = start ++ rest := by
  induction start generalizing s with
  | nil => simp [dropStart?]
  | cons p ps ih =>
    cases s with
    | nil => simp [dropStart?]
    | cons c s =>
      rw [dropStart?]
      by_cases h : p = c
      · simp [h, ih]
      · simp [h, Ne.symm h]

end Text

namespace ResourceName

variable {s : String}

/-- The parts of a text between colons. -/
def sections (s : String) : List String :=
  (Text.split ':' s.toList).map String.ofList

/-- A name is qualified if it has the start. -/
lemma isQualified_iff : isQualified s = true ↔ start <+: s.toList :=
  List.isPrefixOf_iff_prefix

/-- The first section of a qualified text is the start without its colon. -/
lemma sections_of_start {rest : List Char} (h : s.toList = start ++ rest) :
    sections s = "acs" :: (Text.split ':' rest).map String.ofList := by
  have hsplit : Text.split ':' s.toList =
      Text.split ':' ['a', 'c', 's'] ++ Text.split ':' rest := by
    rw [h]
    exact Text.split_append_sep ':' ['a', 'c', 's'] rest
  rw [sections, hsplit]
  rfl

/-- Reading fails for its start or for too few sections, or it finds the sections behind the start,
the last of them with the colons that it holds. -/
lemma read_cases (s : String) :
    (¬ start <+: s.toList ∧ read s = .error .missingStart) ∨
    (start <+: s.toList ∧ (sections s).length < 5 ∧ read s = .error .tooFewSections) ∨
    ∃ n, start <+: s.toList ∧ read s = .ok n ∧
      sections s = "acs" :: n.service :: n.region :: n.account :: sections n.resource := by
  unfold read
  cases hstart : Text.dropStart? start s.toList with
  | none =>
    refine .inl ⟨?_, rfl⟩
    rintro ⟨rest, hrest⟩
    rw [Text.dropStart?_eq_some_iff.2 hrest.symm] at hstart
    cases hstart
  | some rest =>
    have hrest := Text.dropStart?_eq_some_iff.1 hstart
    have hstarts : start <+: s.toList := ⟨rest, hrest.symm⟩
    rw [sections_of_start hrest]
    -- one cut after the other; where one fails, the text before it was the last section
    cases hservice : Text.cut? ':' rest with
    | none =>
      refine .inr (.inl ⟨hstarts, ?_, by simp [hservice]⟩)
      simp [Text.split_of_cut?_eq_none hservice]
    | some cut =>
      obtain ⟨service, rest⟩ := cut
      rw [Text.split_of_cut?_eq_some hservice]
      cases hregion : Text.cut? ':' rest with
      | none =>
        refine .inr (.inl ⟨hstarts, ?_, by simp [hservice, hregion]⟩)
        simp [Text.split_of_cut?_eq_none hregion]
      | some cut =>
        obtain ⟨region, rest⟩ := cut
        rw [Text.split_of_cut?_eq_some hregion]
        cases haccount : Text.cut? ':' rest with
        | none =>
          refine .inr (.inl ⟨hstarts, ?_, by simp [hservice, hregion, haccount]⟩)
          simp [Text.split_of_cut?_eq_none haccount]
        | some cut =>
          obtain ⟨account, resource⟩ := cut
          rw [Text.split_of_cut?_eq_some haccount]
          refine .inr (.inr ⟨⟨String.ofList service, String.ofList region, String.ofList account,
            String.ofList resource⟩, hstarts, by simp [hservice, hregion, haccount], ?_⟩)
          simp [sections]

/-- A qualified name of a service can be read where it has five sections of which the second is the
service. -/
lemma exists_read_iff (service : String) (h : start <+: s.toList) :
    (∃ n, read s = .ok n ∧ n.service = service) ↔
      5 ≤ (sections s).length ∧ (sections s)[1]? = some service := by
  obtain ⟨hstart, -⟩ | ⟨-, hfew, hread⟩ | ⟨n, -, hread, hsections⟩ := read_cases s
  · exact absurd h hstart
  · rw [hread]
    exact ⟨nofun, fun ⟨hmany, _⟩ => absurd hmany (by omega)⟩
  · have hsome : 0 < (sections n.resource).length := by
      rw [sections, List.length_map]
      exact List.length_pos_iff.2 (Text.split_ne_nil _ _)
    rw [hread, hsections]
    constructor
    · rintro ⟨_, hsame, hservice⟩
      cases hsame
      exact ⟨by simp; omega, by simp [hservice]⟩
    · rintro ⟨-, hservice⟩
      exact ⟨n, rfl, by simpa using hservice⟩

end ResourceName

end SecretMount
