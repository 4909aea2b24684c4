import SecretMount.Proofs.ResourceName.Sections

/-!
# Resource names there and back

The sections of a text are all of it: two texts with the same sections are the same
(`sections_injective`), and a text whose sections are those of a name is the text of the name
(`sections_eq_iff`). Main statement: `read_inverse_text`, a text is read as a name just if it is the
text of this name, and for what reason any other text is refused.
-/

namespace SecretMount.ResourceName

variable {s t : String} {n : ResourceName}

/-- No section but the last one holds a colon. -/
structure ColonFree (n : ResourceName) : Prop where
  service : ':' ∉ n.service.toList
  region : ':' ∉ n.region.toList
  account : ':' ∉ n.account.toList

/-- The text of a name is its start and its four parts with colons between them. -/
lemma text_eq (n : ResourceName) :
    n.text = "acs:" ++ n.service ++ ":" ++ n.region ++ ":" ++ n.account ++ ":" ++ n.resource := by
  apply String.toList_injective
  simp [text, start]

/-- The text of every name is qualified. -/
lemma start_prefix_text (n : ResourceName) : start <+: n.text.toList := by
  simp [text]

/-- The sections of a text are what is between its colons. -/
lemma map_toList_sections (s : String) :
    (sections s).map String.toList = Text.split ':' s.toList := by
  simp [sections]

/-- Texts are known by their sections. -/
lemma sections_injective (h : sections s = sections t) : s = t := by
  apply String.toList_injective
  rw [← Text.join_split ':' s.toList, ← Text.join_split ':' t.toList, ← map_toList_sections,
    ← map_toList_sections, h]

/-- A section of a text holds no colon. -/
lemma notMem_of_mem_sections {part : String} (h : part ∈ sections s) : ':' ∉ part.toList := by
  apply Text.notMem_of_mem_split (s := s.toList)
  rw [← map_toList_sections]
  exact List.mem_map_of_mem h

/-- The sections of the text of a name are its parts, and its resource may have several of them. -/
lemma sections_text (h : n.ColonFree) :
    sections n.text = "acs" :: n.service :: n.region :: n.account :: sections n.resource := by
  have htext : n.text.toList = ['a', 'c', 's'] ++ ':' :: (n.service.toList ++ ':' ::
      (n.region.toList ++ ':' :: (n.account.toList ++ ':' :: n.resource.toList))) := by
    simp [text, start]
  have hacs : ':' ∉ ['a', 'c', 's'] := by decide
  rw [sections, htext, Text.split_append_sep, Text.split_append_sep, Text.split_append_sep,
    Text.split_append_sep, Text.split_of_notMem hacs, Text.split_of_notMem h.service,
    Text.split_of_notMem h.region, Text.split_of_notMem h.account]
  simp [sections]

/-- A text has the sections of a name just if it is the text of the name. -/
lemma sections_eq_iff :
    sections s = "acs" :: n.service :: n.region :: n.account :: sections n.resource ↔
      n.ColonFree ∧ s = n.text := by
  constructor
  · intro h
    have hfree : n.ColonFree := by
      constructor <;> apply notMem_of_mem_sections (s := s) <;> rw [h] <;> simp
    exact ⟨hfree, sections_injective (h.trans (sections_text hfree).symm)⟩
  · rintro ⟨hfree, rfl⟩
    exact sections_text hfree

/-- A text with the start has one section more than it has colons after the start, and one for the
start. -/
lemma length_sections {rest : String} (h : s = "acs:" ++ rest) :
    (sections s).length = rest.toList.count ':' + 2 := by
  have hstart : s.toList = start ++ rest.toList := by
    rw [h]
    simp [start]
  rw [sections_of_start hstart, List.length_cons, List.length_map, Text.length_split]

/-- A qualified text is the start and a rest. -/
lemma start_prefix_iff : start <+: s.toList ↔ ∃ rest, s = "acs:" ++ rest := by
  constructor
  · rintro ⟨rest, hrest⟩
    refine ⟨String.ofList rest, String.toList_injective ?_⟩
    rw [← hrest]
    simp [start]
  · rintro ⟨rest, rfl⟩
    simp [start]

/-- A text is read as a name just if it is the text of the name. -/
lemma read_eq_ok_iff : read s = .ok n ↔ n.ColonFree ∧ s = n.text := by
  rw [← sections_eq_iff]
  obtain ⟨hstart, hread⟩ | ⟨-, hfew, hread⟩ | ⟨n', -, hread, hsections⟩ := read_cases s
  · rw [hread]
    refine ⟨nofun, fun h => absurd ?_ hstart⟩
    rw [(sections_eq_iff.1 h).2]
    exact n.start_prefix_text
  · rw [hread]
    refine ⟨nofun, fun h => ?_⟩
    have hsome := List.length_pos_iff.2 (Text.split_ne_nil ':' n.resource.toList)
    rw [h] at hfew
    simp only [sections, List.length_cons, List.length_map] at hfew
    omega
  · rw [hread, hsections]
    constructor
    · intro h
      cases h
      rfl
    · -- a name is made of its sections, and the last one of the sections of its own
      intro h
      obtain ⟨service, region, account, resource⟩ := n
      obtain ⟨service', region', account', resource'⟩ := n'
      simp only [List.cons.injEq, true_and] at h
      obtain ⟨rfl, rfl, rfl, hresource⟩ := h
      rw [sections_injective hresource]

/-- Reading misses the start just where the text does not have it. -/
lemma read_eq_missingStart_iff : read s = .error .missingStart ↔ ¬ start <+: s.toList := by
  obtain ⟨hstart, hread⟩ | ⟨hstart, -, hread⟩ | ⟨n, hstart, hread, -⟩ := read_cases s
  · exact iff_of_true hread hstart
  · rw [hread]
    exact ⟨nofun, absurd hstart⟩
  · rw [hread]
    exact ⟨nofun, absurd hstart⟩

/-- Reading finds too few sections just in a qualified text with less than five. -/
lemma read_eq_tooFewSections_iff :
    read s = .error .tooFewSections ↔ start <+: s.toList ∧ (sections s).length < 5 := by
  obtain ⟨hstart, hread⟩ | ⟨hstart, hfew, hread⟩ | ⟨n, -, hread, hsections⟩ := read_cases s
  · rw [hread]
    exact ⟨nofun, fun h => absurd h.1 hstart⟩
  · exact iff_of_true hread ⟨hstart, hfew⟩
  · have hsome := List.length_pos_iff.2 (Text.split_ne_nil ':' n.resource.toList)
    rw [hread, hsections]
    refine ⟨nofun, fun h => ?_⟩
    have hfew := h.2
    simp only [sections, List.length_cons, List.length_map] at hfew
    omega

/-- Reading and writing names are inverse. The text of a name is `acs` and its four sections with
colons between them; a text is read as a name just if it is the name's text and no section but the
last one holds a colon. Otherwise the text does not start with `acs:`, or fewer than three colons
follow that, and reading fails for just this. -/
theorem read_inverse_text (s : String) :
    (∀ n : ResourceName, n.text =
      "acs:" ++ n.service ++ ":" ++ n.region ++ ":" ++ n.account ++ ":" ++ n.resource) ∧
    (∀ n, read s = .ok n ↔ n.ColonFree ∧ s = n.text) ∧
    (read s = .error .missingStart ↔ ¬ "acs:".toList <+: s.toList) ∧
    (read s = .error .tooFewSections ↔ ∃ rest, s = "acs:" ++ rest ∧ rest.toList.count ':' < 3) := by
  have hstart : "acs:".toList = start := rfl
  refine ⟨text_eq, fun n => read_eq_ok_iff, ?_, ?_⟩
  · rw [hstart]
    exact read_eq_missingStart_iff
  · rw [read_eq_tooFewSections_iff, start_prefix_iff]
    constructor
    · rintro ⟨⟨rest, hrest⟩, hfew⟩
      rw [length_sections hrest] at hfew
      exact ⟨rest, hrest, by omega⟩
    · rintro ⟨rest, hrest, hfew⟩
      refine ⟨⟨rest, hrest⟩, ?_⟩
      rw [length_sections hrest]
      omega

/-- All sections may be empty, and the last one may hold colons. -/
example : read "acs::::a::b:" = .ok ⟨"", "", "", "a::b:"⟩ := by decide +kernel

end SecretMount.ResourceName
