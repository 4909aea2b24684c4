import Mathlib.Tactic.Lemma
import SecretMount.FileName

/-!
# Names that climb

A name is looked through for two dots between slashes or the ends of the name. That finds a segment
`..` wherever there is one, and nothing else. Main statement: `climbing_occursIn_iff`.
-/

namespace SecretMount

namespace Text.Pattern

variable {p q : Pattern} {c : Char} {place after : Place}

/-- The start of the text is found at the first place only, and takes nothing. -/
lemma mem_ends_start : after ∈ ends .start place ↔ place.isFirst = true ∧ after = place := by
  rw [ends]
  split
  case isTrue hfirst => simp [hfirst]
  case isFalse hfirst => simp [hfirst]

/-- A character is found where it stands, and the place behind it is not the first one. -/
lemma mem_ends_char :
    after ∈ ends (.char c) place ↔ ∃ rest, place.rest = c :: rest ∧ after = ⟨false, rest⟩ := by
  rw [ends]
  cases place.rest with
  | nil => simp
  | cons d rest =>
    by_cases h : c = d
    · simp [h]
    · simp [h, Ne.symm h]

/-- One of two patterns ends where either of them does. -/
lemma mem_ends_either :
    after ∈ ends (.either p q) place ↔ after ∈ ends p place ∨ after ∈ ends q place :=
  List.mem_append

/-- A pattern begins at a place where it ends somewhere. -/
lemma beginsAt_iff : p.beginsAt place = true ↔ ∃ after, after ∈ p.ends place := by
  rw [beginsAt, Bool.not_eq_true', ← Bool.not_eq_true, List.isEmpty_iff]
  exact ⟨List.exists_mem_of_ne_nil _, fun ⟨_, hafter⟩ => List.ne_nil_of_mem hafter⟩

/-- The end of the text is where nothing is left. -/
lemma beginsAt_stop_iff : beginsAt .stop place = true ↔ place.rest = [] := by
  by_cases h : place.rest = [] <;> simp [beginsAt, ends, h]

/-- A character begins where it stands. -/
lemma beginsAt_char_iff : beginsAt (.char c) place = true ↔ ∃ rest, place.rest = c :: rest := by
  simp only [beginsAt_iff, mem_ends_char]
  exact ⟨fun ⟨_, rest, hrest, _⟩ => ⟨rest, hrest⟩, fun ⟨rest, hrest⟩ => ⟨_, rest, hrest, rfl⟩⟩

/-- One of two patterns begins where either of them does. -/
lemma beginsAt_either_iff :
    beginsAt (.either p q) place = true ↔ p.beginsAt place = true ∨ q.beginsAt place = true := by
  simp only [beginsAt_iff, mem_ends_either, exists_or]

/-- A sequence begins where its first pattern ends at a place where the second one begins. -/
lemma beginsAt_seq_iff :
    beginsAt (.seq p q) place = true ↔ ∃ between ∈ p.ends place, q.beginsAt between = true := by
  simp only [beginsAt_iff, ends, List.mem_flatMap]
  exact ⟨fun ⟨after, between, hbetween, hafter⟩ => ⟨between, hbetween, after, hafter⟩,
    fun ⟨between, hbetween, after, hafter⟩ => ⟨after, between, hbetween, hafter⟩⟩

/-- A character and then a pattern begin where the character stands and the pattern begins behind
it. -/
lemma beginsAt_char_seq_iff :
    beginsAt (.seq (.char c) q) place = true ↔
      ∃ rest, place.rest = c :: rest ∧ q.beginsAt ⟨false, rest⟩ = true := by
  simp only [beginsAt_seq_iff, mem_ends_char]
  constructor
  · rintro ⟨_, ⟨rest, hrest, rfl⟩, hq⟩
    exact ⟨rest, hrest, hq⟩
  · rintro ⟨rest, hrest, hq⟩
    exact ⟨_, ⟨rest, hrest, rfl⟩, hq⟩

end Text.Pattern

namespace FileName

open Text.Pattern

/-- Two dots up to a slash or the end are a first segment that climbs. -/
lemma ascent_beginsAt_iff {isFirst : Bool} {s : List Char} :
    ascent.beginsAt ⟨isFirst, s⟩ = true ↔ ∃ others, Text.split '/' s = parent :: others := by
  simp only [ascent, beginsAt_char_seq_iff, beginsAt_either_iff, beginsAt_char_iff,
    beginsAt_stop_iff]
  constructor
  · rintro ⟨_, rfl, _, rfl, ⟨t, rfl⟩ | rfl⟩
    · exact ⟨Text.split '/' t, by simp [Text.split, parent]⟩
    · exact ⟨[], by decide⟩
  · rintro ⟨others, hsplit⟩
    have hjoin := Text.join_split '/' s
    rw [hsplit] at hjoin
    cases others with
    | nil => exact ⟨_, hjoin.symm, _, rfl, .inr rfl⟩
    | cons segment others => exact ⟨_, hjoin.symm, _, rfl, .inl ⟨_, rfl⟩⟩

/-- The pattern begins at the start of a text that climbs first, and at a slash behind which a text
climbs first. -/
lemma climbing_beginsAt_iff {isFirst : Bool} {s : List Char} :
    climbing.beginsAt ⟨isFirst, s⟩ = true ↔
      (isFirst = true ∧ ∃ others, Text.split '/' s = parent :: others) ∨
        ∃ t, s = '/' :: t ∧ ∃ others, Text.split '/' t = parent :: others := by
  simp only [climbing, beginsAt_seq_iff, mem_ends_either, mem_ends_start, mem_ends_char]
  constructor
  · rintro ⟨_, ⟨hfirst, rfl⟩ | ⟨t, ht, rfl⟩, hascent⟩
    · exact .inl ⟨hfirst, ascent_beginsAt_iff.1 hascent⟩
    · exact .inr ⟨t, ht, ascent_beginsAt_iff.1 hascent⟩
  · rintro (⟨hfirst, hascent⟩ | ⟨t, ht, hascent⟩)
    · exact ⟨_, .inl ⟨hfirst, rfl⟩, ascent_beginsAt_iff.2 hascent⟩
    · exact ⟨_, .inr ⟨t, ht, rfl⟩, ascent_beginsAt_iff.2 hascent⟩

/-- From the start on every segment is found that climbs, and from a later place every one after the
next slash. -/
lemma climbing_occursFrom_iff (s : List Char) (isFirst : Bool) :
    climbing.occursFrom isFirst s = true ↔
      parent ∈ if isFirst then Text.split '/' s else (Text.split '/' s).tail := by
  induction s generalizing isFirst with
  | nil => cases isFirst <;> decide
  | cons c rest ih =>
    obtain ⟨segment, others, hsplit⟩ := List.exists_cons_of_ne_nil (Text.split_ne_nil '/' rest)
    have hlater : climbing.occursFrom false rest = true ↔ parent ∈ others := by
      rw [ih, hsplit]
      rfl
    rw [occursFrom, Bool.or_eq_true, climbing_beginsAt_iff, hlater]
    by_cases hc : c = '/'
    · -- the slash ends a segment that is empty, and the next one begins behind it
      subst hc
      have hwhole : Text.split '/' ('/' :: rest) = [] :: segment :: others := by
        rw [Text.split, if_pos rfl, hsplit]
      have hempty : parent ≠ [] := by decide
      cases isFirst <;> simp [hwhole, hsplit, hempty, eq_comm]
    · -- the character belongs to the first segment, which only the search from the start looks at
      have hwhole : Text.split '/' (c :: rest) = (c :: segment) :: others := by
        rw [Text.split, if_neg hc, hsplit]
      cases isFirst <;> simp [hwhole, hc, eq_comm]

/-- The search finds the segments that climb, and only those. -/
lemma climbing_occursIn_iff {fileName : String} :
    climbing.occursIn fileName.toList = true ↔ parent ∈ segments fileName :=
  climbing_occursFrom_iff fileName.toList true

end FileName

end SecretMount
