import SecretMount.Proofs.Json.Reading
import SecretMount.Proofs.VersionMap.Lookup

/-!
# Canonical values

What a JSON text with plain integers for numbers denotes is canonical (`canonical_of_integral`): the
integers fit 64 bits, the fields of objects stand in order, each key once, and containers nest no
deeper than in the text. A canonical value is what its compact text denotes
(`read?_text_of_canonical`), so two of them with one text are the same.
-/

namespace SecretMount.Json

/-- A value with integers of 64 bits, with fields in order and with at most `depth` containers
around any part. -/
inductive Canonical : Nat → Json → Prop where
  | null {depth : Nat} : Canonical depth .null
  | bool {depth : Nat} {b : Bool} : Canonical depth (.bool b)
  | int {depth : Nat} {n : Int} :
    IsWord n →
    Canonical depth (.number (.int n))
  | string {depth : Nat} {s : String} : Canonical depth (.string s)
  | array {depth : Nat} {items : List Json} :
    (∀ item ∈ items, Canonical depth item) →
    Canonical (depth + 1) (.array items)
  | object {depth : Nat} {fields : List (String × Json)} :
    KeyedList.Ascending fields →
    (∀ field ∈ fields, Canonical depth field.2) →
    Canonical (depth + 1) (.object fields)

variable {depth : Nat} {v : Json}

/-- A canonical value has no double in it. -/
lemma Canonical.whole (h : Canonical depth v) : Whole v := by
  induction h with
  | null => exact .null
  | bool => exact .bool
  | int _ => exact .int
  | string => exact .string
  | array _ ih => exact .array ih
  | object _ _ ih => exact .object ih

/-- Where each item is the value of its tree, the items are the values of their trees. -/
lemma items?_written {items : List Json}
    (h : ∀ item ∈ items, (written item).value? depth = some item) :
    Written.items? depth (writtenItems items) = some items := by
  induction items with
  | nil => rfl
  | cons item rest ih =>
    obtain ⟨hitem, hrest⟩ := List.forall_mem_cons.1 h
    rw [writtenItems, Written.items?, hitem, ih hrest]
    rfl

/-- Where each field has the value of its tree, the fields are those of their trees. -/
lemma fields?_written {fields : List (String × Json)}
    (h : ∀ field ∈ fields, (written field.2).value? depth = some field.2) :
    Written.fields? depth (writtenFields fields) = some fields := by
  induction fields with
  | nil => rfl
  | cons field rest ih =>
    obtain ⟨hfield, hrest⟩ := List.forall_mem_cons.1 h
    rw [writtenFields, Written.fields?, text?_ofText, hfield, ih hrest]
    rfl

/-- The fields that were printed, in whatever order, make the map of the fields. -/
lemma value?_written_object {fields : List (String × Json)}
    (h : ∀ field ∈ fields, (written field.2).value? depth = some field.2) :
    (written (.object fields)).value? (depth + 1) = some (.object (KeyedList.ofList fields)) := by
  rw [written, Written.value?, fields?_written h]
  rfl

/-- A canonical value is the value of its tree. -/
lemma value?_written (h : Canonical depth v) : (written v).value? depth = some v := by
  induction h with
  | null => rfl
  | bool => rfl
  | int hn =>
    rw [written_int, Written.value?, Numeral.value?_ofInt hn]
    rfl
  | @string depth s =>
    rw [written, Written.value?, text?_ofText]
    rfl
  | array _ ih =>
    rw [written, Written.value?, items?_written ih]
    rfl
  | object hascending _ ih => rw [value?_written_object ih, KeyedList.ofList_eq_self hascending]

/-- A canonical value is what its compact text denotes. -/
lemma read?_text_of_canonical (h : Canonical depthLimit v) : read? v.text = some v := by
  rw [read?, read?_text h.whole]
  exact value?_written h

/-- The text of an object denotes the map of its fields, in whatever order they were printed. -/
lemma read?_text_object {fields : List (String × Json)}
    (h : ∀ field ∈ fields, Canonical (depthLimit - 1) field.2) :
    read? (Json.object fields).text = some (.object (KeyedList.ofList fields)) := by
  have hwhole : Whole (.object fields) := .object fun field hfield => (h field hfield).whole
  rw [read?, read?_text hwhole]
  exact value?_written_object fun field hfield => value?_written (h field hfield)

/-- Escaped units that make characters: a surrogate stands in front of its second half or behind its
first half. -/
inductive Paired : List Piece → Prop where
  | nil : Paired []
  | char {c : Char} {rest : List Piece} :
    Paired rest →
    Paired (.char c :: rest)
  | unit {n : Nat} {rest : List Piece} :
    ¬ IsSurrogate n →
    Paired rest →
    Paired (.unit n :: rest)
  | units {high low : Nat} {rest : List Piece} :
    0xD800 ≤ high →
    high < 0xDC00 →
    0xDC00 ≤ low →
    low < 0xE000 →
    Paired rest →
    Paired (.unit high :: .unit low :: rest)

/-- Pieces whose surrogates are paired spell a text. -/
lemma Paired.text? {pieces : List Piece} (h : Paired pieces) :
    ∃ s, Piece.text? pieces = some s := by
  have hchars : ∃ cs, Piece.chars? pieces = some cs := by
    induction h with
    | nil => exact ⟨_, rfl⟩
    | char _ ih =>
      obtain ⟨cs, hcs⟩ := ih
      rw [Piece.chars?, hcs]
      exact ⟨_, rfl⟩
    | unit hn _ ih =>
      obtain ⟨cs, hcs⟩ := ih
      rw [chars?_unit hn, hcs]
      exact ⟨_, rfl⟩
    | units hmin hmax hmin' hmax' _ ih =>
      obtain ⟨cs, hcs⟩ := ih
      rw [Piece.chars?, if_pos ⟨hmin, hmax⟩, if_pos ⟨hmin', hmax'⟩, hcs]
      exact ⟨_, rfl⟩
  obtain ⟨cs, hcs⟩ := hchars
  rw [Piece.text?, hcs]
  exact ⟨_, rfl⟩

/-- In pieces that spell characters the surrogates are paired. -/
lemma paired_of_chars? {pieces : List Piece} {cs : List Char}
    (h : Piece.chars? pieces = some cs) : Paired pieces := by
  induction pieces using Piece.chars?.induct generalizing cs with
  | case1 => exact .nil
  | case2 c rest ih =>
    obtain ⟨_, hrest, -⟩ := Option.map_eq_some_iff.1 h
    exact .char (ih hrest)
  | case3 high hhigh low rest hlow ih =>
    rw [Piece.chars?, if_pos hhigh, if_pos hlow] at h
    obtain ⟨_, hrest, -⟩ := Option.map_eq_some_iff.1 h
    exact .units hhigh.1 hhigh.2 hlow.1 hlow.2 (ih hrest)
  | case4 high hhigh low rest hlow =>
    rw [Piece.chars?, if_pos hhigh, if_neg hlow] at h
    cases h
  | case5 high rest hhigh hrest =>
    rw [Piece.chars?.eq_4 _ _ hrest, if_pos hhigh] at h
    cases h
  | case6 high rest hhigh hlow =>
    rw [Piece.chars?.eq_def] at h
    simp only [if_neg hhigh, if_pos hlow] at h
    cases h
  | case7 high rest hhigh hlow ih =>
    have hsurrogate : ¬ IsSurrogate high := by
      rintro ⟨hmin, hmax⟩
      omega
    rw [chars?_unit hsurrogate] at h
    obtain ⟨_, hrest, -⟩ := Option.map_eq_some_iff.1 h
    exact .unit hsurrogate (ih hrest)

/-- A tree all of whose numbers are plain integers. -/
inductive Written.Integral : Written → Prop where
  | null : Integral .null
  | bool {b : Bool} : Integral (.bool b)
  | number {n : Numeral} :
    n.Plain →
    Integral (.number n)
  | string {pieces : List Piece} : Integral (.string pieces)
  | array {items : List Written} :
    (∀ item ∈ items, Integral item) →
    Integral (.array items)
  | object {fields : List (List Piece × Written)} :
    (∀ field ∈ fields, Integral field.2) →
    Integral (.object fields)

/-- The same, without unpaired surrogates and with at most `depth` containers around any part. -/
inductive Written.Plain : Nat → Written → Prop where
  | null {depth : Nat} : Plain depth .null
  | bool {depth : Nat} {b : Bool} : Plain depth (.bool b)
  | number {depth : Nat} {n : Numeral} :
    n.Plain →
    Plain depth (.number n)
  | string {depth : Nat} {pieces : List Piece} :
    Paired pieces →
    Plain depth (.string pieces)
  | array {depth : Nat} {items : List Written} :
    (∀ item ∈ items, Plain depth item) →
    Plain (depth + 1) (.array items)
  | object {depth : Nat} {fields : List (List Piece × Written)} :
    (∀ field ∈ fields, Paired field.1) →
    (∀ field ∈ fields, Plain depth field.2) →
    Plain (depth + 1) (.object fields)

/-- Items that all have a value with a property have such values together. -/
lemma exists_items? {items : List Written} {p : Json → Prop}
    (h : ∀ item ∈ items, ∃ v, item.value? depth = some v ∧ p v) :
    ∃ values, Written.items? depth items = some values ∧ ∀ v ∈ values, p v := by
  induction items with
  | nil => exact ⟨[], rfl, nofun⟩
  | cons item rest ih =>
    obtain ⟨⟨v, hv, hpv⟩, hrest⟩ := List.forall_mem_cons.1 h
    obtain ⟨values, hvalues, hpvalues⟩ := ih hrest
    refine ⟨v :: values, ?_, List.forall_mem_cons.2 ⟨hpv, hpvalues⟩⟩
    rw [Written.items?, hv, hvalues]
    rfl

/-- Fields whose keys are texts and whose values have a property are entries with that property. -/
lemma exists_fields? {fields : List (List Piece × Written)} {p : Json → Prop}
    (hkeys : ∀ field ∈ fields, Paired field.1)
    (h : ∀ field ∈ fields, ∃ v, field.2.value? depth = some v ∧ p v) :
    ∃ entries, Written.fields? depth fields = some entries ∧ ∀ entry ∈ entries, p entry.2 := by
  induction fields with
  | nil => exact ⟨[], rfl, nofun⟩
  | cons field rest ih =>
    obtain ⟨hkey, hkeys⟩ := List.forall_mem_cons.1 hkeys
    obtain ⟨⟨v, hv, hpv⟩, hrest⟩ := List.forall_mem_cons.1 h
    obtain ⟨k, hk⟩ := hkey.text?
    obtain ⟨entries, hentries, hpentries⟩ := ih hkeys hrest
    refine ⟨(k, v) :: entries, ?_, List.forall_mem_cons.2 ⟨hpv, hpentries⟩⟩
    rw [Written.fields?, hk, hv, hentries]
    rfl

/-- A plain tree has a value, and the value is canonical. -/
lemma exists_canonical {w : Written} (h : w.Plain depth) :
    ∃ v, w.value? depth = some v ∧ Canonical depth v := by
  induction h with
  | null => exact ⟨_, rfl, .null⟩
  | bool => exact ⟨_, rfl, .bool⟩
  | number hn =>
    rw [Written.value?, hn.value?]
    exact ⟨_, rfl, .int hn.fits⟩
  | string hpaired =>
    obtain ⟨s, hs⟩ := hpaired.text?
    rw [Written.value?, hs]
    exact ⟨_, rfl, .string⟩
  | array _ ih =>
    obtain ⟨values, hvalues, hcanonical⟩ := exists_items? ih
    rw [Written.value?, hvalues]
    exact ⟨_, rfl, .array hcanonical⟩
  | object hkeys _ ih =>
    obtain ⟨entries, hentries, hcanonical⟩ := exists_fields? hkeys ih
    rw [Written.value?, hentries]
    refine ⟨_, rfl, .object (KeyedList.ascending_ofList entries) ?_⟩
    intro field hfield
    exact hcanonical field (KeyedList.mem_of_mem_ofList hfield)

/-- Each of several items that have values together has a value. -/
lemma exists_value_of_items? {items : List Written} {values : List Json}
    (h : Written.items? depth items = some values) :
    ∀ item ∈ items, ∃ v, item.value? depth = some v := by
  induction items generalizing values with
  | nil => exact nofun
  | cons item rest ih =>
    simp only [Written.items?, Option.bind_eq_bind, Option.bind_eq_some_iff] at h
    obtain ⟨v, hv, others, hothers, -⟩ := h
    exact List.forall_mem_cons.2 ⟨⟨v, hv⟩, ih hothers⟩

/-- Each of several fields that are entries together has a text for a key and a value. -/
lemma exists_value_of_fields? {fields : List (List Piece × Written)}
    {entries : List (String × Json)} (h : Written.fields? depth fields = some entries) :
    ∀ field ∈ fields, Paired field.1 ∧ ∃ v, field.2.value? depth = some v := by
  induction fields generalizing entries with
  | nil => exact nofun
  | cons field rest ih =>
    simp only [Written.fields?, Option.bind_eq_bind, Option.bind_eq_some_iff] at h
    obtain ⟨k, hk, v, hv, others, hothers, -⟩ := h
    obtain ⟨cs, hcs, -⟩ := Option.map_eq_some_iff.1 hk
    exact List.forall_mem_cons.2 ⟨⟨paired_of_chars? hcs, v, hv⟩, ih hothers⟩

/-- Of the trees with plain integers exactly the plain ones have a value. -/
lemma exists_value?_iff {w : Written} (h : w.Integral) :
    (∃ v, w.value? depth = some v) ↔ w.Plain depth := by
  constructor
  · rintro ⟨v, hv⟩
    induction h generalizing depth v with
    | null => exact .null
    | bool => exact .bool
    | number hn => exact .number hn
    | string =>
      obtain ⟨s, hs, -⟩ := Option.map_eq_some_iff.1 hv
      obtain ⟨cs, hcs, -⟩ := Option.map_eq_some_iff.1 hs
      exact .string (paired_of_chars? hcs)
    | array _ ih =>
      cases depth with
      | zero => cases hv
      | succ depth =>
        obtain ⟨values, hvalues, -⟩ := Option.map_eq_some_iff.1 hv
        apply Written.Plain.array
        intro item hitem
        obtain ⟨v, hv⟩ := exists_value_of_items? hvalues item hitem
        exact ih item hitem v hv
    | object _ ih =>
      cases depth with
      | zero => cases hv
      | succ depth =>
        obtain ⟨entries, hentries, -⟩ := Option.map_eq_some_iff.1 hv
        have hfields := exists_value_of_fields? hentries
        refine .object (fun field hfield => (hfields field hfield).1) ?_
        intro field hfield
        obtain ⟨-, v, hv⟩ := hfields field hfield
        exact ih field hfield v hv
  · intro hplain
    obtain ⟨v, hv, -⟩ := exists_canonical hplain
    exact ⟨v, hv⟩

/-- The value of a tree whose numbers are all integers is canonical. -/
lemma canonical_of_integral {w : Written} (h : w.Integral) (hv : w.value? depth = some v) :
    Canonical depth v := by
  obtain ⟨v', hv', hcanonical⟩ := exists_canonical ((exists_value?_iff h).1 ⟨v, hv⟩)
  cases hv.symm.trans hv'
  exact hcanonical

end SecretMount.Json
