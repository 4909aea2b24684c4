import Mathlib.Data.List.Forall2
import SecretMount.Proofs.Except
import SecretMount.SecretValue

/-!
# The parts of a value

Extraction gives one part for each entry, in the order of the entries: what the entry's expression
finds in the payload, under the object of the entry (`extract_parts`, `parts_objects`). It fails for
the payload and the expressions only, in the name of the object (`extract_eq_error`).
-/

namespace SecretMount.SecretValue

variable {s : SecretValue} {o : SecretObject} {data : Json}

/-- The part of a value for an entry of its object. -/
structure IsPart (s : SecretValue) (entry : JmesEntry) (part : SecretValue) : Prop where
  object : part.object = s.object.ofEntry entry
  found : ∃ data, Json.ofBytes? s.bytes = some data ∧ matchOf entry.path data = .ok part.bytes

/-- A part is what its entry's path finds, for the object of the entry. -/
lemma extractEntry_eq_ok {entry : JmesEntry} {part : SecretValue}
    (h : extractEntry o data entry = .ok part) :
    part.object = o.ofEntry entry ∧ matchOf entry.path data = .ok part.bytes := by
  unfold extractEntry at h
  split at h
  case h_1 bytes hbytes =>
    cases h
    exact ⟨rfl, hbytes⟩
  case h_2 => cases h

/-- Each part is that of the entry in its place. -/
lemma extractEntries_eq_ok {entries : List JmesEntry} {parts : List SecretValue}
    (h : extractEntries o data entries = .ok parts) :
    List.Forall₂ (fun entry part => extractEntry o data entry = .ok part) entries parts := by
  induction entries generalizing parts with
  | nil =>
    cases h
    exact .nil
  | cons entry rest ih =>
    rw [extractEntries, except_bind_eq_ok] at h
    obtain ⟨part, hpart, h⟩ := h
    obtain ⟨others, hothers, h⟩ := except_bind_eq_ok.1 h
    cases h
    exact .cons hpart (ih hothers)

/-- The parts of a value are those of its entries, in order. -/
lemma extract_parts {parts : List SecretValue} (h : s.extract = .ok parts) :
    List.Forall₂ s.IsPart s.object.entries parts := by
  unfold extract at h
  split at h
  case isTrue hnone =>
    cases h
    rw [hnone]
    exact .nil
  case isFalse =>
    split at h
    case h_1 => cases h
    case h_2 data hdata =>
      apply (extractEntries_eq_ok h).imp
      intro entry part hpart
      obtain ⟨hobject, hfound⟩ := extractEntry_eq_ok hpart
      exact ⟨hobject, data, hdata, hfound⟩

/-- An entry fails for what its path fails for. -/
lemma extractEntry_eq_error {entry : JmesEntry} {failure : Failure}
    (h : extractEntry o data entry = .error failure) :
    ∃ fault, matchOf entry.path data = .error fault ∧
      failure = .decomposition o.displayName fault := by
  unfold extractEntry at h
  split at h
  case h_1 => cases h
  case h_2 fault hfault =>
    cases h
    exact ⟨fault, hfault, rfl⟩

/-- The entries are taken out one after the other. -/
lemma extractEntries_eq_mapM (o : SecretObject) (data : Json) (entries : List JmesEntry) :
    extractEntries o data entries = entries.mapM (extractEntry o data) := by
  induction entries with
  | nil => rfl
  | cons entry rest ih => rw [extractEntries, List.mapM_cons, ih]

/-- Taking out entries fails with a decomposition error that shows the object. -/
lemma extractEntries_eq_error {entries : List JmesEntry} {failure : Failure}
    (h : extractEntries o data entries = .error failure) :
    ∃ fault, failure = .decomposition o.displayName fault := by
  rw [extractEntries_eq_mapM, mapM_eq_error_iff] at h
  obtain ⟨_, entry, _, -, -, hentry⟩ := h
  obtain ⟨fault, -, hfailure⟩ := extractEntry_eq_error hentry
  exact ⟨fault, hfailure⟩

/-- Taking a value apart fails with a decomposition error that shows its object. -/
lemma extract_eq_error {failure : Failure} (h : s.extract = .error failure) :
    ∃ fault, failure = .decomposition s.object.displayName fault := by
  unfold extract at h
  split at h
  case isTrue => cases h
  case isFalse =>
    split at h
    case h_1 =>
      cases h
      exact ⟨.notJson, rfl⟩
    case h_2 => exact extractEntries_eq_error h

/-- Without entries nothing can fail. -/
lemma entries_ne_nil_of_extract_eq_error {failure : Failure} (h : s.extract = .error failure) :
    s.object.entries ≠ [] := by
  intro hnone
  rw [extract, if_pos hnone] at h
  cases h

/-- The parts of a value are for the objects of the entries. -/
lemma parts_objects {parts : List SecretValue} (h : List.Forall₂ s.IsPart s.object.entries parts) :
    parts.map SecretValue.object = s.object.entryObjects := by
  rw [SecretObject.entryObjects]
  generalize s.object.entries = entries at h
  induction h with
  | nil => rfl
  | cons hpart _ ih => rw [List.map_cons, List.map_cons, hpart.object, ih]

end SecretMount.SecretValue
