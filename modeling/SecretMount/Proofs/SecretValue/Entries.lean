import SecretMount.Proofs.Pass.Extraction

/-!
# Entries one by one

What extraction comes to is what it comes to for each entry alone. An entry gives a part if its path
finds something in the payload (`Finds`), and fails for one of three reasons otherwise (`Misses`);
no other entry has a say in it (`extract_only`). Main statement: `extract_entries`, the parts of
a value are those of its entries alone, put together, and the first entry that fails decides the
failure.
-/

namespace SecretMount

/-- The object stands for the entry: it has the entry's alias under the parent's mount settings, and
nothing else. -/
structure SecretObject.StandsFor (o parent : SecretObject) (entry : JmesEntry) : Prop where
  name : o.name = ""
  objectAlias : o.record.objectAlias = some entry.objectAlias
  mount : o.mount = parent.mount
  version : o.record.version = none
  versionLabel : o.record.versionLabel = none
  type : o.record.type = none
  kmsEndpoint : o.record.kmsEndpoint = none
  entries : o.entries = []

/-- The object of an entry stands for the entry in its parent. -/
lemma SecretObject.standsFor_ofEntry (parent : SecretObject) (entry : JmesEntry) :
    (parent.ofEntry entry).StandsFor parent entry :=
  ⟨rfl, rfl, rfl, rfl, rfl, rfl, rfl, rfl⟩

namespace SecretValue

variable {s : SecretValue} {path : String} {data : Json}

/-- The path compiles, and it evaluates to something other than null. -/
def Finds (path : String) (data : Json) : Prop :=
  ∃ e result, JmesPath.Expr.compile? path = some e ∧ e.search? data = some result ∧
    result.isNull = false

/-- Why a path finds nothing. -/
inductive Misses (path : String) (data : Json) : DecompositionFault → Prop where
  | badPath :
    JmesPath.Expr.compile? path = none →
    Misses path data (.badPath path)
  | failedPath {e : JmesPath.Expr} :
    JmesPath.Expr.compile? path = some e →
    e.search? data = none →
    Misses path data (.failedPath path)
  | noMatch {e : JmesPath.Expr} {result : JmesPath.Operand} :
    JmesPath.Expr.compile? path = some e →
    e.search? data = some result →
    result.isNull = true →
    Misses path data (.noMatch path)

/-- A path finds something, or misses it for one reason. -/
lemma matchOf_cases (path : String) (data : Json) :
    (Finds path data ∧ ∃ bytes, matchOf path data = .ok bytes) ∨
    ∃ fault, Misses path data fault ∧ matchOf path data = .error fault := by
  unfold matchOf
  split
  case h_1 hcompile => exact .inr ⟨_, .badPath hcompile, rfl⟩
  case h_2 e hcompile =>
    split
    case h_1 hsearch => exact .inr ⟨_, .failedPath hcompile hsearch, rfl⟩
    case h_2 hsearch => exact .inr ⟨_, .noMatch hcompile hsearch rfl, rfl⟩
    case h_3 v hnull hsearch =>
      refine .inl ⟨⟨e, .value v, hcompile, hsearch, ?_⟩, _, rfl⟩
      cases v with
      | null => exact absurd rfl hnull
      | _ => rfl
    case h_4 result hnull hvalue hsearch =>
      refine .inl ⟨⟨e, result, hcompile, hsearch, ?_⟩, _, rfl⟩
      cases result with
      | value v => exact absurd rfl (hvalue v)
      | reference apply => rfl

/-- What is found is not missed. -/
lemma Misses.not_finds {fault : DecompositionFault} (h : Misses path data fault) :
    ¬ Finds path data := by
  rintro ⟨e, result, hcompile, hsearch, hnull⟩
  cases h with
  | badPath h => simp [hcompile] at h
  | failedPath h hnone =>
    rw [hcompile] at h
    cases h
    simp [hsearch] at hnone
  | noMatch h hsome hisnull =>
    rw [hcompile] at h
    cases h
    rw [hsearch] at hsome
    cases hsome
    simp [hnull] at hisnull

/-- A path that finds something is one that matches. -/
lemma exists_matchOf_eq_ok_iff : (∃ bytes, matchOf path data = .ok bytes) ↔ Finds path data := by
  rcases matchOf_cases path data with ⟨hfinds, hok⟩ | ⟨fault, hmisses, herror⟩
  · exact ⟨fun _ => hfinds, fun _ => hok⟩
  · refine ⟨?_, fun hfinds => absurd hfinds hmisses.not_finds⟩
    rintro ⟨bytes, hok⟩
    cases herror.symm.trans hok

/-- A path that does not match misses for the reason that is given. -/
lemma misses_of_matchOf {fault : DecompositionFault} (h : matchOf path data = .error fault) :
    Misses path data fault := by
  rcases matchOf_cases path data with ⟨-, bytes, hok⟩ | ⟨fault', hmisses, herror⟩
  · cases hok.symm.trans h
  · cases herror.symm.trans h
    exact hmisses

instance (path : String) (data : Json) : Decidable (Finds path data) :=
  match h : matchOf path data with
  | .ok bytes => isTrue (exists_matchOf_eq_ok_iff.1 ⟨bytes, h⟩)
  | .error _ => isFalse (misses_of_matchOf h).not_finds

/-- The value with one entry only. -/
def only (s : SecretValue) (entry : JmesEntry) : SecretValue :=
  { s with object :=
    { s.object with record := { s.object.record with entries := [entry] } } }

/-- The entries of a payload that is JSON are taken out one after the other. -/
lemma extract_of_json (h : Json.ofBytes? s.bytes = some data) :
    s.extract = s.object.entries.mapM (extractEntry s.object data) := by
  rw [← extractEntries_eq_mapM, extract, h]
  split
  case isTrue hnone =>
    rw [hnone]
    rfl
  case isFalse => rfl

/-- A payload that is no JSON fails for that if there are entries. -/
lemma extract_of_not_json (h : Json.ofBytes? s.bytes = none) (hentries : s.object.entries ≠ []) :
    s.extract = .error (.decomposition s.object.displayName .notJson) := by
  rw [extract, if_neg hentries, h]

/-- What an entry comes to alone is its part: neither the name for messages nor the mount settings
depend on the entries. -/
lemma extract_only (entry : JmesEntry) (h : Json.ofBytes? s.bytes = some data) :
    (s.only entry).extract = (extractEntry s.object data entry).map fun part => [part] := by
  have hpart : extractEntry (s.only entry).object data entry = extractEntry s.object data entry :=
    rfl
  rw [extract_of_json (s := s.only entry) h]
  show [entry].mapM _ = _
  rw [List.mapM_cons, hpart]
  cases extractEntry s.object data entry with
  | error failure => rfl
  | ok part => rfl

/-- An entry is taken out just if its path finds something. -/
lemma exists_extractEntry_eq_ok_iff (o : SecretObject) (entry : JmesEntry) :
    (∃ part, extractEntry o data entry = .ok part) ↔ Finds entry.path data := by
  rw [← exists_matchOf_eq_ok_iff, extractEntry]
  cases matchOf entry.path data with
  | error fault => exact ⟨nofun, nofun⟩
  | ok bytes => exact ⟨fun _ => ⟨bytes, rfl⟩, fun _ => ⟨_, rfl⟩⟩

/-- With or without JSON, a value comes to what its entries alone come to, put together. -/
lemma extract_eq_mapM_only (s : SecretValue) :
    s.extract =
      (s.object.entries.mapM fun entry => (s.only entry).extract).map List.flatten := by
  cases hdata : Json.ofBytes? s.bytes with
  | some data =>
    simp only [extract_only _ hdata]
    rw [extract_of_json hdata, map_flatten_mapM_singleton]
  | none =>
    have hfails (entry : JmesEntry) : (s.only entry).extract =
        .error (.decomposition s.object.displayName .notJson) :=
      extract_of_not_json (s := s.only entry) hdata (List.cons_ne_nil _ _)
    cases hentries : s.object.entries with
    | nil =>
      rw [extract, if_pos hentries]
      rfl
    | cons entry rest =>
      have hsome : s.object.entries ≠ [] := by simp [hentries]
      rw [extract_of_not_json hdata hsome, List.mapM_cons, hfails]
      rfl

/-- Entries are taken out just if the payload is JSON and each path finds something. -/
lemma exists_extract_eq_ok_iff (hentries : s.object.entries ≠ []) :
    (∃ parts, s.extract = .ok parts) ↔ ∃ data, Json.ofBytes? s.bytes = some data ∧
      ∀ entry ∈ s.object.entries, Finds entry.path data := by
  cases hdata : Json.ofBytes? s.bytes with
  | none =>
    rw [extract_of_not_json hdata hentries]
    exact ⟨nofun, nofun⟩
  | some data =>
    have hparts := exists_mapM_eq_ok_iff (f := extractEntry s.object data) (l := s.object.entries)
    simp only [exists_extractEntry_eq_ok_iff] at hparts
    rw [extract_of_json hdata, hparts]
    constructor
    · intro hfinds
      exact ⟨data, rfl, hfinds⟩
    · rintro ⟨_, hsame, hfinds⟩
      cases hsame
      exact hfinds

/-- Each part is what its entry alone gives, and nothing can be extracted from it again. -/
lemma extract_parts_only {parts : List SecretValue} (h : s.extract = .ok parts) :
    List.Forall₂ (fun entry part => (s.only entry).extract = .ok [part] ∧
      part.object.StandsFor s.object entry ∧ part.extract = .ok []) s.object.entries parts := by
  apply (extract_parts h).imp
  rintro entry part ⟨hobject, data, hdata, hfound⟩
  have hstands : part.object.StandsFor s.object entry := by
    rw [hobject]
    exact SecretObject.standsFor_ofEntry _ _
  have hpart : extractEntry s.object data entry = .ok part := by
    rw [extractEntry, hfound, ← hobject]
  refine ⟨?_, hstands, if_pos hstands.entries⟩
  rw [extract_only entry hdata, hpart]
  rfl

/-- The first entry whose path finds nothing decides the failure. -/
lemma extract_eq_error_iff {failure : Failure} (hdata : Json.ofBytes? s.bytes = some data) :
    s.extract = .error failure ↔ ∃ before entry after,
      s.object.entries = before ++ entry :: after ∧
      (∀ e ∈ before, Finds e.path data) ∧
      (s.only entry).extract = .error failure := by
  rw [extract_of_json hdata, mapM_eq_error_iff]
  simp only [exists_extractEntry_eq_ok_iff, extract_only _ hdata, except_map_eq_error]

/-- An entry that fails alone fails because its path misses. -/
lemma misses_of_only {entry : JmesEntry} {failure : Failure}
    (hdata : Json.ofBytes? s.bytes = some data) (h : (s.only entry).extract = .error failure) :
    ∃ fault, Misses entry.path data fault ∧
      failure = .decomposition s.object.displayName fault := by
  rw [extract_only entry hdata, except_map_eq_error] at h
  obtain ⟨fault, hfault, hfailure⟩ := extractEntry_eq_error h
  exact ⟨fault, misses_of_matchOf hfault, hfailure⟩

/-- Extraction goes entry by entry. A value without entries has no parts, whatever its payload is. One
with entries has its parts exactly where the payload is JSON and every path finds something. What it
comes to is what its entries alone come to, put together: on success there is one part for each entry
in order, whose object stands for the entry, and nothing can be extracted from a part again; and on
failure, if the payload is JSON, the first entry that finds nothing fails as it does alone, in the name
of the object. -/
theorem extract_entries (s : SecretValue) :
    (s.object.entries = [] → s.extract = .ok []) ∧
    (s.object.entries ≠ [] →
      ((∃ parts, s.extract = .ok parts) ↔ ∃ data, Json.ofBytes? s.bytes = some data ∧
        ∀ entry ∈ s.object.entries, Finds entry.path data)) ∧
    s.extract =
      (s.object.entries.mapM fun entry => (s.only entry).extract).map List.flatten ∧
    (∀ parts, s.extract = .ok parts →
      List.Forall₂ (fun entry part => (s.only entry).extract = .ok [part] ∧
        part.object.StandsFor s.object entry ∧ part.extract = .ok []) s.object.entries parts) ∧
    (∀ data, Json.ofBytes? s.bytes = some data → ∀ failure, s.extract = .error failure →
      ∃ before entry after fault, s.object.entries = before ++ entry :: after ∧
        (∀ e ∈ before, Finds e.path data) ∧
        (s.only entry).extract = .error failure ∧
        Misses entry.path data fault ∧
        failure = .decomposition s.object.displayName fault) := by
  refine ⟨fun hnone => if_pos hnone, exists_extract_eq_ok_iff, extract_eq_mapM_only s,
    fun parts => extract_parts_only, ?_⟩
  intro data hdata failure herror
  obtain ⟨before, entry, after, hentries, hbefore, hentry⟩ := (extract_eq_error_iff hdata).1 herror
  obtain ⟨fault, hmisses, hfailure⟩ := misses_of_only hdata hentry
  exact ⟨before, entry, after, fault, hentries, hbefore, hentry, hmisses, hfailure⟩

/-- Of two entries the first finds its part and the second finds nothing: the value fails, and it does
so for the second. -/
theorem extract_entries_missing :
    let entries : List JmesEntry := [⟨"a", "first"⟩, ⟨"b", "second"⟩]
    let s : SecretValue := ⟨"\x7b\"a\":\"x\"\x7d".toUTF8, { record := { name := "db", entries } }⟩
    ∃ data, Json.ofBytes? s.bytes = some data ∧ Finds "a" data ∧
      (¬ ∃ parts, s.extract = .ok parts) ∧
      ∃ fault, Misses "b" data fault ∧ s.extract = .error (.decomposition "db" fault) := by
  intro entries s
  have hjson : (Json.ofBytes? s.bytes).isSome ∧
      ∀ data ∈ Json.ofBytes? s.bytes, Finds "a" data ∧ ¬ Finds "b" data := by decide +kernel
  obtain ⟨data, hdata⟩ := Option.isSome_iff_exists.1 hjson.1
  obtain ⟨hfirst, hsecond⟩ := hjson.2 data hdata
  obtain ⟨-, hparts, -, -, hfails⟩ := extract_entries s
  have hnone : ¬ ∃ parts, s.extract = .ok parts := by
    rw [hparts (List.cons_ne_nil _ _)]
    rintro ⟨data', hdata', hfinds⟩
    cases hdata.symm.trans hdata'
    exact hsecond (hfinds ⟨"b", "second"⟩ (by decide))
  refine ⟨data, hdata, hfirst, hnone, ?_⟩
  cases hextract : s.extract with
  | ok parts => exact absurd ⟨parts, hextract⟩ hnone
  | error failure =>
    obtain ⟨before, entry, after, fault, hentries, -, -, hmisses, rfl⟩ :=
      hfails data hdata failure hextract
    -- the failing entry is not the first, which finds something
    cases before with
    | nil =>
      cases hentries
      exact absurd hfirst hmisses.not_finds
    | cons e rest =>
      cases rest with
      | nil =>
        cases hentries
        exact ⟨fault, hmisses, rfl⟩
      | cons e' rest => simp [s, entries, SecretObject.entries] at hentries

end SecretValue

end SecretMount
