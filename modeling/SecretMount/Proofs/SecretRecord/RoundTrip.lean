import SecretMount.Proofs.Json.Canonical
import SecretMount.SecretRecord.Json

/-!
# Records there and back

A record is what is read from its JSON value, from its JSON text and from the list of its fields
(`ofJson?_toJson`, `ofJsonText?_jsonText`, `ofJson?_toFieldList`). What a value leaves out does not
change what is read, as long as defaults are all that it leaves out (`ofJson?_of_omits`). Main
statement: `json_round_trip`.
-/

namespace SecretMount

namespace Json

variable {α : Type}

/-- An optional text is read back from its value. -/
lemma optionalText?_ofText? (s : Option String) : optionalText? (ofText? s) = some s := by
  cases s <;> rfl

/-- The value of an optional text has no double in it. -/
lemma whole_ofText? (s : Option String) : Whole (ofText? s) := by
  cases s with
  | none => exact .null
  | some s => exact .string

/-- The value of an optional text is the value of its tree. -/
lemma value?_written_ofText? (s : Option String) (depth : Nat) :
    (written (ofText? s)).value? depth = some (ofText? s) := by
  cases s with
  | none => exact value?_written .null
  | some s => exact value?_written .string

/-- Values that are listed by a function are read one by one. -/
lemma items?_written_map {f g : α → Json} {depth : Nat}
    (h : ∀ a, (written (f a)).value? depth = some (g a)) (l : List α) :
    Written.items? depth (writtenItems (l.map f)) = some (l.map g) := by
  induction l with
  | nil => rfl
  | cons a rest ih =>
    rw [List.map_cons, writtenItems, Written.items?, h, ih]
    rfl

/-- A value from which nothing but defaults is left out: keys of an object whose values are those of
the object of the defaults, or the end of a list, if it is that of the list of the defaults. -/
inductive Omits (object list : Json) : Json → Json → Prop where
  | keys {fields : List (String × Json)} (left : List String) :
    (∀ key ∈ left, (Json.object fields).field? key = object.field? key) →
    Omits object list (.object fields) (.object (fields.filter fun e => e.1 ∉ left))
  | trailing {defaults : List Json} (items : List Json) (n : Nat) :
    list = .array defaults →
    Omits object list (.array (items ++ (defaults.drop items.length).take n)) (.array items)

/-- A value is there as before, or it is missing now and was the default. -/
def Kept (default before now : Option Json) : Prop :=
  now = before ∨ now = none ∧ before = default

/-- A field that is left out of an object is kept if it had its default. -/
lemma kept_field? {object : Json} {fields : List (String × Json)} {left : List String}
    (h : ∀ key ∈ left, (Json.object fields).field? key = object.field? key) (key : String) :
    Kept (object.field? key) ((Json.object fields).field? key)
      ((Json.object (fields.filter fun e => e.1 ∉ left)).field? key) := by
  have hfilter := KeyedList.get?_filter_key (m := fields) (k := key) fun key => key ∉ left
  show Kept _ _ (KeyedList.get? key _)
  rw [hfilter]
  by_cases hkey : key ∈ left
  · right
    exact ⟨if_neg (by simpa using hkey), h key hkey⟩
  · left
    exact if_pos (by simpa using hkey)

/-- An item that is left out at the end of a list is kept if it was the default in its place. -/
lemma kept_getElem? (items defaults : List Json) (n i : Nat) :
    Kept defaults[i]? (items ++ (defaults.drop items.length).take n)[i]? items[i]? := by
  by_cases hi : i < items.length
  · left
    rw [List.getElem?_append_left hi]
  · rw [not_lt] at hi
    rw [List.getElem?_eq_none hi, List.getElem?_append_right hi, List.getElem?_take]
    split
    case isTrue =>
      right
      rw [List.getElem?_drop, Nat.add_sub_cancel' hi]
      exact ⟨rfl, rfl⟩
    case isFalse => exact .inl rfl

/-- What is kept is read as it was before, with the default for what is missing. -/
lemma readOr_of_kept {read : Json → Option α} {a : α} {v : Json} {before now : Option Json}
    (h : Kept (some v) before now) (hdefault : read v = some a) :
    readOr read a now = readOr read a before := by
  rcases h with rfl | ⟨rfl, rfl⟩
  · rfl
  · exact hdefault.symm

/-- The end that is left out does not make a list too long. -/
lemma length_trailing_le_iff (items defaults : List Json) (n : Nat) :
    (items ++ (defaults.drop items.length).take n).length ≤ defaults.length ↔
      items.length ≤ defaults.length := by
  rw [List.length_append, List.length_take, List.length_drop]
  omega

end Json

namespace JmesEntry

/-- An entry is read back from its object. -/
lemma ofJson?_toJson (e : JmesEntry) : ofJson? e.toJson = some e := by
  simp [ofJson?, toJson, Json.field?, KeyedList.get?, ofFields?, Json.readOr, Json.string?]

/-- An entry is read back from the list of its fields. -/
lemma ofJson?_toFieldList (e : JmesEntry) : ofJson? e.toFieldList = some e := rfl

/-- The value of the tree of an entry is its object. -/
lemma value?_written_toDeclared (e : JmesEntry) (depth : Nat) :
    (Json.written e.toDeclared).value? (depth + 1) = some e.toJson := by
  have hkeys : ["objectAlias", "path"].Pairwise (· < ·) := by decide +kernel
  rw [toDeclared, toJson, Json.value?_written_object]
  · refine congrArg (some <| Json.object ·) ?_
    refine KeyedList.ofList_eq_of_mem_iff (List.pairwise_map.1 hkeys) ?_
    simp [or_comm]
  · simp [Json.value?_written .string]

/-- The value of an entry has no double in it. -/
lemma whole_toDeclared (e : JmesEntry) : Json.Whole e.toDeclared := by
  apply Json.Whole.object
  simp [Json.Whole.string]

/-- A value that leaves out defaults of an entry. -/
abbrev Omits : Json → Json → Prop :=
  Json.Omits (toJson {}) (toFieldList {})

/-- Fields that are kept are read as the same entry. -/
lemma ofFields?_of_kept {path path' objectAlias objectAlias' : Option Json}
    (hpath : Json.Kept (some (.string "")) path path')
    (hobjectAlias : Json.Kept (some (.string "")) objectAlias objectAlias') :
    ofFields? path' objectAlias' = ofFields? path objectAlias := by
  rw [ofFields?, ofFields?, Json.readOr_of_kept hpath, Json.readOr_of_kept hobjectAlias]
  all_goals rfl

/-- A value that leaves out defaults is read as the same entry. -/
lemma ofJson?_of_omits {v w : Json} (h : Omits v w) : ofJson? w = ofJson? v := by
  cases h with
  | keys _ hleft =>
    rw [ofJson?, ofJson?]
    exact ofFields?_of_kept (Json.kept_field? hleft "path") (Json.kept_field? hleft "objectAlias")
  | trailing items n hlist =>
    cases hlist
    have hlength := Json.length_trailing_le_iff items [.string "", .string ""] n
    rw [ofJson?, ofJson?]
    refine ite_congr (propext hlength.symm) (fun _ => ?_) (fun _ => rfl)
    exact ofFields?_of_kept (Json.kept_getElem? items _ n 0) (Json.kept_getElem? items _ n 1)

end JmesEntry

namespace SecretRecord

variable {v w : Json}

/-- A record is read back from its object. -/
lemma ofJson?_toJson (r : SecretRecord) : ofJson? r.toJson = some r := by
  have hentries : readEntries (.array (r.entries.map JmesEntry.toJson)) = some r.entries :=
    Json.mapM_map_eq_some JmesEntry.ofJson?_toJson r.entries
  simp [ofJson?, toJson, Json.field?, KeyedList.get?, ofFields?, Json.readOr, Json.string?,
    Json.optionalText?_ofText?, hentries]

/-- A record is read back from the list of its fields. -/
lemma ofJson?_toFieldList (r : SecretRecord) : ofJson? r.toFieldList = some r := by
  have hentries : readEntries (.array (r.entries.map JmesEntry.toFieldList)) = some r.entries :=
    Json.mapM_map_eq_some JmesEntry.ofJson?_toFieldList r.entries
  simp [ofJson?, toFieldList, fieldNames, KeyedList.get?, ofFields?, Json.readOr, Json.string?,
    Json.optionalText?_ofText?, hentries]

/-- The value of a record has no double in it. -/
lemma whole_toDeclared (r : SecretRecord) : Json.Whole r.toDeclared := by
  have hentries : Json.Whole (.array (r.entries.map JmesEntry.toDeclared)) := by
    apply Json.Whole.array
    intro item hitem
    obtain ⟨e, -, rfl⟩ := List.mem_map.1 hitem
    exact e.whole_toDeclared
  apply Json.Whole.object
  simp [declaredFields, Json.Whole.string, Json.whole_ofText?, hentries]

/-- The order in which the fields are listed makes no difference. -/
lemma object_ofList_declaredFields (r : SecretRecord) :
    .object (KeyedList.ofList (r.declaredFields (r.entries.map JmesEntry.toJson))) = r.toJson := by
  have hkeys : ["jmesPath", "kmsEndpoint", "objectAlias", "objectName", "objectType",
      "objectVersion", "objectVersionLabel"].Pairwise (· < ·) := by decide +kernel
  rw [toJson]
  refine congrArg Json.object (KeyedList.ofList_eq_of_mem_iff (List.pairwise_map.1 hkeys) ?_)
  intro e
  simp only [declaredFields, List.mem_cons, List.not_mem_nil]
  tauto

/-- The value of the tree of a record is its object. -/
lemma value?_written_toDeclared (r : SecretRecord) (depth : Nat) :
    (Json.written r.toDeclared).value? (depth + 3) = some r.toJson := by
  have hentries := Json.items?_written_map (fun e => e.value?_written_toDeclared depth) r.entries
  have hfields : Json.Written.fields? (depth + 2) (Json.writtenFields
      (r.declaredFields (r.entries.map JmesEntry.toDeclared))) =
      some (r.declaredFields (r.entries.map JmesEntry.toJson)) := by
    simp [declaredFields, Json.writtenFields, Json.written, Json.Written.value?,
      Json.Written.fields?, Json.text?_ofText, Json.value?_written_ofText?, hentries]
  rw [toDeclared, Json.written, Json.Written.value?, hfields, ← object_ofList_declaredFields]
  rfl

/-- The printed text of a record is read as its object. -/
lemma read?_text_toDeclared (r : SecretRecord) : Json.read? r.toDeclared.text = some r.toJson := by
  rw [Json.read?, Json.read?_text r.whole_toDeclared]
  exact r.value?_written_toDeclared 124

/-- A value that leaves out defaults of a record. -/
abbrev Omits : Json → Json → Prop :=
  Json.Omits (toJson {}) (toFieldList {})

/-- Fields that are kept are read as the same record. -/
lemma ofFields?_of_kept {before now : String → Option Json}
    (h : ∀ name ∈ fieldNames, Json.Kept ((toJson {}).field? name) (before name) (now name)) :
    ofFields? now = ofFields? before := by
  simp only [fieldNames, List.forall_mem_cons] at h
  obtain ⟨hname, halias, hversion, hlabel, htype, hentries, hendpoint, -⟩ := h
  rw [ofFields?, ofFields?, Json.readOr_of_kept hname, Json.readOr_of_kept halias,
    Json.readOr_of_kept hversion, Json.readOr_of_kept hlabel, Json.readOr_of_kept htype,
    Json.readOr_of_kept hentries, Json.readOr_of_kept hendpoint]
  all_goals rfl

/-- The list of the defaults has them in the places of their names. -/
lemma default_getElem? {defaults : List Json} (h : toFieldList {} = .array defaults) :
    ∀ name ∈ fieldNames, defaults[fieldNames.idxOf name]? = (toJson {}).field? name := by
  cases h
  simp only [fieldNames, List.forall_mem_cons]
  exact ⟨rfl, rfl, rfl, rfl, rfl, rfl, rfl, List.forall_mem_nil _⟩

/-- A value that leaves out defaults is read as the same record. -/
lemma ofJson?_of_omits (h : Omits v w) : ofJson? w = ofJson? v := by
  cases h with
  | keys _ hleft => exact ofFields?_of_kept fun name _ => Json.kept_field? hleft name
  | @trailing defaults items n hlist =>
    have hdefault := default_getElem? hlist
    have hall : defaults.length = fieldNames.length := by
      cases hlist
      rfl
    have hlength := Json.length_trailing_le_iff items defaults n
    rw [hall] at hlength
    rw [ofJson?, ofJson?]
    refine ite_congr (propext hlength.symm) (fun hshort => ?_) (fun _ => rfl)
    apply ofFields?_of_kept
    intro name hname
    rw [KeyedList.get?_zip hshort, KeyedList.get?_zip (hlength.1 hshort), ← hdefault name hname]
    exact Json.kept_getElem? items defaults n _

end SecretRecord

namespace SecretObject

/-- An object that is read has the default settings of a mount. -/
lemma mount_of_ofJson? {v : Json} {o : SecretObject} (h : ofJson? v = some o) :
    o = ⟨o.record, {}⟩ := by
  obtain ⟨r, -, rfl⟩ := Option.map_eq_some_iff.1 h
  rfl

/-- An object is read back from its value. -/
lemma ofJson?_toJson (r : SecretRecord) : ofJson? (toJson ⟨r, {}⟩) = some ⟨r, {}⟩ := by
  rw [ofJson?, toJson, SecretRecord.ofJson?_toJson, Option.map_some]

/-- An object is read back from its text. -/
lemma ofJsonText?_jsonText (r : SecretRecord) : ofJsonText? (jsonText ⟨r, {}⟩) = some ⟨r, {}⟩ := by
  rw [ofJsonText?, jsonText, SecretRecord.read?_text_toDeclared]
  exact ofJson?_toJson r

/-- An object under the default mount settings is what is read from its JSON value, from its JSON
text and from the list of its fields, so nothing that can be read changes by being written and read
again. Defaults may be left out, as keys or at the end of a list: what is read stays the same, also
if it is nothing. The same holds of the entries. -/
theorem json_round_trip :
    (∀ r : SecretRecord,
      let o : SecretObject := ⟨r, {}⟩
      ofJson? o.toJson = some o ∧ ofJsonText? o.jsonText = some o ∧
        ofJson? r.toFieldList = some o) ∧
    (∀ v o, ofJson? v = some o → ofJson? o.toJson = some o ∧ ofJsonText? o.jsonText = some o) ∧
    (∀ v w, SecretRecord.Omits v w → ofJson? w = ofJson? v) ∧
    ∀ v w, JmesEntry.Omits v w → JmesEntry.ofJson? w = JmesEntry.ofJson? v := by
  refine ⟨?_, ?_, ?_, fun v w h => JmesEntry.ofJson?_of_omits h⟩
  · intro r o
    refine ⟨ofJson?_toJson r, ofJsonText?_jsonText r, ?_⟩
    rw [ofJson?, SecretRecord.ofJson?_toFieldList, Option.map_some]
  · intro v o h
    rw [mount_of_ofJson? h]
    exact ⟨ofJson?_toJson o.record, ofJsonText?_jsonText o.record⟩
  · intro v w h
    rw [ofJson?, ofJson?, SecretRecord.ofJson?_of_omits h]

/-- An empty version is not the default: it is written and read again. The null alias is, and so is
the empty list of entries. -/
theorem json_round_trip_sparse :
    let o : SecretObject := ⟨{ name := "db", version := some "" }, {}⟩
    let list : List Json := [.string "db", .null, .string ""]
    let rest : List Json := [.null, .null, .array [], .null]
    let fields : List (String × Json) :=
      [("objectName", .string "db"), ("objectVersion", .string "")]
    ofJson? (.array list) = some o ∧ ofJsonText? o.jsonText = some o ∧
      SecretRecord.Omits (.array (list ++ rest)) (.array list) ∧
      ofJson? (.array (list ++ rest)) = some o ∧
      SecretRecord.Omits (.object (("jmesPath", .array []) :: ("objectAlias", .null) :: fields))
        (.object fields) ∧
      ofJson? (.object (("jmesPath", .array []) :: ("objectAlias", .null) :: fields)) = some o ∧
      JmesEntry.Omits (.array [.string "a", .string ""]) (.array [.string "a"]) ∧
      JmesEntry.ofJson? (.array [.string "a", .string ""]) = some ⟨"a", ""⟩ := by
  intro o list rest fields
  obtain ⟨-, hagain, homits, hentry⟩ := json_round_trip
  have hlist : ofJson? (.array list) = some o := rfl
  have hfields : ofJson? (.object fields) = some o := rfl
  have htrailing : SecretRecord.Omits (.array (list ++ rest)) (.array list) :=
    .trailing list 4 rfl
  have hkeys : SecretRecord.Omits
      (.object (("jmesPath", .array []) :: ("objectAlias", .null) :: fields)) (.object fields) :=
    .keys ["jmesPath", "objectAlias"]
      (List.forall_mem_cons.2 ⟨rfl, List.forall_mem_cons.2 ⟨rfl, List.forall_mem_nil _⟩⟩)
  have hentries : JmesEntry.Omits (.array [.string "a", .string ""]) (.array [.string "a"]) :=
    .trailing [.string "a"] 1 rfl
  exact ⟨hlist, (hagain _ o hlist).2, htrailing, (homits _ _ htrailing).symm.trans hlist, hkeys,
    (homits _ _ hkeys).symm.trans hfields, hentries, (hentry _ _ hentries).symm.trans rfl⟩

end SecretObject

end SecretMount
