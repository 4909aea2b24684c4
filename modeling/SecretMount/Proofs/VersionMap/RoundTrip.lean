import SecretMount.Proofs.Json.Reading
import SecretMount.Proofs.VersionMap.Lookup
import SecretMount.VersionMap.Json

/-!
# Version maps there and back

The JSON text of a map is read as the map (`ofMapText?_mapText`), and that of its list as the list
(`listOfText?_listText`), whatever the ids and the versions are. A map is read by writing the fields
of its text one after the other (`ofMapText?_eq_map`).
-/

namespace SecretMount.VersionMap

/-- The fields of a JSON text that is an object of texts, as they stand there. -/
def fieldsOfText? (s : String) : Option (List (String × String)) := do
  match ← Json.Written.read? s with
  | .object fields => fields.mapM fieldOf?
  | _ => none

/-- A map is read as the map of the fields that are read. -/
lemma ofMapText?_eq_map (s : String) : ofMapText? s = (fieldsOfText? s).map ofList := by
  rw [ofMapText?, fieldsOfText?]
  cases Json.Written.read? s with
  | none => rfl
  | some w =>
    cases w with
    | object fields =>
      show (fields.mapM fieldOf? >>= fun entries => some (ofList entries)) = _
      exact Option.map_eq_bind.symm
    | _ => rfl

/-- A field is read back from its key and its value as they are printed. -/
lemma fieldOf?_written (e : String × String) :
    fieldOf? (Json.Piece.ofText e.1, Json.written (.string e.2)) = some e := by
  rw [fieldOf?, Json.written, textOf?, Json.text?_ofText, Json.text?_ofText]
  rfl

/-- The fields of a printed map are its entries. -/
lemma fieldsOfText?_mapText (m : VersionMap) : fieldsOfText? m.mapText = some m.entries := by
  have hwhole := Json.whole_texts Prod.fst Prod.snd m.entries
  rw [fieldsOfText?, mapText, Json.read?_text hwhole, Json.written, Json.writtenFields_eq_map,
    List.map_map]
  exact Json.mapM_map_eq_some fieldOf?_written m.entries

/-- A map is read back from its text. -/
lemma ofMapText?_mapText (m : VersionMap) : ofMapText? m.mapText = some m := by
  rw [ofMapText?_eq_map, fieldsOfText?_mapText, Option.map_some]
  exact congrArg some (ofList_toList m)

/-- The JSON value of an entry of the list. -/
def entryJson (e : String × String) : Json :=
  .object [("id", .string e.1), ("version", .string e.2)]

/-- An entry is read back from its object as it is printed. -/
lemma entryOf?_written (e : String × String) : entryOf? (Json.written (entryJson e)) = some e := by
  rw [entryJson, Json.written, Json.writtenFields_eq_map, List.map_cons, List.map_cons,
    List.map_nil, Json.written, Json.written, entryOf?]
  simp [knownFields, textOf?, Json.text?_ofText]

/-- The list of a map is read back from its text. -/
lemma listOfText?_listText (m : VersionMap) : listOfText? m.listText = some m.toList := by
  have hwhole : Json.Whole (.array (m.toList.map entryJson)) := by
    apply Json.Whole.array
    intro item hitem
    obtain ⟨e, -, rfl⟩ := List.mem_map.1 hitem
    exact Json.whole_texts Prod.fst Prod.snd [("id", e.1), ("version", e.2)]
  have htext : m.listText = (Json.array (m.toList.map entryJson)).text := rfl
  rw [listOfText?, htext, Json.read?_text hwhole, Json.written, Json.writtenItems_eq_map,
    List.map_map]
  exact Json.mapM_map_eq_some entryOf?_written m.toList

end SecretMount.VersionMap
