import SecretMount.Json.Printer
import SecretMount.Json.Written
import SecretMount.VersionMap

/-!
# Version maps as JSON

A map is an object of texts; its list is an array of objects with an id and a version. Reading
knows a repeated key: in a map the last entry counts, in an entry of a list it is refused. An
entry's other fields are passed over, whatever they hold. An entry may also be the array of its two
fields.
-/

namespace SecretMount.VersionMap

/-- The JSON text of the map. -/
def mapText (m : VersionMap) : String :=
  (Json.object (m.entries.map fun e => (e.1, .string e.2))).text

/-- The JSON text of the list. -/
def listText (m : VersionMap) : String :=
  (Json.array (m.toList.map fun e =>
    .object [("id", .string e.1), ("version", .string e.2)])).text

/-- The text of a JSON text's part, if it is one. -/
def textOf? : Json.Written → Option String
  | .string pieces => Json.Piece.text? pieces
  | _ => none

/-- A field of a map. -/
def fieldOf? (field : List Json.Piece × Json.Written) : Option (String × String) := do
  pure (← Json.Piece.text? field.1, ← textOf? field.2)

/-- The map of a JSON text. -/
def ofMapText? (s : String) : Option VersionMap := do
  match ← Json.Written.read? s with
  | .object fields => pure (ofList (← fields.mapM fieldOf?))
  | _ => none

/-- The id and the version among the fields of an entry, as far as they are there. -/
def knownFields : List (List Json.Piece × Json.Written) → Option (Option String × Option String)
  | [] => some (none, none)
  | (key, value) :: rest => do
    let name ← Json.Piece.text? key
    let (id, version) ← knownFields rest
    if name = "id" then
      if id.isSome then none else pure (some (← textOf? value), version)
    else if name = "version" then
      if version.isSome then none else pure (id, some (← textOf? value))
    else pure (id, version)

/-- An entry of a list. -/
def entryOf? : Json.Written → Option (String × String)
  | .object fields => do
    match ← knownFields fields with
    | (some id, some version) => pure (id, version)
    | _ => none
  | .array [id, version] => do pure (← textOf? id, ← textOf? version)
  | _ => none

/-- The ids and versions of a JSON text. -/
def listOfText? (s : String) : Option (List (String × String)) := do
  match ← Json.Written.read? s with
  | .array items => items.mapM entryOf?
  | _ => none

end SecretMount.VersionMap
