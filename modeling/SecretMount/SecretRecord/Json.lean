import SecretMount.Json.Printer
import SecretMount.Json.Written
import SecretMount.SecretObject

/-!
# Records as JSON

A record is written as an object with all seven fields. It is read from an object, in which fields
may be missing and unknown ones are ignored, or from the list of its fields in the order of their
declaration, which may end early. A missing field has its default. An optional text may be null. An
object is written as its record, and what is read has the default mount settings.
-/

namespace SecretMount

namespace Json

/-- An optional text: null for none. -/
def ofText? : Option String → Json
  | none => .null
  | some s => .string s

/-- An optional text, or nothing if the value is neither null nor a text. -/
def optionalText? : Json → Option (Option String)
  | .null => some none
  | .string s => some (some s)
  | _ => none

/-- Reads the value of a field, or its default if there is no value. -/
def readOr {α : Type} (read : Json → Option α) (default : α) : Option Json → Option α
  | none => some default
  | some v => read v

end Json

namespace JmesEntry

/-- Reads an entry from the values of its two fields. -/
def ofFields? (path objectAlias : Option Json) : Option JmesEntry := do
  let path ← Json.readOr Json.string? "" path
  let objectAlias ← Json.readOr Json.string? "" objectAlias
  pure ⟨path, objectAlias⟩

/-- Reads an entry. -/
def ofJson? : Json → Option JmesEntry
  | v@(.object _) => ofFields? (v.field? "path") (v.field? "objectAlias")
  | .array items =>
    if items.length ≤ 2 then ofFields? items[0]? items[1]? else none
  | _ => none

/-- Writes an entry. -/
def toJson (e : JmesEntry) : Json :=
  .object [("objectAlias", .string e.objectAlias), ("path", .string e.path)]

/-- Writes an entry with the fields in the order of their declaration. -/
def toDeclared (e : JmesEntry) : Json :=
  .object [("path", .string e.path), ("objectAlias", .string e.objectAlias)]

/-- Writes an entry as the list of its fields. -/
def toFieldList (e : JmesEntry) : Json :=
  .array [.string e.path, .string e.objectAlias]

end JmesEntry

namespace SecretRecord

/-- Reads a list of entries. -/
def readEntries : Json → Option (List JmesEntry)
  | .array items => items.mapM JmesEntry.ofJson?
  | _ => none

/-- Reads a record from the values that a look-up gives for the seven field names. -/
def ofFields? (field : String → Option Json) : Option SecretRecord := do
  let name ← Json.readOr Json.string? "" (field "objectName")
  let objectAlias ← Json.readOr Json.optionalText? none (field "objectAlias")
  let version ← Json.readOr Json.optionalText? none (field "objectVersion")
  let versionLabel ← Json.readOr Json.optionalText? none (field "objectVersionLabel")
  let type ← Json.readOr Json.optionalText? none (field "objectType")
  let entries ← Json.readOr readEntries [] (field "jmesPath")
  let kmsEndpoint ← Json.readOr Json.optionalText? none (field "kmsEndpoint")
  pure ⟨name, objectAlias, version, versionLabel, type, entries, kmsEndpoint⟩

/-- The field names in the order in which a list gives the fields. -/
def fieldNames : List String :=
  ["objectName", "objectAlias", "objectVersion", "objectVersionLabel", "objectType", "jmesPath",
    "kmsEndpoint"]

/-- Reads a record. -/
def ofJson? : Json → Option SecretRecord
  | v@(.object _) => ofFields? fun name => v.field? name
  | .array items =>
    if items.length ≤ fieldNames.length then
      ofFields? fun name => KeyedList.get? name (fieldNames.zip items)
    else none
  | _ => none

/-- Writes a record. -/
def toJson (r : SecretRecord) : Json :=
  .object
    [("jmesPath", .array (r.entries.map JmesEntry.toJson)),
      ("kmsEndpoint", Json.ofText? r.kmsEndpoint),
      ("objectAlias", Json.ofText? r.objectAlias),
      ("objectName", .string r.name),
      ("objectType", Json.ofText? r.type),
      ("objectVersion", Json.ofText? r.version),
      ("objectVersionLabel", Json.ofText? r.versionLabel)]

/-- The fields of a record in the order of their declaration, with its entries as they are written.
-/
def declaredFields (r : SecretRecord) (entries : List Json) : List (String × Json) :=
  [("objectName", .string r.name),
    ("objectAlias", Json.ofText? r.objectAlias),
    ("objectVersion", Json.ofText? r.version),
    ("objectVersionLabel", Json.ofText? r.versionLabel),
    ("objectType", Json.ofText? r.type),
    ("jmesPath", .array entries),
    ("kmsEndpoint", Json.ofText? r.kmsEndpoint)]

/-- Writes a record with the fields in the order of their declaration. -/
def toDeclared (r : SecretRecord) : Json :=
  .object (r.declaredFields (r.entries.map JmesEntry.toDeclared))

/-- Writes a record as the list of its fields. -/
def toFieldList (r : SecretRecord) : Json :=
  .array
    [.string r.name, Json.ofText? r.objectAlias, Json.ofText? r.version,
      Json.ofText? r.versionLabel, Json.ofText? r.type,
      .array (r.entries.map JmesEntry.toFieldList), Json.ofText? r.kmsEndpoint]

end SecretRecord

namespace SecretObject

/-- Reads an object under the default mount settings. -/
def ofJson? (v : Json) : Option SecretObject :=
  (SecretRecord.ofJson? v).map fun record => ⟨record, {}⟩

/-- Writes an object; the mount settings are left out. -/
def toJson (o : SecretObject) : Json := o.record.toJson

/-- The JSON text of an object. -/
def jsonText (o : SecretObject) : String := o.record.toDeclared.text

/-- Reads an object from its JSON text. -/
def ofJsonText? (s : String) : Option SecretObject :=
  (Json.read? s).bind ofJson?

end SecretObject

end SecretMount
