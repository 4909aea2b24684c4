import SecretMount.Backend.Kind
import SecretMount.PathTranslation

/-!
# Secret objects

A record names a secret and says how to mount it; an object is a record under a mount directory. An
empty text in an optional field counts as absent. An entry of a record's JMES path list gives an
object of its own, which has an alias and nothing else. An object's file name is both the name of
its file and the key of its version.
-/

namespace SecretMount

/-- A part of a JSON secret that gets a file of its own: a JMESPath expression and a name. -/
structure JmesEntry where
  path : String := ""
  objectAlias : String := ""
deriving Repr, DecidableEq, Inhabited

/-- A record of a batch. -/
structure SecretRecord where
  name : String := ""
  objectAlias : Option String := none
  /-- The version to pin. -/
  version : Option String := none
  /-- The version stage to pin. -/
  versionLabel : Option String := none
  type : Option String := none
  entries : List JmesEntry := []
  kmsEndpoint : Option String := none
deriving Repr, DecidableEq, Inhabited

/-- Where and how the files of a batch are named. -/
structure MountSettings where
  directory : String := ""
  translation : PathTranslation := .default
deriving Repr, DecidableEq, Inhabited

/-- A record under its mount settings. -/
structure SecretObject where
  record : SecretRecord := {}
  mount : MountSettings := {}
deriving Repr, DecidableEq, Inhabited

/-- An optional text, absent when empty. -/
def nonEmpty (s : Option String) : Option String :=
  s.filter (· ≠ "")

/-- The path of a file name below a directory; an absolute file name stands for itself. -/
def MountSettings.pathOf (m : MountSettings) (fileName : String) : String :=
  if fileName.toList.head? = some '/' then fileName
  else if m.directory = "" ∨ m.directory.toList.getLast? = some '/' then m.directory ++ fileName
  else m.directory ++ "/" ++ fileName

namespace SecretObject

/-- The name of the secret. -/
def name (o : SecretObject) : String := o.record.name

/-- The entries of the JMES path list. -/
def entries (o : SecretObject) : List JmesEntry := o.record.entries

/-- The alias, if there is one. -/
def alias? (o : SecretObject) : Option String := nonEmpty o.record.objectAlias

/-- The pinned version, if there is one. -/
def version? (o : SecretObject) : Option String := nonEmpty o.record.version

/-- The pinned version stage, if there is one. -/
def versionLabel? (o : SecretObject) : Option String := nonEmpty o.record.versionLabel

/-- The object type; `kms` unless the record has one. -/
def type (o : SecretObject) : String := (nonEmpty o.record.type).getD BackendKind.kms.name

/-- The name for messages: an object that stems from an entry has only an alias. -/
def displayName (o : SecretObject) : String :=
  if o.name = "" then o.alias?.getD "" else o.name

/-- The backend that holds the secret. -/
def kind (o : SecretObject) : Except Failure BackendKind :=
  match BackendKind.ofObjectType? o.type with
  | some kind => .ok kind
  | none => .error (.configuration (.unsupportedType o.type o.displayName))

/-- The name of the object's file and the key of its version. -/
def fileName (o : SecretObject) : String :=
  o.mount.translation.apply (o.alias?.getD o.name)

/-- The path of the object's file. -/
def mountPath (o : SecretObject) : String :=
  o.mount.pathOf o.fileName

/-- The object of an entry: the entry's alias under the same mount settings. -/
def ofEntry (o : SecretObject) (entry : JmesEntry) : SecretObject :=
  { record := { objectAlias := some entry.objectAlias }, mount := o.mount }

/-- The objects of all entries, in order. -/
def entryObjects (o : SecretObject) : List SecretObject :=
  o.entries.map o.ofEntry

/-- The file names that the object takes, its own first. -/
def fileNames (o : SecretObject) : List String :=
  o.fileName :: o.entryObjects.map fileName

end SecretObject

end SecretMount
