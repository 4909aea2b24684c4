import SecretMount.FileName
import SecretMount.SecretObject

/-!
# Batches of objects

A batch is accepted when every object is valid on its own and names, aliases and file names are
used once each. `Batch.accept` goes through the records in order and reports the first violation;
what earlier records have taken is a `Taken`. Aliases of objects and of entries share one set.
-/

namespace SecretMount

namespace SecretObject

/-- The one service whose qualified names are understood. -/
def supportedService : String := "kms"

/-- Refuses a qualified name that is malformed or of another service. -/
def checkName (o : SecretObject) : Except Failure Unit :=
  if o.name = "" then .error (.validation o.displayName .missingName)
  else if ResourceName.isQualified o.name then
    match ResourceName.read o.name with
    | .error fault => .error (.validation o.name (.badResourceName fault))
    | .ok n =>
      if n.service = supportedService then .ok ()
      else .error (.configuration (.unsupportedService n.service o.name))
  else .ok ()

/-- Refuses an entry without path or alias, or whose file name is not admissible. -/
def checkEntry (o : SecretObject) (entry : JmesEntry) : Except Failure Unit :=
  if entry.path = "" then .error (.validation o.name .missingPath)
  else if entry.objectAlias = "" then .error (.validation o.name .missingAlias)
  else FileName.check (o.ofEntry entry).fileName o.name

/-- Refuses the first entry that is not valid. -/
def checkEntries (o : SecretObject) : List JmesEntry → Except Failure Unit
  | [] => .ok ()
  | entry :: rest => do
    o.checkEntry entry
    o.checkEntries rest

/-- Whether the object is valid on its own: name, file name and entries, in this order. -/
def check (o : SecretObject) : Except Failure Unit := do
  o.checkName
  FileName.check o.fileName o.name
  o.checkEntries o.entries

/-- The key under which a name is used once: name, alias and type between colons. -/
def key (o : SecretObject) : String :=
  o.name ++ ":" ++ o.alias?.getD "" ++ ":" ++ o.type

end SecretObject

/-- What the objects of a batch have taken so far. -/
structure Taken where
  keys : List String := []
  aliases : List String := []
  fileNames : List String := []
deriving Repr, DecidableEq, Inhabited

namespace Taken

/-- Takes a text, or reports that it was taken before. -/
def add (fault : String → Failure) (taken : List String) (s : String) :
    Except Failure (List String) :=
  if taken.contains s then .error (fault s) else .ok (s :: taken)

/-- Takes several texts, one after the other. -/
def addAll (fault : String → Failure) (taken : List String) :
    List String → Except Failure (List String)
  | [] => .ok taken
  | s :: rest => do
    let taken ← add fault taken s
    addAll fault taken rest

/-- Takes what an object uses: its key, its alias, its entries' aliases and its file names. -/
def addObject (t : Taken) (o : SecretObject) : Except Failure Taken := do
  o.check
  let keys ← add (fun _ => .validation o.name (.duplicateName o.name o.type)) t.keys o.key
  let aliases ← addAll (fun a => .validation o.name (.duplicateAlias a)) t.aliases o.alias?.toList
  let aliases ← addAll (fun a => .validation o.name (.duplicateEntryAlias a)) aliases
    (o.entries.map JmesEntry.objectAlias)
  let fileNames ← addAll (fun f => .validation o.name (.duplicateFileName f)) t.fileNames
    o.fileNames
  pure ⟨keys, aliases, fileNames⟩

end Taken

namespace Batch

/-- The objects of the records, if they can stand beside what has been taken. -/
def acceptAfter (mount : MountSettings) : Taken → List SecretRecord →
    Except Failure (List SecretObject)
  | _, [] => .ok []
  | taken, record :: rest => do
    let object : SecretObject := ⟨record, mount⟩
    let taken ← taken.addObject object
    let objects ← acceptAfter mount taken rest
    pure (object :: objects)

/-- The objects of a batch of records, or the first violation. -/
def accept (mount : MountSettings) (records : List SecretRecord) :
    Except Failure (List SecretObject) :=
  acceptAfter mount {} records

end Batch

end SecretMount
