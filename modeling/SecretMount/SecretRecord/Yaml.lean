import SecretMount.SecretObject
import SecretMount.Yaml.Layout
import SecretMount.Yaml.Node

/-!
# Records as YAML

A batch is written as a YAML sequence of mappings. A text field takes the text of any scalar; an
optional one is absent for a plain empty scalar or one of the words for null. Unknown keys and their
values are passed over, and a known key must not be repeated. Aliases are followed where a value is
needed, but not without end: their number is bounded by the size of the document.
-/

namespace SecretMount

namespace Yaml

/-- Reading values from the nodes of a document; the state is how many aliases may be followed. -/
abbrev Decoder := ReaderT Document (StateT Nat Option)

/-- The node itself, after following an alias. -/
def resolve : Node → Decoder Node
  | .aliasOf number => do
    let left ← get
    if left = 0 then failure
    set (left - 1)
    match (← read).target? number with
    | some node => pure node
    | none => failure
  | .anchored _ node => pure node
  | node => pure node

/-- The words for null. -/
def nullWords : List String := ["~", "null", "Null", "NULL"]

/-- The tag of null. -/
def nullTag : String := "tag:yaml.org,2002:null"

/-- Whether a resolved node stands for an absent value. A scalar tagged as null has to be one of
the words for it; another tag or quotes make a value of any text. -/
def isAbsent : Node → Decoder Bool
  | .scalar text true none => pure (text = "" ∨ nullWords.contains text)
  | .scalar text true (some tag) =>
    if tag = nullTag then if nullWords.contains text then pure true else failure
    else pure false
  | _ => pure false

/-- The text of a scalar. -/
def scalarText : Node → Decoder String
  | .scalar text _ _ => pure text
  | _ => failure

/-- The text of a node. -/
def text (node : Node) : Decoder String := do
  scalarText (← resolve node)

/-- The text of a node that may be absent. -/
def optionalText (node : Node) : Decoder (Option String) := do
  let node ← resolve node
  if ← isAbsent node then pure none else pure (some (← scalarText node))

/-- The items of a resolved node; a plain empty scalar has none. -/
def itemsOf : Node → Decoder (List Node)
  | .sequence items => pure items
  | .scalar "" true _ => pure []
  | _ => failure

/-- The entries of a resolved node; a plain empty scalar has none. -/
def entriesOf : Node → Decoder (List (Node × Node))
  | .mapping entries => pure entries
  | .scalar "" true _ => pure []
  | _ => failure

/-- The fields with known names. Each of them may stand once; others are passed over. -/
def knownFields (names : List String) : List (Node × Node) → Decoder (List (String × Node))
  | [] => pure []
  | (key, value) :: rest => do
    let name ← text key
    let fields ← knownFields names rest
    if !names.contains name then pure fields
    else if fields.any fun f => f.1 = name then failure
    else pure ((name, value) :: fields)

/-- Reads a field if it is there, else gives its default. -/
def fieldOr {α : Type} (fields : List (String × Node)) (name : String)
    (read : Node → Decoder α) (default : α) : Decoder α :=
  match fields.find? fun f => f.1 = name with
  | some f => read f.2
  | none => pure default

end Yaml

/-- Reads an entry. -/
def JmesEntry.ofYaml (node : Yaml.Node) : Yaml.Decoder JmesEntry := do
  let entries ← Yaml.entriesOf (← Yaml.resolve node)
  let fields ← Yaml.knownFields ["path", "objectAlias"] entries
  let path ← Yaml.fieldOr fields "path" Yaml.text ""
  let objectAlias ← Yaml.fieldOr fields "objectAlias" Yaml.text ""
  pure ⟨path, objectAlias⟩

namespace SecretRecord

/-- Reads a list of entries. -/
def entriesOfYaml (node : Yaml.Node) : Yaml.Decoder (List JmesEntry) := do
  (← Yaml.itemsOf (← Yaml.resolve node)).mapM JmesEntry.ofYaml

/-- Reads a record. -/
def ofYaml (node : Yaml.Node) : Yaml.Decoder SecretRecord := do
  let entries ← Yaml.entriesOf (← Yaml.resolve node)
  let fields ← Yaml.knownFields
    ["objectName", "objectAlias", "objectVersion", "objectVersionLabel", "objectType", "jmesPath",
      "kmsEndpoint"] entries
  let optional := fun name => Yaml.fieldOr fields name Yaml.optionalText none
  let name ← Yaml.fieldOr fields "objectName" Yaml.text ""
  let objectAlias ← optional "objectAlias"
  let version ← optional "objectVersion"
  let versionLabel ← optional "objectVersionLabel"
  let type ← optional "objectType"
  let entries ← Yaml.fieldOr fields "jmesPath" entriesOfYaml []
  let kmsEndpoint ← optional "kmsEndpoint"
  pure ⟨name, objectAlias, version, versionLabel, type, entries, kmsEndpoint⟩

/-- Reads the records of a document; an absent value stands for none. -/
def listOfYaml (root : Yaml.Node) : Yaml.Decoder (List SecretRecord) := do
  let root ← Yaml.resolve root
  if ← Yaml.isAbsent root then pure [] else (← Yaml.itemsOf root).mapM ofYaml

/-- How many aliases may be followed for each part of a document. -/
def aliasesPerPart : Nat := 100

/-- The records of a YAML text of one document at most. -/
def listOfText? (s : String) : Option (List SecretRecord) := do
  let tokens ← Yaml.Layout.tokens? s
  match ← Yaml.Document.ofTokens? tokens with
  | none => pure []
  | some document =>
    let (records, _) ← ((listOfYaml document.root).run document).run
      (aliasesPerPart * document.root.size)
    pure records

end SecretRecord

end SecretMount
