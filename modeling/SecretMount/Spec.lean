import SecretMount.Batch
import SecretMount.SecretRecord.Yaml
import SecretMount.Text.Blank

/-!
# Batches from text

A mount request gives its batch as a YAML text and the translation as a setting. The setting is
read first; a text of white space is the empty batch.
-/

namespace SecretMount.Batch

/-- The records of a text. -/
def recordsOfText (spec : String) : Except Failure (List SecretRecord) :=
  if spec.toList.all Text.isBlank then .ok []
  else
    match SecretRecord.listOfText? spec with
    | some records => .ok records
    | none => .error (.configuration .unreadableSpec)

/-- The objects that a text describes, under a mount directory. -/
def ofText (directory translation spec : String) : Except Failure (List SecretObject) := do
  let translation ← PathTranslation.ofSetting translation
  let records ← recordsOfText spec
  accept ⟨directory, translation⟩ records

end SecretMount.Batch
