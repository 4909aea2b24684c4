import SecretMount.Backend.Kms

/-!
# The operation orchestration service

The service keeps parameters without versions: they are asked for by name alone, always decrypted,
and every payload counts as the same version.
-/

namespace SecretMount.Oos

/-- The version of every payload. -/
def placeholderVersion : String := "v1"

/-- What the service is asked. -/
structure Request where
  name : String
  withDecryption : Bool
deriving Repr, DecidableEq

/-- A parameter. -/
structure Parameter where
  name : Option String := none
  value : Option String := none
  dataType : Option String := none
deriving Repr, DecidableEq

/-- What the service answers. -/
structure Response where
  parameter : Option Parameter := none
deriving Repr, DecidableEq

/-- The request for a query. -/
def Request.ofQuery (q : Query) : Request :=
  ⟨q.name, true⟩

/-- The secret in a response. -/
def Response.secret (r : Response) : FetchResult := do
  match r.parameter with
  | none => throw (.missingField "Parameter")
  | some p =>
    checkDataType p.dataType
    let value ← requireField "Parameter.Value" p.value
    pure ⟨value.toUTF8, placeholderVersion⟩

end SecretMount.Oos
