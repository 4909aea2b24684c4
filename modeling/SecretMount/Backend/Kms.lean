import SecretMount.Backend.Query
import SecretMount.Text.Ascii

/-!
# The key management service

The service answers with a payload, its type and its version, each of which may be missing. A
payload tagged as binary is refused before anything else is looked at.
-/

namespace SecretMount

/-- The tag of payloads that cannot be mounted. -/
def binaryTag : String := "binary"

/-- Whether a payload's type is the binary one, in any letter case. -/
def isBinaryType (type : String) : Bool :=
  Text.equalIgnoringCase type binaryTag

/-- Refuses a payload of the binary type. -/
def checkDataType : Option String → Except BackendError Unit
  | some type => if isBinaryType type then .error (.unsupportedDataType binaryTag) else .ok ()
  | none => .ok ()

/-- The value of a field, which must not be missing. -/
def requireField (field : String) : Option String → Except BackendError String
  | some value => .ok value
  | none => .error (.missingField field)

namespace Kms

/-- What the service is asked. -/
structure Request where
  secretName : String
  versionId : Option String
  versionStage : Option String
deriving Repr, DecidableEq

/-- What the service answers. -/
structure Response where
  secretData : Option String := none
  secretDataType : Option String := none
  versionId : Option String := none
deriving Repr, DecidableEq

/-- The request for a query. -/
def Request.ofQuery (q : Query) : Request :=
  ⟨q.name, q.version, q.versionLabel⟩

/-- The secret in a response. -/
def Response.secret (r : Response) : FetchResult := do
  checkDataType r.secretDataType
  let data ← requireField "SecretData" r.secretData
  let version ← requireField "VersionId" r.versionId
  pure ⟨data.toUTF8, version⟩

end Kms

end SecretMount
