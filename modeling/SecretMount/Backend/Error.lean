/-!
# Backend errors

A call fails with an error code of the service, with a payload of a type that cannot be mounted, or
with a response that lacks a field. Three codes stand for conditions that pass; only their errors
are worth a second call.
-/

namespace SecretMount

/-- Why a call to a backend failed. -/
inductive BackendError where
  | remote (code message : String)
  | unsupportedDataType (type : String)
  | missingField (field : String)
deriving Repr, DecidableEq

namespace BackendError

/-- The text of the error. -/
def message : BackendError → String
  | .remote code message => code ++ ": " ++ message
  | .unsupportedDataType type => "secret data type '" ++ type ++ "' is not supported"
  | .missingField field => "response is missing " ++ field

/-- The code that the service gave. -/
def code? : BackendError → Option String
  | .remote code _ => some code
  | _ => none

/-- The codes of conditions that pass. -/
def transientCodes : List String :=
  ["Rejected.Throttling", "ServiceUnavailableTemporary", "InternalFailure"]

/-- Whether another call may succeed. -/
def isTransient : BackendError → Bool
  | .remote code _ => transientCodes.contains code
  | _ => false

end BackendError

end SecretMount
