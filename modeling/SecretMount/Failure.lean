import SecretMount.Backend.Error
import SecretMount.Backend.Kind
import SecretMount.Duration
import SecretMount.ResourceName
import SecretMount.Text.Quoted

/-!
# Failures

What makes a batch or a pass fail, by cause: six kinds, each with its causes and their texts. The
first failure ends the whole pass, and all kinds but the first carry the name of the object
concerned. A cause that is known only by its text is `stated`.
-/

namespace SecretMount

/-- Why the configuration does not allow the pass. -/
inductive ConfigurationFault where
  | badTranslation
  | unreadableSpec
  | unsupportedType (type object : String)
  | unsupportedService (service object : String)
  | missingClient (kind : BackendKind)
  | stated (message : String)
deriving Repr, DecidableEq

/-- The text of the fault. -/
def ConfigurationFault.message : ConfigurationFault → String
  | .badTranslation => "pathTranslation must be either 'False' or a single character string"
  | .unreadableSpec => "Failed to load secret objects"
  | .unsupportedType type object =>
    "secret type " ++ type ++ " not supported for " ++ object ++
      ", only kms and oos are supported"
  | .unsupportedService service object =>
    "invalid service in ARN: " ++ service ++ " (object " ++ object ++ ")"
  | .missingClient kind => kind.name ++ " client is empty"
  | .stated message => message

/-- Why an object is not valid, on its own or beside the objects before it. -/
inductive ValidationFault where
  | missingName
  | badResourceName (fault : ResourceName.Fault)
  | absoluteFileName (fileName : String)
  | climbingFileName (fileName : String)
  | controlCharacter (fileName : String)
  | missingPath
  | missingAlias
  | duplicateName (name type : String)
  | duplicateAlias (name : String)
  | duplicateEntryAlias (name : String)
  | duplicateFileName (fileName : String)
  | stated (message : String)
deriving Repr, DecidableEq

/-- The text of the fault. -/
def ValidationFault.message : ValidationFault → String
  | .missingName => "object name must be specified"
  | .badResourceName fault => "invalid ARN format in object name: " ++ fault.message
  | .absoluteFileName f => "file name can not be an absolute path: " ++ f
  | .climbingFileName f => "path can not contain ../: " ++ f
  | .controlCharacter f => "file name '" ++ Text.escaped f ++ "' contains control characters"
  | .missingPath => "path must be specified for JMES object"
  | .missingAlias => "object alias must be specified for JMES object"
  | .duplicateName name type => "duplicate object name: " ++ name ++ " (type: " ++ type ++ ")"
  | .duplicateAlias name => "duplicate object alias: " ++ name
  | .duplicateEntryAlias name => "duplicate JMES path object alias: " ++ name
  | .duplicateFileName f => "duplicate file name: " ++ f
  | .stated message => message

/-- Why a payload cannot be decomposed. -/
inductive DecompositionFault where
  | notJson
  | badPath (path : String)
  | failedPath (path : String)
  | noMatch (path : String)
  | stated (message : String)
deriving Repr, DecidableEq

/-- The text of the fault. -/
def DecompositionFault.message : DecompositionFault → String
  | .notJson => "secret value is not valid JSON"
  | .badPath path => "invalid JMES path '" ++ path ++ "'"
  | .failedPath path => "failed evaluating JMES path '" ++ path ++ "'"
  | .noMatch path => "JMES path '" ++ path ++ "' matched nothing"
  | .stated message => message

/-- Why a file cannot be read. -/
inductive ReadFault where
  | missing
  | notDirectory
  | isDirectory
  | nameTooLong
  | containsNul
  | stated (message : String)
deriving Repr, DecidableEq

/-- The text of the fault. -/
def ReadFault.message : ReadFault → String
  | .missing => "No such file or directory (os error 2)"
  | .notDirectory => "Not a directory (os error 20)"
  | .isDirectory => "Is a directory (os error 21)"
  | .nameTooLong => "File name too long (os error 36)"
  | .containsNul => "file name contained an unexpected NUL byte"
  | .stated message => message

/-- Why a batch is refused or a pass ends early. -/
inductive Failure where
  | configuration (fault : ConfigurationFault)
  | validation (object : String) (fault : ValidationFault)
  /-- A backend's error, by its text. -/
  | fetch (object message : String)
  | rateLimitTimeout (object : String) (kind : BackendKind) (waited : Duration.Nanoseconds)
  | decomposition (object : String) (fault : DecompositionFault)
  | diskRead (object path : String) (fault : ReadFault)
deriving Repr, DecidableEq

namespace Failure

/-- The kinds of failure, for counting. -/
inductive Kind where
  | configuration
  | validation
  | fetch
  | rateLimitTimeout
  | decomposition
  | diskRead
deriving Repr, DecidableEq

/-- The name of a kind. -/
def Kind.name : Kind → String
  | .configuration => "configuration"
  | .validation => "validation"
  | .fetch => "fetch"
  | .rateLimitTimeout => "rate_limit_timeout"
  | .decomposition => "decomposition"
  | .diskRead => "disk_read"

/-- The kind of a failure. -/
def kind : Failure → Kind
  | .configuration _ => .configuration
  | .validation _ _ => .validation
  | .fetch _ _ => .fetch
  | .rateLimitTimeout _ _ _ => .rateLimitTimeout
  | .decomposition _ _ => .decomposition
  | .diskRead _ _ _ => .diskRead

/-- The text of a failure. -/
def message : Failure → String
  | .configuration fault => "configuration error: " ++ fault.message
  | .validation object fault => "invalid secret object " ++ object ++ ": " ++ fault.message
  | .fetch object text => "failed fetching secret " ++ object ++ ": " ++ text
  | .rateLimitTimeout object kind waited =>
    "timed out after " ++ Duration.text waited ++ " waiting for " ++ kind.name ++
      " rate limit while fetching " ++ object
  | .decomposition object fault =>
    "failed extracting JMES paths from secret " ++ object ++ ": " ++ fault.message
  | .diskRead object path fault =>
    "failed reloading secret " ++ object ++ " from " ++ path ++ ": " ++ fault.message

end Failure

end SecretMount
