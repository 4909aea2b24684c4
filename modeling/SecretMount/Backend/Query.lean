import SecretMount.Backend.Error
import SecretMount.SecretObject

/-!
# Calls to a backend

A query names a secret and may pin a version or a version stage; the answer is a payload with its
version.
-/

namespace SecretMount

/-- What a backend is asked for. -/
structure Query where
  name : String
  version : Option String
  versionLabel : Option String
deriving Repr, DecidableEq

/-- The query for an object. -/
def SecretObject.query (o : SecretObject) : Query :=
  ⟨o.name, o.version?, o.versionLabel?⟩

/-- What a backend delivers. -/
structure FetchedSecret where
  bytes : ByteArray
  version : String

/-- The outcome of a call. -/
abbrev FetchResult := Except BackendError FetchedSecret

end SecretMount
