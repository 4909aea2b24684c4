/-!
# Kinds of backend

Secrets come from a key management service or from an operation orchestration service.
-/

namespace SecretMount

/-- The store a secret is kept in. -/
inductive BackendKind where
  | kms
  | oos
deriving Repr, DecidableEq

namespace BackendKind

/-- The name of the kind, which is also its object type. -/
def name : BackendKind → String
  | .kms => "kms"
  | .oos => "oos"

/-- The name of the kind as it stands in descriptions. -/
def label : BackendKind → String
  | .kms => "Kms"
  | .oos => "Oos"

/-- The kind that an object type stands for; the empty type means the key management service. -/
def ofObjectType? (type : String) : Option BackendKind :=
  if type = "" ∨ type = "kms" then some .kms
  else if type = "oos" then some .oos
  else none

/-- The name of a kind, as an object type, selects the kind. -/
theorem ofObjectType?_name (kind : BackendKind) : ofObjectType? kind.name = some kind := by
  cases kind <;> rfl

end BackendKind

end SecretMount
