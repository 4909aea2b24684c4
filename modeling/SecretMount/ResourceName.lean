import SecretMount.Text.Ascii

/-!
# Resource names

A fully qualified name has five sections between colons: `acs`, the service, the region, the
account and the resource, which may hold further colons. `read` takes such a name apart and `text`
puts it together.
-/

namespace SecretMount

/-- The sections of a fully qualified name. -/
structure ResourceName where
  service : String
  region : String
  account : String
  resource : String
deriving Repr, DecidableEq

namespace ResourceName

/-- Why a text is no resource name. -/
inductive Fault where
  | missingStart
  | tooFewSections
deriving Repr, DecidableEq

/-- The text of the fault. -/
def Fault.message : Fault → String
  | .missingStart => "resource name must start with 'acs:'"
  | .tooFewSections => "resource name must have 5 ':'-separated sections"

/-- What every resource name starts with. -/
def start : List Char := ['a', 'c', 's', ':']

/-- Whether a name is meant as a fully qualified one. -/
def isQualified (name : String) : Bool :=
  start.isPrefixOf name.toList

/-- The name that a text stands for. -/
def read (s : String) : Except Fault ResourceName :=
  match Text.dropStart? start s.toList with
  | none => .error .missingStart
  | some rest =>
    let sections := do
      let (service, rest) ← Text.cut? ':' rest
      let (region, rest) ← Text.cut? ':' rest
      let (account, resource) ← Text.cut? ':' rest
      pure (service, region, account, resource)
    match sections with
    | some (service, region, account, resource) =>
      .ok ⟨String.ofList service, String.ofList region, String.ofList account,
        String.ofList resource⟩
    | none => .error .tooFewSections

/-- The text of a name. -/
def text (n : ResourceName) : String :=
  String.ofList (start ++ n.service.toList ++ ':' :: n.region.toList ++ ':' :: n.account.toList ++
    ':' :: n.resource.toList)

end ResourceName

end SecretMount
