import SecretMount.JmesPath.Eval
import SecretMount.SecretObject

/-!
# Secret values and their parts

A value is the payload of an object. `SecretValue.extract` gives one value for each entry of the
object's JMES path list: what the entry's expression finds in the payload, a text as its own
characters and anything else as compact JSON.
-/

namespace SecretMount

/-- The payload of an object. -/
structure SecretValue where
  bytes : ByteArray
  object : SecretObject

namespace SecretValue

/-- The bytes of a match: a text unquoted, anything else as compact JSON. -/
def bytesOfMatch : Json → ByteArray
  | .string s => s.toUTF8
  | v => v.text.toUTF8

/-- What the expression of an entry finds in a JSON value. -/
def matchOf (path : String) (data : Json) : Except DecompositionFault ByteArray :=
  match JmesPath.Expr.compile? path with
  | none => .error (.badPath path)
  | some e =>
    match e.search? data with
    | none => .error (.failedPath path)
    | some (.value .null) => .error (.noMatch path)
    | some (.value v) => .ok (bytesOfMatch v)
    | some result => .ok result.toJson.text.toUTF8

/-- The value of one entry, or the failure named after the object. -/
def extractEntry (o : SecretObject) (data : Json) (entry : JmesEntry) :
    Except Failure SecretValue :=
  match matchOf entry.path data with
  | .ok bytes => .ok ⟨bytes, o.ofEntry entry⟩
  | .error fault => .error (.decomposition o.displayName fault)

/-- The values of the entries, in order, up to the first failure. -/
def extractEntries (o : SecretObject) (data : Json) : List JmesEntry →
    Except Failure (List SecretValue)
  | [] => .ok []
  | entry :: rest => do
    let value ← extractEntry o data entry
    let values ← extractEntries o data rest
    pure (value :: values)

/-- The values of all entries. Without entries the payload need not be JSON. -/
def extract (s : SecretValue) : Except Failure (List SecretValue) :=
  if s.object.entries = [] then .ok []
  else
    match Json.ofBytes? s.bytes with
    | none => .error (.decomposition s.object.displayName .notJson)
    | some data => extractEntries s.object data s.object.entries

end SecretValue

end SecretMount
