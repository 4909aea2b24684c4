import SecretMount.Mount
import SecretMount.Text.Quoted

/-!
# Values shown to a reader

The texts in which values show themselves in diagnostics. A payload never shows; of a value its
length does. A value that holds a payload can be erased, after which it is empty.
-/

namespace SecretMount.Inspect

/-- A record with the texts of its fields, all of them or with some left out. -/
def record (name : String) (fields : List (String × String)) (complete : Bool) : String :=
  let shown := fields.map fun f => f.1 ++ ": " ++ f.2
  let parts := if complete then shown else shown ++ [".."]
  name ++ " \x7b " ++ String.intercalate ", " parts ++ " \x7d"

/-- An optional text. -/
def option : Option String → String
  | none => "None"
  | some s => "Some(" ++ Text.quoted s ++ ")"

/-- Whole numbers in base eight. -/
def octal (n : Nat) : String :=
  String.ofList (Nat.toDigits 8 n)

/-- A value shows its length and its file name. -/
def secretValue (s : SecretValue) : String :=
  record "SecretValue"
    [("value", Text.quoted "[REDACTED]"), ("len", toString s.bytes.size),
      ("file_name", Text.quoted s.object.fileName)] true

/-- A file shows all but its contents. -/
def secretFile (f : SecretFile) : String :=
  record "SecretFile"
    [("path", Text.quoted f.path), ("contents", Text.quoted "[REDACTED]"), ("mode", octal f.mode),
      ("version", Text.quoted f.version)] true

/-- A fetched secret shows its version. -/
def fetchedSecret (s : FetchedSecret) : String :=
  record "FetchedSecret"
    [("data", Text.quoted "<redacted>"), ("version_id", Text.quoted s.version)] true

/-- A response of the key management service shows all but the payload. -/
def kmsResponse (r : Kms.Response) : String :=
  record "GetSecretValueResponse"
    [("secret_data_type", option r.secretDataType), ("version_id", option r.versionId)] false

/-- A parameter shows all but its value. -/
def oosParameter (p : Oos.Parameter) : String :=
  record "SecretParameter" [("name", option p.name), ("data_type", option p.dataType)] false

/-- A response of the operation orchestration service shows its parameter. -/
def oosResponse (r : Oos.Response) : String :=
  let parameter := match r.parameter with
    | none => "None"
    | some p => "Some(" ++ oosParameter p ++ ")"
  record "GetSecretParameterResponse" [("parameter", parameter)] true

/-- The kinds of the configured backends, in order. -/
def kinds (bs : Backends) : List BackendKind :=
  [BackendKind.kms, .oos].filter fun kind => (bs.get kind).isSome

/-- A backoff shows both its durations. -/
def backoff (b : Backoff) : String :=
  record "ExponentialBackoff"
    [("base", Duration.text b.base), ("max", Duration.text b.ceiling)] true

/-- The engine of fetches shows its backends and its settings. -/
def fetcher (settings : FetchSettings) (bs : Backends) : String :=
  record "SecretFetcher"
    [("backends", "[" ++ String.intercalate ", " ((kinds bs).map BackendKind.label) ++ "]"),
      ("backoff", backoff settings.backoff),
      ("rate_limit_wait_timeout", Duration.text settings.waitTimeout)] false

/-- The provider shows its engine. -/
def provider (settings : FetchSettings) (bs : Backends) : String :=
  record "SecretsProvider" [("fetcher", fetcher settings bs)] true

/-- An adapter shows nothing of its client. -/
def adapter (kind : BackendKind) : String :=
  kind.label ++ "Backend \x7b .. \x7d"

end SecretMount.Inspect

namespace SecretMount

/-- The value without its payload; the object stays. -/
def SecretValue.erase (s : SecretValue) : SecretValue :=
  { s with bytes := ByteArray.empty }

/-- The file without anything. -/
def SecretFile.erase (_ : SecretFile) : SecretFile :=
  ⟨"", ByteArray.empty, 0, ""⟩

/-- The fetched secret without anything. -/
def FetchedSecret.erase (_ : FetchedSecret) : FetchedSecret :=
  ⟨ByteArray.empty, ""⟩

end SecretMount
