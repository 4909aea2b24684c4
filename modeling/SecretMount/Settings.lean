import SecretMount.Backoff
import SecretMount.Decimal.Nearest
import SecretMount.RateLimit.Limiter
import SecretMount.Pass
import SecretMount.Text.Ascii

/-!
# Settings

The settings of a process come from its environment. A variable that is missing, is not UTF-8 or
does not read as a value of its type leaves the default. Integers are digits after an optional plus
sign and have a greatest value; doubles are decimal numbers, or words for the values that are not
finite.
-/

namespace SecretMount

/-- The settings of a process. -/
structure Settings where
  kmsPerSecond : Float := 10
  kmsBurst : Nat := 10
  oosPerSecond : Float := 10
  oosBurst : Nat := 10
  waitTimeoutSeconds : Nat := 300
  backoffBaseMs : Nat := 1000
  backoffMaxMs : Nat := 10000
  logLevel : String := "INFO"
  logFormat : String := "json"

namespace Settings

/-- An integer up to the greatest one: digits, perhaps after a plus sign. -/
def readInteger (greatest : Nat) (s : String) : Option Nat :=
  let digits := match s.toList with
    | '+' :: rest => rest
    | cs => cs
  if digits ≠ [] ∧ digits.all Char.isDigit then
    let n := Nat.ofDigitChars 10 digits 0
    if n ≤ greatest then some n else none
  else none

/-- The exponent of a decimal number, zero for none. -/
def readExponent : List Char → Option Int
  | [] => some 0
  | e :: rest =>
    if e = 'e' ∨ e = 'E' then
      let (negative, digits) : Bool × List Char := match rest with
        | '-' :: rest => (true, rest)
        | '+' :: rest => (false, rest)
        | cs => (false, cs)
      if digits ≠ [] ∧ digits.all Char.isDigit then
        let n : Int := Nat.ofDigitChars 10 digits 0
        some (if negative then -n else n)
      else none
    else none

/-- A decimal number without sign: digits, perhaps a point among them or at either end, and perhaps
an exponent. -/
def readDecimal (cs : List Char) : Option Decimal := do
  let whole := cs.takeWhile Char.isDigit
  let rest := cs.dropWhile Char.isDigit
  let (fraction, rest) := match rest with
    | '.' :: rest => (rest.takeWhile Char.isDigit, rest.dropWhile Char.isDigit)
    | _ => ([], rest)
  if whole = [] ∧ fraction = [] then none
  let exponent ← readExponent rest
  pure ⟨Nat.ofDigitChars 10 (whole ++ fraction) 0, exponent - fraction.length⟩

/-- The magnitude of a double: a word for one that is not finite, or a decimal number. -/
def readMagnitude (cs : List Char) : Option Float :=
  let word := String.ofList (cs.map Char.toLower)
  if word = "inf" ∨ word = "infinity" then some (1 / 0)
  else if word = "nan" then some (0 / 0)
  else (readDecimal cs).map Decimal.toFloat

/-- A double with an optional sign. -/
def readFloat (s : String) : Option Float :=
  match s.toList with
  | '-' :: rest => (readMagnitude rest).map fun x => -x
  | '+' :: rest => readMagnitude rest
  | cs => readMagnitude cs

/-- The greatest value of a 32-bit word. -/
def greatest32 : Nat := 0xFFFFFFFF

/-- The greatest value of a 64-bit word. -/
def greatest64 : Nat := 0xFFFFFFFFFFFFFFFF

/-- The settings of an environment. -/
def ofEnvironment (lookup : String → Option ByteArray) : Settings :=
  let text := fun name => (lookup name).bind String.fromUTF8?
  let float := fun name default => ((text name).bind readFloat).getD default
  let integer := fun name greatest default => ((text name).bind (readInteger greatest)).getD default
  let base : Settings := {}
  { kmsPerSecond := float "KMS_RATE_LIMIT_QPS" base.kmsPerSecond
    kmsBurst := integer "KMS_RATE_LIMIT_BURST" greatest32 base.kmsBurst
    oosPerSecond := float "OOS_RATE_LIMIT_QPS" base.oosPerSecond
    oosBurst := integer "OOS_RATE_LIMIT_BURST" greatest32 base.oosBurst
    waitTimeoutSeconds := integer "RATE_LIMIT_WAIT_TIMEOUT_SECS" greatest64 base.waitTimeoutSeconds
    backoffBaseMs := integer "BACKOFF_BASE_MS" greatest64 base.backoffBaseMs
    backoffMaxMs := integer "BACKOFF_MAX_MS" greatest64 base.backoffMaxMs
    logLevel := (text "LOG_LEVEL").getD base.logLevel
    logFormat := (text "LOG_FORMAT").getD base.logFormat }

/-- How long a fetch may wait for a token. -/
def waitTimeout (s : Settings) : Duration.Nanoseconds :=
  Duration.ofSeconds s.waitTimeoutSeconds

/-- The backoff before a retry. -/
def backoff (s : Settings) : Backoff :=
  ⟨Duration.ofMilliseconds s.backoffBaseMs, Duration.ofMilliseconds s.backoffMaxMs⟩

/-- The limiter of both kinds, with full buckets. -/
def limiter (s : Settings) (now : Nat) : Limiter :=
  (Limiter.unlimited.limit .kms ⟨s.kmsPerSecond, s.kmsBurst⟩ now).limit .oos
    ⟨s.oosPerSecond, s.oosBurst⟩ now

/-- The settings of a fetch. -/
def fetchSettings (s : Settings) : FetchSettings :=
  ⟨s.backoff, s.waitTimeout⟩

end Settings

end SecretMount
