import SecretMount.Json.Numeral
import SecretMount.Text.Hex

/-!
# JSON texts

`Written` is the tree of a JSON text: the fields of an object in their written order with repeated
keys, numbers by their digits, texts by characters and escaped UTF-16 units. `Written.read?` is the
grammar of RFC 8259 and knows no limits; `Written.value?` gives the value, which is refused for a
number beyond the doubles, for an unpaired surrogate and for containers nested too deep. Of a
repeated key the last entry counts.
-/

namespace SecretMount.Json

/-- A part of a text between quotes: a character, or a UTF-16 unit given by its number. -/
inductive Piece where
  | char (c : Char)
  | unit (n : Nat)
deriving Repr, DecidableEq

/-- A JSON text, taken apart. -/
inductive Written where
  | null
  | bool (b : Bool)
  | number (n : Numeral)
  | string (pieces : List Piece)
  | array (items : List Written)
  | object (fields : List (List Piece × Written))

/-- A text without the white space at its start. -/
def skipBlank (cs : List Char) : List Char :=
  cs.dropWhile fun c => c = ' ' ∨ c = '\t' ∨ c = '\n' ∨ c = '\r'

/-- The character that a one-letter escape stands for. -/
def shortEscape? (c : Char) : Option Char :=
  match c with
  | '"' => some '"'
  | '\\' => some '\\'
  | '/' => some '/'
  | 'b' => some '\x08'
  | 'f' => some '\x0c'
  | 'n' => some '\n'
  | 'r' => some '\r'
  | 't' => some '\t'
  | _ => none

/-- Reads a text up to its closing quote, which is consumed. -/
def readPieces : List Char → Option (List Piece × List Char)
  | [] => none
  | '"' :: rest => some ([], rest)
  | '\\' :: 'u' :: a :: b :: c :: d :: rest => do
    let n ← Text.Hex.ofFour? a b c d
    let (pieces, rest) ← readPieces rest
    pure (.unit n :: pieces, rest)
  | '\\' :: e :: rest => do
    let c ← shortEscape? e
    let (pieces, rest) ← readPieces rest
    pure (.char c :: pieces, rest)
  | c :: rest =>
    if c.toNat < 0x20 ∨ c = '\\' then none
    else do
      let (pieces, rest) ← readPieces rest
      pure (.char c :: pieces, rest)

/-- The digits at the start and what follows them. -/
def spanDigits (cs : List Char) : List Char × List Char :=
  (cs.takeWhile Char.isDigit, cs.dropWhile Char.isDigit)

/-- Digits, at least one. -/
def readDigits (cs : List Char) : Option (List Char × List Char) :=
  let (digits, rest) := spanDigits cs
  if digits = [] then none else some (digits, rest)

/-- The fraction, if a point follows. -/
def readFraction : List Char → Option (List Char × List Char)
  | '.' :: rest => readDigits rest
  | cs => some ([], cs)

/-- The sign of an exponent. -/
def readSign : List Char → Bool × List Char
  | '+' :: rest => (false, rest)
  | '-' :: rest => (true, rest)
  | cs => (false, cs)

/-- The exponent, if one follows. -/
def readExponent : List Char → Option (Option (Bool × List Char) × List Char)
  | 'e' :: rest | 'E' :: rest => do
    let (negative, rest) := readSign rest
    let (digits, rest) ← readDigits rest
    pure (some (negative, digits), rest)
  | cs => some (none, cs)

/-- A number without its sign; more digits after a zero are refused. -/
def readMagnitude (negative : Bool) (cs : List Char) : Option (Numeral × List Char) := do
  let (whole, rest) ← readDigits cs
  if whole.head? = some '0' ∧ whole ≠ ['0'] then none
  let (fraction, rest) ← readFraction rest
  let (exponent, rest) ← readExponent rest
  pure (⟨negative, whole, fraction, exponent⟩, rest)

/-- A number. -/
def readNumeral : List Char → Option (Numeral × List Char)
  | '-' :: rest => readMagnitude true rest
  | cs => readMagnitude false cs

mutual

/-- One value and what follows it. Every step inwards or onwards takes one unit of fuel. -/
def readValue : Nat → List Char → Option (Written × List Char)
  | 0, _ => none
  | fuel + 1, cs =>
    match skipBlank cs with
    | '\x7b' :: rest =>
      match skipBlank rest with
      | '\x7d' :: rest => some (.object [], rest)
      | rest => (readFields fuel rest).map fun r => (.object r.1, r.2)
    | '[' :: rest =>
      match skipBlank rest with
      | ']' :: rest => some (.array [], rest)
      | rest => (readItems fuel rest).map fun r => (.array r.1, r.2)
    | '"' :: rest => (readPieces rest).map fun r => (.string r.1, r.2)
    | 't' :: 'r' :: 'u' :: 'e' :: rest => some (.bool true, rest)
    | 'f' :: 'a' :: 'l' :: 's' :: 'e' :: rest => some (.bool false, rest)
    | 'n' :: 'u' :: 'l' :: 'l' :: rest => some (.null, rest)
    | rest => (readNumeral rest).map fun r => (.number r.1, r.2)

/-- Items up to the closing bracket, at least one. -/
def readItems : Nat → List Char → Option (List Written × List Char)
  | 0, _ => none
  | fuel + 1, cs => do
    let (item, rest) ← readValue fuel cs
    match skipBlank rest with
    | ']' :: rest => pure ([item], rest)
    | ',' :: rest =>
      let (items, rest) ← readItems fuel rest
      pure (item :: items, rest)
    | _ => none

/-- Fields up to the closing brace, at least one. -/
def readFields : Nat → List Char → Option (List (List Piece × Written) × List Char)
  | 0, _ => none
  | fuel + 1, cs =>
    match skipBlank cs with
    | '"' :: rest => do
      let (key, rest) ← readPieces rest
      match skipBlank rest with
      | ':' :: rest =>
        let (item, rest) ← readValue fuel rest
        match skipBlank rest with
        | '\x7d' :: rest => pure ([(key, item)], rest)
        | ',' :: rest =>
          let (fields, rest) ← readFields fuel rest
          pure ((key, item) :: fields, rest)
        | _ => none
      | _ => none
    | _ => none

end

/-- The tree of a whole text. A container takes two steps for each of its characters at most. -/
def Written.read? (s : String) : Option Written :=
  let cs := s.toList
  match readValue (2 * cs.length + 2) cs with
  | some (v, rest) => if skipBlank rest = [] then some v else none
  | none => none

/-- The characters of a text; a high surrogate has to be followed by a low one. -/
def Piece.chars? : List Piece → Option (List Char)
  | [] => some []
  | .char c :: rest => (chars? rest).map (c :: ·)
  | .unit high :: rest =>
    if 0xD800 ≤ high ∧ high < 0xDC00 then
      match rest with
      | .unit low :: rest =>
        if 0xDC00 ≤ low ∧ low < 0xE000 then
          (chars? rest).map (Char.ofNat (0x10000 + 1024 * (high - 0xD800) + (low - 0xDC00)) :: ·)
        else none
      | _ => none
    else if 0xDC00 ≤ high ∧ high < 0xE000 then none
    else (chars? rest).map (Char.ofNat high :: ·)

/-- The text that the pieces make. -/
def Piece.text? (pieces : List Piece) : Option String :=
  (Piece.chars? pieces).map String.ofList

mutual

/-- The value of a tree that has at most `depth` containers around any part. -/
def Written.value? (depth : Nat) : Written → Option Json
  | .null => some .null
  | .bool b => some (.bool b)
  | .number n => n.value?.map .number
  | .string pieces => (Piece.text? pieces).map .string
  | .array items =>
    match depth with
    | 0 => none
    | depth + 1 => (Written.items? depth items).map .array
  | .object fields =>
    match depth with
    | 0 => none
    | depth + 1 =>
      (Written.fields? depth fields).map fun entries => .object (KeyedList.ofList entries)

/-- The values of the items. -/
def Written.items? (depth : Nat) : List Written → Option (List Json)
  | [] => some []
  | item :: rest => do
    let v ← Written.value? depth item
    let vs ← Written.items? depth rest
    pure (v :: vs)

/-- The entries that the fields make, in the written order. -/
def Written.fields? (depth : Nat) : List (List Piece × Written) → Option (List (String × Json))
  | [] => some []
  | (key, item) :: rest => do
    let k ← Piece.text? key
    let v ← Written.value? depth item
    let vs ← Written.fields? depth rest
    pure ((k, v) :: vs)

end

/-- The greatest number of containers around a part of a value. -/
def depthLimit : Nat := 127

/-- The value of a JSON text. -/
def read? (s : String) : Option Json := do
  (← Written.read? s).value? depthLimit

/-- The value of a JSON text in UTF-8. -/
def ofBytes? (bytes : ByteArray) : Option Json := do
  read? (← String.fromUTF8? bytes)

end SecretMount.Json
