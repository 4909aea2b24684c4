import SecretMount.Json.Basic
import SecretMount.Decimal.Shortest
import SecretMount.Text.Hex

/-!
# Compact JSON

A value is written without white space, its fields in the order they stand in, texts with the
escapes that JSON demands and no others, and a double by its shortest digits. The rules for
doubles are `Number.positional` and `Number.scientific`: a point or zeros up to sixteen places
before the point and five zeros after it, else an exponent with its sign.
-/

namespace SecretMount.Json

/-- One character between the quotes of a text. -/
def printChar (c : Char) : List Char :=
  if c = '"' then ['\\', '"']
  else if c = '\\' then ['\\', '\\']
  else if c = '\x08' then ['\\', 'b']
  else if c = '\x0c' then ['\\', 'f']
  else if c = '\n' then ['\\', 'n']
  else if c = '\r' then ['\\', 'r']
  else if c = '\t' then ['\\', 't']
  else if c.toNat < 0x20 then '\\' :: 'u' :: Text.Hex.four c.toNat
  else [c]

/-- A text in quotes. -/
def printString (s : String) : List Char :=
  '"' :: s.toList.flatMap printChar ++ ['"']

/-- Digits and the place of the point, counted from the start of the digits. -/
def Number.positional (digits : List Char) (point : Int) : List Char :=
  let size : Int := digits.length
  if point ≤ 0 then '0' :: '.' :: List.replicate (-point).toNat '0' ++ digits
  else if size ≤ point then digits ++ List.replicate (point - size).toNat '0' ++ ['.', '0']
  else digits.take point.toNat ++ '.' :: digits.drop point.toNat

/-- Digits with the point after the first, and the exponent. -/
def Number.scientific (digits : List Char) (exponent : Int) : List Char :=
  let mantissa := match digits with
    | [] => []
    | [d] => [d]
    | d :: rest => d :: '.' :: rest
  mantissa ++ 'e' :: (if exponent < 0 then '-' else '+') :: Nat.toDigits 10 exponent.natAbs

/-- A positive double. -/
def Number.printMagnitude (d : Decimal) : List Char :=
  let digits := Nat.toDigits 10 d.digits
  let point := (digits.length : Int) + d.exponent
  if -5 < point ∧ point ≤ 16 then Number.positional digits point
  else Number.scientific digits (point - 1)

/-- A finite double; the others have no JSON text and are written as null. -/
def Number.printFloat (x : Float) : List Char :=
  let bits := x.toBits.toNat
  let magnitude := bits % Nat.pow 2 63
  let sign := if Nat.pow 2 63 ≤ bits then ['-'] else []
  if 2047 * Nat.pow 2 52 ≤ magnitude then ['n', 'u', 'l', 'l']
  else if magnitude = 0 then sign ++ ['0', '.', '0']
  else sign ++ Number.printMagnitude (Decimal.Binary.ofBits magnitude).shortest

/-- An integer. -/
def Number.printInt (n : Int) : List Char :=
  if n < 0 then '-' :: Nat.toDigits 10 n.natAbs else Nat.toDigits 10 n.natAbs

/-- A number. -/
def Number.print : Number → List Char
  | .int n => Number.printInt n
  | .float x => Number.printFloat x

mutual

/-- A value as compact JSON. -/
def print : Json → List Char
  | .null => ['n', 'u', 'l', 'l']
  | .bool true => ['t', 'r', 'u', 'e']
  | .bool false => ['f', 'a', 'l', 's', 'e']
  | .number n => n.print
  | .string s => printString s
  | .array items => '[' :: printItems items
  | .object fields => '\x7b' :: printFields fields

/-- The items of an array and its closing bracket. -/
def printItems : List Json → List Char
  | [] => [']']
  | [v] => print v ++ [']']
  | v :: rest => print v ++ ',' :: printItems rest

/-- The fields of an object and its closing brace. -/
def printFields : List (String × Json) → List Char
  | [] => ['\x7d']
  | [(k, v)] => printString k ++ ':' :: print v ++ ['\x7d']
  | (k, v) :: rest => printString k ++ ':' :: print v ++ ',' :: printFields rest

end

/-- The compact JSON text of a value. -/
def text (v : Json) : String :=
  String.ofList (print v)

end SecretMount.Json
