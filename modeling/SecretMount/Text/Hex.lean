/-!
# Hexadecimal digits

The sixteen digits in lower case and their values; reading takes both cases. Main statement:
`value?_digit`, a written digit is read as itself.
-/

namespace SecretMount.Text.Hex

/-- The lower-case digit of a value below sixteen. -/
def digit (n : Nat) : Char :=
  if n < 10 then Char.ofNat (48 + n) else Char.ofNat (87 + n)

/-- The value of a digit of either case. -/
def value? (c : Char) : Option Nat :=
  if '0' ≤ c ∧ c ≤ '9' then some (c.toNat - 48)
  else if 'a' ≤ c ∧ c ≤ 'f' then some (c.toNat - 87)
  else if 'A' ≤ c ∧ c ≤ 'F' then some (c.toNat - 55)
  else none

/-- A digit has its value. -/
theorem value?_digit {n : Nat} (h : n < 16) : value? (digit n) = some n := by
  have all : ∀ m < 16, value? (digit m) = some m := by decide
  exact all n h

/-- The value of a text of digits, most significant first. -/
def ofDigits? (cs : List Char) : Option Nat :=
  cs.foldl (fun acc c => do pure (16 * (← acc) + (← value? c))) (some 0)

/-- The shortest text of a number. -/
def ofNat (n : Nat) : List Char :=
  Nat.toDigits 16 n

/-- The last four digits of a number. -/
def four (n : Nat) : List Char :=
  [digit (n / 4096 % 16), digit (n / 256 % 16), digit (n / 16 % 16), digit (n % 16)]

/-- The value of four digits. -/
def ofFour? (a b c d : Char) : Option Nat := do
  pure (4096 * (← value? a) + 256 * (← value? b) + 16 * (← value? c) + (← value? d))

/-- The four digits of a number below 65536 spell the number. -/
theorem ofFour?_digits {n : Nat} (h : n < 65536) :
    ofFour? (digit (n / 4096 % 16)) (digit (n / 256 % 16)) (digit (n / 16 % 16))
      (digit (n % 16)) = some n := by
  rw [ofFour?, value?_digit (by omega), value?_digit (by omega), value?_digit (by omega),
    value?_digit (by omega)]
  change some (4096 * (n / 4096 % 16) + 256 * (n / 256 % 16) + 16 * (n / 16 % 16) + n % 16) = some n
  congr 1
  omega

/-- Two digits for each byte. -/
def ofBytes (bytes : ByteArray) : List Char :=
  bytes.toList.flatMap fun b => [digit (b.toNat / 16), digit (b.toNat % 16)]

/-- The bytes that the digits, taken in pairs, spell. -/
def toBytes? : List Char → Option (List UInt8)
  | [] => some []
  | [_] => none
  | a :: b :: rest => do
    let high ← value? a
    let low ← value? b
    pure (UInt8.ofNat (16 * high + low) :: (← toBytes? rest))

end SecretMount.Text.Hex
