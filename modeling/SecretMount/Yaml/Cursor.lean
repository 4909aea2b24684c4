/-!
# Places in a YAML text

A `Cursor` is the rest of a text with the place that it starts at. Lines end with a carriage return
and a line feed, with either alone, or with one of the Unicode characters NEL, LS and PS. The end of
the text counts as a blank where a blank ends something.
-/

namespace SecretMount.Yaml

/-- A character that a YAML text may hold. -/
def isAllowed (c : Char) : Bool :=
  let n := c.toNat
  n == 0x09 || n == 0x0A || n == 0x0D || (0x20 ≤ n && n ≤ 0x7E) || n == 0x85 ||
    (0xA0 ≤ n && n ≤ 0xD7FF) || (0xE000 ≤ n && n ≤ 0xFFFD) || 0x10000 ≤ n

/-- A space or a tab. -/
def isSpace (c : Char) : Bool :=
  c = ' ' || c = '\t'

/-- A character that ends a line. -/
def isBreak (c : Char) : Bool :=
  let n := c.toNat
  n == 0x0A || n == 0x0D || n == 0x85 || n == 0x2028 || n == 0x2029

/-- Whether a text starts with a space, a tab or the end of a line, or is empty. -/
def blankFollows : List Char → Bool
  | [] => true
  | c :: _ => isSpace c || isBreak c

/-- A character of the names of anchors, tag handles and directives. -/
def isWord (c : Char) : Bool :=
  c.isAlphanum || c = '-' || c = '_'

/-- The rest of a text, and the place that it starts at. -/
structure Cursor where
  rest : List Char
  index : Nat := 0
  line : Nat := 0
  column : Nat := 0
deriving Repr

namespace Cursor

/-- The next character, if there is one. -/
def next? (c : Cursor) : Option Char := c.rest.head?

/-- Whether the next character is the given one. -/
def sees (c : Cursor) (d : Char) : Bool := c.next? = some d

/-- Whether the next character is one that the test holds of. -/
def nextIs (c : Cursor) (test : Char → Bool) : Bool := c.next?.any test

/-- Past characters within the line. -/
def skip (c : Cursor) (n : Nat := 1) : Cursor :=
  let taken := min n c.rest.length
  { c with rest := c.rest.drop n, index := c.index + taken, column := c.column + taken }

/-- Past the characters that the test holds of, which must not end lines. -/
def skipWhile (c : Cursor) (test : Char → Bool) : Cursor :=
  c.skip (c.rest.takeWhile test).length

/-- The characters that the test holds of, and the place after them. -/
def takeWhile (c : Cursor) (test : Char → Bool) : List Char × Cursor :=
  (c.rest.takeWhile test, c.skipWhile test)

/-- The line break at the cursor as it counts in a scalar, and the place after it. -/
def takeBreak (c : Cursor) : List Char × Cursor :=
  let below (n : Nat) (rest : List Char) : Cursor := ⟨rest, c.index + n, c.line + 1, 0⟩
  match c.rest with
  | '\r' :: '\n' :: rest => (['\n'], below 2 rest)
  | d :: rest =>
    if isBreak d then
      (if d.toNat = 0x2028 ∨ d.toNat = 0x2029 then [d] else ['\n'], below 1 rest)
    else ([], c)
  | [] => ([], c)

/-- Past a line break, if there is one at the cursor. -/
def skipBreak (c : Cursor) : Cursor := c.takeBreak.2

/-- Past the spaces, tabs and comment up to the end of the line; nothing else may stand there. -/
def skipLineEnd? (c : Cursor) : Option Cursor :=
  let c := c.skipWhile isSpace
  let c := if c.sees '#' then c.skipWhile (fun d => !isBreak d) else c
  if c.rest.isEmpty || c.nextIs isBreak then some c.skipBreak else none

/-- Whether three of the given character stand alone at the start of the line. -/
def atIndicator (c : Cursor) (mark : Char) : Bool :=
  c.column = 0 && c.rest.take 3 = [mark, mark, mark] && blankFollows (c.rest.drop 3)

/-- Whether the line starts or ends a document. -/
def atDocumentIndicator (c : Cursor) : Bool :=
  c.atIndicator '-' || c.atIndicator '.'

end Cursor

end SecretMount.Yaml
