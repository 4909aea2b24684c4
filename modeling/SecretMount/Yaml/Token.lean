import SecretMount.Yaml.Scalar

/-!
# YAML tokens

The tokens of a YAML text. Some are written (indicators, scalars, properties, directives); the
starts and ends of block collections and the keys of a line follow from the layout. This file also
reads the tokens whose form does not depend on the layout: anchors, tags and directives.
-/

namespace SecretMount.Yaml

/-- A token. A scalar says whether it is plain. -/
inductive Token where
  | versionDirective (major minor : Nat)
  | tagDirective (handle stem : String)
  | documentStart
  | documentEnd
  | blockSequenceStart
  | blockMappingStart
  | blockEnd
  | flowSequenceStart
  | flowSequenceEnd
  | flowMappingStart
  | flowMappingEnd
  | blockEntry
  | flowEntry
  | key
  | value
  | aliasOf (name : String)
  | anchor (name : String)
  | tag (handle suffix : String)
  | scalar (text : String) (plain : Bool)
deriving Repr, DecidableEq

/-- The name of an anchor or alias after its indicator. It ends before a blank or an indicator. -/
def readName (c : Cursor) : Option (String × Cursor) :=
  let (name, c) := c.takeWhile isWord
  let ends := blankFollows c.rest ||
    c.nextIs fun d => ['?', ':', ',', ']', '\x7d', '%', '@', '\x60'].contains d
  if name ≠ [] ∧ ends then some (String.ofList name, c) else none

/-- A character of a tag other than the percent sign. -/
def isTagChar (verbatim : Bool) (d : Char) : Bool :=
  isWord d ||
    [';', '/', '?', ':', '@', '&', '=', '+', '$', '.', '!', '~', '*', '\'', '(', ')'].contains d ||
    (verbatim && (d = ',' || d = '[' || d = ']'))

/-- One octet written as a percent sign and two digits. -/
def readOctet : List Char → Option (Nat × List Char)
  | '%' :: a :: b :: rest => do
    pure (16 * (← Text.Hex.value? a) + (← Text.Hex.value? b), rest)
  | _ => none

/-- The further octets of a character, which are all required. -/
def readTrailing : Nat → Nat → List Char → Option (Nat × List Char)
  | 0, code, rest => some (code, rest)
  | n + 1, code, rest => do
    let (octet, rest) ← readOctet rest
    if octet / 64 = 2 then readTrailing n (64 * code + octet % 64) rest else none

/-- A character written by its octets in UTF-8. One that is not valid there counts as U+FFFD. -/
def readOctets (cs : List Char) : Option (Char × List Char) := do
  let (first, rest) ← readOctet cs
  let (more, code, least) ←
    if first < 0x80 then some (0, first, 0)
    else if first / 32 = 6 then some (1, first % 32, 0x80)
    else if first / 16 = 14 then some (2, first % 16, 0x800)
    else if first / 8 = 30 then some (3, first % 8, 0x10000)
    else none
  let (code, rest) ← readTrailing more code rest
  let valid := least ≤ code ∧ ¬ (0xD800 ≤ code ∧ code ≤ 0xDFFF) ∧ code ≤ 0x10FFFF
  pure (if valid then Char.ofNat code else '\ufffd', rest)

/-- The characters of a tag and what follows them. -/
def tagChars (verbatim : Bool) : Nat → List Char → Option (List Char × List Char)
  | 0, _ => none
  | fuel + 1, cs =>
    match cs with
    | [] => some ([], [])
    | d :: rest =>
      if d = '%' then do
        let (e, rest) ← readOctets cs
        let (text, rest) ← tagChars verbatim fuel rest
        pure (e :: text, rest)
      else if isTagChar verbatim d then do
        let (text, rest) ← tagChars verbatim fuel rest
        pure (d :: text, rest)
      else some ([], cs)

/-- The characters of a tag at the cursor, and the place after them. -/
def readTagText (verbatim : Bool) (c : Cursor) : Option (List Char × Cursor) := do
  let (text, rest) ← tagChars verbatim (c.rest.length + 1) c.rest
  pure (text, c.skip (c.rest.length - rest.length))

/-- What starts with an exclamation mark: word characters, and a second mark if there is one. -/
def readHandle (c : Cursor) : Option (List Char × Cursor) :=
  if c.sees '!' then
    let (name, c) := c.skip.takeWhile isWord
    if c.sees '!' then some ('!' :: name ++ ['!'], c.skip) else some ('!' :: name, c)
  else none

/-- Whether the text is a handle of a tag: it has two exclamation marks. -/
def isHandle (text : List Char) : Bool :=
  2 ≤ text.length && text.getLast? = some '!'

/-- The handle and the suffix of a tag. A verbatim tag and the tag `!` have no handle. -/
def readTagParts (c : Cursor) : Option (List Char × List Char × Cursor) :=
  if c.rest.take 2 = ['!', '<'] then do
    let (suffix, c) ← readTagText true (c.skip 2)
    if suffix ≠ [] ∧ c.sees '>' then pure ([], suffix, c.skip) else none
  else do
    let (handle, c) ← readHandle c
    if isHandle handle then
      let (suffix, c) ← readTagText false c
      if suffix = [] then none else pure (handle, suffix, c)
    else
      let (more, c) ← readTagText false c
      let suffix := handle.drop 1 ++ more
      if suffix = [] then pure ([], ['!'], c) else pure (['!'], suffix, c)

/-- A tag, which ends before a blank, or before a comma inside brackets. -/
def readTag (flow : Bool) (c : Cursor) : Option (Token × Cursor) := do
  let (handle, suffix, c) ← readTagParts c
  if (flow && c.sees ',') || blankFollows c.rest then
    pure (.tag (String.ofList handle) (String.ofList suffix), c)
  else none

/-- A number of a version, of nine digits at most. -/
def readVersionNumber (c : Cursor) : Option (Nat × Cursor) :=
  let (digits, c) := c.takeWhile Char.isDigit
  if digits = [] ∨ 9 < digits.length then none else some (Nat.ofDigitChars 10 digits 0, c)

/-- The version of a version directive. -/
def readVersion (c : Cursor) : Option (Token × Cursor) := do
  let (major, c) ← readVersionNumber (c.skipWhile isSpace)
  if c.sees '.' then
    let (minor, c) ← readVersionNumber c.skip
    pure (.versionDirective major minor, c)
  else none

/-- The handle of a tag directive and what it stands for. -/
def readTagDirective (c : Cursor) : Option (Token × Cursor) := do
  let (handle, c) ← readHandle (c.skipWhile isSpace)
  if (isHandle handle || handle = ['!']) && c.nextIs isSpace then
    let (stem, c) ← readTagText true (c.skipWhile isSpace)
    if stem ≠ [] ∧ blankFollows c.rest then
      pure (.tagDirective (String.ofList handle) (String.ofList stem), c)
    else none
  else none

/-- A directive, from its percent sign to the end of the line. -/
def readDirective (c : Cursor) : Option (Token × Cursor) := do
  let (name, c) := c.skip.takeWhile isWord
  if blankFollows c.rest then
    let (token, c) ←
      if name = ['Y', 'A', 'M', 'L'] then readVersion c
      else if name = ['T', 'A', 'G'] then readTagDirective c
      else none
    let c ← c.skipLineEnd?
    pure (token, c)
  else none

end SecretMount.Yaml
