import SecretMount.Yaml.Token

/-!
# The layout of a YAML text

`Layout.tokens?` gives the tokens of a text, those that follow from its layout among them. A
collection in block style opens at the column of its first entry and closes before the first line
that stands further left. A scalar or bracket that a colon follows on the same line is a key; the
tokens of the key are put in before it once the colon is seen, for which the place of every
possible key is kept, one for each level of brackets.
-/

namespace SecretMount.Yaml

/-- A token that may turn out to be a key. It is required to be one where a key has to stand. -/
structure PossibleKey where
  required : Bool
  /-- The number of tokens before it. -/
  position : Nat
  index : Nat
  line : Nat
  column : Nat
deriving Repr

/-- The state of reading: the tokens so far, newest first, and the open collections. -/
structure Layout where
  cursor : Cursor
  reversed : List Token := []
  /-- The possible key of each level of brackets, the innermost first. -/
  keys : List (Option PossibleKey) := [none]
  /-- The column of the open block collection; minus one at the top. -/
  indent : Int := -1
  /-- The columns of the block collections around it. -/
  outer : List Int := []
  /-- Whether a key may start here. -/
  keyAllowed : Bool := true

namespace Layout

/-- Whether the cursor is inside brackets. -/
def inFlow (s : Layout) : Bool := 1 < s.keys.length

/-- Adds a token. -/
def push (s : Layout) (t : Token) : Layout :=
  { s with reversed := t :: s.reversed }

/-- Adds a token that takes so many characters of the line. -/
def pushChars (s : Layout) (n : Nat) (t : Token) : Layout :=
  { s with reversed := t :: s.reversed, cursor := s.cursor.skip n }

/-- Puts a token in after the given number of tokens. -/
def insertAt (s : Layout) (position : Nat) (t : Token) : Layout :=
  let after := s.reversed.length - position
  { s with reversed := s.reversed.take after ++ t :: s.reversed.drop after }

/-- Allows or forbids that a key starts. -/
def allowKey (s : Layout) (allowed : Bool) : Layout :=
  { s with keyAllowed := allowed }

/-- Opens a block collection at a column, unless one is open there. -/
def openBlock (s : Layout) (column : Nat) (position : Nat) (t : Token) : Layout :=
  if s.inFlow || (column : Int) ≤ s.indent then s
  else { s.insertAt position t with outer := s.indent :: s.outer, indent := column }

/-- Closes the block collections that stand right of a column. -/
def closeBlocks (column : Int) : List Int → Layout → Layout
  | [], s => s
  | before :: outer, s =>
    if s.indent ≤ column then s
    else closeBlocks column outer { s.push .blockEnd with indent := before, outer := outer }

/-- Closes the block collections right of a column; inside brackets layout does not count. -/
def unwind (s : Layout) (column : Int) : Layout :=
  if s.inFlow then s else closeBlocks column s.outer s

/-- Drops the possible key of the current level, which must not be required. -/
def dropKey (s : Layout) : Option Layout :=
  match s.keys with
  | some key :: keys => if key.required then none else some { s with keys := none :: keys }
  | _ => some s

/-- Notes that a key may start here. -/
def noteKey (s : Layout) : Option Layout :=
  if s.keyAllowed then do
    let required := !s.inFlow && s.indent = (s.cursor.column : Int)
    let key : PossibleKey :=
      ⟨required, s.reversed.length, s.cursor.index, s.cursor.line, s.cursor.column⟩
    let s ← s.dropKey
    pure { s with keys := some key :: s.keys.drop 1 }
  else some s

/-- The greatest number of characters between the start of a key and its colon. -/
def keyLimit : Nat := 1024

/-- Drops the possible keys that the cursor has left behind: a key is on one line and not longer
than the limit. A required key must not be dropped. -/
def dropStale (s : Layout) : Option Layout := do
  let keys ← s.keys.mapM fun key =>
    match key with
    | none => some none
    | some k =>
      if k.line < s.cursor.line ∨ k.index + keyLimit < s.cursor.index then
        if k.required then none else some none
      else some (some k)
  pure { s with keys }

/-- Past white space, comments and line breaks to the next token. A tab is white space where no key
may start. -/
def toNext : Nat → Layout → Layout
  | 0, s => s
  | fuel + 1, s =>
    let c := s.cursor
    let c := if c.column = 0 && c.sees '\ufeff' then c.skip else c
    let c := c.skipWhile fun d => d = ' ' || ((s.inFlow || !s.keyAllowed) && d = '\t')
    let c := if c.sees '#' then c.skipWhile (fun d => !isBreak d) else c
    if c.nextIs isBreak then
      toNext fuel { s with cursor := c.skipBreak, keyAllowed := !s.inFlow || s.keyAllowed }
    else { s with cursor := c }

/-- A token that ends all block collections: a directive or the indicator of a document. -/
def atTop (s : Layout) : Option Layout := do
  pure ((← (s.unwind (-1)).dropKey).allowKey false)

/-- An opening bracket. -/
def openFlow (s : Layout) (t : Token) : Option Layout := do
  let s ← s.noteKey
  pure ({ s with keys := none :: s.keys }.allowKey true |>.pushChars 1 t)

/-- A closing bracket. -/
def closeFlow (s : Layout) (t : Token) : Option Layout := do
  let s ← s.dropKey
  let keys := if s.inFlow then s.keys.drop 1 else s.keys
  pure ({ s with keys }.allowKey false |>.pushChars 1 t)

/-- A comma. -/
def flowEntry (s : Layout) : Option Layout := do
  pure ((← s.dropKey).allowKey true |>.pushChars 1 .flowEntry)

/-- A hyphen before an entry of a block sequence. -/
def blockEntry (s : Layout) : Option Layout := do
  if !s.inFlow && !s.keyAllowed then none
  let s := s.openBlock s.cursor.column s.reversed.length .blockSequenceStart
  pure ((← s.dropKey).allowKey true |>.pushChars 1 .blockEntry)

/-- A question mark before a key. -/
def explicitKey (s : Layout) : Option Layout := do
  if !s.inFlow && !s.keyAllowed then none
  let s := s.openBlock s.cursor.column s.reversed.length .blockMappingStart
  let s ← s.dropKey
  pure (s.allowKey (!s.inFlow) |>.pushChars 1 .key)

/-- A colon before a value. If a possible key stands before it, that becomes a key. -/
def value (s : Layout) : Option Layout :=
  match s.keys with
  | some key :: keys =>
    let s := s.insertAt key.position .key
    let s := s.openBlock key.column key.position .blockMappingStart
    some ({ s with keys := none :: keys }.allowKey false |>.pushChars 1 .value)
  | _ => do
    if !s.inFlow && !s.keyAllowed then none
    let s := s.openBlock s.cursor.column s.reversed.length .blockMappingStart
    pure (s.allowKey (!s.inFlow) |>.pushChars 1 .value)

/-- A token of one line or more, read from the cursor on, that may be a key. -/
def keyToken (s : Layout) (read : Cursor → Option (Token × Cursor)) : Option Layout := do
  let s ← s.noteKey
  let (token, cursor) ← read s.cursor
  pure ({ s with cursor }.push token |>.allowKey false)

/-- A plain scalar; after one that ends in a line break a key may start. -/
def plain (s : Layout) : Option Layout := do
  let s ← s.noteKey
  let (text, broken, cursor) ← readPlain s.inFlow (s.indent + 1) s.cursor
  pure ({ s with cursor }.push (.scalar (String.ofList text) true) |>.allowKey broken)

/-- A block scalar. -/
def block (s : Layout) (literal : Bool) : Option Layout := do
  let s ← s.dropKey
  let (text, cursor) ← readBlock literal s.indent s.cursor
  pure ({ s with cursor }.push (.scalar (String.ofList text) false) |>.allowKey true)

/-- The indicators, with which no plain scalar starts. -/
def indicators : List Char :=
  ['-', '?', ':', ',', '[', ']', '\x7b', '\x7d', '#', '&', '*', '!', '|', '>', '\'', '"', '%', '@',
    '\x60']

/-- Whether a plain scalar starts with the character before the rest of the text. A tab where a key
may start is no white space and starts nothing. -/
def startsPlain (flow : Bool) (d : Char) (rest : List Char) : Bool :=
  !(isSpace d || indicators.contains d) || (d = '-' && !rest.head?.any isSpace) ||
    (!flow && (d = '?' || d = ':') && !blankFollows rest)

/-- The token at the cursor, which is past white space and comments and not at the end. -/
def token (s : Layout) (d : Char) (rest : List Char) : Option Layout :=
  let c := s.cursor
  let flow := s.inFlow
  if c.column = 0 && d = '%' then do
    let s ← s.atTop
    let (token, cursor) ← readDirective c
    pure ({ s with cursor }.push token)
  else if c.atIndicator '-' then do pure ((← s.atTop).pushChars 3 .documentStart)
  else if c.atIndicator '.' then do pure ((← s.atTop).pushChars 3 .documentEnd)
  else if d = '[' then s.openFlow .flowSequenceStart
  else if d = '\x7b' then s.openFlow .flowMappingStart
  else if d = ']' then s.closeFlow .flowSequenceEnd
  else if d = '\x7d' then s.closeFlow .flowMappingEnd
  else if d = ',' then s.flowEntry
  else if d = '-' && blankFollows rest then s.blockEntry
  else if d = '?' && (flow || blankFollows rest) then s.explicitKey
  else if d = ':' && (flow || blankFollows rest) then s.value
  else if d = '*' then
    s.keyToken fun c => (readName c.skip).map fun r => (.aliasOf r.1, r.2)
  else if d = '&' then
    s.keyToken fun c => (readName c.skip).map fun r => (.anchor r.1, r.2)
  else if d = '!' then s.keyToken (readTag flow)
  else if d = '|' && !flow then s.block true
  else if d = '>' && !flow then s.block false
  else if d = '\'' || d = '"' then
    s.keyToken fun c => (readQuoted d c).map fun r => (.scalar (String.ofList r.1) false, r.2)
  else if startsPlain flow d rest then s.plain
  else none

/-- The tokens up to the end of the text. Every token takes a character at least. -/
def run : Nat → Layout → Option (List Token)
  | 0, _ => none
  | fuel + 1, s => do
    let s := s.toNext (s.cursor.rest.length + 1)
    let s ← s.dropStale
    let s := s.unwind s.cursor.column
    match s.cursor.rest with
    | [] => pure (← s.atTop).reversed.reverse
    | d :: rest => run fuel (← s.token d rest)

/-- The tokens of a text that holds allowed characters only. -/
def tokens? (text : String) : Option (List Token) :=
  let cs := text.toList
  if cs.all isAllowed then run (cs.length + 1) { cursor := { rest := cs } } else none

end Layout

end SecretMount.Yaml
