import SecretMount.Text.Hex
import SecretMount.Yaml.Cursor

/-!
# YAML scalars

The four ways to write a scalar: plain, in single quotes, in double quotes, and as a block of
lines. Each reader starts at the scalar and gives its text and the place after it. White space
between the parts of a scalar over several lines is a `Gap`, which folds into a space or into line
breaks. Recursion is bounded by the number of characters that are left.
-/

namespace SecretMount.Yaml

/-- White space inside a scalar: blanks in a line, or line breaks with the first one apart. -/
structure Gap where
  blanks : List Char := []
  broken : Bool := false
  first : List Char := []
  more : List Char := []
deriving Repr

/-- What a gap counts for: blanks as they are, one break as a space, more breaks without the first
one. -/
def Gap.text (g : Gap) : List Char :=
  if g.broken then
    if g.first.head? = some '\n' then if g.more = [] then [' '] else g.more
    else g.first ++ g.more
  else g.blanks

/-- Reads a gap. A tab before the given column of a new line is refused. -/
def readGap (tabColumn : Int) : Nat → Gap → Cursor → Option (Gap × Cursor)
  | 0, _, _ => none
  | fuel + 1, g, c =>
    match c.next? with
    | none => some (g, c)
    | some d =>
      if isSpace d then
        if g.broken then
          if d = '\t' ∧ (c.column : Int) < tabColumn then none else readGap tabColumn fuel g c.skip
        else readGap tabColumn fuel { g with blanks := g.blanks ++ [d] } c.skip
      else if isBreak d then
        let (text, c) := c.takeBreak
        if g.broken then readGap tabColumn fuel { g with more := g.more ++ text } c
        else
          readGap tabColumn fuel { blanks := [], broken := true, first := text, more := g.more } c
      else some (g, c)

/-- A character that ends a plain scalar inside brackets. -/
def isFlowIndicator (c : Char) : Bool :=
  c = ',' || c = '[' || c = ']' || c = '\x7b' || c = '\x7d'

/-- The characters of a plain scalar up to a blank or its end. Inside brackets a colon before an
indicator is refused. -/
def plainWord (flow : Bool) : List Char → Option (List Char)
  | [] => some []
  | c :: rest =>
    if isSpace c || isBreak c then some []
    else if flow && c = ':' && rest.head?.any (fun d => isFlowIndicator d || d = '?') then none
    else if (c = ':' && blankFollows rest) || (flow && isFlowIndicator c) then some []
    else (plainWord flow rest).map (c :: ·)

/-- The words of a plain scalar with the gaps between them. Also says whether it ends in a gap that
breaks the line. -/
def plainWords (flow : Bool) (indent : Int) :
    Nat → List Char → Gap → Cursor → Option (List Char × Bool × Cursor)
  | 0, _, _, _ => none
  | fuel + 1, acc, gap, c =>
    if c.atDocumentIndicator || c.sees '#' then some (acc, gap.broken, c)
    else do
      let word ← plainWord flow c.rest
      let c := c.skip word.length
      let (acc, gap) := if word = [] then (acc, gap) else (acc ++ gap.text ++ word, {})
      if c.nextIs fun d => isSpace d || isBreak d then
        let (gap, c) ← readGap indent (c.rest.length + 1) {} c
        if !flow && (c.column : Int) < indent then pure (acc, gap.broken, c)
        else plainWords flow indent fuel acc gap c
      else pure (acc, gap.broken, c)

/-- A plain scalar; its lines are indented by the given column at least. -/
def readPlain (flow : Bool) (indent : Int) (c : Cursor) : Option (List Char × Bool × Cursor) :=
  plainWords flow indent (c.rest.length + 1) [] {} c

/-- A character outside the surrogates and the range of Unicode has no escape. -/
def charOfCode? (n : Nat) : Option Char :=
  if (0xD800 ≤ n ∧ n ≤ 0xDFFF) ∨ 0x10FFFF < n then none else some (Char.ofNat n)

/-- The character of an escape that has no digits. -/
def simpleEscape? (c : Char) : Option Char :=
  match c with
  | '0' => some '\x00'
  | 'a' => some '\x07'
  | 'b' => some '\x08'
  | 't' => some '\t'
  | '\t' => some '\t'
  | 'n' => some '\n'
  | 'v' => some '\x0b'
  | 'f' => some '\x0c'
  | 'r' => some '\r'
  | 'e' => some '\x1b'
  | ' ' => some ' '
  | '"' => some '"'
  | '/' => some '/'
  | '\\' => some '\\'
  | 'N' => some '\u0085'
  | '_' => some '\u00a0'
  | 'L' => some '\u2028'
  | 'P' => some '\u2029'
  | _ => none

/-- The number of digits of an escape that has them. -/
def escapeDigits? (c : Char) : Option Nat :=
  match c with
  | 'x' => some 2
  | 'u' => some 4
  | 'U' => some 8
  | _ => none

/-- The character of an escape after its backslash, and the length of the escape. -/
def readEscape : List Char → Option (Char × Nat)
  | [] => none
  | e :: rest =>
    match escapeDigits? e with
    | some n =>
      if (rest.take n).length = n then do
        let code ← Text.Hex.ofDigits? (rest.take n)
        pure (← charOfCode? code, n + 1)
      else none
    | none => (simpleEscape? e).map fun c => (c, 1)

/-- The characters of a quoted scalar up to a blank, its end, or an escaped line break, which is
consumed and reported. -/
def quotedWord (quote : Char) : Nat → Cursor → Option (List Char × Bool × Cursor)
  | 0, _ => none
  | fuel + 1, c =>
    match c.rest with
    | [] => some ([], false, c)
    | d :: rest =>
      let continueWith (e : Char) (n : Nat) :=
        (quotedWord quote fuel (c.skip n)).map fun r => (e :: r.1, r.2)
      if isSpace d || isBreak d then some ([], false, c)
      else if d = quote then
        if quote = '\'' && rest.head? = some '\'' then continueWith '\'' 2 else some ([], false, c)
      else if quote = '"' && d = '\\' then
        if rest.head?.any isBreak then some ([], true, c.skip.skipBreak)
        else do
          let (e, n) ← readEscape rest
          continueWith e (n + 1)
      else continueWith d 1

/-- The words of a quoted scalar with the gaps between them, and its closing quote. -/
def quotedWords (quote : Char) : Nat → List Char → Cursor → Option (List Char × Cursor)
  | 0, _, _ => none
  | fuel + 1, acc, c =>
    if c.atDocumentIndicator || c.rest.isEmpty then none
    else do
      let (word, escaped, c) ← quotedWord quote (c.rest.length + 1) c
      let acc := acc ++ word
      if c.sees quote then pure (acc, c.skip)
      else
        let (gap, c) ← readGap 0 (c.rest.length + 1) { broken := escaped } c
        quotedWords quote fuel (acc ++ gap.text) c

/-- A quoted scalar, from its opening quote on. -/
def readQuoted (quote : Char) (c : Cursor) : Option (List Char × Cursor) :=
  quotedWords quote (c.rest.length + 1) [] c.skip

/-- What becomes of the line breaks at the end of a block. -/
inductive Chomping where
  | strip
  | clip
  | keep
deriving Repr, DecidableEq

/-- The sign of a chomping, if there is one. -/
def readChomping (c : Cursor) : Option (Chomping × Cursor) :=
  if c.sees '+' then some (.keep, c.skip)
  else if c.sees '-' then some (.strip, c.skip)
  else none

/-- The digit of an indentation, zero if there is none; the digit zero is refused. -/
def readIncrement (c : Cursor) : Option (Nat × Cursor) :=
  match c.next? with
  | some d =>
    if d.isDigit then if d = '0' then none else some (d.toNat - 48, c.skip) else some (0, c)
  | none => some (0, c)

/-- The head of a block: chomping and indentation in either order, zero for one to be found. -/
def readBlockHead (c : Cursor) : Option (Chomping × Nat × Cursor) :=
  match readChomping c with
  | some (chomping, c) => do
    let (increment, c) ← readIncrement c
    pure (chomping, increment, c)
  | none => do
    let (increment, c) ← readIncrement c
    if increment = 0 then pure (.clip, 0, c)
    else
      match readChomping c with
      | some (chomping, c) => pure (chomping, increment, c)
      | none => pure (.clip, increment, c)

/-- The empty lines of a block and the spaces before the next line's text. With an indentation of
zero all spaces are taken, and the widest line counts. -/
def blockBreaks (indent : Nat) : Nat → Nat → List Char → Cursor → Option (List Char × Nat × Cursor)
  | 0, _, _, _ => none
  | fuel + 1, widest, breaks, c =>
    let spaces := (c.rest.takeWhile (· = ' ')).length
    let c := c.skip (if indent = 0 then spaces else min spaces (indent - c.column))
    let widest := max widest c.column
    if (indent = 0 ∨ c.column < indent) ∧ c.sees '\t' then none
    else if c.nextIs isBreak then
      let (text, c) := c.takeBreak
      blockBreaks indent fuel widest (breaks ++ text) c
    else some (breaks, widest, c)

/-- The lines of a block that stand at its indentation. The break of the line before and the empty
lines after it are still open; in a folded block one break between lines of text is a space. -/
def blockLines (literal : Bool) (indent : Nat) :
    Nat → List Char → List Char → List Char → Bool → Cursor →
    Option (List Char × List Char × List Char × Cursor)
  | 0, _, _, _, _, _ => none
  | fuel + 1, acc, last, breaks, spaced, c =>
    if c.column = indent ∧ c.rest ≠ [] then do
      let startsBlank := c.nextIs isSpace
      let joint :=
        if !literal && last.head? = some '\n' && !spaced && !startsBlank then
          if breaks = [] then [' '] else []
        else last
      let (text, c) := c.takeWhile fun d => !isBreak d
      let (last, c) := c.takeBreak
      let (after, _, c) ← blockBreaks indent (c.rest.length + 1) 0 [] c
      blockLines literal indent fuel (acc ++ joint ++ breaks ++ text) last after startsBlank c
    else some (acc, last, breaks, c)

/-- A block scalar, from its indicator on. The parent's indentation is minus one at the top. -/
def readBlock (literal : Bool) (parent : Int) (c : Cursor) : Option (List Char × Cursor) := do
  let (chomping, increment, c) ← readBlockHead c.skip
  let c ← c.skipLineEnd?
  let fuel := c.rest.length + 1
  let given := if increment = 0 then 0 else (max parent 0).toNat + increment
  let (breaks, widest, c) ← blockBreaks given fuel 0 [] c
  let indent := if given = 0 then max (max widest (parent + 1).toNat) 1 else given
  let (text, last, breaks, c) ← blockLines literal indent fuel [] [] breaks false c
  let ending := match chomping with
    | .strip => []
    | .clip => last
    | .keep => last ++ breaks
  pure (text ++ ending, c)

end SecretMount.Yaml
