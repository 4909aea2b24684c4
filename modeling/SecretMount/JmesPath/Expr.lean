import SecretMount.JmesPath.Token

/-!
# JMESPath expressions

The tree of an expression and its grammar, a precedence grammar over tokens. A projection carries
the expression that is applied to each of its items; it ends before a token that binds less than
`projectionStop`. `Expr.compile?` reads a whole expression.
-/

namespace SecretMount.JmesPath

/-- A comparison. -/
inductive Comparator where
  | equal
  | unequal
  | less
  | lessEqual
  | greater
  | greaterEqual
deriving Repr, DecidableEq

/-- An expression, which maps a current value to a result. -/
inductive Expr where
  | current
  | field (name : String)
  | literal (v : Json)
  | index (i : Int)
  | slice (start stop : Option Int) (step : Int)
  /-- The values of an object. -/
  | values (source : Expr)
  /-- The items of the items. -/
  | flatten (source : Expr)
  /-- The body where the test holds, else null. -/
  | condition (test body : Expr)
  /-- The body at each item of the source. -/
  | projection (source body : Expr)
  /-- The right expression at the result of the left one. -/
  | chain (left right : Expr)
  | list (items : List Expr)
  | hash (entries : List (String × Expr))
  | or (left right : Expr)
  | and (left right : Expr)
  | not (body : Expr)
  | compare (comparator : Comparator) (left right : Expr)
  | call (name : String) (args : List Expr)
  /-- The expression itself, as an argument of a function. -/
  | reference (body : Expr)

namespace Expr

/-- A projection goes on over tokens that bind at least this much. -/
def projectionStop : Nat := 10

/-- The binding power at the start of the token list; its end binds nothing. -/
def powerAt : List Token → Nat
  | [] => 0
  | t :: _ => t.bindingPower

/-- The comparison that a token stands for. -/
def comparator? : Token → Option Comparator
  | .equal => some .equal
  | .unequal => some .unequal
  | .less => some .less
  | .lessEqual => some .lessEqual
  | .greater => some .greater
  | .greaterEqual => some .greaterEqual
  | _ => none

/-- The numbers of an index or slice, up to three between colons, up to the closing bracket. A
number is followed by a colon or the bracket. -/
def readParts : List Token → List (Option Int) → Option Int →
    Option (List (Option Int) × List Token)
  | .number n :: rest, parts, none =>
    match rest with
    | .colon :: _ | .rightBracket :: _ => readParts rest parts (some n)
    | _ => none
  | .rightBracket :: rest, parts, part => some (parts ++ [part], rest)
  | .colon :: rest, parts, part =>
    if parts.length < 2 then
      match rest with
      | .number _ :: _ | .colon :: _ | .rightBracket :: _ => readParts rest (parts ++ [part]) none
      | _ => none
    else none
  | _, _, _ => none

mutual

/-- An expression that extends over all tokens binding more than `power`. Every call takes one
unit of fuel. -/
def readExpr : Nat → Nat → List Token → Option (Expr × List Token)
  | 0, _, _ => none
  | fuel + 1, power, tokens => do
    let (left, rest) ← readFirst fuel tokens
    readMore fuel power left rest

/-- What follows an expression, as long as it binds more than `power`. -/
def readMore : Nat → Nat → Expr → List Token → Option (Expr × List Token)
  | 0, _, _, _ => none
  | fuel + 1, power, left, tokens =>
    if power < powerAt tokens then do
      let (left, rest) ← readNext fuel left tokens
      readMore fuel power left rest
    else some (left, tokens)

/-- An expression by its first token. -/
def readFirst : Nat → List Token → Option (Expr × List Token)
  | 0, _ => none
  | fuel + 1, tokens =>
    match tokens with
    | .atSign :: rest => some (.current, rest)
    | .identifier name :: rest => some (.field name, rest)
    | .quotedIdentifier name :: rest =>
      match rest with
      | .leftParen :: _ => none
      | _ => some (.field name, rest)
    | .star :: rest => readValues fuel .current rest
    | .literal v :: rest => some (.literal v, rest)
    | .leftBracket :: rest =>
      match rest with
      | .number _ :: _ | .colon :: _ => readIndex fuel rest
      | .star :: .rightBracket :: rest => readItems fuel .current rest
      | _ => (readList fuel .rightBracket rest).map fun r => (.list r.1, r.2)
    | .flatten :: rest => readFlatten fuel .current rest
    | .leftBrace :: rest => (readEntries fuel rest).map fun r => (.hash r.1, r.2)
    | .ampersand :: rest =>
      (readExpr fuel Token.ampersand.bindingPower rest).map fun r => (.reference r.1, r.2)
    | .not :: rest => (readExpr fuel Token.not.bindingPower rest).map fun r => (.not r.1, r.2)
    | .filter :: rest => readFilter fuel .current rest
    | .leftParen :: rest =>
      match readExpr fuel 0 rest with
      | some (e, .rightParen :: rest) => some (e, rest)
      | _ => none
    | _ => none

/-- The extension of an expression by its next token. -/
def readNext : Nat → Expr → List Token → Option (Expr × List Token)
  | 0, _, _ => none
  | fuel + 1, left, tokens =>
    match tokens with
    | .dot :: .star :: rest => readValues fuel left rest
    | .dot :: rest =>
      (readAfterDot fuel Token.dot.bindingPower rest).map fun r => (.chain left r.1, r.2)
    | .leftBracket :: rest =>
      match rest with
      | .number _ :: _ | .colon :: _ => (readIndex fuel rest).map fun r => (.chain left r.1, r.2)
      | .star :: .rightBracket :: rest => readItems fuel left rest
      | _ => none
    | .or :: rest => (readExpr fuel Token.or.bindingPower rest).map fun r => (.or left r.1, r.2)
    | .and :: rest => (readExpr fuel Token.and.bindingPower rest).map fun r => (.and left r.1, r.2)
    | .pipe :: rest =>
      (readExpr fuel Token.pipe.bindingPower rest).map fun r => (.chain left r.1, r.2)
    | .leftParen :: rest =>
      match left with
      | .field name => (readList fuel .rightParen rest).map fun r => (.call name r.1, r.2)
      | _ => none
    | .flatten :: rest => readFlatten fuel left rest
    | .filter :: rest => readFilter fuel left rest
    | token :: rest =>
      match comparator? token with
      | some c =>
        (readExpr fuel Token.equal.bindingPower rest).map fun r => (.compare c left r.1, r.2)
      | none => none
    | [] => none

/-- What may stand after a dot. -/
def readAfterDot : Nat → Nat → List Token → Option (Expr × List Token)
  | 0, _, _ => none
  | fuel + 1, power, tokens =>
    match tokens with
    | .leftBracket :: rest => (readList fuel .rightBracket rest).map fun r => (.list r.1, r.2)
    | .identifier _ :: _ | .quotedIdentifier _ :: _ | .star :: _ | .leftBrace :: _
    | .ampersand :: _ => readExpr fuel power tokens
    | _ => none

/-- The expression that a projection applies to its items. -/
def readBody : Nat → Nat → List Token → Option (Expr × List Token)
  | 0, _, _ => none
  | fuel + 1, power, tokens =>
    match tokens with
    | .dot :: rest => readAfterDot fuel power rest
    | .leftBracket :: _ | .filter :: _ => readExpr fuel power tokens
    | _ => if powerAt tokens < projectionStop then some (.current, tokens) else none

/-- A projection over the values of an object, after its star. -/
def readValues : Nat → Expr → List Token → Option (Expr × List Token)
  | 0, _, _ => none
  | fuel + 1, left, tokens =>
    (readBody fuel Token.star.bindingPower tokens).map
      fun r => (.projection (.values left) r.1, r.2)

/-- A projection over the items of an array, after its bracket. -/
def readItems : Nat → Expr → List Token → Option (Expr × List Token)
  | 0, _, _ => none
  | fuel + 1, left, tokens =>
    (readBody fuel Token.star.bindingPower tokens).map fun r => (.projection left r.1, r.2)

/-- A projection over the flattened items, after its brackets. -/
def readFlatten : Nat → Expr → List Token → Option (Expr × List Token)
  | 0, _, _ => none
  | fuel + 1, left, tokens =>
    (readBody fuel Token.flatten.bindingPower tokens).map
      fun r => (.projection (.flatten left) r.1, r.2)

/-- A projection over the items that pass a test, after its opening bracket. -/
def readFilter : Nat → Expr → List Token → Option (Expr × List Token)
  | 0, _, _ => none
  | fuel + 1, left, tokens =>
    match readExpr fuel 0 tokens with
    | some (test, .rightBracket :: rest) =>
      (readBody fuel Token.filter.bindingPower rest).map
        fun r => (.projection left (.condition test r.1), r.2)
    | _ => none

/-- An index, or a slice with the projection over it, after the opening bracket. -/
def readIndex : Nat → List Token → Option (Expr × List Token)
  | 0, _ => none
  | fuel + 1, tokens =>
    match readParts tokens [] none with
    | some ([some i], rest) => some (.index i, rest)
    | some (start :: stop :: more, rest) =>
      let step := (more.head?.getD none).getD 1
      (readBody fuel Token.star.bindingPower rest).map
        fun r => (.projection (.slice start stop step) r.1, r.2)
    | _ => none

/-- Expressions up to the closing token; commas between them may be left out. -/
def readList : Nat → Token → List Token → Option (List Expr × List Token)
  | 0, _, _ => none
  | fuel + 1, close, tokens =>
    let closes := fun (t : Option Token) =>
      match close, t with
      | .rightBracket, some .rightBracket => true
      | .rightParen, some .rightParen => true
      | _, _ => false
    if closes tokens.head? then some ([], tokens.tail)
    else do
      let (item, rest) ← readExpr fuel 0 tokens
      let rest ← match rest with
        | .comma :: rest => if closes rest.head? then none else some rest
        | _ => some rest
      let (items, rest) ← readList fuel close rest
      pure (item :: items, rest)

/-- Keys with their expressions up to the closing brace, at least one. -/
def readEntries : Nat → List Token → Option (List (String × Expr) × List Token)
  | 0, _ => none
  | fuel + 1, tokens =>
    match tokens with
    | .identifier key :: .colon :: rest | .quotedIdentifier key :: .colon :: rest => do
      let (item, rest) ← readExpr fuel 0 rest
      match rest with
      | .rightBrace :: rest => pure ([(key, item)], rest)
      | .comma :: rest =>
        let (entries, rest) ← readEntries fuel rest
        pure ((key, item) :: entries, rest)
      | _ => none
    | _ => none

end

/-- The expression of a text. No more than a few calls stand between one token and the next. -/
def compile? (s : String) : Option Expr := do
  let tokens ← Token.ofText? s
  match readExpr (8 * tokens.length + 8) 0 tokens with
  | some (e, []) => some e
  | _ => none

end Expr

end SecretMount.JmesPath
