import SecretMount.Json.Written

/-!
# Tokens of a JMESPath expression

`Token.ofText?` cuts an expression into tokens. Quoted identifiers and literals are JSON texts, so
that a malformed one is refused here; a raw text knows one escape, that of its own quote. A `[`
joins a following `]` or `?` into one token.
-/

namespace SecretMount.JmesPath

/-- A token; identifiers, numbers and literals carry their value. -/
inductive Token where
  | identifier (name : String)
  | quotedIdentifier (name : String)
  | number (n : Int)
  | literal (v : Json)
  | dot
  | star
  | flatten
  | filter
  | leftBracket
  | rightBracket
  | leftBrace
  | rightBrace
  | leftParen
  | rightParen
  | comma
  | colon
  | atSign
  | ampersand
  | and
  | or
  | pipe
  | not
  | equal
  | unequal
  | less
  | lessEqual
  | greater
  | greaterEqual

namespace Token

/-- A character that can start an identifier. -/
def isIdentifierStart (c : Char) : Bool :=
  c.isAlpha || c = '_'

/-- A character inside an identifier. -/
def isIdentifierPart (c : Char) : Bool :=
  c.isAlphanum || c = '_'

/-- The text up to the closing character, which is consumed. A backslash keeps the character after
it, and both stay in the text. -/
def delimited (close : Char) : List Char → Option (List Char × List Char)
  | [] => none
  | c :: rest =>
    if c = close then some ([], rest)
    else if c = '\\' then
      match rest with
      | [] => none
      | e :: rest => (delimited close rest).map fun r => ('\\' :: e :: r.1, r.2)
    else (delimited close rest).map fun r => (c :: r.1, r.2)

/-- The text with the escape removed from every escaped quote; other backslashes stay. -/
def unescapeQuote (quote : Char) : List Char → List Char
  | [] => []
  | '\\' :: c :: rest =>
    if c = quote then quote :: unescapeQuote quote rest
    else '\\' :: unescapeQuote quote (c :: rest)
  | c :: rest => c :: unescapeQuote quote rest

/-- An identifier in double quotes, a JSON text. -/
def readQuotedIdentifier (cs : List Char) : Option (Token × List Char) := do
  let (body, rest) ← delimited '"' cs
  match Json.read? (String.ofList ('"' :: body ++ ['"'])) with
  | some (.string name) => pure (.quotedIdentifier name, rest)
  | _ => none

/-- A raw text in single quotes. -/
def readRaw (cs : List Char) : Option (Token × List Char) := do
  let (body, rest) ← delimited '\'' cs
  pure (.literal (.string (String.ofList (unescapeQuote '\'' body))), rest)

/-- A JSON value between backticks. -/
def readLiteral (cs : List Char) : Option (Token × List Char) := do
  let (body, rest) ← delimited '\x60' cs
  let v ← Json.read? (String.ofList (unescapeQuote '\x60' body))
  pure (.literal v, rest)

/-- The greatest number that an index or slice can hold. -/
def greatestNumber : Nat := 0x7FFFFFFF

/-- A number of digits, refused when it is too great. -/
def readNumber (negative : Bool) (cs : List Char) : Option (Token × List Char) :=
  let (digits, rest) := Json.spanDigits cs
  let magnitude := Nat.ofDigitChars 10 digits 0
  if greatestNumber < magnitude then none
  else some (.number (if negative then -magnitude else magnitude), rest)

/-- The first token of a text that does not start with white space. -/
def next? : List Char → Option (Token × List Char)
  | '.' :: rest => some (.dot, rest)
  | '*' :: rest => some (.star, rest)
  | '[' :: ']' :: rest => some (.flatten, rest)
  | '[' :: '?' :: rest => some (.filter, rest)
  | '[' :: rest => some (.leftBracket, rest)
  | ']' :: rest => some (.rightBracket, rest)
  | '\x7b' :: rest => some (.leftBrace, rest)
  | '\x7d' :: rest => some (.rightBrace, rest)
  | '(' :: rest => some (.leftParen, rest)
  | ')' :: rest => some (.rightParen, rest)
  | ',' :: rest => some (.comma, rest)
  | ':' :: rest => some (.colon, rest)
  | '@' :: rest => some (.atSign, rest)
  | '&' :: '&' :: rest => some (.and, rest)
  | '&' :: rest => some (.ampersand, rest)
  | '|' :: '|' :: rest => some (.or, rest)
  | '|' :: rest => some (.pipe, rest)
  | '!' :: '=' :: rest => some (.unequal, rest)
  | '!' :: rest => some (.not, rest)
  | '=' :: '=' :: rest => some (.equal, rest)
  | '<' :: '=' :: rest => some (.lessEqual, rest)
  | '<' :: rest => some (.less, rest)
  | '>' :: '=' :: rest => some (.greaterEqual, rest)
  | '>' :: rest => some (.greater, rest)
  | '"' :: rest => readQuotedIdentifier rest
  | '\'' :: rest => readRaw rest
  | '\x60' :: rest => readLiteral rest
  | '-' :: c :: rest => if c.isDigit ∧ c ≠ '0' then readNumber true (c :: rest) else none
  | c :: rest =>
    if isIdentifierStart c then
      some (.identifier (String.ofList (c :: rest.takeWhile isIdentifierPart)),
        rest.dropWhile isIdentifierPart)
    else if c.isDigit then readNumber false (c :: rest)
    else none
  | [] => none

/-- The tokens of a text, with a bound on their number. -/
def readAll : Nat → List Char → Option (List Token)
  | 0, cs => if Json.skipBlank cs = [] then some [] else none
  | fuel + 1, cs =>
    match Json.skipBlank cs with
    | [] => some []
    | cs => do
      let (token, rest) ← next? cs
      let tokens ← readAll fuel rest
      pure (token :: tokens)

/-- The tokens of an expression. Every token takes a character at least. -/
def ofText? (s : String) : Option (List Token) :=
  readAll s.toList.length s.toList

/-- How strongly a token binds what stands before it to what follows. -/
def bindingPower : Token → Nat
  | .pipe => 1
  | .or => 2
  | .and => 3
  | .equal | .unequal | .less | .lessEqual | .greater | .greaterEqual => 5
  | .flatten => 9
  | .star => 20
  | .filter => 21
  | .dot => 40
  | .not => 45
  | .leftBrace => 50
  | .leftBracket => 55
  | .leftParen => 60
  | _ => 0

end Token

end SecretMount.JmesPath
