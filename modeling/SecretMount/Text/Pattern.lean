/-!
# Patterns of texts

What a part of a text looks like: characters one after the other, alternatives, and the two ends of
the text. `Pattern.occursIn` looks for such a part anywhere in a text. A line break is a character
like any other: the ends are those of the whole text.
-/

namespace SecretMount.Text

/-- What a part of a text looks like. -/
inductive Pattern where
  /-- The start of the text, without a character of it. -/
  | start
  /-- The end of the text, without a character of it. -/
  | stop
  | char (c : Char)
  | seq (first second : Pattern)
  | either (left right : Pattern)
deriving Repr, DecidableEq

namespace Pattern

/-- A place in a text: whether it is the first one, and the characters after it. -/
structure Place where
  isFirst : Bool
  rest : List Char
deriving Repr, DecidableEq

/-- The places where a part that begins at the place may end. -/
def ends : Pattern → Place → List Place
  | .start, place => if place.isFirst then [place] else []
  | .stop, place => if place.rest = [] then [place] else []
  | .char c, place =>
    match place.rest with
    | [] => []
    | d :: rest => if c = d then [⟨false, rest⟩] else []
  | .seq first second, place => (ends first place).flatMap (ends second)
  | .either left right, place => ends left place ++ ends right place

/-- Whether a part with the pattern begins at the place. -/
def beginsAt (p : Pattern) (place : Place) : Bool :=
  !(p.ends place).isEmpty

/-- Whether a part with the pattern begins at a place or after it. -/
def occursFrom (p : Pattern) (isFirst : Bool) : List Char → Bool
  | [] => p.beginsAt ⟨isFirst, []⟩
  | c :: rest => p.beginsAt ⟨isFirst, c :: rest⟩ || occursFrom p false rest

/-- Whether some part of the text has the pattern. -/
def occursIn (p : Pattern) (s : List Char) : Bool :=
  p.occursFrom true s

end Pattern

end SecretMount.Text
