import SecretMount.Json.Printer
import SecretMount.Json.Written

/-!
# Values of a JMESPath evaluation

An operand is a JSON value or a reference to an expression, which only functions can apply. Numbers
are compared as doubles; equality allows a relative error of one unit in the last place or so, the
order does not. Objects are compared with their fields in key order.
-/

namespace SecretMount.JmesPath

/-- The result of an expression. -/
inductive Operand where
  | value (v : Json)
  | reference (apply : Json → Option Operand)

/-- What `type` answers. -/
inductive Kind where
  | null
  | boolean
  | number
  | string
  | array
  | object
  | expref
deriving Repr, DecidableEq

/-- The name of a kind. -/
def Kind.name : Kind → String
  | .null => "null"
  | .boolean => "boolean"
  | .number => "number"
  | .string => "string"
  | .array => "array"
  | .object => "object"
  | .expref => "expref"

/-- The relative error that equality of doubles allows. -/
def relativeError : Float := Float.ofBits 0x3CB0000000000000

/-- Neither zero nor subnormal nor infinite nor a NaN. -/
def isNormal (x : Float) : Bool :=
  let biased := x.toBits.toNat / Nat.pow 2 52 % Nat.pow 2 11
  0 < biased && biased < 2047

/-- Equality of doubles up to a relative error. -/
def sameFloat (x y : Float) : Bool :=
  if x == y then true
  else if isNormal x && isNormal y then (x - y).abs / (x.abs + y.abs) < relativeError
  else false

mutual

/-- Equality of values, numbers by `sameFloat`. -/
def sameValue : Json → Json → Bool
  | .null, .null => true
  | .bool a, .bool b => a == b
  | .number a, .number b => sameFloat a.toFloat b.toFloat
  | .string a, .string b => a == b
  | .array a, .array b => sameItems a b
  | .object a, .object b => sameFields a b
  | _, _ => false

/-- Equality item by item. -/
def sameItems : List Json → List Json → Bool
  | [], [] => true
  | a :: as, b :: bs => sameValue a b && sameItems as bs
  | _, _ => false

/-- Equality field by field. -/
def sameFields : List (String × Json) → List (String × Json) → Bool
  | [], [] => true
  | (k, a) :: as, (l, b) :: bs => k == l && sameValue a b && sameFields as bs
  | _, _ => false

end

namespace Operand

/-- The operand null. -/
def null : Operand := .value .null

/-- The JSON value; a reference has none and shows as a text. -/
def toJson : Operand → Json
  | .value v => v
  | .reference _ => .string "<expression>"

/-- The kind of the operand. -/
def kind : Operand → Kind
  | .value .null => .null
  | .value (.bool _) => .boolean
  | .value (.number _) => .number
  | .value (.string _) => .string
  | .value (.array _) => .array
  | .value (.object _) => .object
  | .reference _ => .expref

/-- Whether the operand is null. -/
def isNull : Operand → Bool
  | .value .null => true
  | _ => false

/-- Whether the operand counts as true: all but false, null and the empty text, array and object. -/
def holds : Operand → Bool
  | .value (.bool b) => b
  | .value (.string s) => s ≠ ""
  | .value (.array items) => !items.isEmpty
  | .value (.object fields) => !fields.isEmpty
  | .value (.number _) => true
  | _ => false

/-- Equality of operands; references are equal to nothing. -/
def same : Operand → Operand → Bool
  | .value a, .value b => sameValue a b
  | _, _ => false

/-- The double, if the operand is a number. -/
def float? : Operand → Option Float
  | .value (.number n) => some n.toFloat
  | _ => none

end Operand

end SecretMount.JmesPath
