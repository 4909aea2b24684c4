import SecretMount.JmesPath.Operand

/-!
# The functions of JMESPath

Each function checks the number and the kinds of its arguments; a violation is a run-time error,
here the absence of a result. Functions of numbers give doubles.
-/

namespace SecretMount.JmesPath

/-- A function. -/
inductive Function where
  | abs
  | avg
  | ceil
  | contains
  | endsWith
  | floor
  | join
  | keys
  | length
  | map
  | max
  | maxBy
  | merge
  | min
  | minBy
  | notNull
  | reverse
  | sort
  | sortBy
  | startsWith
  | sum
  | toArray
  | toNumber
  | toString
  | type
  | values
deriving Repr, DecidableEq

namespace Function

/-- The function of a name. -/
def ofName? (name : String) : Option Function :=
  match name with
  | "abs" => some .abs
  | "avg" => some .avg
  | "ceil" => some .ceil
  | "contains" => some .contains
  | "ends_with" => some .endsWith
  | "floor" => some .floor
  | "join" => some .join
  | "keys" => some .keys
  | "length" => some .length
  | "map" => some .map
  | "max" => some .max
  | "max_by" => some .maxBy
  | "merge" => some .merge
  | "min" => some .min
  | "min_by" => some .minBy
  | "not_null" => some .notNull
  | "reverse" => some .reverse
  | "sort" => some .sort
  | "sort_by" => some .sortBy
  | "starts_with" => some .startsWith
  | "sum" => some .sum
  | "to_array" => some .toArray
  | "to_number" => some .toNumber
  | "to_string" => some .toString
  | "type" => some .type
  | "values" => some .values
  | _ => none

/-- A double as a result; only finite ones are numbers. -/
def ofFloat (x : Float) : Option Operand :=
  if x.isFinite then some (.value (.number (.float x))) else none

/-- A text as a result. -/
def ofText (s : String) : Operand := .value (.string s)

/-- The numbers of an array that holds nothing else. -/
def numbers? (items : List Json) : Option (List Float) :=
  items.mapM fun
    | .number n => some n.toFloat
    | _ => none

/-- The texts of an array that holds nothing else. -/
def texts? (items : List Json) : Option (List String) :=
  items.mapM Json.string?

/-- What values are ordered by: numbers among themselves and texts among themselves. -/
inductive Key where
  | number (x : Float)
  | text (s : String)

/-- The key of an operand, if it is a number or a text. -/
def Key.of? : Operand → Option Key
  | .value (.number n) => some (.number n.toFloat)
  | .value (.string s) => some (.text s)
  | _ => none

/-- Whether two keys are both numbers or both texts. -/
def Key.comparable : Key → Key → Bool
  | .number _, .number _ => true
  | .text _, .text _ => true
  | _, _ => false

/-- The strict order of comparable keys; texts by code point. -/
def Key.less : Key → Key → Bool
  | .number x, .number y => x < y
  | .text s, .text t => s < t
  | _, _ => false

/-- The items with their keys, if all keys are comparable with the first. -/
def keyed? (keyOf : Json → Option Operand) (items : List Json) : Option (List (Key × Json)) := do
  let pairs ← items.mapM fun v => do pure ((← Key.of? (← keyOf v)), v)
  match pairs with
  | [] => pure []
  | first :: _ => if pairs.all fun p => first.1.comparable p.1 then pure pairs else none

/-- The items of an array of numbers or of texts, each its own key. -/
def ordered? (items : List Json) : Option (List (Key × Json)) :=
  keyed? (fun v => some (.value v)) items

/-- The items in ascending order of their keys; items of equal keys keep their order. -/
def sorted (pairs : List (Key × Json)) : List Json :=
  (pairs.mergeSort fun a b => !b.1.less a.1).map Prod.snd

/-- The pair that stays when later pairs replace it where the test says so; null for none. -/
def select (replaces : Key → Key → Bool) : List (Key × Json) → Operand
  | [] => .null
  | first :: rest =>
    .value (rest.foldl (fun best p => if replaces p.1 best.1 then p else best) first).2

/-- Whether the first text stands somewhere in the second. -/
def occursIn (part : List Char) : List Char → Bool
  | [] => part.isEmpty
  | c :: rest => part.isPrefixOf (c :: rest) || occursIn part rest

/-- The texts with the glue between them. -/
def glue (between : String) : List String → String
  | [] => ""
  | [s] => s
  | s :: rest => s ++ between ++ glue between rest

/-- The number that a text denotes, or whatever JSON value it is; null if it is none. -/
def numberOfText (s : String) : Operand :=
  match Json.read? s with
  | some v => .value v
  | none => .null

/-- The fields of all objects, later ones replacing earlier ones. -/
def mergeAll : List Operand → List (String × Json) → Option (List (String × Json))
  | [], acc => some acc
  | .value (.object fields) :: rest, acc => mergeAll rest (KeyedList.insertAll fields acc)
  | _ :: _, _ => none

/-- The result of a function. -/
def apply : Function → List Operand → Option Operand
  | .abs, [.value (.number n)] => ofFloat n.toFloat.abs
  | .ceil, [.value (.number n)] => ofFloat n.toFloat.ceil
  | .floor, [.value (.number n)] => ofFloat n.toFloat.floor
  | .avg, [.value (.array items)] => do
    let xs ← numbers? items
    ofFloat (xs.foldl (· + ·) 0 / Float.ofNat xs.length)
  | .sum, [.value (.array items)] => do
    let xs ← numbers? items
    ofFloat (xs.foldl (· + ·) 0)
  | .contains, [.value (.array items), needle] =>
    some (.value (.bool (items.any fun v => Operand.same (.value v) needle)))
  | .contains, [.value (.string s), .value (.string part)] =>
    some (.value (.bool (occursIn part.toList s.toList)))
  | .contains, [.value (.string _), _] => some (.value (.bool false))
  | .startsWith, [.value (.string s), .value (.string t)] =>
    some (.value (.bool (t.toList.isPrefixOf s.toList)))
  | .endsWith, [.value (.string s), .value (.string t)] =>
    some (.value (.bool (t.toList.isSuffixOf s.toList)))
  | .join, [.value (.string between), .value (.array items)] => do
    pure (ofText (glue between (← texts? items)))
  | .keys, [.value (.object fields)] =>
    some (.value (.array (fields.map fun f => .string f.1)))
  | .values, [.value (.object fields)] => some (.value (.array (fields.map Prod.snd)))
  | .length, [.value (.string s)] => some (.value (.number (.int s.length)))
  | .length, [.value (.array items)] => some (.value (.number (.int items.length)))
  | .length, [.value (.object fields)] => some (.value (.number (.int fields.length)))
  | .map, [.reference f, .value (.array items)] => do
    let results ← items.mapM f
    pure (.value (.array (results.map Operand.toJson)))
  | .max, [.value (.array items)] => do
    pure (select (fun a b => !a.less b) (← ordered? items))
  | .min, [.value (.array items)] => do
    pure (select (fun a b => a.less b) (← ordered? items))
  | .maxBy, [.value (.array items), .reference f] => do
    pure (select (fun a b => b.less a) (← keyed? f items))
  | .minBy, [.value (.array items), .reference f] => do
    pure (select (fun a b => a.less b) (← keyed? f items))
  | .sort, [.value (.array items)] => do
    pure (.value (.array (sorted (← ordered? items))))
  | .sortBy, [.value (.array items), .reference f] => do
    pure (.value (.array (sorted (← keyed? f items))))
  | .merge, first :: rest => do pure (.value (.object (← mergeAll (first :: rest) [])))
  | .notNull, first :: rest =>
    some (((first :: rest).find? fun v => !v.isNull).getD .null)
  | .reverse, [.value (.array items)] => some (.value (.array items.reverse))
  | .reverse, [.value (.string s)] => some (ofText (String.ofList s.toList.reverse))
  | .toArray, [.value (.array items)] => some (.value (.array items))
  | .toArray, [v] => some (.value (.array [v.toJson]))
  | .toNumber, [.value (.number n)] => some (.value (.number n))
  | .toNumber, [.value (.string s)] => some (numberOfText s)
  | .toNumber, [_] => some .null
  | .toString, [.value (.string s)] => some (ofText s)
  | .toString, [.value v] => some (ofText v.text)
  | .type, [v] => some (ofText v.kind.name)
  | _, _ => none

end Function

end SecretMount.JmesPath
