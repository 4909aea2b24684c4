import SecretMount.JmesPath.Expr
import SecretMount.JmesPath.Function

/-!
# Evaluation of JMESPath expressions

`Expr.eval?` gives the result of an expression at a current value, or nothing after a run-time
error: an unknown function, arguments that do not fit it, or a slice with step zero. What does not
match the value gives null, which a projection leaves out.
-/

namespace SecretMount.JmesPath

/-- An item by its place, counted from the end if negative. -/
def itemAt (i : Int) (items : List Json) : Json :=
  if 0 ≤ i then items.getD i.toNat .null
  else if i.natAbs ≤ items.length then items.getD (items.length - i.natAbs) .null
  else .null

namespace Slice

/-- An end of a slice brought into the range that its direction can visit. -/
def clamp (len step bound : Int) : Int :=
  if bound < 0 then
    if 0 ≤ bound + len then bound + len else if step < 0 then -1 else 0
  else if bound < len then bound
  else if step < 0 then len - 1 else len

/-- The places from `i` on in steps until `stop` is reached, with a bound on their number. -/
def places (step stop : Int) : Nat → Int → List Int
  | 0, _ => []
  | fuel + 1, i =>
    if (0 < step ∧ i < stop) ∨ (step < 0 ∧ stop < i) then i :: places step stop fuel (i + step)
    else []

/-- The items of a slice with a step other than zero. -/
def take (start stop : Option Int) (step : Int) (items : List Json) : List Json :=
  let len : Int := items.length
  let first := match start with
    | some i => clamp len step i
    | none => if step < 0 then len - 1 else 0
  let last := match stop with
    | some i => clamp len step i
    | none => if step < 0 then -1 else len
  (places step last items.length first).map fun i => items.getD i.toNat .null

end Slice

/-- The items of the items; an item that is no array stays. -/
def flattenItems : List Json → List Json
  | [] => []
  | .array inner :: rest => inner ++ flattenItems rest
  | v :: rest => v :: flattenItems rest

/-- The results at all items that are not null. -/
def collect (f : Json → Option Operand) : List Json → Option (List Json)
  | [] => some []
  | v :: rest => do
    let result ← f v
    let results ← collect f rest
    pure (if result.isNull then results else result.toJson :: results)

/-- The answer of a comparison; only numbers are ordered. -/
def Comparator.apply (c : Comparator) (left right : Operand) : Operand :=
  let ordered := fun (test : Float → Float → Bool) =>
    match left.float?, right.float? with
    | some x, some y => Operand.value (.bool (test x y))
    | _, _ => .null
  match c with
  | .equal => .value (.bool (left.same right))
  | .unequal => .value (.bool (!left.same right))
  | .less => ordered fun x y => x < y
  | .lessEqual => ordered fun x y => x ≤ y
  | .greater => ordered fun x y => y < x
  | .greaterEqual => ordered fun x y => y ≤ x

namespace Expr

mutual

/-- The result of an expression at a current value. -/
def eval? : Expr → Operand → Option Operand
  | .current, data => some data
  | .field name, data =>
    match data with
    | .value v => some (.value ((v.field? name).getD .null))
    | .reference _ => some .null
  | .literal v, _ => some (.value v)
  | .index i, data =>
    match data with
    | .value (.array items) => some (.value (itemAt i items))
    | _ => some .null
  | .slice start stop step, data =>
    if step = 0 then none
    else
      match data with
      | .value (.array items) => some (.value (.array (Slice.take start stop step items)))
      | _ => some .null
  | .values source, data => do
    match ← eval? source data with
    | .value (.object fields) => pure (.value (.array (fields.map Prod.snd)))
    | _ => pure .null
  | .flatten source, data => do
    match ← eval? source data with
    | .value (.array items) => pure (.value (.array (flattenItems items)))
    | _ => pure .null
  | .condition test body, data => do
    if (← eval? test data).holds then eval? body data else pure .null
  | .projection source body, data => do
    match ← eval? source data with
    | .value (.array items) =>
      pure (.value (.array (← collect (fun v => eval? body (.value v)) items)))
    | _ => pure .null
  | .chain left right, data => do
    let result ← eval? left data
    eval? right result
  | .list items, data =>
    if data.isNull then some .null
    else do
      let results ← evalItems? items data
      pure (.value (.array (results.map Operand.toJson)))
  | .hash entries, data =>
    if data.isNull then some .null
    else do
      let results ← evalEntries? entries data
      pure (.value (.object (KeyedList.ofList results)))
  | .or left right, data => do
    let result ← eval? left data
    if result.holds then pure result else eval? right data
  | .and left right, data => do
    let result ← eval? left data
    if result.holds then eval? right data else pure result
  | .not body, data => do
    pure (.value (.bool (!(← eval? body data).holds)))
  | .compare c left right, data => do
    let l ← eval? left data
    let r ← eval? right data
    pure (c.apply l r)
  | .call name args, data => do
    let operands ← evalItems? args data
    (← Function.ofName? name).apply operands
  | .reference body, _ => some (.reference fun v => eval? body (.value v))

/-- The results of several expressions, in order. -/
def evalItems? : List Expr → Operand → Option (List Operand)
  | [], _ => some []
  | e :: rest, data => do
    let result ← eval? e data
    let results ← evalItems? rest data
    pure (result :: results)

/-- The results of the entries of an object, in order. -/
def evalEntries? : List (String × Expr) → Operand → Option (List (String × Json))
  | [], _ => some []
  | (key, e) :: rest, data => do
    let result ← eval? e data
    let results ← evalEntries? rest data
    pure ((key, result.toJson) :: results)

end

/-- The result of an expression at a JSON value. -/
def search? (e : Expr) (v : Json) : Option Operand :=
  e.eval? (.value v)

end Expr

end SecretMount.JmesPath
