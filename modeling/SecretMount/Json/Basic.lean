import SecretMount.KeyedList

/-!
# JSON values

A number is an integer or a double; the fields of an object are the entries of a keyed list, in
ascending order of the key.
-/

namespace SecretMount

namespace Json

/-- A number: written without fraction and exponent it is an integer, if 64 bits hold it. -/
inductive Number where
  | int (n : Int)
  | float (x : Float)

end Json

/-- A JSON value. -/
inductive Json where
  | null
  | bool (b : Bool)
  | number (n : Json.Number)
  | string (s : String)
  | array (items : List Json)
  | object (fields : List (String × Json))

namespace Json

instance : Inhabited Json := ⟨.null⟩

/-- The value of an object's field, if it is an object that has it. -/
def field? (name : String) : Json → Option Json
  | .object fields => KeyedList.get? name fields
  | _ => none

/-- The text, if the value is one. -/
def string? : Json → Option String
  | .string s => some s
  | _ => none

/-- The items, if the value is an array. -/
def array? : Json → Option (List Json)
  | .array items => some items
  | _ => none

/-- The value as a double, if it is a number. -/
def Number.toFloat : Number → Float
  | .int n => Float.ofInt n
  | .float x => x

end Json

end SecretMount
