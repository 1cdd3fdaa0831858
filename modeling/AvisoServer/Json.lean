import AvisoServer.Lib.Binary64

/-!
# JSON values

`serde_json::Value`, and what the server reads of one.
-/

namespace AvisoServer

abbrev F64 := Binary64

inductive JsonNumber where
  | int (value : Int)
  | float (value : F64)
  deriving DecidableEq

inductive Json where
  | null
  | bool (value : Bool)
  | number (value : JsonNumber)
  | string (value : String)
  | array (items : List Json)
  | object (fields : List (String × Json))

namespace Json

def nat (n : Nat) : Json := .number (.int n)

/-- `Option<T>` serialises to the value or to null. -/
def option {α : Type} (f : α → Json) (value : Option α) : Json :=
  value.elim .null f

/-- `Number::from_f64`. -/
def ofF64 (value : F64) : Option Json :=
  if value.isFinite then some (.number (.float value)) else none

def isObject : Json → Bool
  | .object _ => true
  | _ => false

def asObject : Json → Option (List (String × Json))
  | .object fields => some fields
  | _ => none

def asArray : Json → Option (List Json)
  | .array items => some items
  | _ => none

def asBool : Json → Option Bool
  | .bool value => some value
  | _ => none

def asStr : Json → Option String
  | .string value => some value
  | _ => none

/-- An integer that fits; a number with a fraction or an exponent is no integer. -/
def asI64 : Json → Option Int
  | .number (.int value) =>
    if -9223372036854775808 ≤ value && value ≤ 9223372036854775807 then some value else none
  | _ => none

def asF64 : Json → Option F64
  | .number (.int value) => some (.ofInt value)
  | .number (.float value) => some value
  | _ => none

/-- `Value::get` of a key. -/
def get (value : Json) (key : String) : Option Json :=
  value.asObject.bind (List.lookup key)

end Json

end AvisoServer
