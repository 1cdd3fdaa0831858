import AvisoServer.Validators.Handlers

/-!
# Constraints

A constraint object holds one operator and its operand. Numeric fields have comparisons and ranges;
enumerations have equality and membership.
-/

namespace AvisoServer

/-! ## 1. Matching -/

inductive NumericConstraint (α : Type) where
  | eq (value : α)
  | isIn (values : List α)
  | gt (value : α)
  | gte (value : α)
  | lt (value : α)
  | lte (value : α)
  | between (min max : α)
  deriving DecidableEq

/-- What the constraints of one numeric type are read and compared with. -/
structure NumericType (α : Type) where
  eq : α → α → Bool
  lt : α → α → Bool
  le : α → α → Bool
  display : α → String
  /-- The operand of an operator of a field. -/
  parseOperand : String → String → Json → Result α
  /-- The values, in the text of an error. -/
  plural : String

def operatorError {α : Type} (fieldName operator text : String) : Result α :=
  bail ("Field '" ++ fieldName ++ "' operator '" ++ operator ++ "' " ++ text)

def parseIntOperand (fieldName operator : String) (value : Json) : Result Int :=
  match value.asI64 with
  | some parsed => .ok parsed
  | none => operatorError fieldName operator "expects integer value"

def parseFloatOperand (fieldName operator : String) (value : Json) : Result F64 :=
  match value.asF64 with
  | none => operatorError fieldName operator "expects numeric value"
  | some parsed =>
    if parsed.isFinite then .ok parsed
    else operatorError fieldName operator "expects finite numeric value"

def intType : NumericType Int where
  eq a b := a = b
  lt a b := a < b
  le a b := a ≤ b
  display n := toString n
  parseOperand := parseIntOperand
  plural := "integers"

def floatType : NumericType F64 where
  eq := Binary64.eq
  lt := Binary64.lt
  le := Binary64.le
  display := Binary64.display
  parseOperand := parseFloatOperand
  plural := "numbers"

section Numeric

variable {α : Type} (type : NumericType α)

def matchesNumeric (constraint : NumericConstraint α) (value : α) : Bool :=
  match constraint with
  | .eq v => type.eq value v
  | .isIn values => values.any fun v => type.eq v value
  | .gt v => type.lt v value
  | .gte v => type.le v value
  | .lt v => type.lt value v
  | .lte v => type.le value v
  | .between min max => type.le min value && type.le value max

/-! ## 2. Parsing -/

def parseArrayOperand (fieldName operator : String) (value : Json) : Result (List α) :=
  match value.asArray with
  | none => operatorError fieldName operator ("expects array of " ++ type.plural)
  | some [] => operatorError fieldName operator "must contain at least one value"
  | some values => values.mapM (type.parseOperand fieldName operator)

def parseBetweenOperand (fieldName operator : String) (value : Json) : Result (α × α) :=
  match value.asArray with
  | none => operatorError fieldName operator "expects [min,max]"
  | some [first, second] => do
    let min ← type.parseOperand fieldName operator first
    let max ← type.parseOperand fieldName operator second
    if type.lt max min then operatorError fieldName operator "expects min <= max"
    else .ok (min, max)
  | some _ => operatorError fieldName operator "expects exactly two values [min,max]"

def validateOperand (fieldName : String) (min max value : α) : Result Unit :=
  if type.lt value min || type.lt max value then
    bail ("Field '" ++ fieldName ++ "' constraint value " ++ type.display value ++
      " is outside allowed range [" ++ type.display min ++ ", " ++ type.display max ++ "]")
  else .ok ()

def NumericConstraint.operands : NumericConstraint α → List α
  | .eq v => [v]
  | .isIn values => values
  | .gt v => [v]
  | .gte v => [v]
  | .lt v => [v]
  | .lte v => [v]
  | .between min max => [min, max]

def validateConstraintAgainstRange (fieldName : String) (constraint : NumericConstraint α)
    (range : Option (α × α)) : Result Unit :=
  match range with
  | none => .ok ()
  | some (min, max) => constraint.operands.forM (validateOperand type fieldName min max)

/-- The operator and operand of a constraint object. -/
def singleOperator (fieldName : String) (value : Json) : Result (String × Json) :=
  match value.asObject with
  | none =>
    bail ("Field '" ++ fieldName ++ "' constraint must be an object (for example \x7b\"gte\": 4\x7d)")
  | some [entry] => .ok entry
  | some _ => bail ("Field '" ++ fieldName ++ "' constraint must contain exactly one operator")

def parseNumericOperator (fieldName operator : String) (operand : Json) :
    Result (NumericConstraint α) :=
  if operator = "eq" then .eq <$> type.parseOperand fieldName operator operand
  else if operator = "in" then .isIn <$> parseArrayOperand type fieldName operator operand
  else if operator = "gt" then .gt <$> type.parseOperand fieldName operator operand
  else if operator = "gte" then .gte <$> type.parseOperand fieldName operator operand
  else if operator = "lt" then .lt <$> type.parseOperand fieldName operator operand
  else if operator = "lte" then .lte <$> type.parseOperand fieldName operator operand
  else if operator = "between" then
    (fun bounds => .between bounds.1 bounds.2) <$>
      parseBetweenOperand type fieldName operator operand
  else
    bail ("Field '" ++ fieldName ++ "' has invalid operator '" ++ operator ++
      "'. Allowed: eq,in,gt,gte,lt,lte,between")

def parseNumericConstraint (fieldName : String) (value : Json) (range : Option (α × α)) :
    Result (NumericConstraint α) := do
  let (operator, operand) ← singleOperator fieldName value
  let constraint ← parseNumericOperator type fieldName operator operand
  validateConstraintAgainstRange type fieldName constraint range
  .ok constraint

end Numeric

def parseIntConstraint (fieldName : String) (value : Json) (range : Option (Int × Int)) :
    Result (NumericConstraint Int) :=
  parseNumericConstraint intType fieldName value range

def parseFloatConstraint (fieldName : String) (value : Json) (range : Option (F64 × F64)) :
    Result (NumericConstraint F64) :=
  parseNumericConstraint floatType fieldName value range

def NumericConstraint.matchesInt (constraint : NumericConstraint Int) (value : Int) : Bool :=
  matchesNumeric intType constraint value

def NumericConstraint.matchesFloat (constraint : NumericConstraint F64) (value : F64) : Bool :=
  value.isFinite && matchesNumeric floatType constraint value

/-! ## 3. Enumerations -/

inductive EnumConstraint where
  | eq (value : String)
  | isIn (values : List String)
  deriving DecidableEq

def EnumConstraint.matches (toLowercase : String → String) (constraint : EnumConstraint)
    (value : String) : Bool :=
  match constraint with
  | .eq v => toLowercase value = v
  | .isIn values => values.any fun v => v = toLowercase value

section Enum

variable (toLowercase : String → String)

def parseEnumOperand (fieldName operator : String) (value : Json) : Result String :=
  match value.asStr with
  | some v => .ok (toLowercase v)
  | none => operatorError fieldName operator "expects string value"

def parseEnumArrayOperand (fieldName operator : String) (value : Json) : Result (List String) :=
  match value.asArray with
  | none => operatorError fieldName operator "expects array of strings"
  | some [] => operatorError fieldName operator "must contain at least one value"
  | some values => values.mapM (parseEnumOperand toLowercase fieldName operator)

def validateEnumValue (fieldName : String) (allowedValues : List String) (value : String) :
    Result Unit :=
  if allowedValues.any fun allowed => allowed = value then .ok ()
  else
    bail ("Field '" ++ fieldName ++ "' has invalid enum value '" ++ value ++ "'. Allowed: [" ++
      joinText allowedValues ", " ++ "]")

def parseEnumConstraint (fieldName : String) (value : Json) (allowedValues : List String) :
    Result EnumConstraint := do
  let (operator, operand) ← singleOperator fieldName value
  let normalizedAllowed := allowedValues.map toLowercase
  if operator = "eq" then
    let parsed ← parseEnumOperand toLowercase fieldName operator operand
    validateEnumValue fieldName normalizedAllowed parsed
    .ok (.eq parsed)
  else if operator = "in" then
    let parsed ← parseEnumArrayOperand toLowercase fieldName operator operand
    parsed.forM (validateEnumValue fieldName normalizedAllowed)
    .ok (.isIn parsed)
  else
    bail ("Field '" ++ fieldName ++ "' has invalid operator '" ++ operator ++
      "'. Allowed for enum constraints: eq,in")

end Enum

end AvisoServer
