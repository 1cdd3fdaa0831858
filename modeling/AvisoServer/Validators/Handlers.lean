import AvisoServer.Libraries
import AvisoServer.Validators.Types

/-!
# Handlers of scalar fields

Each handler takes the text of a value, checks it, and returns its canonical text.
-/

namespace AvisoServer

/-! ## 1. Strings, enumerations and experiment versions -/

def StringHandler.validateAndCanonicalize (value : String) (maxLength : Option Nat)
    (fieldName : String) : Result String :=
  if value = "" then bail ("Field '" ++ fieldName ++ "' cannot be empty")
  else
    match maxLength with
    | some maxLen =>
      if byteLength value > maxLen then
        bail ("Field '" ++ fieldName ++ "' exceeds maximum length of " ++ toString maxLen ++
          " characters, got: " ++ toString (byteLength value))
      else .ok value
    | none => .ok value

/-- Values are compared and stored in lower case. -/
def EnumHandler.validateAndCanonicalize (toLowercase : String → String) (value : String)
    (allowedValues : List String) (fieldName : String) : Result String :=
  let lowercaseValue := toLowercase value
  if allowedValues.any fun allowed => toLowercase allowed = lowercaseValue then .ok lowercaseValue
  else
    bail ("Field '" ++ fieldName ++ "' has invalid value '" ++ value ++ "'. Allowed: [" ++
      joinText allowedValues ", " ++ "]")

namespace ExpverHandler

/-- Numbers are padded to four digits, and other texts are stored in lower case. -/
def canonicalizeExpver (toLowercase : String → String) (value : String) : String :=
  match parseInt u32 value with
  | .ok num => zeroPadded 4 num.toNat
  | .error _ => toLowercase value

def validateAndCanonicalize (toLowercase : String → String) (value : String)
    (default : Option String) (fieldName : String) : Result String :=
  if value = "" then
    match default with
    | some defaultVal => .ok (canonicalizeExpver toLowercase defaultVal)
    | none => bail ("Field '" ++ fieldName ++ "' cannot be empty")
  else .ok (canonicalizeExpver toLowercase value)

end ExpverHandler

/-! ## 2. Numbers -/

def IntHandler.validateAndCanonicalize (value : String) (range : Option (Int × Int))
    (fieldName : String) : Result String := do
  let parsedValue ← withContext
    ("Field '" ++ fieldName ++ "' must be a valid integer, got: '" ++ value ++ "'")
    (parseError (parseInt i64 value))
  match range with
  | some (min, max) =>
    if parsedValue < min || parsedValue > max then
      bail ("Field '" ++ fieldName ++ "' value " ++ toString parsedValue ++
        " is outside allowed range [" ++ toString min ++ ", " ++ toString max ++ "]")
    else .ok (toString parsedValue)
  | none => .ok (toString parsedValue)

/-- `str::parse` to an `f64`, with the text of its error. -/
def parseF64 (text : String) : Except String F64 :=
  match Binary64.parse text with
  | some value => .ok value
  | none =>
    .error <|
      if text = "" then "cannot parse float from empty string" else "invalid float literal"

def FloatHandler.validateAndCanonicalize (value : String) (range : Option (F64 × F64))
    (fieldName : String) : Result String := do
  let parsedValue ← withContext
    ("Field '" ++ fieldName ++ "' must be a valid number, got: '" ++ value ++ "'")
    (parseError (parseF64 value))
  if !parsedValue.isFinite then
    bail ("Field '" ++ fieldName ++ "' must be a finite number, got: '" ++ value ++ "'")
  else
    match range with
    | some (min, max) =>
      if parsedValue.lt min || max.lt parsedValue then
        bail ("Field '" ++ fieldName ++ "' value " ++ parsedValue.display ++
          " is outside allowed range [" ++ min.display ++ ", " ++ max.display ++ "]")
      else .ok parsedValue.display
    | none => .ok parsedValue.display

/-! ## 3. Dates and times -/

namespace DateHandler

def parseDate (lib : Libraries) (value fieldName : String) : Result NaiveDate :=
  match lib.parseDate value "%Y-%m-%d" <|> lib.parseDate value "%Y%m%d" <|>
      lib.parseDate value "%Y-%j" with
  | some date => .ok date
  | none =>
    bail ("Field '" ++ fieldName ++ "' contains invalid date '" ++ value ++
      "'. Expected: YYYY-MM-DD, YYYYMMDD, or YYYY-DDD")

def validateAndCanonicalize (lib : Libraries) (value canonicalFormat fieldName : String) :
    Result String := do
  let parsedDate ← withContext
    ("Failed to parse date value for field '" ++ fieldName ++ "'")
    (parseDate lib value fieldName)
  if canonicalFormat = "%Y%m%d" then .ok (lib.formatDate parsedDate "%Y%m%d")
  else if canonicalFormat = "%Y-%m-%d" then .ok (lib.formatDate parsedDate "%Y-%m-%d")
  else
    bail ("Unsupported date format '" ++ canonicalFormat ++ "' for field '" ++ fieldName ++ "'")

end DateHandler

namespace TimeHandler

def validateHours (hours : Int) (fieldName : String) : Result Unit :=
  if hours > 23 then
    bail ("Field '" ++ fieldName ++ "' has invalid hours: " ++ toString hours ++
      ". Hours must be 0-23 in 24-hour format")
  else .ok ()

def validateMinutes (minutes : Int) (fieldName : String) : Result Unit :=
  if minutes > 59 then
    bail ("Field '" ++ fieldName ++ "' has invalid minutes: " ++ toString minutes ++
      ". Minutes must be 0-59")
  else .ok ()

/-- One or two ASCII digits are the hour; nothing is returned for another text. -/
def handleHourOnlyFormat (value fieldName : String) : Result (Option String) :=
  if value ≠ "" && byteLength value ≤ 2 && value.toList.all Char.isDigit then do
    let hour ← withContext ("Invalid hour value '" ++ value ++ "' in field '" ++ fieldName ++ "'")
      (parseError (parseInt u32 value))
    validateHours hour fieldName
    .ok (some (zeroPadded 2 hour.toNat ++ "00"))
  else .ok none

/-- The hours and minutes of two captures. -/
def parseCaptures (hours minutes fieldName : String) : Result (Int × Int) := do
  let parsedHours ← withContext
    ("Invalid hours '" ++ hours ++ "' in field '" ++ fieldName ++ "'")
    (parseError (parseInt u32 hours))
  let parsedMinutes ← withContext
    ("Invalid minutes '" ++ minutes ++ "' in field '" ++ fieldName ++ "'")
    (parseError (parseInt u32 minutes))
  validateHours parsedHours fieldName
  validateMinutes parsedMinutes fieldName
  .ok (parsedHours, parsedMinutes)

/-- The captures of `^(\d{1,2}):(\d{2})$`. -/
def captureColon (isDecimalDigit : Char → Bool) : List Char → Option (String × String)
  | [h, ':', m, n] =>
    if [h, m, n].all isDecimalDigit then some (String.ofList [h], String.ofList [m, n]) else none
  | [g, h, ':', m, n] =>
    if [g, h, m, n].all isDecimalDigit then some (String.ofList [g, h], String.ofList [m, n])
    else none
  | _ => none

/-- The captures of `^(\d{2})(\d{2})$`. -/
def captureCompact (isDecimalDigit : Char → Bool) : List Char → Option (String × String)
  | [g, h, m, n] =>
    if [g, h, m, n].all isDecimalDigit then some (String.ofList [g, h], String.ofList [m, n])
    else none
  | _ => none

def handleColonFormat (lib : Libraries) (value fieldName : String) : Result String :=
  match captureColon lib.isDecimalDigit value.toList with
  | some (hours, minutes) => do
    let time ← parseCaptures hours minutes fieldName
    .ok (zeroPadded 2 time.1.toNat ++ zeroPadded 2 time.2.toNat)
  | none =>
    bail ("Field '" ++ fieldName ++ "' has invalid HH:MM format '" ++ value ++
      "'. Expected format: HH:MM (e.g., 14:30, 9:05)")

def handleCompactFormat (lib : Libraries) (value fieldName : String) : Result String :=
  match captureCompact lib.isDecimalDigit value.toList with
  | some (hours, minutes) => do
    let _ ← parseCaptures hours minutes fieldName
    .ok value
  | none =>
    bail ("Field '" ++ fieldName ++ "' has invalid HHMM format '" ++ value ++
      "'. Expected format: HHMM with exactly 4 digits (e.g., 1430, 0905)")

def validateAndCanonicalize (lib : Libraries) (value fieldName : String) : Result String := do
  match ← handleHourOnlyFormat value fieldName with
  | some canonicalTime => .ok canonicalTime
  | none =>
    if ':' ∈ value.toList then handleColonFormat lib value fieldName
    else if byteLength value = 4 then handleCompactFormat lib value fieldName
    else
      bail ("Field '" ++ fieldName ++ "' has invalid time format '" ++ value ++
        "'. Expected: H, HH, HH:MM, or HHMM")

end TimeHandler

end AvisoServer
