import AvisoServer.Rust

/-!
# Units

Durations and sizes in the configuration are digits followed by a unit.
-/

namespace AvisoServer

/-- The value and the unit, with the texts of the two errors that come before them. -/
def splitUnit (subject : String) (input : String) : Except String (String × String) :=
  let trimmed := trim input
  if trimmed = "" then .error (subject ++ " must not be empty")
  else
    let unit := trimmed.toList.dropWhile Char.isDigit
    if unit = [] then .error (subject ++ " must include a unit suffix")
    else .ok (String.ofList (trimmed.toList.takeWhile Char.isDigit), String.ofList unit)

/-- `checked_mul` of an integer type. -/
def checkedMul (type : IntType) (a b : Int) (overflow : String) : Except String Int :=
  if type.fits (a * b) then .ok (a * b) else .error overflow

def durationUnit (unit : String) : Option Int :=
  if unit = "s" then some 1
  else if unit = "m" then some 60
  else if unit = "h" then some 3600
  else if unit = "d" then some 86400
  else if unit = "w" then some 604800
  else none

/-- The seconds of a duration. -/
def parseDurationSpec (input : String) : Except String Int := do
  let (valueStr, unit) ← splitUnit "duration" input
  let value ← (parseInt u64 valueStr).mapError fun _ => "duration value must be an integer"
  match durationUnit (toAsciiLowercase unit) with
  | some seconds => checkedMul u64 value seconds "duration overflow"
  | none => .error "duration unit must be one of: s, m, h, d, w"

/-- A retention is kept in signed 64-bit nanoseconds. -/
def parseRetentionTimeSpec (input : String) : Except String Int := do
  let seconds ← parseDurationSpec input
  if i64.fits (seconds * 1000000000) then .ok seconds
  else
    .error "retention duration exceeds signed 64-bit nanoseconds (maximum 9223372036s)"

def sizeUnit (unit : String) : Option Int :=
  if unit = "K" then some 1000
  else if unit = "M" then some 1000000
  else if unit = "G" then some 1000000000
  else if unit = "T" then some 1000000000000
  else if unit = "Ki" then some 1024
  else if unit = "Mi" then some 1048576
  else if unit = "Gi" then some 1073741824
  else if unit = "Ti" then some 1099511627776
  else none

/-- The bytes of a size. -/
def parseSizeSpec (input : String) : Except String Int := do
  let (valueStr, unit) ← splitUnit "size" input
  let value ← (parseInt i64 valueStr).mapError fun _ => "size value must be an integer"
  if value ≤ 0 then .error "size value must be greater than zero"
  else
    match sizeUnit unit with
    | some multiplier => checkedMul i64 value multiplier "size overflow"
    | none => .error "size unit must be one of: K, Ki, M, Mi, G, Gi, T, Ti"

end AvisoServer
