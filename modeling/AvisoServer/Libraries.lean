import AvisoServer.Backend.Types
import AvisoServer.Json

/-!
# Other crates

The functions of other crates that the server calls, and of the Unicode tables of the standard
library. Results about the server hold for any such functions; what a result relies on is stated
where it is used.
-/

namespace AvisoServer

/-! ## 1. Geometry -/

/-- `geo::Coord`: the longitude, then the latitude. -/
structure Coord where
  x : F64
  y : F64
  deriving DecidableEq

structure Rect where
  min : Coord
  max : Coord
  deriving DecidableEq

/-- A polygon without holes, by the line of its exterior. -/
abbrev Polygon := List Coord

/-- The rectangles of the `geo` crate, and its predicates on polygons and points. -/
structure Geo where
  /-- `Rect::new`, of two opposite corners. -/
  rectNew : Coord → Coord → Rect
  /-- `Intersects` of two rectangles. -/
  rectIntersects : Rect → Rect → Bool
  boundingRect : Polygon → Option Rect
  intersects : Polygon → Polygon → Bool
  intersectsPoint : Polygon → Coord → Bool
  contains : Polygon → Coord → Bool

/-! ## 2. Dates -/

/-- `chrono::NaiveDate`. -/
structure NaiveDate where
  year : Int
  month : Nat
  day : Nat
  deriving DecidableEq

/-- The seconds of the first instant of `DateTime<Utc>`, at the start of the year -262143. -/
def minTimestamp : Int := -8334601228800

/-- The seconds of the last instant of `DateTime<Utc>`, at the end of the year 262142. -/
def maxTimestamp : Int := 8210266876799

/-! ## 3. All libraries -/

structure Libraries where
  /-- `str::to_lowercase`. -/
  toLowercase : String → String
  /-- The class `\d` of the `regex` crate. -/
  isDecimalDigit : Char → Bool
  /-- The format `{:?}` of a list of strings. -/
  debugStrings : List String → String
  /-- `NaiveDate::parse_from_str` of a text and a format. -/
  parseDate : String → String → Option NaiveDate
  /-- `NaiveDate::format`. -/
  formatDate : NaiveDate → String → String
  /-- `DateTime::parse_from_rfc3339`. -/
  parseRfc3339 : String → Option DateTime
  /-- `DateTime::parse_from_str` of a text and a format with a time zone. -/
  parseDateTime : String → String → Option DateTime
  /-- `NaiveDateTime::parse_from_str` of a text and a format, read as UTC. -/
  parseNaiveDateTime : String → String → Option DateTime
  /-- `DateTime::from_timestamp` of seconds and nanoseconds. -/
  fromTimestamp : Int → Int → Option DateTime
  /-- `DateTime::to_rfc3339`. -/
  formatRfc3339 : DateTime → String
  /-- `Display` of a `serde_json::Value`. -/
  jsonToString : Json → String
  /-- `serde_json::from_str`, with the text of its error. -/
  jsonFromStr : String → Except String Json
  geo : Geo

-- rectangles as the crate has them, and polygons that meet nothing
def plainGeo : Geo where
  rectNew a b :=
    { min := ⟨if Binary64.lt a.x b.x then a.x else b.x, if Binary64.lt a.y b.y then a.y else b.y⟩
      max := ⟨if Binary64.lt a.x b.x then b.x else a.x, if Binary64.lt a.y b.y then b.y else a.y⟩ }
  rectIntersects a b :=
    Binary64.le b.min.x a.max.x && Binary64.le a.min.x b.max.x &&
      Binary64.le b.min.y a.max.y && Binary64.le a.min.y b.max.y
  boundingRect _ := none
  intersects _ _ := false
  intersectsPoint _ _ := false
  contains _ _ := false

-- stand-ins that read of dates only timestamps, of JSON only null, and no geometry
def plainLibraries : Libraries where
  toLowercase := toAsciiLowercase
  isDecimalDigit := Char.isDigit
  debugStrings values := joinText values ", "
  parseDate _ _ := none
  formatDate _ _ := ""
  parseRfc3339 _ := none
  parseDateTime _ _ := none
  parseNaiveDateTime _ _ := none
  fromTimestamp seconds nanos :=
    if minTimestamp ≤ seconds ∧ seconds ≤ maxTimestamp then some (seconds * 1000000000 + nanos)
    else none
  formatRfc3339 _ := ""
  jsonToString _ := "null"
  jsonFromStr text := if text = "null" then .ok .null else .error "expected value"
  geo := plainGeo

end AvisoServer
