import AvisoServer.Validators.Handlers

/-!
# Geometries

Points, polygons and point clouds arrive as JSON arrays of `[lat,lon]`, or in compatible text
forms, and are stored as canonical JSON arrays.
-/

namespace AvisoServer

/-! ## 1. Coordinates -/

/-- A coordinate in API order: latitude, then longitude. -/
abbrev Coordinate := F64 × F64

inductive CoordinateError where
  | invalidShape
  | notNumber (component : String)
  | notFinite (component : String)
  | latitudeOutOfRange (value : F64)
  | longitudeOutOfRange (value : F64)
  deriving DecidableEq

def CoordinateError.text : CoordinateError → String
  | .invalidShape => "coordinate must be a two-element array [lat,lon]"
  | .notNumber component => component ++ " must be a number"
  | .notFinite component => component ++ " must be finite"
  | .latitudeOutOfRange value =>
    "latitude " ++ value.display ++ " is outside the valid range [-90, 90]"
  | .longitudeOutOfRange value =>
    "longitude " ++ value.display ++ " is outside the valid range [-180, 180]"

/-- A number lies in a closed range; a NaN lies in none. -/
def inRange (low high : Int) (value : F64) : Bool :=
  Binary64.le (.ofInt low) value && value.le (.ofInt high)

def validLatitude (lat : F64) : Bool := inRange (-90) 90 lat

def validLongitude (lon : F64) : Bool := inRange (-180) 180 lon

def validateCoordinate (lat lon : F64) : Except CoordinateError Coordinate :=
  if !lat.isFinite then .error (.notFinite "latitude")
  else if !lon.isFinite then .error (.notFinite "longitude")
  else if !validLatitude lat then .error (.latitudeOutOfRange lat)
  else if !validLongitude lon then .error (.longitudeOutOfRange lon)
  else .ok (lat, lon)

def parseComponent (value : Json) (component : String) : Except CoordinateError F64 :=
  match value.asF64 with
  | none => .error (.notNumber component)
  | some parsed => if parsed.isFinite then .ok parsed else .error (.notFinite component)

def parseCoordinate (value : Json) : Except CoordinateError Coordinate :=
  match value.asArray with
  | some [first, second] => do
    let lat ← parseComponent first "latitude"
    let lon ← parseComponent second "longitude"
    validateCoordinate lat lon
  | _ => .error .invalidShape

def coordinateToJson (coordinate : Coordinate) : Except CoordinateError Json := do
  let (lat, lon) ← validateCoordinate coordinate.1 coordinate.2
  match Json.ofF64 lat, Json.ofF64 lon with
  | some latitude, some longitude => .ok (.array [latitude, longitude])
  | none, _ => .error (.notFinite "latitude")
  | _, none => .error (.notFinite "longitude")

def coordinatesToJson (coordinates : List Coordinate) : Except CoordinateError Json :=
  Json.array <$> coordinates.mapM fun coordinate => do
    coordinateToJson (← validateCoordinate coordinate.1 coordinate.2)

/-- A coordinate error as an `anyhow::Error`. -/
def coordinateError {α : Type} (r : Except CoordinateError α) : Result α :=
  r.mapError fun e => ⟨[], .message e.text⟩

/-- `map_err` with a message in front of the text of the error. -/
def prefixError {α : Type} (text : String) (r : Result α) : Result α :=
  r.mapError fun e => ⟨[], .message (text ++ e.toString)⟩

/-! ## 2. Points -/

namespace PointHandler

/-- The text between the parentheses, if there are two. -/
def stripParentheses (text : String) : String :=
  match text.toList with
  | '(' :: rest =>
    if rest.getLast? = some ')' then String.ofList rest.dropLast else text
  | _ => text

def parsePointText (text : String) : Result Coordinate :=
  match (splitChar (trim (stripParentheses text)) ',').map trim with
  | [latStr, lonStr] => do
    let lat ← (parseF64 latStr).mapError fun _ => ⟨[], .message ("Invalid latitude value: " ++ latStr)⟩
    let lon ← (parseF64 lonStr).mapError fun _ => ⟨[], .message ("Invalid longitude value: " ++ lonStr)⟩
    coordinateError (validateCoordinate lat lon)
  | _ :: _ :: _ :: _ => bail "Point must contain exactly two values: 'lat,lon'"
  | _ => bail "Point must be in 'lat,lon' format"

def notPoint : String :=
  "point must be a two-element array [lat,lon] or a compatible string"

def parsePointCoordinates (lib : Libraries) (value : String) : Result Coordinate :=
  let trimmed := trim value
  if trimmed = "" then bail "Point coordinate string cannot be empty"
  else if trimmed.toList.head? = some '[' then
    match lib.jsonFromStr trimmed with
    | .error e => bail ("invalid point JSON array: " ++ e)
    -- a text that starts with a bracket is read as an array
    | .ok (.array items) => coordinateError (parseCoordinate (.array items))
    | .ok _ => bail notPoint
  else parsePointText trimmed

def parsePointValue (lib : Libraries) : Json → Result Coordinate
  | .array items => coordinateError (parseCoordinate (.array items))
  | .string value => parsePointCoordinates lib value
  | _ => bail notPoint

def validateJsonAndCanonicalize (lib : Libraries) (value : Json) (fieldName : String) :
    Result Json := do
  let coordinate ← prefixError ("field '" ++ fieldName ++ "' must be a valid point: ")
    (parsePointValue lib value)
  coordinateError (coordinateToJson coordinate)

end PointHandler

/-! ## 3. Polygons -/

namespace PolygonHandler

/-- The points of an array, with the place of the first that is none. -/
def parsePoints : Nat → List Json → Result (List Coordinate)
  | _, [] => .ok []
  | index, point :: rest =>
    match parseCoordinate point with
    | .error e => bail ("polygon point " ++ toString index ++ " is invalid: " ++ e.text)
    | .ok coordinate => (parsePoints (index + 1) rest).map (coordinate :: ·)

/-- One pair of the text form. -/
def parsePair (latStr lonStr : String) : Result Coordinate := do
  let lat ← (parseF64 (trim latStr)).mapError fun _ =>
    ⟨[], .message ("could not parse latitude '" ++ trim latStr ++ "' as a number")⟩
  let lon ← (parseF64 (trim lonStr)).mapError fun _ =>
    ⟨[], .message ("could not parse longitude '" ++ trim lonStr ++ "' as a number")⟩
  -- the range check rejects what is not finite
  if !validLatitude lat then bail ("latitude " ++ lat.display ++ " is outside the valid range [-90, 90]")
  else if !validLongitude lon then
    bail ("longitude " ++ lon.display ++ " is outside the valid range [-180, 180]")
  else .ok (lat, lon)

def parsePairs : List String → Result (List Coordinate)
  | latStr :: lonStr :: rest => do
    let coordinate ← parsePair latStr lonStr
    let coordinates ← parsePairs rest
    .ok (coordinate :: coordinates)
  | [] => .ok []
  | [_] => bail "polygon coordinates must be in lat,lon pairs"

/-- The text inside the outer pair of parentheses, which may be missing on both sides. -/
def stripParentheses (raw : String) : Result String :=
  match decide (raw.toList.head? = some '('), decide (raw.toList.getLast? = some ')') with
  | true, true => .ok (String.ofList (raw.toList.drop 1).dropLast)
  | false, false => .ok raw
  | true, false =>
    bail "polygon coordinate string has opening '(' but is missing the closing ')'"
  | false, true =>
    bail "polygon coordinate string has closing ')' but is missing the opening '('"

def parsePolygonText (raw : String) : Result (List Coordinate) := do
  let inner ← stripParentheses raw
  if '(' ∈ inner.toList ∨ ')' ∈ inner.toList then
    bail ("polygon coordinate string must have at most one outer pair of parentheses; " ++
      "nested '(' or ')' are not allowed")
  else if trim inner = "" then bail "polygon coordinate string is empty between parentheses"
  else
    let coordParts := splitChar (trim inner) ','
    if coordParts.length % 2 ≠ 0 then
      bail "polygon coordinates must be in lat,lon pairs (got an odd number of values)"
    else parsePairs coordParts

def notPolygon : String :=
  "polygon must be an array of [lat,lon] points or a compatible string"

def parsePolygonCoordinates (lib : Libraries) (coordString : String) : Result (List Coordinate) :=
  let raw := trim coordString
  if raw = "" then bail "polygon coordinate string is empty"
  else if raw.toList.head? = some '[' then
    match lib.jsonFromStr raw with
    | .error e => bail ("invalid polygon JSON array: " ++ e)
    -- a text that starts with a bracket is read as an array
    | .ok (.array points) => parsePoints 0 points
    | .ok _ => bail notPolygon
  else parsePolygonText raw

def parsePolygonValue (lib : Libraries) : Json → Result (List Coordinate)
  | .array points => parsePoints 0 points
  | .string value => parsePolygonCoordinates lib value
  | _ => bail notPolygon

/-- Equality of coordinates, which does not tell the two zeros apart. -/
def sameCoordinate (a b : Coordinate) : Bool :=
  a.1.eq b.1 && a.2.eq b.2

def validatePolygonGeometry (coordinates : List Coordinate) : Result Unit :=
  if coordinates.length < 4 then
    bail ("polygon must have at least 4 coordinate pairs (3 unique vertices plus a " ++
      "closing repeat of the first vertex)")
  else
    match coordinates.head?, coordinates.getLast? with
    | some first, some last =>
      if sameCoordinate first last then .ok ()
      else bail "polygon must be closed (first and last coordinates must be identical)"
    | none, _ => bail "polygon has no first coordinate"
    | _, none => bail "polygon has no last coordinate"

def validateJsonAndCanonicalize (lib : Libraries) (value : Json) (fieldName : String) :
    Result Json := do
  let message := "field '" ++ fieldName ++ "' must be a valid polygon: "
  let coordinates ← prefixError message (parsePolygonValue lib value)
  prefixError message (validatePolygonGeometry coordinates)
  coordinateError (coordinatesToJson coordinates)

end PolygonHandler

/-! ## 4. Point clouds -/

def hardMaxPoints : Nat := 10000

def maxSerializedPointCloudBytes : Nat := 60 * 1024

namespace PointCloudHandler

/-- A point-cloud error as an `anyhow::Error`; a faulty point is the cause of its error. -/
def pointError (fieldName : String) (index : Nat) (source : CoordinateError) : Error :=
  ⟨["field '" ++ fieldName ++ "' point " ++ toString index ++ " is invalid: " ++ source.text],
    .message source.text⟩

def parsePoints (fieldName : String) : Nat → List Json → Result (List Coordinate)
  | _, [] => .ok []
  | index, point :: rest =>
    match parseCoordinate point with
    | .error e => .error (pointError fieldName index e)
    | .ok coordinate => (parsePoints fieldName (index + 1) rest).map (coordinate :: ·)

def parseCoordinates (value : Json) (maxPoints : Nat) (fieldName : String) :
    Result (List Coordinate) :=
  if maxPoints = 0 ∨ maxPoints > hardMaxPoints then
    bail ("field '" ++ fieldName ++ "' max_points must be between 1 and " ++
      toString hardMaxPoints ++ ", got " ++ toString maxPoints)
  else
    match value.asArray with
    | none => bail ("field '" ++ fieldName ++ "' must be a JSON array of [lat,lon] points")
    | some points =>
      if points = [] then
        bail ("field '" ++ fieldName ++ "' point cloud must contain at least one point")
      else if points.length > maxPoints then
        bail ("field '" ++ fieldName ++ "' point cloud contains " ++ toString points.length ++
          " points, maximum is " ++ toString maxPoints)
      else parsePoints fieldName 0 points

def validateSerializedSize (fieldName : String) (actual : Nat) : Result Unit :=
  if actual > maxSerializedPointCloudBytes then
    bail ("field '" ++ fieldName ++ "' point cloud canonical JSON is " ++ toString actual ++
      " bytes, maximum is " ++ toString maxSerializedPointCloudBytes ++ " bytes")
  else .ok ()

/-- The coordinates of a cloud and its canonical JSON. -/
def validate (lib : Libraries) (value : Json) (maxPoints : Nat) (fieldName : String) :
    Result (List Coordinate × Json) := do
  let coordinates ← parseCoordinates value maxPoints fieldName
  let canonical ← (coordinatesToJson coordinates).mapError fun e =>
    (⟨["field '" ++ fieldName ++ "' point cloud canonicalization failed: " ++ e.text],
      .message e.text⟩ : Error)
  validateSerializedSize fieldName (byteLength (lib.jsonToString canonical))
  .ok (coordinates, canonical)

def validateAndCanonicalize (lib : Libraries) (value : Json) (maxPoints : Nat)
    (fieldName : String) : Result Json := do
  let (_, canonical) ← validate lib value maxPoints fieldName
  .ok canonical

end PointCloudHandler

end AvisoServer
