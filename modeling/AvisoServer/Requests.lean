import AvisoServer.Libraries
import AvisoServer.Validators.Geometry

/-!
# Requests

The body that the notification, watch and replay endpoints share, and the checks of its start, its
end and its spatial filter.
-/

namespace AvisoServer

/-! ## 1. The body -/

structure NotificationRequest where
  eventType : String
  identifier : HashMap Json
  fromId : Option String
  fromDate : Option String
  toId : Option String
  toDate : Option String
  payload : Option Json

namespace NotificationRequest

def scalarIdentifierValueAsString (lib : Libraries) (fieldName : String) : Json → Result String
  | .string v => .ok v
  | .number v => .ok (lib.jsonToString (.number v))
  | .bool v => .ok (if v then "true" else "false")
  | .null => bail ("Field '" ++ fieldName ++ "' cannot be null")
  | .array _ =>
    bail ("Field '" ++ fieldName ++ "' must be a scalar value or constraint object, got array")
  | .object _ =>
    bail ("Field '" ++ fieldName ++ "' constraint object is not allowed in this operation")

/-! ## 2. Dates -/

/-- The text is not empty and has ASCII digits only. -/
def isNumeric (chars : List Char) : Bool :=
  chars ≠ [] && chars.all Char.isDigit

/-- The first instant that one of the parsers reads. -/
def firstParsed (parsers : List (Option DateTime)) : Option DateTime :=
  parsers.findSome? id

/-- Up to 11 significant digits are seconds, and longer numbers are milliseconds. -/
def parseUnixTimestamp (lib : Libraries) (digits : List Char) : Result DateTime := do
  let text := String.ofList digits
  let significantDigits := digits.dropWhile (· = '0')
  let digitCount := if significantDigits = [] then 1 else significantDigits.length
  let value ← (parseInt i64 text).mapError fun e =>
    (⟨[], .message ("failed to parse unix timestamp '" ++ text ++ "': " ++ e)⟩ : Error)
  if digitCount ≤ 11 then
    match lib.fromTimestamp value 0 with
    | some date => .ok date
    | none => bail ("invalid unix seconds timestamp '" ++ text ++ "'")
  else
    match lib.fromTimestamp (value / 1000) (value % 1000 * 1000000) with
    | some date => .ok date
    | none => bail ("invalid unix milliseconds timestamp '" ++ text ++ "'")

def parseDateFlexible (lib : Libraries) (dateStr : String) : Result DateTime :=
  let trimmed := trim dateStr
  let unsignedNumeric :=
    match trimmed.toList with
    | '+' :: rest => rest
    | chars => chars
  if trimmed.toList.head? = some '-' && isNumeric trimmed.toList.tail then
    bail ("negative unix timestamps are not supported: '" ++ trimmed ++ "'")
  else if isNumeric unsignedNumeric then parseUnixTimestamp lib unsignedNumeric
  else
    match firstParsed
        [lib.parseRfc3339 trimmed,
          lib.parseDateTime trimmed "%Y-%m-%d %H:%M:%S%:z",
          lib.parseDateTime trimmed "%Y-%m-%d %H:%M:%S%.f%:z",
          lib.parseNaiveDateTime trimmed "%Y-%m-%dT%H:%M:%S",
          lib.parseNaiveDateTime trimmed "%Y-%m-%dT%H:%M:%S%.f",
          lib.parseNaiveDateTime trimmed "%Y-%m-%d %H:%M:%S",
          lib.parseNaiveDateTime trimmed "%Y-%m-%d %H:%M:%S%.f"] with
    | some date => .ok date
    | none =>
      bail ("expected ISO-8601 datetime (RFC3339/space-separated with optional timezone) " ++
        "or unix epoch seconds/milliseconds")

def dateExamples : List String :=
  ["2025-06-09T13:15:00Z", "2025-06-09 13:15:00+00:00", "2025-06-09 13:15:00", "1740509903",
    "1740509903710"]

def parseDateField (lib : Libraries) (field : String) (value : Option String) :
    Result (Option DateTime) :=
  match value with
  | none => .ok none
  | some value =>
    if trim value = "" then
      bail (field ++ " cannot be empty. Provide a valid datetime/timestamp or omit the field")
    else
      match parseDateFlexible lib value with
      | .ok date => .ok (some date)
      | .error e =>
        bail (field ++ " must be a valid datetime/timestamp. Got: '" ++ value ++ "'. Error: " ++
          e.toString ++ ". Valid examples: " ++
          joinText (dateExamples.map fun example_ => "'" ++ example_ ++ "'") ", ")

def parseSequenceField (field : String) (value : Option String) : Result (Option Nat) :=
  match value with
  | none => .ok none
  | some value =>
    if trim value = "" then
      bail (field ++ " cannot be empty. Provide a valid sequence number or omit the field")
    else
      match parseInt u64 value with
      | .ok sequence => .ok (some sequence.toNat)
      | .error _ =>
        bail (field ++ " must be a valid positive integer. Got: '" ++ value ++
          "'. Valid examples: '1', '123', '9999'")

/-! ## 3. Start, end and spatial filter -/

section Validation

variable (lib : Libraries) (request : NotificationRequest)

def validateStartAt : Result StartAt := do
  let parsedId ← parseSequenceField "from_id" request.fromId
  let parsedDate ← parseDateField lib "from_date" request.fromDate
  match parsedId, parsedDate with
  | some _, some _ =>
    bail ("Cannot specify both from_id and from_date. Please provide only one replay parameter. " ++
      "Use from_id for sequence-based replay or from_date for time-based replay.")
  | some id, none => .ok (.sequence id)
  | none, some date => .ok (.date date)
  | none, none => .ok .liveOnly

def rejectEndPoint (endpoint : String) : Result Unit :=
  if request.toId.isSome || request.toDate.isSome then
    bail ("to_id and to_date are only supported for the replay endpoint, not " ++ endpoint)
  else .ok ()

/-- The end is not before a start of the same kind. -/
def validateEndAt (startAt : StartAt) : Result EndAt := do
  let toId ← parseSequenceField "to_id" request.toId
  let toDate ← parseDateField lib "to_date" request.toDate
  match toId, toDate, startAt with
  | some _, some _, _ =>
    bail ("Cannot specify both to_id and to_date. Please provide only one replay end " ++
      "parameter. Use to_id for a sequence-based end or to_date for a time-based end.")
  | some id, none, .sequence fromId =>
    if id < fromId then
      bail ("to_id (" ++ toString id ++ ") must not be lower than from_id (" ++ toString fromId ++
        ")")
    else .ok (.sequence id)
  | some id, none, _ => .ok (.sequence id)
  | none, some date, .date fromDate =>
    if date < fromDate then
      bail ("to_date (" ++ lib.formatRfc3339 date ++ ") must not be earlier than from_date (" ++
        lib.formatRfc3339 fromDate ++ ")")
    else .ok (.date date)
  | none, some date, _ => .ok (.date date)
  | none, none, _ => .ok .latest

def validateSpatialFilters : Result Unit :=
  match request.identifier.get "polygon", request.identifier.get "point" with
  | some _, some _ =>
    bail ("Cannot specify both identifier.polygon and identifier.point. " ++
      "Provide only one spatial filter.")
  | _, some point =>
    match PointHandler.parsePointValue lib point with
    | .ok _ => .ok ()
    | .error e =>
      bail ("identifier.point must be a valid [lat,lon] coordinate pair or compatible string: " ++
        e.toString)
  | _, none => .ok ()

end Validation

end NotificationRequest

end AvisoServer
