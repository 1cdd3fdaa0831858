import AvisoServer.Routes.Streaming

/-!
# Bodies and answers

What is read of the body of a request, and what is answered when a request is refused. An answer
has a stable code, the label of its endpoint and the texts of the error.
-/

namespace AvisoServer

/-! ## 1. Bodies -/

/-- `serde_json` on a body: the value it holds, and the error of a value that is no request. -/
structure Serde where
  fromSlice : List UInt8 → Except String Json
  shapeError : Json → String

inductive RequestParseError where
  | invalidJson (message : String)
  | unknownField (error : Error)
  | invalidShape (message : String)

def RequestParseError.toString : RequestParseError → String
  | .invalidJson message => "JSON parsing failed: " ++ message
  | .unknownField error => "Request contains unknown fields: " ++ error.toString
  | .invalidShape message => "Request deserialization failed: " ++ message

namespace NotificationRequest

def allFieldNames : List String :=
  ["event_type", "identifier", "from_id", "from_date", "to_id", "to_date", "payload"]

def isValidField (fieldName : String) : Bool :=
  decide (fieldName ∈ allFieldNames)

/-- Only the keys of an object are looked at. -/
def validateKnownFields (lib : Libraries) (value : Json) : Result Unit :=
  match (value.asObject.getD []).find? fun field => !isValidField field.1 with
  | some field =>
    bail ("Unknown field '" ++ field.1 ++ "' in request. Allowed fields: " ++
      lib.debugStrings allFieldNames)
  | none => .ok ()

/-- An optional text may be absent or null. -/
def optionalText : Option Json → Option (Option String)
  | none => some none
  | some .null => some none
  | some (.string text) => some (some text)
  | some _ => none

def optionalValue : Option Json → Option Json
  | some .null => none
  | value => value

def identifierFields : Json → Option (HashMap Json)
  | .object fields => some (fields.foldl (fun map field => map.insert field.1 field.2) ∅)
  | _ => none

def ofFields (eventType identifier : Json) (fromId fromDate toId toDate payload : Option Json) :
    Option NotificationRequest := do
  let eventType ← eventType.asStr
  let identifier ← identifierFields identifier
  let fromId ← optionalText fromId
  let fromDate ← optionalText fromDate
  let toId ← optionalText toId
  let toDate ← optionalText toDate
  some
    { eventType := eventType
      identifier := identifier
      fromId := fromId
      fromDate := fromDate
      toId := toId
      toDate := toDate
      payload := optionalValue payload }

/-- The derived deserialisation takes an object, and also an array with the fields in their order. -/
def fromValue (value : Json) : Option NotificationRequest :=
  match value with
  | .object _ => do
    let eventType ← value.get "event_type"
    let identifier ← value.get "identifier"
    ofFields eventType identifier (value.get "from_id") (value.get "from_date")
      (value.get "to_id") (value.get "to_date") (value.get "payload")
  | .array (eventType :: identifier :: rest) =>
    if rest.length ≤ 5 then
      ofFields eventType identifier rest[0]? rest[1]? rest[2]? rest[3]? rest[4]?
    else none
  | _ => none

end NotificationRequest

def parseAndValidateRequest (serde : Serde) (lib : Libraries) (body : List UInt8) :
    Except RequestParseError NotificationRequest :=
  match serde.fromSlice body with
  | .error message => .error (.invalidJson message)
  | .ok value =>
    match NotificationRequest.validateKnownFields lib value with
    | .error e => .error (.unknownField e)
    | .ok () =>
      match NotificationRequest.fromValue value with
      | some request => .ok request
      | none => .error (.invalidShape (serde.shapeError value))

/-! ## 2. Answers -/

structure ServiceResponse where
  status : Nat
  /-- the values of `WWW-Authenticate` -/
  challenges : List String
  body : Json

inductive ApiErrorCode where
  | invalidJson
  | unknownField
  | invalidRequestShape
  | invalidNotificationRequest
  | invalidWatchRequest
  | invalidReplayRequest
  | notificationProcessingFailed
  | notificationStorageFailed
  | sseStreamInitializationFailed
  | internalError
  deriving DecidableEq, Repr

def ApiErrorCode.asStr : ApiErrorCode → String
  | .invalidJson => "INVALID_JSON"
  | .unknownField => "UNKNOWN_FIELD"
  | .invalidRequestShape => "INVALID_REQUEST_SHAPE"
  | .invalidNotificationRequest => "INVALID_NOTIFICATION_REQUEST"
  | .invalidWatchRequest => "INVALID_WATCH_REQUEST"
  | .invalidReplayRequest => "INVALID_REPLAY_REQUEST"
  | .notificationProcessingFailed => "NOTIFICATION_PROCESSING_FAILED"
  | .notificationStorageFailed => "NOTIFICATION_STORAGE_FAILED"
  | .sseStreamInitializationFailed => "SSE_STREAM_INITIALIZATION_FAILED"
  | .internalError => "INTERNAL_ERROR"

inductive RequestKind where
  | notification
  | watch
  | replay
  deriving DecidableEq, Repr

def RequestKind.code : RequestKind → ApiErrorCode
  | .notification => .invalidNotificationRequest
  | .watch => .invalidWatchRequest
  | .replay => .invalidReplayRequest

def RequestKind.label : RequestKind → String
  | .notification => "Invalid Notification Request"
  | .watch => "Invalid Watch Request"
  | .replay => "Invalid Replay Request"

inductive ProcessingKind where
  | notificationProcessing
  | notificationStorage
  deriving DecidableEq, Repr

def ProcessingKind.code : ProcessingKind → ApiErrorCode
  | .notificationProcessing => .notificationProcessingFailed
  | .notificationStorage => .notificationStorageFailed

def ProcessingKind.label : ProcessingKind → String
  | .notificationProcessing => "Notification Processing Failed"
  | .notificationStorage => "Notification Storage Failed"

/-- The message of an error and its deepest detail. -/
def errorSummary (e : Error) : String × String :=
  let message := e.chain.head?.getD "Unknown error"
  (message, e.chain.getLast?.getD message)

def errorBody (code : ApiErrorCode) (label message details requestId : String) : Json :=
  .object
    [("code", .string code.asStr), ("error", .string label), ("message", .string message),
      ("details", .string details), ("request_id", .string requestId)]

def requestParseErrorResponse (kind : RequestKind) (error : RequestParseError)
    (requestId : String) : ServiceResponse :=
  let code :=
    match error with
    | .invalidJson _ => ApiErrorCode.invalidJson
    | .unknownField _ => .unknownField
    | .invalidShape _ => .invalidRequestShape
  { status := 400
    challenges := []
    body := errorBody code kind.label error.toString error.toString requestId }

def requestValidationErrorResponse (kind : RequestKind) (error : Error) (requestId : String) :
    ServiceResponse where
  status := 400
  challenges := []
  body := errorBody kind.code kind.label (errorSummary error).1 (errorSummary error).2 requestId

def processingErrorResponse (kind : ProcessingKind) (error : Error) (requestId : String) :
    ServiceResponse where
  status := 500
  challenges := []
  body := errorBody kind.code kind.label (errorSummary error).1 (errorSummary error).2 requestId

namespace AuthFailure

def statusCode : AuthFailure → Nat
  | .unauthorized _ => 401
  | .forbidden _ => 403
  | .serviceUnavailable _ => 503

def reason : AuthFailure → String
  | .unauthorized _ => "unauthorized"
  | .forbidden _ => "forbidden"
  | .serviceUnavailable _ => "service_unavailable"

def message : AuthFailure → String
  | .unauthorized message => message
  | .forbidden message => message
  | .serviceUnavailable message => message

def code : AuthFailure → String
  | .unauthorized _ => "UNAUTHORIZED"
  | .forbidden _ => "FORBIDDEN"
  | .serviceUnavailable _ => "SERVICE_UNAVAILABLE"

/-- The schemes that a client may answer a challenge with. -/
def challenges (mode : AuthMode) : AuthFailure → List String
  | .unauthorized _ =>
    match mode with
    | .direct => ["Bearer", "Basic"]
    | .trustedProxy => ["Bearer"]
  | _ => []

def response (failure : AuthFailure) (mode : AuthMode) (requestId : String) : ServiceResponse where
  status := failure.statusCode
  challenges := failure.challenges mode
  body := .object
    [("code", .string failure.code), ("error", .string failure.reason),
      ("message", .string failure.message), ("request_id", .string requestId)]

end AuthFailure

def RouteError.response (kind : RequestKind) (mode : AuthMode) (eventType requestId : String) :
    RouteError → ServiceResponse
  | .unknownEventType configured =>
    { status := 400
      challenges := []
      body := .object
        [("code", .string "UNKNOWN_EVENT_TYPE"), ("error", .string "unknown_event_type"),
          ("message", .string ("unknown event type '" ++ eventType ++ "'")),
          ("configured_event_types", .array (configured.map .string)),
          ("request_id", .string requestId)] }
  | .auth failure => failure.response mode requestId
  | .validation e => requestValidationErrorResponse kind e requestId
  | .processing e => processingErrorResponse .notificationProcessing e requestId

/-! ## 3. Statuses -/

/-- Every refusal is answered with an error status, and only one of authentication with 401. -/
theorem RouteError.response_status (kind : RequestKind) (mode : AuthMode)
    (eventType requestId : String) (e : RouteError) :
    (e.response kind mode eventType requestId).status = 400 ∨
      (e.response kind mode eventType requestId).status = 500 ∨
      ∃ failure, e = .auth failure ∧
        (e.response kind mode eventType requestId).status = failure.statusCode := by
  cases e with
  | unknownEventType configured => exact Or.inl rfl
  | auth failure => exact Or.inr (Or.inr ⟨failure, rfl, rfl⟩)
  | validation e => exact Or.inl rfl
  | processing e => exact Or.inr (Or.inl rfl)

theorem AuthFailure.statusCode_ne_ok (failure : AuthFailure) : failure.statusCode ≠ 200 := by
  cases failure with
  | unauthorized message => exact (by decide : 401 ≠ 200)
  | forbidden message => exact (by decide : 403 ≠ 200)
  | serviceUnavailable message => exact (by decide : 503 ≠ 200)

theorem RouteError.response_ne_ok (kind : RequestKind) (mode : AuthMode)
    (eventType requestId : String) (e : RouteError) :
    (e.response kind mode eventType requestId).status ≠ 200 := by
  rcases e.response_status kind mode eventType requestId with h | h | ⟨failure, -, h⟩
  · rw [h]
    decide
  · rw [h]
    decide
  · rw [h]
    exact failure.statusCode_ne_ok

end AvisoServer
