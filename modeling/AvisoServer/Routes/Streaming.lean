import AvisoServer.Auth.Middleware
import AvisoServer.Notification.Topics
import Mathlib.Data.List.Infix

/-!
# The request endpoints

The notification, watch and replay handlers up to the point where they store or stream: known event
types first, then the stream's auth rule, then the processing of the request.
-/

namespace AvisoServer

/-! ## 1. Stream authorisation -/

inductive StreamOperation where
  | read
  | write
  deriving DecidableEq, Repr

/-- The rule of one stream for the user of a request. -/
def authorizeStream (auth : AuthSettings) (streamAuth : StreamAuthConfig) (user : Option User)
    (operation : StreamOperation) : Except AuthFailure Unit :=
  if !streamAuth.required then .ok ()
  else
    match user with
    | none => .error (.unauthorized "Authentication is required for this stream")
    | some user =>
      let isAdmin := user.isAdmin auth.adminRoles
      match operation, streamAuth.readRoles, streamAuth.writeRoles with
      | .read, some readRoles, _ =>
        if !isAdmin && !user.hasAnyRole readRoles then
          .error (.forbidden "User does not have required read role for this stream")
        else .ok ()
      -- any authenticated user can read
      | .read, none, _ => .ok ()
      | .write, _, some writeRoles =>
        if !isAdmin && !user.hasAnyRole writeRoles then
          .error (.forbidden "User does not have required write role for this stream")
        else .ok ()
      | .write, _, none =>
        if !isAdmin then .error (.forbidden "Only administrators can write to this stream")
        else .ok ()

/-- The rule is looked up by the event type of the request. -/
def enforceStreamAuth (settings : Settings) (user : Option User) (eventType : String)
    (operation : StreamOperation) : Except AuthFailure Unit :=
  if !settings.auth.enabled then .ok ()
  else
    match (settings.schemaOf eventType).bind (·.auth) with
    | none => .ok ()
    | some streamAuth => authorizeStream settings.auth streamAuth user operation

/-! ## 2. Errors -/

inductive NotificationErrorKind where
  | validation
  | processing
  deriving DecidableEq, Repr

def isValidationMessage (message : String) : Bool :=
  let message := (toAsciiLowercase message).toList
  "required field ".toList.isPrefixOf message || "payload is required".toList.isPrefixOf message ||
    decide ("unknown event type".toList <:+: message) || "field '".toList.isPrefixOf message ||
    decide ("must be a valid".toList <:+: message)

def isNotificationValidationError (e : Error) : Bool :=
  e.source = .invalidTopicBase || e.chain.any isValidationMessage

/-- An answer other than success. -/
inductive RouteError where
  | unknownEventType (configured : List String)
  | auth (failure : AuthFailure)
  | validation (error : Error)
  | processing (error : Error)

/-- Strict mode rejects an event type without a schema, before anything else is done. -/
def enforceKnownEventType (settings : Settings) (eventType : String) : Except RouteError Unit :=
  if settings.resolveNotificationSchemaStrict && (settings.schemaOf eventType).isNone then
    .error (.unknownEventType settings.registry.getSchemaNames)
  else .ok ()

/-! ## 3. Handlers -/

section Handlers

variable (lib : Libraries) (settings : Settings) (user : Option User)
  (request : NotificationRequest)

def processNotificationRequest (operation : OperationType) :
    Except (NotificationErrorKind × Error) ProcessingResult :=
  (processRequestWithValues lib settings.registry request.eventType request.identifier
    request.payload operation).mapError fun e =>
      (if isNotificationValidationError e then .validation else .processing, e)

def rejectPoint : Except RouteError Unit :=
  if (request.identifier.get "point").isSome then
    .error (.validation
      ⟨[], .message "identifier.point is only supported for watch/replay endpoints, not /notification"⟩)
  else .ok ()

/-- The notification that the handler goes on to store. -/
def notify : Except RouteError ProcessingResult := do
  enforceKnownEventType settings request.eventType
  (request.rejectEndPoint "/notification").mapError .validation
  rejectPoint request
  (enforceStreamAuth settings user request.eventType .write).mapError .auth
  (processNotificationRequest lib settings request .notify).mapError fun e =>
    match e with
    | (.validation, e) => .validation e
    | (.processing, e) => .processing e

structure StreamingRequestContext where
  result : ProcessingResult
  startAt : StartAt
  endAt : EndAt

/-- Only a replay takes an end point, and it needs a start. -/
def validateReplayParameters (operation : OperationType) : Result (StartAt × EndAt) := do
  request.validateSpatialFilters lib
  let startAt ← request.validateStartAt lib
  match operation with
  | .replay => .ok ()
  | .watch => request.rejectEndPoint "/watch"
  | .notify => request.rejectEndPoint "/notification"
  if operation = .replay && startAt = .liveOnly then
    bail ("Replay endpoint requires either from_id or from_date parameter. " ++
      "Use from_id for sequence-based replay or from_date for time-based replay.")
  else
    let endAt ← request.validateEndAt lib startAt
    .ok (startAt, endAt)

def processStreaming (operation : OperationType) : Result StreamingRequestContext := do
  let (startAt, endAt) ← validateReplayParameters lib request operation
  let result ← processRequestWithValues lib settings.registry request.eventType request.identifier
    none operation
  .ok { result := result, startAt := startAt, endAt := endAt }

/-- The handlers of watch and replay, up to the context of their stream. -/
def streamingContext (operation : OperationType) : Except RouteError StreamingRequestContext := do
  enforceKnownEventType settings request.eventType
  (enforceStreamAuth settings user request.eventType .read).mapError .auth
  (processStreaming lib settings request operation).mapError .validation

def watch : Except RouteError StreamingRequestContext :=
  streamingContext lib settings user request .watch

def replay : Except RouteError StreamingRequestContext :=
  streamingContext lib settings user request .replay

end Handlers

/-! ## 4. Accepted requests -/

theorem notify_eq_ok {lib : Libraries} {settings : Settings} {user : Option User}
    {request : NotificationRequest} {result : ProcessingResult}
    (h : notify lib settings user request = .ok result) :
    enforceStreamAuth settings user request.eventType .write = .ok () ∧
      processRequestWithValues lib settings.registry request.eventType request.identifier
        request.payload .notify = .ok result := by
  unfold notify at h
  obtain ⟨_, -, h⟩ := bind_eq_ok.mp h
  obtain ⟨_, -, h⟩ := bind_eq_ok.mp h
  obtain ⟨_, -, h⟩ := bind_eq_ok.mp h
  obtain ⟨_, hauth, hprocess⟩ := bind_eq_ok.mp h
  unfold processNotificationRequest at hprocess
  exact ⟨mapError_eq_ok.mp hauth, mapError_eq_ok.mp (mapError_eq_ok.mp hprocess)⟩

theorem streamingContext_eq_ok {lib : Libraries} {settings : Settings} {user : Option User}
    {request : NotificationRequest} {operation : OperationType}
    {context : StreamingRequestContext}
    (h : streamingContext lib settings user request operation = .ok context) :
    enforceStreamAuth settings user request.eventType .read = .ok () ∧
      processRequestWithValues lib settings.registry request.eventType request.identifier none
        operation = .ok context.result := by
  unfold streamingContext at h
  obtain ⟨_, -, h⟩ := bind_eq_ok.mp h
  obtain ⟨_, hauth, hprocess⟩ := bind_eq_ok.mp h
  have hcontext := mapError_eq_ok.mp hprocess
  unfold processStreaming at hcontext
  obtain ⟨bounds, -, hcontext⟩ := bind_eq_ok.mp hcontext
  obtain ⟨result, hresult, hcontext⟩ := bind_eq_ok.mp hcontext
  cases hcontext
  exact ⟨mapError_eq_ok.mp hauth, hresult⟩

/-- A point is a filter of streams, never a part of a notification. -/
theorem notify_noPoint {lib : Libraries} {settings : Settings} {user : Option User}
    {request : NotificationRequest} {result : ProcessingResult}
    (h : notify lib settings user request = .ok result) :
    request.identifier.get "point" = none := by
  unfold notify at h
  obtain ⟨_, -, h⟩ := bind_eq_ok.mp h
  obtain ⟨_, -, h⟩ := bind_eq_ok.mp h
  obtain ⟨_, hpoint, -⟩ := bind_eq_ok.mp h
  unfold rejectPoint at hpoint
  split at hpoint
  · cases hpoint
  · rename_i hnone
    simpa using hnone

/-- A stream has one spatial filter at most. -/
theorem streamingContext_oneFilter {lib : Libraries} {settings : Settings} {user : Option User}
    {request : NotificationRequest} {operation : OperationType}
    {context : StreamingRequestContext}
    (h : streamingContext lib settings user request operation = .ok context) :
    request.identifier.get "polygon" = none ∨ request.identifier.get "point" = none := by
  unfold streamingContext at h
  obtain ⟨_, -, h⟩ := bind_eq_ok.mp h
  obtain ⟨_, -, hprocess⟩ := bind_eq_ok.mp h
  have hcontext := mapError_eq_ok.mp hprocess
  unfold processStreaming at hcontext
  obtain ⟨_, hbounds, -⟩ := bind_eq_ok.mp hcontext
  unfold validateReplayParameters at hbounds
  obtain ⟨_, hfilters, -⟩ := bind_eq_ok.mp hbounds
  unfold NotificationRequest.validateSpatialFilters at hfilters
  cases hpolygon : request.identifier.get "polygon" with
  | none => exact Or.inl rfl
  | some polygon =>
    cases hpoint : request.identifier.get "point" with
    | none => exact Or.inr rfl
    | some point =>
      rw [hpolygon, hpoint] at hfilters
      cases hfilters

/-- A notification without an identifier. -/
def bareRequest (eventType : String) : NotificationRequest where
  eventType := eventType
  identifier := ∅
  fromId := none
  fromDate := none
  toId := none
  toDate := none
  payload := none

/-- Without strict mode, a valid event type that has no schema is its own topic. -/
theorem notify_bareRequest (lib : Libraries) (settings : Settings) (eventType : String)
    (hpermissive : settings.resolveNotificationSchemaStrict = false)
    (hschema : settings.schemaOf eventType = none) (hbase : isTopicBase eventType = true) :
    ∃ result, notify lib settings none (bareRequest eventType) = .ok result ∧
      result.topic = eventType := by
  have hauth : enforceStreamAuth settings none eventType .write = .ok () := by
    unfold enforceStreamAuth
    rw [hschema]
    split <;> rfl
  have hvalid := (validateTopicBase_eq_ok eventType).mpr hbase
  have hregistry := registry_getSchema settings eventType
  have hstrict : settings.registry.strict = false := hpermissive
  let result : ProcessingResult :=
    { eventType := eventType
      topic := TopicBuilder.buildGenericTopic eventType ∅
      canonicalizedParams := ∅
      identifierConstraints := ∅
      spatialMetadata := none
      fromSchema := false }
  have hknown : enforceKnownEventType settings eventType = .ok () := by
    unfold enforceKnownEventType
    rw [hpermissive]
    rfl
  have hprocess : processNotificationRequest lib settings (bareRequest eventType) .notify =
      .ok result := by
    unfold processNotificationRequest processRequestWithValues
    rw [show (bareRequest eventType).eventType = eventType from rfl, hregistry, hschema]
    simp only [hvalid, hstrict]
    rfl
  refine ⟨result, ?_, rfl⟩
  unfold notify
  rw [show (bareRequest eventType).eventType = eventType from rfl, hknown, hauth, hprocess]
  rfl

end AvisoServer
