import AvisoServer.Backend.Metered
import AvisoServer.Notification.Storage
import AvisoServer.Routes.Admin
import AvisoServer.Routes.Answers
import AvisoServer.Routes.Dispatch

/-!
# The server

A request passes the auth middleware, is dispatched to its handler, and makes at most one call of
the backend. The metrics count the outcome of its authentication and, on the notification endpoint,
how it ended.
-/

namespace AvisoServer

open Counters

/-! ## 1. Server and state -/

/-- A process with its settings and its backend. The extractors read the body of a wipe request and
the last segment of a path. -/
structure Server (σ : Type) where
  lib : Libraries
  serde : Serde
  settings : Settings
  backend : NotificationBackend σ
  authClient : Option (String → Except AuthClientError String)
  validateJwt : String → String → Option JwtClaims
  wipeStreamName : List UInt8 → Except ServiceResponse String
  pathText : List UInt8 → String
  -- `to_rfc3339_opts` with whole seconds
  formatSeconds : DateTime → String

structure HttpRequest where
  service : ServiceRequest
  body : List UInt8
  requestId : String
  -- what the clock shows while the request is handled
  clock : Clock

/-- Of `AppMetrics`, the families that are labelled by event type and by mode, each with an outcome. -/
structure ServerMetrics where
  notificationsTotal : CounterVec (String × String)
  authRequestsTotal : CounterVec (String × String)

/-- There are no metrics unless they are enabled. -/
structure ServerState (σ : Type) where
  backend : σ
  metrics : Option ServerMetrics

/-- A stream is opened for its context; the schema endpoints read nothing but the settings. -/
inductive Answer where
  | response (response : ServiceResponse)
  | stream (context : StreamingRequestContext)
  | schema (eventType : Option (List UInt8))
  | notRouted

section Metrics

def AuthMode.label : AuthMode → String
  | .direct => "direct"
  | .trustedProxy => "trusted_proxy"

/-- The series that exist from the start: no notification of an unknown event type succeeds. -/
def notificationSeries (settings : Settings) : List (String × String) :=
  (["error", "rejected"].map fun status => ("unknown", status)) ++
    ((settings.notificationSchema.map AList.keys).getD []).flatMap fun eventType =>
      ["success", "error"].map fun status => (eventType, status)

def authSeries : List (String × String) :=
  ["direct", "trusted_proxy"].flatMap fun mode =>
    ["success", "unauthorized", "forbidden", "service_unavailable"].map fun outcome =>
      (mode, outcome)

def ServerMetrics.new (settings : Settings) : ServerMetrics where
  notificationsTotal := touchAll (notificationSeries settings) ∅
  authRequestsTotal := touchAll authSeries ∅

variable {σ : Type}

def ServerState.recordNotification (labels : String × String) (state : ServerState σ) :
    ServerState σ :=
  { state with
    metrics := state.metrics.map fun metrics =>
      { metrics with notificationsTotal := inc labels metrics.notificationsTotal } }

def ServerState.recordAuth (mode : AuthMode) (outcome : Option String) (state : ServerState σ) :
    ServerState σ :=
  match outcome with
  | none => state
  | some outcome =>
    { state with
      metrics := state.metrics.map fun metrics =>
        { metrics with
          authRequestsTotal := inc (mode.label, outcome) metrics.authRequestsTotal } }

end Metrics

/-- How the middleware counts a request: one that goes on without a user is not counted. -/
def AuthMiddleware.outcome (middleware : AuthMiddleware) (request : ServiceRequest) :
    Option String :=
  if !middleware.settings.enabled then none
  else if AuthMiddleware.schemaPath.isPrefixOf request.path then none
  else
    match middleware.call request with
    | .error failure => some failure.reason
    | .ok (some _) => some "success"
    | .ok none => none

/-- The event types of the configuration are the only labels besides a fixed one. -/
def bucketEventTypeForObservability (settings : Settings) (eventType : String) : String :=
  if (settings.schemaOf eventType).isSome then eventType else "generic"

/-- The labels under which the notification endpoint counts a refusal. -/
def RouteError.notificationLabels (eventTypeLabel : String) : RouteError → String × String
  | .unknownEventType _ => ("unknown", "rejected")
  | .auth _ => (eventTypeLabel, "rejected")
  | .validation _ => (eventTypeLabel, "error")
  | .processing _ => (eventTypeLabel, "error")

/-- A notification with a geometry is put with headers. -/
def BackendPut.call (put : BackendPut) (clock : Clock) : BackendCall :=
  match put.headers with
  | none => .putMessages clock put.topic put.payload
  | some headers => .putMessageWithHeaders clock put.topic (some headers) put.payload

/-! ## 2. Handlers -/

namespace Server

variable {σ : Type} (server : Server σ)

def middleware : AuthMiddleware where
  settings := server.settings.auth
  authClient := server.authClient
  validateJwt := server.validateJwt

def start (backend : σ) : ServerState σ where
  backend := backend
  metrics :=
    if server.settings.metrics.enabled then some (ServerMetrics.new server.settings) else none

/-- The notification endpoint up to the storage: the labels and the answer of a refusal, or what is
to be stored, with the label of its event type. -/
def notifyVerdict (user : Option User) (request : HttpRequest) :
    Except ((String × String) × ServiceResponse) (String × BackendPut) :=
  match parseAndValidateRequest server.serde server.lib request.body with
  | .error e =>
    .error (("unknown", "error"), requestParseErrorResponse .notification e request.requestId)
  | .ok notification =>
    let eventTypeLabel :=
      bucketEventTypeForObservability server.settings notification.eventType
    match notify server.lib server.settings user notification with
    | .error e =>
      .error (e.notificationLabels eventTypeLabel,
        e.response .notification server.settings.auth.mode notification.eventType
          request.requestId)
    | .ok result => .ok (eventTypeLabel, notificationPut server.lib notification result)

def notificationResponse (request : HttpRequest) : ServiceResponse where
  status := 200
  challenges := []
  body := .object
    [("status", .string "success"), ("request_id", .string request.requestId),
      ("processed_at", .string (server.formatSeconds request.clock.now))]

def putMessage (put : BackendPut) (clock : Clock) (state : σ) : σ × Result Unit :=
  match put.headers with
  | none => server.backend.putMessages clock put.topic put.payload state
  | some headers =>
    server.backend.putMessageWithHeaders clock put.topic (some headers) put.payload state

def notifyEndpoint (user : Option User) (request : HttpRequest) (state : ServerState σ) :
    ServerState σ × ServiceResponse :=
  match server.notifyVerdict user request with
  | .error (labels, response) => (state.recordNotification labels, response)
  | .ok (eventTypeLabel, put) =>
    let (backend, stored) := server.putMessage put request.clock state.backend
    let state := { state with backend := backend }
    match stored with
    | .error e =>
      (state.recordNotification (eventTypeLabel, "error"),
        processingErrorResponse .notificationStorage e request.requestId)
    | .ok () =>
      (state.recordNotification (eventTypeLabel, "success"), server.notificationResponse request)

/-- Watch and replay, up to the context of the stream they open. -/
def streamEndpoint (kind : RequestKind) (operation : OperationType) (user : Option User)
    (request : HttpRequest) : Answer :=
  match parseAndValidateRequest server.serde server.lib request.body with
  | .error e => .response (requestParseErrorResponse kind e request.requestId)
  | .ok notification =>
    match streamingContext server.lib server.settings user notification operation with
    | .error e =>
      .response (e.response kind server.settings.auth.mode notification.eventType
        request.requestId)
    | .ok context => .stream context

def adminResponse (requestId : String) (answer : Nat × WipeResponse) : ServiceResponse where
  status := answer.1
  challenges := []
  body := .object
    [("success", .bool answer.2.success), ("message", .string answer.2.message),
      ("request_id", .string requestId)]

def deletionResponse (requestId : String) (answer : Nat × DeleteNotificationResponse) :
    ServiceResponse where
  status := answer.1
  challenges := []
  body := .object
    [("success", .bool answer.2.success), ("message", .string answer.2.message),
      ("notification_id", .string answer.2.notificationId), ("request_id", .string requestId)]

def wipeStreamEndpoint (request : HttpRequest) (state : σ) : σ × ServiceResponse :=
  match server.wipeStreamName request.body with
  | .error response => (state, response)
  | .ok streamName =>
    let (state, result) :=
      server.backend.wipeStream (resolveStreamKeyAlias server.settings streamName) state
    (state, adminResponse request.requestId
      (wipeStreamResponse server.settings streamName result))

def wipeAllEndpoint (request : HttpRequest) (state : σ) : σ × ServiceResponse :=
  let (state, result) := server.backend.wipeAll state
  (state, adminResponse request.requestId (wipeAllResponse result))

def deleteNotificationEndpoint (notificationId : List UInt8) (request : HttpRequest) (state : σ) :
    σ × ServiceResponse :=
  let rawId := server.pathText notificationId
  match parseNotificationId rawId with
  | .error message =>
    (state, deletionResponse request.requestId
      (400, { success := false, message := message, notificationId := rawId }))
  | .ok parsed =>
    let (state, result) := server.backend.deleteMessage
      (resolveStreamKeyAlias server.settings parsed.streamKey) parsed.sequence state
    (state, deletionResponse request.requestId (deleteNotificationResponse rawId result))

/-! ## 3. Requests -/

def answer (handler : Handler) (user : Option User) (request : HttpRequest)
    (state : ServerState σ) : ServerState σ × Answer :=
  match handler with
  | .notify =>
    let (state, response) := server.notifyEndpoint user request state
    (state, .response response)
  | .watch => (state, server.streamEndpoint .watch .watch user request)
  | .replay => (state, server.streamEndpoint .replay .replay user request)
  | .getNotificationSchema => (state, .schema none)
  | .getEventSchema eventType => (state, .schema (some eventType))
  | .wipeStream =>
    let (backend, response) := server.wipeStreamEndpoint request state.backend
    ({ state with backend := backend }, .response response)
  | .wipeAll =>
    let (backend, response) := server.wipeAllEndpoint request state.backend
    ({ state with backend := backend }, .response response)
  | .deleteNotification notificationId =>
    let (backend, response) :=
      server.deleteNotificationEndpoint notificationId request state.backend
    ({ state with backend := backend }, .response response)

/-- The middleware wraps the whole scope, also what it does not route. -/
def handle (request : HttpRequest) (state : ServerState σ) : ServerState σ × Answer :=
  if (scope "/api/v1" (requote request.service.path)).isNone then (state, .notRouted)
  else
    let state := state.recordAuth server.settings.auth.mode
      (server.middleware.outcome request.service)
    match server.middleware.call request.service with
    | .error failure =>
      (state, .response (failure.response server.settings.auth.mode request.requestId))
    | .ok user =>
      match dispatch request.service.method request.service.path with
      | none => (state, .notRouted)
      | some handler => server.answer handler user request state

end Server

end AvisoServer
