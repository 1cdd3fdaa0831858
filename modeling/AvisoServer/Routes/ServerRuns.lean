import AvisoServer.Backend.Eviction
import AvisoServer.Routes.AdminGuard
import AvisoServer.Routes.Server
import AvisoServer.Routes.StreamIsolation

/-!
# Runs of the server

What a request does is settled before it is handled, up to the reply of the backend: which call it
makes, if any, and what it is counted as. A run handles requests one after the other, while the
backend may also change by itself.
-/

namespace AvisoServer

open Counters

/-! ## 1. One request -/

namespace Server

variable {σ : Type} (server : Server σ)

/-- The call that a request makes of the backend. -/
def call (request : HttpRequest) : Option BackendCall :=
  match server.middleware.serve request.service with
  | some (.notify, user) =>
    match server.notifyVerdict user request with
    | .ok (_, put) => some (put.call request.clock)
    | .error _ => none
  | some (.wipeStream, _) =>
    match server.wipeStreamName request.body with
    | .ok streamName => some (.wipeStream (resolveStreamKeyAlias server.settings streamName))
    | .error _ => none
  | some (.wipeAll, _) => some .wipeAll
  | some (.deleteNotification notificationId, _) =>
    match parseNotificationId (server.pathText notificationId) with
    | .ok parsed =>
      some (.deleteMessage (resolveStreamKeyAlias server.settings parsed.streamKey)
        parsed.sequence)
    | .error _ => none
  | _ => none

/-- The state of the backend after a request. -/
def performed (request : HttpRequest) (state : σ) : σ :=
  match server.call request with
  | some call => (server.backend.perform call state).1
  | none => state

/-- The labels under which the notification endpoint counts a request. -/
def notificationLabels (request : HttpRequest) (state : σ) : Option (String × String) :=
  match server.middleware.serve request.service with
  | some (.notify, user) =>
    match server.notifyVerdict user request with
    | .error (labels, _) => some labels
    | .ok (eventTypeLabel, put) =>
      some (eventTypeLabel,
        if (server.putMessage put request.clock state).2.isOk then "success" else "error")
  | _ => none

/-- The labels under which the middleware counts a request. -/
def authLabels (request : HttpRequest) : Option (String × String) :=
  if (scope "/api/v1" (requote request.service.path)).isNone then none
  else (server.middleware.outcome request.service).map fun outcome =>
    (server.settings.auth.mode.label, outcome)

theorem putMessage_perform (put : BackendPut) (clock : Clock) (state : σ) :
    server.backend.perform (put.call clock) state =
      ((server.putMessage put clock state).1, .unit (server.putMessage put clock state).2) := by
  obtain ⟨topic, headers, payload⟩ := put
  cases headers <;> rfl

end Server

/-- Both families after one more request. -/
def ServerMetrics.counted (metrics : ServerMetrics) (notification auth : Option (String × String)) :
    ServerMetrics where
  notificationsTotal := record notification.toList metrics.notificationsTotal
  authRequestsTotal := record auth.toList metrics.authRequestsTotal

section Step

variable {σ : Type} {server : Server σ} {request : HttpRequest} {state : ServerState σ}

theorem option_map_counted (metrics : Option ServerMetrics) :
    metrics.map (fun metrics => metrics.counted none none) = metrics := by
  cases metrics <;> rfl

/-- The middleware counts the request, and changes nothing else. -/
theorem recordAuth_eq (mode : AuthMode) (outcome : Option String) (state : ServerState σ) :
    state.recordAuth mode outcome =
      { state with metrics := state.metrics.map fun metrics =>
          metrics.counted none (outcome.map fun outcome => (mode.label, outcome)) } := by
  cases outcome with
  | none => rw [Option.map_none, option_map_counted]; rfl
  | some outcome => rfl

/-- The notification endpoint makes the call of its verdict, and counts the request once. -/
theorem notifyEndpoint_state (user : Option User) (state : ServerState σ)
    (hserve : server.middleware.serve request.service = some (.notify, user)) :
    (server.notifyEndpoint user request state).1 =
      { backend := server.performed request state.backend
        metrics := state.metrics.map fun metrics =>
          metrics.counted (server.notificationLabels request state.backend) none } := by
  unfold Server.notifyEndpoint Server.performed Server.call Server.notificationLabels
  simp only [hserve]
  cases hverdict : server.notifyVerdict user request with
  | error refusal => rfl
  | ok accepted =>
    simp only [Server.putMessage_perform]
    cases hstored : (server.putMessage accepted.2 request.clock state.backend).2 with
    | error e => rfl
    | ok stored => rfl

/-- Every other handler makes the call of its request, and counts nothing. -/
theorem answer_state {handler : Handler} {user : Option User} (state : ServerState σ)
    (hserve : server.middleware.serve request.service = some (handler, user)) :
    (server.answer handler user request state).1 =
      { backend := server.performed request state.backend
        metrics := state.metrics.map fun metrics =>
          metrics.counted (server.notificationLabels request state.backend) none } := by
  -- only the notification endpoint counts a notification
  have hsilent : handler ≠ .notify → server.notificationLabels request state.backend = none := by
    intro hother
    rw [Server.notificationLabels, hserve]
    cases handler with
    | notify => exact absurd rfl hother
    | _ => rfl
  cases handler with
  | notify => exact notifyEndpoint_state user state hserve
  | watch | replay | getNotificationSchema | getEventSchema eventType =>
    rw [hsilent (by simp), option_map_counted]
    unfold Server.performed Server.call
    rw [hserve]
    rfl
  | wipeAll =>
    rw [hsilent (by simp), option_map_counted]
    unfold Server.performed Server.call
    rw [hserve]
    rfl
  | wipeStream =>
    rw [hsilent (by simp), option_map_counted]
    unfold Server.performed Server.call Server.answer Server.wipeStreamEndpoint
    simp only [hserve]
    cases server.wipeStreamName request.body with
    | error response => rfl
    | ok streamName => rfl
  | deleteNotification notificationId =>
    rw [hsilent (by simp), option_map_counted]
    unfold Server.performed Server.call Server.answer Server.deleteNotificationEndpoint
    simp only [hserve]
    cases parseNotificationId (server.pathText notificationId) with
    | error message => rfl
    | ok parsed => rfl

theorem serve_of_dispatch_none {middleware : AuthMiddleware} {request : ServiceRequest}
    (h : dispatch request.method request.path = none) : middleware.serve request = none := by
  rw [AuthMiddleware.serve, h]

theorem serve_of_call_error {middleware : AuthMiddleware} {request : ServiceRequest}
    {failure : AuthFailure} (h : middleware.call request = .error failure) :
    middleware.serve request = none := by
  rw [AuthMiddleware.serve, h]
  cases dispatch request.method request.path <;> rfl

/-- A request without a handler makes no call, and is not counted as a notification. -/
theorem unserved_state (state : ServerState σ)
    (hserve : server.middleware.serve request.service = none) :
    server.performed request state.backend = state.backend ∧
      server.notificationLabels request state.backend = none := by
  unfold Server.performed Server.call Server.notificationLabels
  rw [hserve]
  exact ⟨rfl, rfl⟩

/-- One step of the server: the call of the request, and its labels. -/
theorem handle_state (request : HttpRequest) (state : ServerState σ) :
    (server.handle request state).1 =
      { backend := server.performed request state.backend
        metrics := state.metrics.map fun metrics =>
          metrics.counted (server.notificationLabels request state.backend)
            (server.authLabels request) } := by
  rw [Server.handle, Server.authLabels]
  by_cases hscope : (scope "/api/v1" (requote request.service.path)).isNone = true
  · have hdispatch : dispatch request.service.method request.service.path = none := by
      rw [dispatch, Option.isNone_iff_eq_none.mp hscope]
      rfl
    obtain ⟨hperformed, hlabels⟩ :=
      @unserved_state _ server _ state (serve_of_dispatch_none hdispatch)
    rw [if_pos hscope, if_pos hscope, hperformed, hlabels, option_map_counted]
  · rw [if_neg hscope, if_neg hscope, recordAuth_eq]
    cases hcall : server.middleware.call request.service with
    | error failure =>
      obtain ⟨hperformed, hlabels⟩ :=
        @unserved_state _ server _ state (serve_of_call_error hcall)
      rw [hperformed, hlabels]
    | ok user =>
      cases hdispatch : dispatch request.service.method request.service.path with
      | none =>
        obtain ⟨hperformed, hlabels⟩ :=
          @unserved_state _ server _ state (serve_of_dispatch_none hdispatch)
        rw [hperformed, hlabels]
      | some handler =>
        have hserve : server.middleware.serve request.service = some (handler, user) := by
          rw [AuthMiddleware.serve, hdispatch, hcall]
        simp only [answer_state _ hserve, Option.map_map]
        rfl

theorem handle_notify {user : Option User} (state : ServerState σ)
    (hserve : server.middleware.serve request.service = some (.notify, user)) :
    ∃ recorded : ServerState σ, recorded.backend = state.backend ∧
      (server.handle request state).2 =
        .response (server.notifyEndpoint user request recorded).2 := by
  refine ⟨state.recordAuth server.settings.auth.mode (server.middleware.outcome request.service),
    by rw [recordAuth_eq], ?_⟩
  obtain ⟨hdispatch, hcall⟩ := serve_eq_some.mp hserve
  have hscope : (scope "/api/v1" (requote request.service.path)).isNone = false := by
    cases hfound : scope "/api/v1" (requote request.service.path) with
    | none =>
      rw [dispatch, hfound] at hdispatch
      cases hdispatch
    | some rest => rfl
  rw [Server.handle, if_neg (by rw [hscope]; decide)]
  simp only [hcall, hdispatch]
  rfl

end Step

/-! ## 2. Runs -/

/-- A request, with the state it was handled in. -/
structure Handled (σ : Type) where
  before : ServerState σ
  request : HttpRequest

/-- Requests one after the other; what is outside of the server may change the backend at any time. -/
inductive ServerRun {σ : Type} (server : Server σ) (outside : σ → σ → Prop) (backend : σ) :
    List (Handled σ) → ServerState σ → Prop where
  | start : ServerRun server outside backend [] (server.start backend)
  | handle {events : List (Handled σ)} {state : ServerState σ} (request : HttpRequest) :
      ServerRun server outside backend events state →
      ServerRun server outside backend (events ++ [⟨state, request⟩])
        (server.handle request state).1
  | outside {events : List (Handled σ)} {state : ServerState σ} {next : σ} :
      outside state.backend next → ServerRun server outside backend events state →
      ServerRun server outside backend events { state with backend := next }

section Runs

variable {σ : Type} (server : Server σ)

def Handled.answer (handled : Handled σ) : Answer :=
  (server.handle handled.request handled.before).2

def Handled.notificationLabels (handled : Handled σ) : Option (String × String) :=
  server.notificationLabels handled.request handled.before.backend

variable {server}

/-- A request was handled in a state that the run had reached. -/
theorem serverRun_before {outside : σ → σ → Prop} {backend : σ} {events : List (Handled σ)}
    {state : ServerState σ} (hrun : ServerRun server outside backend events state)
    {handled : Handled σ} (h : handled ∈ events) :
    ∃ earlier, List.IsPrefix earlier events ∧
      ServerRun server outside backend earlier handled.before := by
  induction hrun with
  | start => cases h
  | outside _ _ ih => exact ih h
  | @handle events state request hbefore ih =>
    cases List.mem_append.mp h with
    | inl hearlier =>
      obtain ⟨earlier, hpre, hreached⟩ := ih hearlier
      exact ⟨earlier, hpre.trans (List.prefix_append _ _), hreached⟩
    | inr hlast =>
      cases List.mem_singleton.mp hlast
      exact ⟨events, List.prefix_append _ _, hbefore⟩

/-- After a run the families have counted every request of it. -/
theorem serverRun_metrics {outside : σ → σ → Prop} {backend : σ} {events : List (Handled σ)}
    {state : ServerState σ} (hrun : ServerRun server outside backend events state) :
    state.metrics = (server.start backend).metrics.map fun metrics =>
      { notificationsTotal :=
          record (events.filterMap (Handled.notificationLabels server)) metrics.notificationsTotal
        authRequestsTotal :=
          record (events.filterMap fun handled => server.authLabels handled.request)
            metrics.authRequestsTotal } := by
  induction hrun with
  | start => cases (server.start backend).metrics <;> rfl
  | outside _ _ ih => exact ih
  | @handle events state request hbefore ih =>
    rw [handle_state, ih, Option.map_map]
    refine congrArg (fun f => Option.map f (server.start backend).metrics) (funext fun metrics => ?_)
    have hlast : ∀ (labels : Handled σ → Option (String × String)) (last : Handled σ),
        (events ++ [last]).filterMap labels =
          events.filterMap labels ++ (labels last).toList := by
      intro labels last
      rw [List.filterMap_append, List.filterMap_cons, List.filterMap_nil]
      cases labels last <;> rfl
    rw [hlast, hlast, record_append, record_append]
    rfl

end Runs

/-! ## 3. A server with one stream -/

section Requests

variable {σ : Type} {server : Server σ}

/-- The requests one after the other, with nothing in between. -/
def Server.handleAll (server : Server σ) : List HttpRequest → List (Handled σ) → ServerState σ →
    List (Handled σ) × ServerState σ
  | [], events, state => (events, state)
  | request :: requests, events, state =>
    server.handleAll requests (events ++ [⟨state, request⟩]) (server.handle request state).1

theorem handleAll_run {outside : σ → σ → Prop} {backend : σ} {events : List (Handled σ)}
    {state : ServerState σ} (requests : List HttpRequest)
    (hrun : ServerRun server outside backend events state) :
    ServerRun server outside backend (server.handleAll requests events state).1
      (server.handleAll requests events state).2 := by
  induction requests generalizing events state with
  | nil => exact hrun
  | cons request requests ih => exact ih (hrun.handle request)

end Requests

-- the one stream, under the base `secret`, has readers and writers, and unknown event types are
-- refused
def guardedAuth : StreamAuthConfig where
  required := true
  readRoles := some (AList.singleton "realm" ["reader"])
  writeRoles := some (AList.singleton "realm" ["writer"])
  plugins := none

def guardedSchema : EventSchema :=
  { secretSchema with auth := some guardedAuth }

def guardedSettings : Settings :=
  { openSettings with
    notificationSchema := some (AList.singleton "private" guardedSchema)
    notificationSchemaStrict := none
    metrics := { enabled := true, port := some 9090 } }

def guardedServer : Server BackendState where
  lib := plainLibraries
  serde :=
    { fromSlice := fun body =>
        if body = asBytes "od" then
          .ok (.object
            [("event_type", .string "private"), ("identifier", .object [("class", .string "od")])])
        else .error "expected value"
      shapeError := fun _ => "invalid type" }
  settings := guardedSettings
  backend := inMemoryBackend pairConfig plainLibraries.toLowercase
  authClient := none
  validateJwt := fun token _ =>
    if token = "a.b.c" then
      some
        { sub := some "ann", username := none, realm := some "realm", roles := ["writer"],
          attributes := ∅ }
    else if token = "d.e.f" then
      some
        { sub := some "bob", username := none, realm := some "realm", roles := ["reader"],
          attributes := ∅ }
    else none
  wipeStreamName := fun _ => .ok "private"
  pathText := fun _ => ""
  formatSeconds := fun _ => ""

def sampleRequest (method : Method) (path body : String) (token : Option String) :
    HttpRequest where
  service :=
    { method := method
      path := asBytes path
      authorization := token.map fun token => asBytes ("Bearer " ++ token) }
  body := asBytes body
  requestId := "r"
  clock := ⟨1, fun _ => 1⟩

/-- A writer's notification, a reader's watch, a body that is no request, and a wipe without
credentials. -/
def guardedRun : List (Handled BackendState) × ServerState BackendState :=
  guardedServer.handleAll
    [sampleRequest .post "/api/v1/notification" "od" (some "a.b.c"),
      sampleRequest .post "/api/v1/watch" "od" (some "d.e.f"),
      sampleRequest .post "/api/v1/notification" "" none,
      sampleRequest .delete "/api/v1/admin/wipe/all" "" none]
    [] (guardedServer.start BackendState.initial)

end AvisoServer
