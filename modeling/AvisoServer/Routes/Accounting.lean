import AvisoServer.Lib.Rejections
import AvisoServer.Routes.ServerRuns

/-!
# What the metrics count

A monitor of the answers can tell what the metrics show. Each request that reaches the notification
endpoint is counted once, under the event type of its body and the status of its answer, and no
body adds a series of its own.
-/

namespace AvisoServer

open Counters Rejections

/-! ## 1. Answers of the notification endpoint -/

def ServiceResponse.code (response : ServiceResponse) : Option String :=
  (response.body.get "code").bind Json.asStr

/-- What an answer says: stored, refused by a rule of access, or anything else. -/
def ServiceResponse.notificationStatus (response : ServiceResponse) : String :=
  if response.status = 200 then "success"
  else if response.status = 401 ∨ response.status = 403 ∨
      response.code = some "UNKNOWN_EVENT_TYPE" then "rejected"
  else "error"

/-- What a body says: its event type if that is configured, and fixed labels for all others. -/
def Server.eventTypeLabel {σ : Type} (server : Server σ) (body : List UInt8) : String :=
  match parseAndValidateRequest server.serde server.lib body with
  | .error _ => "unknown"
  | .ok notification =>
    if (enforceKnownEventType server.settings notification.eventType).isOk then
      bucketEventTypeForObservability server.settings notification.eventType
    else "unknown"

theorem authorizeStream_rejects (auth : AuthSettings) (streamAuth : StreamAuthConfig)
    (user : Option User) (operation : StreamOperation) :
    Rejects (fun failure => failure.statusCode = 401 ∨ failure.statusCode = 403)
      (authorizeStream auth streamAuth user operation) := by
  unfold authorizeStream
  refine Rejects.ite (fun _ => Rejects.ok ()) fun _ => ?_
  cases user with
  | none => exact Rejects.error (Or.inl rfl)
  | some user =>
    have hroles : ∀ (refused : Prop) [Decidable refused] (message : String),
        Rejects (fun failure => failure.statusCode = 401 ∨ failure.statusCode = 403)
          (if refused then .error (.forbidden message) else .ok () :
            Except AuthFailure Unit) :=
      fun _ _ message => Rejects.ite (fun _ => Rejects.error (Or.inr rfl)) fun _ => Rejects.ok ()
    cases operation with
    | read =>
      cases streamAuth.readRoles with
      | none => exact Rejects.ok ()
      | some roles => exact hroles _ _
    | write =>
      cases streamAuth.writeRoles with
      | none => exact hroles _ _
      | some roles => exact hroles _ _

/-- The rule of a stream refuses with 401 or 403. -/
theorem enforceStreamAuth_rejects (settings : Settings) (user : Option User) (eventType : String)
    (operation : StreamOperation) :
    Rejects (fun failure => failure.statusCode = 401 ∨ failure.statusCode = 403)
      (enforceStreamAuth settings user eventType operation) := by
  rw [enforceStreamAuth]
  refine Rejects.ite (fun _ => Rejects.ok ()) fun _ => ?_
  cases (settings.schemaOf eventType).bind (·.auth) with
  | none => exact Rejects.ok ()
  | some streamAuth => exact authorizeStream_rejects settings.auth streamAuth user operation

/-- How the handler refuses a request whose event type is known, or not. -/
def RouteError.Refuses (known : Bool) : RouteError → Prop
  | .unknownEventType _ => known = false
  | .auth failure => known = true ∧ (failure.statusCode = 401 ∨ failure.statusCode = 403)
  | .validation _ => known = true
  | .processing _ => known = true

theorem notify_rejects (lib : Libraries) (settings : Settings) (user : Option User)
    (request : NotificationRequest) :
    Rejects (RouteError.Refuses (enforceKnownEventType settings request.eventType).isOk)
      (notify lib settings user request) := by
  rw [notify]
  cases hknown : enforceKnownEventType settings request.eventType with
  | error e =>
    rw [enforceKnownEventType] at hknown
    split at hknown
    · cases hknown
      exact Rejects.error rfl
    · cases hknown
  | ok known =>
    refine Rejects.bind (Rejects.ok known) fun _ _ => ?_
    refine Rejects.bind (Rejects.mapError fun _ _ => rfl) fun _ _ => ?_
    refine Rejects.bind ?_ fun _ _ => ?_
    · rw [rejectPoint]
      exact Rejects.ite (fun _ => Rejects.error rfl) fun _ => Rejects.ok ()
    refine Rejects.bind (Rejects.mapError fun failure hfailure => ?_) fun _ _ => ?_
    · exact ⟨rfl, enforceStreamAuth_rejects _ _ _ _ failure hfailure⟩
    refine Rejects.mapError fun refusal _ => ?_
    obtain ⟨kind, e⟩ := refusal
    cases kind <;> rfl

theorem code_errorBody (code : ApiErrorCode) (label message details requestId : String) :
    (Json.get (errorBody code label message details requestId) "code").bind Json.asStr =
      some code.asStr := by
  simp [errorBody, Json.get, Json.asObject, Json.asStr]

theorem ApiErrorCode.asStr_ne_unknown (code : ApiErrorCode) :
    code.asStr ≠ "UNKNOWN_EVENT_TYPE" := by
  cases code <;> decide

/-- An answer with one of the stable codes is neither a success nor a refused access. -/
theorem notificationStatus_errorBody {response : ServiceResponse} {code : ApiErrorCode}
    {label message details requestId : String}
    (hstatus : response.status = 400 ∨ response.status = 500)
    (hbody : response.body = errorBody code label message details requestId) :
    response.notificationStatus = "error" := by
  have hcode : response.code ≠ some "UNKNOWN_EVENT_TYPE" := by
    rw [ServiceResponse.code, hbody, code_errorBody]
    exact fun heq => code.asStr_ne_unknown (Option.some.inj heq)
  have hnot : ¬ (response.status = 401 ∨ response.status = 403 ∨
      response.code = some "UNKNOWN_EVENT_TYPE") := by
    intro h
    rcases h with h | h | h
    · omega
    · omega
    · exact hcode h
  rw [ServiceResponse.notificationStatus, if_neg (by omega), if_neg hnot]

theorem notificationStatus_ok {response : ServiceResponse} :
    response.notificationStatus = "success" ↔ response.status = 200 := by
  rw [ServiceResponse.notificationStatus]
  by_cases hstatus : response.status = 200
  · rw [if_pos hstatus]
    exact iff_of_true rfl hstatus
  · rw [if_neg hstatus]
    refine iff_of_false ?_ hstatus
    by_cases hrefused : response.status = 401 ∨ response.status = 403 ∨
        response.code = some "UNKNOWN_EVENT_TYPE"
    · rw [if_pos hrefused]
      decide
    · rw [if_neg hrefused]
      decide

theorem notificationStatus_rejected {response : ServiceResponse} (hstatus : response.status ≠ 200)
    (hrefused : response.status = 401 ∨ response.status = 403 ∨
      response.code = some "UNKNOWN_EVENT_TYPE") : response.notificationStatus = "rejected" := by
  rw [ServiceResponse.notificationStatus, if_neg hstatus, if_pos hrefused]

/-- The labels of a refusal say what its answer says. -/
theorem RouteError.response_labels {known : Bool} {e : RouteError} (h : e.Refuses known)
    (eventTypeLabel eventType requestId : String) (mode : AuthMode) :
    e.notificationLabels eventTypeLabel =
      (if known then eventTypeLabel else "unknown",
        (e.response .notification mode eventType requestId).notificationStatus) := by
  cases e with
  | unknownEventType configured =>
    obtain rfl : known = false := h
    have hcode : ((RouteError.unknownEventType configured).response .notification mode eventType
        requestId).code = some "UNKNOWN_EVENT_TYPE" := by
      simp [RouteError.response, ServiceResponse.code, Json.get, Json.asObject, Json.asStr]
    rw [notificationStatus_rejected (response_ne_ok _ _ _ _ _) (Or.inr (Or.inr hcode))]
    rfl
  | auth failure =>
    obtain ⟨rfl, hcode⟩ := h
    rw [@notificationStatus_rejected
      ((RouteError.auth failure).response .notification mode eventType requestId)
      (response_ne_ok _ _ _ _ _) (hcode.imp_right Or.inl)]
    rfl
  | validation e =>
    obtain rfl : known = true := h
    rw [notificationStatus_errorBody (Or.inl rfl) rfl]
    rfl
  | processing e =>
    obtain rfl : known = true := h
    rw [notificationStatus_errorBody (Or.inr rfl) rfl]
    rfl

section Endpoint

variable {σ : Type} {server : Server σ} {user : Option User} {request : HttpRequest}

theorem notifyVerdict_error {labels : String × String} {response : ServiceResponse}
    (h : server.notifyVerdict user request = .error (labels, response)) :
    labels = (server.eventTypeLabel request.body, response.notificationStatus) ∧
      response.status ≠ 200 := by
  unfold Server.notifyVerdict at h
  unfold Server.eventTypeLabel
  cases hparse : parseAndValidateRequest server.serde server.lib request.body with
  | error e =>
    simp only [hparse] at h ⊢
    cases h
    refine ⟨?_, (by decide : 400 ≠ 200)⟩
    rw [notificationStatus_errorBody (Or.inl rfl) rfl]
  | ok notification =>
    simp only [hparse] at h ⊢
    cases hnotify : notify server.lib server.settings user notification with
    | ok result =>
      rw [hnotify] at h
      cases h
    | error e =>
      rw [hnotify] at h
      cases h
      have hrefuses := notify_rejects server.lib server.settings user notification e hnotify
      exact ⟨e.response_labels hrefuses _ _ _ _, e.response_ne_ok _ _ _ _⟩

theorem notifyVerdict_ok {eventTypeLabel : String} {put : BackendPut}
    (h : server.notifyVerdict user request = .ok (eventTypeLabel, put)) :
    eventTypeLabel = server.eventTypeLabel request.body ∧
      ∃ notification result,
        parseAndValidateRequest server.serde server.lib request.body = .ok notification ∧
        notify server.lib server.settings user notification = .ok result ∧
        put = notificationPut server.lib notification result := by
  unfold Server.notifyVerdict at h
  unfold Server.eventTypeLabel
  cases hparse : parseAndValidateRequest server.serde server.lib request.body with
  | error e =>
    simp only [hparse] at h
    cases h
  | ok notification =>
    simp only [hparse] at h ⊢
    cases hnotify : notify server.lib server.settings user notification with
    | error e =>
      rw [hnotify] at h
      cases h
    | ok result =>
      rw [hnotify] at h
      cases h
      refine ⟨?_, notification, result, rfl, hnotify, rfl⟩
      have hknown : (enforceKnownEventType server.settings notification.eventType).isOk = true := by
        unfold notify at hnotify
        obtain ⟨known, hok, -⟩ := bind_eq_ok.mp hnotify
        rw [hok]
        rfl
      rw [if_pos hknown]

/-- The labels of a request that reaches the endpoint are those of its body and of its answer, and
it counts as a success exactly if its notification was stored. -/
theorem notificationLabels_answer (state : ServerState σ)
    (hserve : server.middleware.serve request.service = some (.notify, user)) :
    ∃ response, (server.handle request state).2 = .response response ∧
      server.notificationLabels request state.backend =
        some (server.eventTypeLabel request.body, response.notificationStatus) ∧
      (response.status = 200 ↔ ∃ eventTypeLabel put,
        server.notifyVerdict user request = .ok (eventTypeLabel, put) ∧
          (server.putMessage put request.clock state.backend).2 = .ok ()) := by
  obtain ⟨recorded, hbackend, hanswer⟩ := handle_notify state hserve
  refine ⟨_, hanswer, ?_⟩
  rw [Server.notificationLabels, hserve]
  simp only
  -- refused, accepted but not stored, or stored
  cases hverdict : server.notifyVerdict user request with
  | error refusal =>
    obtain ⟨labels, response⟩ := refusal
    obtain ⟨hlabels, hstatus⟩ := notifyVerdict_error hverdict
    rw [Server.notifyEndpoint, hverdict]
    refine ⟨congrArg some hlabels, iff_of_false hstatus ?_⟩
    intro h
    obtain ⟨_, _, hok, -⟩ := h
    cases hok
  | ok accepted =>
    obtain ⟨eventTypeLabel, put⟩ := accepted
    obtain ⟨hlabel, -⟩ := notifyVerdict_ok hverdict
    rw [Server.notifyEndpoint, hverdict]
    simp only [hbackend]
    cases hstored : (server.putMessage put request.clock state.backend).2 with
    | error e =>
      simp only
      refine ⟨?_, iff_of_false (by decide : 500 ≠ 200) ?_⟩
      · rw [notificationStatus_errorBody (Or.inr rfl) rfl, hlabel]
        rfl
      · intro h
        obtain ⟨_, _, hok, hput⟩ := h
        cases hok
        rw [hstored] at hput
        cases hput
    | ok stored =>
      simp only
      refine ⟨?_, iff_of_true rfl ⟨eventTypeLabel, put, rfl, hstored⟩⟩
      rw [notificationStatus_ok.mpr rfl, hlabel]
      rfl

end Endpoint

/-! ## 2. What the series count -/

def Answer.notificationStatus : Answer → Option String
  | .response answered => some answered.notificationStatus
  | _ => none

def Server.routesToNotify {σ : Type} (server : Server σ) (request : HttpRequest) : Bool :=
  match server.middleware.serve request.service with
  | some (.notify, _) => true
  | _ => false

section Counting

variable {σ : Type} (server : Server σ)

/-- What can be told of a request on the notification endpoint by its body and its answer. -/
def Handled.observed (handled : Handled σ) : Option (String × String) :=
  if server.routesToNotify handled.request then
    (handled.answer server).notificationStatus.map fun status =>
      (server.eventTypeLabel handled.request.body, status)
  else none

/-- The backend has stored the notification of the request. -/
def Handled.Stores (handled : Handled σ) : Prop :=
  ∃ user eventTypeLabel put,
    server.middleware.serve handled.request.service = some (.notify, user) ∧
      server.notifyVerdict user handled.request = .ok (eventTypeLabel, put) ∧
      (server.putMessage put handled.request.clock handled.before.backend).2 = .ok ()

variable {server}

theorem routesToNotify_iff {request : HttpRequest} :
    server.routesToNotify request = true ↔
      ∃ user, server.middleware.serve request.service = some (.notify, user) := by
  rw [Server.routesToNotify]
  cases server.middleware.serve request.service with
  | none => simp
  | some served =>
    obtain ⟨handler, user⟩ := served
    cases handler <;> simp

theorem notificationLabels_eq (handled : Handled σ) :
    handled.notificationLabels server = handled.observed server := by
  rw [Handled.observed]
  by_cases hroutes : server.routesToNotify handled.request = true
  · obtain ⟨user, hserve⟩ := routesToNotify_iff.mp hroutes
    obtain ⟨response, hanswer, hlabels, -⟩ := notificationLabels_answer handled.before hserve
    rw [if_pos hroutes, Handled.answer, hanswer]
    exact hlabels
  · rw [if_neg hroutes, Handled.notificationLabels, Server.notificationLabels]
    cases hserve : server.middleware.serve handled.request.service with
    | none => rfl
    | some served =>
      obtain ⟨handler, user⟩ := served
      cases handler with
      | notify => exact absurd (routesToNotify_iff.mpr ⟨user, hserve⟩) hroutes
      | _ => rfl

/-- A success has been stored, and nothing else has. -/
theorem observed_success (handled : Handled σ) :
    (∃ label, handled.observed server = some (label, "success")) ↔ handled.Stores server := by
  rw [← notificationLabels_eq]
  constructor
  · intro h
    obtain ⟨label, hlabel⟩ := h
    have hroutes : server.routesToNotify handled.request = true := by
      by_contra hother
      rw [notificationLabels_eq, Handled.observed, if_neg hother] at hlabel
      cases hlabel
    obtain ⟨user, hserve⟩ := routesToNotify_iff.mp hroutes
    obtain ⟨response, -, hlabels, hstored⟩ := notificationLabels_answer handled.before hserve
    rw [Handled.notificationLabels, hlabels] at hlabel
    have hstatus := congrArg Prod.snd (Option.some.inj hlabel)
    obtain ⟨eventTypeLabel, put, hverdict, hput⟩ :=
      hstored.mp (notificationStatus_ok.mp hstatus)
    exact ⟨user, eventTypeLabel, put, hserve, hverdict, hput⟩
  · intro h
    obtain ⟨user, eventTypeLabel, put, hserve, hverdict, hput⟩ := h
    obtain ⟨response, -, hlabels, hstored⟩ := notificationLabels_answer handled.before hserve
    refine ⟨server.eventTypeLabel handled.request.body, ?_⟩
    rw [Handled.notificationLabels, hlabels,
      notificationStatus_ok.mpr (hstored.mpr ⟨eventTypeLabel, put, hverdict, hput⟩)]

theorem eventTypeLabel_bounded (body : List UInt8) :
    server.eventTypeLabel body = "unknown" ∨ server.eventTypeLabel body = "generic" ∨
      (server.settings.schemaOf (server.eventTypeLabel body)).isSome = true := by
  rw [Server.eventTypeLabel]
  cases parseAndValidateRequest server.serde server.lib body with
  | error e => exact Or.inl rfl
  | ok notification =>
    simp only
    by_cases hknown :
        (enforceKnownEventType server.settings notification.eventType).isOk = true
    · rw [if_pos hknown, bucketEventTypeForObservability]
      by_cases hschema : (server.settings.schemaOf notification.eventType).isSome = true
      · rw [if_pos hschema]
        exact Or.inr (Or.inr hschema)
      · rw [if_neg hschema]
        exact Or.inr (Or.inl rfl)
    · rw [if_neg hknown]
      exact Or.inl rfl

theorem notificationStatus_mem (response : ServiceResponse) :
    response.notificationStatus ∈ ["success", "rejected", "error"] := by
  rw [ServiceResponse.notificationStatus]
  split_ifs <;> decide

theorem observed_labels {handled : Handled σ} {labels : String × String}
    (h : handled.observed server = some labels) :
    labels.1 = server.eventTypeLabel handled.request.body ∧
      labels.2 ∈ ["success", "rejected", "error"] := by
  rw [Handled.observed] at h
  split_ifs at h
  obtain ⟨status, hstatus, rfl⟩ := Option.map_eq_some_iff.mp h
  refine ⟨rfl, ?_⟩
  cases hanswer : handled.answer server with
  | response answered =>
    rw [hanswer] at hstatus
    cases hstatus
    exact notificationStatus_mem answered
  | stream context =>
    rw [hanswer] at hstatus
    cases hstatus
  | schema eventType =>
    rw [hanswer] at hstatus
    cases hstatus
  | notRouted =>
    rw [hanswer] at hstatus
    cases hstatus

theorem observed_isSome (handled : Handled σ) :
    (handled.observed server).isSome = server.routesToNotify handled.request := by
  by_cases hroutes : server.routesToNotify handled.request = true
  · obtain ⟨user, hserve⟩ := routesToNotify_iff.mp hroutes
    obtain ⟨response, hanswer, -, -⟩ := notificationLabels_answer handled.before hserve
    rw [Handled.observed, if_pos hroutes, Handled.answer, hanswer, hroutes]
    rfl
  · rw [Handled.observed, if_neg hroutes, Bool.eq_false_of_not_eq_true hroutes]
    rfl

/-! ## 3. Authentication -/

theorem mem_authSeries (mode : AuthMode) {outcome : String}
    (h : outcome ∈ ["success", "unauthorized", "forbidden", "service_unavailable"]) :
    (mode.label, outcome) ∈ authSeries := by
  refine List.mem_flatMap.mpr ⟨mode.label, ?_, List.mem_map.mpr ⟨outcome, h, rfl⟩⟩
  cases mode <;> decide

theorem AuthFailure.reason_mem (failure : AuthFailure) :
    failure.reason ∈ ["success", "unauthorized", "forbidden", "service_unavailable"] := by
  cases failure with
  | unauthorized message => exact List.mem_cons_of_mem _ List.mem_cons_self
  | forbidden message =>
    exact List.mem_cons_of_mem _ (List.mem_cons_of_mem _ List.mem_cons_self)
  | serviceUnavailable message =>
    exact List.mem_cons_of_mem _ (List.mem_cons_of_mem _ (List.mem_cons_of_mem _
      List.mem_cons_self))

theorem authLabels_mem {request : HttpRequest} {labels : String × String}
    (h : server.authLabels request = some labels) : labels ∈ authSeries := by
  unfold Server.authLabels AuthMiddleware.outcome at h
  split_ifs at h with hscope hdisabled hschema
  · cases h
  · cases h
  · cases hcall : server.middleware.call request.service with
    | error failure =>
      rw [hcall] at h
      cases h
      exact mem_authSeries _ failure.reason_mem
    | ok user =>
      rw [hcall] at h
      cases user with
      | none => cases h
      | some user =>
        cases h
        exact mem_authSeries _ List.mem_cons_self

/-- Any outcome but a success is the answer, and no handler runs. -/
theorem authLabels_refused {request : HttpRequest} {state : ServerState σ} {mode outcome : String}
    (h : server.authLabels request = some (mode, outcome)) (hrefused : outcome ≠ "success") :
    ∃ failure : AuthFailure, outcome = failure.reason ∧
      (server.handle request state).2 =
        .response (failure.response server.settings.auth.mode request.requestId) ∧
      server.performed request state.backend = state.backend := by
  unfold Server.authLabels AuthMiddleware.outcome at h
  split_ifs at h with hscope hdisabled hschema
  · cases h
  · cases h
  · cases hcall : server.middleware.call request.service with
    | error failure =>
      rw [hcall] at h
      cases h
      refine ⟨failure, rfl, ?_, ?_⟩
      · rw [Server.handle, if_neg hscope]
        simp only [hcall]
      · exact (unserved_state state (serve_of_call_error hcall)).1
    | ok user =>
      rw [hcall] at h
      cases user with
      | none => cases h
      | some user =>
        cases h
        exact absurd rfl hrefused

end Counting

/-! ## 4. Runs -/

/-- What the metrics say of the requests and the answers of a run. -/
structure CountsAnswers {σ : Type} (server : Server σ) (events : List (Handled σ))
    (metrics : ServerMetrics) : Prop where
  notifications : ∀ labels, value metrics.notificationsTotal labels =
    events.countP fun handled => decide (handled.observed server = some labels)
  /-- every request that reaches the endpoint is counted once -/
  complete : total metrics.notificationsTotal =
    events.countP fun handled => server.routesToNotify handled.request
  /-- the successes are the notifications that were stored -/
  stored : ∀ handled ∈ events, (∃ label, handled.observed server = some (label, "success")) ↔
    handled.Stores server
  /-- the configuration bounds the series, whatever event types are sent -/
  bounded : ∀ labels ∈ metrics.notificationsTotal,
    (labels.1 = "unknown" ∨ labels.1 = "generic" ∨
      (server.settings.schemaOf labels.1).isSome = true) ∧
    labels.2 ∈ ["success", "rejected", "error"]
  auth : ∀ labels, value metrics.authRequestsTotal labels =
    events.countP fun handled => decide (server.authLabels handled.request = some labels)
  authBounded : ∀ labels, labels ∈ metrics.authRequestsTotal ↔ labels ∈ authSeries
  /-- a request that is not authenticated is answered so, and leaves the backend alone -/
  refused : ∀ handled ∈ events, ∀ mode outcome,
    server.authLabels handled.request = some (mode, outcome) → outcome ≠ "success" →
    ∃ failure : AuthFailure, outcome = failure.reason ∧
      handled.answer server =
        .response (failure.response server.settings.auth.mode handled.request.requestId) ∧
      server.performed handled.request handled.before.backend = handled.before.backend

theorem notificationSeries_bounded {settings : Settings} {labels : String × String}
    (h : labels ∈ notificationSeries settings) :
    (labels.1 = "unknown" ∨ labels.1 = "generic" ∨
      (settings.schemaOf labels.1).isSome = true) ∧
    labels.2 ∈ ["success", "rejected", "error"] := by
  cases List.mem_append.mp h with
  | inl hunknown =>
    obtain ⟨status, hstatus, rfl⟩ := List.mem_map.mp hunknown
    refine ⟨Or.inl rfl, ?_⟩
    simp only [List.mem_cons, List.not_mem_nil, or_false] at hstatus ⊢
    exact hstatus.elim (fun h => Or.inr (Or.inr h)) fun h => Or.inr (Or.inl h)
  | inr hschema =>
    obtain ⟨eventType, hkey, hpair⟩ := List.mem_flatMap.mp hschema
    obtain ⟨status, hstatus, rfl⟩ := List.mem_map.mp hpair
    constructor
    · refine Or.inr (Or.inr ?_)
      unfold Settings.schemaOf
      cases hschemas : settings.notificationSchema with
      | none =>
        rw [hschemas] at hkey
        cases hkey
      | some schemas =>
        rw [hschemas] at hkey
        exact AList.lookup_isSome.mpr hkey
    · simp only [List.mem_cons, List.not_mem_nil, or_false] at hstatus ⊢
      exact hstatus.elim Or.inl fun h => Or.inr (Or.inr h)

/-- After every run over any backend, whatever happens to it in between, the metrics are those that
the requests and the answers of the run tell. -/
theorem serverMetrics_countAnswers {σ : Type} {server : Server σ} {outside : σ → σ → Prop}
    {backend : σ} (hmetrics : server.settings.metrics.enabled = true)
    {events : List (Handled σ)} {state : ServerState σ}
    (hrun : ServerRun server outside backend events state) :
    ∃ metrics, state.metrics = some metrics ∧ CountsAnswers server events metrics := by
  have hstart : (server.start backend).metrics = some (ServerMetrics.new server.settings) := by
    rw [Server.start, if_pos hmetrics]
  have hrecorded := serverRun_metrics hrun
  rw [hstart, Option.map_some] at hrecorded
  have hlabels : Handled.notificationLabels server = Handled.observed server :=
    funext notificationLabels_eq
  rw [hlabels] at hrecorded
  refine ⟨_, hrecorded, ?_, ?_, fun handled _ => observed_success handled, ?_, ?_, ?_, ?_⟩
  · intro labels
    show value (record _ (touchAll _ ∅)) labels = _
    rw [value_record_filterMap, value_touchAll, value_of_notMem (AList.notMem_empty labels),
      Nat.zero_add]
  · show total (record _ (touchAll _ ∅)) = _
    have hempty : total (∅ : CounterVec (String × String)) = 0 := rfl
    rw [total_record_filterMap, total_touchAll, hempty, Nat.zero_add]
    exact List.countP_congr fun handled _ => by rw [observed_isSome]
  · intro labels hseries
    rcases mem_record.mp hseries with hcounted | hinitial
    · obtain ⟨handled, -, hobserved⟩ := List.mem_filterMap.mp hcounted
      obtain ⟨hlabel, hstatus⟩ := observed_labels hobserved
      rw [hlabel]
      exact ⟨eventTypeLabel_bounded _, hstatus⟩
    · cases mem_touchAll.mp hinitial with
      | inl hseries => exact notificationSeries_bounded hseries
      | inr hempty => exact absurd hempty (AList.notMem_empty labels)
  · intro labels
    show value (record _ (touchAll _ ∅)) labels = _
    rw [value_record_filterMap, value_touchAll, value_of_notMem (AList.notMem_empty labels),
      Nat.zero_add]
  · intro labels
    show labels ∈ record _ (touchAll _ ∅) ↔ _
    rw [mem_record, mem_touchAll]
    constructor
    · intro h
      rcases h with hcounted | hseries | hempty
      · obtain ⟨handled, -, hauth⟩ := List.mem_filterMap.mp hcounted
        exact authLabels_mem hauth
      · exact hseries
      · exact absurd hempty (AList.notMem_empty labels)
    · exact fun h => Or.inr (Or.inl h)
  · intro handled _ mode outcome hauth hrefused
    exact authLabels_refused hauth hrefused

theorem serverMetrics_countAnswers_guarded :
    (∃ metrics, guardedRun.2.metrics = some metrics ∧
      CountsAnswers guardedServer guardedRun.1 metrics) ∧
    (guardedRun.2.metrics.map fun metrics =>
      [value metrics.notificationsTotal ("private", "success"),
        value metrics.notificationsTotal ("unknown", "error"),
        total metrics.notificationsTotal,
        value metrics.authRequestsTotal ("trusted_proxy", "unauthorized")]) = some [1, 1, 2, 1] :=
  ⟨@serverMetrics_countAnswers BackendState guardedServer (fun _ _ => False) BackendState.initial
      rfl _ _ (handleAll_run _ .start),
    by decide +kernel⟩

end AvisoServer
