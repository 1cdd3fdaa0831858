import AvisoServer.Backend.Retention
import AvisoServer.Routes.ServerRuns
import AvisoServer.Routes.StreamAuthRule
import AvisoServer.Routes.StreamIsolation

/-!
# Protected streams

Over a whole run of the server, with whatever requests it gets: what is stored under the base of a
protected stream was published by one of its writers, a stream that can show it was opened by one of
its readers, and it only goes away by an administrator or by being pushed out.
-/

namespace AvisoServer

/-! ## 1. The store of a run -/

/-- The operation of the in-memory store that a call is. -/
def BackendCall.storeOperation : BackendCall → Option StoreOperation
  | .putMessages clock topic payload => some (.storeMessage clock topic payload none)
  | .putMessageWithHeaders clock topic headers payload =>
    some (.storeMessage clock topic payload headers)
  | .wipeStream streamKey => some (.wipeStream streamKey)
  | .wipeAll => some .wipeAll
  | .deleteMessage streamKey sequence => some (.deleteMessage streamKey sequence)
  | _ => none

theorem perform_inMemory (config : InMemoryConfig) (toLowercase : String → String)
    (call : BackendCall) (state : BackendState) :
    ((inMemoryBackend config toLowercase).perform call state).1 =
      (call.storeOperation.map fun operation =>
        (operation.apply config toLowercase state).1).getD state := by
  cases call <;> rfl

/-- The map may change its iteration order at any time. -/
def Rehashes (state next : BackendState) : Prop :=
  ∃ topics : HashMap TopicState, topics.entries.Perm state.topics.entries ∧
    next = { state with topics := topics }

/-- Runs that start with an empty store. -/
abbrev InMemoryRun (server : Server BackendState) (events : List (Handled BackendState))
    (state : ServerState BackendState) : Prop :=
  ServerRun server Rehashes BackendState.initial events state

section Store

variable {config : InMemoryConfig} {server : Server BackendState}

def Server.storeOperation (server : Server BackendState) (request : HttpRequest) :
    Option StoreOperation :=
  (server.call request).bind BackendCall.storeOperation

/-- The operation a request makes on the store, with the state it is applied to. -/
def Handled.storeEvent (server : Server BackendState) (handled : Handled BackendState) :
    Option StoreEvent :=
  (server.storeOperation handled.request).map (StoreEvent.mk handled.before.backend)

theorem performed_eq (hbackend : server.backend = inMemoryBackend config server.lib.toLowercase)
    (request : HttpRequest) (state : BackendState) :
    server.performed request state =
      ((server.storeOperation request).map fun operation =>
        (operation.apply config server.lib.toLowercase state).1).getD state := by
  rw [Server.performed, Server.storeOperation]
  cases server.call request with
  | none => rfl
  | some call =>
    show (server.backend.perform call state).1 = _
    rw [hbackend, perform_inMemory]
    rfl

/-- The store goes through the operations of the requests, and nothing else. -/
theorem serverRun_storeTrace
    (hbackend : server.backend = inMemoryBackend config server.lib.toLowercase)
    {events : List (Handled BackendState)} {state : ServerState BackendState}
    (hrun : InMemoryRun server events state) :
    StoreTrace config server.lib.toLowercase BackendState.initial
      (events.filterMap (Handled.storeEvent server)) state.backend := by
  induction hrun with
  | start => exact StoreTrace.refl
  | outside hrehash _ ih =>
    obtain ⟨topics, horder, rfl⟩ := hrehash
    exact StoreTrace.rehash horder ih
  | @handle events state request _ ih =>
    rw [handle_state, List.filterMap_append]
    show StoreTrace _ _ _ _ (server.performed request state.backend)
    rw [performed_eq hbackend]
    cases hoperation : server.storeOperation request with
    | none =>
      have hnone : [Handled.mk state request].filterMap (Handled.storeEvent server) = [] := by
        rw [List.filterMap_cons, Handled.storeEvent, hoperation]
        rfl
      rw [hnone, List.append_nil]
      exact ih
    | some operation =>
      have hsome : [Handled.mk state request].filterMap (Handled.storeEvent server) =
          [⟨state.backend, operation⟩] := by
        rw [List.filterMap_cons, Handled.storeEvent, hoperation]
        rfl
      rw [hsome]
      exact StoreTrace.apply operation ih

/-- What is stored was stored by an operation of the trace. -/
theorem storeTrace_sent {toLowercase : String → String} {start final : BackendState}
    {events : List StoreEvent} (htrace : StoreTrace config toLowercase start events final)
    {m : NotificationMessage} (hm : m ∈ final.stored) :
    m ∈ start.stored ∨ ∃ event ∈ events, event.sent config toLowercase = some m := by
  induction htrace with
  | refl => exact Or.inl hm
  | @apply events state operation _ ih =>
    have hbefore : m ∈ state.stored →
        m ∈ start.stored ∨ ∃ event ∈ events ++ [StoreEvent.mk state operation],
          event.sent config toLowercase = some m := by
      intro hold
      refine (ih hold).imp id fun hevent => ?_
      obtain ⟨event, hmem, hsent⟩ := hevent
      exact ⟨event, List.mem_append_left _ hmem, hsent⟩
    rcases storeStep_cases (operation.apply_step config toLowercase state) with
      ⟨-, -, hsub⟩ | ⟨sent, rest, hsent, -, -, -, hperm, hrest⟩
    · exact hbefore (hsub.subset hm)
    · cases List.mem_cons.mp (hperm.subset hm) with
      | inl hlast =>
        refine Or.inr ⟨_, List.mem_append_right _ (List.mem_singleton_self _), ?_⟩
        rw [hlast]
        exact hsent
      | inr hold => exact hbefore (hrest.subset hold)
  | rehash horder _ ih => exact ih ((storedIn_perm _ _ horder).subset hm)

end Store

/-! ## 2. Publishing -/

/-- The request published the message: it was accepted for this user, and its notification was stored
as the message, with the next number of the store. -/
structure Handled.Publishes (server : Server BackendState) (handled : Handled BackendState)
    (user : Option User) (notification : NotificationRequest) (result : ProcessingResult)
    (m : NotificationMessage) : Prop where
  served : server.middleware.serve handled.request.service = some (.notify, user)
  parsed : parseAndValidateRequest server.serde server.lib handled.request.body = .ok notification
  accepted : notify server.lib server.settings user notification = .ok result
  stored : (notificationPut server.lib notification result).Stored m
  stamped : m.timestamp = some handled.request.clock.now
  numbered : m.sequence = handled.before.backend.nextSequence

theorem storeOperation_put (put : BackendPut) (clock : Clock) :
    (put.call clock).storeOperation =
      some (.storeMessage clock put.topic put.payload put.headers) := by
  obtain ⟨topic, headers, payload⟩ := put
  cases headers <;> rfl

/-- An operation comes from an accepted notification, or from a handler for administrators. -/
theorem storeOperation_cases {server : Server BackendState} {request : HttpRequest}
    {operation : StoreOperation} (h : server.storeOperation request = some operation) :
    (∃ user notification result,
      server.middleware.serve request.service = some (.notify, user) ∧
        parseAndValidateRequest server.serde server.lib request.body = .ok notification ∧
        notify server.lib server.settings user notification = .ok result ∧
        operation = .storeMessage request.clock
          (notificationPut server.lib notification result).topic
          (notificationPut server.lib notification result).payload
          (notificationPut server.lib notification result).headers) ∨
    (∃ handler user, server.middleware.serve request.service = some (handler, user) ∧
      handler.isAdmin = true) ∧
      ∀ config toLowercase state, (operation.apply config toLowercase state).2 = none := by
  obtain ⟨call, hcall, hoperation⟩ := Option.bind_eq_some_iff.mp h
  rw [Server.call] at hcall
  cases hserve : server.middleware.serve request.service with
  | none =>
    rw [hserve] at hcall
    cases hcall
  | some served =>
    obtain ⟨handler, user⟩ := served
    rw [hserve] at hcall
    cases handler with
    | notify =>
      refine Or.inl ⟨user, ?_⟩
      -- only an accepted notification is stored
      unfold Server.notifyVerdict at hcall
      cases hparse : parseAndValidateRequest server.serde server.lib request.body with
      | error e =>
        simp only [hparse] at hcall
        cases hcall
      | ok notification =>
        simp only [hparse] at hcall
        cases hnotify : notify server.lib server.settings user notification with
        | error e =>
          simp only [hnotify] at hcall
          cases hcall
        | ok result =>
          simp only [hnotify] at hcall
          cases hcall
          rw [storeOperation_put] at hoperation
          exact ⟨notification, result, rfl, rfl, hnotify, (Option.some.inj hoperation).symm⟩
    -- the other open endpoints make no call on the backend
    | watch | replay | getNotificationSchema | getEventSchema eventType => cases hcall
    | wipeStream =>
      simp only at hcall
      cases hname : server.wipeStreamName request.body with
      | error response =>
        rw [hname] at hcall
        cases hcall
      | ok streamName =>
        rw [hname] at hcall
        cases hcall
        cases hoperation
        exact Or.inr ⟨⟨_, user, rfl, rfl⟩, fun _ _ _ => rfl⟩
    | wipeAll =>
      cases hcall
      cases hoperation
      exact Or.inr ⟨⟨_, user, rfl, rfl⟩, fun _ _ _ => rfl⟩
    | deleteNotification notificationId =>
      simp only at hcall
      cases hid : parseNotificationId (server.pathText notificationId) with
      | error message =>
        rw [hid] at hcall
        cases hcall
      | ok parsed =>
        rw [hid] at hcall
        cases hcall
        cases hoperation
        exact Or.inr ⟨⟨_, user, rfl, rfl⟩, fun _ _ _ => rfl⟩

section Publishing

variable {config : InMemoryConfig} {server : Server BackendState}

/-- A request that stores a message publishes it. -/
theorem publishes_of_sent {handled : Handled BackendState} {event : StoreEvent}
    (hevent : handled.storeEvent server = some event) {m : NotificationMessage}
    (hsent : event.sent config server.lib.toLowercase = some m) :
    ∃ user notification result, handled.Publishes server user notification result m := by
  obtain ⟨operation, hoperation, rfl⟩ := Option.map_eq_some_iff.mp hevent
  rcases storeOperation_cases hoperation with
    ⟨user, notification, result, hserve, hparse, haccepted, rfl⟩ | ⟨-, hnothing⟩
  · cases hsent
    exact ⟨user, notification, result, hserve, hparse, haccepted, ⟨rfl, rfl, rfl⟩, rfl, rfl⟩
  · have hnone : StoreEvent.sent config server.lib.toLowercase
        ⟨handled.before.backend, operation⟩ = none := hnothing _ _ _
    rw [hnone] at hsent
    cases hsent

/-- Every stored message was published by a request of the run. -/
theorem stored_published
    (hbackend : server.backend = inMemoryBackend config server.lib.toLowercase)
    {events : List (Handled BackendState)} {state : ServerState BackendState}
    (hrun : InMemoryRun server events state) {m : NotificationMessage}
    (hm : m ∈ state.backend.stored) :
    ∃ handled ∈ events, ∃ user notification result,
      handled.Publishes server user notification result m := by
  rcases storeTrace_sent (serverRun_storeTrace hbackend hrun) hm with hstart | hsent
  · cases hstart
  · obtain ⟨event, hevent, hsent⟩ := hsent
    obtain ⟨handled, hhandled, hstore⟩ := List.mem_filterMap.mp hevent
    exact ⟨handled, hhandled, publishes_of_sent hstore hsent⟩

/-- A request publishes one message at most. -/
theorem Handled.Publishes.unique {handled : Handled BackendState} {user other : Option User}
    {notification otherNotification : NotificationRequest} {result otherResult : ProcessingResult}
    {m otherMessage : NotificationMessage}
    (h : handled.Publishes server user notification result m)
    (hother : handled.Publishes server other otherNotification otherResult otherMessage) :
    m = otherMessage := by
  obtain ⟨hserve, hparse, haccepted, hstored, hstamped, hnumbered⟩ := h
  obtain ⟨hserve', hparse', haccepted', hstored', hstamped', hnumbered'⟩ := hother
  rw [hserve] at hserve'
  cases hserve'
  rw [hparse] at hparse'
  cases hparse'
  rw [haccepted] at haccepted'
  cases haccepted'
  obtain ⟨sequence, topic, payload, timestamp, metadata⟩ := m
  obtain ⟨sequence', topic', payload', timestamp', metadata'⟩ := otherMessage
  cases hnumbered.trans hnumbered'.symm
  cases hstamped.trans hstamped'.symm
  cases hstored.topic.trans hstored'.topic.symm
  cases hstored.payload.trans hstored'.payload.symm
  cases hstored.metadata.trans hstored'.metadata.symm
  rfl

end Publishing

/-! ## 3. Writers, readers and administrators -/

/-- The roles that a stream asks for, one of which is granted to the user. -/
def StreamAuthConfig.Permits (streamAuth : StreamAuthConfig) (auth : AuthSettings) (user : User) :
    StreamOperation → Prop
  | .read => user.Granted auth.adminRoles ∨
      ∀ roles, streamAuth.readRoles = some roles → user.Granted roles
  | .write => user.Granted auth.adminRoles ∨
      ∃ roles, streamAuth.writeRoles = some roles ∧ user.Granted roles

section Rules

variable {settings : Settings} {debugStrings : List String → String} {ecpds : Bool}

/-- A stream that requires authentication is opened to a user with its roles. -/
theorem permits_of_authorized (haccepted : settings.validate debugStrings ecpds = .ok ())
    (henabled : settings.auth.enabled = true) {eventType : String} {user : Option User}
    {operation : StreamOperation} {streamAuth : StreamAuthConfig}
    (hrequired : streamAuth.required = true)
    (h : settings.Authorized eventType user operation streamAuth) :
    ∃ u, user = some u ∧ streamAuth.Permits settings.auth u operation := by
  obtain ⟨hrule, hauthorized⟩ := h
  have hauth := Settings.authAccepted_of_validate haccepted
  have hadmins := adminRoles_ne_nil henabled hauth.auth
  obtain ⟨schema, hschema, hstream⟩ := Option.bind_eq_some_iff.mp hrule
  unfold authorizeStream at hauthorized
  rw [hrequired] at hauthorized
  cases user with
  | none => cases hauthorized
  | some u =>
    refine ⟨u, rfl, ?_⟩
    by_cases hadmin : u.isAdmin settings.auth.adminRoles = true
    · have hgranted : u.Granted settings.auth.adminRoles := (hasAnyRole_iff hadmins u).mp hadmin
      cases operation with
      | read => exact Or.inl hgranted
      | write => exact Or.inl hgranted
    · -- an administrator apart, the roles of the stream decide
      have hnot : u.isAdmin settings.auth.adminRoles = false := Bool.eq_false_of_not_eq_true hadmin
      cases operation with
      | read =>
        refine Or.inr fun roles hroles => ?_
        -- the validation leaves no role list empty, so to be granted is to have one of its roles
        have hne := streamRoles_ne_nil hauth hschema hstream (Or.inl hroles)
        refine (hasAnyRole_iff hne u).mp ?_
        by_contra hroleless
        simp [hroles, hnot, hroleless] at hauthorized
      | write =>
        refine Or.inr ?_
        cases hroles : streamAuth.writeRoles with
        | none => simp [hroles, hnot] at hauthorized
        | some roles =>
          have hne := streamRoles_ne_nil hauth hschema hstream (Or.inr hroles)
          refine ⟨roles, rfl, (hasAnyRole_iff hne u).mp ?_⟩
          by_contra hroleless
          simp [hroles, hnot, hroleless] at hauthorized

end Rules

/-- On a path that spells the admin prefix, the user in the extensions is an administrator. -/
theorem call_adminUser {middleware : AuthMiddleware} {request : ServiceRequest}
    {user : Option User} (henabled : middleware.settings.enabled = true)
    (hpath : AuthMiddleware.adminPath.isPrefixOf request.path = true)
    (h : middleware.call request = .ok user) :
    ∃ u, user = some u ∧ u.isAdmin middleware.settings.adminRoles = true := by
  obtain ⟨u, hresolve, hadmin⟩ := call_admin henabled hpath h
  refine ⟨u, ?_, hadmin⟩
  have hschema := not_schemaPath_of_adminPath hpath
  simp only [AuthMiddleware.call, henabled, hschema, hpath, hresolve, hadmin, Bool.not_true,
    Bool.false_eq_true, if_false, Bool.and_false] at h
  exact (Except.ok.inj h).symm

/-! ## 4. Streams and removals -/

/-- Only the two streaming endpoints answer with a stream. -/
theorem answer_stream {σ : Type} {server : Server σ} {handler : Handler} {user : Option User}
    {request : HttpRequest} {state : ServerState σ} {context : StreamingRequestContext}
    (h : (server.answer handler user request state).2 = .stream context) :
    ∃ kind operation, server.streamEndpoint kind operation user request = .stream context := by
  cases handler with
  | watch => exact ⟨.watch, .watch, h⟩
  | replay => exact ⟨.replay, .replay, h⟩
  | _ =>
    simp only [Server.answer] at h
    cases h

/-- A stream is opened by watch or replay, for what the request was resolved to. -/
theorem handle_stream {σ : Type} {server : Server σ} {request : HttpRequest} {state : ServerState σ}
    {context : StreamingRequestContext} (h : (server.handle request state).2 = .stream context) :
    ∃ handler user notification operation,
      server.middleware.serve request.service = some (handler, user) ∧
        parseAndValidateRequest server.serde server.lib request.body = .ok notification ∧
        streamingContext server.lib server.settings user notification operation = .ok context := by
  unfold Server.handle at h
  by_cases hscope : (scope "/api/v1" (requote request.service.path)).isNone = true
  · rw [if_pos hscope] at h
    cases h
  rw [if_neg hscope] at h
  cases hcall : server.middleware.call request.service with
  | error failure =>
    simp only [hcall] at h
    cases h
  | ok user =>
    simp only [hcall] at h
    cases hdispatch : dispatch request.service.method request.service.path with
    | none =>
      simp only [hdispatch] at h
      cases h
    | some handler =>
      simp only [hdispatch] at h
      have hserve := serve_eq_some.mpr ⟨hdispatch, hcall⟩
      obtain ⟨kind, operation, hendpoint⟩ := answer_stream h
      unfold Server.streamEndpoint at hendpoint
      cases hparse : parseAndValidateRequest server.serde server.lib request.body with
      | error e =>
        simp only [hparse] at hendpoint
        cases hendpoint
      | ok notification =>
        simp only [hparse] at hendpoint
        refine ⟨_, user, notification, operation, hserve, rfl, ?_⟩
        cases hcontext : streamingContext server.lib server.settings user notification
            operation with
        | error e =>
          simp only [hcontext] at hendpoint
          cases hendpoint
        | ok found =>
          simp only [hcontext] at hendpoint
          cases hendpoint
          rfl

/-- A topic is only evicted for a new one, by a full store. -/
theorem evicts_full {config : InMemoryConfig} {clock : Clock} {topic payload victim : String}
    {metadata : Option (HashMap String)} {state : BackendState}
    (h : Evicts config clock topic payload metadata state victim) :
    topic ∉ state.topics ∧ config.maxTopics ≤ state.topics.entries.length := by
  obtain ⟨hbefore, hgone⟩ := h
  unfold storeMessage at hgone
  by_cases hknown : topic ∈ state.topics
  · simp only [if_pos hknown, AList.mem_insert, not_or] at hgone
    exact absurd hbefore hgone.2
  refine ⟨hknown, ?_⟩
  by_contra hroom
  simp only [if_neg hknown, AList.mem_insert, not_or, enforceTopicLimit, if_neg hroom] at hgone
  exact hgone.2 hbefore

section Removal

variable {config : InMemoryConfig} {state : BackendState} {m : NotificationMessage}

/-- What a push drops of an ordered queue is the oldest item of a full one. -/
theorem pushed_out {queue : List NotificationMessage} {x : NotificationMessage} {capacity : Nat}
    (hordered : queue.Pairwise fun x y => x.sequence < y.sequence) (hm : m ∈ queue)
    (hgone : m ∉ BoundedQueue.push capacity queue x) :
    capacity ≤ queue.length ∧ ∀ other ∈ queue, m.sequence ≤ other.sequence := by
  have hfull : ¬(capacity ≤ queue.length → m ∈ queue.tail) := fun hstays =>
    hgone (BoundedQueue.mem_push hm hstays)
  obtain ⟨hfull, hhead⟩ := Classical.not_imp.mp hfull
  refine ⟨hfull, ?_⟩
  cases queue with
  | nil => cases hm
  | cons first rest =>
    have hfirst : m = first := (List.mem_cons.mp hm).resolve_right hhead
    intro other hother
    rw [hfirst]
    cases List.mem_cons.mp hother with
    | inl hsame => rw [hsame]
    | inr hrest => exact Nat.le_of_lt ((List.pairwise_cons.mp hordered).1 other hrest)

/-- A store loses the oldest message of its full topic, or those of the topic it evicts. -/
theorem storeMessage_loses (hwell : state.WellFormed config) {clock : Clock}
    {topic payload : String} {metadata : Option (HashMap String)} (hm : m ∈ state.stored)
    (hgone : m ∉ (storeMessage config clock topic payload metadata state).1.stored) :
    (m.topic = topic ∧ config.maxHistoryPerTopic ≤ (state.queue topic).length ∧
      ∀ other ∈ state.queue topic, m.sequence ≤ other.sequence) ∨
    (topic ∉ state.topics ∧ config.maxTopics ≤ state.topics.entries.length) := by
  have hqueued := mem_queue_of_stored hwell hm
  have hlost : m ∉ (storeMessage config clock topic payload metadata state).1.queue m.topic :=
    fun hkept => hgone (mem_stored_of_queue hkept)
  by_cases htopic : m.topic = topic
  · left
    rw [htopic] at hqueued hlost
    rw [storeMessage_queue] at hlost
    exact ⟨htopic, pushed_out (queue_wellFormed hwell topic).2 hqueued hlost⟩
  · right
    apply evicts_full
    by_contra hstays
    rw [storeMessage_other htopic hstays] at hlost
    exact hlost hqueued

end Removal

/-! ## 5. Runs -/

section Protected

variable (config : InMemoryConfig) (server : Server BackendState)

/-- A handler for administrators served the request, and an administrator sent it if its path spells
the admin prefix. -/
def Handled.Administers (handled : Handled BackendState) : Prop :=
  ∃ handler user, server.middleware.serve handled.request.service = some (handler, user) ∧
    handler.isAdmin = true ∧
    (AuthMiddleware.adminPath.isPrefixOf handled.request.service.path = true →
      ∃ u, user = some u ∧ u.Granted server.settings.auth.adminRoles)

/-- A writer of the stream filled the topic of the message, which was the oldest there. -/
def Handled.Displaces (handled : Handled BackendState) (streamAuth : StreamAuthConfig)
    (m : NotificationMessage) : Prop :=
  ∃ u notification result sent, handled.Publishes server (some u) notification result sent ∧
    streamAuth.Permits server.settings.auth u .write ∧ sent.topic = m.topic ∧
    config.maxHistoryPerTopic ≤ (handled.before.backend.queue m.topic).length ∧
    ∀ other ∈ handled.before.backend.queue m.topic, m.sequence ≤ other.sequence

/-- A notification opened a new topic in a full store. -/
def Handled.OpensTopic (handled : Handled BackendState) : Prop :=
  ∃ user notification result sent, handled.Publishes server user notification result sent ∧
    sent.topic ∉ handled.before.backend.topics ∧
    config.maxTopics ≤ handled.before.backend.topics.entries.length

/-- What a run does with the messages of a protected stream. -/
structure StreamProtected (streamAuth : StreamAuthConfig) (base : String)
    (events : List (Handled BackendState)) (state : ServerState BackendState) : Prop where
  written : ∀ m ∈ state.backend.stored, Reaches m.topic base →
    ∃ handled ∈ events, ∃ u notification result,
      handled.Publishes server (some u) notification result m ∧
        streamAuth.Permits server.settings.auth u .write
  read : ∀ handled ∈ events, ∀ context, handled.answer server = .stream context →
    Reaches context.result.topic base →
    ∃ handler u, server.middleware.serve handled.request.service = some (handler, some u) ∧
      streamAuth.Permits server.settings.auth u .read
  removed : ∀ handled ∈ events, ∀ m ∈ handled.before.backend.stored, Reaches m.topic base →
    m ∉ (server.handle handled.request handled.before).1.backend.stored →
    handled.Administers server ∨ handled.Displaces config server streamAuth m ∨
      handled.OpensTopic config server

end Protected

section Runs

variable {config : InMemoryConfig} {server : Server BackendState}
  {debugStrings : List String → String} {ecpds : Bool}

theorem granted_of_isAdmin (haccepted : server.settings.validate debugStrings ecpds = .ok ())
    (henabled : server.settings.auth.enabled = true) {u : User}
    (h : u.isAdmin server.settings.auth.adminRoles = true) :
    u.Granted server.settings.auth.adminRoles :=
  (hasAnyRole_iff (adminRoles_ne_nil henabled
    (Settings.authAccepted_of_validate haccepted).auth) u).mp h

/-- Who publishes under the base of a stream is one of its writers. -/
theorem Handled.Publishes.writer {handled : Handled BackendState}
    {user : Option User} {notification : NotificationRequest} {result : ProcessingResult}
    {m : NotificationMessage} (h : handled.Publishes server user notification result m)
    (haccepted : server.settings.validate debugStrings ecpds = .ok ())
    (henabled : server.settings.auth.enabled = true)
    (hstrict : server.settings.resolveNotificationSchemaStrict = true)
    {owner base : String} {streamAuth : StreamAuthConfig}
    (hprotects : server.settings.Protects owner streamAuth base) (hreaches : Reaches m.topic base) :
    ∃ u, user = some u ∧ streamAuth.Permits server.settings.auth u .write := by
  have htopic : m.topic = result.topic := h.stored.topic
  rw [htopic] at hreaches
  obtain ⟨hauth, hprocess⟩ := notify_eq_ok h.accepted
  exact permits_of_authorized haccepted henabled hprotects.required
    (authorized_of_accepted haccepted henabled (Or.inl hstrict) hprocess hauth hprotects hreaches)

/-- In every run of a strict server with authentication, whatever is requested and in whatever
order: the messages under the base of a protected stream come from its writers, its readers alone
are shown them, and they go by an administrator, by a writer of the stream, or with the limit on
topics. -/
theorem protectedStreams
    (hbackend : server.backend = inMemoryBackend config server.lib.toLowercase)
    (haccepted : server.settings.validate debugStrings ecpds = .ok ())
    (henabled : server.settings.auth.enabled = true)
    (hstrict : server.settings.resolveNotificationSchemaStrict = true)
    {owner base : String} {streamAuth : StreamAuthConfig}
    (hprotects : server.settings.Protects owner streamAuth base)
    {events : List (Handled BackendState)} {state : ServerState BackendState}
    (hrun : InMemoryRun server events state) :
    StreamProtected config server streamAuth base events state := by
  refine ⟨?_, ?_, ?_⟩
  · intro m hm hreaches
    obtain ⟨handled, hhandled, user, notification, result, hpublishes⟩ :=
      stored_published hbackend hrun hm
    obtain ⟨u, rfl, hwriter⟩ :=
      hpublishes.writer haccepted henabled hstrict hprotects hreaches
    exact ⟨handled, hhandled, u, notification, result, hpublishes, hwriter⟩
  · intro handled _ context hanswer hreaches
    obtain ⟨handler, user, notification, operation, hserve, -, hcontext⟩ := handle_stream hanswer
    obtain ⟨hauth, hprocess⟩ := streamingContext_eq_ok hcontext
    obtain ⟨u, rfl, hreader⟩ := permits_of_authorized haccepted henabled hprotects.required
      (authorized_of_accepted haccepted henabled (Or.inl hstrict) hprocess hauth hprotects
        hreaches)
    exact ⟨handler, u, hserve, hreader⟩
  · intro handled hhandled m hm hreaches hgone
    -- the state it was handled in is one the store reaches
    obtain ⟨earlier, -, hbefore⟩ := serverRun_before hrun hhandled
    have hwell := storeTrace_wellFormed (BackendState.initial_wellFormed config)
      (serverRun_storeTrace hbackend hbefore)
    rw [handle_state] at hgone
    simp only [performed_eq hbackend] at hgone
    cases hoperation : server.storeOperation handled.request with
    | none =>
      rw [hoperation] at hgone
      exact absurd hm hgone
    | some operation =>
      rw [hoperation] at hgone
      rcases storeOperation_cases hoperation with
        ⟨user, notification, result, hserve, hparse, hnotify, rfl⟩ | ⟨⟨handler, user, hserve, hadmin⟩, -⟩
      · right
        have hpublishes : handled.Publishes server user notification result
            (storeMessage config handled.request.clock
              (notificationPut server.lib notification result).topic
              (notificationPut server.lib notification result).payload
              (notificationPut server.lib notification result).headers handled.before.backend).2 :=
          ⟨hserve, hparse, hnotify, ⟨rfl, rfl, rfl⟩, rfl, rfl⟩
        rcases storeMessage_loses hwell hm hgone with ⟨htopic, hfull, holdest⟩ | hopens
        · left
          rw [← htopic] at hfull holdest
          have hsame : (storeMessage config handled.request.clock
              (notificationPut server.lib notification result).topic
              (notificationPut server.lib notification result).payload
              (notificationPut server.lib notification result).headers
              handled.before.backend).2.topic = m.topic := htopic.symm
          obtain ⟨u, rfl, hwriter⟩ := hpublishes.writer haccepted henabled hstrict hprotects
            (by rw [hsame]; exact hreaches)
          exact ⟨u, notification, result, _, hpublishes, hwriter, hsame, hfull, holdest⟩
        · exact Or.inr ⟨user, notification, result, _, hpublishes, hopens⟩
      · refine Or.inl ⟨handler, user, hserve, hadmin, fun hpath => ?_⟩
        obtain ⟨u, huser, hrole⟩ := call_adminUser henabled hpath (serve_eq_some.mp hserve).2
        exact ⟨u, huser, granted_of_isAdmin haccepted henabled hrole⟩

end Runs

theorem protectedStreams_guarded :
    StreamProtected pairConfig guardedServer guardedAuth "secret" guardedRun.1 guardedRun.2 ∧
    guardedRun.2.backend.stored.map (·.topic) = ["secret.od"] :=
  ⟨@protectedStreams pairConfig guardedServer plainLibraries.debugStrings false rfl
      (by decide +kernel) rfl rfl "private" "secret" _
      ⟨⟨guardedSchema, rfl, rfl, rfl⟩, rfl⟩ _ _ (handleAll_run _ .start),
    by decide +kernel⟩

end AvisoServer
