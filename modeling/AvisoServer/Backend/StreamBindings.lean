import AvisoServer.Backend.Reconciliation
import AvisoServer.Backend.StreamMembership

/-!
# Stream bindings

A stream is named after its base in upper case and lists the subjects of the base as it is written.
Bases that differ in ASCII case alone share a stream, and the last of them takes it from the others.
-/

namespace AvisoServer

/-! ## 1. What a call changes -/

theorem mergedReconciledConfig_name (current desired : StreamConfig) :
    (mergedReconciledConfig current desired).1.name = current.name :=
  (mergedReconciledConfig_settings current desired).1

/-- The merged configuration has the subjects of this base and no others. -/
theorem mergedReconciledConfig_subjects (current desired : StreamConfig) :
    (mergedReconciledConfig current desired).1.subjects = desired.subjects :=
  (settled_iff.mp (settled_merged current desired)).1.subjects

/-- The server has the stream of this configuration, with its subjects. -/
def NatsServer.Binds (server : NatsServer) (desired : StreamConfig) : Prop :=
  ∃ config, server.streams.get desired.name = some config ∧ config.subjects = desired.subjects

/-- A call leaves the server alone, or writes the stream with the subjects of its base; after a
success the stream has them. -/
structure Ensures (server : NatsServer) (desired : StreamConfig) (after : Ensured) : Prop where
  written : after.1 = server ∨ ∃ config, after.1 = server.put config ∧
    config.name = desired.name ∧ config.subjects = desired.subjects
  bound : after.2.isOk = true → after.1.Binds desired

theorem put_binds (server : NatsServer) (config desired : StreamConfig)
    (hname : config.name = desired.name) (hsubjects : config.subjects = desired.subjects) :
    (server.put config).Binds desired := by
  refine ⟨config, ?_, hsubjects⟩
  rw [server.get_put, if_pos hname.symm]

theorem getStream_eq_ok {server : NatsServer} {failure : Option String} {streamName : String}
    {config : StreamConfig} (h : server.getStream failure streamName = .ok config) :
    server.streams.get streamName = some config := by
  unfold NatsServer.getStream at h
  split at h
  · cases h
  split at h
  · rename_i hget
    cases h
    exact hget
  · cases h

theorem updateStream_eq_ok {server server' : NatsServer} {failure : Option String}
    {config : StreamConfig} (h : server.updateStream failure config = .ok server') :
    server' = server.put config := by
  unfold NatsServer.updateStream at h
  split at h
  · cases h
  split at h
  · cases h
    rfl
  · cases h

theorem reconcile_ensures (debugStrings : List String → String) {server : NatsServer}
    (calls : EnsureCalls) {current desired : StreamConfig}
    (hcurrent : server.streams.get desired.name = some current) :
    Ensures server desired
      (reconcileExistingStreamConfig debugStrings server calls current desired) := by
  unfold reconcileExistingStreamConfig
  by_cases hstorage : current.storage ≠ desired.storage
  · rw [if_pos hstorage]
    exact ⟨Or.inl rfl, fun h => by cases h⟩
  rw [if_neg hstorage]
  have hname := mergedReconciledConfig_name current desired
  have hsubjects := mergedReconciledConfig_subjects current desired
  have hunchanged := mergedReconciledConfig_unchanged current desired
  rw [server.named _ _ hcurrent] at hname
  simp only
  split
  · -- nothing drifted, so the subjects are those of the base already
    rename_i hchanges
    rw [hunchanged hchanges] at hsubjects
    exact ⟨Or.inl rfl, fun _ => ⟨current, hcurrent, hsubjects⟩⟩
  · split
    · rename_i hupdate
      rw [updateStream_eq_ok hupdate]
      exact ⟨Or.inr ⟨_, rfl, hname, hsubjects⟩, fun _ => put_binds server _ desired hname hsubjects⟩
    · exact ⟨Or.inl rfl, fun h => by cases h⟩

theorem ensureStream_ensures (debugStrings : List String → String) (server : NatsServer)
    (calls : EnsureCalls) (desired : StreamConfig) :
    Ensures server desired (ensureStream debugStrings server calls desired) := by
  unfold ensureStream
  split
  · rename_i hcurrent
    exact reconcile_ensures debugStrings calls (getStream_eq_ok hcurrent)
  · unfold NatsServer.createStream
    cases hfailure : calls.createStream with
    | some error => exact ⟨Or.inl rfl, fun h => by cases h⟩
    | none =>
      cases hexisting : server.streams.get desired.name with
      | none =>
        exact ⟨Or.inr ⟨desired, rfl, rfl, rfl⟩, fun _ => put_binds server desired desired rfl rfl⟩
      | some existing =>
        by_cases hsame : existing = desired
        · simp only [if_pos hsame]
          exact ⟨Or.inl rfl, fun _ => ⟨existing, hexisting, by rw [hsame]⟩⟩
        · simp only [if_neg hsame]
          split
          · rename_i hcurrent
            exact reconcile_ensures debugStrings calls (getStream_eq_ok hcurrent)
          · exact ⟨Or.inl rfl, fun h => by cases h⟩

theorem applyStoragePolicyOverrides_eq_ok {config overridden : StreamConfig}
    {policy : EventStoragePolicy} (h : applyStoragePolicyOverrides config policy = .ok overridden) :
    overridden.name = config.name ∧ overridden.subjects = config.subjects := by
  unfold applyStoragePolicyOverrides at h
  obtain ⟨maxAge, -, h⟩ := bind_eq_ok.mp h
  obtain ⟨maxBytes, -, h⟩ := bind_eq_ok.mp h
  cases h
  exact ⟨rfl, rfl⟩

theorem buildStreamConfigForBase_eq_ok {backendConfig : JetStreamConfig} {binding : TopicBinding}
    {schemaMap : Option (HashMap EventSchema)} {desired : StreamConfig}
    (h : buildStreamConfigForBase backendConfig binding schemaMap = .ok desired) :
    desired.name = binding.streamName ∧ desired.subjects = [binding.subjectPattern] := by
  unfold buildStreamConfigForBase at h
  obtain ⟨policy, -, h⟩ := bind_eq_ok.mp h
  cases policy with
  | none =>
    cases h
    exact ⟨rfl, rfl⟩
  | some policy => exact applyStoragePolicyOverrides_eq_ok h

theorem desiredStreamConfig_eq_ok {backendConfig : JetStreamConfig}
    {schemaMap : Option (HashMap EventSchema)} {topic : String} {desired : StreamConfig}
    (h : desiredStreamConfig backendConfig schemaMap topic = .ok desired) :
    ∃ base, deriveEventTypeFromTopic topic = .ok base ∧ isTopicBase base = true ∧
      desired.name = toAsciiUppercase base ∧ desired.subjects = [base ++ ".>"] := by
  unfold desiredStreamConfig at h
  obtain ⟨base, hbase, h⟩ := bind_eq_ok.mp h
  obtain ⟨binding, hbinding, hbuild⟩ := bind_eq_ok.mp h
  obtain ⟨hvalid, hname⟩ := topicBinding_eq_ok hbinding
  obtain ⟨hdesired, hsubjects⟩ := buildStreamConfigForBase_eq_ok hbuild
  refine ⟨base, (withContext_eq_ok _ _ _).mp hbase, hvalid, by rw [hdesired, hname], ?_⟩
  unfold TopicBinding.new at hbinding
  rw [(validateTopicBase_eq_ok base).mpr hvalid] at hbinding
  cases hbinding
  exact hsubjects

/-! ## 2. Runs -/

/-- One call: its topic, and how the server answers it. -/
structure EnsureRequest where
  topic : String
  calls : EnsureCalls

/-- The server, and the bases whose streams were ensured. -/
structure EnsureState where
  server : NatsServer
  ensured : List String

/-- The stream that a base is bound to lists the subject pattern of the base. -/
def NatsServer.lists (server : NatsServer) (base : String) : Bool :=
  match TopicBinding.new base with
  | .ok binding =>
    (server.streams.get binding.streamName).any fun config =>
      binding.subjectPattern ∈ config.subjects
  | .error _ => false

def EnsureState.Stable (state : EnsureState) : Prop :=
  ∀ base ∈ state.ensured, state.server.lists base = true

theorem NatsServer.lists_iff (server : NatsServer) (base : String)
    (hbase : isTopicBase base = true) :
    server.lists base = true ↔ ∃ config,
      server.streams.get (toAsciiUppercase base) = some config ∧ base ++ ".>" ∈ config.subjects := by
  unfold NatsServer.lists TopicBinding.new
  rw [(validateTopicBase_eq_ok base).mpr hbase]
  simp [bind, Except.bind, Option.any_eq_true]

/-- No two of the topics have bases that differ in ASCII case alone. -/
def OneSpelling (requests : List EnsureRequest) : Prop :=
  ∀ left ∈ requests, ∀ right ∈ requests, ∀ leftBase rightBase,
    deriveEventTypeFromTopic left.topic = .ok leftBase →
    deriveEventTypeFromTopic right.topic = .ok rightBase →
    toAsciiUppercase leftBase = toAsciiUppercase rightBase → leftBase = rightBase

section Runs

variable (lib : Libraries) (settings : Settings) (backendConfig : JetStreamConfig)

def EnsureState.step (state : EnsureState) (request : EnsureRequest) : EnsureState :=
  let (server, result) :=
    ensureStreamForTopic lib settings backendConfig state.server request.calls request.topic
  match result, deriveEventTypeFromTopic request.topic with
  | .ok _, .ok base => { server := server, ensured := base :: state.ensured }
  | _, _ => { state with server := server }

def EnsureState.run (state : EnsureState) (requests : List EnsureRequest) : EnsureState :=
  requests.foldl (EnsureState.step lib settings backendConfig) state

/-- After every call of the sequence, each base ensured so far has its pattern in its stream. -/
def BindingsStable (server : NatsServer) (requests : List EnsureRequest) : Prop :=
  ∀ before, before <+: requests →
    (EnsureState.run lib settings backendConfig ⟨server, []⟩ before).Stable

/-- Every call of the sequence returns the name of a stream. -/
def AllSucceed (server : NatsServer) (requests : List EnsureRequest) : Prop :=
  ∀ before request, before ++ [request] <+: requests →
    (ensureStreamForTopic lib settings backendConfig
      (EnsureState.run lib settings backendConfig ⟨server, []⟩ before).server request.calls
      request.topic).2.isOk = true

/-- What a call for a base changes: it may write the stream of the base, and after a success the
base is ensured and its stream lists no other pattern. -/
structure EnsuresBase (base : String) (state after : EnsureState) (success : Bool) : Prop where
  server : after.server = state.server ∨ ∃ config, after.server = state.server.put config ∧
    config.name = toAsciiUppercase base ∧ config.subjects = [base ++ ".>"]
  failed : success = false → after.ensured = state.ensured
  succeeded : success = true → after.ensured = base :: state.ensured ∧ ∃ config,
    after.server.streams.get (toAsciiUppercase base) = some config ∧
      config.subjects = [base ++ ".>"]

theorem step_cases (state : EnsureState) (request : EnsureRequest) :
    let success := (ensureStreamForTopic lib settings backendConfig state.server request.calls
      request.topic).2.isOk
    let after := state.step lib settings backendConfig request
    (after = state ∧ success = false) ∨
      ∃ base, deriveEventTypeFromTopic request.topic = .ok base ∧ isTopicBase base = true ∧
        EnsuresBase base state after success := by
  unfold EnsureState.step ensureStreamForTopic ensureStreamForTopicWithSchema
  cases hdesired : desiredStreamConfig backendConfig settings.notificationSchema request.topic with
  | error e => exact Or.inl ⟨rfl, rfl⟩
  | ok desired =>
    obtain ⟨base, hderive, hbase, hname, hsubjects⟩ := desiredStreamConfig_eq_ok hdesired
    have hensures := ensureStream_ensures lib.debugStrings state.server request.calls desired
    simp only [hderive]
    cases hcall : ensureStream lib.debugStrings state.server request.calls desired with
    | mk server result =>
      obtain ⟨hwritten, hbound⟩ := hensures
      rw [hcall, hname, hsubjects] at hwritten
      rw [hcall] at hbound
      refine Or.inr ⟨base, rfl, hbase, ?_⟩
      cases result with
      | error e => exact ⟨hwritten, fun _ => rfl, fun h => by cases h⟩
      | ok streamName =>
        obtain ⟨config, hget, hconfig⟩ := hbound rfl
        rw [hname] at hget
        rw [hsubjects] at hconfig
        exact ⟨hwritten, (fun h => by cases h), fun _ => ⟨rfl, config, hget, hconfig⟩⟩

variable {lib settings backendConfig}

/-- The spec of a call that succeeds. -/
theorem step_success {state : EnsureState} {request : EnsureRequest}
    (hsuccess : (ensureStreamForTopic lib settings backendConfig state.server request.calls
      request.topic).2.isOk = true) :
    ∃ base, deriveEventTypeFromTopic request.topic = .ok base ∧ isTopicBase base = true ∧
      EnsuresBase base state (state.step lib settings backendConfig request) true := by
  cases step_cases lib settings backendConfig state request with
  | inl hfailed => exact absurd (hsuccess.symm.trans hfailed.2) (by simp)
  | inr hcall =>
    rw [hsuccess] at hcall
    exact hcall

/-- A call keeps the bindings of the bases that it does not take a stream from. -/
theorem ensuresBase_stable {base : String} {state after : EnsureState}
    (hbase : isTopicBase base = true) (hvalid : ∀ other ∈ state.ensured, isTopicBase other = true)
    (hspelling : ∀ other ∈ state.ensured,
      toAsciiUppercase other = toAsciiUppercase base → other = base)
    (hstable : state.Stable) {success : Bool} (hensures : EnsuresBase base state after success) :
    after.Stable := by
  -- a base that was ensured before stays bound, whatever this call wrote
  have hkept : ∀ other ∈ state.ensured, after.server.lists other = true := by
    intro other hother
    have hlists := (NatsServer.lists_iff _ other (hvalid other hother)).mp (hstable other hother)
    rw [NatsServer.lists_iff _ other (hvalid other hother)]
    cases hensures.server with
    | inl hserver =>
      rw [hserver]
      exact hlists
    | inr hput =>
      obtain ⟨config, hserver, hname, hsubjects⟩ := hput
      rw [hserver, NatsServer.get_put, hname]
      by_cases hstream : toAsciiUppercase other = toAsciiUppercase base
      · -- the call writes this stream, so it is a call for the same base
        rw [if_pos hstream]
        refine ⟨config, rfl, ?_⟩
        rw [hsubjects, hspelling other hother hstream]
        exact List.mem_singleton_self _
      · rw [if_neg hstream]
        exact hlists
  intro other hother
  cases success with
  | false => exact hkept other (hensures.failed rfl ▸ hother)
  | true =>
    obtain ⟨hensured, config, hget, hsubjects⟩ := hensures.succeeded rfl
    rw [hensured] at hother
    cases List.mem_cons.mp hother with
    | inl hself =>
      rw [hself, NatsServer.lists_iff _ base hbase]
      refine ⟨config, hget, ?_⟩
      rw [hsubjects]
      exact List.mem_singleton_self _
    | inr hearlier => exact hkept other hearlier

theorem run_concat (state : EnsureState) (requests : List EnsureRequest)
    (request : EnsureRequest) :
    state.run lib settings backendConfig (requests ++ [request]) =
      (state.run lib settings backendConfig requests).step lib settings backendConfig request := by
  unfold EnsureState.run
  rw [List.foldl_append, List.foldl_cons, List.foldl_nil]

/-- The ensured bases are valid, and each is the base of one of the calls. -/
theorem run_ensured (server : NatsServer) (requests : List EnsureRequest) :
    ∀ base ∈ (EnsureState.run lib settings backendConfig ⟨server, []⟩ requests).ensured,
      isTopicBase base = true ∧
        ∃ request ∈ requests, deriveEventTypeFromTopic request.topic = .ok base := by
  induction requests using List.reverseRecOn with
  | nil => exact fun base hbase => absurd hbase List.not_mem_nil
  | append_singleton requests request ih =>
    have hearlier : ∀ base ∈
        (EnsureState.run lib settings backendConfig ⟨server, []⟩ requests).ensured,
        isTopicBase base = true ∧ ∃ called ∈ requests ++ [request],
          deriveEventTypeFromTopic called.topic = .ok base := by
      intro base hbase
      obtain ⟨hvalid, called, hcalled, hderive⟩ := ih base hbase
      exact ⟨hvalid, called, List.mem_append_left _ hcalled, hderive⟩
    intro base hbase
    rw [run_concat] at hbase
    cases step_cases lib settings backendConfig
        (EnsureState.run lib settings backendConfig ⟨server, []⟩ requests) request with
    | inl hfailed => exact hearlier base (hfailed.1 ▸ hbase)
    | inr hcall =>
      obtain ⟨called, hderive, hvalid, hensures⟩ := hcall
      generalize (ensureStreamForTopic lib settings backendConfig _ _ _).2.isOk = success at hensures
      cases success with
      | false => exact hearlier base (hensures.failed rfl ▸ hbase)
      | true =>
        rw [(hensures.succeeded rfl).1] at hbase
        cases List.mem_cons.mp hbase with
        | inl hself =>
          rw [hself]
          exact ⟨hvalid, request, List.mem_append_right _ (List.mem_singleton_self _), hderive⟩
        | inr htail => exact hearlier base htail

theorem run_stable (server : NatsServer) (requests : List EnsureRequest)
    (hspelling : OneSpelling requests) :
    (EnsureState.run lib settings backendConfig ⟨server, []⟩ requests).Stable := by
  induction requests using List.reverseRecOn with
  | nil => exact fun base hbase => absurd hbase List.not_mem_nil
  | append_singleton requests request ih =>
    have hstable := ih fun left hleft right hright =>
      hspelling left (List.mem_append_left _ hleft) right (List.mem_append_left _ hright)
    rw [run_concat]
    cases step_cases lib settings backendConfig
        (EnsureState.run lib settings backendConfig ⟨server, []⟩ requests) request with
    | inl hfailed =>
      rw [hfailed.1]
      exact hstable
    | inr hcall =>
      obtain ⟨base, hderive, hbase, hensures⟩ := hcall
      apply ensuresBase_stable hbase (fun other hother => (run_ensured server requests other
        hother).1) _ hstable hensures
      intro other hother hstream
      obtain ⟨-, called, hcalled, hotherBase⟩ := run_ensured server requests other hother
      exact hspelling called (List.mem_append_left _ hcalled) request
        (List.mem_append_right _ (List.mem_singleton_self _)) other base hotherBase hderive hstream

/-- In a sequence of successes, every base that was called for is ensured. -/
theorem run_ensures_all {server : NatsServer} {requests : List EnsureRequest}
    (hsucceed : AllSucceed lib settings backendConfig server requests) :
    ∀ request ∈ requests, ∀ base, deriveEventTypeFromTopic request.topic = .ok base →
      base ∈ (EnsureState.run lib settings backendConfig ⟨server, []⟩ requests).ensured := by
  induction requests using List.reverseRecOn with
  | nil => exact fun request hrequest => absurd hrequest List.not_mem_nil
  | append_singleton requests last ih =>
    have hearlier := ih fun before request hbefore =>
      hsucceed before request (hbefore.trans (List.prefix_append _ _))
    obtain ⟨lastBase, hlast, -, hensures⟩ :=
      step_success (hsucceed requests last List.prefix_rfl)
    intro request hrequest base hderive
    rw [run_concat, (hensures.succeeded rfl).1]
    cases List.mem_append.mp hrequest with
    | inl hmem => exact List.mem_cons_of_mem _ (hearlier request hmem base hderive)
    | inr hself =>
      rw [List.mem_singleton.mp hself, hlast] at hderive
      cases hderive
      exact List.mem_cons_self

/-- A successful call takes its stream from every other spelling of its base. -/
theorem ensuresBase_spelling {base other : String} {state after : EnsureState}
    (hensures : EnsuresBase base state after true) (hstable : after.Stable)
    (hother : other ∈ state.ensured) (hvalid : isTopicBase other = true)
    (hstream : toAsciiUppercase other = toAsciiUppercase base) : other = base := by
  obtain ⟨hensured, config, hget, hsubjects⟩ := hensures.succeeded rfl
  have hlists := hstable other (by rw [hensured]; exact List.mem_cons_of_mem _ hother)
  rw [NatsServer.lists_iff _ other hvalid, hstream, hget] at hlists
  obtain ⟨found, hfound, hmem⟩ := hlists
  cases hfound
  rw [hsubjects, List.mem_singleton] at hmem
  have hchars := congrArg String.toList hmem
  rw [String.toList_append, String.toList_append] at hchars
  exact String.toList_injective (List.append_cancel_right hchars)

/-- A sequence of successes that keeps its bindings has one spelling for each base. -/
theorem oneSpelling_of_stable {server : NatsServer} {requests : List EnsureRequest}
    (hsucceed : AllSucceed lib settings backendConfig server requests)
    (hstable : BindingsStable lib settings backendConfig server requests) :
    OneSpelling requests := by
  induction requests using List.reverseRecOn with
  | nil => exact fun left hleft => absurd hleft List.not_mem_nil
  | append_singleton requests last ih =>
    have hsucceed' : AllSucceed lib settings backendConfig server requests :=
      fun before request hbefore =>
        hsucceed before request (hbefore.trans (List.prefix_append _ _))
    have hspelling := ih hsucceed' fun before hbefore =>
      hstable before (hbefore.trans (List.prefix_append _ _))
    obtain ⟨lastBase, hlast, -, hensures⟩ :=
      step_success (hsucceed requests last List.prefix_rfl)
    have hafter := hstable _ List.prefix_rfl
    rw [run_concat] at hafter
    -- the last call has the spelling of each call before it
    have hsame : ∀ request ∈ requests, ∀ base, deriveEventTypeFromTopic request.topic = .ok base →
        toAsciiUppercase base = toAsciiUppercase lastBase → base = lastBase := by
      intro request hrequest base hderive hstream
      have hensured := run_ensures_all hsucceed' request hrequest base hderive
      exact ensuresBase_spelling hensures hafter hensured (run_ensured server requests base
        hensured).1 hstream
    intro left hleft right hright leftBase rightBase hleftBase hrightBase hstream
    cases List.mem_append.mp hleft with
    | inl hleftMem =>
      cases List.mem_append.mp hright with
      | inl hrightMem =>
        exact hspelling left hleftMem right hrightMem _ _ hleftBase hrightBase hstream
      | inr hrightLast =>
        rw [List.mem_singleton.mp hrightLast, hlast] at hrightBase
        cases hrightBase
        exact hsame left hleftMem leftBase hleftBase hstream
    | inr hleftLast =>
      rw [List.mem_singleton.mp hleftLast, hlast] at hleftBase
      cases hleftBase
      cases List.mem_append.mp hright with
      | inl hrightMem => exact (hsame right hrightMem rightBase hrightBase hstream.symm).symm
      | inr hrightLast =>
        rw [List.mem_singleton.mp hrightLast, hlast] at hrightBase
        cases hrightBase
        rfl

end Runs

/-! ## 3. Stable bindings -/

/-- A topic that the processing of some request builds. -/
def IsRequestTopic (lib : Libraries) (settings : Settings) (topic : String) : Prop :=
  ∃ eventType params payload operation result,
    processRequestWithValues lib settings.registry eventType params payload operation =
      .ok result ∧ result.topic = topic

theorem deriveEventTypeFromTopic_request {lib : Libraries} {settings : Settings} {topic base : String}
    (htopic : IsRequestTopic lib settings topic)
    (hderive : deriveEventTypeFromTopic topic = .ok base) :
    ∃ eventType, settings.routedBase eventType = base ∧
      (settings.resolveNotificationSchemaStrict = true →
        (settings.schemaOf eventType).isSome = true) := by
  obtain ⟨eventType, params, payload, operation, result, hprocess, rfl⟩ := htopic
  obtain ⟨hbase, ⟨values, heq⟩, hknown⟩ := processRequest_topic hprocess
  unfold deriveEventTypeFromTopic at hderive
  rw [heq, decodeSubjectBase_topic _ values hbase] at hderive
  cases hderive
  exact ⟨eventType, rfl, hknown⟩

/-- In strict mode every topic has a configured base, and startup found no two spellings of one. -/
theorem strict_oneSpelling {lib : Libraries} {debugStrings : List String → String} {ecpds : Bool}
    {settings : Settings} (haccepted : settings.validate debugStrings ecpds = .ok ())
    (hstrict : settings.resolveNotificationSchemaStrict = true) {requests : List EnsureRequest}
    (htopics : ∀ request ∈ requests, IsRequestTopic lib settings request.topic) :
    OneSpelling requests := by
  intro left hleft right hright leftBase rightBase hleftBase hrightBase hstream
  obtain ⟨leftType, hleftRouted, hleftKnown⟩ :=
    deriveEventTypeFromTopic_request (htopics left hleft) hleftBase
  obtain ⟨rightType, hrightRouted, hrightKnown⟩ :=
    deriveEventTypeFromTopic_request (htopics right hright) hrightBase
  obtain ⟨leftSchema, hleftSchema⟩ := Option.isSome_iff_exists.mp (hleftKnown hstrict)
  obtain ⟨rightSchema, hrightSchema⟩ := Option.isSome_iff_exists.mp (hrightKnown hstrict)
  have howner : leftType = rightType := by
    apply stream_owner_unique haccepted hleftSchema hrightSchema
    rw [← routedBase_of_schema hleftSchema, ← routedBase_of_schema hrightSchema, hleftRouted,
      hrightRouted]
    exact hstream
  rw [← hleftRouted, ← hrightRouted, howner]

/-- In strict mode, and whenever no two bases differ in ASCII case alone, every ensured base keeps
its pattern. A sequence of successes keeps the patterns only if no two bases differ so. -/
theorem streamBindings_iff (lib : Libraries) (debugStrings : List String → String) (ecpds : Bool)
    (settings : Settings) (haccepted : settings.validate debugStrings ecpds = .ok ())
    (backendConfig : JetStreamConfig) (server : NatsServer) (requests : List EnsureRequest)
    (htopics : ∀ request ∈ requests, IsRequestTopic lib settings request.topic) :
    (settings.resolveNotificationSchemaStrict = true ∨ OneSpelling requests →
      BindingsStable lib settings backendConfig server requests) ∧
    (AllSucceed lib settings backendConfig server requests →
      BindingsStable lib settings backendConfig server requests → OneSpelling requests) := by
  constructor
  · intro hcondition
    have hspelling : OneSpelling requests := by
      cases hcondition with
      | inl hstrict => exact strict_oneSpelling haccepted hstrict htopics
      | inr hspelling => exact hspelling
    intro before hbefore
    apply run_stable
    exact fun left hleft right hright =>
      hspelling left (hbefore.subset hleft) right (hbefore.subset hright)
  · exact oneSpelling_of_stable

-- a JetStream server without schemas, whose calls all get through
def jetstreamSettings : Settings :=
  { schemalessSettings with
    notificationBackend := { kind := "jetstream", retentionPolicy := none } }

def plainJetStream : JetStreamConfig where
  natsUrl := "nats://localhost:4222"
  timeoutSeconds := 30
  retryAttempts := 3
  maxMessages := none
  maxBytes := none
  retentionTime := none
  storageType := .file
  replicas := none
  retentionPolicy := .limits
  discardPolicy := .old
  maxReconnectAttempts := none
  reconnectDelayMs := 2000
  publishRetryAttempts := 5
  publishRetryBaseDelayMs := 150

def ensureOd (base : String) : EnsureRequest where
  topic := base ++ ".od"
  calls := { getStream := none, createStream := none, inspectStream := none, updateStream := none }

theorem ensureOd_mars_topic :
    IsRequestTopic plainLibraries jetstreamSettings (ensureOd "mars").topic :=
  ⟨"mars", AList.singleton "class" (.string "od"), none, .notify, _, rfl, by decide +kernel⟩

theorem ensureOd_upperMars_topic :
    IsRequestTopic plainLibraries jetstreamSettings (ensureOd "MARS").topic :=
  ⟨"MARS", AList.singleton "class" (.string "od"), none, .notify, _, rfl, by decide +kernel⟩

theorem ensureOd_diss_topic :
    IsRequestTopic plainLibraries jetstreamSettings (ensureOd "diss").topic :=
  ⟨"diss", AList.singleton "class" (.string "od"), none, .notify, _, rfl, by decide +kernel⟩

theorem marsDiss_oneSpelling : OneSpelling [ensureOd "mars", ensureOd "diss"] := by
  have hbase : ∀ request ∈ [ensureOd "mars", ensureOd "diss"], ∀ base,
      deriveEventTypeFromTopic request.topic = .ok base → base = "mars" ∨ base = "diss" := by
    intro request hrequest base hderived
    rcases List.mem_pair.mp hrequest with rfl | rfl
    · rw [show deriveEventTypeFromTopic (ensureOd "mars").topic = .ok "mars" by decide +kernel]
        at hderived
      exact Or.inl (Except.ok.inj hderived).symm
    · rw [show deriveEventTypeFromTopic (ensureOd "diss").topic = .ok "diss" by decide +kernel]
        at hderived
      exact Or.inr (Except.ok.inj hderived).symm
  have hupper : toAsciiUppercase "mars" ≠ toAsciiUppercase "diss" := by decide +kernel
  intro left hleft right hright leftBase rightBase hleftBase hrightBase hsame
  rcases hbase left hleft leftBase hleftBase with rfl | rfl <;>
    rcases hbase right hright rightBase hrightBase with rfl | rfl
  · rfl
  · exact absurd hsame hupper
  · exact absurd hsame.symm hupper
  · rfl

theorem marsDiss_allSucceed : AllSucceed plainLibraries jetstreamSettings plainJetStream .empty
    [ensureOd "mars", ensureOd "diss"] := by
  rintro before request ⟨rest, hrest⟩
  -- the call comes first or second
  match before, hrest with
  | [], hrest =>
    rw [(List.cons.inj hrest).1]
    decide +kernel
  | [first], hrest =>
    obtain ⟨hfirst, hrest⟩ := List.cons.inj hrest
    rw [hfirst, (List.cons.inj hrest).1]
    decide +kernel
  | _ :: _ :: before, hrest =>
    have hlength := congrArg List.length hrest
    simp at hlength

/-- Two calls for two bases, which both succeed. -/
theorem streamBindings_iff_marsDiss :
    BindingsStable plainLibraries jetstreamSettings plainJetStream .empty
        [ensureOd "mars", ensureOd "diss"] ∧
      OneSpelling [ensureOd "mars", ensureOd "diss"] := by
  obtain ⟨hstable, hspelling⟩ :=
    streamBindings_iff plainLibraries plainLibraries.debugStrings false jetstreamSettings rfl
      plainJetStream .empty [ensureOd "mars", ensureOd "diss"] (by
        intro request hrequest
        rcases List.mem_pair.mp hrequest with rfl | rfl
        · exact ensureOd_mars_topic
        · exact ensureOd_diss_topic)
  have hbindings := hstable (Or.inr marsDiss_oneSpelling)
  exact ⟨hbindings, hspelling marsDiss_allSucceed hbindings⟩

/-- `MARS` takes its stream from `mars`, although both calls succeed. -/
theorem upperMars_takes_stream :
    jetstreamSettings.validate plainLibraries.debugStrings false = .ok () ∧
      (∀ request ∈ [ensureOd "mars", ensureOd "MARS"],
        IsRequestTopic plainLibraries jetstreamSettings request.topic) ∧
      ¬ BindingsStable plainLibraries jetstreamSettings plainJetStream .empty
        [ensureOd "mars", ensureOd "MARS"] := by
  refine ⟨rfl, ?_, ?_⟩
  · intro request hrequest
    cases List.mem_cons.mp hrequest with
    | inl hlower =>
      rw [hlower]
      exact ensureOd_mars_topic
    | inr hupper =>
      rw [List.mem_singleton.mp hupper]
      exact ensureOd_upperMars_topic
  · intro hstable
    have hlost := hstable _ List.prefix_rfl "mars" (by decide +kernel)
    revert hlost
    decide +kernel

end AvisoServer
