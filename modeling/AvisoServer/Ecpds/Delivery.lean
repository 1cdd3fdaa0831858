import AvisoServer.Ecpds.Checker
import AvisoServer.Notification.Identifier

/-!
# Delivery on ECPDS streams

The plugin looks at one canonical value once, and messages are chosen later by a pattern. Startup
ties the two together: the match key is a required scalar with a place in the topic, so the value
that was authorised is the one that every delivered message has in that place.
-/

namespace AvisoServer

/-! ## 1. The plugin needs a user -/

/-- In accepted settings, a stream with the plugin requires authentication, and authentication is
on. -/
theorem validate_enablesEcpds {debugStrings : List String → String} {ecpds : Bool}
    {settings : Settings} (haccepted : settings.validate debugStrings ecpds = .ok ())
    {eventType : String} {schema : EventSchema}
    (hschema : settings.schemaOf eventType = some schema) (hplugin : schema.enablesEcpds = true) :
    settings.auth.enabled = true ∧
      ∃ streamAuth, schema.auth = some streamAuth ∧ streamAuth.required = true := by
  unfold Settings.validate at haccepted
  obtain ⟨_, -, haccepted⟩ := bind_eq_ok.mp haccepted
  obtain ⟨_, -, haccepted⟩ := bind_eq_ok.mp haccepted
  obtain ⟨_, -, haccepted⟩ := bind_eq_ok.mp haccepted
  obtain ⟨_, -, haccepted⟩ := bind_eq_ok.mp haccepted
  obtain ⟨_, hplugins, haccepted⟩ := bind_eq_ok.mp haccepted
  obtain ⟨_, hauth, -⟩ := bind_eq_ok.mp haccepted
  have hplugins := forM_eq_ok.mp hplugins _ (schemaOf_mem hschema)
  have hauth := forM_eq_ok.mp hauth _ (schemaOf_mem hschema)
  unfold EventSchema.enablesEcpds at hplugin
  unfold validateStreamPlugins at hplugins
  unfold validateStreamAuth at hauth
  cases hstream : schema.auth with
  | none =>
    rw [hstream] at hplugin
    cases hplugin
  | some streamAuth =>
    rw [hstream] at hplugin
    simp only [hstream] at hplugins hauth
    cases hnames : streamAuth.plugins with
    | none =>
      rw [Option.bind_some, hnames] at hplugin
      cases hplugin
    | some plugins =>
      -- a list of plugins is accepted only where authentication is required
      have hrequired : streamAuth.required = true := by
        simp only [hnames] at hplugins
        split at hplugins
        · cases hplugins
        obtain ⟨_, -, hrequired⟩ := bind_eq_ok.mp hplugins
        split at hrequired
        · cases hrequired
        rename_i hnot
        simpa using hnot
      refine ⟨?_, streamAuth, rfl, hrequired⟩
      obtain ⟨_, -, hauth⟩ := bind_eq_ok.mp hauth
      obtain ⟨_, -, hauth⟩ := bind_eq_ok.mp hauth
      unfold validateStreamRequired at hauth
      by_contra hdisabled
      rw [if_neg hdisabled, if_pos hrequired] at hauth
      cases hauth

/-- A request that passed the auth rule of a stream with the plugin has a user. -/
theorem user_of_enforceStreamAuth {debugStrings : List String → String} {ecpds : Bool}
    {settings : Settings} (haccepted : settings.validate debugStrings ecpds = .ok ())
    {eventType : String} {schema : EventSchema}
    (hschema : settings.schemaOf eventType = some schema) (hplugin : schema.enablesEcpds = true)
    {user : Option User} {operation : StreamOperation}
    (hauth : enforceStreamAuth settings user eventType operation = .ok ()) :
    ∃ attached, user = some attached := by
  obtain ⟨henabled, streamAuth, hstream, hrequired⟩ :=
    validate_enablesEcpds haccepted hschema hplugin
  unfold enforceStreamAuth at hauth
  rw [henabled, hschema, Option.bind_some, hstream] at hauth
  unfold authorizeStream at hauth
  cases user with
  | none =>
    simp only [hrequired] at hauth
    cases hauth
  | some attached => exact ⟨attached, rfl⟩

/-! ## 2. The value in the place of a key -/

/-- The subject has one value for each key, and for this key it is this value alone. -/
def CarriesOnly (keys : List String) (key value subject : String) : Prop :=
  ∃ base values, decodeSubject subject = .ok (base :: values) ∧ values.length = keys.length ∧
    (keys.zip values).filter (fun p => p.1 = key) = [(key, value)]

/-- The value that a subject carries is the one it was encoded with. -/
theorem CarriesOnly.value_eq {keys : List String} {key value base : String}
    {values : String → String}
    (h : CarriesOnly keys key value (encodeSubject (base :: keys.map values))) :
    value = values key := by
  obtain ⟨base', values', hdecode, -, honly⟩ := h
  rw [decodeSubject_encodeSubject _ (List.cons_ne_nil _ _)] at hdecode
  cases hdecode
  have hmem : (key, value) ∈ (keys.zip (keys.map values)).filter fun p => p.1 = key := by
    rw [honly]
    exact List.mem_singleton_self _
  have hzip : (keys.map id).zip (keys.map values) = keys.map fun k => (k, values k) :=
    List.zip_map'
  rw [List.map_id] at hzip
  rw [hzip] at hmem
  obtain ⟨k, -, hk⟩ := List.mem_map.mp (List.mem_filter.mp hmem).1
  cases hk
  rfl

theorem carriesOnly_of_matches {base subject : String} {keys : List String}
    {value : String → String} (hnodup : keys.Nodup) {key : String} (hkey : key ∈ keys)
    (hplain : value key ≠ "*")
    (hmatch : matchesWatchPattern subject (base :: keys.map value) = true) :
    CarriesOnly keys key (value key) subject := by
  unfold matchesWatchPattern at hmatch
  cases hdecode : decodeSubject subject with
  | error e =>
    rw [hdecode] at hmatch
    cases hmatch
  | ok parts =>
    simp only [hdecode] at hmatch
    obtain ⟨first, values, -, hvalues, rfl⟩ :=
      List.forall₂_cons_right_iff.mp ((partsMatch_iff_forall₂ _ _).mp hmatch)
    have hlength := hvalues.length_eq
    rw [List.length_map] at hlength
    exact ⟨first, values, hdecode, hlength,
      partsMatch_keyed value keys values ((partsMatch_iff_forall₂ _ _).mpr hvalues) hnodup hkey
        hplain⟩

/-! ## 3. What a stream matches -/

/-- A watch or replay that passes the checker, on a stream whose match key is routed: its pattern,
and what that pattern matches. -/
structure StreamRestricted (lib : Libraries) (settings : Settings) (schema : EventSchema)
    (eventType matchKey value : String) (result : ProcessingResult) : Prop where
  pattern : ∃ coarse pattern, analyzeWatchPattern result.topic = .ok (coarse, pattern) ∧
    (∀ subject, matchesWatchPattern subject pattern = true →
      CarriesOnly (schema.topicKeys result.canonicalizedParams) matchKey value subject) ∧
    ∀ notifier notification stored, notify lib settings notifier notification = .ok stored →
      matchesWatchPattern stored.topic pattern = true →
        notification.eventType = eventType ∧
          CarriesOnly (schema.topicKeys stored.canonicalizedParams) matchKey value stored.topic ∧
          stored.canonicalizedParams.get matchKey = some value

/-- A notification that matches a pattern of an event type is of that event type. -/
theorem notified_eventType {lib : Libraries} {debugStrings : List String → String} {ecpds : Bool}
    {settings : Settings} (haccepted : settings.validate debugStrings ecpds = .ok ())
    (hstrict : settings.resolveNotificationSchemaStrict = true) {eventType : String}
    {schema : EventSchema} (hschema : settings.schemaOf eventType = some schema)
    {params : HashMap Json} {payload : Option Json} {notified : String} {stored : ProcessingResult}
    (hstored : processRequestWithValues lib settings.registry notified params payload .notify =
      .ok stored) {tokens : List String}
    (hbase : isTopicBase (schema.base eventType) = true)
    (hmatch : matchesWatchPattern stored.topic (schema.base eventType :: tokens) = true) :
    notified = eventType := by
  obtain ⟨-, ⟨values, htopic⟩, hknown⟩ := processRequest_topic hstored
  obtain ⟨notifiedSchema, hnotified⟩ := Option.isSome_iff_exists.mp (hknown hstrict)
  rw [htopic, matchesWatchPattern_encodeSubject _ _ (List.cons_ne_nil _ _),
    partsMatch_iff_forall₂, routedBase_of_schema hnotified] at hmatch
  -- the base of a pattern is no wildcard
  cases hmatch with
  | cons hfirst _ =>
    have hsame := hfirst.resolve_left (isTopicBase_ne_wildcard _ hbase)
    exact base_owner_unique haccepted hnotified hschema hsame.symm

/-- A stream and the notifications of its event type have their values under the same keys. -/
theorem matched_topicKeys {schema : EventSchema} {params others : HashMap String}
    {base : String} {values : String → String} {topic matchKey value : String}
    (hkeys : ∀ key, (others.get key).isSome = true → (params.get key).isSome = true)
    (htopic : topic = encodeSubject (base :: (schema.topicKeys others).map values))
    (hcarries : CarriesOnly (schema.topicKeys params) matchKey value topic) :
    schema.topicKeys others = schema.topicKeys params := by
  apply topicKeys_eq_of_length hkeys
  obtain ⟨_, _, hdecode, hlength, -⟩ := hcarries
  rw [htopic, decodeSubject_encodeSubject _ (List.cons_ne_nil _ _)] at hdecode
  cases hdecode
  rwa [List.length_map] at hlength

/-- The value of a routed match key restricts what a stream can match. -/
theorem streamRestricted {lib : Libraries} {debugStrings : List String → String} {ecpds : Bool}
    {settings : Settings} (haccepted : settings.validate debugStrings ecpds = .ok ())
    (hstrict : settings.resolveNotificationSchemaStrict = true) {eventType matchKey : String}
    {schema : EventSchema} (hschema : settings.schemaOf eventType = some schema)
    (hrouted : MatchKeyRouted schema matchKey) {params : HashMap Json} {payload : Option Json}
    {operation : OperationType} (hoperation : operation ≠ .notify) {result : ProcessingResult}
    (hprocess : processRequestWithValues lib settings.registry eventType params payload operation =
      .ok result) {value : String} (hvalue : result.canonicalizedParams.get matchKey = some value)
    (hplain : value ≠ "*") :
    StreamRestricted lib settings schema eventType matchKey value result := by
  have hstreamed := streamedTopic hoperation hschema hprocess
  let routed := routedValue schema operation result.canonicalizedParams
  have hkey : matchKey ∈ schema.topicKeys result.canonicalizedParams := by
    unfold EventSchema.topicKeys
    cases htopicConfig : schema.topic with
    | some topicConfig => exact hrouted.routed topicConfig htopicConfig
    | none =>
      apply mem_sortStrings_keys.mpr
      rw [hvalue]
      rfl
  have hroutedValue : routed matchKey = value := by
    show ((routingParams schema operation result.canonicalizedParams).get matchKey).getD "" = value
    rw [routingParams_get hrouted.name, hvalue]
    rfl
  -- the value is no wildcard in the pattern, so what matches has it in its place
  have hcarries : ∀ subject, matchesWatchPattern subject (schema.base eventType ::
      (schema.topicKeys result.canonicalizedParams).map routed) = true →
        CarriesOnly (schema.topicKeys result.canonicalizedParams) matchKey value subject := by
    intro subject hmatch
    rw [← hroutedValue] at hplain ⊢
    exact carriesOnly_of_matches (topicKeys_nodup haccepted hschema _) hkey hplain hmatch
  refine ⟨_, _, hstreamed.topic ▸ analyzeWatchPattern_encodeSubject _ (List.cons_ne_nil _ _),
    hcarries, ?_⟩
  intro notifier notification stored hnotify hmatch
  have hstored := (notify_eq_ok hnotify).2
  have hsame := notified_eventType haccepted hstrict hschema hstored hstreamed.base hmatch
  refine ⟨hsame, ?_⟩
  rw [hsame] at hstored
  have hnotified := notifiedTopic hschema hstored
  have hcarried := hcarries stored.topic hmatch
  -- without a key order, notification and stream have the same keys, as their topics match
  have hkeys : schema.topicKeys stored.canonicalizedParams =
      schema.topicKeys result.canonicalizedParams :=
    matched_topicKeys (fun key hsome => hstreamed.declared key (hnotified.declared key hsome))
      hnotified.topic hcarried
  rw [← hkeys] at hcarried hkey
  refine ⟨hcarried, ?_⟩
  have hvalue := hcarried
  rw [hnotified.topic] at hvalue
  obtain ⟨found, hfound⟩ := Option.isSome_iff_exists.mp (hnotified.present matchKey hkey)
  rw [hfound, hvalue.value_eq, hfound]
  rfl

/-! ## 4. Restricted delivery -/

/-- What a stream may match, once the plugin has let its user through: messages of one destination,
which is one of the user's. -/
def DeliversDestination (lib : Libraries) (settings : Settings) (schema : EventSchema)
    (eventType matchKey : String) (destinations : Finset String) (result : ProcessingResult) :
    Prop :=
  ∃ value, result.canonicalizedParams.get matchKey = some value ∧ value ∈ destinations ∧
    StreamRestricted lib settings schema eventType matchKey value result

/-- On a stream with the plugin, in accepted strict settings, the auth rule leaves no request without
a user, and what the plugin allows to a user who is no administrator delivers messages of one of the
user's destinations, unless the user has the destination `*`. -/
theorem ecpds_restricts_delivery (lib : Libraries) (debugStrings : List String → String)
    (parseUrl : String → Except String ParsedUrl) (clients : EcpdsClients)
    (ecpds : Option EcpdsConfig) (settings : Settings) (data : EcpdsAppData)
    (hbuild : settings.buildWithEcpds debugStrings parseUrl clients ecpds = .ok data)
    (hstrict : settings.resolveNotificationSchemaStrict = true) (eventType : String)
    (schema : EventSchema) (hschema : settings.schemaOf eventType = some schema)
    (hplugin : schema.enablesEcpds = true) :
    (∀ user operation, enforceStreamAuth settings user eventType operation = .ok () →
      ∃ attached, user = some attached) ∧
    ∀ user request operation context, request.eventType = eventType → operation ≠ .notify →
      streamingContext lib settings (some user) request operation = .ok context →
      user.isAdmin settings.auth.adminRoles = false →
      enforceEcpdsAuth settings data (some user) eventType context.result.canonicalizedParams =
        .ok () →
      ∃ config checker destinations, ecpds = some config ∧ data.checker = some checker ∧
        (checker.tryGetOrFetch user.username).2 = .ok destinations ∧
        ("*" ∉ destinations →
          DeliversDestination lib settings schema eventType config.matchKey destinations
            context.result) := by
  have hbuilt := buildWithEcpds_eq_ok hbuild
  constructor
  · intro user operation hauth
    exact user_of_enforceStreamAuth hbuilt.accepted hschema hplugin hauth
  intro user request operation context htype hoperation hcontext hadmin hallowed
  have hprocess := (streamingContext_eq_ok hcontext).2
  rw [htype] at hprocess
  obtain ⟨checker, hchecker, haccess⟩ :=
    enforceEcpdsAuth_eq_ok hbuilt.authSettings hschema hplugin hadmin hallowed
  obtain ⟨config, hconfig, hrouted⟩ := hbuilt.matchKey eventType schema hschema hplugin
  obtain ⟨value, destinations, hvalue, hfetch, hmem⟩ := checkAccess_eq_ok haccess
  -- the checker was built from the section that startup looked at
  have hkey : checker.matchKey = config.matchKey := by
    obtain ⟨config', hconfig', hkey⟩ := hbuilt.checker checker hchecker
    rw [hconfig] at hconfig'
    cases hconfig'
    exact hkey
  rw [hkey] at hvalue
  refine ⟨config, checker, destinations, hconfig, hchecker, hfetch, ?_⟩
  intro hstar
  have hplain : value ≠ "*" := fun h => hstar (h ▸ hmem)
  exact ⟨value, hvalue, hmem, streamRestricted hbuilt.accepted hstrict hschema hrouted hoperation
    hprocess hvalue hplain⟩

-- a stream of disseminated products, with the plugin on its destination
def disseminationSchema : EventSchema where
  payload := none
  topic := some { base := "diss", keyOrder := ["destination"] }
  identifier := AList.singleton "destination" ⟨.stringHandler none true⟩
  storagePolicy := none
  auth :=
    some { required := true, readRoles := none, writeRoles := none, plugins := some ["ecpds"] }

def ecpdsSettings : Settings where
  applicationPort := 8000
  notificationBackend := { kind := "in_memory", retentionPolicy := none }
  notificationSchema := some (AList.singleton "dissemination" disseminationSchema)
  notificationSchemaStrict := none
  auth :=
    { AuthSettings.default with
      enabled := true
      mode := .trustedProxy
      jwtSecret := "secret"
      adminRoles := AList.singleton "realm" ["admin"] }
  metrics := { enabled := false, port := none }

def monitorConfig : EcpdsConfig where
  username := "aviso"
  password := "secret"
  targetField := "name"
  matchKey := "destination"
  cacheTtlSeconds := 300
  maxEntries := 10000
  requestTimeoutSeconds := 30
  connectTimeoutSeconds := 5
  partialOutagePolicy := .strict
  servers := ["https://monitor"]

-- the server lists two destinations for every user
def monitorClients : EcpdsClients := fun _ =>
  .ok fun _ => (.missFetched .success, .ok {"CIP", "FOO"})

def monitorUrl : String → Except String ParsedUrl := fun _ =>
  .ok { scheme := "https", hostStr := some "monitor", query := none, fragment := none }

def monitorUser : User where
  username := "alice"
  realm := some "realm"
  roles := []
  attributes := ∅

def destinationRequest (destination : String) : NotificationRequest :=
  { bareRequest "dissemination" with
    identifier := AList.singleton "destination" (.string destination) }

def disseminationData : EcpdsAppData where
  authSettings := some ecpdsSettings.auth
  checker :=
    some
      { tryGetOrFetch := fun _ => (.missFetched .success, .ok {"CIP", "FOO"})
        matchKey := "destination" }

theorem disseminationData_built :
    ecpdsSettings.buildWithEcpds plainLibraries.debugStrings monitorUrl monitorClients
      (some monitorConfig) = .ok disseminationData := by
  have hvalid : ecpdsSettings.validate plainLibraries.debugStrings true = .ok () := by
    decide +kernel
  have hecpds : validateEcpdsSettings plainLibraries.debugStrings monitorUrl ecpdsSettings
      (some monitorConfig) = .ok () := by
    decide +kernel
  unfold Settings.buildWithEcpds
  rw [hvalid, hecpds]
  rfl

theorem ecpds_restricts_delivery_dissemination : ∃ context,
    watch plainLibraries ecpdsSettings (some monitorUser) (destinationRequest "CIP") = .ok context ∧
      DeliversDestination plainLibraries ecpdsSettings disseminationSchema "dissemination"
        "destination" {"CIP", "FOO"} context.result := by
  obtain ⟨context, hcontext, hallowed⟩ : ∃ context,
      streamingContext plainLibraries ecpdsSettings (some monitorUser) (destinationRequest "CIP")
        .watch = .ok context ∧
      enforceEcpdsAuth ecpdsSettings disseminationData (some monitorUser) "dissemination"
        context.result.canonicalizedParams = .ok () := ⟨_, rfl, rfl⟩
  obtain ⟨-, hdelivers⟩ := ecpds_restricts_delivery plainLibraries plainLibraries.debugStrings
    monitorUrl monitorClients (some monitorConfig) ecpdsSettings disseminationData
    disseminationData_built rfl "dissemination" disseminationSchema rfl rfl
  obtain ⟨config, checker, destinations, hconfig, hchecker, hfetch, hrestricted⟩ :=
    hdelivers monitorUser (destinationRequest "CIP") .watch context rfl (by decide) hcontext
      (by decide +kernel) hallowed
  cases hconfig
  cases hchecker
  cases hfetch
  exact ⟨context, hcontext, hrestricted (by decide)⟩

end AvisoServer
