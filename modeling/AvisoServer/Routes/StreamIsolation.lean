import AvisoServer.Routes.Streaming
import AvisoServer.WildcardMatcher

/-!
# Stream isolation

The auth rule of a request is that of the schema of its event type, while its topic starts with the
base of that schema, or with the event type itself if there is none. The two agree on every event
type except one that has no schema and is the base of another schema.
-/

namespace AvisoServer

/-! ## 1. Isolation -/

/-- A schema that requires authentication, with the base it owns. -/
structure Settings.Protects (settings : Settings) (owner : String) (streamAuth : StreamAuthConfig)
    (base : String) : Prop where
  owned : ∃ schema, settings.schemaOf owner = some schema ∧ schema.auth = some streamAuth ∧
    schema.base owner = base
  required : streamAuth.required = true

/-- The topic starts with the base, or is a pattern that matches a notification topic that does. -/
def Reaches (topic base : String) : Prop :=
  (∃ rest, decodeSubject topic = .ok (base :: rest)) ∨
    ∃ coarse pattern notificationTopic rest, analyzeWatchPattern topic = .ok (coarse, pattern) ∧
      decodeSubject notificationTopic = .ok (base :: rest) ∧
      matchesWatchPattern notificationTopic pattern = true

/-- The auth rule of the owner was evaluated for the request, and allowed its user. -/
def Settings.Authorized (settings : Settings) (eventType : String) (user : Option User)
    (operation : StreamOperation) (streamAuth : StreamAuthConfig) : Prop :=
  (settings.schemaOf eventType).bind (·.auth) = some streamAuth ∧
    authorizeStream settings.auth streamAuth user operation = .ok ()

/-- No request with this event type stores or receives under a protected base without the auth
rule of the base's owner. -/
def Settings.Isolated (lib : Libraries) (settings : Settings) (eventType : String) : Prop :=
  ∀ (request : NotificationRequest) (user : Option User), request.eventType = eventType →
    ∀ owner streamAuth base, settings.Protects owner streamAuth base →
      (∀ result, notify lib settings user request = .ok result → Reaches result.topic base →
        settings.Authorized eventType user .write streamAuth) ∧
      (∀ context, watch lib settings user request = .ok context →
        Reaches context.result.topic base →
        settings.Authorized eventType user .read streamAuth) ∧
      (∀ context, replay lib settings user request = .ok context →
        Reaches context.result.topic base →
        settings.Authorized eventType user .read streamAuth)

theorem reaches_base {topic base first : String} {values : List String} (hplain : first ≠ "*")
    (htopic : decodeSubject topic = .ok (first :: values)) (h : Reaches topic base) :
    base = first := by
  rcases h with ⟨rest, hrest⟩ | ⟨coarse, pattern, notificationTopic, rest, hpattern, hrest, hmatch⟩
  · rw [htopic] at hrest
    cases hrest
    rfl
  · have hdecoded := ((analyzeWatchPattern_eq_ok topic coarse pattern).mp hpattern).1
    rw [htopic] at hdecoded
    cases hdecoded
    unfold matchesWatchPattern at hmatch
    rw [hrest] at hmatch
    have hparts := (partsMatch_iff_forall₂ _ _).mp hmatch
    cases hparts with
    | cons hfirst _ => exact (hfirst.resolve_left hplain).symm

/-- A request whose rule was enforced reaches no protected base but its own. -/
theorem authorized_of_accepted {lib : Libraries} {debugStrings : List String → String}
    {ecpds : Bool} {settings : Settings}
    (haccepted : settings.validate debugStrings ecpds = .ok ())
    (henabled : settings.auth.enabled = true) {eventType : String} {params : HashMap Json}
    {payload : Option Json} {operation : OperationType} {result : ProcessingResult}
    {user : Option User} {streamOperation : StreamOperation}
    (hknown : settings.resolveNotificationSchemaStrict = true ∨
      (settings.schemaOf eventType).isSome = true ∨
      ∀ owner streamAuth, ¬ settings.Protects owner streamAuth eventType)
    (hprocess : processRequestWithValues lib settings.registry eventType params payload operation =
      .ok result)
    (hauth : enforceStreamAuth settings user eventType streamOperation = .ok ())
    {owner base : String} {streamAuth : StreamAuthConfig}
    (hprotects : settings.Protects owner streamAuth base) (hreaches : Reaches result.topic base) :
    settings.Authorized eventType user streamOperation streamAuth := by
  obtain ⟨hbase, ⟨values, htopic⟩, hstrict⟩ := processRequest_topic hprocess
  have hdecoded : decodeSubject result.topic = .ok (settings.routedBase eventType :: values) := by
    rw [htopic]
    exact decodeSubject_encodeSubject _ (by simp)
  have hrouted := reaches_base (isTopicBase_ne_wildcard _ hbase) hdecoded hreaches
  subst hrouted
  obtain ⟨ownerSchema, hownerSchema, hownerAuth, hownerBase⟩ := hprotects.owned
  cases hschema : settings.schemaOf eventType with
  | none =>
    -- without a schema the topic starts with the event type, which nothing protects
    rcases hknown with hmode | hsome | hfree
    · rw [hschema] at hstrict
      cases hstrict hmode
    · rw [hschema] at hsome
      cases hsome
    · unfold Settings.routedBase at hprotects
      rw [hschema] at hprotects
      exact absurd hprotects (hfree owner streamAuth)
  | some schema =>
    have hsame : eventType = owner := by
      apply base_owner_unique haccepted hschema hownerSchema
      rw [hownerBase]
      unfold Settings.routedBase
      rw [hschema]
    subst hsame
    rw [hschema] at hownerSchema
    cases hownerSchema
    have hrule : (settings.schemaOf eventType).bind (·.auth) = some streamAuth := by
      rw [hschema]
      exact hownerAuth
    unfold enforceStreamAuth at hauth
    rw [henabled, hrule] at hauth
    exact ⟨hrule, hauth⟩

/-- With auth enabled, an event type is isolated exactly when strict mode rejects what has no
schema, or it has a schema, or it is not the base of a schema that requires authentication. -/
theorem streamIsolation_iff (lib : Libraries) (debugStrings : List String → String) (ecpds : Bool)
    (settings : Settings) (haccepted : settings.validate debugStrings ecpds = .ok ())
    (henabled : settings.auth.enabled = true) (eventType : String) :
    settings.Isolated lib eventType ↔
      settings.resolveNotificationSchemaStrict = true ∨
        (settings.schemaOf eventType).isSome = true ∨
        ∀ owner streamAuth, ¬ settings.Protects owner streamAuth eventType := by
  constructor
  · intro hisolated
    by_contra hcondition
    push Not at hcondition
    obtain ⟨hpermissive, hunknown, owner, streamAuth, hprotects⟩ := hcondition
    have hschema : settings.schemaOf eventType = none := by simpa using hunknown
    obtain ⟨ownerSchema, hownerSchema, -, hownerBase⟩ := hprotects.owned
    have hbase := schema_base_valid haccepted hownerSchema
    rw [hownerBase] at hbase
    obtain ⟨result, hnotify, htopic⟩ :=
      notify_bareRequest lib settings eventType (by simpa using hpermissive) hschema hbase
    obtain ⟨hstored, -, -⟩ :=
      hisolated (bareRequest eventType) none rfl owner streamAuth eventType hprotects
    have hreaches : Reaches result.topic eventType := by
      rw [htopic]
      exact Or.inl ⟨[], decodeSubject_base eventType hbase⟩
    have hrule := (hstored result hnotify hreaches).1
    rw [hschema] at hrule
    cases hrule
  · rintro hknown request user rfl owner streamAuth base hprotects
    refine ⟨?_, ?_, ?_⟩
    · intro result hnotify hreaches
      obtain ⟨hauth, hprocess⟩ := notify_eq_ok hnotify
      exact authorized_of_accepted haccepted henabled hknown hprocess hauth hprotects hreaches
    · intro context hwatch hreaches
      obtain ⟨hauth, hprocess⟩ := streamingContext_eq_ok hwatch
      exact authorized_of_accepted haccepted henabled hknown hprocess hauth hprotects hreaches
    · intro context hreplay hreaches
      obtain ⟨hauth, hprocess⟩ := streamingContext_eq_ok hreplay
      exact authorized_of_accepted haccepted henabled hknown hprocess hauth hprotects hreaches

-- an open server whose one schema, for administrators, owns the base `secret`
def secretSchema : EventSchema where
  payload := none
  topic := some { base := "secret", keyOrder := ["class"] }
  identifier := AList.singleton "class" ⟨.stringHandler none true⟩
  storagePolicy := none
  auth := some { required := true, readRoles := none, writeRoles := none, plugins := none }

def openSettings : Settings where
  applicationPort := 8000
  notificationBackend := { kind := "in_memory", retentionPolicy := none }
  notificationSchema := some (AList.singleton "private" secretSchema)
  notificationSchemaStrict := some false
  auth :=
    { AuthSettings.default with
      enabled := true
      mode := .trustedProxy
      jwtSecret := "secret"
      adminRoles := AList.singleton "realm" ["admin"] }
  metrics := { enabled := false, port := none }

theorem streamIsolation_iff_private :
    openSettings.Isolated plainLibraries "private" ↔
      openSettings.resolveNotificationSchemaStrict = true ∨
        (openSettings.schemaOf "private").isSome = true ∨
        ∀ owner streamAuth, ¬ openSettings.Protects owner streamAuth "private" :=
  streamIsolation_iff plainLibraries plainLibraries.debugStrings false openSettings
    (by decide +kernel) rfl "private"

/-- A notification of the unknown event type `secret` is accepted without a user. -/
theorem unknownSecret_unchecked : ¬ openSettings.Isolated plainLibraries "secret" := by
  intro hisolated
  have hprotects : openSettings.Protects "private"
      { required := true, readRoles := none, writeRoles := none, plugins := none } "secret" :=
    { owned := ⟨secretSchema, rfl, rfl, rfl⟩
      required := rfl }
  have hbase : isTopicBase "secret" = true := by decide +kernel
  obtain ⟨result, hnotify, htopic⟩ :=
    notify_bareRequest plainLibraries openSettings "secret" rfl rfl hbase
  obtain ⟨hstored, -, -⟩ := hisolated (bareRequest "secret") none rfl "private" _ "secret" hprotects
  have hreaches : Reaches result.topic "secret" := by
    rw [htopic]
    exact Or.inl ⟨[], decodeSubject_base "secret" hbase⟩
  have hrule := (hstored result hnotify hreaches).1
  cases hrule

end AvisoServer
