import AvisoServer.Backend.StreamBindings
import AvisoServer.Configuration.UnitGrammar

/-!
# Storage policies

The limits that the settings spell out are parsed when they are checked at startup, and again when
they are applied to the stream of their base. What was accepted the first time is what the stream
gets the second time.
-/

namespace AvisoServer

/-! ## 1. Policies -/

/-- A stream has the limits that are spelled out; durations are in nanoseconds. -/
structure Applies (policy : EventStoragePolicy) (config : StreamConfig) : Prop where
  retentionTime : ∀ text, policy.retentionTime = some text →
    ∃ seconds, DurationText text seconds ∧ 0 < seconds ∧ config.maxAge = seconds * 1000000000
  maxSize : ∀ text, policy.maxSize = some text →
    ∃ bytes, SizeText text bytes ∧ config.maxBytes = bytes

/-- The other limits stay what they are by default. -/
structure KeepsDefaults (policy : EventStoragePolicy) (before config : StreamConfig) : Prop where
  retentionTime : policy.retentionTime = none → config.maxAge = before.maxAge
  maxSize : policy.maxSize = none → config.maxBytes = before.maxBytes

theorem overriddenMaxAge_accepted {eventType : String} {retentionTime : Option String}
    (h : validateRetentionTime eventType retentionTime = .ok ()) (maxAge : Nat) :
    ∃ age, overriddenMaxAge maxAge retentionTime = .ok age ∧
      (retentionTime = none → age = maxAge) ∧
      ∀ text, retentionTime = some text →
        ∃ seconds, DurationText text seconds ∧ 0 < seconds ∧
          (age : Int) = seconds * 1000000000 := by
  cases retentionTime with
  | none => exact ⟨maxAge, rfl, fun _ => rfl, fun text htext => nomatch htext⟩
  | some text =>
    unfold validateRetentionTime at h
    unfold overriddenMaxAge
    cases hparse : parseRetentionTimeSpec text with
    | error e =>
      simp only [hparse] at h
      cases h
    | ok seconds =>
      simp only [hparse] at h ⊢
      have hduration := ((parseRetentionTimeSpec_iff text seconds).mp hparse).1
      have hnonneg := hduration.bounds.1
      by_cases hzero : seconds = 0
      · rw [if_pos hzero] at h
        cases h
      · rw [if_neg hzero]
        refine ⟨_, rfl, (fun hnone => nomatch hnone), ?_⟩
        intro other hother
        cases hother
        exact ⟨seconds, hduration, by omega, by omega⟩

theorem overriddenMaxBytes_accepted {eventType : String} {maxSize : Option String}
    (h : validateMaxSize eventType maxSize = .ok ()) (maxBytes : Int) :
    ∃ size, overriddenMaxBytes maxBytes maxSize = .ok size ∧
      (maxSize = none → size = maxBytes) ∧
      ∀ text, maxSize = some text → ∃ bytes, SizeText text bytes ∧ size = bytes := by
  cases maxSize with
  | none => exact ⟨maxBytes, rfl, fun _ => rfl, fun text htext => nomatch htext⟩
  | some text =>
    unfold validateMaxSize at h
    unfold overriddenMaxBytes
    cases hparse : parseSizeSpec text with
    | error e =>
      simp only [hparse] at h
      cases h
    | ok bytes =>
      simp only [hparse]
      refine ⟨bytes, rfl, (fun hnone => nomatch hnone), ?_⟩
      intro other hother
      cases hother
      exact ⟨bytes, (parseSizeSpec_iff text bytes).mp hparse, rfl⟩

/-- A policy that startup accepts is applied without an error. -/
theorem applyStoragePolicyOverrides_accepted {kind eventType : String} {policy : EventStoragePolicy}
    {capabilities : BackendCapabilities}
    (h : validatePolicyFields kind eventType policy capabilities = .ok ()) (config : StreamConfig) :
    ∃ overridden, applyStoragePolicyOverrides config policy = .ok overridden ∧
      Applies policy overridden ∧ KeepsDefaults policy config overridden := by
  unfold validatePolicyFields at h
  obtain ⟨_, hretention, h⟩ := bind_eq_ok.mp h
  obtain ⟨_, hsize, -⟩ := bind_eq_ok.mp h
  obtain ⟨age, hage, hageKept, hageSet⟩ := overriddenMaxAge_accepted hretention config.maxAge
  obtain ⟨bytes, hbytes, hbytesKept, hbytesSet⟩ := overriddenMaxBytes_accepted hsize config.maxBytes
  unfold applyStoragePolicyOverrides
  simp only [hage, hbytes, bind, Except.bind]
  exact ⟨_, rfl, ⟨hageSet, hbytesSet⟩, ⟨hageKept, hbytesKept⟩⟩

/-! ## 2. The policy of a base -/

/-- Every policy of accepted schemas has a topic, and its fields are accepted. -/
theorem validatePolicies_fields {kind : String} {capabilities : BackendCapabilities}
    (owners : List (String × String)) (entries : List (Sigma fun _ : String => EventSchema))
    (h : validatePolicies kind capabilities owners entries = .ok ()) :
    ∀ entry ∈ entries, ∀ policy, entry.2.storagePolicy = some policy →
      (∃ topic, entry.2.topic = some topic) ∧
        validatePolicyFields kind entry.1 policy capabilities = .ok () := by
  induction entries generalizing owners with
  | nil => simp
  | cons entry entries ih =>
    obtain ⟨eventType, schema⟩ := entry
    unfold validatePolicies at h
    rw [List.forall_mem_cons]
    cases hpolicy : schema.storagePolicy with
    | none =>
      simp only [hpolicy] at h
      exact ⟨(fun policy hsome => nomatch hsome), ih owners h⟩
    | some policy =>
      cases htopic : schema.topic with
      | none =>
        simp only [hpolicy, htopic] at h
        cases h
      | some topic =>
        simp only [hpolicy, htopic] at h
        split at h
        · cases h
        obtain ⟨_, hfields, hrest⟩ := bind_eq_ok.mp h
        refine ⟨?_, ih _ hrest⟩
        intro other hother
        cases hother
        exact ⟨⟨topic, rfl⟩, hfields⟩

theorem storagePolicy_fields {settings : Settings}
    (h : validateSchemaStoragePolicySupport settings = .ok ()) :
    ∃ capabilities, ∀ entry ∈ settings.schemas, ∀ policy, entry.2.storagePolicy = some policy →
      (∃ topic, entry.2.topic = some topic) ∧
        validatePolicyFields settings.notificationBackend.kind entry.1 policy capabilities =
          .ok () := by
  unfold validateSchemaStoragePolicySupport at h
  simp only at h
  split at h
  · cases h
  rename_i capabilities _
  split at h
  · cases h
  obtain ⟨_, -, hpolicies⟩ := bind_eq_ok.mp h
  exact ⟨capabilities, validatePolicies_fields [] settings.schemas hpolicies⟩

/-- A schema has a policy for the streams of a base. -/
def PolicyFor (base : String) (entry : Sigma fun _ : String => EventSchema) : Prop :=
  ∃ topic policy, entry.2.topic = some topic ∧ entry.2.storagePolicy = some policy ∧
    eqIgnoreAsciiCase topic.base base = true

theorem selectStoragePolicy_skip {base : String} {selected : Option (String × EventStoragePolicy)}
    {entry : Sigma fun _ : String => EventSchema}
    {rest : List (Sigma fun _ : String => EventSchema)} (h : ¬ PolicyFor base entry) :
    selectStoragePolicy base selected (entry :: rest) = selectStoragePolicy base selected rest := by
  obtain ⟨eventType, schema⟩ := entry
  rw [selectStoragePolicy]
  split
  · rename_i topic policy htopic hpolicy
    exact if_neg fun hbase => h ⟨topic, policy, htopic, hpolicy, hbase⟩
  · rfl

theorem selectStoragePolicy_none {base : String} (selected : Option (String × EventStoragePolicy))
    {entries : List (Sigma fun _ : String => EventSchema)}
    (h : ∀ entry ∈ entries, ¬ PolicyFor base entry) :
    selectStoragePolicy base selected entries = .ok selected := by
  induction entries with
  | nil => rfl
  | cons entry rest ih =>
    rw [selectStoragePolicy_skip (h entry List.mem_cons_self)]
    exact ih fun other hother => h other (List.mem_cons_of_mem entry hother)

/-- The only schema with a policy for a base is the one that is selected. -/
theorem selectStoragePolicy_only {base eventType : String} {schema : EventSchema}
    {policy : EventStoragePolicy} (hpolicy : schema.storagePolicy = some policy)
    (hfor : PolicyFor base ⟨eventType, schema⟩)
    {entries : List (Sigma fun _ : String => EventSchema)} (hnodup : entries.Nodup)
    (hmem : ⟨eventType, schema⟩ ∈ entries)
    (honly : ∀ entry ∈ entries, PolicyFor base entry → entry = ⟨eventType, schema⟩) :
    selectStoragePolicy base none entries = .ok (some (eventType, policy)) := by
  induction entries with
  | nil => cases hmem
  | cons entry rest ih =>
    have hnodup' := List.nodup_cons.mp hnodup
    by_cases hentry : entry = ⟨eventType, schema⟩
    · subst hentry
      obtain ⟨topic, found, htopic, hfound, hbase⟩ := hfor
      have hnone : ∀ other ∈ rest, ¬ PolicyFor base other := by
        intro other hother hfor
        rw [honly other (List.mem_cons_of_mem _ hother) hfor] at hother
        exact hnodup'.1 hother
      rw [selectStoragePolicy, htopic, hpolicy]
      show (if _ then _ else _) = _
      rw [if_pos hbase]
      exact selectStoragePolicy_none _ hnone
    · have hskip : ¬ PolicyFor base entry := fun hfor =>
        hentry (honly entry List.mem_cons_self hfor)
      rw [selectStoragePolicy_skip hskip]
      apply ih hnodup'.2
      · exact (List.mem_cons.mp hmem).resolve_left fun heq => hentry heq.symm
      · exact fun other hother => honly other (List.mem_cons_of_mem entry hother)

/-- The schemas with a policy for the streams of a base, up to the case of ASCII letters. -/
theorem policyFor_iff {base eventType : String} {schema : EventSchema} :
    PolicyFor (toAsciiLowercase (toAsciiUppercase base)) ⟨eventType, schema⟩ ↔
      ∃ topic policy, schema.topic = some topic ∧ schema.storagePolicy = some policy ∧
        toAsciiUppercase topic.base = toAsciiUppercase base := by
  have hbase : ∀ name, eqIgnoreAsciiCase name (toAsciiLowercase (toAsciiUppercase base)) = true ↔
      toAsciiUppercase name = toAsciiUppercase base := by
    intro name
    rw [eqIgnoreAsciiCase_iff, toAsciiLowercase_toAsciiUppercase, toAsciiLowercase_idem]
    constructor
    · exact toAsciiUppercase_of_lowered
    · intro hupper
      rw [← toAsciiLowercase_toAsciiUppercase name, hupper, toAsciiLowercase_toAsciiUppercase]
  unfold PolicyFor
  simp only [hbase]

theorem resolveStoragePolicyForBase_schemas (settings : Settings) (streamName : String) :
    resolveStoragePolicyForBase streamName settings.notificationSchema =
      selectStoragePolicy (toAsciiLowercase streamName) none settings.schemas := by
  unfold resolveStoragePolicyForBase Settings.schemas
  cases settings.notificationSchema <;> rfl

/-- In accepted settings a base has the policy of its own schema, or none. -/
theorem resolveStoragePolicyForBase_accepted {settings : Settings}
    (h : validateSchemaStoragePolicySupport settings = .ok ()) (base : String) :
    (resolveStoragePolicyForBase (toAsciiUppercase base) settings.notificationSchema = .ok none ∧
        ∀ eventType schema, settings.schemaOf eventType = some schema →
          toAsciiUppercase (schema.base eventType) = toAsciiUppercase base →
          schema.storagePolicy = none) ∨
      ∃ eventType schema policy, settings.schemaOf eventType = some schema ∧
        schema.storagePolicy = some policy ∧
        toAsciiUppercase (schema.base eventType) = toAsciiUppercase base ∧
        resolveStoragePolicyForBase (toAsciiUppercase base) settings.notificationSchema =
          .ok (some (eventType, policy)) := by
  obtain ⟨capabilities, hfields⟩ := storagePolicy_fields h
  rw [resolveStoragePolicyForBase_schemas]
  by_cases hsome : ∃ entry ∈ settings.schemas,
      PolicyFor (toAsciiLowercase (toAsciiUppercase base)) entry
  · right
    obtain ⟨⟨eventType, schema⟩, hmem, hfor⟩ := hsome
    obtain ⟨topic, policy, htopic, hpolicy, hbase⟩ := policyFor_iff.mp hfor
    have hschema := schemas_mem hmem
    rw [← EventSchema.base_of_topic htopic eventType] at hbase
    refine ⟨eventType, schema, policy, hschema, hpolicy, hbase, ?_⟩
    apply selectStoragePolicy_only hpolicy hfor ((storagePolicy_streams h).of_map _) hmem
    -- another schema of this base would share its stream
    rintro ⟨other, otherSchema⟩ hother hotherFor
    obtain ⟨otherTopic, -, hotherTopic, -, hotherBase⟩ := policyFor_iff.mp hotherFor
    rw [← EventSchema.base_of_topic hotherTopic other] at hotherBase
    exact List.inj_on_of_nodup_map (storagePolicy_streams h) hother hmem
      (hotherBase.trans hbase.symm)
  · left
    constructor
    · exact selectStoragePolicy_none none fun entry hentry hfor => hsome ⟨entry, hentry, hfor⟩
    · intro eventType schema hschema hbase
      by_contra hpolicy
      obtain ⟨policy, hpolicy⟩ := Option.ne_none_iff_exists'.mp hpolicy
      have hmem := schemaOf_mem hschema
      obtain ⟨⟨topic, htopic⟩, -⟩ := hfields _ hmem policy hpolicy
      rw [EventSchema.base_of_topic htopic] at hbase
      exact hsome ⟨_, hmem, policyFor_iff.mpr ⟨topic, policy, htopic, hpolicy, hbase⟩⟩

/-! ## 3. The stream of a base -/

theorem OwnedAlike.refl (config : StreamConfig) : OwnedAlike config config :=
  ⟨rfl, rfl, rfl, rfl, rfl, rfl, rfl, rfl, rfl⟩

/-- The server has the stream of this configuration, with the settings that the server code owns. -/
def NatsServer.Follows (server : NatsServer) (desired : StreamConfig) : Prop :=
  ∃ config, server.streams.get desired.name = some config ∧ OwnedAlike config desired

theorem put_follows (server : NatsServer) {config desired : StreamConfig}
    (hname : config.name = desired.name) (halike : OwnedAlike config desired) :
    (server.put config).Follows desired := by
  refine ⟨config, ?_, halike⟩
  rw [server.get_put, if_pos hname.symm]

/-- A call that succeeds leaves a stream that follows the configuration. -/
def Ensured.Follows (after : Ensured) (desired : StreamConfig) : Prop :=
  after.2.isOk = true → after.1.Follows desired

theorem reconcile_follows (debugStrings : List String → String) {server : NatsServer}
    (calls : EnsureCalls) {current desired : StreamConfig}
    (hcurrent : server.streams.get desired.name = some current) :
    (reconcileExistingStreamConfig debugStrings server calls current desired).Follows desired := by
  have hmerged := mergedReconciledConfig_reconciles current desired
  have hname := hmerged.name
  rw [server.named _ _ hcurrent] at hname
  unfold reconcileExistingStreamConfig
  by_cases hstorage : current.storage ≠ desired.storage
  · rw [if_pos hstorage]
    exact fun hok => nomatch hok
  rw [if_neg hstorage]
  simp only
  split
  · -- nothing is written, and nothing has drifted
    rename_i hchanges
    have howned := hmerged.owned
    rw [hmerged.unchanged.mp hchanges] at howned
    exact fun _ => ⟨current, hcurrent, howned⟩
  · split
    · rename_i hupdate
      rw [updateStream_eq_ok hupdate]
      exact fun _ => put_follows server hname hmerged.owned
    · exact fun hok => nomatch hok

theorem createStream_follows {server created : NatsServer} {failure : Option String}
    {desired : StreamConfig} (h : server.createStream failure desired = .ok created) :
    created.Follows desired := by
  unfold NatsServer.createStream at h
  split at h
  · cases h
  split at h
  · rename_i existing hexisting
    by_cases hsame : existing = desired
    · rw [if_pos hsame] at h
      cases h
      rw [hsame] at hexisting
      exact ⟨desired, hexisting, OwnedAlike.refl desired⟩
    · rw [if_neg hsame] at h
      cases h
  · cases h
    exact put_follows server rfl (OwnedAlike.refl desired)

theorem ensureStream_follows (debugStrings : List String → String) (server : NatsServer)
    (calls : EnsureCalls) (desired : StreamConfig) :
    (ensureStream debugStrings server calls desired).Follows desired := by
  unfold ensureStream
  split
  · rename_i hcurrent
    exact reconcile_follows debugStrings calls (getStream_eq_ok hcurrent)
  · split
    · rename_i hcreate
      exact fun _ => createStream_follows hcreate
    · split
      · rename_i hinspect
        exact reconcile_follows debugStrings calls (getStream_eq_ok hinspect)
      · exact fun hok => nomatch hok
    · exact fun hok => nomatch hok

/-! ## 4. Startup -/

/-- `retention_time` in `from_backend_settings`: the default of all streams, in nanoseconds. -/
def defaultRetentionTime : Option String → Result (Option Nat)
  | none => .ok none
  | some value =>
    match parseRetentionTimeSpec value with
    | .ok seconds => .ok (some (seconds.toNat * 1000000000))
    | .error e => bail ("notification_backend.jetstream.retention_time is invalid: " ++ e)

theorem defaultRetentionTime_eq_ok {text : String} {age : Option Nat}
    (h : defaultRetentionTime (some text) = .ok age) :
    ∃ seconds, DurationText text seconds ∧ age = some (seconds.toNat * 1000000000) := by
  unfold defaultRetentionTime at h
  cases hparse : parseRetentionTimeSpec text with
  | error e =>
    simp only [hparse] at h
    cases h
  | ok seconds =>
    simp only [hparse] at h
    cases h
    exact ⟨seconds, ((parseRetentionTimeSpec_iff text seconds).mp hparse).1, rfl⟩

/-- The default age is the one that was spelled out. -/
theorem defaultRetentionTime_applied {backendConfig : JetStreamConfig} {text : String}
    (h : defaultRetentionTime (some text) = .ok backendConfig.retentionTime)
    (config : StreamConfig) :
    ∃ seconds, DurationText text seconds ∧
      (applyBackendDefaults config backendConfig).maxAge = seconds * 1000000000 := by
  obtain ⟨seconds, hduration, hage⟩ := defaultRetentionTime_eq_ok h
  refine ⟨seconds, hduration, ?_⟩
  have hnonneg := hduration.bounds.1
  unfold applyBackendDefaults
  rw [hage]
  show ((seconds.toNat * 1000000000 : Nat) : Int) = _
  omega

/-- The policy of a schema whose base has this stream. -/
def PolicyOfStream (settings : Settings) (streamName : String) (policy : EventStoragePolicy) :
    Prop :=
  ∃ eventType schema, settings.schemaOf eventType = some schema ∧
    schema.storagePolicy = some policy ∧
    toAsciiUppercase (schema.base eventType) = streamName

/-- A stream has the limits of its policy, and the default age where its policy says nothing. -/
structure LimitsApplied (settings : Settings) (backendConfig : JetStreamConfig)
    (streamName : String) (config : StreamConfig) : Prop where
  policy : ∀ policy, PolicyOfStream settings streamName policy → Applies policy config
  default : (∀ policy, PolicyOfStream settings streamName policy → policy.retentionTime = none) →
    ∀ text, defaultRetentionTime (some text) = .ok backendConfig.retentionTime →
      ∃ seconds, DurationText text seconds ∧ config.maxAge = seconds * 1000000000

theorem LimitsApplied.of_alike {settings : Settings} {backendConfig : JetStreamConfig}
    {streamName : String} {config desired : StreamConfig}
    (h : LimitsApplied settings backendConfig streamName desired)
    (halike : OwnedAlike config desired) :
    LimitsApplied settings backendConfig streamName config where
  policy policy hpolicy := by
    obtain ⟨hretention, hsize⟩ := h.policy policy hpolicy
    refine ⟨fun text htext => by rw [halike.maxAge]; exact hretention text htext, ?_⟩
    intro text htext
    obtain ⟨bytes, hbytes, hdesired⟩ := hsize text htext
    refine ⟨bytes, hbytes, ?_⟩
    -- a size that is set is positive, so neither side is the omitted limit
    have hpos := hbytes.bounds.1
    have hunlimited := halike.maxBytes
    rw [hdesired] at hunlimited
    unfold unlimited at hunlimited
    rw [if_neg (by omega : bytes ≠ 0)] at hunlimited
    by_cases hzero : config.maxBytes = 0
    · rw [if_pos hzero] at hunlimited
      omega
    · rw [if_neg hzero] at hunlimited
      exact hunlimited
  default hnone text htext := by
    rw [halike.maxAge]
    exact h.default hnone text htext

theorem buildStreamConfigForBase_accepted {settings : Settings}
    (h : validateSchemaStoragePolicySupport settings = .ok ()) (backendConfig : JetStreamConfig)
    {base : String} {binding : TopicBinding} (hbinding : TopicBinding.new base = .ok binding) :
    ∃ desired,
      buildStreamConfigForBase backendConfig binding settings.notificationSchema = .ok desired ∧
        LimitsApplied settings backendConfig binding.streamName desired := by
  have hname := (topicBinding_eq_ok hbinding).2
  obtain ⟨capabilities, hfields⟩ := storagePolicy_fields h
  unfold buildStreamConfigForBase
  rw [hname]
  rcases resolveStoragePolicyForBase_accepted h base with
    ⟨hresolve, hnone⟩ | ⟨eventType, schema, policy, hschema, hpolicy, hbase, hresolve⟩
  · rw [hresolve]
    refine ⟨_, rfl, ?_, ?_⟩
    · rintro policy ⟨eventType, schema, hschema, hpolicy, hbase⟩
      rw [hnone eventType schema hschema hbase] at hpolicy
      cases hpolicy
    · exact fun _ text htext => defaultRetentionTime_applied htext _
  · rw [hresolve]
    have hfields' := (hfields _ (schemaOf_mem hschema) policy hpolicy).2
    obtain ⟨overridden, happly, happlies, hkeeps⟩ :=
      applyStoragePolicyOverrides_accepted hfields' (applyBackendDefaults _ backendConfig)
    refine ⟨overridden, happly, ?_, ?_⟩
    · -- the policy of the stream is the only one
      rintro other ⟨otherType, otherSchema, hother, hotherPolicy, hotherBase⟩
      have howner := storagePolicy_ownerUnique h hother hschema (hotherBase.trans hbase.symm)
      subst howner
      rw [hother] at hschema
      cases hschema
      rw [hpolicy] at hotherPolicy
      cases hotherPolicy
      exact happlies
    · intro hnone text htext
      rw [hkeeps.retentionTime (hnone policy ⟨eventType, schema, hschema, hpolicy, hbase⟩)]
      exact defaultRetentionTime_applied htext _

/-- The parsers accept the grammar and nothing else, in integers that do not wrap. Of accepted
settings, every base gets a configuration with the limits that were spelled out, and so does its
stream on the server after a call that succeeds. -/
theorem unitSpecs_exact :
    (∀ input seconds, parseDurationSpec input = .ok seconds ↔ DurationText input seconds) ∧
      (∀ input seconds, parseRetentionTimeSpec input = .ok seconds ↔
        DurationText input seconds ∧ seconds * 1000000000 ≤ i64.max) ∧
      (∀ input bytes, parseSizeSpec input = .ok bytes ↔ SizeText input bytes) ∧
      (∀ input seconds, DurationText input seconds → u64.fits seconds = true ∧
        ((asNanosMachine (BitVec.ofInt 64 seconds)).toNat : Int) = seconds * 1000000000) ∧
      (∀ input bytes, SizeText input bytes → i64.fits bytes = true) ∧
      ∀ (debugStrings : List String → String) (ecpds : Bool) (settings : Settings),
        settings.validate debugStrings ecpds = .ok () →
        ∀ (backendConfig : JetStreamConfig) (base : String) (binding : TopicBinding),
          TopicBinding.new base = .ok binding →
          ∃ desired,
            buildStreamConfigForBase backendConfig binding settings.notificationSchema =
                .ok desired ∧
              LimitsApplied settings backendConfig binding.streamName desired ∧
              ∀ (server : NatsServer) (calls : EnsureCalls),
                (ensureStream debugStrings server calls desired).2.isOk = true →
                ∃ config,
                  (ensureStream debugStrings server calls desired).1.streams.get desired.name =
                      some config ∧
                    LimitsApplied settings backendConfig binding.streamName config := by
  refine ⟨parseDurationSpec_iff, parseRetentionTimeSpec_iff, parseSizeSpec_iff, ?_, ?_, ?_⟩
  · intro input seconds hduration
    obtain ⟨hnonneg, hle⟩ := hduration.bounds
    have hmax : seconds ≤ 18446744073709551615 := hle
    constructor
    · exact IntType.fits_iff.mpr ⟨hnonneg, hle⟩
    · rw [asNanosMachine_exact, BitVec.toNat_ofInt]
      omega
  · intro input bytes hsize
    obtain ⟨hpos, hle⟩ := hsize.bounds
    rw [IntType.fits_iff]
    refine ⟨?_, hle⟩
    show (-9223372036854775808 : Int) ≤ bytes
    omega
  · intro debugStrings ecpds settings hvalidate backendConfig base binding hbinding
    have hstorage := (validate_schemas hvalidate).1
    obtain ⟨desired, hbuild, hlimits⟩ :=
      buildStreamConfigForBase_accepted hstorage backendConfig hbinding
    refine ⟨desired, hbuild, hlimits, ?_⟩
    intro server calls hok
    obtain ⟨config, hconfig, halike⟩ := ensureStream_follows debugStrings server calls desired hok
    exact ⟨config, hconfig, hlimits.of_alike halike⟩

-- the stream of `mars` keeps a week and at most ten gibibytes, and the texts need trimming
def weekPolicy : EventStoragePolicy where
  retentionTime := some " 7D "
  maxMessages := none
  maxSize := some "10Gi"
  allowDuplicates := none
  compression := none

def weekSettings : Settings :=
  { jetstreamSettings with
    notificationSchema := some (AList.singleton "mars"
      { payload := none
        topic := some { base := "mars", keyOrder := ["class"] }
        identifier := AList.singleton "class" ⟨.stringHandler none true⟩
        storagePolicy := some weekPolicy
        auth := none }) }

theorem unitSpecs_exact_week :
    ∃ desired config,
      buildStreamConfigForBase plainJetStream ⟨"MARS", "mars.>"⟩ weekSettings.notificationSchema =
          .ok desired ∧
        (ensureStream plainLibraries.debugStrings .empty (ensureOd "mars").calls
          desired).1.streams.get desired.name = some config ∧
        config.maxAge = 7 * 86400 * 1000000000 ∧ config.maxBytes = 10 * 2 ^ 30 := by
  obtain ⟨hduration, -, hsize, -, -, happly⟩ := unitSpecs_exact
  obtain ⟨desired, hbuild, -, hensure⟩ := happly plainLibraries.debugStrings false weekSettings
    (by decide +kernel) plainJetStream "mars" ⟨"MARS", "mars.>"⟩ (by decide +kernel)
  have hok : (buildStreamConfigForBase plainJetStream ⟨"MARS", "mars.>"⟩
      weekSettings.notificationSchema).toOption.map (fun desired =>
        (ensureStream plainLibraries.debugStrings .empty (ensureOd "mars").calls desired).2.isOk) =
      some true := by
    decide +kernel
  rw [hbuild] at hok
  obtain ⟨config, hconfig, hlimits⟩ :=
    hensure .empty (ensureOd "mars").calls (Option.some.inj hok)
  refine ⟨desired, config, hbuild, hconfig, ?_⟩
  obtain ⟨hretention, hmaxSize⟩ := hlimits.policy weekPolicy ⟨"mars", _, rfl, rfl, rfl⟩
  constructor
  · obtain ⟨seconds, hseconds, -, hage⟩ := hretention " 7D " rfl
    have hparsed := (hduration " 7D " seconds).mpr hseconds
    rw [show parseDurationSpec " 7D " = .ok (7 * 86400) by decide +kernel] at hparsed
    have hvalue := Except.ok.inj hparsed
    omega
  · obtain ⟨bytes, hbytes, hmaxBytes⟩ := hmaxSize "10Gi" rfl
    have hparsed := (hsize "10Gi" bytes).mpr hbytes
    rw [show parseSizeSpec "10Gi" = .ok (10 * 2 ^ 30) by decide +kernel] at hparsed
    rw [hmaxBytes, Except.ok.inj hparsed]

end AvisoServer
