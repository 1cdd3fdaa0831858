import AvisoServer.CloudEvents.Rendering
import AvisoServer.Notification.Filters

/-!
# Accepted settings route every request

Startup checks keys and bases so that later no topic misses a key, no topic has a token too many,
and the base of a topic leads back to the one schema it was built for.
-/

namespace AvisoServer

/-! ## 1. Settings in another order -/

/-- The settings with their schemas in another iteration order. -/
structure Settings.Reordered (settings reordered : Settings) (schemas : HashMap EventSchema) :
    Prop where
  same : reordered = { settings with notificationSchema := some schemas }
  order : schemas.entries.Perm settings.schemas

theorem Settings.Reordered.mem {settings reordered : Settings} {schemas : HashMap EventSchema}
    (h : settings.Reordered reordered schemas) {eventType : String} {schema : EventSchema}
    (hschema : settings.schemaOf eventType = some schema) :
    ⟨eventType, schema⟩ ∈ schemas.entries :=
  h.order.mem_iff.mpr (schemaOf_mem hschema)

/-- In every order, the entry of a base is found by it. -/
theorem Settings.Reordered.find {settings reordered : Settings} {schemas : HashMap EventSchema}
    (h : settings.Reordered reordered schemas)
    (hstorage : validateSchemaStoragePolicySupport settings = .ok ()) {eventType : String}
    {schema : EventSchema} {topicConfig : TopicConfig}
    (hschema : settings.schemaOf eventType = some schema) (htopic : schema.topic = some topicConfig) :
    schemas.entries.find? (fun entry => entry.2.topic.any (·.base = topicConfig.base)) =
      some ⟨eventType, schema⟩ := by
  have hperm : (schemas.entries.map baseStream).Nodup :=
    (h.order.map baseStream).nodup_iff.mpr (storagePolicy_streams hstorage)
  exact find_entry_of_base hperm (h.mem hschema) htopic

/-! ## 2. Building topics -/

section Accepted

variable {lib : Libraries} {settings : Settings} {eventType : String} {schema : EventSchema}

/-- An identifier that was processed has every field of the schema. -/
theorem processIdentifier_isSome {requestParams : HashMap Json} {payload : Option Json}
    {operation : OperationType} {identifier : IdentifierProcessingResult}
    (h : processIdentifier lib schema requestParams payload operation = .ok identifier) {key : String}
    (hdeclared : (schema.identifier.get key).isSome = true) :
    (identifier.canonicalized.get key).isSome = true := by
  cases operation with
  | notify =>
    obtain ⟨field, hfield⟩ := Option.isSome_iff_exists.mp hdeclared
    have hnotified := processNotifyRequest_eq_ok h
    obtain ⟨_, text, -, -, htext⟩ := hnotified.fields ⟨key, field⟩ (AList.mem_lookup_iff.mp hfield)
    show (identifier.canonicalized.get key).isSome = true
    rw [htext]
    rfl
  -- an omitted field and a constraint leave a wildcard
  | watch => exact (processStreamingRequest_eq_ok h).isSome hdeclared
  | replay => exact (processStreamingRequest_eq_ok h).isSome hdeclared

/-- The wildcard for a polygon takes no value away. -/
theorem routingParams_isSome {operation : OperationType} {params : HashMap String} {key : String}
    (h : (params.get key).isSome = true) :
    ((routingParams schema operation params).get key).isSome = true := by
  by_cases hkey : key = "polygon"
  · subst hkey
    unfold routingParams
    split
    · rw [HashMap.get, AList.lookup_insert]
      rfl
    · exact h
  · rw [routingParams_get hkey]
    exact h

/-- A processed identifier always has a topic. -/
theorem buildTopic_total (htopics : validateTopicSchemaSettings settings = .ok ())
    (hschema : settings.schemaOf eventType = some schema) {requestParams : HashMap Json}
    {payload : Option Json} {operation : OperationType} {identifier : IdentifierProcessingResult}
    (h : processIdentifier lib schema requestParams payload operation = .ok identifier) :
    ∃ topic, TopicBuilder.buildTopicWithSchema eventType schema
      (routingParams schema operation identifier.canonicalized) = .ok topic := by
  apply buildTopicWithSchema_isSome
  intro topicConfig htopic key hkey
  -- the keys of the topic are declared, so the processing gave them values
  have hkeys := topicSettings_keyOrder htopics hschema htopic
  exact routingParams_isSome (processIdentifier_isSome h (hkeys.declared key hkey).2)

/-- A request is accepted as soon as its identifier is. -/
theorem processRequest_total (htopics : validateTopicSchemaSettings settings = .ok ())
    (hstorage : validateSchemaStoragePolicySupport settings = .ok ())
    (hschema : settings.schemaOf eventType = some schema) {requestParams : HashMap Json}
    {payload : Option Json} {operation : OperationType} {identifier : IdentifierProcessingResult}
    (h : processIdentifier lib schema requestParams payload operation = .ok identifier) :
    ∃ result, processRequestWithValues lib settings.registry eventType requestParams payload
      operation = .ok result := by
  obtain ⟨topic, htopic⟩ := buildTopic_total htopics hschema h
  have hbase := (validateTopicBase_eq_ok _).mpr (storagePolicy_baseValid hstorage hschema)
  unfold processRequestWithValues
  rw [registry_getSchema, hschema]
  simp only [hbase, bind, Except.bind, processWithSchema, h, htopic]
  exact ⟨_, rfl⟩

/-! ## 3. The tokens of a topic -/

/-- The topic of a request has the base and one value for each key. -/
theorem processRequest_tokens {requestParams : HashMap Json} {payload : Option Json}
    {operation : OperationType} {result : ProcessingResult} {topicConfig : TopicConfig}
    (hschema : settings.schemaOf eventType = some schema) (htopic : schema.topic = some topicConfig)
    (h : processRequestWithValues lib settings.registry eventType requestParams payload operation =
      .ok result) :
    ∃ value : String → String,
      result.topic = encodeSubject (topicConfig.base :: topicConfig.keyOrder.map value) := by
  have hbase := EventSchema.base_of_topic htopic eventType
  have hkeys : ∀ params, schema.topicKeys params = topicConfig.keyOrder := by
    intro params
    unfold EventSchema.topicKeys
    rw [htopic]
  -- a notification and a stream differ only in the value under a key
  by_cases hoperation : operation = .notify
  · subst hoperation
    have hnotified := (notifiedTopic hschema h).topic
    rw [hbase, hkeys] at hnotified
    exact ⟨_, hnotified⟩
  · have hstreamed := (streamedTopic hoperation hschema h).topic
    rw [hbase, hkeys] at hstreamed
    exact ⟨_, hstreamed⟩

/-- What a topic of the schema looks like on the wire, decoded, and as a watch pattern. -/
structure RoutedTokens (topicConfig : TopicConfig) (topic : String) : Prop where
  wire : (splitChar topic subjectSeparator).length = 1 + topicConfig.keyOrder.length
  decoded : ∃ tokens, decodeSubject topic = .ok tokens ∧
    tokens.length = 1 + topicConfig.keyOrder.length
  pattern : ∃ coarse pattern, analyzeWatchPattern topic = .ok (coarse, pattern) ∧
    pattern.length = 1 + topicConfig.keyOrder.length

theorem routedTokens (topicConfig : TopicConfig) (value : String → String) :
    RoutedTokens topicConfig
      (encodeSubject (topicConfig.base :: topicConfig.keyOrder.map value)) := by
  have hne : topicConfig.base :: topicConfig.keyOrder.map value ≠ [] := List.cons_ne_nil _ _
  have hlength : (topicConfig.base :: topicConfig.keyOrder.map value).length =
      1 + topicConfig.keyOrder.length := by
    rw [List.length_cons, List.length_map, Nat.add_comm]
  constructor
  · rw [splitChar_encodeSubject _ hne, List.length_map]
    exact hlength
  · exact ⟨_, decodeSubject_encodeSubject _ hne, hlength⟩
  · exact ⟨_, _, analyzeWatchPattern_encodeSubject _ hne, hlength⟩

/-! ## 4. The owner of a topic -/

/-- The look-ups of the constraint matcher and of the event creator lead to the event type, in every
iteration order, and no other event type has the base of the topic. -/
structure OwnedTopic (settings : Settings) (eventType topic : String) : Prop where
  matcher : ∀ reordered schemas, settings.Reordered reordered schemas →
    ∃ tokens, decodeSubject topic = .ok tokens ∧
      resolveEventTypeFromTopicBase tokens schemas = some eventType
  creator : ∀ reordered schemas, settings.Reordered reordered schemas →
    (deriveEventTypeFromTopic topic >>= findEventTypeFromTopicBase reordered) = .ok eventType
  unique : ∀ base other, decodeSubjectBase topic = .ok base → settings.TopicOwner base other →
    other = eventType

theorem ownedTopic (hstorage : validateSchemaStoragePolicySupport settings = .ok ())
    {topicConfig : TopicConfig} (hschema : settings.schemaOf eventType = some schema)
    (htopic : schema.topic = some topicConfig) (values : List String) :
    OwnedTopic settings eventType (encodeSubject (topicConfig.base :: values)) := by
  have hbase := storagePolicy_baseValid hstorage hschema
  rw [EventSchema.base_of_topic htopic] at hbase
  have hderive := decodeSubjectBase_topic topicConfig.base values hbase
  constructor
  · intro reordered schemas horder
    refine ⟨_, decodeSubject_encodeSubject _ (List.cons_ne_nil _ _), ?_⟩
    unfold resolveEventTypeFromTopicBase
    simp only [List.head?_cons, Option.bind_eq_bind, Option.bind_some,
      horder.find hstorage hschema htopic]
  · intro reordered schemas horder
    have hfind := horder.find hstorage hschema htopic
    unfold deriveEventTypeFromTopic findEventTypeFromTopicBase
    rw [hderive, horder.same]
    simp only [bind, Except.bind, hfind]
  · rintro base other hdecoded ⟨otherSchema, otherConfig, hother, hotherTopic, rfl⟩
    rw [hderive, Except.ok.injEq] at hdecoded
    -- the two bases name one stream, which has one owner
    apply storagePolicy_ownerUnique hstorage hother hschema
    rw [EventSchema.base_of_topic hotherTopic, EventSchema.base_of_topic htopic, hdecoded]

end Accepted

/-! ## 5. Total and unambiguous routing -/

/-- The keys of a topic: each scalar identifier once, no key twice, and no point cloud. -/
structure KeyOrderComplete (schema : EventSchema) (topicConfig : TopicConfig) : Prop where
  nodup : topicConfig.keyOrder.Nodup
  scalar : ∀ field ∈ schema.identifier.entries, field.2.rule.isSpatial = false →
    topicConfig.keyOrder.count field.1 = 1
  noPointCloud : "point_cloud" ∉ topicConfig.keyOrder

/-- What the checks at startup give to the schema of an event type. -/
structure RoutesEveryRequest (lib : Libraries) (settings : Settings) (eventType : String)
    (schema : EventSchema) : Prop where
  keyOrder : ∀ topicConfig, schema.topic = some topicConfig → KeyOrderComplete schema topicConfig
  built : ∀ requestParams payload operation identifier,
    processIdentifier lib schema requestParams payload operation = .ok identifier →
    (∃ topic, TopicBuilder.buildTopicWithSchema eventType schema
        (routingParams schema operation identifier.canonicalized) = .ok topic) ∧
      ∃ result, processRequestWithValues lib settings.registry eventType requestParams payload
        operation = .ok result
  tokens : ∀ topicConfig requestParams payload operation result,
    schema.topic = some topicConfig →
    processRequestWithValues lib settings.registry eventType requestParams payload operation =
      .ok result → RoutedTokens topicConfig result.topic
  owned : ∀ requestParams payload result, schema.topic.isSome = true →
    processRequestWithValues lib settings.registry eventType requestParams payload .notify =
      .ok result → OwnedTopic settings eventType result.topic

theorem routesEveryRequest (lib : Libraries) {settings : Settings}
    (htopics : validateTopicSchemaSettings settings = .ok ())
    (hstorage : validateSchemaStoragePolicySupport settings = .ok ()) {eventType : String}
    {schema : EventSchema} (hschema : settings.schemaOf eventType = some schema) :
    RoutesEveryRequest lib settings eventType schema := by
  constructor
  · intro topicConfig htopic
    have hkeys := topicSettings_keyOrder htopics hschema htopic
    refine ⟨hkeys.nodup, ?_, ?_⟩
    · intro field hfield hscalar
      exact List.count_eq_one_of_mem hkeys.nodup (hkeys.routed field hfield hscalar)
    · intro hcloud
      exact (hkeys.declared "point_cloud" hcloud).1 rfl
  · intro requestParams payload operation identifier h
    exact ⟨buildTopic_total htopics hschema h, processRequest_total htopics hstorage hschema h⟩
  · intro topicConfig requestParams payload operation result htopic h
    obtain ⟨value, hvalue⟩ := processRequest_tokens hschema htopic h
    rw [hvalue]
    exact routedTokens topicConfig value
  · intro requestParams payload result hsome h
    obtain ⟨topicConfig, htopic⟩ := Option.isSome_iff_exists.mp hsome
    obtain ⟨value, hvalue⟩ := processRequest_tokens hschema htopic h
    rw [hvalue]
    exact ownedTopic hstorage hschema htopic _

theorem routesEveryRequest_mars :
    RoutesEveryRequest plainLibraries feedSettings "mars" marsSchema :=
  routesEveryRequest plainLibraries (by decide +kernel) (by decide +kernel) (by rfl)

end AvisoServer
