import AvisoServer.Notification.Processor
import AvisoServer.WildcardMatcher

/-!
# Bases and topics

In accepted settings every base belongs to one event type, and the topic of a request starts with
the base of its event type.
-/

namespace AvisoServer

/-! ## 1. Bases have one owner -/

/-- The name of the stream that a schema's base stands for. -/
def baseStream (entry : Sigma fun _ : String => EventSchema) : String :=
  toAsciiUppercase (entry.2.base entry.1)

theorem topicBinding_eq_ok {base : String} {binding : TopicBinding}
    (h : TopicBinding.new base = .ok binding) :
    isTopicBase base = true ∧ binding.streamName = toAsciiUppercase base := by
  unfold TopicBinding.new at h
  obtain ⟨_, hbase, hbinding⟩ := bind_eq_ok.mp h
  cases hbinding
  exact ⟨(validateTopicBase_eq_ok base).mp hbase, rfl⟩

/-- Accepted bases are valid, and no two of them name one stream. -/
theorem validateBases_eq_ok (owners : List (String × String))
    (entries : List (Sigma fun _ : String => EventSchema))
    (h : validateBases owners entries = .ok ()) :
    (∀ entry ∈ entries, isTopicBase (entry.2.base entry.1) = true) ∧
      (entries.map baseStream).Nodup ∧
      ∀ entry ∈ entries, owners.lookup (baseStream entry) = none := by
  induction entries generalizing owners with
  | nil => simp
  | cons entry entries ih =>
    obtain ⟨eventType, schema⟩ := entry
    unfold validateBases at h
    split at h
    · cases h
    rename_i binding hbinding
    obtain ⟨hbase, hname⟩ := topicBinding_eq_ok hbinding
    split at h
    · cases h
    rename_i hnone
    obtain ⟨hvalid, hnodup, howners⟩ := ih _ h
    rw [hname] at hnone howners
    -- a later entry of the same stream would have found this one as its owner
    have hfresh : ∀ other ∈ entries, baseStream other ≠ toAsciiUppercase (schema.base eventType) := by
      intro other hother heq
      have hlookup := howners other hother
      rw [heq, List.lookup_cons_self] at hlookup
      cases hlookup
    refine ⟨?_, ?_, ?_⟩
    · intro other hother
      cases List.mem_cons.mp hother with
      | inl hhead => rw [hhead]; exact hbase
      | inr htail => exact hvalid other htail
    · rw [List.map_cons, List.nodup_cons]
      refine ⟨?_, hnodup⟩
      intro hmem
      obtain ⟨other, hother, heq⟩ := List.mem_map.mp hmem
      exact hfresh other hother heq
    · intro other hother
      cases List.mem_cons.mp hother with
      | inl hhead => rw [hhead]; exact hnone
      | inr htail =>
        have hlookup := howners other htail
        rw [List.lookup_cons, beq_eq_false_iff_ne.mpr (hfresh other htail)] at hlookup
        exact hlookup

theorem storagePolicy_bases {settings : Settings}
    (h : validateSchemaStoragePolicySupport settings = .ok ()) :
    validateBases [] settings.schemas = .ok () := by
  unfold validateSchemaStoragePolicySupport at h
  simp only at h
  split at h
  · cases h
  split at h
  · cases h
  obtain ⟨_, hbases, -⟩ := bind_eq_ok.mp h
  exact hbases

/-- The first two checks of accepted settings, on the stored streams and on the topics. -/
theorem validate_schemas {debugStrings : List String → String} {ecpds : Bool} {settings : Settings}
    (h : settings.validate debugStrings ecpds = .ok ()) :
    validateSchemaStoragePolicySupport settings = .ok () ∧
      validateTopicSchemaSettings settings = .ok () := by
  unfold Settings.validate at h
  obtain ⟨_, hstorage, h⟩ := bind_eq_ok.mp h
  obtain ⟨_, htopics, -⟩ := bind_eq_ok.mp h
  exact ⟨hstorage, htopics⟩

theorem schemaOf_mem {settings : Settings} {eventType : String} {schema : EventSchema}
    (h : settings.schemaOf eventType = some schema) : ⟨eventType, schema⟩ ∈ settings.schemas := by
  unfold Settings.schemaOf at h
  obtain ⟨schemas, hschemas, hget⟩ := Option.bind_eq_some_iff.mp h
  unfold Settings.schemas
  rw [hschemas]
  exact AList.mem_lookup_iff.mp hget

theorem schemas_mem {settings : Settings} {eventType : String} {schema : EventSchema}
    (h : ⟨eventType, schema⟩ ∈ settings.schemas) : settings.schemaOf eventType = some schema := by
  unfold Settings.schemas at h
  unfold Settings.schemaOf
  cases hschemas : settings.notificationSchema with
  | none =>
    rw [hschemas] at h
    cases h
  | some schemas =>
    rw [hschemas] at h
    exact AList.mem_lookup_iff.mpr h

theorem storagePolicy_baseValid {settings : Settings}
    (h : validateSchemaStoragePolicySupport settings = .ok ()) {eventType : String}
    {schema : EventSchema} (hschema : settings.schemaOf eventType = some schema) :
    isTopicBase (schema.base eventType) = true := by
  obtain ⟨hvalid, -, -⟩ := validateBases_eq_ok [] settings.schemas (storagePolicy_bases h)
  exact hvalid ⟨eventType, schema⟩ (schemaOf_mem hschema)

theorem storagePolicy_streams {settings : Settings}
    (h : validateSchemaStoragePolicySupport settings = .ok ()) :
    (settings.schemas.map baseStream).Nodup :=
  (validateBases_eq_ok [] settings.schemas (storagePolicy_bases h)).2.1

theorem storagePolicy_ownerUnique {settings : Settings}
    (h : validateSchemaStoragePolicySupport settings = .ok ()) {left right : String}
    {leftSchema rightSchema : EventSchema} (hleft : settings.schemaOf left = some leftSchema)
    (hright : settings.schemaOf right = some rightSchema)
    (hstream : toAsciiUppercase (leftSchema.base left) =
      toAsciiUppercase (rightSchema.base right)) : left = right := by
  have hentry := List.inj_on_of_nodup_map (storagePolicy_streams h) (schemaOf_mem hleft)
    (schemaOf_mem hright) hstream
  exact congrArg Sigma.fst hentry

theorem schema_base_valid {debugStrings : List String → String} {ecpds : Bool} {settings : Settings}
    (haccepted : settings.validate debugStrings ecpds = .ok ()) {eventType : String}
    {schema : EventSchema} (hschema : settings.schemaOf eventType = some schema) :
    isTopicBase (schema.base eventType) = true :=
  storagePolicy_baseValid (validate_schemas haccepted).1 hschema

/-- In accepted settings, a stream belongs to one event type. -/
theorem stream_owner_unique {debugStrings : List String → String} {ecpds : Bool}
    {settings : Settings} (haccepted : settings.validate debugStrings ecpds = .ok ())
    {left right : String} {leftSchema rightSchema : EventSchema}
    (hleft : settings.schemaOf left = some leftSchema)
    (hright : settings.schemaOf right = some rightSchema)
    (hstream : toAsciiUppercase (leftSchema.base left) =
      toAsciiUppercase (rightSchema.base right)) : left = right :=
  storagePolicy_ownerUnique (validate_schemas haccepted).1 hleft hright hstream

theorem base_owner_unique {debugStrings : List String → String} {ecpds : Bool}
    {settings : Settings} (haccepted : settings.validate debugStrings ecpds = .ok ())
    {left right : String} {leftSchema rightSchema : EventSchema}
    (hleft : settings.schemaOf left = some leftSchema)
    (hright : settings.schemaOf right = some rightSchema)
    (hbase : leftSchema.base left = rightSchema.base right) : left = right :=
  stream_owner_unique haccepted hleft hright (congrArg toAsciiUppercase hbase)

theorem EventSchema.base_of_topic {schema : EventSchema} {topicConfig : TopicConfig}
    (htopic : schema.topic = some topicConfig) (eventType : String) :
    schema.base eventType = topicConfig.base := by
  unfold EventSchema.base
  rw [htopic]

theorem base_of_topicAny {entry : Sigma fun _ : String => EventSchema} {base : String}
    (h : (entry.2.topic.any (·.base = base)) = true) : entry.2.base entry.1 = base := by
  cases htopic : entry.2.topic with
  | none =>
    rw [htopic] at h
    cases h
  | some topicConfig =>
    rw [htopic] at h
    rw [EventSchema.base_of_topic htopic entry.1]
    exact of_decide_eq_true h

/-- Where every base is on a stream of its own, a look-up by base finds the entry that has the base,
in whatever order the entries are. -/
theorem find_entry_of_base {entries : List (Sigma fun _ : String => EventSchema)}
    (hnodup : (entries.map baseStream).Nodup) {entry : Sigma fun _ : String => EventSchema}
    (hentry : entry ∈ entries) {topicConfig : TopicConfig}
    (htopic : entry.2.topic = some topicConfig) :
    entries.find? (fun entry => entry.2.topic.any (·.base = topicConfig.base)) = some entry := by
  cases hfind : entries.find? fun entry => entry.2.topic.any (·.base = topicConfig.base) with
  | none =>
    have hother := List.find?_eq_none.mp hfind entry hentry
    rw [htopic] at hother
    exact absurd (decide_eq_true rfl) hother
  | some found =>
    have htest := List.find?_some hfind
    have hfound := base_of_topicAny htest
    have hbase := EventSchema.base_of_topic htopic entry.1
    have hstream : baseStream found = baseStream entry :=
      congrArg toAsciiUppercase (hfound.trans hbase.symm)
    rw [List.inj_on_of_nodup_map hnodup (List.mem_of_find?_eq_some hfind) hentry hstream]

/-- In accepted settings, a look-up by base finds the schema that has the base. -/
theorem find_schema_of_base {debugStrings : List String → String} {ecpds : Bool}
    {settings : Settings} (haccepted : settings.validate debugStrings ecpds = .ok ())
    {eventType : String} {schema : EventSchema} {topicConfig : TopicConfig}
    (hschema : settings.schemaOf eventType = some schema)
    (htopic : schema.topic = some topicConfig) :
    settings.schemas.find? (fun entry => entry.2.topic.any (·.base = topicConfig.base)) =
      some ⟨eventType, schema⟩ :=
  find_entry_of_base (storagePolicy_streams (validate_schemas haccepted).1) (schemaOf_mem hschema)
    htopic

/-! ## 2. The first token of a topic -/

/-- The base that the topics of an event type start with. -/
def Settings.routedBase (settings : Settings) (eventType : String) : String :=
  match settings.schemaOf eventType with
  | some schema => schema.base eventType
  | none => eventType

theorem routedBase_of_schema {settings : Settings} {eventType : String} {schema : EventSchema}
    (hschema : settings.schemaOf eventType = some schema) :
    settings.routedBase eventType = schema.base eventType := by
  unfold Settings.routedBase
  rw [hschema]

theorem registry_getSchema (settings : Settings) (eventType : String) :
    settings.registry.getSchema eventType = settings.schemaOf eventType := by
  unfold Settings.registry Settings.schemaOf NotificationRegistry.fromConfig
    NotificationRegistry.getSchema
  cases settings.notificationSchema with
  | none => rfl
  | some schemas => rfl

theorem encodeSubject_base (base : String) (hbase : isTopicBase base = true) :
    encodeSubject [base] = base := by
  rw [encodeSubject_singleton, encodeToken_of_isTopicBase base hbase]

theorem decodeSubject_base (base : String) (hbase : isTopicBase base = true) :
    decodeSubject base = .ok [base] := by
  have h := decodeSubject_encodeSubject [base] (by simp)
  rwa [encodeSubject_base base hbase] at h

theorem buildGenericTopic_eq (eventType : String) (params : HashMap String)
    (hbase : isTopicBase eventType = true) :
    ∃ values, TopicBuilder.buildGenericTopic eventType params =
      encodeSubject (eventType :: values) := by
  unfold TopicBuilder.buildGenericTopic
  by_cases hempty : params.entries = []
  · rw [if_pos hempty]
    exact ⟨[], (encodeSubject_base eventType hbase).symm⟩
  · rw [if_neg hempty]
    exact ⟨_, rfl⟩

theorem buildTopicWithSchema_eq (eventType : String) (schema : EventSchema)
    (params : HashMap String) (topic : String) (hbase : isTopicBase (schema.base eventType) = true)
    (h : TopicBuilder.buildTopicWithSchema eventType schema params = .ok topic) :
    ∃ values, topic = encodeSubject (schema.base eventType :: values) := by
  unfold TopicBuilder.buildTopicWithSchema at h
  unfold EventSchema.base at hbase ⊢
  cases htopic : schema.topic with
  | some topicConfig =>
    rw [htopic] at h
    obtain ⟨values, -, hencode⟩ := bind_eq_ok.mp h
    cases hencode
    exact ⟨values, rfl⟩
  | none =>
    rw [htopic] at h hbase
    cases h
    exact buildGenericTopic_eq eventType params hbase

/-- What an accepted request of an event type with a schema went through. -/
theorem processRequest_schema {lib : Libraries} {settings : Settings} {eventType : String}
    {params : HashMap Json} {payload : Option Json} {operation : OperationType}
    {result : ProcessingResult} {schema : EventSchema}
    (hschema : settings.schemaOf eventType = some schema)
    (h : processRequestWithValues lib settings.registry eventType params payload operation =
      .ok result) :
    isTopicBase (schema.base eventType) = true ∧
      ∃ identifier topic,
        processIdentifier lib schema params payload operation = .ok identifier ∧
        TopicBuilder.buildTopicWithSchema eventType schema
          (routingParams schema operation identifier.canonicalized) = .ok topic ∧
        result =
          { eventType := eventType
            topic := topic
            canonicalizedParams := identifier.canonicalized
            identifierConstraints := identifier.constraints
            spatialMetadata := identifier.spatialMetadata
            fromSchema := true } := by
  unfold processRequestWithValues at h
  rw [registry_getSchema, hschema] at h
  obtain ⟨_, hvalid, hprocess⟩ := bind_eq_ok.mp h
  unfold processWithSchema at hprocess
  obtain ⟨identifier, hidentifier, hrest⟩ := bind_eq_ok.mp hprocess
  obtain ⟨topic, htopic, hresult⟩ := bind_eq_ok.mp hrest
  exact ⟨(validateTopicBase_eq_ok _).mp hvalid, identifier, topic, hidentifier, htopic,
    (Except.ok.inj hresult).symm⟩

/-- What an accepted request says about its event type and its topic. -/
theorem processRequest_topic {lib : Libraries} {settings : Settings} {eventType : String}
    {params : HashMap Json} {payload : Option Json} {operation : OperationType}
    {result : ProcessingResult}
    (h : processRequestWithValues lib settings.registry eventType params payload operation =
      .ok result) :
    isTopicBase (settings.routedBase eventType) = true ∧
      (∃ values, result.topic = encodeSubject (settings.routedBase eventType :: values)) ∧
      (settings.resolveNotificationSchemaStrict = true →
        (settings.schemaOf eventType).isSome = true) := by
  unfold Settings.routedBase
  cases hschema : settings.schemaOf eventType with
  | some schema =>
    obtain ⟨hbase, identifier, topic, -, htopic, rfl⟩ := processRequest_schema hschema h
    exact ⟨hbase, buildTopicWithSchema_eq eventType schema _ topic hbase htopic, fun _ => rfl⟩
  | none =>
    unfold processRequestWithValues at h
    rw [registry_getSchema] at h
    simp only [hschema] at h ⊢
    obtain ⟨_, hvalid, hprocess⟩ := bind_eq_ok.mp h
    have hbase := (validateTopicBase_eq_ok _).mp hvalid
    have hstrict : settings.registry.strict = settings.resolveNotificationSchemaStrict := rfl
    rw [hstrict] at hprocess
    split at hprocess
    · cases hprocess
    rename_i hpermissive
    unfold processWithoutSchema at hprocess
    obtain ⟨canonical, -, hresult⟩ := bind_eq_ok.mp hprocess
    cases hresult
    exact ⟨hbase, buildGenericTopic_eq eventType canonical hbase,
      fun hstrict => absurd hstrict hpermissive⟩

/-! ## 3. Topics read back -/

/-- The values of a topic under the keys of the schema; an empty value or a wildcard stands for an
omitted field. -/
def topicRequest : List String → List String → HashMap String → HashMap String
  | key :: keyOrder, value :: values, request =>
    topicRequest keyOrder values
      (if value ≠ "" ∧ value ≠ "*" then request.insert key value else request)
  | _, _, request => request

def parseTopicWithSchema (topic : String) (schema : EventSchema) : Result (HashMap String) :=
  match schema.topic with
  | none => bail "No topic configuration in schema"
  | some topicConfig => do
    match ← decodeSubject topic with
    | base :: values =>
      if base = topicConfig.base then .ok (topicRequest topicConfig.keyOrder values ∅)
      else bail ("Topic '" ++ topic ++ "' does not match expected base '" ++ topicConfig.base ++ "'")
    | [] =>
      bail ("Topic '" ++ topic ++ "' does not match expected base '" ++ topicConfig.base ++ "'")

def topicToRequest (settings : Settings) (topic eventType : String) : Result (HashMap String) :=
  match settings.notificationSchema with
  | none => bail "No notification schema configured"
  | some schemas =>
    match schemas.get eventType with
    | none => bail ("Unknown event type: " ++ eventType)
    | some schema => parseTopicWithSchema topic schema

/-- The value that a topic keeps of a field. -/
def keptValue (value : String) : Option String :=
  if value ≠ "" ∧ value ≠ "*" then some value else none

theorem topicRequest_get_other (keyOrder values : List String) (request : HashMap String)
    (key : String) (hkey : key ∉ keyOrder) :
    (topicRequest keyOrder values request).get key = request.get key := by
  induction keyOrder generalizing values request with
  | nil => rfl
  | cons first keyOrder ih =>
    cases values with
    | nil => rfl
    | cons value values =>
      rw [List.mem_cons, not_or] at hkey
      unfold topicRequest
      rw [ih _ _ hkey.2]
      split
      · exact AList.lookup_insert_ne hkey.1
      · rfl

/-- Where the keys are distinct, the value of a key is the one in its place, if the topic is that
long and the value stands for no omitted field. -/
theorem topicRequest_get_position {keyOrder : List String} (hnodup : keyOrder.Nodup)
    (values : List String) (request : HashMap String) {key : String} {position : Nat}
    (hposition : (keyOrder.findIdx? fun other => other = key) = some position)
    (hfresh : ∀ key ∈ keyOrder, request.get key = none) :
    (topicRequest keyOrder values request).get key = values[position]?.bind keptValue := by
  induction keyOrder generalizing values request position with
  | nil => cases hposition
  | cons first keyOrder ih =>
    obtain ⟨hfirst, hnodup⟩ := List.nodup_cons.mp hnodup
    have hkey : key ∈ first :: keyOrder := by
      obtain ⟨hlt, htest, -⟩ := List.findIdx?_eq_some_iff_getElem.mp hposition
      rw [← of_decide_eq_true htest]
      exact List.getElem_mem hlt
    cases values with
    | nil => exact hfresh key hkey
    | cons value values =>
      unfold topicRequest
      rw [List.findIdx?_cons] at hposition
      by_cases hhead : first = key
      · subst hhead
        rw [if_pos (decide_eq_true rfl), Option.some.injEq] at hposition
        subst hposition
        rw [topicRequest_get_other _ _ _ _ hfirst, List.getElem?_cons_zero, Option.bind_some]
        unfold keptValue
        split
        · exact AList.lookup_insert request
        · exact hfresh first List.mem_cons_self
      · rw [if_neg (by simpa using hhead)] at hposition
        obtain ⟨later, hlater, rfl⟩ := Option.map_eq_some_iff.mp hposition
        rw [List.getElem?_cons_succ]
        apply ih hnodup _ _ hlater
        -- the head is inserted under no later key
        intro other hother
        have hne : other ≠ first := fun heq => hfirst (heq ▸ hother)
        split
        · rw [HashMap.get, AList.lookup_insert_ne hne]
          exact hfresh other (List.mem_cons_of_mem first hother)
        · exact hfresh other (List.mem_cons_of_mem first hother)

/-- The values of a topic whose keys are distinct, read back one by one. -/
theorem topicRequest_get (value : String → String) (keyOrder : List String)
    (hnodup : keyOrder.Nodup) (request : HashMap String) (key : String) (hkey : key ∈ keyOrder)
    (hfresh : ∀ key ∈ keyOrder, request.get key = none) :
    (topicRequest keyOrder (keyOrder.map value) request).get key = keptValue (value key) := by
  have hfound : (keyOrder.findIdx? fun other => other = key).isSome = true := by
    rw [List.findIdx?_isSome, List.any_eq_true]
    exact ⟨key, hkey, decide_eq_true rfl⟩
  obtain ⟨position, hposition⟩ := Option.isSome_iff_exists.mp hfound
  obtain ⟨hlt, htest, -⟩ := List.findIdx?_eq_some_iff_getElem.mp hposition
  rw [topicRequest_get_position hnodup _ request hposition hfresh, List.getElem?_map,
    List.getElem?_eq_getElem hlt, of_decide_eq_true htest]
  rfl

/-- A topic that can be built has a value for each of its keys. -/
theorem mapM_topicValue_eq_ok (params : HashMap String) (keyOrder values : List String)
    (h : keyOrder.mapM (TopicBuilder.topicValue params) = .ok values) :
    values = keyOrder.map (fun key => (params.get key).getD "") ∧
      ∀ key ∈ keyOrder, (params.get key).isSome = true := by
  induction keyOrder generalizing values with
  | nil =>
    cases h
    exact ⟨rfl, fun key hkey => absurd hkey List.not_mem_nil⟩
  | cons first keyOrder ih =>
    rw [List.mapM_cons] at h
    obtain ⟨value, hvalue, h⟩ := bind_eq_ok.mp h
    obtain ⟨rest, hrest, h⟩ := bind_eq_ok.mp h
    cases h
    obtain ⟨rfl, hall⟩ := ih rest hrest
    unfold TopicBuilder.topicValue at hvalue
    cases hget : params.get first with
    | none =>
      rw [hget] at hvalue
      cases hvalue
    | some found =>
      rw [hget] at hvalue
      cases hvalue
      refine ⟨by rw [List.map_cons, hget]; rfl, List.forall_mem_cons.mpr ⟨?_, hall⟩⟩
      rw [hget]
      rfl

/-- A topic can be built when each of its keys has a value. -/
theorem buildTopicWithSchema_isSome (eventType : String) (schema : EventSchema)
    (params : HashMap String) (hall : ∀ topicConfig, schema.topic = some topicConfig →
      ∀ key ∈ topicConfig.keyOrder, (params.get key).isSome = true) :
    ∃ topic, TopicBuilder.buildTopicWithSchema eventType schema params = .ok topic := by
  unfold TopicBuilder.buildTopicWithSchema
  cases htopic : schema.topic with
  | none => exact ⟨_, rfl⟩
  | some topicConfig =>
    have hvalues : ∀ keys : List String, (∀ key ∈ keys, (params.get key).isSome = true) →
        ∃ values, keys.mapM (TopicBuilder.topicValue params) = .ok values := by
      intro keys hkeys
      induction keys with
      | nil => exact ⟨[], rfl⟩
      | cons key keys ih =>
        obtain ⟨hkey, hkeys⟩ := List.forall_mem_cons.mp hkeys
        obtain ⟨value, hvalue⟩ := Option.isSome_iff_exists.mp hkey
        obtain ⟨values, hvalues⟩ := ih hkeys
        refine ⟨value :: values, ?_⟩
        rw [List.mapM_cons, hvalues]
        unfold TopicBuilder.topicValue
        rw [hvalue]
        rfl
    obtain ⟨values, hvalues⟩ := hvalues topicConfig.keyOrder (hall topicConfig htopic)
    refine ⟨encodeSubject (topicConfig.base :: values), ?_⟩
    show (topicConfig.keyOrder.mapM (TopicBuilder.topicValue params) >>= _) = _
    rw [hvalues]
    rfl

theorem parseTopicWithSchema_encodeSubject (schema : EventSchema) (topicConfig : TopicConfig)
    (htopic : schema.topic = some topicConfig) (values : List String) :
    parseTopicWithSchema (encodeSubject (topicConfig.base :: values)) schema =
      .ok (topicRequest topicConfig.keyOrder values ∅) := by
  unfold parseTopicWithSchema
  rw [htopic]
  simp only [decodeSubject_encodeSubject _ (List.cons_ne_nil topicConfig.base values)]
  show (if topicConfig.base = topicConfig.base then _ else _) = _
  rw [if_pos rfl]

/-! ## 4. Accepted schemas -/

theorem validateKeyOrder_eq_ok (eventType : String) (schema : EventSchema)
    (seen keyOrder : List String) (h : validateKeyOrder eventType schema seen keyOrder = .ok ()) :
    keyOrder.Nodup ∧ (∀ key ∈ keyOrder, key ∉ seen) ∧
      ∀ key ∈ keyOrder, key ≠ "point_cloud" ∧ (schema.identifier.get key).isSome = true := by
  induction keyOrder generalizing seen with
  | nil => simp
  | cons first keyOrder ih =>
    unfold validateKeyOrder at h
    split at h
    · cases h
    rename_i hcloud
    split at h
    · cases h
    rename_i hdeclared
    split at h
    · cases h
    rename_i hseen
    obtain ⟨hnodup, hfresh, hkeys⟩ := ih (first :: seen) h
    refine ⟨List.nodup_cons.mpr ⟨?_, hnodup⟩, List.forall_mem_cons.mpr ⟨hseen, ?_⟩,
      List.forall_mem_cons.mpr ⟨⟨hcloud, ?_⟩, hkeys⟩⟩
    · exact fun hmem => hfresh first hmem List.mem_cons_self
    · exact fun key hkey hmem => hfresh key hkey (List.mem_cons_of_mem first hmem)
    · cases hget : schema.identifier.get first with
      | none =>
        rw [hget] at hdeclared
        exact absurd rfl hdeclared
      | some field => rfl

/-- What startup knows of the keys of a topic. -/
structure KeyOrderValid (schema : EventSchema) (topicConfig : TopicConfig) : Prop where
  nonempty : topicConfig.keyOrder ≠ []
  nodup : topicConfig.keyOrder.Nodup
  declared : ∀ key ∈ topicConfig.keyOrder,
    key ≠ "point_cloud" ∧ (schema.identifier.get key).isSome = true
  routed : ∀ field ∈ schema.identifier.entries, field.2.rule.isSpatial = false →
    field.1 ∈ topicConfig.keyOrder

theorem topicSettings_keyOrder {settings : Settings}
    (h : validateTopicSchemaSettings settings = .ok ()) {eventType : String} {schema : EventSchema}
    {topicConfig : TopicConfig} (hschema : settings.schemaOf eventType = some schema)
    (htopic : schema.topic = some topicConfig) : KeyOrderValid schema topicConfig := by
  have hvalid := forM_eq_ok.mp h _ (schemaOf_mem hschema)
  unfold validateSchemaTopic at hvalid
  simp only [htopic] at hvalid
  split at hvalid
  · cases hvalid
  rename_i hnonempty
  obtain ⟨_, hkeys, hrouted⟩ := bind_eq_ok.mp hvalid
  obtain ⟨hnodup, -, hdeclared⟩ := validateKeyOrder_eq_ok _ _ _ _ hkeys
  refine ⟨hnonempty, hnodup, hdeclared, ?_⟩
  intro field hfield hscalar
  have hfield := forM_eq_ok.mp hrouted field hfield
  unfold validateRouted at hfield
  rw [hscalar] at hfield
  by_contra habsent
  rw [if_pos (by simp [habsent])] at hfield
  cases hfield

theorem validate_keyOrder {debugStrings : List String → String} {ecpds : Bool}
    {settings : Settings} (haccepted : settings.validate debugStrings ecpds = .ok ())
    {eventType : String} {schema : EventSchema} {topicConfig : TopicConfig}
    (hschema : settings.schemaOf eventType = some schema)
    (htopic : schema.topic = some topicConfig) : KeyOrderValid schema topicConfig :=
  topicSettings_keyOrder (validate_schemas haccepted).2 hschema htopic

/-- What startup knows of the geometries of a schema: their names are reserved for them, and there is
one at most. -/
structure SpatialValid (schema : EventSchema) : Prop where
  polygonName : ∀ field ∈ schema.identifier.entries, field.2.rule.isPolygon = true →
    field.1 = "polygon"
  polygonRule : ∀ field, schema.identifier.get "polygon" = some field →
    field.rule.isPolygon = true
  cloudName : ∀ field ∈ schema.identifier.entries, field.2.rule.isPointCloud = true →
    field.1 = "point_cloud" ∧ schema.identifier.get "polygon" = none
  cloudRule : ∀ field, schema.identifier.get "point_cloud" = some field →
    field.rule.isPointCloud = true

theorem validatePointCloud_eq_ok {eventType : String} {schema : EventSchema}
    {field : Sigma fun _ : String => IdentifierFieldConfig}
    (h : validatePointCloud eventType schema field = .ok ()) :
    field.1 = "point_cloud" ∧ schema.identifier.get "polygon" = none := by
  unfold validatePointCloud at h
  split at h
  · cases h
  rename_i hname
  split at h
  · cases h
  rename_i hpolygon
  exact ⟨not_not.mp hname, by simpa using hpolygon⟩

/-- A point cloud needs a topic section. -/
theorem validatePointCloud_topic {eventType : String} {schema : EventSchema}
    {field : Sigma fun _ : String => IdentifierFieldConfig}
    (h : validatePointCloud eventType schema field = .ok ()) : schema.topic.isSome = true := by
  unfold validatePointCloud at h
  split at h
  · cases h
  split at h
  · cases h
  cases htopic : schema.topic with
  | some topicConfig => rfl
  | none =>
    rw [htopic] at h
    cases h

theorem validateSchemaSpatial_cloud {eventType : String} {schema : EventSchema}
    (h : validateSchemaSpatial eventType schema = .ok ())
    {field : Sigma fun _ : String => IdentifierFieldConfig}
    (hfield : field ∈ schema.identifier.entries) (hcloud : field.2.rule.isPointCloud = true) :
    validatePointCloud eventType schema field = .ok () := by
  have hmem : field ∈ schema.identifier.entries.filter fun field => field.2.rule.isPointCloud :=
    List.mem_filter.mpr ⟨hfield, hcloud⟩
  unfold validateSchemaSpatial at h
  obtain ⟨_, -, h⟩ := bind_eq_ok.mp h
  split at h
  · cases h
  split at h
  · rename_i hnone
    rw [hnone] at hmem
    cases hmem
  · rename_i only honly
    rw [honly] at hmem
    rw [List.mem_singleton.mp hmem]
    exact h
  · cases h

theorem validateSchemaSpatial_eq_ok {eventType : String} {schema : EventSchema}
    (h : validateSchemaSpatial eventType schema = .ok ()) : SpatialValid schema := by
  have hclouds := @validateSchemaSpatial_cloud eventType schema h
  unfold validateSchemaSpatial at h
  obtain ⟨_, hnames, h⟩ := bind_eq_ok.mp h
  split at h
  · cases h
  rename_i hpolygonRule
  constructor
  · intro field hfield hpolygon
    have hname := forM_eq_ok.mp hnames field hfield
    unfold validatePolygonName at hname
    by_contra hne
    rw [if_pos (by simp [hpolygon, hne])] at hname
    cases hname
  · intro field hget
    rw [hget] at hpolygonRule
    simpa using hpolygonRule
  · exact fun field hfield hcloud => validatePointCloud_eq_ok (hclouds hfield hcloud)
  · intro field hget
    split at h
    · rw [hget] at h
      cases h
    · rename_i only honly
      have hmem : only ∈ schema.identifier.entries.filter fun field =>
          field.2.rule.isPointCloud := by
        rw [honly]
        exact List.mem_singleton_self only
      obtain ⟨honlyMem, hcloud⟩ := List.mem_filter.mp hmem
      -- the one point cloud of the schema has the reserved name
      have hname := (validatePointCloud_eq_ok h).1
      have honlyGet : schema.identifier.get only.1 = some only.2 :=
        AList.mem_lookup_iff.mpr honlyMem
      rw [hname, hget] at honlyGet
      cases honlyGet
      exact hcloud
    · cases h

theorem validate_schemaSpatial {debugStrings : List String → String} {ecpds : Bool}
    {settings : Settings} (haccepted : settings.validate debugStrings ecpds = .ok ())
    {eventType : String} {schema : EventSchema}
    (hschema : settings.schemaOf eventType = some schema) :
    validateSchemaSpatial eventType schema = .ok () := by
  unfold Settings.validate at haccepted
  obtain ⟨_, -, haccepted⟩ := bind_eq_ok.mp haccepted
  obtain ⟨_, -, haccepted⟩ := bind_eq_ok.mp haccepted
  obtain ⟨_, hspatial, -⟩ := bind_eq_ok.mp haccepted
  exact forM_eq_ok.mp hspatial _ (schemaOf_mem hschema)

theorem validate_spatial {debugStrings : List String → String} {ecpds : Bool}
    {settings : Settings} (haccepted : settings.validate debugStrings ecpds = .ok ())
    {eventType : String} {schema : EventSchema}
    (hschema : settings.schemaOf eventType = some schema) : SpatialValid schema :=
  validateSchemaSpatial_eq_ok (validate_schemaSpatial haccepted hschema)

/-- In accepted settings, a schema without a topic section has no point cloud. -/
theorem validate_noCloud {debugStrings : List String → String} {ecpds : Bool}
    {settings : Settings} (haccepted : settings.validate debugStrings ecpds = .ok ())
    {eventType : String} {schema : EventSchema}
    (hschema : settings.schemaOf eventType = some schema) (htopic : schema.topic = none) :
    ∀ field ∈ schema.identifier.entries, field.2.rule.isPointCloud = false := by
  intro field hfield
  by_contra hcloud
  have hvalid := validateSchemaSpatial_cloud (validate_schemaSpatial haccepted hschema) hfield
    (by simpa using hcloud)
  have htopicSome := validatePointCloud_topic hvalid
  rw [htopic] at htopicSome
  cases htopicSome

/-! ## 5. The keys of a topic -/

/-- The keys whose values follow the base in a topic. -/
def EventSchema.topicKeys (schema : EventSchema) (canonicalizedParams : HashMap String) :
    List String :=
  match schema.topic with
  | some topicConfig => topicConfig.keyOrder
  | none => sortStrings canonicalizedParams.keys

theorem mem_sortStrings_keys {params : HashMap String} {key : String} :
    key ∈ sortStrings params.keys ↔ (params.get key).isSome = true := by
  rw [(sortStrings_perm params.keys).mem_iff, ← AList.mem_keys, AList.lookup_isSome]

theorem filterMap_get (params : HashMap String) (keys : List String)
    (hall : ∀ key ∈ keys, (params.get key).isSome = true) :
    keys.filterMap params.get = keys.map fun key => (params.get key).getD "" := by
  induction keys with
  | nil => rfl
  | cons key keys ih =>
    obtain ⟨hkey, hkeys⟩ := List.forall_mem_cons.mp hall
    obtain ⟨value, hvalue⟩ := Option.isSome_iff_exists.mp hkey
    rw [List.filterMap_cons_some hvalue, ih hkeys, List.map_cons, hvalue]
    rfl

/-- A topic has one value for each of its keys. -/
theorem buildTopicWithSchema_keys {eventType topic : String} {schema : EventSchema}
    {params : HashMap String} (hbase : isTopicBase (schema.base eventType) = true)
    (h : TopicBuilder.buildTopicWithSchema eventType schema params = .ok topic) :
    topic = encodeSubject (schema.base eventType ::
        (schema.topicKeys params).map fun key => (params.get key).getD "") ∧
      ∀ key ∈ schema.topicKeys params, (params.get key).isSome = true := by
  unfold TopicBuilder.buildTopicWithSchema at h
  unfold EventSchema.base at hbase ⊢
  unfold EventSchema.topicKeys
  cases htopic : schema.topic with
  | some topicConfig =>
    rw [htopic] at h
    obtain ⟨values, hvalues, hencode⟩ := bind_eq_ok.mp h
    obtain ⟨rfl, hall⟩ := mapM_topicValue_eq_ok _ _ _ hvalues
    cases hencode
    exact ⟨rfl, hall⟩
  | none =>
    rw [htopic] at h hbase
    cases h
    have hall : ∀ key ∈ sortStrings params.keys, (params.get key).isSome = true :=
      fun key hkey => mem_sortStrings_keys.mp hkey
    refine ⟨?_, hall⟩
    unfold TopicBuilder.buildGenericTopic
    split
    · rename_i hempty
      have hkeys : params.keys = [] := by rw [AList.keys, hempty]; rfl
      rw [hkeys]
      exact (encodeSubject_base eventType hbase).symm
    · rw [filterMap_get params _ hall]

/-- In accepted settings, no key has two places. -/
theorem topicKeys_nodup {debugStrings : List String → String} {ecpds : Bool} {settings : Settings}
    (haccepted : settings.validate debugStrings ecpds = .ok ()) {eventType : String}
    {schema : EventSchema} (hschema : settings.schemaOf eventType = some schema)
    (params : HashMap String) : (schema.topicKeys params).Nodup := by
  unfold EventSchema.topicKeys
  cases htopic : schema.topic with
  | some topicConfig => exact (validate_keyOrder haccepted hschema htopic).nodup
  | none => exact (sortStrings_perm params.keys).nodup_iff.mpr params.nodupKeys

/-- Where one of two identifiers has the keys of the other, topics of one length have the same
keys. -/
theorem topicKeys_eq_of_length {schema : EventSchema} {params others : HashMap String}
    (hkeys : ∀ key, (params.get key).isSome = true → (others.get key).isSome = true)
    (hlength : (schema.topicKeys params).length = (schema.topicKeys others).length) :
    schema.topicKeys params = schema.topicKeys others := by
  unfold EventSchema.topicKeys at hlength ⊢
  cases htopic : schema.topic with
  | some topicConfig => rfl
  | none =>
    simp only [htopic] at hlength ⊢
    apply sortStrings_congr
    have hsubset : params.keys ⊆ others.keys := by
      intro key hkey
      exact AList.lookup_isSome.mp (hkeys key (AList.lookup_isSome.mpr hkey))
    rw [(sortStrings_perm _).length_eq, (sortStrings_perm _).length_eq] at hlength
    exact (List.subperm_of_subset params.nodupKeys hsubset).perm_of_length_le hlength.ge

end AvisoServer
