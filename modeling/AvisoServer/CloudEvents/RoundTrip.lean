import AvisoServer.CloudEvents.Rendering

/-!
# From a notification to its cloud event

The identifier of a notification is split between the topic and the headers when it is stored, and
put together again in the event. Every value comes back but an empty text and a lone wildcard, which
a topic reads as an omitted field.
-/

namespace AvisoServer

/-! ## 1. The event of a notification -/

/-- The canonical JSON of a field: that of its geometry, or its canonical string. -/
def canonicalIdentifier (lib : Libraries) (schema : EventSchema) (request : NotificationRequest)
    (result : ProcessingResult) (key : String) : Option Json :=
  (schema.identifier.get key).bind fun field =>
    if field.rule.isSpatial then
      (request.identifier.get key).bind fun value => canonicalGeometry lib key value field.rule
    else (result.canonicalizedParams.get key).map .string

/-- The event has the event type of the request, its full canonical identifier and its payload. -/
structure RoundTrips (lib : Libraries) (schema : EventSchema) (request : NotificationRequest)
    (result : ProcessingResult) (event : CloudEvent) (data : CloudEventData) : Prop where
  ty : event.ty = "int.ecmwf.aviso." ++ request.eventType
  carried : event.data = data.toJson
  identifier : ∀ key, data.identifier.get key = canonicalIdentifier lib schema request result key
  payload : data.payload = request.payload.getD .null

/-- What storing the notification prints is read back: its payload, and its geometry. -/
structure PrintsNotification (lib : Libraries) (schema : EventSchema)
    (request : NotificationRequest) : Prop where
  null : lib.jsonFromStr "null" = .ok .null
  payload : ∀ value, request.payload = some value → PrintsAndReads lib value
  geometry : ∀ field ∈ schema.identifier.entries, ∀ value canonical,
    request.identifier.get field.1 = some value →
    canonicalGeometry lib field.1 value field.2.rule = some canonical → PrintsAndReads lib canonical

/-- The values that a topic does not keep. -/
def DroppedField (schema : EventSchema) (result : ProcessingResult) (key : String) : Prop :=
  ∃ field text, schema.identifier.get key = some field ∧ field.rule.isSpatial = false ∧
    result.canonicalizedParams.get key = some text ∧ (text = "" ∨ text = "*")

theorem parsePayload_printed {lib : Libraries} {schema : EventSchema}
    {request : NotificationRequest} (hprints : PrintsNotification lib schema request) :
    parsePayloadToJson lib (payloadString lib request) = request.payload.getD .null := by
  unfold parsePayloadToJson payloadString
  cases hpayload : request.payload with
  | none =>
    simp only [hprints.null]
    rfl
  | some value =>
    have hvalue := hprints.payload value hpayload
    simp only [if_neg hvalue.nonempty, hvalue.reads]
    rfl

theorem toJson_injective {left right : CloudEventData} (h : left.toJson = right.toJson) :
    left = right := by
  obtain ⟨leftIdentifier, leftPayload⟩ := left
  obtain ⟨rightIdentifier, rightPayload⟩ := right
  unfold CloudEventData.toJson at h
  simp only [Json.object.injEq, List.cons.injEq, Prod.mk.injEq, true_and, and_true] at h
  obtain ⟨hidentifier, rfl⟩ := h
  have hinjective : Function.Injective
      fun entry : Sigma fun _ : String => Json => (entry.1, entry.2) := by
    rintro ⟨key, value⟩ ⟨otherKey, otherValue⟩ heq
    cases heq
    rfl
  rw [AList.ext (List.map_injective_iff.mpr hinjective hidentifier)]

/-! ## 2. The identifier put together -/

section Accepted

variable {lib : Libraries} {schema : EventSchema} {topicConfig : TopicConfig}
  {request : NotificationRequest} {result : ProcessingResult}

theorem isSpatial_iff (rule : ValidationRules) :
    rule.isSpatial = true ↔ rule.isPolygon = true ∨ rule.isPointCloud = true := by
  unfold ValidationRules.isSpatial
  exact Bool.or_eq_true_iff

/-- An accepted schema has one geometry at most. -/
theorem spatial_unique (hvalid : SpatialValid schema)
    {left right : Sigma fun _ : String => IdentifierFieldConfig}
    (hleft : left ∈ schema.identifier.entries) (hright : right ∈ schema.identifier.entries)
    (hleftSpatial : left.2.rule.isSpatial = true) (hrightSpatial : right.2.rule.isSpatial = true) :
    left.1 = right.1 := by
  have hnot : ∀ polygon ∈ schema.identifier.entries, ∀ cloud ∈ schema.identifier.entries,
      polygon.2.rule.isPolygon = true → cloud.2.rule.isPointCloud = true → False := by
    intro polygon hpolygon cloud hcloud hpolygonRule hcloudRule
    have hget := mem_entries_get hpolygon
    rw [hvalid.polygonName polygon hpolygon hpolygonRule,
      (hvalid.cloudName cloud hcloud hcloudRule).2] at hget
    cases hget
  cases (isSpatial_iff _).mp hleftSpatial with
  | inl hleftPolygon =>
    cases (isSpatial_iff _).mp hrightSpatial with
    | inl hrightPolygon =>
      rw [hvalid.polygonName left hleft hleftPolygon,
        hvalid.polygonName right hright hrightPolygon]
    | inr hrightCloud => exact (hnot left hleft right hright hleftPolygon hrightCloud).elim
  | inr hleftCloud =>
    cases (isSpatial_iff _).mp hrightSpatial with
    | inl hrightPolygon => exact (hnot right hright left hleft hrightPolygon hleftCloud).elim
    | inr hrightCloud =>
      rw [(hvalid.cloudName left hleft hleftCloud).1,
        (hvalid.cloudName right hright hrightCloud).1]

/-- The fields that are read from the topic: all but the geometry, which a topic may have too. -/
def topicIdentifier (topicConfig : TopicConfig) (result : ProcessingResult) : HashMap String :=
  topicRequest topicConfig.keyOrder
    (topicConfig.keyOrder.map fun key => (result.canonicalizedParams.get key).getD "") ∅

theorem topicIdentifier_get (hkeys : KeyOrderValid schema topicConfig) (key : String)
    (hkey : key ∈ topicConfig.keyOrder) :
    (topicIdentifier topicConfig result).get key =
      keptValue ((result.canonicalizedParams.get key).getD "") := by
  unfold topicIdentifier
  exact topicRequest_get (fun key => (result.canonicalizedParams.get key).getD "") _ hkeys.nodup ∅
    key hkey fun _ _ => rfl

theorem topicIdentifier_undeclared (hkeys : KeyOrderValid schema topicConfig) (key : String)
    (hnone : schema.identifier.get key = none) :
    (topicIdentifier topicConfig result).get key = none := by
  unfold topicIdentifier
  apply topicRequest_get_other
  intro hkey
  have hdeclared := (hkeys.declared key hkey).2
  rw [hnone] at hdeclared
  cases hdeclared

/-- The identifier that the topic and the headers give: the attached geometry, and the values of the
topic under the other keys. -/
structure AssembledIdentifier (lib : Libraries) (schema : EventSchema) (topicConfig : TopicConfig)
    (request : NotificationRequest) (result : ProcessingResult) (identifier : HashMap Json) :
    Prop where
  scalar : ∀ key, (∀ field, schema.identifier.get key = some field →
      field.rule.isSpatial = false) →
    identifier.get key = ((topicIdentifier topicConfig result).get key).map .string
  geometry : ∀ key field, schema.identifier.get key = some field → field.rule.isSpatial = true →
    identifier.get key = canonicalIdentifier lib schema request result key

/-- The assembled identifier is the canonical one exactly when no field is dropped. -/
theorem assembled_iff (hkeys : KeyOrderValid schema topicConfig)
    (hfields : ∀ field ∈ schema.identifier.entries,
      (result.canonicalizedParams.get field.1).isSome = true)
    {identifier : HashMap Json}
    (hassembled : AssembledIdentifier lib schema topicConfig request result identifier) :
    (∀ key, identifier.get key = canonicalIdentifier lib schema request result key) ↔
      ∀ key, ¬ DroppedField schema result key := by
  apply forall_congr'
  intro key
  cases hfield : schema.identifier.get key with
  | none =>
    have hscalar := hassembled.scalar key fun field hget => by rw [hfield] at hget; cases hget
    rw [hscalar, topicIdentifier_undeclared hkeys key hfield]
    unfold canonicalIdentifier DroppedField
    simp [hfield]
  | some field =>
    have hentry : (⟨key, field⟩ : Sigma fun _ : String => IdentifierFieldConfig) ∈
        schema.identifier.entries := AList.mem_lookup_iff.mp hfield
    -- a geometry is put back whole, a scalar comes from the topic or is dropped
    by_cases hspatial : field.rule.isSpatial = true
    · rw [hassembled.geometry key field hfield hspatial]
      refine iff_of_true rfl ?_
      rintro ⟨other, text, hother, hscalar, -⟩
      rw [hfield] at hother
      cases hother
      rw [hspatial] at hscalar
      cases hscalar
    · rw [Bool.not_eq_true] at hspatial
      have hscalar := hassembled.scalar key fun other hget => by
        rw [hfield] at hget
        cases hget
        exact hspatial
      obtain ⟨text, htext⟩ := Option.isSome_iff_exists.mp (hfields _ hentry)
      have hcanonical : canonicalIdentifier lib schema request result key = some (.string text) := by
        unfold canonicalIdentifier
        rw [hfield, Option.bind_some, hspatial, htext]
        rfl
      have hdropped : DroppedField schema result key ↔ text = "" ∨ text = "*" := by
        constructor
        · rintro ⟨-, other, -, -, hother, hlost⟩
          rw [htext] at hother
          cases hother
          exact hlost
        · exact fun hlost => ⟨field, text, hfield, hspatial, htext, hlost⟩
      rw [hscalar, topicIdentifier_get hkeys key (hkeys.routed _ hentry hspatial), htext, hcanonical,
        hdropped, not_or]
      unfold keptValue
      rw [Option.getD_some]
      by_cases hkept : text ≠ "" ∧ text ≠ "*"
      · rw [if_pos hkept]
        exact iff_of_true rfl hkept
      · rw [if_neg hkept]
        exact iff_of_false (by simp) hkept

/-- A geometry under the key of its field, over the values of the topic. -/
theorem assembled_of_geometry (hvalid : SpatialValid schema)
    {field : Sigma fun _ : String => IdentifierFieldConfig}
    (hfield : field ∈ schema.identifier.entries) (hspatial : field.2.rule.isSpatial = true)
    {canonical : Json}
    (hcanonical : canonicalIdentifier lib schema request result field.1 = some canonical) :
    AssembledIdentifier lib schema topicConfig request result
      (((topicIdentifier topicConfig result).mapValues Json.string).insert field.1 canonical) where
  scalar key hscalar := by
    have hne : key ≠ field.1 := by
      rintro rfl
      have hother := hscalar field.2 (mem_entries_get hfield)
      rw [hspatial] at hother
      cases hother
    rw [HashMap.get, AList.lookup_insert_ne hne]
    exact HashMap.get_mapValues Json.string _ key
  geometry key other hget hother := by
    have hentry : (⟨key, other⟩ : Sigma fun _ : String => IdentifierFieldConfig) ∈
        schema.identifier.entries := AList.mem_lookup_iff.mp hget
    have hkey : key = field.1 := spatial_unique hvalid hentry hfield hother hspatial
    rw [hkey, HashMap.get, AList.lookup_insert, hcanonical]

theorem assembled_of_plain
    (hplain : ∀ field ∈ schema.identifier.entries, field.2.rule.isSpatial = false) :
    AssembledIdentifier lib schema topicConfig request result
      ((topicIdentifier topicConfig result).mapValues Json.string) where
  scalar key _ := HashMap.get_mapValues Json.string _ key
  geometry key field hget hspatial := by
    have hscalar := hplain ⟨key, field⟩ (AList.mem_lookup_iff.mp hget)
    rw [hspatial] at hscalar
    cases hscalar

/-- The data of the event of an accepted notification. -/
theorem notified_assembled (topicConfig : TopicConfig) (hvalid : SpatialValid schema)
    {identifier : IdentifierProcessingResult}
    (hnotified : NotifiedIdentifier lib schema request.identifier identifier)
    (hspatial : result.spatialMetadata = identifier.spatialMetadata)
    (hprints : PrintsNotification lib schema request) (payload : String) :
    ∃ assembled, AssembledIdentifier lib schema topicConfig request result assembled ∧
      buildCloudEventData lib (topicIdentifier topicConfig result) payload
          (result.spatialMetadata.map spatialHeaders) =
        .ok ⟨assembled, parsePayloadToJson lib payload⟩ := by
  cases hnotified.geometry with
  | inl hplain =>
    rw [hspatial, hplain.2]
    exact ⟨_, assembled_of_plain hplain.1, buildCloudEventData_plain _ payload⟩
  | inr hgeometry =>
    obtain ⟨field, hfield, hrule, metadata, hmetadata, hnotifiedGeometry⟩ := hgeometry
    rw [hspatial, hmetadata]
    obtain ⟨value, canonical, attached, hvalue, hcanonical, hattached, hdata⟩ :=
      buildCloudEventData_notified (topicIdentifier topicConfig result) payload hnotifiedGeometry
        (hvalid.polygonName field hfield) (fun hcloud => (hvalid.cloudName field hfield hcloud).1)
        fun value canonical _ hvalue hcanonical =>
          (hprints.geometry field hfield value canonical hvalue hcanonical).reads
    have hprinted := hattached (hprints.geometry field hfield value canonical hvalue hcanonical)
    refine ⟨_, assembled_of_geometry hvalid hfield hrule ?_, hdata⟩
    unfold canonicalIdentifier
    rw [mem_entries_get hfield, Option.bind_some, if_pos hrule, hvalue, Option.bind_some, hcanonical,
      hprinted]

end Accepted

/-! ## 3. Round trips -/

/-- The event of a message has these contents, with every builder that accepts it. -/
def EventRoundTrips (lib : Libraries) (settings : Settings) (schema : EventSchema)
    (request : NotificationRequest) (result : ProcessingResult) (now : DateTime)
    (message : NotificationMessage) (baseUrl : String) : Prop :=
  ∃ event data, (∀ events : CloudEventLibrary, events.buildError event = none →
      createCloudEvent lib events settings now message baseUrl = .ok event) ∧
    RoundTrips lib schema request result event data

section Processed

variable {lib : Libraries} {debugStrings : List String → String} {ecpds : Bool}
  {settings : Settings} {request : NotificationRequest} {result : ProcessingResult}
  {schema : EventSchema} {topicConfig : TopicConfig}

/-- The attributes of the event, with the identifier put together. -/
theorem processed_attributes (haccepted : settings.validate debugStrings ecpds = .ok ())
    (hresult : processRequestWithValues lib settings.registry request.eventType request.identifier
      request.payload .notify = .ok result)
    (hschema : settings.schemaOf request.eventType = some schema)
    (htopicConfig : schema.topic = some topicConfig)
    (hprints : PrintsNotification lib schema request) {message : NotificationMessage}
    (hstored : (notificationPut lib request result).Stored message) (now : DateTime)
    (baseUrl : String) :
    ∃ assembled, AssembledIdentifier lib schema topicConfig request result assembled ∧
      (∀ field ∈ schema.identifier.entries,
        (result.canonicalizedParams.get field.1).isSome = true) ∧
      cloudEventAttributes lib settings now message baseUrl =
        .ok (messageEvent now message baseUrl request.eventType
          ⟨assembled, parsePayloadToJson lib (payloadString lib request)⟩) := by
  obtain ⟨identifier, hnotified, htopic, hparams, hspatial⟩ :=
    processRequest_notify hschema hresult
  unfold TopicBuilder.buildTopicWithSchema at htopic
  rw [htopicConfig] at htopic
  obtain ⟨values, hvalues, htopic⟩ := bind_eq_ok.mp htopic
  have htopic := Except.ok.inj htopic
  have hvalues := (mapM_topicValue_eq_ok _ _ _ hvalues).1
  rw [← hparams] at hvalues
  obtain ⟨assembled, hassembled, hdata⟩ :=
    notified_assembled topicConfig (validate_spatial haccepted hschema) hnotified hspatial hprints
      (payloadString lib request)
  have hbase : topicConfig.base = settings.routedBase request.eventType := by
    rw [routedBase_of_schema hschema, EventSchema.base_of_topic htopicConfig]
  unfold topicIdentifier at hdata
  rw [← hvalues] at hdata
  refine ⟨assembled, hassembled, ?_, cloudEventAttributes_of_owner haccepted hresult hstored now
    baseUrl hschema htopicConfig htopic.symm hbase hdata⟩
  intro field hfield
  obtain ⟨value, text, -, -, htext⟩ := hnotified.fields field hfield
  rw [hparams, htext]
  rfl

theorem processed_roundTrips_iff (haccepted : settings.validate debugStrings ecpds = .ok ())
    (hresult : processRequestWithValues lib settings.registry request.eventType request.identifier
      request.payload .notify = .ok result)
    (hschema : settings.schemaOf request.eventType = some schema)
    (htopicConfig : schema.topic = some topicConfig)
    (hprints : PrintsNotification lib schema request) {message : NotificationMessage}
    (hstored : (notificationPut lib request result).Stored message) (now : DateTime)
    (baseUrl : String) :
    EventRoundTrips lib settings schema request result now message baseUrl ↔
      ∀ key, ¬ DroppedField schema result key := by
  obtain ⟨assembled, hassembled, hfields, hattributes⟩ :=
    processed_attributes haccepted hresult hschema htopicConfig hprints hstored now baseUrl
  rw [← assembled_iff (validate_keyOrder haccepted hschema htopicConfig) hfields hassembled]
  constructor
  · rintro ⟨event, data, hevent, htrip⟩
    -- some builder accepts every event
    have hcreate := hevent ⟨fun _ => none, fun event => event.data⟩ rfl
    have hevent := (createCloudEvent_eq_ok.mp hcreate).1
    rw [hattributes] at hevent
    cases hevent
    have hsame := toJson_injective htrip.carried
    cases hsame
    exact htrip.identifier
  · intro hidentifier
    refine ⟨_, ⟨assembled, parsePayloadToJson lib (payloadString lib request)⟩,
      fun events hbuild => createCloudEvent_eq_ok.mpr ⟨hattributes, hbuild⟩, ?_⟩
    exact
      { ty := rfl
        carried := rfl
        identifier := hidentifier
        payload := parsePayload_printed hprints }

end Processed

/-- The event of a stored notification has its event type, its full canonical identifier and its
payload exactly when none of the values outside the geometry is empty or a lone wildcard. -/
theorem roundTrip_iff (lib : Libraries) {debugStrings : List String → String} {ecpds : Bool}
    {settings : Settings} (haccepted : settings.validate debugStrings ecpds = .ok ())
    {user : Option User} {request : NotificationRequest} {result : ProcessingResult}
    (hnotify : notify lib settings user request = .ok result) {schema : EventSchema}
    {topicConfig : TopicConfig} (hschema : settings.schemaOf request.eventType = some schema)
    (htopicConfig : schema.topic = some topicConfig)
    (hprints : PrintsNotification lib schema request) {message : NotificationMessage}
    (hstored : (notificationPut lib request result).Stored message) (now : DateTime)
    (baseUrl : String) :
    EventRoundTrips lib settings schema request result now message baseUrl ↔
      ∀ key, ¬ DroppedField schema result key :=
  processed_roundTrips_iff haccepted (notify_eq_ok hnotify).2 hschema htopicConfig hprints hstored
    now baseUrl

theorem classRequest_prints (value : String) :
    PrintsNotification plainLibraries marsSchema (classRequest "mars" value) where
  null := rfl
  payload _ hpayload := by cases hpayload
  geometry field hfield value canonical _ hcanonical := by
    rw [List.mem_singleton.mp (show field ∈ [_] from hfield)] at hcanonical
    cases hcanonical

theorem roundTrip_iff_mars : ∃ result,
    notify plainLibraries feedSettings none (classRequest "mars" "od") = .ok result ∧
      (EventRoundTrips plainLibraries feedSettings marsSchema (classRequest "mars" "od") result 7
          (classMessage "mars" "od") "http://localhost" ↔
        ∀ key, ¬ DroppedField marsSchema result key) := by
  obtain ⟨result, hnotify, hstored⟩ := mars_stored
  exact ⟨result, hnotify, roundTrip_iff plainLibraries feedSettings_accepted hnotify rfl rfl
    (classRequest_prints "od") hstored 7 "http://localhost"⟩

-- a class that is a lone wildcard, encoded in the topic
def starMessage : NotificationMessage :=
  { classMessage "mars" "*" with topic := "mars.%2A" }

/-- The class `*` is accepted and stored, and is missing from the event. -/
theorem star_dropped :
    feedSettings.validate plainLibraries.debugStrings false = .ok () ∧
      ∃ result, notify plainLibraries feedSettings none (classRequest "mars" "*") = .ok result ∧
        (notificationPut plainLibraries (classRequest "mars" "*") result).Stored starMessage ∧
        ¬ EventRoundTrips plainLibraries feedSettings marsSchema (classRequest "mars" "*") result 7
          starMessage "http://localhost" := by
  obtain ⟨result, hnotify, hstored, hstar⟩ : ∃ result,
      notify plainLibraries feedSettings none (classRequest "mars" "*") = .ok result ∧
        (notificationPut plainLibraries (classRequest "mars" "*") result).Stored starMessage ∧
        result.canonicalizedParams.get "class" = some "*" :=
    ⟨_, rfl, ⟨by decide +kernel, rfl, rfl⟩, rfl⟩
  refine ⟨feedSettings_accepted, result, hnotify, hstored, ?_⟩
  rw [processed_roundTrips_iff feedSettings_accepted (notify_eq_ok hnotify).2 rfl rfl
    (classRequest_prints "*") hstored]
  intro hkept
  exact hkept "class" ⟨_, "*", rfl, rfl, hstar, Or.inr rfl⟩

end AvisoServer
