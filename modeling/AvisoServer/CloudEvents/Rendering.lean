import AvisoServer.CloudEvents
import AvisoServer.Notification.Identifier
import AvisoServer.Routes.Streaming
import AvisoServer.Validators.CanonicalGeometry

/-!
# Rendering stored notifications

The event type of a stored message is looked up by the base of its topic, among the topic sections
of the schemas. A base that stands in no topic section is stored all the same, and renders as an
error.
-/

namespace AvisoServer

/-! ## 1. The owner of a base -/

/-- The event type has a topic section with this base. -/
def Settings.TopicOwner (settings : Settings) (base owner : String) : Prop :=
  ∃ schema topicConfig, settings.schemaOf owner = some schema ∧
    schema.topic = some topicConfig ∧ topicConfig.base = base

theorem findEventType_owner {settings : Settings} {base owner : String}
    (h : findEventTypeFromTopicBase settings base = .ok owner) :
    settings.TopicOwner base owner := by
  unfold findEventTypeFromTopicBase at h
  split at h
  · cases h
  rename_i schemas hschemas
  split at h
  · rename_i entry hfind
    cases h
    have hbase := List.find?_some hfind
    obtain ⟨topicConfig, htopic, hconfig⟩ := (Option.any_eq_true _ _).mp hbase
    refine ⟨entry.2, topicConfig, ?_, htopic, of_decide_eq_true hconfig⟩
    unfold Settings.schemaOf
    rw [hschemas]
    exact mem_entries_get (List.mem_of_find?_eq_some hfind)
  · cases h

theorem findEventType_of_owner {debugStrings : List String → String} {ecpds : Bool}
    {settings : Settings} (haccepted : settings.validate debugStrings ecpds = .ok ())
    {base owner : String} (howner : settings.TopicOwner base owner) :
    findEventTypeFromTopicBase settings base = .ok owner := by
  obtain ⟨schema, topicConfig, hschema, htopic, rfl⟩ := howner
  have hfind := find_schema_of_base haccepted hschema htopic
  unfold Settings.schemas at hfind
  unfold findEventTypeFromTopicBase
  cases hschemas : settings.notificationSchema with
  | none =>
    rw [hschemas] at hfind
    cases hfind
  | some schemas =>
    simp only [hschemas] at hfind ⊢
    rw [hfind]

/-! ## 2. Stored geometries -/

section Geometry

variable {lib : Libraries}

theorem buildCloudEventData_plain (identifierParams : HashMap String) (payload : String) :
    buildCloudEventData lib identifierParams payload none =
      .ok ⟨identifierParams.mapValues .string, parsePayloadToJson lib payload⟩ := rfl

theorem buildCloudEventData_polygon (identifierParams : HashMap String) (payload : String)
    {metadata : SpatialMetadata} {text : String} {coordinates : List Coordinate}
    (hgeometry : metadata.geometry = .polygon text)
    (hparse : PolygonHandler.parsePolygonCoordinates lib text = .ok coordinates) :
    buildCloudEventData lib identifierParams payload (some (spatialHeaders metadata)) =
      .ok ⟨(identifierParams.mapValues Json.string).insert "polygon" (coordinatesArray coordinates),
        parsePayloadToJson lib payload⟩ := by
  obtain ⟨hpolygon, hcloud⟩ := spatialHeaders_geometry metadata
  rw [hgeometry] at hpolygon hcloud
  have hcanonical := coordinatesToJson_valid (parsePolygonCoordinates_valid hparse)
  unfold buildCloudEventData attachPolygon attachPointCloud
  simp only [Option.bind_some, hpolygon, hcloud, hparse, hcanonical, coordinateError, withContext,
    Except.mapError, bind, Except.bind]

theorem buildCloudEventData_cloud (identifierParams : HashMap String) (payload : String)
    {metadata : SpatialMetadata} {text : String} {value canonical : Json}
    (hgeometry : metadata.geometry = .pointCloud text) (hreads : lib.jsonFromStr text = .ok value)
    (hcanonical : PointCloudHandler.validateAndCanonicalize lib value hardMaxPoints "point_cloud" =
      .ok canonical) :
    buildCloudEventData lib identifierParams payload (some (spatialHeaders metadata)) =
      .ok ⟨(identifierParams.mapValues Json.string).insert "point_cloud" canonical,
        parsePayloadToJson lib payload⟩ := by
  obtain ⟨hpolygon, hcloud⟩ := spatialHeaders_geometry metadata
  rw [hgeometry] at hpolygon hcloud
  unfold buildCloudEventData attachPolygon attachPointCloud
  simp only [Option.bind_some, hpolygon, hcloud, hreads, hcanonical, parseError, withContext,
    Except.mapError, bind, Except.bind]

/-- The canonical JSON of a geometry. -/
def canonicalGeometry (lib : Libraries) (fieldName : String) (value : Json) :
    ValidationRules → Option Json
  | .polygonHandler _ =>
    (PolygonHandler.validateJsonAndCanonicalize lib value fieldName).toOption
  | .pointCloudHandler _ maxPoints =>
    (PointCloudHandler.validateAndCanonicalize lib value maxPoints fieldName).toOption
  | _ => none

/-- The text of a stored polygon has been read already. -/
theorem NotifiedGeometry.polygon_parses {requestParams : HashMap Json} {fieldName : String}
    {rule : ValidationRules} {boundingBox text : String}
    (h : NotifiedGeometry lib requestParams fieldName rule ⟨boundingBox, .polygon text⟩) :
    ∃ coordinates, PolygonHandler.parsePolygonCoordinates lib text = .ok coordinates := by
  cases h with
  | polygon _ _ hparse hmetadata =>
    obtain ⟨_, -, hbuilt⟩ := bind_eq_ok.mp hmetadata
    cases hbuilt
    exact ⟨_, hparse⟩
  | pointCloud _ _ hmetadata =>
    obtain ⟨_, -, hbuilt⟩ := bind_eq_ok.mp hmetadata
    cases hbuilt

/-- The geometry of an accepted notification, with its canonical JSON, is part of its event. -/
theorem buildCloudEventData_notified (identifierParams : HashMap String) (payload : String)
    {requestParams : HashMap Json} {fieldName : String} {rule : ValidationRules}
    {metadata : SpatialMetadata}
    (hgeometry : NotifiedGeometry lib requestParams fieldName rule metadata)
    (hpolygonName : rule.isPolygon = true → fieldName = "polygon")
    (hcloudName : rule.isPointCloud = true → fieldName = "point_cloud")
    (hreads : ∀ value canonical, rule.isPointCloud = true → requestParams.get fieldName = some value →
      canonicalGeometry lib fieldName value rule = some canonical →
      lib.jsonFromStr (lib.jsonToString canonical) = .ok canonical) :
    ∃ value canonical attached, requestParams.get fieldName = some value ∧
      canonicalGeometry lib fieldName value rule = some canonical ∧
      (PrintsAndReads lib canonical → attached = canonical) ∧
      buildCloudEventData lib identifierParams payload (some (spatialHeaders metadata)) =
        .ok ⟨(identifierParams.mapValues Json.string).insert fieldName attached,
          parsePayloadToJson lib payload⟩ := by
  cases hgeometry with
  | @polygon required value canonical coordinates metadata hvalue hcanonical hparse hmetadata =>
    have hkind : metadata.geometry = .polygon (lib.jsonToString canonical) := by
      obtain ⟨boundingBox, -, hbuilt⟩ := bind_eq_ok.mp hmetadata
      cases hbuilt
      rfl
    refine ⟨value, canonical, coordinatesArray coordinates, hvalue, ?_, ?_, ?_⟩
    · unfold canonicalGeometry
      rw [hcanonical]
      rfl
    · intro hprints
      obtain ⟨printed, -, hvalid, -, rfl⟩ := polygon_canonical hcanonical
      rw [parsePolygonCoordinates_printed hvalid hprints] at hparse
      cases hparse
      rfl
    · rw [hpolygonName rfl]
      exact buildCloudEventData_polygon identifierParams payload hkind hparse
  | @pointCloud required maxPoints value canonical coordinates metadata hvalue hvalidate hmetadata =>
    have hkind : metadata.geometry = .pointCloud (lib.jsonToString canonical) := by
      obtain ⟨boundingBox, -, hbuilt⟩ := bind_eq_ok.mp hmetadata
      cases hbuilt
      rfl
    have hcanonical : canonicalGeometry lib fieldName value (.pointCloudHandler required maxPoints) =
        some canonical := by
      unfold canonicalGeometry PointCloudHandler.validateAndCanonicalize
      simp only [hvalidate]
      rfl
    -- a point cloud is read back from its header and validated again
    obtain ⟨hvalid, hnonempty, hcount, rfl, hsize⟩ := cloud_canonical hvalidate
    refine ⟨value, coordinatesArray coordinates, coordinatesArray coordinates, hvalue, hcanonical,
      fun _ => rfl, ?_⟩
    rw [hcloudName rfl]
    exact buildCloudEventData_cloud identifierParams payload hkind
      (hreads value _ rfl hvalue hcanonical)
      (cloud_canonical_again "point_cloud" hvalid hnonempty hcount hsize)

end Geometry

/-! ## 3. Stored notifications -/

/-- The stored text of a point cloud, if there is one, reads back as a point cloud: `serde_json` may
read other coordinates than it printed. -/
def ReadsStoredCloud (lib : Libraries) (metadata : Option (HashMap String)) : Prop :=
  ∀ text, (metadata.bind fun metadata => metadata.get spatialPointCloudMetadataKey) = some text →
    ∃ value canonical, lib.jsonFromStr text = .ok value ∧
      PointCloudHandler.validateAndCanonicalize lib value hardMaxPoints "point_cloud" =
        .ok canonical

theorem readsStoredCloud_of_data {lib : Libraries} {identifierParams : HashMap String}
    {payload : String} {metadata : Option (HashMap String)} {data : CloudEventData}
    (h : buildCloudEventData lib identifierParams payload metadata = .ok data) :
    ReadsStoredCloud lib metadata := by
  intro text htext
  unfold buildCloudEventData at h
  obtain ⟨identifier, -, h⟩ := bind_eq_ok.mp h
  obtain ⟨_, hcloud, -⟩ := bind_eq_ok.mp h
  unfold attachPointCloud at hcloud
  rw [htext] at hcloud
  obtain ⟨value, hvalue, hcloud⟩ := bind_eq_ok.mp hcloud
  obtain ⟨canonical, hcanonical, -⟩ := bind_eq_ok.mp hcloud
  exact ⟨value, canonical, mapError_eq_ok.mp ((withContext_eq_ok _ _ _).mp hvalue),
    (withContext_eq_ok _ _ _).mp hcanonical⟩

section Notified

variable {lib : Libraries} {debugStrings : List String → String} {ecpds : Bool}
  {settings : Settings} {request : NotificationRequest} {result : ProcessingResult}

/-- The data of the event can be built from whatever an accepted notification stores. -/
theorem notified_data
    (hresult : processRequestWithValues lib settings.registry request.eventType request.identifier
      request.payload .notify = .ok result)
    (hcloud : ReadsStoredCloud lib (result.spatialMetadata.map spatialHeaders))
    (identifierParams : HashMap String) (payload : String) :
    ∃ data, buildCloudEventData lib identifierParams payload
      (result.spatialMetadata.map spatialHeaders) = .ok data := by
  cases hschema : settings.schemaOf request.eventType with
  | none =>
    rw [processRequest_generic hschema hresult]
    exact ⟨_, rfl⟩
  | some schema =>
    obtain ⟨identifier, hnotified, -, -, hspatial⟩ := processRequest_notify hschema hresult
    rw [hspatial]
    cases hnotified.geometry with
    | inl hplain =>
      rw [hplain.2]
      exact ⟨_, rfl⟩
    | inr hgeometry =>
      obtain ⟨field, hfield, -, metadata, hmetadata, hnotifiedGeometry⟩ := hgeometry
      rw [hspatial, hmetadata] at hcloud
      rw [hmetadata]
      obtain ⟨boundingBox, geometry⟩ := metadata
      cases hkind : geometry with
      | polygon text =>
        subst hkind
        obtain ⟨coordinates, hparse⟩ := hnotifiedGeometry.polygon_parses
        exact ⟨_, buildCloudEventData_polygon identifierParams payload rfl hparse⟩
      | pointCloud text =>
        subst hkind
        obtain ⟨value, canonical, hreads, hcanonical⟩ :=
          hcloud text (spatialHeaders_geometry ⟨boundingBox, .pointCloud text⟩).2
        exact ⟨_, buildCloudEventData_cloud identifierParams payload rfl hreads hcanonical⟩

theorem deriveEventType_stored
    (hresult : processRequestWithValues lib settings.registry request.eventType request.identifier
      request.payload .notify = .ok result) {message : NotificationMessage}
    (hstored : (notificationPut lib request result).Stored message) :
    deriveEventTypeFromTopic message.topic = .ok (settings.routedBase request.eventType) := by
  obtain ⟨hbase, ⟨values, htopic⟩, -⟩ := processRequest_topic hresult
  rw [hstored.topic]
  show decodeSubjectBase result.topic = _
  rw [htopic]
  exact decodeSubjectBase_topic _ values hbase

/-- The event of a message is one of the owner of its base, and its point cloud was read. -/
theorem cloudEventAttributes_base {message : NotificationMessage} {base : String}
    (hderive : deriveEventTypeFromTopic message.topic = .ok base) {now : DateTime}
    {baseUrl : String} {event : CloudEvent}
    (h : cloudEventAttributes lib settings now message baseUrl = .ok event) :
    ReadsStoredCloud lib message.metadata ∧ ∃ owner data, settings.TopicOwner base owner ∧
      event = messageEvent now message baseUrl owner data := by
  unfold cloudEventAttributes at h
  rw [hderive] at h
  obtain ⟨_, hderived, h⟩ := bind_eq_ok.mp h
  cases hderived
  obtain ⟨owner, hfind, h⟩ := bind_eq_ok.mp h
  obtain ⟨params, -, h⟩ := bind_eq_ok.mp h
  obtain ⟨data, hdata, h⟩ := bind_eq_ok.mp h
  cases h
  exact ⟨readsStoredCloud_of_data hdata, owner, data,
    findEventType_owner ((withContext_eq_ok _ _ _).mp hfind), rfl⟩

theorem cloudEventAttributes_owner
    (hresult : processRequestWithValues lib settings.registry request.eventType request.identifier
      request.payload .notify = .ok result) {message : NotificationMessage}
    (hstored : (notificationPut lib request result).Stored message) {now : DateTime}
    {baseUrl : String} {event : CloudEvent}
    (h : cloudEventAttributes lib settings now message baseUrl = .ok event) :
    ReadsStoredCloud lib message.metadata ∧
      ∃ owner data, settings.TopicOwner (settings.routedBase request.eventType) owner ∧
        event = messageEvent now message baseUrl owner data :=
  cloudEventAttributes_base (deriveEventType_stored hresult hstored) h

/-- If the base has an owner, the event has the values of the topic under the owner's keys. -/
theorem cloudEventAttributes_of_owner (haccepted : settings.validate debugStrings ecpds = .ok ())
    (hresult : processRequestWithValues lib settings.registry request.eventType request.identifier
      request.payload .notify = .ok result) {message : NotificationMessage}
    (hstored : (notificationPut lib request result).Stored message) (now : DateTime)
    (baseUrl : String) {owner : String} {schema : EventSchema} {topicConfig : TopicConfig}
    (hschema : settings.schemaOf owner = some schema) (htopicConfig : schema.topic = some topicConfig)
    {values : List String} (htopic : result.topic = encodeSubject (topicConfig.base :: values))
    (hbase : topicConfig.base = settings.routedBase request.eventType) {data : CloudEventData}
    (hdata : buildCloudEventData lib (topicRequest topicConfig.keyOrder values ∅)
      (payloadString lib request) (result.spatialMetadata.map spatialHeaders) = .ok data) :
    cloudEventAttributes lib settings now message baseUrl =
      .ok (messageEvent now message baseUrl owner data) := by
  have howner : settings.TopicOwner (settings.routedBase request.eventType) owner :=
    ⟨schema, topicConfig, hschema, htopicConfig, hbase⟩
  have hparams : topicToRequest settings message.topic owner =
      .ok (topicRequest topicConfig.keyOrder values ∅) := by
    rw [hstored.topic]
    show topicToRequest settings result.topic owner = _
    unfold topicToRequest
    unfold Settings.schemaOf at hschema
    obtain ⟨schemas, hschemas, hget⟩ := Option.bind_eq_some_iff.mp hschema
    rw [hschemas]
    simp only [hget]
    rw [htopic]
    exact parseTopicWithSchema_encodeSubject schema topicConfig htopicConfig values
  have hbuilt : buildCloudEventData lib (topicRequest topicConfig.keyOrder values ∅)
      message.payload message.metadata = .ok data := by
    rw [hstored.payload, hstored.metadata]
    exact hdata
  unfold cloudEventAttributes
  rw [deriveEventType_stored hresult hstored]
  simp only [findEventType_of_owner haccepted howner, hparams, hbuilt, withContext_ok, bind,
    Except.bind]

end Notified

/-! ## 4. Frames -/

/-- The builder rejects an event only for an empty source or for a schema that is no URL. -/
def EventBuilderLaw (events : CloudEventLibrary) (isUrl : String → Bool) : Prop :=
  ∀ event, events.buildError event = none ↔ event.source ≠ "" ∧ isUrl event.dataSchema = true

/-- The message is sent as a notification, and not as an error. -/
def RendersNotification (renderer : Renderer) (message : NotificationMessage) (baseUrl : String)
    (eventType : SseEventType) (requestId : String) : Prop :=
  ∃ bytes, renderer.notificationToSseEvent message baseUrl eventType requestId =
    .ok (bytes, .notification)

theorem rendersNotification_iff (renderer : Renderer) (message : NotificationMessage)
    (baseUrl : String) (eventType : SseEventType) (requestId : String) :
    RendersNotification renderer message baseUrl eventType requestId ↔
      ∃ value, renderer.createCloudEvent message baseUrl = .ok value := by
  unfold RendersNotification Renderer.notificationToSseEvent
  cases renderer.createCloudEvent message baseUrl with
  | error e => simp
  | ok value => simp

theorem createCloudEvent_eq_ok {lib : Libraries} {events : CloudEventLibrary}
    {settings : Settings} {now : DateTime} {message : NotificationMessage} {baseUrl : String}
    {event : CloudEvent} :
    createCloudEvent lib events settings now message baseUrl = .ok event ↔
      cloudEventAttributes lib settings now message baseUrl = .ok event ∧
        events.buildError event = none := by
  unfold createCloudEvent
  rw [bind_eq_ok]
  constructor
  · rintro ⟨attributes, hattributes, hbuild⟩
    split at hbuild
    · cases hbuild
    · rename_i hnone
      cases hbuild
      exact ⟨hattributes, hnone⟩
  · rintro ⟨hattributes, hbuild⟩
    refine ⟨event, hattributes, ?_⟩
    rw [hbuild]

/-- A stored notification renders exactly when its point cloud reads back as one, its base stands in
the topic section of some event type, and the base URL makes the schema address of that event type a
URL. -/
theorem renders_iff (lib : Libraries) (events : CloudEventLibrary) (isUrl : String → Bool)
    (hlaw : EventBuilderLaw events isUrl) {debugStrings : List String → String} {ecpds : Bool}
    {settings : Settings} (haccepted : settings.validate debugStrings ecpds = .ok ())
    {user : Option User} {request : NotificationRequest} {result : ProcessingResult}
    (hnotify : notify lib settings user request = .ok result)
    {message : NotificationMessage}
    (hstored : (notificationPut lib request result).Stored message) (now : DateTime)
    (formatStreamTimestamp : DateTime → String) (baseUrl : String) (eventType : SseEventType)
    (requestId : String) :
    RendersNotification (cloudEventRenderer lib events settings now formatStreamTimestamp) message
        baseUrl eventType requestId ↔
      ReadsStoredCloud lib message.metadata ∧
        ∃ owner, settings.TopicOwner (settings.routedBase request.eventType) owner ∧
          baseUrl ≠ "" ∧ isUrl (baseUrl ++ "/schema/" ++ owner) = true := by
  have hresult := (notify_eq_ok hnotify).2
  rw [rendersNotification_iff]
  constructor
  · rintro ⟨value, hvalue⟩
    obtain ⟨event, hcreate, -⟩ := map_eq_ok.mp hvalue
    obtain ⟨hattributes, hbuild⟩ := createCloudEvent_eq_ok.mp hcreate
    obtain ⟨hcloud, owner, data, howner, rfl⟩ :=
      cloudEventAttributes_owner hresult hstored hattributes
    exact ⟨hcloud, owner, howner, (hlaw _).mp hbuild⟩
  · rintro ⟨hcloud, owner, howner, hsource, hurl⟩
    obtain ⟨schema, topicConfig, hschema, htopicConfig, hbase⟩ := howner
    obtain ⟨-, ⟨values, htopic⟩, -⟩ := processRequest_topic hresult
    rw [← hbase] at htopic
    rw [hstored.metadata] at hcloud
    obtain ⟨data, hdata⟩ := notified_data hresult hcloud
      (topicRequest topicConfig.keyOrder values ∅) (payloadString lib request)
    have hattributes := cloudEventAttributes_of_owner haccepted hresult hstored now baseUrl hschema
      htopicConfig htopic hbase hdata
    have hcreate := createCloudEvent_eq_ok.mpr ⟨hattributes, (hlaw _).mpr ⟨hsource, hurl⟩⟩
    exact ⟨_, map_eq_ok.mpr ⟨_, hcreate, rfl⟩⟩

-- a server with a schema that has a topic section, and one that has none
def classIdentifier : HashMap IdentifierFieldConfig :=
  AList.singleton "class" ⟨.stringHandler none true⟩

def marsSchema : EventSchema where
  payload := none
  topic := some { base := "mars", keyOrder := ["class"] }
  identifier := classIdentifier
  storagePolicy := none
  auth := none

def feedSettings : Settings where
  applicationPort := 8000
  notificationBackend := { kind := "in_memory", retentionPolicy := none }
  notificationSchema :=
    some (AList.insert "notes" { marsSchema with topic := none } (AList.singleton "mars" marsSchema))
  notificationSchemaStrict := none
  auth := AuthSettings.default
  metrics := { enabled := false, port := none }

theorem feedSettings_accepted :
    feedSettings.validate plainLibraries.debugStrings false = .ok () := by
  decide +kernel

def classRequest (eventType value : String) : NotificationRequest :=
  { bareRequest eventType with identifier := AList.singleton "class" (.string value) }

def classMessage (eventType value : String) : NotificationMessage where
  sequence := 1
  topic := eventType ++ "." ++ value
  payload := "null"
  timestamp := some 5
  metadata := none

-- a builder that takes only web addresses
def isHttpUrl (text : String) : Bool :=
  "http://".toList.isPrefixOf text.toList

def httpEvents : CloudEventLibrary where
  buildError event :=
    if event.source ≠ "" ∧ isHttpUrl event.dataSchema = true then none else some "relative URL"
  toValue event := event.data

theorem httpEvents_law : EventBuilderLaw httpEvents isHttpUrl := by
  intro event
  unfold httpEvents
  simp only
  split
  · rename_i haccepted
    exact iff_of_true rfl haccepted
  · rename_i hrejected
    exact iff_of_false (by simp) hrejected

/-- The server accepts the request, and stores this message for it. -/
def StoredAs (lib : Libraries) (settings : Settings) (request : NotificationRequest)
    (message : NotificationMessage) : Prop :=
  ∃ result, notify lib settings none request = .ok result ∧
    (notificationPut lib request result).Stored message

theorem mars_stored : StoredAs plainLibraries feedSettings (classRequest "mars" "od")
    (classMessage "mars" "od") :=
  ⟨_, rfl, ⟨by decide +kernel, rfl, rfl⟩⟩

theorem notes_stored : StoredAs plainLibraries feedSettings (classRequest "notes" "od")
    (classMessage "notes" "od") :=
  ⟨_, rfl, ⟨by decide +kernel, rfl, rfl⟩⟩

theorem renders_iff_mars :
    RendersNotification (cloudEventRenderer plainLibraries httpEvents feedSettings 7 fun _ => "")
        (classMessage "mars" "od") "http://localhost" .liveNotification "1" ↔
      ReadsStoredCloud plainLibraries (classMessage "mars" "od").metadata ∧
        ∃ owner, feedSettings.TopicOwner (feedSettings.routedBase "mars") owner ∧
          "http://localhost" ≠ "" ∧
          isHttpUrl ("http://localhost" ++ "/schema/" ++ owner) = true := by
  obtain ⟨result, hnotify, hstored⟩ := mars_stored
  exact renders_iff plainLibraries httpEvents isHttpUrl httpEvents_law feedSettings_accepted hnotify
    hstored 7 (fun _ => "") "http://localhost"
    .liveNotification "1"

/-- A notification on the schema without a topic section is accepted, and renders as an error. -/
theorem notes_unrendered :
    feedSettings.validate plainLibraries.debugStrings false = .ok () ∧
      StoredAs plainLibraries feedSettings (classRequest "notes" "od")
        (classMessage "notes" "od") ∧
      ¬ RendersNotification
        (cloudEventRenderer plainLibraries httpEvents feedSettings 7 fun _ => "")
        (classMessage "notes" "od") "http://localhost" .liveNotification "1" := by
  refine ⟨feedSettings_accepted, notes_stored, ?_⟩
  rw [rendersNotification_iff]
  rintro ⟨value, hvalue⟩
  obtain ⟨event, hcreate, -⟩ := map_eq_ok.mp hvalue
  obtain ⟨hattributes, -⟩ := createCloudEvent_eq_ok.mp hcreate
  obtain ⟨result, hnotify, hstored⟩ := notes_stored
  obtain ⟨-, owner, data, howner, -⟩ :=
    cloudEventAttributes_owner (notify_eq_ok hnotify).2 hstored hattributes
  -- of the two schemas only the other one has a topic section
  have hfind := findEventType_of_owner feedSettings_accepted howner
  cases hfind

end AvisoServer
