import AvisoServer.Notification.FieldAgreement
import AvisoServer.Notification.FilterAgreement
import AvisoServer.Routes.Streaming

/-!
# Requested messages

The message of an accepted notification passes both stages of an accepted watch or replay exactly
when the request asks for the notification, wherever the fields have their places in the topic.
-/

namespace AvisoServer

/-! ## 1. Exchanges -/

/-- A stored notification and a watch or replay of its event type, under accepted settings. -/
structure Exchange (lib : Libraries) where
  settings : Settings
  ecpds : Bool
  accepted : settings.validate lib.debugStrings ecpds = .ok ()
  /-- The request of the notification, its user, and what is stored for it. -/
  notification : NotificationRequest
  notifier : Option User
  stored : ProcessingResult
  notified : notify lib settings notifier notification = .ok stored
  message : NotificationMessage
  put : (notificationPut lib notification stored).Stored message
  schema : EventSchema
  declared : settings.schemaOf notification.eventType = some schema
  topicConfig : TopicConfig
  topic : schema.topic = some topicConfig
  /-- The watch or replay, its user, and the context of its stream. -/
  wanted : NotificationRequest
  sameType : wanted.eventType = notification.eventType
  reader : Option User
  operation : OperationType
  reads : operation ≠ .notify
  context : StreamingRequestContext
  streamed : streamingContext lib settings reader wanted operation = .ok context

/-- The message passes both stages of the stream. -/
def Exchange.Passes {lib : Libraries} (exchange : Exchange lib) : Prop :=
  let params := exchange.context.result.canonicalizedParams
  ∃ coarse pattern, analyzeWatchPattern exchange.context.result.topic = .ok (coarse, pattern) ∧
    matchesWatchPattern exchange.message.topic pattern = true ∧
    matchesNotificationFiltersPrepared lib exchange.settings exchange.message.topic params
      exchange.context.result.identifierConstraints (prepareSpatialFilter lib params)
      exchange.message.metadata exchange.message.payload = true

/-- The stream asks for the notification. -/
def Exchange.Requested {lib : Libraries} (exchange : Exchange lib) : Prop :=
  NotificationWanted lib exchange.schema.identifier exchange.wanted.identifier
    exchange.notification.identifier

/-! ## 2. The two stages -/

section Stages

variable {lib : Libraries} (exchange : Exchange lib)

/-- The two stages in terms of the canonical identifiers. -/
theorem Exchange.passes_stages {stored streamed : IdentifierProcessingResult}
    (hstored : exchange.stored.canonicalizedParams = stored.canonicalized)
    (hmetadata : exchange.stored.spatialMetadata = stored.spatialMetadata)
    (hstreamed : exchange.context.result.canonicalizedParams = streamed.canonicalized)
    (hconstraints : exchange.context.result.identifierConstraints = streamed.constraints)
    (hrouted : ∀ entry ∈ streamed.constraints.entries, entry.1 ∈ exchange.topicConfig.keyOrder) :
    exchange.Passes ↔
      ((∀ key ∈ exchange.topicConfig.keyOrder,
          routedValue exchange.schema exchange.operation streamed.canonicalized key = "*" ∨
            routedValue exchange.schema exchange.operation streamed.canonicalized key =
              (stored.canonicalized.get key).getD "") ∧
        ∀ entry ∈ streamed.constraints.entries,
          ConstraintHolds lib entry.2 ((stored.canonicalized.get entry.1).getD "")) ∧
      matchesSpatialFilters lib streamed.canonicalized
        (prepareSpatialFilter lib streamed.canonicalized)
        (stored.spatialMetadata.map spatialHeaders) exchange.message.payload = true := by
  have hdeclared := exchange.declared
  have hwantedSchema : exchange.settings.schemaOf exchange.wanted.eventType =
      some exchange.schema := by rw [exchange.sameType, hdeclared]
  have hbase := EventSchema.base_of_topic exchange.topic
  have hkeys : ∀ params, exchange.schema.topicKeys params = exchange.topicConfig.keyOrder := by
    intro params
    unfold EventSchema.topicKeys
    rw [exchange.topic]
  -- both topics have the keys of the schema
  have hmessage := (notifiedTopic hdeclared (notify_eq_ok exchange.notified).2).topic
  rw [hbase, hkeys, hstored] at hmessage
  have hmessage := exchange.put.topic.trans hmessage
  have hwatch := (streamedTopic exchange.reads hwantedSchema
    (streamingContext_eq_ok exchange.streamed).2).topic
  rw [hbase, hkeys, hstreamed] at hwatch
  have hmetadata : exchange.message.metadata = stored.spatialMetadata.map spatialHeaders := by
    rw [exchange.put.metadata, ← hmetadata]
    rfl
  have hfilters := matchesNotificationFiltersPrepared_iff lib exchange.accepted hdeclared
    exchange.topic (fun key => (stored.canonicalized.get key).getD "") hrouted
    streamed.canonicalized (prepareSpatialFilter lib streamed.canonicalized)
    (stored.spatialMetadata.map spatialHeaders) exchange.message.payload
  unfold Exchange.Passes
  rw [hwatch, hmessage, hstreamed, hconstraints, hmetadata,
    analyzeWatchPattern_encodeSubject _ (List.cons_ne_nil _ _)]
  simp only [hfilters, Except.ok.injEq, Prod.mk.injEq]
  rw [← partsMatch_map_iff exchange.topicConfig.base]
  constructor
  · intro ⟨coarse, pattern, ⟨_, hpattern⟩, hmatch, hholds, hspatial⟩
    rw [← hpattern, matchesWatchPattern_encodeSubject _ _ (List.cons_ne_nil _ _)] at hmatch
    exact ⟨⟨hmatch, hholds⟩, hspatial⟩
  · intro ⟨⟨hmatch, hholds⟩, hspatial⟩
    refine ⟨_, _, ⟨rfl, rfl⟩, ?_, hholds, hspatial⟩
    rw [matchesWatchPattern_encodeSubject _ _ (List.cons_ne_nil _ _)]
    exact hmatch

/-- Every scalar field is what the request asks for. -/
def Exchange.FieldsWanted : Prop :=
  ∀ field ∈ exchange.schema.identifier.entries, field.2.rule.isSpatial = false →
    FieldWanted lib exchange.wanted.identifier exchange.notification.identifier field

/-- The message passes the spatial filter of the stream. -/
def Exchange.SpatialPasses : Prop :=
  let params := exchange.context.result.canonicalizedParams
  matchesSpatialFilters lib params (prepareSpatialFilter lib params) exchange.message.metadata
    exchange.message.payload = true

/-- The identifiers of the notification and of the stream. -/
theorem Exchange.exists_identifiers : ∃ stored streamed : IdentifierProcessingResult,
    NotifiedIdentifier lib exchange.schema exchange.notification.identifier stored ∧
      StreamedIdentifier lib exchange.schema exchange.wanted.identifier streamed ∧
      exchange.message.metadata = stored.spatialMetadata.map spatialHeaders ∧
      exchange.context.result.canonicalizedParams = streamed.canonicalized ∧
      (exchange.Passes ↔ exchange.FieldsWanted ∧ exchange.SpatialPasses) := by
  have hdeclared := exchange.declared
  have hwantedSchema : exchange.settings.schemaOf exchange.wanted.eventType =
      some exchange.schema := by rw [exchange.sameType, hdeclared]
  obtain ⟨stored, hnotified, -, hstored, hmetadata⟩ :=
    processRequest_notify hdeclared (notify_eq_ok exchange.notified).2
  obtain ⟨streamed, hasked, -, hstreamed, hconstraints⟩ :=
    processRequest_streaming exchange.reads hwantedSchema
      (streamingContext_eq_ok exchange.streamed).2
  have hkeys := validate_keyOrder exchange.accepted hdeclared exchange.topic
  have hspatial := validate_spatial exchange.accepted hdeclared
  have hundeclared := notify_pointUndeclared exchange.notified hnotified
  have hrouted : ∀ entry ∈ streamed.constraints.entries,
      entry.1 ∈ exchange.topicConfig.keyOrder := by
    intro entry hentry
    obtain ⟨field, hmem, hname, hscalar⟩ := hasked.constrained hentry
    rw [← hname]
    exact hkeys.routed field hmem hscalar
  have hheaders : exchange.message.metadata = stored.spatialMetadata.map spatialHeaders := by
    rw [exchange.put.metadata, ← hmetadata]
    rfl
  refine ⟨stored, streamed, hnotified, hasked, hheaders, hstreamed, ?_⟩
  rw [exchange.passes_stages hstored hmetadata hstreamed hconstraints hrouted,
    fields_iff exchange.reads exchange.topic hkeys hspatial hundeclared hasked hnotified]
  unfold Exchange.FieldsWanted Exchange.SpatialPasses
  rw [hstreamed, hheaders]

theorem Exchange.passes_iff (hlaws : GeoLaws lib.geo)
    (hreads : ReadsGeometries lib exchange.wanted.identifier exchange.notification.identifier) :
    exchange.Passes ↔ exchange.Requested := by
  obtain ⟨stored, streamed, hnotified, hasked, hheaders, hstreamed, hpasses⟩ :=
    exchange.exists_identifiers
  have hspatial := validate_spatial exchange.accepted exchange.declared
  have hundeclared := notify_pointUndeclared exchange.notified hnotified
  have hgeometry := matchesSpatialFilters_iff hlaws exchange.message.payload hreads
    (hnotified.shape hspatial)
    (hasked.shape hspatial hundeclared (streamingContext_oneFilter exchange.streamed))
  rw [hpasses]
  unfold Exchange.SpatialPasses
  rw [hstreamed, hheaders, hgeometry]
  constructor
  · exact fun ⟨hfields, hwanted⟩ => ⟨hfields, hwanted⟩
  · exact fun hrequested => ⟨hrequested.fields, hrequested.spatial⟩

end Stages

/-! ## 3. What is delivered is what is asked for -/

/-- A stored message passes both stages exactly when the request asks for its notification: for each
scalar field, the same canonical value, no value or a wildcard, or a constraint that the stored value
satisfies; and the spatial filter. Schemas that differ in their topics only let the same
notifications through. -/
theorem passes_iff_requested (lib : Libraries) (hlaws : GeoLaws lib.geo) (exchange : Exchange lib)
    (hreads : ReadsGeometries lib exchange.wanted.identifier exchange.notification.identifier) :
    (exchange.Passes ↔ exchange.Requested) ∧
      ∀ other : Exchange lib, other.schema.identifier = exchange.schema.identifier →
        other.wanted.identifier = exchange.wanted.identifier →
        other.notification.identifier = exchange.notification.identifier →
        (other.Passes ↔ exchange.Passes) := by
  have hpasses := exchange.passes_iff hlaws hreads
  refine ⟨hpasses, ?_⟩
  intro other hidentifier hwanted hnotification
  have hreadsOther : ReadsGeometries lib other.wanted.identifier
      other.notification.identifier := by
    rw [hwanted, hnotification]
    exact hreads
  rw [other.passes_iff hlaws hreadsOther, hpasses]
  unfold Exchange.Requested
  rw [hidentifier, hwanted, hnotification]

/-! ## 4. A stored value that is empty -/

-- an enumeration that has the empty text among its values
def classEnumeration : HashMap IdentifierFieldConfig :=
  AList.singleton "class" ⟨.enumHandler ["", "od"] false⟩

def enumerationSchema : EventSchema where
  payload := none
  topic := some { base := "mars", keyOrder := ["class"] }
  identifier := classEnumeration
  storagePolicy := none
  auth := none

def enumerationSettings : Settings where
  applicationPort := 8000
  notificationBackend := { kind := "in_memory", retentionPolicy := none }
  notificationSchema := some (AList.singleton "mars" enumerationSchema)
  notificationSchemaStrict := none
  auth := AuthSettings.default
  metrics := { enabled := false, port := none }

def enumerationRequest (value : Json) : NotificationRequest :=
  { bareRequest "mars" with identifier := AList.singleton "class" value }

-- bounding rectangles by way of the text of a stored box; no input below has a geometry
def boxLibraries : Libraries :=
  { plainLibraries with
    geo :=
      { plainGeo with
        boundingRect := fun polygon =>
          storedBox plainGeo (polygon.map fun point => (point.y, point.x)) } }

theorem boxLibraries_laws : GeoLaws boxLibraries.geo where
  rectNew := plainGeo_rectLaws.rectNew
  rectIntersects := plainGeo_rectLaws.rectIntersects
  boundingRect polygon hnonempty hfinite := by
    have hcoordinates : ∀ coordinate ∈ polygon.map fun point => (point.y, point.x),
        FiniteCoordinate coordinate := by
      intro coordinate hmem
      obtain ⟨point, hpoint, rfl⟩ := List.mem_map.mp hmem
      exact ⟨(hfinite point hpoint).2, (hfinite point hpoint).1⟩
    obtain ⟨rect, hrect, hcovers⟩ :=
      storedBox_covers plainGeo_rectLaws (by simpa using hnonempty) hcoordinates
    refine ⟨rect, hrect, ?_⟩
    intro point hpoint
    exact hcovers (point.y, point.x) (List.mem_map_of_mem hpoint)
  intersects _ _ _ _ _ _ _ _ hmeets := by cases hmeets
  intersectsPoint _ _ _ _ _ _ hmeets := by cases hmeets
  contains _ _ _ _ _ _ hinside := by cases hinside

def enumerationMessage (topic : String) : NotificationMessage where
  sequence := 1
  topic := topic
  payload := "null"
  timestamp := some 5
  metadata := none

theorem enumerationSettings_accepted :
    enumerationSettings.validate boxLibraries.debugStrings false = .ok () := by
  decide +kernel

/-- A class, and a watch for it by a constraint. -/
def enumerationExchange (value topic : String) {stored : ProcessingResult}
    {context : StreamingRequestContext}
    (hnotified : notify boxLibraries enumerationSettings none (enumerationRequest (.string value)) =
      .ok stored)
    (hput : (notificationPut boxLibraries (enumerationRequest (.string value)) stored).Stored
      (enumerationMessage topic))
    (hstreamed : watch boxLibraries enumerationSettings none
      (enumerationRequest (.object [("eq", .string value)])) = .ok context) :
    Exchange boxLibraries where
  settings := enumerationSettings
  ecpds := false
  accepted := enumerationSettings_accepted
  notification := enumerationRequest (.string value)
  notifier := none
  stored := stored
  notified := hnotified
  message := enumerationMessage topic
  put := hput
  schema := enumerationSchema
  declared := rfl
  topicConfig := { base := "mars", keyOrder := ["class"] }
  topic := rfl
  wanted := enumerationRequest (.object [("eq", .string value)])
  sameType := rfl
  reader := none
  operation := .watch
  reads := by decide
  context := context
  streamed := hstreamed

theorem enumeration_canonical (value : String) (hvalue : value ∈ ["", "od"]) :
    CanonicalText boxLibraries (enumerationRequest (.string value)).identifier
      ⟨"class", ⟨.enumHandler ["", "od"] false⟩⟩ (some value) := by
  simp only [List.mem_cons, List.not_mem_nil, or_false] at hvalue
  rcases hvalue with rfl | rfl <;> exact ⟨_, _, rfl, rfl, by decide⟩

theorem enumeration_reads (value : String) : ReadsGeometries boxLibraries
    (enumerationRequest (.object [("eq", .string value)])).identifier
    (enumerationRequest (.string value)).identifier where
  polygon _ h := absurd rfl h.ne_none
  pointCloud _ h := by
    obtain ⟨_, _, hcloud, -⟩ := h
    cases hcloud

theorem passes_iff_requested_class : ∃ exchange : Exchange boxLibraries,
    exchange.notification = enumerationRequest (.string "od") ∧
      exchange.wanted = enumerationRequest (.object [("eq", .string "od")]) ∧
      exchange.Requested ∧ exchange.Passes := by
  obtain ⟨exchange, hnotification, hwanted, hidentifier⟩ : ∃ exchange : Exchange boxLibraries,
      exchange.notification = enumerationRequest (.string "od") ∧
        exchange.wanted = enumerationRequest (.object [("eq", .string "od")]) ∧
        exchange.schema.identifier = classEnumeration :=
    ⟨enumerationExchange "od" "mars.od" rfl ⟨by decide +kernel, rfl, rfl⟩ rfl, rfl, rfl, rfl⟩
  have hrequested : exchange.Requested := by
    unfold Exchange.Requested
    rw [hnotification, hwanted, hidentifier]
    refine ⟨?_, .unfiltered rfl rfl⟩
    intro field hfield _
    rw [List.mem_singleton.mp (show field ∈ [_] from hfield)]
    exact .constraint rfl rfl rfl (enumeration_canonical "od" (by decide))
      ⟨by decide, by decide, by decide +kernel⟩
  have hreads : ReadsGeometries boxLibraries exchange.wanted.identifier
      exchange.notification.identifier := by
    rw [hnotification, hwanted]
    exact enumeration_reads "od"
  exact ⟨exchange, hnotification, hwanted, hrequested,
    (passes_iff_requested boxLibraries boxLibraries_laws exchange hreads).1.mpr hrequested⟩

/-- The empty class satisfies the constraint that is on the only field, there is no geometry, and
the message does not pass. -/
theorem emptyClass_dropped {exchange : Exchange boxLibraries}
    (hidentifier : exchange.schema.identifier = classEnumeration)
    (hnotification : exchange.notification = enumerationRequest (.string ""))
    (hwanted : exchange.wanted = enumerationRequest (.object [("eq", .string "")])) :
    ¬ exchange.Passes := by
  have hreads : ReadsGeometries boxLibraries exchange.wanted.identifier
      exchange.notification.identifier := by
    rw [hnotification, hwanted]
    exact enumeration_reads ""
  rw [exchange.passes_iff boxLibraries_laws hreads]
  intro hrequested
  unfold Exchange.Requested at hrequested
  rw [hnotification, hwanted, hidentifier] at hrequested
  cases hrequested.fields ⟨"class", ⟨.enumHandler ["", "od"] false⟩⟩ List.mem_cons_self rfl with
  | omitted hnone => cases hnone
  | scalar hvalue hobject _ _ =>
    cases hvalue
    cases hobject
  | constraint _ _ _ hcanonical hholds =>
    -- the stored value is the empty text, which counts as omitted
    have hempty := hcanonical.unique (enumeration_canonical "" (by decide))
    exact hholds.1 (Option.some.inj hempty)

/-! ## 5. A point cloud that reads back beside itself -/

-- two neighbours: `serde_json` prints the first as 9.854198754330001 and reads that as the second
def printedLongitude : F64 := .finite false ⟨4621737038784512825, by decide⟩

def readLongitude : F64 := .finite false ⟨4621737038784512824, by decide⟩

def printedPoint : Coordinate := (.ofInt 0, printedLongitude)

def readPoint : Coordinate := (.ofInt 0, readLongitude)

def westPoint : Coordinate := (.ofInt 0, .ofInt (-1))

/-- A triangle with the point that is read for its eastern vertex. -/
def triangle : List Coordinate :=
  [(.ofInt 0, .ofInt 0), readPoint, (.ofInt 1, .ofInt 0), (.ofInt 0, .ofInt 0)]

def triangleText : String := "[[0.0,0.0],[0.0,9.85419875433],[1.0,0.0],[0.0,0.0]]"

def onePointText : String := "[[0.0,9.854198754330001]]"

def twoPointsText : String := "[[0.0,9.854198754330001],[0.0,-1.0]]"

-- of the points here, the triangle meets those that are its vertices
def driftLibraries : Libraries :=
  { boxLibraries with
    jsonToString := fun value =>
      match value with
      | .array [.array _] => onePointText
      | .array [.array _, .array _] => twoPointsText
      | .array _ => triangleText
      | _ => "null"
    jsonFromStr := fun text =>
      if text = onePointText then .ok (coordinatesArray [readPoint])
      else if text = twoPointsText then .ok (coordinatesArray [readPoint, westPoint])
      else if text = triangleText then .ok (coordinatesArray triangle)
      else boxLibraries.jsonFromStr text
    geo := { boxLibraries.geo with intersectsPoint := fun p point => point ∈ p } }

theorem driftLibraries_laws : GeoLaws driftLibraries.geo where
  rectNew := boxLibraries_laws.rectNew
  rectIntersects := boxLibraries_laws.rectIntersects
  boundingRect := boxLibraries_laws.boundingRect
  intersects _ _ _ _ _ _ _ _ hmeets := by cases hmeets
  intersectsPoint p a point _ _ _ hmeets hpa := hpa point (of_decide_eq_true hmeets)
  contains _ _ _ _ _ _ hinside := by cases hinside

def cloudSchema : EventSchema where
  payload := none
  topic := some { base := "cloud", keyOrder := ["class"] }
  identifier := (AList.singleton "class" ⟨.enumHandler ["od"] false⟩).insert "point_cloud"
    ⟨.pointCloudHandler true 10⟩
  storagePolicy := none
  auth := none

def cloudSettings : Settings :=
  { enumerationSettings with
    notificationSchema := some (AList.singleton "cloud" cloudSchema) }

def cloudRequest (points : List Coordinate) : NotificationRequest :=
  { bareRequest "cloud" with
    identifier := (AList.singleton "class" (.string "od")).insert "point_cloud"
      (coordinatesArray points) }

def triangleRequest : NotificationRequest :=
  { bareRequest "cloud" with
    identifier := AList.singleton "polygon" (coordinatesArray triangle) }

theorem cloudSettings_accepted :
    cloudSettings.validate driftLibraries.debugStrings false = .ok () := by
  decide +kernel

/-- A point cloud, and a watch for what meets the triangle. -/
theorem exists_cloudExchange (points : List Coordinate)
    (hnotified : (notify driftLibraries cloudSettings none (cloudRequest points)).isOk = true) :
    ∃ exchange : Exchange driftLibraries, exchange.notification = cloudRequest points ∧
      exchange.wanted = triangleRequest ∧ exchange.schema = cloudSchema := by
  obtain ⟨stored, hstored⟩ := exists_of_isOk hnotified
  obtain ⟨context, hcontext⟩ : ∃ context,
      watch driftLibraries cloudSettings none triangleRequest = .ok context :=
    exists_of_isOk (by decide +kernel)
  let put := notificationPut driftLibraries (cloudRequest points) stored
  let message : NotificationMessage :=
    { sequence := 1
      topic := put.topic
      payload := put.payload
      timestamp := some 5
      metadata := put.headers }
  exact ⟨{
    settings := cloudSettings
    ecpds := false
    accepted := cloudSettings_accepted
    notification := cloudRequest points
    notifier := none
    stored := stored
    notified := hstored
    message := message
    put := ⟨rfl, rfl, rfl⟩
    schema := cloudSchema
    declared := rfl
    topicConfig := { base := "cloud", keyOrder := ["class"] }
    topic := rfl
    wanted := triangleRequest
    sameType := rfl
    reader := none
    operation := .watch
    reads := by decide
    context := context
    streamed := hcontext }, rfl, rfl, rfl⟩

theorem drift_geometry :
    (∀ coordinate ∈ [printedPoint, westPoint] ++ triangle, ValidCoordinate coordinate) ∧
      PolygonHandler.validatePolygonGeometry triangle = .ok () := by
  unfold ValidCoordinate
  decide +kernel

theorem triangle_valid : ∀ coordinate ∈ triangle, ValidCoordinate coordinate :=
  fun coordinate hmem => drift_geometry.1 coordinate (List.mem_append_right _ hmem)

theorem triangle_hasPolygon : HasPolygon driftLibraries triangleRequest.identifier triangle :=
  ⟨coordinatesArray triangle, rfl,
    polygon_canonical_again driftLibraries "polygon" triangle_valid drift_geometry.2⟩

theorem triangle_prints : PrintsAndReads driftLibraries (coordinatesArray triangle) where
  reads := by
    show (if triangleText = onePointText then .ok (coordinatesArray [readPoint])
      else if triangleText = twoPointsText then .ok (coordinatesArray [readPoint, westPoint])
      else if triangleText = triangleText then .ok (coordinatesArray triangle)
      else boxLibraries.jsonFromStr triangleText) = Except.ok (coordinatesArray triangle)
    rw [if_neg (by decide), if_neg (by decide), if_pos rfl]
  nonempty := by decide
  brackets _ _ := ⟨"[0.0,0.0],[0.0,9.85419875433],[1.0,0.0],[0.0,0.0]", by decide⟩

theorem triangle_read : PolygonRead driftLibraries triangleRequest.identifier triangle :=
  ⟨triangle, triangle_hasPolygon, parsePolygonCoordinates_printed triangle_valid triangle_prints⟩

theorem cloudRequest_reads {points read : List Coordinate}
    (hcloud : HasPointCloud driftLibraries (cloudRequest points).identifier points)
    (hread : readPointCloud driftLibraries (driftLibraries.jsonToString (coordinatesArray points)) =
      some read) :
    ReadsGeometries driftLibraries triangleRequest.identifier (cloudRequest points).identifier where
  polygon sent hsent := by
    rw [hsent.unique triangle_hasPolygon]
    exact triangle_prints.readsPolygon triangle_valid (by decide)
  pointCloud sent hsent := by
    rw [hsent.unique hcloud]
    exact ⟨read, hread⟩

/-- The boxes of a point cloud and of a ring tell whether they meet. -/
theorem cloudBoxMeets_iff {lib : Libraries} {params : HashMap Json} {first : Coordinate}
    {rest ring : List Coordinate} {box : Rect} (hcloud : HasPointCloud lib params (first :: rest))
    (hbox : lib.geo.boundingRect (geoPolygon ring) = some box) :
    CloudBoxMeets lib params ring ↔ lib.geo.rectIntersects
      ((rest.foldl Bounds.add (.ofCoordinate first)).rect lib.geo) box = true := by
  have hstored := storedBox_cons lib.geo first rest
  constructor
  · intro ⟨sent, bbox, box', hsent, hbbox, hbox', hmeets⟩
    rw [hsent.unique hcloud, hstored, Option.some.injEq] at hbbox
    rw [hbox, Option.some.injEq] at hbox'
    rw [hbbox, hbox']
    exact hmeets
  · exact fun hmeets => ⟨_, _, box, hcloud, hstored, hbox, hmeets⟩

def triangleBox : Rect :=
  plainGeo.rectNew ⟨.ofInt 0, .ofInt 0⟩ ⟨readLongitude, .ofInt 1⟩

theorem driftLibraries_boundingRect (ring : List Coordinate) :
    driftLibraries.geo.boundingRect (geoPolygon ring) = storedBox plainGeo ring := by
  show storedBox plainGeo ((geoPolygon ring).map fun point => (point.y, point.x)) = _
  unfold geoPolygon
  rw [List.map_map]
  exact congrArg _ (List.map_id ring)

theorem triangle_box :
    driftLibraries.geo.boundingRect (geoPolygon triangle) = some triangleBox := by
  rw [driftLibraries_boundingRect, triangle, storedBox_cons, Option.some.injEq]
  decide +kernel

theorem twoPoints_valid : ∀ coordinate ∈ [printedPoint, westPoint], ValidCoordinate coordinate :=
  fun coordinate hmem => drift_geometry.1 coordinate (List.mem_append_left _ hmem)

theorem onePoint_valid : ∀ coordinate ∈ [printedPoint], ValidCoordinate coordinate :=
  fun coordinate hmem =>
    twoPoints_valid coordinate (List.mem_singleton.mp hmem ▸ List.mem_cons_self)

/-- Where a vertex of the triangle is read of the points, the boxes decide. -/
theorem cloudExchange_passes_iff {first : Coordinate} {rest points read : List Coordinate}
    (hpoints : points = first :: rest)
    (hvalid : ∀ coordinate ∈ points, ValidCoordinate coordinate) (hcount : points.length ≤ hardMaxPoints)
    (hsize : byteLength (driftLibraries.jsonToString (coordinatesArray points)) ≤
      maxSerializedPointCloudBytes)
    (hread : readPointCloud driftLibraries (driftLibraries.jsonToString (coordinatesArray points)) =
      some read) (hvertex : readPoint ∈ read) {exchange : Exchange driftLibraries}
    (hnotification : exchange.notification = cloudRequest points)
    (hwanted : exchange.wanted = triangleRequest) (hschema : exchange.schema = cloudSchema) :
    exchange.Passes ↔ driftLibraries.geo.rectIntersects
      ((rest.foldl Bounds.add (.ofCoordinate first)).rect driftLibraries.geo) triangleBox = true := by
  subst hpoints
  have hcloud : HasPointCloud driftLibraries (cloudRequest (first :: rest)).identifier
      (first :: rest) :=
    ⟨coordinatesArray (first :: rest), hardMaxPoints, rfl,
      cloud_validate_canonical "point_cloud" hvalid (List.cons_ne_nil _ _) hcount hsize⟩
  have hreads : ReadsGeometries driftLibraries exchange.wanted.identifier
      exchange.notification.identifier := by
    rw [hnotification, hwanted]
    exact cloudRequest_reads hcloud hread
  rw [exchange.passes_iff driftLibraries_laws hreads, ← cloudBoxMeets_iff hcloud triangle_box]
  unfold Exchange.Requested
  rw [hnotification, hwanted, hschema]
  constructor
  · intro hrequested
    cases hrequested.spatial with
    | unfiltered habsent _ => cases habsent
    | polygons hdeclared _ _ _ => exact absurd hdeclared (by decide)
    | pointCloud _ hring _ hmeets _ _ => exact hring.unique triangle_read ▸ hmeets
    | point hdeclared _ _ _ => exact absurd hdeclared (by decide)
  · intro hmeets
    refine ⟨?_, .pointCloud (by decide) triangle_read ⟨_, hcloud, hread⟩ hmeets hvertex
      (by decide +kernel)⟩
    intro field hfield hscalar
    -- the only scalar field is the class, which the watch omits
    rcases List.mem_cons.mp hfield with rfl | hfield
    · cases hscalar
    · rw [List.mem_singleton.mp hfield]
      exact .omitted rfl

/-- A constraint that holds of the stored value does not let an empty value pass; two points that
both miss the polygon pass, because one is read as a vertex; and a point that is read as a vertex
does not pass alone, because the box stored with it is that of the point as sent. -/
theorem passes_unlike_sent :
    (∃ (exchange : Exchange boxLibraries) (constraint : IdentifierConstraint),
      exchange.schema.identifier = classEnumeration ∧
        exchange.notification = enumerationRequest (.string "") ∧
        exchange.wanted = enumerationRequest (.object [("eq", .string "")]) ∧
        exchange.stored.canonicalizedParams.get "class" = some "" ∧
        exchange.context.result.identifierConstraints = AList.singleton "class" constraint ∧
        matchesConstraintValue boxLibraries "" constraint = true ∧ ¬ exchange.Passes) ∧
    (∃ exchange : Exchange driftLibraries,
      exchange.notification = cloudRequest [printedPoint, westPoint] ∧
        exchange.wanted = triangleRequest ∧
        (∀ point ∈ [printedPoint, westPoint],
          driftLibraries.geo.intersectsPoint (geoPolygon triangle) (geoCoord point) = false) ∧
        exchange.Passes) ∧
    ∃ exchange : Exchange driftLibraries,
      exchange.notification = cloudRequest [printedPoint] ∧ exchange.wanted = triangleRequest ∧
        readPointCloud driftLibraries
          (driftLibraries.jsonToString (coordinatesArray [printedPoint])) = some [readPoint] ∧
        driftLibraries.geo.intersectsPoint (geoPolygon triangle) (geoCoord readPoint) = true ∧
        ¬ exchange.Passes := by
  refine ⟨?_, ?_, ?_⟩
  · obtain ⟨exchange, hidentifier, hnotification, hwanted, hstored, hconstraints⟩ :
        ∃ exchange : Exchange boxLibraries,
          exchange.schema.identifier = classEnumeration ∧
            exchange.notification = enumerationRequest (.string "") ∧
            exchange.wanted = enumerationRequest (.object [("eq", .string "")]) ∧
            exchange.stored.canonicalizedParams.get "class" = some "" ∧
            exchange.context.result.identifierConstraints =
              AList.singleton "class" (.enum (.eq "")) :=
      ⟨enumerationExchange "" "mars." rfl ⟨by decide +kernel, rfl, rfl⟩ rfl, rfl, rfl, rfl, rfl, rfl⟩
    exact ⟨exchange, _, hidentifier, hnotification, hwanted, hstored, hconstraints,
      by decide +kernel, emptyClass_dropped hidentifier hnotification hwanted⟩
  · obtain ⟨exchange, hnotification, hwanted, hschema⟩ :=
      exists_cloudExchange [printedPoint, westPoint] (by decide +kernel)
    have hread : readPointCloud driftLibraries
        (driftLibraries.jsonToString (coordinatesArray [printedPoint, westPoint])) =
        some [readPoint, westPoint] := by decide +kernel
    exact ⟨exchange, hnotification, hwanted, by decide +kernel,
      (cloudExchange_passes_iff rfl twoPoints_valid (by decide) (by decide +kernel) hread
        List.mem_cons_self hnotification hwanted hschema).mpr (by decide +kernel)⟩
  · obtain ⟨exchange, hnotification, hwanted, hschema⟩ :=
      exists_cloudExchange [printedPoint] (by decide +kernel)
    have hread : readPointCloud driftLibraries
        (driftLibraries.jsonToString (coordinatesArray [printedPoint])) = some [readPoint] := by
      decide +kernel
    refine ⟨exchange, hnotification, hwanted, hread, by decide +kernel, ?_⟩
    rw [cloudExchange_passes_iff rfl onePoint_valid (by decide) (by decide +kernel) hread
      List.mem_cons_self hnotification hwanted hschema]
    decide +kernel

end AvisoServer
