import AvisoServer.Routes.RequestedMessages

/-!
# Filters without boxes

The box of a stored geometry only spares work: without the tests on boxes, the second stage gives
the same answer for every stored message.
-/

namespace AvisoServer

/-! ## 1. The second stage without boxes -/

section Unboxed

variable (lib : Libraries)

def matchesPointSpatialFilterUnboxed (requestPoint : String) (metadata : Option (HashMap String))
    (payload : String) : Bool :=
  match PointHandler.parsePointCoordinates lib requestPoint with
  | .error _ => false
  | .ok point =>
    (extractCandidatePolygon lib metadata payload).any fun candidatePoly =>
      lib.geo.contains candidatePoly (geoCoord point)

def matchesPolygonSpatialFilterUnboxed (filter : PreparedSpatialFilter)
    (metadata : Option (HashMap String)) (payload : String) : Bool :=
  match extractCandidatePointCloud lib metadata with
  | some pointCloud =>
    pointCloud.any fun point => lib.geo.intersectsPoint filter.polygon (geoCoord point)
  | none =>
    (extractCandidatePolygon lib metadata payload).any fun candidatePoly =>
      lib.geo.intersects candidatePoly filter.polygon

def matchesSpatialFiltersUnboxed (request : HashMap String)
    (preparedSpatialFilter : Option PreparedSpatialFilter) (metadata : Option (HashMap String))
    (payload : String) : Bool :=
  if (request.get "polygon").any (· ≠ "*") && (request.get "point").isSome then false
  else
    match request.get "point", request.get "polygon" with
    | some requestPoint, _ => matchesPointSpatialFilterUnboxed lib requestPoint metadata payload
    | none, none => true
    | none, some requestPolygon =>
      if requestPolygon = "*" then true
      else
        preparedSpatialFilter.any fun filter =>
          matchesPolygonSpatialFilterUnboxed lib filter metadata payload

def matchesNotificationFiltersUnboxed (settings : Settings) (notificationTopic : String)
    (request : HashMap String) (constraints : HashMap IdentifierConstraint)
    (preparedSpatialFilter : Option PreparedSpatialFilter) (metadata : Option (HashMap String))
    (payload : String) : Bool :=
  if constraints.entries ≠ [] && !matchesIdentifierConstraints lib settings notificationTopic constraints
  then false
  else matchesSpatialFiltersUnboxed lib request preparedSpatialFilter metadata payload

end Unboxed

section Stored

variable {lib : Libraries}

/-- The stage is the same when the filter that the request has is. -/
theorem matchesSpatialFilters_unboxed {request : HashMap String}
    {prepared : Option PreparedSpatialFilter} {metadata : Option (HashMap String)}
    {payload : String}
    (hpoint : ∀ requestPoint, request.get "point" = some requestPoint →
      matchesPointSpatialFilter lib requestPoint metadata payload =
        matchesPointSpatialFilterUnboxed lib requestPoint metadata payload)
    (hpolygon : ∀ requestPolygon filter, request.get "polygon" = some requestPolygon →
      requestPolygon ≠ "*" → prepared = some filter →
      matchesPolygonSpatialFilter lib filter metadata payload =
        matchesPolygonSpatialFilterUnboxed lib filter metadata payload) :
    matchesSpatialFilters lib request prepared metadata payload =
      matchesSpatialFiltersUnboxed lib request prepared metadata payload := by
  unfold matchesSpatialFilters matchesSpatialFiltersUnboxed
  -- both matchers reject a request with both filters
  by_cases hboth : ((request.get "polygon").any (· ≠ "*") && (request.get "point").isSome) = true
  · rw [if_pos hboth, if_pos hboth]
  rw [if_neg hboth, if_neg hboth]
  cases hrequestPoint : request.get "point" with
  | some requestPoint => exact hpoint requestPoint hrequestPoint
  | none =>
    cases hrequestPolygon : request.get "polygon" with
    | none => rfl
    | some requestPolygon =>
      by_cases hstar : requestPolygon = "*"
      · simp only [if_pos hstar]
      · simp only [if_neg hstar]
        cases hprepared : prepared with
        | none => rfl
        | some filter => exact hpolygon requestPolygon filter hrequestPolygon hstar hprepared

/-! ## 2. Stored messages -/

/-- The coordinates of the geometry that a message has in its headers. -/
inductive StoredGeometry (lib : Libraries) (metadata : Option (HashMap String)) :
    List Coordinate → Prop where
  | polygon {text : String} {ring : List Coordinate} :
      (metadata.bind fun m => m.get spatialGeometryMetadataKey) = some text →
      PolygonHandler.parsePolygonCoordinates lib text = .ok ring →
      StoredGeometry lib metadata ring
  | pointCloud {points : List Coordinate} :
      extractCandidatePointCloud lib metadata = some points → StoredGeometry lib metadata points

/-- The box of the headers is read as a rectangle that covers the stored coordinates. -/
structure BoxCovers (lib : Libraries) (metadata : Option (HashMap String)) (bbox : Rect) : Prop where
  box : extractCandidateBbox lib metadata = some bbox
  stored : ∃ coordinates, StoredGeometry lib metadata coordinates
  covers : ∀ coordinates, StoredGeometry lib metadata coordinates →
    ∀ coordinate ∈ coordinates, bbox.Covers (geoCoord coordinate)

theorem boxCovers_polygon (hlaws : RectLaws lib.geo) {ring : List Coordinate}
    {text boundingBox : String}
    (hparse : PolygonHandler.parsePolygonCoordinates lib text = .ok ring)
    (hbox : calculateBoundingBoxString ring = .ok boundingBox) :
    ∃ bbox, BoxCovers lib (some (spatialHeaders ⟨boundingBox, .polygon text⟩)) bbox := by
  have hnonempty : ring ≠ [] := by
    rintro rfl
    cases hbox
  obtain ⟨bbox, hbbox, hcovers⟩ := storedBox_covers hlaws hnonempty
    fun coordinate hmem => (parsePolygonCoordinates_valid hparse coordinate hmem).finite
  rw [← extractCandidateBbox_stored ⟨boundingBox, .polygon text⟩ hbox] at hbbox
  have htext := (spatialHeaders_geometry ⟨boundingBox, .polygon text⟩).1
  refine ⟨bbox, hbbox, ⟨ring, .polygon htext hparse⟩, ?_⟩
  intro coordinates hstored
  cases hstored with
  | polygon htext' hparse' =>
    rw [Option.bind_some, htext, Option.some.injEq] at htext'
    rw [← htext', hparse, Except.ok.injEq] at hparse'
    exact hparse' ▸ hcovers
  | pointCloud hcloud =>
    rw [extractCandidatePointCloud_polygon] at hcloud
    cases hcloud

theorem boxCovers_cloud (hlaws : RectLaws lib.geo) {points : List Coordinate}
    {text boundingBox : String} (hvalid : ∀ coordinate ∈ points, ValidCoordinate coordinate)
    (hnonempty : points ≠ []) (hread : readPointCloud lib text = some points)
    (hbox : calculateBoundingBoxString points = .ok boundingBox) :
    ∃ bbox, BoxCovers lib (some (spatialHeaders ⟨boundingBox, .pointCloud text⟩)) bbox := by
  obtain ⟨bbox, hbbox, hcovers⟩ := storedBox_covers hlaws hnonempty
    fun coordinate hmem => (hvalid coordinate hmem).finite
  rw [← extractCandidateBbox_stored ⟨boundingBox, .pointCloud text⟩ hbox] at hbbox
  have hpoints : extractCandidatePointCloud lib
      (some (spatialHeaders ⟨boundingBox, .pointCloud text⟩)) = some points := by
    rw [extractCandidatePointCloud_stored, hread]
  refine ⟨bbox, hbbox, ⟨points, .pointCloud hpoints⟩, ?_⟩
  intro coordinates hstored
  cases hstored with
  | polygon htext _ =>
    rw [Option.bind_some, (spatialHeaders_geometry _).1] at htext
    cases htext
  | pointCloud hcloud =>
    rw [hpoints, Option.some.injEq] at hcloud
    exact hcloud ▸ hcovers

/-- The headers of a notification with a geometry have a box that covers it. -/
theorem NotifiedShape.boxCovers (hlaws : RectLaws lib.geo)
    {identifier : HashMap IdentifierFieldConfig} {wanted notified : HashMap Json}
    {metadata : SpatialMetadata} (hprints : PrintsGeometries lib wanted notified)
    (h : NotifiedShape lib identifier notified (some metadata)) :
    ∃ bbox, BoxCovers lib (some (spatialHeaders metadata)) bbox := by
  cases h with
  | polygon _ _ _ _ hparse hbox => exact boxCovers_polygon hlaws hparse hbox
  | @pointCloud points boundingBox _ _ hpoints hvalid hnonempty hcount hbox =>
    have hread := readPointCloud_printed hvalid hnonempty hcount (hprints.pointCloud points hpoints)
    exact boxCovers_cloud hlaws hvalid hnonempty hread hbox

/-! ## 3. The same answer -/

/-- Against a stored polygon or point cloud, the spatial filter of a stream does not need the box. -/
theorem matchesSpatialFilters_boxFree (hlaws : GeoLaws lib.geo)
    {identifier : HashMap IdentifierFieldConfig} {wanted notified : HashMap Json}
    {metadata : SpatialMetadata} {canonicalized : HashMap String} (payload : String)
    (hprints : PrintsGeometries lib wanted notified)
    (hnotified : NotifiedShape lib identifier notified (some metadata))
    (hstreamed : StreamedShape lib identifier wanted canonicalized) :
    matchesSpatialFilters lib canonicalized (prepareSpatialFilter lib canonicalized)
        (some (spatialHeaders metadata)) payload =
      matchesSpatialFiltersUnboxed lib canonicalized (prepareSpatialFilter lib canonicalized)
        (some (spatialHeaders metadata)) payload := by
  apply matchesSpatialFilters_unboxed
  · intro requestPoint hrequest
    cases hstreamed with
    | unfiltered _ _ hnoPoint _ =>
      rw [hnoPoint] at hrequest
      cases hrequest
    | polygon _ _ _ _ hnoPoint _ =>
      rw [hnoPoint] at hrequest
      cases hrequest
    | @point point hdeclared hpoint hvalid _ htext _ =>
      rw [htext, Option.some.injEq] at hrequest
      subst hrequest
      have hpointParse := parsePointCoordinates_printed hvalid (hprints.wantedPoint point hpoint)
      cases hnotified with
      -- a point asks for a schema with a polygon, which has no point cloud
      | pointCloud _ habsent _ _ _ _ _ => simp [habsent] at hdeclared
      | polygon _ _ _ _ hparse hbox =>
        rw [matchesPointSpatialFilter_polygon hlaws hpointParse hparse hbox]
        unfold matchesPointSpatialFilterUnboxed
        simp only [hpointParse, extractCandidatePolygon_stored hparse, Option.any_some]
  · intro requestPolygon filter hrequest hstar hprepared
    cases hstreamed with
    | unfiltered _ _ _ honly => exact absurd (honly requestPolygon hrequest) hstar
    | point _ _ _ _ _ honly =>
      rw [honly, Option.some.injEq] at hrequest
      exact absurd hrequest.symm hstar
    | @polygon ring hring hvalid hnonempty _ _ htext =>
      have hringParse := parsePolygonCoordinates_printed hvalid (hprints.wantedPolygon ring hring)
      have hringText : lib.jsonToString (coordinatesArray ring) = requestPolygon := by
        rw [htext, Option.some.injEq] at hrequest
        exact hrequest
      obtain ⟨box, -, hbox, hcovers⟩ :=
        prepareSpatialFilter_ring hlaws hringParse hnonempty (hringText ▸ hstar) htext
      rw [hbox, Option.some.injEq] at hprepared
      subst hprepared
      cases hnotified with
      | polygon _ _ _ _ hparse hcandidateBox =>
        rw [matchesPolygonSpatialFilter_polygon hlaws hvalid hnonempty hparse hcandidateBox hcovers]
        unfold matchesPolygonSpatialFilterUnboxed
        simp only [extractCandidatePointCloud_polygon, extractCandidatePolygon_stored hparse,
          Option.any_some]
      | @pointCloud points boundingBox _ _ hpoints hpointsValid hpointsNonempty hcount hpointsBox =>
        have hread := readPointCloud_printed hpointsValid hpointsNonempty hcount
          (hprints.pointCloud points hpoints)
        obtain ⟨bbox, hbbox, hbboxCovers⟩ := storedBox_covers hlaws.toRectLaws hpointsNonempty
          fun coordinate hmem => (hpointsValid coordinate hmem).finite
        rw [matchesPolygonSpatialFilter_cloud hread hpointsBox hbbox]
        unfold matchesPolygonSpatialFilterUnboxed
        simp only [extractCandidatePointCloud_stored, hread]
        rw [Bool.and_eq_right_iff_imp, List.any_eq_true]
        -- the box covers what is read of the cloud, so a hit lies in both boxes
        intro ⟨point, hmem, hhit⟩
        exact rectIntersects_of_hit hlaws hvalid hnonempty (hpointsValid point hmem)
          (hbboxCovers point hmem) hcovers hhit

/-- For every message stored for a schema with a geometry, and every watch or replay of its event
type, the second stage gives the answer that it gives without boxes; and the box of the message is
read as a rectangle that covers every stored coordinate. -/
theorem boxes_optional (hlaws : GeoLaws lib.geo) {debugStrings : List String → String}
    {ecpds : Bool} {settings : Settings} (haccepted : settings.validate debugStrings ecpds = .ok ())
    {notifier reader : Option User} {notification wanted : NotificationRequest}
    {stored : ProcessingResult} (hnotify : notify lib settings notifier notification = .ok stored)
    {message : NotificationMessage} (hput : (notificationPut lib notification stored).Stored message)
    {schema : EventSchema} (hschema : settings.schemaOf notification.eventType = some schema)
    (hgeometry : ∃ field ∈ schema.identifier.entries, field.2.rule.isSpatial = true)
    (hsame : wanted.eventType = notification.eventType) {operation : OperationType}
    (hoperation : operation ≠ .notify) {context : StreamingRequestContext}
    (hcontext : streamingContext lib settings reader wanted operation = .ok context)
    (hprints : PrintsGeometries lib wanted.identifier notification.identifier) :
    matchesNotificationFiltersPrepared lib settings message.topic context.result.canonicalizedParams
          context.result.identifierConstraints
          (prepareSpatialFilter lib context.result.canonicalizedParams) message.metadata
          message.payload =
        matchesNotificationFiltersUnboxed lib settings message.topic
          context.result.canonicalizedParams context.result.identifierConstraints
          (prepareSpatialFilter lib context.result.canonicalizedParams) message.metadata
          message.payload ∧
      ∃ bbox, BoxCovers lib message.metadata bbox := by
  have hspatial := validate_spatial haccepted hschema
  obtain ⟨identifier, hnotified, -, -, hmetadata⟩ :=
    processRequest_notify hschema (notify_eq_ok hnotify).2
  obtain ⟨streamed, hstreamed, -, hparams, -⟩ :=
    processRequest_streaming hoperation (hsame ▸ hschema) (streamingContext_eq_ok hcontext).2
  have hundeclared := notify_pointUndeclared hnotify hnotified
  have hnotifiedShape := hnotified.shape hspatial
  have hstreamedShape := hstreamed.shape hspatial hundeclared (streamingContext_oneFilter hcontext)
  -- a schema with a geometry stores metadata
  obtain ⟨metadata, hsome⟩ : ∃ metadata, identifier.spatialMetadata = some metadata := by
    obtain ⟨field, hfield, hrule⟩ := hgeometry
    rcases hnotified.geometry with ⟨hscalar, -⟩ | ⟨-, -, -, metadata, hsome, -⟩
    · rw [hscalar field hfield] at hrule
      cases hrule
    · exact ⟨metadata, hsome⟩
  rw [hsome] at hnotifiedShape
  have hheaders : message.metadata = some (spatialHeaders metadata) := by
    rw [hput.metadata]
    show stored.spatialMetadata.map spatialHeaders = _
    rw [hmetadata, hsome]
    rfl
  rw [hheaders, hparams]
  refine ⟨?_, hnotifiedShape.boxCovers hlaws.toRectLaws hprints⟩
  unfold matchesNotificationFiltersPrepared matchesNotificationFiltersUnboxed
  rw [matchesSpatialFilters_boxFree hlaws message.payload hprints hnotifiedShape hstreamedShape]

end Stored

/-! ## 4. A square -/

-- a closed ring, and libraries in which two rings meet when they are equal
def square : List Coordinate :=
  [(.ofInt 0, .ofInt 0), (.ofInt 0, .ofInt 1), (.ofInt 1, .ofInt 1), (.ofInt 0, .ofInt 0)]

def squareText : String :=
  "[[0.0,0.0],[0.0,1.0],[1.0,1.0],[0.0,0.0]]"

def squareLibraries : Libraries :=
  { boxLibraries with
    jsonToString := fun value =>
      match value with
      | .array [.number _, .number _] => "[0.0,0.0]"
      | .array _ => squareText
      | _ => "null"
    jsonFromStr := fun text =>
      if text = squareText then .ok (coordinatesArray square) else boxLibraries.jsonFromStr text
    geo :=
      { boxLibraries.geo with
        intersects := fun p q => p = q
        intersectsPoint := fun p point => point ∈ p } }

theorem squareLibraries_laws : GeoLaws squareLibraries.geo where
  rectNew := boxLibraries_laws.rectNew
  rectIntersects := boxLibraries_laws.rectIntersects
  boundingRect := boxLibraries_laws.boundingRect
  intersects p q a b hp _ _ _ hmeets hpa hqb := by
    obtain ⟨point, hpoint⟩ := List.exists_mem_of_ne_nil p hp
    have heq : p = q := of_decide_eq_true hmeets
    exact boxLibraries_laws.rectIntersects a b point (hpa point hpoint)
      (hqb point (heq ▸ hpoint))
  intersectsPoint p a point _ _ _ hmeets hpa := hpa point (of_decide_eq_true hmeets)
  contains _ _ _ _ _ _ hinside := by cases hinside

theorem square_geometry : (∀ coordinate ∈ square, ValidCoordinate coordinate) ∧
    PolygonHandler.validatePolygonGeometry square = .ok () := by
  unfold ValidCoordinate
  decide +kernel

theorem square_prints : PrintsAndReads squareLibraries (coordinatesArray square) where
  reads := by
    show (if squareText = squareText then .ok (coordinatesArray square)
      else boxLibraries.jsonFromStr squareText) = Except.ok (coordinatesArray square)
    exact if_pos rfl
  nonempty := by decide
  brackets _ _ := ⟨"[0.0,0.0],[0.0,1.0],[1.0,1.0],[0.0,0.0]", by decide⟩

/-- A schema with a polygon, and a topic or none. -/
def areaSchema (topic : Option TopicConfig) : EventSchema where
  payload := none
  topic := topic
  identifier := AList.singleton "polygon" ⟨.polygonHandler true⟩
  storagePolicy := none
  auth := none

def areaSettings (topic : Option TopicConfig) : Settings :=
  { enumerationSettings with
    notificationSchema := some (AList.singleton "area" (areaSchema topic)) }

def areaTopic : TopicConfig where
  base := "area"
  keyOrder := ["polygon"]

def areaRequest (identifier : HashMap Json) : NotificationRequest :=
  { bareRequest "area" with identifier := identifier }

def squareRequest : NotificationRequest :=
  areaRequest (AList.singleton "polygon" (coordinatesArray square))

theorem areaSettings_accepted :
    (areaSettings (some areaTopic)).validate squareLibraries.debugStrings false = .ok () := by
  decide +kernel

theorem square_hasPolygon : HasPolygon squareLibraries squareRequest.identifier square :=
  ⟨coordinatesArray square, rfl,
    polygon_canonical_again squareLibraries "polygon" square_geometry.1 square_geometry.2⟩

theorem square_printsGeometries :
    PrintsGeometries squareLibraries squareRequest.identifier squareRequest.identifier where
  wantedPolygon ring h := by
    rw [h.unique square_hasPolygon]
    exact square_prints
  wantedPoint _ h := absurd rfl h.ne_none
  polygon ring h := by
    rw [h.unique square_hasPolygon]
    exact square_prints
  pointCloud _ h := by
    obtain ⟨_, _, hcloud, -⟩ := h
    cases hcloud

theorem boxes_optional_square : ∃ (stored : ProcessingResult) (context : StreamingRequestContext)
    (message : NotificationMessage),
    notify squareLibraries (areaSettings (some areaTopic)) none squareRequest = .ok stored ∧
      watch squareLibraries (areaSettings (some areaTopic)) none squareRequest = .ok context ∧
      (notificationPut squareLibraries squareRequest stored).Stored message ∧
      ∃ bbox, BoxCovers squareLibraries message.metadata bbox := by
  obtain ⟨stored, hstored⟩ : ∃ stored,
      notify squareLibraries (areaSettings (some areaTopic)) none squareRequest = .ok stored :=
    exists_of_isOk (by decide +kernel)
  obtain ⟨context, hcontext⟩ : ∃ context,
      watch squareLibraries (areaSettings (some areaTopic)) none squareRequest = .ok context :=
    exists_of_isOk (by decide +kernel)
  let put := notificationPut squareLibraries squareRequest stored
  let message : NotificationMessage :=
    { sequence := 1
      topic := put.topic
      payload := put.payload
      timestamp := some 5
      metadata := put.headers }
  have hput : put.Stored message := ⟨rfl, rfl, rfl⟩
  have hdeclared : (areaSettings (some areaTopic)).schemaOf squareRequest.eventType =
    some (areaSchema (some areaTopic)) := rfl
  exact ⟨stored, context, message, hstored, hcontext, hput,
    (boxes_optional squareLibraries_laws areaSettings_accepted hstored hput hdeclared
      ⟨_, List.mem_singleton_self _, rfl⟩ rfl (by decide) hcontext square_printsGeometries).2⟩

end AvisoServer
