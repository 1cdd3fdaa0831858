import AvisoServer.Notification.BoundingBoxes
import AvisoServer.Notification.Storage
import AvisoServer.Notification.Subscriptions

/-!
# The two stages agree with the request

A stored message passes the watch pattern and the filters exactly when the watch or replay asked for
its notification.
-/

namespace AvisoServer

/-! ## 1. Finite polygons -/

theorem geoCoord_finite {coordinate : Coordinate} (h : ValidCoordinate coordinate) :
    (geoCoord coordinate).Finite :=
  ⟨h.finite.2, h.finite.1⟩

theorem geoPolygon_finite {ring : List Coordinate}
    (hvalid : ∀ coordinate ∈ ring, ValidCoordinate coordinate) :
    ∀ point ∈ geoPolygon ring, point.Finite := by
  intro point hpoint
  obtain ⟨coordinate, hmem, rfl⟩ := List.mem_map.mp hpoint
  exact geoCoord_finite (hvalid coordinate hmem)

theorem geoPolygon_ne_nil {ring : List Coordinate} (h : ring ≠ []) : geoPolygon ring ≠ [] := by
  unfold geoPolygon
  simpa using h

/-- A rectangle covers a polygon when it covers its coordinates. -/
theorem geoPolygon_covers {ring : List Coordinate} {rect : Rect}
    (h : ∀ coordinate ∈ ring, rect.Covers (geoCoord coordinate)) :
    ∀ point ∈ geoPolygon ring, rect.Covers point := by
  intro point hpoint
  obtain ⟨coordinate, hmem, rfl⟩ := List.mem_map.mp hpoint
  exact h coordinate hmem

/-! ## 2. Stored geometries -/

theorem spatialHeaders_bbox (metadata : SpatialMetadata) :
    (spatialHeaders metadata).get spatialBboxMetadataKey = some metadata.boundingBox := by
  obtain ⟨boundingBox, geometry⟩ := metadata
  cases geometry with
  | polygon polygon => rfl
  | pointCloud pointCloud => rfl

section Stored

variable {lib : Libraries}

/-- The box of a message with a geometry is the one stored with its coordinates. -/
theorem extractCandidateBbox_stored (metadata : SpatialMetadata) {coordinates : List Coordinate}
    (hbox : calculateBoundingBoxString coordinates = .ok metadata.boundingBox) :
    extractCandidateBbox lib (some (spatialHeaders metadata)) = storedBox lib.geo coordinates := by
  unfold extractCandidateBbox storedBox
  rw [Option.bind_some, spatialHeaders_bbox, hbox]
  rfl

theorem extractCandidatePolygon_stored {ring : List Coordinate} {text boundingBox payload : String}
    (hparse : PolygonHandler.parsePolygonCoordinates lib text = .ok ring) :
    extractCandidatePolygon lib (some (spatialHeaders ⟨boundingBox, .polygon text⟩)) payload =
      some (geoPolygon ring) := by
  have hmetadata : tryPolygonFromMetadata lib (some (spatialHeaders ⟨boundingBox, .polygon text⟩)) =
      some (geoPolygon ring) := by
    unfold tryPolygonFromMetadata parsePolygonGeometryStr
    rw [Option.bind_some, (spatialHeaders_geometry _).1, Option.bind_some, hparse]
    rfl
  unfold extractCandidatePolygon
  rw [hmetadata]

theorem extractCandidatePointCloud_polygon (boundingBox polygon : String) :
    extractCandidatePointCloud lib (some (spatialHeaders ⟨boundingBox, .polygon polygon⟩)) =
      none := by
  unfold extractCandidatePointCloud
  rw [Option.bind_some, (spatialHeaders_geometry _).2]
  rfl

theorem extractCandidatePointCloud_stored (boundingBox text : String) :
    extractCandidatePointCloud lib (some (spatialHeaders ⟨boundingBox, .pointCloud text⟩)) =
      readPointCloud lib text := by
  unfold extractCandidatePointCloud
  rw [Option.bind_some, (spatialHeaders_geometry _).2]
  rfl

/-! ## 3. The spatial filter -/

theorem prepareSpatialFilter_ring (hlaws : GeoLaws lib.geo) {ring : List Coordinate}
    {request : HashMap String} {text : String}
    (hparse : PolygonHandler.parsePolygonCoordinates lib text = .ok ring) (hnonempty : ring ≠ [])
    (hplain : text ≠ "*") (hrequest : request.get "polygon" = some text) :
    ∃ box, lib.geo.boundingRect (geoPolygon ring) = some box ∧
      prepareSpatialFilter lib request = some ⟨geoPolygon ring, box⟩ ∧
      ∀ point ∈ geoPolygon ring, box.Covers point := by
  obtain ⟨box, hbox, hcovers⟩ := hlaws.boundingRect (geoPolygon ring) (geoPolygon_ne_nil hnonempty)
    (geoPolygon_finite (parsePolygonCoordinates_valid hparse))
  refine ⟨box, hbox, ?_, hcovers⟩
  unfold prepareSpatialFilter
  simp only [hrequest, if_neg hplain, hparse, hbox, Except.toOption, Option.bind_eq_bind,
    Option.bind_some]

/-- A polygon against a stored polygon. -/
theorem matchesPolygonSpatialFilter_polygon (hlaws : GeoLaws lib.geo)
    {ring candidate : List Coordinate} {box : Rect} {text boundingBox payload : String}
    (hring : ∀ coordinate ∈ ring, ValidCoordinate coordinate) (hringNonempty : ring ≠ [])
    (hparse : PolygonHandler.parsePolygonCoordinates lib text = .ok candidate)
    (hbox : calculateBoundingBoxString candidate = .ok boundingBox)
    (hcovers : ∀ point ∈ geoPolygon ring, box.Covers point) :
    matchesPolygonSpatialFilter lib ⟨geoPolygon ring, box⟩
      (some (spatialHeaders ⟨boundingBox, .polygon text⟩)) payload =
      lib.geo.intersects (geoPolygon candidate) (geoPolygon ring) := by
  have hnonempty : candidate ≠ [] := by
    rintro rfl
    cases hbox
  have hcandidate := parsePolygonCoordinates_valid hparse
  obtain ⟨bbox, hbbox, hbboxCovers⟩ := storedBox_covers hlaws.toRectLaws hnonempty
    fun coordinate hmem => (hcandidate coordinate hmem).finite
  unfold matchesPolygonSpatialFilter
  rw [extractCandidateBbox_stored _ hbox, hbbox]
  simp only [extractCandidatePointCloud_polygon, extractCandidatePolygon_stored hparse,
    Option.any_some]
  cases hmeets : lib.geo.intersects (geoPolygon candidate) (geoPolygon ring) with
  | false => split <;> rfl
  | true =>
    -- polygons that meet have boxes that meet
    have hboxes := hlaws.intersects _ _ bbox box (geoPolygon_ne_nil hnonempty)
      (geoPolygon_ne_nil hringNonempty) (geoPolygon_finite hcandidate) (geoPolygon_finite hring)
      hmeets (geoPolygon_covers hbboxCovers) hcovers
    rw [hboxes]
    rfl

/-- A polygon against a stored point cloud: the box is that of the points as sent. -/
theorem matchesPolygonSpatialFilter_cloud {ring sent points : List Coordinate} {bbox box : Rect}
    {text boundingBox payload : String} (hread : readPointCloud lib text = some points)
    (hbox : calculateBoundingBoxString sent = .ok boundingBox)
    (hbbox : storedBox lib.geo sent = some bbox) :
    matchesPolygonSpatialFilter lib ⟨geoPolygon ring, box⟩
      (some (spatialHeaders ⟨boundingBox, .pointCloud text⟩)) payload =
      (lib.geo.rectIntersects bbox box &&
        points.any fun point => lib.geo.intersectsPoint (geoPolygon ring) (geoCoord point)) := by
  unfold matchesPolygonSpatialFilter
  rw [extractCandidateBbox_stored _ hbox, hbbox]
  simp only [extractCandidatePointCloud_stored, hread]
  cases lib.geo.rectIntersects bbox box with
  | true => rfl
  | false => rfl

/-- A point of the cloud that is hit lies in both boxes, if the box of the cloud covers it. -/
theorem rectIntersects_of_hit (hlaws : GeoLaws lib.geo) {ring : List Coordinate}
    {point : Coordinate} {bbox box : Rect}
    (hring : ∀ coordinate ∈ ring, ValidCoordinate coordinate) (hringNonempty : ring ≠ [])
    (hpoint : ValidCoordinate point) (hcovered : bbox.Covers (geoCoord point))
    (hcovers : ∀ point ∈ geoPolygon ring, box.Covers point)
    (hhit : lib.geo.intersectsPoint (geoPolygon ring) (geoCoord point) = true) :
    lib.geo.rectIntersects bbox box = true :=
  hlaws.rectIntersects bbox box (geoCoord point) hcovered
    (hlaws.intersectsPoint _ box (geoCoord point) (geoPolygon_ne_nil hringNonempty)
      (geoPolygon_finite hring) (geoCoord_finite hpoint) hhit hcovers)

/-- A point against a stored polygon. -/
theorem matchesPointSpatialFilter_polygon (hlaws : GeoLaws lib.geo) {point : Coordinate}
    {candidate : List Coordinate} {pointText text boundingBox payload : String}
    (hpoint : PointHandler.parsePointCoordinates lib pointText = .ok point)
    (hparse : PolygonHandler.parsePolygonCoordinates lib text = .ok candidate)
    (hbox : calculateBoundingBoxString candidate = .ok boundingBox) :
    matchesPointSpatialFilter lib pointText
      (some (spatialHeaders ⟨boundingBox, .polygon text⟩)) payload =
      lib.geo.contains (geoPolygon candidate) (geoCoord point) := by
  have hnonempty : candidate ≠ [] := by
    rintro rfl
    cases hbox
  have hcandidate := parsePolygonCoordinates_valid hparse
  obtain ⟨bbox, hbbox, hbboxCovers⟩ := storedBox_covers hlaws.toRectLaws hnonempty
    fun coordinate hmem => (hcandidate coordinate hmem).finite
  unfold matchesPointSpatialFilter
  rw [hpoint]
  simp only [extractCandidateBbox_stored ⟨boundingBox, .polygon text⟩ hbox, hbbox,
    extractCandidatePolygon_stored hparse, Option.any_some]
  cases hinside : lib.geo.contains (geoPolygon candidate) (geoCoord point) with
  | false => split <;> rfl
  | true =>
    have hcovers := hlaws.contains _ bbox (geoCoord point) (geoPolygon_ne_nil hnonempty)
      (geoPolygon_finite hcandidate) (geoCoord_finite (parsePointCoordinates_valid hpoint)) hinside
      (geoPolygon_covers hbboxCovers)
    rw [(bboxContainsPoint_iff bbox point.2 point.1).mpr hcovers]
    rfl

/-- A point whose text does not read back is in no polygon. -/
theorem matchesPointSpatialFilter_unread {pointText payload : String}
    {metadata : Option (HashMap String)}
    (hunread : ∀ point, PointHandler.parsePointCoordinates lib pointText ≠ .ok point) :
    matchesPointSpatialFilter lib pointText metadata payload = false := by
  unfold matchesPointSpatialFilter
  split
  · rfl
  · exact absurd ‹_› (hunread _)

theorem matchesSpatialFilters_unfiltered {request : HashMap String}
    {prepared : Option PreparedSpatialFilter} {metadata : Option (HashMap String)}
    {payload : String} (hpoint : request.get "point" = none)
    (hpolygon : ∀ text, request.get "polygon" = some text → text = "*") :
    matchesSpatialFilters lib request prepared metadata payload = true := by
  unfold matchesSpatialFilters
  rw [hpoint, if_neg (by simp)]
  cases hget : request.get "polygon" with
  | none => rfl
  | some text =>
    rw [hpolygon text hget]
    rfl

theorem matchesSpatialFilters_point {request : HashMap String} {requestPoint : String}
    {prepared : Option PreparedSpatialFilter} {metadata : Option (HashMap String)}
    {payload : String} (hpoint : request.get "point" = some requestPoint)
    (hpolygon : request.get "polygon" = some "*") :
    matchesSpatialFilters lib request prepared metadata payload =
      matchesPointSpatialFilter lib requestPoint metadata payload := by
  unfold matchesSpatialFilters
  rw [hpoint, hpolygon, if_neg (by simp)]

theorem matchesSpatialFilters_polygon {request : HashMap String} {requestPolygon : String}
    {filter : PreparedSpatialFilter} {metadata : Option (HashMap String)} {payload : String}
    (hpoint : request.get "point" = none) (hpolygon : request.get "polygon" = some requestPolygon)
    (hplain : requestPolygon ≠ "*") :
    matchesSpatialFilters lib request (some filter) metadata payload =
      matchesPolygonSpatialFilter lib filter metadata payload := by
  unfold matchesSpatialFilters
  rw [hpoint, hpolygon]
  simp only [Option.isSome_none, Bool.and_false, Bool.false_eq_true, if_false, if_neg hplain,
    Option.any_some]

/-- The spatial filter lets a message through exactly when the request asks for its geometry. -/
theorem matchesSpatialFilters_iff (hlaws : GeoLaws lib.geo)
    {identifier : HashMap IdentifierFieldConfig} {wanted notified : HashMap Json}
    {metadata : Option SpatialMetadata} {canonicalized : HashMap String} (payload : String)
    (hreads : ReadsGeometries lib wanted notified)
    (hnotified : NotifiedShape lib identifier notified metadata)
    (hstreamed : StreamedShape lib identifier wanted canonicalized) :
    matchesSpatialFilters lib canonicalized (prepareSpatialFilter lib canonicalized)
        (metadata.map spatialHeaders) payload = true ↔
      SpatialWanted lib identifier wanted notified := by
  cases hstreamed with
  | unfiltered hpolygon hpoint hnoPoint hstar =>
    exact iff_of_true (matchesSpatialFilters_unfiltered hnoPoint hstar)
      (.unfiltered hpolygon hpoint)
  | @polygon sent hsent _ _ hpoint hnoPoint htext =>
    have hplain := (hreads.polygon sent hsent).ne_wildcard
    obtain ⟨ring, hnonempty, hparse⟩ := hreads.polygon sent hsent
    have hring : PolygonRead lib wanted ring := ⟨sent, hsent, hparse⟩
    have hvalid := parsePolygonCoordinates_valid hparse
    obtain ⟨box, hbox, hprepared, hcovers⟩ :=
      prepareSpatialFilter_ring hlaws hparse hnonempty hplain htext
    rw [hprepared, matchesSpatialFilters_polygon hnoPoint htext hplain]
    cases hnotified with
    | plain hnoPolygon hnoCloud =>
      -- without a stored box nothing meets the polygon
      refine iff_of_false (by simp [matchesPolygonSpatialFilter, extractCandidateBbox]) ?_
      intro hwanted
      cases hwanted with
      | unfiltered habsent _ => exact hring.ne_none habsent
      | polygons hdeclared _ _ _ => simp [hnoPolygon] at hdeclared
      | pointCloud hdeclared _ _ _ _ _ => simp [hnoCloud] at hdeclared
      | point hdeclared _ _ _ => simp [hnoPolygon] at hdeclared
    | @polygon stored candidate boundingBox hdeclared hnoCloud hstored _ hstoredParse hstoredBox =>
      have hcandidate : PolygonRead lib notified candidate := ⟨stored, hstored, hstoredParse⟩
      rw [Option.map_some, matchesPolygonSpatialFilter_polygon hlaws hvalid hnonempty
        hstoredParse hstoredBox hcovers]
      constructor
      · exact .polygons hdeclared hring hcandidate
      · intro hwanted
        cases hwanted with
        | unfiltered habsent _ => exact (hring.ne_none habsent).elim
        | polygons _ hring' hcandidate' hmeets =>
          rw [hring.unique hring', hcandidate.unique hcandidate']
          exact hmeets
        | pointCloud hcloud _ _ _ _ _ => simp [hnoCloud] at hcloud
        | point _ hpoint' _ _ => exact (hpoint'.ne_none hpoint).elim
    | @pointCloud stored boundingBox hdeclared hnoPolygon hstored hstoredValid hstoredNonempty
        hcount hstoredBox =>
      obtain ⟨points, hread⟩ := hreads.pointCloud stored hstored
      have hpoints : PointCloudRead lib notified points := ⟨stored, hstored, hread⟩
      obtain ⟨bbox, hbbox, -⟩ := storedBox_covers hlaws.toRectLaws hstoredNonempty
        fun coordinate hmem => (hstoredValid coordinate hmem).finite
      rw [Option.map_some, matchesPolygonSpatialFilter_cloud hread hstoredBox hbbox,
        Bool.and_eq_true, List.any_eq_true]
      constructor
      · intro ⟨hboxes, point, hmem, hhit⟩
        exact .pointCloud hdeclared hring hpoints ⟨stored, bbox, box, hstored, hbbox, hbox, hboxes⟩
          hmem hhit
      · intro hwanted
        cases hwanted with
        | unfiltered habsent _ => exact (hring.ne_none habsent).elim
        | polygons hpolygon _ _ _ => simp [hnoPolygon] at hpolygon
        | @pointCloud _ _ point _ hring' hpoints' hboxes hmem hhit =>
          obtain ⟨stored', bbox', box', hstored', hbbox', hbox', hmeets⟩ := hboxes
          rw [hstored.unique hstored', hbbox', Option.some.injEq] at hbbox
          rw [← hring.unique hring'] at hhit hbox'
          rw [hbox', Option.some.injEq] at hbox
          rw [hpoints.unique hpoints', ← hbbox, ← hbox]
          exact ⟨hmeets, point, hmem, hhit⟩
        | point _ hpoint' _ _ => exact (hpoint'.ne_none hpoint).elim
  | @point sent hpolygon hsent _ hnoPolygon htext hstar =>
    rw [matchesSpatialFilters_point htext hstar]
    cases hnotified with
    | plain habsent _ => simp [habsent] at hpolygon
    | pointCloud _ habsent _ _ _ _ _ => simp [habsent] at hpolygon
    | @polygon stored candidate boundingBox hdeclared hnoCloud hstored _ hstoredParse hstoredBox =>
      have hcandidate : PolygonRead lib notified candidate := ⟨stored, hstored, hstoredParse⟩
      rw [Option.map_some]
      constructor
      · intro hmatch
        cases hparse : PointHandler.parsePointCoordinates lib
            (lib.jsonToString (coordinateArray sent)) with
        | error e =>
          rw [matchesPointSpatialFilter_unread (by simp [hparse])] at hmatch
          cases hmatch
        | ok point =>
          rw [matchesPointSpatialFilter_polygon hlaws hparse hstoredParse hstoredBox] at hmatch
          exact .point hdeclared ⟨sent, hsent, hparse⟩ hcandidate hmatch
      · intro hwanted
        cases hwanted with
        | unfiltered _ habsent => exact (hsent.ne_none habsent).elim
        | polygons _ hring' _ _ => exact (hring'.ne_none hnoPolygon).elim
        | pointCloud hcloud _ _ _ _ _ => simp [hnoCloud] at hcloud
        | point _ hpoint' hcandidate' hinside =>
          obtain ⟨sent', hsent', hparse⟩ := hpoint'
          rw [← hsent.unique hsent'] at hparse
          rw [matchesPointSpatialFilter_polygon hlaws hparse hstoredParse hstoredBox,
            hcandidate.unique hcandidate']
          exact hinside

end Stored

end AvisoServer
