import AvisoServer.Notification.BoundingBoxes
import AvisoServer.Notification.Identifier
import AvisoServer.Routes.Streaming

/-!
# Subscriptions

What a watch or replay asks for, in terms of its request and of the request of a notification: the
canonical values of the scalar fields, the constraints, and the geometries. The place of a field in
a topic does not come into it.
-/

namespace AvisoServer

/-! ## 1. What is asked for -/

/-- A constraint holds of a stored value; an empty value or a wildcard counts as omitted. -/
def ConstraintHolds (lib : Libraries) (constraint : IdentifierConstraint) (stored : String) :
    Prop :=
  stored ≠ "" ∧ stored ≠ "*" ∧ matchesConstraintValue lib stored constraint = true

/-- The part of a request that one scalar field is. -/
inductive FieldWanted (lib : Libraries) (wanted notified : HashMap Json)
    (field : Sigma fun _ : String => IdentifierFieldConfig) : Prop where
  | omitted : wanted.get field.1 = none → FieldWanted lib wanted notified field
  | scalar {value : Json} {text : String} :
      wanted.get field.1 = some value → value.isObject = false →
      validateAndCanonicalizeField lib field.1 value field.2.rule = .ok text →
      (text = "*" ∨ CanonicalText lib notified field (some text)) →
      FieldWanted lib wanted notified field
  | constraint {value : Json} {constraint : IdentifierConstraint} {stored : String} :
      wanted.get field.1 = some value → value.isObject = true →
      parseIdentifierConstraint lib field.1 value field.2.rule = .ok constraint →
      CanonicalText lib notified field (some stored) → ConstraintHolds lib constraint stored →
      FieldWanted lib wanted notified field

/-- The request has a polygon with this ring. -/
def HasPolygon (lib : Libraries) (params : HashMap Json) (ring : List Coordinate) : Prop :=
  ∃ value, params.get "polygon" = some value ∧
    PolygonHandler.validateJsonAndCanonicalize lib value "polygon" = .ok (coordinatesArray ring)

def HasPoint (lib : Libraries) (params : HashMap Json) (point : Coordinate) : Prop :=
  ∃ value, params.get "point" = some value ∧
    PointHandler.validateJsonAndCanonicalize lib value "point" = .ok (coordinateArray point)

def HasPointCloud (lib : Libraries) (params : HashMap Json) (points : List Coordinate) : Prop :=
  ∃ value maxPoints, params.get "point_cloud" = some value ∧
    PointCloudHandler.validate lib value maxPoints "point_cloud" =
      .ok (points, coordinatesArray points)

theorem HasPolygon.ne_none {lib : Libraries} {params : HashMap Json} {ring : List Coordinate}
    (h : HasPolygon lib params ring) : params.get "polygon" ≠ none := by
  intro habsent
  obtain ⟨value, hvalue, -⟩ := h
  rw [habsent] at hvalue
  cases hvalue

theorem HasPoint.ne_none {lib : Libraries} {params : HashMap Json} {point : Coordinate}
    (h : HasPoint lib params point) : params.get "point" ≠ none := by
  intro habsent
  obtain ⟨value, hvalue, -⟩ := h
  rw [habsent] at hvalue
  cases hvalue

theorem HasPolygon.unique {lib : Libraries} {params : HashMap Json} {ring other : List Coordinate}
    (h : HasPolygon lib params ring) (h' : HasPolygon lib params other) : ring = other := by
  obtain ⟨value, hvalue, hring⟩ := h
  obtain ⟨value', hvalue', hother⟩ := h'
  rw [hvalue] at hvalue'
  cases hvalue'
  rw [hring, Except.ok.injEq] at hother
  exact coordinatesArray_injective hother

theorem HasPoint.unique {lib : Libraries} {params : HashMap Json} {point other : Coordinate}
    (h : HasPoint lib params point) (h' : HasPoint lib params other) : point = other := by
  obtain ⟨value, hvalue, hpoint⟩ := h
  obtain ⟨value', hvalue', hother⟩ := h'
  rw [hvalue] at hvalue'
  cases hvalue'
  rw [hpoint, Except.ok.injEq] at hother
  exact coordinateArray_injective hother

theorem HasPointCloud.unique {lib : Libraries} {params : HashMap Json}
    {points other : List Coordinate} (h : HasPointCloud lib params points)
    (h' : HasPointCloud lib params other) : points = other := by
  obtain ⟨value, maxPoints, hvalue, hpoints⟩ := h
  obtain ⟨value', maxPoints', hvalue', hother⟩ := h'
  rw [hvalue] at hvalue'
  cases hvalue'
  exact cloud_unique hpoints hother

/-- The polygon of the request as its canonical text reads back: `serde_json` may read a neighbour of
a coordinate that it printed. -/
def PolygonRead (lib : Libraries) (params : HashMap Json) (ring : List Coordinate) : Prop :=
  ∃ sent, HasPolygon lib params sent ∧
    PolygonHandler.parsePolygonCoordinates lib (lib.jsonToString (coordinatesArray sent)) = .ok ring

def PointRead (lib : Libraries) (params : HashMap Json) (point : Coordinate) : Prop :=
  ∃ sent, HasPoint lib params sent ∧
    PointHandler.parsePointCoordinates lib (lib.jsonToString (coordinateArray sent)) = .ok point

def PointCloudRead (lib : Libraries) (params : HashMap Json) (points : List Coordinate) : Prop :=
  ∃ sent, HasPointCloud lib params sent ∧
    readPointCloud lib (lib.jsonToString (coordinatesArray sent)) = some points

/-- The box stored with a point cloud, which is the box of the points as sent, meets the box of the
ring. -/
def CloudBoxMeets (lib : Libraries) (params : HashMap Json) (ring : List Coordinate) : Prop :=
  ∃ sent bbox box, HasPointCloud lib params sent ∧ storedBox lib.geo sent = some bbox ∧
    lib.geo.boundingRect (geoPolygon ring) = some box ∧ lib.geo.rectIntersects bbox box = true

theorem PolygonRead.ne_none {lib : Libraries} {params : HashMap Json} {ring : List Coordinate}
    (h : PolygonRead lib params ring) : params.get "polygon" ≠ none := by
  obtain ⟨_, hsent, -⟩ := h
  exact hsent.ne_none

theorem PointRead.ne_none {lib : Libraries} {params : HashMap Json} {point : Coordinate}
    (h : PointRead lib params point) : params.get "point" ≠ none := by
  obtain ⟨_, hsent, -⟩ := h
  exact hsent.ne_none

theorem PolygonRead.unique {lib : Libraries} {params : HashMap Json} {ring other : List Coordinate}
    (h : PolygonRead lib params ring) (h' : PolygonRead lib params other) : ring = other := by
  obtain ⟨_, hsent, hring⟩ := h
  obtain ⟨_, hsent', hother⟩ := h'
  rw [hsent.unique hsent', hother, Except.ok.injEq] at hring
  exact hring.symm

theorem PointRead.unique {lib : Libraries} {params : HashMap Json} {point other : Coordinate}
    (h : PointRead lib params point) (h' : PointRead lib params other) : point = other := by
  obtain ⟨_, hsent, hpoint⟩ := h
  obtain ⟨_, hsent', hother⟩ := h'
  rw [hsent.unique hsent', hother, Except.ok.injEq] at hpoint
  exact hpoint.symm

theorem PointCloudRead.unique {lib : Libraries} {params : HashMap Json}
    {points other : List Coordinate} (h : PointCloudRead lib params points)
    (h' : PointCloudRead lib params other) : points = other := by
  obtain ⟨_, hsent, hpoints⟩ := h
  obtain ⟨_, hsent', hother⟩ := h'
  rw [hsent.unique hsent', hother, Option.some.injEq] at hpoints
  exact hpoints.symm

/-- The spatial part of a request, against the geometry that the schema declares. -/
inductive SpatialWanted (lib : Libraries) (identifier : HashMap IdentifierFieldConfig)
    (wanted notified : HashMap Json) : Prop where
  | unfiltered : wanted.get "polygon" = none → wanted.get "point" = none →
      SpatialWanted lib identifier wanted notified
  | polygons {ring candidate : List Coordinate} :
      (identifier.get "polygon").isSome = true → PolygonRead lib wanted ring →
      PolygonRead lib notified candidate →
      lib.geo.intersects (geoPolygon candidate) (geoPolygon ring) = true →
      SpatialWanted lib identifier wanted notified
  | pointCloud {ring points : List Coordinate} {point : Coordinate} :
      (identifier.get "point_cloud").isSome = true → PolygonRead lib wanted ring →
      PointCloudRead lib notified points → CloudBoxMeets lib notified ring → point ∈ points →
      lib.geo.intersectsPoint (geoPolygon ring) (geoCoord point) = true →
      SpatialWanted lib identifier wanted notified
  | point {point : Coordinate} {candidate : List Coordinate} :
      (identifier.get "polygon").isSome = true → PointRead lib wanted point →
      PolygonRead lib notified candidate →
      lib.geo.contains (geoPolygon candidate) (geoCoord point) = true →
      SpatialWanted lib identifier wanted notified

/-- The notification is one that the watch or replay asks for. -/
structure NotificationWanted (lib : Libraries) (identifier : HashMap IdentifierFieldConfig)
    (wanted notified : HashMap Json) : Prop where
  fields : ∀ field ∈ identifier.entries, field.2.rule.isSpatial = false →
    FieldWanted lib wanted notified field
  spatial : SpatialWanted lib identifier wanted notified

/-! ## 2. The geometry of a notification -/

/-- The printed geometries of both requests read back as they were printed. -/
structure PrintsGeometries (lib : Libraries) (wanted notified : HashMap Json) : Prop where
  wantedPolygon : ∀ ring, HasPolygon lib wanted ring → PrintsAndReads lib (coordinatesArray ring)
  wantedPoint : ∀ point, HasPoint lib wanted point → PrintsAndReads lib (coordinateArray point)
  polygon : ∀ ring, HasPolygon lib notified ring → PrintsAndReads lib (coordinatesArray ring)
  pointCloud : ∀ points, HasPointCloud lib notified points →
    PrintsAndReads lib (coordinatesArray points)

/-- The printed polygon of a stream and the printed point cloud of a notification read back, as some
coordinates. -/
structure ReadsGeometries (lib : Libraries) (wanted notified : HashMap Json) : Prop where
  polygon : ∀ sent, HasPolygon lib wanted sent → ReadsPolygon lib sent
  pointCloud : ∀ sent, HasPointCloud lib notified sent →
    ∃ points, readPointCloud lib (lib.jsonToString (coordinatesArray sent)) = some points

/-- The names of the geometries tell their rules, and a schema has one geometry at most. -/
theorem SpatialValid.polygon_or_cloud {schema : EventSchema} (hspatial : SpatialValid schema) :
    schema.identifier.get "polygon" = none ∨ schema.identifier.get "point_cloud" = none := by
  cases hcloud : schema.identifier.get "point_cloud" with
  | none => exact Or.inr rfl
  | some field =>
    have hrule := hspatial.cloudRule field hcloud
    exact Or.inl
      (hspatial.cloudName ⟨"point_cloud", field⟩ (AList.mem_lookup_iff.mp hcloud) hrule).2

/-- A field that is no geometry has no reserved name. -/
theorem SpatialValid.scalar_name {schema : EventSchema} (hspatial : SpatialValid schema)
    {field : Sigma fun _ : String => IdentifierFieldConfig} (hfield : field ∈ schema.identifier.entries)
    (hscalar : field.2.rule.isSpatial = false) : field.1 ≠ "polygon" ∧ field.1 ≠ "point_cloud" := by
  obtain ⟨hpolygon, hcloud⟩ := Bool.or_eq_false_iff.mp hscalar
  have hget := mem_entries_get hfield
  constructor
  · intro hname
    rw [hname] at hget
    rw [hspatial.polygonRule _ hget] at hpolygon
    cases hpolygon
  · intro hname
    rw [hname] at hget
    rw [hspatial.cloudRule _ hget] at hcloud
    cases hcloud

/-- A notification has a value for every field of its schema, and never a point. -/
theorem notify_pointUndeclared {lib : Libraries} {settings : Settings} {user : Option User}
    {request : NotificationRequest} {result : ProcessingResult}
    (hnotify : notify lib settings user request = .ok result) {schema : EventSchema}
    {identifier : IdentifierProcessingResult}
    (hnotified : NotifiedIdentifier lib schema request.identifier identifier) :
    schema.identifier.get "point" = none := by
  cases hdeclared : schema.identifier.get "point" with
  | none => rfl
  | some field =>
    obtain ⟨value, text, hvalue, -, -⟩ :=
      hnotified.fields ⟨"point", field⟩ (AList.mem_lookup_iff.mp hdeclared)
    rw [notify_noPoint hnotify] at hvalue
    cases hvalue

/-- What a notification stores of its geometry. -/
inductive NotifiedShape (lib : Libraries) (identifier : HashMap IdentifierFieldConfig)
    (notified : HashMap Json) : Option SpatialMetadata → Prop where
  | plain : identifier.get "polygon" = none → identifier.get "point_cloud" = none →
      NotifiedShape lib identifier notified none
  | polygon {sent ring : List Coordinate} {boundingBox : String} :
      (identifier.get "polygon").isSome = true → identifier.get "point_cloud" = none →
      HasPolygon lib notified sent → (∀ coordinate ∈ sent, ValidCoordinate coordinate) →
      PolygonHandler.parsePolygonCoordinates lib (lib.jsonToString (coordinatesArray sent)) =
        .ok ring →
      calculateBoundingBoxString ring = .ok boundingBox →
      NotifiedShape lib identifier notified (some
        { boundingBox := boundingBox
          geometry := .polygon (lib.jsonToString (coordinatesArray sent)) })
  | pointCloud {points : List Coordinate} {boundingBox : String} :
      (identifier.get "point_cloud").isSome = true → identifier.get "polygon" = none →
      HasPointCloud lib notified points → (∀ coordinate ∈ points, ValidCoordinate coordinate) →
      points ≠ [] → points.length ≤ hardMaxPoints →
      calculateBoundingBoxString points = .ok boundingBox →
      NotifiedShape lib identifier notified (some
        { boundingBox := boundingBox
          geometry := .pointCloud (lib.jsonToString (coordinatesArray points)) })

theorem notifiedShape_of_geometry {lib : Libraries} {schema : EventSchema}
    {params : HashMap Json} (hspatial : SpatialValid schema)
    {field : Sigma fun _ : String => IdentifierFieldConfig}
    (hfield : field ∈ schema.identifier.entries) {metadata : SpatialMetadata}
    (hgeometry : NotifiedGeometry lib params field.1 field.2.rule metadata) :
    NotifiedShape lib schema.identifier params (some metadata) := by
  obtain ⟨name, ⟨rule⟩⟩ := field
  have hget : schema.identifier.get name = some ⟨rule⟩ := mem_entries_get hfield
  cases hgeometry with
  | @polygon required value canonical coordinates _ hvalue hcanonical hparse hmetadata =>
    have hname : name = "polygon" := hspatial.polygonName _ hfield rfl
    subst hname
    obtain ⟨sent, -, hvalid, -, rfl⟩ := polygon_canonical hcanonical
    obtain ⟨boundingBox, hbox, hmetadata⟩ := bind_eq_ok.mp hmetadata
    cases hmetadata
    have hdeclared : (schema.identifier.get "polygon").isSome = true := by rw [hget]; rfl
    have hnone : schema.identifier.get "point_cloud" = none := by
      apply hspatial.polygon_or_cloud.resolve_left
      rw [hget]
      exact Option.some_ne_none _
    exact .polygon hdeclared hnone ⟨value, hvalue, hcanonical⟩ hvalid hparse hbox
  | @pointCloud required maxPoints value canonical coordinates _ hvalue hcanonical hmetadata =>
    obtain ⟨hname, hnone⟩ := hspatial.cloudName _ hfield rfl
    simp only at hname
    subst hname
    obtain ⟨hvalid, hnonempty, hcount, rfl, -⟩ := cloud_canonical hcanonical
    obtain ⟨boundingBox, hbox, hmetadata⟩ := bind_eq_ok.mp hmetadata
    cases hmetadata
    have hdeclared : (schema.identifier.get "point_cloud").isSome = true := by rw [hget]; rfl
    exact .pointCloud hdeclared hnone ⟨value, maxPoints, hvalue, hcanonical⟩ hvalid hnonempty hcount
      hbox

theorem NotifiedIdentifier.shape {lib : Libraries} {schema : EventSchema} {params : HashMap Json}
    {result : IdentifierProcessingResult} (h : NotifiedIdentifier lib schema params result)
    (hspatial : SpatialValid schema) :
    NotifiedShape lib schema.identifier params result.spatialMetadata := by
  cases h.geometry with
  | inl hplain =>
    obtain ⟨hscalar, hnone⟩ := hplain
    rw [hnone]
    have habsent : ∀ name field, schema.identifier.get name = some field →
        field.rule.isSpatial = false := fun name field hget =>
      hscalar ⟨name, field⟩ (AList.mem_lookup_iff.mp hget)
    apply NotifiedShape.plain
    · cases hget : schema.identifier.get "polygon" with
      | none => rfl
      | some field =>
        have hrule := habsent "polygon" field hget
        unfold ValidationRules.isSpatial at hrule
        rw [hspatial.polygonRule field hget] at hrule
        cases hrule
    · cases hget : schema.identifier.get "point_cloud" with
      | none => rfl
      | some field =>
        have hrule := habsent "point_cloud" field hget
        unfold ValidationRules.isSpatial at hrule
        rw [hspatial.cloudRule field hget, Bool.or_true] at hrule
        cases hrule
  | inr hgeometry =>
    obtain ⟨field, hfield, -, metadata, hmetadata, hgeometry⟩ := hgeometry
    rw [hmetadata]
    exact notifiedShape_of_geometry hspatial hfield hgeometry

/-! ## 3. The spatial filter of a stream -/

/-- The spatial filter among the canonical parameters. -/
inductive StreamedShape (lib : Libraries) (identifier : HashMap IdentifierFieldConfig)
    (wanted : HashMap Json) (canonicalized : HashMap String) : Prop where
  | unfiltered : wanted.get "polygon" = none → wanted.get "point" = none →
      canonicalized.get "point" = none →
      (∀ text, canonicalized.get "polygon" = some text → text = "*") →
      StreamedShape lib identifier wanted canonicalized
  | polygon {ring : List Coordinate} :
      HasPolygon lib wanted ring → (∀ coordinate ∈ ring, ValidCoordinate coordinate) → ring ≠ [] →
      wanted.get "point" = none → canonicalized.get "point" = none →
      canonicalized.get "polygon" = some (lib.jsonToString (coordinatesArray ring)) →
      StreamedShape lib identifier wanted canonicalized
  | point {point : Coordinate} :
      (identifier.get "polygon").isSome = true → HasPoint lib wanted point →
      ValidCoordinate point → wanted.get "polygon" = none →
      canonicalized.get "point" = some (lib.jsonToString (coordinateArray point)) →
      canonicalized.get "polygon" = some "*" →
      StreamedShape lib identifier wanted canonicalized

theorem polygon_canonical_ring {lib : Libraries} {value canonical : Json} {fieldName : String}
    (h : PolygonHandler.validateJsonAndCanonicalize lib value fieldName = .ok canonical) :
    ∃ ring, canonical = coordinatesArray ring ∧
      (∀ coordinate ∈ ring, ValidCoordinate coordinate) ∧ ring ≠ [] := by
  obtain ⟨ring, -, hvalid, hgeometry, rfl⟩ := polygon_canonical h
  refine ⟨ring, rfl, hvalid, ?_⟩
  rintro rfl
  cases hgeometry

/-- A polygon field of the schema, in the request or not. -/
theorem streamedPolygon {lib : Libraries} {params : HashMap Json} {field : IdentifierFieldConfig}
    (hrule : field.rule.isPolygon = true) {entry : Option String × Option IdentifierConstraint}
    (h : StreamedValue lib params ⟨"polygon", field⟩ entry) :
    (params.get "polygon" = none ∧ entry.1 = some "*") ∨
      ∃ ring, HasPolygon lib params ring ∧ (∀ coordinate ∈ ring, ValidCoordinate coordinate) ∧
        ring ≠ [] ∧ entry.1 = some (lib.jsonToString (coordinatesArray ring)) := by
  obtain ⟨rule⟩ := field
  cases rule with
  | polygonHandler required =>
    cases h with
    | omitted hnone => exact Or.inl ⟨hnone, rfl⟩
    | constraint _ _ hparse => cases hparse
    | scalar hvalue _ htext =>
      obtain ⟨canonical, hcanonical, rfl⟩ := map_eq_ok.mp htext
      obtain ⟨ring, rfl, hvalid, hnonempty⟩ := polygon_canonical_ring hcanonical
      exact Or.inr ⟨ring, ⟨_, hvalue, hcanonical⟩, hvalid, hnonempty, rfl⟩
  | _ => cases hrule

theorem StreamedIdentifier.shape {lib : Libraries} {schema : EventSchema} {params : HashMap Json}
    {result : IdentifierProcessingResult} (h : StreamedIdentifier lib schema params result)
    (hspatial : SpatialValid schema) (hundeclared : schema.identifier.get "point" = none)
    (hone : params.get "polygon" = none ∨ params.get "point" = none) :
    StreamedShape lib schema.identifier params result.canonicalized := by
  obtain ⟨fields, pointed, hfields, hothers, hpoint, hpolygon⟩ := h.filters
  have hnoPoint : fields.canonicalized.get "point" = none :=
    congrArg Prod.fst (hothers "point" hundeclared)
  have habsent : schema.identifier.get "polygon" = none →
      fields.canonicalized.get "polygon" = none := fun hget =>
    congrArg Prod.fst (hothers "polygon" hget)
  have hdeclared : ∀ field, schema.identifier.get "polygon" = some field →
      (params.get "polygon" = none ∧ fields.canonicalized.get "polygon" = some "*") ∨
        ∃ ring, HasPolygon lib params ring ∧ (∀ coordinate ∈ ring, ValidCoordinate coordinate) ∧
          ring ≠ [] ∧
          fields.canonicalized.get "polygon" = some (lib.jsonToString (coordinatesArray ring)) :=
    fun field hget => streamedPolygon (hspatial.polygonRule field hget)
      (hfields ⟨"polygon", field⟩ (AList.mem_lookup_iff.mp hget))
  rcases addPointFilter_eq_ok hpoint with ⟨hnone, rfl⟩ | ⟨value, canonical, hvalue, hcanonical, hadded⟩
  · rcases addPolygonFilter_eq_ok hpolygon with
      ⟨hcloud, rfl⟩ | ⟨value, canonical, -, hvalue, hcanonical, hadded⟩
    · cases hget : schema.identifier.get "polygon" with
      | none =>
        have hnoPolygon : params.get "polygon" = none := by
          cases hvalue : params.get "polygon" with
          | none => rfl
          | some value =>
            -- an undeclared polygon is only known to a point-cloud schema
            have hknown := (h.known "polygon" value hvalue).resolve_left (by rw [hget]; decide)
            unfold isSpatialFilter at hknown
            rw [hget] at hknown
            have hhas : hasPointCloudSchema schema = true := by simpa using hknown
            rw [hcloud hhas] at hvalue
            cases hvalue
        refine .unfiltered hnoPolygon hnone hnoPoint ?_
        intro text htext
        rw [habsent hget] at htext
        cases htext
      | some field =>
        rcases hdeclared field hget with ⟨hnoPolygon, hstar⟩ | ⟨ring, hring, hvalid, hnonempty, htext⟩
        · refine .unfiltered hnoPolygon hnone hnoPoint ?_
          intro text htext
          rw [hstar] at htext
          cases htext
          rfl
        · exact .polygon hring hvalid hnonempty hnone hnoPoint htext
    · obtain ⟨ring, rfl, hvalid, hnonempty⟩ := polygon_canonical_ring hcanonical
      refine .polygon ⟨value, hvalue, hcanonical⟩ hvalid hnonempty hnone ?_ hadded.text
      rw [hadded.get_other (by decide)]
      exact hnoPoint
  · have hnoPolygon : params.get "polygon" = none := by
      apply hone.resolve_right
      rw [hvalue]
      exact Option.some_ne_none _
    obtain ⟨point, hvalid, rfl⟩ := point_canonical hcanonical
    have hknown := (h.known "point" value hvalue).resolve_left (by rw [hundeclared]; decide)
    unfold isSpatialFilter at hknown
    cases hget : schema.identifier.get "polygon" with
    | none =>
      rw [hget] at hknown
      cases hknown
    | some field =>
      have hstar : fields.canonicalized.get "polygon" = some "*" := by
        rcases hdeclared field hget with ⟨-, hstar⟩ | ⟨_, ⟨_, hfound, -⟩, -⟩
        · exact hstar
        · rw [hnoPolygon] at hfound
          cases hfound
      rcases addPolygonFilter_eq_ok hpolygon with ⟨-, rfl⟩ | ⟨_, _, -, hfound, -⟩
      · refine .point (by rw [hget]; rfl) ⟨value, hvalue, hcanonical⟩ hvalid hnoPolygon hadded.text ?_
        rw [hadded.get_other (by decide)]
        exact hstar
      · rw [hnoPolygon] at hfound
        cases hfound

end AvisoServer
