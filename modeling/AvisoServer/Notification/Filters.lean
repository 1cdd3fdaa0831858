import AvisoServer.Notification.Topics

/-!
# Notification filters

A message whose topic matches the watch pattern goes through a second stage: the constraints of the
request are checked on the values of the topic, and its polygon or point on the geometry of the
message.
-/

namespace AvisoServer

/-! ## 1. Polygons and boxes -/

/-- `geo` has the longitude first. -/
def geoCoord (coordinate : Coordinate) : Coord :=
  ⟨coordinate.2, coordinate.1⟩

def geoPolygon (coordinates : List Coordinate) : Polygon :=
  coordinates.map geoCoord

/-- A polygon filter, parsed once for a request. -/
structure PreparedSpatialFilter where
  polygon : Polygon
  boundingBox : Rect

def parseBbox (geo : Geo) (bboxStr : String) : Option Rect :=
  match (splitChar bboxStr ',').mapM fun part => Binary64.parse (trim part) with
  | some [minLat, minLon, maxLat, maxLon] =>
    some (geo.rectNew ⟨minLon, minLat⟩ ⟨maxLon, maxLat⟩)
  | _ => none

def bboxContainsPoint (bbox : Rect) (lon lat : F64) : Bool :=
  Binary64.le bbox.min.x lon && lon.le bbox.max.x && Binary64.le bbox.min.y lat &&
    lat.le bbox.max.y

section Filters

variable (lib : Libraries)

def extractCandidateBbox (metadata : Option (HashMap String)) : Option Rect :=
  (metadata.bind fun m => m.get spatialBboxMetadataKey).bind (parseBbox lib.geo)

def prepareSpatialFilter (request : HashMap String) : Option PreparedSpatialFilter := do
  let requestPolygon ← request.get "polygon"
  if requestPolygon = "*" then none
  else
    let coordinates ← (PolygonHandler.parsePolygonCoordinates lib requestPolygon).toOption
    let boundingBox ← lib.geo.boundingRect (geoPolygon coordinates)
    some { polygon := geoPolygon coordinates, boundingBox := boundingBox }

/-! ## 2. The geometry of a message -/

def parsePolygonGeometryStr (geomStr : String) : Option Polygon :=
  (PolygonHandler.parsePolygonCoordinates lib geomStr).toOption.map geoPolygon

/-- One pair of a GeoJSON ring, which is read in the order of the API. -/
def geojsonPair (pair : Json) : Option Coordinate := do
  let values ← pair.asArray
  let lat ← values[0]? >>= Json.asF64
  let lon ← values[1]? >>= Json.asF64
  some (lat, lon)

def extractPolygonFromGeojson (geomObj : Json) : Option Polygon := do
  let geoType ← geomObj.get "type" >>= Json.asStr
  if geoType ≠ "Polygon" then none
  else
    let rings ← geomObj.get "coordinates" >>= Json.asArray
    let ring ← rings.head? >>= Json.asArray
    let coordinates := ring.filterMap geojsonPair
    if coordinates.length < 3 then none else some (geoPolygon coordinates)

def tryPolygonFromPayload (payload : String) : Option Polygon := do
  let json ← (lib.jsonFromStr payload).toOption
  let spatialGeometry ← json.get "spatial_geometry"
  if spatialGeometry.isObject then extractPolygonFromGeojson spatialGeometry
  else spatialGeometry.asStr >>= parsePolygonGeometryStr lib

def tryPolygonFromMetadata (metadata : Option (HashMap String)) : Option Polygon :=
  (metadata.bind fun m => m.get spatialGeometryMetadataKey).bind (parsePolygonGeometryStr lib)

/-- The polygon of the metadata, or else the one in the payload. -/
def extractCandidatePolygon (metadata : Option (HashMap String)) (payload : String) :
    Option Polygon :=
  match tryPolygonFromMetadata lib metadata with
  | some polygon => some polygon
  | none => tryPolygonFromPayload lib payload

def extractCandidatePointCloud (metadata : Option (HashMap String)) :
    Option (List Coordinate) := do
  let serialized ← metadata.bind fun m => m.get spatialPointCloudMetadataKey
  let value ← (lib.jsonFromStr serialized).toOption
  (PointCloudHandler.parseCoordinates value hardMaxPoints "point_cloud").toOption

/-! ## 3. Constraints -/

def matchesConstraintValue (rawValue : String) (constraint : IdentifierConstraint) : Bool :=
  match constraint with
  | .int constraint => (parseInt i64 rawValue).toOption.any constraint.matchesInt
  | .enum constraint => constraint.matches lib.toLowercase rawValue
  | .float constraint => (Binary64.parse rawValue).any constraint.matchesFloat

def resolveEventTypeFromTopicBase (decodedTopic : List String) (schemas : HashMap EventSchema) :
    Option String := do
  let topicBase ← decodedTopic.head?
  let entry ← schemas.entries.find? fun entry => entry.2.topic.any (·.base = topicBase)
  some entry.1

/-- One constraint, on the value in the place of its field. -/
def matchesTopicConstraint (topicConfig : TopicConfig) (decodedTopic : List String)
    (entry : Sigma fun _ : String => IdentifierConstraint) : Bool :=
  match topicConfig.keyOrder.findIdx? fun key => key = entry.1 with
  | none => false
  | some fieldPosition =>
    match decodedTopic[fieldPosition + 1]? with
    | none => false
    | some rawValue =>
      -- an empty value or a wildcard stands for an omitted field
      if rawValue = "" ∨ rawValue = "*" then false else matchesConstraintValue lib rawValue entry.2

def matchesIdentifierConstraintsFastPath (decodedTopic : List String) (eventType : String)
    (constraints : HashMap IdentifierConstraint) (schemas : HashMap EventSchema) : Option Bool := do
  let eventSchema ← schemas.get eventType
  let topicConfig ← eventSchema.topic
  if decodedTopic.head? ≠ some topicConfig.base then some false
  else some (constraints.entries.all (matchesTopicConstraint lib topicConfig decodedTopic))

/-- One constraint, on the identifier that the topic reads back as. -/
def matchesParsedConstraint (identifier : HashMap String)
    (entry : Sigma fun _ : String => IdentifierConstraint) : Bool :=
  (identifier.get entry.1).any fun rawValue => matchesConstraintValue lib rawValue entry.2

def matchesIdentifierConstraints (settings : Settings) (notificationTopic : String)
    (constraints : HashMap IdentifierConstraint) : Bool :=
  match settings.notificationSchema, decodeSubject notificationTopic with
  | some schemas, .ok decodedTopic =>
    match resolveEventTypeFromTopicBase decodedTopic schemas with
    | none => false
    | some eventType =>
      match matchesIdentifierConstraintsFastPath lib decodedTopic eventType constraints schemas with
      | some matched => matched
      | none =>
        match topicToRequest settings notificationTopic eventType with
        | .error _ => false
        | .ok identifier => constraints.entries.all (matchesParsedConstraint lib identifier)
  | _, _ => false

/-! ## 4. The second stage -/

def matchesPointSpatialFilter (requestPoint : String) (metadata : Option (HashMap String))
    (payload : String) : Bool :=
  match PointHandler.parsePointCoordinates lib requestPoint with
  | .error _ => false
  | .ok point =>
    -- a message without a box is judged by its geometry alone
    if (extractCandidateBbox lib metadata).any fun bbox => !bboxContainsPoint bbox point.2 point.1
    then false
    else
      (extractCandidatePolygon lib metadata payload).any fun candidatePoly =>
        lib.geo.contains candidatePoly (geoCoord point)

def matchesPolygonSpatialFilter (filter : PreparedSpatialFilter)
    (metadata : Option (HashMap String)) (payload : String) : Bool :=
  match extractCandidateBbox lib metadata with
  | none => false
  | some candidateBbox =>
    if !lib.geo.rectIntersects candidateBbox filter.boundingBox then false
    else
      match extractCandidatePointCloud lib metadata with
      | some pointCloud =>
        pointCloud.any fun point => lib.geo.intersectsPoint filter.polygon (geoCoord point)
      | none =>
        (extractCandidatePolygon lib metadata payload).any fun candidatePoly =>
          lib.geo.intersects candidatePoly filter.polygon

/-- The spatial part of the second stage. -/
def matchesSpatialFilters (request : HashMap String)
    (preparedSpatialFilter : Option PreparedSpatialFilter) (metadata : Option (HashMap String))
    (payload : String) : Bool :=
  if (request.get "polygon").any (· ≠ "*") && (request.get "point").isSome then false
  else
    match request.get "point", request.get "polygon" with
    | some requestPoint, _ => matchesPointSpatialFilter lib requestPoint metadata payload
    | none, none => true
    | none, some requestPolygon =>
      if requestPolygon = "*" then true
      else
        preparedSpatialFilter.any fun filter =>
          matchesPolygonSpatialFilter lib filter metadata payload

def matchesNotificationFiltersPrepared (settings : Settings) (notificationTopic : String)
    (request : HashMap String) (constraints : HashMap IdentifierConstraint)
    (preparedSpatialFilter : Option PreparedSpatialFilter) (metadata : Option (HashMap String))
    (payload : String) : Bool :=
  if constraints.entries ≠ [] && !matchesIdentifierConstraints lib settings notificationTopic constraints
  then false
  else matchesSpatialFilters lib request preparedSpatialFilter metadata payload

/-- The stage with a filter prepared on the spot. -/
def matchesNotificationFilters (settings : Settings) (notificationTopic : String)
    (request : HashMap String) (constraints : HashMap IdentifierConstraint)
    (metadata : Option (HashMap String)) (payload : String) : Bool :=
  matchesNotificationFiltersPrepared lib settings notificationTopic request constraints
    (prepareSpatialFilter lib request) metadata payload

end Filters

end AvisoServer
