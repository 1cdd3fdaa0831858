import AvisoServer.Notification.Storage
import AvisoServer.Notification.Topics
import AvisoServer.Sse.Frames

/-!
# Cloud events

A stored message becomes a cloud event again: its topic gives the event type and the identifier,
its headers the geometry, and its payload is parsed as JSON.
-/

namespace AvisoServer

/-! ## 1. Events -/

structure CloudEvent where
  id : String
  source : String
  ty : String
  time : DateTime
  dataContentType : String
  dataSchema : String
  data : Json

/-- The crate that builds and serialises events. -/
structure CloudEventLibrary where
  /-- The error of `EventBuilderV10::build` for these attributes. -/
  buildError : CloudEvent → Option String
  /-- `serde_json::to_value` of an event. -/
  toValue : CloudEvent → Json

structure CloudEventData where
  identifier : HashMap Json
  payload : Json

def CloudEventData.toJson (data : CloudEventData) : Json :=
  .object
    [("identifier", .object (data.identifier.entries.map fun entry => (entry.1, entry.2))),
     ("payload", data.payload)]

/-! ## 2. Creation -/

/-- The event type whose topics start with the base. -/
def findEventTypeFromTopicBase (settings : Settings) (topicBase : String) : Result String :=
  match settings.notificationSchema with
  | none => bail "No notification schema configured"
  | some schemas =>
    match schemas.entries.find? fun entry => entry.2.topic.any (·.base = topicBase) with
    | some entry => .ok entry.1
    | none => bail ("No event type found for topic base: " ++ topicBase)

section Creation

variable (lib : Libraries)

/-- A text that is no JSON is a payload from before the JSON contract. -/
def parsePayloadToJson (payload : String) : Json :=
  if payload = "" then .null
  else
    match lib.jsonFromStr payload with
    | .ok value => value
    | .error _ => .string payload

/-- The polygon of the headers, which may not be in the topic. -/
def attachPolygon (metadata : Option (HashMap String)) (identifier : HashMap Json) :
    Result (HashMap Json) :=
  match metadata.bind fun metadata => metadata.get spatialGeometryMetadataKey with
  | none => .ok identifier
  | some polygon => do
    let coordinates ← withContext "Failed to parse stored polygon metadata"
      (PolygonHandler.parsePolygonCoordinates lib polygon)
    let canonical ← withContext "Failed to canonicalize stored polygon metadata"
      (coordinateError (coordinatesToJson coordinates))
    .ok (identifier.insert "polygon" canonical)

def attachPointCloud (metadata : Option (HashMap String)) (identifier : HashMap Json) :
    Result (HashMap Json) :=
  match metadata.bind fun metadata => metadata.get spatialPointCloudMetadataKey with
  | none => .ok identifier
  | some pointCloud => do
    let value ← withContext "Failed to parse stored point-cloud metadata"
      (parseError (lib.jsonFromStr pointCloud))
    let canonical ← withContext "Failed to validate stored point-cloud metadata"
      (PointCloudHandler.validateAndCanonicalize lib value hardMaxPoints "point_cloud")
    .ok (identifier.insert "point_cloud" canonical)

def buildCloudEventData (identifierParams : HashMap String) (payload : String)
    (metadata : Option (HashMap String)) : Result CloudEventData := do
  let identifier ← attachPolygon lib metadata (identifierParams.mapValues .string)
  let identifier ← attachPointCloud lib metadata identifier
  .ok { identifier := identifier, payload := parsePayloadToJson lib payload }

variable (events : CloudEventLibrary) (settings : Settings)

/-- The attributes of the event of a message. -/
def messageEvent (now : DateTime) (notification : NotificationMessage) (baseUrl eventType : String)
    (data : CloudEventData) : CloudEvent where
  id := eventType ++ "@" ++ toString notification.sequence
  source := baseUrl
  ty := "int.ecmwf.aviso." ++ eventType
  time := notification.timestamp.getD now
  dataContentType := "application/json"
  dataSchema := baseUrl ++ "/schema/" ++ eventType
  data := data.toJson

def cloudEventAttributes (now : DateTime) (notification : NotificationMessage) (baseUrl : String) :
    Result CloudEvent := do
  let topicBase ← withContext "Failed to extract topic base from notification topic"
    (deriveEventTypeFromTopic notification.topic)
  let eventType ← withContext "Failed to determine event type from topic"
    (findEventTypeFromTopicBase settings topicBase)
  let requestParams ← withContext "Failed to reconstruct request parameters from topic"
    (topicToRequest settings notification.topic eventType)
  let data ← buildCloudEventData lib requestParams notification.payload notification.metadata
  .ok (messageEvent now notification baseUrl eventType data)

def createCloudEvent (now : DateTime) (notification : NotificationMessage) (baseUrl : String) :
    Result CloudEvent := do
  let event ← cloudEventAttributes lib settings now notification baseUrl
  match events.buildError event with
  | some error => withContext "Failed to build CloudEvent" (bail error)
  | none => .ok event

/-- The renderer of a server with these settings. -/
def cloudEventRenderer (now : DateTime) (formatStreamTimestamp : DateTime → String) : Renderer where
  createCloudEvent notification baseUrl :=
    events.toValue <$> createCloudEvent lib events settings now notification baseUrl
  jsonText := lib.jsonToString
  formatStreamTimestamp := formatStreamTimestamp

end Creation

end AvisoServer
