import AvisoServer.Backend.InMemory
import AvisoServer.Notification.Processor

/-!
# Storing notifications

An accepted notification is handed to the backend with its topic, its payload as JSON text, and, if
it has a geometry, the headers that describe it.
-/

namespace AvisoServer

/-- The arguments of `put_messages` and of `put_message_with_headers`. -/
structure BackendPut where
  topic : String
  headers : Option (HashMap String)
  payload : String

def geometryHeader : SpatialGeometry → String × String
  | .polygon polygon => (spatialGeometryMetadataKey, polygon)
  | .pointCloud pointCloud => (spatialPointCloudMetadataKey, pointCloud)

def spatialHeaders (metadata : SpatialMetadata) : HashMap String :=
  let headers : HashMap String :=
    AList.insert spatialBboxMetadataKey metadata.boundingBox (∅ : HashMap String)
  let (key, value) := geometryHeader metadata.geometry
  headers.insert key value

def saveToBackend (result : ProcessingResult) (payload : String) : BackendPut where
  topic := result.topic
  headers := result.spatialMetadata.map spatialHeaders
  payload := payload

/-- A missing payload is stored as the text of null. -/
def payloadString (lib : Libraries) (request : NotificationRequest) : String :=
  match request.payload with
  | some payload => lib.jsonToString payload
  | none => "null"

/-- What the notification handler stores for an accepted request. -/
def notificationPut (lib : Libraries) (request : NotificationRequest) (result : ProcessingResult) :
    BackendPut :=
  saveToBackend result (payloadString lib request)

/-- The message has the topic, the headers and the payload that were handed to the backend. -/
structure BackendPut.Stored (put : BackendPut) (message : NotificationMessage) : Prop where
  topic : message.topic = put.topic
  metadata : message.metadata = put.headers
  payload : message.payload = put.payload

theorem storeMessage_put (config : InMemoryConfig) (clock : Clock) (put : BackendPut)
    (state : BackendState) :
    put.Stored (storeMessage config clock put.topic put.payload put.headers state).2 where
  topic := rfl
  metadata := rfl
  payload := rfl

/-- The headers have the geometry under the key of its kind, and under no other. -/
theorem spatialHeaders_geometry (metadata : SpatialMetadata) :
    (spatialHeaders metadata).get spatialGeometryMetadataKey =
        (match metadata.geometry with
        | .polygon polygon => some polygon
        | .pointCloud _ => none) ∧
      (spatialHeaders metadata).get spatialPointCloudMetadataKey =
        match metadata.geometry with
        | .polygon _ => none
        | .pointCloud pointCloud => some pointCloud := by
  obtain ⟨boundingBox, geometry⟩ := metadata
  cases geometry with
  | polygon polygon => exact ⟨rfl, rfl⟩
  | pointCloud pointCloud => exact ⟨rfl, rfl⟩

end AvisoServer
