import AvisoServer.Backend.Types
import AvisoServer.Json
import AvisoServer.TopicCodec

/-!
# Stream frames

The typed frames of an event stream and the one place where a frame becomes bytes. Rendering also
classifies the frame, because a notification whose cloud event cannot be built becomes an error.
-/

namespace AvisoServer

/-! ## 1. Frames -/

inductive SseEventType where
  | liveNotification
  | replayNotification
  | heartbeat
  | connectionClosing
  | error
  | replayControl
  deriving DecidableEq, Repr

def SseEventType.asStr : SseEventType → String
  | .liveNotification => "live-notification"
  | .replayNotification => "replay"
  | .heartbeat => "heartbeat"
  | .connectionClosing => "connection-closing"
  | .error => "error"
  | .replayControl => "replay-control"

inductive DeliveryKind where
  | live
  | replay
  deriving DecidableEq, Repr

inductive CloseReason where
  | serverShutdown
  | maxDurationReached
  | endOfStream
  deriving DecidableEq, Repr

inductive ControlEvent where
  | connectionEstablished (topic : String) (timestamp : DateTime)
      (connectionWillCloseInSeconds : Nat) (requestId : String)
  | replayStarted (topic : String) (fromSequence : Option Nat) (fromDate : Option DateTime)
      (endSequence : Option Nat) (toDate : Option DateTime) (batchSize : Nat)
      (timestamp : DateTime) (requestId : String)
  | replayCompleted (topic : String) (timestamp : DateTime)
  | replayLimitReached (topic : String) (maxAllowed : Nat) (timestamp : DateTime)
  deriving DecidableEq

/-- Delivery classification of a rendered frame. -/
inductive SseFrameKind where
  | notification
  | streamError
  | infrastructure
  deriving DecidableEq, Repr

inductive StreamFrame where
  | rendered (bytes : String) (kind : SseFrameKind)
  | notification (notification : NotificationMessage) (kind : DeliveryKind)
  | control (event : ControlEvent)
  | heartbeat (topic : String) (timestamp : DateTime)
  | error (topic message requestId : String)
  | replayFailed (topic message requestId : String)
  | close (topic : String) (reason : CloseReason) (timestamp : DateTime) (requestId : String)
  deriving DecidableEq

/-- The frames after which a stream stops. -/
def StreamFrame.isReplayTerminal : StreamFrame → Bool
  | .control (.replayLimitReached ..) => true
  | .replayFailed .. => true
  | _ => false

/-! ## 2. Rendering -/

/-- What rendering takes from elsewhere: the cloud event of a notification, the text of a JSON
value and the text of a timestamp. -/
structure Renderer where
  createCloudEvent : NotificationMessage → String → Result Json
  jsonText : Json → String
  formatStreamTimestamp : DateTime → String

namespace Renderer

variable (renderer : Renderer)

def formatSseEvent (eventType : SseEventType) (data : Json) : String :=
  "event: " ++ eventType.asStr ++ "\ndata: " ++ renderer.jsonText data ++ "\n\n"

/-- Convert a notification message to an SSE event. -/
def notificationToSseEvent (notification : NotificationMessage) (baseUrl : String)
    (eventType : SseEventType) (requestId : String) : Result (String × SseFrameKind) :=
  match renderer.createCloudEvent notification baseUrl with
  | .ok eventData => .ok (renderer.formatSseEvent eventType eventData, .notification)
  | .error e => .ok (renderer.formatSseEvent .error (.object
      [("error", .string "CloudEvent creation failed"),
       ("message", .string e.toString),
       ("topic", .string (decodeSubjectForDisplay notification.topic)),
       ("sequence", .nat notification.sequence),
       ("request_id", .string requestId)]), .streamError)

def timestampJson (timestamp : DateTime) : Json :=
  .string (renderer.formatStreamTimestamp timestamp)

def controlToSseEvent (event : ControlEvent) : String :=
  match event with
  | .connectionEstablished topic timestamp seconds requestId =>
    renderer.formatSseEvent .liveNotification (.object
      [("type", .string "connection_established"),
       ("topic", .string (decodeSubjectForDisplay topic)),
       ("timestamp", renderer.timestampJson timestamp),
       ("connection_will_close_in_seconds", .nat seconds),
       ("request_id", .string requestId)])
  | .replayStarted topic fromSequence fromDate endSequence toDate batchSize timestamp requestId =>
    renderer.formatSseEvent .replayControl (.object
      [("type", .string "replay_started"),
       ("topic", .string (decodeSubjectForDisplay topic)),
       ("from_sequence", .option .nat fromSequence),
       ("from_date", .option renderer.timestampJson fromDate),
       ("end_sequence", .option .nat endSequence),
       ("to_date", .option renderer.timestampJson toDate),
       ("batch_size", .nat batchSize),
       ("timestamp", renderer.timestampJson timestamp),
       ("request_id", .string requestId)])
  | .replayCompleted topic timestamp =>
    renderer.formatSseEvent .replayControl (.object
      [("type", .string "replay_completed"),
       ("topic", .string (decodeSubjectForDisplay topic)),
       ("timestamp", renderer.timestampJson timestamp)])
  | .replayLimitReached topic maxAllowed timestamp =>
    renderer.formatSseEvent .replayControl (.object
      [("type", .string "notification_replay_limit_reached"),
       ("topic", .string (decodeSubjectForDisplay topic)),
       ("max_allowed", .nat maxAllowed),
       ("message", .string ("Historical replay limited to " ++ toString maxAllowed ++
         " messages. Additional historical messages may be available but were not retrieved.")),
       ("timestamp", renderer.timestampJson timestamp)])

def errorToSseEvent (topic message requestId : String) : String :=
  renderer.formatSseEvent .error (.object
    [("error", .string "stream_processing_failed"),
     ("message", .string message),
     ("topic", .string (decodeSubjectForDisplay topic)),
     ("request_id", .string requestId)])

def closeReasonText : CloseReason → String × String
  | .serverShutdown => ("server_shutdown", "Server is shutting down gracefully")
  | .maxDurationReached => ("max_duration_reached", "Connection reached maximum duration")
  | .endOfStream => ("end_of_stream", "Stream completed")

/-- Render a frame into wire bytes, classified for delivery metrics. -/
def frameToSseBytes (frame : StreamFrame) (baseUrl requestId : String) :
    Result (String × SseFrameKind) :=
  match frame with
  | .rendered bytes kind => .ok (bytes, kind)
  | .notification notification kind =>
    let eventType := match kind with
      | .live => SseEventType.liveNotification
      | .replay => SseEventType.replayNotification
    renderer.notificationToSseEvent notification baseUrl eventType requestId
  | .control event => .ok (renderer.controlToSseEvent event, .infrastructure)
  | .heartbeat topic timestamp => .ok (renderer.formatSseEvent .heartbeat (.object
      [("timestamp", renderer.timestampJson timestamp),
       ("topic", .string (decodeSubjectForDisplay topic))]), .infrastructure)
  | .error topic message requestId =>
    .ok (renderer.errorToSseEvent topic message requestId, .streamError)
  | .replayFailed topic message requestId =>
    .ok (renderer.errorToSseEvent topic message requestId, .streamError)
  | .close topic reason timestamp requestId =>
    .ok (renderer.formatSseEvent .connectionClosing (.object
      [("reason", .string (closeReasonText reason).1),
       ("timestamp", renderer.timestampJson timestamp),
       ("message", .string (closeReasonText reason).2),
       ("topic", .string (decodeSubjectForDisplay topic)),
       ("request_id", .string requestId)]), .infrastructure)

end Renderer

end AvisoServer
