import AvisoServer.Lib.EventStream
import AvisoServer.Sse.Replay

/-!
# The framing of a response

Each frame says one event, with a name and a JSON value. The text of the value has no end of a line
in it, so a client reads from the bytes of a response exactly the events of its frames.
-/

namespace AvisoServer

/-! ## 1. What a frame says -/

structure FrameEvent where
  eventType : SseEventType
  data : Json

namespace Renderer

variable (renderer : Renderer)

/-- The event of a stored notification, or the error in its place. -/
def notificationEvent (notification : NotificationMessage) (baseUrl : String)
    (eventType : SseEventType) (requestId : String) : FrameEvent :=
  match renderer.createCloudEvent notification baseUrl with
  | .ok eventData => { eventType := eventType, data := eventData }
  | .error e =>
    { eventType := .error
      data := .object
        [("error", .string "CloudEvent creation failed"),
         ("message", .string e.toString),
         ("topic", .string (decodeSubjectForDisplay notification.topic)),
         ("sequence", .nat notification.sequence),
         ("request_id", .string requestId)] }

def controlEvent : ControlEvent → FrameEvent
  | .connectionEstablished topic timestamp seconds requestId =>
    { eventType := .liveNotification
      data := .object
        [("type", .string "connection_established"),
         ("topic", .string (decodeSubjectForDisplay topic)),
         ("timestamp", renderer.timestampJson timestamp),
         ("connection_will_close_in_seconds", .nat seconds),
         ("request_id", .string requestId)] }
  | .replayStarted topic fromSequence fromDate endSequence toDate batchSize timestamp requestId =>
    { eventType := .replayControl
      data := .object
        [("type", .string "replay_started"),
         ("topic", .string (decodeSubjectForDisplay topic)),
         ("from_sequence", .option .nat fromSequence),
         ("from_date", .option renderer.timestampJson fromDate),
         ("end_sequence", .option .nat endSequence),
         ("to_date", .option renderer.timestampJson toDate),
         ("batch_size", .nat batchSize),
         ("timestamp", renderer.timestampJson timestamp),
         ("request_id", .string requestId)] }
  | .replayCompleted topic timestamp =>
    { eventType := .replayControl
      data := .object
        [("type", .string "replay_completed"),
         ("topic", .string (decodeSubjectForDisplay topic)),
         ("timestamp", renderer.timestampJson timestamp)] }
  | .replayLimitReached topic maxAllowed timestamp =>
    { eventType := .replayControl
      data := .object
        [("type", .string "notification_replay_limit_reached"),
         ("topic", .string (decodeSubjectForDisplay topic)),
         ("max_allowed", .nat maxAllowed),
         ("message", .string ("Historical replay limited to " ++ toString maxAllowed ++
           " messages. Additional historical messages may be available but were not retrieved.")),
         ("timestamp", renderer.timestampJson timestamp)] }

def errorEvent (topic message requestId : String) : FrameEvent where
  eventType := .error
  data := .object
    [("error", .string "stream_processing_failed"),
     ("message", .string message),
     ("topic", .string (decodeSubjectForDisplay topic)),
     ("request_id", .string requestId)]

/-- What a frame says that is not rendered yet. -/
def frameEvent (baseUrl requestId : String) : StreamFrame → Option FrameEvent
  | .rendered .. => none
  | .notification notification .live =>
    some (renderer.notificationEvent notification baseUrl .liveNotification requestId)
  | .notification notification .replay =>
    some (renderer.notificationEvent notification baseUrl .replayNotification requestId)
  | .control event => some (renderer.controlEvent event)
  | .heartbeat topic timestamp =>
    some
      { eventType := .heartbeat
        data := .object
          [("timestamp", renderer.timestampJson timestamp),
           ("topic", .string (decodeSubjectForDisplay topic))] }
  | .error topic message requestId => some (errorEvent topic message requestId)
  | .replayFailed topic message requestId => some (errorEvent topic message requestId)
  | .close topic reason timestamp requestId =>
    some
      { eventType := .connectionClosing
        data := .object
          [("reason", .string (closeReasonText reason).1),
           ("timestamp", renderer.timestampJson timestamp),
           ("message", .string (closeReasonText reason).2),
           ("topic", .string (decodeSubjectForDisplay topic)),
           ("request_id", .string requestId)] }

/-- What a frame says; a rendered frame says what the notification says that it was rendered
from. -/
inductive Says (baseUrl requestId : String) : StreamFrame → FrameEvent → Prop where
  | typed {frame : StreamFrame} {event : FrameEvent}
      (h : renderer.frameEvent baseUrl requestId frame = some event) :
      Says baseUrl requestId frame event
  | rendered {bytes : String} {kind : SseFrameKind} {notification : NotificationMessage}
      {renderedUrl renderedId : String}
      (h : renderer.frameToSseBytes (.notification notification .replay) renderedUrl renderedId =
        .ok (bytes, kind)) :
      Says baseUrl requestId (.rendered bytes kind)
        (renderer.notificationEvent notification renderedUrl .replayNotification renderedId)

/-- A frame that is rendered already is the rendering of a notification. -/
def Rendered (frame : StreamFrame) : Prop :=
  ∀ bytes kind, frame = .rendered bytes kind →
    ∃ notification renderedUrl renderedId,
      renderer.frameToSseBytes (.notification notification .replay) renderedUrl renderedId =
        .ok (bytes, kind)

/-- The chunks of a response, one for each frame. -/
def framesToSseByteStream (frames : List StreamFrame) (baseUrl requestId : String) :
    List (Result String) :=
  frames.map fun frame => Prod.fst <$> renderer.frameToSseBytes frame baseUrl requestId

end Renderer

/-- The events that a client reads from the bytes of a response; none where they are not UTF-8. -/
def readEventStream (bytes : List UInt8) : Option (List EventStream.Event) :=
  (fromUtf8 bytes).map fun text => EventStream.parse text.toList

/-- The event as a client reads it. -/
def FrameEvent.received (renderer : Renderer) (event : FrameEvent) : EventStream.Event where
  name := event.eventType.asStr.toList
  data := (renderer.jsonText event.data).toList
  lastEventId := []

/-! ## 2. Rendering an event -/

section Rendering

variable {renderer : Renderer} {baseUrl requestId : String}

theorem notificationToSseEvent_eq (notification : NotificationMessage) (eventType : SseEventType) :
    ∃ kind, renderer.notificationToSseEvent notification baseUrl eventType requestId =
      .ok (renderer.formatSseEvent
        (renderer.notificationEvent notification baseUrl eventType requestId).eventType
        (renderer.notificationEvent notification baseUrl eventType requestId).data, kind) := by
  unfold Renderer.notificationToSseEvent Renderer.notificationEvent
  cases renderer.createCloudEvent notification baseUrl with
  | ok eventData => exact ⟨_, rfl⟩
  | error e => exact ⟨_, rfl⟩

/-- A frame is rendered as the one event that it says. -/
theorem frameToSseBytes_of_says {frame : StreamFrame} {event : FrameEvent}
    (h : renderer.Says baseUrl requestId frame event) :
    ∃ kind, renderer.frameToSseBytes frame baseUrl requestId =
      .ok (renderer.formatSseEvent event.eventType event.data, kind) := by
  cases h with
  | @rendered bytes kind notification renderedUrl renderedId h =>
    obtain ⟨rendered, hrendered⟩ := @notificationToSseEvent_eq renderer renderedUrl renderedId
      notification .replayNotification
    have hsame := h.symm.trans hrendered
    cases hsame
    exact ⟨_, rfl⟩
  | typed h =>
    cases frame with
    | rendered bytes kind => cases h
    | notification notification kind =>
      cases kind with
      | live =>
        cases h
        exact notificationToSseEvent_eq notification .liveNotification
      | replay =>
        cases h
        exact notificationToSseEvent_eq notification .replayNotification
    | control control =>
      cases h
      cases control <;> exact ⟨_, rfl⟩
    | heartbeat topic timestamp =>
      cases h
      exact ⟨_, rfl⟩
    | error topic message requestId =>
      cases h
      exact ⟨_, rfl⟩
    | replayFailed topic message requestId =>
      cases h
      exact ⟨_, rfl⟩
    | close topic reason timestamp requestId =>
      cases h
      exact ⟨_, rfl⟩

/-- Every frame says something. -/
theorem exists_says {frame : StreamFrame} (h : renderer.Rendered frame) :
    ∃ event, renderer.Says baseUrl requestId frame event := by
  cases frame with
  | rendered bytes kind =>
    obtain ⟨notification, renderedUrl, renderedId, hnotification⟩ := h bytes kind rfl
    exact ⟨_, .rendered hnotification⟩
  | notification notification kind =>
    cases kind with
    | live => exact ⟨_, .typed rfl⟩
    | replay => exact ⟨_, .typed rfl⟩
  | _ => exact ⟨_, .typed rfl⟩

theorem rendered_of_typed {frame : StreamFrame} (h : ∀ bytes kind, frame ≠ .rendered bytes kind) :
    renderer.Rendered frame := by
  intro bytes kind hframe
  exact absurd hframe (h bytes kind)

end Rendering

section Replay

variable (request : ReplayRequest)

/-- The replay renders nothing but its notifications. -/
theorem batchFrames_rendered (topic : String) (now : DateTime) (messages : List NotificationMessage)
    (delivered : Nat) :
    ∀ frame ∈ (batchFrames request topic now messages delivered).frames,
      request.renderer.Rendered frame := by
  induction messages generalizing delivered with
  | nil => exact fun frame hframe => absurd hframe List.not_mem_nil
  | cons message rest ih =>
    have hprepend : ∀ (first : StreamFrame) (delivered : Nat),
        request.renderer.Rendered first →
        ∀ frame ∈ (BatchFrames.prepend [first]
          (batchFrames request topic now rest delivered)).frames,
          request.renderer.Rendered frame := by
      intro first delivered hfirst frame hframe
      cases List.mem_cons.mp hframe with
      | inl h =>
        rw [h]
        exact hfirst
      | inr h => exact ih delivered frame h
    rw [batchFrames]
    split
    · split
      · exact hprepend _ _ (rendered_of_typed (by simp))
      · rename_i bytes kind hrendered
        have hmessage : request.renderer.Rendered (.rendered bytes kind) := by
          intro other otherKind hsame
          cases hsame
          exact ⟨message, _, _, hrendered⟩
        split
        · exact hprepend _ _ hmessage
        · split
          · intro frame hframe
            rw [List.mem_singleton.mp hframe]
            exact rendered_of_typed (by simp)
          · exact hprepend _ _ hmessage
    · exact ih delivered

theorem replayStep_rendered (now : DateTime) (answer : Result BatchResult) (state : ReplayState) :
    ∀ frame ∈ (replayStep request now answer state).2,
      request.renderer.Rendered frame := by
  cases answer with
  | ok batch => exact batchFrames_rendered request _ _ _ _
  | error e =>
    intro frame hframe
    rw [List.mem_singleton.mp hframe]
    exact rendered_of_typed (by simp)

/-- So does a whole historical stream. -/
theorem historicalFrames_rendered (fetch : Nat → BatchParams → Result BatchResult)
    (clock : Nat → DateTime) (fuel call : Nat) (state : ReplayState) {frames : List StreamFrame}
    (h : historicalFrames request fetch clock fuel call state = some frames) :
    ∀ frame ∈ frames, request.renderer.Rendered frame := by
  induction fuel generalizing call state frames with
  | zero =>
    unfold historicalFrames at h
    split at h
    · cases h
    · cases h
      exact fun frame hframe => absurd hframe List.not_mem_nil
  | succ fuel ih =>
    unfold historicalFrames at h
    split at h
    · obtain ⟨later, hlater, rfl⟩ := Option.map_eq_some_iff.mp h
      intro frame hframe
      cases List.mem_append.mp hframe with
      | inl hfirst => exact replayStep_rendered request _ _ _ frame hfirst
      | inr hrest => exact ih _ _ hlater frame hrest
    · cases h
      exact fun frame hframe => absurd hframe List.not_mem_nil

end Replay

/-! ## 3. Reading a response -/

section Reading

variable {renderer : Renderer}

theorem formatSseEvent_toList (eventType : SseEventType) (data : Json) :
    (renderer.formatSseEvent eventType data).toList =
      EventStream.print eventType.asStr.toList (renderer.jsonText data).toList := by
  unfold Renderer.formatSseEvent EventStream.print
  simp only [String.toList_append, List.append_assoc]
  rfl

theorem asStr_oneLine (eventType : SseEventType) :
    eventType.asStr.toList ≠ [] ∧ EventStream.OneLine eventType.asStr.toList := by
  cases eventType <;> exact ⟨by decide +kernel, EventStream.oneLine_of_all (by decide +kernel)⟩

theorem oneLine_of_printed {text : String} (h : ∀ c ∈ text.toList, 32 ≤ c.toNat) :
    EventStream.OneLine text.toList := by
  intro c hc
  unfold EventStream.isLineEnd
  rw [Bool.or_eq_false_iff, decide_eq_false_iff_not, decide_eq_false_iff_not]
  constructor
  · rintro rfl
    exact absurd (h _ hc) (by decide)
  · rintro rfl
    exact absurd (h _ hc) (by decide)

theorem asBytes_flatMap (chunks : List String) :
    chunks.flatMap asBytes = asBytes (String.ofList (chunks.flatMap String.toList)) := by
  unfold asBytes
  rw [String.toList_ofList, List.flatMap_assoc]

theorem exists_says_all {baseUrl requestId : String} {frames : List StreamFrame}
    (h : ∀ frame ∈ frames, renderer.Rendered frame) :
    ∃ events, List.Forall₂ (renderer.Says baseUrl requestId) frames events := by
  induction frames with
  | nil => exact ⟨[], .nil⟩
  | cons frame frames ih =>
    obtain ⟨hframe, hframes⟩ := List.forall_mem_cons.mp h
    obtain ⟨event, hevent⟩ := exists_says hframe
    obtain ⟨events, hevents⟩ := ih hframes
    exact ⟨event :: events, .cons hevent hevents⟩

theorem framesToSseByteStream_of_says {baseUrl requestId : String} {frames : List StreamFrame}
    {events : List FrameEvent} (h : List.Forall₂ (renderer.Says baseUrl requestId) frames events) :
    renderer.framesToSseByteStream frames baseUrl requestId =
      (events.map fun event => renderer.formatSseEvent event.eventType event.data).map .ok := by
  unfold Renderer.framesToSseByteStream
  induction h with
  | nil => rfl
  | cons hevent _ ih =>
    obtain ⟨kind, hrendering⟩ := frameToSseBytes_of_says hevent
    rw [List.map_cons, List.map_cons, List.map_cons, ih, hrendering]
    rfl

/-- Texts of one line are read as the events that they were printed for. -/
theorem readEventStream_events
    (hprints : ∀ value, ∀ c ∈ (renderer.jsonText value).toList, 32 ≤ c.toNat)
    (events : List FrameEvent) :
    readEventStream
        ((events.map fun event =>
          renderer.formatSseEvent event.eventType event.data).flatMap asBytes) =
      some (events.map (FrameEvent.received renderer)) := by
  have hprinted : (events.map fun event =>
      renderer.formatSseEvent event.eventType event.data).flatMap String.toList =
        (events.map fun event =>
          (event.eventType.asStr.toList, (renderer.jsonText event.data).toList)).flatMap
            fun event => EventStream.print event.1 event.2 := by
    rw [List.flatMap_map, List.flatMap_map]
    simp only [formatSseEvent_toList]
  unfold readEventStream
  rw [asBytes_flatMap, fromUtf8_asBytes, Option.map_some, String.toList_ofList, hprinted,
    EventStream.parse_print, List.map_map]
  · rfl
  · intro printed hmem
    obtain ⟨event, -, rfl⟩ := List.mem_map.mp hmem
    obtain ⟨hne, hline⟩ := asStr_oneLine event.eventType
    exact ⟨hne, hline, oneLine_of_printed (hprints event.data)⟩

/-- A client reads the events that the frames say, one for each frame and in their order. -/
theorem readEventStream_frames {baseUrl requestId : String}
    (hprints : ∀ value, ∀ c ∈ (renderer.jsonText value).toList, 32 ≤ c.toNat)
    {frames : List StreamFrame} (hrendered : ∀ frame ∈ frames, renderer.Rendered frame) :
    ∃ (events : List FrameEvent) (chunks : List String),
      List.Forall₂ (renderer.Says baseUrl requestId) frames events ∧
      renderer.framesToSseByteStream frames baseUrl requestId = chunks.map .ok ∧
      readEventStream (chunks.flatMap asBytes) =
        some (events.map (FrameEvent.received renderer)) := by
  obtain ⟨events, hevents⟩ := @exists_says_all renderer baseUrl requestId frames hrendered
  exact ⟨events, _, hevents, framesToSseByteStream_of_says hevents,
    readEventStream_events hprints events⟩

end Reading

-- a renderer that knows one value, whose message would end its event if it were not escaped
def lineRenderer : Renderer where
  createCloudEvent _ _ := bail "No event"
  jsonText
    | .object
        [("error", .string "stream_processing_failed"),
         ("message", .string "first\n\nevent: close"),
         ("topic", .string "mars"),
         ("request_id", .string "r1")] =>
      "\x7b\"error\":\"stream_processing_failed\",\"message\":\"first\\n\\nevent: close\"," ++
        "\"request_id\":\"r1\",\"topic\":\"mars\"\x7d"
    | _ => "null"
  formatStreamTimestamp _ := "2025-01-01T00:00:00+00:00"

theorem lineRenderer_prints (value : Json) :
    ∀ c ∈ (lineRenderer.jsonText value).toList, 32 ≤ c.toNat := by
  have hall : ((lineRenderer.jsonText value).toList.all fun c => decide (32 ≤ c.toNat)) = true := by
    unfold lineRenderer
    simp only
    split
    · decide +kernel
    · decide +kernel
  intro c hc
  exact of_decide_eq_true (List.all_eq_true.mp hall c hc)

theorem readEventStream_frames_error : ∃ (events : List FrameEvent) (chunks : List String),
    List.Forall₂ (lineRenderer.Says "https://aviso" "r1")
      [.error "mars" "first\n\nevent: close" "r1"] events ∧
    lineRenderer.framesToSseByteStream [.error "mars" "first\n\nevent: close" "r1"]
      "https://aviso" "r1" = chunks.map .ok ∧
    readEventStream (chunks.flatMap asBytes) =
      some (events.map (FrameEvent.received lineRenderer)) := by
  apply readEventStream_frames lineRenderer_prints
  intro frame hframe
  rw [List.mem_singleton.mp hframe]
  exact rendered_of_typed (by simp)

end AvisoServer
