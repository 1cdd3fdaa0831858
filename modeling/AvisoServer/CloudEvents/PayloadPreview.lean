import AvisoServer.CloudEvents

/-!
# The preview of a payload

A payload that is no JSON is logged with its first hundred bytes before it becomes a JSON string. The
slice panics where it ends inside a character, so a server that logs at debug level stops there.
-/

namespace AvisoServer

/-! ## 1. Slices -/

/-- A byte that does not continue a character. -/
def isCharBoundaryByte (b : UInt8) : Bool := b.toNat < 128 || 192 ≤ b.toNat

def isBoundaryOf (bytes : List UInt8) (index : Nat) : Bool :=
  index = 0 || (bytes[index]?).elim (decide (index = bytes.length)) isCharBoundaryByte

/-- `str::is_char_boundary`. -/
def isCharBoundary (s : String) (index : Nat) : Bool := isBoundaryOf (asBytes s) index

/-- The bytes of `&s[..stop]`, which panics inside a character. -/
def sliceTo (s : String) (stop : Nat) : Option (List UInt8) :=
  if isCharBoundary s stop then some ((asBytes s).take stop) else none

-- the branches are the four lengths of an encoding
theorem utf8EncodeChar_bytes (c : Char) :
    ∃ first rest, String.utf8EncodeChar c = first :: rest ∧ isCharBoundaryByte first = true ∧
      ∀ b ∈ rest, isCharBoundaryByte b = false := by
  have hval : c.toNat = c.val.toNat := rfl
  unfold String.utf8EncodeChar isCharBoundaryByte
  simp only
  split
  · refine ⟨_, _, rfl, ?_, by simp⟩
    simp
    omega
  split
  · refine ⟨_, _, rfl, ?_, ?_⟩
    · simp
      omega
    · simp
      omega
  split
  · refine ⟨_, _, rfl, ?_, ?_⟩
    · simp
      omega
    · simp
      omega
  · refine ⟨_, _, rfl, ?_, ?_⟩
    · simp
      omega
    · simp
      omega

/-- The bytes of some characters. -/
abbrev encoded (chars : List Char) : List UInt8 := chars.flatMap String.utf8EncodeChar

/-- The byte that follows some characters does not continue one. -/
theorem isBoundaryOf_append (before after : List Char) :
    isBoundaryOf (encoded (before ++ after)) (encoded before).length = true := by
  unfold isBoundaryOf encoded
  rw [Bool.or_eq_true, List.flatMap_append, List.getElem?_append_right (Nat.le_refl _),
    Nat.sub_self]
  right
  cases after with
  | nil => simp
  | cons c after =>
    obtain ⟨first, rest, hc, hfirst, -⟩ := utf8EncodeChar_bytes c
    rw [List.flatMap_cons, hc]
    exact hfirst

/-- A byte that does not continue a character follows whole characters. -/
theorem append_of_isBoundaryOf (chars : List Char) (index : Nat)
    (h : isBoundaryOf (encoded chars) index = true) :
    ∃ before after, chars = before ++ after ∧ (encoded before).length = index := by
  induction chars generalizing index with
  | nil =>
    refine ⟨[], [], rfl, ?_⟩
    cases index with
    | zero => rfl
    | succ i => cases h
  | cons c chars ih =>
    by_cases hzero : index = 0
    · exact ⟨[], c :: chars, rfl, hzero.symm⟩
    obtain ⟨first, rest, hc, -, hrest⟩ := utf8EncodeChar_bytes c
    have hcons : encoded (c :: chars) = (first :: rest) ++ encoded chars := by
      unfold encoded
      rw [List.flatMap_cons, hc]
    unfold isBoundaryOf at h
    rw [decide_eq_false hzero, Bool.false_or, hcons, List.length_append] at h
    by_cases hinside : index < (first :: rest).length
    · -- inside the first character, after its first byte
      obtain ⟨i, rfl⟩ : ∃ i, index = i + 1 := ⟨index - 1, by omega⟩
      rw [List.getElem?_append_left hinside, List.getElem?_cons_succ] at h
      have hi : i < rest.length := by simpa using hinside
      rw [List.getElem?_eq_getElem hi, Option.elim_some, hrest _ (List.getElem_mem hi)] at h
      cases h
    · obtain ⟨i, rfl⟩ : ∃ i, index = (first :: rest).length + i :=
        ⟨index - (first :: rest).length, by omega⟩
      rw [List.getElem?_append_right (by omega), Nat.add_sub_cancel_left] at h
      -- past the first character the index counts from its end
      have htail : isBoundaryOf (encoded chars) i = true := by
        unfold isBoundaryOf
        rw [Bool.or_eq_true]
        right
        have hlength : ((first :: rest).length + i = (first :: rest).length + (encoded chars).length)
            ↔ i = (encoded chars).length := by omega
        rw [decide_eq_decide.mpr hlength] at h
        exact h
      obtain ⟨before, after, rfl, hlength⟩ := ih i htail
      refine ⟨c :: before, after, rfl, ?_⟩
      unfold encoded
      rw [List.flatMap_cons, hc, List.length_append]
      exact congrArg _ hlength

/-- A slice ends on a boundary where it takes whole characters. -/
theorem isCharBoundary_iff (s : String) (index : Nat) :
    isCharBoundary s index = true ↔
      ∃ before after, s.toList = before ++ after ∧ (encoded before).length = index := by
  constructor
  · intro h
    exact append_of_isBoundaryOf s.toList index h
  · intro h
    obtain ⟨before, after, hs, rfl⟩ := h
    unfold isCharBoundary asBytes
    rw [hs]
    exact isBoundaryOf_append before after

/-- In a text of ASCII every position is a boundary. -/
theorem isCharBoundary_ascii {s : String} (hascii : ∀ c ∈ s.toList, c.toNat < 128) {index : Nat}
    (hindex : index ≤ s.toList.length) : isCharBoundary s index = true := by
  rw [isCharBoundary_iff]
  refine ⟨s.toList.take index, s.toList.drop index, (List.take_append_drop index _).symm, ?_⟩
  rw [length_utf8_ascii _ fun c hc => hascii c (List.mem_of_mem_take hc), List.length_take]
  omega

/-! ## 2. Rendering with logs -/

/-- The first bytes of a payload, up to a hundred of them. -/
def payloadPreview (payload : String) : Option (List UInt8) :=
  sliceTo payload (min (byteLength payload) 100)

section Logged

-- the fields of a log event are computed only where someone takes events of its level, and the
-- functions return none where the code panics
variable (lib : Libraries) (debugEnabled : Bool)

def loggedParsePayload (payload : String) : Option Json :=
  if payload = "" then some .null
  else
    match lib.jsonFromStr payload with
    | .ok value => some value
    | .error _ =>
      if debugEnabled then (payloadPreview payload).map fun _ => .string payload
      else some (.string payload)

/-- `buildCloudEventData`, which parses the payload first. -/
def loggedCloudEventData (identifierParams : HashMap String) (payload : String)
    (metadata : Option (HashMap String)) : Option (Result CloudEventData) :=
  (loggedParsePayload lib debugEnabled payload).map fun payloadJson => do
    let identifier ← attachPolygon lib metadata (identifierParams.mapValues .string)
    let identifier ← attachPointCloud lib metadata identifier
    .ok { identifier := identifier, payload := payloadJson }

variable (events : CloudEventLibrary) (settings : Settings)

/-- What is read of the topic before the data is built. -/
def topicParams (notification : NotificationMessage) : Result (String × HashMap String) := do
  let topicBase ← withContext "Failed to extract topic base from notification topic"
    (deriveEventTypeFromTopic notification.topic)
  let eventType ← withContext "Failed to determine event type from topic"
    (findEventTypeFromTopicBase settings topicBase)
  let requestParams ← withContext "Failed to reconstruct request parameters from topic"
    (topicToRequest settings notification.topic eventType)
  .ok (eventType, requestParams)

def loggedCreateCloudEvent (now : DateTime) (notification : NotificationMessage)
    (baseUrl : String) : Option (Result CloudEvent) :=
  match topicParams settings notification with
  | .error e => some (.error e)
  | .ok (eventType, requestParams) =>
    (loggedCloudEventData lib debugEnabled requestParams notification.payload
      notification.metadata).map fun data => do
        let data ← data
        let event := messageEvent now notification baseUrl eventType data
        match events.buildError event with
        | some error => withContext "Failed to build CloudEvent" (bail error)
        | none => .ok event

/-- A notification that is rendered, or none where creating its event panics. -/
def loggedNotificationToSseEvent (now : DateTime) (formatStreamTimestamp : DateTime → String)
    (notification : NotificationMessage) (baseUrl : String) (eventType : SseEventType)
    (requestId : String) : Option (Result (String × SseFrameKind)) :=
  (loggedCreateCloudEvent lib debugEnabled events settings now notification baseUrl).map
    fun event =>
      let renderer : Renderer :=
        { createCloudEvent := fun _ _ => events.toValue <$> event
          jsonText := lib.jsonToString
          formatStreamTimestamp := formatStreamTimestamp }
      renderer.notificationToSseEvent notification baseUrl eventType requestId

end Logged

/-! ## 3. Where rendering panics -/

/-- Nothing is logged of the payload, or the preview ends on a boundary. -/
def PreviewSafe (lib : Libraries) (debugEnabled : Bool) (payload : String) : Prop :=
  debugEnabled = true → payload ≠ "" → (∀ value, lib.jsonFromStr payload ≠ .ok value) →
    100 < byteLength payload → isCharBoundary payload 100 = true

/-- A payload reaches its readers as it was stored. -/
structure KeepsPayload (lib : Libraries) (payload : String) (value : Json) : Prop where
  json : payload ≠ "" → ∀ parsed, lib.jsonFromStr payload = .ok parsed → value = parsed
  text : payload ≠ "" → ∀ e, lib.jsonFromStr payload = .error e → value = .string payload
  /-- no payload was stored -/
  empty : payload = "" → value = .null

theorem isCharBoundary_byteLength (s : String) : isCharBoundary s (byteLength s) = true := by
  rw [isCharBoundary_iff]
  exact ⟨s.toList, [], (List.append_nil _).symm, rfl⟩

theorem payloadPreview_isSome (payload : String) :
    (payloadPreview payload).isSome = true ↔
      (100 < byteLength payload → isCharBoundary payload 100 = true) := by
  have hslice : ∀ stop, (sliceTo payload stop).isSome = isCharBoundary payload stop := by
    intro stop
    unfold sliceTo
    cases isCharBoundary payload stop with
    | true => rfl
    | false => rfl
  unfold payloadPreview
  rw [hslice]
  by_cases hlong : 100 < byteLength payload
  · rw [Nat.min_eq_right (by omega)]
    exact ⟨fun h _ => h, fun h => h hlong⟩
  · rw [Nat.min_eq_left (by omega), isCharBoundary_byteLength]
    exact ⟨fun _ h => absurd h hlong, fun _ => rfl⟩

section Panics

variable (lib : Libraries) (debugEnabled : Bool)

theorem loggedParsePayload_isSome (payload : String) :
    (loggedParsePayload lib debugEnabled payload).isSome = true ↔
      PreviewSafe lib debugEnabled payload := by
  unfold loggedParsePayload PreviewSafe
  by_cases hempty : payload = ""
  · rw [if_pos hempty]
    exact ⟨fun _ _ hne => absurd hempty hne, fun _ => rfl⟩
  rw [if_neg hempty]
  cases hjson : lib.jsonFromStr payload with
  | ok value => exact ⟨fun _ _ _ hnone => absurd rfl (hnone value), fun _ => rfl⟩
  | error e =>
    cases debugEnabled with
    | false => exact ⟨fun _ hdebug => (Bool.false_ne_true hdebug).elim, fun _ => rfl⟩
    | true =>
      show ((payloadPreview payload).map _).isSome = true ↔ _
      rw [Option.isSome_map, payloadPreview_isSome]
      constructor
      · intro h _ _ _
        exact h
      · intro h
        exact h rfl hempty (by simp)

/-- What is logged does not change the value. -/
theorem loggedParsePayload_eq {payload : String} {value : Json}
    (h : loggedParsePayload lib debugEnabled payload = some value) :
    value = parsePayloadToJson lib payload := by
  unfold loggedParsePayload at h
  unfold parsePayloadToJson
  by_cases hempty : payload = ""
  · rw [if_pos hempty] at h ⊢
    exact (Option.some.inj h).symm
  rw [if_neg hempty] at h ⊢
  cases hjson : lib.jsonFromStr payload with
  | ok parsed =>
    rw [hjson] at h
    exact (Option.some.inj h).symm
  | error e =>
    rw [hjson] at h
    cases debugEnabled with
    | false => exact (Option.some.inj h).symm
    | true =>
      obtain ⟨_, -, hvalue⟩ := Option.map_eq_some_iff.mp h
      exact hvalue.symm

theorem keepsPayload (payload : String) :
    KeepsPayload lib payload (parsePayloadToJson lib payload) where
  json hne parsed hjson := by
    unfold parsePayloadToJson
    rw [if_neg hne, hjson]
  text hne e hjson := by
    unfold parsePayloadToJson
    rw [if_neg hne, hjson]
  empty hempty := by
    unfold parsePayloadToJson
    rw [if_pos hempty]

theorem loggedCloudEventData_eq (identifierParams : HashMap String) (payload : String)
    (metadata : Option (HashMap String)) :
    loggedCloudEventData lib debugEnabled identifierParams payload metadata =
      (loggedParsePayload lib debugEnabled payload).map fun _ =>
        buildCloudEventData lib identifierParams payload metadata := by
  unfold loggedCloudEventData
  cases hparse : loggedParsePayload lib debugEnabled payload with
  | none => rfl
  | some value =>
    cases loggedParsePayload_eq lib debugEnabled hparse
    rfl

variable (events : CloudEventLibrary) (settings : Settings)

theorem cloudEventAttributes_eq (now : DateTime) (notification : NotificationMessage)
    (baseUrl : String) :
    cloudEventAttributes lib settings now notification baseUrl =
      (topicParams settings notification >>= fun params =>
        buildCloudEventData lib params.2 notification.payload notification.metadata >>= fun data =>
          .ok (messageEvent now notification baseUrl params.1 data)) := by
  unfold cloudEventAttributes topicParams
  simp only [bind_assoc]
  rfl

/-- Creating an event panics only once the topic has been read. -/
theorem loggedCreateCloudEvent_eq (now : DateTime) (notification : NotificationMessage)
    (baseUrl : String) :
    loggedCreateCloudEvent lib debugEnabled events settings now notification baseUrl =
      if (topicParams settings notification).isOk then
        (loggedParsePayload lib debugEnabled notification.payload).map fun _ =>
          createCloudEvent lib events settings now notification baseUrl
      else some (createCloudEvent lib events settings now notification baseUrl) := by
  unfold loggedCreateCloudEvent createCloudEvent
  rw [cloudEventAttributes_eq]
  cases topicParams settings notification with
  | error e => rfl
  | ok params =>
    show ((loggedCloudEventData _ _ _ _ _).map _) = _
    rw [loggedCloudEventData_eq, Option.map_map]
    cases loggedParsePayload lib debugEnabled notification.payload with
    | none => rfl
    | some value =>
      show some (buildCloudEventData _ _ _ _ >>= _) =
        some ((buildCloudEventData _ _ _ _ >>= _) >>= _)
      rw [bind_assoc]
      rfl

/-- Rendering goes on unless the topic has been read and the preview panics. -/
theorem loggedNotification_isSome (now : DateTime) (formatStreamTimestamp : DateTime → String)
    (notification : NotificationMessage) (baseUrl : String) (eventType : SseEventType)
    (requestId : String) :
    (loggedNotificationToSseEvent lib debugEnabled events settings now formatStreamTimestamp
      notification baseUrl eventType requestId).isSome = true ↔
        ((topicParams settings notification).isOk = true →
          PreviewSafe lib debugEnabled notification.payload) := by
  unfold loggedNotificationToSseEvent
  rw [Option.isSome_map, loggedCreateCloudEvent_eq]
  by_cases hparams : (topicParams settings notification).isOk = true
  · rw [if_pos hparams, Option.isSome_map, loggedParsePayload_isSome]
    exact ⟨fun h _ => h, fun h => h hparams⟩
  · rw [if_neg hparams]
    exact ⟨fun _ h => absurd h hparams, fun _ => rfl⟩

theorem loggedNotification_eq {now : DateTime} {formatStreamTimestamp : DateTime → String}
    {notification : NotificationMessage} {baseUrl : String} {eventType : SseEventType}
    {requestId : String} {rendered : Result (String × SseFrameKind)}
    (h : loggedNotificationToSseEvent lib debugEnabled events settings now formatStreamTimestamp
      notification baseUrl eventType requestId = some rendered) :
    rendered = (cloudEventRenderer lib events settings now formatStreamTimestamp).notificationToSseEvent
      notification baseUrl eventType requestId := by
  unfold loggedNotificationToSseEvent at h
  obtain ⟨event, hevent, rfl⟩ := Option.map_eq_some_iff.mp h
  have hcreated : event = createCloudEvent lib events settings now notification baseUrl := by
    rw [loggedCreateCloudEvent_eq] at hevent
    by_cases hparams : (topicParams settings notification).isOk = true
    · rw [if_pos hparams] at hevent
      obtain ⟨_, -, hsame⟩ := Option.map_eq_some_iff.mp hevent
      exact hsame.symm
    · rw [if_neg hparams] at hevent
      exact (Option.some.inj hevent).symm
  rw [hcreated]
  unfold Renderer.notificationToSseEvent Renderer.formatSseEvent cloudEventRenderer
  rfl

end Panics

/-- What parsing a payload and rendering its message do at a level of logs. -/
structure PreviewLaws (lib : Libraries) (debugEnabled : Bool) : Prop where
  parse : ∀ payload,
    (∃ value, loggedParsePayload lib debugEnabled payload = some value ∧
      KeepsPayload lib payload value) ↔ PreviewSafe lib debugEnabled payload
  event : ∀ events settings now formatStreamTimestamp notification baseUrl eventType requestId,
    (∃ rendered, loggedNotificationToSseEvent lib debugEnabled events settings now
      formatStreamTimestamp notification baseUrl eventType requestId = some rendered) ↔
        ((∃ params, topicParams settings notification = .ok params) →
          PreviewSafe lib debugEnabled notification.payload)
  /-- What is rendered does not depend on the level. -/
  same : ∀ events settings now formatStreamTimestamp notification baseUrl eventType requestId
    rendered, loggedNotificationToSseEvent lib debugEnabled events settings now
      formatStreamTimestamp notification baseUrl eventType requestId = some rendered →
        rendered = (cloudEventRenderer lib events settings now
          formatStreamTimestamp).notificationToSseEvent notification baseUrl eventType requestId

theorem previewLaws (lib : Libraries) (debugEnabled : Bool) : PreviewLaws lib debugEnabled where
  parse payload := by
    rw [← loggedParsePayload_isSome, Option.isSome_iff_exists]
    apply exists_congr
    intro value
    constructor
    · intro h
      exact h.1
    · intro h
      refine ⟨h, ?_⟩
      rw [loggedParsePayload_eq lib debugEnabled h]
      exact keepsPayload lib payload
  event events settings now formatStreamTimestamp notification baseUrl eventType requestId := by
    have hok : (∃ params, topicParams settings notification = .ok params) ↔
        (topicParams settings notification).isOk = true := by
      cases topicParams settings notification with
      | ok params => exact ⟨fun _ => rfl, fun _ => ⟨params, rfl⟩⟩
      | error e =>
        constructor
        · intro h
          obtain ⟨_, h⟩ := h
          cases h
        · intro h
          cases h
    rw [hok, ← loggedNotification_isSome, Option.isSome_iff_exists]
  same events settings now formatStreamTimestamp notification baseUrl eventType requestId
      rendered h := loggedNotification_eq lib debugEnabled events settings h

/-- A payload of ASCII is rendered at every level. -/
theorem previewSafe_ascii (lib : Libraries) (debugEnabled : Bool) {payload : String}
    (hascii : ∀ c ∈ payload.toList, c.toNat < 128) : PreviewSafe lib debugEnabled payload := by
  intro _ _ _ hlong
  apply isCharBoundary_ascii hascii
  rw [byteLength_ascii hascii] at hlong
  omega

-- 99 letters and one of two bytes, so that the hundredth byte is inside it
def accentedPayload : String := String.ofList (List.replicate 99 'a' ++ ['é'])

theorem accentedPayload_panics :
    ¬ ∀ debugEnabled payload, ∃ value,
      loggedParsePayload plainLibraries debugEnabled payload = some value ∧
        KeepsPayload plainLibraries payload value := by
  intro h
  obtain ⟨value, hvalue, -⟩ := h true accentedPayload
  have hpanics : loggedParsePayload plainLibraries true accentedPayload = none := by
    decide +kernel
  rw [hpanics] at hvalue
  cases hvalue

end AvisoServer
