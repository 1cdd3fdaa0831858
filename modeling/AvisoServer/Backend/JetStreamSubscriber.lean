import AvisoServer.Backend.ReplayAgreement

/-!
# The JetStream subscriber

A subscription creates a consumer that starts behind the youngest message of the stream, and its
cursor at that moment is the end of the history. The message stream drops what it cannot read, what
it cannot transform and what the second filter rejects.
-/

namespace AvisoServer

/-! ## 1. Creating a subscription -/

/-- The calls a subscription makes to the server. The consumer is created with the policy that
delivers new messages only; what comes back is the `delivered.stream_sequence` of its first info. -/
structure JetStreamSubscriber where
  ensureStreamForTopic : String → Result Unit
  createConsumer : String → String → Result Nat
  messages : Result Unit

def createSubscriptionInternal (server : JetStreamSubscriber) (topic : String) :
    Result Subscription := do
  let (backendPattern, appFilterPattern) ← analyzeWatchPattern topic
  withContext "Failed to ensure stream exists for topic subscription"
    (server.ensureStreamForTopic backendPattern)
  let streamName ← withContext "Failed to derive stream name from backend pattern"
    (deriveStreamNameFromTopic backendPattern)
  let historyEnd ← withContext "Failed to create JetStream consumer"
    (server.createConsumer streamName backendPattern)
  withContext "Failed to get message stream from consumer" server.messages
  .ok { appFilterPattern := appFilterPattern, historyEnd := historyEnd }

def applyMessageFilter (message : NotificationMessage) (appFilterPattern : List String) :
    Option NotificationMessage :=
  if matchesWatchPattern message.topic appFilterPattern then some message else none

/-- What the subscription's stream makes of an item of the consumer's message stream. -/
def subscribedMessage (fromUtf8Lossy : List UInt8 → String) (appFilterPattern : List String)
    (msgResult : Result JetStreamMessage) : Option NotificationMessage :=
  match msgResult with
  | .ok jetstreamMsg =>
    match transformJetstreamMessage fromUtf8Lossy jetstreamMsg with
    | .ok notificationMessage => applyMessageFilter notificationMessage appFilterPattern
    | .error _ => none
  | .error _ => none

/-! ## 2. The stream on the server -/

/-- What a stream holds, and the last sequence it has given; the sequence stays when entries go. -/
structure JetStreamStream where
  history : History
  lastSequence : Nat
  bounded : ∀ e ∈ history.entries, e.sequence ≤ lastSequence

/-- A publish stores an entry under the next sequence, and limits may discard older ones; entries
may also be removed. -/
inductive JetStreamStream.Step : JetStreamStream → Option HistoryEntry → JetStreamStream → Prop where
  | publish {before after : JetStreamStream} {e : HistoryEntry} {kept : List HistoryEntry}
      (hbase : after.history.base = before.history.base)
      (hkept : kept.Sublist before.history.entries)
      (hentries : after.history.entries = kept ++ [e])
      (hsequence : e.sequence = before.lastSequence + 1)
      (hlast : after.lastSequence = e.sequence) : JetStreamStream.Step before (some e) after
  | remove {before after : JetStreamStream}
      (hbase : after.history.base = before.history.base)
      (hentries : after.history.entries.Sublist before.history.entries)
      (hlast : after.lastSequence = before.lastSequence) : JetStreamStream.Step before none after

theorem JetStreamStream.Step.last_le {before after : JetStreamStream} {sent : Option HistoryEntry}
    (h : JetStreamStream.Step before sent after) : before.lastSequence ≤ after.lastSequence := by
  cases h with
  | publish _ _ _ hsequence hlast => omega
  | remove _ _ hlast => omega

/-- A consumer that delivers new messages only starts behind the youngest message of its stream,
with any filter. -/
def JetStreamSubscriber.StartsAtTail (server : JetStreamSubscriber) (stream : JetStreamStream) :
    Prop :=
  ∀ streamName filterSubject cursor,
    server.createConsumer streamName filterSubject = .ok cursor → cursor = stream.lastSequence

/-- The next entry a consumer with this filter delivers. -/
def JetStreamStream.nextEntry (stream : JetStreamStream) (streamName filterSubject : String)
    (position : Nat) : Option HistoryEntry :=
  (stream.history.selected streamName filterSubject (.byStartSequence (position + 1))).head?

section Subscribing

variable {watchBase : String} {tokens fixed : List String} {stream : JetStreamStream}

/-- A subscription returns the exact pattern of the topic and the tail of the stream. -/
theorem createSubscriptionInternal_eq {server : JetStreamSubscriber}
    (hfixed : CoarsePattern watchBase tokens fixed) (htail : server.StartsAtTail stream)
    {subscription : Subscription}
    (h : createSubscriptionInternal server (encodeSubject (watchBase :: tokens)) =
      .ok subscription) :
    subscription.appFilterPattern = watchBase :: tokens ∧
      subscription.historyEnd = stream.lastSequence := by
  simp only [createSubscriptionInternal, hfixed.analyzed, hfixed.streamName, withContext_ok, bind,
    Except.bind] at h
  cases hensure : server.ensureStreamForTopic (encodeSubject (watchBase :: fixed) ++ ".>") with
  | error e =>
    rw [hensure] at h
    cases h
  | ok _ =>
    cases hcreate : server.createConsumer (toAsciiUppercase watchBase)
        (encodeSubject (watchBase :: fixed) ++ ".>") with
    | error e =>
      rw [hensure, hcreate] at h
      cases h
    | ok cursor =>
      rw [hensure, hcreate] at h
      cases hmessages : server.messages with
      | error e =>
        rw [hmessages] at h
        cases h
      | ok _ =>
        rw [hmessages] at h
        cases h
        exact ⟨rfl, htail _ _ _ hcreate⟩

theorem subscribedMessage_raw {fromUtf8Lossy : List UInt8 → String}
    {raw : HistoryEntry → JetStreamMessage} (hsubject : ∀ e, (raw e).subject = e.topic)
    (hinfo : ∀ e, (raw e).info = .ok { streamSequence := e.sequence, published := e.timestamp })
    (pattern : List String) (e : HistoryEntry) :
    subscribedMessage fromUtf8Lossy pattern (.ok (raw e)) =
      if matchesWatchPattern e.topic pattern then some (notificationOf fromUtf8Lossy raw e)
      else none := by
  simp only [subscribedMessage, transformJetstreamMessage_raw fromUtf8Lossy hsubject hinfo,
    applyMessageFilter]
  rfl

/-- The next entry is stored and lies behind the consumer's cursor. -/
theorem nextEntry_spec {streamName filterSubject : String} {position : Nat} {e : HistoryEntry}
    (h : stream.nextEntry streamName filterSubject position = some e) :
    e ∈ stream.history.entries ∧ position < e.sequence := by
  have he := List.mem_of_head? h
  have hsatisfies := (List.mem_filter.mp he).2
  rw [Bool.and_eq_true] at hsatisfies
  exact ⟨selected_mem he, of_decide_eq_true hsatisfies.1⟩

/-- A stored entry that matches the pattern and lies behind the cursor is not skipped: the next
entry is it, or an older one. -/
theorem nextEntry_no_skip (hwatch : isTopicBase watchBase = true)
    (hfixed : CoarsePattern watchBase tokens fixed) {position : Nat} {e next : HistoryEntry}
    (he : e ∈ stream.history.entries)
    (hmatch : matchesWatchPattern e.topic (watchBase :: tokens) = true)
    (hposition : position < e.sequence)
    (hnext : stream.nextEntry (toAsciiUppercase watchBase)
      (encodeSubject (watchBase :: fixed) ++ ".>") position = some next) :
    e = next ∨ next.sequence < e.sequence := by
  have hselected : e ∈ stream.history.selected (toAsciiUppercase watchBase)
      (encodeSubject (watchBase :: fixed) ++ ".>") (.byStartSequence (position + 1)) :=
    mem_selected_of_matches hwatch hfixed he hmatch (decide_eq_true hposition)
  have hincreasing := selected_increasing stream.history (toAsciiUppercase watchBase)
    (encodeSubject (watchBase :: fixed) ++ ".>") (.byStartSequence (position + 1))
  obtain ⟨rest, hrest⟩ := List.head?_eq_some_iff.mp hnext
  rw [hrest] at hselected hincreasing
  rcases List.mem_cons.mp hselected with heq | hmem
  · exact Or.inl heq
  · exact Or.inr ((List.pairwise_cons.mp hincreasing).1 e hmem)

end Subscribing

end AvisoServer
