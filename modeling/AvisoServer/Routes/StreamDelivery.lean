import AvisoServer.Backend.JetStreamSubscriber
import AvisoServer.Lib.StreamPromises
import AvisoServer.Routes.ProtectedStreams
import AvisoServer.Sse.ReplayQuota
import AvisoServer.Sse.Streams

/-!
# Delivery to readers

From the request to the frames of its stream: whatever the backends answer and however the stream is
polled, it shows only messages that match the topic of the request, and those of a protected stream
to nobody but its readers.
-/

namespace AvisoServer

open PollStream

/-! ## 1. What the backends answer -/

/-- The pattern of the topic matches the message. -/
def OnTopic (topic : String) (m : NotificationMessage) : Prop :=
  ∃ coarse pattern, analyzeWatchPattern topic = .ok (coarse, pattern) ∧
    matchesWatchPattern m.topic pattern = true

theorem getMessagesBatch_onTopic {state : BackendState} {params : BatchParams}
    {batch : BatchResult} (h : getMessagesBatch state params = .ok batch) :
    ∀ m ∈ batch.messages, OnTopic params.topic m := by
  cases hpattern : analyzeWatchPattern params.topic with
  | error e =>
    simp only [getMessagesBatch, hpattern, bind, Except.bind] at h
    cases h
  | ok analysed =>
    obtain ⟨coarse, pattern⟩ := analysed
    obtain ⟨found, hfound, hpage⟩ := getMessagesBatch_page state params coarse pattern hpattern
    cases h.symm.trans hfound
    intro m hm
    have hitems : batch.messages =
        (replaySelection state pattern params.startAt params.endSequence).take params.limit :=
      congrArg Paging.Page.items hpage
    rw [hitems] at hm
    have hselected := List.mem_of_mem_take hm
    rw [replaySelection, sortBySequence, (List.perm_insertionSort _ _).mem_iff, List.mem_filter,
      Bool.and_eq_true, Bool.and_eq_true] at hselected
    exact ⟨coarse, pattern, hpattern, hselected.2.1.1⟩

section JetStream

variable {fromUtf8Lossy : List UInt8 → String} {pattern : List String}

/-- The loop over the fetched messages keeps only messages that match. -/
theorem readMessages_matching {limit endSequence : Nat} {messages : List (Result JetStreamMessage)}
    {read after : ReplayRead}
    (h : readMessages fromUtf8Lossy pattern limit endSequence messages read = .ok after)
    (hread : ∀ m ∈ read.filteredMessages, matchesWatchPattern m.topic pattern = true) :
    ∀ m ∈ after.filteredMessages, matchesWatchPattern m.topic pattern = true := by
  -- a message that cannot be transformed or does not match adds nothing
  have hprocess : ∀ (read : ReplayRead) (sequence : Nat) (msg : JetStreamMessage),
      (∀ m ∈ read.filteredMessages, matchesWatchPattern m.topic pattern = true) →
      ∀ m ∈ (read.process fromUtf8Lossy pattern sequence msg).filteredMessages,
        matchesWatchPattern m.topic pattern = true := by
    intro read sequence msg hread m hm
    unfold ReplayRead.process at hm
    cases hmsg : transformJetstreamMessage fromUtf8Lossy msg with
    | error e =>
      simp only [hmsg] at hm
      exact hread m hm
    | ok notification =>
      simp only [hmsg] at hm
      by_cases hmatch : matchesWatchPattern notification.topic pattern = true
      · rw [if_pos hmatch] at hm
        cases List.mem_append.mp hm with
        | inl hold => exact hread m hold
        | inr hnew => rw [List.mem_singleton.mp hnew]; exact hmatch
      · rw [if_neg hmatch] at hm
        exact hread m hm
  induction messages generalizing read with
  | nil =>
    cases h
    exact hread
  | cons msgResult rest ih =>
    unfold readMessages at h
    obtain ⟨msg, -, h⟩ := bind_eq_ok.mp h
    obtain ⟨info, -, h⟩ := bind_eq_ok.mp h
    have hnext := hprocess read info.streamSequence msg hread
    simp only at h
    -- past the end, at the end, with a full batch, or on to the next message
    split_ifs at h
    · cases h
      exact hread
    · cases h
      exact hnext
    · cases h
      exact hnext
    · exact ih h hnext

theorem jetstreamGetMessagesBatch_onTopic {server : JetStreamServer} {call : Nat}
    {params : BatchParams} {batch : BatchResult}
    (h : jetstreamGetMessagesBatch fromUtf8Lossy server call params = .ok batch) :
    ∀ m ∈ batch.messages, OnTopic params.topic m := by
  unfold jetstreamGetMessagesBatch at h
  obtain ⟨⟨coarse, pattern⟩, hpattern, h⟩ := bind_eq_ok.mp h
  obtain ⟨-, -, h⟩ := bind_eq_ok.mp h
  obtain ⟨streamName, -, h⟩ := bind_eq_ok.mp h
  obtain ⟨-, -, h⟩ := bind_eq_ok.mp h
  obtain ⟨streamState, -, h⟩ := bind_eq_ok.mp h
  simp only at h
  split_ifs at h with hnothing
  · cases h
    intro m hm
    cases hm
  · obtain ⟨deliverPolicy, -, h⟩ := bind_eq_ok.mp h
    obtain ⟨-, -, h⟩ := bind_eq_ok.mp h
    obtain ⟨messages, -, h⟩ := bind_eq_ok.mp h
    unfold readReplayBatch at h
    obtain ⟨read, hread, h⟩ := bind_eq_ok.mp h
    cases h
    intro m hm
    exact ⟨coarse, pattern, hpattern, readMessages_matching hread (fun m hm => by cases hm) m hm⟩

theorem subscribedMessage_matching {item : Result JetStreamMessage} {m : NotificationMessage}
    (h : subscribedMessage fromUtf8Lossy pattern item = some m) :
    matchesWatchPattern m.topic pattern = true := by
  unfold subscribedMessage at h
  cases item with
  | error e => cases h
  | ok msg =>
    cases hmsg : transformJetstreamMessage fromUtf8Lossy msg with
    | error e =>
      simp only [hmsg] at h
      cases h
    | ok notification =>
      simp only [hmsg, applyMessageFilter] at h
      split_ifs at h with hmatch
      cases h
      exact hmatch

end JetStream

theorem Subscription.next_matching {subscription : Subscription}
    {received rest : List (Except RecvError NotificationMessage)} {m : NotificationMessage}
    (h : subscription.next received = some (m, rest)) :
    matchesWatchPattern m.topic subscription.appFilterPattern = true := by
  induction received with
  | nil => cases h
  | cons item received ih =>
    match item with
    | .ok message =>
      rw [Subscription.next] at h
      by_cases hmatch : matchesWatchPattern message.topic subscription.appFilterPattern = true
      · rw [if_pos hmatch] at h
        cases h
        exact hmatch
      · rw [if_neg hmatch] at h
        exact ih h
    -- a lag is only warned of, and a closed channel ends the stream
    | .error (.lagged _) => exact ih h
    | .error .closed => cases h

/-- What a subscription to the topic hands out: both backends filter by the exact pattern. -/
inductive Received (topic : String) (m : NotificationMessage) : Prop where
  | inMemory (state : BackendState) (subscription : Subscription)
      (hsubscription : subscribeToTopic state topic = .ok subscription)
      (received rest : List (Except RecvError NotificationMessage))
      (hnext : subscription.next received = some (m, rest))
  | jetstream (fromUtf8Lossy : List UInt8 → String) (item : Result JetStreamMessage)
      (coarse : String) (pattern : List String)
      (hpattern : analyzeWatchPattern topic = .ok (coarse, pattern))
      (hitem : subscribedMessage fromUtf8Lossy pattern item = some m)

/-- The sources of a stream for the topic are one of the backends, in whatever state. -/
structure SourcePoll.Backed (topic : String) (poll : SourcePoll) : Prop where
  fetches : ∀ fetch ∈ poll.fetches,
    (∃ state, fetch.2 = getMessagesBatch state) ∨
      ∃ fromUtf8Lossy server call, fetch.2 = jetstreamGetMessagesBatch fromUtf8Lossy server call
  received : ∀ m, some m ∈ poll.received → Received topic m

theorem Received.onTopic {topic : String} {m : NotificationMessage} (h : Received topic m) :
    OnTopic topic m := by
  cases h with
  | inMemory state subscription hsubscription received rest hnext =>
    unfold subscribeToTopic at hsubscription
    obtain ⟨⟨coarse, pattern⟩, hpattern, hresult⟩ := bind_eq_ok.mp hsubscription
    cases hresult
    exact ⟨coarse, pattern, hpattern, Subscription.next_matching hnext⟩
  | jetstream fromUtf8Lossy item coarse pattern hpattern hitem =>
    exact ⟨coarse, pattern, hpattern, subscribedMessage_matching hitem⟩

theorem SourcePoll.Backed.fetched {topic : String} {poll : SourcePoll} (h : poll.Backed topic)
    {fetch : DateTime × (BatchParams → Result BatchResult)} (hfetch : fetch ∈ poll.fetches)
    {params : BatchParams} (htopic : params.topic = topic) {batch : BatchResult}
    (hbatch : fetch.2 params = .ok batch) : ∀ m ∈ batch.messages, OnTopic topic m := by
  subst htopic
  rcases h.fetches fetch hfetch with ⟨state, hanswer⟩ | ⟨fromUtf8Lossy, server, call, hanswer⟩
  · rw [hanswer] at hbatch
    exact getMessagesBatch_onTopic hbatch
  · rw [hanswer] at hbatch
    exact jetstreamGetMessagesBatch_onTopic hbatch

/-! ## 2. What a stream shows -/

/-- The frame was made from the message. -/
def StreamFrame.Shows (request : ReplayRequest) (m : NotificationMessage) : StreamFrame → Prop
  | .notification shown _ => shown = m
  | .rendered bytes kind =>
    request.renderer.frameToSseBytes (.notification m .replay) request.baseUrl request.requestId =
      .ok (bytes, kind)
  | _ => False

/-- The frame has something of a message in it. -/
def StreamFrame.carriesMessage : StreamFrame → Bool
  | .notification _ _ => true
  | .rendered _ _ => true
  | _ => false

/-- What the frame has of a message is of one that satisfies `shown`. -/
def StreamFrame.ShowsOnly (request : ReplayRequest) (shown : NotificationMessage → Prop)
    (frame : StreamFrame) : Prop :=
  frame.carriesMessage = true → ∃ m, shown m ∧ frame.Shows request m

section Frames

variable {request : ReplayRequest} {shown : NotificationMessage → Prop}

theorem batchFrames_showsOnly {topic : String} {now : DateTime}
    {messages : List NotificationMessage} {delivered : Nat} (h : ∀ m ∈ messages, shown m) :
    ∀ frame ∈ (batchFrames request topic now messages delivered).frames,
      frame.ShowsOnly request shown := by
  induction messages generalizing delivered with
  | nil =>
    intro frame hframe
    cases hframe
  | cons message rest ih =>
    have hrest : ∀ delivered, ∀ frame ∈ (batchFrames request topic now rest delivered).frames,
        frame.ShowsOnly request shown := fun delivered =>
      ih fun m hm => h m (List.mem_cons_of_mem message hm)
    have hprepend : ∀ (first : StreamFrame) (delivered : Nat), first.ShowsOnly request shown →
        ∀ frame ∈ (BatchFrames.prepend [first] (batchFrames request topic now rest delivered)).frames,
          frame.ShowsOnly request shown := by
      intro first delivered hfirst frame hframe
      cases List.mem_cons.mp hframe with
      | inl hsame => exact hsame ▸ hfirst
      | inr hlater => exact hrest delivered frame hlater
    unfold batchFrames
    by_cases hkeep : request.keep message = true
    · rw [if_pos hkeep]
      cases hrender : request.renderer.frameToSseBytes (.notification message .replay)
          request.baseUrl request.requestId with
      | error e => exact hprepend _ _ fun hcarries => by cases hcarries
      | ok rendered =>
        obtain ⟨bytes, kind⟩ := rendered
        have hshown : (StreamFrame.rendered bytes kind).ShowsOnly request shown :=
          fun _ => ⟨message, h message List.mem_cons_self, hrender⟩
        simp only
        split_ifs
        · exact hprepend _ _ hshown
        · -- beyond the quota there is only the control frame
          intro frame hframe
          rw [List.mem_singleton.mp hframe]
          intro hcarries
          cases hcarries
        · exact hprepend _ _ hshown
    · rw [if_neg hkeep]
      exact hrest delivered

/-- One step of the unfold shows only messages of its batch, and asks for the same topic again. -/
theorem replayStep_showsOnly {now : DateTime} {answer : Result BatchResult} {state : ReplayState}
    (h : ∀ batch, answer = .ok batch → ∀ m ∈ batch.messages, shown m) :
    (replayStep request now answer state).1.cursor.params.topic = state.cursor.params.topic ∧
      ∀ frame ∈ (replayStep request now answer state).2, frame.ShowsOnly request shown := by
  cases answer with
  | ok batch =>
    refine ⟨?_, batchFrames_showsOnly (h batch rfl)⟩
    show (state.cursor.advance batch).params.topic = _
    unfold BatchCursor.advance
    cases batch.nextSequence with
    | none => rfl
    | some nextSeq => rfl
  | error e =>
    refine ⟨rfl, fun frame hframe => ?_⟩
    rw [List.mem_singleton.mp hframe]
    intro hcarries
    cases hcarries

variable {topic : String}

/-- The state of a history that asks for the topic and has only its messages in hand. -/
def HistoryState.OnTopic (request : ReplayRequest) (topic : String) (st : HistoryState) : Prop :=
  st.replay.cursor.params.topic = topic ∧
    ∀ frame ∈ st.frames, frame.ShowsOnly request (AvisoServer.OnTopic topic)

/-- A frame in hand is yielded before anything is fetched. -/
theorem HistoryState.OnTopic.inHand {replay : ReplayState} {first : StreamFrame}
    {rest : List StreamFrame}
    (hst : HistoryState.OnTopic request topic { replay := replay, frames := first :: rest }) :
    HistoryState.OnTopic request topic { replay := replay, frames := rest } ∧
      ∀ frame, Poll.ready (some first) = .ready (some frame) →
        frame.ShowsOnly request (AvisoServer.OnTopic topic) := by
  refine ⟨⟨hst.1, fun frame hframe => hst.2 frame (List.mem_cons_of_mem first hframe)⟩, ?_⟩
  intro frame hframe
  cases hframe
  exact hst.2 first List.mem_cons_self

theorem pollHistory_onTopic {fetches : List (DateTime × (BatchParams → Result BatchResult))}
    {st : HistoryState} (hst : st.OnTopic request topic)
    (hfetches : ∀ fetch ∈ fetches, ∀ params : BatchParams, params.topic = topic → ∀ batch,
      fetch.2 params = .ok batch → ∀ m ∈ batch.messages, OnTopic topic m) :
    (pollHistory request fetches st).2.OnTopic request topic ∧
      ∀ frame, (pollHistory request fetches st).1 = .ready (some frame) →
        frame.ShowsOnly request (OnTopic topic) := by
  induction fetches generalizing st with
  | nil =>
    obtain ⟨replay, frames⟩ := st
    cases frames with
    | nil =>
      refine ⟨hst, fun frame hframe => ?_⟩
      unfold pollHistory at hframe
      split_ifs at hframe
      cases hframe
    | cons first rest => exact hst.inHand
  | cons fetch fetches ih =>
    obtain ⟨replay, frames⟩ := st
    obtain ⟨now, answer⟩ := fetch
    cases frames with
    | nil =>
      unfold pollHistory
      split_ifs with hmore
      · -- the cursor still asks for the topic that it was opened with
        have hanswer := fun batch => hfetches (now, answer) List.mem_cons_self replay.cursor.params
          hst.1 batch
        obtain ⟨htopic, hframes⟩ := @replayStep_showsOnly request (OnTopic topic) now
          (answer replay.cursor.params) replay hanswer
        exact ih ⟨htopic.trans hst.1, hframes⟩
          fun fetch hfetch => hfetches fetch (List.mem_cons_of_mem _ hfetch)
      · exact ⟨hst, fun frame hframe => by cases hframe⟩
    | cons first rest => exact hst.inHand

theorem pollLive_onTopic {keep : NotificationMessage → Bool}
    {received : List (Option NotificationMessage)}
    (h : ∀ m, some m ∈ received → OnTopic topic m) (frame : StreamFrame)
    (hframe : pollLive keep received = .ready (some frame)) :
    frame.ShowsOnly request (OnTopic topic) := by
  induction received with
  | nil => cases hframe
  | cons answer received ih =>
    cases answer with
    | none => cases hframe
    | some message =>
      unfold pollLive at hframe
      split_ifs at hframe with hkeep
      · cases hframe
        exact fun _ => ⟨message, h message List.mem_cons_self, rfl⟩
      · exact ih (fun m hm => h m (List.mem_cons_of_mem _ hm)) hframe

end Frames

/-! ## 3. The streams -/

section Streams

variable {setup : StreamSetup}

/-- A stream of frames that has nothing in it but messages on the topic of the set-up. -/
abbrev StreamSetup.StaysOnTopic {σ : Type} (setup : StreamSetup)
    (stream : PollStream σ SourcePoll StreamFrame) : Prop :=
  stream.Promises (SourcePoll.Backed setup.topic)
    (StreamFrame.ShowsOnly setup.request (OnTopic setup.topic))

theorem onceFrame_onTopic {which : FixedFrames} {frame : StreamFrame}
    (h : frame.carriesMessage = false) : setup.StaysOnTopic (onceFrame which frame) := by
  apply Promises.iter
  intro x hx
  rw [List.mem_singleton.mp hx]
  intro hcarries
  rw [h] at hcarries
  cases hcarries

theorem historicalStream_onTopic (startAt : StartAt) (endSequence : Nat) :
    setup.StaysOnTopic (setup.historicalStream startAt endSequence) := by
  refine ⟨HistoryState.OnTopic setup.request setup.topic,
    ⟨rfl, fun frame hframe => by cases hframe⟩, ?_⟩
  intro poll st hpoll hst
  unfold StreamSetup.historicalStream createHistoricalReplayStream
  by_cases hready : poll.ready .batch = true
  · simp only [if_pos hready]
    exact pollHistory_onTopic hst fun fetch hfetch params htopic batch hbatch =>
      hpoll.fetched hfetch htopic hbatch
  · simp only [if_neg hready]
    exact ⟨hst, fun frame hframe => by cases hframe⟩

theorem liveNotificationStream_onTopic :
    setup.StaysOnTopic (createLiveNotificationStream setup.request.keep) :=
  ⟨fun _ => True, trivial, fun _ _ hpoll _ => ⟨trivial,
    pollLive_onTopic fun m hm => (hpoll.received m hm).onTopic⟩⟩

theorem heartbeatStream_onTopic : setup.StaysOnTopic (createHeartbeatStream setup.topic) := by
  refine ⟨fun _ => True, trivial, fun poll _ _ _ => ⟨trivial, fun frame hframe => ?_⟩⟩
  unfold createHeartbeatStream at hframe
  cases htick : poll.tick with
  | none =>
    simp only [htick] at hframe
    cases hframe
  | some timestamp =>
    simp only [htick] at hframe
    cases hframe
    exact fun hcarries => by cases hcarries

theorem lifecycle_onTopic {σ : Type} {stream : PollStream σ SourcePoll StreamFrame}
    (h : setup.StaysOnTopic stream) (maxDuration : Option Nat) :
    (applyStreamLifecycle stream setup.topic maxDuration setup.request.requestId).Promises
      (fun poll => poll.source.Backed setup.topic)
      (StreamFrame.ShowsOnly setup.request (OnTopic setup.topic)) :=
  h.stopAfter.comap.takeUntil.endWith fun _ _ hcarries => by cases hcarries

variable (setup)

/-- The frames of the streams that the handlers open, in some schedule of polls. -/
inductive StreamSetup.Sends (schedule : List (SelectPoll SourcePoll)) : List StreamFrame → Prop where
  | watch : StreamSetup.Sends schedule
      (setup.createWatchSseStream.run schedule setup.createWatchSseStream.init).1
  | historicalThenLive (startAt : StartAt) (subscription : Subscription) :
      StreamSetup.Sends schedule
        ((setup.createHistoricalThenLiveStream startAt subscription).run schedule
          (setup.createHistoricalThenLiveStream startAt subscription).init).1
  | replayOnly (startAt : StartAt) (endAt : EndAt) (endSequence : Nat) :
      StreamSetup.Sends schedule
        ((setup.createReplayOnlyStream startAt endAt endSequence).run schedule
          (setup.createReplayOnlyStream startAt endAt endSequence).init).1

variable {setup}

/-- Whatever the backends answer at the polls, a stream shows only messages on its topic. -/
theorem StreamSetup.Sends.onTopic {schedule : List (SelectPoll SourcePoll)}
    {frames : List StreamFrame} (h : setup.Sends schedule frames)
    (hbacked : ∀ poll ∈ schedule, poll.source.Backed setup.topic) :
    ∀ frame ∈ frames, frame.ShowsOnly setup.request (OnTopic setup.topic) := by
  cases h with
  | watch =>
    exact (lifecycle_onTopic ((onceFrame_onTopic rfl).chain
      (liveNotificationStream_onTopic.merge heartbeatStream_onTopic)) _).run hbacked
  | historicalThenLive startAt subscription =>
    exact (lifecycle_onTopic ((onceFrame_onTopic rfl).chain
      (((historicalStream_onTopic startAt subscription.historyEnd).chain
        ((onceFrame_onTopic rfl).chain liveNotificationStream_onTopic)).merge
          heartbeatStream_onTopic)) _).run hbacked
  | replayOnly startAt endAt endSequence =>
    exact (lifecycle_onTopic (((onceFrame_onTopic rfl).chain
      (historicalStream_onTopic startAt endSequence)).chain (onceFrame_onTopic rfl)) _).run hbacked

end Streams

/-! ## 4. Readers -/

/-- A topic that matches a message of the base reaches the base. -/
theorem OnTopic.reaches {topic base : String} {m : NotificationMessage} (h : OnTopic topic m)
    (hbase : ∃ rest, decodeSubject m.topic = .ok (base :: rest)) : Reaches topic base := by
  obtain ⟨coarse, pattern, hpattern, hmatch⟩ := h
  obtain ⟨rest, hrest⟩ := hbase
  exact Or.inr ⟨coarse, pattern, m.topic, rest, hpattern, hrest, hmatch⟩

/-- Whatever a stream shows of a message under a protected base, it shows to one of its readers:
over any backend, from any state of the server and in any schedule of polls. -/
theorem deliveredToReaders {σ : Type} {server : Server σ} {debugStrings : List String → String}
    {ecpds : Bool} (haccepted : server.settings.validate debugStrings ecpds = .ok ())
    (henabled : server.settings.auth.enabled = true)
    (hstrict : server.settings.resolveNotificationSchemaStrict = true)
    {owner base : String} {streamAuth : StreamAuthConfig}
    (hprotects : server.settings.Protects owner streamAuth base) {request : HttpRequest}
    {state : ServerState σ} {context : StreamingRequestContext}
    (hanswer : (server.handle request state).2 = .stream context) {setup : StreamSetup}
    (htopic : setup.topic = context.result.topic) {schedule : List (SelectPoll SourcePoll)}
    (hbacked : ∀ poll ∈ schedule, poll.source.Backed setup.topic) {frames : List StreamFrame}
    (hsends : setup.Sends schedule frames) :
    ∀ frame ∈ frames, frame.ShowsOnly setup.request fun m =>
      OnTopic context.result.topic m ∧
        ((∃ rest, decodeSubject m.topic = .ok (base :: rest)) →
          ∃ handler u, server.middleware.serve request.service = some (handler, some u) ∧
            streamAuth.Permits server.settings.auth u .read) := by
  intro frame hframe hcarries
  obtain ⟨m, hon, hshows⟩ := hsends.onTopic hbacked frame hframe hcarries
  rw [htopic] at hon
  refine ⟨m, ⟨hon, fun hbase => ?_⟩, hshows⟩
  obtain ⟨handler, user, notification, operation, hserve, -, hcontext⟩ := handle_stream hanswer
  obtain ⟨hauth, hprocess⟩ := streamingContext_eq_ok hcontext
  -- what the topic reaches was authorised when the stream was opened
  obtain ⟨u, rfl, hreader⟩ := permits_of_authorized haccepted henabled hprotects.required
    (authorized_of_accepted haccepted henabled (Or.inl hstrict) hprocess hauth hprotects
      (hon.reaches hbase))
  exact ⟨handler, u, hserve, hreader⟩

def Answer.context : Answer → Option StreamingRequestContext
  | .stream context => some context
  | _ => none

-- an administrator's watch of the guarded stream, to which one notification is pushed
def guardedWatch : StreamSetup where
  settings := WatchEndpointSettings.default
  topic := "secret.od"
  request := { oneOdRequest with keep := fun _ => true }
  createdAt := 1
  completionCreatedAt := 1

def pushedOd : SelectPoll SourcePoll where
  source :=
    { ready := fun _ => true
      fetches := []
      received := [some ⟨1, "secret.od", "1", some 1, none⟩]
      tick := none }
  cancelled := false
  elapsed := false
  now := 2
  shutdownFirst := false

theorem deliveredToReaders_guarded :
    ∃ context,
      (guardedServer.handle (sampleRequest .post "/api/v1/watch" "od" (some "d.e.f"))
        (guardedServer.start BackendState.initial)).2 = .stream context ∧
      (guardedWatch.createWatchSseStream.run [pushedOd, pushedOd]
        guardedWatch.createWatchSseStream.init).1.length = 2 ∧
      ∀ frame ∈ (guardedWatch.createWatchSseStream.run [pushedOd, pushedOd]
          guardedWatch.createWatchSseStream.init).1,
        frame.ShowsOnly guardedWatch.request fun m =>
          OnTopic context.result.topic m ∧
            ((∃ rest, decodeSubject m.topic = .ok ("secret" :: rest)) →
              ∃ handler u, guardedServer.middleware.serve
                  (sampleRequest .post "/api/v1/watch" "od" (some "d.e.f")).service =
                    some (handler, some u) ∧
                guardedAuth.Permits guardedSettings.auth u .read) := by
  have hcontext : ((guardedServer.handle
      (sampleRequest .post "/api/v1/watch" "od" (some "d.e.f"))
        (guardedServer.start BackendState.initial)).2.context.map (·.result.topic)) =
          some "secret.od" := by decide +kernel
  obtain ⟨context, hfound, htopic⟩ := Option.map_eq_some_iff.mp hcontext
  have hanswer : (guardedServer.handle (sampleRequest .post "/api/v1/watch" "od" (some "d.e.f"))
      (guardedServer.start BackendState.initial)).2 = .stream context := by
    revert hfound
    cases (guardedServer.handle (sampleRequest .post "/api/v1/watch" "od" (some "d.e.f"))
      (guardedServer.start BackendState.initial)).2 with
    | stream found => exact fun hfound => congrArg Answer.stream (Option.some.inj hfound)
    | response _ => exact fun hfound => by cases hfound
    | schema _ => exact fun hfound => by cases hfound
    | notRouted => exact fun hfound => by cases hfound
  refine ⟨context, hanswer, by decide +kernel, ?_⟩
  refine @deliveredToReaders BackendState guardedServer plainLibraries.debugStrings false
    (by decide +kernel) rfl rfl "private" "secret" _ ⟨⟨guardedSchema, rfl, rfl, rfl⟩, rfl⟩ _ _ _
    hanswer guardedWatch htopic.symm [pushedOd, pushedOd] ?_ _ .watch
  intro poll hpoll
  have hsame : poll = pushedOd := by simpa using hpoll
  subst hsame
  refine ⟨fun fetch hfetch => (by cases hfetch), fun m hm => ?_⟩
  cases List.mem_singleton.mp hm
  -- a lag and a message of another topic come first
  exact .inMemory BackendState.initial ⟨["secret", "od"], 0⟩ (by decide +kernel)
    [.error (.lagged 3), .ok ⟨1, "open.od", "1", some 1, none⟩,
      .ok ⟨1, "secret.od", "1", some 1, none⟩] [] (by decide +kernel)

end AvisoServer
