import AvisoServer.Sse.JetStreamWatch
import AvisoServer.Sse.Reconnect

/-!
# Reconnecting over JetStream

The same client protocol over the other backend: sessions are runs of a JetStream watch, and
between two sessions the stream may grow and lose entries.
-/

namespace AvisoServer

/-! ## 1. Sessions -/

structure JetStreamSession where
  requestId : String
  subscription : Subscription
  visited : List JetStreamWatch
  final : JetStreamWatch
  processed : List NotificationMessage

def WatchClient.jetstreamWatch (client : WatchClient) (first : Nat) (session : JetStreamSession) :
    WatchRequest :=
  .new { client.request with requestId := session.requestId } session.subscription client.topic
    client.batchSize (.sequence first)

section Sessions

variable (fromUtf8Lossy : List UInt8 → String) (raw : HistoryEntry → JetStreamMessage)

/-- The stream of a session that opens at `first`, and what the client has processed of it. -/
structure JetStreamSession.Opens (streamName coarse : String) (client : WatchClient)
    (stream : JetStreamStream) (first : Nat) (session : JetStreamSession) : Prop where
  subscribes : ∃ server : JetStreamSubscriber, server.StartsAtTail stream ∧
    createSubscriptionInternal server client.topic = .ok session.subscription
  run : Runs.Run (JetStreamWatch.Step fromUtf8Lossy raw streamName coarse
    (client.jetstreamWatch first session)) (.start stream (client.jetstreamWatch first session))
    session.visited session.final
  processed : session.processed <+:
    session.final.half.sent (client.jetstreamWatch first session).request session.final.live

/-- What the stream does between a session and the next one. -/
def JetStreamSession.Idle (session : JetStreamSession) : JetStreamStream → Prop :=
  Relation.ReflTransGen (fun before after => ∃ sent, JetStreamStream.Step before sent after)
    session.final.stream

/-- The entry was there for the session: as part of the history it stayed until the replay had
passed it, and if it was published meanwhile, it stayed until the live consumer had passed it and
was not lost on the way. -/
structure JetStreamSession.Offers (session : JetStreamSession) (e : HistoryEntry) : Prop where
  stored : e.sequence ≤ session.subscription.historyEnd →
    ∀ w ∈ session.visited, ¬ w.Passed (notificationOf fromUtf8Lossy raw e) →
      e ∈ w.stream.history.entries
  published : session.subscription.historyEnd < e.sequence →
    (∀ w ∈ session.visited, w.position < e.sequence → e.sequence ≤ w.stream.lastSequence →
      e ∈ w.stream.history.entries) ∧ .ok e ∉ session.final.lost

end Sessions

/-! ## 2. One session -/

section Session

variable {fromUtf8Lossy : List UInt8 → String} {raw : HistoryEntry → JetStreamMessage}
  {watchBase : String} {tokens fixed : List String} {client : WatchClient}
  {stream : JetStreamStream} {first : Nat} {session : JetStreamSession}

theorem streamSteps_last {before after : JetStreamStream}
    (h : Relation.ReflTransGen (fun before after => ∃ sent, JetStreamStream.Step before sent after)
      before after) : before.lastSequence ≤ after.lastSequence := by
  induction h with
  | refl => exact Nat.le_refl _
  | tail _ hstep ih =>
    obtain ⟨sent, hstep⟩ := hstep
    exact ih.trans hstep.last_le

/-- A live notification is not younger than its stream. -/
theorem JetStreamWatch.Inv.sent_le {watch : WatchRequest} {w : JetStreamWatch}
    (h : w.Inv fromUtf8Lossy raw watch)
    (hwatched : JetStreamWatched raw watchBase tokens fixed watch) {m : NotificationMessage}
    (hm : m ∈ w.half.sent watch.request w.live) : m.sequence ≤ w.stream.lastSequence := by
  rcases List.mem_append.mp hm with hm | hm
  · have hreplayed := (h.half.sound m (ReplayHalf.mem_notifications hm).1).2
    exact hreplayed.trans (h.beyond.trans h.position)
  · obtain ⟨e, he, rfl, -⟩ := h.live_mem hwatched (List.mem_of_mem_filter hm)
    exact (h.pushed e he).2.trans h.position

theorem JetStreamWatch.Inv.sent_matches {watch : WatchRequest} {w : JetStreamWatch}
    (h : w.Inv fromUtf8Lossy raw watch)
    (hwatched : JetStreamWatched raw watchBase tokens fixed watch) {m : NotificationMessage}
    (hm : m ∈ w.half.sent watch.request w.live) :
    matchesWatchPattern m.topic (watchBase :: tokens) = true ∧
      watch.request.delivers m = true := by
  rcases List.mem_append.mp hm with hm | hm
  · obtain ⟨hfetched, hdelivers⟩ := ReplayHalf.mem_notifications hm
    rw [← hwatched.pattern]
    exact ⟨(h.half.sound m hfetched).1, hdelivers⟩
  · obtain ⟨hlive, hdelivers⟩ := List.mem_filter.mp hm
    obtain ⟨e, -, rfl, hmatch, -⟩ := h.live_mem hwatched hlive
    exact ⟨hmatch, hdelivers⟩

/-- What a session needs to know of its topic. -/
structure WatchClient.Streams (client : WatchClient) (raw : HistoryEntry → JetStreamMessage)
    (watchBase : String) (tokens fixed : List String) : Prop where
  valid : isTopicBase watchBase = true
  nonempty : tokens ≠ []
  coarse : CoarsePattern watchBase tokens fixed
  topic : client.topic = encodeSubject (watchBase :: tokens)
  pattern : client.pattern = watchBase :: tokens
  batchSize : 0 < client.batchSize
  subject : ∀ e, (raw e).subject = e.topic
  info : ∀ e, (raw e).info = .ok { streamSequence := e.sequence, published := e.timestamp }

theorem JetStreamSession.Opens.watched
    (hclient : client.Streams raw watchBase tokens fixed)
    (h : session.Opens fromUtf8Lossy raw (toAsciiUppercase watchBase)
      (encodeSubject (watchBase :: fixed) ++ ".>") client stream first) :
    JetStreamWatched raw watchBase tokens fixed (client.jetstreamWatch first session) ∧
      session.subscription.historyEnd = stream.lastSequence := by
  obtain ⟨server, htail, hsubscribe⟩ := h.subscribes
  rw [hclient.topic] at hsubscribe
  obtain ⟨hpattern, hend⟩ := createSubscriptionInternal_eq hclient.coarse htail hsubscribe
  rw [WatchClient.jetstreamWatch, hclient.topic]
  exact ⟨jetstreamWatched_new hclient.subject hclient.info hclient.valid hclient.nonempty
    hclient.coarse _ hpattern (fun d hd => by cases hd) hclient.batchSize, hend⟩

theorem JetStreamSession.Opens.checkpoint_le
    (hclient : client.Streams raw watchBase tokens fixed)
    (h : session.Opens fromUtf8Lossy raw (toAsciiUppercase watchBase)
      (encodeSubject (watchBase :: fixed) ++ ".>") client stream first)
    (hfirst : first ≤ stream.lastSequence + 1) :
    Resume.checkpoint (·.sequence) first session.processed ≤
      session.final.stream.lastSequence + 1 := by
  obtain ⟨hwatched, hend⟩ := h.watched hclient
  have hinv := JetStreamWatch.run_inv hwatched hend h.run
  rw [Resume.checkpoint]
  cases hlast : session.processed.getLast? with
  | none =>
    have hbeyond : session.subscription.historyEnd ≤ session.final.position := hinv.beyond
    have hposition := hinv.position
    rw [Option.elim_none]
    omega
  | some m =>
    rw [Option.elim_some]
    exact Nat.succ_le_succ
      (hinv.sent_le hwatched (h.processed.subset (List.mem_of_getLast? hlast)))

/-- The client has asked for the message, and it is an entry that the session was offered. -/
def JetStreamSession.Due (fromUtf8Lossy : List UInt8 → String)
    (raw : HistoryEntry → JetStreamMessage) (client : WatchClient) (session : JetStreamSession)
    (m : NotificationMessage) : Prop :=
  client.Allowed m ∧ ∃ e, m = notificationOf fromUtf8Lossy raw e ∧
    session.Offers fromUtf8Lossy raw e

theorem JetStreamSession.Opens.feed
    (hclient : client.Streams raw watchBase tokens fixed)
    (h : session.Opens fromUtf8Lossy raw (toAsciiUppercase watchBase)
      (encodeSubject (watchBase :: fixed) ++ ".>") client stream first)
    (hfirst : first ≤ stream.lastSequence + 1) :
    Resume.Feed (·.sequence) client.Allowed (session.Due fromUtf8Lossy raw client) first
      session.processed := by
  obtain ⟨hwatched, hend⟩ := h.watched hclient
  have hinv := JetStreamWatch.run_inv hwatched hend h.run
  have hmatch (m : NotificationMessage) (hm : client.Allowed m) :
      matchesWatchPattern m.topic (watchBase :: tokens) = true := by
    rw [← hclient.pattern]
    exact hm.1
  refine Resume.Feed.of_initial ((hinv.handsOver hwatched).feed hinv.half
    (JetStreamWatch.run_started hwatched hend h.run rfl) ?_ ?_ ?_ ?_ ?_) h.processed
  · change first ≤ session.subscription.historyEnd + 1
    omega
  · intro m hm
    obtain ⟨hallowed, hdelivers⟩ := hinv.sent_matches hwatched hm
    rw [← hclient.pattern] at hallowed
    exact ⟨hallowed, (delivers_requestId _ _ m).symm.trans hdelivers⟩
  · exact fun m hdue => (delivers_requestId _ _ m).trans hdue.1.2
  · intro m hdue hge hhistory
    obtain ⟨hallowed, e, rfl, hoffers⟩ := hdue
    have hentry : matchesWatchPattern e.topic (watchBase :: tokens) = true :=
      hmatch (notificationOf fromUtf8Lossy raw e) hallowed
    have hadmits : (StartAt.sequence first).admits (notificationOf fromUtf8Lossy raw e) = true :=
      (startScheme.admits_resume first _).mpr hge
    exact JetStreamWatch.run_reaches hwatched hend h.run hentry hhistory hadmits
      (hoffers.stored hhistory)
  · -- published since the subscription: sent before anything as young, and not lost
    intro m hdue hhistory d hd hle
    obtain ⟨hallowed, e, rfl, hoffers⟩ := hdue
    obtain ⟨hstays, hlost⟩ := hoffers.published hhistory
    obtain ⟨e', he', rfl, -⟩ := hinv.live_mem hwatched hd
    have hposition : e.sequence ≤ session.final.position := by
      have hle : e.sequence ≤ e'.sequence := hle
      exact hle.trans (hinv.pushed e' he').2
    have hentry : matchesWatchPattern e.topic (watchBase :: tokens) = true :=
      hmatch (notificationOf fromUtf8Lossy raw e) hallowed
    have hpushed := JetStreamWatch.run_pushed hwatched h.run hentry hhistory hstays hposition
    have hkeep : client.request.keep (notificationOf fromUtf8Lossy raw e) = true :=
      keep_of_delivers hallowed.2
    exact hinv.live_of_le hwatched hpushed hlost hentry hkeep hd hle

end Session

/-! ## 3. All sessions -/

/-- A client that reconnects over JetStream from the sequence after its checkpoint, any number of
times, however its sessions end and whatever the stream does during and between them: it processes
notifications in strictly increasing order, so none twice, only such as it has asked for, and every
entry below its checkpoint exactly once that all of its sessions were offered. -/
theorem jetstreamReconnect_exactlyOnce (fromUtf8Lossy : List UInt8 → String)
    (raw : HistoryEntry → JetStreamMessage) (hsubject : ∀ e, (raw e).subject = e.topic)
    (hinfo : ∀ e, (raw e).info = .ok { streamSequence := e.sequence, published := e.timestamp })
    (client : WatchClient) (watchBase : String) (tokens : List String)
    (hwatch : isTopicBase watchBase = true) (htokens : tokens ≠ [])
    (htopic : client.topic = encodeSubject (watchBase :: tokens)) (coarse streamName : String)
    (hanalyzed : analyzeWatchPattern client.topic = .ok (coarse, client.pattern))
    (hname : deriveStreamNameFromTopic coarse = .ok streamName) (hsize : 0 < client.batchSize)
    (stream : JetStreamStream) (first : Nat) (hfirst : first ≤ stream.lastSequence + 1)
    (sessions : List JetStreamSession)
    (hsessions : Resume.Sessions (·.sequence)
      (JetStreamSession.Opens fromUtf8Lossy raw streamName coarse client)
      JetStreamSession.processed JetStreamSession.Idle stream first sessions) :
    (sessions.flatMap JetStreamSession.processed).Pairwise
        (fun x y => x.sequence < y.sequence) ∧
    (∀ m ∈ sessions.flatMap JetStreamSession.processed,
      matchesWatchPattern m.topic client.pattern = true ∧ client.request.delivers m = true ∧
        first ≤ m.sequence) ∧
    (∀ e, matchesWatchPattern e.topic client.pattern = true →
      client.request.delivers (notificationOf fromUtf8Lossy raw e) = true →
      first ≤ e.sequence →
      e.sequence < Resume.checkpoint (·.sequence) first
        (sessions.flatMap JetStreamSession.processed) →
      (∀ session ∈ sessions, session.Offers fromUtf8Lossy raw e) →
      (sessions.flatMap JetStreamSession.processed).count
        (notificationOf fromUtf8Lossy raw e) = 1) := by
  obtain ⟨fixed, hfixed⟩ := exists_coarsePattern watchBase tokens hwatch htokens
  rw [htopic] at hanalyzed
  obtain ⟨rfl, hpattern⟩ :=
    Prod.mk.inj (Except.ok.inj (hfixed.analyzed.symm.trans hanalyzed))
  obtain rfl := Except.ok.inj (hfixed.streamName.symm.trans hname)
  have hclient : client.Streams raw watchBase tokens fixed :=
    ⟨hwatch, htokens, hfixed, htopic, hpattern.symm, hsize, hsubject, hinfo⟩
  have hnext (stream : JetStreamStream) (first : Nat) (session : JetStreamSession)
      (next : JetStreamStream) (hfirst : first ≤ stream.lastSequence + 1)
      (hopens : session.Opens fromUtf8Lossy raw (toAsciiUppercase watchBase)
        (encodeSubject (watchBase :: fixed) ++ ".>") client stream first)
      (hidle : session.Idle next) :
      Resume.checkpoint (·.sequence) first session.processed ≤ next.lastSequence + 1 :=
    (hopens.checkpoint_le hclient hfirst).trans (Nat.succ_le_succ (streamSteps_last hidle))
  have hone (stream : JetStreamStream) (first : Nat) (session : JetStreamSession)
      (hfirst : first ≤ stream.lastSequence + 1)
      (hopens : session.Opens fromUtf8Lossy raw (toAsciiUppercase watchBase)
        (encodeSubject (watchBase :: fixed) ++ ".>") client stream first) :
      Resume.Feed (·.sequence) client.Allowed (session.Due fromUtf8Lossy raw client) first
        session.processed :=
    hopens.feed hclient hfirst
  have hfeed := hsessions.feed hnext hone hfirst
  refine ⟨hfeed.increasing, fun m hm => ?_, fun e hmatch hdelivers hge hpast hoffers => ?_⟩
  · obtain ⟨hallowed, hge⟩ := hfeed.sound m hm
    exact ⟨hallowed.1, hallowed.2, hge⟩
  · refine hfeed.count_eq_one (fun session hsession => ⟨⟨hmatch, hdelivers⟩, e, rfl, ?_⟩) hge hpast
    exact hoffers session hsession

/-- A client of `twoEntries` disconnects after the first batch. -/
def interruptedSession : JetStreamSession where
  requestId := twoTopicsWatch.request.requestId
  subscription := twoTopicsWatch.subscription
  visited := [.start twoEntries twoTopicsWatch, twoEntriesFetched]
  final := twoEntriesFetched
  processed := twoEntriesFetched.half.sent twoTopicsWatch.request twoEntriesFetched.live

def resumedWatch : WatchRequest :=
  .new marsClient.request { appFilterPattern := ["mars", "*"], historyEnd := 3 } "mars.%2A" 1
    (.sequence 2)

/-- It reconnects from the second sequence, when a third entry has been published. -/
def resumedFetched : JetStreamWatch :=
  (JetStreamWatch.start threeEntries resumedWatch).afterFetch resumedWatch 0
    (threeEntriesAnswer resumedWatch.params)

def resumedReplayed : JetStreamWatch :=
  resumedFetched.afterFetch resumedWatch 0
    (threeEntriesAnswer resumedFetched.half.replay.cursor.params)

def resumedSession : JetStreamSession where
  requestId := twoTopicsWatch.request.requestId
  subscription := resumedWatch.subscription
  visited := [.start threeEntries resumedWatch, resumedFetched, resumedReplayed]
  final := resumedReplayed
  processed := resumedReplayed.half.sent resumedWatch.request resumedReplayed.live

theorem interruptedSession_watch : marsClient.jetstreamWatch 1 interruptedSession = twoTopicsWatch :=
  rfl

theorem resumedSession_watch : marsClient.jetstreamWatch 2 resumedSession = resumedWatch := rfl

theorem interruptedSession_opens :
    interruptedSession.Opens plainText plainMessage "MARS" "mars.>" marsClient twoEntries 1 where
  subscribes := ⟨twoEntriesSubscriber, twoEntriesSubscriber_startsAtTail, by decide +kernel⟩
  run := by
    have hfetched : JetStreamWatch.Step plainText plainMessage "MARS" "mars.>" twoTopicsWatch
        (.start twoEntries twoTopicsWatch) twoEntriesFetched :=
      .fetch _ 0 (exactServer twoTopicsHistory plainMessage) 0
        (exactServer_keeps twoTopicsHistory plainMessage (fun _ => rfl) fun _ => rfl) rfl
    rw [interruptedSession_watch]
    exact Runs.Run.refl.tail hfetched
  processed := by
    rw [interruptedSession_watch]
    exact List.prefix_rfl

theorem resumedSession_opens :
    resumedSession.Opens plainText plainMessage "MARS" "mars.>" marsClient threeEntries 2 where
  subscribes := by
    refine ⟨{ twoEntriesSubscriber with createConsumer := fun _ _ => .ok 3 }, ?_, by
      decide +kernel⟩
    intro streamName filterSubject cursor h
    cases h
    rfl
  run := by
    have hserver := exactServer_keeps threeEntriesHistory plainMessage (fun _ => rfl) fun _ => rfl
    have hfetched : JetStreamWatch.Step plainText plainMessage "MARS" "mars.>" resumedWatch
        (.start threeEntries resumedWatch) resumedFetched :=
      .fetch _ 0 (exactServer threeEntriesHistory plainMessage) 1 hserver rfl
    have hreplayed : JetStreamWatch.Step plainText plainMessage "MARS" "mars.>" resumedWatch
        resumedFetched resumedReplayed :=
      .fetch resumedFetched 0 (exactServer threeEntriesHistory plainMessage) 1 hserver
        (by decide +kernel)
    rw [resumedSession_watch]
    exact (Runs.Run.refl.tail hfetched).tail hreplayed
  processed := by
    rw [resumedSession_watch]
    exact List.prefix_rfl

theorem jetstreamReconnect_exactlyOnce_twoEntries :
    ([interruptedSession, resumedSession].flatMap JetStreamSession.processed).map (·.sequence) =
        [1, 2, 3] ∧
      ([interruptedSession, resumedSession].flatMap JetStreamSession.processed).count
        (notificationOf plainText plainMessage ⟨2, "mars.rd", 7⟩) = 1 := by
  have hinterrupted : ∀ w ∈ interruptedSession.visited,
      ⟨2, "mars.rd", 7⟩ ∈ w.stream.history.entries := by decide +kernel
  have hresumed : ∀ w ∈ resumedSession.visited,
      ⟨2, "mars.rd", 7⟩ ∈ w.stream.history.entries := by decide +kernel
  have hpublish : JetStreamStream.Step twoEntries (some ⟨3, "mars.xd", 9⟩) threeEntries :=
    .publish rfl (List.Sublist.refl _) rfl rfl rfl
  have hcheckpoint : Resume.checkpoint (·.sequence) 1 interruptedSession.processed = 2 := by
    decide +kernel
  have hsessions : Resume.Sessions (·.sequence)
      (JetStreamSession.Opens plainText plainMessage "MARS" "mars.>" marsClient)
      JetStreamSession.processed JetStreamSession.Idle twoEntries 1
      [interruptedSession, resumedSession] := by
    refine .cons interruptedSession_opens (Relation.ReflTransGen.single ⟨_, hpublish⟩) ?_
    rw [hcheckpoint]
    exact .cons resumedSession_opens Relation.ReflTransGen.refl (.nil _ _)
  have h := jetstreamReconnect_exactlyOnce plainText plainMessage (fun _ => rfl) (fun _ => rfl)
    marsClient "mars" ["*"] (by decide +kernel) (by simp) (by decide +kernel) "mars.>" "MARS"
    (by decide +kernel) (by decide +kernel) (by decide) twoEntries 1 (by decide) _ hsessions
  refine ⟨by decide +kernel, h.2.2 ⟨2, "mars.rd", 7⟩ (by decide +kernel) (by decide +kernel)
    (by decide) (by decide +kernel) ?_⟩
  intro session hsession
  rcases List.mem_cons.mp hsession with rfl | hsession
  · exact ⟨fun _ w hw _ => hinterrupted w hw, fun hlater => absurd hlater (by decide +kernel)⟩
  · rw [List.mem_singleton.mp hsession]
    exact ⟨fun _ w hw _ => hresumed w hw, fun hlater => absurd hlater (by decide +kernel)⟩

end AvisoServer
