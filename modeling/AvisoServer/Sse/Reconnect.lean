import AvisoServer.Sse.BoundedWatch

/-!
# Reconnecting after a disconnect

A client saves the sequence of the last notification it has processed and reconnects with the same
filters from the next sequence on. A session may end anywhere: the client or the network drops it,
the quota or an error ends its replay. Over all sessions no notification is processed twice and
none is left out below the checkpoint, except what the store no longer held and what a lag skipped.
-/

namespace AvisoServer

/-! ## 1. Deliverability does not depend on the request id -/

theorem delivers_requestId (request : ReplayRequest) (requestId : String)
    (m : NotificationMessage) :
    ({ request with requestId := requestId } : ReplayRequest).delivers m = request.delivers m := by
  simp only [ReplayRequest.delivers, ReplayRequest.render, Renderer.frameToSseBytes,
    Renderer.notificationToSseEvent]
  cases request.renderer.createCloudEvent m request.baseUrl <;> rfl

/-! ## 2. Sessions -/

/-- What a client keeps the same in all of its sessions. -/
structure WatchClient where
  topic : String
  pattern : List String
  request : ReplayRequest
  batchSize : Nat

/-- One session: what the subscription returned, the run of the watch, and the notifications that
the client has processed when the session ends. -/
structure WatchSession where
  requestId : String
  subscription : Subscription
  visited : List BoundedWatch
  final : BoundedWatch
  processed : List NotificationMessage

/-- The watch of a session that asks for the sequences from `first` on. -/
def WatchClient.watch (client : WatchClient) (first : Nat) (session : WatchSession) :
    WatchRequest :=
  .new { client.request with requestId := session.requestId } session.subscription client.topic
    client.batchSize (.sequence first)

/-- The client has asked for the message. -/
def WatchClient.Allowed (client : WatchClient) (m : NotificationMessage) : Prop :=
  matchesWatchPattern m.topic client.pattern = true ∧ client.request.delivers m = true

/-- The store of a session that opens at `first`, and what the client has processed of it. -/
structure WatchSession.Opens (config : InMemoryConfig) (toLowercase : String → String)
    (capacity : Nat) (client : WatchClient) (state : BackendState) (first : Nat)
    (session : WatchSession) : Prop where
  subscribes : subscribeToTopic state client.topic = .ok session.subscription
  run : Runs.Run (BoundedWatch.Step config toLowercase capacity (client.watch first session))
    (.start state (client.watch first session)) session.visited session.final
  processed : session.processed <+: session.final.notifications (client.watch first session)

/-- The operations of other clients. -/
def StoreSteps (config : InMemoryConfig) (toLowercase : String → String) :
    BackendState → BackendState → Prop :=
  Relation.ReflTransGen fun before after =>
    ∃ sent, StoreStep config toLowercase before sent after

/-- What the store does between a session and the next one. -/
def WatchSession.Idle (config : InMemoryConfig) (toLowercase : String → String)
    (session : WatchSession) : BackendState → Prop :=
  StoreSteps config toLowercase session.final.watch.store

/-- The message was there for the session: as part of the history it stayed stored until the
replay had passed it, and if it was published meanwhile, no lag skipped it. -/
structure WatchSession.Offers (session : WatchSession) (m : NotificationMessage) : Prop where
  stored : m.sequence ≤ session.subscription.historyEnd →
    ∀ w ∈ session.visited, ¬ w.watch.Passed m → m ∈ w.watch.store.stored
  published : session.subscription.historyEnd < m.sequence →
    m.sequence < session.final.watch.store.nextSequence →
      m ∈ session.final.watch.published ∧ m ∉ session.final.skipped

/-! ## 3. One session -/

section Session

variable {config : InMemoryConfig} {toLowercase : String → String} {capacity : Nat}
  {client : WatchClient} {state : BackendState} {first : Nat} {session : WatchSession}

theorem storeSteps_valid {before after : BackendState} (hvalid : before.Valid)
    (h : StoreSteps config toLowercase before after) :
    after.Valid ∧ before.nextSequence ≤ after.nextSequence := by
  induction h with
  | refl => exact ⟨hvalid, Nat.le_refl _⟩
  | tail _ hstep ih =>
    obtain ⟨sent, hstep⟩ := hstep
    have hle := (storeStep_archive ih.1 hstep).next_le
    exact ⟨storeStep_valid ih.1 hstep, ih.2.trans hle⟩

theorem WatchSession.Opens.inv
    (h : session.Opens config toLowercase capacity client state first) (hvalid : state.Valid)
    (hsize : 0 < client.batchSize) : session.final.Inv (client.watch first session) :=
  BoundedWatch.run_inv hvalid (subscribed_new _ _ _ _ _ _ h.subscribes) hsize h.run

/-- Everything a session delivers is older than what the store gives next. -/
theorem WatchSession.Opens.checkpoint_le
    (h : session.Opens config toLowercase capacity client state first) (hvalid : state.Valid)
    (hsize : 0 < client.batchSize) (hfirst : first ≤ state.nextSequence) :
    Resume.checkpoint (·.sequence) first session.processed ≤
      session.final.watch.store.nextSequence := by
  have hinv := h.inv hvalid hsize
  rw [Resume.checkpoint]
  cases hlast : session.processed.getLast? with
  | none =>
    have hsub := subscribed_new state { client.request with requestId := session.requestId }
      session.subscription client.topic client.batchSize (.sequence first) h.subscribes
    have hend : session.subscription.historyEnd = state.nextSequence - 1 := hsub.historyEnd
    have hbeyond : session.subscription.historyEnd < session.final.watch.store.nextSequence :=
      hinv.beyond
    have := hvalid.positive
    rw [Option.elim_none]
    omega
  | some m =>
    have hm := h.processed.subset (List.mem_of_getLast? hlast)
    rw [Option.elim_some]
    rcases List.mem_append.mp hm with hm | hm
    · have hreplayed := hinv.handsOver.replayed m (ReplayHalf.mem_notifications hm).1
      exact hreplayed.trans_lt hinv.beyond
    · exact (hinv.recent m (hinv.live_sublist.subset (List.mem_of_mem_filter hm))).2

theorem BoundedWatch.Inv.notifications_allowed {w : BoundedWatch}
    (h : w.Inv (client.watch first session)) (hpattern : session.subscription.appFilterPattern =
      client.pattern) {m : NotificationMessage}
    (hm : m ∈ w.notifications (client.watch first session)) : client.Allowed m := by
  rcases List.mem_append.mp hm with hm | hm
  · obtain ⟨hfetched, hdelivers⟩ := ReplayHalf.mem_notifications hm
    have hmatch : matchesWatchPattern m.topic session.subscription.appFilterPattern = true :=
      (h.half.sound m hfetched).1
    rw [hpattern] at hmatch
    exact ⟨hmatch, (delivers_requestId _ _ m).symm.trans hdelivers⟩
  · obtain ⟨hlive, hdelivers⟩ := List.mem_filter.mp hm
    obtain ⟨received, -, hreceived⟩ := h.accounts
    rw [hreceived] at hlive
    have hselects : (matchesWatchPattern m.topic session.subscription.appFilterPattern &&
      client.request.keep m) = true := (List.mem_filter.mp hlive).2
    rw [hpattern, Bool.and_eq_true] at hselects
    exact ⟨hselects.1, (delivers_requestId _ _ m).symm.trans hdelivers⟩

/-- What a client processes of one session is a feed. -/
theorem WatchSession.Opens.feed
    (h : session.Opens config toLowercase capacity client state first) (hvalid : state.Valid)
    (hsize : 0 < client.batchSize) (hfirst : first ≤ state.nextSequence)
    (hpattern : session.subscription.appFilterPattern = client.pattern) :
    Resume.Feed (·.sequence) client.Allowed (fun m => client.Allowed m ∧ session.Offers m) first
      session.processed := by
  have hsub := subscribed_new state { client.request with requestId := session.requestId }
    session.subscription client.topic client.batchSize (.sequence first) h.subscribes
  have hinv := h.inv hvalid hsize
  have hend : session.subscription.historyEnd = state.nextSequence - 1 := hsub.historyEnd
  have hpositive := hvalid.positive
  have hmatch {m : NotificationMessage} (hm : client.Allowed m) :
      matchesWatchPattern m.topic session.subscription.appFilterPattern = true := by
    rw [hpattern]
    exact hm.1
  -- what was stored before the subscription is replayed, what came after it is received
  refine Resume.Feed.of_initial (hinv.handsOver.feed hinv.half
    (BoundedWatch.run_started hvalid hsub hsize h.run rfl) ?_ ?_ ?_ ?_ ?_) h.processed
  · change first ≤ session.subscription.historyEnd + 1
    omega
  · exact fun m hm => hinv.notifications_allowed hpattern hm
  · exact fun m hdue => (delivers_requestId _ _ m).trans hdue.1.2
  · intro m hdue hge hhistory
    exact BoundedWatch.run_reaches hvalid hsub hsize h.run ⟨hmatch hdue.1, hhistory⟩
      ((startScheme.admits_resume first m).mpr hge) (hdue.2.stored hhistory)
  · -- published since the subscription: received before anything as young, or skipped
    intro m hdue hhistory d hd hle
    have hrecent := (hinv.recent d (hinv.live_sublist.subset hd)).2
    obtain ⟨hpublished, hskipped⟩ := hdue.2.published hhistory (hle.trans_lt hrecent)
    obtain ⟨received, haccounts, hreceived⟩ := hinv.accounts
    rw [hreceived] at hd ⊢
    have hmem := haccounts.received_of_not_later hinv.published hpublished hskipped
      (List.mem_of_mem_filter hd) (Nat.not_lt_of_le hle)
    have hkeep : client.request.keep m = true := keep_of_delivers hdue.1.2
    refine List.mem_filter.mpr ⟨hmem, ?_⟩
    change (matchesWatchPattern m.topic session.subscription.appFilterPattern &&
      client.request.keep m) = true
    rw [hmatch hdue.1, hkeep, Bool.and_self]

end Session

/-! ## 4. All sessions -/

/-- A client that reconnects from the sequence after its checkpoint, any number of times, however
its sessions end and whatever the store does during and between them: it processes notifications in
strictly increasing order, so none twice, only such as it has asked for, and every one below its
checkpoint exactly once that all of its sessions were offered. -/
theorem reconnect_exactlyOnce (config : InMemoryConfig) (toLowercase : String → String)
    (capacity : Nat) (client : WatchClient) (coarse : String)
    (hpattern : analyzeWatchPattern client.topic = .ok (coarse, client.pattern))
    (hsize : 0 < client.batchSize) (state : BackendState)
    (hreach : Reachable config toLowercase state) (first : Nat)
    (hfirst : first ≤ state.nextSequence) (sessions : List WatchSession)
    (hsessions : Resume.Sessions (·.sequence)
      (WatchSession.Opens config toLowercase capacity client) WatchSession.processed
      (WatchSession.Idle config toLowercase) state first sessions) :
    (sessions.flatMap WatchSession.processed).Pairwise (fun x y => x.sequence < y.sequence) ∧
    (∀ m ∈ sessions.flatMap WatchSession.processed,
      matchesWatchPattern m.topic client.pattern = true ∧ client.request.delivers m = true ∧
        first ≤ m.sequence) ∧
    (∀ m, matchesWatchPattern m.topic client.pattern = true → client.request.delivers m = true →
      first ≤ m.sequence →
      m.sequence < Resume.checkpoint (·.sequence) first
        (sessions.flatMap WatchSession.processed) →
      (∀ session ∈ sessions, session.Offers m) →
      (sessions.flatMap WatchSession.processed).count m = 1) := by
  have hsame {state : BackendState} {first : Nat} {session : WatchSession}
      (h : session.Opens config toLowercase capacity client state first) :
      session.subscription.appFilterPattern = client.pattern := by
    obtain ⟨coarse', hanalysed⟩ := (subscribed_new state client.request session.subscription
      client.topic client.batchSize (.sequence first) h.subscribes).topic
    have hanalysed : analyzeWatchPattern client.topic =
      .ok (coarse', session.subscription.appFilterPattern) := hanalysed
    rw [hpattern] at hanalysed
    exact (Prod.mk.inj (Except.ok.inj hanalysed)).2.symm
  -- the checkpoint of a session is a place to resume from in whatever state comes next
  have hnext (state : BackendState) (first : Nat) (session : WatchSession) (next : BackendState)
      (hinv : state.Valid ∧ first ≤ state.nextSequence)
      (hopens : session.Opens config toLowercase capacity client state first)
      (hidle : session.Idle config toLowercase next) :
      next.Valid ∧ Resume.checkpoint (·.sequence) first session.processed ≤ next.nextSequence := by
    have hsteps := storeSteps_valid (hopens.inv hinv.1 hsize).valid hidle
    exact ⟨hsteps.1, (hopens.checkpoint_le hinv.1 hsize hinv.2).trans hsteps.2⟩
  have hone (state : BackendState) (first : Nat) (session : WatchSession)
      (hinv : state.Valid ∧ first ≤ state.nextSequence)
      (hopens : session.Opens config toLowercase capacity client state first) :
      Resume.Feed (·.sequence) client.Allowed (fun m => client.Allowed m ∧ session.Offers m) first
        session.processed :=
    hopens.feed hinv.1 hsize hinv.2 (hsame hopens)
  have hfeed := hsessions.feed hnext hone ⟨reachable_valid hreach, hfirst⟩
  refine ⟨hfeed.increasing, fun m hm => ?_, fun m hmatch hdelivers hge hpast hoffers => ?_⟩
  · obtain ⟨hallowed, hge⟩ := hfeed.sound m hm
    exact ⟨hallowed.1, hallowed.2, hge⟩
  · exact hfeed.count_eq_one (fun session hsession => ⟨⟨hmatch, hdelivers⟩,
      hoffers session hsession⟩) hge hpast

/-- A client that asks for everything on `mars.*`. -/
def marsClient : WatchClient where
  topic := "mars.%2A"
  pattern := ["mars", "*"]
  request := twoTopicsWatch.request
  batchSize := 1

/-- It disconnects after the history, when a third message has been published but not received. -/
def firstSession : WatchSession where
  requestId := twoTopicsWatch.request.requestId
  subscription := twoTopicsWatch.subscription
  visited :=
    [.start twoTopics twoTopicsWatch, ⟨twoTopicsFetched, [], []⟩,
      ⟨twoTopicsFetched.afterStore (some thirdStore.2) thirdStore.1, [], []⟩,
      ⟨twoTopicsReplayed, [], []⟩]
  final := ⟨twoTopicsReplayed, [], []⟩
  processed := (BoundedWatch.mk twoTopicsReplayed [] []).notifications twoTopicsWatch

def secondWatch : WatchRequest :=
  .new marsClient.request { appFilterPattern := ["mars", "*"], historyEnd := 3 } "mars.%2A" 1
    (.sequence 3)

/-- It reconnects from the third sequence, which is history by then. -/
def secondSession : WatchSession :=
  let start := BoundedWatch.start twoTopicsReplayed.store secondWatch
  let fetched := { start with watch := start.watch.afterFetch secondWatch 0 }
  { requestId := twoTopicsWatch.request.requestId
    subscription := secondWatch.subscription
    visited := [start, fetched]
    final := fetched
    processed := fetched.notifications secondWatch }

theorem firstSession_opens : firstSession.Opens twoTopicsConfig id 1024 marsClient twoTopics 1 where
  subscribes := by decide +kernel
  run := by
    have hfetched : BoundedWatch.Step twoTopicsConfig id 1024 twoTopicsWatch
        (.start twoTopics twoTopicsWatch) ⟨twoTopicsFetched, [], []⟩ := .fetch _ 0 rfl
    have hthird : BoundedWatch.Step twoTopicsConfig id 1024 twoTopicsWatch
        ⟨twoTopicsFetched, [], []⟩
        ⟨twoTopicsFetched.afterStore (some thirdStore.2) thirdStore.1, [], []⟩ :=
      .store _ _ _ (.storeMessage _ ⟨9, fun _ => 9⟩ "mars.xd" "3" none)
    have hreplayed : BoundedWatch.Step twoTopicsConfig id 1024 twoTopicsWatch
        ⟨twoTopicsFetched.afterStore (some thirdStore.2) thirdStore.1, [], []⟩
        ⟨twoTopicsReplayed, [], []⟩ := .fetch _ 0 (by decide +kernel)
    exact ((Runs.Run.refl.tail hfetched).tail hthird).tail hreplayed
  processed := List.prefix_rfl

theorem secondSession_opens :
    secondSession.Opens twoTopicsConfig id 1024 marsClient twoTopicsReplayed.store 3 where
  subscribes := by decide +kernel
  run := Runs.Run.refl.tail (.fetch _ 0 rfl)
  processed := List.prefix_rfl

theorem reconnect_exactlyOnce_twoTopics :
    ([firstSession, secondSession].flatMap WatchSession.processed).map (·.sequence) = [1, 2, 3] ∧
      ([firstSession, secondSession].flatMap WatchSession.processed).count thirdStore.2 = 1 := by
  have hfirst : firstSession.Offers thirdStore.2 :=
    ⟨fun h => absurd h (by decide +kernel), fun _ _ => by decide +kernel⟩
  have hsecond : secondSession.Offers thirdStore.2 := by
    have hstored : ∀ w ∈ secondSession.visited, thirdStore.2 ∈ w.watch.store.stored := by
      decide +kernel
    exact ⟨fun _ w hw _ => hstored w hw, fun h => absurd h (by decide +kernel)⟩
  have hcheckpoint : Resume.checkpoint (·.sequence) 1 firstSession.processed = 3 := by
    decide +kernel
  have hsessions : Resume.Sessions (·.sequence)
      (WatchSession.Opens twoTopicsConfig id 1024 marsClient) WatchSession.processed
      (WatchSession.Idle twoTopicsConfig id) twoTopics 1 [firstSession, secondSession] := by
    refine .cons firstSession_opens Relation.ReflTransGen.refl ?_
    rw [hcheckpoint]
    exact .cons secondSession_opens Relation.ReflTransGen.refl (.nil _ _)
  have h := reconnect_exactlyOnce twoTopicsConfig id 1024 marsClient "mars.>" (by decide +kernel)
    (by decide) twoTopics twoTopics_reachable 1 (by decide +kernel) _ hsessions
  refine ⟨by decide +kernel, h.2.2 thirdStore.2 (by decide +kernel) (by decide +kernel)
    (by decide +kernel) (by decide +kernel) ?_⟩
  intro session hsession
  rcases List.mem_cons.mp hsession with rfl | hsession
  · exact hfirst
  · rw [List.mem_singleton.mp hsession]
    exact hsecond

end AvisoServer
