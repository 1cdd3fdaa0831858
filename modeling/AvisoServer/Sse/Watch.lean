import AvisoServer.Sse.ReplayQuota

/-!
# History-to-live hand-over of a watch

A watch that replays history first takes its broadcast receiver and the end of the history under
one lock, then replays up to that end, and only then reads the receiver. Writers, deletions and
evictions may happen between any two of these steps.
-/

namespace AvisoServer

/-! ## 1. The watch and its steps -/

/-- A watch after its subscription, together with the store it reads. The last two fields record
what happened: the messages of all fetched batches, and those stored since the subscription. -/
structure WatchStream where
  store : BackendState
  receiver : List NotificationMessage
  replay : ReplayState
  replayFrames : List StreamFrame
  live : List NotificationMessage
  fetched : List NotificationMessage
  published : List NotificationMessage

/-- What stays fixed during one watch. -/
structure WatchRequest where
  request : ReplayRequest
  subscription : Subscription
  params : BatchParams

/-- The parameters of `create_historical_then_live_stream`. -/
def WatchRequest.new (request : ReplayRequest) (subscription : Subscription) (topic : String)
    (batchSize : Nat) (startAt : StartAt) : WatchRequest where
  request := request
  subscription := subscription
  params := replayParams topic batchSize startAt subscription.historyEnd

def WatchStream.start (store : BackendState) (watch : WatchRequest) : WatchStream where
  store := store
  receiver := []
  replay := .initial watch.params
  replayFrames := []
  live := []
  fetched := []
  published := []

/-- The message passes the pattern of the subscription and the filter of the request. -/
def WatchRequest.selects (watch : WatchRequest) (m : NotificationMessage) : Bool :=
  matchesWatchPattern m.topic watch.subscription.appFilterPattern && watch.request.keep m

def batchMessages : Result BatchResult → List NotificationMessage
  | .ok batch => batch.messages
  | .error _ => []

/-- An operation of another client; a stored message is broadcast under the same lock. -/
def WatchStream.afterStore (w : WatchStream) (sent : Option NotificationMessage)
    (next : BackendState) : WatchStream :=
  { w with
    store := next
    receiver := w.receiver ++ sent.toList
    published := w.published ++ sent.toList }

/-- One step of the historical stream. -/
def WatchStream.afterFetch (watch : WatchRequest) (w : WatchStream) (now : DateTime) :
    WatchStream :=
  let answer := getMessagesBatch w.store w.replay.cursor.params
  let out := replayStep watch.request now answer w.replay
  { w with
    replay := out.1
    replayFrames := w.replayFrames ++ out.2
    fetched := w.fetched ++ batchMessages answer }

/-- One receive of the live stream. -/
def WatchStream.afterReceive (watch : WatchRequest) (w : WatchStream) (m : NotificationMessage)
    (rest : List NotificationMessage) : WatchStream :=
  { w with
    receiver := rest
    live := w.live ++ if watch.selects m then [m] else [] }

/-- The live stream is chained after the historical one, so it is read only when that has ended. -/
inductive WatchStream.Step (config : InMemoryConfig) (toLowercase : String → String)
    (watch : WatchRequest) : WatchStream → WatchStream → Prop where
  | store (w : WatchStream) (sent : Option NotificationMessage) (next : BackendState)
      (hstep : StoreStep config toLowercase w.store sent next) :
      WatchStream.Step config toLowercase watch w (w.afterStore sent next)
  | fetch (w : WatchStream) (now : DateTime) (hmore : w.replay.cursor.hasMore = true) :
      WatchStream.Step config toLowercase watch w (w.afterFetch watch now)
  | receive (w : WatchStream) (m : NotificationMessage) (rest : List NotificationMessage)
      (hdone : w.replay.cursor.hasMore = false)
      (hopen : ∀ frame ∈ w.replayFrames, frame.isReplayTerminal = false)
      (hreceiver : w.receiver = m :: rest) :
      WatchStream.Step config toLowercase watch w (w.afterReceive watch m rest)

/-- The messages the historical stream has delivered. -/
def WatchStream.replayed (watch : WatchRequest) (w : WatchStream) : List NotificationMessage :=
  w.fetched.filter watch.request.keep

/-- The replay is past the message: it has ended, or it resumes behind it. -/
def WatchStream.Passed (w : WatchStream) (m : NotificationMessage) : Prop :=
  w.replay.cursor.hasMore = false ∨ w.replay.cursor.params.startAt.admits m = false

/-- The replay has not run into the quota. -/
def WatchStream.WithinQuota (w : WatchStream) : Prop :=
  ∀ frame ∈ w.replayFrames, frame.isReplayLimitReached = false

/-! ## 2. Frames of a replay within the quota -/

/-- The frame of a replayed message. -/
def ReplayRequest.replayFrame (request : ReplayRequest) (topic : String)
    (message : NotificationMessage) : StreamFrame :=
  match request.render message with
  | .error e => .error topic e.toString request.requestId
  | .ok (bytes, kind) => .rendered bytes kind

theorem replayFrame_of_delivers (request : ReplayRequest) (topic : String)
    (message : NotificationMessage) (h : request.delivers message = true) :
    request.deliveredFrame message = request.replayFrame topic message := by
  simp only [ReplayRequest.delivers, Bool.and_eq_true] at h
  cases hrender : request.render message with
  | error e => simp [hrender] at h
  | ok out => simp only [ReplayRequest.deliveredFrame, ReplayRequest.replayFrame, hrender]

theorem skippedFrames_eq (request : ReplayRequest) (topic : String) (message : NotificationMessage) :
    skippedFrames request topic message =
      ([message].filter request.keep).map (request.replayFrame topic) := by
  by_cases hkeep : request.keep message = true
  · cases hrender : request.render message <;>
      simp [skippedFrames, hkeep, hrender, ReplayRequest.replayFrame]
  · simp [skippedFrames, hkeep]

/-- Without the quota frame, a batch has one frame for every message that passes the filter. -/
theorem batchFrames_within (request : ReplayRequest) (topic : String) (now : DateTime)
    (messages : List NotificationMessage) (delivered : Nat)
    (h : ∀ frame ∈ (batchFrames request topic now messages delivered).frames,
      frame.isReplayLimitReached = false) :
    (batchFrames request topic now messages delivered).stopped = false ∧
      (batchFrames request topic now messages delivered).frames =
        (messages.filter request.keep).map (request.replayFrame topic) := by
  induction messages generalizing delivered with
  | nil => exact ⟨rfl, rfl⟩
  | cons message rest ih =>
    cases hdelivers : request.delivers message with
    | true =>
      rw [batchFrames_of_delivers _ _ _ _ _ _ hdelivers] at h ⊢
      by_cases hfull : delivered = request.maxAllowed
      · rw [if_pos hfull] at h
        have := h _ (List.mem_singleton_self _)
        cases this
      · rw [if_neg hfull] at h ⊢
        obtain ⟨hstopped, hframes⟩ := ih (delivered + 1) fun frame hframe =>
          h frame (List.mem_append_right _ hframe)
        have hkeep : request.keep message = true := by
          simp only [ReplayRequest.delivers, Bool.and_eq_true] at hdelivers
          exact hdelivers.1
        refine ⟨hstopped, ?_⟩
        rw [BatchFrames.prepend_frames, hframes, List.filter_cons_of_pos hkeep, List.map_cons,
          replayFrame_of_delivers request topic message hdelivers, List.singleton_append]
    | false =>
      rw [batchFrames_of_not_delivers _ _ _ _ _ _ hdelivers] at h ⊢
      obtain ⟨hstopped, hframes⟩ := ih delivered fun frame hframe =>
        h frame (List.mem_append_right _ hframe)
      refine ⟨hstopped, ?_⟩
      rw [BatchFrames.prepend_frames, hframes, skippedFrames_eq, ← List.map_append,
        ← List.filter_append]
      rfl

/-! ## 3. The invariant -/

def WatchStream.reader (w : WatchStream) : Paging.Reader NotificationMessage StartAt :=
  w.replay.cursor.reader w.fetched

structure WatchStream.Inv (watch : WatchRequest) (w : WatchStream) : Prop where
  valid : w.store.Valid
  /-- the store has moved past the end of the history -/
  beyond : watch.subscription.historyEnd < w.store.nextSequence
  params : w.replay.cursor.params = watch.params.withStartAt w.replay.cursor.params.startAt
  follows : startScheme.Follows w.reader
  fetched : ∀ m ∈ w.fetched,
    matchesWatchPattern m.topic watch.subscription.appFilterPattern = true ∧
      m.sequence ≤ watch.subscription.historyEnd
  frames : w.replayFrames =
    (w.replayed watch).map (watch.request.replayFrame watch.params.topic)
  live : w.live ++ w.receiver.filter watch.selects = w.published.filter watch.selects
  published : Paging.Increasing startScheme.key w.published
  recent : ∀ m ∈ w.published,
    watch.subscription.historyEnd < m.sequence ∧ m.sequence < w.store.nextSequence

/-- What a subscription of this store to this topic returns. -/
structure Subscribed (state : BackendState) (watch : WatchRequest) : Prop where
  topic : ∃ coarse, analyzeWatchPattern watch.params.topic =
    .ok (coarse, watch.subscription.appFilterPattern)
  historyEnd : watch.subscription.historyEnd = state.nextSequence - 1
  endSequence : watch.params.endSequence = watch.subscription.historyEnd

theorem subscribed_new (state : BackendState) (request : ReplayRequest)
    (subscription : Subscription) (topic : String) (batchSize : Nat) (startAt : StartAt)
    (h : subscribeToTopic state topic = .ok subscription) :
    Subscribed state (.new request subscription topic batchSize startAt) := by
  simp only [subscribeToTopic, bind, Except.bind] at h
  cases hpattern : analyzeWatchPattern topic with
  | error e => simp [hpattern] at h
  | ok analysed =>
    rw [hpattern] at h
    cases h
    exact ⟨⟨analysed.1, hpattern⟩, rfl, rfl⟩

section Steps

variable {config : InMemoryConfig} {toLowercase : String → String} {watch : WatchRequest}
  {state : BackendState}

theorem WatchStream.start_inv (hvalid : state.Valid) (hsub : Subscribed state watch) :
    (WatchStream.start state watch).Inv watch where
  valid := hvalid
  beyond := by
    have := hvalid.positive
    rw [hsub.historyEnd]
    exact Nat.sub_lt this Nat.one_pos
  params := rfl
  follows := startScheme.follows_start watch.params.startAt
  fetched := by intro m hm; cases hm
  frames := rfl
  live := rfl
  published := List.Pairwise.nil
  recent := by intro m hm; cases hm

theorem WatchStream.start_covered {m : NotificationMessage}
    (hstart : watch.params.startAt.admits m = true) :
    startScheme.Covered (WatchStream.start state watch).reader m :=
  Or.inr ⟨rfl, hstart⟩

/-- The batch a fetch gets in a state that satisfies the invariant. -/
theorem WatchStream.Inv.batch {w : WatchStream} (h : w.Inv watch) (hsub : Subscribed state watch)
    (hsize : 0 < watch.params.limit) :
    ∃ batch, getMessagesBatch w.store w.replay.cursor.params = .ok batch ∧
      startScheme.Serves (Offered w.store watch.subscription.appFilterPattern
        watch.subscription.historyEnd) w.replay.cursor.params.startAt batch.page ∧
      startScheme.Progress (· ∈ w.store.stored) w.replay.cursor.params.startAt batch.page := by
  obtain ⟨coarse, hpattern⟩ := hsub.topic
  obtain ⟨batch, hbatch, -⟩ := getMessagesBatch_page w.store
    (watch.params.withStartAt w.replay.cursor.params.startAt) coarse _ hpattern
  have hserves := getMessagesBatch_serves
    (watch.params.withStartAt w.replay.cursor.params.startAt) h.valid hpattern hsize hbatch
  have hprog := getMessagesBatch_progress
    (watch.params.withStartAt w.replay.cursor.params.startAt) hpattern hbatch
  rw [← hsub.endSequence]
  exact ⟨batch, by rw [h.params]; exact hbatch, hserves, hprog⟩

/-- Within the quota, a fetch advances the cursor and adds one frame for every filtered message. -/
theorem WatchStream.afterFetch_within {w : WatchStream} (h : w.Inv watch) {batch : BatchResult}
    (hbatch : getMessagesBatch w.store w.replay.cursor.params = .ok batch) (now : DateTime)
    (hquota : (w.afterFetch watch now).WithinQuota) :
    (w.afterFetch watch now).replay.cursor = w.replay.cursor.advance batch ∧
      (w.afterFetch watch now).fetched = w.fetched ++ batch.messages ∧
      (w.afterFetch watch now).replayFrames = w.replayFrames ++
        (batch.messages.filter watch.request.keep).map
          (watch.request.replayFrame watch.params.topic) := by
  have htopic : w.replay.cursor.params.topic = watch.params.topic := by
    rw [h.params]
    rfl
  have hwithin := batchFrames_within watch.request watch.params.topic now batch.messages
    w.replay.delivered fun frame hframe => hquota frame <| by
      simp only [WatchStream.afterFetch, hbatch, replayStep, BatchCursor.advance_topic, htopic]
      exact List.mem_append_right _ hframe
  simp only [WatchStream.afterFetch, hbatch, replayStep, BatchCursor.advance_topic, htopic,
    hwithin.1, hwithin.2, batchMessages, Bool.not_false, Bool.and_true, and_self]

theorem WatchStream.step_inv (hsub : Subscribed state watch) (hsize : 0 < watch.params.limit)
    {w next : WatchStream} (h : w.Inv watch) (hquota : next.WithinQuota)
    (hstep : WatchStream.Step config toLowercase watch w next) : next.Inv watch := by
  cases hstep with
  | store sent store hstore =>
    have harchive := storeStep_archive h.valid hstore
    have hle : w.store.nextSequence ≤ store.nextSequence := harchive.next_le
    refine { h with
      valid := storeStep_valid h.valid hstore
      beyond := h.beyond.trans_le hle
      live := ?_
      published := ?_
      recent := ?_ }
    · change w.live ++ (w.receiver ++ sent.toList).filter _ = (w.published ++ sent.toList).filter _
      rw [List.filter_append, List.filter_append, ← List.append_assoc, h.live]
    · cases sent with
      | none => simpa [WatchStream.afterStore] using h.published
      | some m =>
        -- a new message is the youngest of those published
        have hm : m.sequence = w.store.nextSequence := harchive.sent_eq.1
        refine Paging.increasing_append h.published (List.pairwise_singleton _ _) ?_
        intro x hx y hy
        rw [List.mem_singleton.mp hy]
        exact (h.recent x hx).2.trans_eq hm.symm
    · intro m hm
      rcases List.mem_append.mp hm with hm | hm
      · have := h.recent m hm
        exact ⟨this.1, this.2.trans_le hle⟩
      · cases sent with
        | none => cases hm
        | some m' =>
          have hseq : m'.sequence = w.store.nextSequence := harchive.sent_eq.1
          have hnext : store.nextSequence = w.store.nextSequence + 1 := harchive.sent_eq.2.1
          rw [List.mem_singleton.mp hm]
          constructor
          · exact h.beyond.trans_eq hseq.symm
          · change m'.sequence < store.nextSequence
            omega
  | fetch now hmore =>
    obtain ⟨batch, hbatch, hserves, hprog⟩ := h.batch hsub hsize
    obtain ⟨hcursor, hfetched, hframes⟩ := afterFetch_within h hbatch now hquota
    refine { h with
      params := ?_
      follows := ?_
      fetched := ?_
      frames := ?_ }
    · rw [hcursor, BatchCursor.advance_params, h.params]
      rfl
    · rw [WatchStream.reader, hcursor, hfetched, BatchCursor.reader_advance]
      exact h.follows.advance startScheme hserves hprog
    · intro m hm
      rw [hfetched, List.mem_append] at hm
      rcases hm with hm | hm
      · exact h.fetched m hm
      · exact (hserves.sound m hm).1.2
    · rw [hframes, WatchStream.replayed, hfetched, List.filter_append, List.map_append, h.frames,
        WatchStream.replayed]
  | receive m rest hdone hopen hreceiver =>
    refine { h with live := ?_ }
    -- the head of the receiver moves to the live messages, if it is selected
    rw [WatchStream.afterReceive]
    have hlive := h.live
    rw [hreceiver, List.filter_cons] at hlive
    rw [← hlive]
    split_ifs <;> simp

theorem WatchStream.step_covered (hsub : Subscribed state watch) (hsize : 0 < watch.params.limit)
    {m : NotificationMessage}
    (hmatch : matchesWatchPattern m.topic watch.subscription.appFilterPattern = true)
    (hend : m.sequence ≤ watch.subscription.historyEnd) {w next : WatchStream} (h : w.Inv watch)
    (hcovered : startScheme.Covered w.reader m) (hstored : ¬ w.Passed m → m ∈ w.store.stored)
    (hquota : next.WithinQuota) (hstep : WatchStream.Step config toLowercase watch w next) :
    startScheme.Covered next.reader m := by
  cases hstep with
  | store sent store hstore => exact hcovered
  | receive m rest hdone hopen hreceiver => exact hcovered
  | fetch now hmore =>
    obtain ⟨batch, hbatch, hserves, -⟩ := h.batch hsub hsize
    obtain ⟨hcursor, hfetched, -⟩ := afterFetch_within h hbatch now hquota
    rw [WatchStream.reader, hcursor, hfetched, BatchCursor.reader_advance]
    refine hcovered.advance startScheme hserves fun ha => ⟨hstored ?_, hmatch, hend⟩
    rintro (hdone | hpassed)
    · rw [hmore] at hdone
      cases hdone
    · rw [show w.replay.cursor.params.startAt.admits m = true from ha] at hpassed
      cases hpassed

theorem WatchStream.step_frames {w next : WatchStream}
    (hstep : WatchStream.Step config toLowercase watch w next) :
    w.replayFrames ⊆ next.replayFrames := by
  cases hstep with
  | fetch now hmore => exact List.subset_append_left _ _
  | _ => exact List.Subset.refl _

end Steps

/-! ## 4. Runs -/

section Runs

variable {config : InMemoryConfig} {toLowercase : String → String} {watch : WatchRequest}
  {state : BackendState} {visited : List WatchStream} {final : WatchStream}

/-- A run within the quota was within the quota all along. -/
theorem WatchStream.run_withinQuota
    (hrun : Runs.Run (WatchStream.Step config toLowercase watch) (WatchStream.start state watch)
      visited final) (hquota : final.WithinQuota) : ∀ w ∈ visited, w.WithinQuota := by
  induction hrun with
  | refl =>
    intro w hw
    rw [List.mem_singleton.mp hw]
    exact hquota
  | tail hrun hstep ih =>
    intro w hw
    rcases List.mem_append.mp hw with hw | hw
    · exact ih (fun frame hframe => hquota frame (step_frames hstep hframe)) w hw
    · rw [List.mem_singleton.mp hw]
      exact hquota

theorem WatchStream.run_inv (hvalid : state.Valid) (hsub : Subscribed state watch)
    (hsize : 0 < watch.params.limit)
    (hrun : Runs.Run (WatchStream.Step config toLowercase watch) (WatchStream.start state watch)
      visited final) (hquota : final.WithinQuota) : final.Inv watch :=
  hrun.invariant_of_visited (WatchStream.Inv watch) WatchStream.WithinQuota
    (fun _ _ h _ hnext hstep => step_inv hsub hsize h hnext hstep) (start_inv hvalid hsub)
    (run_withinQuota hrun hquota)

theorem WatchStream.run_covered (hvalid : state.Valid) (hsub : Subscribed state watch)
    (hsize : 0 < watch.params.limit)
    (hrun : Runs.Run (WatchStream.Step config toLowercase watch) (WatchStream.start state watch)
      visited final) (hquota : final.WithinQuota) {m : NotificationMessage}
    (hmatch : matchesWatchPattern m.topic watch.subscription.appFilterPattern = true)
    (hend : m.sequence ≤ watch.subscription.historyEnd)
    (hstart : watch.params.startAt.admits m = true)
    (hstays : ∀ w ∈ visited, ¬ w.Passed m → m ∈ w.store.stored) :
    startScheme.Covered final.reader m := by
  have hquotas := run_withinQuota hrun hquota
  have h := hrun.invariant_of_visited
    (fun w => w.Inv watch ∧ startScheme.Covered w.reader m)
    (fun w => w.WithinQuota ∧ (¬ w.Passed m → m ∈ w.store.stored))
    (fun _ _ hinv hbefore hafter hstep => ⟨step_inv hsub hsize hinv.1 hafter.1 hstep,
      step_covered hsub hsize hmatch hend hinv.1 hinv.2 hbefore.2 hafter.1 hstep⟩)
    ⟨start_inv hvalid hsub, start_covered hstart⟩
    (fun w hw => ⟨hquotas w hw, hstays w hw⟩)
  exact h.2

end Runs

/-! ## 5. The boundary -/

/-- In every run of a watch that stays within its quota: a selected message stored at the
subscription is replayed exactly once if it stays until the replay has passed it; a selected
message stored later is delivered exactly once, live, as soon as the receiver is drained; replayed
sequences end where live ones begin; all delivered sequences increase; and the historical frames
are those of the replayed messages. -/
theorem watch_boundary (config : InMemoryConfig) (toLowercase : String → String)
    (state : BackendState) (hreach : Reachable config toLowercase state) (request : ReplayRequest)
    (topic : String) (subscription : Subscription)
    (hsubscribe : subscribeToTopic state topic = .ok subscription) (startAt : StartAt)
    (batchSize : Nat) (hsize : 0 < batchSize) (visited : List WatchStream) (final : WatchStream)
    (hrun : Runs.Run
      (WatchStream.Step config toLowercase (.new request subscription topic batchSize startAt))
      (.start state (.new request subscription topic batchSize startAt)) visited final)
    (hquota : final.WithinQuota) :
    (∀ m ∈ state.stored, matchesWatchPattern m.topic subscription.appFilterPattern = true →
      request.keep m = true → startAt.admits m = true →
      (∀ w ∈ visited, ¬ w.Passed m → m ∈ w.store.stored) →
      final.replay.cursor.hasMore = false →
      (final.replayed (.new request subscription topic batchSize startAt)).count m = 1) ∧
    (∀ m ∈ final.published, matchesWatchPattern m.topic subscription.appFilterPattern = true →
      request.keep m = true →
      m ∉ final.replayed (.new request subscription topic batchSize startAt) ∧
      (m ∉ final.receiver → final.live.count m = 1)) ∧
    (∀ m ∈ final.replayed (.new request subscription topic batchSize startAt),
      m.sequence ≤ subscription.historyEnd) ∧
    (∀ m ∈ final.live, subscription.historyEnd < m.sequence ∧ m ∈ final.published) ∧
    (final.replayed (.new request subscription topic batchSize startAt) ++ final.live).Pairwise
      (fun x y => x.sequence < y.sequence) ∧
    final.replayFrames =
      (final.replayed (.new request subscription topic batchSize startAt)).map
        (request.replayFrame topic) := by
  set watch := WatchRequest.new request subscription topic batchSize startAt with hwatch
  have hvalid := reachable_valid hreach
  have hsub := subscribed_new state request subscription topic batchSize startAt hsubscribe
  have hinv := WatchStream.run_inv hvalid hsub hsize hrun hquota
  have hreplayed : Paging.Increasing startScheme.key (final.replayed watch) :=
    hinv.follows.increasing.filter _
  have hlive : final.live.Sublist final.published := by
    have hsublist : final.live.Sublist (final.published.filter watch.selects) := by
      rw [← hinv.live]
      exact List.sublist_append_left _ _
    exact hsublist.trans List.filter_sublist
  -- the boundary: what is replayed is part of the history, and what is published is younger
  have hold (m : NotificationMessage) (hm : m ∈ final.replayed watch) :
      m.sequence ≤ subscription.historyEnd :=
    (hinv.fetched m (List.mem_of_mem_filter hm)).2
  have hnew (m : NotificationMessage) (hm : m ∈ final.published) :
      subscription.historyEnd < m.sequence :=
    (hinv.recent m hm).1
  refine ⟨fun m hm hmatch hkeep hstart hstays hdone => ?_, fun m hm hmatch hkeep => ⟨?_, ?_⟩, hold,
    fun m hm => ⟨hnew m (hlive.subset hm), hlive.subset hm⟩, ?_, hinv.frames⟩
  · have hend : m.sequence ≤ subscription.historyEnd := by
      have hbelow := hvalid.below m hm
      have hend : subscription.historyEnd = state.nextSequence - 1 := hsub.historyEnd
      omega
    rcases WatchStream.run_covered hvalid hsub hsize hrun hquota hmatch hend hstart hstays with
      hmem | ⟨hmore, -⟩
    · exact List.count_eq_one_of_mem hreplayed.nodup (List.mem_filter.mpr ⟨hmem, hkeep⟩)
    · have hcontra : final.replay.cursor.hasMore = true := hmore
      rw [hdone] at hcontra
      cases hcontra
  · intro hmem
    have hle := hold m hmem
    have hlt := hnew m hm
    omega
  · intro hdrained
    have hselected : m ∈ final.published.filter watch.selects :=
      List.mem_filter.mpr ⟨hm, by simp [WatchRequest.selects, hwatch, WatchRequest.new, hmatch,
        hkeep]⟩
    -- what is selected of the published messages is delivered or still in the receiver
    rw [← hinv.live, List.mem_append] at hselected
    rcases hselected with hmem | hmem
    · exact List.count_eq_one_of_mem (hinv.published.sublist hlive |>.nodup) hmem
    · exact absurd (List.mem_of_mem_filter hmem) hdrained
  · refine Paging.increasing_append hreplayed (hinv.published.sublist hlive) fun x hx y hy => ?_
    exact (hold x hx).trans_lt (hnew y (hlive.subset hy))

/-- A watch over `twoTopics` that starts at sequence one and passes everything. -/
def twoTopicsWatch : WatchRequest :=
  .new { oneOdRequest with keep := fun _ => true, maxAllowed := 10 }
    { appFilterPattern := ["mars", "*"], historyEnd := 2 } "mars.%2A" 1 (.sequence 1)

/-- The watch after one fetch. -/
def twoTopicsFetched : WatchStream :=
  (WatchStream.start twoTopics twoTopicsWatch).afterFetch twoTopicsWatch 0

/-- What another client stores then. -/
def thirdStore : BackendState × NotificationMessage :=
  storeMessage twoTopicsConfig ⟨9, fun _ => 9⟩ "mars.xd" "3" none twoTopicsFetched.store

/-- The watch after the second fetch. -/
def twoTopicsReplayed : WatchStream :=
  (twoTopicsFetched.afterStore (some thirdStore.2) thirdStore.1).afterFetch twoTopicsWatch 0

def twoTopicsReceived : WatchStream :=
  twoTopicsReplayed.afterReceive twoTopicsWatch thirdStore.2 []

theorem twoTopicsReceived_run : ∃ visited, Runs.Run
    (WatchStream.Step twoTopicsConfig id twoTopicsWatch) (.start twoTopics twoTopicsWatch) visited
    twoTopicsReceived := by
  have hfetched : WatchStream.Step twoTopicsConfig id twoTopicsWatch
      (.start twoTopics twoTopicsWatch) twoTopicsFetched := .fetch _ 0 rfl
  have hstored : WatchStream.Step twoTopicsConfig id twoTopicsWatch twoTopicsFetched
      (twoTopicsFetched.afterStore (some thirdStore.2) thirdStore.1) :=
    .store _ _ _ (.storeMessage _ ⟨9, fun _ => 9⟩ "mars.xd" "3" none)
  have hreplayed : WatchStream.Step twoTopicsConfig id twoTopicsWatch
      (twoTopicsFetched.afterStore (some thirdStore.2) thirdStore.1) twoTopicsReplayed :=
    .fetch _ 0 (by decide +kernel)
  have hreceived : WatchStream.Step twoTopicsConfig id twoTopicsWatch twoTopicsReplayed
      twoTopicsReceived :=
    .receive _ _ _ (by decide +kernel) (by decide +kernel) (by decide +kernel)
  exact ⟨_, (((Runs.Run.refl.tail hfetched).tail hstored).tail hreplayed).tail hreceived⟩

theorem twoTopicsReceived_withinQuota : twoTopicsReceived.WithinQuota := by
  have h : ∀ frame ∈ twoTopicsReceived.replayFrames, frame.isReplayLimitReached = false := by
    decide +kernel
  exact h

theorem watch_boundary_twoTopics :
    (twoTopicsReceived.replayed twoTopicsWatch ++ twoTopicsReceived.live).map (·.sequence) =
        [1, 2, 3] ∧
      (twoTopicsReceived.replayed twoTopicsWatch ++ twoTopicsReceived.live).Pairwise
        (fun x y => x.sequence < y.sequence) := by
  obtain ⟨visited, hrun⟩ := twoTopicsReceived_run
  have h := watch_boundary twoTopicsConfig id twoTopics twoTopics_reachable
    twoTopicsWatch.request "mars.%2A" twoTopicsWatch.subscription (by decide +kernel)
    (.sequence 1) 1 (by decide) visited twoTopicsReceived hrun twoTopicsReceived_withinQuota
  exact ⟨by decide +kernel, h.2.2.2.2.1⟩

end AvisoServer
