import AvisoServer.Lib.LossyQueue
import AvisoServer.Sse.ReplayHalf

/-!
# A watch over a bounded channel

The broadcast channel of the in-memory backend retains a bounded number of messages. A watch that
has fallen further behind is told so and goes on with the oldest retained message, so it misses the
messages between; whatever happens, what it delivers stays in order and free of duplicates.
-/

namespace AvisoServer

/-! ## 1. The watch and its steps -/

/-- The capacity that `InMemoryBackend::new` asks of the channel. -/
def channelCapacity (config : InMemoryConfig) : Nat :=
  let requestedChannelCapacity := min (config.maxHistoryPerTopic * config.maxTopics) (2 ^ 64 - 1)
  min (max requestedChannelCapacity 1024) 65536

/-- A watch with the messages it has missed and the counts its receiver was told. -/
structure BoundedWatch where
  watch : WatchStream
  skipped : List NotificationMessage
  lags : List Nat

def BoundedWatch.start (store : BackendState) (request : WatchRequest) : BoundedWatch where
  watch := .start store request
  skipped := []
  lags := []

def WatchStream.half (w : WatchStream) : ReplayHalf where
  replay := w.replay
  frames := w.replayFrames
  fetched := w.fetched

/-- A receive that finds the receiver lagged: the stream warns and goes on. -/
def BoundedWatch.afterLag (w : BoundedWatch) (skipped : Nat) (rest : List NotificationMessage) :
    BoundedWatch where
  watch := { w.watch with receiver := rest }
  skipped := w.skipped ++ w.watch.receiver.take skipped
  lags := w.lags ++ [skipped]

theorem BoundedWatch.afterLag_half (w : BoundedWatch) (skipped : Nat)
    (rest : List NotificationMessage) : (w.afterLag skipped rest).watch.half = w.watch.half := rfl

/-- The steps of a watch whose channel retains `capacity` messages. -/
inductive BoundedWatch.Step (config : InMemoryConfig) (toLowercase : String → String)
    (capacity : Nat) (request : WatchRequest) : BoundedWatch → BoundedWatch → Prop where
  | store (w : BoundedWatch) (sent : Option NotificationMessage) (next : BackendState)
      (hstep : StoreStep config toLowercase w.watch.store sent next) :
      BoundedWatch.Step config toLowercase capacity request w
        { w with watch := w.watch.afterStore sent next }
  | fetch (w : BoundedWatch) (now : DateTime) (hmore : w.watch.replay.cursor.hasMore = true) :
      BoundedWatch.Step config toLowercase capacity request w
        { w with watch := w.watch.afterFetch request now }
  | receive (w : BoundedWatch) (m : NotificationMessage) (rest : List NotificationMessage)
      (hended : w.watch.half.Ended)
      (hrecv : LossyQueue.recv capacity w.watch.receiver = some (.item m, rest)) :
      BoundedWatch.Step config toLowercase capacity request w
        { w with watch := w.watch.afterReceive request m rest }
  | lagged (w : BoundedWatch) (skipped : Nat) (rest : List NotificationMessage)
      (hended : w.watch.half.Ended)
      (hrecv : LossyQueue.recv capacity w.watch.receiver = some (.lagged skipped, rest)) :
      BoundedWatch.Step config toLowercase capacity request w (w.afterLag skipped rest)

/-! ## 2. The invariant -/

/-- What the replay of a watch fetches. -/
def WatchRequest.Wants (request : WatchRequest) (m : NotificationMessage) : Prop :=
  matchesWatchPattern m.topic request.subscription.appFilterPattern = true ∧
    m.sequence ≤ request.subscription.historyEnd

structure BoundedWatch.Inv (request : WatchRequest) (w : BoundedWatch) : Prop where
  valid : w.watch.store.Valid
  beyond : request.subscription.historyEnd < w.watch.store.nextSequence
  half : w.watch.half.Inv request.request request.params request.Wants
  accounts : ∃ received, LossyQueue.Accounts w.watch.published received w.skipped w.watch.receiver ∧
    w.watch.live = received.filter request.selects
  lags : w.lags.sum = w.skipped.length
  /-- the live stream is read only when the historical one is over -/
  chained : w.watch.live ≠ [] → w.watch.half.Ended
  published : Paging.Increasing startScheme.key w.watch.published
  recent : ∀ m ∈ w.watch.published,
    request.subscription.historyEnd < m.sequence ∧ m.sequence < w.watch.store.nextSequence

section Steps

variable {config : InMemoryConfig} {toLowercase : String → String} {capacity : Nat}
  {request : WatchRequest} {state : BackendState} {w next : BoundedWatch}

theorem BoundedWatch.start_inv (hvalid : state.Valid) (hsub : Subscribed state request) :
    (BoundedWatch.start state request).Inv request where
  valid := hvalid
  beyond := by
    have := hvalid.positive
    rw [hsub.historyEnd]
    exact Nat.sub_lt this Nat.one_pos
  half := ReplayHalf.initial_inv
  accounts := ⟨[], LossyQueue.accounts_start, rfl⟩
  lags := rfl
  chained := fun hlive => absurd rfl hlive
  published := List.Pairwise.nil
  recent := by
    intro m hm
    cases hm

/-- What the store answers to the replay of a watch. -/
theorem BoundedWatch.Inv.batch (h : w.Inv request) (hsub : Subscribed state request)
    (hsize : 0 < request.params.limit) :
    ∃ batch, getMessagesBatch w.watch.store w.watch.replay.cursor.params = .ok batch ∧
      startScheme.Serves (Offered w.watch.store request.subscription.appFilterPattern
        request.subscription.historyEnd) w.watch.replay.cursor.params.startAt batch.page ∧
      startScheme.Progress (· ∈ w.watch.store.stored) w.watch.replay.cursor.params.startAt
        batch.page := by
  obtain ⟨coarse, hpattern⟩ := hsub.topic
  have hparams : w.watch.replay.cursor.params =
      request.params.withStartAt w.watch.replay.cursor.params.startAt := h.half.params
  obtain ⟨batch, hbatch, -⟩ := getMessagesBatch_page w.watch.store
    (request.params.withStartAt w.watch.replay.cursor.params.startAt) coarse _ hpattern
  have hserves := getMessagesBatch_serves
    (request.params.withStartAt w.watch.replay.cursor.params.startAt) h.valid hpattern hsize hbatch
  have hprog := getMessagesBatch_progress
    (request.params.withStartAt w.watch.replay.cursor.params.startAt) hpattern hbatch
  rw [← hsub.endSequence]
  exact ⟨batch, by rw [hparams]; exact hbatch, hserves, hprog⟩

theorem WatchStream.afterFetch_half (watch : WatchStream) (now : DateTime) {batch : BatchResult}
    (hbatch : getMessagesBatch watch.store watch.replay.cursor.params = .ok batch) :
    (watch.afterFetch request now).half = watch.half.after request.request now (.ok batch) := by
  rw [← hbatch]
  rfl

/-- A stored message is younger than all that were published before it. -/
theorem BoundedWatch.Inv.afterStore (h : w.Inv request) {sent : Option NotificationMessage}
    {store : BackendState} (hstep : StoreStep config toLowercase w.watch.store sent store) :
    ({ w with watch := w.watch.afterStore sent store } : BoundedWatch).Inv request := by
  have harchive := storeStep_archive h.valid hstep
  have hle : w.watch.store.nextSequence ≤ store.nextSequence := harchive.next_le
  have hrecent (m : NotificationMessage) (hm : m ∈ w.watch.published) :
      request.subscription.historyEnd < m.sequence ∧ m.sequence < store.nextSequence :=
    ⟨(h.recent m hm).1, (h.recent m hm).2.trans_le hle⟩
  obtain ⟨received, haccounts, hlive⟩ := h.accounts
  refine { h with
    valid := storeStep_valid h.valid hstep
    beyond := h.beyond.trans_le hle
    accounts := ⟨received, haccounts.send sent.toList, hlive⟩
    published := ?_
    recent := ?_ }
  · cases sent with
    | none => simpa [WatchStream.afterStore] using h.published
    | some m =>
      have hm : m.sequence = w.watch.store.nextSequence := harchive.sent_eq.1
      refine Paging.increasing_append h.published (List.pairwise_singleton _ _) ?_
      intro x hx y hy
      rw [List.mem_singleton.mp hy]
      exact (h.recent x hx).2.trans_eq hm.symm
  · intro m hm
    rcases List.mem_append.mp hm with hm | hm
    · exact hrecent m hm
    · cases sent with
      | none => cases hm
      | some m' =>
        have hseq : m'.sequence = w.watch.store.nextSequence := harchive.sent_eq.1
        have hnext : store.nextSequence = w.watch.store.nextSequence + 1 := harchive.sent_eq.2.1
        rw [List.mem_singleton.mp hm]
        refine ⟨h.beyond.trans_eq hseq.symm, ?_⟩
        change m'.sequence < store.nextSequence
        omega

theorem BoundedWatch.step_inv (hsub : Subscribed state request) (hsize : 0 < request.params.limit)
    (h : w.Inv request) (hstep : BoundedWatch.Step config toLowercase capacity request w next) :
    next.Inv request := by
  obtain ⟨received, haccounts, hlive⟩ := h.accounts
  cases hstep with
  | store sent store hstore => exact h.afterStore hstore
  | fetch now hmore =>
    obtain ⟨batch, hbatch, hserves, hprog⟩ := h.batch hsub hsize
    refine { h with
      half := ?_
      chained := ?_ }
    · rw [WatchStream.afterFetch_half _ _ hbatch]
      exact h.half.after_ok hmore hserves hprog fun m hm => hm.2
    · -- nothing is fetched once the live stream is read
      intro hstarted
      have hdone : w.watch.replay.cursor.hasMore = false := (h.chained hstarted).1
      rw [hmore] at hdone
      cases hdone
  | receive m rest hended hrecv =>
    obtain ⟨hpending, -⟩ := LossyQueue.recv_item hrecv
    rw [hpending] at haccounts
    refine { h with
      accounts := ⟨received ++ [m], haccounts.receive, ?_⟩
      chained := fun _ => hended }
    change w.watch.live ++ (if request.selects m then [m] else []) = _
    rw [hlive, List.filter_append, List.filter_singleton]
    cases request.selects m <;> rfl
  | lagged skipped rest hended hrecv =>
    obtain ⟨hpending, hlength, -, -⟩ := LossyQueue.recv_lagged hrecv
    rw [hpending] at haccounts
    refine { h with
      accounts := ⟨received, haccounts.skip, hlive⟩
      lags := ?_ }
    change (w.lags ++ [skipped]).sum = (w.skipped ++ w.watch.receiver.take skipped).length
    rw [List.sum_append, List.length_append, hlength, h.lags, List.sum_singleton]

/-- A message of the history stays within reach of the replay while it is stored. -/
theorem BoundedWatch.step_reaches (hsub : Subscribed state request)
    (hsize : 0 < request.params.limit) {m : NotificationMessage} (hwants : request.Wants m)
    (h : w.Inv request) (hreaches : w.watch.half.Reaches m)
    (hstored : ¬ w.watch.Passed m → m ∈ w.watch.store.stored)
    (hstep : BoundedWatch.Step config toLowercase capacity request w next) :
    next.watch.half.Reaches m := by
  cases hstep with
  | store sent store hstore => exact hreaches
  | receive m' rest hended hrecv => exact hreaches
  | lagged skipped rest hended hrecv => exact hreaches
  | fetch now hmore =>
    obtain ⟨batch, hbatch, hserves, -⟩ := h.batch hsub hsize
    rw [WatchStream.afterFetch_half _ _ hbatch]
    refine hreaches.after_ok h.half hserves fun hadmits _ => ⟨hstored ?_, hwants⟩
    rintro (hdone | hpassed)
    · rw [hmore] at hdone
      cases hdone
    · rw [show w.watch.replay.cursor.params.startAt.admits m = true from hadmits] at hpassed
      cases hpassed

theorem BoundedWatch.step_started (hsub : Subscribed state request)
    (hsize : 0 < request.params.limit) {first : Nat} (h : w.Inv request)
    (hstarted : w.watch.half.Started first)
    (hstep : BoundedWatch.Step config toLowercase capacity request w next) :
    next.watch.half.Started first := by
  cases hstep with
  | store sent store hstore => exact hstarted
  | receive m rest hended hrecv => exact hstarted
  | lagged skipped rest hended hrecv => exact hstarted
  | fetch now hmore =>
    obtain ⟨batch, hbatch, hserves, hprog⟩ := h.batch hsub hsize
    rw [WatchStream.afterFetch_half _ _ hbatch]
    exact hstarted.after_ok hserves hprog

/-- A watch that is not further behind than the channel retains takes a step of the watch over an
unbounded one. -/
theorem BoundedWatch.step_unbounded (hsmall : w.watch.receiver.length ≤ capacity)
    (hstep : BoundedWatch.Step config toLowercase capacity request w next) :
    WatchStream.Step config toLowercase request w.watch next.watch ∧ next.skipped = w.skipped := by
  cases hstep with
  | store sent store hstore => exact ⟨.store w.watch sent store hstore, rfl⟩
  | fetch now hmore => exact ⟨.fetch w.watch now hmore, rfl⟩
  | receive m rest hended hrecv =>
    have hpending := (LossyQueue.recv_item hrecv).1
    exact ⟨.receive w.watch m rest hended.1 hended.2 hpending, rfl⟩
  | lagged skipped rest hended hrecv =>
    exact absurd hrecv (LossyQueue.recv_of_le hsmall skipped)

end Steps

/-! ## 3. Runs -/

section Runs

variable {config : InMemoryConfig} {toLowercase : String → String} {capacity : Nat}
  {request : WatchRequest} {state : BackendState} {visited : List BoundedWatch}
  {final : BoundedWatch}

theorem BoundedWatch.run_inv (hvalid : state.Valid) (hsub : Subscribed state request)
    (hsize : 0 < request.params.limit)
    (hrun : Runs.Run (BoundedWatch.Step config toLowercase capacity request)
      (BoundedWatch.start state request) visited final) : final.Inv request :=
  hrun.invariant (BoundedWatch.Inv request) (fun _ _ h hstep => step_inv hsub hsize h hstep)
    (start_inv hvalid hsub)

theorem BoundedWatch.run_reaches (hvalid : state.Valid) (hsub : Subscribed state request)
    (hsize : 0 < request.params.limit)
    (hrun : Runs.Run (BoundedWatch.Step config toLowercase capacity request)
      (BoundedWatch.start state request) visited final) {m : NotificationMessage}
    (hwants : request.Wants m) (hstart : request.params.startAt.admits m = true)
    (hstays : ∀ w ∈ visited, ¬ w.watch.Passed m → m ∈ w.watch.store.stored) :
    final.watch.half.Reaches m := by
  have h := hrun.invariant_of_visited
    (fun w => w.Inv request ∧ w.watch.half.Reaches m)
    (fun w => ¬ w.watch.Passed m → m ∈ w.watch.store.stored)
    (fun _ _ hinv hstored _ hstep => ⟨step_inv hsub hsize hinv.1 hstep,
      step_reaches hsub hsize hwants hinv.1 hinv.2 hstored hstep⟩)
    ⟨start_inv hvalid hsub, ReplayHalf.initial_reaches hstart⟩ hstays
  exact h.2

theorem BoundedWatch.run_started (hvalid : state.Valid) (hsub : Subscribed state request)
    (hsize : 0 < request.params.limit)
    (hrun : Runs.Run (BoundedWatch.Step config toLowercase capacity request)
      (BoundedWatch.start state request) visited final) {first : Nat}
    (hstart : request.params.startAt = .sequence first) : final.watch.half.Started first := by
  have h := hrun.invariant (fun w => w.Inv request ∧ w.watch.half.Started first)
    (fun _ _ hinv hstep => ⟨step_inv hsub hsize hinv.1 hstep,
      step_started hsub hsize hinv.1 hinv.2 hstep⟩)
    ⟨start_inv hvalid hsub, ReplayHalf.initial_started hstart⟩
  exact h.2

/-- A run that never falls further behind than the channel retains misses nothing and is a run
over an unbounded channel. -/
theorem BoundedWatch.run_unbounded
    (hrun : Runs.Run (BoundedWatch.Step config toLowercase capacity request)
      (BoundedWatch.start state request) visited final)
    (hsmall : ∀ w ∈ visited, w.watch.receiver.length ≤ capacity) :
    final.skipped = [] ∧ Runs.Run (WatchStream.Step config toLowercase request)
      (.start state request) (visited.map (·.watch)) final.watch := by
  induction hrun with
  | refl => exact ⟨rfl, .refl⟩
  | @tail visited w next hrun hstep ih =>
    have hbefore : ∀ w ∈ visited, w.watch.receiver.length ≤ capacity := fun w hw =>
      hsmall w (List.mem_append_left _ hw)
    obtain ⟨hskipped, hrun'⟩ := ih hbefore
    have hw : w ∈ visited := by
      cases hrun with
      | refl => exact List.mem_singleton_self _
      | tail => exact List.mem_append_right _ (List.mem_singleton_self _)
    obtain ⟨hstep', hsame⟩ := step_unbounded (hbefore w hw) hstep
    refine ⟨hsame.trans hskipped, ?_⟩
    rw [List.map_append]
    exact hrun'.tail hstep'

end Runs

/-! ## 4. What a watch delivers -/

/-- The messages whose notifications the stream has sent, in the order it sent them. -/
def BoundedWatch.notifications (request : WatchRequest) (w : BoundedWatch) :
    List NotificationMessage :=
  w.watch.half.sent request.request w.watch.live

section Delivery

variable {request : WatchRequest} {w : BoundedWatch}

theorem BoundedWatch.Inv.live_sublist (h : w.Inv request) :
    w.watch.live.Sublist w.watch.published := by
  obtain ⟨received, haccounts, hlive⟩ := h.accounts
  rw [hlive]
  exact List.filter_sublist.trans haccounts.received_sublist

theorem BoundedWatch.Inv.handsOver (h : w.Inv request) :
    w.watch.half.HandsOver request.subscription.historyEnd w.watch.live where
  replayed := fun m hm => (h.half.sound m hm).2
  beyond := fun m hm => (h.recent m (h.live_sublist.subset hm)).1
  increasing := h.published.sublist h.live_sublist
  chained := h.chained

/-- A selected message published since the subscription was delivered, was missed or is pending. -/
theorem BoundedWatch.Inv.count_published (h : w.Inv request) {m : NotificationMessage}
    (hm : m ∈ w.watch.published) (hselects : request.selects m = true) :
    w.watch.live.count m + w.skipped.count m + w.watch.receiver.count m = 1 := by
  obtain ⟨received, haccounts, hlive⟩ := h.accounts
  have hcount := haccounts.perm.count_eq m
  rw [List.count_append, List.count_append,
    List.count_eq_one_of_mem h.published.nodup hm] at hcount
  rw [hlive, List.count_filter hselects, hcount]

end Delivery

/-- In every run of a watch, however far it falls behind: its notifications come in strictly
increasing order, replayed ones up to the boundary and live ones behind it; nothing is live before
the replay ended and sent all that passes the filter; a message of the history is sent exactly once
by a replay that ends, if it stays until the replay has passed it; a selected message published
since the subscription is exactly one of delivered, missed and pending; the lags the receiver was told count
the missed messages; and a watch that is never further behind than the requested capacity misses
none, so it runs as over an unbounded channel. -/
theorem boundedWatch_delivers (config : InMemoryConfig) (toLowercase : String → String)
    (state : BackendState) (hreach : Reachable config toLowercase state) (request : ReplayRequest)
    (topic : String) (subscription : Subscription)
    (hsubscribe : subscribeToTopic state topic = .ok subscription) (startAt : StartAt)
    (batchSize : Nat) (hsize : 0 < batchSize) (capacity : Nat) (visited : List BoundedWatch)
    (final : BoundedWatch)
    (hrun : Runs.Run (BoundedWatch.Step config toLowercase capacity
        (.new request subscription topic batchSize startAt))
      (.start state (.new request subscription topic batchSize startAt)) visited final) :
    (final.notifications (.new request subscription topic batchSize startAt)).Pairwise
        (fun x y => x.sequence < y.sequence) ∧
    (∀ m ∈ final.watch.half.notifications request, m.sequence ≤ subscription.historyEnd) ∧
    (∀ m ∈ final.watch.live, subscription.historyEnd < m.sequence) ∧
    (final.watch.live ≠ [] → final.watch.half.Ended ∧
      final.watch.half.notifications request = final.watch.fetched.filter request.delivers) ∧
    (∀ m ∈ state.stored, matchesWatchPattern m.topic subscription.appFilterPattern = true →
      request.delivers m = true → startAt.admits m = true →
      (∀ w ∈ visited, ¬ w.watch.Passed m → m ∈ w.watch.store.stored) →
      final.watch.half.Ended → (final.watch.half.notifications request).count m = 1) ∧
    (∀ m ∈ final.watch.published, matchesWatchPattern m.topic subscription.appFilterPattern = true →
      request.keep m = true →
      final.watch.live.count m + final.skipped.count m + final.watch.receiver.count m = 1) ∧
    final.lags.sum = final.skipped.length ∧
    (channelCapacity config ≤ capacity →
      (∀ w ∈ visited, w.watch.receiver.length ≤ channelCapacity config) →
      final.skipped = [] ∧ Runs.Run
        (WatchStream.Step config toLowercase (.new request subscription topic batchSize startAt))
        (.start state (.new request subscription topic batchSize startAt))
        (visited.map (·.watch)) final.watch) := by
  have hvalid := reachable_valid hreach
  have hsub := subscribed_new state request subscription topic batchSize startAt hsubscribe
  have hinv := BoundedWatch.run_inv hvalid hsub hsize hrun
  refine ⟨hinv.handsOver.sent_increasing hinv.half, fun m hm =>
    hinv.handsOver.replayed m (ReplayHalf.mem_notifications hm).1, hinv.handsOver.beyond,
    fun hlive => ⟨hinv.chained hlive, hinv.half.notifications_of_open (hinv.chained hlive).2⟩,
    fun m hm hmatch hdelivers hadmits hstays hended => ?_, fun m hm hmatch hkeep => ?_, hinv.lags,
    fun hcapacity hsmall => ?_⟩
  · have hbelow := hvalid.below m hm
    have hend : subscription.historyEnd = state.nextSequence - 1 := hsub.historyEnd
    have hhistory : m.sequence ≤ subscription.historyEnd := by omega
    have hreaches := BoundedWatch.run_reaches hvalid hsub hsize hrun ⟨hmatch, hhistory⟩ hadmits
      hstays
    exact hinv.half.count_of_ended hreaches hended hdelivers
  · refine hinv.count_published hm ?_
    simp [WatchRequest.selects, WatchRequest.new, hmatch, hkeep]
  · exact BoundedWatch.run_unbounded hrun fun w hw => (hsmall w hw).trans hcapacity

/-- What another client stores while the watch of `twoTopicsReplayed` has not read the third. -/
def fourthStore : BackendState × NotificationMessage :=
  storeMessage twoTopicsConfig ⟨11, fun _ => 11⟩ "mars.od" "4" none twoTopicsReplayed.store

def twoTopicsBehind : BoundedWatch where
  watch := twoTopicsReplayed.afterStore (some fourthStore.2) fourthStore.1
  skipped := []
  lags := []

/-- Over a channel that retains one message, the third is gone and the fourth is received. -/
def twoTopicsLagged : BoundedWatch :=
  let lagged := twoTopicsBehind.afterLag 1 [fourthStore.2]
  { lagged with watch := lagged.watch.afterReceive twoTopicsWatch fourthStore.2 [] }

theorem twoTopicsLagged_run : ∃ visited, Runs.Run
    (BoundedWatch.Step twoTopicsConfig id 1 twoTopicsWatch) (.start twoTopics twoTopicsWatch)
    visited twoTopicsLagged := by
  have hfetched : BoundedWatch.Step twoTopicsConfig id 1 twoTopicsWatch
      (.start twoTopics twoTopicsWatch) ⟨twoTopicsFetched, [], []⟩ := .fetch _ 0 rfl
  have hthird : BoundedWatch.Step twoTopicsConfig id 1 twoTopicsWatch ⟨twoTopicsFetched, [], []⟩
      ⟨twoTopicsFetched.afterStore (some thirdStore.2) thirdStore.1, [], []⟩ :=
    .store _ _ _ (.storeMessage _ ⟨9, fun _ => 9⟩ "mars.xd" "3" none)
  have hreplayed : BoundedWatch.Step twoTopicsConfig id 1 twoTopicsWatch
      ⟨twoTopicsFetched.afterStore (some thirdStore.2) thirdStore.1, [], []⟩
      ⟨twoTopicsReplayed, [], []⟩ := .fetch _ 0 (by decide +kernel)
  have hfourth : BoundedWatch.Step twoTopicsConfig id 1 twoTopicsWatch
      ⟨twoTopicsReplayed, [], []⟩ twoTopicsBehind :=
    .store _ _ _ (.storeMessage _ ⟨11, fun _ => 11⟩ "mars.od" "4" none)
  have hended : twoTopicsBehind.watch.half.Ended :=
    ⟨by decide +kernel, by decide +kernel⟩
  have hended' : (twoTopicsBehind.afterLag 1 [fourthStore.2]).watch.half.Ended := by
    rw [BoundedWatch.afterLag_half]
    exact hended
  have hlagged : BoundedWatch.Step twoTopicsConfig id 1 twoTopicsWatch twoTopicsBehind
      (twoTopicsBehind.afterLag 1 [fourthStore.2]) :=
    .lagged _ 1 _ hended (by decide +kernel)
  have hreceived : BoundedWatch.Step twoTopicsConfig id 1 twoTopicsWatch
      (twoTopicsBehind.afterLag 1 [fourthStore.2]) twoTopicsLagged :=
    .receive _ fourthStore.2 [] hended' (by decide +kernel)
  exact ⟨_, (((((Runs.Run.refl.tail hfetched).tail hthird).tail hreplayed).tail hfourth).tail
    hlagged).tail hreceived⟩

theorem boundedWatch_delivers_twoTopics :
    (twoTopicsLagged.notifications twoTopicsWatch).map (·.sequence) = [1, 2, 4] ∧
      (twoTopicsLagged.notifications twoTopicsWatch).Pairwise
        (fun x y => x.sequence < y.sequence) ∧
      twoTopicsLagged.watch.half.Ended ∧
      twoTopicsLagged.lags.sum = twoTopicsLagged.skipped.length ∧
      twoTopicsLagged.skipped.map (·.sequence) = [3] := by
  obtain ⟨visited, hrun⟩ := twoTopicsLagged_run
  obtain ⟨hincreasing, -, -, hlive, -, -, hlags, -⟩ := boundedWatch_delivers twoTopicsConfig id twoTopics twoTopics_reachable
    twoTopicsWatch.request "mars.%2A" twoTopicsWatch.subscription (by decide +kernel)
    (.sequence 1) 1 (by decide) 1 visited twoTopicsLagged hrun
  exact ⟨by decide +kernel, hincreasing, (hlive (by decide +kernel)).1, hlags, by decide +kernel⟩

end AvisoServer
