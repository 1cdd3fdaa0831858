import AvisoServer.Backend.JetStreamSubscriber
import AvisoServer.Lib.LossyQueue
import AvisoServer.Sse.ReplayHalf

/-!
# A watch over JetStream

The consumer of the live half is created first and its cursor is the end of the history; the replay
half then pages through the stream up to there with consumers of its own. Between any two steps the
stream may grow and entries may go. Nothing acknowledges a live message, so what is lost on the way
to the subscriber is not sent again.
-/

namespace AvisoServer

/-! ## 1. The watch and its steps -/

/-- A watch after its subscription, with the stream it reads. `position` is the cursor of the live
consumer, `buffer` what that has sent and the stream has not taken; `pushed` and `lost` record what
it has sent and what of it was lost. An item is an entry, or an error of the message stream. -/
structure JetStreamWatch where
  stream : JetStreamStream
  half : ReplayHalf
  position : Nat
  buffer : List (Result HistoryEntry)
  live : List NotificationMessage
  pushed : List (Result HistoryEntry)
  lost : List (Result HistoryEntry)

def JetStreamWatch.start (stream : JetStreamStream) (watch : WatchRequest) : JetStreamWatch where
  stream := stream
  half := .initial watch.params
  position := watch.subscription.historyEnd
  buffer := []
  live := []
  pushed := []
  lost := []

section Steps

variable (fromUtf8Lossy : List UInt8 → String) (raw : HistoryEntry → JetStreamMessage)

/-- The message a live item becomes, if it passes the pattern and the filter of the request. -/
def WatchRequest.liveMessage (watch : WatchRequest) (item : Result HistoryEntry) :
    Option NotificationMessage :=
  (subscribedMessage fromUtf8Lossy watch.subscription.appFilterPattern (item.map raw)).filter
    watch.request.keep

/-- The live consumer sends an item. -/
def JetStreamWatch.afterPush (w : JetStreamWatch) (item : Result HistoryEntry) (position : Nat) :
    JetStreamWatch :=
  { w with
    position := position
    buffer := w.buffer ++ [item]
    pushed := w.pushed ++ [item] }

def JetStreamWatch.afterFetch (w : JetStreamWatch) (watch : WatchRequest) (now : DateTime)
    (answer : Result BatchResult) : JetStreamWatch :=
  { w with half := w.half.after watch.request now answer }

def JetStreamWatch.afterReceive (w : JetStreamWatch) (watch : WatchRequest)
    (item : Result HistoryEntry) (rest : List (Result HistoryEntry)) : JetStreamWatch :=
  { w with
    buffer := rest
    live := w.live ++ (watch.liveMessage fromUtf8Lossy raw item).toList }

def JetStreamWatch.afterLoss (w : JetStreamWatch) (item : Result HistoryEntry)
    (rest : List (Result HistoryEntry)) : JetStreamWatch :=
  { w with
    buffer := rest
    lost := w.lost ++ [item] }

/-- The steps of a watch whose live consumer reads this stream through this filter. -/
inductive JetStreamWatch.Step (streamName filterSubject : String) (watch : WatchRequest) :
    JetStreamWatch → JetStreamWatch → Prop where
  | stream (w : JetStreamWatch) (sent : Option HistoryEntry) (next : JetStreamStream)
      (hstep : JetStreamStream.Step w.stream sent next) :
      JetStreamWatch.Step streamName filterSubject watch w { w with stream := next }
  /-- a batch, answered by a server that keeps the stream as it is at the time -/
  | fetch (w : JetStreamWatch) (now : DateTime) (server : JetStreamServer) (call : Nat)
      (hserver : server.Keeps w.stream.history raw)
      (hmore : w.half.replay.cursor.hasMore = true) :
      JetStreamWatch.Step streamName filterSubject watch w (w.afterFetch watch now
        (jetstreamGetMessagesBatch fromUtf8Lossy server call w.half.replay.cursor.params))
  | fetchFails (w : JetStreamWatch) (now : DateTime) (e : Error)
      (hmore : w.half.replay.cursor.hasMore = true) :
      JetStreamWatch.Step streamName filterSubject watch w (w.afterFetch watch now (.error e))
  | deliver (w : JetStreamWatch) (e : HistoryEntry)
      (hnext : w.stream.nextEntry streamName filterSubject w.position = some e) :
      JetStreamWatch.Step streamName filterSubject watch w (w.afterPush (.ok e) e.sequence)
  | fault (w : JetStreamWatch) (e : Error) :
      JetStreamWatch.Step streamName filterSubject watch w (w.afterPush (.error e) w.position)
  | lose (w : JetStreamWatch) (item : Result HistoryEntry) (rest : List (Result HistoryEntry))
      (hbuffer : w.buffer = item :: rest) :
      JetStreamWatch.Step streamName filterSubject watch w (w.afterLoss item rest)
  | receive (w : JetStreamWatch) (item : Result HistoryEntry) (rest : List (Result HistoryEntry))
      (hended : w.half.Ended) (hbuffer : w.buffer = item :: rest) :
      JetStreamWatch.Step streamName filterSubject watch w
        (w.afterReceive fromUtf8Lossy raw watch item rest)

end Steps

/-- The replay is past the message: it has ended, or it resumes behind it. -/
def JetStreamWatch.Passed (w : JetStreamWatch) (m : NotificationMessage) : Prop :=
  w.half.replay.cursor.hasMore = false ∨ w.half.replay.cursor.params.startAt.admits m = false

/-! ## 2. The invariant -/

/-- Of two entries sent, the one sent first is the older. -/
def SentBefore (x y : Result HistoryEntry) : Prop :=
  ∀ e e', x = .ok e → y = .ok e' → e.sequence < e'.sequence

structure JetStreamWatch.Inv (fromUtf8Lossy : List UInt8 → String)
    (raw : HistoryEntry → JetStreamMessage) (watch : WatchRequest) (w : JetStreamWatch) :
    Prop where
  half : w.half.Inv watch.request watch.params fun m =>
    matchesWatchPattern m.topic watch.subscription.appFilterPattern = true ∧
      m.sequence ≤ watch.subscription.historyEnd
  expressible : Expressible w.half.replay.cursor.params.startAt
  beyond : watch.subscription.historyEnd ≤ w.position
  position : w.position ≤ w.stream.lastSequence
  pushed : ∀ e, .ok e ∈ w.pushed → watch.subscription.historyEnd < e.sequence ∧
    e.sequence ≤ w.position
  ordered : w.pushed.Pairwise SentBefore
  accounts : ∃ received, LossyQueue.Accounts w.pushed received w.lost w.buffer ∧
    w.live = received.filterMap (watch.liveMessage fromUtf8Lossy raw)
  chained : w.live ≠ [] → w.half.Ended

/-- What stays fixed during a watch: its topic and the server's representation of the entries. -/
structure JetStreamWatched (raw : HistoryEntry → JetStreamMessage) (watchBase : String)
    (tokens fixed : List String) (watch : WatchRequest) : Prop where
  valid : isTopicBase watchBase = true
  nonempty : tokens ≠ []
  coarse : CoarsePattern watchBase tokens fixed
  topic : watch.params.topic = encodeSubject (watchBase :: tokens)
  pattern : watch.subscription.appFilterPattern = watchBase :: tokens
  endSequence : watch.params.endSequence = watch.subscription.historyEnd
  limit : 0 < watch.params.limit
  expressible : Expressible watch.params.startAt
  subject : ∀ e, (raw e).subject = e.topic
  info : ∀ e, (raw e).info = .ok { streamSequence := e.sequence, published := e.timestamp }

section Invariant

variable {fromUtf8Lossy : List UInt8 → String} {raw : HistoryEntry → JetStreamMessage}
  {watchBase : String} {tokens fixed : List String} {watch : WatchRequest}
  {w next : JetStreamWatch}

theorem JetStreamWatch.start_inv {stream : JetStreamStream}
    (hwatched : JetStreamWatched raw watchBase tokens fixed watch)
    (htail : watch.subscription.historyEnd = stream.lastSequence) :
    (JetStreamWatch.start stream watch).Inv fromUtf8Lossy raw watch where
  half := ReplayHalf.initial_inv
  expressible := hwatched.expressible
  beyond := Nat.le_refl _
  position := Nat.le_of_eq htail
  pushed := by
    intro e he
    cases he
  ordered := List.Pairwise.nil
  accounts := ⟨[], LossyQueue.accounts_start, rfl⟩
  chained := fun hlive => absurd rfl hlive

/-- What a server that keeps the stream answers to the replay of a watch. -/
theorem JetStreamWatch.Inv.batch (h : w.Inv fromUtf8Lossy raw watch)
    (hwatched : JetStreamWatched raw watchBase tokens fixed watch) {server : JetStreamServer}
    (hserver : server.Keeps w.stream.history raw) (call : Nat) :
    ∃ batch, jetstreamGetMessagesBatch fromUtf8Lossy server call w.half.replay.cursor.params =
        .ok batch ∧
      startScheme.Serves (Wanted fromUtf8Lossy raw w.stream.history (watchBase :: tokens)
        watch.subscription.historyEnd) w.half.replay.cursor.params.startAt batch.page ∧
      startScheme.Progress (· ∈ w.stream.history.entries.map (notificationOf fromUtf8Lossy raw))
        w.half.replay.cursor.params.startAt batch.page := by
  have hparams := h.half.params
  have hexpressible : Expressible
      (watch.params.withStartAt w.half.replay.cursor.params.startAt).startAt := h.expressible
  obtain ⟨batch, hbatch, hserves, hprog, -⟩ := jetstreamGetMessagesBatch_serves fromUtf8Lossy
    hserver call (watch.params.withStartAt w.half.replay.cursor.params.startAt) hwatched.valid
    hwatched.nonempty hwatched.topic hwatched.limit hexpressible
  rw [← hwatched.endSequence]
  exact ⟨batch, by rw [hparams]; exact hbatch, hserves, hprog⟩

theorem wanted_of_watched (hwatched : JetStreamWatched raw watchBase tokens fixed watch)
    {history : History} {m : NotificationMessage}
    (hm : Wanted fromUtf8Lossy raw history (watchBase :: tokens) watch.subscription.historyEnd m) :
    matchesWatchPattern m.topic watch.subscription.appFilterPattern = true ∧
      m.sequence ≤ watch.subscription.historyEnd := by
  obtain ⟨e, -, rfl, hmatch, hend⟩ := hm
  rw [hwatched.pattern]
  exact ⟨hmatch, hend⟩

/-- The live consumer sends its next entry, which is younger than all it has sent. -/
theorem JetStreamWatch.Inv.afterDeliver (h : w.Inv fromUtf8Lossy raw watch)
    {streamName filterSubject : String} {e : HistoryEntry}
    (hnext : w.stream.nextEntry streamName filterSubject w.position = some e) :
    (w.afterPush (.ok e) e.sequence).Inv fromUtf8Lossy raw watch := by
  obtain ⟨hstored, hposition⟩ := nextEntry_spec hnext
  obtain ⟨received, haccounts, hlive⟩ := h.accounts
  refine { h with
    beyond := h.beyond.trans hposition.le
    position := w.stream.bounded e hstored
    pushed := ?_
    ordered := ?_
    accounts := ⟨received, haccounts.send [.ok e], hlive⟩ }
  · intro e' he'
    rcases List.mem_append.mp he' with he' | he'
    · exact ⟨(h.pushed e' he').1, (h.pushed e' he').2.trans hposition.le⟩
    · cases List.mem_singleton.mp he'
      exact ⟨h.beyond.trans_lt hposition, Nat.le_refl _⟩
  · refine List.pairwise_append.mpr ⟨h.ordered, List.pairwise_singleton _ _, ?_⟩
    intro x hx y hy e₁ e₂ hx₁ hy₂
    rw [List.mem_singleton.mp hy] at hy₂
    cases hy₂
    rw [hx₁] at hx
    exact (h.pushed e₁ hx).2.trans_lt hposition

theorem JetStreamWatch.Inv.afterFault (h : w.Inv fromUtf8Lossy raw watch) (e : Error) :
    (w.afterPush (.error e) w.position).Inv fromUtf8Lossy raw watch := by
  obtain ⟨received, haccounts, hlive⟩ := h.accounts
  refine { h with
    pushed := ?_
    ordered := ?_
    accounts := ⟨received, haccounts.send [.error e], hlive⟩ }
  · intro e' he'
    rcases List.mem_append.mp he' with he' | he'
    · exact h.pushed e' he'
    · cases List.mem_singleton.mp he'
  · refine List.pairwise_append.mpr ⟨h.ordered, List.pairwise_singleton _ _, ?_⟩
    intro x hx y hy e₁ e₂ hx₁ hy₂
    rw [List.mem_singleton.mp hy] at hy₂
    cases hy₂

theorem JetStreamWatch.step_inv
    (hwatched : JetStreamWatched raw watchBase tokens fixed watch)
    {streamName filterSubject : String} (h : w.Inv fromUtf8Lossy raw watch)
    (hstep : JetStreamWatch.Step fromUtf8Lossy raw streamName filterSubject watch w next) :
    next.Inv fromUtf8Lossy raw watch := by
  obtain ⟨received, haccounts, hlive⟩ := h.accounts
  -- nothing is fetched once the live stream is read
  have hsilent (hmore : w.half.replay.cursor.hasMore = true) {P : Prop} (hstarted : w.live ≠ []) :
      P := by
    have hdone := (h.chained hstarted).1
    rw [hmore] at hdone
    cases hdone
  cases hstep with
  | stream sent stream hstream => exact { h with position := h.position.trans hstream.last_le }
  | fetch now server call hserver hmore =>
    obtain ⟨batch, hbatch, hserves, hprog⟩ := h.batch hwatched hserver call
    rw [hbatch]
    refine { h with
      half := h.half.after_ok hmore hserves hprog fun m hm => wanted_of_watched hwatched hm
      expressible := ?_
      chained := hsilent hmore }
    have hadvance : Expressible (startScheme.advance w.half.reader batch.page).cursor :=
      expressible_closed.advance startScheme h.expressible batch.page
    rwa [ReplayHalf.reader, ← BatchCursor.reader_advance] at hadvance
  | fetchFails now e hmore =>
    exact { h with
      half := h.half.after_error e
      chained := hsilent hmore }
  | deliver e hnext => exact h.afterDeliver hnext
  | fault e => exact h.afterFault e
  | lose item rest hbuffer =>
    rw [hbuffer] at haccounts
    have hskip : LossyQueue.Accounts w.pushed received (w.lost ++ [item]) rest := haccounts.skip
    exact { h with accounts := ⟨received, hskip, hlive⟩ }
  | receive item rest hended hbuffer =>
    rw [hbuffer] at haccounts
    refine { h with
      accounts := ⟨received ++ [item], haccounts.receive, ?_⟩
      chained := fun _ => hended }
    change w.live ++ (watch.liveMessage fromUtf8Lossy raw item).toList = _
    rw [hlive, List.filterMap_append]
    cases hitem : watch.liveMessage fromUtf8Lossy raw item with
    | none => simp [hitem]
    | some m => simp [hitem]

/-! ## 3. What stays within reach -/

theorem JetStreamWatch.step_reaches
    (hwatched : JetStreamWatched raw watchBase tokens fixed watch)
    {streamName filterSubject : String} {e : HistoryEntry}
    (hmatch : matchesWatchPattern e.topic (watchBase :: tokens) = true)
    (hend : e.sequence ≤ watch.subscription.historyEnd) (h : w.Inv fromUtf8Lossy raw watch)
    (hreaches : w.half.Reaches (notificationOf fromUtf8Lossy raw e))
    (hstored : ¬ w.Passed (notificationOf fromUtf8Lossy raw e) → e ∈ w.stream.history.entries)
    (hstep : JetStreamWatch.Step fromUtf8Lossy raw streamName filterSubject watch w next) :
    next.half.Reaches (notificationOf fromUtf8Lossy raw e) := by
  cases hstep with
  | fetch now server call hserver hmore =>
    obtain ⟨batch, hbatch, hserves, -⟩ := h.batch hwatched hserver call
    rw [hbatch]
    refine hreaches.after_ok h.half hserves fun hadmits _ => ⟨e, hstored ?_, rfl, hmatch, hend⟩
    rintro (hdone | hpassed)
    · rw [hmore] at hdone
      cases hdone
    · rw [hadmits] at hpassed
      cases hpassed
  | fetchFails now error hmore => exact hreaches.after_error error
  | _ => exact hreaches

theorem JetStreamWatch.step_started
    (hwatched : JetStreamWatched raw watchBase tokens fixed watch)
    {streamName filterSubject : String} {first : Nat} (h : w.Inv fromUtf8Lossy raw watch)
    (hstarted : w.half.Started first)
    (hstep : JetStreamWatch.Step fromUtf8Lossy raw streamName filterSubject watch w next) :
    next.half.Started first := by
  cases hstep with
  | fetch now server call hserver hmore =>
    obtain ⟨batch, hbatch, hserves, hprog⟩ := h.batch hwatched hserver call
    rw [hbatch]
    exact hstarted.after_ok hserves hprog
  | fetchFails now error hmore => exact hstarted.after_error error
  | _ => exact hstarted

/-- The live consumer has sent every matching entry that its cursor has passed. -/
theorem JetStreamWatch.step_pushed
    (hwatched : JetStreamWatched raw watchBase tokens fixed watch) {e : HistoryEntry}
    (hmatch : matchesWatchPattern e.topic (watchBase :: tokens) = true)
    (hpushed : e.sequence ≤ w.position → .ok e ∈ w.pushed)
    (hstored : w.position < e.sequence → e.sequence ≤ w.stream.lastSequence →
      e ∈ w.stream.history.entries)
    (hstep : JetStreamWatch.Step fromUtf8Lossy raw (toAsciiUppercase watchBase)
      (encodeSubject (watchBase :: fixed) ++ ".>") watch w next) :
    e.sequence ≤ next.position → .ok e ∈ next.pushed := by
  cases hstep with
  | deliver sent hnext =>
    intro hle
    by_cases hbefore : e.sequence ≤ w.position
    · exact List.mem_append_left _ (hpushed hbefore)
    · have hposition : w.position < e.sequence := Nat.lt_of_not_le hbefore
      have hle : e.sequence ≤ sent.sequence := hle
      have hlast := w.stream.bounded sent (nextEntry_spec hnext).1
      have he := hstored hposition (hle.trans hlast)
      rcases nextEntry_no_skip hwatched.valid hwatched.coarse he hmatch hposition hnext with
        heq | hlt
      · rw [heq]
        exact List.mem_append_right _ (List.mem_singleton_self _)
      · omega
  | fault error => exact fun hle => List.mem_append_left _ (hpushed hle)
  | _ => exact hpushed

/-! ## 4. The live messages -/

theorem liveMessage_eq_some (hwatched : JetStreamWatched raw watchBase tokens fixed watch)
    (item : Result HistoryEntry) (m : NotificationMessage) :
    watch.liveMessage fromUtf8Lossy raw item = some m ↔
      ∃ e, item = .ok e ∧ m = notificationOf fromUtf8Lossy raw e ∧
        matchesWatchPattern e.topic (watchBase :: tokens) = true ∧ watch.request.keep m = true := by
  cases item with
  | error e =>
    constructor
    · intro h
      cases h
    · intro h
      obtain ⟨e', he', -⟩ := h
      cases he'
  | ok e =>
    have hmessage : watch.liveMessage fromUtf8Lossy raw (.ok e) =
        (if matchesWatchPattern e.topic (watchBase :: tokens) then
          some (notificationOf fromUtf8Lossy raw e) else none).filter watch.request.keep := by
      rw [← hwatched.pattern, ← subscribedMessage_raw hwatched.subject hwatched.info]
      rfl
    rw [hmessage, Option.filter_eq_some_iff, Option.ite_none_right_eq_some]
    constructor
    · intro h
      obtain ⟨⟨hmatch, hm⟩, hkeep⟩ := h
      exact ⟨e, rfl, (Option.some.inj hm).symm, hmatch, hkeep⟩
    · intro h
      obtain ⟨e', he', rfl, hmatch, hkeep⟩ := h
      cases he'
      exact ⟨⟨hmatch, rfl⟩, hkeep⟩

/-- A live message is an entry the consumer has sent. -/
theorem JetStreamWatch.Inv.live_mem (h : w.Inv fromUtf8Lossy raw watch)
    (hwatched : JetStreamWatched raw watchBase tokens fixed watch) {m : NotificationMessage}
    (hm : m ∈ w.live) : ∃ e, .ok e ∈ w.pushed ∧ m = notificationOf fromUtf8Lossy raw e ∧
      matchesWatchPattern e.topic (watchBase :: tokens) = true ∧ watch.request.keep m = true := by
  obtain ⟨received, haccounts, hlive⟩ := h.accounts
  rw [hlive] at hm
  obtain ⟨item, hitem, hmessage⟩ := List.mem_filterMap.mp hm
  obtain ⟨e, rfl, hrest⟩ := (liveMessage_eq_some hwatched item m).mp hmessage
  exact ⟨e, haccounts.received_sublist.subset hitem, hrest⟩

theorem JetStreamWatch.Inv.handsOver (h : w.Inv fromUtf8Lossy raw watch)
    (hwatched : JetStreamWatched raw watchBase tokens fixed watch) :
    w.half.HandsOver watch.subscription.historyEnd w.live where
  replayed := fun m hm => (h.half.sound m hm).2
  beyond := by
    intro m hm
    obtain ⟨e, he, rfl, -⟩ := h.live_mem hwatched hm
    exact (h.pushed e he).1
  increasing := by
    obtain ⟨received, haccounts, hlive⟩ := h.accounts
    rw [hlive]
    have hordered := h.ordered.sublist haccounts.received_sublist
    refine hordered.filterMap _ fun x y hxy m hm m' hm' => ?_
    obtain ⟨e, rfl, rfl, -⟩ := (liveMessage_eq_some hwatched x m).mp hm
    obtain ⟨e', rfl, rfl, -⟩ := (liveMessage_eq_some hwatched y m').mp hm'
    exact hxy e e' rfl rfl
  chained := h.chained

/-- An entry sent no later than a live one is live too, if it passes and was not lost. -/
theorem JetStreamWatch.Inv.live_of_le (h : w.Inv fromUtf8Lossy raw watch)
    (hwatched : JetStreamWatched raw watchBase tokens fixed watch) {e : HistoryEntry}
    (hpushed : .ok e ∈ w.pushed) (hlost : .ok e ∉ w.lost)
    (hmatch : matchesWatchPattern e.topic (watchBase :: tokens) = true)
    (hkeep : watch.request.keep (notificationOf fromUtf8Lossy raw e) = true)
    {d : NotificationMessage} (hd : d ∈ w.live) (hle : e.sequence ≤ d.sequence) :
    notificationOf fromUtf8Lossy raw e ∈ w.live := by
  obtain ⟨received, haccounts, hlive⟩ := h.accounts
  rw [hlive] at hd ⊢
  obtain ⟨item, hitem, hmessage⟩ := List.mem_filterMap.mp hd
  obtain ⟨e', rfl, rfl, -⟩ := (liveMessage_eq_some hwatched item d).mp hmessage
  have hle : e.sequence ≤ e'.sequence := hle
  have hmem := haccounts.received_of_not_later h.ordered hpushed hlost hitem fun hbefore => by
    have := hbefore e' e rfl rfl
    omega
  exact List.mem_filterMap.mpr ⟨.ok e, hmem,
    (liveMessage_eq_some hwatched _ _).mpr ⟨e, rfl, rfl, hmatch, hkeep⟩⟩

/-- An entry that was sent, passes, was not lost and is not on its way is live. -/
theorem JetStreamWatch.Inv.live_of_drained (h : w.Inv fromUtf8Lossy raw watch)
    (hwatched : JetStreamWatched raw watchBase tokens fixed watch) {e : HistoryEntry}
    (hpushed : .ok e ∈ w.pushed) (hlost : .ok e ∉ w.lost) (hbuffer : .ok e ∉ w.buffer)
    (hmatch : matchesWatchPattern e.topic (watchBase :: tokens) = true)
    (hkeep : watch.request.keep (notificationOf fromUtf8Lossy raw e) = true) :
    notificationOf fromUtf8Lossy raw e ∈ w.live := by
  obtain ⟨received, haccounts, hlive⟩ := h.accounts
  have hmem : .ok e ∈ received := by
    rcases (haccounts.mem _).mp hpushed with hmem | hmem | hmem
    · exact hmem
    · exact absurd hmem hlost
    · exact absurd hmem hbuffer
  rw [hlive]
  exact List.mem_filterMap.mpr ⟨.ok e, hmem,
    (liveMessage_eq_some hwatched _ _).mpr ⟨e, rfl, rfl, hmatch, hkeep⟩⟩

end Invariant

/-! ## 5. Runs -/

section Runs

variable {fromUtf8Lossy : List UInt8 → String} {raw : HistoryEntry → JetStreamMessage}
  {watchBase : String} {tokens fixed : List String} {watch : WatchRequest}
  {stream : JetStreamStream} {visited : List JetStreamWatch} {final : JetStreamWatch}

theorem JetStreamWatch.run_inv (hwatched : JetStreamWatched raw watchBase tokens fixed watch)
    (htail : watch.subscription.historyEnd = stream.lastSequence)
    {streamName filterSubject : String}
    (hrun : Runs.Run
      (JetStreamWatch.Step fromUtf8Lossy raw streamName filterSubject watch)
      (.start stream watch) visited final) : final.Inv fromUtf8Lossy raw watch :=
  hrun.invariant (JetStreamWatch.Inv fromUtf8Lossy raw watch)
    (fun _ _ h hstep => step_inv hwatched h hstep) (start_inv hwatched htail)

theorem JetStreamWatch.run_reaches
    (hwatched : JetStreamWatched raw watchBase tokens fixed watch)
    (htail : watch.subscription.historyEnd = stream.lastSequence)
    {streamName filterSubject : String}
    (hrun : Runs.Run
      (JetStreamWatch.Step fromUtf8Lossy raw streamName filterSubject watch)
      (.start stream watch) visited final) {e : HistoryEntry}
    (hmatch : matchesWatchPattern e.topic (watchBase :: tokens) = true)
    (hend : e.sequence ≤ watch.subscription.historyEnd)
    (hstart : watch.params.startAt.admits (notificationOf fromUtf8Lossy raw e) = true)
    (hstays : ∀ w ∈ visited, ¬ w.Passed (notificationOf fromUtf8Lossy raw e) →
      e ∈ w.stream.history.entries) :
    final.half.Reaches (notificationOf fromUtf8Lossy raw e) := by
  have h := hrun.invariant_of_visited
    (fun w => w.Inv fromUtf8Lossy raw watch ∧
      w.half.Reaches (notificationOf fromUtf8Lossy raw e))
    (fun w => ¬ w.Passed (notificationOf fromUtf8Lossy raw e) → e ∈ w.stream.history.entries)
    (fun _ _ hinv hstored _ hstep => ⟨step_inv hwatched hinv.1 hstep,
      step_reaches hwatched hmatch hend hinv.1 hinv.2 hstored hstep⟩)
    ⟨start_inv hwatched htail, ReplayHalf.initial_reaches hstart⟩ hstays
  exact h.2

theorem JetStreamWatch.run_started
    (hwatched : JetStreamWatched raw watchBase tokens fixed watch)
    (htail : watch.subscription.historyEnd = stream.lastSequence)
    {streamName filterSubject : String}
    (hrun : Runs.Run
      (JetStreamWatch.Step fromUtf8Lossy raw streamName filterSubject watch)
      (.start stream watch) visited final) {first : Nat}
    (hstart : watch.params.startAt = .sequence first) : final.half.Started first := by
  have h := hrun.invariant
    (fun w => w.Inv fromUtf8Lossy raw watch ∧ w.half.Started first)
    (fun _ _ hinv hstep => ⟨step_inv hwatched hinv.1 hstep,
      step_started hwatched hinv.1 hinv.2 hstep⟩)
    ⟨start_inv hwatched htail, ReplayHalf.initial_started hstart⟩
  exact h.2

theorem JetStreamWatch.run_pushed
    (hwatched : JetStreamWatched raw watchBase tokens fixed watch)
    (hrun : Runs.Run (JetStreamWatch.Step fromUtf8Lossy raw (toAsciiUppercase watchBase)
      (encodeSubject (watchBase :: fixed) ++ ".>") watch) (.start stream watch) visited final)
    {e : HistoryEntry} (hmatch : matchesWatchPattern e.topic (watchBase :: tokens) = true)
    (hlive : watch.subscription.historyEnd < e.sequence)
    (hstays : ∀ w ∈ visited, w.position < e.sequence → e.sequence ≤ w.stream.lastSequence →
      e ∈ w.stream.history.entries) : e.sequence ≤ final.position → .ok e ∈ final.pushed :=
  hrun.invariant_of_visited
    (fun w => e.sequence ≤ w.position → .ok e ∈ w.pushed)
    (fun w => w.position < e.sequence → e.sequence ≤ w.stream.lastSequence →
      e ∈ w.stream.history.entries)
    (fun _ _ hpushed hstored _ hstep => step_pushed hwatched hmatch hpushed hstored hstep)
    (fun hle => absurd hlive (Nat.not_lt_of_le hle)) hstays

end Runs

/-! ## 6. The boundary -/

/-- What a subscription to a topic says of the watch that it is for. -/
theorem jetstreamWatched_new {raw : HistoryEntry → JetStreamMessage}
    (hsubject : ∀ e, (raw e).subject = e.topic)
    (hinfo : ∀ e, (raw e).info = .ok { streamSequence := e.sequence, published := e.timestamp })
    {watchBase : String} {tokens fixed : List String} (hwatch : isTopicBase watchBase = true)
    (htokens : tokens ≠ []) (hfixed : CoarsePattern watchBase tokens fixed)
    (request : ReplayRequest) {subscription : Subscription}
    (hpattern : subscription.appFilterPattern = watchBase :: tokens) {startAt : StartAt}
    (hstart : Expressible startAt) {batchSize : Nat} (hsize : 0 < batchSize) :
    JetStreamWatched raw watchBase tokens fixed
      (.new request subscription (encodeSubject (watchBase :: tokens)) batchSize startAt) where
  valid := hwatch
  nonempty := htokens
  coarse := hfixed
  topic := rfl
  pattern := hpattern
  endSequence := rfl
  limit := hsize
  expressible := hstart
  subject := hsubject
  info := hinfo

/-- In every run of a watch over JetStream, whatever fails, is removed or is lost: its notifications
come in strictly increasing order, replayed ones up to the tail the stream had at the subscription
and live ones behind it; nothing is live before the replay ended and sent all that passes; an entry
of the history is sent exactly once if it stays until the replay has passed it; and a later entry is
live exactly once if it stays until the consumer's cursor has passed it, is not lost and has been
taken from the buffer. -/
theorem jetstreamWatch_boundary (fromUtf8Lossy : List UInt8 → String)
    (raw : HistoryEntry → JetStreamMessage) (hsubject : ∀ e, (raw e).subject = e.topic)
    (hinfo : ∀ e, (raw e).info = .ok { streamSequence := e.sequence, published := e.timestamp })
    (stream : JetStreamStream) (server : JetStreamSubscriber)
    (htail : server.StartsAtTail stream) (watchBase : String) (tokens : List String)
    (hwatch : isTopicBase watchBase = true) (htokens : tokens ≠ []) (subscription : Subscription)
    (hsubscribe : createSubscriptionInternal server (encodeSubject (watchBase :: tokens)) =
      .ok subscription) (coarse streamName : String) (pattern : List String)
    (hanalyzed : analyzeWatchPattern (encodeSubject (watchBase :: tokens)) = .ok (coarse, pattern))
    (hname : deriveStreamNameFromTopic coarse = .ok streamName) (request : ReplayRequest)
    (startAt : StartAt) (hstart : Expressible startAt) (batchSize : Nat) (hsize : 0 < batchSize)
    (visited : List JetStreamWatch) (final : JetStreamWatch)
    (hrun : Runs.Run (JetStreamWatch.Step fromUtf8Lossy raw streamName coarse
        (.new request subscription (encodeSubject (watchBase :: tokens)) batchSize startAt))
      (.start stream
        (.new request subscription (encodeSubject (watchBase :: tokens)) batchSize startAt))
      visited final) :
    (final.half.sent request final.live).Pairwise (fun x y => x.sequence < y.sequence) ∧
    (∀ m ∈ final.half.notifications request, m.sequence ≤ stream.lastSequence) ∧
    (∀ m ∈ final.live, stream.lastSequence < m.sequence) ∧
    (final.live ≠ [] → final.half.Ended ∧
      final.half.notifications request = final.half.fetched.filter request.delivers) ∧
    (∀ e ∈ stream.history.entries, matchesWatchPattern e.topic pattern = true →
      request.delivers (notificationOf fromUtf8Lossy raw e) = true →
      startAt.admits (notificationOf fromUtf8Lossy raw e) = true →
      (∀ w ∈ visited, ¬ w.Passed (notificationOf fromUtf8Lossy raw e) →
        e ∈ w.stream.history.entries) →
      final.half.Ended →
      (final.half.notifications request).count (notificationOf fromUtf8Lossy raw e) = 1) ∧
    (∀ e, stream.lastSequence < e.sequence → matchesWatchPattern e.topic pattern = true →
      request.keep (notificationOf fromUtf8Lossy raw e) = true →
      (∀ w ∈ visited, w.position < e.sequence → e.sequence ≤ w.stream.lastSequence →
        e ∈ w.stream.history.entries) →
      e.sequence ≤ final.position → .ok e ∉ final.lost → .ok e ∉ final.buffer →
      final.live.count (notificationOf fromUtf8Lossy raw e) = 1) := by
  obtain ⟨fixed, hfixed⟩ := exists_coarsePattern watchBase tokens hwatch htokens
  obtain ⟨hpattern, hend⟩ := createSubscriptionInternal_eq hfixed htail hsubscribe
  have hcoarse := hfixed.analyzed.symm.trans hanalyzed
  cases hcoarse
  have hstream := hfixed.streamName.symm.trans hname
  cases hstream
  have hwatched := jetstreamWatched_new hsubject hinfo hwatch htokens hfixed request hpattern
    hstart hsize
  have hinv := JetStreamWatch.run_inv hwatched hend hrun
  have hhands := hinv.handsOver hwatched
  refine ⟨hhands.sent_increasing hinv.half, fun m hm => ?_, fun m hm => ?_, fun hlive =>
    ⟨hinv.chained hlive, hinv.half.notifications_of_open (hinv.chained hlive).2⟩,
    fun e he hmatch hdelivers hadmits hstays hended => ?_,
    fun e hlater hmatch hkeep hstays hposition hlost hbuffer => ?_⟩
  · rw [← hend]
    exact hhands.replayed m (ReplayHalf.mem_notifications hm).1
  · rw [← hend]
    exact hhands.beyond m hm
  · have hreaches := JetStreamWatch.run_reaches hwatched hend hrun hmatch
      ((stream.bounded e he).trans_eq hend.symm) hadmits hstays
    exact hinv.half.count_of_ended hreaches hended hdelivers
  · have hpushed := JetStreamWatch.run_pushed hwatched hrun hmatch
      (hend.trans_lt hlater) hstays hposition
    exact List.count_eq_one_of_mem (Paging.Increasing.nodup hhands.increasing)
      (hinv.live_of_drained hwatched hpushed hlost hbuffer hmatch hkeep)

/-- The stream of `twoTopicsHistory`, before and after a third entry. -/
def twoEntries : JetStreamStream where
  history := twoTopicsHistory
  lastSequence := 2
  bounded := by decide

def threeEntriesHistory : History where
  base := "mars"
  entries := twoTopicsHistory.entries ++ [⟨3, "mars.xd", 9⟩]
  validBase := twoTopicsHistory.validBase
  topics := by
    intro e he
    rcases List.mem_append.mp he with he | he
    · exact twoTopicsHistory.topics e he
    · rw [List.mem_singleton.mp he]
      exact ⟨["xd"], by simp, by decide +kernel⟩
  increasing := by simp [Paging.Increasing, twoTopicsHistory]
  positive := by decide
  monotone := by decide

def threeEntries : JetStreamStream where
  history := threeEntriesHistory
  lastSequence := 3
  bounded := by decide

/-- Its consumers start at the tail. -/
def twoEntriesSubscriber : JetStreamSubscriber where
  ensureStreamForTopic _ := .ok ()
  createConsumer _ _ := .ok 2
  messages := .ok ()

theorem twoEntriesSubscriber_startsAtTail : twoEntriesSubscriber.StartsAtTail twoEntries := by
  intro streamName filterSubject cursor h
  cases h
  rfl

def plainText (bytes : List UInt8) : String :=
  (fromUtf8 bytes).getD ""

/-- What the servers of the two streams answer to a replay of one message a batch. -/
def twoEntriesAnswer (params : BatchParams) : Result BatchResult :=
  jetstreamGetMessagesBatch plainText (exactServer twoTopicsHistory plainMessage) 0 params

def threeEntriesAnswer (params : BatchParams) : Result BatchResult :=
  jetstreamGetMessagesBatch plainText (exactServer threeEntriesHistory plainMessage) 1 params

/-- The watch after its first batch, after a third entry was published and sent, after its second
batch, and after it has received that entry. -/
def twoEntriesFetched : JetStreamWatch :=
  (JetStreamWatch.start twoEntries twoTopicsWatch).afterFetch twoTopicsWatch 0
    (twoEntriesAnswer twoTopicsWatch.params)

def twoEntriesPublished : JetStreamWatch :=
  { twoEntriesFetched with stream := threeEntries }

def twoEntriesSent : JetStreamWatch :=
  twoEntriesPublished.afterPush (.ok ⟨3, "mars.xd", 9⟩) 3

def twoEntriesReplayed : JetStreamWatch :=
  twoEntriesSent.afterFetch twoTopicsWatch 0
    (threeEntriesAnswer twoEntriesSent.half.replay.cursor.params)

def twoEntriesReceived : JetStreamWatch :=
  twoEntriesReplayed.afterReceive plainText plainMessage twoTopicsWatch (.ok ⟨3, "mars.xd", 9⟩) []

theorem twoEntriesReceived_run : ∃ visited, Runs.Run
    (JetStreamWatch.Step plainText plainMessage "MARS" "mars.>" twoTopicsWatch)
    (.start twoEntries twoTopicsWatch) visited twoEntriesReceived := by
  have hfetched : JetStreamWatch.Step plainText plainMessage "MARS" "mars.>" twoTopicsWatch
      (.start twoEntries twoTopicsWatch) twoEntriesFetched :=
    .fetch _ 0 (exactServer twoTopicsHistory plainMessage) 0
      (exactServer_keeps twoTopicsHistory plainMessage (fun _ => rfl) fun _ => rfl) rfl
  have hpublished : JetStreamWatch.Step plainText plainMessage "MARS" "mars.>" twoTopicsWatch
      twoEntriesFetched twoEntriesPublished :=
    .stream twoEntriesFetched (some ⟨3, "mars.xd", 9⟩) threeEntries
      (.publish rfl (List.Sublist.refl _) rfl rfl rfl)
  have hsent : JetStreamWatch.Step plainText plainMessage "MARS" "mars.>" twoTopicsWatch
      twoEntriesPublished twoEntriesSent :=
    .deliver twoEntriesPublished ⟨3, "mars.xd", 9⟩ (by decide +kernel)
  have hreplayed : JetStreamWatch.Step plainText plainMessage "MARS" "mars.>" twoTopicsWatch
      twoEntriesSent twoEntriesReplayed :=
    .fetch twoEntriesSent 0 (exactServer threeEntriesHistory plainMessage) 1
      (exactServer_keeps threeEntriesHistory plainMessage (fun _ => rfl) fun _ => rfl)
      (by decide +kernel)
  have hended : twoEntriesReplayed.half.Ended := ⟨by decide +kernel, by decide +kernel⟩
  have hbuffer : twoEntriesReplayed.buffer = [.ok ⟨3, "mars.xd", 9⟩] := rfl
  have hreceived : JetStreamWatch.Step plainText plainMessage "MARS" "mars.>" twoTopicsWatch
      twoEntriesReplayed twoEntriesReceived :=
    .receive twoEntriesReplayed (.ok ⟨3, "mars.xd", 9⟩) [] hended hbuffer
  exact ⟨_, ((((Runs.Run.refl.tail hfetched).tail hpublished).tail hsent).tail hreplayed).tail
    hreceived⟩

theorem jetstreamWatch_boundary_twoEntries :
    (twoEntriesReceived.half.sent twoTopicsWatch.request twoEntriesReceived.live).map
        (·.sequence) = [1, 2, 3] ∧
      (twoEntriesReceived.half.sent twoTopicsWatch.request twoEntriesReceived.live).Pairwise
        (fun x y => x.sequence < y.sequence) := by
  obtain ⟨visited, hrun⟩ := twoEntriesReceived_run
  have h := jetstreamWatch_boundary plainText plainMessage (fun _ => rfl) (fun _ => rfl) twoEntries
    twoEntriesSubscriber twoEntriesSubscriber_startsAtTail "mars" ["*"] (by decide +kernel)
    (by simp) twoTopicsWatch.subscription (by decide +kernel) "mars.>" "MARS" ["mars", "*"]
    (by decide +kernel) (by decide +kernel) twoTopicsWatch.request (.sequence 1)
    (fun d hd => by cases hd) 1 (by decide) visited twoEntriesReceived
  have htopic : encodeSubject ["mars", "*"] = "mars.%2A" := by decide +kernel
  rw [htopic] at h
  exact ⟨by decide +kernel, (h hrun).1⟩

end AvisoServer
