import AvisoServer.Routes.ProtectedStreams
import AvisoServer.Sse.ReplayDelivery

/-!
# Published and replayed

What the notification endpoint accepts in a run of the server is what a replay shows of it later: in
the order of its publishing, as far as it is still stored.
-/

namespace AvisoServer

/-! ## 1. The published messages -/

section Published

variable (config : InMemoryConfig) (server : Server BackendState)

/-- The message that a request stores, if it is an accepted notification. -/
def Handled.published (handled : Handled BackendState) : Option NotificationMessage :=
  (handled.storeEvent server).bind (StoreEvent.sent config server.lib.toLowercase)

def publishedMessages (events : List (Handled BackendState)) : List NotificationMessage :=
  events.filterMap (Handled.published config server)

end Published

/-- The published messages of which the store still has its copy and which a replay asks for. -/
def replayedMessages (published : List NotificationMessage) (state : BackendState)
    (pattern : List String) (startAt : StartAt) (endAt : EndAt) : List NotificationMessage :=
  published.filter fun m => decide (m ∈ state.stored) &&
    (matchesWatchPattern m.topic pattern && startAt.admits m && endAt.admits m)

section Store

variable {config : InMemoryConfig} {toLowercase : String → String} {state : BackendState}

theorem storeTrace_run {events : List StoreEvent}
    (htrace : StoreTrace config toLowercase BackendState.initial events state) :
    StoreRun config toLowercase (events.filterMap (StoreEvent.sent config toLowercase)) state := by
  induction htrace with
  | refl => exact .initial
  | @apply events state operation _ ih =>
    have hstep := StoreRun.step ih (operation.apply_step config toLowercase state)
    rw [List.filterMap_append]
    exact hstep
  | @rehash events state topics horder _ ih =>
    have hstep := StoreRun.step ih (.rehash state topics horder)
    rw [Option.toList_none, List.append_nil] at hstep
    exact hstep

theorem storeRun_reachable {assigned : List NotificationMessage}
    (hrun : StoreRun config toLowercase assigned state) : Reachable config toLowercase state := by
  induction hrun with
  | initial => exact .initial
  | step _ hstep ih => exact .step ih hstep

/-- The sorted store and the published messages are the same selection. -/
theorem requestedMessages_eq_replayed {published : List NotificationMessage}
    (hassigned : Assigned published state) (hvalid : state.Valid) (pattern : List String)
    (startAt : StartAt) (endAt : EndAt) :
    requestedMessages state pattern startAt endAt =
      replayedMessages published state pattern startAt endAt := by
  have hincreasing : published.Pairwise fun x y => x.sequence < y.sequence :=
    List.pairwise_map.mp hassigned.increasing
  have hnodup : published.Nodup := hincreasing.imp fun {x y} hlt heq => by
    rw [heq] at hlt
    omega
  -- the two lists have the same messages and are sorted by the same key
  have hperm : (requestedMessages state pattern startAt endAt).Perm
      (replayedMessages published state pattern startAt endAt) := by
    refine (List.perm_insertionSort _ _).trans ?_
    refine (List.perm_ext_iff_of_nodup (hvalid.distinct.of_map.filter _) (hnodup.filter _)).mpr ?_
    intro m
    rw [List.mem_filter, List.mem_filter]
    constructor
    · intro h
      exact ⟨hassigned.stored m h.1, (Bool.and_eq_true _ _).mpr ⟨decide_eq_true h.1, h.2⟩⟩
    · intro h
      have hboth := (Bool.and_eq_true _ _).mp h.2
      exact ⟨of_decide_eq_true hboth.1, hboth.2⟩
  have hsorted : (requestedMessages state pattern startAt endAt).Pairwise
      fun x y => x.sequence ≤ y.sequence := List.pairwise_insertionSort _ _
  have hordered : (replayedMessages published state pattern startAt endAt).Pairwise
      fun x y => x.sequence ≤ y.sequence :=
    (hincreasing.filter _).imp fun hlt => Nat.le_of_lt hlt
  refine hperm.eq_of_pairwise ?_ hsorted hordered
  -- a number belongs to one message
  intro x y hx hy hle hge
  have hinjective := List.inj_on_of_nodup_map hvalid.distinct
  have hstored : ∀ m ∈ requestedMessages state pattern startAt endAt, m ∈ state.stored :=
    fun m hm => (List.mem_filter.mp ((List.perm_insertionSort _ _).subset hm)).1
  exact hinjective (hstored x hx) (hstored y (hperm.symm.subset hy)) (Nat.le_antisymm hle hge)

end Store

/-! ## 2. Requests and messages -/

section Requests

variable {config : InMemoryConfig} {server : Server BackendState}

theorem publishedMessages_eq (events : List (Handled BackendState)) :
    publishedMessages config server events =
      (events.filterMap (Handled.storeEvent server)).filterMap
        (StoreEvent.sent config server.lib.toLowercase) :=
  List.filterMap_filterMap.symm

theorem published_publishes {handled : Handled BackendState} {m : NotificationMessage}
    (h : handled.published config server = some m) :
    ∃ user notification result, handled.Publishes server user notification result m := by
  obtain ⟨event, hevent, hsent⟩ := Option.bind_eq_some_iff.mp h
  exact publishes_of_sent hevent hsent

/-- An accepted notification is published. -/
theorem published_of_accepted {handled : Handled BackendState} {user : Option User}
    {notification : NotificationRequest} {result : ProcessingResult}
    (hserve : server.middleware.serve handled.request.service = some (.notify, user))
    (hparse : parseAndValidateRequest server.serde server.lib handled.request.body =
      .ok notification)
    (haccepted : notify server.lib server.settings user notification = .ok result) :
    ∃ m, handled.published config server = some m ∧
      handled.Publishes server user notification result m := by
  have hcall : server.call handled.request =
      some ((notificationPut server.lib notification result).call handled.request.clock) := by
    unfold Server.call Server.notifyVerdict
    simp only [hserve, hparse, haccepted]
  have hoperation : server.storeOperation handled.request =
      some (.storeMessage handled.request.clock
        (notificationPut server.lib notification result).topic
        (notificationPut server.lib notification result).payload
        (notificationPut server.lib notification result).headers) := by
    rw [Server.storeOperation, hcall]
    exact storeOperation_put _ _
  refine ⟨_, ?_, hserve, hparse, haccepted,
    storeMessage_put config handled.request.clock (notificationPut server.lib notification result)
      handled.before.backend, rfl, rfl⟩
  rw [Handled.published, Handled.storeEvent, hoperation]
  rfl

/-- A clock that does not go back stamps the messages in their order. -/
theorem published_monotone {events : List (Handled BackendState)}
    (hclock : (events.map fun handled => handled.request.clock.now).Pairwise (· ≤ ·))
    (hincreasing : (publishedMessages config server events).Pairwise
      fun x y => x.sequence < y.sequence) :
    TimestampsMonotone (· ∈ publishedMessages config server events) := by
  have hstamps : (publishedMessages config server events).Pairwise fun x y =>
      ∀ tx ty, x.timestamp = some tx → y.timestamp = some ty → tx ≤ ty := by
    unfold publishedMessages
    rw [List.pairwise_filterMap]
    refine (List.pairwise_map.mp hclock).imp fun {a b} hle x hx y hy tx ty htx hty => ?_
    obtain ⟨_, _, _, hpublished⟩ := published_publishes hx
    obtain ⟨_, _, _, hother⟩ := published_publishes hy
    rw [hpublished.stamped] at htx
    rw [hother.stamped] at hty
    cases htx
    cases hty
    exact hle
  -- of two messages, the one with the smaller number came first
  intro x y hx hy
  refine List.Pairwise.forall_of_forall_of_flip
    (R := fun x y : NotificationMessage => x.sequence ≤ y.sequence →
      ∀ tx ty, x.timestamp = some tx → y.timestamp = some ty → tx ≤ ty) ?_ ?_ ?_ hx hy
  · intro m _ _ tx ty htx hty
    rw [htx] at hty
    cases hty
    exact le_refl tx
  · exact hstamps.imp fun h _ tx ty => h tx ty
  · exact hincreasing.imp fun hlt hle => absurd hle (Nat.not_le.mpr hlt)

end Requests

/-! ## 3. The log of a run -/

/-- What a run has published, and what is still stored of it: of a topic that was never wiped,
evicted or deleted from, the newest messages up to the limit on its history. -/
structure PublishedLog (config : InMemoryConfig) (server : Server BackendState)
    (events : List (Handled BackendState)) (state : BackendState) : Prop where
  published : ∀ m ∈ publishedMessages config server events, ∃ handled ∈ events,
    ∃ user notification result, handled.Publishes server user notification result m
  complete : ∀ handled ∈ events, ∀ user notification result,
    server.middleware.serve handled.request.service = some (.notify, user) →
    parseAndValidateRequest server.serde server.lib handled.request.body = .ok notification →
    notify server.lib server.settings user notification = .ok result →
    ∃ m ∈ publishedMessages config server events,
      handled.Publishes server user notification result m
  increasing : (publishedMessages config server events).Pairwise
    fun x y => x.sequence < y.sequence
  stored : ∀ m ∈ state.stored, m ∈ publishedMessages config server events
  retained : ∀ m ∈ publishedMessages config server events,
    (∀ event ∈ events.filterMap (Handled.storeEvent server),
      event.Leaves config server.lib.toLowercase m.topic) →
    (m ∈ state.stored ↔
      m ∈ ((publishedMessages config server events).filter (·.topic = m.topic)).rtake
        (max 1 config.maxHistoryPerTopic))

section Log

variable {config : InMemoryConfig} {server : Server BackendState}

theorem publishedLog
    (hbackend : server.backend = inMemoryBackend config server.lib.toLowercase)
    {events : List (Handled BackendState)} {state : ServerState BackendState}
    (hrun : InMemoryRun server events state) :
    PublishedLog config server events state.backend := by
  have htrace := serverRun_storeTrace hbackend hrun
  obtain ⟨hwell, hassigned⟩ := storeRun_wellFormed (storeTrace_run htrace)
  rw [← publishedMessages_eq] at hassigned
  refine ⟨?_, ?_, List.pairwise_map.mp hassigned.increasing, hassigned.stored, ?_⟩
  · intro m hm
    obtain ⟨handled, hhandled, hpublished⟩ := List.mem_filterMap.mp hm
    exact ⟨handled, hhandled, published_publishes hpublished⟩
  · intro handled hhandled user notification result hserve hparse haccepted
    obtain ⟨m, hm, hpublishes⟩ :=
      @published_of_accepted config _ _ _ _ _ hserve hparse haccepted
    exact ⟨m, List.mem_filterMap.mpr ⟨handled, hhandled, hm⟩, hpublishes⟩
  · intro m _ hleaves
    -- the run started from an empty queue, so the newest published messages are all there is
    have hqueue := storeTrace_queue (BackendState.initial_wellFormed config) htrace hleaves
    rw [show BackendState.initial.queue m.topic = [] from rfl, List.nil_append, storedOn,
      ← publishedMessages_eq] at hqueue
    rw [← hqueue]
    exact ⟨mem_queue_of_stored hwell, mem_stored_of_queue⟩

/-- After every run of the server a replay shows the published messages that it asks for, in the
order of their publishing and as far as its quota goes: those that the run has accepted and the
store has kept, and no others. -/
theorem publishedReplayed
    (hbackend : server.backend = inMemoryBackend config server.lib.toLowercase)
    {events : List (Handled BackendState)} {state : ServerState BackendState}
    (hrun : InMemoryRun server events state)
    (hclock : (events.map fun handled => handled.request.clock.now).Pairwise (· ≤ ·))
    (setup : StreamSetup) {coarse : String} {pattern : List String}
    (htopic : analyzeWatchPattern setup.topic = .ok (coarse, pattern))
    (hsize : 0 < setup.settings.replayBatchSize) (startAt : StartAt) (endAt : EndAt) :
    PublishedLog config server events state.backend ∧
      ∃ endSequence, resolveEndSequence (historyEnd state.backend setup.topic)
          (firstSequenceAfter state.backend setup.topic) endAt = .ok endSequence ∧
        ∀ schedule : List (SelectPoll SourcePoll),
          (∀ poll ∈ schedule, poll.Undisturbed (getMessagesBatch state.backend)) →
          ∃ now, (setup.replayBody startAt endAt endSequence
              (replayedMessages (publishedMessages config server events) state.backend pattern
                startAt endAt) now).filter StreamFrame.isNotification =
                (((replayedMessages (publishedMessages config server events) state.backend pattern
                  startAt endAt).filter setup.request.delivers).take
                    setup.request.maxAllowed).map setup.request.deliveredFrame ∧
            (List.IsPrefix ((setup.createReplayOnlyStream startAt endAt endSequence).run schedule
                (setup.createReplayOnlyStream startAt endAt endSequence).init).1
              (setup.replayBody startAt endAt endSequence
                (replayedMessages (publishedMessages config server events) state.backend pattern
                  startAt endAt) now) ∨
              ∃ closedAt, ((setup.createReplayOnlyStream startAt endAt endSequence).run schedule
                  (setup.createReplayOnlyStream startAt endAt endSequence).init).1 =
                setup.replayBody startAt endAt endSequence
                    (replayedMessages (publishedMessages config server events) state.backend
                      pattern startAt endAt) now ++
                  [.close setup.topic .endOfStream closedAt setup.request.requestId]) := by
  have hlog := publishedLog hbackend hrun
  have hstoreRun := storeTrace_run (serverRun_storeTrace hbackend hrun)
  have hreachable := storeRun_reachable hstoreRun
  have hassigned := (storeRun_wellFormed hstoreRun).2
  rw [← publishedMessages_eq] at hassigned
  have hmono : TimestampsMonotone (· ∈ state.backend.stored) := by
    have hpublished := published_monotone hclock hlog.increasing
    exact fun x y hx hy => hpublished x y (hlog.stored x hx) (hlog.stored y hy)
  refine ⟨hlog, ?_⟩
  obtain ⟨endSequence, hresolve, hall⟩ :=
    replayOnlyStream_requested hreachable hmono setup htopic hsize startAt endAt
  refine ⟨endSequence, hresolve, fun schedule hschedule => ?_⟩
  obtain ⟨now, hframes⟩ := hall schedule hschedule
  rw [← requestedMessages_eq_replayed hassigned (reachable_valid hreachable)]
  exact ⟨now, replayBody_notifications now, hframes⟩

end Log

-- a replay of the one topic under the guarded base
def guardedReplay : StreamSetup where
  settings := WatchEndpointSettings.default
  topic := "secret.od"
  request := { oneOdRequest with keep := fun _ => true }
  createdAt := 1
  completionCreatedAt := 1

def guardedPoll : SelectPoll SourcePoll where
  source :=
    { ready := fun _ => true
      fetches := [(2, getMessagesBatch guardedRun.2.backend)]
      received := []
      tick := none }
  cancelled := false
  elapsed := false
  now := 2
  shutdownFirst := false

theorem publishedReplayed_guarded :
    (publishedMessages pairConfig guardedServer guardedRun.1).map (·.topic) = ["secret.od"] ∧
    PublishedLog pairConfig guardedServer guardedRun.1 guardedRun.2.backend ∧
    ∃ endSequence, resolveEndSequence (historyEnd guardedRun.2.backend "secret.od")
        (firstSequenceAfter guardedRun.2.backend "secret.od") (.date 6) = .ok endSequence ∧
      ∃ now, (guardedReplay.replayBody (.sequence 1) (.date 6) endSequence
          (replayedMessages (publishedMessages pairConfig guardedServer guardedRun.1)
            guardedRun.2.backend ["secret", "od"] (.sequence 1) (.date 6)) now).filter
              StreamFrame.isNotification =
            ((publishedMessages pairConfig guardedServer guardedRun.1).map
              guardedReplay.request.deliveredFrame) := by
  obtain ⟨hlog, endSequence, hresolve, hall⟩ := @publishedReplayed pairConfig guardedServer rfl
    guardedRun.1 guardedRun.2 (handleAll_run _ .start) (by decide +kernel) guardedReplay _ _
    (analyzeWatchPattern_encodeSubject ["secret", "od"] (by simp)) (by decide) (.sequence 1)
    (.date 6)
  obtain ⟨now, hbody, -⟩ := hall [guardedPoll, guardedPoll] (by
    intro poll hpoll
    have hsame : poll = guardedPoll := by simpa using hpoll
    subst hsame
    exact ⟨by simp [guardedPoll], rfl⟩)
  refine ⟨by decide +kernel, hlog, endSequence, hresolve, now, hbody.trans ?_⟩
  have hreplayed : ((replayedMessages (publishedMessages pairConfig guardedServer guardedRun.1)
      guardedRun.2.backend ["secret", "od"] (.sequence 1) (.date 6)).filter
        guardedReplay.request.delivers).take guardedReplay.request.maxAllowed =
      publishedMessages pairConfig guardedServer guardedRun.1 := by decide +kernel
  rw [hreplayed]

end AvisoServer
