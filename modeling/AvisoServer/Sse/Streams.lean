import AvisoServer.Configuration.Types
import AvisoServer.Lib.StoppedStream
import AvisoServer.Sse.ReplayQuota

/-!
# Event streams

The three event streams of the server: live notifications only, history followed by live
notifications, and history only. Each is put together from polled sources and then goes through the
same lifecycle, which stops it at a terminal replay frame or at a stop signal and closes it.
-/

namespace AvisoServer

open PollStream

variable {σ ε : Type}

/-! ## 1. Lifecycle -/

/-- What one poll finds: the environment of the frame sources, whether the shutdown token is
cancelled, whether the sleep over the maximum duration is over, and the clock. -/
structure LifecyclePoll (ε : Type) where
  source : ε
  cancelled : Bool
  elapsed : Bool
  now : DateTime

/-- A poll with the branch that `tokio::select!` happens to poll first. -/
structure SelectPoll (ε : Type) extends LifecyclePoll ε where
  shutdownFirst : Bool

/-- The code that the stop future stores at a poll at which it completes. -/
def stopFuture (maxDuration : Option Nat) (poll : SelectPoll ε) : Option Nat :=
  let shutdown := if poll.cancelled then some 1 else none
  match maxDuration with
  | some _ =>
    let sleep := if poll.elapsed then some 2 else none
    if poll.shutdownFirst then shutdown <|> sleep else sleep <|> shutdown
  | none => shutdown

def untilReplayTerminal (stream : PollStream σ ε StreamFrame) :
    PollStream (σ × Bool) ε StreamFrame :=
  stopAfter StreamFrame.isReplayTerminal stream

def graceful (stream : PollStream σ ε StreamFrame) (maxDuration : Option Nat) :
    PollStream (TakeUntilState (σ × Bool) Nat) (SelectPoll ε) StreamFrame :=
  takeUntil (comap (fun poll => poll.source) (untilReplayTerminal stream)) (stopFuture maxDuration)

def closeReasonOfCode : Nat → CloseReason
  | 1 => .serverShutdown
  | 2 => .maxDurationReached
  | _ => .endOfStream

/-- The close frame is made at the poll at which the stream ends, from the code stored by then. -/
def closeFrame (topic requestId : String) (poll : SelectPoll ε)
    (st : TakeUntilState (σ × Bool) Nat) : StreamFrame :=
  .close topic (closeReasonOfCode (st.result.getD 0)) poll.now requestId

/-- Apply lifecycle boundaries to a frame stream and append a terminal close frame. -/
def applyStreamLifecycle (stream : PollStream σ ε StreamFrame) (topic : String)
    (maxDuration : Option Nat) (requestId : String) :
    PollStream (Option (TakeUntilState (σ × Bool) Nat)) (SelectPoll ε) StreamFrame :=
  endWith (graceful stream maxDuration) (closeFrame topic requestId)

/-- No stop signal at these polls, and the inner stream is open after them. -/
def OpenAfter (stream : PollStream σ ε StreamFrame) (maxDuration : Option Nat)
    (before : List (SelectPoll ε)) (items : List StreamFrame) (s : σ × Bool) : Prop :=
  (∀ p ∈ before, stopFuture maxDuration p = none) ∧
    (untilReplayTerminal stream).run (before.map fun p => p.source)
      (untilReplayTerminal stream).init = (items, some s)

theorem lifecycle_open_iff {stream : PollStream σ ε StreamFrame} {topic requestId : String}
    {maxDuration : Option Nat} {before : List (SelectPoll ε)} {items : List StreamFrame} {st : TakeUntilState (σ × Bool) Nat} :
    (applyStreamLifecycle stream topic maxDuration requestId).run before
        (applyStreamLifecycle stream topic maxDuration requestId).init = (items, some (some st)) ↔
      OpenAfter stream maxDuration before items st.stream ∧ st = .waitingFor Nat st.stream := by
  rw [OpenAfter, and_assoc, ← run_comap]
  exact endWith_open_iff.trans takeUntil_open_iff

/-! ## 2. Frame sources -/

/-- The streams made from a fixed list of frames; any of them may yield to the scheduler. -/
inductive FixedFrames where
  | start
  | batch
  | completion
  deriving DecidableEq

/-- What the sources of a stream answer during one poll. `fetches` are the backend calls that
complete, each with the clock at that moment; `received` are the answers of the subscription. -/
structure SourcePoll where
  ready : FixedFrames → Bool
  fetches : List (DateTime × (BatchParams → Result BatchResult))
  received : List (Option NotificationMessage)
  tick : Option DateTime

/-- The state of the flattened unfold: the frames of the current batch are emitted first. -/
structure HistoryState where
  replay : ReplayState
  frames : List StreamFrame

/-- One poll of the flattened unfold; batches without frames are passed over. -/
def pollHistory (request : ReplayRequest) :
    List (DateTime × (BatchParams → Result BatchResult)) → HistoryState →
      Poll StreamFrame × HistoryState
  | _, { replay, frames := frame :: rest } =>
    (.ready (some frame), { replay := replay, frames := rest })
  | [], { replay, frames := [] } =>
    (if replay.cursor.hasMore then .pending else .ready none, { replay := replay, frames := [] })
  | (now, fetch) :: fetches, { replay, frames := [] } =>
    if replay.cursor.hasMore then
      let step := replayStep request now (fetch replay.cursor.params) replay
      pollHistory request fetches { replay := step.1, frames := step.2 }
    else (.ready none, { replay := replay, frames := [] })

/-- A stream that replays historical messages. -/
def createHistoricalReplayStream (request : ReplayRequest) (params : BatchParams) :
    PollStream HistoryState SourcePoll StreamFrame where
  init := { replay := .initial params, frames := [] }
  poll e st := if e.ready .batch then pollHistory request e.fetches st else (.pending, st)

/-- One poll of the filtered subscription; messages that fail the filter are passed over. -/
def pollLive (keep : NotificationMessage → Bool) :
    List (Option NotificationMessage) → Poll StreamFrame
  | [] => .pending
  | none :: _ => .ready none
  | some message :: received =>
    if keep message then .ready (some (.notification message .live)) else pollLive keep received

/-- A live notification stream from a backend subscription. -/
def createLiveNotificationStream (keep : NotificationMessage → Bool) :
    PollStream Unit SourcePoll StreamFrame where
  init := ()
  poll e _ := (pollLive keep e.received, ())

/-- A heartbeat at every tick of the interval, the first of which is immediate. -/
def createHeartbeatStream (topic : String) : PollStream Unit SourcePoll StreamFrame where
  init := ()
  poll e _ :=
    match e.tick with
    | some timestamp => (.ready (some (.heartbeat topic timestamp)), ())
    | none => (.pending, ())

def onceFrame (which : FixedFrames) (frame : StreamFrame) :
    PollStream (List StreamFrame) SourcePoll StreamFrame :=
  once (fun e => e.ready which) frame

/-! ## 3. The three streams -/

/-- The inclusive last sequence a replay-only stream can deliver. -/
def resolveEndSequence (historyEnd : Result Nat)
    (firstSequenceAfter : DateTime → Result (Option Nat)) (endAt : EndAt) : Result Nat := do
  let historyEnd ← historyEnd
  match endAt with
  | .latest => .ok historyEnd
  | .sequence toId => .ok (min historyEnd toId)
  | .date toDate =>
    match ← firstSequenceAfter toDate with
    | some firstAfter => .ok (min historyEnd (firstAfter - 1))
    | none => .ok historyEnd

/-- What the stream builders take from the settings, the request and the clock. Both control events
of a replay get their time when the stream is built. -/
structure StreamSetup where
  settings : WatchEndpointSettings
  topic : String
  request : ReplayRequest
  createdAt : DateTime
  completionCreatedAt : DateTime

namespace StreamSetup

variable (setup : StreamSetup)

def connectionEstablished : StreamFrame :=
  .control (.connectionEstablished setup.topic setup.createdAt
    setup.settings.connectionMaxDurationSec setup.request.requestId)

def replayStarted (startAt : StartAt) (endSequence : Option Nat) (toDate : Option DateTime) :
    StreamFrame :=
  .control (.replayStarted setup.topic startAt.asReplayCursor.1 startAt.asReplayCursor.2 endSequence
    toDate setup.settings.replayBatchSize setup.createdAt setup.request.requestId)

def replayCompleted : StreamFrame :=
  .control (.replayCompleted setup.topic setup.completionCreatedAt)

def historicalStream (startAt : StartAt) (endSequence : Nat) :
    PollStream HistoryState SourcePoll StreamFrame :=
  createHistoricalReplayStream setup.request
    (replayParams setup.topic setup.settings.replayBatchSize startAt endSequence)

/-- Live notifications and heartbeats, after the initial control event. -/
def liveFrames : PollStream (Option (List StreamFrame) × MergeState Unit Unit) SourcePoll
    StreamFrame :=
  chain (onceFrame .start setup.connectionEstablished)
    (merge (createLiveNotificationStream setup.request.keep) (createHeartbeatStream setup.topic))

/-- History, its completion and live notifications, merged with heartbeats after the start event. -/
def historicalThenLiveFrames (startAt : StartAt) (subscription : Subscription) :
    PollStream (Option (List StreamFrame) ×
      MergeState (Option HistoryState × Option (List StreamFrame) × Unit) Unit) SourcePoll
      StreamFrame :=
  chain (onceFrame .start (setup.replayStarted startAt none none))
    (merge
      (chain (setup.historicalStream startAt subscription.historyEnd)
        (chain (onceFrame .completion setup.replayCompleted)
          (createLiveNotificationStream setup.request.keep)))
      (createHeartbeatStream setup.topic))

/-- Start, history and completion. The effective end is reported only if the request set one. -/
def replayFrames (startAt : StartAt) (endAt : EndAt) (endSequence : Nat) :
    PollStream (Option (Option (List StreamFrame) × HistoryState) × List StreamFrame) SourcePoll
      StreamFrame :=
  let reported : Option Nat × Option DateTime :=
    match endAt with
    | .latest => (none, none)
    | .sequence _ => (some endSequence, none)
    | .date date => (some endSequence, some date)
  chain
    (chain (onceFrame .start (setup.replayStarted startAt reported.1 reported.2))
      (setup.historicalStream startAt endSequence))
    (onceFrame .completion setup.replayCompleted)

def createWatchSseStream :=
  applyStreamLifecycle setup.liveFrames setup.topic
    (some setup.settings.connectionMaxDurationSec) setup.request.requestId

def createHistoricalThenLiveStream (startAt : StartAt) (subscription : Subscription) :=
  applyStreamLifecycle (setup.historicalThenLiveFrames startAt subscription) setup.topic
    (some setup.settings.connectionMaxDurationSec) setup.request.requestId

def createReplayOnlyStream (startAt : StartAt) (endAt : EndAt) (endSequence : Nat) :=
  applyStreamLifecycle (setup.replayFrames startAt endAt endSequence) setup.topic none
    setup.request.requestId

end StreamSetup

/-! ## 4. The polled history and the replay loop -/

section History

variable (request : ReplayRequest)

/-- The stream in this state emits `items` if it is polled to its end: the rest of the current batch
and then the frames of the replay loop, for some answers of the backend. -/
def HistoryState.Replays (st : HistoryState) (items : List StreamFrame) : Prop :=
  ∃ fetch clock fuel rest, historicalFrames request fetch clock fuel 0 st.replay = some rest ∧
    items = st.frames ++ rest

theorem historicalFrames_shift (fetch : Nat → BatchParams → Result BatchResult)
    (clock : Nat → DateTime) (fuel call : Nat) (state : ReplayState) :
    historicalFrames request fetch clock fuel (call + 1) state =
      historicalFrames request (fun i => fetch (i + 1)) (fun i => clock (i + 1)) fuel call state := by
  induction fuel generalizing call state with
  | zero => rfl
  | succ fuel ih => simp only [historicalFrames, ih]

variable {request}

theorem HistoryState.Replays.done {replay : ReplayState} (h : replay.cursor.hasMore = false) :
    HistoryState.Replays request { replay := replay, frames := [] } [] :=
  ⟨fun _ _ => .ok .empty, fun _ => 0, 0, [], historicalFrames_of_done _ _ _ _ _ _ h, rfl⟩

/-- A fetch that completes is the first one of the replay loop. -/
theorem HistoryState.Replays.fetch {replay : ReplayState} {now : DateTime}
    {answer : BatchParams → Result BatchResult} {items : List StreamFrame}
    (hmore : replay.cursor.hasMore = true)
    (h : HistoryState.Replays request
      { replay := (replayStep request now (answer replay.cursor.params) replay).1
        frames := (replayStep request now (answer replay.cursor.params) replay).2 } items) :
    HistoryState.Replays request { replay := replay, frames := [] } items := by
  obtain ⟨fetch, clock, fuel, rest, hrest, rfl⟩ := h
  refine ⟨fun i => i.casesOn answer fetch, fun i => i.casesOn now clock, fuel + 1, _, ?_, rfl⟩
  rw [historicalFrames_of_more _ _ _ _ _ _ hmore, historicalFrames_shift]
  exact congrArg (Option.map _) hrest

theorem pollHistory_replays (request : ReplayRequest)
    (fetches : List (DateTime × (BatchParams → Result BatchResult))) (st : HistoryState)
    (items : List StreamFrame)
    (h : (pollHistory request fetches st).1.goesOn = true →
      HistoryState.Replays request (pollHistory request fetches st).2 items)
    (hend : (pollHistory request fetches st).1.goesOn = false → items = []) :
    HistoryState.Replays request st ((pollHistory request fetches st).1.items ++ items) := by
  fun_induction pollHistory request fetches st with
  | case1 fetches replay frame rest =>
    obtain ⟨fetch, clock, fuel, frames, hframes, rfl⟩ := h rfl
    exact ⟨fetch, clock, fuel, frames, hframes, rfl⟩
  | case2 replay =>
    cases hmore : replay.cursor.hasMore with
    | true =>
      simp only [hmore, if_true] at h ⊢
      exact h rfl
    | false =>
      simp only [hmore, Bool.false_eq_true, if_false] at hend ⊢
      rw [hend rfl]
      exact .done hmore
  | case3 now fetch fetches replay hmore step ih => exact .fetch hmore (ih h hend)
  | case4 now fetch fetches replay hdone =>
    rw [hend rfl]
    exact .done (Bool.eq_false_of_not_eq_true hdone)

theorem historicalReplayStream_poll_replays {params : BatchParams} {e : SourcePoll}
    {st st' : HistoryState} {r : Poll StreamFrame}
    (hpoll : (createHistoricalReplayStream request params).poll e st = (r, st'))
    (items : List StreamFrame) (h : r.goesOn = true → st'.Replays request items)
    (hend : r.goesOn = false → items = []) : st.Replays request (r.items ++ items) := by
  unfold createHistoricalReplayStream at hpoll
  cases hready : e.ready .batch with
  | true =>
    simp only [hready, if_true] at hpoll
    have hstep := pollHistory_replays request e.fetches st items
    rw [hpoll] at hstep
    exact hstep h hend
  | false =>
    simp only [hready, Bool.false_eq_true, if_false] at hpoll
    cases hpoll
    exact h rfl

/-- The history stream polled to its end emits what the replay loop collects, in any schedule. -/
theorem historicalReplayStream_replays {params : BatchParams} {st : HistoryState}
    {items : List StreamFrame}
    (h : (createHistoricalReplayStream request params).Emits st items true) :
    st.Replays request items := by
  generalize hended : true = ended at h
  induction h with
  | stop => cases hended
  | pending hpoll _ ih =>
    exact historicalReplayStream_poll_replays hpoll _ (fun _ => ih hended) nofun
  | item hpoll _ ih =>
    exact historicalReplayStream_poll_replays hpoll _ (fun _ => ih hended) nofun
  | done hpoll => exact historicalReplayStream_poll_replays hpoll [] nofun (fun _ => rfl)

end History

end AvisoServer
