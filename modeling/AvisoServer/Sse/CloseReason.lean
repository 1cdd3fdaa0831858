import AvisoServer.Sse.Streams

/-!
# Close reasons

The documented precedence is server shutdown, then the maximum duration, then the natural end. Both
stop signals are awaited by one `tokio::select!`, which polls its branches in a random order, so when
both become ready between two polls the order decides instead of the precedence.
-/

namespace AvisoServer

open PollStream

variable {σ ε : Type}

/-! ## 1. The documented precedence -/

/-- A stop signal is ready at this poll, so the stop future completes if it is still awaited. -/
def LifecyclePoll.signalled (maxDuration : Option Nat) (poll : LifecyclePoll ε) : Bool :=
  poll.cancelled || (maxDuration.isSome && poll.elapsed)

/-- The stream closes at `poll`, after the polls `before`, and this is its last frame. -/
structure ClosesAt (stream : PollStream σ (SelectPoll ε) StreamFrame)
    (schedule before : List (SelectPoll ε)) (poll : SelectPoll ε) (reason : CloseReason) :
    Prop where
  schedule_eq : ∃ after, schedule = before ++ poll :: after
  close : ∃ topic timestamp requestId,
    (stream.run (before ++ [poll]) stream.init).1 =
      (stream.run before stream.init).1 ++ [.close topic reason timestamp requestId]
  last : ∀ next, (stream.run (before ++ [poll, next]) stream.init).2 = none

/-- Close reason precedence: server shutdown, then max duration reached, then natural end. -/
structure ReasonPrecedence (maxDuration : Option Nat) (before : List (SelectPoll ε))
    (poll : SelectPoll ε) (reason : CloseReason) : Prop where
  shutdown : poll.signalled maxDuration = true → poll.cancelled = true → reason = .serverShutdown
  elapsed : reason = .maxDurationReached →
    maxDuration.isSome = true ∧ poll.elapsed = true ∧ ∀ p ∈ before ++ [poll], p.cancelled = false
  natural : reason = .endOfStream →
    ∀ p ∈ before ++ [poll], p.signalled maxDuration = false

def CloseReasonPrecedence (stream : PollStream σ ε StreamFrame) (topic : String)
    (maxDuration : Option Nat) (requestId : String) (schedule : List (SelectPoll ε)) : Prop :=
  ∀ before poll reason,
    ClosesAt (applyStreamLifecycle stream topic maxDuration requestId) schedule before poll reason →
      ReasonPrecedence maxDuration before poll reason

/-- Both signals are ready at the first poll at which one of them is, and the stream is open. -/
def StopRace (stream : PollStream σ ε StreamFrame) (maxDuration : Option Nat)
    (polls : List (LifecyclePoll ε)) : Prop :=
  maxDuration.isSome = true ∧ ∃ before poll after, polls = before ++ poll :: after ∧
    (∀ p ∈ before, p.signalled maxDuration = false) ∧
    ((untilReplayTerminal stream).run (before.map LifecyclePoll.source)
      (untilReplayTerminal stream).init).2.isSome = true ∧
    poll.cancelled = true ∧ poll.elapsed = true

/-! ## 2. The stop future -/

theorem stopFuture_eq_none_iff {maxDuration : Option Nat} {poll : SelectPoll ε} :
    stopFuture maxDuration poll = none ↔ poll.signalled maxDuration = false := by
  obtain ⟨⟨source, cancelled, elapsed, now⟩, shutdownFirst⟩ := poll
  cases maxDuration <;> cases cancelled <;> cases elapsed <;> cases shutdownFirst <;>
    simp [stopFuture, LifecyclePoll.signalled]

theorem stopFuture_eq_some {maxDuration : Option Nat} {poll : SelectPoll ε} {code : Nat}
    (h : stopFuture maxDuration poll = some code) :
    (code = 1 ∧ poll.cancelled = true) ∨
      (code = 2 ∧ maxDuration.isSome = true ∧ poll.elapsed = true ∧
        (poll.cancelled = true → poll.shutdownFirst = false)) := by
  obtain ⟨⟨source, cancelled, elapsed, now⟩, shutdownFirst⟩ := poll
  cases maxDuration <;> cases cancelled <;> cases elapsed <;> cases shutdownFirst <;>
    simp_all [stopFuture]

/-- With both signals ready, the branch polled first decides. -/
theorem stopFuture_both {maxDuration : Option Nat} {poll : SelectPoll ε}
    (hmax : maxDuration.isSome = true) (hcancelled : poll.cancelled = true)
    (helapsed : poll.elapsed = true) (hpick : poll.shutdownFirst = false) :
    stopFuture maxDuration poll = some 2 := by
  obtain ⟨duration, rfl⟩ := Option.isSome_iff_exists.mp hmax
  simp [stopFuture, hcancelled, helapsed, hpick]

/-! ## 3. Where a stream closes -/

section Closing

variable {stream : PollStream σ ε StreamFrame} {topic requestId : String}
  {maxDuration : Option Nat} {before : List (SelectPoll ε)} {poll : SelectPoll ε}

/-- At the closing poll the graceful part ends, and its last state gives the reason. -/
theorem ClosesAt.reason {schedule : List (SelectPoll ε)} {reason : CloseReason}
    (h : ClosesAt (applyStreamLifecycle stream topic maxDuration requestId) schedule before poll
      reason) :
    ∃ items s st, OpenAfter stream maxDuration before items s ∧
      (graceful stream maxDuration).poll poll (.waitingFor Nat s) = (.ready none, st) ∧
      reason = closeReasonOfCode (st.result.getD 0) := by
  obtain ⟨-, ⟨closeTopic, timestamp, id, hclose⟩, hlast⟩ := h
  obtain ⟨items, st, st', hbefore, hpoll, hframe⟩ :=
    endWith_last_item hclose (by rw [List.append_assoc]; exact hlast poll)
  obtain ⟨hopen, hst⟩ := lifecycle_open_iff.mp hbefore
  injection hframe with _ hreason
  exact ⟨items, st.stream, st', hopen, hst ▸ hpoll, hreason⟩

theorem ReasonPrecedence.of_openAfter {items : List StreamFrame} {s : σ × Bool}
    {st : TakeUntilState (σ × Bool) Nat} (hopen : OpenAfter stream maxDuration before items s)
    (hpoll : (graceful stream maxDuration).poll poll (.waitingFor Nat s) = (.ready none, st))
    (hrace : maxDuration.isSome = true → poll.cancelled = true → poll.elapsed = false) :
    ReasonPrecedence maxDuration before poll (closeReasonOfCode (st.result.getD 0)) := by
  -- a stream that is still open has seen no signal
  have hquiet : ∀ p ∈ before, p.signalled maxDuration = false := fun p hp =>
    stopFuture_eq_none_iff.mp (hopen.1 p hp)
  cases hstop : stopFuture maxDuration poll with
  | none =>
    have hst : st.result = none := by
      rcases hsource : (comap (fun p : SelectPoll ε => p.source)
        (untilReplayTerminal stream)).poll poll s with ⟨_ | _ | x, s'⟩
      · rw [graceful, takeUntil_poll hstop hsource rfl] at hpoll
        cases hpoll
      · rw [graceful, takeUntil_poll_end hstop hsource] at hpoll
        cases hpoll
        rfl
      · rw [graceful, takeUntil_poll hstop hsource rfl] at hpoll
        cases hpoll
    have hpoll := stopFuture_eq_none_iff.mp hstop
    rw [hst]
    refine ⟨fun h => ?_, nofun, fun _ p hp => ?_⟩
    · rw [hpoll] at h
      cases h
    · rcases List.mem_append.mp hp with hp | hp
      · exact hquiet p hp
      · exact List.mem_singleton.mp hp ▸ hpoll
  | some code =>
    rw [graceful, takeUntil_poll_stop hstop] at hpoll
    cases hpoll
    rcases stopFuture_eq_some hstop with ⟨rfl, hcancelled⟩ | ⟨rfl, hmax, helapsed, -⟩
    · exact ⟨fun _ _ => rfl, nofun, nofun⟩
    · have hcancelled : poll.cancelled = false := by
        cases h : poll.cancelled with
        | false => rfl
        | true => exact absurd helapsed (by simp [hrace hmax h])
      refine ⟨fun _ h => ?_, fun _ => ⟨hmax, helapsed, fun p hp => ?_⟩, nofun⟩
      · rw [hcancelled] at h
        cases h
      · rcases List.mem_append.mp hp with hp | hp
        · exact (Bool.or_eq_false_iff.mp (hquiet p hp)).1
        · exact List.mem_singleton.mp hp ▸ hcancelled

/-- With both signals ready and the sleep polled first, the stream closes for the sleep. -/
theorem closesAt_of_both (topic requestId : String) {items : List StreamFrame} {s : σ × Bool}
    (hopen : OpenAfter stream maxDuration before items s)
    (hstop : stopFuture maxDuration poll = some 2) (after : List (SelectPoll ε)) :
    ClosesAt (applyStreamLifecycle stream topic maxDuration requestId)
      (before ++ poll :: after) before poll .maxDurationReached := by
  have hbefore : (applyStreamLifecycle stream topic maxDuration requestId).run before
      (applyStreamLifecycle stream topic maxDuration requestId).init =
        (items, some (some (.waitingFor Nat s))) :=
    lifecycle_open_iff.mpr ⟨hopen, rfl⟩
  have hpoll : (applyStreamLifecycle stream topic maxDuration requestId).poll poll
      (some (.waitingFor Nat s)) =
        (.ready (some (.close topic .maxDurationReached poll.now requestId)), none) :=
    endWith_poll_last (takeUntil_poll_stop hstop s)
  refine ⟨⟨after, rfl⟩, ⟨topic, poll.now, requestId, ?_⟩, fun next => ?_⟩
  · rw [run_append_of_open hbefore, hbefore, run_cons_item _ [] hpoll]
    rfl
  · rw [run_append_of_open hbefore, run_cons_item _ [next] hpoll]
    rfl

end Closing

/-! ## 4. Close reason precedence -/

def LifecyclePoll.pick (shutdownFirst : Bool) (poll : LifecyclePoll ε) : SelectPoll ε :=
  { poll with shutdownFirst := shutdownFirst }

theorem LifecyclePoll.map_pick (shutdownFirst : Bool) (polls : List (LifecyclePoll ε)) :
    (polls.map (LifecyclePoll.pick shutdownFirst)).map SelectPoll.toLifecyclePoll = polls := by
  rw [List.map_map]
  exact List.map_id polls

/-- The precedence holds under every choice of `tokio::select!` exactly if the two signals do not
become ready at the same poll. -/
theorem closeReasonPrecedence_iff (stream : PollStream σ ε StreamFrame) (topic : String)
    (maxDuration : Option Nat) (requestId : String) (polls : List (LifecyclePoll ε)) :
    (∀ schedule : List (SelectPoll ε), schedule.map SelectPoll.toLifecyclePoll = polls →
        CloseReasonPrecedence stream topic maxDuration requestId schedule) ↔
      ¬StopRace stream maxDuration polls := by
  constructor
  · rintro hall ⟨hmax, before, poll, after, rfl, hquiet, hopen, hcancelled, helapsed⟩
    obtain ⟨s, hs⟩ := Option.isSome_iff_exists.mp hopen
    have hopenAfter : ∃ items, OpenAfter stream maxDuration (before.map (·.pick false)) items s := by
      refine ⟨_, fun p hp => ?_, Prod.ext rfl ?_⟩
      · obtain ⟨q, hq, rfl⟩ := List.mem_map.mp hp
        exact stopFuture_eq_none_iff.mpr (hquiet q hq)
      · rw [List.map_map]
        exact hs
    obtain ⟨items, hopenAfter⟩ := hopenAfter
    have hstop : stopFuture maxDuration (poll.pick false) = some 2 :=
      stopFuture_both hmax hcancelled helapsed rfl
    have hcloses := closesAt_of_both topic requestId hopenAfter hstop
      (after.map (·.pick false))
    have hschedule := LifecyclePoll.map_pick false (before ++ poll :: after)
    rw [List.map_append, List.map_cons] at hschedule
    have hprecedence := hall _ hschedule _ _ _ hcloses
    have hreason := hprecedence.shutdown (Bool.or_eq_true_iff.mpr (.inl hcancelled)) hcancelled
    cases hreason
  · intro hrace schedule hschedule before poll reason hcloses
    obtain ⟨items, s, st, hopen, hpoll, rfl⟩ := hcloses.reason
    obtain ⟨after, hafter⟩ := hcloses.schedule_eq
    refine .of_openAfter hopen hpoll fun hmax hcancelled => ?_
    by_contra helapsed
    refine hrace ⟨hmax, before.map SelectPoll.toLifecyclePoll, poll.toLifecyclePoll,
      after.map SelectPoll.toLifecyclePoll, ?_, fun p hp => ?_, ?_, hcancelled,
      Bool.eq_true_of_not_eq_false helapsed⟩
    · rw [← hschedule, hafter, List.map_append, List.map_cons]
    · obtain ⟨q, hq, rfl⟩ := List.mem_map.mp hp
      exact stopFuture_eq_none_iff.mp (hopen.1 q hq)
    · have hrun := hopen.2
      rw [List.map_map]
      exact Option.isSome_iff_exists.mpr ⟨s, congrArg Prod.snd hrun⟩

def raceSetup : StreamSetup where
  settings := .default
  topic := "mars.od"
  request :=
    { renderer := plainRenderer
      keep := fun _ => true
      baseUrl := ""
      requestId := "r1"
      maxAllowed := 10000 }
  createdAt := 0
  completionCreatedAt := 0

def idlePoll : SourcePoll where
  ready := fun _ => true
  fetches := []
  received := []
  tick := none

def openingPoll : SelectPoll SourcePoll :=
  { source := idlePoll, cancelled := false, elapsed := false, now := 0, shutdownFirst := true }

/-- Since the poll before, the shutdown token was cancelled and the sleep ended. -/
def racingPoll : SelectPoll SourcePoll :=
  { source := idlePoll, cancelled := true, elapsed := true, now := 0, shutdownFirst := false }

/-- A watch that is shut down as its maximum duration ends can report the maximum duration. -/
theorem elapsed_beats_shutdown :
    ¬CloseReasonPrecedence raceSetup.liveFrames raceSetup.topic
      (some raceSetup.settings.connectionMaxDurationSec) raceSetup.request.requestId
      [openingPoll, racingPoll] := by
  intro h
  have hcloses : ClosesAt raceSetup.createWatchSseStream [openingPoll, racingPoll] [openingPoll]
      racingPoll .maxDurationReached :=
    ⟨⟨[], rfl⟩, ⟨"mars.od", 0, "r1", rfl⟩, fun next => rfl⟩
  have hreason := (h _ _ _ hcloses).shutdown rfl rfl
  cases hreason

end AvisoServer
