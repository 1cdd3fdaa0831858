import AvisoServer.Sse.FrameGrammar
import AvisoServer.Sse.ReplayEnd
import AvisoServer.Sse.ReplayHalf
import AvisoServer.Sse.ReplayTermination

/-!
# What a replay delivers

The body of a replay request, from its first frame to its close frame, over a store that does not
change. Polls, batches and the clock may fall in any way; the frames are those of one batch that
holds everything the request selects.
-/

namespace AvisoServer

open PollStream

/-! ## 1. The replay loop over a backend that answers alike -/

section Loop

variable (request : ReplayRequest) (answer : BatchParams → Result BatchResult)

/-- What has been collected stays in front. -/
theorem collectBatches_collected (fuel call : Nat) (cursor : BatchCursor)
    (collected : List NotificationMessage) :
    collectBatches (fun _ => answer) fuel call cursor collected =
      (collectBatches (fun _ => answer) fuel 0 cursor []).map (Except.map (collected ++ ·)) := by
  induction fuel generalizing call cursor collected with
  | zero =>
    cases hmore : cursor.hasMore <;> simp [collectBatches, hmore, Except.map]
  | succ fuel ih =>
    cases hmore : cursor.hasMore with
    | false => simp [collectBatches, hmore, Except.map]
    | true =>
      rw [collectBatches, collectBatches, if_pos hmore, if_pos hmore]
      cases answer cursor.params with
      | error e => rfl
      | ok batch =>
        change collectBatches (fun _ => answer) fuel (call + 1) (cursor.advance batch)
            (collected ++ batch.messages) =
          (collectBatches (fun _ => answer) fuel 1 (cursor.advance batch)
            ([] ++ batch.messages)).map (Except.map (collected ++ ·))
        rw [ih, ih 1, Option.map_map]
        congr 1
        funext out
        cases out with
        | error e => rfl
        | ok out => exact congrArg Except.ok (List.append_assoc _ _ _)

/-- The frames of the replay loop are the frames of everything it would collect, in one batch. -/
theorem historicalFrames_collected (clock : Nat → DateTime) (fuel fuel' call : Nat)
    (state : ReplayState) (out : List NotificationMessage) (frames : List StreamFrame)
    (hcollect : collectBatches (fun _ => answer) fuel 0 state.cursor [] = some (.ok out))
    (hframes : historicalFrames request (fun _ => answer) clock fuel' call state = some frames) :
    ∃ now, frames =
      (batchFrames request state.cursor.params.topic now out state.delivered).frames := by
  induction fuel generalizing fuel' call state out frames with
  | zero =>
    cases hmore : state.cursor.hasMore with
    | true => simp [collectBatches, hmore] at hcollect
    | false =>
      rw [historicalFrames_of_done _ _ _ _ _ _ hmore] at hframes
      simp only [collectBatches, hmore, Bool.false_eq_true, if_false, Option.some.injEq,
        Except.ok.injEq] at hcollect hframes
      rw [← hcollect, ← hframes]
      exact ⟨0, rfl⟩
  | succ fuel ih =>
    cases hmore : state.cursor.hasMore with
    | false =>
      rw [historicalFrames_of_done _ _ _ _ _ _ hmore] at hframes
      simp only [collectBatches, hmore, Bool.false_eq_true, if_false, Option.some.injEq,
        Except.ok.injEq] at hcollect hframes
      rw [← hcollect, ← hframes]
      exact ⟨0, rfl⟩
    | true =>
      rw [collectBatches, if_pos hmore] at hcollect
      cases fuel' with
      | zero => simp [historicalFrames, hmore] at hframes
      | succ fuel' =>
        rw [historicalFrames_of_more _ _ _ _ _ _ hmore] at hframes
        obtain ⟨later, hlater, rfl⟩ := Option.map_eq_some_iff.mp hframes
        cases hanswer : answer state.cursor.params with
        | error e =>
          rw [hanswer] at hcollect
          cases hcollect
        | ok batch =>
          rw [hanswer] at hcollect hlater
          have hcollect : collectBatches (fun _ => answer) fuel 1 (state.cursor.advance batch)
              ([] ++ batch.messages) = some (.ok out) := hcollect
          rw [collectBatches_collected] at hcollect
          obtain ⟨result, hrest, hmap⟩ := Option.map_eq_some_iff.mp hcollect
          obtain ⟨rest, rfl, rfl⟩ : ∃ rest, result = .ok rest ∧ batch.messages ++ rest = out := by
            cases result with
            | error e => cases hmap
            | ok rest => exact ⟨rest, rfl, Except.ok.inj hmap⟩
          set topic := (state.cursor.advance batch).params.topic with htopic
          have hsame : state.cursor.params.topic = topic :=
            (BatchCursor.advance_topic state.cursor batch).symm
          rw [hsame]
          cases hstopped : (batchFrames request topic (clock call) batch.messages
            state.delivered).stopped with
          | true =>
            -- the quota ends the loop, and it would have ended the larger batch there as well
            have hdone : (replayStep request (clock call) (.ok batch)
                state).1.cursor.hasMore = false := by
              change ((state.cursor.advance batch).hasMore && !(batchFrames request topic
                (clock call) batch.messages state.delivered).stopped) = false
              rw [hstopped, Bool.not_true, Bool.and_false]
            rw [historicalFrames_of_done _ _ _ _ _ _ hdone] at hlater
            cases hlater
            refine ⟨clock call, ?_⟩
            rw [batchFrames_append, if_pos hstopped, List.append_nil]
            rfl
          | false =>
            have hcursor : (replayStep request (clock call) (.ok batch) state).1.cursor =
                state.cursor.advance batch := by
              change { state.cursor.advance batch with
                hasMore := (state.cursor.advance batch).hasMore && !(batchFrames request topic
                  (clock call) batch.messages state.delivered).stopped } = _
              rw [hstopped, Bool.not_false, Bool.and_true]
            obtain ⟨now, hnow⟩ := ih fuel' (call + 1) _ rest later (by rw [hcursor]; exact hrest)
              hlater
            have hopen := batchFrames_now request topic batch.messages (clock call) now
              state.delivered hstopped
            refine ⟨now, ?_⟩
            rw [batchFrames_append, hopen, if_neg (by rw [hstopped]; exact Bool.false_ne_true),
              hnow, hcursor]
            rfl

end Loop

/-! ## 2. Polls over such a backend -/

section Polls

variable (request : ReplayRequest) (answer : BatchParams → Result BatchResult)

/-- The stream in this state emits `items` if it is polled to its end and the backend answers alike
all along. -/
def HistoryState.Answered (st : HistoryState) (items : List StreamFrame) : Prop :=
  ∃ clock fuel rest,
    historicalFrames request (fun _ => answer) clock fuel 0 st.replay = some rest ∧
      items = st.frames ++ rest

/-- From this state the stream can be polled to its end. -/
def HistoryState.Completes (st : HistoryState) : Prop :=
  ∃ fuel, ∀ clock,
    (historicalFrames request (fun _ => answer) clock fuel 0 st.replay).isSome = true

variable {request answer}

theorem HistoryState.Completes.answered {st : HistoryState} (h : st.Completes request answer) :
    ∃ items, st.Answered request answer items := by
  obtain ⟨fuel, hfuel⟩ := h
  obtain ⟨rest, hrest⟩ := Option.isSome_iff_exists.mp (hfuel fun _ => 0)
  exact ⟨_, _, fuel, rest, hrest, rfl⟩

theorem HistoryState.Completes.fetch {replay : ReplayState} {frames frames' : List StreamFrame}
    (now : DateTime) (hmore : replay.cursor.hasMore = true)
    (h : HistoryState.Completes request answer { replay := replay, frames := frames }) :
    HistoryState.Completes request answer
      { replay := (replayStep request now (answer replay.cursor.params) replay).1
        frames := frames' } := by
  obtain ⟨fuel, hfuel⟩ := h
  refine ⟨fuel, fun clock => ?_⟩
  -- the clock of the whole loop, which reads `now` first
  have hall := hfuel fun i => i.casesOn now clock
  cases fuel with
  | zero => simp [historicalFrames, hmore] at hall
  | succ fuel =>
    rw [historicalFrames_of_more _ _ _ _ _ _ hmore, Option.isSome_map,
      historicalFrames_shift] at hall
    obtain ⟨rest, hrest⟩ := Option.isSome_iff_exists.mp hall
    have hlonger := historicalFrames_mono request _ _ fuel 1 0 _ rest hrest
    exact Option.isSome_iff_exists.mpr ⟨rest, hlonger⟩

theorem HistoryState.Answered.done {replay : ReplayState} (h : replay.cursor.hasMore = false) :
    HistoryState.Answered request answer { replay := replay, frames := [] } [] :=
  ⟨fun _ => 0, 0, [], historicalFrames_of_done _ _ _ _ _ _ h, rfl⟩

theorem HistoryState.Answered.fetch {replay : ReplayState} {now : DateTime}
    {items : List StreamFrame} (hmore : replay.cursor.hasMore = true)
    (h : HistoryState.Answered request answer
      { replay := (replayStep request now (answer replay.cursor.params) replay).1
        frames := (replayStep request now (answer replay.cursor.params) replay).2 } items) :
    HistoryState.Answered request answer { replay := replay, frames := [] } items := by
  obtain ⟨clock, fuel, rest, hrest, rfl⟩ := h
  refine ⟨fun i => i.casesOn now clock, fuel + 1, _, ?_, rfl⟩
  rw [historicalFrames_of_more _ _ _ _ _ _ hmore, historicalFrames_shift]
  exact congrArg (Option.map _) hrest

/-- After one poll the stream can still be completed, and what the poll yields is the next part of
the completion. -/
structure HistoryState.PollAnswered (request : ReplayRequest)
    (answer : BatchParams → Result BatchResult) (st : HistoryState)
    (polled : Poll StreamFrame × HistoryState) : Prop where
  completes : polled.2.Completes request answer
  ended : polled.1.goesOn = false → st.Answered request answer []
  emitted : ∀ items, polled.2.Answered request answer items → polled.1.goesOn = true →
    st.Answered request answer (polled.1.items ++ items)

theorem HistoryState.Completes.pending {st : HistoryState} (h : st.Completes request answer) :
    st.PollAnswered request answer (.pending, st) where
  completes := h
  ended := fun hend => Bool.noConfusion hend
  emitted := fun _ hitems _ => hitems

theorem pollHistory_answered (request : ReplayRequest) {answer : BatchParams → Result BatchResult}
    (fetches : List (DateTime × (BatchParams → Result BatchResult))) (st : HistoryState)
    (hfetches : ∀ fetch ∈ fetches, fetch.2 = answer) (hst : st.Completes request answer) :
    st.PollAnswered request answer (pollHistory request fetches st) := by
  fun_induction pollHistory request fetches st with
  | case1 fetches replay frame rest =>
    refine ⟨hst, fun h => Bool.noConfusion h, fun items hitems _ => ?_⟩
    obtain ⟨clock, fuel, frames, hframes, rfl⟩ := hitems
    exact ⟨clock, fuel, frames, hframes, rfl⟩
  | case2 replay =>
    cases hmore : replay.cursor.hasMore with
    | true => exact hst.pending
    | false => exact ⟨hst, fun _ => .done hmore, fun items _ h => Bool.noConfusion h⟩
  | case3 now fetch fetches replay hmore step ih =>
    obtain rfl : fetch = answer := hfetches (now, fetch) List.mem_cons_self
    have hnext := ih (fun f hf => hfetches f (List.mem_cons_of_mem _ hf)) (hst.fetch now hmore)
    exact ⟨hnext.completes, fun h => (hnext.ended h).fetch hmore,
      fun items h hgoes => (hnext.emitted items h hgoes).fetch hmore⟩
  | case4 now fetch fetches replay hdone =>
    exact ⟨hst, fun _ => .done (Bool.eq_false_of_not_eq_true hdone),
      fun items _ h => Bool.noConfusion h⟩

variable {ε : Type} {source : ε → SourcePoll}

theorem historicalReplayStream_poll_answered (params : BatchParams)
    (hsource : ∀ e, ∀ fetch ∈ (source e).fetches, fetch.2 = answer) (e : ε) (st : HistoryState)
    (hst : st.Completes request answer) :
    st.PollAnswered request answer
      ((createHistoricalReplayStream request params).poll (source e) st) := by
  show st.PollAnswered request answer
    (if (source e).ready .batch then pollHistory request (source e).fetches st else (.pending, st))
  by_cases hready : (source e).ready .batch = true
  · rw [if_pos hready]
    exact pollHistory_answered request (source e).fetches st (hsource e) hst
  · rw [if_neg hready]
    exact hst.pending

/-- Whatever the history stream has emitted is a beginning of what the replay loop collects, and
all of it when the stream has ended. -/
theorem historicalReplayStream_answered {params : BatchParams}
    (hsource : ∀ e, ∀ fetch ∈ (source e).fetches, fetch.2 = answer) {st : HistoryState}
    (hst : st.Completes request answer) {items : List StreamFrame} {ended : Bool}
    (h : (comap source (createHistoricalReplayStream request params)).Emits st items ended) :
    ∃ rest, st.Answered request answer (items ++ rest) ∧ (ended = true → rest = []) := by
  induction h with
  | stop st =>
    obtain ⟨items, hitems⟩ := hst.answered
    exact ⟨items, hitems, fun h => Bool.noConfusion h⟩
  | @pending e st st' items ended hpoll _ ih =>
    have hstep := historicalReplayStream_poll_answered params hsource e st hst
    rw [show (createHistoricalReplayStream request params).poll (source e) st = _ from hpoll]
      at hstep
    obtain ⟨rest, hrest, hended⟩ := ih hstep.completes
    exact ⟨rest, hstep.emitted _ hrest rfl, hended⟩
  | @item e st st' x items ended hpoll _ ih =>
    have hstep := historicalReplayStream_poll_answered params hsource e st hst
    rw [show (createHistoricalReplayStream request params).poll (source e) st = _ from hpoll]
      at hstep
    obtain ⟨rest, hrest, hended⟩ := ih hstep.completes
    exact ⟨rest, hstep.emitted _ hrest rfl, hended⟩
  | @done e st st' hpoll =>
    have hstep := historicalReplayStream_poll_answered params hsource e st hst
    rw [show (createHistoricalReplayStream request params).poll (source e) st = _ from hpoll]
      at hstep
    exact ⟨[], hstep.ended rfl, fun _ => rfl⟩

end Polls

/-! ## 3. The lifecycle of an undisturbed stream -/

/-- Every backend call that completes is answered so, and the server is not shut down. -/
structure SelectPoll.Undisturbed (answer : BatchParams → Result BatchResult)
    (poll : SelectPoll SourcePoll) : Prop where
  answers : ∀ fetch ∈ poll.source.fetches, fetch.2 = answer
  running : poll.cancelled = false

section Lifecycle

variable {σ : Type} {answer : BatchParams → Result BatchResult}

/-- The frame sources in the undisturbed polls. -/
def undisturbed (answer : BatchParams → Result BatchResult)
    (stream : PollStream σ SourcePoll StreamFrame) :
    PollStream σ { poll : SelectPoll SourcePoll // poll.Undisturbed answer } StreamFrame :=
  comap (fun poll => poll.val.source) stream

theorem undisturbed_chain {τ : Type} (first : PollStream σ SourcePoll StreamFrame)
    (second : PollStream τ SourcePoll StreamFrame) :
    undisturbed answer (chain first second) =
      chain (undisturbed answer first) (undisturbed answer second) := rfl

theorem undisturbed_onceFrame (which : FixedFrames) (frame : StreamFrame) :
    undisturbed answer (onceFrame which frame) =
      once (fun poll => poll.val.source.ready which) frame := rfl

/-- A stream without a maximum duration goes on until its sources end or a terminal frame. -/
theorem lifecycle_undisturbed (stream : PollStream σ SourcePoll StreamFrame)
    (topic requestId : String) {schedule : List (SelectPoll SourcePoll)}
    (hschedule : ∀ poll ∈ schedule, poll.Undisturbed answer) :
    ∃ body : List StreamFrame, body.Pairwise (fun frame _ => frame.isReplayTerminal = false) ∧
      (undisturbed answer stream).Emits stream.init body false ∧
      (((applyStreamLifecycle stream topic none requestId).run schedule
          (applyStreamLifecycle stream topic none requestId).init).1 = body ∨
        ∃ closedAt, ((applyStreamLifecycle stream topic none requestId).run schedule
            (applyStreamLifecycle stream topic none requestId).init).1 =
              body ++ [.close topic .endOfStream closedAt requestId] ∧
          ((undisturbed answer stream).Emits stream.init body true ∨
            ∃ front last, body = front ++ [last] ∧ last.isReplayTerminal = true)) := by
  set stopped := takeUntil (stopAfter StreamFrame.isReplayTerminal (undisturbed answer stream))
    (fun poll => stopFuture none poll.val) with hstopped
  set closing := endWith stopped (fun poll => closeFrame topic requestId poll.val) with hclosing
  have hrun := emits_run closing (schedule.attachWith _ hschedule) closing.init
  -- the run over the undisturbed polls is the run over the schedule
  have hsame : closing.run (schedule.attachWith _ hschedule) closing.init =
      (applyStreamLifecycle stream topic none requestId).run schedule
        (applyStreamLifecycle stream topic none requestId).init := by
    have hcomap := run_comap Subtype.val (S := applyStreamLifecycle stream topic none requestId)
      (schedule.attachWith _ hschedule) (applyStreamLifecycle stream topic none requestId).init
    rw [List.attachWith_map_subtype_val] at hcomap
    exact hcomap
  rw [hsame] at hrun
  have hquiet : ∀ poll : { poll : SelectPoll SourcePoll // poll.Undisturbed answer },
      stopFuture none poll.val = none := by
    intro poll
    show (if poll.val.cancelled then some 1 else none) = none
    rw [poll.property.running, if_neg Bool.false_ne_true]
  rcases hrun.endWith_invariant (fun st => st.result = none) (takeUntil_result hquiet) rfl rfl with
    hopen | ⟨body, poll, st, hitems, hnone, hended⟩
  · have hsource := hopen.takeUntil_ended hquiet rfl
    obtain ⟨⟨_, hemits⟩, hterminal⟩ := hsource.stopAfter rfl
    exact ⟨_, hterminal, hemits.unfinished, Or.inl rfl⟩
  · have hsource := hended.takeUntil_ended hquiet rfl
    obtain ⟨⟨_, hemits⟩, hterminal⟩ := hsource.stopAfter rfl
    refine ⟨body, hterminal, hemits.unfinished, Or.inr ⟨poll.val.now, ?_, ?_⟩⟩
    · rw [hitems]
      show body ++ [closeFrame topic requestId poll.val st] = _
      rw [closeFrame, hnone]
      rfl
    · rcases hsource.stopAfter_ended rfl rfl with hall | ⟨front, last, hbody, hlast, -⟩
      · exact Or.inl hall
      · exact Or.inr ⟨front, last, hbody, hlast⟩

end Lifecycle

/-! ## 4. The frames of a replay -/

/-- What the start event says about the end. -/
def reportedEnd (endAt : EndAt) (endSequence : Nat) : Option Nat × Option DateTime :=
  match endAt with
  | .latest => (none, none)
  | .sequence _ => (some endSequence, none)
  | .date date => (some endSequence, some date)

section Frames

variable (setup : StreamSetup) (startAt : StartAt) (endAt : EndAt) (endSequence : Nat)

/-- Everything a replay of these messages sends before it is closed. -/
def StreamSetup.replayBody (selected : List NotificationMessage) (now : DateTime) :
    List StreamFrame :=
  let out := batchFrames setup.request setup.topic now selected 0
  setup.replayStarted startAt (reportedEnd endAt endSequence).1 (reportedEnd endAt endSequence).2 ::
    (out.frames ++ if out.stopped then [] else [setup.replayCompleted])

theorem replayFrames_eq : setup.replayFrames startAt endAt endSequence =
    chain (chain (onceFrame .start (setup.replayStarted startAt (reportedEnd endAt endSequence).1
        (reportedEnd endAt endSequence).2)) (setup.historicalStream startAt endSequence))
      (onceFrame .completion setup.replayCompleted) := by
  cases endAt <;> rfl

variable {setup startAt endAt endSequence} {answer : BatchParams → Result BatchResult}
  {selected : List NotificationMessage}

/-- The replay loop collects these messages from the backend. -/
def Selects (answer : BatchParams → Result BatchResult) (params : BatchParams)
    (selected : List NotificationMessage) : Prop :=
  ∃ fuel, collectBatches (fun _ => answer) fuel 0 { params := params, hasMore := true } [] =
    some (.ok selected)

theorem Selects.completes {params : BatchParams} (h : Selects answer params selected)
    (request : ReplayRequest) :
    HistoryState.Completes request answer { replay := .initial params, frames := [] } := by
  obtain ⟨fuel, hfuel⟩ := h
  have hcollect : (collectBatches (fun _ => answer) fuel 0
      { params := params, hasMore := true } []).isSome = true := by
    rw [hfuel]
    rfl
  exact ⟨fuel, fun clock => historicalFrames_isSome_of_collect request _ clock fuel 0
    (.initial params) _ _ rfl (fun h => h) hcollect⟩

/-- The frames of the history are a beginning of those of one batch, and all of them at its end. -/
theorem historicalStream_selected
    (h : Selects answer
      (replayParams setup.topic setup.settings.replayBatchSize startAt endSequence) selected)
    {items : List StreamFrame} {ended : Bool}
    (hemits : (undisturbed answer (setup.historicalStream startAt endSequence)).Emits
      (setup.historicalStream startAt endSequence).init items ended) :
    ∃ now rest, (batchFrames setup.request setup.topic now selected 0).frames = items ++ rest ∧
      (ended = true → rest = []) := by
  obtain ⟨rest, hanswered, hended⟩ := historicalReplayStream_answered
    (fun poll => poll.property.answers) (h.completes setup.request) hemits
  obtain ⟨clock, fuel, frames, hframes, hitems⟩ := hanswered
  obtain ⟨collectFuel, hcollect⟩ := h
  obtain ⟨now, hnow⟩ := historicalFrames_collected setup.request answer clock collectFuel fuel 0
    _ selected frames hcollect hframes
  refine ⟨now, rest, ?_, hended⟩
  rw [hitems, hnow]
  rfl

/-- A trace of the three sources of a replay: nothing yet, the start with a part of the history, or
everything. -/
theorem replayFrames_selected
    (h : Selects answer
      (replayParams setup.topic setup.settings.replayBatchSize startAt endSequence) selected)
    {body : List StreamFrame} {ended : Bool}
    (hemits : (undisturbed answer (setup.replayFrames startAt endAt endSequence)).Emits
      (setup.replayFrames startAt endAt endSequence).init body ended) :
    ∃ now items rest,
      (batchFrames setup.request setup.topic now selected 0).frames = items ++ rest ∧
      (body = [] ∧ ended = false ∨
        body = setup.replayStarted startAt (reportedEnd endAt endSequence).1
          (reportedEnd endAt endSequence).2 :: items ∧ ended = false ∨
        rest = [] ∧ body = setup.replayStarted startAt (reportedEnd endAt endSequence).1
          (reportedEnd endAt endSequence).2 :: (items ++ [setup.replayCompleted])) := by
  rw [replayFrames_eq, undisturbed_chain, undisturbed_chain, undisturbed_onceFrame,
    undisturbed_onceFrame] at hemits
  rcases Emits.chain hemits rfl with ⟨hopen, rfl⟩ | ⟨first, second, rfl, hfirst, hsecond⟩
  · rcases Emits.once_chain hopen with ⟨rfl, -⟩ | ⟨items, rfl, hitems⟩
    · exact ⟨0, [], _, rfl, Or.inl ⟨rfl, rfl⟩⟩
    · obtain ⟨now, rest, hframes, -⟩ := historicalStream_selected h hitems
      exact ⟨now, items, rest, hframes, Or.inr (Or.inl ⟨rfl, rfl⟩)⟩
  · rcases Emits.once_chain hfirst with ⟨-, hended⟩ | ⟨items, rfl, hitems⟩
    · cases hended
    · obtain ⟨now, rest, hframes, hrest⟩ := historicalStream_selected h hitems
      refine ⟨now, items, rest, hframes, Or.inr ?_⟩
      rcases Emits.once hsecond with ⟨rfl, hended⟩ | rfl
      · exact Or.inl ⟨List.append_nil _, hended⟩
      · exact Or.inr ⟨hrest rfl, rfl⟩

/-- Only the last frame of a batch can end the stream. -/
theorem batchFrames_terminal_last (request : ReplayRequest) (topic : String) (now : DateTime)
    (messages : List NotificationMessage) (delivered : Nat) :
    (batchFrames request topic now messages delivered).frames.Pairwise
      fun frame _ => frame.isReplayTerminal = false := by
  induction messages generalizing delivered with
  | nil => exact List.Pairwise.nil
  | cons message rest ih =>
    cases hdelivers : request.delivers message with
    | true =>
      rw [batchFrames_of_delivers _ _ _ _ _ _ hdelivers]
      by_cases hfull : delivered = request.maxAllowed
      · rw [if_pos hfull]
        exact List.pairwise_singleton _ _
      · rw [if_neg hfull]
        exact List.pairwise_cons.mpr ⟨fun _ _ => deliveredFrame_open request message, ih _⟩
    | false =>
      rw [batchFrames_of_not_delivers _ _ _ _ _ _ hdelivers]
      refine List.pairwise_append.mpr ⟨List.pairwise_of_forall_mem_list ?_, ih _, ?_⟩
      · exact fun frame hframe _ _ => skippedFrames_open request topic message frame hframe
      · exact fun frame hframe _ _ => skippedFrames_open request topic message frame hframe

/-- While the quota has not stopped the only batch, a replay is completed after it. -/
theorem replayBody_of_completed {now : DateTime} {items : List StreamFrame}
    (hframes : (batchFrames setup.request setup.topic now selected 0).frames = items)
    (hopen : ∀ frame ∈ items, frame.isReplayTerminal = false) :
    setup.replayBody startAt endAt endSequence selected now =
      setup.replayStarted startAt (reportedEnd endAt endSequence).1
        (reportedEnd endAt endSequence).2 :: (items ++ [setup.replayCompleted]) := by
  have hstopped : ¬ (batchFrames setup.request setup.topic now selected 0).stopped = true := by
    intro hstopped
    obtain ⟨frame, hframe, hterminal⟩ := batchFrames_terminal setup.request setup.topic now selected
      0 (Nat.zero_le _) hstopped
    rw [hframes] at hframe
    rw [hopen frame hframe] at hterminal
    cases hterminal
  rw [StreamSetup.replayBody, if_neg hstopped, hframes]

theorem replayBody_notifications (now : DateTime) :
    (setup.replayBody startAt endAt endSequence selected now).filter StreamFrame.isNotification =
      ((selected.filter setup.request.delivers).take setup.request.maxAllowed).map
        setup.request.deliveredFrame := by
  have hframes := batchFrames_notifications setup.request setup.topic now selected 0
    (Nat.zero_le _)
  have htail : (if (batchFrames setup.request setup.topic now selected 0).stopped then []
      else [setup.replayCompleted]).filter StreamFrame.isNotification = [] := by
    by_cases hstopped : (batchFrames setup.request setup.topic now selected 0).stopped = true
    · rw [if_pos hstopped]
      rfl
    · rw [if_neg hstopped]
      rfl
  rw [StreamSetup.replayBody, List.filter_cons_of_neg (by simp [StreamSetup.replayStarted,
    StreamFrame.isNotification]), List.filter_append, htail, List.append_nil, hframes, Nat.sub_zero]

/-- A terminal frame of the only batch is its last one and ends the replay. -/
theorem replayBody_of_terminal {now : DateTime} {front rest : List StreamFrame} {last : StreamFrame}
    (hframes : (batchFrames setup.request setup.topic now selected 0).frames =
      (front ++ [last]) ++ rest)
    (hterminal : last.isReplayTerminal = true) :
    setup.replayBody startAt endAt endSequence selected now =
      setup.replayStarted startAt (reportedEnd endAt endSequence).1
        (reportedEnd endAt endSequence).2 :: (front ++ [last]) := by
  have hpairwise := batchFrames_terminal_last setup.request setup.topic now selected 0
  rw [hframes, List.append_assoc] at hpairwise
  have hrest : rest = [] := by
    cases rest with
    | nil => rfl
    | cons next rest =>
      have hopen := (List.pairwise_cons.mp (List.pairwise_append.mp hpairwise).2.1).1 next
        List.mem_cons_self
      rw [hopen] at hterminal
      cases hterminal
  rw [hrest, List.append_nil] at hframes
  have hstopped : (batchFrames setup.request setup.topic now selected 0).stopped = true := by
    by_contra hgoes
    have hopen := batchFrames_open setup.request setup.topic now selected 0
      (Bool.eq_false_of_not_eq_true hgoes) last
      (by rw [hframes]; exact List.mem_append_right _ (List.mem_singleton_self _))
    rw [hopen] at hterminal
    cases hterminal
  rw [StreamSetup.replayBody, if_pos hstopped, hframes, List.append_nil]

/-- In undisturbed polls a replay sends a beginning of its body, and it is closed, as ended, behind
the whole body. -/
theorem replayOnlyStream_selected
    (h : Selects answer
      (replayParams setup.topic setup.settings.replayBatchSize startAt endSequence) selected)
    {schedule : List (SelectPoll SourcePoll)}
    (hschedule : ∀ poll ∈ schedule, poll.Undisturbed answer) :
    ∃ now, ((setup.createReplayOnlyStream startAt endAt endSequence).run schedule
          (setup.createReplayOnlyStream startAt endAt endSequence).init).1 <+:
        setup.replayBody startAt endAt endSequence selected now ∨
      ∃ closedAt, ((setup.createReplayOnlyStream startAt endAt endSequence).run schedule
          (setup.createReplayOnlyStream startAt endAt endSequence).init).1 =
        setup.replayBody startAt endAt endSequence selected now ++
          [.close setup.topic .endOfStream closedAt setup.request.requestId] := by
  obtain ⟨body, hterminal, hemits, hrun⟩ := lifecycle_undisturbed
    (setup.replayFrames startAt endAt endSequence) setup.topic setup.request.requestId hschedule
  -- after a completion there was no terminal frame
  have hcompleted : ∀ {now : DateTime} {items rest : List StreamFrame},
      (batchFrames setup.request setup.topic now selected 0).frames = items ++ rest → rest = [] →
      body = setup.replayStarted startAt (reportedEnd endAt endSequence).1
        (reportedEnd endAt endSequence).2 :: (items ++ [setup.replayCompleted]) →
      body = setup.replayBody startAt endAt endSequence selected now := by
    intro now items rest hframes hrest hbody
    rw [hbody] at hterminal ⊢
    rw [hrest, List.append_nil] at hframes
    refine (replayBody_of_completed hframes fun frame hframe => ?_).symm
    have hitems := (List.pairwise_cons.mp hterminal).2
    exact (List.pairwise_append.mp hitems).2.2 frame hframe _ (List.mem_singleton_self _)
  rcases hrun with hrun | ⟨closedAt, hrun, hend⟩
  · obtain ⟨now, items, rest, hframes, hcase⟩ := replayFrames_selected h hemits
    refine ⟨now, Or.inl ?_⟩
    rw [show ((setup.createReplayOnlyStream startAt endAt endSequence).run schedule
      (setup.createReplayOnlyStream startAt endAt endSequence).init).1 = body from hrun]
    rcases hcase with ⟨rfl, -⟩ | ⟨rfl, -⟩ | ⟨hrest, hbody⟩
    · exact List.nil_prefix
    · rw [StreamSetup.replayBody, hframes, List.append_assoc]
      exact ⟨rest ++ _, rfl⟩
    · exact hcompleted hframes hrest hbody ▸ List.prefix_rfl
  · rw [show ((setup.createReplayOnlyStream startAt endAt endSequence).run schedule
      (setup.createReplayOnlyStream startAt endAt endSequence).init).1 = _ from hrun]
    rcases hend with hall | ⟨front, last, hlast, hlastTerminal⟩
    · obtain ⟨now, items, rest, hframes, hcase⟩ := replayFrames_selected h hall
      refine ⟨now, Or.inr ⟨closedAt, ?_⟩⟩
      rcases hcase with ⟨-, hfalse⟩ | ⟨-, hfalse⟩ | ⟨hrest, hbody⟩
      · cases hfalse
      · cases hfalse
      · rw [hcompleted hframes hrest hbody]
    · obtain ⟨now, items, rest, hframes, hcase⟩ := replayFrames_selected h hemits
      refine ⟨now, Or.inr ⟨closedAt, ?_⟩⟩
      rcases hcase with ⟨hbody, -⟩ | ⟨hbody, -⟩ | ⟨hrest, hbody⟩
      · rw [hbody] at hlast
        exact absurd hlast.symm (by simp)
      · rw [hbody] at hlast ⊢
        cases front with
        | nil =>
          -- the start event is not terminal
          rw [← (List.cons.inj hlast).1] at hlastTerminal
          cases hlastTerminal
        | cons first front =>
          have hitems : items = front ++ [last] := (List.cons.inj hlast).2
          rw [hitems] at hframes ⊢
          rw [replayBody_of_terminal hframes hlastTerminal]
      · rw [hbody, ← List.cons_append] at hlast
        obtain ⟨-, hcompletion⟩ := List.append_inj' hlast rfl
        rw [← (List.cons.inj hcompletion).1] at hlastTerminal
        cases hlastTerminal

end Frames

/-! ## 5. Over a store that does not change -/

/-- The stored messages that match the topic and lie between both ends of the replay, in order. -/
def requestedMessages (state : BackendState) (pattern : List String) (startAt : StartAt)
    (endAt : EndAt) : List NotificationMessage :=
  sortBySequence (state.stored.filter fun m =>
    matchesWatchPattern m.topic pattern && startAt.admits m && endAt.admits m)

/-- Both ends become bounds that select the requested messages. -/
theorem resolveEndSequence_requested {config : InMemoryConfig} {toLowercase : String → String}
    {state : BackendState} (hreachable : Reachable config toLowercase state)
    (hmono : TimestampsMonotone (· ∈ state.stored)) {topic coarse : String} {pattern : List String}
    (htopic : analyzeWatchPattern topic = .ok (coarse, pattern)) (startAt : StartAt)
    (endAt : EndAt) :
    ∃ endSequence, resolveEndSequence (historyEnd state topic) (firstSequenceAfter state topic)
        endAt = .ok endSequence ∧
      replaySelection state pattern startAt endSequence =
        requestedMessages state pattern startAt endAt := by
  have hvalid := reachable_valid hreachable
  have hhistory : historyEnd state topic = .ok (state.nextSequence - 1) := by
    unfold historyEnd
    rw [htopic]
    rfl
  have hfirst : firstSequenceAfter state topic =
      fun at_ => .ok (firstAfter (matchingMessages state pattern) at_) :=
    funext fun at_ => firstSequenceAfter_eq htopic at_
  have hmatching : TimestampsMonotone (· ∈ matchingMessages state pattern) := by
    intro x y hx hy
    exact hmono x y (matchingMessages_stored hx).1 (matchingMessages_stored hy).1
  obtain ⟨endSequence, hresolve, -, hspec⟩ :=
    resolveEndSequence_spec hmatching (state.nextSequence - 1) endAt
  refine ⟨endSequence, by rw [hhistory, hfirst]; exact hresolve, ?_⟩
  rw [replaySelection, requestedMessages]
  congr 1
  apply List.filter_congr
  intro m hm
  cases hmatch : matchesWatchPattern m.topic pattern with
  | false => rfl
  | true =>
    have hbelow := hvalid.below m hm
    have hin := hspec m (List.mem_filter.mpr ⟨hm, hmatch⟩)
      (reachable_positive hreachable m hm) (hvalid.stamped m hm)
    have hend : decide (m.sequence ≤ endSequence) = endAt.admits m := by
      rw [Bool.eq_iff_iff, decide_eq_true_eq, hin]
      constructor
      · exact fun h => h.2
      · exact fun h => ⟨by omega, h⟩
    rw [hend]

/-- Over a store that does not change, a replay runs through the body of the requested messages. -/
theorem replayOnlyStream_requested {config : InMemoryConfig} {toLowercase : String → String}
    {state : BackendState} (hreachable : Reachable config toLowercase state)
    (hmono : TimestampsMonotone (· ∈ state.stored)) (setup : StreamSetup) {coarse : String}
    {pattern : List String} (htopic : analyzeWatchPattern setup.topic = .ok (coarse, pattern))
    (hsize : 0 < setup.settings.replayBatchSize) (startAt : StartAt) (endAt : EndAt) :
    ∃ endSequence, resolveEndSequence (historyEnd state setup.topic)
        (firstSequenceAfter state setup.topic) endAt = .ok endSequence ∧
      ∀ schedule : List (SelectPoll SourcePoll),
        (∀ poll ∈ schedule, poll.Undisturbed (getMessagesBatch state)) →
        ∃ now, ((setup.createReplayOnlyStream startAt endAt endSequence).run schedule
            (setup.createReplayOnlyStream startAt endAt endSequence).init).1 <+:
          setup.replayBody startAt endAt endSequence
            (requestedMessages state pattern startAt endAt) now ∨
          ∃ closedAt, ((setup.createReplayOnlyStream startAt endAt endSequence).run schedule
              (setup.createReplayOnlyStream startAt endAt endSequence).init).1 =
            setup.replayBody startAt endAt endSequence
                (requestedMessages state pattern startAt endAt) now ++
              [.close setup.topic .endOfStream closedAt setup.request.requestId] := by
  obtain ⟨endSequence, hresolve, hselection⟩ :=
    resolveEndSequence_requested hreachable hmono htopic startAt endAt
  refine ⟨endSequence, hresolve, fun schedule hschedule => ?_⟩
  have hselects : Selects (getMessagesBatch state)
      (replayParams setup.topic setup.settings.replayBatchSize startAt endSequence)
      (requestedMessages state pattern startAt endAt) := by
    refine ⟨state.stored.length + 2 + 0, ?_⟩
    rw [← hselection]
    exact collectBatches_eq_replaySelection state (reachable_valid hreachable) setup.topic coarse
      pattern htopic startAt endSequence _ hsize (fun _ _ => hmono) 0
  exact replayOnlyStream_selected hselects hschedule

end AvisoServer
