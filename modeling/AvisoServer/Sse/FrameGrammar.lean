import AvisoServer.Sse.Streams

/-!
# The frame grammar of a stream

Whatever order the sources and the stop signals become ready in, a stream starts with its start
frame, has its history before the completion and its live notifications after it, and ends with one
close frame, which is all that follows a terminal replay frame.
-/

namespace AvisoServer

open PollStream

/-! ## 1. Kinds of frames and of streams -/

/-- Where a frame comes from; the frames of the historical stream are of one kind. -/
inductive FrameKind where
  | connectionEstablished
  | replayStarted
  | historical
  | replayCompleted
  | live
  | heartbeat
  | close
  deriving DecidableEq, Repr

def StreamFrame.frameKind : StreamFrame → FrameKind
  | .rendered .. => .historical
  | .notification _ .replay => .historical
  | .notification _ .live => .live
  | .control (.connectionEstablished ..) => .connectionEstablished
  | .control (.replayStarted ..) => .replayStarted
  | .control (.replayCompleted ..) => .replayCompleted
  | .control (.replayLimitReached ..) => .historical
  | .heartbeat .. => .heartbeat
  | .error .. => .historical
  | .replayFailed .. => .historical
  | .close .. => .close

inductive StreamKind where
  | live
  | historicalThenLive
  | replayOnly
  deriving DecidableEq, Repr

def StreamKind.hasHistory : StreamKind → Bool
  | .live => false
  | .historicalThenLive => true
  | .replayOnly => true

/-- The kind of the frame that a stream starts with. -/
def StreamKind.start : StreamKind → FrameKind
  | .live => .connectionEstablished
  | .historicalThenLive => .replayStarted
  | .replayOnly => .replayStarted

/-! ## 2. The grammar -/

/-- The frames of a run, which may have ended. -/
structure FrameGrammar (kind : StreamKind) (frames : List StreamFrame) (ended : Bool) : Prop where
  closed : ended = true → ∃ body close, frames = body ++ [close] ∧ close.frameKind = .close
  closeLast : ∀ before close after, frames = before ++ close :: after →
    close.frameKind = .close → after = []
  startFirst : ∀ frame ∈ frames, frame.frameKind ≠ .close →
    ∃ start rest, frames = start :: rest ∧ start.frameKind = kind.start
  heartbeats : Preceded (fun frame => frame.frameKind = .heartbeat)
    (fun frame => frame.frameKind = kind.start) frames
  historical : ∀ before completed after, frames = before ++ completed :: after →
    completed.frameKind = .replayCompleted → ∀ frame ∈ after, frame.frameKind ≠ .historical
  live : kind.hasHistory = true → Preceded (fun frame => frame.frameKind = .live)
    (fun frame => frame.frameKind = .replayCompleted) frames
  noHistory : kind.hasHistory = false →
    ∀ frame ∈ frames, frame.frameKind ≠ .historical ∧ frame.frameKind ≠ .replayCompleted
  terminal : ∀ before terminal after, frames = before ++ terminal :: after →
    terminal.isReplayTerminal = true → ∀ frame ∈ after, frame.frameKind = .close

/-- Every run of the stream follows the grammar, and a terminal replay frame is followed by the
close frame at the next poll. -/
structure FollowsGrammar {σ : Type} (kind : StreamKind)
    (stream : PollStream σ (SelectPoll SourcePoll) StreamFrame) : Prop where
  frames : ∀ schedule, FrameGrammar kind (stream.run schedule stream.init).1
    (stream.run schedule stream.init).2.isNone
  closes : ∀ schedule next before terminal,
    (stream.run schedule stream.init).1 = before ++ [terminal] →
      terminal.isReplayTerminal = true →
        ∃ close, (stream.run (schedule ++ [next]) stream.init).1 = before ++ [terminal, close] ∧
          close.frameKind = .close

/-! ## 3. Frames of the sources -/

theorem frameKind_of_isReplayTerminal {frame : StreamFrame} (h : frame.isReplayTerminal = true) :
    frame.frameKind = .historical := by
  cases frame with
  | control event =>
    cases event with
    | replayLimitReached => rfl
    | connectionEstablished => cases h
    | replayStarted => cases h
    | replayCompleted => cases h
  | replayFailed => rfl
  | rendered => cases h
  | notification => cases h
  | heartbeat => cases h
  | error => cases h
  | close => cases h

theorem StreamKind.start_ne (kind : StreamKind) :
    kind.start ≠ .historical ∧ kind.start ≠ .replayCompleted ∧ kind.start ≠ .live ∧
      kind.start ≠ .heartbeat ∧ kind.start ≠ .close := by
  cases kind <;> decide

theorem batchFrames_historical (request : ReplayRequest) (topic : String) (now : DateTime)
    (messages : List NotificationMessage) (delivered : Nat) :
    ∀ frame ∈ (batchFrames request topic now messages delivered).frames,
      frame.frameKind = .historical := by
  induction messages generalizing delivered with
  | nil => exact fun frame hframe => absurd hframe List.not_mem_nil
  | cons message rest ih =>
    have hprepend : ∀ (first : StreamFrame) (delivered : Nat), first.frameKind = .historical →
        ∀ frame ∈ (BatchFrames.prepend [first]
          (batchFrames request topic now rest delivered)).frames,
          frame.frameKind = .historical := by
      intro first delivered hfirst frame hframe
      rcases List.mem_cons.mp hframe with rfl | hframe
      · exact hfirst
      · exact ih delivered frame hframe
    rw [batchFrames]
    split
    · split
      · exact hprepend _ _ rfl
      · split
        · exact hprepend _ _ rfl
        · split
          · intro frame hframe
            rw [List.mem_singleton.mp hframe]
            rfl
          · exact hprepend _ _ rfl
    · exact ih delivered

theorem replayStep_historical (request : ReplayRequest) (now : DateTime)
    (answer : Result BatchResult) (state : ReplayState) :
    ∀ frame ∈ (replayStep request now answer state).2, frame.frameKind = .historical := by
  cases answer with
  | ok batch => exact batchFrames_historical _ _ _ _ _
  | error e =>
    intro frame hframe
    rw [List.mem_singleton.mp hframe]
    rfl

theorem pollHistory_historical (request : ReplayRequest)
    (fetches : List (DateTime × (BatchParams → Result BatchResult))) (st : HistoryState)
    (hst : ∀ frame ∈ st.frames, frame.frameKind = .historical) :
    (∀ frame ∈ (pollHistory request fetches st).2.frames, frame.frameKind = .historical) ∧
      ∀ frame ∈ (pollHistory request fetches st).1.items, frame.frameKind = .historical := by
  fun_induction pollHistory request fetches st with
  | case1 fetches replay frame rest =>
    refine ⟨fun f hf => hst f (List.mem_cons_of_mem _ hf), fun f hf => ?_⟩
    rw [List.mem_singleton.mp hf]
    exact hst frame List.mem_cons_self
  | case2 replay =>
    refine ⟨hst, fun f hf => ?_⟩
    split at hf <;> exact absurd hf List.not_mem_nil
  | case3 now fetch fetches replay hmore step ih =>
    exact ih (replayStep_historical request now _ replay)
  | case4 now fetch fetches replay hdone => exact ⟨hst, fun f hf => absurd hf List.not_mem_nil⟩

theorem historicalReplayStream_frames {request : ReplayRequest} {params : BatchParams}
    {st : HistoryState} {items : List StreamFrame} {ended : Bool}
    (h : (createHistoricalReplayStream request params).Emits st items ended)
    (hst : ∀ frame ∈ st.frames, frame.frameKind = .historical) :
    ∀ frame ∈ items, frame.frameKind = .historical := by
  refine h.forall_mem (fun st => ∀ frame ∈ st.frames, frame.frameKind = .historical) _ ?_ hst
  intro e st r st' hst hpoll
  simp only [createHistoricalReplayStream] at hpoll
  split at hpoll
  · obtain ⟨hframes, hitems⟩ := pollHistory_historical request e.fetches st hst
    rw [hpoll] at hframes hitems
    refine ⟨hframes, ?_⟩
    rintro frame rfl
    exact hitems frame (List.mem_singleton_self _)
  · cases hpoll
    refine ⟨hst, ?_⟩
    intro frame hframe
    cases hframe

theorem liveNotificationStream_frames {keep : NotificationMessage → Bool}
    {items : List StreamFrame} {ended : Bool}
    (h : (createLiveNotificationStream keep).Emits () items ended) :
    ∀ frame ∈ items, frame.frameKind = .live := by
  have hlive : ∀ received frame, pollLive keep received = .ready (some frame) →
      frame.frameKind = .live := by
    intro received frame hpoll
    fun_induction pollLive keep received with
    | case1 => cases hpoll
    | case2 => cases hpoll
    | case3 message received hkeep =>
      cases hpoll
      rfl
    | case4 message received hkeep ih => exact ih hpoll
  refine h.forall_mem (fun _ => True) _ ?_ trivial
  intro e st r st' _ hpoll
  refine ⟨trivial, ?_⟩
  rintro frame rfl
  exact hlive _ frame (congrArg Prod.fst hpoll)

theorem heartbeatStream_frames {topic : String} {items : List StreamFrame} {ended : Bool}
    (h : (createHeartbeatStream topic).Emits () items ended) :
    ∀ frame ∈ items, frame.frameKind = .heartbeat := by
  refine h.forall_mem (fun _ => True) _ ?_ trivial
  intro e st r st' _ hpoll
  refine ⟨trivial, ?_⟩
  rintro frame rfl
  simp only [createHeartbeatStream] at hpoll
  split at hpoll <;> cases hpoll
  rfl

/-! ## 4. Streams before their lifecycle -/

/-- What the lifecycle needs of the frames it is given. -/
structure BodyGrammar (kind : StreamKind) (items : List StreamFrame) : Prop where
  open_ : ∀ frame ∈ items, frame.frameKind ≠ .close
  startFirst : items = [] ∨ ∃ start rest, items = start :: rest ∧ start.frameKind = kind.start
  historical : items.Pairwise fun completed frame =>
    completed.frameKind = .replayCompleted → frame.frameKind ≠ .historical
  live : kind.hasHistory = true → Preceded (fun frame => frame.frameKind = .live)
    (fun frame => frame.frameKind = .replayCompleted) items
  noHistory : kind.hasHistory = false →
    ∀ frame ∈ items, frame.frameKind ≠ .historical ∧ frame.frameKind ≠ .replayCompleted

theorem BodyGrammar.nil (kind : StreamKind) : BodyGrammar kind [] where
  open_ := nofun
  startFirst := .inl rfl
  historical := List.Pairwise.nil
  live := fun _ => .of_forall (List.forall_mem_nil _)
  noHistory := fun _ => List.forall_mem_nil _

/-- The start frame, then live notifications and heartbeats in any order. -/
theorem BodyGrammar.of_live {start : StreamFrame} {lives beats rest : List StreamFrame}
    (hstart : start.frameKind = .connectionEstablished)
    (hlives : ∀ frame ∈ lives, frame.frameKind = .live)
    (hbeats : ∀ frame ∈ beats, frame.frameKind = .heartbeat)
    (hrest : Interleave lives beats rest) : BodyGrammar .live (start :: rest) := by
  have hkind : ∀ frame ∈ start :: rest, frame.frameKind = .connectionEstablished ∨
      frame.frameKind = .live ∨ frame.frameKind = .heartbeat := by
    intro frame hframe
    rcases List.mem_cons.mp hframe with rfl | hframe
    · exact .inl hstart
    · exact .inr ((hrest.mem hframe).imp (hlives frame) (hbeats frame))
  have hnone : ∀ frame ∈ start :: rest, frame.frameKind ≠ .historical ∧
      frame.frameKind ≠ .replayCompleted ∧ frame.frameKind ≠ .close := by
    intro frame hframe
    rcases hkind frame hframe with h | h | h <;> rw [h] <;> decide
  exact
    { open_ := fun frame hframe => (hnone frame hframe).2.2
      startFirst := .inr ⟨start, rest, rfl, hstart⟩
      historical := List.pairwise_of_forall_mem_list fun completed _ frame hframe _ =>
        (hnone frame hframe).1
      live := nofun
      noHistory := fun _ frame hframe =>
        ⟨(hnone frame hframe).1, (hnone frame hframe).2.1⟩ }

/-- The start frame, then history, its completion and live notifications, in this order and with
heartbeats in between. -/
theorem BodyGrammar.of_history {kind : StreamKind} {start : StreamFrame}
    {history tail beats rest : List StreamFrame} (hkind : kind.hasHistory = true)
    (hstart : start.frameKind = kind.start)
    (hhistory : ∀ frame ∈ history, frame.frameKind = .historical)
    (htail : tail = [] ∨ ∃ completed lives, tail = completed :: lives ∧
      completed.frameKind = .replayCompleted ∧ ∀ frame ∈ lives, frame.frameKind = .live)
    (hbeats : ∀ frame ∈ beats, frame.frameKind = .heartbeat)
    (hrest : Interleave (history ++ tail) beats rest) : BodyGrammar kind (start :: rest) := by
  have htailKind : ∀ frame ∈ tail,
      frame.frameKind = .replayCompleted ∨ frame.frameKind = .live := by
    intro frame hframe
    rcases htail with rfl | ⟨completed, lives, rfl, hcompleted, hlives⟩
    · exact absurd hframe List.not_mem_nil
    · rcases List.mem_cons.mp hframe with rfl | hframe
      · exact .inl hcompleted
      · exact .inr (hlives frame hframe)
  -- without the heartbeats, history comes before its completion and that before the live frames
  have hsourceKind : ∀ frame ∈ history ++ tail, frame.frameKind = .historical ∨
      frame.frameKind = .replayCompleted ∨ frame.frameKind = .live := fun frame hframe =>
    (List.mem_append.mp hframe).imp (hhistory frame) (htailKind frame)
  have horder : (history ++ tail).Pairwise fun completed frame =>
      completed.frameKind = .replayCompleted → frame.frameKind ≠ .historical := by
    refine List.pairwise_append.mpr ⟨?_, ?_, ?_⟩
    · refine List.pairwise_of_forall_mem_list fun f hf g _ h => ?_
      rw [hhistory f hf] at h
      cases h
    · refine List.pairwise_of_forall_mem_list fun f _ g hg _ => ?_
      rcases htailKind g hg with h | h <;> rw [h] <;> decide
    · intro f hf g _ h
      rw [hhistory f hf] at h
      cases h
  have hpreceded : Preceded (fun frame => frame.frameKind = .live)
      (fun frame => frame.frameKind = .replayCompleted) (history ++ tail) := by
    refine Preceded.append_left ?_ history fun frame hframe => by rw [hhistory frame hframe]; decide
    rcases htail with rfl | ⟨completed, lives, rfl, hcompleted, -⟩
    · exact .of_forall fun frame hframe => absurd hframe List.not_mem_nil
    · exact .cons_of hcompleted (by rw [hcompleted]; decide)
  obtain ⟨hstartHistorical, hstartCompleted, hstartLive, -, hstartClose⟩ := kind.start_ne
  refine
    { open_ := fun frame hframe => ?_
      startFirst := .inr ⟨start, rest, rfl, hstart⟩
      historical := List.pairwise_cons.mpr ⟨fun frame _ h => ?_, ?_⟩
      live := fun _ => ?_
      noHistory := fun h => by rw [hkind] at h; cases h }
  · rcases List.mem_cons.mp hframe with rfl | hframe
    · rw [hstart]
      exact hstartClose
    · rcases hrest.mem hframe with hframe | hframe
      · rcases hsourceKind frame hframe with h | h | h <;> rw [h] <;> decide
      · rw [hbeats frame hframe]
        decide
  · rw [hstart] at h
    exact absurd h hstartCompleted
  · refine hrest.pairwise horder ?_ fun f hf g hg => ⟨fun _ => ?_, fun h => ?_⟩
    · refine List.pairwise_of_forall_mem_list fun f hf g _ h => ?_
      rw [hbeats f hf] at h
      cases h
    · rw [hbeats g hg]
      decide
    · rw [hbeats g hg] at h
      cases h
  · refine (hpreceded.interleave ?_ hrest).append_left [start] ?_
    · intro frame hframe
      rw [hbeats frame hframe]
      decide
    · intro frame hframe
      rw [List.mem_singleton.mp hframe, hstart]
      exact hstartLive

section Bodies

variable (setup : StreamSetup)

theorem liveFrames_grammar {items : List StreamFrame} {ended : Bool}
    (h : setup.liveFrames.Emits setup.liveFrames.init items ended) : BodyGrammar .live items := by
  rcases h.once_chain with ⟨rfl, -⟩ | ⟨rest, rfl, hrest⟩
  · exact .nil .live
  · obtain ⟨lives, beats, ⟨_, hlives⟩, ⟨_, hbeats⟩, hinter⟩ := hrest.merge
    exact .of_live rfl (liveNotificationStream_frames hlives) (heartbeatStream_frames hbeats) hinter

/-- A trace of the history followed by another stream. -/
theorem historicalStream_chain {σ : Type} {B : PollStream σ SourcePoll StreamFrame}
    {startAt : StartAt} {endSequence : Nat} {items : List StreamFrame} {ended : Bool}
    (h : (chain (setup.historicalStream startAt endSequence) B).Emits
      (chain (setup.historicalStream startAt endSequence) B).init items ended) :
    ∃ history tail ended', items = history ++ tail ∧
      (∀ frame ∈ history, frame.frameKind = .historical) ∧ B.Emits B.init tail ended' := by
  rcases h.chain rfl with ⟨hopen, -⟩ | ⟨first, second, rfl, hfirst, hsecond⟩
  · exact ⟨items, [], false, (List.append_nil items).symm,
      historicalReplayStream_frames hopen (List.forall_mem_nil _), .stop _⟩
  · exact ⟨first, second, ended, rfl,
      historicalReplayStream_frames hfirst (List.forall_mem_nil _), hsecond⟩

theorem historicalThenLiveFrames_grammar {startAt : StartAt} {subscription : Subscription}
    {items : List StreamFrame} {ended : Bool}
    (h : (setup.historicalThenLiveFrames startAt subscription).Emits
      (setup.historicalThenLiveFrames startAt subscription).init items ended) :
    BodyGrammar .historicalThenLive items := by
  rcases h.once_chain with ⟨rfl, -⟩ | ⟨rest, rfl, hrest⟩
  · exact .nil .historicalThenLive
  · obtain ⟨source, beats, ⟨_, hsource⟩, ⟨_, hbeats⟩, hinter⟩ := hrest.merge
    obtain ⟨history, tail, _, rfl, hhistory, htail⟩ := historicalStream_chain setup hsource
    have hbeats := heartbeatStream_frames hbeats
    rcases htail.once_chain with ⟨rfl, -⟩ | ⟨lives, rfl, hlives⟩
    · exact .of_history rfl rfl hhistory (.inl rfl) hbeats hinter
    · exact .of_history rfl rfl hhistory
        (.inr ⟨_, lives, rfl, rfl, liveNotificationStream_frames hlives⟩) hbeats hinter

theorem replayFrames_grammar {startAt : StartAt} {endAt : EndAt} {endSequence : Nat}
    {items : List StreamFrame} {ended : Bool}
    (h : (setup.replayFrames startAt endAt endSequence).Emits
      (setup.replayFrames startAt endAt endSequence).init items ended) :
    BodyGrammar .replayOnly items := by
  rcases h.chain rfl with ⟨hopen, -⟩ | ⟨first, second, rfl, hfirst, hsecond⟩
  · rcases hopen.once_chain with ⟨rfl, -⟩ | ⟨history, rfl, hhistory⟩
    · exact .nil .replayOnly
    · have hhistory := historicalReplayStream_frames hhistory (List.forall_mem_nil _)
      have hinter : Interleave (history ++ []) [] history := by
        rw [List.append_nil]
        exact .refl_left history
      exact .of_history rfl rfl hhistory (.inl rfl) (List.forall_mem_nil _) hinter
  · rcases hfirst.once_chain with ⟨-, hended⟩ | ⟨history, rfl, hhistory⟩
    · cases hended
    · have hhistory := historicalReplayStream_frames hhistory (List.forall_mem_nil _)
      have htail : second = [] ∨ ∃ completed lives, second = completed :: lives ∧
          completed.frameKind = .replayCompleted ∧ ∀ frame ∈ lives, frame.frameKind = .live := by
        rcases hsecond.once with ⟨hnone, -⟩ | hcompleted
        · exact .inl hnone
        · exact .inr ⟨_, [], hcompleted, rfl, List.forall_mem_nil _⟩
      exact .of_history rfl rfl hhistory htail (List.forall_mem_nil _)
        (.refl_left (history ++ second))

end Bodies

/-! ## 5. The lifecycle -/

/-- A trace in which only the last frame can be terminal, followed by the close frame or not yet. -/
theorem FrameGrammar.of_body {kind : StreamKind} {body closing : List StreamFrame} {ended : Bool}
    (h : BodyGrammar kind body)
    (hterminal : body.Pairwise fun frame _ => frame.isReplayTerminal = false)
    (hclosing : (closing = [] ∧ ended = false) ∨
      ∃ close, closing = [close] ∧ close.frameKind = .close) :
    FrameGrammar kind (body ++ closing) ended := by
  have hclose : ∀ frame ∈ closing, frame.frameKind = .close := by
    intro frame hframe
    rcases hclosing with ⟨rfl, -⟩ | ⟨close, rfl, hclose⟩
    · exact absurd hframe List.not_mem_nil
    · exact List.mem_singleton.mp hframe ▸ hclose
  -- there is one closing frame at most
  have hone : ∀ r : StreamFrame → StreamFrame → Prop, closing.Pairwise r := by
    intro r
    rcases hclosing with ⟨rfl, -⟩ | ⟨close, rfl, -⟩
    · exact List.Pairwise.nil
    · exact List.pairwise_singleton r close
  have hfirst : (body ++ closing).Pairwise fun frame _ => frame.frameKind ≠ .close :=
    List.pairwise_append.mpr ⟨List.pairwise_of_forall_mem_list fun f hf _ _ => h.open_ f hf,
      hone _, fun f hf _ _ => h.open_ f hf⟩
  have horder : (body ++ closing).Pairwise fun completed frame =>
      completed.frameKind = .replayCompleted → frame.frameKind ≠ .historical :=
    List.pairwise_append.mpr ⟨h.historical, hone _, fun _ _ g hg _ => by
      rw [hclose g hg]; decide⟩
  have hlast : (body ++ closing).Pairwise fun terminal frame =>
      terminal.isReplayTerminal = true → frame.frameKind = .close :=
    List.pairwise_append.mpr ⟨hterminal.imp fun hf h => absurd h (by rw [hf]; decide), hone _,
      fun _ _ g hg _ => hclose g hg⟩
  refine
    { closed := fun hended => ?_
      closeLast := fun before close after heq hkind => ?_
      startFirst := fun frame hframe hkind => ?_
      heartbeats := ?_
      historical := fun before completed after heq hkind frame hframe =>
        pairwise_after horder heq frame hframe hkind
      live := fun hkind => (h.live hkind).append_right closing fun frame hframe => by
        rw [hclose frame hframe]; decide
      noHistory := fun hkind frame hframe => ?_
      terminal := fun before terminal after heq hkind frame hframe =>
        pairwise_after hlast heq frame hframe hkind }
  · rcases hclosing with ⟨-, hopen⟩ | ⟨close, rfl, hclose⟩
    · rw [hopen] at hended
      cases hended
    · exact ⟨body, close, rfl, hclose close List.mem_cons_self⟩
  · cases after with
    | nil => rfl
    | cons frame after =>
      exact absurd hkind (pairwise_after hfirst heq frame List.mem_cons_self)
  · rcases List.mem_append.mp hframe with hframe | hframe
    · rcases h.startFirst with rfl | ⟨start, rest, rfl, hstart⟩
      · exact absurd hframe List.not_mem_nil
      · exact ⟨start, rest ++ closing, rfl, hstart⟩
    · exact absurd (hclose frame hframe) hkind
  · refine Preceded.append_right ?_ closing fun frame hframe => by rw [hclose frame hframe]; decide
    rcases h.startFirst with rfl | ⟨start, rest, rfl, hstart⟩
    · exact .of_forall (List.forall_mem_nil _)
    · exact .cons_of hstart (by rw [hstart]; exact kind.start_ne.2.2.2.1)
  · rcases List.mem_append.mp hframe with hframe | hframe
    · exact h.noHistory hkind frame hframe
    · rw [hclose frame hframe]
      decide

section Lifecycle

variable {σ : Type} {kind : StreamKind} {stream : PollStream σ SourcePoll StreamFrame}
  (topic requestId : String) (maxDuration : Option Nat)

theorem lifecycle_frames
    (hbody : ∀ items ended, stream.Emits stream.init items ended → BodyGrammar kind items)
    (schedule : List (SelectPoll SourcePoll)) :
    FrameGrammar kind
      ((applyStreamLifecycle stream topic maxDuration requestId).run schedule
        (applyStreamLifecycle stream topic maxDuration requestId).init).1
      ((applyStreamLifecycle stream topic maxDuration requestId).run schedule
        (applyStreamLifecycle stream topic maxDuration requestId).init).2.isNone := by
  have hgraceful : ∀ items ended,
      (graceful stream maxDuration).Emits (graceful stream maxDuration).init items ended →
        BodyGrammar kind items ∧ items.Pairwise fun frame _ => frame.isReplayTerminal = false := by
    intro items ended h
    obtain ⟨_, huntil⟩ := h.takeUntil
    obtain ⟨⟨_, hstream⟩, hterminal⟩ := huntil.comap.stopAfter rfl
    exact ⟨hbody _ _ hstream, hterminal⟩
  have hrun := emits_run (applyStreamLifecycle stream topic maxDuration requestId) schedule
    (applyStreamLifecycle stream topic maxDuration requestId).init
  rcases hrun.endWith rfl with ⟨hopen, hended⟩ | ⟨body, poll, st, hitems, hended⟩
  · obtain ⟨hitems, hterminal⟩ := hgraceful _ _ hopen
    have hframes := FrameGrammar.of_body hitems hterminal (.inl ⟨rfl, hended⟩)
    rwa [List.append_nil] at hframes
  · obtain ⟨hbody, hterminal⟩ := hgraceful _ _ hended
    rw [hitems]
    exact .of_body hbody hterminal (.inr ⟨_, rfl, rfl⟩)

/-- After a terminal replay frame every poll ends the graceful part. -/
theorem graceful_poll_stopped (poll : SelectPoll SourcePoll) (s : σ) :
    ∃ st, (graceful stream maxDuration).poll poll (.waitingFor Nat (s, true)) =
      (.ready none, st) := by
  cases hstop : stopFuture maxDuration poll with
  | some code => exact ⟨_, takeUntil_poll_stop hstop _⟩
  | none =>
    have hstopped : (comap (fun p : SelectPoll SourcePoll => p.source)
        (untilReplayTerminal stream)).poll poll (s, true) = (.ready none, (s, true)) := rfl
    exact ⟨_, takeUntil_poll_end hstop hstopped⟩

theorem lifecycle_followsGrammar
    (hbody : ∀ items ended, stream.Emits stream.init items ended → BodyGrammar kind items) :
    FollowsGrammar kind (applyStreamLifecycle stream topic maxDuration requestId) where
  frames := lifecycle_frames topic requestId maxDuration hbody
  closes := by
    intro schedule next before terminal hitems hterminal
    have hopen : ∀ body close, before ++ [terminal] = body ++ [close] →
        close.frameKind ≠ .close := by
      intro body close heq
      rw [← (List.cons.inj (List.append_inj' heq rfl).2).1,
        frameKind_of_isReplayTerminal hterminal]
      decide
    rcases hrun : (applyStreamLifecycle stream topic maxDuration requestId).run schedule
      (applyStreamLifecycle stream topic maxDuration requestId).init with ⟨items, _ | _ | st⟩ <;>
      rw [hrun] at hitems <;> subst hitems
    · obtain ⟨body, close, heq, hclose⟩ :=
        (lifecycle_frames topic requestId maxDuration hbody schedule).closed (by rw [hrun]; rfl)
      rw [hrun] at heq
      exact absurd hclose (hopen body close heq)
    · -- a finished stream has already emitted its close frame
      have hnext := run_append_of_open hrun [next]
      rw [applyStreamLifecycle, endWith_run_finished, List.append_nil] at hnext
      obtain ⟨body, close, heq, hclose⟩ :=
        (lifecycle_frames topic requestId maxDuration hbody (schedule ++ [next])).closed
          (by rw [applyStreamLifecycle, hnext]; rfl)
      rw [applyStreamLifecycle, hnext] at heq
      exact absurd hclose (hopen body close heq)
    · obtain ⟨⟨-, huntil⟩, hst⟩ := lifecycle_open_iff.mp hrun
      have hstopped : st.stream = (st.stream.1, true) := by
        have h := stopAfter_stopped huntil
        rw [List.getLast?_concat] at h
        exact Prod.ext rfl (h.trans hterminal)
      obtain ⟨st', hpoll⟩ := graceful_poll_stopped maxDuration next st.stream.1
      rw [← hstopped, ← hst] at hpoll
      have hclose : (applyStreamLifecycle stream topic maxDuration requestId).poll next (some st) =
          (.ready (some (closeFrame topic requestId next st')), none) := endWith_poll_last hpoll
      refine ⟨closeFrame topic requestId next st', ?_, rfl⟩
      rw [run_append_of_open hrun, run_cons_item _ [] hclose, List.append_assoc]
      rfl

end Lifecycle

/-- Every run of each of the three streams follows the frame grammar. -/
theorem frameGrammar (setup : StreamSetup) (startAt : StartAt) (subscription : Subscription)
    (endAt : EndAt) (endSequence : Nat) :
    FollowsGrammar .live setup.createWatchSseStream ∧
      FollowsGrammar .historicalThenLive
        (setup.createHistoricalThenLiveStream startAt subscription) ∧
      FollowsGrammar .replayOnly (setup.createReplayOnlyStream startAt endAt endSequence) :=
  ⟨lifecycle_followsGrammar _ _ _ fun _ _ => liveFrames_grammar setup,
    lifecycle_followsGrammar _ _ _ fun _ _ => historicalThenLiveFrames_grammar setup,
    lifecycle_followsGrammar _ _ _ fun _ _ => replayFrames_grammar setup⟩

end AvisoServer
