import AvisoServer.Lib.Resume
import AvisoServer.Sse.Watch

/-!
# The replay half of a stream

A stream that replays history before it goes live runs the same unfold over every backend. What it
delivers depends on the answers of the backend only through the facts that the answers are pages of
the stored messages; errors and the quota may end it early.
-/

namespace AvisoServer

/-! ## 1. The half and its steps -/

/-- The state of the unfold, with its frames and the messages of all fetched batches so far. -/
structure ReplayHalf where
  replay : ReplayState
  frames : List StreamFrame
  fetched : List NotificationMessage

def ReplayHalf.initial (params : BatchParams) : ReplayHalf where
  replay := .initial params
  frames := []
  fetched := []

/-- One step of the unfold, given the answer of the backend. -/
def ReplayHalf.after (request : ReplayRequest) (now : DateTime) (answer : Result BatchResult)
    (half : ReplayHalf) : ReplayHalf where
  replay := (replayStep request now answer half.replay).1
  frames := half.frames ++ (replayStep request now answer half.replay).2
  fetched := half.fetched ++ batchMessages answer

/-- The historical stream is over and what is chained after it may be read. -/
def ReplayHalf.Ended (half : ReplayHalf) : Prop :=
  half.replay.cursor.hasMore = false ∧ ∀ frame ∈ half.frames, frame.isReplayTerminal = false

/-- The messages whose notifications were sent. -/
def ReplayHalf.notifications (request : ReplayRequest) (half : ReplayHalf) :
    List NotificationMessage :=
  (half.fetched.filter request.delivers).take request.maxAllowed

def ReplayHalf.reader (half : ReplayHalf) : Paging.Reader NotificationMessage StartAt :=
  half.replay.cursor.reader half.fetched

theorem keep_of_delivers {request : ReplayRequest} {m : NotificationMessage}
    (h : request.delivers m = true) : request.keep m = true := by
  rw [ReplayRequest.delivers, Bool.and_eq_true] at h
  exact h.1

/-! ## 2. Frames of one batch -/

section Batch

variable (request : ReplayRequest) (topic : String) (now : DateTime)

theorem deliveredFrame_open (message : NotificationMessage) :
    (request.deliveredFrame message).isReplayTerminal = false := by
  cases hrender : request.render message <;>
    simp [ReplayRequest.deliveredFrame, hrender, StreamFrame.isReplayTerminal]

theorem skippedFrames_open (message : NotificationMessage) :
    ∀ frame ∈ skippedFrames request topic message, frame.isReplayTerminal = false := by
  intro frame hframe
  by_cases hkeep : request.keep message = true
  · cases hrender : request.render message <;>
      simp only [skippedFrames, if_pos hkeep, hrender, List.mem_singleton] at hframe <;>
      rw [hframe] <;> rfl
  · rw [skippedFrames, if_neg hkeep] at hframe
    cases hframe

/-- Only the quota ends a stream in the middle of a batch. -/
theorem batchFrames_open (messages : List NotificationMessage) (delivered : Nat)
    (h : (batchFrames request topic now messages delivered).stopped = false) :
    ∀ frame ∈ (batchFrames request topic now messages delivered).frames,
      frame.isReplayTerminal = false := by
  induction messages generalizing delivered with
  | nil =>
    intro frame hframe
    cases hframe
  | cons message rest ih =>
    cases hdelivers : request.delivers message with
    | true =>
      rw [batchFrames_of_delivers _ _ _ _ _ _ hdelivers] at h ⊢
      by_cases hfull : delivered = request.maxAllowed
      · rw [if_pos hfull] at h
        cases h
      · rw [if_neg hfull] at h ⊢
        intro frame hframe
        rcases List.mem_append.mp hframe with hframe | hframe
        · rw [List.mem_singleton.mp hframe]
          exact deliveredFrame_open request message
        · exact ih _ h frame hframe
    | false =>
      rw [batchFrames_of_not_delivers _ _ _ _ _ _ hdelivers] at h ⊢
      intro frame hframe
      rcases List.mem_append.mp hframe with hframe | hframe
      · exact skippedFrames_open request topic message frame hframe
      · exact ih _ h frame hframe

/-- A batch counts the notifications that the quota has room for. -/
theorem batchFrames_delivered (messages : List NotificationMessage) (delivered : Nat)
    (hroom : delivered ≤ request.maxAllowed) :
    (batchFrames request topic now messages delivered).delivered =
      delivered + ((messages.filter request.delivers).take (request.maxAllowed - delivered)).length := by
  induction messages generalizing delivered with
  | nil => simp [batchFrames]
  | cons message rest ih =>
    cases hdelivers : request.delivers message with
    | true =>
      rw [batchFrames_of_delivers _ _ _ _ _ _ hdelivers, List.filter_cons_of_pos hdelivers]
      by_cases hfull : delivered = request.maxAllowed
      · simp [hfull]
      · rw [if_neg hfull, BatchFrames.prepend_delivered, ih _ (by omega)]
        simp only [List.length_take, List.length_cons]
        omega
    | false =>
      rw [batchFrames_of_not_delivers _ _ _ _ _ _ hdelivers, BatchFrames.prepend_delivered,
        ih _ hroom, List.filter_cons_of_neg (by simp [hdelivers])]

/-- The frame with which the quota stops a batch ends the stream. -/
theorem batchFrames_terminal (messages : List NotificationMessage) (delivered : Nat)
    (hroom : delivered ≤ request.maxAllowed)
    (h : (batchFrames request topic now messages delivered).stopped = true) :
    ∃ frame ∈ (batchFrames request topic now messages delivered).frames,
      frame.isReplayTerminal = true := by
  obtain ⟨-, body, -, hframes⟩ := batchFrames_limit request topic now messages delivered hroom
  rw [hframes, if_pos h]
  exact ⟨_, List.mem_append_right _ (List.mem_singleton_self _), rfl⟩

end Batch

/-! ## 3. The invariant -/

/-- What every state of a replay half with these parameters satisfies; `wanted` is what its batches
are taken from. -/
structure ReplayHalf.Inv (request : ReplayRequest) (base : BatchParams)
    (wanted : NotificationMessage → Prop) (half : ReplayHalf) : Prop where
  params : half.replay.cursor.params = base.withStartAt half.replay.cursor.params.startAt
  follows : startScheme.Follows half.reader
  sound : ∀ m ∈ half.fetched, wanted m
  frames : half.frames.filter StreamFrame.isNotification =
    (half.notifications request).map request.deliveredFrame
  delivered : half.replay.delivered = (half.notifications request).length
  /-- a stream that goes on has not been ended -/
  continues : half.replay.cursor.hasMore = true →
    ∀ frame ∈ half.frames, frame.isReplayTerminal = false
  /-- a stream that has not been ended had room for everything -/
  room : (∀ frame ∈ half.frames, frame.isReplayTerminal = false) →
    (half.fetched.filter request.delivers).length ≤ request.maxAllowed

/-- The replay half has fetched the message, or may still be offered it. -/
def ReplayHalf.Reaches (half : ReplayHalf) (m : NotificationMessage) : Prop :=
  m ∈ half.fetched ∨ half.replay.cursor.params.startAt.admits m = true ∧ ¬ half.Ended

section Steps

variable {request : ReplayRequest} {base : BatchParams} {wanted : NotificationMessage → Prop}
  {half : ReplayHalf} {batch : BatchResult} {S raw : NotificationMessage → Prop} {now : DateTime}

theorem ReplayHalf.initial_notifications :
    (ReplayHalf.initial base).notifications request = [] :=
  List.take_nil

theorem ReplayHalf.initial_inv : (ReplayHalf.initial base).Inv request base wanted where
  params := rfl
  follows := startScheme.follows_start base.startAt
  sound := by
    intro m hm
    cases hm
  frames := by
    rw [ReplayHalf.initial_notifications]
    rfl
  delivered := by
    rw [ReplayHalf.initial_notifications]
    rfl
  continues := by
    intro _ frame hframe
    cases hframe
  room := fun _ => Nat.zero_le _

theorem ReplayHalf.initial_reaches {m : NotificationMessage} (h : base.startAt.admits m = true) :
    (ReplayHalf.initial base).Reaches m :=
  Or.inr ⟨h, fun hended => Bool.noConfusion hended.1⟩

/-- Nothing sent is cut off while the stream has not been ended. -/
theorem ReplayHalf.Inv.notifications_of_open (h : half.Inv request base wanted)
    (hopen : ∀ frame ∈ half.frames, frame.isReplayTerminal = false) :
    half.notifications request = half.fetched.filter request.delivers :=
  List.take_of_length_le (h.room hopen)

theorem ReplayHalf.Inv.delivered_le (h : half.Inv request base wanted) :
    half.replay.delivered ≤ request.maxAllowed := by
  rw [h.delivered, ReplayHalf.notifications]
  exact List.length_take_le _ _

/-- A batch that is a page of what is wanted keeps the invariant. -/
theorem ReplayHalf.Inv.after_ok (h : half.Inv request base wanted)
    (hmore : half.replay.cursor.hasMore = true)
    (hserves : startScheme.Serves S half.replay.cursor.params.startAt batch.page)
    (hprog : startScheme.Progress raw half.replay.cursor.params.startAt batch.page)
    (hwanted : ∀ m, S m → wanted m) :
    (half.after request now (.ok batch)).Inv request base wanted := by
  have hopen := h.continues hmore
  have hroom := h.delivered_le
  have hall := h.notifications_of_open hopen
  have hlength : half.replay.delivered = (half.fetched.filter request.delivers).length := by
    rw [h.delivered, hall]
  set topic := (half.replay.cursor.advance batch).params.topic with htopic
  -- the quota leaves room for what the earlier batches did not use
  have hsent : (half.after request now (.ok batch)).notifications request =
      half.notifications request ++
        (batch.messages.filter request.delivers).take
          (request.maxAllowed - half.replay.delivered) := by
    rw [ReplayHalf.notifications, ReplayHalf.after, batchMessages, List.filter_append,
      List.take_append, hlength, ← ReplayHalf.notifications]
  refine ⟨?_, ?_, ?_, ?_, ?_, ?_, ?_⟩
  · change (half.replay.cursor.advance batch).params =
      base.withStartAt (half.replay.cursor.advance batch).params.startAt
    rw [BatchCursor.advance_params, h.params]
    rfl
  · have hadvance := h.follows.advance startScheme hserves hprog
    rw [ReplayHalf.reader, ← BatchCursor.reader_advance] at hadvance
    exact ⟨hadvance.increasing, hadvance.fresh⟩
  · intro m hm
    rcases List.mem_append.mp hm with hm | hm
    · exact h.sound m hm
    · exact hwanted m (hserves.sound m hm).1
  · rw [hsent, List.map_append, ← h.frames]
    change (half.frames ++ (batchFrames request topic now batch.messages _).frames).filter _ = _
    rw [List.filter_append, batchFrames_notifications request topic now batch.messages _ hroom]
  · rw [hsent, List.length_append, ← h.delivered]
    exact batchFrames_delivered request topic now batch.messages _ hroom
  · intro hmore' frame hframe
    have hstopped : (batchFrames request topic now batch.messages
        half.replay.delivered).stopped = false := by
      have : (batch.hasMore && !(batchFrames request topic now batch.messages
        half.replay.delivered).stopped) = true := hmore'
      simpa using (Bool.and_eq_true_iff.mp this).2
    rcases List.mem_append.mp hframe with hframe | hframe
    · exact hopen frame hframe
    · exact batchFrames_open request topic now batch.messages _ hstopped frame hframe
  · intro hopen'
    -- had the quota stopped the batch, its frame would have ended the stream
    have hstopped : (batchFrames request topic now batch.messages
        half.replay.delivered).stopped = false := by
      by_contra hstopped
      obtain ⟨frame, hframe, hterminal⟩ := batchFrames_terminal request topic now batch.messages
        half.replay.delivered hroom (by simpa using hstopped)
      have := hopen' frame (List.mem_append_right _ hframe)
      rw [hterminal] at this
      cases this
    rw [(batchFrames_limit request topic now batch.messages half.replay.delivered hroom).1,
      decide_eq_false_iff_not] at hstopped
    change ((half.fetched ++ batch.messages).filter request.delivers).length ≤ request.maxAllowed
    rw [List.filter_append, List.length_append]
    omega

theorem ReplayHalf.Inv.after_error (h : half.Inv request base wanted) (e : Error) :
    (half.after request now (.error e)).Inv request base wanted := by
  have hfetched : (half.after request now (.error e)).fetched = half.fetched :=
    List.append_nil _
  have hsent : (half.after request now (.error e)).notifications request =
      half.notifications request := by
    rw [ReplayHalf.notifications, hfetched, ← ReplayHalf.notifications]
  refine ⟨h.params, ?_, ?_, ?_, ?_, ?_, ?_⟩
  · refine ⟨?_, ?_⟩
    · change Paging.Increasing startScheme.key (half.after request now (.error e)).fetched
      rw [hfetched]
      exact h.follows.increasing
    · change ∀ x ∈ (half.after request now (.error e)).fetched, _
      rw [hfetched]
      exact h.follows.fresh
  · rw [hfetched]
    exact h.sound
  · rw [hsent, ← h.frames]
    change (half.frames ++ [_]).filter _ = _
    rw [List.filter_append, List.filter_cons_of_neg (by simp [StreamFrame.isNotification]),
      List.filter_nil, List.append_nil]
  · rw [hsent]
    exact h.delivered
  · intro hmore
    cases hmore
  · intro hopen
    have := hopen _ (List.mem_append_right _ (List.mem_singleton_self _))
    cases this

/-- A message that is offered as long as the cursor admits it stays within reach. -/
theorem ReplayHalf.Reaches.after_ok {m : NotificationMessage} (h : half.Reaches m)
    (hinv : half.Inv request base wanted)
    (hserves : startScheme.Serves S half.replay.cursor.params.startAt batch.page)
    (hoffered : half.replay.cursor.params.startAt.admits m = true → ¬ half.Ended → S m) :
    (half.after request now (.ok batch)).Reaches m := by
  rcases h with h | ⟨hadmits, hopen⟩
  · exact Or.inl (List.mem_append_left _ h)
  rcases hserves.complete m (hoffered hadmits hopen) hadmits with hm | ⟨hmore, n, hnext, hn⟩
  · exact Or.inl (List.mem_append_right _ hm)
  · have hmore : batch.hasMore = true := hmore
    have hnext : batch.nextSequence = some n := hnext
    have hroom := hinv.delivered_le
    refine Or.inr ⟨?_, fun hended => ?_⟩
    · change (half.replay.cursor.advance batch).params.startAt.admits m = true
      simp only [BatchCursor.advance, hnext]
      exact (startScheme.admits_resume n m).mpr hn
    · -- the stream goes on after this batch, unless the quota has ended it
      have hended₁ : (batch.hasMore && !(batchFrames request
          (half.replay.cursor.advance batch).params.topic now batch.messages
            half.replay.delivered).stopped) = false := hended.1
      rw [hmore, Bool.true_and, Bool.not_eq_false'] at hended₁
      obtain ⟨frame, hframe, hterminal⟩ := batchFrames_terminal request _ now batch.messages
        half.replay.delivered hroom hended₁
      have := hended.2 frame (List.mem_append_right _ hframe)
      rw [hterminal] at this
      cases this

theorem ReplayHalf.Reaches.after_error {m : NotificationMessage} (h : half.Reaches m) (e : Error) :
    (half.after request now (.error e)).Reaches m := by
  rcases h with h | ⟨hadmits, -⟩
  · exact Or.inl (List.mem_append_left _ h)
  · refine Or.inr ⟨hadmits, fun hended => ?_⟩
    have := hended.2 _ (List.mem_append_right _ (List.mem_singleton_self _))
    cases this

/-! ## 4. No gap below what was sent -/

theorem ReplayHalf.Reaches.fetched_of_le {m d : NotificationMessage} (h : half.Reaches m)
    (hinv : half.Inv request base wanted) (hd : d ∈ half.fetched)
    (hle : m.sequence ≤ d.sequence) : m ∈ half.fetched := by
  rcases h with h | ⟨hadmits, -⟩
  · exact h
  · have : d.sequence < m.sequence := hinv.follows.fresh d hd m hadmits
    omega

theorem ReplayHalf.Reaches.fetched_of_ended {m : NotificationMessage} (h : half.Reaches m)
    (hended : half.Ended) : m ∈ half.fetched :=
  h.resolve_right fun hopen => hopen.2 hended

theorem ReplayHalf.Inv.notifications_increasing (h : half.Inv request base wanted) :
    (half.notifications request).Pairwise fun x y => x.sequence < y.sequence := by
  have hfetched : half.fetched.Pairwise fun x y => x.sequence < y.sequence := h.follows.increasing
  exact (hfetched.filter _).sublist (List.take_sublist _ _)

/-- A replay that ended has sent what it reached, once. -/
theorem ReplayHalf.Inv.count_of_ended (h : half.Inv request base wanted) {m : NotificationMessage}
    (hreaches : half.Reaches m) (hended : half.Ended) (hdelivers : request.delivers m = true) :
    (half.notifications request).count m = 1 := by
  apply List.count_eq_one_of_mem (Paging.Increasing.nodup h.notifications_increasing)
  rw [h.notifications_of_open hended.2]
  exact List.mem_filter.mpr ⟨hreaches.fetched_of_ended hended, hdelivers⟩

theorem ReplayHalf.mem_notifications {m : NotificationMessage}
    (h : m ∈ half.notifications request) : m ∈ half.fetched ∧ request.delivers m = true :=
  List.mem_filter.mp (List.mem_of_mem_take h)

/-- A message within reach that is deliverable was sent, if one at least as young was. -/
theorem ReplayHalf.Reaches.sent_of_le {m d : NotificationMessage} (h : half.Reaches m)
    (hinv : half.Inv request base wanted) (hdelivers : request.delivers m = true)
    (hd : d ∈ half.notifications request) (hle : m.sequence ≤ d.sequence) :
    m ∈ half.notifications request := by
  have hm := h.fetched_of_le hinv (ReplayHalf.mem_notifications hd).1 hle
  have hincreasing : half.fetched.Pairwise fun x y => x.sequence < y.sequence :=
    hinv.follows.increasing
  exact Resume.mem_of_initial (hincreasing.filter _) (List.take_prefix _ _)
    (List.mem_filter.mpr ⟨hm, hdelivers⟩) hd hle

/-- The replay started at a sequence and has not gone back behind it. -/
structure ReplayHalf.Started (first : Nat) (half : ReplayHalf) : Prop where
  fetched : ∀ m ∈ half.fetched, first ≤ m.sequence
  cursor : ∀ m, half.replay.cursor.params.startAt.admits m = true → first ≤ m.sequence

theorem ReplayHalf.initial_started {first : Nat} (h : base.startAt = .sequence first) :
    (ReplayHalf.initial base).Started first where
  fetched := by
    intro m hm
    cases hm
  cursor := by
    intro m hm
    have hm : base.startAt.admits m = true := hm
    rw [h] at hm
    exact (startScheme.admits_resume first m).mp hm

theorem ReplayHalf.Started.after_ok {first : Nat} (h : half.Started first)
    (hserves : startScheme.Serves S half.replay.cursor.params.startAt batch.page)
    (hprog : startScheme.Progress raw half.replay.cursor.params.startAt batch.page) :
    (half.after request now (.ok batch)).Started first where
  fetched := by
    intro m hm
    rcases List.mem_append.mp hm with hm | hm
    · exact h.fetched m hm
    · exact h.cursor m (hserves.sound m hm).2
  cursor := by
    intro m hm
    have hm : (half.replay.cursor.advance batch).params.startAt.admits m = true := hm
    cases hnext : batch.nextSequence with
    | none =>
      simp only [BatchCursor.advance, hnext] at hm
      exact h.cursor m hm
    | some n =>
      simp only [BatchCursor.advance, hnext] at hm
      have hn : n ≤ m.sequence := (startScheme.admits_resume n m).mp hm
      obtain ⟨x, -, hx, hxn⟩ := hprog n hnext
      have hfirst := h.cursor x hx
      have hxn : x.sequence < n := hxn
      omega

theorem ReplayHalf.Started.after_error {first : Nat} (h : half.Started first) (e : Error) :
    (half.after request now (.error e)).Started first where
  fetched := by
    intro m hm
    rcases List.mem_append.mp hm with hm | hm
    · exact h.fetched m hm
    · cases hm
  cursor := h.cursor

end Steps

/-! ## 5. Going live -/

/-- The messages whose notifications were sent by a stream that goes live after its replay. -/
def ReplayHalf.sent (request : ReplayRequest) (half : ReplayHalf)
    (live : List NotificationMessage) : List NotificationMessage :=
  half.notifications request ++ live.filter request.delivers

/-- The live messages are chained to the replay at the boundary. -/
structure ReplayHalf.HandsOver (boundary : Nat) (half : ReplayHalf)
    (live : List NotificationMessage) : Prop where
  replayed : ∀ m ∈ half.fetched, m.sequence ≤ boundary
  beyond : ∀ m ∈ live, boundary < m.sequence
  increasing : live.Pairwise fun x y => x.sequence < y.sequence
  chained : live ≠ [] → half.Ended

section HandsOver

variable {request : ReplayRequest} {base : BatchParams} {wanted : NotificationMessage → Prop}
  {half : ReplayHalf} {boundary : Nat} {live : List NotificationMessage}

theorem ReplayHalf.HandsOver.sent_increasing (h : half.HandsOver boundary live)
    (hinv : half.Inv request base wanted) :
    (half.sent request live).Pairwise fun x y => x.sequence < y.sequence := by
  refine List.pairwise_append.mpr ⟨hinv.notifications_increasing, h.increasing.filter _, ?_⟩
  intro x hx y hy
  have hreplayed := h.replayed x (ReplayHalf.mem_notifications hx).1
  exact hreplayed.trans_lt (h.beyond y (List.mem_of_mem_filter hy))

/-- What such a stream sends is a feed, if the replay reaches what is due up to the boundary and
the live messages leave out nothing that is due behind it. -/
theorem ReplayHalf.HandsOver.feed (h : half.HandsOver boundary live)
    (hinv : half.Inv request base wanted) {first : Nat} (hstarted : half.Started first)
    (hfirst : first ≤ boundary + 1) {allowed due : NotificationMessage → Prop}
    (hallowed : ∀ m ∈ half.sent request live, allowed m)
    (hdelivers : ∀ m, due m → request.delivers m = true)
    (hreaches : ∀ m, due m → first ≤ m.sequence → m.sequence ≤ boundary → half.Reaches m)
    (hlive : ∀ m, due m → boundary < m.sequence → ∀ d ∈ live, m.sequence ≤ d.sequence → m ∈ live) :
    Resume.Feed (·.sequence) allowed due first (half.sent request live) := by
  refine ⟨h.sent_increasing hinv, fun m hm => ⟨hallowed m hm, ?_⟩, fun m hdue hge hbelow => ?_⟩
  · rcases List.mem_append.mp hm with hm | hm
    · exact hstarted.fetched m (ReplayHalf.mem_notifications hm).1
    · have := h.beyond m (List.mem_of_mem_filter hm)
      omega
  · obtain ⟨d, hd, hle⟩ := hbelow
    by_cases hhistory : m.sequence ≤ boundary
    · -- part of the history: the replay has fetched it before anything as young
      apply List.mem_append_left
      have hm := hreaches m hdue hge hhistory
      rcases List.mem_append.mp hd with hd | hd
      · exact hm.sent_of_le hinv (hdelivers m hdue) hd hle
      · have hended := h.chained (List.ne_nil_of_mem (List.mem_of_mem_filter hd))
        rw [hinv.notifications_of_open hended.2]
        exact List.mem_filter.mpr ⟨hm.fetched_of_ended hended, hdelivers m hdue⟩
    · apply List.mem_append_right
      have hhistory : boundary < m.sequence := Nat.lt_of_not_le hhistory
      rcases List.mem_append.mp hd with hd | hd
      · have := h.replayed d (ReplayHalf.mem_notifications hd).1
        omega
      · exact List.mem_filter.mpr ⟨hlive m hdue hhistory d (List.mem_of_mem_filter hd) hle,
          hdelivers m hdue⟩

end HandsOver

end AvisoServer
