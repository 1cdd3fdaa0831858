import AvisoServer.Sse.Replay

/-!
# The replay quota

The frames of a replay depend on the messages only, not on how they were split into batches: the
first `maxAllowed` deliverable messages are delivered, and one more proves that there were others.
-/

namespace AvisoServer

/-! ## 1. Deliverable messages -/

def ReplayRequest.render (request : ReplayRequest) (message : NotificationMessage) :
    Result (String × SseFrameKind) :=
  request.renderer.frameToSseBytes (.notification message .replay) request.baseUrl
    request.requestId

/-- The message passes the filter and renders as a notification. -/
def ReplayRequest.delivers (request : ReplayRequest) (message : NotificationMessage) : Bool :=
  request.keep message &&
    match request.render message with
    | .ok (_, kind) => kind = .notification
    | .error _ => false

/-- The frame of a deliverable message. -/
def ReplayRequest.deliveredFrame (request : ReplayRequest) (message : NotificationMessage) :
    StreamFrame :=
  match request.render message with
  | .ok (bytes, kind) => .rendered bytes kind
  | .error e => .error message.topic e.toString request.requestId

def StreamFrame.isNotification : StreamFrame → Bool
  | .rendered _ kind => kind = .notification
  | _ => false

def StreamFrame.isReplayLimitReached : StreamFrame → Bool
  | .control (.replayLimitReached ..) => true
  | _ => false

/-- Forget when the quota was exceeded. -/
def StreamFrame.untimed : StreamFrame → StreamFrame
  | .control (.replayLimitReached topic maxAllowed _) =>
    .control (.replayLimitReached topic maxAllowed 0)
  | frame => frame

@[simp] theorem BatchFrames.prepend_frames (frames : List StreamFrame) (rest : BatchFrames) :
    (BatchFrames.prepend frames rest).frames = frames ++ rest.frames := rfl

@[simp] theorem BatchFrames.prepend_stopped (frames : List StreamFrame) (rest : BatchFrames) :
    (BatchFrames.prepend frames rest).stopped = rest.stopped := rfl

@[simp] theorem BatchFrames.prepend_delivered (frames : List StreamFrame) (rest : BatchFrames) :
    (BatchFrames.prepend frames rest).delivered = rest.delivered := rfl

section Batch

variable (request : ReplayRequest) (topic : String)

theorem deliveredFrame_isNotification (message : NotificationMessage)
    (h : request.delivers message = true) :
    (request.deliveredFrame message).isNotification = true := by
  simp only [ReplayRequest.delivers, Bool.and_eq_true] at h
  cases hrender : request.render message with
  | error e => simp [hrender] at h
  | ok out => simpa [ReplayRequest.deliveredFrame, hrender, StreamFrame.isNotification] using h.2

theorem deliveredFrame_not_limit (message : NotificationMessage) :
    (request.deliveredFrame message).isReplayLimitReached = false := by
  cases hrender : request.render message <;>
    simp [ReplayRequest.deliveredFrame, hrender, StreamFrame.isReplayLimitReached]

theorem batchFrames_of_delivers (now : DateTime) (message : NotificationMessage)
    (rest : List NotificationMessage) (delivered : Nat) (h : request.delivers message = true) :
    batchFrames request topic now (message :: rest) delivered =
      if delivered = request.maxAllowed then
        { frames := [.control (.replayLimitReached topic request.maxAllowed now)]
          delivered := delivered
          stopped := true }
      else .prepend [request.deliveredFrame message]
        (batchFrames request topic now rest (delivered + 1)) := by
  simp only [ReplayRequest.delivers, Bool.and_eq_true] at h
  cases hrender : request.render message with
  | error e => simp [hrender] at h
  | ok out =>
    have hkind : out.2 = .notification := by simpa [hrender] using h.2
    simp only [ReplayRequest.deliveredFrame, hrender]
    rw [ReplayRequest.render] at hrender
    simp only [batchFrames, if_pos h.1, hrender, hkind, ne_eq, not_true_eq_false, if_false]

/-- The frames of a message that is not delivered. -/
def skippedFrames (message : NotificationMessage) : List StreamFrame :=
  if request.keep message then
    match request.render message with
    | .error e => [.error topic e.toString request.requestId]
    | .ok (bytes, kind) => [.rendered bytes kind]
  else []

/-- A message that is not delivered adds no notification and leaves the quota alone. -/
theorem batchFrames_of_not_delivers (now : DateTime) (message : NotificationMessage)
    (rest : List NotificationMessage) (delivered : Nat) (h : request.delivers message = false) :
    batchFrames request topic now (message :: rest) delivered =
      .prepend (skippedFrames request topic message)
        (batchFrames request topic now rest delivered) := by
  by_cases hkeep : request.keep message = true
  · cases hrender : request.render message with
    | error e =>
      simp only [skippedFrames, if_pos hkeep, hrender]
      rw [ReplayRequest.render] at hrender
      simp only [batchFrames, if_pos hkeep, hrender]
    | ok out =>
      have hkind : out.2 ≠ .notification := by
        simpa [ReplayRequest.delivers, hkeep, hrender] using h
      simp only [skippedFrames, if_pos hkeep, hrender]
      rw [ReplayRequest.render] at hrender
      simp only [batchFrames, if_pos hkeep, hrender, if_pos hkind]
  · simp only [batchFrames, skippedFrames, if_neg hkeep]
    rfl

theorem skippedFrames_plain (message : NotificationMessage) (h : request.delivers message = false) :
    ∀ frame ∈ skippedFrames request topic message,
      frame.isNotification = false ∧ frame.isReplayLimitReached = false := by
  intro frame hframe
  by_cases hkeep : request.keep message = true
  · cases hrender : request.render message with
    | error e =>
      simp only [skippedFrames, if_pos hkeep, hrender, List.mem_singleton] at hframe
      subst hframe
      exact ⟨rfl, rfl⟩
    | ok out =>
      have hkind : out.2 ≠ .notification := by
        simpa [ReplayRequest.delivers, hkeep, hrender] using h
      simp only [skippedFrames, if_pos hkeep, hrender, List.mem_singleton] at hframe
      subst hframe
      exact ⟨by simp [StreamFrame.isNotification, hkind], rfl⟩
  · simp [skippedFrames, hkeep] at hframe

/-! ## 2. One batch -/

/-- A batch that is not stopped by the quota does not look at the clock. -/
theorem batchFrames_now (messages : List NotificationMessage) (now now' : DateTime)
    (delivered : Nat) (h : (batchFrames request topic now messages delivered).stopped = false) :
    batchFrames request topic now' messages delivered =
      batchFrames request topic now messages delivered := by
  induction messages generalizing delivered with
  | nil => rfl
  | cons message rest ih =>
    cases hdelivers : request.delivers message with
    | true =>
      rw [batchFrames_of_delivers _ _ _ _ _ _ hdelivers] at h ⊢
      rw [batchFrames_of_delivers _ _ _ _ _ _ hdelivers]
      by_cases hfull : delivered = request.maxAllowed
      · simp [if_pos hfull] at h
      · rw [if_neg hfull] at h ⊢
        rw [if_neg hfull, ih _ h]
    | false =>
      rw [batchFrames_of_not_delivers _ _ _ _ _ _ hdelivers] at h ⊢
      rw [batchFrames_of_not_delivers _ _ _ _ _ _ hdelivers, ih _ h]

/-- Two batches in a row are one batch, unless the quota stops the first. -/
theorem batchFrames_append (now : DateTime) (xs ys : List NotificationMessage) (delivered : Nat) :
    batchFrames request topic now (xs ++ ys) delivered =
      if (batchFrames request topic now xs delivered).stopped then
        batchFrames request topic now xs delivered
      else .prepend (batchFrames request topic now xs delivered).frames
        (batchFrames request topic now ys
          (batchFrames request topic now xs delivered).delivered) := by
  induction xs generalizing delivered with
  | nil => rfl
  | cons message rest ih =>
    rw [List.cons_append]
    cases hdelivers : request.delivers message with
    | true =>
      rw [batchFrames_of_delivers _ _ _ _ _ _ hdelivers,
        batchFrames_of_delivers _ _ _ _ _ _ hdelivers]
      by_cases hfull : delivered = request.maxAllowed
      · simp only [if_pos hfull, if_true]
      · simp only [if_neg hfull, BatchFrames.prepend_stopped, BatchFrames.prepend_frames,
          BatchFrames.prepend_delivered, ih]
        split_ifs
        · rfl
        · simp [BatchFrames.prepend]
    | false =>
      rw [batchFrames_of_not_delivers _ _ _ _ _ _ hdelivers,
        batchFrames_of_not_delivers _ _ _ _ _ _ hdelivers]
      rw [ih, BatchFrames.prepend_frames, BatchFrames.prepend_delivered]
      by_cases hstop : (batchFrames request topic now rest delivered).stopped = true
      · rw [if_pos hstop, if_pos (by rwa [BatchFrames.prepend_stopped])]
      · rw [if_neg hstop, if_neg (by rwa [BatchFrames.prepend_stopped])]
        simp only [BatchFrames.prepend, List.append_assoc]

/-- Among the frames of a batch, the notifications are those of the first deliverable messages
that the quota has room for. -/
theorem batchFrames_notifications (now : DateTime) (messages : List NotificationMessage)
    (delivered : Nat) (hroom : delivered ≤ request.maxAllowed) :
    (batchFrames request topic now messages delivered).frames.filter StreamFrame.isNotification =
      ((messages.filter request.delivers).take (request.maxAllowed - delivered)).map
        request.deliveredFrame := by
  induction messages generalizing delivered with
  | nil => simp [batchFrames]
  | cons message rest ih =>
    cases hdelivers : request.delivers message with
    | true =>
      rw [batchFrames_of_delivers _ _ _ _ _ _ hdelivers]
      by_cases hfull : delivered = request.maxAllowed
      · simp [hfull, StreamFrame.isNotification]
      · have hnext : request.maxAllowed - delivered =
            request.maxAllowed - (delivered + 1) + 1 := by
          omega
        rw [if_neg hfull, BatchFrames.prepend_frames, List.singleton_append,
          List.filter_cons_of_pos (deliveredFrame_isNotification request message hdelivers),
          ih _ (by omega), List.filter_cons_of_pos hdelivers, hnext, List.take_succ_cons,
          List.map_cons]
    | false =>
      have hskipped : (skippedFrames request topic message).filter StreamFrame.isNotification =
          [] := List.filter_eq_nil_iff.mpr fun frame hframe => by
        simp [(skippedFrames_plain request topic message hdelivers frame hframe).1]
      rw [batchFrames_of_not_delivers _ _ _ _ _ _ hdelivers, BatchFrames.prepend_frames,
        List.filter_append, hskipped, List.nil_append, ih _ hroom,
        List.filter_cons_of_neg (by simp [hdelivers])]

/-- The quota stops a batch exactly when there are more deliverable messages than it has room for,
and then the last frame, and no other, says so. -/
theorem batchFrames_limit (now : DateTime) (messages : List NotificationMessage)
    (delivered : Nat) (hroom : delivered ≤ request.maxAllowed) :
    (batchFrames request topic now messages delivered).stopped =
        decide (request.maxAllowed - delivered < (messages.filter request.delivers).length) ∧
      ∃ body : List StreamFrame, (∀ frame ∈ body, frame.isReplayLimitReached = false) ∧
        (batchFrames request topic now messages delivered).frames =
          body ++ if (batchFrames request topic now messages delivered).stopped then
            [.control (.replayLimitReached topic request.maxAllowed now)] else [] := by
  induction messages generalizing delivered with
  | nil => exact ⟨by simp [batchFrames], [], by simp, rfl⟩
  | cons message rest ih =>
    cases hdelivers : request.delivers message with
    | true =>
      rw [batchFrames_of_delivers _ _ _ _ _ _ hdelivers, List.filter_cons_of_pos hdelivers]
      -- one deliverable message beyond the quota stops the replay
      by_cases hfull : delivered = request.maxAllowed
      · rw [if_pos hfull]
        exact ⟨by simp [hfull], [], by simp, rfl⟩
      · obtain ⟨hstopped, body, hbody, hframes⟩ := ih (delivered + 1) (by omega)
        rw [if_neg hfull, BatchFrames.prepend_stopped, BatchFrames.prepend_frames]
        refine ⟨?_, request.deliveredFrame message :: body, ?_, ?_⟩
        · rw [hstopped, List.length_cons, decide_eq_decide]
          omega
        · intro frame hframe
          rcases List.mem_cons.mp hframe with rfl | hframe
          · exact deliveredFrame_not_limit request message
          · exact hbody frame hframe
        · rw [hframes]
          rfl
    | false =>
      obtain ⟨hstopped, body, hbody, hframes⟩ := ih delivered hroom
      rw [batchFrames_of_not_delivers _ _ _ _ _ _ hdelivers, BatchFrames.prepend_stopped,
        BatchFrames.prepend_frames, List.filter_cons_of_neg (by simp [hdelivers])]
      refine ⟨hstopped, skippedFrames request topic message ++ body, ?_, ?_⟩
      · intro frame hframe
        rcases List.mem_append.mp hframe with hframe | hframe
        · exact (skippedFrames_plain request topic message hdelivers frame hframe).2
        · exact hbody frame hframe
      · rw [hframes, List.append_assoc]

theorem batchFrames_untimed (now now' : DateTime) (messages : List NotificationMessage)
    (delivered : Nat) :
    (batchFrames request topic now messages delivered).frames.map StreamFrame.untimed =
      (batchFrames request topic now' messages delivered).frames.map StreamFrame.untimed := by
  induction messages generalizing delivered with
  | nil => rfl
  | cons message rest ih =>
    cases hdelivers : request.delivers message with
    | true =>
      rw [batchFrames_of_delivers _ _ _ _ _ _ hdelivers,
        batchFrames_of_delivers _ _ _ _ _ _ hdelivers]
      split_ifs
      · rfl
      · rw [BatchFrames.prepend_frames, BatchFrames.prepend_frames, List.map_append,
          List.map_append, ih]
    | false =>
      rw [batchFrames_of_not_delivers _ _ _ _ _ _ hdelivers,
        batchFrames_of_not_delivers _ _ _ _ _ _ hdelivers, BatchFrames.prepend_frames,
        BatchFrames.prepend_frames, List.map_append, List.map_append, ih]

end Batch

/-! ## 3. Batches in a row -/

/-- The answers of a backend that splits its messages into these batches; `next` is where each
answer tells the replay to resume. -/
def splitAnswers (batches : List (List NotificationMessage)) (next : Nat → Option Nat) (call : Nat)
    (_ : BatchParams) : Result BatchResult :=
  let messages := batches.getD call []
  .ok { messages := messages
        hasMore := call + 1 < batches.length
        lastSequence := (messages.map (·.sequence)).max?
        nextSequence := next call
        batchSize := messages.length }

section Run

variable (request : ReplayRequest) (next : Nat → Option Nat) (clock : Nat → DateTime)

theorem historicalFrames_of_done (fetch : Nat → BatchParams → Result BatchResult) (fuel call : Nat)
    (state : ReplayState) (h : state.cursor.hasMore = false) :
    historicalFrames request fetch clock fuel call state = some [] := by
  cases fuel <;> simp [historicalFrames, h]

theorem historicalFrames_of_more (fetch : Nat → BatchParams → Result BatchResult) (fuel call : Nat)
    (state : ReplayState) (h : state.cursor.hasMore = true) :
    historicalFrames request fetch clock (fuel + 1) call state =
      (historicalFrames request fetch clock fuel (call + 1)
        (replayStep request (clock call) (fetch call state.cursor.params) state).1).map
        ((replayStep request (clock call) (fetch call state.cursor.params) state).2 ++ ·) := by
  simp [historicalFrames, h]

/-- More fuel changes nothing once the stream has ended. -/
theorem historicalFrames_mono (fetch : Nat → BatchParams → Result BatchResult)
    (fuel extra call : Nat) (state : ReplayState) (frames : List StreamFrame)
    (h : historicalFrames request fetch clock fuel call state = some frames) :
    historicalFrames request fetch clock (fuel + extra) call state = some frames := by
  induction fuel generalizing call state frames with
  | zero =>
    have hdone : state.cursor.hasMore = false := by
      by_contra hmore
      simp [historicalFrames, hmore] at h
    rw [historicalFrames_of_done _ _ _ _ _ _ hdone] at h ⊢
    exact h
  | succ fuel ih =>
    cases hmore : state.cursor.hasMore with
    | false => rwa [historicalFrames_of_done _ _ _ _ _ _ hmore] at h ⊢
    | true =>
      rw [historicalFrames_of_more _ _ _ _ _ _ hmore] at h
      obtain ⟨later, hlater, rfl⟩ := Option.map_eq_some_iff.mp h
      rw [Nat.succ_add, historicalFrames_of_more _ _ _ _ _ _ hmore, ih _ _ _ hlater, Option.map_some]

theorem BatchCursor.advance_topic (cursor : BatchCursor) (batch : BatchResult) :
    (cursor.advance batch).params.topic = cursor.params.topic := by
  simp only [BatchCursor.advance]
  cases batch.nextSequence <;> rfl

/-- The frames of the remaining batches are the frames of their concatenation. -/
theorem historicalFrames_split (rest done : List (List NotificationMessage)) (hrest : rest ≠ [])
    (state : ReplayState) (hmore : state.cursor.hasMore = true) :
    ∃ now, ∀ extra, historicalFrames request (splitAnswers (done ++ rest) next) clock
        (rest.length + extra) done.length state =
      some (batchFrames request state.cursor.params.topic now rest.flatten state.delivered).frames := by
  induction rest generalizing done state with
  | nil => exact absurd rfl hrest
  | cons batch rest ih =>
    set topic := state.cursor.params.topic with htopic
    set out := batchFrames request topic (clock done.length) batch state.delivered with hout
    have hget : (done ++ batch :: rest).getD done.length [] = batch := by
      simp
    set step := replayStep request (clock done.length)
      (splitAnswers (done ++ batch :: rest) next done.length state.cursor.params) state with hstep
    have hframes : step.2 = out.frames := by
      simp only [hstep, replayStep, splitAnswers, hget, BatchCursor.advance_topic, hout, htopic]
    have hdelivered : step.1.delivered = out.delivered := by
      simp only [hstep, replayStep, splitAnswers, hget, BatchCursor.advance_topic, hout, htopic]
    have hnextTopic : step.1.cursor.params.topic = topic := by
      simp only [hstep, replayStep, splitAnswers, BatchCursor.advance_topic, htopic]
    have hnextMore : step.1.cursor.hasMore = (decide (rest ≠ []) && !out.stopped) := by
      have hlast : decide (done.length + 1 < (done ++ batch :: rest).length) =
          decide (rest ≠ []) := by
        rw [decide_eq_decide, List.length_append, List.length_cons, Ne, ← List.length_eq_zero_iff]
        omega
      simp only [hstep, replayStep, splitAnswers, hget, BatchCursor.advance_topic, hout, htopic]
      simp only [BatchCursor.advance, hlast]
    have hunfold (extra : Nat) : historicalFrames request (splitAnswers (done ++ batch :: rest) next)
        clock ((batch :: rest).length + extra) done.length state =
          (historicalFrames request (splitAnswers (done ++ batch :: rest) next) clock
            (rest.length + extra) (done.length + 1) step.1).map (out.frames ++ ·) := by
      rw [List.length_cons, Nat.add_right_comm, historicalFrames_of_more _ _ _ _ _ _ hmore, ← hstep,
        hframes]
    simp only [hunfold, List.flatten_cons]
    -- the loop goes on while there are batches and the quota is not reached
    by_cases hcontinue : rest ≠ [] ∧ out.stopped = false
    · obtain ⟨now, hrun⟩ := ih (done ++ [batch]) hcontinue.1 step.1
        (by rw [hnextMore, hcontinue.2, decide_eq_true hcontinue.1]; rfl)
      refine ⟨now, fun extra => ?_⟩
      have hsame : batchFrames request topic now batch state.delivered = out :=
        batchFrames_now request topic batch (clock done.length) now state.delivered hcontinue.2
      have hrest := hrun extra
      rw [List.append_assoc, List.singleton_append, List.length_append, List.length_singleton]
        at hrest
      rw [hrest, batchFrames_append, hsame, if_neg (by simp [hcontinue.2]), hnextTopic, hdelivered]
      rfl
    · refine ⟨clock done.length, fun extra => ?_⟩
      have hdone : step.1.cursor.hasMore = false := by
        rw [hnextMore]
        by_cases hne : rest ≠ []
        · have hstop : out.stopped = true := by
            by_contra h
            exact hcontinue ⟨hne, by simpa using h⟩
          simp [hstop]
        · simp [hne]
      rw [historicalFrames_of_done _ _ _ _ _ _ hdone, Option.map_some, List.append_nil,
        batchFrames_append, ← hout]
      by_cases hstop : out.stopped = true
      · rw [if_pos hstop]
      · have hnil : rest = [] := by
          by_contra hne
          exact hcontinue ⟨hne, by simpa using hstop⟩
        rw [if_neg hstop, hnil]
        simp [BatchFrames.prepend, batchFrames]

end Run

/-! ## 4. The quota over a whole replay -/

/-- Over every split of the messages into batches, the historical stream ends; its notifications
are the first deliverable messages up to the quota; the quota frame is there exactly when more
messages were deliverable, once and last; and the frames do not depend on the split. -/
theorem replayQuota (request : ReplayRequest) (params : BatchParams)
    (batches : List (List NotificationMessage)) (hbatches : batches ≠ [])
    (next : Nat → Option Nat) (clock : Nat → DateTime) :
    ∃ frames, (∃ fuel, ∀ extra, historicalFrames request (splitAnswers batches next) clock
        (fuel + extra) 0 (.initial params) = some frames) ∧
      frames.filter StreamFrame.isNotification =
        ((batches.flatten.filter request.delivers).take request.maxAllowed).map
          request.deliveredFrame ∧
      (frames.filter StreamFrame.isNotification).length =
        min (batches.flatten.filter request.delivers).length request.maxAllowed ∧
      ((∃ frame ∈ frames, frame.isReplayLimitReached = true) ↔
        request.maxAllowed < (batches.flatten.filter request.delivers).length) ∧
      (request.maxAllowed < (batches.flatten.filter request.delivers).length →
        ∃ body now, (∀ frame ∈ body, frame.isReplayLimitReached = false) ∧ frames =
          body ++ [.control (.replayLimitReached params.topic request.maxAllowed now)]) ∧
      ∀ (batches' : List (List NotificationMessage)) (params' : BatchParams)
        (next' : Nat → Option Nat) (clock' : Nat → DateTime) (fuel : Nat)
        (frames' : List StreamFrame), batches' ≠ [] → batches'.flatten = batches.flatten →
        params'.topic = params.topic →
        historicalFrames request (splitAnswers batches' next') clock' fuel 0
          (.initial params') = some frames' →
        frames'.map StreamFrame.untimed = frames.map StreamFrame.untimed := by
  obtain ⟨now, hrun⟩ := historicalFrames_split request next clock batches [] hbatches
    (.initial params) rfl
  set out := batchFrames request params.topic now batches.flatten 0 with hout
  have hnotifications := batchFrames_notifications request params.topic now batches.flatten 0
    (Nat.zero_le _)
  rw [← hout, Nat.sub_zero] at hnotifications
  obtain ⟨hstopped, body, hbody, hframes⟩ := batchFrames_limit request params.topic now
    batches.flatten 0 (Nat.zero_le _)
  rw [← hout, Nat.sub_zero] at hstopped
  rw [← hout] at hframes
  refine ⟨out.frames, ⟨batches.length, hrun⟩, hnotifications, ?_, ?_, fun hmany => ?_, ?_⟩
  · rw [hnotifications, List.length_map, List.length_take, min_comm]
  · constructor
    · rintro ⟨frame, hmem, hlimit⟩
      rw [hframes, List.mem_append] at hmem
      by_contra hfew
      rw [hstopped, decide_eq_false hfew] at hmem
      rcases hmem with hmem | hmem
      · rw [hbody frame hmem] at hlimit
        cases hlimit
      · cases hmem
    · intro hmany
      refine ⟨.control (.replayLimitReached params.topic request.maxAllowed now), ?_, rfl⟩
      rw [hframes, hstopped, decide_eq_true hmany]
      simp
  · refine ⟨body, now, hbody, ?_⟩
    rw [hframes, hstopped, decide_eq_true hmany, if_pos rfl]
  · intro batches' params' next' clock' fuel frames' hbatches' hflatten htopic hrun'
    obtain ⟨now', hother⟩ := historicalFrames_split request next' clock' batches' [] hbatches'
      (.initial params') rfl
    have hmono := historicalFrames_mono request clock' _ fuel batches'.length _ _ _ hrun'
    rw [Nat.add_comm] at hmono
    have heq := hother fuel
    simp only [List.nil_append, List.length_nil] at heq
    rw [hmono, Option.some.injEq] at heq
    rw [heq, hflatten]
    change (batchFrames request params'.topic now' _ 0).frames.map _ = _
    rw [htopic]
    exact batchFrames_untimed request params.topic now' now batches.flatten 0

/-- A renderer that turns every notification into the same event. -/
def plainRenderer : Renderer where
  createCloudEvent _ _ := .ok .null
  jsonText _ := "null"
  formatStreamTimestamp _ := ""

/-- Deliver at most one message, and only from the topic `mars.od`. -/
def oneOdRequest : ReplayRequest where
  renderer := plainRenderer
  keep m := m.topic = "mars.od"
  baseUrl := ""
  requestId := ""
  maxAllowed := 1

theorem replayQuota_oneOd :
    ∃ frames, (∃ fuel, ∀ extra, historicalFrames oneOdRequest
        (splitAnswers [[⟨1, "mars.od", "1", none, none⟩], [], [⟨2, "mars.rd", "2", none, none⟩],
          [⟨3, "mars.od", "3", none, none⟩]] fun _ => none) (fun _ => 0) (fuel + extra) 0
        (.initial (BatchParams.new "mars.%2A" 1)) = some frames) ∧
      (frames.filter StreamFrame.isNotification).length = 1 ∧
      ∃ frame ∈ frames, frame.isReplayLimitReached = true := by
  obtain ⟨frames, hrun, -, hlength, hlimit, -⟩ := replayQuota oneOdRequest
    (BatchParams.new "mars.%2A" 1)
    [[⟨1, "mars.od", "1", none, none⟩], [], [⟨2, "mars.rd", "2", none, none⟩],
      [⟨3, "mars.od", "3", none, none⟩]] (by simp) (fun _ => none) (fun _ => 0)
  exact ⟨frames, hrun, hlength.trans (by decide), hlimit.mpr (by decide)⟩

end AvisoServer
