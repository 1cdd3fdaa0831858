import AvisoServer.Backend.ReplayAgreement
import AvisoServer.Requests
import AvisoServer.Sse.ReplayEnd

/-!
# Dates that bound a JetStream replay

An end date outside the range of 64-bit nanoseconds has nothing after it, or everything. A start
date outside the range is refused, unless the replay is empty before it comes to the start.
-/

namespace AvisoServer

/-! ## 1. The end -/

section End

variable (fromUtf8Lossy : List UInt8 → String) {raw : HistoryEntry → JetStreamMessage}
  {server : JetStreamServer} {h : History}

/-- Stored times are 64-bit nanoseconds since the epoch. -/
def History.Stamped (h : History) : Prop :=
  ∀ e ∈ h.entries, -2 ^ 63 ≤ e.timestamp ∧ e.timestamp < 2 ^ 63

/-- A policy that selects some of the entries selects among those of all. -/
theorem selected_eq_filter (h : History) (name filterSubject : String) (policy : DeliverPolicy) :
    h.selected name filterSubject policy =
      (h.selected name filterSubject .all).filter fun e => policy.satisfies e := by
  unfold History.selected
  rw [List.filter_filter]
  rfl

/-- The first entry a consumer delivers is the first one selected. -/
theorem firstDelivered_eq (hserver : server.Keeps h raw) (call : Nat)
    (name filterSubject : String) (policy : DeliverPolicy) :
    firstDelivered server call name filterSubject policy =
      .ok ((h.selected name filterSubject policy).head?.map (·.sequence)) := by
  obtain ⟨es, hfetch, hes, hlength, hnonempty⟩ := hserver.fetch call name filterSubject policy 1
  unfold firstDelivered
  rw [hserver.createConsumer, hfetch]
  cases es with
  | nil =>
    have hnone : h.selected name filterSubject policy = [] := by
      by_contra hne
      exact hnonempty Nat.one_pos hne rfl
    rw [hnone]
    rfl
  | cons e es =>
    obtain ⟨rest, hrest⟩ := hes
    rw [← hrest]
    simp only [List.map_cons, withContext_ok, bind, Except.bind, List.head?_cons, hserver.info]
    rfl

theorem head_sequence_min (entries : List HistoryEntry)
    (hincreasing : Paging.Increasing HistoryEntry.sequence entries) :
    entries.head?.map (·.sequence) = (entries.map (·.sequence)).min? := by
  cases entries with
  | nil => rfl
  | cons e entries =>
    symm
    rw [List.head?_cons, Option.map_some, List.min?_eq_some_iff]
    refine ⟨List.mem_cons_self, ?_⟩
    intro n hn
    obtain ⟨x, hx, rfl⟩ := List.mem_map.mp hn
    cases List.mem_cons.mp hx with
    | inl heq => rw [heq]
    | inr hmem => exact ((List.pairwise_cons.mp hincreasing).1 x hmem).le

/-- The notifications of a consumer's selection from the start. -/
def coarseMessages (raw : HistoryEntry → JetStreamMessage) (h : History)
    (name filterSubject : String) : List NotificationMessage :=
  (h.selected name filterSubject .all).map (notificationOf fromUtf8Lossy raw)

theorem firstAfter_coarse (name filterSubject : String) (at_ : DateTime) :
    firstAfter (coarseMessages fromUtf8Lossy raw h name filterSubject) at_ =
      (((h.selected name filterSubject .all).filter fun e => at_ < e.timestamp).map
        (·.sequence)).min? := by
  unfold firstAfter coarseMessages
  rw [List.filter_map, List.map_map]
  rfl

/-- A time whose next nanosecond is outside the range is past all of the range, or before it. -/
theorem outside_range {at_ stored : Int} (hout : ¬ (-2 ^ 63 ≤ at_ + 1 ∧ at_ + 1 < 2 ^ 63))
    (hstored : -2 ^ 63 ≤ stored ∧ stored < 2 ^ 63) : at_ < stored ↔ ¬ 0 < at_ := by
  omega

theorem lt_maxDateTime {at_ : Int} (hin : at_ + 1 < 2 ^ 63) : at_ < maxDateTime := by
  have hmax : maxDateTime = (8210266876799999999999 : Int) := rfl
  rw [hmax]
  omega

/-- The bound of an end date is the first later message of the coarse selection, over the whole
time line. -/
theorem jetstreamFirstSequenceAfter_eq (hserver : server.Keeps h raw) (hstamped : h.Stamped)
    (call : Nat) {topic coarse name : String} {pattern : List String}
    (htopic : analyzeWatchPattern topic = .ok (coarse, pattern))
    (hname : deriveStreamNameFromTopic coarse = .ok name) (at_ : DateTime) :
    jetstreamFirstSequenceAfter server call topic at_ =
      .ok (firstAfter (coarseMessages fromUtf8Lossy raw h name coarse) at_) := by
  have hselected := selected_increasing h name coarse .all
  unfold jetstreamFirstSequenceAfter
  rw [htopic]
  simp only [bind, Except.bind, hserver.ensureStreamForTopic, withContext_ok, hname]
  rw [firstAfter_coarse]
  cases hstart : (addNanosecond at_).bind jetstreamStartTime with
  | some startTime =>
    obtain ⟨next, hnext, hrange⟩ := Option.bind_eq_some_iff.mp hstart
    unfold addNanosecond at hnext
    unfold jetstreamStartTime at hrange
    split at hnext
    · split at hrange
      · cases hnext
        cases hrange
        simp only
        rw [firstDelivered_eq hserver, head_sequence_min _ (selected_increasing h name coarse _),
          selected_eq_filter h name coarse (.byStartTime _)]
        rfl
      · cases hrange
    · cases hnext
  | none =>
    -- outside the range, one nanosecond later as well
    have hout : ¬ (-2 ^ 63 ≤ at_ + 1 ∧ at_ + 1 < 2 ^ 63) := by
      intro hin
      unfold addNanosecond jetstreamStartTime at hstart
      rw [if_pos (lt_maxDateTime hin.2), Option.bind_some, if_pos hin] at hstart
      cases hstart
    simp only
    by_cases hlate : 0 < at_
    · rw [if_pos hlate]
      have hnone : ((h.selected name coarse .all).filter fun e => at_ < e.timestamp) = [] := by
        apply List.filter_eq_nil_iff.mpr
        intro e he hlater
        have hrange := hstamped e (selected_mem he)
        exact (outside_range hout hrange).mp (of_decide_eq_true hlater) hlate
      rw [hnone]
      rfl
    · rw [if_neg hlate, firstDelivered_eq hserver, head_sequence_min _ hselected]
      have hall : ((h.selected name coarse .all).filter fun e => at_ < e.timestamp) =
          h.selected name coarse .all := by
        apply List.filter_eq_self.mpr
        intro e he
        have hrange := hstamped e (selected_mem he)
        exact decide_eq_true ((outside_range hout hrange).mpr hlate)
      rw [hall]

end End

/-! ## 2. The batch loop -/

section Loop

variable {fetch : Nat → BatchParams → Result BatchResult} {params : BatchParams}

/-- The replay loop ends and delivers exactly the wanted messages, in order. -/
def Delivers (fetch : Nat → BatchParams → Result BatchResult) (params : BatchParams)
    (wanted : NotificationMessage → Prop) : Prop :=
  ∃ out, (∃ fuel, ∀ extra,
      collectBatches fetch (fuel + extra) 0 { params := params, hasMore := true } [] =
        some (.ok out)) ∧
    Paging.Increasing startScheme.key out ∧ ∀ m, m ∈ out ↔ wanted m

theorem delivers_congr {wanted selected : NotificationMessage → Prop}
    (h : ∀ m, wanted m ↔ selected m) :
    Delivers fetch params wanted ↔ Delivers fetch params selected := by
  have heq : wanted = selected := funext fun m => propext (h m)
  rw [heq]

theorem collectBatches_last {batch : BatchResult} (hfetch : fetch 0 params = .ok batch)
    (hlast : batch.hasMore = false) (fuel : Nat) :
    collectBatches fetch (fuel + 1) 0 { params := params, hasMore := true } [] =
      some (.ok batch.messages) := by
  rw [collectBatches]
  simp only [if_true, hfetch, List.nil_append]
  cases fuel <;> simp [collectBatches, BatchCursor.advance, hlast]

/-- A loop whose first batch is empty and the last one delivers what is wanted if that is nothing. -/
theorem delivers_empty_iff {batch : BatchResult} (hfetch : fetch 0 params = .ok batch)
    (hlast : batch.hasMore = false) (hempty : batch.messages = [])
    (wanted : NotificationMessage → Prop) :
    Delivers fetch params wanted ↔ ∀ m, ¬ wanted m := by
  constructor
  · rintro ⟨out, ⟨fuel, hout⟩, -, hwanted⟩
    have hend := hout 1
    rw [collectBatches_last hfetch hlast, hempty] at hend
    cases hend
    intro m hm
    cases (hwanted m).mpr hm
  · intro hnone
    refine ⟨[], ⟨1, ?_⟩, List.Pairwise.nil, ?_⟩
    · intro extra
      rw [Nat.add_comm, collectBatches_last hfetch hlast, hempty]
    · intro m
      exact iff_of_false (List.not_mem_nil) (hnone m)

theorem not_delivers_of_error {e : Error} (hfetch : fetch 0 params = .error e)
    (wanted : NotificationMessage → Prop) : ¬ Delivers fetch params wanted := by
  rintro ⟨out, ⟨fuel, hout⟩, -, -⟩
  have hend := hout 1
  rw [collectBatches] at hend
  simp only [if_true, hfetch] at hend
  cases hend

end Loop

/-! ## 3. The start -/

section Start

variable (fromUtf8Lossy : List UInt8 → String) {raw : HistoryEntry → JetStreamMessage}
  {server : JetStreamServer} {h : History} {watchBase : String} {tokens : List String}

/-- A batch from a stream without messages, or up to sequence zero, is empty. -/
theorem jetstreamBatch_nothing (hserver : server.Keeps h raw) (call : Nat) (params : BatchParams)
    (hwatch : isTopicBase watchBase = true) (htokens : tokens ≠ [])
    (htopic : params.topic = encodeSubject (watchBase :: tokens))
    (hnothing : h.onStream (toAsciiUppercase watchBase) = [] ∨ params.endSequence = 0) :
    jetstreamGetMessagesBatch fromUtf8Lossy server call params = .ok BatchResult.empty := by
  obtain ⟨fixed, hfixed⟩ := exists_coarsePattern watchBase tokens hwatch htokens
  obtain ⟨state, hstate, hmessages, -⟩ := hserver.streamInfo call (toAsciiUppercase watchBase)
  have hstop : state.messages = 0 ∨ min params.endSequence state.lastSequence = 0 ∨
      startsAfter params.startAt (min params.endSequence state.lastSequence) := by
    cases hnothing with
    | inl hempty => exact Or.inl (by rw [hmessages, hempty]; rfl)
    | inr hzero => exact Or.inr (Or.inl (by rw [hzero, Nat.zero_min]))
  simp only [jetstreamGetMessagesBatch, htopic, hfixed.analyzed, withContext_ok,
    hserver.ensureStreamForTopic, hfixed.streamName, hserver.getStream, hstate, bind, Except.bind]
  rw [if_pos hstop]

/-- A start date outside the range makes any other batch fail. -/
theorem jetstreamBatch_refused (hserver : server.Keeps h raw) (call : Nat) (params : BatchParams)
    (hwatch : isTopicBase watchBase = true) (htokens : tokens ≠ [])
    (htopic : params.topic = encodeSubject (watchBase :: tokens))
    (hstream : h.onStream (toAsciiUppercase watchBase) ≠ []) (hend : params.endSequence ≠ 0)
    (hstart : ¬ Expressible params.startAt) :
    ∃ e, jetstreamGetMessagesBatch fromUtf8Lossy server call params = .error e := by
  obtain ⟨fixed, hfixed⟩ := exists_coarsePattern watchBase tokens hwatch htokens
  obtain ⟨state, hstate, hmessages, hlast⟩ := hserver.streamInfo call (toAsciiUppercase watchBase)
  obtain ⟨first, hfirst⟩ := List.exists_mem_of_ne_nil _ hstream
  have hpositive := h.positive first (onStream_subset hfirst)
  have hbound := hlast first hfirst
  unfold Expressible at hstart
  push Not at hstart
  obtain ⟨d, hdate, hrange⟩ := hstart
  have hgo : ¬ (state.messages = 0 ∨ min params.endSequence state.lastSequence = 0 ∨
      startsAfter params.startAt (min params.endSequence state.lastSequence) = true) := by
    rw [hmessages, hdate]
    rintro (hzero | hzero | hafter)
    · exact hstream (List.length_eq_zero_iff.mp hzero)
    · omega
    · cases hafter
  have hpolicy : determineDeliverPolicy params.startAt =
      bail "from_date is outside supported timestamp range" := by
    have hnone : jetstreamStartTime d = none := by
      unfold jetstreamStartTime
      rw [if_neg]
      rintro ⟨hlow, hhigh⟩
      exact absurd hhigh (Int.not_lt.mpr (hrange hlow))
    rw [hdate, determineDeliverPolicy, hnone]
  simp only [jetstreamGetMessagesBatch, htopic, hfixed.analyzed, withContext_ok,
    hserver.ensureStreamForTopic, hfixed.streamName, hserver.getStream, hstate, hpolicy, bind, Except.bind]
  rw [if_neg hgo]
  exact ⟨_, rfl⟩

/-- With batches of size zero, the first batch is empty and the last one. -/
theorem jetstreamBatch_zero (hserver : server.Keeps h raw) (call : Nat) (params : BatchParams)
    (hwatch : isTopicBase watchBase = true) (htokens : tokens ≠ [])
    (htopic : params.topic = encodeSubject (watchBase :: tokens)) (hlimit : params.limit = 0)
    (hstart : Expressible params.startAt) :
    ∃ batch, jetstreamGetMessagesBatch fromUtf8Lossy server call params = .ok batch ∧
      batch.hasMore = false ∧ batch.messages = [] := by
  obtain ⟨fixed, hfixed⟩ := exists_coarsePattern watchBase tokens hwatch htokens
  obtain ⟨state, hstate, -, -⟩ := hserver.streamInfo call (toAsciiUppercase watchBase)
  obtain ⟨policy, hpolicy, -⟩ := determineDeliverPolicy_expressible params.startAt hstart
  obtain ⟨es, hfetch, -, hlength, -⟩ := hserver.fetch call (toAsciiUppercase watchBase)
    (encodeSubject (watchBase :: fixed) ++ ".>") policy 0
  have hes : es = [] := List.length_eq_zero_iff.mp (Nat.le_zero.mp hlength)
  simp only [jetstreamGetMessagesBatch, htopic, hfixed.analyzed, withContext_ok,
    hserver.ensureStreamForTopic, hfixed.streamName, hserver.getStream, hstate, hpolicy, hserver.createConsumer, hlimit, hfetch, hes, bind,
    Except.bind]
  split
  · exact ⟨_, rfl, rfl, rfl⟩
  · exact ⟨_, rfl, rfl, rfl⟩

/-- What is wanted is on the stream. -/
theorem wanted_onStream (hwatch : isTopicBase watchBase = true) (htokens : tokens ≠ [])
    {endSequence : Nat} {m : NotificationMessage}
    (hm : Wanted fromUtf8Lossy raw h (watchBase :: tokens) endSequence m) :
    h.onStream (toAsciiUppercase watchBase) ≠ [] ∧ endSequence ≠ 0 := by
  obtain ⟨fixed, hfixed⟩ := exists_coarsePattern watchBase tokens hwatch htokens
  obtain ⟨e, he, -, hmatch, hend⟩ := hm
  have hselected := mem_selected_of_matches hwatch hfixed he hmatch
    (rfl : DeliverPolicy.all.satisfies e = true)
  have hpositive := h.positive e he
  exact ⟨List.ne_nil_of_mem (List.mem_filter.mp hselected).1, by omega⟩

/-- The history up to a sequence is replayed exactly when JetStream can express the start, or there
is nothing to read; batches of size zero replay no message. -/
theorem history_delivers_iff (hserver : server.Keeps h raw) (hwatch : isTopicBase watchBase = true)
    (htokens : tokens ≠ []) (startAt : StartAt) (endSequence batchSize : Nat) :
    Delivers (jetstreamGetMessagesBatch fromUtf8Lossy server)
        (replayParams (encodeSubject (watchBase :: tokens)) batchSize startAt endSequence)
        (fun m => Wanted fromUtf8Lossy raw h (watchBase :: tokens) endSequence m ∧
          startAt.admits m = true) ↔
      (Expressible startAt ∧ (0 < batchSize ∨
        ∀ m, Wanted fromUtf8Lossy raw h (watchBase :: tokens) endSequence m →
          startAt.admits m = false)) ∨
        h.onStream (toAsciiUppercase watchBase) = [] ∨ endSequence = 0 := by
  rw [replayParams_eq]
  by_cases hnothing : h.onStream (toAsciiUppercase watchBase) = [] ∨ endSequence = 0
  · refine iff_of_true ?_ (Or.inr hnothing)
    rw [delivers_empty_iff (jetstreamBatch_nothing fromUtf8Lossy hserver 0 _ hwatch htokens rfl
      hnothing) rfl rfl]
    rintro m ⟨hm, -⟩
    obtain ⟨hstream, hend⟩ := wanted_onStream fromUtf8Lossy hwatch htokens hm
    exact hnothing.elim hstream hend
  · obtain ⟨hstream, hend⟩ := not_or.mp hnothing
    rw [or_iff_left hnothing]
    by_cases hstart : Expressible startAt
    · cases Nat.eq_zero_or_pos batchSize with
      | inl hzero =>
        obtain ⟨batch, hbatch, hlast, hempty⟩ := jetstreamBatch_zero fromUtf8Lossy hserver 0
          { topic := encodeSubject (watchBase :: tokens), startAt := startAt, limit := batchSize,
            endSequence := endSequence } hwatch htokens rfl hzero hstart
        rw [delivers_empty_iff hbatch hlast hempty]
        simp [hstart, hzero]
      | inr hpos =>
        obtain ⟨out, hout⟩ := collectBatches_jetstream fromUtf8Lossy h server raw hserver watchBase
          tokens hwatch htokens startAt hstart endSequence batchSize hpos
        exact iff_of_true ⟨out, hout⟩ ⟨hstart, Or.inl hpos⟩
    · obtain ⟨e, he⟩ := jetstreamBatch_refused fromUtf8Lossy hserver 0
        { topic := encodeSubject (watchBase :: tokens), startAt := startAt, limit := batchSize,
          endSequence := endSequence } hwatch htokens rfl hstream hend hstart
      exact iff_of_false (not_delivers_of_error he _) (fun hcondition => hstart hcondition.1)

/-! ## 4. Start and end -/

/-- The entries a request is about. -/
def Matching (raw : HistoryEntry → JetStreamMessage) (h : History) (pattern : List String)
    (m : NotificationMessage) : Prop :=
  ∃ e ∈ h.entries, m = notificationOf fromUtf8Lossy raw e ∧
    matchesWatchPattern e.topic pattern = true

/-- The end is before every sequence. -/
def EndsAtZero (h : History) (name coarse : String) : EndAt → Prop
  | .latest => False
  | .sequence toId => toId = 0
  | .date toDate => ∃ e ∈ h.selected name coarse .all, e.sequence = 1 ∧ toDate < e.timestamp

theorem coarse_monotone (raw : HistoryEntry → JetStreamMessage) (h : History)
    (name coarse : String) :
    TimestampsMonotone (· ∈ coarseMessages fromUtf8Lossy raw h name coarse) := by
  intro x y hx hy hle tx ty htx hty
  obtain ⟨e, he, rfl⟩ := List.mem_map.mp hx
  obtain ⟨e', he', rfl⟩ := List.mem_map.mp hy
  cases htx
  cases hty
  exact h.monotone e (selected_mem he) e' (selected_mem he') hle

theorem resolved_eq_zero_iff {name coarse : String} {last : Nat} (hlast : 0 < last)
    (endAt : EndAt) {e : Nat}
    (hresolve : resolveEndSequence (.ok last)
      (fun at_ => .ok (firstAfter (coarseMessages fromUtf8Lossy raw h name coarse) at_)) endAt =
        .ok e) :
    e = 0 ↔ EndsAtZero h name coarse endAt := by
  unfold resolveEndSequence at hresolve
  simp only [bind, Except.bind] at hresolve
  cases endAt with
  | latest =>
    cases hresolve
    simp only [EndsAtZero, iff_false]
    omega
  | sequence toId =>
    cases hresolve
    simp only [EndsAtZero]
    omega
  | date toDate =>
    -- the end is just below the first message after the date, or the last one
    simp only [firstAfter_coarse] at hresolve
    simp only [EndsAtZero]
    cases hfirst : (((h.selected name coarse .all).filter fun e => toDate < e.timestamp).map
        (·.sequence)).min? with
    | none =>
      rw [hfirst] at hresolve
      cases hresolve
      rw [List.min?_eq_none_iff, List.map_eq_nil_iff, List.filter_eq_nil_iff] at hfirst
      refine iff_of_false (by omega) ?_
      rintro ⟨entry, hentry, -, hlater⟩
      exact hfirst entry hentry (decide_eq_true hlater)
    | some first =>
      rw [hfirst] at hresolve
      cases hresolve
      obtain ⟨hmem, hleast⟩ := List.min?_eq_some_iff.mp hfirst
      obtain ⟨entry, hentry, rfl⟩ := List.mem_map.mp hmem
      obtain ⟨hselected, hlater⟩ := List.mem_filter.mp hentry
      have hpositive := h.positive entry (selected_mem hselected)
      constructor
      · intro hzero
        exact ⟨entry, hselected, by omega, of_decide_eq_true hlater⟩
      · rintro ⟨other, hother, hone, hotherLater⟩
        have hle := hleast other.sequence (List.mem_map_of_mem
          (List.mem_filter.mpr ⟨hother, decide_eq_true hotherLater⟩))
        omega

/-- A watch replays exactly the history from its start on. -/
def WatchHonoured (server : JetStreamServer) (raw : HistoryEntry → JetStreamMessage) (h : History)
    (pattern : List String) (startAt : StartAt) (batchSize historyEnd : Nat) : Prop :=
  Delivers (jetstreamGetMessagesBatch fromUtf8Lossy server)
    (replayParams (encodeSubject pattern) batchSize startAt historyEnd)
    (fun m => Wanted fromUtf8Lossy raw h pattern historyEnd m ∧ startAt.admits m = true)

/-- A replay resolves its end, and delivers exactly the messages between its start and its end. -/
def ReplayHonoured (server : JetStreamServer) (raw : HistoryEntry → JetStreamMessage) (h : History)
    (pattern : List String) (startAt : StartAt) (endAt : EndAt) (batchSize : Nat) : Prop :=
  ∃ e, resolveEndSequence (jetstreamHistoryEnd server 0 (encodeSubject pattern))
      (jetstreamFirstSequenceAfter server 0 (encodeSubject pattern)) endAt = .ok e ∧
    Delivers (jetstreamGetMessagesBatch fromUtf8Lossy server)
      (replayParams (encodeSubject pattern) batchSize startAt e)
      (fun m => Matching fromUtf8Lossy raw h pattern m ∧ startAt.admits m = true ∧
        endAt.admits m = true)

theorem jetstreamHistoryEnd_eq (hserver : server.Keeps h raw) (call : Nat)
    (hwatch : isTopicBase watchBase = true) (htokens : tokens ≠ []) :
    ∃ last, jetstreamHistoryEnd server call (encodeSubject (watchBase :: tokens)) = .ok last ∧
      ∀ e ∈ h.onStream (toAsciiUppercase watchBase), e.sequence ≤ last := by
  obtain ⟨fixed, hfixed⟩ := exists_coarsePattern watchBase tokens hwatch htokens
  obtain ⟨state, hstate, -, hlast⟩ := hserver.streamInfo call (toAsciiUppercase watchBase)
  refine ⟨state.lastSequence, ?_, hlast⟩
  simp only [jetstreamHistoryEnd, hfixed.analyzed, hserver.ensureStreamForTopic, withContext_ok,
    hfixed.streamName, hserver.getStream, hstate, bind, Except.bind]

theorem replayHonoured_iff (hserver : server.Keeps h raw) (hstamped : h.Stamped)
    (hwatch : isTopicBase watchBase = true) (htokens : tokens ≠ []) (startAt : StartAt)
    (endAt : EndAt) (batchSize : Nat) :
    ReplayHonoured fromUtf8Lossy server raw h (watchBase :: tokens) startAt endAt batchSize ↔
      (Expressible startAt ∧ (0 < batchSize ∨
        ∀ m, Matching fromUtf8Lossy raw h (watchBase :: tokens) m → endAt.admits m = true →
          startAt.admits m = false)) ∨
        h.onStream (toAsciiUppercase watchBase) = [] ∨
        EndsAtZero h (toAsciiUppercase watchBase)
          (backendSubscriptionPattern (encodeSubject (watchBase :: tokens)) (watchBase :: tokens))
          endAt := by
  obtain ⟨fixed, hfixed⟩ := exists_coarsePattern watchBase tokens hwatch htokens
  obtain ⟨last, hlast, hbound⟩ := jetstreamHistoryEnd_eq hserver 0 hwatch htokens
  have hmono := coarse_monotone fromUtf8Lossy raw h (toAsciiUppercase watchBase)
    (backendSubscriptionPattern (encodeSubject (watchBase :: tokens)) (watchBase :: tokens))
  obtain ⟨e, hresolve, -, hspec⟩ := resolveEndSequence_spec hmono last endAt
  have hfirst : jetstreamFirstSequenceAfter server 0 (encodeSubject (watchBase :: tokens)) =
      fun at_ => .ok (firstAfter (coarseMessages fromUtf8Lossy raw h (toAsciiUppercase watchBase)
        (backendSubscriptionPattern (encodeSubject (watchBase :: tokens)) (watchBase :: tokens)))
          at_) :=
    funext (hfixed.coarse ▸ jetstreamFirstSequenceAfter_eq fromUtf8Lossy hserver hstamped 0
      hfixed.analyzed hfixed.streamName)
  -- the resolved sequence bounds the matching entries as the end does
  have hwanted : ∀ m, Wanted fromUtf8Lossy raw h (watchBase :: tokens) e m ↔
      Matching fromUtf8Lossy raw h (watchBase :: tokens) m ∧ endAt.admits m = true := by
    intro m
    have hsequence : ∀ entry ∈ h.entries,
        matchesWatchPattern entry.topic (watchBase :: tokens) = true →
        (entry.sequence ≤ e ↔ endAt.admits (notificationOf fromUtf8Lossy raw entry) = true) := by
      intro entry hentry hmatch
      have hselected := mem_selected_of_matches hwatch hfixed hentry hmatch
        (rfl : DeliverPolicy.all.satisfies entry = true)
      rw [← hfixed.coarse] at hselected
      have hin := hspec (notificationOf fromUtf8Lossy raw entry) (List.mem_map_of_mem hselected)
        (h.positive entry hentry) rfl
      have hle := hbound entry (List.mem_filter.mp hselected).1
      exact hin.trans (and_iff_right hle)
    constructor
    · rintro ⟨entry, hentry, rfl, hmatch, hend⟩
      exact ⟨⟨entry, hentry, rfl, hmatch⟩, (hsequence entry hentry hmatch).mp hend⟩
    · rintro ⟨⟨entry, hentry, rfl, hmatch⟩, hend⟩
      exact ⟨entry, hentry, rfl, hmatch, (hsequence entry hentry hmatch).mpr hend⟩
  have hhonoured : ReplayHonoured fromUtf8Lossy server raw h (watchBase :: tokens) startAt endAt
        batchSize ↔
      WatchHonoured fromUtf8Lossy server raw h (watchBase :: tokens) startAt batchSize e := by
    have hcongr : ∀ m, (Matching fromUtf8Lossy raw h (watchBase :: tokens) m ∧
        startAt.admits m = true ∧ endAt.admits m = true) ↔
        (Wanted fromUtf8Lossy raw h (watchBase :: tokens) e m ∧ startAt.admits m = true) := by
      intro m
      rw [hwanted m]
      exact ⟨fun ⟨hm, hs, he⟩ => ⟨⟨hm, he⟩, hs⟩, fun ⟨⟨hm, he⟩, hs⟩ => ⟨hm, hs, he⟩⟩
    unfold ReplayHonoured WatchHonoured
    rw [hlast, hfirst, hresolve]
    constructor
    · rintro ⟨found, hfound, hdelivers⟩
      cases hfound
      exact (delivers_congr hcongr).mp hdelivers
    · intro hdelivers
      exact ⟨e, rfl, (delivers_congr hcongr).mpr hdelivers⟩
  have hzero : (h.onStream (toAsciiUppercase watchBase) = [] ∨ e = 0) ↔
      (h.onStream (toAsciiUppercase watchBase) = [] ∨ EndsAtZero h (toAsciiUppercase watchBase)
        (backendSubscriptionPattern (encodeSubject (watchBase :: tokens)) (watchBase :: tokens))
        endAt) := by
    by_cases hempty : h.onStream (toAsciiUppercase watchBase) = []
    · exact iff_of_true (Or.inl hempty) (Or.inl hempty)
    · obtain ⟨entry, hentry⟩ := List.exists_mem_of_ne_nil _ hempty
      have hpositive := h.positive entry (onStream_subset hentry)
      have hle := hbound entry hentry
      rw [or_iff_right hempty, or_iff_right hempty]
      exact resolved_eq_zero_iff fromUtf8Lossy (by omega) endAt hresolve
  have hnone : (∀ m, Wanted fromUtf8Lossy raw h (watchBase :: tokens) e m →
        startAt.admits m = false) ↔
      ∀ m, Matching fromUtf8Lossy raw h (watchBase :: tokens) m → endAt.admits m = true →
        startAt.admits m = false := by
    apply forall_congr'
    intro m
    rw [hwanted m, and_imp]
  rw [hhonoured, ← hnone, ← hzero]
  exact history_delivers_iff fromUtf8Lossy hserver hwatch htokens startAt e batchSize

/-- JetStream honours the dates of a watch, and of a replay, exactly when it can express the start
date and reads batches with room for a message, or when there is nothing to read. -/
theorem jetstreamDates_iff (hserver : server.Keeps h raw) (hstamped : h.Stamped)
    (hwatch : isTopicBase watchBase = true) (htokens : tokens ≠ []) (startAt : StartAt)
    (endAt : EndAt) (batchSize historyEnd : Nat) :
    (WatchHonoured fromUtf8Lossy server raw h (watchBase :: tokens) startAt batchSize historyEnd ↔
      (Expressible startAt ∧ (0 < batchSize ∨
        ∀ m, Wanted fromUtf8Lossy raw h (watchBase :: tokens) historyEnd m →
          startAt.admits m = false)) ∨
        h.onStream (toAsciiUppercase watchBase) = [] ∨ historyEnd = 0) ∧
    (ReplayHonoured fromUtf8Lossy server raw h (watchBase :: tokens) startAt endAt batchSize ↔
      (Expressible startAt ∧ (0 < batchSize ∨
        ∀ m, Matching fromUtf8Lossy raw h (watchBase :: tokens) m → endAt.admits m = true →
          startAt.admits m = false)) ∨
        h.onStream (toAsciiUppercase watchBase) = [] ∨
        EndsAtZero h (toAsciiUppercase watchBase)
          (backendSubscriptionPattern (encodeSubject (watchBase :: tokens)) (watchBase :: tokens))
          endAt) :=
  ⟨history_delivers_iff fromUtf8Lossy hserver hwatch htokens startAt historyEnd batchSize,
    replayHonoured_iff fromUtf8Lossy hserver hstamped hwatch htokens startAt endAt batchSize⟩

end Start

-- payloads that are no UTF-8 do not occur below
def utf8OrEmpty (bytes : List UInt8) : String := (fromUtf8 bytes).getD ""

theorem twoTopicsServer_keeps :
    (exactServer twoTopicsHistory plainMessage).Keeps twoTopicsHistory plainMessage :=
  exactServer_keeps twoTopicsHistory plainMessage (fun _ => rfl) fun _ => rfl

theorem twoTopicsHistory_stamped : twoTopicsHistory.Stamped := by
  unfold History.Stamped
  decide

theorem jetstreamDates_iff_od :
    WatchHonoured utf8OrEmpty (exactServer twoTopicsHistory plainMessage) plainMessage
        twoTopicsHistory ["mars", "od"] (.date 5) 1 2 ∧
      ReplayHonoured utf8OrEmpty (exactServer twoTopicsHistory plainMessage) plainMessage
        twoTopicsHistory ["mars", "od"] (.date 5) (.date 6) 1 := by
  have hstart : Expressible (.date 5) := by
    rintro d ⟨⟩
    decide
  constructor
  · exact (jetstreamDates_iff utf8OrEmpty twoTopicsServer_keeps twoTopicsHistory_stamped
      (by decide +kernel) (by simp) (.date 5) (.date 6) 1 2).1.mpr
        (Or.inl ⟨hstart, Or.inl Nat.one_pos⟩)
  · exact (jetstreamDates_iff utf8OrEmpty twoTopicsServer_keeps twoTopicsHistory_stamped
      (by decide +kernel) (by simp) (.date 5) (.date 6) 1 2).2.mpr
        (Or.inl ⟨hstart, Or.inl Nat.one_pos⟩)

/-- A replay from the year 5138, which the request parser accepts, fails over two messages. -/
theorem farFuture_refused :
    NotificationRequest.parseDateFlexible plainLibraries "99999999999" =
        .ok 99999999999000000000 ∧
      ¬ ReplayHonoured utf8OrEmpty (exactServer twoTopicsHistory plainMessage) plainMessage
        twoTopicsHistory ["mars", "od"] (.date 99999999999000000000) .latest 1 := by
  refine ⟨by decide +kernel, ?_⟩
  rw [replayHonoured_iff utf8OrEmpty twoTopicsServer_keeps twoTopicsHistory_stamped
    (by decide +kernel) (by simp)]
  rintro (⟨hstart, -⟩ | hempty | hzero)
  · have hrange := (hstart _ rfl).2
    revert hrange
    decide
  · revert hempty
    decide +kernel
  · exact hzero

end AvisoServer
