import AvisoServer.Backend.Invariant
import AvisoServer.Lib.Paging
import AvisoServer.Lib.Runs

/-!
# Replay pagination over the in-memory store

The replay follows `next_sequence` from batch to batch while `has_more` holds. Over a store that
does not change this collects the selected messages once each and in order, and under concurrent
changes it still never goes back and never skips a message that stays.
-/

namespace AvisoServer

/-! ## 1. The batch loop -/

/-- The pagination state of the replay loop. -/
structure BatchCursor where
  params : BatchParams
  hasMore : Bool
  deriving DecidableEq, Repr

/-- Update the pagination state for the next batch. -/
def BatchCursor.advance (cursor : BatchCursor) (batch : BatchResult) : BatchCursor where
  hasMore := batch.hasMore
  params :=
    match batch.nextSequence with
    | some nextSeq => cursor.params.withSequence nextSeq
    | none => cursor.params

/-- Fetch batches while there are more; `fetch i` is what the backend answers at call `i`, and
`none` means that the fuel did not suffice. -/
def collectBatches (fetch : Nat → BatchParams → Result BatchResult) :
    Nat → Nat → BatchCursor → List NotificationMessage →
      Option (Result (List NotificationMessage))
  | 0, _, cursor, collected => if cursor.hasMore then none else some (.ok collected)
  | fuel + 1, call, cursor, collected =>
    if cursor.hasMore then
      match fetch call cursor.params with
      | .ok batch =>
        collectBatches fetch fuel (call + 1) (cursor.advance batch) (collected ++ batch.messages)
      | .error e => some (.error e)
    else some (.ok collected)

/-- The parameters of a replay's first batch. -/
def replayParams (topic : String) (batchSize : Nat) (startAt : StartAt) (endSequence : Nat) :
    BatchParams :=
  ((BatchParams.new topic batchSize).withStartAt startAt).withEndSequence endSequence

@[simp] theorem replayParams_eq (topic : String) (batchSize : Nat) (startAt : StartAt)
    (endSequence : Nat) : replayParams topic batchSize startAt endSequence =
      { topic := topic, startAt := startAt, limit := batchSize, endSequence := endSequence } := rfl

/-- What a replay should deliver: the stored messages that match, satisfy the start and are not
past the end, in sequence order. -/
def replaySelection (state : BackendState) (pattern : List String) (startAt : StartAt)
    (endSequence : Nat) : List NotificationMessage :=
  sortBySequence (state.stored.filter fun m =>
    matchesWatchPattern m.topic pattern && startAt.admits m && decide (m.sequence ≤ endSequence))

/-! ## 2. Batches as pages -/

/-- Start points are cursors over sequences. -/
def startScheme : Paging.Scheme NotificationMessage StartAt where
  key := (·.sequence)
  Admits c m := c.admits m = true
  resume := .sequence
  admits_resume n m := by simp [StartAt.admits]

def BatchResult.page (batch : BatchResult) : Paging.Page NotificationMessage where
  items := batch.messages
  more := batch.hasMore
  next := batch.nextSequence

def BatchCursor.reader (cursor : BatchCursor) (collected : List NotificationMessage) :
    Paging.Reader NotificationMessage StartAt where
  cursor := cursor.params.startAt
  more := cursor.hasMore
  delivered := collected

theorem BatchCursor.advance_params (cursor : BatchCursor) (batch : BatchResult) :
    (cursor.advance batch).params =
      cursor.params.withStartAt (cursor.advance batch).params.startAt := by
  simp only [BatchCursor.advance]
  cases batch.nextSequence <;> rfl

theorem BatchCursor.reader_advance (cursor : BatchCursor) (batch : BatchResult)
    (collected : List NotificationMessage) :
    (cursor.advance batch).reader (collected ++ batch.messages) =
      startScheme.advance (cursor.reader collected) batch.page := by
  simp only [BatchCursor.reader, BatchCursor.advance, Paging.Scheme.advance, BatchResult.page]
  cases batch.nextSequence <;> rfl

/-- The batch loop is the pagination loop of the library. -/
theorem collectBatches_eq_follow (fetch : Nat → BatchParams → Result BatchResult)
    (answer : Nat → StartAt → BatchResult) (base : BatchParams) {C : StartAt → Prop}
    (hC : startScheme.Closed C)
    (hfetch : ∀ call c, C c → fetch call (base.withStartAt c) = .ok (answer call c))
    (fuel call : Nat) (cursor : BatchCursor) (collected : List NotificationMessage)
    (hbase : cursor.params = base.withStartAt cursor.params.startAt)
    (hcursor : C cursor.params.startAt) :
    collectBatches fetch fuel call cursor collected =
      (startScheme.follow (fun i c => (answer i c).page) fuel call
        (cursor.reader collected)).map .ok := by
  induction fuel generalizing call cursor collected with
  | zero =>
    simp only [collectBatches, Paging.Scheme.follow, BatchCursor.reader]
    split_ifs with hmore <;> simp [hmore]
  | succ fuel ih =>
    simp only [collectBatches, Paging.Scheme.follow]
    cases hmore : cursor.hasMore with
    | false => simp [BatchCursor.reader, hmore]
    | true =>
      have hanswer : fetch call cursor.params = .ok (answer call cursor.params.startAt) := by
        rw [hbase]
        exact hfetch call cursor.params.startAt hcursor
      have hC' : C (cursor.advance (answer call cursor.params.startAt)).params.startAt := by
        have h := hC.advance startScheme (r := cursor.reader collected) hcursor
          (answer call cursor.params.startAt).page
        rwa [← BatchCursor.reader_advance] at h
      have hnext : (cursor.advance (answer call cursor.params.startAt)).params =
          base.withStartAt (cursor.advance (answer call cursor.params.startAt)).params.startAt := by
        rw [BatchCursor.advance_params, hbase]
        rfl
      rw [hanswer, if_pos rfl, if_pos (by simpa [BatchCursor.reader] using hmore)]
      dsimp only
      rw [ih _ _ _ hnext hC', BatchCursor.reader_advance]
      rfl

/-! ## 3. One batch of the in-memory backend -/

/-- The messages from which the batches of one replay are taken. -/
def Offered (state : BackendState) (pattern : List String) (endSequence : Nat)
    (m : NotificationMessage) : Prop :=
  m ∈ state.stored ∧ matchesWatchPattern m.topic pattern = true ∧ m.sequence ≤ endSequence

theorem mem_sortBySequence (messages : List NotificationMessage) (m : NotificationMessage) :
    m ∈ sortBySequence messages ↔ m ∈ messages :=
  (List.perm_insertionSort _ messages).mem_iff

theorem retainStart_eq_filter (startAt : StartAt) (messages : List NotificationMessage) :
    retainStart startAt messages = messages.filter startAt.admits := by
  cases startAt with
  | liveOnly => exact (List.filter_eq_self.mpr fun _ _ => rfl).symm
  | sequence n =>
    simp only [retainStart]
    split_ifs with hn
    · rfl
    · exact (List.filter_eq_self.mpr fun m _ => by simp [StartAt.admits]; omega).symm
  | date d => rfl

theorem mem_replaySelection (state : BackendState) (pattern : List String) (startAt : StartAt)
    (endSequence : Nat) (m : NotificationMessage) :
    m ∈ replaySelection state pattern startAt endSequence ↔
      Offered state pattern endSequence m ∧ startAt.admits m = true := by
  simp only [replaySelection, mem_sortBySequence, List.mem_filter, Bool.and_eq_true,
    decide_eq_true_eq, Offered]
  tauto

theorem replaySelection_increasing (state : BackendState) (hvalid : state.Valid)
    (pattern : List String) (startAt : StartAt) (endSequence : Nat) :
    Paging.Increasing startScheme.key (replaySelection state pattern startAt endSequence) := by
  have hsorted : (replaySelection state pattern startAt endSequence).Pairwise
      fun x y => x.sequence ≤ y.sequence := List.pairwise_insertionSort _ _
  have hnodup : ((replaySelection state pattern startAt endSequence).map (·.sequence)).Nodup := by
    have hperm := (List.perm_insertionSort (fun x y : NotificationMessage =>
      x.sequence ≤ y.sequence) (state.stored.filter fun m =>
        matchesWatchPattern m.topic pattern && startAt.admits m &&
          decide (m.sequence ≤ endSequence))).map (·.sequence)
    exact hperm.nodup_iff.mpr ((List.filter_sublist.map _).nodup hvalid.distinct)
  exact (hsorted.and (List.pairwise_map.mp hnodup)).imp fun h => lt_of_le_of_ne h.1 h.2

/-- The batch, as one expression in the selected messages. -/
theorem getMessagesBatch_page (state : BackendState) (params : BatchParams) (coarse : String)
    (pattern : List String) (hpattern : analyzeWatchPattern params.topic = .ok (coarse, pattern)) :
    ∃ batch, getMessagesBatch state params = .ok batch ∧
      batch.page =
        { items := (replaySelection state pattern params.startAt params.endSequence).take
            params.limit
          more := decide (params.limit <
            (replaySelection state pattern params.startAt params.endSequence).length)
          next := (((replaySelection state pattern params.startAt params.endSequence).take
            params.limit).map (·.sequence)).max?.map (· + 1) } := by
  have hselect : sortBySequence (retainStart params.startAt
      ((matchingMessages state pattern).filter fun message =>
        message.sequence ≤ params.endSequence)) =
      replaySelection state pattern params.startAt params.endSequence := by
    rw [replaySelection, retainStart_eq_filter, matchingMessages, List.filter_filter,
      List.filter_filter]
    congr 2
    funext m
    ac_rfl
  simp only [getMessagesBatch, hpattern, bind, Except.bind]
  split_ifs with hnil
  · refine ⟨_, rfl, ?_⟩
    rw [hnil] at hselect
    simp [← hselect, BatchResult.page, BatchResult.empty, sortBySequence]
  · refine ⟨_, rfl, ?_⟩
    simp only [hselect, BatchResult.page, BatchResult.new]

/-- A batch of one message or more serves its cursor. -/
theorem takePage_serves (selected : List NotificationMessage) (S : NotificationMessage → Prop)
    (startAt : StartAt) (limit : Nat) (hlimit : 0 < limit)
    (hincreasing : Paging.Increasing startScheme.key selected)
    (hmem : ∀ m, m ∈ selected ↔ S m ∧ startAt.admits m = true) :
    startScheme.Serves S startAt
      { items := selected.take limit
        more := decide (limit < selected.length)
        next := ((selected.take limit).map (·.sequence)).max?.map (· + 1) } where
  increasing := List.Pairwise.sublist (List.take_sublist limit selected) hincreasing
  sound := fun m hm => (hmem m).mp (List.mem_of_mem_take hm)
  passed := by
    intro n hn m hm
    obtain ⟨top, htop, rfl⟩ := Option.map_eq_some_iff.mp hn
    have hle := (List.max?_eq_some_iff.mp htop).2 _ (List.mem_map_of_mem hm)
    exact Nat.lt_succ_of_le hle
  announced := by
    intro hnone
    simpa using hnone
  complete := by
    intro m hm ha
    have hsel : m ∈ selected := (hmem m).mpr ⟨hm, ha⟩
    rw [← List.take_append_drop limit selected, List.mem_append] at hsel
    rcases hsel with htake | hdrop
    · exact Or.inl htake
    · have hlength : limit < selected.length := by
        have hne := List.ne_nil_of_mem hdrop
        simpa [List.drop_eq_nil_iff] using hne
      obtain ⟨first, hfirst⟩ := List.exists_mem_of_ne_nil (selected.take limit) (by
        rw [Ne, List.take_eq_nil_iff]
        rintro (h | rfl)
        · omega
        · simp at hlength)
      have hsome : ((selected.take limit).map (·.sequence)).max?.isSome = true := by
        rw [List.isSome_max?_iff]
        simpa using List.ne_nil_of_mem hfirst
      obtain ⟨top, htop⟩ := Option.isSome_iff_exists.mp hsome
      obtain ⟨last, hlast, rfl⟩ := List.mem_map.mp (List.max?_eq_some_iff.mp htop).1
      refine Or.inr ⟨by simpa using hlength, last.sequence + 1, by rw [htop]; rfl, ?_⟩
      have hsplit := hincreasing
      rw [← List.take_append_drop limit selected] at hsplit
      exact (List.pairwise_append.mp hsplit).2.2 last hlast m hdrop

theorem takePage_progress (selected : List NotificationMessage) (startAt : StartAt) (limit : Nat)
    (more : Bool) (raw : NotificationMessage → Prop)
    (hmem : ∀ m ∈ selected, raw m ∧ startAt.admits m = true) :
    startScheme.Progress raw startAt
      { items := selected.take limit
        more := more
        next := ((selected.take limit).map (·.sequence)).max?.map (· + 1) } := by
  intro n hn
  obtain ⟨top, htop, rfl⟩ := Option.map_eq_some_iff.mp hn
  obtain ⟨last, hlast, rfl⟩ := List.mem_map.mp (List.max?_eq_some_iff.mp htop).1
  obtain ⟨hraw, ha⟩ := hmem last (List.mem_of_mem_take hlast)
  exact ⟨last, hraw, ha, Nat.lt_succ_self _⟩

section Batch

variable {state : BackendState} (params : BatchParams) {coarse : String} {pattern : List String}
  {batch : BatchResult}

theorem getMessagesBatch_serves (hvalid : state.Valid)
    (hpattern : analyzeWatchPattern params.topic = .ok (coarse, pattern))
    (hlimit : 0 < params.limit) (hbatch : getMessagesBatch state params = .ok batch) :
    startScheme.Serves (Offered state pattern params.endSequence) params.startAt batch.page := by
  obtain ⟨answer, hanswer, hpage⟩ := getMessagesBatch_page state params coarse pattern hpattern
  rw [hbatch] at hanswer
  cases hanswer
  rw [hpage]
  exact takePage_serves _ _ _ _ hlimit
    (replaySelection_increasing state hvalid pattern params.startAt params.endSequence)
    (mem_replaySelection state pattern params.startAt params.endSequence)

theorem getMessagesBatch_progress
    (hpattern : analyzeWatchPattern params.topic = .ok (coarse, pattern))
    (hbatch : getMessagesBatch state params = .ok batch) :
    startScheme.Progress (· ∈ state.stored) params.startAt batch.page := by
  obtain ⟨answer, hanswer, hpage⟩ := getMessagesBatch_page state params coarse pattern hpattern
  rw [hbatch] at hanswer
  cases hanswer
  rw [hpage]
  refine takePage_progress _ _ _ _ _ fun m hm => ?_
  have h := (mem_replaySelection state pattern params.startAt params.endSequence m).mp hm
  exact ⟨h.1.1, h.2⟩

theorem getMessagesBatch_announces
    (hpattern : analyzeWatchPattern params.topic = .ok (coarse, pattern))
    (hlimit : 0 < params.limit) (hbatch : getMessagesBatch state params = .ok batch) :
    Paging.Scheme.Announces batch.page := by
  obtain ⟨answer, hanswer, hpage⟩ := getMessagesBatch_page state params coarse pattern hpattern
  rw [hbatch] at hanswer
  cases hanswer
  rw [hpage, Paging.Scheme.Announces]
  intro hmore
  rw [Option.isSome_map, List.isSome_max?_iff, Ne, List.map_eq_nil_iff, List.take_eq_nil_iff]
  rintro (h | h)
  · omega
  · simp [h] at hmore

end Batch

/-! ## 4. A store that does not change -/

/-- Timestamps do not decrease with the sequence. -/
def TimestampsMonotone (messages : NotificationMessage → Prop) : Prop :=
  ∀ x y, messages x → messages y → x.sequence ≤ y.sequence →
    ∀ tx ty, x.timestamp = some tx → y.timestamp = some ty → tx ≤ ty

theorem startAt_upwardClosed (raw : NotificationMessage → Prop)
    (hstamped : ∀ m, raw m → m.timestamp.isSome = true) (startAt : StartAt)
    (hmono : ∀ d, startAt = .date d → TimestampsMonotone raw) :
    startScheme.UpwardClosed raw startAt := by
  intro x y hx hy hax hxy
  cases startAt with
  | liveOnly => rfl
  | sequence n =>
    have hx' : n ≤ x.sequence := by simpa [startScheme, StartAt.admits] using hax
    have hy' : n ≤ y.sequence := hx'.trans hxy
    simpa [startScheme, StartAt.admits] using hy'
  | date d =>
    obtain ⟨ty, hty⟩ := Option.isSome_iff_exists.mp (hstamped y hy)
    obtain ⟨tx, htx⟩ := Option.isSome_iff_exists.mp (hstamped x hx)
    have hle : tx ≤ ty := hmono d rfl x y hx hy hxy tx ty htx hty
    have hx' : d ≤ tx := by simpa [startScheme, StartAt.admits, htx] using hax
    have hy' : d ≤ ty := hx'.trans hle
    simpa [startScheme, StartAt.admits, hty] using hy'

/-- The answers of an unchanged store, as pages: they serve their cursor, resume past a stored
message and announce where. -/
theorem getMessagesBatch_answers (state : BackendState) (topic coarse : String)
    (pattern : List String) (hpattern : analyzeWatchPattern topic = .ok (coarse, pattern))
    (endSequence batchSize : Nat) (hsize : 0 < batchSize) :
    ∃ answer : StartAt → BatchResult,
      (∀ c, getMessagesBatch state
        { topic := topic, startAt := c, limit := batchSize, endSequence := endSequence } =
          .ok (answer c)) ∧
      (∀ c, startScheme.Progress (· ∈ state.stored) c (answer c).page) ∧
      ∀ c, Paging.Scheme.Announces (answer c).page := by
  have htotal (c : StartAt) : ∃ batch, getMessagesBatch state
      { topic := topic, startAt := c, limit := batchSize, endSequence := endSequence } =
        .ok batch := by
    obtain ⟨batch, hbatch, -⟩ := getMessagesBatch_page state
      { topic := topic, startAt := c, limit := batchSize, endSequence := endSequence }
      coarse pattern hpattern
    exact ⟨batch, hbatch⟩
  choose answer hanswer using htotal
  refine ⟨answer, hanswer, fun c => ?_, fun c => ?_⟩
  · exact getMessagesBatch_progress
      { topic := topic, startAt := c, limit := batchSize, endSequence := endSequence }
      hpattern (hanswer c)
  · exact getMessagesBatch_announces
      { topic := topic, startAt := c, limit := batchSize, endSequence := endSequence }
      hpattern hsize (hanswer c)

theorem startScheme_all_closed : startScheme.Closed fun _ => True :=
  fun _ => trivial

/-- The loop over a store that does not change ends. -/
theorem collectBatches_terminates (state : BackendState) (topic coarse : String)
    (pattern : List String) (hpattern : analyzeWatchPattern topic = .ok (coarse, pattern))
    (startAt : StartAt) (endSequence batchSize : Nat) (hsize : 0 < batchSize) :
    ∃ fuel, (collectBatches (fun _ => getMessagesBatch state) fuel 0
      { params := replayParams topic batchSize startAt endSequence, hasMore := true } []).isSome =
        true := by
  obtain ⟨answer, hanswer, hprog, hann⟩ := getMessagesBatch_answers state topic coarse pattern
    hpattern endSequence batchSize hsize
  refine ⟨state.stored.length + 2, ?_⟩
  rw [replayParams_eq, collectBatches_eq_follow (fun _ => getMessagesBatch state)
    (fun _ c => answer c)
    { topic := topic, startAt := startAt, limit := batchSize, endSequence := endSequence }
    startScheme_all_closed (fun _ c _ => hanswer c) _ _ _ _ rfl trivial, Option.isSome_map]
  exact startScheme.follow_terminates _ startScheme_all_closed state.stored
    (fun _ c _ => hann c) (fun _ c _ => hprog c) 0 (Paging.Reader.start startAt) trivial

/-- The loop over a store that does not change ends with the selected messages. -/
theorem collectBatches_eq_replaySelection (state : BackendState) (hvalid : state.Valid)
    (topic coarse : String) (pattern : List String)
    (hpattern : analyzeWatchPattern topic = .ok (coarse, pattern)) (startAt : StartAt)
    (endSequence batchSize : Nat) (hsize : 0 < batchSize)
    (hmono : ∀ d, startAt = .date d → TimestampsMonotone (· ∈ state.stored)) (extra : Nat) :
    collectBatches (fun _ => getMessagesBatch state) (state.stored.length + 2 + extra) 0
        { params := replayParams topic batchSize startAt endSequence, hasMore := true } [] =
      some (.ok (replaySelection state pattern startAt endSequence)) := by
  obtain ⟨answer, hanswer, hprog, hann⟩ := getMessagesBatch_answers state topic coarse pattern
    hpattern endSequence batchSize hsize
  rw [replayParams_eq, collectBatches_eq_follow (fun _ => getMessagesBatch state)
    (fun _ c => answer c)
    { topic := topic, startAt := startAt, limit := batchSize, endSequence := endSequence }
    startScheme_all_closed (fun _ c _ => hanswer c) _ _ _ _ rfl trivial]
  have hserve (i : Nat) (c : StartAt) (_ : True) :
      startScheme.Serves (Offered state pattern endSequence) c (answer c).page :=
    getMessagesBatch_serves
      { topic := topic, startAt := c, limit := batchSize, endSequence := endSequence }
      hvalid hpattern hsize (hanswer c)
  obtain ⟨out, hout⟩ := Option.isSome_iff_exists.mp
    (startScheme.follow_terminates (fun _ c => (answer c).page) startScheme_all_closed state.stored
      (fun _ c _ => hann c) (fun _ c _ => hprog c) 0 (Paging.Reader.start startAt) trivial)
  have hspec := startScheme.follow_spec startScheme_all_closed hserve (fun _ c _ => hprog c)
    (fun m hm => hm.1) (startAt_upwardClosed _ hvalid.stamped startAt hmono) _ _ _ trivial out
    startScheme.exact_start hout
  have heq : out = replaySelection state pattern startAt endSequence :=
    hspec.1.eq_of_mem_iff (replaySelection_increasing state hvalid _ _ _) fun m =>
      (hspec.2 m).trans (mem_replaySelection state pattern startAt endSequence m).symm
  rw [← heq]
  exact congrArg (Option.map Except.ok) (startScheme.follow_mono _ _ extra _ _ _ hout)

/-! ## 5. A store that changes between batches -/

/-- A replay over a store that others write to: the cursor and the messages delivered so far. -/
structure PagedReplay where
  store : BackendState
  cursor : BatchCursor
  delivered : List NotificationMessage

def PagedReplay.start (store : BackendState) (params : BatchParams) : PagedReplay where
  store := store
  cursor := { params := params, hasMore := true }
  delivered := []

inductive PagedReplay.Step (config : InMemoryConfig) (toLowercase : String → String) :
    PagedReplay → PagedReplay → Prop where
  | store (replay : PagedReplay) (sent : Option NotificationMessage) (next : BackendState)
      (hstep : StoreStep config toLowercase replay.store sent next) :
      PagedReplay.Step config toLowercase replay { replay with store := next }
  | fetch (replay : PagedReplay) (batch : BatchResult) (hmore : replay.cursor.hasMore = true)
      (hbatch : getMessagesBatch replay.store replay.cursor.params = .ok batch) :
      PagedReplay.Step config toLowercase replay
        { replay with
          cursor := replay.cursor.advance batch
          delivered := replay.delivered ++ batch.messages }

def PagedReplay.reader (replay : PagedReplay) : Paging.Reader NotificationMessage StartAt :=
  replay.cursor.reader replay.delivered

/-- What every state of a replay with these parameters satisfies. -/
structure PagedReplay.Inv (base : BatchParams) (pattern : List String) (replay : PagedReplay) :
    Prop where
  valid : replay.store.Valid
  params : replay.cursor.params = base.withStartAt replay.cursor.params.startAt
  follows : startScheme.Follows replay.reader
  delivered : ∀ m ∈ replay.delivered,
    matchesWatchPattern m.topic pattern = true ∧ m.sequence ≤ base.endSequence

section Changing

variable {config : InMemoryConfig} {toLowercase : String → String} {coarse : String}
  {pattern : List String} {base : BatchParams}

theorem PagedReplay.start_inv {state : BackendState} (hvalid : state.Valid) :
    (PagedReplay.start state base).Inv base pattern where
  valid := hvalid
  params := rfl
  follows := startScheme.follows_start base.startAt
  delivered := by intro m hm; cases hm

theorem PagedReplay.start_covered {state : BackendState} {m : NotificationMessage}
    (hstart : base.startAt.admits m = true) :
    startScheme.Covered (PagedReplay.start state base).reader m :=
  Or.inr ⟨rfl, hstart⟩

/-- The page a fetch returns to a replay that satisfies the invariant. -/
theorem PagedReplay.Inv.serves {replay : PagedReplay} {batch : BatchResult}
    (h : replay.Inv base pattern) (hpattern : analyzeWatchPattern base.topic = .ok (coarse, pattern))
    (hsize : 0 < base.limit)
    (hbatch : getMessagesBatch replay.store replay.cursor.params = .ok batch) :
    startScheme.Serves (Offered replay.store pattern base.endSequence)
        replay.cursor.params.startAt batch.page ∧
      startScheme.Progress (· ∈ replay.store.stored) replay.cursor.params.startAt batch.page := by
  rw [h.params] at hbatch
  exact ⟨getMessagesBatch_serves (base.withStartAt replay.cursor.params.startAt) h.valid hpattern
      hsize hbatch,
    getMessagesBatch_progress (base.withStartAt replay.cursor.params.startAt) hpattern hbatch⟩

theorem PagedReplay.step_inv (hpattern : analyzeWatchPattern base.topic = .ok (coarse, pattern))
    (hsize : 0 < base.limit) {replay next : PagedReplay} (h : replay.Inv base pattern)
    (hstep : PagedReplay.Step config toLowercase replay next) : next.Inv base pattern := by
  cases hstep with
  | store sent store hstore =>
    exact { valid := storeStep_valid h.valid hstore, params := h.params, follows := h.follows,
            delivered := h.delivered }
  | fetch batch hmore hbatch =>
    obtain ⟨hserves, hprog⟩ := h.serves hpattern hsize hbatch
    refine { valid := h.valid, params := ?_, follows := ?_, delivered := ?_ }
    · change (replay.cursor.advance batch).params = _
      rw [BatchCursor.advance_params, h.params]
      rfl
    · simp only [PagedReplay.reader, BatchCursor.reader_advance]
      exact h.follows.advance startScheme hserves hprog
    · intro m hm
      rcases List.mem_append.mp hm with hm | hm
      · exact h.delivered m hm
      · exact (hserves.sound m hm).1.2

/-- A selected message that is stored in every visited state stays covered. -/
theorem PagedReplay.step_covered
    (hpattern : analyzeWatchPattern base.topic = .ok (coarse, pattern)) (hsize : 0 < base.limit)
    {m : NotificationMessage} (hmatch : matchesWatchPattern m.topic pattern = true)
    (hend : m.sequence ≤ base.endSequence) {replay next : PagedReplay}
    (h : replay.Inv base pattern) (hcovered : startScheme.Covered replay.reader m)
    (hstored : startScheme.Admits replay.reader.cursor m → m ∈ replay.store.stored)
    (hstep : PagedReplay.Step config toLowercase replay next) :
    startScheme.Covered next.reader m := by
  cases hstep with
  | store sent store hstore => exact hcovered
  | fetch batch hmore hbatch =>
    simp only [PagedReplay.reader, BatchCursor.reader_advance]
    exact hcovered.advance startScheme (h.serves hpattern hsize hbatch).1 fun ha =>
      ⟨hstored ha, hmatch, hend⟩

end Changing

theorem PagedReplay.run_inv {config : InMemoryConfig} {toLowercase : String → String}
    {state : BackendState} (hvalid : state.Valid) (base : BatchParams) {coarse : String}
    {pattern : List String} (hpattern : analyzeWatchPattern base.topic = .ok (coarse, pattern))
    (hsize : 0 < base.limit) {visited : List PagedReplay} {final : PagedReplay}
    (hrun : Runs.Run (PagedReplay.Step config toLowercase) (PagedReplay.start state base) visited
      final) : final.Inv base pattern :=
  hrun.invariant (PagedReplay.Inv base pattern)
    (fun _ _ h hstep => PagedReplay.step_inv hpattern hsize h hstep) (PagedReplay.start_inv hvalid)

theorem PagedReplay.run_covered {config : InMemoryConfig} {toLowercase : String → String}
    {state : BackendState} (hvalid : state.Valid) (base : BatchParams) {coarse : String}
    {pattern : List String} (hpattern : analyzeWatchPattern base.topic = .ok (coarse, pattern))
    (hsize : 0 < base.limit) {m : NotificationMessage}
    (hmatch : matchesWatchPattern m.topic pattern = true) (hend : m.sequence ≤ base.endSequence)
    (hstart : base.startAt.admits m = true) {visited : List PagedReplay} {final : PagedReplay}
    (hrun : Runs.Run (PagedReplay.Step config toLowercase) (PagedReplay.start state base) visited
      final) (hstays : ∀ v ∈ visited, m ∈ v.store.stored) :
    startScheme.Covered final.reader m := by
  have h := hrun.invariant_of_visited
    (fun replay => replay.Inv base pattern ∧ startScheme.Covered replay.reader m)
    (fun replay => m ∈ replay.store.stored)
    (fun _ _ hinv hstored _ hstep => ⟨PagedReplay.step_inv hpattern hsize hinv.1 hstep,
      PagedReplay.step_covered hpattern hsize hmatch hend hinv.1 hinv.2 (fun _ => hstored) hstep⟩)
    ⟨PagedReplay.start_inv hvalid, PagedReplay.start_covered hstart⟩ hstays
  exact h.2

/-! ## 6. Completeness -/

/-- Following the batches of any positive size over an unchanged store yields exactly the selected
messages, in increasing order; while the store changes, the delivered sequences stay increasing and
bounded and no message that stays stored is lost or repeated. -/
theorem replayPagination_complete (config : InMemoryConfig) (toLowercase : String → String)
    (state : BackendState) (hreach : Reachable config toLowercase state) (topic coarse : String)
    (pattern : List String) (hpattern : analyzeWatchPattern topic = .ok (coarse, pattern))
    (startAt : StartAt) (endSequence batchSize : Nat) (hsize : 0 < batchSize) :
    ((∀ d, startAt = .date d → TimestampsMonotone (· ∈ state.stored)) →
      (∃ fuel, ∀ extra, collectBatches (fun _ => getMessagesBatch state) (fuel + extra) 0
          { params := replayParams topic batchSize startAt endSequence, hasMore := true } [] =
        some (.ok (replaySelection state pattern startAt endSequence))) ∧
      (replaySelection state pattern startAt endSequence).Pairwise
        (fun x y => x.sequence < y.sequence) ∧
      ∀ m, m ∈ replaySelection state pattern startAt endSequence ↔
        m ∈ state.stored ∧ matchesWatchPattern m.topic pattern = true ∧
          startAt.admits m = true ∧ m.sequence ≤ endSequence) ∧
    ∀ visited final, Runs.Run (PagedReplay.Step config toLowercase)
        (PagedReplay.start state (replayParams topic batchSize startAt endSequence)) visited final →
      final.delivered.Pairwise (fun x y => x.sequence < y.sequence) ∧
      (∀ m ∈ final.delivered,
        matchesWatchPattern m.topic pattern = true ∧ m.sequence ≤ endSequence) ∧
      ∀ m, matchesWatchPattern m.topic pattern = true → startAt.admits m = true →
        m.sequence ≤ endSequence → (∀ v ∈ visited, m ∈ v.store.stored) →
        final.cursor.hasMore = false → final.delivered.count m = 1 := by
  have hvalid := reachable_valid hreach
  refine ⟨fun hmono => ⟨⟨state.stored.length + 2, fun extra => ?_⟩, ?_, fun m => ?_⟩,
    fun visited final hrun => ?_⟩
  · exact collectBatches_eq_replaySelection state hvalid topic coarse pattern hpattern startAt
      endSequence batchSize hsize hmono extra
  · exact replaySelection_increasing state hvalid pattern startAt endSequence
  · rw [mem_replaySelection, Offered]
    tauto
  · set base := replayParams topic batchSize startAt endSequence
    have hbase : analyzeWatchPattern base.topic = .ok (coarse, pattern) := hpattern
    have hlimit : 0 < base.limit := hsize
    have hinv := PagedReplay.run_inv hvalid base hbase hlimit hrun
    refine ⟨hinv.follows.increasing, hinv.delivered, fun m hmatch hstart hend hstays hdone => ?_⟩
    rcases PagedReplay.run_covered hvalid base hbase hlimit hmatch hend hstart hrun hstays with
      hmem | ⟨hmore, -⟩
    · exact List.count_eq_one_of_mem (hinv.follows.increasing.nodup) hmem
    · have hcontra : final.cursor.hasMore = true := hmore
      rw [hdone] at hcontra
      cases hcontra

def twoTopicsConfig : InMemoryConfig where
  maxHistoryPerTopic := 1
  maxTopics := 10000

/-- One message on each of two topics, stored at times five and seven. -/
def twoTopics : BackendState :=
  (storeMessage twoTopicsConfig ⟨7, fun _ => 7⟩ "mars.rd" "2" none
    (storeMessage twoTopicsConfig ⟨5, fun _ => 5⟩ "mars.od" "1" none BackendState.initial).1).1

theorem twoTopics_reachable : Reachable twoTopicsConfig id twoTopics :=
  (Reachable.initial.step (.storeMessage _ _ _ _ _)).step (.storeMessage _ _ _ _ _)

theorem twoTopics_monotone : TimestampsMonotone (· ∈ twoTopics.stored) := by
  have hstored : twoTopics.stored =
      [⟨2, "mars.rd", "2", some 7, none⟩, ⟨1, "mars.od", "1", some 5, none⟩] := by decide
  intro x y hx hy hxy tx ty htx hty
  simp only [hstored, List.mem_cons, List.not_mem_nil, or_false] at hx hy
  rcases hx with rfl | rfl <;> rcases hy with rfl | rfl <;> cases htx <;> cases hty <;>
    revert hxy <;> decide

theorem replayPagination_complete_twoTopics :
    (∃ fuel, ∀ extra, collectBatches (fun _ => getMessagesBatch twoTopics) (fuel + extra) 0
        { params := replayParams "mars.%2A" 1 (.date 5) 10, hasMore := true } [] =
      some (.ok (replaySelection twoTopics ["mars", "*"] (.date 5) 10))) ∧
    (replaySelection twoTopics ["mars", "*"] (.date 5) 10).map (·.sequence) = [1, 2] :=
  ⟨((replayPagination_complete twoTopicsConfig id twoTopics twoTopics_reachable "mars.%2A" "mars.>"
      ["mars", "*"] (by decide +kernel) (.date 5) 10 1 (by decide)).1
      fun _ _ => twoTopics_monotone).1,
    by decide +kernel⟩

end AvisoServer
