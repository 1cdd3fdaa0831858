import AvisoServer.Configuration.Types
import AvisoServer.Sse.ReplayQuota

/-!
# Replay termination

With a positive batch size every batch that announces more resumes further on, so the replay of a
store that does not change ends. A batch size of zero is accepted from the configuration, and then
a batch announces more without saying where to resume.
-/

namespace AvisoServer

/-- The replay ends after finitely many fetches. -/
def ReplayEnds (request : ReplayRequest) (fetch : Nat → BatchParams → Result BatchResult)
    (clock : Nat → DateTime) (params : BatchParams) : Prop :=
  ∃ fuel, (historicalFrames request fetch clock fuel 0 (.initial params)).isSome = true

/-! ## 1. Positive batch sizes -/

theorem replayStep_cursor (request : ReplayRequest) (now : DateTime) (batch : BatchResult)
    (state : ReplayState) :
    (replayStep request now (.ok batch) state).1.cursor.params =
        (state.cursor.advance batch).params ∧
      ((replayStep request now (.ok batch) state).1.cursor.hasMore = true →
        (state.cursor.advance batch).hasMore = true) := by
  refine ⟨rfl, fun h => ?_⟩
  simp only [replayStep, Bool.and_eq_true] at h
  exact h.1

/-- The replay fetches no more batches than a reader that collects everything. -/
theorem historicalFrames_isSome_of_collect (request : ReplayRequest)
    (fetch : Nat → BatchParams → Result BatchResult) (clock : Nat → DateTime) (fuel call : Nat)
    (state : ReplayState) (cursor : BatchCursor) (collected : List NotificationMessage)
    (hparams : state.cursor.params = cursor.params)
    (hmore : state.cursor.hasMore = true → cursor.hasMore = true)
    (hcollect : (collectBatches fetch fuel call cursor collected).isSome = true) :
    (historicalFrames request fetch clock fuel call state).isSome = true := by
  induction fuel generalizing call state cursor collected with
  | zero =>
    cases hstate : state.cursor.hasMore with
    | false => simp [historicalFrames_of_done _ _ _ _ _ _ hstate]
    | true => simp [collectBatches, hmore hstate] at hcollect
  | succ fuel ih =>
    cases hstate : state.cursor.hasMore with
    | false => simp [historicalFrames_of_done _ _ _ _ _ _ hstate]
    | true =>
      rw [historicalFrames_of_more _ _ _ _ _ _ hstate, Option.isSome_map]
      rw [collectBatches, if_pos (hmore hstate)] at hcollect
      rw [hparams]
      cases hanswer : fetch call cursor.params with
      | error e => exact congrArg Option.isSome (historicalFrames_of_done _ _ _ _ _ _ rfl)
      | ok batch =>
        rw [hanswer] at hcollect
        obtain ⟨hcursor, hnext⟩ := replayStep_cursor request (clock call) batch state
        refine ih _ _ (cursor.advance batch) _ ?_ ?_ hcollect
        · rw [hcursor]
          simp only [BatchCursor.advance, hparams]
        · intro h
          exact hnext h

theorem replayEnds_of_positive (request : ReplayRequest) (clock : Nat → DateTime)
    (state : BackendState) (topic coarse : String) (pattern : List String)
    (hpattern : analyzeWatchPattern topic = .ok (coarse, pattern)) (startAt : StartAt)
    (endSequence batchSize : Nat) (hsize : 0 < batchSize) :
    ReplayEnds request (fun _ => getMessagesBatch state) clock
      (replayParams topic batchSize startAt endSequence) := by
  obtain ⟨fuel, hfuel⟩ := collectBatches_terminates state topic coarse pattern hpattern startAt
    endSequence batchSize hsize
  exact ⟨fuel, historicalFrames_isSome_of_collect request _ clock fuel 0 _ _ _ rfl (fun h => h)
    hfuel⟩

/-! ## 2. Replays that end at once -/

theorem replayEnds_of_error (request : ReplayRequest) (clock : Nat → DateTime)
    (state : BackendState) (params : BatchParams) (e : Error)
    (herror : analyzeWatchPattern params.topic = .error e) :
    ReplayEnds request (fun _ => getMessagesBatch state) clock params := by
  have hbatch : getMessagesBatch state params = .error e := by
    simp only [getMessagesBatch, herror, bind, Except.bind]
  refine ⟨1, ?_⟩
  simp only [historicalFrames, ReplayState.initial, hbatch, replayStep]
  rfl

theorem replayEnds_of_nothing (request : ReplayRequest) (clock : Nat → DateTime)
    (state : BackendState) (params : BatchParams) (coarse : String) (pattern : List String)
    (hpattern : analyzeWatchPattern params.topic = .ok (coarse, pattern))
    (hnothing : replaySelection state pattern params.startAt params.endSequence = []) :
    ReplayEnds request (fun _ => getMessagesBatch state) clock params := by
  obtain ⟨batch, hbatch, hpage⟩ := getMessagesBatch_page state params coarse pattern hpattern
  have hmore : batch.hasMore = false := by
    have h := congrArg Paging.Page.more hpage
    simpa [hnothing, BatchResult.page] using h
  refine ⟨1, ?_⟩
  rw [historicalFrames_of_more _ _ _ _ _ _ rfl, Option.isSome_map]
  rw [show getMessagesBatch state (ReplayState.initial params).cursor.params = .ok batch from hbatch,
    historicalFrames_of_done]
  · rfl
  · simp [replayStep, BatchCursor.advance, hmore]

/-! ## 3. A batch size of zero -/

/-- A batch of size zero announces more and leaves the replay where it was. -/
theorem replayStep_zero (request : ReplayRequest) (now : DateTime) (state : BackendState)
    (params : BatchParams) (coarse : String) (pattern : List String)
    (hpattern : analyzeWatchPattern params.topic = .ok (coarse, pattern))
    (hzero : params.limit = 0)
    (hsome : replaySelection state pattern params.startAt params.endSequence ≠ []) :
    (replayStep request now (getMessagesBatch state params) (.initial params)).1 =
      .initial params := by
  obtain ⟨batch, hbatch, hpage⟩ := getMessagesBatch_page state params coarse pattern hpattern
  have hmessages : batch.messages = [] := by
    have h := congrArg Paging.Page.items hpage
    simpa [hzero, BatchResult.page] using h
  have hnext : batch.nextSequence = none := by
    have h := congrArg Paging.Page.next hpage
    simpa [hzero, BatchResult.page] using h
  have hmore : batch.hasMore = true := by
    have h := congrArg Paging.Page.more hpage
    have hlength := List.length_pos_iff.mpr hsome
    simpa [hzero, BatchResult.page, hlength] using h
  simp only [hbatch, replayStep, BatchCursor.advance, hmessages, hnext, hmore, batchFrames,
    ReplayState.initial, Bool.not_false, Bool.and_self]

theorem not_replayEnds_of_zero (request : ReplayRequest) (clock : Nat → DateTime)
    (state : BackendState) (params : BatchParams) (coarse : String) (pattern : List String)
    (hpattern : analyzeWatchPattern params.topic = .ok (coarse, pattern))
    (hzero : params.limit = 0)
    (hsome : replaySelection state pattern params.startAt params.endSequence ≠ []) :
    ¬ ReplayEnds request (fun _ => getMessagesBatch state) clock params := by
  have hnever (fuel call : Nat) : historicalFrames request (fun _ => getMessagesBatch state) clock
      fuel call (.initial params) = none := by
    induction fuel generalizing call with
    | zero => rfl
    | succ fuel ih =>
      rw [historicalFrames_of_more _ _ _ _ _ _ rfl]
      have hstep := replayStep_zero request (clock call) state params coarse pattern hpattern hzero
        hsome
      rw [show (ReplayState.initial params).cursor.params = params from rfl, hstep, ih]
      rfl
  rintro ⟨fuel, hfuel⟩
  rw [hnever fuel 0] at hfuel
  cases hfuel

/-! ## 4. Exactly when a replay ends -/

/-- A replay ends exactly when the configured batch size is positive, or the topic does not decode,
or nothing is stored for it. -/
theorem replayEnds_iff (settings : WatchEndpointSettings) (state : BackendState)
    (request : ReplayRequest) (clock : Nat → DateTime) (topic : String) (startAt : StartAt)
    (endSequence : Nat) :
    ReplayEnds request (fun _ => getMessagesBatch state) clock
        (replayParams topic settings.replayBatchSize startAt endSequence) ↔
      0 < settings.replayBatchSize ∨
        ∀ coarse pattern, analyzeWatchPattern topic = .ok (coarse, pattern) →
          ∀ m ∈ state.stored, matchesWatchPattern m.topic pattern = true →
            startAt.admits m = true → ¬ m.sequence ≤ endSequence := by
  cases hpattern : analyzeWatchPattern topic with
  | error e =>
    exact iff_of_true (replayEnds_of_error request clock state _ e hpattern)
      (Or.inr fun coarse pattern h => by cases h)
  | ok analysed =>
    obtain ⟨coarse, pattern⟩ := analysed
    constructor
    · intro hends
      by_contra hno
      push Not at hno
      obtain ⟨hzero, coarse', pattern', heq, m, hm, hmatch, hstart, hend⟩ := hno
      cases heq
      refine not_replayEnds_of_zero request clock state
        (replayParams topic settings.replayBatchSize startAt endSequence) coarse pattern hpattern
        (Nat.le_zero.mp hzero) ?_ hends
      exact List.ne_nil_of_mem
        ((mem_replaySelection state pattern startAt endSequence m).mpr ⟨⟨hm, hmatch, hend⟩, hstart⟩)
    · rintro (hsize | hnothing)
      · exact replayEnds_of_positive request clock state topic coarse pattern hpattern startAt
          endSequence settings.replayBatchSize hsize
      · refine replayEnds_of_nothing request clock state
          (replayParams topic settings.replayBatchSize startAt endSequence) coarse pattern hpattern
          (List.eq_nil_iff_forall_not_mem.mpr fun m hm => ?_)
        obtain ⟨⟨hstored, hmatch, hend⟩, hstart⟩ :=
          (mem_replaySelection state pattern startAt endSequence m).mp hm
        exact hnothing coarse pattern rfl m hstored hmatch hstart hend

def zeroBatchSettings : WatchEndpointSettings :=
  { WatchEndpointSettings.default with replayBatchSize := 0 }

/-- The configuration accepts a batch size of zero, and with it the replay of two stored messages
fetches empty batches for ever. -/
theorem zeroBatch_never_ends :
    zeroBatchSettings.accepted = true ∧ Reachable twoTopicsConfig id twoTopics ∧
      ¬ ReplayEnds oneOdRequest (fun _ => getMessagesBatch twoTopics) (fun _ => 0)
        (replayParams "mars.%2A" zeroBatchSettings.replayBatchSize (.sequence 1) 2) :=
  ⟨by decide, twoTopics_reachable, not_replayEnds_of_zero oneOdRequest _ twoTopics _ "mars.>"
    ["mars", "*"] (by decide +kernel) rfl (by decide +kernel)⟩

end AvisoServer
