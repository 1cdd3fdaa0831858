import AvisoServer.Backend.InMemory
import AvisoServer.Configuration.Validation
import AvisoServer.Lib.Counters

/-!
# The metered backend

A backend is what the handlers call. The metered backend answers every call as the backend inside
it does, and counts the timed operations by their outcome.
-/

namespace AvisoServer

open Counters

/-! ## 1. Backends -/

/-- The trait. A call may change the state also if it fails; a put sees the clock. -/
structure NotificationBackend (σ : Type) where
  capabilities : BackendCapabilities
  connectionHealthy : σ → Bool
  putMessages : Clock → String → String → σ → σ × Result Unit
  putMessageWithHeaders :
    Clock → String → Option (HashMap String) → String → σ → σ × Result Unit
  wipeStream : String → σ → σ × Result WipeStreamResult
  wipeAll : σ → σ × Result Unit
  deleteMessage : String → Nat → σ → σ × Result DeleteMessageResult
  getMessagesBatch : BatchParams → σ → σ × Result BatchResult
  subscribeToTopic : String → σ → σ × Result Subscription
  historyEnd : String → σ → σ × Result Nat
  firstSequenceAfter : String → DateTime → σ → σ × Result (Option Nat)
  shutdown : σ → σ × Result Unit

inductive BackendCall where
  | capabilities
  | connectionHealthy
  | putMessages (clock : Clock) (topic payload : String)
  | putMessageWithHeaders (clock : Clock) (topic : String) (headers : Option (HashMap String))
      (payload : String)
  | wipeStream (streamKey : String)
  | wipeAll
  | deleteMessage (streamKey : String) (sequence : Nat)
  | getMessagesBatch (params : BatchParams)
  | subscribeToTopic (topic : String)
  | historyEnd (topic : String)
  | firstSequenceAfter (topic : String) (at_ : DateTime)
  | shutdown

inductive BackendReply where
  | capabilities (capabilities : BackendCapabilities)
  | healthy (healthy : Bool)
  | unit (result : Result Unit)
  | wipe (result : Result WipeStreamResult)
  | delete (result : Result DeleteMessageResult)
  | batch (result : Result BatchResult)
  | subscription (result : Result Subscription)
  | sequence (result : Result Nat)
  | sequenceAfter (result : Result (Option Nat))

/-- A reply that is no result counts as a success. -/
def BackendReply.isOk : BackendReply → Bool
  | .unit result => result.isOk
  | .wipe result => result.isOk
  | .delete result => result.isOk
  | .batch result => result.isOk
  | .subscription result => result.isOk
  | .sequence result => result.isOk
  | .sequenceAfter result => result.isOk
  | _ => true

namespace NotificationBackend

variable {σ : Type}

def perform (backend : NotificationBackend σ) : BackendCall → σ → σ × BackendReply
  | .capabilities, state => (state, .capabilities backend.capabilities)
  | .connectionHealthy, state => (state, .healthy (backend.connectionHealthy state))
  | .putMessages clock topic payload, state =>
    (backend.putMessages clock topic payload state).map id .unit
  | .putMessageWithHeaders clock topic headers payload, state =>
    (backend.putMessageWithHeaders clock topic headers payload state).map id .unit
  | .wipeStream streamKey, state => (backend.wipeStream streamKey state).map id .wipe
  | .wipeAll, state => (backend.wipeAll state).map id .unit
  | .deleteMessage streamKey sequence, state =>
    (backend.deleteMessage streamKey sequence state).map id .delete
  | .getMessagesBatch params, state => (backend.getMessagesBatch params state).map id .batch
  | .subscribeToTopic topic, state => (backend.subscribeToTopic topic state).map id .subscription
  | .historyEnd topic, state => (backend.historyEnd topic state).map id .sequence
  | .firstSequenceAfter topic at_, state =>
    (backend.firstSequenceAfter topic at_ state).map id .sequenceAfter
  | .shutdown, state => (backend.shutdown state).map id .unit

/-- The replies to a sequence of calls, and the state behind them. -/
def performAll (backend : NotificationBackend σ) : List BackendCall → σ → σ × List BackendReply
  | [], state => (state, [])
  | call :: calls, state =>
    let answered := backend.perform call state
    let rest := backend.performAll calls answered.1
    (rest.1, answered.2 :: rest.2)

end NotificationBackend

/-- The in-memory store, whose writes and wipes do not fail. -/
def inMemoryBackend (config : InMemoryConfig) (toLowercase : String → String) :
    NotificationBackend BackendState where
  capabilities := inMemoryCapabilities
  connectionHealthy := fun _ => true
  putMessages := fun clock topic payload state =>
    ((storeMessage config clock topic payload none state).1, .ok ())
  putMessageWithHeaders := fun clock topic headers payload state =>
    ((storeMessage config clock topic payload headers state).1, .ok ())
  wipeStream := fun streamKey state => (wipeStream toLowercase streamKey state).map id .ok
  wipeAll := fun state => (wipeAll state, .ok ())
  deleteMessage := fun streamKey sequence state =>
    (deleteMessage toLowercase streamKey sequence state).map id .ok
  getMessagesBatch := fun params state => (state, getMessagesBatch state params)
  subscribeToTopic := fun topic state => (state, subscribeToTopic state topic)
  historyEnd := fun topic state => (state, historyEnd state topic)
  firstSequenceAfter := fun topic at_ state => (state, firstSequenceAfter state topic at_)
  shutdown := fun state => (state, .ok ())

/-! ## 2. The decorator -/

def opPublish : String := "publish"
def opGetBatch : String := "get_batch"
def opWipeStream : String := "wipe_stream"
def opWipeAll : String := "wipe_all"
def opDeleteMessage : String := "delete_message"

def allOperations : List String :=
  [opPublish, opGetBatch, opWipeStream, opWipeAll, opDeleteMessage]

/-- The values of the labels `backend`, `operation` and `outcome`. -/
abbrev OperationLabels := String × String × String

/-- The inner state with the two families; of the durations only their number is kept. -/
structure MeteredState (σ : Type) where
  inner : σ
  backendOperationsTotal : CounterVec OperationLabels
  backendOperationDurations : CounterVec OperationLabels

/-- The outcomes of every operation exist from the start. -/
def operationSeries (backend : String) : List OperationLabels :=
  allOperations.flatMap fun operation =>
    ["ok", "error"].map fun outcome => (backend, operation, outcome)

def MeteredState.new {σ : Type} (backend : String) (inner : σ) : MeteredState σ where
  inner := inner
  backendOperationsTotal := touchAll (operationSeries backend) ∅
  backendOperationDurations := touchAll (operationSeries backend) ∅

section Metered

variable {σ : Type} (name : String) (inner : NotificationBackend σ)

def outcomeLabel (isOk : Bool) : String :=
  if isOk then "ok" else "error"

def MeteredState.record (operation : String) (isOk : Bool) (state : MeteredState σ) :
    MeteredState σ :=
  let labels := (name, operation, outcomeLabel isOk)
  { state with
    backendOperationsTotal := inc labels state.backendOperationsTotal
    backendOperationDurations := inc labels state.backendOperationDurations }

def metered {α : Type} (operation : String) (call : σ → σ × Result α) (state : MeteredState σ) :
    MeteredState σ × Result α :=
  let (next, result) := call state.inner
  (MeteredState.record name operation result.isOk { state with inner := next }, result)

def passedThrough {α : Type} (call : σ → σ × α) (state : MeteredState σ) : MeteredState σ × α :=
  let (next, result) := call state.inner
  ({ state with inner := next }, result)

/-- A subscription only sets up its stream, so it is not timed. -/
def meteredBackend : NotificationBackend (MeteredState σ) where
  capabilities := inner.capabilities
  connectionHealthy := fun state => inner.connectionHealthy state.inner
  putMessages := fun clock topic payload =>
    metered name opPublish (inner.putMessages clock topic payload)
  putMessageWithHeaders := fun clock topic headers payload =>
    metered name opPublish (inner.putMessageWithHeaders clock topic headers payload)
  wipeStream := fun streamKey => metered name opWipeStream (inner.wipeStream streamKey)
  wipeAll := metered name opWipeAll inner.wipeAll
  deleteMessage := fun streamKey sequence =>
    metered name opDeleteMessage (inner.deleteMessage streamKey sequence)
  getMessagesBatch := fun params => metered name opGetBatch (inner.getMessagesBatch params)
  subscribeToTopic := fun topic => passedThrough (inner.subscribeToTopic topic)
  historyEnd := fun topic => passedThrough (inner.historyEnd topic)
  firstSequenceAfter := fun topic at_ => passedThrough (inner.firstSequenceAfter topic at_)
  shutdown := passedThrough inner.shutdown

end Metered

/-! ## 3. The calls that are counted -/

/-- The operation a call is counted under, if it is timed. -/
def BackendCall.operation : BackendCall → Option String
  | .putMessages _ _ _ => some opPublish
  | .putMessageWithHeaders _ _ _ _ => some opPublish
  | .wipeStream _ => some opWipeStream
  | .wipeAll => some opWipeAll
  | .deleteMessage _ _ => some opDeleteMessage
  | .getMessagesBatch _ => some opGetBatch
  | _ => none

def countedAs (name : String) (call : BackendCall) (reply : BackendReply) :
    Option OperationLabels :=
  call.operation.map fun operation => (name, operation, outcomeLabel reply.isOk)

/-- The labels of the timed calls, each with the outcome of its reply. -/
def countedCalls (name : String) (calls : List BackendCall) (replies : List BackendReply) :
    List OperationLabels :=
  (calls.zip replies).filterMap fun answered => countedAs name answered.1 answered.2

/-- Both families after some counted calls. -/
def MeteredState.after {σ : Type} (state : MeteredState σ) (inner : σ)
    (counted : List OperationLabels) : MeteredState σ where
  inner := inner
  backendOperationsTotal := Counters.record counted state.backendOperationsTotal
  backendOperationDurations := Counters.record counted state.backendOperationDurations

section Transparent

variable {σ : Type} (name : String) (inner : NotificationBackend σ)

/-- One call: the reply and the state are the inner ones, and a timed call is counted once. -/
theorem perform_metered (call : BackendCall) (state : MeteredState σ) :
    (meteredBackend name inner).perform call state =
      (state.after (inner.perform call state.inner).1
        (countedAs name call (inner.perform call state.inner).2).toList,
        (inner.perform call state.inner).2) := by
  cases call <;> rfl

theorem countedCalls_cons (call : BackendCall) (calls : List BackendCall) (reply : BackendReply)
    (replies : List BackendReply) :
    countedCalls name (call :: calls) (reply :: replies) =
      (countedAs name call reply).toList ++ countedCalls name calls replies := by
  rw [countedCalls, List.zip_cons_cons, List.filterMap_cons, countedCalls]
  cases countedAs name call reply <;> rfl

theorem after_after (state : MeteredState σ) (first last : σ)
    (before later : List OperationLabels) :
    (state.after first before).after last later = state.after last (before ++ later) := by
  rw [MeteredState.after, MeteredState.after, MeteredState.after, record_append, record_append]

theorem performAll_metered (calls : List BackendCall) (state : MeteredState σ) :
    (meteredBackend name inner).performAll calls state =
      (state.after (inner.performAll calls state.inner).1
        (countedCalls name calls (inner.performAll calls state.inner).2),
        (inner.performAll calls state.inner).2) := by
  induction calls generalizing state with
  | nil => rfl
  | cons call calls ih =>
    rw [NotificationBackend.performAll, perform_metered, NotificationBackend.performAll]
    simp only [ih, countedCalls_cons, after_after]
    rfl

theorem countedAs_series {name : String} {call : BackendCall} {reply : BackendReply}
    {labels : OperationLabels} (h : countedAs name call reply = some labels) :
    labels ∈ operationSeries name := by
  obtain ⟨operation, hoperation, rfl⟩ := Option.map_eq_some_iff.mp h
  refine List.mem_flatMap.mpr ⟨operation, ?_, List.mem_map.mpr ⟨_, ?_, rfl⟩⟩
  · cases call <;> cases hoperation <;> decide
  · rw [outcomeLabel]
    cases reply.isOk <;> decide

theorem countedCalls_length (calls : List BackendCall) (state : σ) :
    (countedCalls name calls (inner.performAll calls state).2).length =
      calls.countP fun call => call.operation.isSome := by
  induction calls generalizing state with
  | nil => rfl
  | cons call calls ih =>
    rw [NotificationBackend.performAll, countedCalls_cons, List.length_append, ih,
      List.countP_cons, Nat.add_comm]
    cases hoperation : call.operation with
    | none => rw [countedAs, hoperation]; rfl
    | some operation => rw [countedAs, hoperation]; rfl

end Transparent

/-- A family of the operations of a backend, after some counted calls. -/
def operationCounters (name : String) (counted : List OperationLabels) :
    CounterVec OperationLabels :=
  Counters.record counted (touchAll (operationSeries name) ∅)

theorem MeteredState.new_inner {σ : Type} (name : String) (state : σ) :
    (MeteredState.new name state).inner = state := rfl

theorem MeteredState.new_after {σ : Type} (name : String) (state inner : σ)
    (counted : List OperationLabels) :
    (MeteredState.new name state).after inner counted =
      { inner := inner
        backendOperationsTotal := operationCounters name counted
        backendOperationDurations := operationCounters name counted } := by
  simp only [MeteredState.after, MeteredState.new, operationCounters]

theorem mem_operationCounters {name : String} {counted : List OperationLabels}
    (hcounted : ∀ labels ∈ counted, labels ∈ operationSeries name) (labels : OperationLabels) :
    labels ∈ operationCounters name counted ↔ labels ∈ operationSeries name := by
  rw [operationCounters, mem_record, mem_touchAll]
  constructor
  · intro h
    exact h.elim (hcounted labels) fun hinitial =>
      hinitial.elim id fun hempty => absurd hempty (AList.notMem_empty labels)
  · exact fun h => Or.inr (Or.inl h)

theorem value_operationCounters (name : String) (counted : List OperationLabels)
    (labels : OperationLabels) :
    value (operationCounters name counted) labels =
      counted.countP fun answered => decide (answered = labels) := by
  rw [operationCounters, value_record, value_touchAll,
    value_of_notMem (AList.notMem_empty labels), Nat.zero_add]

theorem total_operationCounters (name : String) (counted : List OperationLabels) :
    total (operationCounters name counted) = counted.length := by
  have hempty : total (∅ : CounterVec OperationLabels) = 0 := rfl
  rw [operationCounters, total_record, total_touchAll, hempty, Nat.zero_add]

/-- Whatever is called, the metered backend behaves as the backend inside it. Both its families have
the series that exist from the start and no other, and a series counts the calls of its operation
that had its outcome. -/
theorem metered_transparent {σ : Type} (name : String) (inner : NotificationBackend σ)
    (calls : List BackendCall) (state : σ) :
    ∃ counters : CounterVec OperationLabels,
      (meteredBackend name inner).performAll calls (MeteredState.new name state) =
        ({ inner := (inner.performAll calls state).1
           backendOperationsTotal := counters
           backendOperationDurations := counters },
          (inner.performAll calls state).2) ∧
      (∀ labels, labels ∈ counters ↔ labels ∈ operationSeries name) ∧
      (∀ labels, value counters labels =
        (countedCalls name calls (inner.performAll calls state).2).countP
          fun answered => decide (answered = labels)) ∧
      total counters = calls.countP fun call => call.operation.isSome := by
  refine ⟨operationCounters name (countedCalls name calls (inner.performAll calls state).2),
    ?_, mem_operationCounters ?_, value_operationCounters _ _, ?_⟩
  · rw [performAll_metered, MeteredState.new_after, MeteredState.new_inner]
  · intro labels hlabels
    obtain ⟨answered, -, hcounted⟩ := List.mem_filterMap.mp hlabels
    exact countedAs_series hcounted
  · rw [total_operationCounters, countedCalls_length]

end AvisoServer
