import AvisoServer.Backend.Types
import AvisoServer.Lib.SubjectFilter
import AvisoServer.WildcardMatcher

/-!
# The JetStream backend's replay

A batch is read by a short-lived pull consumer over a coarse subject filter; messages outside the
exact pattern are dropped while reading, and the batch resumes after the last message it read. The
server itself is a parameter.
-/

namespace AvisoServer

/-! ## 1. Messages and deliver policies -/

structure MessageInfo where
  streamSequence : Nat
  published : DateTime
  deriving DecidableEq, Repr

/-- An `async_nats` message; the info is parsed from its reply subject. -/
structure JetStreamMessage where
  subject : String
  payload : List UInt8
  headers : Option (HashMap (List String))
  info : Result MessageInfo

inductive DeliverPolicy where
  | all
  | byStartSequence (startSequence : Nat)
  | byStartTime (startTime : DateTime)
  deriving DecidableEq, Repr

structure StreamState where
  messages : Nat
  lastSequence : Nat
  deriving DecidableEq, Repr

/-- The calls a replay makes to the server, numbered by the batch they belong to. -/
structure JetStreamServer where
  ensureStreamForTopic : Nat → String → Result Unit
  getStream : Nat → String → Result Unit
  streamInfo : Nat → String → Result StreamState
  createConsumer : Nat → String → String → DeliverPolicy → Result Unit
  fetch : Nat → String → String → DeliverPolicy → Nat → Result (List (Result JetStreamMessage))

def joinComma (values : List String) : String :=
  joinChar values ','

def headerMetadata (headers : Option (HashMap (List String))) : Option (HashMap String) :=
  match headers with
  | some headers =>
    let map : HashMap String :=
      headers.entries.foldl (fun map entry => map.insert entry.1 (joinComma entry.2)) ∅
    if map.entries = [] then none else some map
  | none => none

section Replay

-- `String::from_utf8_lossy`
variable (fromUtf8Lossy : List UInt8 → String)

def transformJetstreamMessage (msg : JetStreamMessage) : Result NotificationMessage :=
  match msg.info with
  | .error e => bail ("Failed to get message info from JetStream message: " ++ e.toString)
  | .ok info => .ok
      { sequence := info.streamSequence
        topic := msg.subject
        payload := fromUtf8Lossy msg.payload
        timestamp := some info.published
        metadata := headerMetadata msg.headers }

/-- A date as a JetStream start time, or `none` outside the range of 64-bit nanoseconds. -/
def jetstreamStartTime (date : DateTime) : Option DateTime :=
  if -2 ^ 63 ≤ date ∧ date < 2 ^ 63 then some date else none

def determineDeliverPolicy (startAt : StartAt) : Result DeliverPolicy :=
  match startAt with
  | .date startDate =>
    match jetstreamStartTime startDate with
    | some startTime => .ok (.byStartTime startTime)
    | none => bail "from_date is outside supported timestamp range"
  | .sequence 0 => .ok .all
  | .sequence seq => .ok (.byStartSequence seq)
  | .liveOnly => .ok .all

/-! ## 2. Reading one fetch -/

structure ReplayRead where
  filteredMessages : List NotificationMessage
  lastProcessedSequence : Option Nat
  reachedEnd : Bool

def ReplayRead.initial : ReplayRead where
  filteredMessages := []
  lastProcessedSequence := none
  reachedEnd := false

/-- Count a message as processed and keep it if it matches. -/
def ReplayRead.process (read : ReplayRead) (appFilterPattern : List String) (sequence : Nat)
    (msg : JetStreamMessage) : ReplayRead :=
  { read with
    lastProcessedSequence := some sequence
    filteredMessages :=
      match transformJetstreamMessage fromUtf8Lossy msg with
      | .ok notification =>
        if matchesWatchPattern notification.topic appFilterPattern then
          read.filteredMessages ++ [notification]
        else read.filteredMessages
      | .error _ => read.filteredMessages }

/-- The loop of `read_replay_batch` over the fetched messages. -/
def readMessages (appFilterPattern : List String) (limit endSequence : Nat) :
    List (Result JetStreamMessage) → ReplayRead → Result ReplayRead
  | [], read => .ok read
  | msgResult :: rest, read => do
    let msg ← withContext "Failed to read JetStream replay batch" msgResult
    let info ← withContext "Failed to read replay sequence" msg.info
    let sequence := info.streamSequence
    if endSequence < sequence then .ok { read with reachedEnd := true }
    else
      let read := read.process fromUtf8Lossy appFilterPattern sequence msg
      -- the bound is inclusive, even when this message was filtered out
      if sequence = endSequence then .ok { read with reachedEnd := true }
      else if limit ≤ read.filteredMessages.length then .ok read
      else readMessages appFilterPattern limit endSequence rest read

def readReplayBatch (messages : List (Result JetStreamMessage)) (appFilterPattern : List String)
    (limit endSequence : Nat) : Result BatchResult := do
  let read ← readMessages fromUtf8Lossy appFilterPattern limit endSequence messages .initial
  .ok { BatchResult.new read.filteredMessages limit with
    hasMore := !read.reachedEnd && read.lastProcessedSequence.any (· < endSequence)
    nextSequence := read.lastProcessedSequence.map (· + 1) }

/-- A start that lies past the end. -/
def startsAfter (startAt : StartAt) (endSequence : Nat) : Bool :=
  match startAt with
  | .sequence start => endSequence < start
  | _ => false

def jetstreamGetMessagesBatch (server : JetStreamServer) (call : Nat) (params : BatchParams) :
    Result BatchResult := do
  let (backendPattern, appFilterPattern) ← analyzeWatchPattern params.topic
  withContext "Failed to ensure stream exists for batch retrieval"
    (server.ensureStreamForTopic call backendPattern)
  let streamName ← withContext "Failed to derive stream name from topic"
    (deriveStreamNameFromTopic backendPattern)
  withContext "Failed to get stream" (server.getStream call streamName)
  let state ← withContext "Failed to get stream info" (server.streamInfo call streamName)
  let endSequence := min params.endSequence state.lastSequence
  if state.messages = 0 ∨ endSequence = 0 ∨ startsAfter params.startAt endSequence then
    .ok BatchResult.empty
  else
    let deliverPolicy ← determineDeliverPolicy params.startAt
    withContext "Failed to create JetStream consumer for batch retrieval"
      (server.createConsumer call streamName backendPattern deliverPolicy)
    let messages ← withContext "Failed to fetch messages"
      (server.fetch call streamName backendPattern deliverPolicy params.limit)
    readReplayBatch fromUtf8Lossy messages appFilterPattern params.limit endSequence

end Replay

/-! ## 3. The bounds of a replay -/

/-- `history_end`: the last sequence of the stream when it is looked up. -/
def jetstreamHistoryEnd (server : JetStreamServer) (call : Nat) (topic : String) : Result Nat := do
  let (pattern, _) ← analyzeWatchPattern topic
  withContext "Failed to ensure stream for replay boundary"
    (server.ensureStreamForTopic call pattern)
  -- the call above returns the stream's name, and the lookup below comes with its info
  let name ← deriveStreamNameFromTopic pattern
  withContext "Failed to capture replay boundary" (server.getStream call name)
  let state ← server.streamInfo call name
  .ok state.lastSequence

/-- `checked_add_signed` of one nanosecond. -/
def addNanosecond (date : DateTime) : Option DateTime :=
  if date < maxDateTime then some (date + 1) else none

/-- The sequence of the first message that a consumer delivers. -/
def firstDelivered (server : JetStreamServer) (call : Nat) (streamName backendPattern : String)
    (deliverPolicy : DeliverPolicy) : Result (Option Nat) := do
  withContext "Failed to create JetStream consumer for batch retrieval"
    (server.createConsumer call streamName backendPattern deliverPolicy)
  let messages ← withContext "Failed to fetch the first message after the replay end"
    (server.fetch call streamName backendPattern deliverPolicy 1)
  match messages.head? with
  | none => .ok none
  | some message =>
    let message ← withContext "Failed to read the first message after the replay end" message
    let info ← withContext "Failed to read the sequence after the replay end" message.info
    .ok (some info.streamSequence)

/-- `first_sequence_after`: a date past the range has nothing after it, and a date before the range
has everything after it. -/
def jetstreamFirstSequenceAfter (server : JetStreamServer) (call : Nat) (topic : String)
    (at_ : DateTime) : Result (Option Nat) := do
  let (backendPattern, _) ← analyzeWatchPattern topic
  withContext "Failed to ensure stream exists for the replay end"
    (server.ensureStreamForTopic call backendPattern)
  let streamName ← withContext "Failed to derive stream name from topic"
    (deriveStreamNameFromTopic backendPattern)
  match (addNanosecond at_).bind jetstreamStartTime with
  | some startTime => firstDelivered server call streamName backendPattern (.byStartTime startTime)
  | none =>
    if 0 < at_ then .ok none else firstDelivered server call streamName backendPattern .all

end AvisoServer
