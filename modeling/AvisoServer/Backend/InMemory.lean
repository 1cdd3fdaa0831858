import AvisoServer.Backend.Types
import AvisoServer.WildcardMatcher
import Mathlib.Data.List.Sort

/-!
# The in-memory backend

Per-topic queues in a hash map, one sequence counter, and a broadcast of every stored message.
Each operation runs under the lock of the state, so it is one function of the state.
-/

namespace AvisoServer

/-! ## 1. State -/

structure TopicState where
  messages : List NotificationMessage
  totalMessagesReceived : Nat
  deriving DecidableEq

def TopicState.new : TopicState where
  messages := []
  totalMessagesReceived := 0

structure BackendState where
  topics : HashMap TopicState
  nextSequence : Nat

structure InMemoryConfig where
  maxHistoryPerTopic : Nat
  maxTopics : Nat
  deriving DecidableEq, Repr

/-- The state of `InMemoryBackend::new`. -/
def BackendState.initial : BackendState where
  topics := ∅
  nextSequence := 1

/-- What `Utc::now` returns during one store: once for the message, and once for each topic
without messages that the eviction looks at. -/
structure Clock where
  now : DateTime
  emptyTopic : String → DateTime

/-! ## 2. Writing -/

/-- The key of `min_by_key`: the newest timestamp of the topic, or the present. -/
def newestTimestamp (clock : Clock) (entry : Sigma fun _ : String => TopicState) : DateTime :=
  (entry.2.messages.getLast?.bind (·.timestamp)).getD (clock.emptyTopic entry.1)

def enforceTopicLimit (config : InMemoryConfig) (clock : Clock) (topics : HashMap TopicState) :
    HashMap TopicState :=
  if config.maxTopics ≤ topics.entries.length then
    match minByKey (newestTimestamp clock) topics.entries with
    | some oldest => topics.erase oldest.1
    | none => topics
  else topics

/-- Append to a queue, dropping the oldest message of a full one. -/
def TopicState.push (config : InMemoryConfig) (topicState : TopicState)
    (msg : NotificationMessage) : TopicState where
  totalMessagesReceived := topicState.totalMessagesReceived + 1
  messages :=
    (if config.maxHistoryPerTopic ≤ topicState.messages.length then topicState.messages.tail
      else topicState.messages) ++ [msg]

/-- `store_message`: the new state and the message it broadcasts. -/
def storeMessage (config : InMemoryConfig) (clock : Clock) (topic payload : String)
    (metadata : Option (HashMap String)) (state : BackendState) :
    BackendState × NotificationMessage :=
  let topics :=
    if topic ∈ state.topics then state.topics else enforceTopicLimit config clock state.topics
  let topicState := (topics.get topic).getD TopicState.new
  let msg : NotificationMessage :=
    { sequence := state.nextSequence
      topic := topic
      payload := payload
      timestamp := some clock.now
      metadata := metadata }
  ({ topics := topics.insert topic (topicState.push config msg)
     nextSequence := state.nextSequence + 1 }, msg)

/-! ## 3. Removing -/

section Removing

-- `str::to_lowercase`
variable (toLowercase : String → String)

def streamPrefix (streamKey : String) : String :=
  encodeToken (toLowercase streamKey) ++ "."

def startsWith (s pre : String) : Bool :=
  pre.toList.isPrefixOf s.toList

def eraseAll (topics : HashMap TopicState) (keys : List String) : HashMap TopicState :=
  keys.foldl (fun topics key => topics.erase key) topics

def wipeStream (streamKey : String) (state : BackendState) : BackendState × WipeStreamResult :=
  let keysToRemove := state.topics.keys.filter fun key =>
    startsWith (toLowercase key) (streamPrefix toLowercase streamKey)
  if keysToRemove = [] then (state, .notFound)
  else ({ state with topics := eraseAll state.topics keysToRemove }, .wiped)

def wipeAll (state : BackendState) : BackendState :=
  { state with topics := ∅ }

/-- The topic belongs to the stream: its base is the stream key, ignoring case. -/
def topicInStream (streamKey key : String) : Bool :=
  toLowercase key = encodeToken (toLowercase streamKey) ||
    startsWith (toLowercase key) (streamPrefix toLowercase streamKey)

/-- Whether `delete_message` finds the sequence in this entry. -/
def holdsSequence (streamKey : String) (sequence : Nat)
    (entry : Sigma fun _ : String => TopicState) : Bool :=
  topicInStream toLowercase streamKey entry.1 &&
    entry.2.messages.any fun message => message.sequence = sequence

def TopicState.removeSequence (topicState : TopicState) (sequence : Nat) : TopicState :=
  { topicState with
    messages := topicState.messages.eraseP fun message => message.sequence = sequence }

def deleteMessage (streamKey : String) (sequence : Nat) (state : BackendState) :
    BackendState × DeleteMessageResult :=
  match state.topics.entries.find? (holdsSequence toLowercase streamKey sequence) with
  | some entry =>
    ({ state with topics := state.topics.replace entry.1 (entry.2.removeSequence sequence) },
      .deleted)
  | none => (state, .notFound)

end Removing

/-! ## 4. Reading -/

/-- Every stored message, in the iteration order of the map. -/
def BackendState.stored (state : BackendState) : List NotificationMessage :=
  state.topics.values.flatMap (·.messages)

def matchingMessages (state : BackendState) (appFilterPattern : List String) :
    List NotificationMessage :=
  state.stored.filter fun message => matchesWatchPattern message.topic appFilterPattern

/-- The `retain` calls of `get_messages_batch`. -/
def retainStart : StartAt → List NotificationMessage → List NotificationMessage
  | .sequence fromSequence, messages =>
    if 0 < fromSequence then messages.filter fun m => fromSequence ≤ m.sequence else messages
  | .date fromDate, messages =>
    messages.filter fun m => m.timestamp.any fun ts => fromDate ≤ ts
  | .liveOnly, messages => messages

def sortBySequence (messages : List NotificationMessage) : List NotificationMessage :=
  messages.insertionSort fun x y => x.sequence ≤ y.sequence

def getMessagesBatch (state : BackendState) (params : BatchParams) : Result BatchResult := do
  let (_, appFilterPattern) ← analyzeWatchPattern params.topic
  let messages := (matchingMessages state appFilterPattern).filter fun message =>
    message.sequence ≤ params.endSequence
  let messages := retainStart params.startAt messages
  if messages = [] then .ok BatchResult.empty
  else
    let messages := sortBySequence messages
    let requestedLimit := params.limit
    let availableBeforeTruncate := messages.length
    let result := BatchResult.new (messages.take requestedLimit) requestedLimit
    .ok { result with
      hasMore := requestedLimit < availableBeforeTruncate
      nextSequence := result.lastSequence.map (· + 1) }

/-- A subscription: the pattern its receiver filters by and the last sequence of the history. -/
structure Subscription where
  appFilterPattern : List String
  historyEnd : Nat
  deriving DecidableEq, Repr

def subscribeToTopic (state : BackendState) (topic : String) : Result Subscription := do
  let (_, appFilterPattern) ← analyzeWatchPattern topic
  .ok { appFilterPattern := appFilterPattern, historyEnd := state.nextSequence - 1 }

/-- What `recv` of the broadcast channel returns when it returns no message. -/
inductive RecvError where
  | lagged (skipped : Nat)
  | closed
  deriving DecidableEq

/-- The loop of a subscription's stream, over what `recv` returns: the next message that matches and
what is left to receive, or none while nothing more has come and once the channel is closed. -/
def Subscription.next (subscription : Subscription) :
    List (Except RecvError NotificationMessage) →
      Option (NotificationMessage × List (Except RecvError NotificationMessage))
  | [] => none
  | .ok message :: received =>
    if matchesWatchPattern message.topic subscription.appFilterPattern then some (message, received)
    else subscription.next received
  | .error (.lagged _) :: received => subscription.next received
  | .error .closed :: _ => none

def historyEnd (state : BackendState) (topic : String) : Result Nat := do
  let _ ← analyzeWatchPattern topic
  .ok (state.nextSequence - 1)

def firstSequenceAfter (state : BackendState) (topic : String) (at_ : DateTime) :
    Result (Option Nat) := do
  let (_, appFilterPattern) ← analyzeWatchPattern topic
  .ok (((matchingMessages state appFilterPattern).filter fun message =>
    message.timestamp.any fun stored => at_ < stored).map (·.sequence)).min?

/-! ## 5. Steps of the store -/

/-- One step of the store, with the message it broadcasts. The last constructor is a change of the
map's iteration order, which any insertion or removal may bring. -/
inductive StoreStep (config : InMemoryConfig) (toLowercase : String → String) :
    BackendState → Option NotificationMessage → BackendState → Prop where
  | storeMessage (state : BackendState) (clock : Clock) (topic payload : String)
      (metadata : Option (HashMap String)) :
      StoreStep config toLowercase state
        (some (storeMessage config clock topic payload metadata state).2)
        (storeMessage config clock topic payload metadata state).1
  | wipeStream (state : BackendState) (streamKey : String) :
      StoreStep config toLowercase state none (wipeStream toLowercase streamKey state).1
  | wipeAll (state : BackendState) :
      StoreStep config toLowercase state none (wipeAll state)
  | deleteMessage (state : BackendState) (streamKey : String) (sequence : Nat) :
      StoreStep config toLowercase state none (deleteMessage toLowercase streamKey sequence state).1
  | rehash (state : BackendState) (topics : HashMap TopicState)
      (horder : topics.entries.Perm state.topics.entries) :
      StoreStep config toLowercase state none { state with topics := topics }

/-- The states a backend can be in. -/
inductive Reachable (config : InMemoryConfig) (toLowercase : String → String) :
    BackendState → Prop where
  | initial : Reachable config toLowercase BackendState.initial
  | step {state next : BackendState} {sent : Option NotificationMessage} :
      Reachable config toLowercase state → StoreStep config toLowercase state sent next →
      Reachable config toLowercase next

end AvisoServer
