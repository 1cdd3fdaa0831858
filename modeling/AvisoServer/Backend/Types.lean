import AvisoServer.Rust

/-!
# Messages and batches

The values that cross the backend interface, as both backends build them.
-/

namespace AvisoServer

/-- `DateTime<Utc>`, in nanoseconds since the epoch. -/
abbrev DateTime := Int

/-- `DateTime::<Utc>::MAX_UTC`, in the year 262142. -/
def maxDateTime : DateTime := 8210266876799999999999

structure NotificationMessage where
  sequence : Nat
  topic : String
  payload : String
  timestamp : Option DateTime
  metadata : Option (HashMap String)
  deriving DecidableEq

inductive StartAt where
  | liveOnly
  | sequence (from_ : Nat)
  | date (at_ : DateTime)
  deriving DecidableEq, Repr

/-- Where a replay stops. -/
inductive EndAt where
  | latest
  | sequence (toId : Nat)
  | date (toDate : DateTime)
  deriving DecidableEq, Repr

def u64Max : Nat := 18446744073709551615

structure BatchParams where
  topic : String
  startAt : StartAt
  limit : Nat
  endSequence : Nat
  deriving DecidableEq, Repr

namespace BatchParams

def new (topic : String) (limit : Nat) : BatchParams where
  topic := topic
  startAt := .liveOnly
  limit := limit
  endSequence := u64Max

def withSequence (params : BatchParams) (sequence : Nat) : BatchParams :=
  { params with startAt := .sequence sequence }

def withEndSequence (params : BatchParams) (sequence : Nat) : BatchParams :=
  { params with endSequence := sequence }

def withStartAt (params : BatchParams) (startAt : StartAt) : BatchParams :=
  { params with startAt := startAt }

end BatchParams

/-- The control fields of a replay start. -/
def StartAt.asReplayCursor : StartAt → Option Nat × Option DateTime
  | .sequence seq => (some seq, none)
  | .date d => (none, some d)
  | .liveOnly => (none, none)

structure BatchResult where
  messages : List NotificationMessage
  hasMore : Bool
  lastSequence : Option Nat
  nextSequence : Option Nat
  batchSize : Nat
  deriving DecidableEq

namespace BatchResult

def new (messages : List NotificationMessage) (requestedLimit : Nat) : BatchResult :=
  let lastSequence := (messages.map (·.sequence)).max?
  { messages := messages
    hasMore := messages.length = requestedLimit
    lastSequence := lastSequence
    nextSequence := lastSequence.map (· + 1)
    batchSize := messages.length }

def empty : BatchResult where
  messages := []
  hasMore := false
  lastSequence := none
  nextSequence := none
  batchSize := 0

end BatchResult

inductive WipeStreamResult where
  | wiped
  | notFound
  deriving DecidableEq, Repr

inductive DeleteMessageResult where
  | deleted
  | notFound
  deriving DecidableEq, Repr

/-- The messages a start point selects: all of them, those from a sequence on, or those stamped at
or after a date. -/
def StartAt.admits : StartAt → NotificationMessage → Bool
  | .liveOnly, _ => true
  | .sequence from_, m => from_ ≤ m.sequence
  | .date d, m => m.timestamp.any fun ts => d ≤ ts

end AvisoServer
