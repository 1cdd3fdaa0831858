import AvisoServer.Backend.Types
import AvisoServer.TopicParser
import Mathlib.Data.List.Infix

/-!
# Wiping JetStream

The administration of the JetStream backend: purging one stream, and purging every stream that the
server lists. What each call to the server answers is an input, so that any of them can fail.
-/

namespace AvisoServer

/-! ## 1. The server -/

/-- A stream of the server, with the number of messages it keeps. -/
structure NatsStream where
  name : String
  messages : Nat
  deriving DecidableEq, Repr

/-- The errors of the three calls that purge one stream; `none` where the call gets through. -/
structure WipeCalls where
  getStream : Option String
  info : Option String
  purge : Option String
  deriving DecidableEq, Repr

/-- One item of the stream listing, with the calls that its purge goes on to make. -/
structure ListedStream where
  info : Except String String
  calls : WipeCalls
  deriving DecidableEq

/-- The answer to the lookup of a stream. -/
def getStream (streams : List NatsStream) (calls : WipeCalls) (streamName : String) :
    Except String Unit :=
  match calls.getStream with
  | some error => .error error
  | none =>
    if streams.any (·.name = streamName) then .ok ()
    else .error "jetstream error: stream not found"

def purgeStream (streams : List NatsStream) (streamName : String) : List NatsStream :=
  streams.map fun stream =>
    if stream.name = streamName then { stream with messages := 0 } else stream

/-! ## 2. The backend -/

/-- The error of a lookup says that there is no such stream. -/
def isStreamNotFound (error : String) : Bool :=
  decide ("stream not found".toList <:+: (toAsciiLowercase error).toList)

/-- `wipe_stream`: the streams after the call and its result. -/
def jetstreamWipeStream (streams : List NatsStream) (calls : WipeCalls) (streamKey : String) :
    List NatsStream × Result WipeStreamResult :=
  let streamName := toAsciiUppercase streamKey
  match getStream streams calls streamName with
  | .error error =>
    if isStreamNotFound error then (streams, .ok .notFound)
    else (streams, withContext ("Failed to get stream " ++ streamName) (bail error))
  | .ok () =>
    match calls.info with
    | some error => (streams, withContext "Failed to get stream info" (bail error))
    | none =>
      match calls.purge with
      | some error => (streams, withContext "Failed to purge stream" (bail error))
      | none => (purgeStream streams streamName, .ok .wiped)

/-- `wipe_all`: the loop over the listing. -/
def jetstreamWipeAll : List ListedStream → List NatsStream → List NatsStream × Result Unit
  | [], streams => (streams, .ok ())
  | item :: rest, streams =>
    match item.info with
    | .ok streamName =>
      match jetstreamWipeStream streams item.calls streamName with
      | (streams, .ok _) => jetstreamWipeAll rest streams
      -- the failure is logged
      | (streams, .error _) => jetstreamWipeAll rest streams
    -- so is an item that cannot be read
    | .error _ => jetstreamWipeAll rest streams

/-! ## 3. The endpoint -/

structure WipeResponse where
  success : Bool
  message : String
  deriving DecidableEq, Repr

/-- The status and the body that the endpoint answers with. -/
def wipeAllResponse : Result Unit → Nat × WipeResponse
  | .ok () => (200, { success := true, message := "Successfully wiped all data" })
  | .error e => (500, { success := false, message := "Failed to wipe all data: " ++ e.toString })

/-! ## 4. What is purged -/

def WipeCalls.getThrough (calls : WipeCalls) : Bool :=
  calls.getStream.isNone && calls.info.isNone && calls.purge.isNone

/-- The item names the stream, and no call of its purge fails. -/
def ListedStream.purges (item : ListedStream) (streamName : String) : Bool :=
  match item.info with
  | .ok listed => decide (toAsciiUppercase listed = streamName) && item.calls.getThrough
  | .error _ => false

theorem purgeStream_absent (streams : List NatsStream) (streamName : String)
    (habsent : streams.any (·.name = streamName) = false) :
    purgeStream streams streamName = streams := by
  unfold purgeStream
  conv_rhs => rw [← List.map_id' streams]
  apply List.map_congr_left
  intro stream hstream
  have hname := List.any_eq_false.mp habsent stream hstream
  rw [if_neg (by simpa using hname)]

theorem jetstreamWipeStream_streams (streams : List NatsStream) (calls : WipeCalls)
    (streamKey : String) :
    (jetstreamWipeStream streams calls streamKey).1 =
      if calls.getThrough then purgeStream streams (toAsciiUppercase streamKey) else streams := by
  unfold jetstreamWipeStream getStream WipeCalls.getThrough
  cases hget : calls.getStream with
  | some error => simp [apply_ite Prod.fst]
  | none =>
    by_cases hexists : streams.any (·.name = toAsciiUppercase streamKey) = true
    · cases hinfo : calls.info with
      | some error => simp [hexists]
      | none => cases hpurge : calls.purge <;> simp [hexists]
    · rw [Bool.not_eq_true] at hexists
      simp [hexists, apply_ite Prod.fst, purgeStream_absent streams _ hexists]

/-- The stream after the listing: purged if an item purges it, and as it was otherwise. -/
def NatsStream.wipe (listing : List ListedStream) (stream : NatsStream) : NatsStream :=
  if listing.any (·.purges stream.name) then { stream with messages := 0 } else stream

theorem jetstreamWipeAll_item (item : ListedStream) (rest : List ListedStream)
    (streams : List NatsStream) :
    jetstreamWipeAll (item :: rest) streams =
      jetstreamWipeAll rest (streams.map (NatsStream.wipe [item])) := by
  rw [jetstreamWipeAll]
  cases hinfo : item.info with
  | error e =>
    have hkept : ∀ stream : NatsStream, stream.wipe [item] = stream := by
      intro stream
      simp [NatsStream.wipe, ListedStream.purges, hinfo]
    rw [List.map_id'' hkept]
  | ok listed =>
    have hstreams := jetstreamWipeStream_streams streams item.calls listed
    have hwipe : streams.map (NatsStream.wipe [item]) =
        (jetstreamWipeStream streams item.calls listed).1 := by
      rw [hstreams]
      unfold NatsStream.wipe ListedStream.purges purgeStream
      by_cases hcalls : item.calls.getThrough = true
      · simp [hinfo, hcalls, eq_comm]
      · simp [hinfo, hcalls]
    rw [hwipe]
    cases hcall : jetstreamWipeStream streams item.calls listed with
    | mk after result =>
      simp only [hcall]
      cases result <;> rfl

/-- Every stream is looked at, and the result is always a success. -/
theorem jetstreamWipeAll_eq (listing : List ListedStream) (streams : List NatsStream) :
    jetstreamWipeAll listing streams = (streams.map (NatsStream.wipe listing), .ok ()) := by
  induction listing generalizing streams with
  | nil =>
    have hkept : ∀ stream : NatsStream, stream.wipe [] = stream := fun _ => rfl
    rw [jetstreamWipeAll, List.map_id'' hkept]
  | cons item rest ih =>
    rw [jetstreamWipeAll_item, ih, List.map_map]
    congr 1
    apply List.map_congr_left
    intro stream _
    unfold Function.comp NatsStream.wipe
    by_cases hitem : item.purges stream.name = true
    · by_cases hrest : rest.any (·.purges stream.name) = true <;> simp [hitem, hrest]
    · simp [hitem]

/-! ## 5. Honest reports -/

def AllPurged (streams : List NatsStream) : Prop :=
  ∀ stream ∈ streams, stream.messages = 0

/-- Success is reported, by the backend and by the endpoint, only if no stream kept its messages. -/
structure ReportsHonestly (listing : List ListedStream) (streams : List NatsStream) : Prop where
  backend : (jetstreamWipeAll listing streams).2 = .ok () →
    AllPurged (jetstreamWipeAll listing streams).1
  endpoint : (wipeAllResponse (jetstreamWipeAll listing streams).2).2.message =
    "Successfully wiped all data" → AllPurged (jetstreamWipeAll listing streams).1

theorem allPurged_wipe (listing : List ListedStream) (streams : List NatsStream) :
    AllPurged (streams.map (NatsStream.wipe listing)) ↔
      ∀ stream ∈ streams, stream.messages = 0 ∨
        ∃ item ∈ listing, item.purges stream.name = true := by
  unfold AllPurged
  rw [List.forall_mem_map]
  apply forall₂_congr
  intro stream _
  unfold NatsStream.wipe
  by_cases hlisted : listing.any (·.purges stream.name) = true
  · rw [if_pos hlisted]
    exact iff_of_true rfl (Or.inr (List.any_eq_true.mp hlisted))
  · rw [if_neg hlisted, ← List.any_eq_true]
    simp [hlisted]

/-- The report is honest exactly when every stream with messages is listed under a name that finds
it, and none of the calls of that purge fails. -/
theorem wipeAll_honest_iff (listing : List ListedStream) (streams : List NatsStream) :
    ReportsHonestly listing streams ↔
      ∀ stream ∈ streams, stream.messages = 0 ∨
        ∃ item ∈ listing, item.purges stream.name = true := by
  rw [← allPurged_wipe]
  constructor
  · intro hhonest
    have hpurged := hhonest.backend
    rw [jetstreamWipeAll_eq] at hpurged
    exact hpurged rfl
  · intro hpurged
    constructor
    · intro _
      rwa [jetstreamWipeAll_eq]
    · intro _
      rwa [jetstreamWipeAll_eq]

/-- A purge that times out is reported as a success. -/
theorem failedPurge_reported :
    ¬ ReportsHonestly
      [{ info := .ok "MARS"
         calls := { getStream := none, info := none, purge := some "timed out" } }]
      [{ name := "MARS", messages := 2 }] := by
  intro hhonest
  have hpurged := hhonest.endpoint (by decide +kernel) { name := "MARS", messages := 2 }
    (by decide +kernel)
  cases hpurged

end AvisoServer
