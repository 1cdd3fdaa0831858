import AvisoServer.Backend.Pagination
import AvisoServer.Sse.Frames

/-!
# Historical replay

The replay stream is an unfold over batches: every step fetches one batch, filters and renders its
messages, and counts delivered notifications against the quota.
-/

namespace AvisoServer

/-! ## 1. The unfold -/

/-- What stays fixed during one replay. The filter is the request's notification filter. -/
structure ReplayRequest where
  renderer : Renderer
  keep : NotificationMessage → Bool
  baseUrl : String
  requestId : String
  maxAllowed : Nat

structure ReplayState where
  cursor : BatchCursor
  delivered : Nat
  deriving DecidableEq

def ReplayState.initial (params : BatchParams) : ReplayState where
  cursor := { params := params, hasMore := true }
  delivered := 0

/-- The frames of a batch, the quota used so far, and whether the quota stopped the batch. -/
structure BatchFrames where
  frames : List StreamFrame
  delivered : Nat
  stopped : Bool

def BatchFrames.prepend (frames : List StreamFrame) (rest : BatchFrames) : BatchFrames :=
  { rest with frames := frames ++ rest.frames }

/-- The loop over the messages of one batch. -/
def batchFrames (request : ReplayRequest) (topic : String) (now : DateTime) :
    List NotificationMessage → Nat → BatchFrames
  | [], delivered => { frames := [], delivered := delivered, stopped := false }
  | message :: rest, delivered =>
    if request.keep message then
      match request.renderer.frameToSseBytes (.notification message .replay) request.baseUrl
          request.requestId with
      | .error e => .prepend [.error topic e.toString request.requestId]
          (batchFrames request topic now rest delivered)
      | .ok (bytes, kind) =>
        if kind ≠ .notification then
          .prepend [.rendered bytes kind] (batchFrames request topic now rest delivered)
        -- one rendered notification beyond the quota proves truncation
        else if delivered = request.maxAllowed then
          { frames := [.control (.replayLimitReached topic request.maxAllowed now)]
            delivered := delivered
            stopped := true }
        else .prepend [.rendered bytes kind] (batchFrames request topic now rest (delivered + 1))
    else batchFrames request topic now rest delivered

/-- One step of the unfold, given the answer of the backend. -/
def replayStep (request : ReplayRequest) (now : DateTime) (answer : Result BatchResult)
    (state : ReplayState) : ReplayState × List StreamFrame :=
  match answer with
  | .ok batch =>
    let cursor := state.cursor.advance batch
    let out := batchFrames request cursor.params.topic now batch.messages state.delivered
    ({ cursor := { cursor with hasMore := cursor.hasMore && !out.stopped }
       delivered := out.delivered }, out.frames)
  | .error e =>
    ({ state with cursor := { state.cursor with hasMore := false } },
      [.replayFailed state.cursor.params.topic e.toString request.requestId])

/-- The historical stream over at most `fuel` fetches; `none` means that it has not ended yet. -/
def historicalFrames (request : ReplayRequest) (fetch : Nat → BatchParams → Result BatchResult)
    (clock : Nat → DateTime) : Nat → Nat → ReplayState → Option (List StreamFrame)
  | 0, _, state => if state.cursor.hasMore then none else some []
  | fuel + 1, call, state =>
    if state.cursor.hasMore then
      let step := replayStep request (clock call) (fetch call state.cursor.params) state
      (historicalFrames request fetch clock fuel (call + 1) step.1).map (step.2 ++ ·)
    else some []

end AvisoServer
