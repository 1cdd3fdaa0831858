import AvisoServer.Backend.JetStream
import AvisoServer.Backend.JetStreamRetry
import AvisoServer.Notification.Storage

/-!
# The JetStream publisher

A notification is published with its headers and then acknowledged. When the channel to the server
closes in between, the publish is repeated although the first message may have been stored. Other
clients publish to the stream all the while.
-/

namespace AvisoServer

/-! ## 1. The stream -/

/-- A message as it is handed to the server. -/
structure Publication where
  subject : String
  headers : Option (HashMap (List String))
  payload : List UInt8

/-- The messages of a stream in the order of their sequences, and the last sequence given. -/
structure MessageLog where
  messages : List JetStreamMessage
  lastSequence : Nat

/-- The message a publication becomes when it is stored. -/
def Publication.stored (publication : Publication) (info : MessageInfo) : JetStreamMessage where
  subject := publication.subject
  payload := publication.payload
  headers := publication.headers
  info := .ok info

/-- What the next publication is stored as. -/
def MessageLog.nextInfo (log : MessageLog) (now : DateTime) : MessageInfo where
  streamSequence := log.lastSequence + 1
  published := now

def MessageLog.store (log : MessageLog) (publication : Publication) (now : DateTime) :
    MessageLog where
  messages := log.messages ++ [publication.stored (log.nextInfo now)]
  lastSequence := log.lastSequence + 1

/-! ## 2. Publishing -/

def buildJetstreamHeaders (headers : HashMap String) : HashMap (List String) :=
  headers.entries.foldl (fun jetstreamHeaders entry => jetstreamHeaders.insert entry.1 [entry.2]) ∅

def BackendPut.publication (put : BackendPut) : Publication where
  subject := put.topic
  headers := put.headers.map buildJetstreamHeaders
  payload := asBytes put.payload

/-- How one call to publish goes. A publication that was sent may be stored, at some time, although
its acknowledgment does not arrive; one that is acknowledged has been stored. -/
inductive PublishCall where
  | notEnsured (e : Error)
  | notSent (e : Error)
  | unacknowledged (storedAt : Option DateTime) (e : Error)
  | acknowledged (storedAt : DateTime)

def PublishCall.storedAt : PublishCall → Option DateTime
  | .notEnsured _ => none
  | .notSent _ => none
  | .unacknowledged storedAt _ => storedAt
  | .acknowledged storedAt => some storedAt

/-- The publication was stored, and the publisher has not heard of it. -/
def PublishCall.lost : PublishCall → Bool
  | .unacknowledged storedAt _ => storedAt.isSome
  | _ => false

/-- Publish once, with the headers if there are any. -/
def publishOnce (put : BackendPut) : PublishCall → Result Unit
  | .notEnsured e => .error e
  | .notSent e =>
    withContext (if put.headers.isSome then
        "Failed to publish notification message with headers to JetStream"
      else "Failed to publish notification message to JetStream") (.error e)
  | .unacknowledged _ e =>
    withContext "Failed to receive publish acknowledgment from JetStream" (.error e)
  | .acknowledged _ => .ok ()

/-- One attempt: the publications of other clients come first. -/
structure PublishAttempt where
  others : List (Publication × DateTime)
  call : PublishCall

/-- The stream, and what the publications of the publisher were stored as, the oldest first. -/
structure PublishState where
  log : MessageLog
  copies : List MessageInfo

def MessageLog.storeOthers (log : MessageLog) (others : List (Publication × DateTime)) :
    MessageLog :=
  others.foldl (fun log other => log.store other.1 other.2) log

def PublishState.after (put : BackendPut) (attempt : PublishAttempt) (state : PublishState) :
    PublishState :=
  let log := state.log.storeOthers attempt.others
  match attempt.call.storedAt with
  | some now =>
    { log := log.store put.publication now, copies := state.copies ++ [log.nextInfo now] }
  | none => { log := log, copies := state.copies }

section Put

variable (config : JetStreamConfig) (put : BackendPut) (attempts : Nat → PublishAttempt)

/-- What `put_messages` and `put_message_with_headers` return and wait for. -/
def putMessage : Retry.Run Error Unit :=
  publishWithRetry config fun attempt => publishOnce put (attempts attempt).call

/-- The attempts that the call makes. -/
def putAttempts : List Nat :=
  Retry.reached
    (fun attempt error =>
      attempt < config.publishRetryAttempts.toNat && isChannelClosedError error)
    (publishBackoffMs config) (fun attempt => publishOnce put (attempts attempt).call)
    config.publishRetryAttempts.toNat 1

/-- The stream after the attempts that were made. -/
def putState (log : MessageLog) : PublishState :=
  (putAttempts config put attempts).foldl (fun state attempt => state.after put (attempts attempt))
    { log := log, copies := [] }

end Put

/-! ## 3. A copy is the message -/

/-- Insertions of new keys put the entries in front. -/
theorem foldl_insert_entries {α β : Type} (f : α → β) (entries : List (Sigma fun _ : String => α))
    (m : HashMap β) (hnodup : (entries.map Sigma.fst).Nodup)
    (hnew : ∀ entry ∈ entries, entry.1 ∉ m) :
    (entries.foldl (fun m entry => m.insert entry.1 (f entry.2)) m).entries =
      (entries.map fun entry => (⟨entry.1, f entry.2⟩ : Sigma fun _ : String => β)).reverse ++
        m.entries := by
  induction entries generalizing m with
  | nil => rfl
  | cons entry entries ih =>
    rw [List.map_cons, List.nodup_cons] at hnodup
    rw [List.foldl_cons, ih _ hnodup.2, AList.entries_insert_of_notMem
      (hnew entry List.mem_cons_self), List.map_cons, List.reverse_cons, List.append_assoc]
    · rfl
    · intro other hother hmem
      cases AList.mem_insert _ |>.mp hmem with
      | inl heq => exact hnodup.1 (heq ▸ List.mem_map_of_mem hother)
      | inr hold => exact hnew other (List.mem_cons_of_mem _ hother) hold

theorem joinComma_single (value : String) : joinComma [value] = value := by
  rw [joinComma, joinChar, List.map_cons, List.map_nil, List.intercalate_singleton,
    String.ofList_toList]

/-- The headers that are read from a message are those it was published with. -/
theorem headerMetadata_build (headers : HashMap String) (hne : headers.entries ≠ []) :
    headerMetadata (some (buildJetstreamHeaders headers)) = some headers := by
  have hkeys : (headers.entries.map Sigma.fst).Nodup := headers.nodupKeys
  have hbuilt : (buildJetstreamHeaders headers).entries =
      (headers.entries.map fun entry =>
        (⟨entry.1, [entry.2]⟩ : Sigma fun _ : String => List String)).reverse := by
    rw [buildJetstreamHeaders, foldl_insert_entries (fun value => [value]) _ _ hkeys
      (fun _ _ => AList.notMem_empty _)]
    exact List.append_nil _
  have hread : ((buildJetstreamHeaders headers).entries.foldl
      (fun map entry => map.insert entry.1 (joinComma entry.2)) (∅ : HashMap String)).entries =
        headers.entries := by
    have hjoin : (fun entry : Sigma fun _ : String => String =>
        (⟨entry.1, joinComma [entry.2]⟩ : Sigma fun _ : String => String)) = id :=
      funext fun entry => by rw [joinComma_single]; rfl
    rw [foldl_insert_entries joinComma _ _ (buildJetstreamHeaders headers).nodupKeys
      (fun _ _ => AList.notMem_empty _), hbuilt, List.map_reverse, List.reverse_reverse,
      List.map_map]
    show headers.entries.map (fun entry : Sigma fun _ : String => String =>
      (⟨entry.1, joinComma [entry.2]⟩ : Sigma fun _ : String => String)) ++ [] = headers.entries
    rw [hjoin, List.map_id, List.append_nil]
  have heq := AList.ext hread
  rw [headerMetadata]
  simp only [heq, if_neg hne]

theorem spatialHeaders_ne_nil (metadata : SpatialMetadata) :
    (spatialHeaders metadata).entries ≠ [] := by
  obtain ⟨boundingBox, geometry⟩ := metadata
  cases geometry with
  | polygon polygon => exact List.cons_ne_nil _ _
  | pointCloud pointCloud => exact List.cons_ne_nil _ _

/-- Every copy is read as the notification that was put. -/
theorem publication_stored_read {fromUtf8Lossy : List UInt8 → String}
    (hutf8 : ∀ text, fromUtf8Lossy (asBytes text) = text) (result : ProcessingResult)
    (payload : String) (info : MessageInfo) :
    ∃ message, transformJetstreamMessage fromUtf8Lossy
        ((saveToBackend result payload).publication.stored info) = .ok message ∧
      message.sequence = info.streamSequence ∧ (saveToBackend result payload).Stored message := by
  refine ⟨_, rfl, rfl, rfl, ?_, hutf8 payload⟩
  show headerMetadata ((result.spatialMetadata.map spatialHeaders).map buildJetstreamHeaders) =
    result.spatialMetadata.map spatialHeaders
  cases result.spatialMetadata with
  | none => rfl
  | some metadata => exact headerMetadata_build _ (spatialHeaders_ne_nil metadata)

/-! ## 4. The stream only grows -/

/-- The stream has grown by these messages, under sequences above those before. -/
structure MessageLog.Grows (log : MessageLog) (copies : List MessageInfo)
    (publication : Publication) (next : MessageLog) : Prop where
  added : ∃ added, next.messages = log.messages ++ added ∧
    (copies.map publication.stored).Sublist added
  increasing : copies.Pairwise fun first second => first.streamSequence < second.streamSequence
  above : ∀ info ∈ copies,
    log.lastSequence < info.streamSequence ∧ info.streamSequence ≤ next.lastSequence
  last : log.lastSequence ≤ next.lastSequence

section Growth

variable {publication : Publication} {log next : MessageLog} {copies : List MessageInfo}

theorem MessageLog.Grows.refl (log : MessageLog) (publication : Publication) :
    log.Grows [] publication log where
  added := ⟨[], (List.append_nil _).symm, List.Sublist.refl _⟩
  increasing := List.Pairwise.nil
  above := fun _ hinfo => absurd hinfo List.not_mem_nil
  last := Nat.le_refl _

theorem MessageLog.Grows.store (h : log.Grows copies publication next) (other : Publication)
    (now : DateTime) : log.Grows copies publication (next.store other now) where
  added := by
    obtain ⟨added, hmessages, hcopies⟩ := h.added
    refine ⟨added ++ [other.stored (next.nextInfo now)], ?_,
      hcopies.trans (List.sublist_append_left _ _)⟩
    rw [MessageLog.store, hmessages, List.append_assoc]
  increasing := h.increasing
  above := by
    intro info hinfo
    obtain ⟨hlow, hhigh⟩ := h.above info hinfo
    exact ⟨hlow, Nat.le_succ_of_le hhigh⟩
  last := Nat.le_succ_of_le h.last

theorem MessageLog.Grows.storeOthers (h : log.Grows copies publication next)
    (others : List (Publication × DateTime)) :
    log.Grows copies publication (next.storeOthers others) := by
  induction others generalizing next with
  | nil => exact h
  | cons other others ih => exact ih (h.store other.1 other.2)

theorem MessageLog.Grows.copy (h : log.Grows copies publication next) (now : DateTime) :
    log.Grows (copies ++ [next.nextInfo now]) publication (next.store publication now) where
  added := by
    obtain ⟨added, hmessages, hcopies⟩ := h.added
    refine ⟨added ++ [publication.stored (next.nextInfo now)], ?_, ?_⟩
    · rw [MessageLog.store, hmessages, List.append_assoc]
    · rw [List.map_append]
      exact hcopies.append (List.Sublist.refl _)
  increasing := by
    refine List.pairwise_append.mpr ⟨h.increasing, List.pairwise_singleton _ _, ?_⟩
    intro info hinfo new hnew
    rw [List.mem_singleton.mp hnew]
    exact Nat.lt_succ_of_le (h.above info hinfo).2
  above := by
    intro info hinfo
    cases List.mem_append.mp hinfo with
    | inl hold =>
      obtain ⟨hlow, hhigh⟩ := h.above info hold
      exact ⟨hlow, Nat.le_succ_of_le hhigh⟩
    | inr hnew =>
      rw [List.mem_singleton.mp hnew]
      exact ⟨Nat.lt_succ_of_le h.last, Nat.le_refl _⟩
  last := Nat.le_succ_of_le h.last

end Growth

section Attempts

variable {put : BackendPut} {attempts : Nat → PublishAttempt} {log : MessageLog}

/-- One attempt: the stream grows, and a copy is added where the publication is stored. -/
theorem PublishState.after_grows (attempt : PublishAttempt) {state : PublishState}
    (h : log.Grows state.copies put.publication state.log) :
    log.Grows (state.after put attempt).copies put.publication (state.after put attempt).log ∧
      (state.after put attempt).copies.length =
        state.copies.length + attempt.call.storedAt.toList.length := by
  have hothers := h.storeOthers attempt.others
  unfold PublishState.after
  cases attempt.call.storedAt with
  | none => exact ⟨hothers, rfl⟩
  | some now => exact ⟨hothers.copy now, List.length_append⟩

theorem foldl_after_grows (made : List Nat) (state : PublishState)
    (h : log.Grows state.copies put.publication state.log) :
    log.Grows
        (made.foldl (fun state attempt => state.after put (attempts attempt)) state).copies
        put.publication
        (made.foldl (fun state attempt => state.after put (attempts attempt)) state).log ∧
      (made.foldl (fun state attempt => state.after put (attempts attempt)) state).copies.length =
        state.copies.length + (made.flatMap fun attempt =>
          (attempts attempt).call.storedAt.toList).length := by
  induction made generalizing state with
  | nil => exact ⟨h, rfl⟩
  | cons attempt made ih =>
    obtain ⟨hgrows, hlength⟩ := PublishState.after_grows (attempts attempt) h
    obtain ⟨hrest, hcount⟩ := ih _ hgrows
    refine ⟨hrest, ?_⟩
    rw [List.foldl_cons, hcount, hlength, List.flatMap_cons, List.length_append]
    omega

end Attempts

/-! ## 5. At least once -/

theorem publishOnce_eq_ok {put : BackendPut} {call : PublishCall}
    (h : publishOnce put call = .ok ()) : ∃ now, call = .acknowledged now := by
  cases call with
  | notEnsured e => cases h
  | notSent e => cases h
  | unacknowledged storedAt e => cases h
  | acknowledged now => exact ⟨now, rfl⟩

/-- A call that failed and was not lost has stored nothing. -/
theorem publishOnce_failed {put : BackendPut} {call : PublishCall} {e : Error}
    (h : publishOnce put call = .error e) (hlost : call.lost = false) : call.storedAt = none := by
  cases call with
  | notEnsured e => rfl
  | notSent e => rfl
  | unacknowledged storedAt e =>
    cases storedAt with
    | none => rfl
    | some now => cases hlost
  | acknowledged now => cases h

/-- What a put leaves behind: `state` is the stream and the copies after the attempts that were
made, and `ending` what the put returned. -/
structure AtLeastOnce (config : JetStreamConfig) (fromUtf8Lossy : List UInt8 → String)
    (put : BackendPut) (attempts : Nat → PublishAttempt) (log : MessageLog) : Prop where
  /-- the copies are in the stream, in front of nothing that was there before, each once -/
  grows : log.Grows (putState config put attempts log).copies put.publication
    (putState config put attempts log).log
  /-- subscribers and replays read every copy as the notification that was put -/
  read : ∀ info ∈ (putState config put attempts log).copies, ∃ message,
    transformJetstreamMessage fromUtf8Lossy (put.publication.stored info) = .ok message ∧
      message.sequence = info.streamSequence ∧ put.Stored message
  bounded : (putState config put attempts log).copies.length ≤ config.publishRetryAttempts.toNat
  atLeastOnce : (putMessage config put attempts).ending = .returned (.ok ()) →
    (putState config put attempts log).copies ≠ []
  /-- without a lost acknowledgment there is one copy after a success and none after a failure -/
  exactlyOnce : (∀ i ∈ putAttempts config put attempts, (attempts i).call.lost = false) →
    ((putMessage config put attempts).ending = .returned (.ok ()) →
      (putState config put attempts log).copies.length = 1) ∧
    ((putMessage config put attempts).ending ≠ .returned (.ok ()) →
      (putState config put attempts log).copies = [])
  /-- only a closed channel is followed by another attempt -/
  retried : (putAttempts config put attempts).Pairwise fun i _ =>
    ∃ e, publishOnce put (attempts i).call = .error e ∧ isChannelClosedError e = true

section Outcome

variable {config : JetStreamConfig} {put : BackendPut} {attempts : Nat → PublishAttempt}
  {log : MessageLog}

theorem putState_grows :
    log.Grows (putState config put attempts log).copies put.publication
        (putState config put attempts log).log ∧
      (putState config put attempts log).copies.length =
        ((putAttempts config put attempts).flatMap fun attempt =>
          (attempts attempt).call.storedAt.toList).length := by
  obtain ⟨hgrows, hlength⟩ := @foldl_after_grows put attempts log
    (putAttempts config put attempts) { log := log, copies := [] } (.refl log put.publication)
  exact ⟨hgrows, by rw [putState, hlength]; exact Nat.zero_add _⟩

/-- A put that succeeded was acknowledged in its last attempt, and failed in those before. -/
theorem putAttempts_of_ok (h : (putMessage config put attempts).ending = .returned (.ok ())) :
    ∃ before last now, putAttempts config put attempts = before ++ [last] ∧
      (attempts last).call = .acknowledged now ∧
      ∀ i ∈ before, ∃ e, publishOnce put (attempts i).call = .error e := by
  have hreturned := Retry.Ending.orReturn_ok h
  obtain ⟨before, last, hreached, hlast, hbefore⟩ := Retry.reached_of_returned hreturned
  obtain ⟨now, hcall⟩ := publishOnce_eq_ok hlast
  exact ⟨before, last, now, hreached, hcall, hbefore⟩

theorem flatMap_storedAt_eq_nil {made : List Nat}
    (hfailed : ∀ i ∈ made, ∃ e, publishOnce put (attempts i).call = .error e)
    (hlost : ∀ i ∈ made, (attempts i).call.lost = false) :
    (made.flatMap fun attempt => (attempts attempt).call.storedAt.toList) = [] := by
  apply List.flatMap_eq_nil_iff.mpr
  intro i hi
  obtain ⟨e, he⟩ := hfailed i hi
  rw [publishOnce_failed he (hlost i hi)]
  rfl

end Outcome

/-- Whatever the server and the other clients do, a put that returns has stored its notification at
least once, and a second copy means that an acknowledgment was lost. -/
theorem put_atLeastOnce (config : JetStreamConfig) {fromUtf8Lossy : List UInt8 → String}
    (hutf8 : ∀ text, fromUtf8Lossy (asBytes text) = text) (result : ProcessingResult)
    (payload : String) (attempts : Nat → PublishAttempt) (log : MessageLog) :
    AtLeastOnce config fromUtf8Lossy (saveToBackend result payload) attempts log := by
  set put := saveToBackend result payload with hput
  obtain ⟨hgrows, hlength⟩ := @putState_grows config put attempts log
  refine ⟨hgrows, ?_, ?_, ?_, ?_, ?_⟩
  · exact fun info _ => publication_stored_read hutf8 result payload info
  · -- at most one copy for each attempt
    have hone : ∀ made : List Nat, (made.flatMap fun attempt =>
        (attempts attempt).call.storedAt.toList).length ≤ made.length := by
      intro made
      induction made with
      | nil => exact Nat.le_refl 0
      | cons attempt made ih =>
        have hstored : (attempts attempt).call.storedAt.toList.length ≤ 1 := by
          cases (attempts attempt).call.storedAt with
          | none => exact Nat.zero_le 1
          | some now => exact Nat.le_refl 1
        rw [List.flatMap_cons, List.length_append, List.length_cons]
        omega
    rw [hlength]
    exact (hone _).trans (Retry.reached_length _ _)
  · intro hok hnone
    obtain ⟨before, last, now, hmade, hcall, -⟩ := putAttempts_of_ok hok
    rw [hnone, hmade, List.flatMap_append, List.length_append, List.flatMap_singleton, hcall]
      at hlength
    have hzero : 0 = _ + 1 := hlength
    omega
  · intro hlost
    constructor
    · intro hok
      obtain ⟨before, last, now, hmade, hcall, hbefore⟩ := putAttempts_of_ok hok
      rw [hmade] at hlost
      rw [hlength, hmade, List.flatMap_append, List.flatMap_singleton, hcall,
        flatMap_storedAt_eq_nil hbefore fun i hi => hlost i (List.mem_append_left _ hi)]
      rfl
    · intro hfailed
      have hcalls : ∀ i ∈ putAttempts config put attempts, ∃ e,
          publishOnce put (attempts i).call = .error e := by
        apply Retry.reached_failed
        intro a ha
        exact hfailed (congrArg (Retry.Ending.orReturn _) ha)
      apply List.eq_nil_of_length_eq_zero
      rw [hlength, flatMap_storedAt_eq_nil hcalls hlost]
      rfl
  · refine (Retry.reached_retried _ _).imp fun hretried => ?_
    obtain ⟨e, he, hretry⟩ := hretried
    exact ⟨e, he, (Bool.and_eq_true_iff.mp hretry).2⟩

-- a point cloud whose first acknowledgment is lost, with another client's message in between
def cloudResult : ProcessingResult where
  eventType := "cloud"
  topic := "cloud.20260826"
  canonicalizedParams := ∅
  identifierConstraints := ∅
  spatialMetadata := some ⟨"1,2,3,4", .pointCloud "[[1.0,2.0],[3.0,4.0]]"⟩
  fromSchema := true

def lostAcknowledgment (attempt : Nat) : PublishAttempt :=
  if attempt = 1 then { others := [], call := .unacknowledged (some 5) channelClosed }
  else { others := [(⟨"cloud.20260827", none, []⟩, 6)], call := .acknowledged 7 }

theorem put_atLeastOnce_cloud :
    AtLeastOnce patientJetStream (fun bytes => (fromUtf8 bytes).getD "")
        (saveToBackend cloudResult "null") lostAcknowledgment ⟨[], 0⟩ ∧
      (putState patientJetStream (saveToBackend cloudResult "null") lostAcknowledgment
        ⟨[], 0⟩).copies.map (·.streamSequence) = [1, 3] :=
  ⟨put_atLeastOnce patientJetStream (fun text => by rw [fromUtf8_asBytes]; rfl) cloudResult "null"
      lostAcknowledgment ⟨[], 0⟩, by decide +kernel⟩

end AvisoServer
