import AvisoServer.Configuration.Validation

/-!
# Streams of JetStream

Every base has a stream of the server, which is created or brought up to date before a topic of the
base is used. What each call to the server answers is an input, so that any of them can fail.
-/

namespace AvisoServer

/-! ## 1. The server -/

inductive JetStreamStorageType where
  | file
  | memory
  deriving DecidableEq, Repr

def JetStreamStorageType.debug : JetStreamStorageType → String
  | .file => "File"
  | .memory => "Memory"

inductive JetStreamDiscardPolicy where
  | old
  | new
  deriving DecidableEq, Repr

inductive Compression where
  | s2
  | none
  deriving DecidableEq, Repr

/-- The configuration of a stream; durations are in nanoseconds. -/
structure StreamConfig where
  name : String
  subjects : List String
  storage : JetStreamStorageType
  retention : JetStreamRetentionPolicy
  discard : JetStreamDiscardPolicy
  maxMessages : Int
  maxBytes : Int
  maxAge : Nat
  duplicateWindow : Nat
  maxMessagesPerSubject : Int
  numReplicas : Nat
  compression : Option Compression
  /-- The settings that the server code neither sets nor compares, by name. -/
  otherSettings : List (String × String)
  deriving DecidableEq, Repr

/-- The streams of the server, each under its own name. -/
structure NatsServer where
  streams : HashMap StreamConfig
  named : ∀ name config, streams.get name = some config → config.name = name

def NatsServer.empty : NatsServer where
  streams := ∅
  named _ _ h := by cases h

/-- The server with this configuration under its name. -/
def NatsServer.put (server : NatsServer) (config : StreamConfig) : NatsServer where
  streams := server.streams.insert config.name config
  named name found h := by
    unfold HashMap.get at h
    by_cases hname : name = config.name
    · rw [hname, AList.lookup_insert] at h
      cases h
      exact hname.symm
    · rw [AList.lookup_insert_ne hname] at h
      exact server.named name found h

theorem NatsServer.get_put (server : NatsServer) (config : StreamConfig) (name : String) :
    (server.put config).streams.get name =
      if name = config.name then some config else server.streams.get name := by
  unfold NatsServer.put HashMap.get
  by_cases hname : name = config.name
  · rw [if_pos hname, hname, AList.lookup_insert]
  · rw [if_neg hname, AList.lookup_insert_ne hname]

inductive CreateStreamError where
  | streamNameExist
  | other (text : String)
  deriving DecidableEq, Repr

/-- The errors of the calls to the server; `none` where a call gets through. -/
structure EnsureCalls where
  getStream : Option String
  createStream : Option String
  inspectStream : Option String
  updateStream : Option String
  deriving DecidableEq, Repr

namespace NatsServer

def getStream (server : NatsServer) (failure : Option String) (streamName : String) :
    Except String StreamConfig :=
  match failure with
  | some error => .error error
  | none =>
    match server.streams.get streamName with
    | some config => .ok config
    | none => .error "jetstream error: stream not found"

/-- A stream is created unless its name is taken by one with another configuration. -/
def createStream (server : NatsServer) (failure : Option String) (config : StreamConfig) :
    Except CreateStreamError NatsServer :=
  match failure with
  | some error => .error (.other error)
  | none =>
    match server.streams.get config.name with
    | some existing => if existing = config then .ok server else .error .streamNameExist
    | none => .ok (server.put config)

def updateStream (server : NatsServer) (failure : Option String) (config : StreamConfig) :
    Except String NatsServer :=
  match failure with
  | some error => .error error
  | none =>
    match server.streams.get config.name with
    | some _ => .ok (server.put config)
    | none => .error "jetstream error: stream not found"

end NatsServer

/-! ## 2. The configuration of a base -/

structure JetStreamConfig where
  natsUrl : String
  timeoutSeconds : UInt64
  retryAttempts : UInt32
  maxMessages : Option Int
  maxBytes : Option Int
  retentionTime : Option Nat
  storageType : JetStreamStorageType
  replicas : Option Nat
  retentionPolicy : JetStreamRetentionPolicy
  discardPolicy : JetStreamDiscardPolicy
  maxReconnectAttempts : Option UInt32
  reconnectDelayMs : UInt64
  publishRetryAttempts : UInt32
  publishRetryBaseDelayMs : UInt64
  deriving DecidableEq, Repr

/-- The settings that fail at startup. -/
def JetStreamConfig.validate (config : JetStreamConfig) : Result Unit :=
  if config.retentionPolicy = .workqueue then
    bail ("notification_backend.jetstream.retention_policy 'workqueue' is not supported: " ++
      "workqueue retention does not support Aviso's independent watch/replay consumers; use " ++
      "'limits' or 'interest'")
  else if trim config.natsUrl = "" then
    bail "notification_backend.jetstream.nats_url must not be empty"
  else if config.timeoutSeconds = 0 then
    bail "notification_backend.jetstream.timeout_seconds must be > 0"
  else if config.retryAttempts = 0 then
    bail "notification_backend.jetstream.retry_attempts must be > 0"
  else if config.reconnectDelayMs = 0 then
    bail "notification_backend.jetstream.reconnect_delay_ms must be > 0"
  else if config.retentionTime = some 0 then
    bail "notification_backend.jetstream.retention_time must be > 0"
  else if config.retentionTime.any fun nanos => !i64.fits nanos then
    bail "notification_backend.jetstream.retention_time exceeds signed 64-bit nanoseconds"
  else if config.publishRetryAttempts = 0 then
    bail "notification_backend.jetstream.publish_retry_attempts must be > 0"
  else if config.publishRetryBaseDelayMs = 0 then
    bail "notification_backend.jetstream.publish_retry_base_delay_ms must be > 0"
  else .ok ()

def applyBackendDefaults (config : StreamConfig) (backendConfig : JetStreamConfig) : StreamConfig :=
  { config with
    maxMessages := backendConfig.maxMessages.getD config.maxMessages
    maxBytes := backendConfig.maxBytes.getD config.maxBytes
    maxAge := backendConfig.retentionTime.getD config.maxAge
    numReplicas := backendConfig.replicas.getD config.numReplicas }

/-- The maximal age that a policy sets. -/
def overriddenMaxAge (maxAge : Nat) : Option String → Result Nat
  | none => .ok maxAge
  | some retentionTime =>
    match parseRetentionTimeSpec retentionTime with
    | .error e => bail ("Invalid storage_policy.retention_time: " ++ e)
    | .ok seconds =>
      if seconds = 0 then bail "Invalid storage_policy.retention_time: value must be > 0"
      else .ok (seconds.toNat * 1000000000)

/-- The size that a policy sets. -/
def overriddenMaxBytes (maxBytes : Int) : Option String → Result Int
  | none => .ok maxBytes
  | some maxSize =>
    match parseSizeSpec maxSize with
    | .error e => bail ("Invalid storage_policy.max_size: " ++ e)
    | .ok size => .ok size

def applyStoragePolicyOverrides (config : StreamConfig) (policy : EventStoragePolicy) :
    Result StreamConfig := do
  let maxAge ← overriddenMaxAge config.maxAge policy.retentionTime
  let maxBytes ← overriddenMaxBytes config.maxBytes policy.maxSize
  .ok
    { config with
      maxAge := maxAge
      maxMessages := policy.maxMessages.getD config.maxMessages
      maxBytes := maxBytes
      maxMessagesPerSubject :=
        match policy.allowDuplicates with
        | some allowDuplicates => if allowDuplicates then -1 else 1
        | none => config.maxMessagesPerSubject
      compression :=
        match policy.compression with
        | some enabled => some (if enabled then .s2 else .none)
        | none => config.compression }

/-- The policy among the entries that are left, after the one that was selected before them. -/
def selectStoragePolicy (base : String) :
    Option (String × EventStoragePolicy) → List (Sigma fun _ : String => EventSchema) →
      Result (Option (String × EventStoragePolicy))
  | selected, [] => .ok selected
  | selected, ⟨eventType, schema⟩ :: rest =>
    match schema.topic, schema.storagePolicy with
    | some topic, some policy =>
      if eqIgnoreAsciiCase topic.base base then
        match selected with
        | some (previous, _) =>
          bail ("Multiple schemas define storage_policy for stream base '" ++ base ++ "': '" ++
            previous ++ "' and '" ++ eventType ++ "'")
        | none => selectStoragePolicy base (some (eventType, policy)) rest
      else selectStoragePolicy base selected rest
    | _, _ => selectStoragePolicy base selected rest

def resolveStoragePolicyForBase (streamName : String) (schemaMap : Option (HashMap EventSchema)) :
    Result (Option (String × EventStoragePolicy)) :=
  match schemaMap with
  | none => .ok none
  | some schemas => selectStoragePolicy (toAsciiLowercase streamName) none schemas.entries

def buildStreamConfigForBase (backendConfig : JetStreamConfig) (binding : TopicBinding)
    (schemaMap : Option (HashMap EventSchema)) : Result StreamConfig := do
  let config := applyBackendDefaults
    { name := binding.streamName
      subjects := [binding.subjectPattern]
      storage := backendConfig.storageType
      retention := backendConfig.retentionPolicy
      discard := backendConfig.discardPolicy
      maxMessages := 0
      maxBytes := 0
      maxAge := 0
      duplicateWindow := 0
      maxMessagesPerSubject := 1
      numReplicas := 0
      compression := none
      otherSettings := [] } backendConfig
  match ← resolveStoragePolicyForBase binding.streamName schemaMap with
  | some (_, policy) => applyStoragePolicyOverrides config policy
  | none => .ok config

/-! ## 3. Reconciliation -/

/-- A setting that the server code owns: when it drifted, and how it is set. -/
structure ReconciledField where
  name : String
  drifted : StreamConfig → Bool
  set : StreamConfig → StreamConfig

/-- The server writes an omitted limit as -1. -/
def unlimited (value : Int) : Int :=
  if value = 0 then -1 else value

def reconciledFields (desired : StreamConfig) : List ReconciledField :=
  [ { name := "subjects"
      drifted := fun merged => merged.subjects ≠ desired.subjects
      set := fun merged => { merged with subjects := desired.subjects } },
    { name := "max_messages"
      drifted := fun merged => unlimited merged.maxMessages ≠ unlimited desired.maxMessages
      set := fun merged => { merged with maxMessages := desired.maxMessages } },
    { name := "max_bytes"
      drifted := fun merged => unlimited merged.maxBytes ≠ unlimited desired.maxBytes
      set := fun merged => { merged with maxBytes := desired.maxBytes } },
    { name := "max_age"
      drifted := fun merged => merged.maxAge ≠ desired.maxAge
      set := fun merged => { merged with maxAge := desired.maxAge } },
    -- the window of duplicates may not be longer than a finite age
    { name := "duplicate_window"
      drifted := fun merged => merged.maxAge ≠ 0 && merged.maxAge < merged.duplicateWindow
      set := fun merged => { merged with duplicateWindow := merged.maxAge } },
    { name := "max_messages_per_subject"
      drifted := fun merged =>
        unlimited merged.maxMessagesPerSubject ≠ unlimited desired.maxMessagesPerSubject
      set := fun merged =>
        { merged with maxMessagesPerSubject := desired.maxMessagesPerSubject } },
    { name := "num_replicas"
      drifted := fun merged => max merged.numReplicas 1 ≠ max desired.numReplicas 1
      set := fun merged => { merged with numReplicas := desired.numReplicas } },
    { name := "compression"
      drifted := fun merged =>
        merged.compression.getD Compression.none ≠ desired.compression.getD Compression.none
      set := fun merged => { merged with compression := desired.compression } },
    { name := "discard"
      drifted := fun merged => merged.discard ≠ desired.discard
      set := fun merged => { merged with discard := desired.discard } },
    { name := "retention"
      drifted := fun merged => merged.retention ≠ desired.retention
      set := fun merged => { merged with retention := desired.retention } } ]

/-- Set one field, and note its name, if it drifted. -/
def ReconciledField.apply (state : StreamConfig × List String) (field : ReconciledField) :
    StreamConfig × List String :=
  if field.drifted state.1 then (field.set state.1, state.2 ++ [field.name]) else state

/-- The configuration to update the stream to, and the names of the fields that change. -/
def mergedReconciledConfig (current desired : StreamConfig) : StreamConfig × List String :=
  (reconciledFields desired).foldl ReconciledField.apply (current, [])

/-- A server after a call, and what the call returned. -/
abbrev Ensured := NatsServer × Result String

def reconcileExistingStreamConfig (debugStrings : List String → String) (server : NatsServer)
    (calls : EnsureCalls) (current desired : StreamConfig) : Ensured :=
  -- the storage of a stream cannot be changed
  if current.storage ≠ desired.storage then
    (server, bail ("Stream '" ++ desired.name ++ "' storage mismatch: current " ++
      current.storage.debug ++ ", requested " ++ desired.storage.debug ++
      "; JetStream storage cannot be changed in place"))
  else
    let (updateConfig, changes) := mergedReconciledConfig current desired
    if changes = [] then (server, .ok desired.name)
    else
      match server.updateStream calls.updateStream updateConfig with
      | .ok server => (server, .ok desired.name)
      | .error e =>
        (server, withContext ("Failed to reconcile stream '" ++ desired.name ++ "' fields " ++
          debugStrings changes) (bail e))

/-! ## 4. Ensuring a stream -/

/-- The configuration of the stream that a topic belongs to. -/
def desiredStreamConfig (backendConfig : JetStreamConfig)
    (schemaMap : Option (HashMap EventSchema)) (topic : String) : Result StreamConfig := do
  let base ← withContext "Failed to extract event type from topic"
    (deriveEventTypeFromTopic topic)
  let binding ← TopicBinding.new base
  buildStreamConfigForBase backendConfig binding schemaMap

def ensureStream (debugStrings : List String → String) (server : NatsServer)
    (calls : EnsureCalls) (desired : StreamConfig) : Ensured :=
  match server.getStream calls.getStream desired.name with
  | .ok current => reconcileExistingStreamConfig debugStrings server calls current desired
  -- not found, or a lookup that failed for another reason
  | .error _ =>
    match server.createStream calls.createStream desired with
    | .ok server => (server, .ok desired.name)
    | .error .streamNameExist =>
      match server.getStream calls.inspectStream desired.name with
      | .ok current => reconcileExistingStreamConfig debugStrings server calls current desired
      | .error e =>
        (server, withContext "Failed to inspect stream after concurrent creation" (bail e))
    | .error (.other e) => (server, bail e)

def ensureStreamForTopicWithSchema (debugStrings : List String → String)
    (backendConfig : JetStreamConfig) (schemaMap : Option (HashMap EventSchema))
    (server : NatsServer) (calls : EnsureCalls) (topic : String) : Ensured :=
  match desiredStreamConfig backendConfig schemaMap topic with
  | .error e => (server, .error e)
  | .ok desired => ensureStream debugStrings server calls desired

def ensureStreamForTopic (lib : Libraries) (settings : Settings) (backendConfig : JetStreamConfig)
    (server : NatsServer) (calls : EnsureCalls) (topic : String) : Ensured :=
  ensureStreamForTopicWithSchema lib.debugStrings backendConfig settings.notificationSchema server
    calls topic

end AvisoServer
