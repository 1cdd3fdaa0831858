import AvisoServer.Validators.Types

/-!
# Configuration values

The settings the server reads, as deserialisation builds them.
-/

namespace AvisoServer

/-! ## 1. Watch endpoint -/

/-- Settings of watch and replay streaming, as they are written in the configuration. -/
structure WatchEndpointSettings where
  sseHeartbeatIntervalSec : Nat
  connectionMaxDurationSec : Nat
  replayBatchSize : Nat
  maxHistoricalNotifications : Nat
  replayBatchDelayMs : Nat
  concurrentNotificationProcessing : Nat
  deriving DecidableEq, Repr

/-- A value of a 64-bit unsigned field. -/
def isU64 (n : Nat) : Bool :=
  n < 18446744073709551616

/-- `NonZeroUsize`, as `deserialize_positive_usize` requires it. -/
def isPositiveUsize (n : Nat) : Bool :=
  isU64 n && n ≠ 0

/-- The settings that deserialisation accepts; startup checks none of them again. -/
def WatchEndpointSettings.accepted (settings : WatchEndpointSettings) : Bool :=
  isU64 settings.sseHeartbeatIntervalSec && isU64 settings.connectionMaxDurationSec &&
    isU64 settings.replayBatchSize && isPositiveUsize settings.maxHistoricalNotifications &&
    isU64 settings.replayBatchDelayMs && isU64 settings.concurrentNotificationProcessing

def WatchEndpointSettings.default : WatchEndpointSettings where
  sseHeartbeatIntervalSec := 30
  connectionMaxDurationSec := 3600
  replayBatchSize := 100
  maxHistoricalNotifications := 10000
  replayBatchDelayMs := 100
  concurrentNotificationProcessing := 15

theorem WatchEndpointSettings.default_accepted :
    WatchEndpointSettings.default.accepted = true := by
  decide

/-! ## 2. Authentication -/

inductive AuthMode where
  | direct
  | trustedProxy
  deriving DecidableEq, Repr

structure AuthSettings where
  enabled : Bool
  mode : AuthMode
  authOTronUrl : String
  jwtSecret : String
  adminRoles : HashMap (List String)
  timeoutMs : Nat

def AuthSettings.default : AuthSettings where
  enabled := false
  mode := .direct
  authOTronUrl := ""
  jwtSecret := ""
  adminRoles := ∅
  timeoutMs := 5000

structure StreamAuthConfig where
  required : Bool
  readRoles : Option (HashMap (List String))
  writeRoles : Option (HashMap (List String))
  plugins : Option (List String)

/-! ## 3. Schemas -/

structure PayloadConfig where
  required : Bool
  deriving DecidableEq, Repr

structure TopicConfig where
  base : String
  keyOrder : List String
  deriving DecidableEq, Repr

structure IdentifierFieldConfig where
  rule : ValidationRules

def IdentifierFieldConfig.isRequired (field : IdentifierFieldConfig) : Bool :=
  field.rule.isRequired

structure EventStoragePolicy where
  retentionTime : Option String
  maxMessages : Option Int
  maxSize : Option String
  allowDuplicates : Option Bool
  compression : Option Bool
  deriving DecidableEq, Repr

structure EventSchema where
  payload : Option PayloadConfig
  topic : Option TopicConfig
  identifier : HashMap IdentifierFieldConfig
  storagePolicy : Option EventStoragePolicy
  auth : Option StreamAuthConfig

/-- The base of a schema's topics; without a topic section it is the event type. -/
def EventSchema.base (schema : EventSchema) (eventType : String) : String :=
  match schema.topic with
  | some topic => topic.base
  | none => eventType

/-! ## 4. All settings -/

inductive JetStreamRetentionPolicy where
  | limits
  | interest
  | workqueue
  deriving DecidableEq, Repr

/-- The backend's kind, and the retention policy of its JetStream section. -/
structure NotificationBackendSettings where
  kind : String
  retentionPolicy : Option JetStreamRetentionPolicy

structure MetricsSettings where
  enabled : Bool
  port : Option Nat

structure Settings where
  applicationPort : Nat
  notificationBackend : NotificationBackendSettings
  notificationSchema : Option (HashMap EventSchema)
  notificationSchemaStrict : Option Bool
  auth : AuthSettings
  metrics : MetricsSettings

/-- Unless it is set, strict mode is on as soon as there is a schema. -/
def Settings.resolveNotificationSchemaStrict (settings : Settings) : Bool :=
  settings.notificationSchemaStrict.getD
    (match settings.notificationSchema with
    | some schemas => !schemas.entries.isEmpty
    | none => false)

/-- The schema of an event type. -/
def Settings.schemaOf (settings : Settings) (eventType : String) : Option EventSchema :=
  settings.notificationSchema.bind fun schemas => schemas.get eventType

end AvisoServer
