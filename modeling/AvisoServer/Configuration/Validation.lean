import AvisoServer.Configuration.Types
import AvisoServer.Configuration.Units
import AvisoServer.TopicParser
import AvisoServer.Validators.Geometry

/-!
# Startup validation

The checks of `Application::build`, in its order. A build with the `ecpds` feature makes one more
check after them.
-/

namespace AvisoServer

/-- The entries of the schema map, in iteration order. -/
def Settings.schemas (settings : Settings) : List (Sigma fun _ : String => EventSchema) :=
  match settings.notificationSchema with
  | some schemas => schemas.entries
  | none => []

/-! ## 1. Topics -/

/-- The keys of a topic, each declared and not seen before. -/
def validateKeyOrder (eventType : String) (schema : EventSchema) :
    List String → List String → Result Unit
  | _, [] => .ok ()
  | seen, key :: rest =>
    if key = "point_cloud" then
      bail ("Schema '" ++ eventType ++
        "' topic.key_order must not contain reserved spatial key 'point_cloud'")
    else if (schema.identifier.get key).isNone then
      bail ("Schema '" ++ eventType ++ "' topic.key_order contains undeclared identifier '" ++ key ++
        "'")
    else if key ∈ seen then
      bail ("Schema '" ++ eventType ++ "' topic.key_order contains duplicate identifier '" ++ key ++
        "'")
    else validateKeyOrder eventType schema (key :: seen) rest

/-- Geometries are kept as metadata, every other identifier has its place in the topic. -/
def validateRouted (eventType : String) (keyOrder : List String)
    (field : Sigma fun _ : String => IdentifierFieldConfig) : Result Unit :=
  if field.1 ∉ keyOrder && !field.2.rule.isSpatial then
    bail ("Schema '" ++ eventType ++ "' topic.key_order must include identifier '" ++ field.1 ++ "'")
  else .ok ()

def validateSchemaTopic (eventType : String) (schema : EventSchema) : Result Unit :=
  match schema.topic with
  | none => .ok ()
  | some topic =>
    if topic.keyOrder = [] then
      bail ("Schema '" ++ eventType ++ "' topic.key_order must not be empty")
    else do
      validateKeyOrder eventType schema [] topic.keyOrder
      schema.identifier.entries.forM (validateRouted eventType topic.keyOrder)

def validateTopicSchemaSettings (settings : Settings) : Result Unit :=
  settings.schemas.forM fun entry => validateSchemaTopic entry.1 entry.2

/-! ## 2. Spatial identifiers -/

def validatePolygonName (eventType : String)
    (field : Sigma fun _ : String => IdentifierFieldConfig) : Result Unit :=
  if field.2.rule.isPolygon && field.1 ≠ "polygon" then
    bail ("Schema '" ++ eventType ++ "' PolygonHandler must use the reserved identifier key " ++
      "'polygon'; multiple or renamed geometries are not supported")
  else .ok ()

/-- The point-cloud field of a schema: its name, its company and its size. -/
def validatePointCloud (eventType : String) (schema : EventSchema)
    (field : Sigma fun _ : String => IdentifierFieldConfig) : Result Unit :=
  if field.1 ≠ "point_cloud" then
    bail ("Schema '" ++ eventType ++
      "' PointCloudHandler must use the reserved identifier key 'point_cloud'")
  else if (schema.identifier.get "polygon").isSome then
    bail ("Schema '" ++ eventType ++ "' uses PointCloudHandler, so 'polygon' is reserved for " ++
      "watch/replay filters and must not be declared")
  else
    match schema.topic with
    | none =>
      bail ("Schema '" ++ eventType ++ "' uses PointCloudHandler and must define topic configuration")
    | some topic =>
      match field.2.rule with
      | .pointCloudHandler _ maxPoints =>
        if maxPoints = 0 ∨ maxPoints > hardMaxPoints then
          bail ("Schema '" ++ eventType ++ "' point_cloud max_points must be between 1 and " ++
            toString hardMaxPoints ++ ", got " ++ toString maxPoints)
        else if "point_cloud" ∈ topic.keyOrder then
          bail ("Schema '" ++ eventType ++
            "' topic.key_order must not contain reserved spatial key 'point_cloud'")
        else .ok ()
      | _ => .ok ()

def validateSchemaSpatial (eventType : String) (schema : EventSchema) : Result Unit := do
  schema.identifier.entries.forM (validatePolygonName eventType)
  if (schema.identifier.get "polygon").any fun field => !field.rule.isPolygon then
    bail ("Schema '" ++ eventType ++ "' reserves identifier key 'polygon' for PolygonHandler")
  else
    match schema.identifier.entries.filter fun field => field.2.rule.isPointCloud with
    | [] =>
      if (schema.identifier.get "point_cloud").isSome then
        bail ("Schema '" ++ eventType ++
          "' reserves identifier key 'point_cloud' for PointCloudHandler")
      else .ok ()
    | [field] => validatePointCloud eventType schema field
    | _ => bail ("Schema '" ++ eventType ++ "' may define only one PointCloudHandler")

def validateSpatialSchemaSettings (settings : Settings) : Result Unit :=
  settings.schemas.forM fun entry => validateSchemaSpatial entry.1 entry.2

/-! ## 3. Authentication -/

def validateRole (fieldName realm role : String) : Result Unit :=
  if trim role = "" then
    bail (fieldName ++ " realm '" ++ realm ++
      "' must not contain empty or whitespace-only role entries")
  else if role ≠ trim role then
    bail (fieldName ++ " realm '" ++ realm ++ "' role '" ++ role ++
      "' must not have leading or trailing whitespace")
  else .ok ()

def validateRealm (fieldName : String) (entry : Sigma fun _ : String => List String) :
    Result Unit :=
  if trim entry.1 = "" then
    bail (fieldName ++ " must not contain empty or whitespace-only realm keys")
  else if entry.1 ≠ trim entry.1 then
    bail (fieldName ++ " realm '" ++ entry.1 ++ "' must not have leading or trailing whitespace")
  else if entry.2 = [] then
    bail (fieldName ++ " realm '" ++ entry.1 ++ "' must have at least one role")
  else entry.2.forM (validateRole fieldName entry.1)

def validateRealmRoles (fieldName : String) (realmRoles : HashMap (List String)) : Result Unit :=
  realmRoles.entries.forM (validateRealm fieldName)

/-- The credentials that the mode needs. -/
def validateMode (auth : AuthSettings) : Result Unit :=
  match auth.mode with
  | .direct =>
    if trim auth.authOTronUrl = "" ∨ trim auth.jwtSecret = "" then
      bail "auth.mode=direct requires both auth.auth_o_tron_url and auth.jwt_secret to be configured"
    else .ok ()
  | .trustedProxy =>
    if trim auth.jwtSecret = "" then
      bail "auth.mode=trusted_proxy requires auth.jwt_secret to be configured"
    else .ok ()

def validateAdminRealm (entry : Sigma fun _ : String => List String) : Result Unit :=
  if entry.2 = [] then
    bail ("auth.admin_roles realm '" ++ entry.1 ++ "' must have at least one role")
  else .ok ()

def validateAuthSettings (auth : AuthSettings) : Result Unit :=
  if !auth.enabled then .ok ()
  else if auth.authOTronUrl ≠ trim auth.authOTronUrl then
    bail "auth.auth_o_tron_url must not have leading or trailing whitespace"
  else if auth.jwtSecret ≠ trim auth.jwtSecret then
    bail "auth.jwt_secret must not have leading or trailing whitespace"
  else if auth.timeoutMs = 0 then bail "auth.timeout_ms must be greater than zero"
  else if auth.adminRoles.entries = [] then
    bail "auth.enabled=true requires auth.admin_roles to contain at least one realm"
  else do
    auth.adminRoles.entries.forM validateAdminRealm
    validateRealmRoles "auth.admin_roles" auth.adminRoles
    validateMode auth

/-- The plugins this code base knows. -/
def knownPluginNames : List String := ["ecpds"]

/-- A plugin must be known and compiled in; `ecpds` is compiled in with its feature. -/
def validatePlugin (debugStrings : List String → String) (ecpds : Bool) (eventType plugin : String) :
    Result Unit :=
  if plugin ∉ knownPluginNames then
    bail ("Schema '" ++ eventType ++ "' auth.plugins references unknown plugin '" ++ plugin ++
      "'. Known plugins: " ++ debugStrings knownPluginNames)
  else if !ecpds then
    bail ("Schema '" ++ eventType ++ "' auth.plugins references plugin '" ++ plugin ++
      "', which requires the 'ecpds' Cargo feature. Rebuild aviso-server with `--features ecpds` or " ++
        "remove the plugin from this stream's auth config.")
  else .ok ()

def validateStreamPlugins (debugStrings : List String → String) (ecpds : Bool) (eventType : String)
    (schema : EventSchema) : Result Unit :=
  match schema.auth with
  | none => .ok ()
  | some streamAuth =>
    match streamAuth.plugins with
    | none => .ok ()
    | some plugins =>
      if plugins = [] then
        bail ("Schema '" ++ eventType ++ "' auth.plugins must not be empty; " ++
          "omit the field instead of setting plugins: []")
      else do
        plugins.forM (validatePlugin debugStrings ecpds eventType)
        if !streamAuth.required then
          bail ("Schema '" ++ eventType ++ "' auth.plugins is set but auth.required is false. " ++
            "Plugins only run after stream-level auth passes; " ++
            "set auth.required=true or remove the plugins list.")
        else .ok ()

def validateStreamPluginSettings (debugStrings : List String → String) (ecpds : Bool)
    (settings : Settings) : Result Unit :=
  settings.schemas.forM fun entry => validateStreamPlugins debugStrings ecpds entry.1 entry.2

/-- A role map of a stream; an empty map is no role map. -/
def validateStreamRoles (eventType field hint : String) (roles : Option (HashMap (List String))) :
    Result Unit :=
  match roles with
  | none => .ok ()
  | some roles =>
    if roles.entries = [] then
      bail ("Schema '" ++ eventType ++ "' auth." ++ field ++ " must not be an empty map; " ++ hint)
    else validateRealmRoles ("Schema '" ++ eventType ++ "' auth." ++ field) roles

def StreamAuthConfig.hasRoles (streamAuth : StreamAuthConfig) : Bool :=
  (streamAuth.readRoles.any fun roles => !roles.entries.isEmpty) ||
    streamAuth.writeRoles.any fun roles => !roles.entries.isEmpty

/-- The rules of a stream against the global switch. -/
def validateStreamRequired (enabled : Bool) (eventType : String) (streamAuth : StreamAuthConfig) :
    Result Unit :=
  if enabled then
    if !streamAuth.required && streamAuth.hasRoles then
      bail ("Schema '" ++ eventType ++ "' sets auth roles while auth.required=false; " ++
        "set auth.required=true or remove the role lists")
    else .ok ()
  else if streamAuth.required then
    bail ("Schema '" ++ eventType ++ "' sets auth.required=true but auth is globally disabled. " ++
      "Enable auth.enabled=true or remove schema auth config.")
  else if streamAuth.hasRoles then
    bail ("Schema '" ++ eventType ++ "' sets auth roles but auth is globally disabled. " ++
      "Enable auth.enabled=true or remove schema auth config.")
  else .ok ()

def validateStreamAuth (enabled : Bool) (eventType : String) (schema : EventSchema) :
    Result Unit :=
  match schema.auth with
  | none => .ok ()
  | some streamAuth => do
    validateStreamRoles eventType "read_roles"
      "remove the field to allow any authenticated user to read" streamAuth.readRoles
    validateStreamRoles eventType "write_roles"
      "remove the field to restrict writes to admins only" streamAuth.writeRoles
    validateStreamRequired enabled eventType streamAuth

def validateStreamAuthSettings (settings : Settings) : Result Unit :=
  settings.schemas.forM fun entry => validateStreamAuth settings.auth.enabled entry.1 entry.2

def validateMetricsSettings (settings : Settings) : Result Unit :=
  if !settings.metrics.enabled then .ok ()
  else
    match settings.metrics.port with
    | none => bail "metrics.port is required when metrics.enabled=true"
    | some port =>
      if port = 0 then bail "metrics.port must not be 0"
      else if port = settings.applicationPort then
        bail "metrics.port must differ from application.port"
      else .ok ()

/-! ## 4. Bases and storage policies -/

structure BackendCapabilities where
  retentionTime : Bool
  maxMessages : Bool
  maxSize : Bool
  allowDuplicates : Bool
  compression : Bool

def jetstreamCapabilities : BackendCapabilities := ⟨true, true, true, true, true⟩

def inMemoryCapabilities : BackendCapabilities := ⟨false, false, false, false, false⟩

def capabilitiesForBackendKind (kind : String) : Option BackendCapabilities :=
  if kind = "jetstream" then some jetstreamCapabilities
  else if kind = "in_memory" then some inMemoryCapabilities
  else none

/-- The bases have no stream in common; an owner is found by the name of its stream. -/
def validateBases : List (String × String) → List (Sigma fun _ : String => EventSchema) →
    Result Unit
  | _, [] => .ok ()
  | owners, ⟨eventType, schema⟩ :: rest =>
    match TopicBinding.new (schema.base eventType) with
    | .error e =>
      bail ("Schema '" ++ eventType ++ "' has invalid topic base: " ++ e.toString)
    | .ok binding =>
      match owners.lookup binding.streamName with
      | some previousOwner =>
        bail ("Schemas '" ++ previousOwner ++ "' and '" ++ eventType ++
          "' both define topic base '" ++ schema.base eventType ++ "'")
      | none => validateBases ((binding.streamName, eventType) :: owners) rest

/-- One field of a policy that the backend may not support. -/
def validateCapability {α : Type} (backendKind eventType field : String) (value : Option α)
    (supported : Bool) : Result Unit :=
  if value.isSome && !supported then
    bail ("Schema '" ++ eventType ++ "' storage_policy." ++ field ++
      " is not supported by backend '" ++ backendKind ++ "'")
  else .ok ()

def validateRetentionTime (eventType : String) (retentionTime : Option String) : Result Unit :=
  match retentionTime with
  | none => .ok ()
  | some text =>
    match parseRetentionTimeSpec text with
    | .error e =>
      bail ("Schema '" ++ eventType ++ "' storage_policy.retention_time is invalid: " ++ e)
    | .ok seconds =>
      if seconds = 0 then
        bail ("Schema '" ++ eventType ++
          "' storage_policy.retention_time must be greater than zero")
      else .ok ()

def validateMaxSize (eventType : String) (maxSize : Option String) : Result Unit :=
  match maxSize with
  | none => .ok ()
  | some text =>
    match parseSizeSpec text with
    | .error e => bail ("Schema '" ++ eventType ++ "' storage_policy.max_size is invalid: " ++ e)
    | .ok _ => .ok ()

def validateMaxMessages (eventType : String) (maxMessages : Option Int) : Result Unit :=
  if maxMessages.any (· ≤ 0) then
    bail ("Schema '" ++ eventType ++ "' storage_policy.max_messages must be greater than zero")
  else .ok ()

def validatePolicyFields (backendKind eventType : String) (policy : EventStoragePolicy)
    (capabilities : BackendCapabilities) : Result Unit := do
  validateRetentionTime eventType policy.retentionTime
  validateMaxSize eventType policy.maxSize
  validateMaxMessages eventType policy.maxMessages
  validateCapability backendKind eventType "retention_time" policy.retentionTime
    capabilities.retentionTime
  validateCapability backendKind eventType "max_messages" policy.maxMessages
    capabilities.maxMessages
  validateCapability backendKind eventType "max_size" policy.maxSize capabilities.maxSize
  validateCapability backendKind eventType "allow_duplicates" policy.allowDuplicates
    capabilities.allowDuplicates
  validateCapability backendKind eventType "compression" policy.compression
    capabilities.compression

/-- The policies have an owner for each base, compared in lower case. -/
def validatePolicies (kind : String) (capabilities : BackendCapabilities) :
    List (String × String) → List (Sigma fun _ : String => EventSchema) → Result Unit
  | _, [] => .ok ()
  | owners, ⟨eventType, schema⟩ :: rest =>
    match schema.storagePolicy, schema.topic with
    | none, _ => validatePolicies kind capabilities owners rest
    | some _, none =>
      bail ("Schema '" ++ eventType ++ "' defines storage_policy but has no topic configuration")
    | some policy, some topic =>
      match owners.lookup (toAsciiLowercase topic.base) with
      | some previousOwner =>
        bail ("Schemas '" ++ previousOwner ++ "' and '" ++ eventType ++
          "' both define storage_policy for topic base '" ++ topic.base ++ "'")
      | none => do
        validatePolicyFields kind eventType policy capabilities
        validatePolicies kind capabilities ((toAsciiLowercase topic.base, eventType) :: owners) rest

def validateSchemaStoragePolicySupport (settings : Settings) : Result Unit :=
  let kind := settings.notificationBackend.kind
  match capabilitiesForBackendKind kind with
  | none => bail ("Unknown notification_backend kind: " ++ kind)
  | some capabilities =>
    if kind = "jetstream" ∧ settings.notificationBackend.retentionPolicy = some .workqueue then
      bail ("notification_backend.jetstream.retention_policy 'workqueue' is not supported for " ++
        "backend defaults or schema storage policies: workqueue retention does not support Aviso's " ++
        "independent watch/replay consumers; use 'limits' or 'interest'")
    else do
      validateBases [] settings.schemas
      validatePolicies kind capabilities [] settings.schemas

/-! ## 5. Startup -/

/-- The checks that every build makes before the server starts. -/
def Settings.validate (debugStrings : List String → String) (ecpds : Bool) (settings : Settings) :
    Result Unit := do
  validateSchemaStoragePolicySupport settings
  validateTopicSchemaSettings settings
  validateSpatialSchemaSettings settings
  validateAuthSettings settings.auth
  validateStreamPluginSettings debugStrings ecpds settings
  validateStreamAuthSettings settings
  validateMetricsSettings settings

end AvisoServer
