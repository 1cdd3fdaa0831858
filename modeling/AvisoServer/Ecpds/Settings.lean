import AvisoServer.Configuration.Validation

/-!
# Settings of the ECPDS plugin

A stream opts in to the plugin by name. Once a stream does, startup requires the plugin's own
section, and ties its match key to the identifier and the topic of every such stream.
-/

namespace AvisoServer

/-! ## 1. Configuration -/

inductive PartialOutagePolicy where
  | strict
  | anySuccess
  deriving DecidableEq, Repr

structure EcpdsConfig where
  username : String
  password : String
  targetField : String
  matchKey : String
  cacheTtlSeconds : Nat
  maxEntries : Nat
  requestTimeoutSeconds : Nat
  connectTimeoutSeconds : Nat
  partialOutagePolicy : PartialOutagePolicy
  servers : List String

/-- The parts of a URL that startup looks at. -/
structure ParsedUrl where
  scheme : String
  hostStr : Option String
  query : Option String
  fragment : Option String

/-- The stream names the plugin in its auth section. -/
def EventSchema.enablesEcpds (schema : EventSchema) : Bool :=
  (schema.auth.bind (·.plugins)).any fun plugins => "ecpds" ∈ plugins

def Settings.ecpdsStreams (settings : Settings) : List (Sigma fun _ : String => EventSchema) :=
  settings.schemas.filter fun entry => entry.2.enablesEcpds

/-! ## 2. Startup checks -/

/-- A server, whose credentials leave the host only over TLS. -/
def validateEcpdsServer (parseUrl : String → Except String ParsedUrl) (entry : String × Nat) :
    Result Unit :=
  let server := entry.1
  let name := "ecpds.servers[" ++ toString entry.2 ++ "]"
  if trim server = "" then bail (name ++ " must not be empty or whitespace")
  else
    match parseUrl server with
    | .error e => bail (name ++ " '" ++ server ++ "' is not a valid URL: " ++ e)
    | .ok parsed =>
      if parsed.scheme = "http" && parsed.hostStr.getD "" ∉ ["127.0.0.1", "[::1]", "localhost"] then
        bail (name ++ " '" ++ server ++ "' uses plain http:// to a non-loopback host. " ++
          "The ECPDS plugin authenticates with HTTP Basic Auth (service-account " ++
          "credentials), so plain http would send those credentials and per-user " ++
          "destination lookups over the network without TLS. Use https:// for any " ++
          "reachable host; http:// is accepted only for loopback (\x7b127.0.0.1, " ++
          "[::1], localhost\x7d) for local testing.")
      else if parsed.scheme ≠ "http" && parsed.scheme ≠ "https" then
        bail (name ++ " '" ++ server ++ "' has unsupported scheme '" ++ parsed.scheme ++ "'; " ++
          "only 'http' (loopback only) and 'https' are accepted")
      else if parsed.query.isSome then
        bail (name ++ " '" ++ server ++ "' must not contain a query string; " ++
          "the plugin appends '?id=<username>' itself")
      else if parsed.fragment.isSome then
        bail (name ++ " '" ++ server ++ "' must not contain a URL fragment")
      else .ok ()

def validateEcpdsServers (parseUrl : String → Except String ParsedUrl) (servers : List String) :
    Result Unit :=
  if servers = [] then bail "ecpds.servers must contain at least one server URL"
  else servers.zipIdx.forM (validateEcpdsServer parseUrl)

/-- A text that is not blank and has no whitespace around it. -/
def validateEcpdsText (name value : String) : Result Unit :=
  if trim value = "" then bail ("ecpds." ++ name ++ " must not be empty or whitespace")
  else if value ≠ trim value then
    bail ("ecpds." ++ name ++ " must not have leading or trailing whitespace")
  else .ok ()

def validateEcpdsMatchKeyName (matchKey : String) : Result Unit :=
  if trim matchKey = "" then bail "ecpds.match_key must not be empty or whitespace"
  else if matchKey.toList.any fun c => isWhitespaceChar c || c = '/' || c.toNat = 0 then
    bail ("ecpds.match_key '" ++ matchKey ++ "' must be a single bare identifier name; " ++
      "whitespace, '/' and NUL are not allowed")
  else .ok ()

def validateEcpdsPositive (name : String) (value : Nat) : Result Unit :=
  if value = 0 then bail ("ecpds." ++ name ++ " must be greater than zero") else .ok ()

/-- The plugin authorises one canonical value of the match key, so the field must be there, must not
be a geometry, and must have a place in a configured topic. -/
def validateEcpdsStream (matchKey : String) (entry : Sigma fun _ : String => EventSchema) :
    Result Unit :=
  let streamName := entry.1
  let field := entry.2.identifier.get matchKey
  if matchKey = "polygon" || field.any fun field => field.rule.isPolygon then
    bail ("ecpds.match_key '" ++ matchKey ++ "' in schema '" ++ streamName ++
      "' must not use polygon routing or PolygonHandler; watch/replay wildcard the spatial routing " ++
      "position")
  else
    match field with
    | none =>
      bail ("ecpds.match_key '" ++ matchKey ++ "' has no identifier rule defined in schema '" ++
        streamName ++ "'")
    | some field =>
      if !field.isRequired then
        bail ("ecpds.match_key '" ++ matchKey ++ "' must be required: true in schema '" ++
          streamName ++ "' so the value is guaranteed to be present before the plugin runs")
      else if field.rule.isPointCloud then
        bail ("ecpds.match_key '" ++ matchKey ++ "' in schema '" ++ streamName ++
          "' must not use PointCloudHandler; " ++
          "watch/replay replace subscriber point_cloud with the polygon filter and " ++
          "wildcard routing before ECPDS authorization")
      else if entry.2.topic.any fun topic => matchKey ∉ topic.keyOrder then
        bail ("Schema '" ++ streamName ++ "' topic.key_order must include ecpds.match_key '" ++
          matchKey ++ "' to restrict delivery to the authorized value")
      else .ok ()

def validateEcpdsConfig (parseUrl : String → Except String ParsedUrl) (config : EcpdsConfig) :
    Result Unit := do
  validateEcpdsServers parseUrl config.servers
  validateEcpdsText "username" config.username
  validateEcpdsText "password" config.password
  validateEcpdsText "target_field" config.targetField
  validateEcpdsMatchKeyName config.matchKey
  validateEcpdsPositive "cache_ttl_seconds" config.cacheTtlSeconds
  validateEcpdsPositive "max_entries" config.maxEntries
  validateEcpdsPositive "request_timeout_seconds" config.requestTimeoutSeconds
  validateEcpdsPositive "connect_timeout_seconds" config.connectTimeoutSeconds

def validateEcpdsSettings (debugStrings : List String → String)
    (parseUrl : String → Except String ParsedUrl) (settings : Settings)
    (ecpds : Option EcpdsConfig) : Result Unit :=
  if settings.ecpdsStreams = [] then .ok ()
  else
    match ecpds with
    | none =>
      bail ("Streams " ++ debugStrings (settings.ecpdsStreams.map Sigma.fst) ++
        " reference the 'ecpds' plugin but no 'ecpds' configuration section was found")
    | some config => do
      validateEcpdsConfig parseUrl config
      settings.ecpdsStreams.forM (validateEcpdsStream config.matchKey)

/-! ## 3. Accepted streams -/

/-- What startup knows of the match key on a stream with the plugin. -/
structure MatchKeyRouted (schema : EventSchema) (matchKey : String) : Prop where
  name : matchKey ≠ "polygon"
  declared : (schema.identifier.get matchKey).isSome = true
  routed : ∀ topic, schema.topic = some topic → matchKey ∈ topic.keyOrder

theorem validateEcpdsStream_eq_ok {matchKey : String}
    {entry : Sigma fun _ : String => EventSchema}
    (h : validateEcpdsStream matchKey entry = .ok ()) : MatchKeyRouted entry.2 matchKey := by
  unfold validateEcpdsStream at h
  simp only at h
  split at h
  · cases h
  rename_i hpolygon
  split at h
  · cases h
  rename_i field hfield
  split at h
  · cases h
  split at h
  · cases h
  split at h
  · cases h
  rename_i hrouted
  constructor
  · intro hname
    exact hpolygon (by rw [hname]; rfl)
  · rw [hfield]
    rfl
  · intro topic htopic
    rw [htopic] at hrouted
    simpa using hrouted

/-- In accepted settings, the section of the plugin is there as soon as a stream names it. -/
theorem validateEcpdsSettings_eq_ok {debugStrings : List String → String}
    {parseUrl : String → Except String ParsedUrl} {settings : Settings}
    {ecpds : Option EcpdsConfig}
    (h : validateEcpdsSettings debugStrings parseUrl settings ecpds = .ok ())
    {entry : Sigma fun _ : String => EventSchema} (hentry : entry ∈ settings.schemas)
    (hplugin : entry.2.enablesEcpds = true) :
    ∃ config, ecpds = some config ∧ MatchKeyRouted entry.2 config.matchKey := by
  have hstream : entry ∈ settings.ecpdsStreams := List.mem_filter.mpr ⟨hentry, hplugin⟩
  unfold validateEcpdsSettings at h
  rw [if_neg (List.ne_nil_of_mem hstream)] at h
  cases ecpds with
  | none => cases h
  | some config =>
    obtain ⟨_, -, hstreams⟩ := bind_eq_ok.mp h
    exact ⟨config, rfl, validateEcpdsStream_eq_ok (forM_eq_ok.mp hstreams entry hstream)⟩

end AvisoServer
