import AvisoServer.Ecpds.Settings
import AvisoServer.Routes.Streaming
import Mathlib.Data.Finset.Basic

/-!
# Authorisation of destinations

The checker compares one canonical value of the request with the destinations of the user, which it
gets from the ECPDS servers or from its cache. The watch and replay handlers ask it after the request
has been processed.
-/

namespace AvisoServer

/-! ## 1. Outcomes and errors -/

inductive FetchOutcome where
  | success
  | unauthorized
  | forbidden
  | clientError
  | serverError
  | invalidResponse
  | unreachable
  deriving DecidableEq, Repr

inductive DenyReason where
  | destinationNotInList
  | matchKeyMissing
  deriving DecidableEq, Repr

/-- The errors of the client and the checker; the sources of the two that arise when the client is
built are texts. -/
inductive EcpdsError where
  | serviceUnavailable (fetchOutcome : FetchOutcome)
  | accessDenied (reason : DenyReason) (message : String)
  | invalidResponse (serverIndex : Nat) (message : String)
  | invalidServerUrl (server : String) (source : String)
  | httpClientBuild (source : String)
  | http (serverIndex : Nat) (status : Option Nat) (message : String)
  deriving DecidableEq, Repr

inductive CacheOutcome where
  | hit
  | missCoalesced
  | missFetched (fetchOutcome : FetchOutcome)
  deriving DecidableEq, Repr

/-! ## 2. The checker -/

/-- The cache over the client: what it answers to the look-up of a user's destinations. -/
abbrev DestinationLookup := String → CacheOutcome × Except EcpdsError (Finset String)

structure EcpdsChecker where
  tryGetOrFetch : DestinationLookup
  matchKey : String

structure AccessCheckResult where
  cacheOutcome : Option CacheOutcome
  result : Except EcpdsError Unit

/-- The client of the configured servers, built once. -/
abbrev EcpdsClients := EcpdsConfig → Except EcpdsError DestinationLookup

def EcpdsChecker.new (clients : EcpdsClients) (config : EcpdsConfig) :
    Except EcpdsError EcpdsChecker := do
  let tryGetOrFetch ← clients config
  .ok { tryGetOrFetch := tryGetOrFetch, matchKey := config.matchKey }

/-- The user may read for the destination that the identifier names. -/
def EcpdsChecker.checkAccess (checker : EcpdsChecker) (username : String)
    (identifier : HashMap String) : AccessCheckResult :=
  match identifier.get checker.matchKey with
  | none =>
    { cacheOutcome := none
      result := .error (.accessDenied .matchKeyMissing
        ("Required field '" ++ checker.matchKey ++ "' not found in request identifiers")) }
  | some destination =>
    let (cacheOutcome, fetchResult) := checker.tryGetOrFetch username
    { cacheOutcome := some cacheOutcome
      result :=
        match fetchResult with
        | .ok destinations =>
          if destination ∈ destinations then .ok ()
          else
            .error (.accessDenied .destinationNotInList
              ("User '" ++ username ++ "' does not have access to destination '" ++ destination ++
                "'"))
        | .error e => .error e }

/-! ## 3. The handlers' check -/

/-- The data of the application that the check looks up; each may be missing. -/
structure EcpdsAppData where
  authSettings : Option AuthSettings
  checker : Option EcpdsChecker

/-- The checker is built only when a stream names the plugin. -/
def Settings.buildEcpdsChecker (settings : Settings) (clients : EcpdsClients)
    (ecpds : Option EcpdsConfig) : Except EcpdsError (Option EcpdsChecker) :=
  match ecpds, settings.schemas.any fun entry => entry.2.enablesEcpds with
  | some config, true => some <$> EcpdsChecker.new clients config
  | _, _ => .ok none

/-- What stops the application from being built. -/
inductive BuildError where
  | settings (error : Error)
  | checker (error : EcpdsError)

/-- A build with the `ecpds` feature, up to the data that the handlers share. -/
def Settings.buildWithEcpds (settings : Settings) (debugStrings : List String → String)
    (parseUrl : String → Except String ParsedUrl) (clients : EcpdsClients)
    (ecpds : Option EcpdsConfig) : Except BuildError EcpdsAppData := do
  (settings.validate debugStrings true).mapError .settings
  (validateEcpdsSettings debugStrings parseUrl settings ecpds).mapError .settings
  let checker ← (settings.buildEcpdsChecker clients ecpds).mapError .checker
  .ok { authSettings := some settings.auth, checker := checker }

inductive EcpdsFailure where
  | forbidden (message : String)
  | serviceUnavailable (message : String)
  | internal (message : String)
  deriving DecidableEq, Repr

/-- The answer to a check that did not allow the user. -/
def EcpdsError.toFailure : EcpdsError → EcpdsFailure
  | .accessDenied _ message => .forbidden message
  | .serviceUnavailable _ => .serviceUnavailable "ECPDS service is inaccessible"
  | _ => .internal "ECPDS check failed unexpectedly"

def enforceEcpdsAuth (settings : Settings) (data : EcpdsAppData) (user : Option User)
    (eventType : String) (canonicalizedParams : HashMap String) : Except EcpdsFailure Unit :=
  if !(settings.schemaOf eventType).any fun schema => schema.enablesEcpds then .ok ()
  else
    match user with
    | none => .ok ()
    | some user =>
      match data.authSettings with
      | none => .error (.internal "Server configuration error")
      | some authSettings =>
        if user.isAdmin authSettings.adminRoles then .ok ()
        else
          match data.checker with
          | none => .error (.internal "Server configuration error")
          | some checker =>
            (checker.checkAccess user.username canonicalizedParams).result.mapError
              EcpdsError.toFailure

/-! ## 4. Allowed requests -/

/-- An allowed destination is one of those that were fetched for the user. -/
theorem checkAccess_eq_ok {checker : EcpdsChecker} {username : String}
    {identifier : HashMap String}
    (h : (checker.checkAccess username identifier).result = .ok ()) :
    ∃ destination destinations, identifier.get checker.matchKey = some destination ∧
      (checker.tryGetOrFetch username).2 = .ok destinations ∧ destination ∈ destinations := by
  unfold EcpdsChecker.checkAccess at h
  split at h
  · cases h
  rename_i destination hdestination
  simp only at h
  split at h
  · rename_i destinations hfetch
    split at h
    · rename_i hmem
      exact ⟨destination, destinations, hdestination, hfetch, hmem⟩
    · cases h
  · cases h

/-- A user who is no administrator passes the check only through the checker. -/
theorem enforceEcpdsAuth_eq_ok {settings : Settings} {data : EcpdsAppData} {user : User}
    {authSettings : AuthSettings} {eventType : String} {schema : EventSchema}
    {canonicalizedParams : HashMap String} (hsettings : data.authSettings = some authSettings)
    (hschema : settings.schemaOf eventType = some schema) (hplugin : schema.enablesEcpds = true)
    (hadmin : user.isAdmin authSettings.adminRoles = false)
    (h : enforceEcpdsAuth settings data (some user) eventType canonicalizedParams = .ok ()) :
    ∃ checker, data.checker = some checker ∧
      (checker.checkAccess user.username canonicalizedParams).result = .ok () := by
  unfold enforceEcpdsAuth at h
  rw [hschema] at h
  simp only [Option.any_some, hplugin, Bool.not_true, Bool.false_eq_true, if_false, hsettings,
    hadmin] at h
  split at h
  · cases h
  rename_i checker hchecker
  exact ⟨checker, hchecker, mapError_eq_ok.mp h⟩

/-- What a build with the `ecpds` feature knows. -/
structure BuiltWithEcpds (settings : Settings) (debugStrings : List String → String)
    (ecpds : Option EcpdsConfig) (data : EcpdsAppData) : Prop where
  accepted : settings.validate debugStrings true = .ok ()
  authSettings : data.authSettings = some settings.auth
  matchKey : ∀ eventType schema, settings.schemaOf eventType = some schema →
    schema.enablesEcpds = true → ∃ config, ecpds = some config ∧
      MatchKeyRouted schema config.matchKey
  checker : ∀ checker, data.checker = some checker → ∃ config, ecpds = some config ∧
    checker.matchKey = config.matchKey

theorem buildWithEcpds_eq_ok {settings : Settings} {debugStrings : List String → String}
    {parseUrl : String → Except String ParsedUrl} {clients : EcpdsClients}
    {ecpds : Option EcpdsConfig} {data : EcpdsAppData}
    (h : settings.buildWithEcpds debugStrings parseUrl clients ecpds = .ok data) :
    BuiltWithEcpds settings debugStrings ecpds data := by
  unfold Settings.buildWithEcpds at h
  obtain ⟨_, haccepted, h⟩ := bind_eq_ok.mp h
  obtain ⟨_, hecpds, h⟩ := bind_eq_ok.mp h
  obtain ⟨checker, hchecker, h⟩ := bind_eq_ok.mp h
  cases h
  constructor
  · exact mapError_eq_ok.mp haccepted
  · rfl
  · intro eventType schema hschema hplugin
    exact validateEcpdsSettings_eq_ok (mapError_eq_ok.mp hecpds) (schemaOf_mem hschema) hplugin
  · intro built hbuilt
    have hnew := mapError_eq_ok.mp hchecker
    unfold Settings.buildEcpdsChecker at hnew
    split at hnew
    · rename_i config _ _ _
      obtain ⟨new, hnew, hsome⟩ := map_eq_ok.mp hnew
      unfold EcpdsChecker.new at hnew
      obtain ⟨tryGetOrFetch, -, hnew⟩ := bind_eq_ok.mp hnew
      cases hnew
      rw [← hsome] at hbuilt
      cases hbuilt
      exact ⟨config, rfl, rfl⟩
    · cases hnew
      cases hbuilt

end AvisoServer
