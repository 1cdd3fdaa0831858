import AvisoServer.Notification.Topics
import AvisoServer.Routes.Streaming

/-!
# The rule of a stream

An empty map of roles admits every authenticated user. The startup checks keep empty maps away from
the guards, so a stream is opened by a granted role or by the absence of a map only.
-/

namespace AvisoServer

/-! ## 1. Granted roles -/

/-- The realm of the user has an entry that admits everyone or names a role of the user. -/
def User.Granted (user : User) (realmRoles : HashMap (List String)) : Prop :=
  ∃ realm allowed, user.realm = some realm ∧ realmRoles.get realm = some allowed ∧
    ("*" ∈ allowed ∨ ∃ role ∈ user.roles, role ∈ allowed)

theorem hasAnyRole_iff {realmRoles : HashMap (List String)} (hne : realmRoles.entries ≠ [])
    (user : User) : user.hasAnyRole realmRoles = true ↔ user.Granted realmRoles := by
  have hempty : realmRoles.entries.isEmpty = false := by simpa using hne
  unfold User.hasAnyRole User.Granted
  rw [hempty]
  cases hrealm : user.realm with
  | none => simp
  | some realm =>
    cases hallowed : realmRoles.get realm with
    | none => simp [hallowed]
    | some allowed =>
      by_cases hwildcard : "*" ∈ allowed
      · simp [hallowed, hwildcard]
      · simp [hallowed, hwildcard]

theorem not_granted_of_no_realm {user : User} (h : user.realm = none)
    (realmRoles : HashMap (List String)) : ¬ user.Granted realmRoles := by
  rintro ⟨realm, allowed, hrealm, -⟩
  rw [h] at hrealm
  cases hrealm

/-! ## 2. Accepted roles -/

/-- The startup checks of authentication. -/
structure Settings.AuthAccepted (settings : Settings) (debugStrings : List String → String)
    (ecpds : Bool) : Prop where
  auth : validateAuthSettings settings.auth = .ok ()
  plugins : validateStreamPluginSettings debugStrings ecpds settings = .ok ()
  streams : validateStreamAuthSettings settings = .ok ()

theorem Settings.authAccepted_of_validate {settings : Settings}
    {debugStrings : List String → String} {ecpds : Bool}
    (h : settings.validate debugStrings ecpds = .ok ()) :
    settings.AuthAccepted debugStrings ecpds := by
  unfold Settings.validate at h
  obtain ⟨_, -, h⟩ := bind_eq_ok.mp h
  obtain ⟨_, -, h⟩ := bind_eq_ok.mp h
  obtain ⟨_, -, h⟩ := bind_eq_ok.mp h
  obtain ⟨_, hauth, h⟩ := bind_eq_ok.mp h
  obtain ⟨_, hplugins, h⟩ := bind_eq_ok.mp h
  obtain ⟨_, hstreams, -⟩ := bind_eq_ok.mp h
  exact ⟨hauth, hplugins, hstreams⟩

theorem adminRoles_ne_nil {auth : AuthSettings} (henabled : auth.enabled = true)
    (h : validateAuthSettings auth = .ok ()) : auth.adminRoles.entries ≠ [] := by
  intro hempty
  unfold validateAuthSettings at h
  simp only [henabled, hempty, Bool.not_true, Bool.false_eq_true, if_false, if_true] at h
  split at h
  · cases h
  split at h
  · cases h
  split at h
  · cases h
  · cases h

theorem validateStreamRoles_eq_ok {eventType field hint : String}
    {roles : Option (HashMap (List String))}
    (h : validateStreamRoles eventType field hint roles = .ok ())
    {realmRoles : HashMap (List String)} (hroles : roles = some realmRoles) : realmRoles.entries ≠ [] := by
  intro hempty
  rw [hroles] at h
  unfold validateStreamRoles at h
  simp only [hempty, if_true] at h
  cases h

/-- The maps that a stream names are not empty. -/
theorem streamRoles_ne_nil {settings : Settings} {debugStrings : List String → String}
    {ecpds : Bool} (haccepted : settings.AuthAccepted debugStrings ecpds) {eventType : String}
    {schema : EventSchema} (hschema : settings.schemaOf eventType = some schema)
    {streamAuth : StreamAuthConfig} (hauth : schema.auth = some streamAuth)
    {realmRoles : HashMap (List String)}
    (hroles : streamAuth.readRoles = some realmRoles ∨ streamAuth.writeRoles = some realmRoles) :
    realmRoles.entries ≠ [] := by
  have hvalid := forM_eq_ok.mp haccepted.streams _ (schemaOf_mem hschema)
  unfold validateStreamAuth at hvalid
  simp only [hauth] at hvalid
  obtain ⟨_, hread, hvalid⟩ := bind_eq_ok.mp hvalid
  obtain ⟨_, hwrite, -⟩ := bind_eq_ok.mp hvalid
  cases hroles with
  | inl h => exact validateStreamRoles_eq_ok hread h
  | inr h => exact validateStreamRoles_eq_ok hwrite h

/-! ## 3. Guards with another test -/

/-- A test of roles, in the place of `hasAnyRole`. -/
abbrev RoleTest := User → HashMap (List String) → Bool

/-- The test agrees with `hasAnyRole` wherever the map names a realm. -/
def RoleTest.Agrees (test : RoleTest) : Prop :=
  ∀ user (realmRoles : HashMap (List String)), realmRoles.entries ≠ [] →
    test user realmRoles = user.hasAnyRole realmRoles

/-- `authorizeStream`, with the test that it makes. -/
def authorizeStreamBy (test : RoleTest) (auth : AuthSettings) (streamAuth : StreamAuthConfig)
    (user : Option User) (operation : StreamOperation) : Except AuthFailure Unit :=
  if !streamAuth.required then .ok ()
  else
    match user with
    | none => .error (.unauthorized "Authentication is required for this stream")
    | some user =>
      let isAdmin := test user auth.adminRoles
      match operation, streamAuth.readRoles, streamAuth.writeRoles with
      | .read, some readRoles, _ =>
        if !isAdmin && !test user readRoles then
          .error (.forbidden "User does not have required read role for this stream")
        else .ok ()
      | .read, none, _ => .ok ()
      | .write, _, some writeRoles =>
        if !isAdmin && !test user writeRoles then
          .error (.forbidden "User does not have required write role for this stream")
        else .ok ()
      | .write, _, none =>
        if !isAdmin then .error (.forbidden "Only administrators can write to this stream")
        else .ok ()

/-- `enforceStreamAuth`, with the test that it makes. -/
def enforceStreamAuthBy (test : RoleTest) (settings : Settings) (user : Option User)
    (eventType : String) (operation : StreamOperation) : Except AuthFailure Unit :=
  if !settings.auth.enabled then .ok ()
  else
    match (settings.schemaOf eventType).bind (·.auth) with
    | none => .ok ()
    | some streamAuth => authorizeStreamBy test settings.auth streamAuth user operation

/-- `call` of the middleware, with the test of its admin guard. -/
def AuthMiddleware.callBy (test : RoleTest) (middleware : AuthMiddleware)
    (request : ServiceRequest) : Except AuthFailure (Option User) :=
  if !middleware.settings.enabled then .ok none
  else if schemaPath.isPrefixOf request.path then .ok none
  else
    let isAdminPath := adminPath.isPrefixOf request.path
    match middleware.resolveUser request isAdminPath with
    | .error failure => .error failure
    | .ok (some user) =>
      if isAdminPath && !test user middleware.settings.adminRoles then
        .error (.forbidden "User does not have required administrative role")
      else .ok (some user)
    | .ok none => .ok none

theorem enforceStreamAuth_eq_by : enforceStreamAuth = enforceStreamAuthBy User.hasAnyRole := rfl

theorem call_eq_by : AuthMiddleware.call = AuthMiddleware.callBy User.hasAnyRole := rfl

section Agreement

variable {test : RoleTest} (htest : test.Agrees)

include htest

theorem authorizeStreamBy_eq {auth : AuthSettings} {streamAuth : StreamAuthConfig}
    (hadmin : auth.adminRoles.entries ≠ [])
    (hroles : ∀ realmRoles,
      streamAuth.readRoles = some realmRoles ∨ streamAuth.writeRoles = some realmRoles →
        realmRoles.entries ≠ [])
    (user : Option User) (operation : StreamOperation) :
    authorizeStreamBy test auth streamAuth user operation =
      authorizeStreamBy User.hasAnyRole auth streamAuth user operation := by
  unfold authorizeStreamBy
  cases user with
  | none => rfl
  | some user =>
    simp only [htest user _ hadmin]
    cases operation with
    | read =>
      cases hread : streamAuth.readRoles with
      | none => rfl
      | some readRoles => simp only [htest user _ (hroles readRoles (.inl hread))]
    | write =>
      cases hwrite : streamAuth.writeRoles with
      | none => rfl
      | some writeRoles => simp only [htest user _ (hroles writeRoles (.inr hwrite))]

theorem callBy_eq {middleware : AuthMiddleware}
    (hadmin : middleware.settings.enabled = true → middleware.settings.adminRoles.entries ≠ [])
    (request : ServiceRequest) :
    middleware.callBy test request = middleware.callBy User.hasAnyRole request := by
  unfold AuthMiddleware.callBy
  cases henabled : middleware.settings.enabled with
  | false => rfl
  | true => simp only [fun user => htest user _ (hadmin henabled)]

end Agreement

/-! ## 4. The rule -/

/-- What a stream that requires authentication allows, in terms of granted roles. -/
structure StreamAuthRule (settings : Settings) (eventType : String)
    (streamAuth : StreamAuthConfig) : Prop where
  read : ∀ user, enforceStreamAuth settings user eventType .read = .ok () ↔
    ∃ u, user = some u ∧
      (streamAuth.readRoles = none ∨ u.isAdmin settings.auth.adminRoles = true ∨
        ∃ readRoles, streamAuth.readRoles = some readRoles ∧ u.Granted readRoles)
  write : ∀ user, enforceStreamAuth settings user eventType .write = .ok () ↔
    ∃ u, user = some u ∧
      (u.isAdmin settings.auth.adminRoles = true ∨
        ∃ writeRoles, streamAuth.writeRoles = some writeRoles ∧ u.Granted writeRoles)
  admin : ∀ u : User,
    u.isAdmin settings.auth.adminRoles = true ↔ u.Granted settings.auth.adminRoles
  noRealm : ∀ u : User, u.realm = none → u.isAdmin settings.auth.adminRoles = false ∧
    ∀ realmRoles,
      streamAuth.readRoles = some realmRoles ∨ streamAuth.writeRoles = some realmRoles →
        u.hasAnyRole realmRoles = false
  /-- No answer depends on what the test says about an empty map. -/
  stream : ∀ test : RoleTest, test.Agrees → ∀ user operation,
    enforceStreamAuthBy test settings user eventType operation =
      enforceStreamAuth settings user eventType operation
  guard : ∀ test : RoleTest, test.Agrees → ∀ middleware request,
    middleware.settings = settings.auth →
      AuthMiddleware.callBy test middleware request = middleware.call request

section Rule

variable {settings : Settings} {debugStrings : List String → String} {ecpds : Bool}
  (haccepted : settings.AuthAccepted debugStrings ecpds) (henabled : settings.auth.enabled = true)

theorem enforceStreamAuth_eq {eventType : String} {schema : EventSchema}
    {streamAuth : StreamAuthConfig} (henabled : settings.auth.enabled = true)
    (hschema : settings.schemaOf eventType = some schema) (hauth : schema.auth = some streamAuth)
    (test : RoleTest) (user : Option User) (operation : StreamOperation) :
    enforceStreamAuthBy test settings user eventType operation =
      authorizeStreamBy test settings.auth streamAuth user operation := by
  unfold enforceStreamAuthBy
  simp only [henabled, Bool.not_true, Bool.false_eq_true, if_false, hschema, Option.bind_some,
    hauth]

theorem not_test_iff {isAdmin test : Bool} {failure : AuthFailure} :
    (if !isAdmin && !test then (.error failure : Except AuthFailure Unit) else .ok ()) = .ok () ↔
      isAdmin = true ∨ test = true := by
  cases isAdmin with
  | true => simp
  | false =>
    cases test with
    | true => simp
    | false => simp

theorem authorizeStream_read {auth : AuthSettings} {streamAuth : StreamAuthConfig}
    (hrequired : streamAuth.required = true) (user : Option User) :
    authorizeStream auth streamAuth user .read = .ok () ↔
      ∃ u, user = some u ∧ (streamAuth.readRoles = none ∨ u.isAdmin auth.adminRoles = true ∨
        ∃ readRoles, streamAuth.readRoles = some readRoles ∧ u.hasAnyRole readRoles = true) := by
  unfold authorizeStream
  cases user with
  | none => simp [hrequired]
  | some u =>
    cases hread : streamAuth.readRoles with
    | none => simp [hrequired]
    | some readRoles =>
      simp only [hrequired, Bool.not_true, Bool.false_eq_true, if_false]
      rw [not_test_iff]
      simp

theorem authorizeStream_write {auth : AuthSettings} {streamAuth : StreamAuthConfig}
    (hrequired : streamAuth.required = true) (user : Option User) :
    authorizeStream auth streamAuth user .write = .ok () ↔
      ∃ u, user = some u ∧ (u.isAdmin auth.adminRoles = true ∨
        ∃ writeRoles, streamAuth.writeRoles = some writeRoles ∧
          u.hasAnyRole writeRoles = true) := by
  unfold authorizeStream
  cases user with
  | none => simp [hrequired]
  | some u =>
    cases hwrite : streamAuth.writeRoles with
    | none =>
      cases hadmin : u.isAdmin auth.adminRoles with
      | true => simp [hrequired, hadmin]
      | false => simp [hrequired, hadmin]
    | some writeRoles =>
      simp only [hrequired, Bool.not_true, Bool.false_eq_true, if_false]
      rw [not_test_iff]
      simp

include haccepted henabled

/-- The rule of every stream that requires authentication, under accepted settings. -/
theorem streamAuthRule {eventType : String} {schema : EventSchema} {streamAuth : StreamAuthConfig}
    (hschema : settings.schemaOf eventType = some schema) (hauth : schema.auth = some streamAuth)
    (hrequired : streamAuth.required = true) : StreamAuthRule settings eventType streamAuth := by
  -- a validated settings file has no empty role map, so the tests for an empty map never decide
  have hadmin := adminRoles_ne_nil henabled haccepted.auth
  have hroles := fun realmRoles =>
    @streamRoles_ne_nil _ _ _ haccepted _ _ hschema _ hauth realmRoles
  have henforce : ∀ user operation, enforceStreamAuth settings user eventType operation =
      authorizeStream settings.auth streamAuth user operation :=
    enforceStreamAuth_eq henabled hschema hauth User.hasAnyRole
  have hnoRealm : ∀ (u : User) (realmRoles : HashMap (List String)), u.realm = none →
      realmRoles.entries ≠ [] → u.hasAnyRole realmRoles = false := by
    intro u realmRoles hrealm hne
    rw [Bool.eq_false_iff, ne_eq, hasAnyRole_iff hne]
    exact not_granted_of_no_realm hrealm realmRoles
  constructor
  · intro user
    rw [henforce, authorizeStream_read hrequired]
    have hgranted : ∀ u : User,
        (∃ readRoles, streamAuth.readRoles = some readRoles ∧ u.hasAnyRole readRoles = true) ↔
          ∃ readRoles, streamAuth.readRoles = some readRoles ∧ u.Granted readRoles := by
      intro u
      apply exists_congr
      intro readRoles
      apply and_congr_right
      intro hread
      exact hasAnyRole_iff (hroles readRoles (.inl hread)) u
    simp only [hgranted]
  · intro user
    rw [henforce, authorizeStream_write hrequired]
    have hgranted : ∀ u : User,
        (∃ writeRoles, streamAuth.writeRoles = some writeRoles ∧
          u.hasAnyRole writeRoles = true) ↔
            ∃ writeRoles, streamAuth.writeRoles = some writeRoles ∧ u.Granted writeRoles := by
      intro u
      apply exists_congr
      intro writeRoles
      apply and_congr_right
      intro hwrite
      exact hasAnyRole_iff (hroles writeRoles (.inr hwrite)) u
    simp only [hgranted]
  · intro u
    exact hasAnyRole_iff hadmin u
  · intro u hrealm
    refine ⟨hnoRealm u _ hrealm hadmin, ?_⟩
    intro realmRoles hmap
    exact hnoRealm u realmRoles hrealm (hroles realmRoles hmap)
  · intro test htest user operation
    rw [enforceStreamAuth_eq_by, enforceStreamAuth_eq henabled hschema hauth,
      enforceStreamAuth_eq henabled hschema hauth]
    exact authorizeStreamBy_eq htest hadmin hroles user operation
  · intro test htest middleware request hsettings
    rw [call_eq_by]
    apply callBy_eq htest
    intro _
    rw [hsettings]
    exact hadmin

end Rule

-- a stream that its readers' realm may read and that administrators write to
def readersSchema : EventSchema where
  payload := none
  topic := none
  identifier := ∅
  storagePolicy := none
  auth :=
    some
      { required := true
        readRoles := some (AList.singleton "realm" ["reader"])
        writeRoles := none
        plugins := none }

def readersSettings : Settings where
  applicationPort := 8000
  notificationBackend := { kind := "in_memory", retentionPolicy := none }
  notificationSchema := some (AList.singleton "products" readersSchema)
  notificationSchemaStrict := none
  auth :=
    { AuthSettings.default with
      enabled := true
      mode := .trustedProxy
      jwtSecret := "secret"
      adminRoles := AList.singleton "realm" ["admin"] }
  metrics := { enabled := false, port := none }

theorem streamAuthRule_readers : StreamAuthRule readersSettings "products"
    { required := true
      readRoles := some (AList.singleton "realm" ["reader"])
      writeRoles := none
      plugins := none } :=
  @streamAuthRule readersSettings (fun _ => "") false
    ⟨by decide +kernel, by decide +kernel, by decide +kernel⟩ rfl "products" readersSchema _ rfl rfl
    rfl

end AvisoServer
