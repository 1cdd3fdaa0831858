import AvisoServer.Routes.Dispatch

/-!
# The admin guard

The middleware tells an admin request by the prefix of the path as it stands in the URI, and the
router finds the handler on the decoded path. A path that escapes a letter of the prefix reaches an
admin handler without the check.
-/

namespace AvisoServer

/-! ## 1. What the middleware checks -/

section Middleware

variable {middleware : AuthMiddleware} {request : ServiceRequest}

-- the two prefixes differ in a letter, so no path has both
theorem not_schemaPath_of_adminPath {path : List UInt8}
    (h : AuthMiddleware.adminPath.isPrefixOf path = true) :
    AuthMiddleware.schemaPath.isPrefixOf path = false := by
  by_contra hschema
  rw [Bool.not_eq_false] at hschema
  have hadmin : AuthMiddleware.adminPath <+: path := List.isPrefixOf_iff_prefix.mp h
  have hschema : AuthMiddleware.schemaPath <+: path := List.isPrefixOf_iff_prefix.mp hschema
  have hboth : AuthMiddleware.adminPath <+: AuthMiddleware.schemaPath :=
    List.prefix_of_prefix_length_le hadmin hschema (by decide +kernel)
  have hnot : ¬AuthMiddleware.adminPath <+: AuthMiddleware.schemaPath := by decide +kernel
  exact hnot hboth

-- whatever the credentials, the last test turns an absent user into a failure
theorem resolveUser_admin_ne_none : middleware.resolveUser request true ≠ .ok none := by
  unfold AuthMiddleware.resolveUser
  cases middleware.credentialsUser request true with
  | error failure => simp
  | ok user => cases user <;> simp

-- without credentials a path that is not an admin path goes on without a user
theorem resolveUser_anonymous (h : request.authorization = none) :
    middleware.resolveUser request false = .ok none := by
  have hcredentials : middleware.credentialsUser request false = .ok none := by
    unfold AuthMiddleware.credentialsUser
    cases middleware.settings.mode with
    | direct => simp only [resolveDirectCredentials, h, AuthMiddleware.orAbsent]
    | trustedProxy => simp only [resolveTrustedProxyToken, h, AuthMiddleware.orAbsent]
  rw [AuthMiddleware.resolveUser, hcredentials]
  rfl

/-- On an admin path the request goes on only with an administrator. -/
theorem call_admin {user : Option User} (henabled : middleware.settings.enabled = true)
    (hpath : AuthMiddleware.adminPath.isPrefixOf request.path = true)
    (h : middleware.call request = .ok user) :
    ∃ u, middleware.resolveUser request true = .ok (some u) ∧
      u.isAdmin middleware.settings.adminRoles = true := by
  have hschema := not_schemaPath_of_adminPath hpath
  simp only [AuthMiddleware.call, henabled, hschema, hpath, Bool.not_true, Bool.false_eq_true,
    if_false, Bool.true_and, Bool.not_eq_true'] at h
  cases hresolve : middleware.resolveUser request true with
  | error failure =>
    rw [hresolve] at h
    cases h
  | ok resolved =>
    cases resolved with
    | none => exact absurd hresolve resolveUser_admin_ne_none
    | some u =>
      refine ⟨u, rfl, ?_⟩
      by_contra hadmin
      rw [Bool.not_eq_true] at hadmin
      rw [hresolve] at h
      simp only [hadmin, if_true] at h
      cases h

theorem call_anonymous (middleware : AuthMiddleware) (request : ServiceRequest)
    (hpath : AuthMiddleware.adminPath.isPrefixOf request.path = false)
    (h : request.authorization = none) : middleware.call request = .ok none := by
  unfold AuthMiddleware.call
  simp only [hpath, resolveUser_anonymous h]
  split
  · rfl
  · split <;> rfl

end Middleware

/-! ## 2. The guard -/

/-- An admin handler runs only for a user that was resolved and is an administrator. -/
def AuthMiddleware.GuardsAdmin (middleware : AuthMiddleware) (request : ServiceRequest) : Prop :=
  ∀ handler user, middleware.serve request = some (handler, user) → handler.isAdmin = true →
    ∃ u, middleware.resolveUser request
        (AuthMiddleware.adminPath.isPrefixOf request.path) = .ok (some u) ∧
      u.isAdmin middleware.settings.adminRoles = true

theorem serve_eq_some {middleware : AuthMiddleware} {request : ServiceRequest}
    {handler : Handler} {user : Option User} :
    middleware.serve request = some (handler, user) ↔
      dispatch request.method request.path = some handler ∧ middleware.call request = .ok user := by
  unfold AuthMiddleware.serve
  cases dispatch request.method request.path with
  | none => simp
  | some found => cases middleware.call request <;> simp

/-- For a target that the router sends to an admin handler, the guard holds under all credentials
exactly if the path spells the admin prefix without escapes. -/
theorem adminGuard_iff (middleware : AuthMiddleware) (henabled : middleware.settings.enabled = true)
    (method : Method) (path : List UInt8) (handler : Handler)
    (hdispatch : dispatch method path = some handler) (hadmin : handler.isAdmin = true) :
    (∀ authorization, middleware.GuardsAdmin
        { method := method, path := path, authorization := authorization }) ↔
      AuthMiddleware.adminPath.isPrefixOf path = true := by
  constructor
  · intro hguard
    by_contra hpath
    rw [Bool.not_eq_true] at hpath
    -- a request without credentials reaches the handler
    have hcall := call_anonymous middleware
      { method := method, path := path, authorization := none } hpath rfl
    obtain ⟨u, hresolve, -⟩ := hguard none handler none
      (serve_eq_some.mpr ⟨hdispatch, hcall⟩) hadmin
    rw [hpath, resolveUser_anonymous rfl] at hresolve
    cases hresolve
  · intro hpath authorization found user hserve _
    obtain ⟨u, hresolve, hrole⟩ := call_admin henabled hpath (serve_eq_some.mp hserve).2
    exact ⟨u, by rw [hpath]; exact hresolve, hrole⟩

-- a middleware in trusted proxy mode whose tokens all fail
def closedMiddleware : AuthMiddleware where
  settings :=
    { AuthSettings.default with
      enabled := true
      mode := .trustedProxy
      jwtSecret := "secret"
      adminRoles := AList.singleton "realm" ["admin"] }
  authClient := none
  validateJwt := fun _ _ => none

theorem adminGuard_iff_wipeAll :
    (∀ authorization, closedMiddleware.GuardsAdmin
        { method := .delete, path := asBytes "/api/v1/admin/wipe/all",
          authorization := authorization }) ↔
      AuthMiddleware.adminPath.isPrefixOf (asBytes "/api/v1/admin/wipe/all") = true :=
  adminGuard_iff closedMiddleware rfl .delete (asBytes "/api/v1/admin/wipe/all") .wipeAll
    (by decide +kernel) rfl

/-- `DELETE /api/v1/%61dmin/wipe/all` without credentials wipes everything. -/
theorem escapedAdmin_unguarded :
    ¬closedMiddleware.GuardsAdmin
      { method := .delete, path := asBytes "/api/v1/%61dmin/wipe/all", authorization := none } := by
  intro hguard
  have hdispatch : dispatch .delete (asBytes "/api/v1/%61dmin/wipe/all") = some .wipeAll := by
    decide +kernel
  have hpath : AuthMiddleware.adminPath.isPrefixOf (asBytes "/api/v1/%61dmin/wipe/all") = false := by
    decide +kernel
  have hcall := call_anonymous closedMiddleware
    { method := .delete, path := asBytes "/api/v1/%61dmin/wipe/all", authorization := none }
    hpath rfl
  obtain ⟨u, hresolve, -⟩ := hguard .wipeAll none (serve_eq_some.mpr ⟨hdispatch, hcall⟩) rfl
  rw [hpath, resolveUser_anonymous rfl] at hresolve
  cases hresolve

/-! ## 3. Paths without escapes -/

theorem requote_of_plain (path : List UInt8) (h : PercentCodec.percentByte ∉ path) :
    requote path = path := by
  fun_induction requote path with
  | case1 => rfl
  | case2 b => rfl
  | case3 b c => rfl
  | case4 => exact absurd List.mem_cons_self h
  | case5 => exact absurd List.mem_cons_self h
  | case6 b high low rest hpercent ih => rw [ih fun hmem => h (List.mem_cons_of_mem b hmem)]

theorem scope_eq_some {pattern : String} {path rest : List UInt8}
    (h : scope pattern path = some rest) : path = asBytes pattern ++ rest := by
  unfold scope at h
  split at h
  · rename_i hstart
    obtain ⟨suffix, rfl⟩ := List.isPrefixOf_iff_prefix.mp hstart
    simp only [List.drop_left] at h
    split at h <;> cases h
    rfl
  · cases h

theorem route_eq_some {method expected : Method} {handler found : Handler}
    (h : route method expected handler = some found) : found = handler := by
  unfold route at h
  split at h <;> cases h
  rfl

-- the admin handlers are those of the inner scope
theorem apiV1Routes_admin {method : Method} {path : List UInt8} {handler : Handler}
    (h : apiV1Routes method path = some handler) (hadmin : handler.isAdmin = true) :
    ∃ rest, scope "/admin" path = some rest := by
  unfold apiV1Routes at h
  split at h
  · rw [route_eq_some h] at hadmin
    cases hadmin
  split at h
  · rw [route_eq_some h] at hadmin
    cases hadmin
  split at h
  · rw [route_eq_some h] at hadmin
    cases hadmin
  split at h
  · rw [route_eq_some h] at hadmin
    cases hadmin
  split at h
  · rw [route_eq_some h] at hadmin
    cases hadmin
  · split at h
    · rename_i rest hrest
      exact ⟨rest, hrest⟩
    · cases h

/-- A path without escapes that reaches an admin handler has the prefix, so it is guarded. -/
theorem adminPath_of_dispatch {method : Method} {path : List UInt8} {handler : Handler}
    (hdispatch : dispatch method path = some handler) (hadmin : handler.isAdmin = true)
    (hplain : PercentCodec.percentByte ∉ path) :
    AuthMiddleware.adminPath.isPrefixOf path = true := by
  unfold dispatch at hdispatch
  rw [requote_of_plain path hplain] at hdispatch
  obtain ⟨inner, hinner, hroute⟩ := Option.bind_eq_some_iff.mp hdispatch
  obtain ⟨rest, hrest⟩ := apiV1Routes_admin hroute hadmin
  have hsplit : AuthMiddleware.adminPath = asBytes "/api/v1" ++ asBytes "/admin" := by
    decide +kernel
  rw [scope_eq_some hinner, scope_eq_some hrest, hsplit, ← List.append_assoc]
  exact List.isPrefixOf_iff_prefix.mpr (List.prefix_append _ rest)

end AvisoServer
