import AvisoServer.Auth.User
import AvisoServer.Configuration.Types

/-!
# The auth middleware

Every request under `/api/v1` passes the middleware before it reaches its handler. Schema paths are
public, admin paths need an administrator, and every other path may go on without a user.
-/

namespace AvisoServer

/-! ## 1. Requests -/

inductive AuthClientError where
  | transport
  | unauthorized
  | forbidden
  | unexpectedStatus (status : Nat)
  | missingToken
  deriving DecidableEq, Repr

/-- The middleware with what it calls: the client of the auth service, absent if it is not needed
or could not be built, and the verification of a token against a secret. -/
structure AuthMiddleware where
  settings : AuthSettings
  authClient : Option (String → Except AuthClientError String)
  validateJwt : String → String → Option JwtClaims

abbrev HeaderValue := List UInt8

/-- `HeaderValue::to_str`. -/
def HeaderValue.toStr (value : HeaderValue) : Option String :=
  if value.all fun b => (32 ≤ b && b < 127) || b = 9 then
    some (String.ofList (value.map fun b => Char.ofNat b.toNat))
  else none

inductive Method where
  | get
  | post
  | delete
  | other (name : String)
  deriving DecidableEq, Repr

/-- What the middleware and the router read of a request: the path as it stands in the URI. -/
structure ServiceRequest where
  method : Method
  path : List UInt8
  authorization : Option HeaderValue

inductive AuthFailure where
  | unauthorized (message : String)
  | forbidden (message : String)
  | serviceUnavailable (message : String)
  deriving DecidableEq, Repr

/-! ## 2. Credentials -/

def resolveDirectCredentials (request : ServiceRequest) : Except AuthFailure (Option String) :=
  match request.authorization with
  | none => .ok none
  | some authorization =>
    match HeaderValue.toStr authorization with
    | none => .error (.unauthorized "Authorization header is not valid UTF-8")
    | some text =>
      let value := trim text
      if value = "" then .error (.unauthorized "Authorization header cannot be empty")
      else
        match splitOnce value ' ' with
        | none => .error (.unauthorized "Authorization header must use Bearer or Basic scheme")
        | some (scheme, credentials) =>
          if !eqIgnoreAsciiCase scheme "Bearer" && !eqIgnoreAsciiCase scheme "Basic" then
            .error (.unauthorized "Authorization header must use Bearer or Basic scheme")
          else if trim credentials = "" then
            .error (.unauthorized "Authorization header credentials cannot be empty")
          else .ok (some value)

def resolveTrustedProxyToken (request : ServiceRequest) : Except AuthFailure (Option String) :=
  match request.authorization with
  | none => .ok none
  | some authorization =>
    match (HeaderValue.toStr authorization).bind extractBearerTokenFromStr with
    | none => .error (.unauthorized "Authorization header must use Bearer token")
    | some token =>
      if trim token = "" then
        .error (.unauthorized "Authorization header cannot contain an empty token")
      else .ok (some token)

namespace AuthMiddleware

variable (middleware : AuthMiddleware)

def userFromRemoteToken (token : String) : Except AuthFailure User :=
  match middleware.validateJwt token middleware.settings.jwtSecret with
  | none => .error (.unauthorized "Invalid or expired token")
  | some claims =>
    match User.tryFrom claims with
    | .ok user => .ok user
    | .error .missingUsername => .error (.unauthorized "Token is missing required user claims")

def authenticateUser (credentials : String) : Except AuthFailure User :=
  match middleware.authClient with
  | none => .error (.serviceUnavailable "Authentication service is not configured correctly")
  | some authenticate =>
    match authenticate credentials with
    | .ok token => middleware.userFromRemoteToken token
    | .error .unauthorized => .error (.unauthorized "Invalid or expired token")
    | .error .forbidden => .error (.forbidden "Token validation was denied")
    | .error _ => .error (.serviceUnavailable "Authentication service temporarily unavailable")

/-- A header that cannot be read counts as absent, except on an admin path. -/
def orAbsent (isAdminPath : Bool) (resolved : Except AuthFailure (Option String))
    (authenticate : String → Except AuthFailure User) : Except AuthFailure (Option User) :=
  match resolved with
  | .ok (some credentials) => (authenticate credentials).map some
  | .ok none => .ok none
  | .error failure => if isAdminPath then .error failure else .ok none

/-- The user of the credentials that the mode reads. -/
def credentialsUser (request : ServiceRequest) (isAdminPath : Bool) :
    Except AuthFailure (Option User) :=
  match middleware.settings.mode with
  | .direct =>
    orAbsent isAdminPath (resolveDirectCredentials request) middleware.authenticateUser
  | .trustedProxy =>
    orAbsent isAdminPath (resolveTrustedProxyToken request) middleware.userFromRemoteToken

def resolveUser (request : ServiceRequest) (isAdminPath : Bool) :
    Except AuthFailure (Option User) :=
  match middleware.credentialsUser request isAdminPath with
  | .error failure => .error failure
  | .ok user =>
    if user.isNone && isAdminPath then .error (.unauthorized "Authorization header is required")
    else .ok user

/-! ## 3. The middleware -/

def schemaPath : List UInt8 := asBytes "/api/v1/schema"

def adminPath : List UInt8 := asBytes "/api/v1/admin"

/-- `call`: the request is answered with a failure, or goes on with the user of its extensions. -/
def call (request : ServiceRequest) : Except AuthFailure (Option User) :=
  if !middleware.settings.enabled then .ok none
  -- schema endpoints are always public
  else if schemaPath.isPrefixOf request.path then .ok none
  else
    let isAdminPath := adminPath.isPrefixOf request.path
    match middleware.resolveUser request isAdminPath with
    | .error failure => .error failure
    | .ok (some user) =>
      if isAdminPath && !user.isAdmin middleware.settings.adminRoles then
        .error (.forbidden "User does not have required administrative role")
      else .ok (some user)
    | .ok none => .ok none

end AuthMiddleware

end AvisoServer
