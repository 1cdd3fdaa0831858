import AvisoServer.Rust

/-!
# Users and roles

A user comes out of the claims of a token. Roles are granted per realm, and an empty grant admits
every authenticated user.
-/

namespace AvisoServer

/-! ## 1. Users -/

structure User where
  username : String
  realm : Option String
  roles : List String
  attributes : HashMap String
  deriving DecidableEq

-- the fields of the claims that a user is made from
structure JwtClaims where
  sub : Option String
  username : Option String
  realm : Option String
  roles : List String
  attributes : HashMap String
  deriving DecidableEq

inductive UserExtractionError where
  | missingUsername
  deriving DecidableEq, Repr

/-- `username` is preferred, and `sub` stands in for it. -/
def User.tryFrom (claims : JwtClaims) : Except UserExtractionError User :=
  match claims.username <|> claims.sub with
  | some username =>
    .ok
      { username := username
        realm := claims.realm
        roles := claims.roles
        attributes := claims.attributes }
  | none => .error .missingUsername

/-! ## 2. Roles -/

/-- The user has any of the required realm-scoped roles. -/
def User.hasAnyRole (user : User) (realmRoles : HashMap (List String)) : Bool :=
  -- an empty map admits every authenticated user
  if realmRoles.entries.isEmpty then true
  else
    match user.realm with
    | none => false
    | some realm =>
      match realmRoles.get realm with
      | none => false
      | some allowed =>
        if allowed.any (· = "*") then true
        else user.roles.any fun role => allowed.any fun required => required = role

def User.isAdmin (user : User) (adminRoles : HashMap (List String)) : Bool :=
  user.hasAnyRole adminRoles

/-! ## 3. Bearer tokens -/

def extractBearerTokenFromStr (value : String) : Option String :=
  match splitWhitespace (trim value) with
  | [scheme, token] => if eqIgnoreAsciiCase scheme "Bearer" then some token else none
  | _ => none

end AvisoServer
