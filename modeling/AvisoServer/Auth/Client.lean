import AvisoServer.Auth.Middleware
import AvisoServer.Json
import AvisoServer.Lib.Words

/-!
# The client of the auth service

In direct mode the credentials of a request go to the auth service, and what it answers is searched
for something of the shape of a token.
-/

namespace AvisoServer

/-! ## 1. The service -/

/-- What is read of an answer: the body is absent if the connection breaks while it is read. -/
structure AuthServiceResponse where
  status : Nat
  authorization : Option HeaderValue
  body : Option String

/-- `get` is a request with these credentials, which gives no answer if it cannot be sent or times
out. `readJson` is what `serde_json` reads of a text, with repeated keys kept. -/
structure AuthClient where
  authenticateUrl : String
  get : String → String → Option AuthServiceResponse
  readJson : String → Option Json

def AuthClient.new (baseUrl : String) (get : String → String → Option AuthServiceResponse)
    (readJson : String → Option Json) : AuthClient where
  authenticateUrl :=
    String.ofList ((baseUrl.toList.reverse.dropWhile (· = '/')).reverse) ++ "/authenticate"
  get := get
  readJson := readJson

/-! ## 2. Tokens -/

def isBase64urlSegment (segment : String) : Bool :=
  !segment.toList.isEmpty && segment.toList.all fun ch => ch.isAlphanum || ch = '-' || ch = '_'

/-- Three segments between dots. This is not a verification. -/
def isJwtLike (value : String) : Bool :=
  match splitChar value '.' with
  | [first, second, third] =>
    isBase64urlSegment first && isBase64urlSegment second && isBase64urlSegment third
  | _ => false

def parseJwtFromAuthorizationHeader (value : String) : Option String := do
  let token ← extractBearerTokenFromStr value
  if isJwtLike token then some token else none

structure AuthenticateResponse where
  token : Option String
  jwt : Option String
  accessToken : Option String

namespace AuthenticateResponse

/-- A field may be absent or null, and may not be repeated. -/
def field (fields : List (String × Json)) (name : String) : Option (Option String) :=
  match fields.filter fun entry => entry.1 = name with
  | [] => some none
  | [(_, .null)] => some none
  | [(_, .string text)] => some (some text)
  | _ => none

def element : Option Json → Option (Option String)
  | none => some none
  | some .null => some none
  | some (.string text) => some (some text)
  | some _ => none

/-- The derived deserialisation ignores unknown fields, and also takes an array. -/
def fromJson : Json → Option AuthenticateResponse
  | .object fields => do
    let token ← field fields "token"
    let jwt ← field fields "jwt"
    let accessToken ← field fields "access_token"
    some { token := token, jwt := jwt, accessToken := accessToken }
  | .array items =>
    if items.length ≤ 3 then do
      let token ← element items[0]?
      let jwt ← element items[1]?
      let accessToken ← element items[2]?
      some { token := token, jwt := jwt, accessToken := accessToken }
    else none
  | _ => none

/-- The first field that is there, whether or not it looks like a token. -/
def first (response : AuthenticateResponse) : Option String :=
  response.token <|> response.jwt <|> response.accessToken

end AuthenticateResponse

/-- A text that looks like a token. -/
def jwtText (text : String) : Option String :=
  if isJwtLike text then some text else none

def parseJwtFromResponse (readJson : String → Option Json) (body : String) : Option String :=
  let trimmed := trim body
  if trimmed = "" then none
  else
    (((readJson trimmed).bind AuthenticateResponse.fromJson).bind fun response =>
        response.first.bind fun value => jwtText (trim value)) <|>
      (((readJson trimmed).bind Json.asStr).bind fun rawToken => jwtText (trim rawToken)) <|>
        jwtText trimmed

/-! ## 3. Authentication -/

def AuthServiceResponse.isSuccess (response : AuthServiceResponse) : Bool :=
  decide (200 ≤ response.status ∧ response.status < 300)

/-- The token in the header of an answer comes before one in its body. -/
def AuthServiceResponse.headerToken (response : AuthServiceResponse) : Option String :=
  (response.authorization.bind HeaderValue.toStr).bind parseJwtFromAuthorizationHeader

def AuthClient.authenticate (client : AuthClient) (authorizationValue : String) :
    Except AuthClientError String :=
  match client.get client.authenticateUrl authorizationValue with
  | none => .error .transport
  | some response =>
    if response.status = 401 then .error .unauthorized
    else if response.status = 403 then .error .forbidden
    else if !response.isSuccess then .error (.unexpectedStatus response.status)
    else
      match response.headerToken with
      | some jwt => .ok jwt
      | none =>
        match response.body with
        | none => .error .transport
        | some body =>
          match parseJwtFromResponse client.readJson body with
          | some jwt => .ok jwt
          | none => .error .missingToken

/-- What the middleware is built with: whether there is an HTTP client, and what it does. -/
structure AuthService where
  built : Bool
  get : String → String → Option AuthServiceResponse
  readJson : String → Option Json

/-- Without a client every request with credentials fails. -/
def authClient (service : AuthService) (settings : AuthSettings) : Option AuthClient :=
  if settings.enabled && decide (settings.mode = .direct) &&
      !decide (trim settings.authOTronUrl = "") && service.built then
    some (AuthClient.new settings.authOTronUrl service.get service.readJson)
  else none

def AuthMiddleware.withArcSettings (service : AuthService)
    (validateJwt : String → String → Option JwtClaims) (settings : AuthSettings) :
    AuthMiddleware where
  settings := settings
  authClient := (AvisoServer.authClient service settings).map AuthClient.authenticate
  validateJwt := validateJwt

end AvisoServer
