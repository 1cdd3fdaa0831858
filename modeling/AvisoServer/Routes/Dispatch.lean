import AvisoServer.Auth.Middleware
import AvisoServer.Lib.PercentCodec

/-!
# Dispatch of the API

Routes are matched on the percent-decoded path, in which only `%25`, `%2F` and `%2B` stay escaped.
The scope `/api/v1` takes the requests whose decoded path lies under it, and wraps them all in the
auth middleware.
-/

namespace AvisoServer

/-! ## 1. Decoded paths -/

-- `%`, `/` and `+` are not decoded
def isProtected (b : UInt8) : Bool :=
  b = 37 || b = 47 || b = 43

/-- The byte that an escape with these two digits stands for, if the router decodes it. -/
def decodedEscape (high low : UInt8) : Option UInt8 :=
  match PercentCodec.hexValue high, PercentCodec.hexValue low with
  | some h, some l => if isProtected (h * 16 + l) then none else some (h * 16 + l)
  | _, _ => none

/-- The decoding of the router, in one pass from left to right. -/
def requote : List UInt8 → List UInt8
  | [] => []
  | [b] => [b]
  | [b, c] => [b, c]
  | b :: high :: low :: rest =>
    if b = PercentCodec.percentByte then
      match decodedEscape high low with
      | some ch => ch :: requote rest
      | none => b :: requote (high :: low :: rest)
    else b :: requote (high :: low :: rest)

/-! ## 2. Routes -/

inductive Handler where
  | notify
  | watch
  | replay
  | getNotificationSchema
  | getEventSchema (eventType : List UInt8)
  | wipeStream
  | wipeAll
  | deleteNotification (notificationId : List UInt8)
  deriving DecidableEq, Repr

def Handler.isAdmin : Handler → Bool
  | .wipeStream => true
  | .wipeAll => true
  | .deleteNotification _ => true
  | _ => false

/-- The rest of a path under a scope, which ends at a segment. -/
def scope (pattern : String) (path : List UInt8) : Option (List UInt8) :=
  if (asBytes pattern).isPrefixOf path then
    let rest := path.drop (asBytes pattern).length
    if rest.head?.all (· = 47) then some rest else none
  else none

/-- The last segment of a path with one dynamic segment, which is not empty. -/
def dynamicSegment (pattern : String) (path : List UInt8) : Option (List UInt8) :=
  if (asBytes pattern).isPrefixOf path then
    let segment := path.drop (asBytes pattern).length
    if segment ≠ [] ∧ 47 ∉ segment then some segment else none
  else none

/-- A resource is chosen by its path alone; another method is answered without a handler. -/
def route (method expected : Method) (handler : Handler) : Option Handler :=
  if method = expected then some handler else none

def adminRoutes (method : Method) (path : List UInt8) : Option Handler :=
  if path = asBytes "/wipe/stream" then route method .delete .wipeStream
  else if path = asBytes "/wipe/all" then route method .delete .wipeAll
  else
    match dynamicSegment "/notification/" path with
    | some notificationId => route method .delete (.deleteNotification notificationId)
    | none => none

def apiV1Routes (method : Method) (path : List UInt8) : Option Handler :=
  if path = asBytes "/notification" then route method .post .notify
  else if path = asBytes "/watch" then route method .post .watch
  else if path = asBytes "/replay" then route method .post .replay
  else if path = asBytes "/schema" then route method .get .getNotificationSchema
  else
    match dynamicSegment "/schema/" path with
    | some eventType => route method .get (.getEventSchema eventType)
    | none =>
      match scope "/admin" path with
      | some rest => adminRoutes method rest
      | none => none

/-- `configure_api_v1`: the handler of a request, found on the decoded path. -/
def dispatch (method : Method) (path : List UInt8) : Option Handler :=
  (scope "/api/v1" (requote path)).bind (apiV1Routes method)

/-- The handler that runs, with the user in the extensions of its request. -/
def AuthMiddleware.serve (middleware : AuthMiddleware) (request : ServiceRequest) :
    Option (Handler × Option User) :=
  match dispatch request.method request.path, middleware.call request with
  | some handler, .ok user => some (handler, user)
  | _, _ => none

end AvisoServer
