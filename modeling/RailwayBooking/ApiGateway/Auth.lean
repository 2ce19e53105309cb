import RailwayBooking.ApiGateway.Headers

namespace RailwayBooking.ApiGateway

structure Claims where
  sub : Option String
  email : Option String
  sessionId : Option String
  type : Option String
  deriving DecidableEq

inductive VerifyError
  | expired
  | invalid
  deriving DecidableEq, Repr

/-- `jwt.verify(token, secret)` at a time. -/
abbrev JwtVerify := String → String → Nat → Except VerifyError Claims

structure AuthUser where
  userId : String
  email : Option String
  sessionId : String
  deriving DecidableEq

structure AuthAdmin where
  adminId : String
  deriving DecidableEq

/-- A cookie as `cookie-parser` gives it: a text, or a value in JSON that is not one. -/
inductive CookieValue
  | text (value : String)
  | json
  deriving DecidableEq

structure Request where
  method : String
  originalUrl : String
  headers : Headers
  cookies : List (String × CookieValue)
  ip : Option String
  user : Option AuthUser
  admin : Option AuthAdmin

/-- A request with the headers of its response. -/
structure Exchange where
  req : Request
  res : List (String × String)

inductive ErrorCode
  | authRequired
  | unauthorized
  | rateLimitExceeded
  | methodNotAllowed
  | gatewayUpstreamError
  | gatewayUpstreamCircuitOpen
  deriving DecidableEq, Repr

/-- An `ApiError`, or an error of the language. -/
inductive Thrown
  | api (statusCode : Nat) (code : ErrorCode) (message : String)
  | typeError
  deriving DecidableEq, Repr

/-- `ERROR_MESSAGES.ACCESS_TOKEN_MISSING`. -/
def accessTokenMissing : String := "Token is invalid or expired"

section Texts

def isSpace (c : Char) : Bool :=
  [9, 10, 11, 12, 13, 32, 160, 5760, 8192, 8193, 8194, 8195, 8196, 8197, 8198, 8199, 8200, 8201,
    8202, 8232, 8233, 8239, 8287, 12288, 65279].contains c.toNat

def trim (s : String) : String :=
  String.ofList (((s.toList.dropWhile isSpace).reverse.dropWhile isSpace).reverse)

/-- `s.startsWith(start) ? s.slice(start.length) : undefined`. -/
def afterStart (start s : String) : Option String :=
  if start.toList.isPrefixOf s.toList then some (String.ofList (s.toList.drop start.length)) else none

/-- The empty text counts as none. -/
def truthy (s : Option String) : Option String := s.filter (· ≠ "")

end Texts

section RequestIds

/-- Of `SAFE_REQUEST_ID_PATTERN`, which matches every UUID as well. -/
def isSafe (c : Char) : Bool := c.isAlphanum || c = '_' || c = '-'

def isValidRequestId (value : String) : Bool :=
  value ≠ "" && value.length ≤ 64 && value.toList.all isSafe

def requestIdMiddleware (randomUUID : String) (x : Exchange) : Exchange :=
  let normalizedIncoming :=
    match x.req.headers.get "x-request-id" with
    | none => ""
    | some (.one value) => value
    | some (.many values) => values.headD ""
  let trimmedIncoming := trim normalizedIncoming
  let requestId := if isValidRequestId trimmedIncoming then trimmedIncoming else randomUUID
  { req := { x.req with headers := x.req.headers.set "x-request-id" requestId (by decide) }
    res := x.res ++ [("X-Request-Id", requestId)] }

end RequestIds

section Trusted

def trustedUserHeaders : List String := ["x-user-id", "x-user-email", "x-session-id"]

def trustedAdminHeaders : List String := ["x-admin-id"]

def allTrustedHeaders : List String := trustedUserHeaders ++ trustedAdminHeaders

def scrubTrustedHeaders (req : Request) : Request :=
  { req with headers := req.headers.deleteAll allTrustedHeaders }

end Trusted

section Tokens

variable (verify : JwtVerify) (secret : String) (now : Nat)

def verifyAccessToken (token : String) : Except VerifyError AuthUser :=
  if secret = "" then .error .invalid
  else
    match verify token secret now with
    | .error e => .error e
    | .ok decoded =>
      if decoded.type ≠ some "access" then .error .invalid
      else
        match truthy decoded.sub, truthy decoded.email, truthy decoded.sessionId with
        | some sub, some email, some sessionId => .ok ⟨sub, some email, sessionId⟩
        | _, _, _ => .error .invalid

/-- The token of the header `Authorization`, and else the cookie `access_token`. -/
def accessTokenOf (req : Request) : Option CookieValue :=
  let bearer :=
    match req.headers.get "authorization" with
    | some (.one authHeader) => (afterStart "Bearer " authHeader).map trim
    | _ => none
  match truthy bearer with
  | some token => some (.text token)
  | none => (req.cookies.lookup "access_token").filter (· ≠ .text "")

def verifiedUser : CookieValue → Option AuthUser
  | .text token => (verifyAccessToken verify secret now token).toOption
  | .json => none

/-- `req.user`, the headers of the user, and `Cache-Control`. -/
def injectUser (user : AuthUser) (x : Exchange) : Exchange :=
  let headers := x.req.headers.set "x-user-id" user.userId (by decide)
  let headers :=
    match user.email with
    | some email => headers.set "x-user-email" email (by decide)
    | none => headers
  let headers := headers.set "x-session-id" user.sessionId (by decide)
  { req := { x.req with user := some user, headers }
    res := x.res ++ [("Cache-Control", "private, no-store")] }

end Tokens

section Middlewares

variable (verify : JwtVerify) (secret : String) (now : Nat)

def gatewayAuthMiddleware (x : Exchange) : Except Thrown Exchange :=
  let req := scrubTrustedHeaders x.req
  match accessTokenOf req with
  | none => .error (.api 401 .authRequired accessTokenMissing)
  | some token =>
    match verifiedUser verify secret now token with
    | none => .error (.api 401 .authRequired accessTokenMissing)
    | some user => .ok (injectUser user { x with req })

def scrubOnlyMiddleware (x : Exchange) : Except Thrown Exchange :=
  .ok { x with req := scrubTrustedHeaders x.req }

def optionalGatewayAuthMiddleware (x : Exchange) : Except Thrown Exchange :=
  let req := scrubTrustedHeaders x.req
  match accessTokenOf req with
  | none => .ok { x with req }
  | some token =>
    match verifiedUser verify secret now token with
    | none => .ok { x with req }
    | some user => .ok (injectUser user { x with req })

/-- A cookie that is not a text has no `split`, which is called outside of the `try`. -/
def gatewayAdminAuthMiddleware (x : Exchange) : Except Thrown Exchange :=
  let req := scrubTrustedHeaders x.req
  let unauthorized := Except.error (.api 401 .unauthorized accessTokenMissing)
  match req.cookies.lookup "admin_access_token" with
  | none | some (.text "") => unauthorized
  | some .json => .error .typeError
  | some (.text token) =>
    if (token.toList.filter (· = '.')).length ≠ 2 then unauthorized
    else
      match verify token secret now with
      | .error _ => unauthorized
      | .ok decoded =>
        if decoded.type ≠ some "admin" then unauthorized
        else
          match truthy decoded.sub with
          | none => unauthorized
          | some sub =>
            .ok {
              req := { req with
                admin := some ⟨sub⟩
                headers := req.headers.set "x-admin-id" sub (by decide) }
              res := x.res ++ [("Cache-Control", "private, no-store")] }

/-- - `none`: no auth middleware runs but the one that scrubs
- `required`: throws 401 if no valid JWT
- `optional`: never throws
- `admin`: throws 401 if no valid admin JWT -/
inductive AuthLevel
  | none
  | required
  | optional
  | admin
  deriving DecidableEq, Repr

def resolveAuthMiddleware : AuthLevel → Exchange → Except Thrown Exchange
  | .required => gatewayAuthMiddleware verify secret now
  | .optional => optionalGatewayAuthMiddleware verify secret now
  | .admin => gatewayAdminAuthMiddleware verify secret now
  | .none => scrubOnlyMiddleware

end Middlewares

section Downstream

def normalized : Option HeaderValue → Option String
  | some (.one value) => some value
  | some (.many values) => values.head?
  | none => none

/-- `req.user` behind the gateway. -/
def trustGatewayHeaders (h : Headers) : Option AuthUser :=
  match truthy (normalized (h.get "x-user-id")), truthy (normalized (h.get "x-session-id")) with
  | some userId, some sessionId =>
    some ⟨userId, truthy (normalized (h.get "x-user-email")), sessionId⟩
  | _, _ => none

def readAdminFromHeaders (h : Headers) : Option AuthAdmin :=
  (truthy (normalized (h.get "x-admin-id"))).map AuthAdmin.mk

end Downstream

end RailwayBooking.ApiGateway
