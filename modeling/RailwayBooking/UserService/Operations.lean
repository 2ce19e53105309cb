import Mathlib.Data.Nat.Pairing
import RailwayBooking.Concurrency.Rules
import RailwayBooking.UserService.Schema

namespace RailwayBooking.UserService

open Concurrency

section Durations

/-- `AUTH_DURATIONS.SESSION_TTL_MS`, thirty days. -/
def sessionTtlMs : Nat := 30 * 24 * 60 * 60 * 1000

/-- `AUTH_DURATIONS.PASSWORD_RESET_TOKEN_TTL_SECONDS` in milliseconds. -/
def passwordResetTokenTtlMs : Nat := 10 * 60 * 1000

end Durations

/-- The operations that are not statements of the database: the clock, random values, the
commands to Redis, and the event of a login. -/
inductive Aux
  | now
  | randomUUID
  | getSession (sessionId : Id)
  | setSession (sessionId : Id) (session : SessionRecord)
  | delSessions (sessionIds : List Id)
  | multi (sessionId : Id) (session : SessionRecord) (userId : Id)
  | smembers (userId : Id)
  | srem (userId sessionId : Id)
  | expire (userId : Id)
  | delUserSessions (userId : Id)
  | getPasswordResetToken (token : Id)
  | setPasswordResetToken (token : Id) (email : String)
  | delPasswordResetToken (token : Id)
  | publishUserLoggedIn (event : UserLoggedIn)

/-- `exec` answers with one result for each queued command. -/
@[reducible] def AuxAns : Aux → Type
  | .now => Nat
  | .randomUUID => Id
  | .getSession _ => Option SessionRecord
  | .multi .. => Option (List (Option String))
  | .smembers _ => List Id
  | .getPasswordResetToken _ => Option String
  | _ => Unit

/-- The clock in milliseconds, the keys `auth:session:<id>`, `auth:user:<id>:sessions` and
`auth:password-reset-token:<token>`; and, of the past, which sessions were stored for
whom, and whether a command has failed. -/
structure Env where
  now : Nat
  drawn : Nat
  sessions : Redis.Store Id SessionRecord
  userSessions : Redis.Store Id (List Id)
  passwordResetTokens : Redis.Store Id String
  stored : List (Id × Id)
  failed : Bool

namespace Env

variable (e : Env)

/-- `GET auth:session:<id>`. -/
def session (sessionId : Id) : Option SessionRecord := e.sessions.get e.now sessionId

/-- `SMEMBERS auth:user:<id>:sessions`. -/
def members (userId : Id) : List Id := e.userSessions.smembers e.now userId

/-- `SET auth:session:<id> .. EX`. -/
def write (sessionId : Id) (session : SessionRecord) : Env :=
  { e with sessions := e.sessions.set sessionId session (e.now + sessionTtlMs) }

/-- The block of `createAuthSession`: `SET`, `SADD` and `EXPIRE`. -/
def store (sessionId : Id) (session : SessionRecord) (userId : Id) : Env :=
  { e.write sessionId session with
    userSessions := e.userSessions.sadd e.now userId sessionId (e.now + sessionTtlMs)
    stored := (sessionId, userId) :: e.stored }

def delSessions (sessionIds : List Id) : Env :=
  { e with sessions := e.sessions.delAll sessionIds }

def srem (userId sessionId : Id) : Env :=
  { e with userSessions := e.userSessions.srem userId sessionId }

def expire (userId : Id) : Env :=
  { e with userSessions := e.userSessions.expire e.now userId (e.now + sessionTtlMs) }

def delUserSessions (userId : Id) : Env := { e with userSessions := e.userSessions.del userId }

/-- The answer to a command with the effect `e'`; one that fails may have had it. -/
def command (e' : Env) {α : Type} (a : α) : Choice Empty → Except Err α × Env
  | .fault => (.error .redis, { e with failed := true })
  | .lost => (.error .redis, { e' with failed := true })
  | _ => (.ok a, e')

end Env

/-- The ids are random: no two draws give the same, and no session is stored under the id
of another. -/
def ask (e : Env) (i : Nat) : (a : Aux) → Choice Empty → Option (Except Err (AuxAns a) × Env)
  | .now, _ => some (.ok e.now, e)
  | .randomUUID, _ => some (.ok (Nat.pair i e.drawn), { e with drawn := e.drawn + 1 })
  | .getSession sessionId, ch => some (e.command e (e.session sessionId) ch)
  | .setSession sessionId session, ch => some (e.command (e.write sessionId session) () ch)
  | .delSessions sessionIds, ch => some (e.command (e.delSessions sessionIds) () ch)
  | .multi sessionId session userId, ch =>
    if sessionId ∈ e.stored.map Prod.fst then none
    else some (e.command (e.store sessionId session userId) (some [none, none, none]) ch)
  | .smembers userId, ch => some (e.command e (e.members userId) ch)
  | .srem userId sessionId, ch => some (e.command (e.srem userId sessionId) () ch)
  | .expire userId, ch => some (e.command (e.expire userId) () ch)
  | .delUserSessions userId, ch => some (e.command (e.delUserSessions userId) () ch)
  | .getPasswordResetToken token, ch =>
    some (e.command e (e.passwordResetTokens.get e.now token) ch)
  | .setPasswordResetToken token email, ch =>
    some (e.command { e with passwordResetTokens :=
      e.passwordResetTokens.set token email (e.now + passwordResetTokenTtlMs) } () ch)
  | .delPasswordResetToken token, ch =>
    some (e.command { e with passwordResetTokens := e.passwordResetTokens.del token } () ch)
  | .publishUserLoggedIn _, ch => some (ch.answer .kafka (), e)

@[reducible] def userService : Service where
  Db := Db
  Sql := Sql
  Rows := Rows
  Write := Write
  Key := Key
  Site := Unit
  Aux := Aux
  AuxAns := AuxAns
  Env := Env
  Err := Err
  Reply := Empty
  fault := .fault
  auto := ()
  run := run
  apply := Write.apply
  keys := Write.keys
  ask := ask
  tick d e := { e with now := e.now + d }

abbrev UserCode (α : Type) := Code userService α

def raise {α : Type} (e : Err) : UserCode α := Program.raise e

/-- `new ApiError(statusCode.unauthorized, code, message)`. -/
def unauthorized {α : Type} (code : ErrorCode) (message : Option String) : UserCode α :=
  raise (.api 401 code message)

/-- One operation of the environment. -/
def perform (a : Aux) : UserCode (AuxAns a) := Code.aux (V := userService) a

def query (q : Sql) : UserCode (Rows q) := Code.sql (V := userService) none q

section Tokens

variable (S : Settings)

def generateAccessToken (userId sessionId : Id) (email : String) : UserCode AccessToken := do
  let ms ← perform .now
  return ⟨userId, email, sessionId, ms / 1000⟩

def generateRefreshToken (userId sessionId : Id) : UserCode RefreshToken := do
  let ms ← perform .now
  return ⟨userId, sessionId, ms / 1000, ms / 1000 + S.refreshExpiresIn⟩

def verifyRefreshToken : Jwt → UserCode (Option RefreshToken)
  | .other => return none
  | .refresh token => do
    let ms ← perform .now
    return if ms / 1000 < token.exp then some token else none

def toUserResponseDto (user : User) : UserResponse :=
  ⟨user.id, user.firstName, user.lastName, user.email, user.createdAt⟩

def toAuthResponseDto (user : User) (accessToken : AccessToken) (refreshToken : RefreshToken) :
    AuthResponse :=
  ⟨toUserResponseDto user, accessToken, refreshToken⟩

end Tokens

section Locations

/-- `ip.replace(/^::ffff:/, "").trim()`. -/
def cleanIp (ip : String) : String :=
  let cs := if "::ffff:".toList.isPrefixOf ip.toList then ip.toList.drop 7 else ip.toList
  String.ofList (((cs.dropWhile Char.isWhitespace).reverse.dropWhile Char.isWhitespace).reverse)

def getIpLocation (S : Settings) : Option String → String
  | none | some "" => "Unknown Location"
  | some ip =>
    let ip := cleanIp ip
    if ip = "127.0.0.1" ∨ ip = "::1" ∨ ip = "localhost" ∨ "192.168.".toList.isPrefixOf ip.toList ∨
        "10.".toList.isPrefixOf ip.toList then "Local Development"
    else
      match S.geoLookup ip with
      | none => "Unknown Location"
      | some (city, country) =>
        let location := cleanIp ((if city = "" then "" else city ++ ", ") ++ country)
        if location = "" then "Unknown Location" else location

/-- `value || "Unknown"`. -/
def orUnknown : Option String → String
  | none | some "" => "Unknown"
  | some value => value

end Locations

section AuthService

variable (S : Settings)

def createAuthSession (userId sessionId : Id) (refreshToken : RefreshToken) (fingerprint : String)
    (ipAddress userAgent : Option String) : UserCode Unit := do
  let createdAt ← perform .now
  let lastUsedAt ← perform .now
  let now ← perform .now
  let sessionData : SessionRecord := {
    userId, fingerprint
    refreshTokenHash := S.sha256 refreshToken
    ipAddress := orUnknown ipAddress
    userAgent := orUnknown userAgent
    location := getIpLocation S ipAddress
    createdAt, lastUsedAt
    expiresAt := now + sessionTtlMs }
  let results ← perform (.multi sessionId sessionData userId)
  match results with
  | none => raise (.error "Failed to persist authentication session")
  | some results =>
    if results.any Option.isSome then do
      (perform (.delSessions [sessionId])).attempt (fun _ => pure ())
      (perform (.srem userId sessionId)).attempt (fun _ => pure ())
      raise (.error "Failed to persist authentication session")
    else pure ()

def requireUser (email : String) : UserCode User := do
  let user ← query (.findUserByEmail email)
  match user with
  | none => raise (.api 404 .userNotFound none)
  | some user => return user

def login (email password fingerprint : String) (ipAddress userAgent : Option String) :
    UserCode AuthResponse := do
  let user ← requireUser email
  if !S.bcryptCompare password user.password then
    unauthorized .invalidCredentials (some "Invalid email or password.")
  else do
    let sessionId ← perform .randomUUID
    let accessToken ← generateAccessToken user.id sessionId user.email
    let refreshToken ← generateRefreshToken S user.id sessionId
    createAuthSession S user.id sessionId refreshToken fingerprint ipAddress userAgent
    let eventId ← perform .randomUUID
    let loggedInAt ← perform .now
    (perform (.publishUserLoggedIn
      ⟨eventId, user.id, user.email, user.firstName, user.lastName, loggedInAt⟩)).attempt
        (fun _ => pure ())
    return toAuthResponseDto user accessToken refreshToken

def logout (sessionId userId : Id) : UserCode Unit := do
  perform (.delSessions [sessionId])
  perform (.srem userId sessionId)

def logoutAll (userId : Id) : UserCode Unit := do
  let sessions ← perform (.smembers userId)
  if sessions.length > 0 then do
    perform (.delSessions sessions)
    perform (.delUserSessions userId)
  else perform (.delUserSessions userId)

/-- What is tried in `refresh`. -/
def rotate (refreshToken : Jwt) (fingerprint : String) : UserCode AuthResponse := do
  let decoded ← verifyRefreshToken refreshToken
  match decoded with
  | none => unauthorized .invalidRefreshToken none
  | some decoded => do
    let session ← perform (.getSession decoded.sessionId)
    match session with
    | none => unauthorized .sessionExpiredOrRevoked none
    | some session =>
      if session.fingerprint ≠ fingerprint then do
        logout decoded.sessionId decoded.sub
        unauthorized .deviceFingerprintMismatch none
      else if session.refreshTokenHash ≠ S.sha256 decoded then do
        logoutAll decoded.sub
        unauthorized .invalidRefreshToken none
      else do
        let user ← query (.findById session.userId)
        match user with
        | none => unauthorized .invalidRefreshToken none
        | some user => do
          let accessToken ← generateAccessToken user.id decoded.sessionId user.email
          let newRefreshToken ← generateRefreshToken S user.id decoded.sessionId
          let lastUsedAt ← perform .now
          perform (.setSession decoded.sessionId
            { session with refreshTokenHash := S.sha256 newRefreshToken, lastUsedAt })
          perform (.expire decoded.sub)
          return toAuthResponseDto user accessToken newRefreshToken

def refresh (refreshToken : Jwt) (fingerprint : String) : UserCode AuthResponse :=
  (rotate S refreshToken fingerprint).attempt (fun
    | .api statusCode code message => raise (.api statusCode code message)
    | _ => unauthorized .invalidRefreshToken none)

def summaries : List (Id × Option SessionRecord) → List SessionSummary :=
  List.filterMap (fun
    | (id, some session) => some ⟨id, session.userId, session.fingerprint, session.ipAddress,
        session.userAgent, session.location, session.createdAt, session.lastUsedAt, session.expiresAt⟩
    | (_, none) => none)

def getAll : List Id → UserCode (List (Id × Option SessionRecord) × Option Err)
  | [] => return ([], none)
  | id :: ids => do
    let data ← ((perform (.getSession id)).handle (fun a => .ret (Except.ok a))
      (fun e => .ret (Except.error e)) : UserCode (Except Err (Option SessionRecord)))
    let (rest, failure) ← getAll ids
    match data with
    | .ok data => return ((id, data) :: rest, failure)
    | .error e => return (rest, some e)

/-- The commands that remove stale ids are not waited for, and may fail. -/
def getSessions (userId : Id) : UserCode (List SessionSummary) := do
  let sessionIds ← perform (.smembers userId)
  let (sessions, failure) ← getAll sessionIds
  Program.each (sessions.filter (fun x => x.2.isNone)) (fun x =>
    (perform (.srem userId x.1)).attempt (fun _ => pure ()))
  match failure with
  | some e => raise e
  | none => return summaries sessions

def revokeSession (sessionId userId : Id) : UserCode Unit := do
  let session ← perform (.getSession sessionId)
  match session with
  | none => return ()
  | some session =>
    if session.userId ≠ userId then raise (.api 403 .sessionOwnershipInvalid none)
    else do
      perform (.delSessions [sessionId])
      perform (.srem userId sessionId)

/-- How a best-effort logout ends: at a token that is not valid, with the sessions
revoked, or with an error in the log. -/
inductive LoggedOut
  | ignored
  | revoked
  | failed
  deriving DecidableEq

def byRefreshToken (revoke : RefreshToken → UserCode Unit) : Option Jwt → UserCode LoggedOut
  | none => return .ignored
  | some refreshToken => do
    let decoded ← verifyRefreshToken refreshToken
    match decoded with
    | none => return .ignored
    | some decoded =>
      let revoked : UserCode LoggedOut := do
        revoke decoded
        return .revoked
      revoked.attempt (fun _ => return .failed)

def logoutByRefreshToken : Option Jwt → UserCode LoggedOut :=
  byRefreshToken (fun decoded => logout decoded.sessionId decoded.sub)

def logoutAllByRefreshToken : Option Jwt → UserCode LoggedOut :=
  byRefreshToken (fun decoded => logoutAll decoded.sub)

/-- The step of `VerifyPasswordResetOtp` after the one-time password has been verified. -/
def issuePasswordResetToken (email : String) : UserCode Id := do
  let token ← perform .randomUUID
  perform (.setPasswordResetToken token email)
  return token

/-- The id of the user is what the code logs at the end. -/
def resetPassword (passwordResetToken : Id) (password : String) : UserCode Id := do
  let email ← perform (.getPasswordResetToken passwordResetToken)
  match email with
  | none =>
    unauthorized .otpSessionNotFound (some "Password reset token is invalid or has expired")
  | some email => do
    let user ← requireUser email
    let salt ← perform .randomUUID
    let _ ← query (.update user.id (S.bcryptHash salt password))
    logoutAll user.id
    perform (.delPasswordResetToken passwordResetToken)
    return user.id

end AuthService

/-- The middleware in front of the authenticated routes. -/
def sessionMiddleware : Option RequestUser → UserCode Unit
  | some ⟨userId, some sessionId⟩ => do
    let session ← perform (.getSession sessionId)
    match session with
    | none => unauthorized .sessionExpiredOrRevoked none
    | some session => do
      let lastUsedAt ← perform .now
      perform (.setSession sessionId { session with lastUsedAt })
      perform (.expire userId)
  | _ => unauthorized .sessionContextMissing none

/-- The requests to the service that touch sessions. -/
inductive Call
  | login (email password fingerprint : String) (ipAddress userAgent : Option String)
  | refresh (refreshToken : Jwt) (fingerprint : String)
  | sessionMiddleware (user : Option RequestUser)
  | getSessions (userId : Id)
  | revokeSession (sessionId userId : Id)
  | logout (refreshToken : Option Jwt)
  | logoutAll (refreshToken : Option Jwt)
  | issuePasswordResetToken (email : String)
  | resetPassword (passwordResetToken : Id) (password : String)
  deriving DecidableEq

inductive Out
  | authenticated (response : AuthResponse)
  | next
  | sessions (summaries : List SessionSummary)
  | sessionRevoked
  | loggedOut (result : LoggedOut)
  | passwordResetToken (token : Id)
  | passwordReset (userId : Id)
  deriving DecidableEq

def body (S : Settings) : Call → UserCode Out
  | .login email password fingerprint ipAddress userAgent => do
    return .authenticated (← login S email password fingerprint ipAddress userAgent)
  | .refresh refreshToken fingerprint => do
    return .authenticated (← refresh S refreshToken fingerprint)
  | .sessionMiddleware user => do
    sessionMiddleware user
    return .next
  | .getSessions userId => do return .sessions (← getSessions userId)
  | .revokeSession sessionId userId => do
    revokeSession sessionId userId
    return .sessionRevoked
  | .logout refreshToken => do return .loggedOut (← logoutByRefreshToken refreshToken)
  | .logoutAll refreshToken => do return .loggedOut (← logoutAllByRefreshToken refreshToken)
  | .issuePasswordResetToken email => do
    return .passwordResetToken (← issuePasswordResetToken email)
  | .resetPassword passwordResetToken password => do
    return .passwordReset (← resetPassword S passwordResetToken password)

@[reducible] def machine (S : Settings) : Machine userService := ⟨Call, Out, body S⟩

/-- The service with its users, before any session. -/
def Env.init (now : Nat) : Env := ⟨now, 0, .empty, .empty, .empty, [], false⟩

end RailwayBooking.UserService
