import Mathlib.Data.PNat.Defs
import RailwayBooking.Concurrency.Extension
import RailwayBooking.Redis.Counters
import RailwayBooking.UserService.Operations

namespace RailwayBooking.UserService.Otp

open Concurrency

/-- The lifetimes of one-time passwords, in seconds. -/
structure OtpSettings extends Settings where
  registrationOtpTtl : ℕ+
  forgotPasswordOtpTtl : ℕ+

section Limits

/-- `OTP_RATE_LIMIT_MAX`. -/
def otpRateLimitMax : Nat := 5

/-- `OTP_RATE_LIMIT_WINDOW`, in seconds. -/
def otpRateLimitWindow : ℕ+ := 3600

/-- `OTP_ATTEMPT_LIMIT`. -/
def otpAttemptLimit : Nat := 5

end Limits

structure RegistrationSessionData where
  firstName : String
  lastName : String
  email : String
  hashedPassword : String
  deriving DecidableEq

structure RegisterRequest where
  firstName : String
  lastName : String
  email : String
  password : String
  deriving DecidableEq

inductive OtpPurpose
  | registration
  | forgotPassword
  deriving DecidableEq, Repr

/-- `OTPRequestedV1`. -/
structure OtpRequested where
  eventId : Id
  email : String
  otp : String
  createdAt : Nat
  purpose : OtpPurpose
  ttlSeconds : ℕ+

inductive ErrorCode
  | userAlreadyExists
  | otpInvalid
  | otpExpired
  | otpLocked
  | otpSessionNotFound
  | registrationSessionExpired
  | rateLimitExceeded
  | kafkaPublishFailed
  deriving DecidableEq, Repr

/-- What may be thrown: an error of the session service, an `ApiError`, or a failed command,
message or statement. -/
inductive Err
  | auth (e : UserService.Err)
  | api (statusCode : Nat) (code : ErrorCode) (message : Option String)
  | redis
  | kafka
  | fault
  | uniqueConstraint
  | recordNotFound
  deriving DecidableEq

section Database

/-- The statements of `UserRepository`: those of the session service, and the creation and
deletion of a user. -/
inductive Sql
  | auth (q : UserService.Sql)
  | createUser (user : User)
  | deleteUser (id : Id)

@[reducible] def Rows : Sql → Type
  | .auth q => UserService.Rows q
  | _ => User

inductive Write
  | auth (x : UserService.Write)
  | created (user : User)
  | deleted (id : Id)

def Write.apply : Write → Db → Db
  | .auth x, d => x.apply d
  | .created user, d => { d with users := d.users ++ [user] }
  | .deleted id, d => { d with users := d.users.filter (fun u => u.id ≠ id) }

def Write.keys : Write → List UserService.Key
  | .auth x => x.keys
  | .created user => [.user user.id]
  | .deleted id => [.user id]

/-- Email addresses are unique. -/
def run : (q : Sql) → Db → Except Err (Rows q × List Write × List UserService.Key)
  | .auth q, d =>
    match UserService.run q d with
    | .ok (a, writes, keys) => .ok (a, writes.map .auth, keys)
    | .error e => .error (.auth e)
  | .createUser user, d =>
    if d.users.any (fun u => u.email = user.email) then .error .uniqueConstraint
    else .ok (user, [.created user], [])
  | .deleteUser id, d =>
    match d.users.find? (fun u => u.id = id) with
    | none => .error .recordNotFound
    | some user => .ok (user, [.deleted id], [])

end Database

/-- The keys that are deleted. -/
inductive Key
  | otp (sessionId : Id)
  | registrationSession (sessionId : Id)
  | forgotPasswordSession (sessionId : Id)
  | otpAttempts (sessionId : Id)
  | otpSession (email : String)
  deriving DecidableEq

/-- The operations that are not statements of the database: those of the session service,
the packages for one-time passwords and hashes, the commands to Redis on the keys of
one-time passwords, and the event that has one delivered. -/
inductive Aux
  | auth (a : UserService.Aux)
  | generateOtp
  | bcryptHash (text : String)
  | bcryptCompare (text hash : String)
  | incrRate (email : String)
  | ttlRate (email : String)
  | expireRate (email : String) (seconds : ℕ+)
  | getOtp (sessionId : Id)
  | ttlOtp (sessionId : Id)
  | setOtp (sessionId : Id) (hashedOtp : String) (ttlSeconds : ℕ+)
  | getOtpSession (email : String)
  | setOtpSession (email : String) (sessionId : Id) (ttlSeconds : ℕ+)
  | incrAttempts (sessionId : Id)
  | expireAttempts (sessionId : Id) (seconds : ℕ+)
  | getRegistrationSession (sessionId : Id)
  | setRegistrationSession (sessionId : Id) (data : RegistrationSessionData) (ttlSeconds : ℕ+)
  | getForgotPasswordSession (sessionId : Id)
  | setForgotPasswordSession (sessionId : Id) (email : String) (ttlSeconds : ℕ+)
  | del (keys : List Key)
  | publishOtpRequested (event : OtpRequested)

@[reducible] def AuxAns : Aux → Type
  | .auth a => UserService.AuxAns a
  | .generateOtp | .bcryptHash _ => String
  | .bcryptCompare .. => Bool
  | .incrRate _ | .incrAttempts _ => Nat
  | .ttlRate _ | .ttlOtp _ => Int
  | .getOtp _ | .getForgotPasswordSession _ => Option String
  | .getOtpSession _ => Option Id
  | .getRegistrationSession _ => Option RegistrationSessionData
  | _ => Unit

/-- The environment of the session service, and the keys `auth:otp:<id>`,
`auth:otp_session:<email>`, `auth:otp_attempts:<id>`, `auth:otp_rate:<email>`,
`auth:registration:<id>` and `auth:forgot-password:<id>`; and, of the past, which call has
last stored a one-time password and registration data under a session, and which reset
tokens have been stored by whom. -/
structure Env where
  auth : UserService.Env
  otp : Redis.Store Id String
  otpSession : Redis.Store String Id
  otpAttempts : Redis.Counters Id
  otpRate : Redis.Counters String
  registrationSession : Redis.Store Id RegistrationSessionData
  forgotPasswordSession : Redis.Store Id String
  otpWriter : Id → Option Nat
  dataWriter : Id → Option Nat
  resetTokens : List (Id × Nat)

namespace Env

variable (e : Env)

/-- The clock, in milliseconds. -/
def now : Nat := e.auth.now

/-- When a key that gets its lifetime now expires. -/
def after (seconds : ℕ+) : Nat := e.now + 1000 * seconds

/-- `TTL auth:otp:<id>`: rounded to seconds, -2 without the key. -/
def ttlOtp (sessionId : Id) : Int :=
  match e.otp sessionId with
  | some entry =>
    if e.now < entry.expires then ((entry.expires - e.now + 500) / 1000 : Nat) else -2
  | none => -2

/-- `DEL` with several keys. -/
def del (keys : List Key) : Env :=
  { e with
    otp := fun id => if .otp id ∈ keys then none else e.otp id
    otpSession := fun email => if .otpSession email ∈ keys then none else e.otpSession email
    otpAttempts := fun id => if .otpAttempts id ∈ keys then none else e.otpAttempts id
    registrationSession := fun id =>
      if .registrationSession id ∈ keys then none else e.registrationSession id
    forgotPasswordSession := fun id =>
      if .forgotPasswordSession id ∈ keys then none else e.forgotPasswordSession id }

def setOtp (i : Nat) (sessionId : Id) (hashedOtp : String) (ttlSeconds : ℕ+) : Env :=
  { e with
    otp := e.otp.set sessionId hashedOtp (e.after ttlSeconds)
    otpWriter := Function.update e.otpWriter sessionId (some i) }

def setRegistrationSession (i : Nat) (sessionId : Id) (data : RegistrationSessionData)
    (ttlSeconds : ℕ+) : Env :=
  { e with
    registrationSession := e.registrationSession.set sessionId data (e.after ttlSeconds)
    dataWriter := Function.update e.dataWriter sessionId (some i) }

def setPasswordResetToken (i : Nat) (token : Id) (email : String) : Env :=
  { e with
    auth := { e.auth with passwordResetTokens :=
      e.auth.passwordResetTokens.set token email (e.now + passwordResetTokenTtlMs) }
    resetTokens := (token, i) :: e.resetTokens }

/-- The answer to a command with the effect `e'`; one that fails may have had it. -/
def command (e' : Env) {α : Type} (a : α) : Choice String → Except Err α × Env
  | .fault => (.error .redis, e)
  | .lost => (.error .redis, e')
  | _ => (.ok a, e')

end Env

def plain : Choice String → Choice Empty
  | .fault => .fault
  | .lost => .lost
  | _ => .ok

/-- The package generates any text. Hashes are salted at random: no two draws give the same. -/
def ask (S : OtpSettings) (e : Env) (i : Nat) :
    (a : Aux) → Choice String → Option (Except Err (AuxAns a) × Env)
  | .auth (.multi sessionId session userId), ch =>
    some (e.command { e with auth := e.auth.store sessionId session userId }
      (some [none, none, none]) ch)
  | .auth (.setPasswordResetToken token email), ch =>
    some (e.command (e.setPasswordResetToken i token email) () ch)
  | .auth a, ch =>
    (UserService.ask e.auth i a (plain ch)).map (fun
      | (.ok x, auth) => (.ok x, { e with auth })
      | (.error x, auth) => (.error (.auth x), { e with auth }))
  | .generateOtp, .reply otp => some (.ok otp, e)
  | .generateOtp, _ => none
  | .bcryptHash text, _ =>
    some (.ok (S.bcryptHash (Nat.pair i e.auth.drawn) text),
      { e with auth := { e.auth with drawn := e.auth.drawn + 1 } })
  | .bcryptCompare text hash, _ => some (.ok (S.bcryptCompare text hash), e)
  | .incrRate email, ch =>
    let (count, otpRate) := e.otpRate.incr e.now email
    some (e.command { e with otpRate } count ch)
  | .ttlRate email, ch => some (e.command e (e.otpRate.ttl e.now email) ch)
  | .expireRate email seconds, ch =>
    some (e.command { e with otpRate := e.otpRate.expire e.now email (e.after seconds) } () ch)
  | .getOtp sessionId, ch => some (e.command e (e.otp.get e.now sessionId) ch)
  | .ttlOtp sessionId, ch => some (e.command e (e.ttlOtp sessionId) ch)
  | .setOtp sessionId hashedOtp ttlSeconds, ch =>
    some (e.command (e.setOtp i sessionId hashedOtp ttlSeconds) () ch)
  | .getOtpSession email, ch => some (e.command e (e.otpSession.get e.now email) ch)
  | .setOtpSession email sessionId ttlSeconds, ch =>
    some (e.command { e with otpSession := e.otpSession.set email sessionId (e.after ttlSeconds) }
      () ch)
  | .incrAttempts sessionId, ch =>
    let (attempts, otpAttempts) := e.otpAttempts.incr e.now sessionId
    some (e.command { e with otpAttempts } attempts ch)
  | .expireAttempts sessionId seconds, ch =>
    some (e.command
      { e with otpAttempts := e.otpAttempts.expire e.now sessionId (e.after seconds) } () ch)
  | .getRegistrationSession sessionId, ch =>
    some (e.command e (e.registrationSession.get e.now sessionId) ch)
  | .setRegistrationSession sessionId data ttlSeconds, ch =>
    some (e.command (e.setRegistrationSession i sessionId data ttlSeconds) () ch)
  | .getForgotPasswordSession sessionId, ch =>
    some (e.command e (e.forgotPasswordSession.get e.now sessionId) ch)
  | .setForgotPasswordSession sessionId email ttlSeconds, ch =>
    some (e.command { e with forgotPasswordSession :=
      e.forgotPasswordSession.set sessionId email (e.after ttlSeconds) } () ch)
  | .del keys, ch => some (e.command (e.del keys) () ch)
  | .publishOtpRequested _, .fault => some (.error .kafka, e)
  | .publishOtpRequested _, ch => some (ch.answer .kafka (), e)

@[reducible] def otpService (S : OtpSettings) : Service where
  Db := Db
  Sql := Sql
  Rows := Rows
  Write := Write
  Key := UserService.Key
  Site := Unit
  Aux := Aux
  AuxAns := AuxAns
  Env := Env
  Err := Err
  Reply := String
  fault := .fault
  auto := ()
  run := run
  apply := Write.apply
  keys := Write.keys
  ask := ask S
  tick d e := { e with auth := { e.auth with now := e.auth.now + d } }

variable (S : OtpSettings)

abbrev OtpCode (α : Type) := Code (otpService S) α

def Err.toAuth : Err → UserService.Err
  | .auth e => e
  | _ => .fault

@[reducible] def sessionOperations : Extension userService (otpService S) where
  site := id
  sql := .auth
  aux := .auth
  rows _ a := a
  ans _ a := a
  err := Err.toAuth
  raise := .auth

/-- Code of the session service. -/
def auth {α : Type} (p : UserCode α) : OtpCode S α := (sessionOperations S).lift p

variable {S}

def raise {α : Type} (e : Err) : OtpCode S α := Program.raise e

/-- One operation of the environment. -/
def perform (a : Aux) : OtpCode S (AuxAns a) := Code.aux (V := otpService S) a

def query (q : Sql) : OtpCode S (Rows q) := Code.sql (V := otpService S) none q

section OtpService

def ensureRateTtl (email : String) : OtpCode S Unit := do
  let ttl ← perform (.ttlRate email)
  if ttl = -1 then perform (.expireRate email otpRateLimitWindow) else pure ()

/-- The rules for requests that `storeOtp` and `replaceOtp` begin with. -/
def limitRate (email : String) : OtpCode S Unit := do
  let nextCount ← perform (.incrRate email)
  ensureRateTtl email
  if otpRateLimitMax < nextCount then
    raise (.api 429 .rateLimitExceeded
      (some "OTP request rate limit exceeded, please try again later"))
  else pure ()

def findExistingOtpSession (email : String) : OtpCode S (Option Id) :=
  perform (.getOtpSession email)

def storeOtp (email otp : String) (ttlSeconds : ℕ+) : OtpCode S Id := do
  limitRate email
  let sessionId ← perform (.auth .randomUUID)
  let hashedOtp ← perform (.bcryptHash otp)
  perform (.setOtp sessionId hashedOtp ttlSeconds)
  perform (.setOtpSession email sessionId ttlSeconds)
  return sessionId

def replaceOtp (sessionId : Id) (email otp : String) (ttlSeconds : ℕ+) : OtpCode S Unit := do
  limitRate email
  let hashedOtp ← perform (.bcryptHash otp)
  perform (.setOtp sessionId hashedOtp ttlSeconds)
  perform (.setOtpSession email sessionId ttlSeconds)
  perform (.del [.otpAttempts sessionId])

variable (S) in
def storeRegistrationSession (sessionId : Id) (data : RegistrationSessionData) : OtpCode S Unit :=
  perform (.setRegistrationSession sessionId data S.registrationOtpTtl)

def getRegistrationSession (sessionId : Id) : OtpCode S (Option RegistrationSessionData) :=
  perform (.getRegistrationSession sessionId)

def deleteRegistrationSession (sessionId : Id) : OtpCode S Unit :=
  perform (.del [.otp sessionId, .registrationSession sessionId, .otpAttempts sessionId])

def deleteOtpSession (email : String) : OtpCode S Unit := perform (.del [.otpSession email])

def attemptTtl (S : OtpSettings) (remainingTtl : Int) : ℕ+ :=
  if h : 0 < remainingTtl then ⟨remainingTtl.toNat, Int.pos_iff_toNat_pos.mp h⟩
  else S.registrationOtpTtl

def alignAttempts (sessionId : Id) (attempts : Nat) : OtpCode S Unit :=
  if attempts = 1 then do
    let remainingTtl ← perform (.ttlOtp sessionId)
    perform (.expireAttempts sessionId (attemptTtl S remainingTtl))
  else pure ()

def verifyOtp (sessionId : Id) (otp : String) : OtpCode S Bool := do
  let hashedOtp ← perform (.getOtp sessionId)
  match hashedOtp with
  | none => raise (.api 404 .otpExpired none)
  | some hashedOtp => do
    let attempts ← perform (.incrAttempts sessionId)
    alignAttempts sessionId attempts
    if otpAttemptLimit < attempts then do
      perform (.del [.otp sessionId])
      raise (.api 429 .otpLocked none)
    else do
      let isValid ← perform (.bcryptCompare otp hashedOtp)
      if !isValid then raise (.api 400 .otpInvalid none)
      else do
        perform (.del [.otpAttempts sessionId])
        return true

end OtpService

section AuthService

def publishOtp (email otp : String) (purpose : OtpPurpose) (ttlSeconds : ℕ+) (message : String)
    (rollback : OtpCode S Unit) : OtpCode S Unit := do
  let eventId ← perform (.auth .randomUUID)
  let createdAt ← perform (.auth .now)
  (perform (.publishOtpRequested ⟨eventId, email, otp, createdAt, purpose, ttlSeconds⟩)).attempt
    (fun _ => do
      rollback
      raise (.api 502 .kafkaPublishFailed (some message)))

def sendOtp (data : RegisterRequest) : OtpCode S Id := do
  let existingUser ← query (.auth (.findUserByEmail data.email))
  if existingUser.isSome then raise (.api 409 .userAlreadyExists none)
  else do
    let existingSessionId ← findExistingOtpSession data.email
    let otp ← perform .generateOtp
    let hashedPassword ← perform (.bcryptHash data.password)
    let registration : RegistrationSessionData :=
      ⟨data.firstName, data.lastName, data.email, hashedPassword⟩
    let sessionId ← (match existingSessionId with
      | some sessionId => do
        replaceOtp sessionId data.email otp S.registrationOtpTtl
        storeRegistrationSession S sessionId registration
        return sessionId
      | none => do
        let sessionId ← storeOtp data.email otp S.registrationOtpTtl
        storeRegistrationSession S sessionId registration
        return sessionId)
    publishOtp data.email otp .registration S.registrationOtpTtl
      "Kafka Published Failed for OTP Delivery"
      (if existingSessionId.isNone then do
        deleteRegistrationSession sessionId
        deleteOtpSession data.email
      else pure ())
    return sessionId

def registerUser (data : RegistrationSessionData) (sessionId : Id) (fingerprint : String)
    (ipAddress userAgent : Option String) : OtpCode S AuthResponse := do
  let id ← perform (.auth .randomUUID)
  let createdAt ← perform (.auth .now)
  let user ← query (.createUser
    ⟨id, data.email, data.firstName, data.lastName, data.hashedPassword, createdAt⟩)
  let accessToken ← auth S (generateAccessToken user.id sessionId user.email)
  let refreshToken ← auth S (generateRefreshToken S.toSettings user.id sessionId)
  (auth S (createAuthSession S.toSettings user.id sessionId refreshToken fingerprint ipAddress
    userAgent)).attempt (fun err => do
      let deleted : OtpCode S Unit := do
        let _ ← query (.deleteUser user.id)
        return ()
      deleted.attempt (fun _ => pure ())
      raise err)
  return toAuthResponseDto user accessToken refreshToken

def verifyAndRegister (sessionId : Id) (otp fingerprint : String)
    (ipAddress userAgent : Option String) : OtpCode S AuthResponse := do
  let _ ← verifyOtp sessionId otp
  let regData ← getRegistrationSession sessionId
  match regData with
  | none => raise (.api 404 .registrationSessionExpired none)
  | some regData => do
    let authResponse ← registerUser regData sessionId fingerprint ipAddress userAgent
    let cleaned : OtpCode S Unit := do
      deleteRegistrationSession sessionId
      deleteOtpSession regData.email
    cleaned.attempt (fun _ => pure ())
    return authResponse

def forgotPassword (email : String) : OtpCode S Id := do
  let _ ← auth S (requireUser email)
  let existingSessionId ← findExistingOtpSession email
  let otp ← perform .generateOtp
  let sessionId ← (match existingSessionId with
    | some sessionId => do
      replaceOtp sessionId email otp S.forgotPasswordOtpTtl
      perform (.setForgotPasswordSession sessionId email S.forgotPasswordOtpTtl)
      return sessionId
    | none => do
      let sessionId ← storeOtp email otp S.forgotPasswordOtpTtl
      perform (.setForgotPasswordSession sessionId email S.forgotPasswordOtpTtl)
      return sessionId)
  publishOtp email otp .forgotPassword S.forgotPasswordOtpTtl
    "Kafka Published Failed for Forgot Password OTP Delivery"
    (if existingSessionId.isNone then do
      perform (.del [.otp sessionId, .forgotPasswordSession sessionId])
      deleteOtpSession email
    else pure ())
  return sessionId

def verifyPasswordResetOtp (sessionId : Id) (otp : String) : OtpCode S Id := do
  let email ← perform (.getForgotPasswordSession sessionId)
  match email with
  | none =>
    raise (.api 401 .otpSessionNotFound (some "Forgot password session not found or expired"))
  | some email => do
    let _ ← verifyOtp sessionId otp
    let token ← auth S (issuePasswordResetToken email)
    perform (.del [.otp sessionId, .forgotPasswordSession sessionId, .otpAttempts sessionId])
    deleteOtpSession email
    return token

end AuthService

/-- The service with its users, before any session or one-time password. -/
def Env.init (now : Nat) : Env :=
  ⟨.init now, .empty, .empty, .empty, .empty, .empty, .empty, fun _ => none, fun _ => none, []⟩

def sampleOtpSettings : OtpSettings where
  refreshExpiresIn := 2592000
  sha256 token := String.ofList (List.replicate token.iat 'a')
  bcryptHash _ text := "$2b$10$" ++ text
  bcryptCompare text hash := hash = "$2b$10$" ++ text
  geoLookup _ := none
  registrationOtpTtl := 300
  forgotPasswordOtpTtl := 600

end RailwayBooking.UserService.Otp
