import RailwayBooking.Concurrency.ReadCommitted
import RailwayBooking.Redis.SetKeys

namespace RailwayBooking.UserService

abbrev Id := Nat

/-- A row of the table of users, as far as it is read. -/
structure User where
  id : Id
  email : String
  firstName : String
  lastName : String
  password : String
  createdAt : Nat
  deriving DecidableEq

structure Db where
  users : List User

/-- `SessionRecord`, the value of `auth:session:<id>`; times are milliseconds. -/
structure SessionRecord where
  userId : Id
  fingerprint : String
  refreshTokenHash : String
  ipAddress : String
  userAgent : String
  location : String
  createdAt : Nat
  lastUsedAt : Nat
  expiresAt : Nat
  deriving DecidableEq

/-- `SessionSummaryDto`: the record with its id and without the hash. -/
structure SessionSummary where
  sessionId : Id
  userId : Id
  fingerprint : String
  ipAddress : String
  userAgent : String
  location : String
  createdAt : Nat
  lastUsedAt : Nat
  expiresAt : Nat
  deriving DecidableEq

structure AccessToken where
  sub : Id
  email : String
  sessionId : Id
  iat : Nat
  deriving DecidableEq

/-- The payload of a refresh token; times are seconds. -/
structure RefreshToken where
  sub : Id
  sessionId : Id
  iat : Nat
  exp : Nat
  deriving DecidableEq

/-- What a client presents as refresh token: one that the service has signed, or anything
else. -/
inductive Jwt
  | refresh (token : RefreshToken)
  | other
  deriving DecidableEq

structure UserResponse where
  id : Id
  firstName : String
  lastName : String
  email : String
  createdAt : Nat
  deriving DecidableEq

structure AuthResponse where
  user : UserResponse
  accessToken : AccessToken
  refreshToken : RefreshToken
  deriving DecidableEq

/-- `UserLoggedInV1`. -/
structure UserLoggedIn where
  eventId : Id
  userId : Id
  email : String
  firstName : String
  lastName : String
  loggedInAt : Nat

/-- `req.user`, as the gateway has put it into the headers of the request. -/
structure RequestUser where
  userId : Id
  sessionId : Option Id
  deriving DecidableEq

inductive ErrorCode
  | userNotFound
  | invalidCredentials
  | otpSessionNotFound
  | sessionContextMissing
  | sessionExpiredOrRevoked
  | sessionOwnershipInvalid
  | invalidRefreshToken
  | deviceFingerprintMismatch
  deriving DecidableEq, Repr

/-- What may be thrown: an `ApiError`, another error of the code, or a failed command,
message or statement. -/
inductive Err
  | api (statusCode : Nat) (code : ErrorCode) (message : Option String)
  | error (message : String)
  | redis
  | kafka
  | fault
  | recordNotFound
  deriving DecidableEq

/-- The statements of `UserRepository`. -/
inductive Sql
  | findUserByEmail (email : String)
  | findById (id : Id)
  | update (id : Id) (password : String)

@[reducible] def Rows : Sql → Type
  | .findUserByEmail _ => Option User
  | .findById _ => Option User
  | .update .. => User

inductive Write
  | updated (id : Id) (password : String)

def Write.apply : Write → Db → Db
  | .updated id password, d =>
    { d with users := d.users.map (fun u => if u.id = id then { u with password } else u) }

/-- The row of a user. -/
inductive Key
  | user (id : Id)
  deriving DecidableEq

def Write.keys : Write → List Key
  | .updated id _ => [.user id]

def run : (q : Sql) → Db → Except Err (Rows q × List Write × List Key)
  | .findUserByEmail email, d => .ok (d.users.find? (fun u => u.email = email), [], [])
  | .findById id, d => .ok (d.users.find? (fun u => u.id = id), [], [])
  | .update id password, d =>
    match d.users.find? (fun u => u.id = id) with
    | none => .error .recordNotFound
    | some u => .ok ({ u with password }, [.updated id password], [])

/-- What the code is configured with and gets from packages: how long refresh tokens last,
the hashes, and the look-up of an address. -/
structure Settings where
  refreshExpiresIn : Nat
  sha256 : RefreshToken → String
  bcryptHash : Nat → String → String
  bcryptCompare : String → String → Bool
  geoLookup : String → Option (String × String)

end RailwayBooking.UserService
