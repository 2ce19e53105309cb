import RailwayBooking.Concurrency.Journal
import RailwayBooking.UserService.OtpCommands

namespace RailwayBooking.UserService.Otp.Registration

open Concurrency

/-- The requests of a registration. -/
inductive RegisterCall
  | sendOtp (data : RegisterRequest)
  | verifyAndRegister (sessionId : Id) (otp fingerprint : String)
      (ipAddress userAgent : Option String)
  deriving DecidableEq

inductive RegisterOut
  | sent (sessionId : Id)
  | registered (response : AuthResponse)
  deriving DecidableEq

def registerBody (S : OtpSettings) : RegisterCall → OtpCode S RegisterOut
  | .sendOtp data => do return .sent (← sendOtp data)
  | .verifyAndRegister sessionId otp fingerprint ipAddress userAgent => do
    return .registered (← verifyAndRegister sessionId otp fingerprint ipAddress userAgent)

@[reducible] def registerMachine (S : OtpSettings) : Machine (otpService S) :=
  ⟨RegisterCall, RegisterOut, registerBody S⟩

/-- The one-time password and the hash of the password that a call has drawn; the hash of the
one-time password that it has read, with the call that has stored it; and the registration
data that it has loaded. -/
structure RegisterEntry where
  otp : Option String
  hashedPassword : Option String
  read : Option (Nat × String)
  loaded : Option RegistrationSessionData
  deriving DecidableEq

namespace RegisterEntry

def blank : RegisterEntry := ⟨none, none, none, none⟩

variable {S : OtpSettings}

/-- The first hash that a call draws is that of the password. -/
def after (e : RegisterEntry) (w : World (otpService S) RegisterCall) :
    (s : Stmt (otpService S)) → Except Err s.Ans → RegisterEntry
  | .aux .generateOtp, .ok otp => { e with otp := e.otp <|> some otp }
  | .aux (.bcryptHash _), .ok hash => { e with hashedPassword := e.hashedPassword <|> some hash }
  | .aux (.getOtp sessionId), .ok (some hash) =>
    { e with read := (w.env.otpWriter sessionId).map (·, hash) }
  | .aux (.getRegistrationSession _), .ok data => { e with loaded := e.loaded <|> data }
  | _, _ => e

end RegisterEntry

@[reducible] def registerJournal (S : OtpSettings) : Journal (registerMachine S) :=
  ⟨RegisterEntry, .blank, RegisterEntry.after⟩

def createdUser : Write → Option User
  | .created user => some user
  | _ => none

/-- The users that a call has created. -/
def usersOf {S : OtpSettings} (w : World (otpService S) RegisterCall) (i : Nat) : List User :=
  (w.log.filter (fun x => x.2.owner = i)).flatMap (fun x => x.2.writes.filterMap createdUser)

def IsOtp (text : String) : Prop := text.length = 6 ∧ text.toList.all Char.isDigit = true

instance (text : String) : Decidable (IsOtp text) := inferInstanceAs (Decidable (_ ∧ _))

/-- A one-time password matches no hash of another. -/
def SeparatesOtps (S : OtpSettings) : Prop :=
  ∀ salt otp otp', IsOtp otp → IsOtp otp' →
    S.bcryptCompare otp (S.bcryptHash salt otp') = true → otp = otp'

section Conditions

variable {S : OtpSettings} (s : (registerJournal S).State)

/-- A registration with the one-time password of a request creates one user, with the names
and the password hash of that request. -/
def RegistersOwnData : Prop :=
  ∀ (i r : Nat) sessionId otp fingerprint ipAddress userAgent response data code,
    s.pool.threads[i]? = some ⟨.verifyAndRegister sessionId otp fingerprint ipAddress userAgent,
      some (.ret (.registered response))⟩ →
    s.pool.threads[r]? = some ⟨.sendOtp data, code⟩ → (s.entries r).otp = some otp →
    ∃ user, usersOf s.pool.world i = [user] ∧ user.firstName = data.firstName ∧
      user.lastName = data.lastName ∧ (s.entries r).hashedPassword = some user.password

/-- The package draws six digits, and never those of another request. -/
def distinctOtps : Event (registerMachine S) → Prop
  | .act (.run i (.reply otp)) => ∀ c k,
      s.pool.threads[i]? = some ⟨c, some (.call (.aux .generateOtp) k)⟩ →
      IsOtp otp ∧ ∀ (j : Nat) c' code, s.pool.threads[j]? = some ⟨c', code⟩ →
        (s.entries j).otp ≠ some otp
  | _ => True

/-- A call reads the one-time password that it presents only when the request that has stored
it has also stored the registration data of the session. -/
def readsWhole : Event (registerMachine S) → Prop
  | .act (.run i _) => ∀ sessionId otp fingerprint ipAddress userAgent k r,
      s.pool.threads[i]? = some ⟨.verifyAndRegister sessionId otp fingerprint ipAddress userAgent,
        some (.call (.aux (.getOtp sessionId)) k)⟩ →
      s.pool.world.env.otp.get s.pool.world.env.now sessionId ≠ none →
      s.pool.world.env.otpWriter sessionId = some r → (s.entries r).otp = some otp →
      s.pool.world.env.dataWriter sessionId = some r
  | _ => True

/-- Registration data are not overwritten by another request while a call that presents the
one-time password it has read has yet to load them. -/
def keepsData : Event (registerMachine S) → Prop
  | .act (.run j _) => ∀ request sessionId data ttl k,
      s.pool.threads[j]? = some ⟨.sendOtp request,
        some (.call (.aux (.setRegistrationSession sessionId data ttl)) k)⟩ →
      ∀ (i r : Nat) otp fingerprint ipAddress userAgent code hash, ¬ s.Over i →
      s.pool.threads[i]? =
        some ⟨.verifyAndRegister sessionId otp fingerprint ipAddress userAgent, code⟩ →
      (s.entries i).read = some (r, hash) → (s.entries i).loaded = none →
      (s.entries r).otp = some otp → r = j
  | _ => True

def ownData (a : Event (registerMachine S)) : Prop :=
  distinctOtps s a ∧ readsWhole s a ∧ keepsData s a

end Conditions

section Stages

/-- The data that a request registers, with the hash of its password. -/
def registration (data : RegisterRequest) (hashedPassword : String) : RegistrationSessionData :=
  ⟨data.firstName, data.lastName, data.email, hashedPassword⟩

def Matches (data : RegistrationSessionData) (user : User) : Prop :=
  user.firstName = data.firstName ∧ user.lastName = data.lastName ∧
    user.password = data.hashedPassword

/-- How far a request has come: `sendOtp` has drawn its one-time password and hashed the
password; `verifyAndRegister` has read a one-time password, has had its guess accepted, has
loaded the registration data, and has created the user. -/
inductive RegisterStage
  | arrived
  | generated (otp : String)
  | hashed (otp hashedPassword : String)
  | asking
  | read (hash : String)
  | accepted
  | loaded (data : RegistrationSessionData)
  | created (data : RegistrationSessionData)
  | ended

namespace RegisterStage

variable {S : OtpSettings}

def after : RegisterStage → (s : Stmt (otpService S)) → Except Err s.Ans → RegisterStage
  | .arrived, .aux .generateOtp, .ok otp => .generated otp
  | .generated otp, .aux (.bcryptHash _), .ok hash => .hashed otp hash
  | .asking, .aux (.getOtp _), .ok (some hash) => .read hash
  | .read _, .aux (.bcryptCompare _ _), .ok true => .accepted
  | .accepted, .aux (.getRegistrationSession _), .ok (some data) => .loaded data
  | .loaded data, .sql none (.createUser _), .ok _ => .created data
  | .loaded _, .sql none (.createUser _), .error _ => .ended
  | g, _, _ => g

/-- Statements that are left out of the entries, store no one-time password and no
registration data, and create no user. -/
def Harmless : Stmt (otpService S) → Prop
  | .aux .generateOtp | .aux (.bcryptHash _) | .aux (.bcryptCompare _ _) | .aux (.getOtp _)
  | .aux (.setOtp _ _ _) | .aux (.getRegistrationSession _)
  | .aux (.setRegistrationSession _ _ _) => False
  | .aux _ | .sql none (.auth (.findUserByEmail _)) | .sql none (.deleteUser _) => True
  | _ => False

def maySend (data : RegisterRequest) : RegisterStage → Stmt (otpService S) → Prop
  | .arrived, s => Harmless s ∨ s = .aux .generateOtp
  | .generated _, s => Harmless s ∨ s = .aux (.bcryptHash data.password)
  | .hashed otp hashedPassword, s => Harmless s ∨ s = .aux (.bcryptHash otp) ∨
      (∃ sessionId salt ttl, s = .aux (.setOtp sessionId (S.bcryptHash salt otp) ttl)) ∨
      ∃ sessionId ttl, s =
        .aux (.setRegistrationSession sessionId (registration data hashedPassword) ttl)
  | _, _ => False

def mayRegister (sessionId : Id) (otp : String) : RegisterStage → Stmt (otpService S) → Prop
  | .asking, s => s = .aux (.getOtp sessionId)
  | .read hash, s => Harmless s ∨ s = .aux (.bcryptCompare otp hash)
  | .accepted, s => Harmless s ∨ s = .aux (.getRegistrationSession sessionId)
  | .loaded data, s => Harmless s ∨ ∃ user, s = .sql none (.createUser user) ∧ Matches data user
  | .created _, s | .ended, s => Harmless s
  | _, _ => False

/-- Hashes are hashes of the text under some salt. -/
def can : (s : Stmt (otpService S)) → Except Err s.Ans → Prop
  | .aux (.bcryptHash text), .ok hash => ∃ salt, hash = S.bcryptHash salt text
  | _, _ => True

def ledger : RegisterCall → Ledger (otpService S) RegisterStage
  | .sendOtp data => ⟨maySend data, can, after⟩
  | .verifyAndRegister sessionId otp _ _ _ => ⟨mayRegister sessionId otp, can, after⟩

def first : RegisterCall → RegisterStage
  | .sendOtp _ => .arrived
  | .verifyAndRegister .. => .asking

def Returns : RegisterCall → RegisterStage → Prop
  | .sendOtp _, _ => True
  | .verifyAndRegister .., g => ∃ data, g = .created data

end RegisterStage

open RegisterStage

variable {S : OtpSettings}

theorem harmless_after {g : RegisterStage} {s : Stmt (otpService S)} (h : Harmless s)
    (r : Except Err s.Ans) (e : RegisterEntry) (w : World (otpService S) RegisterCall) :
    g.after s r = g ∧ e.after w s r = e := by
  cases s with
  | aux a =>
    cases a with
    | generateOtp | bcryptHash text | bcryptCompare otp hash | getOtp id | setOtp id hash ttl
    | getRegistrationSession id | setRegistrationSession id data ttl => exact h.elim
    | _ => cases g <;> exact ⟨rfl, rfl⟩
  | sql n q =>
    cases n with
    | some n => exact h.elim
    | none =>
      cases q with
      | auth q =>
        cases q with
        | findUserByEmail email => cases g <;> exact ⟨rfl, rfl⟩
        | _ => exact h.elim
      | createUser user => exact h.elim
      | deleteUser id => cases g <;> exact ⟨rfl, rfl⟩
  | _ => exact h.elim

/-- A ledger of this module admits what is harmless, and keeps the note. -/
structure Admits (L : Ledger (otpService S) RegisterStage) (g : RegisterStage) : Prop where
  after : L.after = RegisterStage.after
  may : ∀ s, Harmless s → L.may g s

variable {L : Ledger (otpService S) RegisterStage} {g : RegisterStage}

theorem Admits.still (h : Admits L g) {a : Aux} (ha : Harmless (S := S) (.aux a)) :
    Still L g (perform a) := by
  refine still_issue (h.may _ ha) fun r => ?_
  rw [h.after]
  exact (harmless_after ha r .blank ⟨⟨[]⟩, [], .init 0⟩).1

theorem Admits.still_limitRate (h : Admits L g) (email : String) : Still L g (limitRate email) :=
  Otp.still_limitRate (h.still trivial) (h.still trivial) (h.still trivial)

theorem Admits.still_query (h : Admits L g) {q : Sql} (hq : Harmless (S := S) (.sql none q)) :
    Still L g (query q) := by
  refine still_issue (h.may _ hq) fun r => ?_
  rw [h.after]
  exact (harmless_after hq r .blank ⟨⟨[]⟩, [], .init 0⟩).1

section SendOtp

variable {data : RegisterRequest} {otp hashedPassword : String}

theorem admits_arrived : Admits (ledger (S := S) (.sendOtp data)) .arrived :=
  ⟨rfl, fun _ hs => .inl hs⟩

theorem admits_hashed : Admits (ledger (S := S) (.sendOtp data)) (.hashed otp hashedPassword) :=
  ⟨rfl, fun _ hs => .inl hs⟩

theorem still_storeOtp (email : String) (ttl : ℕ+) :
    Still (ledger (S := S) (.sendOtp data)) (.hashed otp hashedPassword)
      (storeOtp email otp ttl) := by
  have hadmits : Admits (ledger (S := S) (.sendOtp data)) (.hashed otp hashedPassword) :=
    admits_hashed
  refine Still.bind (hadmits.still_limitRate email) (fun _ => rfl) fun _ => ?_
  refine Still.bind (hadmits.still trivial) (fun _ => rfl) fun sessionId => ?_
  refine follows_seq (.inr (.inl rfl)) (fun hash hsalt => ?_) fun _ _ => rfl
  obtain ⟨salt, rfl⟩ := hsalt
  refine follows_seq (.inr (.inr (.inl ⟨_, salt, _, rfl⟩))) (fun _ _ => ?_) fun _ _ => rfl
  exact Still.bind (hadmits.still trivial) (fun _ => rfl) fun _ => rfl

theorem still_replaceOtp (sessionId : Id) (email : String) (ttl : ℕ+) :
    Still (ledger (S := S) (.sendOtp data)) (.hashed otp hashedPassword)
      (replaceOtp sessionId email otp ttl) := by
  have hadmits : Admits (ledger (S := S) (.sendOtp data)) (.hashed otp hashedPassword) :=
    admits_hashed
  refine Still.bind (hadmits.still_limitRate email) (fun _ => rfl) fun _ => ?_
  refine follows_seq (.inr (.inl rfl)) (fun hash hsalt => ?_) fun _ _ => rfl
  obtain ⟨salt, rfl⟩ := hsalt
  refine follows_seq (.inr (.inr (.inl ⟨_, salt, _, rfl⟩))) (fun _ _ => ?_) fun _ _ => rfl
  exact Still.bind (hadmits.still trivial) (fun _ => rfl) fun _ => hadmits.still trivial

theorem still_storeRegistrationSession (sessionId : Id) :
    Still (ledger (S := S) (.sendOtp data)) (.hashed otp hashedPassword)
      (storeRegistrationSession S sessionId (registration data hashedPassword)) :=
  still_issue (.inr (.inr (.inr ⟨_, _, rfl⟩))) fun _ => rfl

theorem follows_sendOtp (data : RegisterRequest) :
    Follows (ledger (S := S) (.sendOtp data)) (fun _ _ => True) (fun _ _ => True) (sendOtp data)
      .arrived := by
  have harrived : Admits (ledger (S := S) (.sendOtp data)) .arrived := admits_arrived
  refine Still.bind (harrived.still_query trivial) (fun _ => trivial) fun existingUser => ?_
  split
  · exact trivial
  refine Still.bind (harrived.still trivial) (fun _ => trivial) fun existing => ?_
  refine follows_seq (.inr rfl) (fun otp _ => ?_) fun _ _ => trivial
  refine follows_seq (.inr rfl) (fun hashedPassword _ => ?_) fun _ _ => trivial
  have hadmits : Admits (ledger (S := S) (.sendOtp data)) (.hashed otp hashedPassword) :=
    admits_hashed
  have hpublished : ∀ {rollback : OtpCode S Unit} {α : Type} {x : α},
      Still (ledger (S := S) (.sendOtp data)) (.hashed otp hashedPassword) rollback →
      Follows (ledger (S := S) (.sendOtp data)) (fun _ _ => True) (fun _ _ => True)
        (publishOtp data.email otp .registration S.registrationOtpTtl
          "Kafka Published Failed for OTP Delivery" rollback >>= fun _ => pure x)
        (.hashed otp hashedPassword) := by
    intro rollback α x hrollback
    have hstill : Still (ledger (S := S) (.sendOtp data)) (.hashed otp hashedPassword)
        (publishOtp data.email otp .registration S.registrationOtpTtl
          "Kafka Published Failed for OTP Delivery" rollback) :=
      still_publishOtp (hadmits.still trivial) (hadmits.still trivial)
        (fun _ => hadmits.still trivial) hrollback
    exact hstill.bind (fun _ => trivial) fun _ => trivial
  cases existing with
  | some sessionId =>
    have hstored : Still (ledger (S := S) (.sendOtp data)) (.hashed otp hashedPassword) (do
        replaceOtp sessionId data.email otp S.registrationOtpTtl
        storeRegistrationSession S sessionId (registration data hashedPassword)
        return sessionId) := by
      refine Still.bind (still_replaceOtp sessionId _ _) (fun _ => rfl) fun _ => ?_
      exact Still.bind (still_storeRegistrationSession sessionId) (fun _ => rfl) fun _ => rfl
    exact hstored.bind (fun _ => trivial) fun id => hpublished rfl
  | none =>
    have hstored : Still (ledger (S := S) (.sendOtp data)) (.hashed otp hashedPassword) (do
        let sessionId ← storeOtp data.email otp S.registrationOtpTtl
        storeRegistrationSession S sessionId (registration data hashedPassword)
        return sessionId) := by
      refine Still.bind (still_storeOtp _ _) (fun _ => rfl) fun sessionId => ?_
      exact Still.bind (still_storeRegistrationSession sessionId) (fun _ => rfl) fun _ => rfl
    refine hstored.bind (fun _ => trivial) fun id => hpublished ?_
    exact Still.bind (hadmits.still trivial) (fun _ => rfl) fun _ => hadmits.still trivial

end SendOtp

section VerifyAndRegister

variable {data : RegistrationSessionData}

theorem Admits.after_auth (h : Admits L g) (a : UserService.Aux)
    (r : Except Err (UserService.AuxAns a)) : L.after g (.aux (.auth a)) r = g := by
  rw [h.after]
  have hharmless : Harmless (S := S) (.aux (.auth a)) := trivial
  exact (harmless_after hharmless r .blank ⟨⟨[]⟩, [], .init 0⟩).1

theorem Admits.auth_seq (h : Admits L g) {α : Type} {a : UserService.Aux}
    {f : UserService.AuxAns a → UserCode α} (hf : ∀ x, Still L g (auth S (f x))) :
    Still L g (auth S (UserService.perform a >>= f)) := by
  refine follows_auth (h.may _ trivial) (fun x _ => ?_) fun err _ => h.after_auth a _
  rw [h.after_auth]
  exact hf x

theorem Admits.auth_attempt (h : Admits L g) {α : Type} {a : UserService.Aux}
    {f : UserService.Err → UserCode (UserService.AuxAns a)}
    {k : UserService.AuxAns a → UserCode α} (hf : ∀ err, Still L g (auth S (f err)))
    (hk : ∀ x, Still L g (auth S (k x))) :
    Still L g (auth S ((UserService.perform a).attempt f >>= k)) := by
  have hattempt : Still L g (auth S ((UserService.perform a).attempt f)) := by
    refine ⟨h.may _ trivial, fun r _ => ?_⟩
    have hsame : L.after g ((sessionOperations S).stmt (.aux a)) r = g := h.after_auth a r
    rw [hsame]
    cases r with
    | ok x => exact rfl
    | error err => exact hf err.toAuth
  refine follows_auth_bind hattempt ?_
  rintro x _ rfl
  exact hk x

theorem Admits.still_generateAccessToken (h : Admits L g) (userId sessionId : Id)
    (email : String) : Still L g (auth S (generateAccessToken userId sessionId email)) := by
  refine h.auth_seq fun ms => ?_
  exact rfl

theorem Admits.still_generateRefreshToken (h : Admits L g) (userId sessionId : Id) :
    Still L g (auth S (generateRefreshToken S.toSettings userId sessionId)) := by
  refine h.auth_seq fun ms => ?_
  exact rfl

theorem Admits.still_createAuthSession (h : Admits L g) (userId sessionId : Id)
    (refreshToken : RefreshToken) (fingerprint : String) (ipAddress userAgent : Option String) :
    Still L g (auth S (createAuthSession S.toSettings userId sessionId refreshToken fingerprint
      ipAddress userAgent)) := by
  refine h.auth_seq fun createdAt => h.auth_seq fun lastUsedAt => h.auth_seq fun now => ?_
  refine h.auth_seq fun results => ?_
  cases results with
  | none => exact rfl
  | some results =>
    change Still L g (auth S (if _ then _ else _))
    split
    · refine h.auth_attempt (fun _ => rfl) fun _ => ?_
      exact h.auth_attempt (fun _ => rfl) fun _ => rfl
    · exact rfl

theorem Admits.still_undone (h : Admits L g) (id : Id) (err : Err) :
    Still L g ((do
      let _ ← query (S := S) (.deleteUser id)
      return ()).attempt (fun _ => pure ()) >>= fun _ => (raise err : OtpCode S Unit)) := by
  have hdeleted : Still L g (do
      let _ ← query (S := S) (.deleteUser id)
      return ()) := Still.bind (h.still_query trivial) (fun _ => rfl) fun _ => rfl
  exact Still.bind (hdeleted.attempt fun _ => rfl) (fun _ => rfl) fun _ => rfl

theorem Admits.still_cleaned (h : Admits L g) (sessionId : Id) (email : String) : Still L g (do
    deleteRegistrationSession (S := S) sessionId
    deleteOtpSession email) :=
  Still.bind (h.still trivial) (fun _ => rfl) fun _ => h.still trivial

theorem follows_registerUser {sessionId id : Id} {otp fingerprint fingerprint' : String}
    {ipAddress ipAddress' userAgent userAgent' : Option String} :
    Follows (ledger (S := S) (.verifyAndRegister id otp fingerprint' ipAddress' userAgent'))
      (fun _ g => g = .created data) (fun _ _ => True)
      (registerUser data sessionId fingerprint ipAddress userAgent) (.loaded data) := by
  have hloaded : Admits
      (ledger (S := S) (.verifyAndRegister id otp fingerprint' ipAddress' userAgent'))
      (.loaded data) := ⟨rfl, fun _ hs => .inl hs⟩
  have hcreated : Admits
      (ledger (S := S) (.verifyAndRegister id otp fingerprint' ipAddress' userAgent'))
      (.created data) := ⟨rfl, fun _ hs => hs⟩
  refine Still.bind (hloaded.still trivial) (fun _ => trivial) fun userId => ?_
  refine Still.bind (hloaded.still trivial) (fun _ => trivial) fun createdAt => ?_
  refine follows_seq (.inr ⟨_, rfl, rfl, rfl, rfl⟩) (fun user _ => ?_) fun _ _ => trivial
  refine Still.bind (hcreated.still_generateAccessToken _ _ _) (fun _ => trivial)
    fun accessToken => ?_
  refine Still.bind (hcreated.still_generateRefreshToken _ _) (fun _ => trivial)
    fun refreshToken => ?_
  refine Still.bind ((hcreated.still_createAuthSession _ _ _ _ _ _).attempt fun err =>
    hcreated.still_undone user.id err) (fun _ => trivial) fun _ => ?_
  exact rfl

theorem follows_verifyAndRegister (sessionId : Id) (otp fingerprint : String)
    (ipAddress userAgent : Option String) :
    Follows (ledger (S := S) (.verifyAndRegister sessionId otp fingerprint ipAddress userAgent))
      (fun _ g => ∃ data, g = .created data) (fun _ _ => True)
      (verifyAndRegister sessionId otp fingerprint ipAddress userAgent) .asking := by
  have hread : ∀ hash, Admits
      (ledger (S := S) (.verifyAndRegister sessionId otp fingerprint ipAddress userAgent))
      (.read hash) := fun hash => ⟨rfl, fun _ hs => .inl hs⟩
  have haccepted : Admits
      (ledger (S := S) (.verifyAndRegister sessionId otp fingerprint ipAddress userAgent))
      .accepted := ⟨rfl, fun _ hs => .inl hs⟩
  have hcreated : ∀ data, Admits
      (ledger (S := S) (.verifyAndRegister sessionId otp fingerprint ipAddress userAgent))
      (.created data) := fun data => ⟨rfl, fun _ hs => hs⟩
  have hverified : Follows
      (ledger (S := S) (.verifyAndRegister sessionId otp fingerprint ipAddress userAgent))
      (fun _ g => g = .accepted) (fun _ _ => True) (verifyOtp sessionId otp) .asking := by
    refine follows_seq rfl (fun found _ => ?_) fun _ _ => trivial
    cases found with
    | none => exact trivial
    | some hash =>
      refine Still.bind ((hread hash).still trivial) (fun _ => trivial) fun attempts => ?_
      refine Still.bind (still_alignAttempts attempts ((hread hash).still trivial) fun _ =>
        (hread hash).still trivial) (fun _ => trivial) fun _ => ?_
      split
      · exact Still.bind ((hread hash).still trivial) (fun _ => trivial) fun _ => trivial
      · refine follows_seq (.inr rfl) (fun isValid _ => ?_) fun _ _ => trivial
        cases isValid with
        | false => exact trivial
        | true => exact Still.bind (haccepted.still trivial) (fun _ => trivial) fun _ => rfl
  refine hverified.bind ?_
  rintro _ _ rfl
  refine follows_seq (.inr rfl) (fun regData _ => ?_) fun _ _ => trivial
  cases regData with
  | none => exact trivial
  | some data =>
    refine follows_registerUser.bind ?_
    rintro authResponse _ rfl
    exact Still.bind (((hcreated data).still_cleaned sessionId data.email).attempt fun _ => rfl)
      (fun _ => trivial) fun _ => ⟨data, rfl⟩

end VerifyAndRegister

theorem follows_registerBody (c : RegisterCall) :
    Follows (ledger (S := S) c) (fun _ g => Returns c g) (fun _ _ => True) (registerBody S c)
      (first c) := by
  cases c with
  | sendOtp data => exact (follows_sendOtp data).bind fun _ _ _ => trivial
  | verifyAndRegister sessionId otp fingerprint ipAddress userAgent =>
    exact (follows_verifyAndRegister sessionId otp fingerprint ipAddress userAgent).bind
      fun _ _ h => h

end Stages

end RailwayBooking.UserService.Otp.Registration
