import RailwayBooking.Concurrency.Journal
import RailwayBooking.Concurrency.Sole
import RailwayBooking.UserService.OtpCommands

namespace RailwayBooking.UserService.Otp

open Concurrency

/-- The requests of a password reset. -/
inductive ResetCall
  | forgotPassword (email : String)
  | verifyPasswordResetOtp (sessionId : Id) (otp : String)
  | resetPassword (passwordResetToken : Id) (password : String)
  deriving DecidableEq

inductive ResetOut
  | sent (sessionId : Id)
  | verified (passwordResetToken : Id)
  | reset (userId : Id)
  deriving DecidableEq

def resetBody (S : OtpSettings) : ResetCall → OtpCode S ResetOut
  | .forgotPassword email => do return .sent (← forgotPassword email)
  | .verifyPasswordResetOtp sessionId otp => do
    return .verified (← verifyPasswordResetOtp sessionId otp)
  | .resetPassword passwordResetToken password => do
    return .reset (← auth S (resetPassword S.toSettings passwordResetToken password))

@[reducible] def resetMachine (S : OtpSettings) : Machine (otpService S) :=
  ⟨ResetCall, ResetOut, resetBody S⟩

/-- Which call has stored the one-time password that a call has read, whether its guess was
right, and whether it has found its reset token. -/
structure ResetEntry where
  read : Option Nat
  correct : Bool
  found : Bool
  deriving DecidableEq

def ResetEntry.after {S : OtpSettings} (e : ResetEntry) (w : World (otpService S) ResetCall) :
    (s : Stmt (otpService S)) → Except Err s.Ans → ResetEntry
  | .aux (.getOtp sessionId), .ok (some _) =>
    { e with read := w.env.otpWriter sessionId }
  | .aux (.bcryptCompare _ _), .ok true => { e with correct := true }
  | .aux (.auth (.getPasswordResetToken _)), .ok (some _) => { e with found := true }
  | _, _ => e

@[reducible] def resetJournal (S : OtpSettings) : Journal (resetMachine S) :=
  ⟨ResetEntry, ⟨none, false, false⟩, ResetEntry.after⟩

section Conditions

variable {S : OtpSettings} (s : (resetJournal S).State)

/-- The tokens that calls have stored that had read the one-time password of call `r`. -/
def tokensOf (r : Nat) : List (Id × Nat) :=
  s.pool.world.env.resetTokens.filter (fun t => (s.entries t.2).read = some r)

/-- The request resets a password with the token. -/
def Changes (token : Id) : ResetCall → Bool
  | .resetPassword passwordResetToken _ => passwordResetToken = token
  | _ => false

/-- The password changes that the reset token has led to. -/
def changesOf (token : Id) : List (ResetCall × Tx (otpService S)) :=
  s.pool.world.log.filter (fun x => Changes token x.1)

/-- Each one-time password yields at most one reset token, and each reset token leads to at
most one password change. -/
def SingleAuthorisation : Prop :=
  (∀ r, (tokensOf s r).length ≤ 1) ∧ ∀ token, (changesOf s token).length ≤ 1

def NoToken (i : Nat) : Prop := s.Over i ∧ ∀ t ∈ s.pool.world.env.resetTokens, t.2 ≠ i

def NoChange (i : Nat) : Prop := s.Over i ∧ ∀ x ∈ s.pool.world.log, x.2.owner ≠ i

/-- A one-time password is guessed right when every other call that has guessed it right has
ended without a reset token. -/
def soleGuess : Event (resetMachine S) → Prop
  | .act (.run i _) => ∀ c otp hash k,
      s.pool.threads[i]? = some ⟨c, some (.call (.aux (.bcryptCompare otp hash)) k)⟩ →
      S.bcryptCompare otp hash = true → ∀ r, (s.entries i).read = some r →
      ∀ (j : Nat) c' code, j ≠ i → s.pool.threads[j]? = some ⟨c', code⟩ →
      (s.entries j).read = some r → (s.entries j).correct = true → NoToken s j
  | _ => True

/-- A reset token is found when every other call that has found it has ended without a
password change. -/
def soleReset : Event (resetMachine S) → Prop
  | .act (.run i _) => ∀ token password k,
      s.pool.threads[i]? = some ⟨.resetPassword token password,
        some (.call (.aux (.auth (.getPasswordResetToken token))) k)⟩ →
      s.pool.world.env.auth.passwordResetTokens.get s.pool.world.env.now token ≠ none →
      ∀ (j : Nat) password' code, j ≠ i →
      s.pool.threads[j]? = some ⟨.resetPassword token password', code⟩ →
      (s.entries j).found = true → NoChange s j
  | _ => True

def soleUse (a : Event (resetMachine S)) : Prop := soleGuess s a ∧ soleReset s a

end Conditions

section Stages

/-- How far a request has come: a guess has read a one-time password, was right, and has stored
a token; a reset has found its token, and has changed the password. -/
inductive ResetStage
  | arrived
  | read
  | correct
  | issued
  | unread
  | found
  | changed
  | ended

namespace ResetStage

variable {S : OtpSettings}

def after : ResetStage → (s : Stmt (otpService S)) → Except Err s.Ans → ResetStage
  | .arrived, .aux (.getOtp _), .ok (some _) => .read
  | .read, .aux (.bcryptCompare _ _), .ok true => .correct
  | .read, .aux (.bcryptCompare _ _), _ => .ended
  | .correct, .aux (.auth (.setPasswordResetToken _ _)), _ => .issued
  | .unread, .aux (.auth (.getPasswordResetToken _)), .ok (some _) => .found
  | .unread, .aux (.auth (.getPasswordResetToken _)), _ => .ended
  | .found, .sql none (.auth (.update _ _)), _ => .changed
  | g, _, _ => g

def Harmless : Stmt (otpService S) → Prop
  | .aux (.getOtp _) | .aux (.bcryptCompare _ _) | .aux (.auth (.setPasswordResetToken _ _))
  | .aux (.auth (.getPasswordResetToken _)) => False
  | .aux _ | .sql none (.auth (.findUserByEmail _)) => True
  | _ => False

def may : ResetStage → Stmt (otpService S) → Prop
  | .arrived, s => Harmless s ∨ ∃ sessionId, s = .aux (.getOtp sessionId)
  | .read, s => Harmless s ∨ ∃ otp hash, s = .aux (.bcryptCompare otp hash)
  | .correct, s => Harmless s ∨
      ∃ token email, s = .aux (.auth (.setPasswordResetToken token email))
  | .unread, s => ∃ token, s = .aux (.auth (.getPasswordResetToken token))
  | .found, s => Harmless s ∨ ∃ id password, s = .sql none (.auth (.update id password))
  | .issued, s | .changed, s | .ended, s => Harmless s

def mayCall : ResetCall → ResetStage → Stmt (otpService S) → Prop
  | .resetPassword token _, .unread, s => s = .aux (.auth (.getPasswordResetToken token))
  | _, g, s => g.may s

def ledger (c : ResetCall) : Ledger (otpService S) ResetStage :=
  ⟨mayCall c, fun _ _ => True, after⟩

def first : ResetCall → ResetStage
  | .forgotPassword _ => .ended
  | .verifyPasswordResetOtp _ _ => .arrived
  | .resetPassword _ _ => .unread

end ResetStage

open ResetStage

variable {S : OtpSettings} {c : ResetCall} {g : ResetStage}

theorem may_of_harmless {s : Stmt (otpService S)} (hg : g ≠ .unread) (h : Harmless s) :
    mayCall c g s := by
  have hmay : g.may s := by
    cases g with
    | unread => exact absurd rfl hg
    | arrived | read | correct | found => exact .inl h
    | issued | changed | ended => exact h
  cases c with
  | resetPassword token password =>
    cases g with
    | unread => exact absurd rfl hg
    | _ => exact hmay
  | _ => exact hmay

theorem harmless_after {s : Stmt (otpService S)} (h : Harmless s) (r : Except Err s.Ans)
    (e : ResetEntry) (w : World (otpService S) ResetCall) :
    g.after s r = g ∧ e.after w s r = e := by
  cases s with
  | aux a =>
    cases a with
    | auth a =>
      cases a with
      | setPasswordResetToken token email | getPasswordResetToken token => exact h.elim
      | _ => cases g <;> exact ⟨rfl, rfl⟩
    | getOtp id | bcryptCompare otp hash => exact h.elim
    | _ => cases g <;> exact ⟨rfl, rfl⟩
  | sql n q =>
    cases n with
    | some n => exact h.elim
    | none =>
      cases q with
      | auth q =>
        cases q with
        | findUserByEmail email => cases g <;> exact ⟨rfl, rfl⟩
        | _ => exact h.elim
      | _ => exact h.elim
  | _ => exact h.elim

theorem still_harmless {a : Aux} (hg : g ≠ .unread) (h : Harmless (S := S) (.aux a)) :
    Still (ledger (S := S) c) g (perform a) :=
  still_issue (may_of_harmless hg h) fun r =>
    (harmless_after h r ⟨none, false, false⟩ ⟨⟨[]⟩, [], .init 0⟩).1

theorem still_harmless_limitRate (hg : g ≠ .unread) (email : String) :
    Still (ledger (S := S) c) g (limitRate email) :=
  still_limitRate (still_harmless hg trivial) (still_harmless hg trivial)
    (still_harmless hg trivial)

theorem still_storeOtp (hg : g ≠ .unread) (email otp : String) (ttl : ℕ+) :
    Still (ledger (S := S) c) g (storeOtp email otp ttl) := by
  refine Still.bind (still_harmless_limitRate hg email) (fun _ => rfl) fun _ => ?_
  refine Still.bind (still_harmless hg trivial) (fun _ => rfl) fun sessionId => ?_
  refine Still.bind (still_harmless hg trivial) (fun _ => rfl) fun hash => ?_
  refine Still.bind (still_harmless hg trivial) (fun _ => rfl) fun _ => ?_
  exact Still.bind (still_harmless hg trivial) (fun _ => rfl) fun _ => rfl

theorem still_replaceOtp (hg : g ≠ .unread) (sessionId : Id) (email otp : String) (ttl : ℕ+) :
    Still (ledger (S := S) c) g (replaceOtp sessionId email otp ttl) := by
  refine Still.bind (still_harmless_limitRate hg email) (fun _ => rfl) fun _ => ?_
  refine Still.bind (still_harmless hg trivial) (fun _ => rfl) fun hash => ?_
  refine Still.bind (still_harmless hg trivial) (fun _ => rfl) fun _ => ?_
  exact Still.bind (still_harmless hg trivial) (fun _ => rfl) fun _ => still_harmless hg trivial

theorem still_harmless_publishOtp (hg : g ≠ .unread) {rollback : OtpCode S Unit}
    {email otp message : String} {purpose : OtpPurpose} {ttl : ℕ+}
    (h : Still (ledger c) g rollback) :
    Still (ledger c) g (publishOtp email otp purpose ttl message rollback) :=
  still_publishOtp (still_harmless hg trivial) (still_harmless hg trivial)
    (fun _ => still_harmless hg trivial) h

theorem still_forgotPassword (email : String) :
    Still (ledger (.forgotPassword email)) .ended (forgotPassword (S := S) email) := by
  have hg : ResetStage.ended ≠ .unread := nofun
  have hquery : Still (ledger (S := S) (.forgotPassword email)) .ended
      (auth S (requireUser email)) := by
    refine follows_auth_query trivial (fun user _ => ?_) fun _ _ => rfl
    cases user with
    | none => exact rfl
    | some user => exact rfl
  refine Still.bind hquery (fun _ => rfl) fun user => ?_
  refine Still.bind (still_harmless hg trivial) (fun _ => rfl) fun existing => ?_
  refine Still.bind (still_harmless hg trivial) (fun _ => rfl) fun otp => ?_
  have hrollback : ∀ {keys : List Key}, Still (ledger (S := S) (.forgotPassword email)) .ended
      (perform (.del keys)) := still_harmless hg trivial
  cases existing with
  | some sessionId =>
    refine Still.bind (Still.bind (still_replaceOtp hg _ _ _ _) (fun _ => rfl) fun _ =>
      Still.bind (still_harmless hg trivial) (fun _ => rfl) fun _ => rfl) (fun _ => rfl) fun id => ?_
    refine Still.bind (still_harmless_publishOtp hg ?_) (fun _ => rfl) fun _ => rfl
    exact rfl
  | none =>
    refine Still.bind (Still.bind (still_storeOtp hg _ _ _) (fun _ => rfl) fun id =>
      Still.bind (still_harmless hg trivial) (fun _ => rfl) fun _ => rfl) (fun _ => rfl) fun id => ?_
    refine Still.bind (still_harmless_publishOtp hg ?_) (fun _ => rfl) fun _ => rfl
    exact Still.bind hrollback (fun _ => rfl) fun _ => hrollback

theorem follows_verifyOtp_correct {sessionId id : Id} (otp guess : String) :
    Follows (ledger (S := S) (.verifyPasswordResetOtp id guess)) (fun _ g => g = .correct)
      (fun _ _ => True) (verifyOtp sessionId otp) .arrived := by
  have hread : ResetStage.read ≠ .unread := nofun
  have hcorrect : ResetStage.correct ≠ .unread := nofun
  refine follows_seq (.inr ⟨_, rfl⟩) (fun found _ => ?_) fun _ _ => trivial
  cases found with
  | none => exact trivial
  | some hash =>
    have hcounted : Still (ledger (S := S) (.verifyPasswordResetOtp id guess)) .read
        (perform (.incrAttempts sessionId)) := still_harmless hread trivial
    refine hcounted.bind (fun _ => trivial) fun attempts => ?_
    have haligned : Still (ledger (S := S) (.verifyPasswordResetOtp id guess)) .read
        (alignAttempts sessionId attempts) :=
      still_alignAttempts attempts (still_harmless hread trivial) fun _ =>
        still_harmless hread trivial
    refine Still.bind haligned (fun _ => trivial) fun _ => ?_
    split
    · exact Still.bind (still_harmless hread trivial) (fun _ => trivial) fun _ => trivial
    · refine follows_seq (.inr ⟨_, _, rfl⟩) (fun isValid _ => ?_) fun _ _ => trivial
      cases isValid with
      | false => exact trivial
      | true =>
        have hcleared : Still (ledger (S := S) (.verifyPasswordResetOtp id guess)) .correct
            (perform (.del [.otpAttempts sessionId])) := still_harmless hcorrect trivial
        exact hcleared.bind (fun _ => trivial) fun _ => rfl

theorem follows_verifyPasswordResetOtp (sessionId : Id) (otp : String) :
    Follows (ledger (S := S) (.verifyPasswordResetOtp sessionId otp)) (fun _ _ => True)
      (fun _ _ => True) (verifyPasswordResetOtp sessionId otp) .arrived := by
  have harrived : ResetStage.arrived ≠ .unread := nofun
  have hissued : ResetStage.issued ≠ .unread := nofun
  refine Still.bind (still_harmless harrived trivial) (fun _ => trivial) fun email => ?_
  cases email with
  | none => exact trivial
  | some email =>
    refine (follows_verifyOtp_correct otp otp).bind ?_
    rintro isValid _ rfl
    have hissue : Follows (ledger (S := S) (.verifyPasswordResetOtp sessionId otp))
        (fun _ g => g = .issued) (fun _ _ => True) (auth S (issuePasswordResetToken email))
        .correct := by
      refine follows_auth (.inl trivial) (fun token _ => ?_) fun _ _ => trivial
      exact follows_auth (.inr ⟨_, _, rfl⟩) (fun _ _ => rfl) fun _ _ => trivial
    refine hissue.bind ?_
    rintro token _ rfl
    refine Still.bind (still_harmless hissued trivial) (fun _ => trivial) fun _ => ?_
    exact Still.bind (still_harmless hissued trivial) (fun _ => trivial) fun _ => trivial

theorem still_logoutAll {token : Id} {password : String} (userId : Id) :
    Still (ledger (S := S) (.resetPassword token password)) .changed
      (auth S (logoutAll userId)) := by
  refine follows_auth trivial (fun sessions _ => ?_) fun _ _ => rfl
  have hcleared : Still (ledger (S := S) (.resetPassword token password)) .changed
      (auth S (UserService.perform (.delUserSessions userId))) :=
    follows_auth_issue trivial (fun _ _ => rfl) fun _ _ => rfl
  split
  · exact follows_auth trivial (fun _ _ => hcleared) fun _ _ => rfl
  · exact hcleared

theorem follows_resetPassword (token : Id) (password : String) :
    Follows (ledger (S := S) (.resetPassword token password)) (fun _ _ => True) (fun _ _ => True)
      (auth S (resetPassword S.toSettings token password)) .unread := by
  refine follows_auth rfl (fun email _ => ?_) fun _ _ => trivial
  cases email with
  | none => exact trivial
  | some email =>
    have hfound : ResetStage.found ≠ .unread := nofun
    have huser : Follows (ledger (S := S) (.resetPassword token password))
        (fun _ g => g = .found) (fun _ _ => True) (auth S (requireUser email)) .found := by
      refine follows_auth_query (.inl trivial) (fun user _ => ?_) fun _ _ => trivial
      cases user with
      | none => exact trivial
      | some user => exact rfl
    refine follows_auth_bind huser ?_
    rintro user _ rfl
    refine follows_auth (.inl trivial) (fun salt _ => ?_) fun _ _ => trivial
    refine follows_auth_query (.inr ⟨_, _, rfl⟩) (fun _ _ => ?_) fun _ _ => trivial
    have hrevoked : Follows (ledger (S := S) (.resetPassword token password))
        (fun _ g => g = .changed) (fun _ _ => True) (auth S (logoutAll user.id)) .changed :=
      (still_logoutAll user.id).mono (fun _ _ h => h) fun _ _ _ => trivial
    refine follows_auth_bind hrevoked ?_
    rintro _ _ rfl
    exact follows_auth trivial (fun _ _ => trivial) fun _ _ => trivial

theorem follows_resetBody (c : ResetCall) :
    Follows (ledger (S := S) c) (fun _ _ => True) (fun _ _ => True) (resetBody S c) (first c) := by
  cases c with
  | forgotPassword email =>
    exact Still.bind (still_forgotPassword email) (fun _ => trivial) fun _ => trivial
  | verifyPasswordResetOtp sessionId otp =>
    exact (follows_verifyPasswordResetOtp sessionId otp).bind fun _ _ _ => trivial
  | resetPassword token password =>
    exact (follows_resetPassword token password).bind fun _ _ _ => trivial

end Stages

end RailwayBooking.UserService.Otp
