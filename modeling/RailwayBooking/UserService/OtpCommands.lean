import RailwayBooking.UserService.Commands
import RailwayBooking.UserService.OtpService

namespace RailwayBooking.UserService.Otp

open Concurrency

variable {S : OtpSettings} {e e' f : Env} {i : Nat} {ch : Choice String}

theorem Env.command_cases {α : Type} {x : α} {r : Except Err α}
    (h : some (e.command f x ch) = some (r, e')) :
    (r = .ok x ∧ e' = f) ∨ (∃ err, r = .error err) ∧ (e' = e ∨ e' = f) := by
  cases ch with
  | fault =>
    cases h
    exact .inr ⟨⟨_, rfl⟩, .inl rfl⟩
  | lost =>
    cases h
    exact .inr ⟨⟨_, rfl⟩, .inr rfl⟩
  | ok | reply =>
    cases h
    exact .inl ⟨rfl, rfl⟩

theorem Env.command_env {α : Type} {x : α} {r : Except Err α}
    (h : some (e.command f x ch) = some (r, e')) : e' = e ∨ e' = f := by
  obtain ⟨-, rfl⟩ | ⟨-, h⟩ := Env.command_cases h
  · exact .inr rfl
  · exact h

theorem Env.command_read {α : Type} {x : α} {r : Except Err α}
    (h : some (e.command e x ch) = some (r, e')) : e' = e ∧ ∀ y, r = .ok y → y = x := by
  obtain ⟨rfl, rfl⟩ | ⟨⟨err, rfl⟩, henv⟩ := Env.command_cases h
  · exact ⟨rfl, fun y hy => (Except.ok.inj hy).symm⟩
  · exact ⟨or_self_iff.mp henv, nofun⟩

/-- What the operations of the session service leave. -/
structure Env.Aside (e e' : Env) : Prop where
  now : e'.now = e.now
  otp : e'.otp = e.otp
  otpAttempts : e'.otpAttempts = e.otpAttempts
  registrationSession : e'.registrationSession = e.registrationSession
  otpWriter : e'.otpWriter = e.otpWriter
  dataWriter : e'.dataWriter = e.dataWriter

theorem Env.Aside.refl (e : Env) : e.Aside e := ⟨rfl, rfl, rfl, rfl, rfl, rfl⟩

theorem auth_now {auth auth' : UserService.Env} {a : UserService.Aux} {ch : Choice Empty}
    {r : Except UserService.Err (UserService.AuxAns a)}
    (h : UserService.ask auth i a ch = some (r, auth')) : auth'.now = auth.now := by
  obtain rfl | rfl | rfl := UserService.Env.ask_after h
  · exact UserService.Env.after_now
  · rfl
  · exact UserService.Env.after_now (e := auth) (a := a)

/-- What the session service answers is passed on, but for the two operations that are also
put on record. -/
theorem ask_session {a : UserService.Aux} {r : Except Err (UserService.AuxAns a)}
    (h : ask S e i (.auth a) ch = some (r, e'))
    (ha : (∀ sessionId session userId, a ≠ .multi sessionId session userId) ∧
      ∀ token email, a ≠ .setPasswordResetToken token email) :
    ∃ r' auth', UserService.ask e.auth i a (plain ch) = some (r', auth') ∧
      e' = { e with auth := auth' } ∧ ∀ x, r = .ok x → r' = .ok x := by
  cases a with
  | multi sessionId session userId => exact absurd rfl (ha.1 sessionId session userId)
  | setPasswordResetToken token email => exact absurd rfl (ha.2 token email)
  | _ =>
    simp only [ask, Option.map_eq_some_iff] at h
    obtain ⟨⟨r', auth'⟩, hask, heq⟩ := h
    cases r' with
    | ok x =>
      cases heq
      exact ⟨_, auth', hask, rfl, fun y hy => by rw [Except.ok.inj hy]⟩
    | error x =>
      cases heq
      refine ⟨_, auth', hask, rfl, fun y hy => ?_⟩
      cases hy

/-- An operation of the session service leaves the one-time passwords, and stores reset tokens
in one way only. -/
theorem ask_auth {a : UserService.Aux} {r : Except Err (UserService.AuxAns a)}
    (h : ask S e i (.auth a) ch = some (r, e')) : e.Aside e' ∧
      (e'.resetTokens = e.resetTokens ∨ ∃ token email, a = .setPasswordResetToken token email ∧
        e'.resetTokens = (token, i) :: e.resetTokens) := by
  cases a with
  | multi sessionId session userId =>
    obtain rfl | rfl := Env.command_env h
    · exact ⟨.refl _, .inl rfl⟩
    · exact ⟨⟨rfl, rfl, rfl, rfl, rfl, rfl⟩, .inl rfl⟩
  | setPasswordResetToken token email =>
    obtain rfl | rfl := Env.command_env h
    · exact ⟨.refl _, .inl rfl⟩
    · exact ⟨⟨rfl, rfl, rfl, rfl, rfl, rfl⟩, .inr ⟨token, email, rfl, rfl⟩⟩
  | _ =>
    obtain ⟨r', auth', hask, rfl, -⟩ := ask_session h ⟨nofun, nofun⟩
    exact ⟨⟨auth_now hask, rfl, rfl, rfl, rfl, rfl⟩, .inl rfl⟩

theorem ask_aside {a : Aux} {r : Except Err (AuxAns a)} (h : ask S e i a ch = some (r, e'))
    (ha : (∀ sessionId hash ttl, a ≠ .setOtp sessionId hash ttl) ∧
      (∀ sessionId, a ≠ .incrAttempts sessionId) ∧
      (∀ sessionId ttl, a ≠ .expireAttempts sessionId ttl) ∧
      (∀ sessionId data ttl, a ≠ .setRegistrationSession sessionId data ttl) ∧
      ∀ keys, a ≠ .del keys) : e.Aside e' := by
  obtain ⟨hset, hincr, hexpire, hdata, hdel⟩ := ha
  cases a with
  | auth a => exact (ask_auth h).1
  | generateOtp =>
    cases ch with
    | reply otp =>
      cases h
      exact .refl _
    | ok | fault | lost => cases h
  | bcryptHash text | bcryptCompare text hash =>
    cases h
    exact ⟨rfl, rfl, rfl, rfl, rfl, rfl⟩
  | publishOtpRequested event =>
    cases ch <;> cases h <;> exact .refl _
  | setOtp sessionId hash ttl => exact absurd rfl (hset sessionId hash ttl)
  | incrAttempts sessionId => exact absurd rfl (hincr sessionId)
  | expireAttempts sessionId ttl => exact absurd rfl (hexpire sessionId ttl)
  | setRegistrationSession sessionId data ttl => exact absurd rfl (hdata sessionId data ttl)
  | del keys => exact absurd rfl (hdel keys)
  | _ =>
    obtain rfl | rfl := Env.command_env h
    · exact .refl _
    · exact ⟨rfl, rfl, rfl, rfl, rfl, rfl⟩

theorem ask_resetTokens {a : Aux} {r : Except Err (AuxAns a)} (h : ask S e i a ch = some (r, e')) :
    e'.resetTokens = e.resetTokens ∨ ∃ token email, a = .auth (.setPasswordResetToken token email) ∧
      e'.resetTokens = (token, i) :: e.resetTokens := by
  cases a with
  | auth a =>
    obtain ⟨-, hsame | ⟨token, email, rfl, hnew⟩⟩ := ask_auth h
    · exact .inl hsame
    · exact .inr ⟨token, email, rfl, hnew⟩
  | generateOtp =>
    cases ch with
    | reply otp =>
      cases h
      exact .inl rfl
    | ok | fault | lost => cases h
  | bcryptHash text | bcryptCompare text hash =>
    cases h
    exact .inl rfl
  | publishOtpRequested event => cases ch <;> cases h <;> exact .inl rfl
  | _ => obtain rfl | rfl := Env.command_env h <;> exact .inl rfl

section Auth

variable {G : Type} {L : Ledger (otpService S) G} {g : G} {α : Type} {Q : α → G → Prop}
  {X : Err → G → Prop}

theorem follows_auth {a : UserService.Aux} {f : UserService.AuxAns a → UserCode α}
    (hmay : L.may g (.aux (.auth a)))
    (hok : ∀ x, L.can (.aux (.auth a)) (.ok x) →
      Follows L Q X (auth S (f x)) (L.after g (.aux (.auth a)) (.ok x)))
    (herr : ∀ err, L.can (.aux (.auth a)) (.error err) →
      X (.auth err.toAuth) (L.after g (.aux (.auth a)) (.error err))) :
    Follows L Q X (auth S (UserService.perform a >>= f)) g := by
  refine ⟨hmay, fun r hr => ?_⟩
  cases r with
  | ok x => exact hok x hr
  | error err => exact herr err hr

theorem follows_auth_query {q : UserService.Sql} {f : UserService.Rows q → UserCode α}
    (hmay : L.may g (.sql none (.auth q)))
    (hok : ∀ x, L.can (.sql none (.auth q)) (.ok x) →
      Follows L Q X (auth S (f x)) (L.after g (.sql none (.auth q)) (.ok x)))
    (herr : ∀ err, L.can (.sql none (.auth q)) (.error err) →
      X (.auth err.toAuth) (L.after g (.sql none (.auth q)) (.error err))) :
    Follows L Q X (auth S (UserService.query q >>= f)) g := by
  refine ⟨hmay, fun r hr => ?_⟩
  cases r with
  | ok x => exact hok x hr
  | error err => exact herr err hr

theorem follows_auth_bind {β : Type} {p : UserCode β} {f : β → UserCode α} {Q' : β → G → Prop}
    (h : Follows L Q' X (auth S p) g) (hf : ∀ b g, Q' b g → Follows L Q X (auth S (f b)) g) :
    Follows L Q X (auth S (p >>= f)) g := by
  have hbind : auth S (p >>= f) = auth S p >>= fun b => auth S (f b) :=
    (sessionOperations S).lift_bind p f
  rw [hbind]
  exact h.bind hf

theorem follows_auth_issue {a : UserService.Aux} {Q : UserService.AuxAns a → G → Prop}
    (hmay : L.may g (.aux (.auth a)))
    (hok : ∀ x, L.can (.aux (.auth a)) (.ok x) → Q x (L.after g (.aux (.auth a)) (.ok x)))
    (herr : ∀ err, L.can (.aux (.auth a)) (.error err) →
      X (.auth err.toAuth) (L.after g (.aux (.auth a)) (.error err))) :
    Follows L Q X (auth S (UserService.perform a)) g :=
  (sessionOperations S).follows_lift_issue hmay hok herr

end Auth

section Helpers

variable {G : Type} {L : Ledger (otpService S) G} {g : G}

theorem still_limitRate {email : String} (hincr : Still L g (perform (.incrRate email)))
    (httl : Still L g (perform (.ttlRate email)))
    (hexpire : Still L g (perform (.expireRate email otpRateLimitWindow))) :
    Still L g (limitRate email) := by
  have hensure : Still L g (ensureRateTtl email) := by
    refine Still.bind httl (fun _ => rfl) fun ttl => ?_
    split
    · exact hexpire
    · exact rfl
  refine Still.bind hincr (fun _ => rfl) fun count => ?_
  refine Still.bind hensure (fun _ => rfl) fun _ => ?_
  split
  · exact rfl
  · exact rfl

theorem still_alignAttempts {sessionId : Id} (attempts : Nat)
    (httl : Still L g (perform (.ttlOtp sessionId)))
    (hexpire : ∀ seconds, Still L g (perform (.expireAttempts sessionId seconds))) :
    Still L g (alignAttempts sessionId attempts) := by
  unfold alignAttempts
  split
  · exact Still.bind httl (fun _ => rfl) fun ttl => hexpire _
  · exact rfl

theorem still_publishOtp {rollback : OtpCode S Unit} {email otp message : String}
    {purpose : OtpPurpose} {ttl : ℕ+} (huuid : Still L g (perform (.auth .randomUUID)))
    (hnow : Still L g (perform (.auth .now)))
    (hpublish : ∀ event, Still L g (perform (.publishOtpRequested event)))
    (hrollback : Still L g rollback) :
    Still L g (publishOtp email otp purpose ttl message rollback) := by
  refine Still.bind huuid (fun _ => rfl) fun eventId => ?_
  refine Still.bind hnow (fun _ => rfl) fun createdAt => ?_
  refine Still.attempt (hpublish _) fun _ => ?_
  exact Still.bind hrollback (fun _ => rfl) fun _ => rfl

end Helpers

end RailwayBooking.UserService.Otp
