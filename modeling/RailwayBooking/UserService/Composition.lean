import RailwayBooking.UserService.Operations

namespace RailwayBooking.UserService

open Concurrency

def Aux.Plain : Aux → Prop
  | .setSession .. | .delUserSessions _ => False
  | .multi _ session userId => session.userId = userId
  | _ => True

/-- A property of code that passes from the parts to the whole, and that statements and plain
operations have. -/
structure Composes (P : (α : Type) → UserCode α → Prop) : Prop where
  pure : ∀ {α : Type} (a : α), P α (.ret a)
  raise : ∀ {α : Type} (e : Err), P α (.raise e)
  handle : ∀ {α β : Type} {p : UserCode α} {f : α → UserCode β} {g : Err → UserCode β},
    P α p → (∀ a, P β (f a)) → (∀ e, P β (g e)) → P β (p.handle f g)
  perform : ∀ a : Aux, a.Plain → P (AuxAns a) (perform a)
  query : ∀ q : Sql, P (Rows q) (query q)

namespace Composes

variable {P : (α : Type) → UserCode α → Prop} {α β : Type}

theorem bind (h : Composes P) {p : UserCode α} {f : α → UserCode β} (hp : P α p)
    (hf : ∀ a, P β (f a)) : P β (p >>= f) :=
  h.handle hp hf h.raise

theorem attempt (h : Composes P) (a : Aux) (ha : a.Plain) (x : AuxAns a) :
    P (AuxAns a) ((UserService.perform a).attempt (fun _ => .ret x)) :=
  h.handle (h.perform a ha) h.pure fun _ => h.pure _

theorem each (h : Composes P) {xs : List β} {f : β → UserCode Unit} (hf : ∀ x, P Unit (f x)) :
    P Unit (Program.each xs f) := by
  induction xs with
  | nil => exact h.pure ()
  | cons x xs ih => exact h.handle (hf x) (fun _ => ih) h.raise

variable (h : Composes P) (S : Settings)

include h

theorem generateAccessToken (userId sessionId : Id) (email : String) :
    P _ (generateAccessToken userId sessionId email) :=
  h.bind (h.perform .now trivial) fun _ => h.pure _

theorem generateRefreshToken (userId sessionId : Id) :
    P _ (generateRefreshToken S userId sessionId) :=
  h.bind (h.perform .now trivial) fun _ => h.pure _

theorem verifyRefreshToken (refreshToken : Jwt) : P _ (verifyRefreshToken refreshToken) := by
  cases refreshToken with
  | other => exact h.pure _
  | refresh token => exact h.bind (h.perform .now trivial) fun _ => h.pure _

theorem createAuthSession (userId sessionId : Id) (token : RefreshToken) (fingerprint : String)
    (ipAddress userAgent : Option String) :
    P _ (createAuthSession S userId sessionId token fingerprint ipAddress userAgent) := by
  refine h.bind (h.perform .now trivial) fun _ => h.bind (h.perform .now trivial) fun _ =>
    h.bind (h.perform .now trivial) fun _ => h.bind (h.perform (.multi ..) rfl) fun results => ?_
  cases results with
  | none => exact h.raise _
  | some results =>
    dsimp only
    split
    · exact h.bind (h.attempt (.delSessions _) trivial ()) fun _ =>
        h.bind (h.attempt (.srem ..) trivial ()) fun _ => h.raise _
    · exact h.pure _

theorem requireUser (email : String) : P _ (requireUser email) := by
  refine h.bind (h.query _) fun user => ?_
  cases user with
  | none => exact h.raise _
  | some user => exact h.pure _

theorem login (email password fingerprint : String) (ipAddress userAgent : Option String) :
    P _ (login S email password fingerprint ipAddress userAgent) := by
  refine h.bind (h.requireUser email) fun user => ?_
  split
  · exact h.raise _
  · refine h.bind (h.perform .randomUUID trivial) fun _ =>
      h.bind (h.generateAccessToken _ _ _) fun _ => h.bind (h.generateRefreshToken S _ _) fun _ => ?_
    exact h.bind (h.createAuthSession S _ _ _ _ _ _) fun _ =>
      h.bind (h.perform .randomUUID trivial) fun _ => h.bind (h.perform .now trivial) fun _ =>
        h.bind (h.attempt (.publishUserLoggedIn _) trivial ()) fun _ => h.pure _

theorem logout (sessionId userId : Id) : P _ (logout sessionId userId) :=
  h.bind (h.perform (.delSessions _) trivial) fun _ => h.perform (.srem ..) trivial

theorem logoutAll (hdel : ∀ userId, P Unit (UserService.perform (.delUserSessions userId)))
    (userId : Id) : P _ (logoutAll userId) := by
  refine h.bind (h.perform (.smembers _) trivial) fun sessions => ?_
  split
  · exact h.bind (h.perform (.delSessions _) trivial) fun _ => hdel userId
  · exact hdel userId

theorem getAll (ids : List Id) : P _ (getAll ids) := by
  induction ids with
  | nil => exact h.pure _
  | cons id ids ih =>
    refine h.bind (h.handle (h.perform (.getSession id) trivial) (fun _ => h.pure _)
      fun _ => h.pure _) fun data => h.bind ih fun rest => ?_
    cases data with
    | ok data => exact h.pure _
    | error e => exact h.pure _

theorem getSessions (userId : Id) : P _ (getSessions userId) := by
  refine h.bind (h.perform (.smembers _) trivial) fun _ => h.bind (h.getAll _) fun rest =>
    h.bind (h.each fun _ => h.attempt (.srem ..) trivial ()) fun _ => ?_
  cases rest.2 with
  | none => exact h.pure _
  | some e => exact h.raise _

theorem revokeSession (sessionId userId : Id) : P _ (revokeSession sessionId userId) := by
  refine h.bind (h.perform (.getSession _) trivial) fun session => ?_
  cases session with
  | none => exact h.pure _
  | some session =>
    dsimp only
    split
    · exact h.raise _
    · exact h.logout _ _

theorem byRefreshToken {revoke : RefreshToken → UserCode Unit} (hr : ∀ token, P _ (revoke token))
    (refreshToken : Option Jwt) : P _ (byRefreshToken revoke refreshToken) := by
  cases refreshToken with
  | none => exact h.pure _
  | some refreshToken =>
    refine h.bind (h.verifyRefreshToken refreshToken) fun decoded => ?_
    cases decoded with
    | none => exact h.pure _
    | some decoded =>
      exact h.handle (h.bind (hr decoded) fun _ => h.pure _) h.pure fun _ => h.pure _

theorem issuePasswordResetToken (email : String) : P _ (issuePasswordResetToken email) :=
  h.bind (h.perform .randomUUID trivial) fun _ =>
    h.bind (h.perform (.setPasswordResetToken ..) trivial) fun _ => h.pure _

theorem resetPassword (hall : ∀ userId, P _ (UserService.logoutAll userId))
    (passwordResetToken : Id) (password : String) :
    P _ (resetPassword S passwordResetToken password) := by
  refine h.bind (h.perform (.getPasswordResetToken _) trivial) fun email => ?_
  cases email with
  | none => exact h.raise _
  | some email =>
    exact h.bind (h.requireUser email) fun user => h.bind (h.perform .randomUUID trivial) fun _ =>
      h.bind (h.query _) fun _ => h.bind (hall user.id) fun _ =>
        h.bind (h.perform (.delPasswordResetToken _) trivial) fun _ => h.pure _

section WriteBack

variable (hset : ∀ id session, P Unit (UserService.perform (.setSession id session)))

include hset

theorem sessionMiddleware (user : Option RequestUser) : P _ (sessionMiddleware user) := by
  unfold UserService.sessionMiddleware
  split
  · refine h.bind (h.perform (.getSession _) trivial) fun session => ?_
    cases session with
    | none => exact h.raise _
    | some session =>
      exact h.bind (h.perform .now trivial) fun _ => h.bind (hset _ _) fun _ =>
        h.perform (.expire _) trivial
  · exact h.raise _

theorem refresh (hall : ∀ userId, P _ (UserService.logoutAll userId)) (refreshToken : Jwt)
    (fingerprint : String) : P _ (refresh S refreshToken fingerprint) := by
  refine h.handle (h.bind (h.verifyRefreshToken refreshToken) fun decoded => ?_) h.pure fun e => ?_
  · cases decoded with
    | none => exact h.raise _
    | some decoded =>
      refine h.bind (h.perform (.getSession _) trivial) fun session => ?_
      cases session with
      | none => exact h.raise _
      | some session =>
        dsimp only
        split
        · exact h.bind (h.logout _ _) fun _ => h.raise _
        split
        · exact h.bind (hall _) fun _ => h.raise _
        refine h.bind (h.query _) fun user => ?_
        cases user with
        | none => exact h.raise _
        | some user =>
          exact h.bind (h.generateAccessToken _ _ _) fun _ =>
            h.bind (h.generateRefreshToken S _ _) fun _ => h.bind (h.perform .now trivial) fun _ =>
              h.bind (hset _ _) fun _ => h.bind (h.perform (.expire _) trivial) fun _ => h.pure _
  · cases e with
    | _ => exact h.raise _

end WriteBack

end Composes

end RailwayBooking.UserService
