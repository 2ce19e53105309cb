import RailwayBooking.Concurrency.Journal
import RailwayBooking.UserService.RevokedSessions

namespace RailwayBooking.UserService

open Concurrency

section Records

variable (S : Settings)

/-- Of the sessions stored before, a record is left as it is, or gone, or has the hash of a
token that is issued later than the one it had before. -/
structure Env.Onward (e e' : Env) : Prop where
  stored : ∀ id ∈ e.stored.map Prod.fst, id ∈ e'.stored.map Prod.fst
  records : ∀ id ∈ e.stored.map Prod.fst, ∀ session', e'.session id = some session' →
    ∃ session, e.session id = some session ∧
      (session'.refreshTokenHash = session.refreshTokenHash ∨ ∃ token token' : RefreshToken,
        session.refreshTokenHash = S.sha256 token ∧ session'.refreshTokenHash = S.sha256 token' ∧
          token.iat < token'.iat)
  fresh : ∀ id, e'.session id ≠ none → e.session id ≠ none ∨ id ∈ e'.stored.map Prod.fst

namespace Env.Onward

variable {S} {e e' : Env} {sessionId userId : Id} {session : SessionRecord}

theorem refl (e : Env) : e.Onward S e :=
  ⟨fun _ h => h, fun _ _ session h => ⟨session, h, .inl rfl⟩, fun _ h => .inl h⟩

theorem failed (h : e.Onward S e') : e.Onward S { e' with failed := true } :=
  ⟨h.stored, h.records, h.fresh⟩

theorem of_sessions (hs : e'.stored = e.stored)
    (h : ∀ id session, e'.session id = some session → e.session id = some session) :
    e.Onward S e' := by
  refine ⟨fun id hid => hs ▸ hid, fun id _ session hid => ⟨session, h id session hid, .inl rfl⟩,
    fun id hid => ?_⟩
  obtain ⟨session, hsession⟩ := Option.ne_none_iff_exists'.mp hid
  exact .inl (by rw [h id session hsession]; exact Option.some_ne_none session)

theorem tick (d : Nat) : e.Onward S { e with now := e.now + d } :=
  of_sessions rfl fun _ _ => Redis.Store.get_earlier (Nat.le_add_right _ _)

theorem delSessions (ids : List Id) : e.Onward S (e.delSessions ids) := by
  refine of_sessions rfl fun id session hid => ?_
  change (e.sessions.delAll ids).get e.now id = some session at hid
  rw [Redis.Store.get_delAll] at hid
  split at hid
  · cases hid
  · exact hid

theorem store (h : sessionId ∉ e.stored.map Prod.fst) :
    e.Onward S (e.store sessionId session userId) := by
  have hother : ∀ id, id ≠ sessionId → (e.store sessionId session userId).session id =
      e.session id := fun id hne => Redis.Store.get_set_ne e.sessions e.now session _ hne
  refine ⟨fun id hid => List.mem_cons_of_mem _ hid, fun id hid session' h' => ?_, fun id h' => ?_⟩
  · have hne : id ≠ sessionId := by
      rintro rfl
      exact h hid
    rw [hother id hne] at h'
    exact ⟨session', h', .inl rfl⟩
  · by_cases hne : id = sessionId
    · subst hne
      exact .inr List.mem_cons_self
    · rw [hother id hne] at h'
      exact .inl h'

theorem write {cur : SessionRecord} (hcur : e.session sessionId = some cur)
    (h : session.refreshTokenHash = cur.refreshTokenHash ∨ ∃ token token' : RefreshToken,
      cur.refreshTokenHash = S.sha256 token ∧ session.refreshTokenHash = S.sha256 token' ∧
        token.iat < token'.iat) : e.Onward S (e.write sessionId session) := by
  have hother : ∀ id, id ≠ sessionId → (e.write sessionId session).session id = e.session id :=
    fun id hne => Redis.Store.get_set_ne e.sessions e.now session _ hne
  refine ⟨fun id hid => hid, fun id _ session' h' => ?_, fun id h' => ?_⟩
  · by_cases hne : id = sessionId
    · subst hne
      have hself : (e.write id session).session id = some session :=
        (Redis.Store.get_set_same _ _ _ _ _).trans (if_pos (Nat.lt_add_of_pos_right (by decide)))
      obtain rfl := Option.some.inj (hself.symm.trans h')
      exact ⟨cur, hcur, h⟩
    · rw [hother id hne] at h'
      exact ⟨session', h', .inl rfl⟩
  · by_cases hne : id = sessionId
    · subst hne
      exact .inl (by rw [hcur]; exact Option.some_ne_none cur)
    · rw [hother id hne] at h'
      exact .inl h'

theorem ask {i : Nat} {a : Aux} {ch : Choice Empty} {r : Except Err (AuxAns a)}
    (h : ∀ id session, a = .setSession id session → e.Onward S (e.write id session))
    (hr : UserService.ask e i a ch = some (r, e')) : e.Onward S e' := by
  have hafter : e.Onward S (e.after a) := by
    cases a with
    | setSession id session => exact h id session rfl
    | multi id session userId => exact store (multi_new hr)
    | delSessions ids => exact delSessions ids
    | _ => exact ⟨fun _ h => h, fun _ _ session h => ⟨session, h, .inl rfl⟩, fun _ h => .inl h⟩
  obtain rfl | rfl | rfl := ask_after hr
  · exact hafter
  · exact (refl e).failed
  · exact hafter.failed

end Env.Onward

variable {S} {e e' : Env} {token : RefreshToken}

def Env.Used (S : Settings) (token : RefreshToken) (e : Env) : Prop :=
  token.sessionId ∈ e.stored.map Prod.fst ∧
    ∀ session, e.session token.sessionId = some session → ∃ token' : RefreshToken,
      session.refreshTokenHash = S.sha256 token' ∧ token.iat < token'.iat

theorem Env.Used.onward (hinj : Function.Injective S.sha256) (h : e.Used S token)
    (ho : e.Onward S e') : e'.Used S token := by
  obtain ⟨hstored, hlater⟩ := h
  refine ⟨ho.stored _ hstored, fun session' h' => ?_⟩
  obtain ⟨session, hsession, hsame | ⟨t, t', ht, ht', hlt⟩⟩ := ho.records _ hstored session' h'
  · obtain ⟨token', htoken', hlt⟩ := hlater session hsession
    exact ⟨token', hsame.trans htoken', hlt⟩
  · obtain ⟨token', htoken', hlt'⟩ := hlater session hsession
    obtain rfl := hinj (ht.symm.trans htoken')
    exact ⟨t', ht', hlt'.trans hlt⟩

theorem Env.Used.ne_sha256 (hinj : Function.Injective S.sha256) (h : e.Used S token)
    {session : SessionRecord} (hs : e.session token.sessionId = some session) :
    session.refreshTokenHash ≠ S.sha256 token := by
  intro heq
  obtain ⟨token', htoken', hlt⟩ := h.2 session hs
  obtain rfl := hinj (heq.symm.trans htoken')
  exact Nat.lt_irrefl _ hlt

end Records

/-- What a call has read of its session, how often it has asked for the time, and whether it
has written the session back. -/
structure SessionEntry where
  session : Option SessionRecord
  readings : Nat
  written : Bool
  deriving DecidableEq

def SessionEntry.after (e : SessionEntry) (_ : World userService Call) :
    (s : Stmt userService) → Except Err s.Ans → SessionEntry
  | .aux (.getSession _), .ok (some session) => { e with session := some session }
  | .aux .now, _ => { e with readings := e.readings + 1 }
  | .aux (.setSession _ _), .ok _ => { e with written := true }
  | _, _ => e

@[reducible] def sessionJournal (S : Settings) : Journal (machine S) :=
  ⟨SessionEntry, ⟨none, 0, false⟩, SessionEntry.after⟩

section Conditions

variable {S : Settings} (s : (sessionJournal S).State)

/-- No two calls have been answered with new tokens for the same refresh token. -/
def SingleUse : Prop :=
  ∀ (i j : Nat) (token : RefreshToken) (f f' : String) (r r' : AuthResponse),
    s.pool.threads[i]? = some ⟨.refresh (.refresh token) f, some (.ret (.authenticated r))⟩ →
    s.pool.threads[j]? = some ⟨.refresh (.refresh token) f', some (.ret (.authenticated r'))⟩ →
    i = j

def unrotated : Event (machine S) → Prop
  | .act (.run i _) => ∀ c id session k,
      s.pool.threads[i]? = some ⟨c, some (.call (.aux (.setSession id session)) k)⟩ →
      ∃ read cur, (s.entries i).session = some read ∧ s.pool.world.env.session id = some cur ∧
        cur.refreshTokenHash = read.refreshTokenHash
  | _ => True

/-- The third time that a refresh asks for is that of the new refresh token: the second in
which the token presented was issued is over. -/
def laterSecond : Event (machine S) → Prop
  | .act (.run i _) => ∀ (token : RefreshToken) f k,
      s.pool.threads[i]? = some ⟨.refresh (.refresh token) f, some (.call (.aux .now) k)⟩ →
      (s.entries i).readings = 2 → token.iat < s.pool.world.env.now / 1000
  | _ => True

def cleanRotation (a : Event (machine S)) : Prop := unrotated s a ∧ laterSecond s a

end Conditions

section Stages

/-- How far a refresh has come: the token is verified, the session is read, the access token
is signed, then the refresh token, and the session is written back. The middleware reads
the session and asks for the time once. -/
inductive RefreshStage
  | arrived
  | verified
  | read (session : SessionRecord)
  | granted (session : SessionRecord)
  | signed (session : SessionRecord) (second : Nat)
  | written
  | ended

namespace RefreshStage

def after : RefreshStage → (s : Stmt userService) → Except Err s.Ans → RefreshStage
  | .arrived, .aux .now, _ => .verified
  | .read session, .aux .now, _ => .granted session
  | .granted session, .aux .now, .ok ms => .signed session (ms / 1000)
  | _, .aux (.getSession _), .ok (some session) => .read session
  | _, .aux (.getSession _), _ => .ended
  | _, .aux (.setSession _ _), .ok _ => .written
  | _, .aux (.setSession _ _), .error _ => .ended
  | g, _, _ => g

/-- Statements that leave no trace in the entry. -/
def Quiet : Stmt userService → Prop
  | .aux .now | .aux (.getSession _) | .aux (.setSession _ _) => False
  | _ => True

def mayRefresh (S : Settings) (token : RefreshToken) : RefreshStage → Stmt userService → Prop
  | .arrived, s => s = .aux .now
  | .verified, s => s = .aux (.getSession token.sessionId)
  | .read session, s => Quiet s ∨ (s = .aux .now ∧ session.refreshTokenHash = S.sha256 token)
  | .granted _, s => s = .aux .now
  | .signed _ second, s => s = .aux .now ∨ ∃ (session' : SessionRecord) (token' : RefreshToken),
      s = .aux (.setSession token.sessionId session') ∧
        session'.refreshTokenHash = S.sha256 token' ∧ token'.iat = second
  | .written, s | .ended, s => Quiet s

def mayTouch : RefreshStage → Stmt userService → Prop
  | .arrived, s => ∃ id, s = .aux (.getSession id)
  | .read _, s => s = .aux .now
  | .granted session, s => ∃ (id : Id) (session' : SessionRecord),
      s = .aux (.setSession id session') ∧ session'.refreshTokenHash = session.refreshTokenHash
  | .written, s => Quiet s
  | _, _ => False

/-- The clock always answers. -/
def can : (s : Stmt userService) → Except Err s.Ans → Prop
  | .aux .now, .error _ => False
  | _, _ => True

def ledger (S : Settings) : Call → Ledger userService RefreshStage
  | .refresh (.refresh token) _ => ⟨mayRefresh S token, can, after⟩
  | .sessionMiddleware _ => ⟨mayTouch, can, after⟩
  | _ => ⟨fun _ s => ∀ id session, s ≠ .aux (.setSession id session), fun _ _ => True,
      fun g _ _ => g⟩

def Returns : Call → Out → RefreshStage → Prop
  | .refresh (.refresh _) _, _, g => g = .written
  | _, _, _ => True

end RefreshStage

open RefreshStage

variable {S : Settings} {token : RefreshToken} {fingerprint : String} {session : SessionRecord}

theorem still_quiet {g : RefreshStage} {a : Aux} (h : mayRefresh S token g (.aux a))
    (hq : Quiet (.aux a)) :
    Still (ledger S (.refresh (.refresh token) fingerprint)) g (perform a) := by
  refine still_issue h fun r => ?_
  cases a with
  | now | getSession id | setSession id session => exact hq.elim
  | _ => cases g <;> rfl

theorem still_logout (sessionId userId : Id) :
    Still (ledger S (.refresh (.refresh token) fingerprint)) (.read session)
      (logout sessionId userId) :=
  Still.bind (still_quiet (.inl trivial) trivial) (fun _ => rfl) fun _ =>
    still_quiet (.inl trivial) trivial

theorem still_logoutAll (userId : Id) :
    Still (ledger S (.refresh (.refresh token) fingerprint)) (.read session)
      (logoutAll userId) := by
  refine Still.bind (still_quiet (.inl trivial) trivial) (fun _ => rfl) fun ids => ?_
  change Still _ _ (if _ then _ else _)
  split
  · exact Still.bind (still_quiet (.inl trivial) trivial) (fun _ => rfl) fun _ =>
      still_quiet (.inl trivial) trivial
  · exact still_quiet (.inl trivial) trivial

theorem follows_read :
    Follows (ledger S (.refresh (.refresh token) fingerprint)) (fun _ g => g = .written)
      (fun _ _ => True)
      (if session.fingerprint ≠ fingerprint then do
        logout token.sessionId token.sub
        unauthorized .deviceFingerprintMismatch none
      else if session.refreshTokenHash ≠ S.sha256 token then do
        logoutAll token.sub
        unauthorized .invalidRefreshToken none
      else do
        let user ← query (.findById session.userId)
        match user with
        | none => unauthorized .invalidRefreshToken none
        | some user => do
          let accessToken ← generateAccessToken user.id token.sessionId user.email
          let newRefreshToken ← generateRefreshToken S user.id token.sessionId
          let lastUsedAt ← perform .now
          perform (.setSession token.sessionId
            { session with refreshTokenHash := S.sha256 newRefreshToken, lastUsedAt })
          perform (.expire token.sub)
          return toAuthResponseDto user accessToken newRefreshToken) (.read session) := by
  split
  · exact Still.bind (still_logout _ _) (fun _ => trivial) fun _ => trivial
  split
  · exact Still.bind (still_logoutAll _) (fun _ => trivial) fun _ => trivial
  next hhash =>
  refine follows_seq (.inl trivial) (fun user _ => ?_) fun _ _ => trivial
  cases user with
  | none => exact trivial
  | some user =>
    have hgranted : Follows (ledger S (.refresh (.refresh token) fingerprint))
        (fun _ (g : RefreshStage) => g = .granted session) (fun _ _ => True)
        (generateAccessToken user.id token.sessionId user.email) (.read session) :=
      follows_seq (.inr ⟨rfl, not_not.mp hhash⟩) (fun _ _ => rfl) fun _ _ => trivial
    refine hgranted.bind ?_
    rintro accessToken _ rfl
    have hsigned : Follows (ledger S (.refresh (.refresh token) fingerprint))
        (fun (new : RefreshToken) (g : RefreshStage) => g = .signed session new.iat)
        (fun _ _ => True) (generateRefreshToken S user.id token.sessionId) (.granted session) :=
      follows_seq rfl (fun _ _ => rfl) fun _ _ => trivial
    refine hsigned.bind ?_
    rintro new _ rfl
    refine follows_seq (.inl rfl) (fun lastUsedAt _ => ?_) fun _ _ => trivial
    refine follows_seq (.inr ⟨_, new, rfl, rfl, rfl⟩) (fun _ _ => ?_) fun _ _ => trivial
    exact follows_seq trivial (fun _ _ => rfl) fun _ _ => trivial

theorem follows_refresh :
    Follows (ledger S (.refresh (.refresh token) fingerprint)) (fun _ g => g = .written)
      (fun _ _ => True) (refresh S (.refresh token) fingerprint) .arrived := by
  have hverified : Follows (ledger S (.refresh (.refresh token) fingerprint))
      (fun decoded (g : RefreshStage) => g = .verified ∧ ∀ t, decoded = some t → t = token)
      (fun _ _ => True) (verifyRefreshToken (.refresh token)) .arrived := by
    refine follows_seq rfl (fun ms _ => ⟨rfl, fun t ht => ?_⟩) fun _ _ => trivial
    split at ht
    · exact (Option.some.inj ht).symm
    · cases ht
  have hrotated : Follows (ledger S (.refresh (.refresh token) fingerprint))
      (fun _ (g : RefreshStage) => g = .written) (fun _ _ => True)
      (rotate S (.refresh token) fingerprint) .arrived := by
    refine hverified.bind ?_
    rintro decoded _ ⟨rfl, hdecoded⟩
    cases decoded with
    | none => exact trivial
    | some t =>
      obtain rfl := hdecoded t rfl
      refine follows_seq rfl (fun found _ => ?_) fun _ _ => trivial
      cases found with
      | none => exact trivial
      | some session => exact follows_read
  refine hrotated.attempt fun e g _ => ?_
  cases e <;> exact trivial

theorem follows_sessionMiddleware (user : Option RequestUser) :
    Follows (ledger S (.sessionMiddleware user)) (fun _ _ => True) (fun _ _ => True)
      (sessionMiddleware user) .arrived := by
  unfold sessionMiddleware
  split
  · refine follows_seq ⟨_, rfl⟩ (fun found _ => ?_) fun _ _ => trivial
    cases found with
    | none => exact trivial
    | some session =>
      refine follows_seq rfl (fun lastUsedAt _ => ?_) fun _ _ => trivial
      refine follows_seq ⟨_, _, rfl, rfl⟩ (fun _ _ => ?_) fun _ _ => trivial
      exact follows_issue trivial (fun _ _ => trivial) fun _ _ => trivial
  · exact trivial

section Plain

variable {L : Ledger userService RefreshStage}
  (hmay : ∀ g s, (∀ id session, s ≠ .aux (.setSession id session)) → L.may g s)

include hmay

theorem composes_plain :
    Composes (fun _ p => ∀ g, Follows L (fun _ _ => True) (fun _ _ => True) p g) where
  pure _ _ := trivial
  raise _ _ := trivial
  handle hp hf hg g := (hp g).handle (fun a g' _ => hf a g') fun e g' _ => hg e g'
  perform a ha g := by
    refine follows_issue (hmay g _ ?_) (fun _ _ => trivial) fun _ _ => trivial
    rintro id session hs
    cases hs
    exact ha
  query q g := follows_issue (hmay g _ nofun) (fun _ _ => trivial) fun _ _ => trivial

theorem follows_logoutAll (userId : Id) (g : RefreshStage) :
    Follows L (fun _ _ => True) (fun _ _ => True) (logoutAll userId) g :=
  (composes_plain hmay).logoutAll (fun _ g => follows_issue (hmay g _ nofun) (fun _ _ => trivial)
    fun _ _ => trivial) userId g

end Plain

theorem follows_body (c : Call) :
    Follows (ledger S c) (Returns c) (fun _ _ => True) (body S c) .arrived := by
  have hplain : Composes (fun _ p => ∀ g, Follows (⟨fun _ s => ∀ id session,
      s ≠ .aux (.setSession id session), fun _ _ => True, fun g _ _ => g⟩ :
        Ledger userService RefreshStage) (fun _ _ => True) (fun _ _ => True) p g) :=
    composes_plain fun _ _ h => h
  cases c with
  | refresh refreshToken fingerprint =>
    cases refreshToken with
    | other => exact trivial
    | refresh token => exact follows_refresh.bind fun _ _ hg => hg
  | sessionMiddleware user =>
    exact (follows_sessionMiddleware user).bind fun _ _ _ => trivial
  | login email password fingerprint ipAddress userAgent =>
    exact (hplain.bind (hplain.login S _ _ _ _ _) fun _ => hplain.pure _) _
  | getSessions userId => exact (hplain.bind (hplain.getSessions _) fun _ => hplain.pure _) _
  | revokeSession sessionId userId =>
    exact (hplain.bind (hplain.revokeSession _ _) fun _ => hplain.pure _) _
  | logout refreshToken =>
    exact (hplain.bind (hplain.byRefreshToken (fun _ => hplain.logout _ _) _)
      fun _ => hplain.pure _) _
  | logoutAll refreshToken =>
    exact (hplain.bind (hplain.byRefreshToken (fun _ => follows_logoutAll (fun _ _ h => h) _) _)
      fun _ => hplain.pure _) _
  | issuePasswordResetToken email =>
    exact (hplain.bind (hplain.issuePasswordResetToken _) fun _ => hplain.pure _) _
  | resetPassword passwordResetToken password =>
    exact (hplain.bind (hplain.resetPassword S (follows_logoutAll fun _ _ h => h) _ _)
      fun _ => hplain.pure _) _

end Stages

section Steps

variable {S : Settings} {token : RefreshToken} {f : String} {i : Nat}
  {s s' : (sessionJournal S).State} {a : Event (machine S)} {g : RefreshStage}

def RefreshStage.Says (S : Settings) (token : RefreshToken) (e : SessionEntry) : RefreshStage → Prop
  | .arrived => e.readings = 0
  | .verified => e.readings = 1
  | .read session => e.session = some session ∧ e.readings = 1
  | .granted session => e.session = some session ∧
      session.refreshTokenHash = S.sha256 token ∧ e.readings = 2
  | .signed session second => e.session = some session ∧
      session.refreshTokenHash = S.sha256 token ∧ token.iat < second
  | .written => e.written = true
  | .ended => True

/-- What the stage of the middleware says of its entry. -/
def RefreshStage.Holds (e : SessionEntry) : RefreshStage → Prop
  | .read session | .granted session => e.session = some session
  | _ => True

def RefreshStage.Means (S : Settings) (_ : Nat) (c : Call) (g : RefreshStage) (e : SessionEntry)
    (_ : Shared userService Call) : Prop :=
  match c with
  | .refresh (.refresh token) _ => g.Says S token e
  | .sessionMiddleware _ => g.Holds e
  | _ => True

theorem quiet_after {stmt : Stmt userService} (h : RefreshStage.Quiet stmt)
    (r : Except Err stmt.Ans) (e : SessionEntry) (w : World userService Call) :
    RefreshStage.can stmt r ∧ g.after stmt r = g ∧ e.after w stmt r = e := by
  cases stmt with
  | aux a =>
    cases a with
    | now | getSession id | setSession id session => exact h.elim
    | _ => cases g <;> exact ⟨trivial, rfl, rfl⟩
  | _ => cases g <;> exact ⟨trivial, rfl, rfl⟩

theorem now_answer {σ σ' : Shared userService Call} {c : Call} {ch : Choice Empty}
    {r : Except Err Nat} (he : σ.exec i c (.aux .now) ch = some (r, σ')) :
    r = .ok σ.world.env.now := by
  cases Shared.exec_effect he with
  | failed x hx => exact absurd rfl (hx _)
  | asked hask =>
    cases hask
    rfl

theorem write_answer {σ σ' : Shared userService Call} {c : Call} {ch : Choice Empty} {id : Id}
    {session : SessionRecord} {x : Unit}
    (he : σ.exec i c (.aux (.setSession id session)) ch = some (.ok x, σ')) :
    σ'.world.env = σ.world.env.write id session := by
  generalize hr : (Except.ok x : Except Err Unit) = r at he
  cases Shared.exec_effect he with
  | failed y hx => exact absurd rfl (hx _)
  | asked hask =>
    subst hr
    exact (Env.command_ok hask).2

theorem says_own {σ : Shared userService Call} {ch : Choice Empty}
    (ha : laterSecond s (.act (.run i ch))) {stmt : Stmt userService}
    {k : Except Err stmt.Ans → UserCode Out} {r : Except Err stmt.Ans}
    (ht : s.pool.threads[i]? = some ⟨.refresh (.refresh token) f, some (.call stmt k)⟩)
    (he : s.pool.shared.exec i (.refresh (.refresh token) f) stmt ch = some (r, σ))
    (hmay : RefreshStage.mayRefresh S token g stmt) (h : g.Says S token (s.entries i)) :
    RefreshStage.can stmt r ∧
      (g.after stmt r).Says S token ((s.entries i).after s.pool.world stmt r) := by
  have hquiet : RefreshStage.Quiet stmt → RefreshStage.can stmt r ∧
      (g.after stmt r).Says S token ((s.entries i).after s.pool.world stmt r) := by
    intro hq
    obtain ⟨hcan, hg, hentry⟩ := quiet_after (g := g) hq r (s.entries i) s.pool.world
    rw [hg, hentry]
    exact ⟨hcan, h⟩
  cases g with
  | arrived =>
    obtain rfl := hmay
    obtain rfl := now_answer he
    exact ⟨trivial, congrArg (· + 1) h⟩
  | verified =>
    obtain rfl := hmay
    cases r with
    | error x => exact ⟨trivial, trivial⟩
    | ok found =>
      cases found with
      | none => exact ⟨trivial, trivial⟩
      | some session => exact ⟨trivial, rfl, h⟩
  | read session =>
    obtain hq | ⟨rfl, hhash⟩ := hmay
    · exact hquiet hq
    · obtain rfl := now_answer he
      exact ⟨trivial, h.1, hhash, congrArg (· + 1) h.2⟩
  | granted session =>
    obtain rfl := hmay
    obtain rfl := now_answer he
    exact ⟨trivial, h.1, h.2.1, ha token f k ht h.2.2⟩
  | signed session second =>
    obtain rfl | ⟨session', token', rfl, -, -⟩ := hmay
    · obtain rfl := now_answer he
      exact ⟨trivial, h⟩
    · cases r with
      | error x => exact ⟨trivial, trivial⟩
      | ok x => exact ⟨trivial, rfl⟩
  | written => exact hquiet hmay
  | ended => exact hquiet hmay

theorem holds_own {stmt : Stmt userService} {e : SessionEntry} {r : Except Err stmt.Ans}
    {w : World userService Call} (hr : stmt = .aux .now → RefreshStage.can stmt r)
    (hmay : RefreshStage.mayTouch g stmt) (h : g.Holds e) :
    RefreshStage.can stmt r ∧ (g.after stmt r).Holds (e.after w stmt r) := by
  cases g with
  | arrived =>
    obtain ⟨id, rfl⟩ := hmay
    cases r with
    | error x => exact ⟨trivial, trivial⟩
    | ok found =>
      cases found with
      | none => exact ⟨trivial, trivial⟩
      | some session => exact ⟨trivial, rfl⟩
  | read session =>
    obtain rfl := hmay
    exact ⟨hr rfl, h⟩
  | granted session =>
    obtain ⟨id, session', rfl, -⟩ := hmay
    cases r with
    | error x => exact ⟨trivial, trivial⟩
    | ok x => exact ⟨trivial, trivial⟩
  | written =>
    obtain ⟨hcan, hg, -⟩ := quiet_after (g := .written) hmay r e w
    rw [hg]
    exact ⟨hcan, trivial⟩
  | verified | signed | ended => exact hmay.elim

theorem noted_step (ha : laterSecond s a) (hs : (sessionJournal S).step s a = some s')
    (h : Journal.Noted (fun _ => RefreshStage.ledger S) (RefreshStage.Means S)
      RefreshStage.Returns s) :
    Journal.Noted (fun _ => RefreshStage.ledger S) (RefreshStage.Means S)
      RefreshStage.Returns s' := by
  refine h.step (Journal.stepped hs) (fun c _ => ⟨.arrived, ?_, follows_body c⟩) ?_
    fun _ _ _ _ hg => hg
  · cases c with
    | refresh refreshToken f =>
      cases refreshToken with
      | refresh token => exact rfl
      | other => trivial
    | _ => trivial
  · rintro i ch c stmt k r σ g rfl ht he hg hmay
    cases c with
    | refresh refreshToken f =>
      cases refreshToken with
      | refresh token => exact says_own ha ht he hmay hg
      | other => exact ⟨trivial, trivial⟩
    | sessionMiddleware user =>
      refine holds_own (w := s.pool.world) (fun h => ?_) hmay hg
      subst h
      obtain rfl := now_answer he
      trivial
    | _ => exact ⟨trivial, trivial⟩

theorem write_refresh (hn : Journal.Noted (fun _ => RefreshStage.ledger S) (RefreshStage.Means S)
    RefreshStage.Returns s) {ch : Choice Empty} (ha : unrotated s (.act (.run i ch))) {id : Id}
    {session : SessionRecord} {k : Except Err Unit → UserCode Out}
    (ht : s.pool.threads[i]? =
      some ⟨.refresh (.refresh token) f, some (.call (.aux (.setSession id session)) k)⟩) :
    id = token.sessionId ∧ ∃ (cur : SessionRecord) (token' : RefreshToken),
      s.pool.world.env.session id = some cur ∧ cur.refreshTokenHash = S.sha256 token ∧
        session.refreshTokenHash = S.sha256 token' ∧ token.iat < token'.iat := by
  obtain ⟨read, cur, hread, hcur, heq⟩ := ha _ _ _ _ ht
  obtain ⟨g, hg, hmay, -⟩ := hn.notes i _ _ ht
  change RefreshStage.mayRefresh S token g _ at hmay
  change g.Says S token (s.entries i) at hg
  cases g with
  | signed session₀ second =>
    obtain hnow | ⟨session', token', hset, hhash', hiat⟩ := hmay
    · cases hnow
    · cases hset
      obtain ⟨hsession, hhash, hlt⟩ := hg
      obtain rfl := Option.some.inj (hread.symm.trans hsession)
      refine ⟨rfl, cur, token', hcur, heq.trans hhash, hhash', ?_⟩
      rw [hiat]
      exact hlt
  | read session₀ =>
    obtain hq | ⟨hnow, -⟩ := hmay
    · exact hq.elim
    · cases hnow
  | written | ended => exact hmay.elim
  | _ => cases hmay

theorem write_onward (hn : Journal.Noted (fun _ => RefreshStage.ledger S) (RefreshStage.Means S)
    RefreshStage.Returns s) {ch : Choice Empty} (ha : unrotated s (.act (.run i ch))) {c : Call}
    {id : Id} {session : SessionRecord} {k : Except Err Unit → UserCode Out}
    (ht : s.pool.threads[i]? = some ⟨c, some (.call (.aux (.setSession id session)) k)⟩) :
    s.pool.world.env.Onward S (s.pool.world.env.write id session) := by
  obtain ⟨g, hg, hmay, -⟩ := hn.notes i _ _ ht
  have hplain : (∀ id' session', (Stmt.aux (.setSession id session) : Stmt userService) ≠
      .aux (.setSession id' session')) →
        s.pool.world.env.Onward S (s.pool.world.env.write id session) :=
    fun h => absurd rfl (h id session)
  cases c with
  | refresh refreshToken f =>
    cases refreshToken with
    | refresh token =>
      obtain ⟨-, cur, token', hcur, hhash, hhash', hlt⟩ := write_refresh hn ha ht
      exact .write hcur (.inr ⟨token, token', hhash, hhash', hlt⟩)
    | other => exact hplain hmay
  | sessionMiddleware user =>
    obtain ⟨read, cur, hread, hcur, heq⟩ := ha _ _ _ _ ht
    change RefreshStage.mayTouch g _ at hmay
    cases g with
    | granted session₀ =>
      obtain ⟨id', session', hset, hhash⟩ := hmay
      cases hset
      obtain rfl := Option.some.inj (hread.symm.trans hg)
      exact .write hcur (.inl (hhash.trans heq.symm))
    | arrived =>
      obtain ⟨_, hget⟩ := hmay
      cases hget
    | read session₀ => cases hmay
    | _ => exact hmay.elim
  | _ => exact hplain hmay

theorem onward_step (hn : Journal.Noted (fun _ => RefreshStage.ledger S) (RefreshStage.Means S)
    RefreshStage.Returns s) (ha : unrotated s a) (hs : Journal.Stepped s a s') :
    s.pool.world.env.Onward S s'.pool.world.env := by
  cases hs with
  | called c => exact .refl _
  | @ran i ch c stmt k r σ ht hexec =>
    have heffect := Shared.exec_effect hexec
    cases stmt with
    | aux b =>
      cases heffect with
      | failed x hx => exact absurd rfl (hx b)
      | asked hask =>
        refine Env.Onward.ask ?_ hask
        rintro id session rfl
        exact write_onward hn ha ht
    | _ =>
      change Env.Onward S _ σ.world.env
      rw [heffect.env fun _ h => by cases h]
      exact .refl _
  | crashed ht => exact .refl _
  | ticked d => exact .tick d

theorem written_after {e : SessionEntry} {w : World userService Call} {stmt : Stmt userService}
    {r : Except Err stmt.Ans} (h : (e.after w stmt r).written = true) :
    e.written = true ∨ ∃ id session, stmt = .aux (.setSession id session) ∧ ∃ x, r = .ok x := by
  cases stmt with
  | aux b =>
    cases b with
    | setSession id session =>
      cases r with
      | error x => exact .inl h
      | ok x => exact .inr ⟨id, session, rfl, x, rfl⟩
    | getSession id =>
      cases r with
      | error x => exact .inl h
      | ok found => cases found <;> exact .inl h
    | _ => exact .inl h
  | _ => exact .inl h

end Steps

section Runs

variable {S : Settings} {s s' : (sessionJournal S).State} {a : Event (machine S)}

/-- The tokens of calls that have written their session back are used, and each by one call. -/
structure Rotated (s : (sessionJournal S).State) : Prop where
  noted : Journal.Noted (fun _ => RefreshStage.ledger S) (RefreshStage.Means S)
    RefreshStage.Returns s
  stored : ∀ id, s.pool.world.env.session id ≠ none → id ∈ s.pool.world.env.stored.map Prod.fst
  used : ∀ (i : Nat) token f code,
    s.pool.threads[i]? = some ⟨.refresh (.refresh token) f, code⟩ →
    (s.entries i).written = true → s.pool.world.env.Used S token
  unique : ∀ (i j : Nat) token f f' code code',
    s.pool.threads[i]? = some ⟨.refresh (.refresh token) f, code⟩ →
    s.pool.threads[j]? = some ⟨.refresh (.refresh token) f', code'⟩ →
    (s.entries i).written = true → (s.entries j).written = true → i = j

/-- A call that is marked as written was so before the step, or has just written over the
record of its token. -/
theorem Rotated.written (h : Rotated s) (ha : unrotated s a) (hs : Journal.Stepped s a s') {i : Nat}
    {token : RefreshToken} {f : String} {code : Option (UserCode Out)}
    (ht : s'.pool.threads[i]? = some ⟨.refresh (.refresh token) f, code⟩)
    (hw : (s'.entries i).written = true) :
    (∃ code', s.pool.threads[i]? = some ⟨.refresh (.refresh token) f, code'⟩ ∧
      (s.entries i).written = true) ∨
    (∃ ch, a = .act (.run i ch)) ∧
      ∃ (session cur : SessionRecord) (token' : RefreshToken),
        s.pool.world.env.session token.sessionId = some cur ∧
        cur.refreshTokenHash = S.sha256 token ∧
        s'.pool.world.env = s.pool.world.env.write token.sessionId session ∧
        session.refreshTokenHash = S.sha256 token' ∧ token.iat < token'.iat := by
  have hold : (s.entries i).written = true → ∃ code',
      s.pool.threads[i]? = some ⟨.refresh (.refresh token) f, code'⟩ ∧
        (s.entries i).written = true := by
    intro hw'
    obtain ⟨code', ht'⟩ | hnew := hs.thread ht
    · exact ⟨code', ht', hw'⟩
    · rw [h.noted.blank i hnew] at hw'
      cases hw'
  obtain hsame | ⟨ch, c, stmt, k, r, rfl, ht', hexec, hentry⟩ := hs.entry i
  · exact .inl (hold (by rw [← hsame]; exact hw))
  · rw [hentry] at hw
    obtain hw' | ⟨id, session, rfl, x, rfl⟩ := written_after (w := s.pool.world) hw
    · exact .inl (hold hw')
    · obtain ⟨code', ht''⟩ | hnew := hs.thread ht
      · obtain ⟨rfl, -⟩ := Thread.mk.inj (Option.some.inj (ht'.symm.trans ht''))
        obtain ⟨rfl, cur, token', hcur, hhash, hhash', hlt⟩ := write_refresh h.noted ha ht'
        refine .inr ⟨⟨ch, rfl⟩, session, cur, token', hcur, hhash, ?_, hhash', hlt⟩
        exact write_answer hexec
      · exact absurd (List.getElem?_eq_some_iff.mp ht').1 (Nat.not_lt.mpr hnew)

theorem Rotated.step (hinj : Function.Injective S.sha256) (h : Rotated s) (ha : cleanRotation s a)
    (hs : (sessionJournal S).step s a = some s') : Rotated s' := by
  have hstepped := Journal.stepped hs
  have honward := onward_step h.noted ha.1 hstepped
  refine ⟨noted_step ha.2 hs h.noted, fun id hid => ?_, fun i token f code ht hw => ?_, ?_⟩
  · obtain hfound | hmem := honward.fresh id hid
    · exact honward.stored id (h.stored id hfound)
    · exact hmem
  · obtain ⟨code', ht', hw'⟩ | ⟨-, session, cur, token', hcur, hhash, henv, hhash', hlt⟩ :=
      h.written ha.1 hstepped ht hw
    · exact (h.used i token f code' ht' hw').onward hinj honward
    · have hmem : token.sessionId ∈ s.pool.world.env.stored.map Prod.fst :=
        h.stored _ (by rw [hcur]; exact Option.some_ne_none cur)
      refine ⟨honward.stored _ hmem, fun found hfound => ⟨token', ?_, hlt⟩⟩
      rw [henv] at hfound
      have hself : (s.pool.world.env.write token.sessionId session).session token.sessionId =
          some session :=
        (Redis.Store.get_set_same _ _ _ _ _).trans (if_pos (Nat.lt_add_of_pos_right (by decide)))
      rw [← Option.some.inj (hself.symm.trans hfound)]
      exact hhash'
  · intro i j token f f' code code' hi hj hwi hwj
    have hbeaten : ∀ {n : Nat} {f : String} {code : Option (UserCode Out)} {cur : SessionRecord},
        s.pool.threads[n]? = some ⟨.refresh (.refresh token) f, code⟩ →
        (s.entries n).written = true → s.pool.world.env.session token.sessionId = some cur →
        cur.refreshTokenHash = S.sha256 token → i = j := by
      intro n f code cur hn hw hcur hhash
      exact absurd hhash ((h.used n token f code hn hw).ne_sha256 hinj hcur)
    obtain ⟨_, hi', hwi'⟩ | ⟨⟨ch, rfl⟩, _, _, _, hcur, hhash, -⟩ := h.written ha.1 hstepped hi hwi
    · obtain ⟨_, hj', hwj'⟩ | ⟨-, _, _, _, hcur, hhash, -⟩ := h.written ha.1 hstepped hj hwj
      · exact h.unique i j token f f' _ _ hi' hj' hwi' hwj'
      · exact hbeaten hi' hwi' hcur hhash
    · obtain ⟨_, hj', hwj'⟩ | ⟨⟨ch', hch⟩, -⟩ := h.written ha.1 hstepped hj hwj
      · exact hbeaten hj' hwj' hcur hhash
      · cases hch
        rfl

/-- The service with its users, before any session. -/
def sessionStart (S : Settings) (d : Db) (now : Nat) : (sessionJournal S).State :=
  (sessionJournal S).start (Pool.init d (.init now))

theorem rotated_start (d : Db) (now : Nat) : Rotated (sessionStart S d now) where
  noted := Journal.noted_start rfl
  stored _ h := absurd rfl h
  used i token f code ht := by cases ht
  unique i j token f f' code code' ht := by cases ht

/-- In runs in which no record is written back over one with another hash, and no new refresh
token is issued in the second of the old one, every refresh token is used once. -/
theorem singleUse_of_cleanRotation (hinj : Function.Injective S.sha256) {d : Db} {now : Nat}
    (h : System.Run (sessionJournal S).system cleanRotation (sessionStart S d now) s) :
    SingleUse s := by
  have hrotated : Rotated s := h.invariant (rotated_start d now) fun _ _ _ _ hq ha hstep =>
    hq.step hinj ha hstep
  intro i j token f f' r r' hi hj
  have hwritten : ∀ (n : Nat) f r,
      s.pool.threads[n]? = some ⟨.refresh (.refresh token) f, some (.ret (.authenticated r))⟩ →
      (s.entries n).written = true := by
    intro n f r hn
    obtain ⟨g, hg, hret⟩ := hrotated.noted.notes n _ _ hn
    obtain rfl : g = .written := hret
    exact hg
  exact hrotated.unique i j token f f' _ _ hi hj (hwritten i f r hi) (hwritten j f' r' hj)

def unary (n : Nat) (cs : List Char) : List Char := List.replicate n 'a' ++ 'b' :: cs

theorem unary_inj {m n : Nat} {cs ds : List Char} (h : unary m cs = unary n ds) :
    m = n ∧ cs = ds := by
  induction m generalizing n with
  | zero =>
    cases n with
    | zero => exact ⟨rfl, (List.cons.inj h).2⟩
    | succ n => cases (List.cons.inj h).1
  | succ m ih =>
    cases n with
    | zero => cases (List.cons.inj h).1
    | succ n =>
      obtain ⟨rfl, hcs⟩ := ih (List.cons.inj h).2
      exact ⟨rfl, hcs⟩

def unarySettings : Settings where
  refreshExpiresIn := 60
  sha256 token := String.ofList
    (unary token.sub (unary token.sessionId (unary token.iat (unary token.exp []))))
  bcryptHash _ password := "$2b$10$" ++ password
  bcryptCompare password hash := hash = "$2b$10$" ++ password
  geoLookup _ := none

theorem unarySettings_injective : Function.Injective unarySettings.sha256 := by
  rintro ⟨sub, sessionId, iat, exp⟩ ⟨sub', sessionId', iat', exp'⟩ h
  obtain ⟨rfl, h⟩ := unary_inj (String.ofList_injective h)
  obtain ⟨rfl, h⟩ := unary_inj h
  obtain ⟨rfl, h⟩ := unary_inj h
  obtain ⟨rfl, -⟩ := unary_inj h
  rfl

abbrev unaryMachine : Machine userService := machine unarySettings

def sampleToken : RefreshToken := ⟨1, 0, 0, 60⟩

def sampleRefresh : Event (machine unarySettings) := .call (.refresh (.refresh sampleToken) "phone")

/-- The threads whose call has returned. -/
def returnedThreads (s : (sessionJournal unarySettings).State) : List Bool :=
  s.pool.threads.map (fun x => x.returned.isSome)

def unrotatedTest (s : (sessionJournal unarySettings).State) :
    Event (machine unarySettings) → Bool
  | .act (.run i _) =>
    match s.pool.threads[i]? with
    | some ⟨_, some (.call (.aux (.setSession id _)) _)⟩ =>
      (s.entries i).session.any (fun read => (s.pool.world.env.session id).any (fun cur =>
        cur.refreshTokenHash = read.refreshTokenHash))
    | _ => true
  | _ => true

theorem unrotated_of_test {s : (sessionJournal unarySettings).State}
    {a : Event (machine unarySettings)} (h : unrotatedTest s a = true) : unrotated s a := by
  cases a with
  | call c => trivial
  | act a =>
    cases a with
    | crash i => trivial
    | tick d => trivial
    | run i ch =>
      intro c id session k ht
      simp only [unrotatedTest, ht] at h
      obtain ⟨read, hread, h⟩ := (Option.any_eq_true _ _).mp h
      obtain ⟨cur, hcur, h⟩ := (Option.any_eq_true _ _).mp h
      exact ⟨read, cur, hread, hcur, of_decide_eq_true h⟩

def laterTest (s : (sessionJournal unarySettings).State) : Event (machine unarySettings) → Bool
  | .act (.run i _) =>
    match s.pool.threads[i]? with
    | some ⟨.refresh (.refresh token) _, some (.call (.aux .now) _)⟩ =>
      (s.entries i).readings ≠ 2 || token.iat < s.pool.world.env.now / 1000
    | _ => true
  | _ => true

theorem laterSecond_of_test {s : (sessionJournal unarySettings).State}
    {a : Event (machine unarySettings)} (h : laterTest s a = true) : laterSecond s a := by
  cases a with
  | call c => trivial
  | act a =>
    cases a with
    | crash i => trivial
    | tick d => trivial
    | run i ch =>
      intro token f k ht hr
      simp only [laterTest, ht, hr, ne_eq, not_true_eq_false, decide_false, Bool.false_or] at h
      exact of_decide_eq_true h

/-- A token is used a second after it was issued, and then again: the second call is refused. -/
theorem singleUse_refused : ∃ s, System.Run (sessionJournal unarySettings).system cleanRotation
    (sessionStart unarySettings sampleTables 0) s ∧
    returnedThreads s = [true, true, false] ∧ SingleUse s := by
  obtain ⟨s, hs, ht⟩ := System.exists_run (T := (sessionJournal unarySettings).system)
    cleanRotation (sessionStart unarySettings sampleTables 0)
    (fun s a => unrotatedTest s a && laterTest s a)
    (.call sampleLogin :: unaryMachine.burst 0 11 ++ .act (.tick 1000) :: sampleRefresh ::
      unaryMachine.burst 1 8 ++ sampleRefresh :: unaryMachine.burst 2 5)
    (fun s => decide (returnedThreads s = [true, true, false]))
    (fun s a _ h => by
      obtain ⟨h, h'⟩ := Bool.and_eq_true_iff.mp h
      exact ⟨unrotated_of_test h, laterSecond_of_test h'⟩) (by decide +kernel)
  exact ⟨s, hs, of_decide_eq_true ht, singleUse_of_cleanRotation unarySettings_injective hs⟩

/-- The token of thread `i`, if it is a refresh that has returned. -/
def usedToken (s : (sessionJournal unarySettings).State) (i : Nat) : Option RefreshToken :=
  match s.pool.threads[i]? with
  | some ⟨.refresh (.refresh token) _, some (.ret (.authenticated _))⟩ => some token
  | _ => none

theorem thread_of_usedToken {s : (sessionJournal unarySettings).State} {i : Nat}
    {token : RefreshToken} (h : usedToken s i = some token) : ∃ f r,
      s.pool.threads[i]? = some ⟨.refresh (.refresh token) f, some (.ret (.authenticated r))⟩ := by
  unfold usedToken at h
  split at h
  · next token' f r ht =>
    cases h
    exact ⟨f, r, ht⟩
  · cases h

theorem not_singleUse_of_usedToken {s : (sessionJournal unarySettings).State}
    (h : usedToken s 1 = some sampleToken) (h' : usedToken s 2 = some sampleToken) :
    ¬ SingleUse s := by
  intro hs
  obtain ⟨f, r, ht⟩ := thread_of_usedToken h
  obtain ⟨f', r', ht'⟩ := thread_of_usedToken h'
  cases hs 1 2 sampleToken f f' r r' ht ht'

theorem not_singleUse_of_laterSecond : ¬ ∀ (S : Settings) (d : Db) (now : Nat)
    (s : (sessionJournal S).State), Function.Injective S.sha256 →
    System.Run (sessionJournal S).system laterSecond (sessionStart S d now) s → SingleUse s := by
  intro hall
  obtain ⟨s, hs, ht⟩ := System.exists_run (T := (sessionJournal unarySettings).system)
    laterSecond (sessionStart unarySettings sampleTables 0) laterTest
    (.call sampleLogin :: unaryMachine.burst 0 11 ++ .act (.tick 1000) :: sampleRefresh ::
      sampleRefresh :: unaryMachine.burst 1 2 ++ unaryMachine.burst 2 2 ++ unaryMachine.burst 1 6 ++
      unaryMachine.burst 2 6)
    (fun s => decide (usedToken s 1 = some sampleToken ∧ usedToken s 2 = some sampleToken))
    (fun _ _ _ => laterSecond_of_test) (by decide +kernel)
  obtain ⟨h, h'⟩ := of_decide_eq_true ht
  exact not_singleUse_of_usedToken h h' (hall _ _ _ s unarySettings_injective hs)

theorem not_singleUse_of_unrotated : ¬ ∀ (S : Settings) (d : Db) (now : Nat)
    (s : (sessionJournal S).State), Function.Injective S.sha256 →
    System.Run (sessionJournal S).system unrotated (sessionStart S d now) s → SingleUse s := by
  intro hall
  obtain ⟨s, hs, ht⟩ := System.exists_run (T := (sessionJournal unarySettings).system)
    unrotated (sessionStart unarySettings sampleTables 0) unrotatedTest
    (.call sampleLogin :: unaryMachine.burst 0 11 ++ sampleRefresh :: unaryMachine.burst 1 8 ++
      sampleRefresh :: unaryMachine.burst 2 8)
    (fun s => decide (usedToken s 1 = some sampleToken ∧ usedToken s 2 = some sampleToken))
    (fun _ _ _ => unrotated_of_test) (by decide +kernel)
  obtain ⟨h, h'⟩ := of_decide_eq_true ht
  exact not_singleUse_of_usedToken h h' (hall _ _ _ s unarySettings_injective hs)

theorem not_singleUse : ¬ ∀ (S : Settings) (d : Db) (now : Nat) (s : (sessionJournal S).State),
    Function.Injective S.sha256 →
    System.Run (sessionJournal S).system (fun _ _ => True) (sessionStart S d now) s →
    SingleUse s := by
  intro hall
  exact not_singleUse_of_laterSecond fun S d now s hinj hs =>
    hall S d now s hinj (hs.mono fun _ _ _ => trivial)

end Runs

end RailwayBooking.UserService
