import RailwayBooking.Concurrency.Stamped
import RailwayBooking.Concurrency.Steady
import RailwayBooking.UserService.Commands
import RailwayBooking.UserService.Composition

namespace RailwayBooking.UserService

open Concurrency

section Later

def Env.Gone (e : Env) (sessionId : Id) : Prop :=
  sessionId ∈ e.stored.map Prod.fst ∧ e.session sessionId = none

/-- What has been stored stays known, and what is gone stays gone. -/
structure Env.Later (e e' : Env) : Prop where
  stored : ∀ x ∈ e.stored, x ∈ e'.stored
  gone : ∀ sessionId, e.Gone sessionId → e'.Gone sessionId

namespace Env.Later

variable {e e' e'' : Env} {sessionId userId : Id} {session : SessionRecord}

theorem refl (e : Env) : e.Later e := ⟨fun _ h => h, fun _ h => h⟩

theorem trans (h : e.Later e') (h' : e'.Later e'') : e.Later e'' :=
  ⟨fun x hx => h'.stored x (h.stored x hx), fun id hid => h'.gone id (h.gone id hid)⟩

theorem failed (h : e.Later e') : e.Later { e' with failed := true } := ⟨h.stored, h.gone⟩

theorem of_sessions (hs : e'.stored = e.stored)
    (h : ∀ id, id ∈ e.stored.map Prod.fst → e.session id = none → e'.session id = none) :
    e.Later e' := by
  refine ⟨fun x hx => hs ▸ hx, fun id hid => ⟨?_, h id hid.1 hid.2⟩⟩
  rw [hs]
  exact hid.1

theorem tick (d : Nat) : e.Later { e with now := e.now + d } := by
  refine of_sessions rfl fun id _ hid => ?_
  cases hget : e.sessions.get (e.now + d) id with
  | none => exact hget
  | some session =>
    have hnow : e.session id = some session := Redis.Store.get_earlier (Nat.le_add_right _ _) hget
    rw [hnow] at hid
    cases hid

theorem write (h : e.session sessionId ≠ none) : e.Later (e.write sessionId session) := by
  refine of_sessions rfl fun id _ hid => ?_
  have hne : id ≠ sessionId := by
    rintro rfl
    exact h hid
  exact (Redis.Store.get_set_ne e.sessions e.now session _ hne).trans hid

theorem store (h : sessionId ∉ e.stored.map Prod.fst) :
    e.Later (e.store sessionId session userId) := by
  refine ⟨fun x hx => List.mem_cons_of_mem _ hx, fun id hid => ⟨List.mem_cons_of_mem _ hid.1, ?_⟩⟩
  have hne : id ≠ sessionId := by
    rintro rfl
    exact h hid.1
  exact (Redis.Store.get_set_ne e.sessions e.now session _ hne).trans hid.2

theorem delSessions (ids : List Id) : e.Later (e.delSessions ids) := by
  refine of_sessions rfl fun id _ hid => ?_
  change (e.sessions.delAll ids).get e.now id = none
  rw [Redis.Store.get_delAll, show e.sessions.get e.now id = none from hid, ite_self]

theorem ask {i : Nat} {a : Aux} {ch : Choice Empty} {r : Except Err (AuxAns a)}
    (h : ∀ id session, a = .setSession id session → e.session id ≠ none)
    (hr : UserService.ask e i a ch = some (r, e')) : e.Later e' := by
  have hafter : e.Later (e.after a) := by
    cases a with
    | setSession id session => exact write (h id session rfl)
    | multi id session userId => exact store (multi_new hr)
    | delSessions ids => exact delSessions ids
    | _ => exact ⟨fun _ h => h, fun _ h => h⟩
  obtain rfl | rfl | rfl := ask_after hr
  · exact hafter
  · exact (refl e).failed
  · exact hafter.failed

end Env.Later

end Later

section Revocation

/-- The call has completed, and was meant to revoke the session of the user. -/
def Revokes (c : Call) (out : Out) (sessionId userId : Id) : Prop :=
  match c, out with
  | .revokeSession id _, .sessionRevoked => sessionId = id
  | .logout (some (.refresh token)), .loggedOut .revoked => sessionId = token.sessionId
  | .logoutAll (some (.refresh token)), .loggedOut .revoked => userId = token.sub
  | .resetPassword .., .passwordReset id => userId = id
  | _, _ => False

/-- The call has accepted a refresh token of the session. -/
def Accepts (c : Call) (out : Out) (sessionId : Id) : Prop :=
  match c, out with
  | .refresh (.refresh token) _, .authenticated _ => sessionId = token.sessionId
  | _, _ => False

def Call.lists : Call → Bool
  | .getSessions _ => true
  | _ => false

variable (S : Settings)

abbrev StampedCall := Call × Env

/-- No session is written back whose record is gone, and the index that is read to revoke
all sessions has every one that still has a record. -/
structure Careful (c : StampedCall) (e : Env) (s : Stmt userService) : Prop where
  writeBack : ∀ id session, s = .aux (.setSession id session) → e.session id ≠ none
  indexed : c.1.lists = false → ∀ userId, s = .aux (.smembers userId) →
    ∀ x ∈ e.stored, x.2 = userId → e.session x.1 ≠ none → x.1 ∈ e.members userId

def revocation : Discipline (machine S).stamped where
  pre c w := c.2.Later w.env
  inv _ := True
  allow c _ w s := Careful c w.env s
  commits _ _ _ := True
  asks _ a w := ∀ id session, a = .setSession id session → w.env.session id ≠ none
  drift w e := w.env.Later e
  raises _ := True
  post c out w := (∀ x ∈ c.2.stored, Revokes c.1 out x.1 x.2 → w.env.Gone x.1) ∧
    ∀ id, Accepts c.1 out id → ¬ c.2.Gone id

variable {S} {i : Nat} {c : StampedCall} {ts : Stack userService}
  {w : World userService StampedCall} {α : Type}

theorem lasting_gone (id : Id) : Lasting (revocation S) (fun w => w.env.Gone id) where
  commit _ _ _ _ _ _ _ h := h
  drift _ _ hd h := hd.gone id h

/-- Of the sessions that were there when the call arrived, those that satisfy `P` are gone. -/
def AllGone (c : StampedCall) (P : Id × Id → Prop) (w : World userService StampedCall) : Prop :=
  ∀ x ∈ c.2.stored, P x → w.env.Gone x.1

theorem lasting_allGone (P : Id × Id → Prop) : Lasting (revocation S) (AllGone c P) where
  commit _ _ _ _ _ _ _ h := h
  drift _ _ hd h x hx hP := hd.gone _ (h x hx hP)

theorem revocation_lawful : (revocation S).Lawful where
  ask _ _ _ _ _ _ _ ha hr := Env.Later.ask ha hr
  tick d _ := Env.Later.tick d
  fault := trivial
  run _ _ _ _ := trivial
  answer _ _ _ _ _ _ _ := trivial
  inv := lasting_true
  pre c := by
    refine ⟨fun _ _ _ _ _ _ _ h => h, fun _ _ hd h => ?_⟩
    exact Env.Later.trans h hd
  post c out := (lasting_allGone _).and (lasting_const _)

end Revocation

section Operations

variable {S : Settings} {i : Nat} {c : StampedCall} {ts : Stack userService}
  {w : World userService StampedCall} {α : Type} {P Q : Id × Id → Prop}

theorem AllGone.mono (h : AllGone c P w) (hPQ : ∀ x, Q x → P x) : AllGone c Q w :=
  fun x hx hQ => h x hx (hPQ x hQ)

theorem steady_perform (a : Aux) : Steady (revocation S) i c (perform a) :=
  Steady.aux fun _ h id session ha => h.writeBack id session (congrArg Stmt.aux ha)

theorem steady_query (q : Sql) : Steady (revocation S) i c (query q) :=
  Steady.sql revocation_lawful fun _ _ _ _ _ _ _ => trivial

theorem steady_composes : Composes (fun α (p : UserCode α) => Steady (revocation S) i c p) where
  pure := Steady.pure
  raise _ := Steady.raise _
  handle := Steady.handle
  perform a _ := steady_perform a
  query := steady_query

theorem steady_logoutAll (userId : Id) : Steady (revocation S) i c (logoutAll userId) :=
  steady_composes.logoutAll (fun _ => steady_perform _) userId

theorem ok_delSessions (ids : List Id) (h : AllGone c P w) :
    Ok (revocation S) i c (fun _ ts' w => ts' = ts ∧ AllGone c (fun x => P x ∨ x.1 ∈ ids) w)
      (fun _ ts' _ => ts' = ts) (perform (.delSessions ids)) ts w := by
  refine Ok.aux_allowed (AllGone c P) ((lasting_allGone P).stable _ i _) h fun w' _ hp hf _ =>
    ⟨fun _ _ ha => (nomatch ha), fun ch r e he => ⟨fun _ hr => ⟨rfl, fun x hx hor => ?_⟩,
      fun _ _ => rfl⟩⟩
  subst hr
  obtain ⟨-, rfl⟩ := Env.command_ok he
  obtain hP | hid := hor
  · exact (Env.Later.delSessions ids).gone _ (hf x hx hP)
  · refine ⟨List.mem_map_of_mem (hp.stored x hx), ?_⟩
    exact Redis.Store.get_delAll.trans (if_pos hid)

theorem ok_logout (sessionId userId : Id) :
    Ok (revocation S) i c (fun _ ts' w => ts' = ts ∧ AllGone c (fun x => x.1 = sessionId) w)
      (fun _ ts' _ => ts' = ts) (logout sessionId userId) ts w := by
  refine Ok.bind ?_ (ok_delSessions [sessionId] (P := fun _ => False) fun _ _ h => h.elim)
  rintro _ ts' w' ⟨rfl, hgone⟩
  refine Ok.mono (fun _ _ _ hq => hq) (fun _ _ _ hx => hx.1)
    ((steady_perform _).lasting revocation_lawful (lasting_allGone _) ?_)
  exact hgone.mono fun x hx => .inr (List.mem_singleton.mpr hx)

theorem ok_smembers (hc : c.1.lists = false) (userId : Id) :
    Ok (revocation S) i c
      (fun ids ts' w => ts' = ts ∧ AllGone c (fun x => x.2 = userId ∧ x.1 ∉ ids) w)
      (fun _ ts' _ => ts' = ts) (perform (.smembers userId)) ts w := by
  refine Ok.aux_allowed (fun _ => True) (stable_const _ i _ True) trivial fun w' _ hp _ ha =>
    ⟨fun _ _ ha => (nomatch ha), fun ch r e he => ⟨fun ids hr => ⟨rfl, fun x hx hor => ?_⟩,
      fun _ _ => rfl⟩⟩
  subst hr
  obtain ⟨hids, rfl⟩ := Env.command_ok he
  subst hids
  refine ⟨List.mem_map_of_mem (hp.stored x hx), ?_⟩
  by_contra hlive
  exact hor.2 (ha.indexed hc userId rfl x (hp.stored x hx) hor.1 hlive)

theorem ok_logoutAll (hc : c.1.lists = false) (userId : Id) :
    Ok (revocation S) i c (fun _ ts' w => ts' = ts ∧ AllGone c (fun x => x.2 = userId) w)
      (fun _ ts' _ => ts' = ts) (logoutAll userId) ts w := by
  have hend : ∀ {ts' : Stack userService} {w' : World userService StampedCall},
      AllGone c (fun x => x.2 = userId) w' →
      Ok (revocation S) i c (fun _ ts'' w => ts'' = ts' ∧ AllGone c (fun x => x.2 = userId) w)
        (fun _ ts'' _ => ts'' = ts') (perform (.delUserSessions userId)) ts' w' := by
    intro ts' w' h
    exact Ok.mono (fun _ _ _ hq => hq) (fun _ _ _ hx => hx.1)
      ((steady_perform _).lasting revocation_lawful (lasting_allGone _) h)
  refine Ok.bind ?_ (ok_smembers hc userId)
  rintro ids ts' w' ⟨rfl, hgone⟩
  split
  · refine Ok.bind ?_ (ok_delSessions ids hgone)
    rintro _ ts' w' ⟨rfl, hgone⟩
    refine hend (hgone.mono fun x hx => ?_)
    by_cases hid : x.1 ∈ ids
    · exact .inr hid
    · exact .inl ⟨hx, hid⟩
  · next hempty =>
    have hnil : ids = [] := List.length_eq_zero_iff.mp (Nat.eq_zero_of_not_pos hempty)
    exact hend (hgone.mono fun x hx => ⟨hx, by rw [hnil]; exact List.not_mem_nil⟩)

theorem ok_getSession (sessionId : Id) :
    Ok (revocation S) i c
      (fun session ts' w => ts' = ts ∧
        (session = none → AllGone c (fun x => x.1 = sessionId) w) ∧
          (session ≠ none → ¬ c.2.Gone sessionId))
      (fun _ ts' _ => ts' = ts) (perform (.getSession sessionId)) ts w := by
  refine Ok.aux_allowed (fun _ => True) (stable_const _ i _ True) trivial fun w' _ hp _ _ =>
    ⟨fun _ _ ha => (nomatch ha), fun ch r e he => ⟨fun session hr => ⟨rfl, ?_, ?_⟩,
      fun _ _ => rfl⟩⟩
  · subst hr
    obtain ⟨hsession, rfl⟩ := Env.command_ok he
    rintro rfl x hx rfl
    exact ⟨List.mem_map_of_mem (hp.stored x hx), hsession.symm⟩
  · subst hr
    obtain ⟨hsession, rfl⟩ := Env.command_ok he
    intro hfound hgone
    exact hfound (hsession.trans (hp.gone _ hgone).2)

theorem ok_revokeSession (sessionId userId : Id) :
    Ok (revocation S) i c (fun _ ts' w => ts' = ts ∧ AllGone c (fun x => x.1 = sessionId) w)
      (fun _ ts' _ => ts' = ts) (revokeSession sessionId userId) ts w := by
  refine Ok.bind ?_ (ok_getSession sessionId)
  rintro session ts' w' ⟨rfl, hnone, -⟩
  cases session with
  | none => exact ⟨rfl, hnone rfl⟩
  | some session =>
    dsimp only
    split
    · rfl
    · exact ok_logout sessionId userId

theorem ok_verifyRefreshToken (refreshToken : Jwt) :
    Ok (revocation S) i c
      (fun decoded ts' _ => ts' = ts ∧ ∀ token, decoded = some token → refreshToken = .refresh token)
      (fun _ ts' _ => ts' = ts) (verifyRefreshToken refreshToken) ts w := by
  cases refreshToken with
  | other => exact ⟨rfl, fun token h => (nomatch h)⟩
  | refresh t =>
    refine Ok.bind ?_ (steady_perform .now ts w)
    rintro ms ts' w' rfl
    refine ⟨rfl, fun token h => ?_⟩
    split at h
    · cases h
      rfl
    · cases h

theorem ok_refresh (refreshToken : Jwt) (fingerprint : String) :
    Ok (revocation S) i c
      (fun _ ts' _ => ts' = ts ∧ ∀ token, refreshToken = .refresh token →
        ¬ c.2.Gone token.sessionId)
      (fun _ ts' _ => ts' = ts) (refresh S refreshToken fingerprint) ts w := by
  refine Ok.attempt (X := fun _ ts' _ => ts' = ts) (Ok.bind ?_ (ok_verifyRefreshToken refreshToken))
    ?_
  · rintro decoded ts' w' ⟨rfl, hdecoded⟩
    cases decoded with
    | none => rfl
    | some decoded =>
      refine Ok.bind ?_ (ok_getSession decoded.sessionId)
      rintro session ts' w' ⟨rfl, -, hfound⟩
      cases session with
      | none => rfl
      | some session =>
        have hlive : ∀ token, refreshToken = .refresh token → ¬ c.2.Gone token.sessionId := by
          intro token htoken
          rw [hdecoded decoded rfl] at htoken
          cases htoken
          exact hfound (Option.some_ne_none session)
        refine Ok.mono (fun _ _ _ hq => ⟨hq, hlive⟩) (fun _ _ _ hx => hx) ?_
        dsimp only
        split
        · exact ((steady_composes.logout _ _).bind fun _ => Steady.raise _) _ _
        split
        · exact ((steady_logoutAll _).bind fun _ => Steady.raise _) _ _
        refine ((steady_query _).bind fun user => ?_ : Steady (revocation S) i c _) _ _
        cases user with
        | none => exact Steady.raise _
        | some user =>
          exact (steady_composes.generateAccessToken _ _ _).bind fun _ =>
            (steady_composes.generateRefreshToken S _ _).bind fun _ => (steady_perform _).bind fun _ =>
              (steady_perform _).bind fun _ => (steady_perform _).bind fun _ => Steady.pure _
  · rintro e ts' w' rfl
    cases e with
    | _ => rfl

theorem ok_byRefreshToken {revoke : RefreshToken → UserCode Unit} {R : RefreshToken → Id × Id → Prop}
    (h : ∀ token ts w, Ok (revocation S) i c (fun _ ts' w => ts' = ts ∧ AllGone c (R token) w)
      (fun _ ts' _ => ts' = ts) (revoke token) ts w) (refreshToken : Option Jwt) :
    Ok (revocation S) i c
      (fun result _ w => ∀ token, refreshToken = some (.refresh token) → result = .revoked →
        AllGone c (R token) w)
      (fun _ _ _ => True) (byRefreshToken revoke refreshToken) ts w := by
  cases refreshToken with
  | none => exact fun token ht => (nomatch ht)
  | some refreshToken =>
    refine Ok.bind ?_ (Ok.mono (fun _ _ _ hq => hq) (fun _ _ _ _ => trivial)
      (ok_verifyRefreshToken refreshToken))
    rintro decoded ts' w' ⟨rfl, hdecoded⟩
    cases decoded with
    | none => exact fun token _ hr => (nomatch hr)
    | some decoded =>
      refine Ok.attempt (X := fun _ _ _ => True) (Ok.bind ?_ (Ok.mono (fun _ _ _ hq => hq)
        (fun _ _ _ _ => trivial) (h decoded _ _))) ?_
      · rintro _ ts' w' ⟨rfl, hgone⟩ token ht -
        rw [hdecoded decoded rfl] at ht
        cases ht
        exact hgone
      · intro e ts' w' _ token _ hr
        cases hr

theorem ok_resetPassword (hc : c.1.lists = false) (passwordResetToken : Id) (password : String) :
    Ok (revocation S) i c (fun userId _ w => AllGone c (fun x => x.2 = userId) w)
      (fun _ _ _ => True) (resetPassword S passwordResetToken password) ts w := by
  have hsteady : ∀ {β : Type} {p : UserCode β} (ts w), Steady (revocation S) i c p →
      Ok (revocation S) i c (fun _ ts' _ => ts' = ts) (fun _ _ _ => True) p ts w :=
    fun ts w h => Ok.mono (fun _ _ _ hq => hq) (fun _ _ _ _ => trivial) (h ts w)
  refine Ok.bind ?_ (hsteady _ _ (steady_perform _))
  rintro email ts' w' rfl
  cases email with
  | none => trivial
  | some email =>
    refine Ok.bind ?_ (hsteady _ _ (steady_composes.requireUser email))
    rintro user ts' w' rfl
    refine Ok.bind ?_ (hsteady _ _ (steady_perform _))
    rintro salt ts' w' rfl
    refine Ok.bind ?_ (hsteady _ _ (steady_query _))
    rintro _ ts' w' rfl
    refine Ok.bind ?_ (Ok.mono (fun _ _ _ hq => hq) (fun _ _ _ _ => trivial) (ok_logoutAll hc user.id))
    rintro _ ts' w' ⟨rfl, hgone⟩
    refine Ok.bind ?_ (Ok.mono (fun _ _ _ hq => hq) (fun _ _ _ _ => trivial)
      ((steady_perform _).lasting revocation_lawful (lasting_allGone _) hgone))
    rintro _ ts' w' ⟨-, hgone⟩
    exact hgone

theorem ok_post {p : UserCode Out} (h : Steady (revocation S) i c p)
    (hr : ∀ out x u, ¬ Revokes c.1 out x u) (ha : ∀ out x, ¬ Accepts c.1 out x) :
    Ok (revocation S) i c (fun out _ w => (revocation S).post c out w) (fun _ _ _ => True) p ts w :=
  Ok.mono (fun out _ _ _ => ⟨fun _ _ hx => (hr out _ _ hx).elim, fun x hx => (ha out x hx).elim⟩)
    (fun _ _ _ _ => trivial) (h ts w)

theorem revocation_sound : (revocation S).Sound := by
  rintro i ⟨c, e⟩ w - -
  cases c with
  | login email password fingerprint ipAddress userAgent =>
    exact ok_post ((steady_composes.login S _ _ _ _ _).bind fun _ => Steady.pure _) (fun _ _ _ h => h)
      fun _ _ h => h
  | sessionMiddleware user =>
    exact ok_post ((steady_composes.sessionMiddleware (fun _ _ => steady_perform _) user).bind
      fun _ => Steady.pure _) (fun _ _ _ h => h) fun _ _ h => h
  | getSessions userId =>
    exact ok_post ((steady_composes.getSessions userId).bind fun _ => Steady.pure _) (fun _ _ _ h => h)
      fun _ _ h => h
  | issuePasswordResetToken email =>
    exact ok_post ((steady_composes.issuePasswordResetToken email).bind fun _ => Steady.pure _)
      (fun _ _ _ h => h) fun _ _ h => h
  | refresh refreshToken fingerprint =>
    refine Ok.bind ?_ (Ok.mono (fun _ _ _ hq => hq) (fun _ _ _ _ => trivial)
      (ok_refresh refreshToken fingerprint))
    rintro response ts' w' ⟨-, hlive⟩
    refine ⟨fun _ _ h => h.elim, fun id ha => ?_⟩
    cases refreshToken with
    | other => exact ha.elim
    | refresh token =>
      cases ha
      exact hlive token rfl
  | revokeSession sessionId userId =>
    refine Ok.bind ?_ (Ok.mono (fun _ _ _ hq => hq) (fun _ _ _ _ => trivial)
      (ok_revokeSession sessionId userId))
    rintro _ ts' w' ⟨-, hgone⟩
    exact ⟨hgone, fun _ h => h.elim⟩
  | logout refreshToken =>
    refine Ok.bind ?_ (ok_byRefreshToken (fun token ts w => ok_logout _ _) refreshToken)
    intro result ts' w' hgone
    refine ⟨fun x hx hr => ?_, fun _ h => h.elim⟩
    match refreshToken, result, hr with
    | some (.refresh token), .revoked, hr => exact hgone token rfl rfl x hx hr
  | logoutAll refreshToken =>
    refine Ok.bind ?_ (ok_byRefreshToken (fun token ts w => ok_logoutAll rfl _) refreshToken)
    intro result ts' w' hgone
    refine ⟨fun x hx hr => ?_, fun _ h => h.elim⟩
    match refreshToken, result, hr with
    | some (.refresh token), .revoked, hr => exact hgone token rfl rfl x hx hr
  | resetPassword passwordResetToken password =>
    refine Ok.bind ?_ (ok_resetPassword rfl passwordResetToken password)
    intro userId ts' w' hgone
    exact ⟨hgone, fun _ h => h.elim⟩

end Operations

section Runs

variable (S : Settings)

/-- The service with its users, before any session, the calls stamped when they arrive. -/
def start (d : Db) (now : Nat) : Pool (machine S).stamped := Pool.init d (.init now)

/-- All runs. -/
def allRuns : Scope (machine S).stamped := ⟨fun c w => c.2 = w.env, fun _ _ _ _ => True⟩

/-- The runs in which no record is written back that is gone, and no index is read to revoke
all sessions that misses one of them. -/
def carefulRuns : Scope (machine S).stamped where
  start c w := c.2 = w.env
  allow c _ w s := Careful c w.env s

variable {S}

theorem permits_allRuns (p : Pool (machine S).stamped) (a : Action userService)
    (_ : true = true) : (allRuns S).Permits p a := by
  cases a with
  | run i ch => exact fun _ _ _ _ => trivial
  | crash i => trivial
  | tick d => trivial

theorem carefulRuns_within : (carefulRuns S).Within (revocation S) where
  start c w h := by
    change c.2.Later w.env
    rw [h]
    exact Env.Later.refl _
  allow _ _ _ _ h := h

variable {d : Db} {now : Nat} {p p' : Pool (machine S).stamped}

theorem gone_of_revokes (h : Reachable (carefulRuns S) (start S d now) p)
    {x : Thread (machine S).stamped} (hx : x ∈ p.threads) {out : Out} (hout : x.returned = some out)
    {session : Id × Id} (hs : session ∈ x.call.2.stored)
    (hr : Revokes x.call.1 out session.1 session.2) : p.world.env.Gone session.1 := by
  have hwf := Reachable.wellFormed revocation_lawful revocation_sound carefulRuns_within
    (wellFormed_init trivial) h
  obtain ⟨i, hi⟩ := List.mem_iff_getElem?.mp hx
  exact (hwf.post hi hout).1 session hs hr

variable {id : Id} (h : Reachable (carefulRuns S) (start S d now) p)
  (hgone : p.world.env.Gone id) (h' : Reachable (carefulRuns S) p p')

include h hgone h'

theorem gone_later : p'.world.env.Gone id :=
  Reachable.keeps revocation_lawful revocation_sound carefulRuns_within
    (Reachable.wellFormed revocation_lawful revocation_sound carefulRuns_within
      (wellFormed_init trivial) h) ((lasting_gone _).keeps _) hgone h'

theorem not_accepts_of_gone : ∀ y ∈ p'.threads.drop p.threads.length, ∀ out,
    y.returned = some out → ¬ Accepts y.call.1 out id := by
  intro y hy out hout hacc
  have hwf := Reachable.wellFormed revocation_lawful revocation_sound carefulRuns_within
    (Reachable.wellFormed revocation_lawful revocation_sound carefulRuns_within
      (wellFormed_init trivial) h) h'
  obtain ⟨j, hj⟩ := List.mem_iff_getElem?.mp (List.mem_of_mem_drop hy)
  refine (hwf.post hj hout).2 _ hacc ?_
  refine Reachable.arrived (F := fun e : Env => e.Gone id) (fun c w hc => hc)
    (fun q hq => gone_later h hgone hq) h' y.call ?_
  rw [← List.map_drop]
  exact List.mem_map_of_mem hy

end Runs

section Samples

def sampleSettings : Settings where
  refreshExpiresIn := 2592000
  sha256 token := String.ofList (List.replicate token.iat 'a')
  bcryptHash _ password := "$2b$10$" ++ password
  bcryptCompare password hash := hash = "$2b$10$" ++ password
  geoLookup _ := none

def sampleTables : Db := ⟨[⟨1, "asha@example.com", "Asha", "Rao", "$2b$10$Railway@1", 0⟩]⟩

def sampleLogin : Call := .login "asha@example.com" "Railway@1" "phone" none none

end Samples

end RailwayBooking.UserService
