import RailwayBooking.Concurrency.Steps
import RailwayBooking.UserService.RevokedSessions

namespace RailwayBooking.UserService

open Concurrency

section Keys

/-- What the keys hold has been stored, each session for one user, and no record outlives
the time a session is given. -/
structure Env.Owned (e : Env) : Prop where
  records : ∀ id session t, e.sessions id = some ⟨session, t⟩ →
    (id, session.userId) ∈ e.stored ∧ t ≤ e.now + sessionTtlMs
  members : ∀ userId entry, e.userSessions userId = some entry → ∀ id ∈ entry.value,
    (id, userId) ∈ e.stored
  one : ∀ id u u', (id, u) ∈ e.stored → (id, u') ∈ e.stored → u = u'

/-- The index of the user holds the session for at least as long as `t`. -/
def Env.Covered (e : Env) (id userId t : Nat) : Prop :=
  ∃ entry, e.userSessions userId = some entry ∧ id ∈ entry.value ∧ t ≤ entry.expires

/-- Every session with a record is in the index of its user. -/
def Env.Indexed (e : Env) : Prop :=
  ∀ id session, e.session id = some session → id ∈ e.members session.userId

variable {e : Env} {a : Aux} {id userId t : Nat} {session : SessionRecord}

theorem Env.session_eq_some : e.session id = some session ↔
    ∃ t, e.sessions id = some ⟨session, t⟩ ∧ e.now < t :=
  Redis.Store.get_eq_some

theorem Env.mem_members : id ∈ e.members userId ↔
    ∃ entry, e.userSessions userId = some entry ∧ e.now < entry.expires ∧ id ∈ entry.value :=
  Redis.Store.mem_smembers

theorem Env.Covered.mem (h : e.Covered id userId t) (hlt : e.now < t) : id ∈ e.members userId := by
  obtain ⟨entry, hentry, hmem, hle⟩ := h
  exact Env.mem_members.mpr ⟨entry, hentry, Nat.lt_of_lt_of_le hlt hle, hmem⟩

theorem Env.Owned.of_members (h : e.Owned) (hm : id ∈ e.members userId) : (id, userId) ∈ e.stored := by
  obtain ⟨entry, hentry, -, hmem⟩ := Env.mem_members.mp hm
  exact h.members userId entry hentry id hmem

theorem Env.Owned.write (h : e.Owned) (hs : (id, session.userId) ∈ e.stored) :
    (e.write id session).Owned where
  records id' session' t' h' := by
    obtain ⟨rfl, heq⟩ | ⟨-, h'⟩ := Redis.Store.set_eq_some.mp h'
    · cases heq
      exact ⟨hs, Nat.le_refl _⟩
    · exact h.records id' session' t' h'
  members := h.members
  one := h.one

theorem Env.Owned.store (h : e.Owned) (hu : session.userId = userId)
    (hnew : id ∉ e.stored.map Prod.fst) : (e.store id session userId).Owned where
  records id' session' t' h' := by
    obtain ⟨rfl, heq⟩ | ⟨-, h'⟩ := Redis.Store.set_eq_some.mp h'
    · cases heq
      exact ⟨by rw [hu]; exact List.mem_cons_self, Nat.le_refl _⟩
    · obtain ⟨hmem, hle⟩ := h.records id' session' t' h'
      exact ⟨List.mem_cons_of_mem _ hmem, hle⟩
  members userId' entry h' id' hid' := by
    obtain ⟨rfl, rfl⟩ | ⟨-, h'⟩ := Redis.Store.set_eq_some.mp h'
    · obtain rfl | hmem := List.mem_insert_iff.mp hid'
      · exact List.mem_cons_self
      · exact List.mem_cons_of_mem _ (h.of_members hmem)
    · exact List.mem_cons_of_mem _ (h.members userId' entry h' id' hid')
  one id' u u' hu₁ hu₂ := by
    have hfst : ∀ {x : Id × Id}, x ∈ e.stored → x.1 ≠ id := by
      rintro x hx rfl
      exact hnew (List.mem_map_of_mem hx)
    obtain heq | hu₁ := List.mem_cons.mp hu₁
    · obtain heq' | hu₂ := List.mem_cons.mp hu₂
      · rw [(Prod.mk.inj heq).2, (Prod.mk.inj heq').2]
      · exact absurd (Prod.mk.inj heq).1 (hfst hu₂)
    · obtain heq' | hu₂ := List.mem_cons.mp hu₂
      · exact absurd (Prod.mk.inj heq').1 (hfst hu₁)
      · exact h.one id' u u' hu₁ hu₂

theorem Env.Owned.after (h : e.Owned)
    (hset : ∀ id session, a = .setSession id session → (id, session.userId) ∈ e.stored)
    (hmulti : ∀ id session userId, a = .multi id session userId →
      session.userId = userId ∧ id ∉ e.stored.map Prod.fst) : (e.after a).Owned := by
  cases a with
  | setSession id session => exact h.write (hset id session rfl)
  | multi id session userId =>
    obtain ⟨hu, hnew⟩ := hmulti id session userId rfl
    exact h.store hu hnew
  | delSessions ids =>
    refine ⟨fun id session t hs => ?_, h.members, h.one⟩
    change (if _ then _ else _) = _ at hs
    rw [Option.ite_none_left_eq_some] at hs
    exact h.records id session t hs.2
  | srem userId id =>
    refine ⟨h.records, fun userId' entry hentry id' hid' => ?_, h.one⟩
    obtain ⟨entry', hentry', hsub⟩ := Redis.Store.srem_mem hentry
    exact h.members userId' entry' hentry' id' (hsub id' hid')
  | expire userId =>
    refine ⟨h.records, fun userId' entry hentry id' hid' => ?_, h.one⟩
    have hentry := (Redis.Store.expire_eq userId').symm.trans hentry
    obtain ⟨entry', hentry', rfl⟩ := Option.map_eq_some_iff.mp hentry
    refine h.members userId' entry' hentry' id' ?_
    split at hid'
    · exact hid'
    · exact hid'
  | delUserSessions userId =>
    refine ⟨h.records, fun userId' entry hentry => ?_, h.one⟩
    exact h.members userId' entry (Redis.Store.del_eq_some.mp hentry).2
  | _ => exact ⟨h.records, h.members, h.one⟩

theorem Env.Owned.failed (h : e.Owned) : ({ e with failed := true } : Env).Owned :=
  ⟨h.records, h.members, h.one⟩

theorem Env.stored_after {x : Id × Id} (h : x ∈ e.stored) : x ∈ (e.after a).stored := by
  cases a with
  | multi => exact List.mem_cons_of_mem _ h
  | _ => exact h

end Keys

section Conditions

def Call.session? : Call → Option Id
  | .refresh (.refresh token) _ => some token.sessionId
  | .sessionMiddleware (some ⟨_, some sessionId⟩) => some sessionId
  | _ => none

/-- An id is taken from an index only when its session has no record, an index is deleted
only when no session of its user has one, and an index whose time is renewed holds the
session that was written back. -/
structure Keeping (c : Call) (e : Env) (s : Stmt userService) : Prop where
  removal : ∀ userId id, s = .aux (.srem userId id) → ∀ session, e.session id = some session →
    session.userId ≠ userId
  deletion : ∀ userId, s = .aux (.delUserSessions userId) → ∀ x ∈ e.stored, x.2 = userId →
    e.session x.1 = none
  renewal : ∀ userId, s = .aux (.expire userId) → ∀ id, c.session? = some id →
    e.session id ≠ none → id ∈ e.members userId

variable {c : Call} {e : Env} {a : Aux} {id t : Nat} {session : SessionRecord}

theorem covered_after (ho : e.Owned) (hk : Keeping c e (.aux a))
    (hset : ∀ s, a ≠ .setSession id s)
    (hmulti : ∀ id s userId, a = .multi id s userId → s.userId = userId)
    (hrec : (e.after a).sessions id = some ⟨session, t⟩) (hlt : e.now < t) :
    (e.after a).Covered id session.userId t ∨ e.sessions id = some ⟨session, t⟩ ∧
      (e.Covered id session.userId t → (e.after a).Covered id session.userId t) := by
  cases a with
  | setSession id' s =>
    obtain ⟨rfl, -⟩ | ⟨-, hrec⟩ := Redis.Store.set_eq_some.mp hrec
    · exact absurd rfl (hset s)
    · exact .inr ⟨hrec, fun h => h⟩
  | multi id' s userId =>
    obtain rfl := hmulti id' s userId rfl
    obtain ⟨rfl, heq⟩ | ⟨-, hrec⟩ := Redis.Store.set_eq_some.mp hrec
    · cases heq
      exact .inl ⟨_, Redis.Store.set_eq_some.mpr (.inl ⟨rfl, rfl⟩),
        List.mem_insert_self, Nat.le_refl _⟩
    · refine .inr ⟨hrec, fun hcov => ?_⟩
      by_cases hu : session.userId = s.userId
      · refine ⟨_, Redis.Store.set_eq_some.mpr (.inl ⟨hu, rfl⟩), ?_, (ho.records _ _ _ hrec).2⟩
        rw [hu] at hcov
        exact List.mem_insert_of_mem (hcov.mem hlt)
      · obtain ⟨entry, hentry, h⟩ := hcov
        exact ⟨entry, Redis.Store.set_eq_some.mpr (.inr ⟨hu, hentry⟩), h⟩
  | delSessions ids =>
    change (if _ then _ else _) = _ at hrec
    rw [Option.ite_none_left_eq_some] at hrec
    exact .inr ⟨hrec.2, fun h => h⟩
  | srem userId id' =>
    refine .inr ⟨hrec, fun ⟨entry, hentry, hmem, hle⟩ => ?_⟩
    have hlive : e.session id = some session := Env.session_eq_some.mpr ⟨t, hrec, hlt⟩
    by_cases hu : session.userId = userId
    · have hne : id ≠ id' := by
        rintro rfl
        exact hk.removal userId id rfl session hlive hu
      subst hu
      obtain ⟨entry', hentry', hmem', hexp⟩ := Redis.Store.srem_keeps hentry hmem hne
      exact ⟨entry', hentry', hmem', by rw [hexp]; exact hle⟩
    · exact ⟨entry, (Redis.Store.srem_other hu).trans hentry, hmem, hle⟩
  | expire userId =>
    refine .inr ⟨hrec, fun ⟨entry, hentry, hmem, hle⟩ => ?_⟩
    obtain ⟨entry', hentry', hvalue, hexp⟩ := Redis.Store.expire_keeps hentry
    refine ⟨entry', hentry', by rw [hvalue]; exact hmem, ?_⟩
    obtain hexp | hexp := hexp
    · rw [hexp]
      exact hle
    · rw [hexp]
      exact (ho.records _ _ _ hrec).2
  | delUserSessions userId =>
    refine .inr ⟨hrec, fun ⟨entry, hentry, h⟩ => ⟨entry, ?_, h⟩⟩
    have hlive : e.session id = some session := Env.session_eq_some.mpr ⟨t, hrec, hlt⟩
    refine Redis.Store.del_eq_some.mpr ⟨fun hu => ?_, hentry⟩
    have hnone := hk.deletion userId rfl _ (ho.records _ _ _ hrec).1 hu
    cases hnone.symm.trans hlive
  | _ => exact .inr ⟨hrec, fun h => h⟩

theorem covered_expire {userId : Id} (ho : e.Owned) (hrec : e.sessions id = some ⟨session, t⟩)
    (hm : id ∈ e.members userId) : (e.expire userId).Covered id session.userId t := by
  obtain ⟨hown, hbound⟩ := ho.records _ _ _ hrec
  obtain rfl := ho.one id _ _ (ho.of_members hm) hown
  obtain ⟨entry, hentry, hlive, hmem⟩ := Env.mem_members.mp hm
  refine ⟨{ entry with expires := e.now + sessionTtlMs }, ?_, hmem, hbound⟩
  refine (Redis.Store.expire_eq _).trans ?_
  rw [hentry, Option.map_some, if_pos ⟨rfl, hlive⟩]

end Conditions

section Code

variable (c : Call) {α β : Type}

/-- A session is written back with the user it was read with, by the request that names it,
and the next command renews the time of an index. -/
def Demands (known : List (Id × Id)) : (s : Stmt userService) →
    (Except Err s.Ans → UserCode α) → Prop
  | .aux (.setSession id session), k => (id, session.userId) ∈ known ∧ c.session? = some id ∧
      ∃ userId k', k (.ok ()) = .call (.aux (.expire userId)) k'
  | .aux (.multi _ session userId), _ => session.userId = userId
  | _, _ => True

def learned : (s : Stmt userService) → Except Err s.Ans → List (Id × Id)
  | .aux (.getSession id), .ok (some session) => [(id, session.userId)]
  | _, _ => []

def Regular : UserCode α → List (Id × Id) → Prop
  | .ret _, _ => True
  | .raise _, _ => True
  | .call s k, known => Demands c known s k ∧ ∀ r, Regular (k r) (learned s r ++ known)

variable {c} {known : List (Id × Id)}

theorem Regular.handle {p : UserCode α} {f : α → UserCode β} {g : Err → UserCode β}
    (h : Regular c p known)
    (hf : ∀ a known', (∀ x ∈ known, x ∈ known') → Regular c (f a) known')
    (hg : ∀ e known', Regular c (g e) known') : Regular c (p.handle f g) known := by
  induction p generalizing known with
  | ret a => exact hf a known fun _ h => h
  | raise e => exact hg e known
  | call s k ih =>
    obtain ⟨hdem, hk⟩ := h
    refine ⟨?_, fun r => ih r (hk r) fun a known' hsub =>
      hf a known' fun x hx => hsub x (List.mem_append_right _ hx)⟩
    cases s with
    | aux a =>
      cases a with
      | setSession id session =>
        obtain ⟨hknown, hc, userId, k', hnext⟩ := hdem
        exact ⟨hknown, hc, userId, _, congrArg (fun p => p.handle f g) hnext⟩
      | multi id session userId => exact hdem
      | _ => trivial
    | _ => trivial

theorem regular_composes : Composes (fun α (p : UserCode α) => ∀ known, Regular c p known) where
  pure _ _ := trivial
  raise _ _ := trivial
  handle hp hf hg known := (hp known).handle (fun a known' _ => hf a known') hg
  perform a ha known := by
    refine ⟨?_, fun r => ?_⟩
    · cases a with
      | setSession | delUserSessions => exact ha.elim
      | multi => exact ha
      | _ => trivial
    · cases r with
      | ok x => trivial
      | error e => trivial
  query q known := by
    refine ⟨trivial, fun r => ?_⟩
    cases r with
    | ok x => trivial
    | error e => trivial

theorem regular_logoutAll (userId : Id) (known : List (Id × Id)) :
    Regular c (logoutAll userId) known := by
  have hc : Composes (fun α (p : UserCode α) => ∀ known, Regular c p known) := regular_composes
  refine hc.logoutAll (fun userId known => ⟨trivial, fun r => ?_⟩) userId known
  cases r with
  | ok x => trivial
  | error e => trivial

theorem regular_getSession {id : Id} {f : Option SessionRecord → UserCode α}
    (hnone : ∀ known, Regular c (f none) known)
    (hsome : ∀ session known, (id, session.userId) ∈ known → Regular c (f (some session)) known) :
    Regular c (perform (.getSession id) >>= f) known := by
  refine ⟨trivial, fun r => ?_⟩
  match r with
  | .error e => trivial
  | .ok none => exact hnone _
  | .ok (some session) => exact hsome session _ List.mem_cons_self

theorem regular_writeBack {id : Id} {session : SessionRecord} {p : UserCode α}
    (hknown : (id, session.userId) ∈ known) (hc : c.session? = some id)
    (hnext : ∃ userId k, p = .call (.aux (.expire userId)) k)
    (hp : ∀ known, Regular c p known) :
    Regular c (perform (.setSession id session) >>= fun _ => p) known := by
  refine ⟨⟨hknown, hc, hnext⟩, fun r => ?_⟩
  cases r with
  | error e => trivial
  | ok x => exact hp _

section Calls

variable {S : Settings}

theorem regular_sessionMiddleware (user : Option RequestUser) (known : List (Id × Id)) :
    Regular (.sessionMiddleware user) (body S (.sessionMiddleware user)) known := by
  refine Regular.handle ?_ (fun _ _ _ => trivial) fun _ _ => trivial
  match user with
  | none | some ⟨_, none⟩ => trivial
  | some ⟨userId, some sessionId⟩ =>
    refine regular_getSession (fun _ => trivial) fun session known hknown => ?_
    refine (regular_composes.perform .now trivial known).handle (fun lastUsedAt known' hsub => ?_)
      fun _ _ => trivial
    refine regular_writeBack (c := .sessionMiddleware (some ⟨userId, some sessionId⟩)) ?_ rfl
      ⟨userId, _, rfl⟩ (regular_composes.perform (.expire userId) trivial)
    exact hsub _ hknown

theorem regular_rotate (token : RefreshToken) (fingerprint fingerprint' : String)
    (known : List (Id × Id)) :
    Regular (.refresh (.refresh token) fingerprint') (rotate S (.refresh token) fingerprint)
      known := by
  refine ⟨trivial, fun r => ?_⟩
  cases r with
  | error e => trivial
  | ok ms =>
    change Regular _ (Program.handle (.ret (if ms / 1000 < token.exp then some token else none)) _ _) _
    split
    · refine regular_getSession (fun _ => trivial) fun session known hknown => ?_
      dsimp only
      split
      · exact regular_composes.bind (regular_composes.logout _ _)
          (fun _ => regular_composes.raise _) known
      split
      · exact regular_composes.bind (regular_logoutAll _)
          (fun _ => regular_composes.raise _) known
      refine (regular_composes.query _ known).handle (fun user known hsub => ?_) fun _ _ => trivial
      replace hknown := hsub _ hknown
      cases user with
      | none => trivial
      | some user =>
        refine (regular_composes.generateAccessToken _ _ _ known).handle
          (fun accessToken known hsub => ?_) fun _ _ => trivial
        replace hknown := hsub _ hknown
        refine (regular_composes.generateRefreshToken S _ _ known).handle
          (fun newRefreshToken known hsub => ?_) fun _ _ => trivial
        replace hknown := hsub _ hknown
        refine (regular_composes.perform .now trivial known).handle (fun lastUsedAt known hsub => ?_)
          fun _ _ => trivial
        refine regular_writeBack ?_ rfl ⟨token.sub, _, rfl⟩
          (regular_composes.bind (regular_composes.perform (.expire token.sub) trivial)
            fun _ => regular_composes.pure _)
        exact hsub _ hknown
    · trivial

theorem regular_refresh (refreshToken : Jwt) (fingerprint : String) (known : List (Id × Id)) :
    Regular (.refresh refreshToken fingerprint) (body S (.refresh refreshToken fingerprint)) known := by
  refine Regular.handle (Regular.handle ?_ (fun _ _ _ => trivial) fun e _ => ?_)
    (fun _ _ _ => trivial) fun _ _ => trivial
  · cases refreshToken with
    | other => trivial
    | refresh token => exact regular_rotate token fingerprint fingerprint known
  · cases e with
    | _ => trivial

theorem regular_body (c : Call) (known : List (Id × Id)) : Regular c (body S c) known := by
  have hc : Composes (fun α (p : UserCode α) => ∀ known, Regular c p known) := regular_composes
  cases c with
  | login => exact hc.bind (hc.login S _ _ _ _ _) (fun _ => hc.pure _) known
  | refresh refreshToken fingerprint => exact regular_refresh refreshToken fingerprint known
  | sessionMiddleware user => exact regular_sessionMiddleware user known
  | getSessions userId => exact hc.bind (hc.getSessions userId) (fun _ => hc.pure _) known
  | revokeSession => exact hc.bind (hc.revokeSession _ _) (fun _ => hc.pure _) known
  | logout refreshToken =>
    exact hc.bind (hc.byRefreshToken (fun _ => hc.logout _ _) refreshToken) (fun _ => hc.pure _) known
  | logoutAll refreshToken =>
    exact hc.bind (hc.byRefreshToken (fun _ => regular_logoutAll _) refreshToken) (fun _ => hc.pure _)
      known
  | issuePasswordResetToken =>
    exact hc.bind (hc.issuePasswordResetToken _) (fun _ => hc.pure _) known
  | resetPassword => exact hc.bind (hc.resetPassword S regular_logoutAll _ _) (fun _ => hc.pure _) known

end Calls

end Code

section Runs

variable (S : Settings)

/-- The runs in which every command keeps the indexes. -/
def keepingRuns : Scope (machine S) where
  start _ _ := True
  allow c _ w s := Keeping c w.env s

variable {S}

def Renewing (threads : List (Thread (machine S))) (id : Id) : Prop :=
  ∃ (j : Nat) (c : Call) (code : Option (UserCode Out)), threads[j]? = some ⟨c, code⟩ ∧
    c.session? = some id ∧ (code = none ∨ ∃ userId k, code = some (.call (.aux (.expire userId)) k))

/-- The keys are owned, the code of every call is regular, and a session whose index will not
hold it long enough is being renewed. -/
structure Kept (p : Pool (machine S)) : Prop where
  owned : p.world.env.Owned
  regular : ∀ (i : Nat) c code, p.threads[i]? = some ⟨c, some code⟩ →
    ∃ known, (∀ x ∈ known, x ∈ p.world.env.stored) ∧ Regular c code known
  covered : p.world.env.failed = false → ∀ id session t,
    p.world.env.sessions id = some ⟨session, t⟩ → p.world.env.now < t →
      p.world.env.Covered id session.userId t ∨ Renewing p.threads id

theorem kept_init (d : Db) (now : Nat) : Kept (Pool.init (M := machine S) d (.init now)) where
  owned := ⟨fun _ _ _ h => (nomatch h), fun _ _ h => (nomatch h), fun _ _ _ h => (nomatch h)⟩
  regular i c code h := by simp [Pool.init] at h
  covered _ _ _ _ h := nomatch h

theorem Renewing.mono {ts ts' : List (Thread (machine S))} {id : Id} (h : Renewing ts id)
    (hts : ∀ (j : Nat) x, ts[j]? = some x → ts'[j]? = some x) : Renewing ts' id := by
  obtain ⟨j, c, code, hj, h⟩ := h
  exact ⟨j, c, code, hts j _ hj, h⟩

theorem Kept.spawn {p : Pool (machine S)} (h : Kept p) (c : Call) : Kept (p.spawn c) where
  owned := h.owned
  regular i c' code hi := by
    rw [Pool.spawn, List.getElem?_append] at hi
    split at hi
    · exact h.regular i c' code hi
    · obtain ⟨_, hx⟩ := List.getElem?_eq_some_iff.mp hi
      simp only [List.getElem_singleton, Thread.mk.injEq, Option.some.injEq] at hx
      obtain ⟨rfl, rfl⟩ := hx
      exact ⟨[], fun _ hx => absurd hx List.not_mem_nil, regular_body c []⟩
  covered hf id session t hrec hlt := by
    obtain hcov | hren := h.covered hf id session t hrec hlt
    · exact .inl hcov
    · refine .inr (hren.mono fun j x hj => ?_)
      rw [Pool.spawn, List.getElem?_append_left (List.getElem?_eq_some_iff.mp hj).1]
      exact hj

theorem Renewing.set {ts : List (Thread (machine S))} {id : Id} {i : Nat} {c : Call}
    {s : Stmt userService} {k : Except Err s.Ans → UserCode Out} {x : Thread (machine S)}
    (h : Renewing ts id) (hi : ts[i]? = some ⟨c, some (.call s k)⟩) :
    Renewing (ts.set i x) id ∨ c.session? = some id ∧ ∃ userId, s = .aux (.expire userId) := by
  obtain ⟨j, c', code, hj, hid, hcode⟩ := h
  by_cases hij : i = j
  · subst hij
    rw [hi] at hj
    cases hj
    obtain hcode | ⟨userId, k', hcode⟩ := hcode
    · cases hcode
    · cases hcode
      exact .inr ⟨hid, userId, rfl⟩
  · exact .inl ⟨j, c', code, (List.getElem?_set_ne hij).trans hj, hid, hcode⟩

theorem Kept.regular_set {p : Pool (machine S)} (h : Kept p) {i : Nat} {x : Thread (machine S)}
    {stored' : List (Id × Id)} (hsub : ∀ x ∈ p.world.env.stored, x ∈ stored')
    (hx : ∀ c code, x = ⟨c, some code⟩ →
      ∃ known, (∀ x ∈ known, x ∈ stored') ∧ Regular c code known) :
    ∀ (j : Nat) c code, (p.threads.set i x)[j]? = some ⟨c, some code⟩ →
      ∃ known, (∀ x ∈ known, x ∈ stored') ∧ Regular c code known := by
  intro j c code hj
  obtain ⟨-, heq⟩ | ⟨-, hj⟩ := thread_set hj
  · exact hx c code heq
  · obtain ⟨known, hknown, hreg⟩ := h.regular j c code hj
    exact ⟨known, fun x hx => hsub x (hknown x hx), hreg⟩

theorem learned_owned {e : Env} (ho : e.Owned) {i : Nat} {a : Aux} {ch : Choice Empty}
    {r : Except Err (AuxAns a)} {e' : Env} (h : ask e i a ch = some (r, e')) :
    ∀ x ∈ learned (.aux a) r, x ∈ e.stored := by
  intro x hx
  cases a with
  | getSession id =>
    cases r with
    | error e => cases hx
    | ok found =>
      cases found with
      | none => cases hx
      | some session =>
        obtain ⟨hsession, -⟩ := Env.command_ok h
        obtain ⟨t, hrec, -⟩ := Env.session_eq_some.mp hsession.symm
        rw [List.mem_singleton.mp hx]
        exact (ho.records id session t hrec).1
  | _ => cases hx

theorem Kept.asked {p : Pool (machine S)} (h : Kept p) {i : Nat} {c : Call} {a : Aux}
    {k : Except Err (AuxAns a) → UserCode Out} {r : Except Err (AuxAns a)} {e : Env}
    {ch : Choice Empty} (hi : p.threads[i]? = some ⟨c, some (.call (.aux a) k)⟩)
    (hk : Keeping c p.world.env (.aux a)) (hask : ask p.world.env i a ch = some (r, e)) :
    Kept ⟨{ p.shared with world := p.world.setEnv e }, p.threads.set i ⟨c, some (k r)⟩⟩ := by
  obtain ⟨known, hknown, hdem, hreg⟩ := h.regular i c _ hi
  have hmulti : ∀ id s userId, a = .multi id s userId → s.userId = userId := by
    rintro id s userId rfl
    exact hdem
  have hafter : (p.world.env.after a).Owned := by
    refine h.owned.after ?_ fun id s userId ha => ⟨hmulti id s userId ha, ?_⟩
    · rintro id session rfl
      exact hknown _ hdem.1
    · subst ha
      exact Env.multi_new hask
  have hstored : ∀ x ∈ p.world.env.stored, x ∈ e.stored := by
    intro x hx
    obtain rfl | rfl | rfl := Env.ask_after hask
    · exact Env.stored_after hx
    · exact hx
    · exact Env.stored_after hx
  refine ⟨?_, h.regular_set hstored ?_, fun hf id session t hrec hlt => ?_⟩
  · change e.Owned
    obtain rfl | rfl | rfl := Env.ask_after hask
    · exact hafter
    · exact h.owned.failed
    · exact hafter.failed
  · intro c' code heq
    cases heq
    refine ⟨_, fun x hx => ?_, hreg r⟩
    obtain hx | hx := List.mem_append.mp hx
    · exact hstored x (learned_owned h.owned hask x hx)
    · exact hstored x (hknown x hx)
  · change e.failed = false at hf
    change e.sessions id = _ at hrec
    change e.now < t at hlt
    change e.Covered id session.userId t ∨ _
    obtain ⟨rfl, hf'⟩ := Env.ask_unfailed hask hf
    rw [Env.after_now] at hlt
    by_cases hset : ∃ s, a = .setSession id s
    · -- the session has just been written back, and the renewal is next
      obtain ⟨s, rfl⟩ := hset
      obtain ⟨-, hid, userId, k', hnext⟩ := hdem
      obtain ⟨rfl, -⟩ | ⟨⟨_, _⟩, hfail⟩ := Env.command_cases (Option.some.inj hask)
      · exact .inr ⟨i, c, _, List.getElem?_set_self (List.getElem?_eq_some_iff.mp hi).1, hid,
          .inr ⟨userId, k', congrArg some hnext⟩⟩
      · obtain heq | heq := hfail
        · cases hf.symm.trans (congrArg Env.failed heq)
        · cases hf.symm.trans (congrArg Env.failed heq)
    · push Not at hset
      obtain hcov | ⟨hold, hkeeps⟩ := covered_after h.owned hk hset hmulti hrec hlt
      · exact .inl hcov
      obtain hcov | hren := h.covered hf' id session t hold hlt
      · exact .inl (hkeeps hcov)
      obtain hren | ⟨hid, userId, ha⟩ := hren.set hi
      · exact .inr hren
      · cases ha
        have hlive : p.world.env.session id = some session := Env.session_eq_some.mpr ⟨t, hold, hlt⟩
        refine .inl (covered_expire h.owned hold (hk.renewal userId rfl id hid ?_))
        rw [hlive]
        exact Option.some_ne_none session

theorem Kept.act {p p' : Pool (machine S)} (h : Kept p) {a : Action userService}
    (ha : (keepingRuns S).Permits p a) (hp : p.act a = some p') : Kept p' := by
  cases Pool.step_of_act hp with
  | asked hi hask => exact h.asked hi (ha _ _ _ hi) hask
  | @other i ch c s k r σ hi hs henv =>
    obtain ⟨known, hknown, -, hreg⟩ := h.regular i c _ hi
    refine ⟨henv ▸ h.owned, ?_, fun hf id session t hrec hlt => ?_⟩
    · change ∀ (j : Nat) c' code, (p.threads.set i _)[j]? = some ⟨c', some code⟩ →
        ∃ known, (∀ x ∈ known, x ∈ σ.world.env.stored) ∧ _
      rw [henv]
      refine h.regular_set (fun _ hx => hx) fun c' code heq => ?_
      cases heq
      refine ⟨known, hknown, ?_⟩
      have hnil : learned s r = [] := by
        cases s with
        | aux a => exact absurd rfl (hs a)
        | _ => rfl
      have hr := hreg r
      rw [hnil] at hr
      exact hr
    · change σ.world.env.failed = false at hf
      change σ.world.env.sessions id = _ at hrec
      change σ.world.env.now < t at hlt
      change σ.world.env.Covered id session.userId t ∨ _
      rw [henv] at hf hrec hlt ⊢
      obtain hcov | hren := h.covered hf id session t hrec hlt
      · exact .inl hcov
      · obtain hren | ⟨-, userId, heq⟩ := hren.set hi
        · exact .inr hren
        · exact absurd heq (hs _)
  | @crashed i c s k hi =>
    refine ⟨h.owned, h.regular_set (fun _ hx => hx) fun c' code heq => (nomatch heq),
      fun hf id session t hrec hlt => ?_⟩
    obtain hcov | ⟨j, c', code, hj, hid, hcode⟩ := h.covered hf id session t hrec hlt
    · exact .inl hcov
    · by_cases hij : i = j
      · subst hij
        rw [hi] at hj
        cases hj
        exact .inr ⟨i, c, none, List.getElem?_set_self (List.getElem?_eq_some_iff.mp hi).1, hid,
          .inl rfl⟩
      · exact .inr ⟨j, c', code, (List.getElem?_set_ne hij).trans hj, hid, hcode⟩
  | ticked d =>
    refine ⟨⟨fun id session t hrec => ?_, h.owned.members, h.owned.one⟩, h.regular,
      fun hf id session t hrec hlt => h.covered hf id session t hrec (Nat.lt_of_le_of_lt
        (Nat.le_add_right _ d) hlt)⟩
    obtain ⟨hown, hle⟩ := h.owned.records id session t hrec
    refine ⟨hown, hle.trans ?_⟩
    exact Nat.add_le_add_right (Nat.le_add_right _ d) _

theorem kept_reachable {d : Db} {now : Nat} {p : Pool (machine S)}
    (h : Reachable (keepingRuns S) (Pool.init d (.init now)) p) : Kept p := by
  induction h with
  | start => exact kept_init d now
  | spawn _ _ ih => exact ih.spawn _
  | act _ ha hp ih => exact ih.act ha hp

/-- In every run whose commands all keep the indexes, and none of which has failed, the
indexes are complete whenever no call is in progress. -/
theorem indexed_of_keepingRuns {d : Db} {now : Nat} {p : Pool (machine S)}
    (h : Reachable (keepingRuns S) (Pool.init d (.init now)) p) (hq : p.Quiet)
    (hf : p.world.env.failed = false) : p.world.env.Indexed := by
  have hkept := kept_reachable h
  intro id session hsession
  obtain ⟨t, hrec, hlt⟩ := Env.session_eq_some.mp hsession
  obtain hcov | ⟨j, c, code, hj, -, hcode⟩ := hkept.covered hf id session t hrec hlt
  · exact hcov.mem hlt
  · have hfinished := hq _ (List.mem_of_getElem? hj)
    obtain rfl | ⟨userId, k, rfl⟩ := hcode
    · cases hfinished
    · cases hfinished

def keepingTest (c : Call) (w : World userService Call) : Stmt userService → Bool
  | .aux (.srem userId id) => (w.env.session id).all (fun session => session.userId ≠ userId)
  | .aux (.delUserSessions userId) =>
    w.env.stored.all (fun x => x.2 ≠ userId || (w.env.session x.1).isNone)
  | .aux (.expire userId) =>
    c.session?.all (fun id => (w.env.session id).isNone || id ∈ w.env.members userId)
  | _ => true

theorem keeping_of_test {c : Call} {w : World userService Call} {s : Stmt userService}
    (h : keepingTest c w s = true) : Keeping c w.env s where
  removal userId id hs session hsession := by
    rw [hs] at h
    simpa [keepingTest, hsession] using h
  deletion userId hs x hx hu := by
    rw [hs] at h
    have hx' := List.all_eq_true.mp h x hx
    simpa [hu] using hx'
  renewal userId hs id hid hlive := by
    rw [hs] at h
    simpa [keepingTest, hid, hlive] using h

/-- Sessions are stored, listed while one of them is in use, revoked and rotated, and after a
logout from all a new one is stored. -/
theorem indexed_again : ∃ p : Pool (machine sampleSettings),
    Reachable (keepingRuns sampleSettings) (Pool.init sampleTables (.init 0)) p ∧ p.Quiet ∧
      p.threads.length = 8 ∧ (p.world.env.session 60).isSome ∧ p.world.env.Indexed := by
  let token : RefreshToken := ⟨1, 5, 0, 2592000⟩
  obtain ⟨p, hp, ht⟩ := exists_reachable (M := machine sampleSettings)
    (keepingRuns sampleSettings) (Pool.init sampleTables (.init 0)) (guards keepingTest)
    [.call sampleLogin, .burst 0 30, .call sampleLogin, .burst 1 30,
      .call (.sessionMiddleware (some ⟨1, some 0⟩)), .burst 2 2, .call (.getSessions 1), .burst 3 30,
      .burst 2 30, .call (.revokeSession 0 1), .burst 4 30, .step (.tick 5000),
      .call (.refresh (.refresh token) "phone"), .burst 5 30,
      .call (.logoutAll (some (.refresh token))), .burst 6 30, .call sampleLogin, .burst 7 30]
    (fun p => decide (p.threads.length = 8) && p.threads.all Thread.finished &&
      !p.world.env.failed && (p.world.env.session 60).isSome)
    (permits_guards fun _ _ _ _ h => keeping_of_test h) (fun _ _ _ _ _ => trivial) (by decide +kernel)
  simp only [Bool.and_eq_true, decide_eq_true_eq, List.all_eq_true, Bool.not_eq_true'] at ht
  obtain ⟨⟨⟨hlength, hquiet⟩, hfailed⟩, hlive⟩ := ht
  exact ⟨p, hp, hquiet, hlength, hlive, indexed_of_keepingRuns hp hquiet hfailed⟩

/-- A session is stored after a logout from all has read the index, and before it deletes
it. -/
theorem not_indexed : ¬ ∀ (S : Settings) (d : Db) (now : Nat) (p : Pool (machine S)),
    Reachable (Scope.calls fun _ => True) (Pool.init d (Env.init now)) p → p.Quiet →
      p.world.env.failed = false → p.world.env.Indexed := by
  intro hall
  obtain ⟨p, hp, ht⟩ := exists_reachable (M := machine sampleSettings)
    (Scope.calls fun _ => True) (Pool.init sampleTables (.init 0)) (fun _ _ => true)
    [.call sampleLogin, .burst 0 30, .call (.logoutAll (some (.refresh ⟨1, 0, 0, 2592000⟩))),
      .burst 1 2, .call sampleLogin, .burst 2 30, .burst 1 30]
    (fun p => p.threads.all Thread.finished && !p.world.env.failed &&
      (p.world.env.session 8).any (fun session => 8 ∉ p.world.env.members session.userId))
    (fun p a _ => permits_calls p a) (fun _ _ _ _ _ => trivial) (by decide +kernel)
  simp only [Bool.and_eq_true, List.all_eq_true, Bool.not_eq_true'] at ht
  obtain ⟨⟨hquiet, hfailed⟩, hmissing⟩ := ht
  cases hsession : p.world.env.session 8 with
  | none =>
    rw [hsession] at hmissing
    cases hmissing
  | some session =>
    rw [hsession] at hmissing
    exact of_decide_eq_true hmissing (hall sampleSettings sampleTables 0 p hp hquiet hfailed 8
      session hsession)

end Runs

end RailwayBooking.UserService
