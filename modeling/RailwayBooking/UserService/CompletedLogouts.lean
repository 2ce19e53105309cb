import RailwayBooking.Concurrency.Journal
import RailwayBooking.UserService.RevokedSessions

namespace RailwayBooking.UserService

open Concurrency

/-- Of a call: the sessions that the latest `logoutAll` has to revoke, those its `DEL`
commands have deleted, and those that its completed `logout` and `logoutAll` were meant
to revoke. -/
structure LogoutEntry where
  meant : List (Id × Id)
  deleted : List (Id × Id)
  revoked : List (Id × Id)

def LogoutEntry.after (x : LogoutEntry) (w : World userService StampedCall) :
    (s : Stmt userService) → Except Err s.Ans → LogoutEntry
  -- `logoutAll` begins
  | .aux (.smembers userId), _ => { x with meant := w.env.stored.filter (fun y => y.2 = userId) }
  | .aux (.delSessions ids), .ok _ =>
    { x with deleted := x.deleted ++ w.env.stored.filter (fun y => y.1 ∈ ids) }
  -- `logout` ends
  | .aux (.srem _ sessionId), .ok _ =>
    { x with revoked := x.revoked ++ x.deleted.filter (fun y => y.1 = sessionId) }
  -- `logoutAll` ends
  | .aux (.delUserSessions _), .ok _ => { x with revoked := x.revoked ++ x.meant }
  | _, _ => x

@[reducible] def logoutJournal (S : Settings) : Journal (machine S).stamped :=
  ⟨LogoutEntry, ⟨[], [], []⟩, LogoutEntry.after⟩

section Conditions

variable {S : Settings}

/-- A call that was meant to revoke the session has completed: a request, or the `logout` or
`logoutAll` that a request has called. -/
inductive Revoked (s : (logoutJournal S).State) (session : Id × Id) : Prop
  | request {x : Thread (machine S).stamped} {out : Out} (mem : x ∈ s.pool.threads)
      (returned : x.returned = some out) (stored : session ∈ x.call.2.stored)
      (revokes : Revokes x.call.1 out session.1 session.2)
  | inner {i : Nat} (mem : session ∈ (s.entries i).revoked)

/-- Every event is one of the careful runs. -/
def carefulLogouts (s : (logoutJournal S).State) : Event (machine S).stamped → Prop
  | .call c => (carefulRuns S).start c s.pool.world
  | .act a => (carefulRuns S).Permits s.pool a

end Conditions

section Stages

/-- The ids that `logoutAll` has found in the index and has still to delete. -/
abbrev Listed := Option (List Id)

def Listed.after : Listed → (s : Stmt userService) → Except Err s.Ans → Listed
  | _, .aux (.smembers _), .ok ids => some ids
  | _, .aux (.smembers _), .error _ => none
  | some ids, .aux (.delSessions ids'), .ok _ => some (ids.filter (fun id => id ∉ ids'))
  | g, _, _ => g

def listedLedger (c : StampedCall) : Ledger userService Listed :=
  if c.1.lists then
    ⟨fun g s => g = none ∧ ∀ userId, s ≠ .aux (.delUserSessions userId), fun _ _ => True,
      fun g _ _ => g⟩
  else
    ⟨fun g s => ∀ userId, s = .aux (.delUserSessions userId) → g = some [], fun _ _ => True,
      Listed.after⟩

variable {S : Settings} {c : StampedCall}

section Revoking

variable (hc : c.1.lists = false)

include hc

theorem follows_perform (a : Aux) (h : ∀ userId, a ≠ .delUserSessions userId) (g : Listed) :
    Follows (listedLedger c) (fun _ _ => True) (fun _ _ => True) (perform a) g := by
  refine follows_issue ?_ (fun _ _ => trivial) fun _ _ => trivial
  simp only [listedLedger, hc]
  intro userId hs
  cases hs
  exact absurd rfl (h userId)

theorem composes_revoking :
    Composes (fun _ p => ∀ g, Follows (listedLedger c) (fun _ _ => True) (fun _ _ => True) p g) where
  pure _ _ := trivial
  raise _ _ := trivial
  handle hp hf hg g := (hp g).handle (fun a g' _ => hf a g') fun e g' _ => hg e g'
  perform a ha g := by
    refine follows_perform hc a ?_ g
    rintro userId rfl
    exact ha
  query q g := by
    refine follows_issue ?_ (fun _ _ => trivial) fun _ _ => trivial
    simp only [listedLedger, hc]
    exact nofun

theorem follows_logoutAll_listed (userId : Id) (g : Listed) :
    Follows (listedLedger c) (fun _ _ => True) (fun _ _ => True) (logoutAll userId) g := by
  have hend : Follows (listedLedger c) (fun _ _ => True) (fun _ _ => True)
      (perform (.delUserSessions userId)) (some []) := by
    refine follows_issue ?_ (fun _ _ => trivial) fun _ _ => trivial
    simp only [listedLedger, hc]
    exact fun _ _ => rfl
  refine follows_seq ?_ (fun ids _ => ?_) fun _ _ => trivial
  · simp only [listedLedger, hc]
    exact nofun
  have hafter : (listedLedger c).after g (.aux (.smembers userId)) (.ok ids) = some ids := by
    simp only [listedLedger, hc]
    rfl
  rw [hafter]
  split
  · refine follows_seq ?_ (fun _ _ => ?_) fun _ _ => trivial
    · simp only [listedLedger, hc]
      exact nofun
    · have hnone : (listedLedger c).after (some ids) (.aux (.delSessions ids)) (.ok ()) = some [] := by
        simp only [listedLedger, hc]
        exact congrArg some (List.filter_eq_nil_iff.mpr fun id hid => by simpa using hid)
      rw [hnone]
      exact hend
  · next hempty =>
    obtain rfl : ids = [] := List.length_eq_zero_iff.mp (Nat.eq_zero_of_not_pos hempty)
    exact hend

end Revoking

theorem composes_listing (hc : c.1.lists = true) :
    Composes (fun _ p => Follows (listedLedger c) (fun _ g => g = none) (fun _ g => g = none) p
      none) where
  pure _ := rfl
  raise _ := rfl
  handle hp hf hg := by
    refine hp.handle ?_ ?_
    · rintro a _ rfl
      exact hf a
    · rintro e _ rfl
      exact hg e
  perform a ha := by
    refine still_issue ?_ fun r => ?_
    · simp only [listedLedger, hc, if_true]
      refine ⟨trivial, ?_⟩
      rintro userId hs
      cases hs
      exact ha
    · simp only [listedLedger, hc, if_true]
  query q := by
    refine still_issue ?_ fun r => ?_
    · simp only [listedLedger, hc, if_true]
      exact ⟨trivial, nofun⟩
    · simp only [listedLedger, hc, if_true]

theorem follows_body_listed (c : StampedCall) :
    Follows (listedLedger c) (fun _ _ => True) (fun _ _ => True) (body S c.1) none := by
  obtain ⟨c, e⟩ := c
  cases c with
  | getSessions userId =>
    have h := composes_listing (c := (.getSessions userId, e)) rfl
    exact (h.bind (h.getSessions userId) fun _ => h.pure _).mono (fun _ _ _ => trivial)
      fun _ _ _ => trivial
  | login email password fingerprint ipAddress userAgent =>
    have h := composes_revoking
      (c := (.login email password fingerprint ipAddress userAgent, e)) rfl
    exact h.bind (h.login S _ _ _ _ _) (fun _ => h.pure _) none
  | refresh refreshToken fingerprint =>
    have h := composes_revoking (c := (.refresh refreshToken fingerprint, e)) rfl
    exact h.bind (h.refresh S (fun _ _ => follows_perform rfl _ nofun)
      (follows_logoutAll_listed rfl) _ _) (fun _ => h.pure _) none
  | sessionMiddleware user =>
    have h := composes_revoking (c := (.sessionMiddleware user, e)) rfl
    exact h.bind (h.sessionMiddleware (fun _ _ => follows_perform rfl _ nofun) _)
      (fun _ => h.pure _) none
  | revokeSession sessionId userId =>
    have h := composes_revoking (c := (.revokeSession sessionId userId, e)) rfl
    exact h.bind (h.revokeSession _ _) (fun _ => h.pure _) none
  | logout refreshToken =>
    have h := composes_revoking (c := (.logout refreshToken, e)) rfl
    exact h.bind (h.byRefreshToken (fun _ => h.logout _ _) _) (fun _ => h.pure _) none
  | logoutAll refreshToken =>
    have h := composes_revoking (c := (.logoutAll refreshToken, e)) rfl
    exact h.bind (h.byRefreshToken (fun _ => follows_logoutAll_listed rfl _) _) (fun _ => h.pure _)
      none
  | issuePasswordResetToken email =>
    have h := composes_revoking (c := (.issuePasswordResetToken email, e)) rfl
    exact h.bind (h.issuePasswordResetToken _) (fun _ => h.pure _) none
  | resetPassword passwordResetToken password =>
    have h := composes_revoking (c := (.resetPassword passwordResetToken password, e)) rfl
    exact h.bind (h.resetPassword S (follows_logoutAll_listed rfl) _ _) (fun _ => h.pure _) none

end Stages

section Steps

variable {S : Settings} {s s' : (logoutJournal S).State} {a : Event (machine S).stamped}

/-- What a call has deleted or revoked is gone, and so is what its `logoutAll` has not to
delete any more. -/
structure LogoutEntry.Holds (x : LogoutEntry) (g : Listed) (e : Env) : Prop where
  meant : ∀ y ∈ x.meant, y ∈ e.stored
  deleted : ∀ y ∈ x.deleted, e.Gone y.1
  revoked : ∀ y ∈ x.revoked, e.Gone y.1
  listed : ∀ ids, g = some ids → ∀ y ∈ x.meant, y.1 ∈ ids ∨ e.Gone y.1

theorem LogoutEntry.Holds.later {x : LogoutEntry} {g : Listed} {e e' : Env} (h : x.Holds g e)
    (hl : e.Later e') : x.Holds g e' where
  meant y hy := hl.stored y (h.meant y hy)
  deleted y hy := hl.gone _ (h.deleted y hy)
  revoked y hy := hl.gone _ (h.revoked y hy)
  listed ids hg y hy := (h.listed ids hg y hy).imp id (hl.gone _)

theorem later_step (ha : carefulLogouts s a) (hs : Journal.Stepped s a s') :
    s.pool.world.env.Later s'.pool.world.env := by
  cases hs with
  | called c => exact Env.Later.refl _
  | @ran i ch c stmt k r σ ht hexec =>
    cases stmt with
    | aux o =>
      refine Env.Later.ask (fun id session ho => ?_) (Shared.exec_ask hexec)
      exact (ha c (.aux o) k ht).writeBack id session (congrArg Stmt.aux ho)
    | begin site | commit h | rollback h | sql h q =>
      rw [(Shared.exec_effect hexec).env fun _ h => by cases h]
      exact Env.Later.refl _
  | crashed ht => exact Env.Later.refl _
  | ticked d => exact Env.Later.tick d

section Own

variable {i : Nat} {ch : Choice Empty} {c : StampedCall} {stmt : Stmt userService}
  {r : Except Err stmt.Ans} {σ : Shared userService StampedCall} {g : Listed}
  (hexec : s.pool.shared.exec i c stmt ch = some (r, σ))
  (h : (s.entries i).Holds g s.pool.world.env) (hl : s.pool.world.env.Later σ.world.env)

theorem gone_of_delSessions {e e' : Env} {ids : List Id} {u : Unit}
    (hask : ask e i (.delSessions ids) ch = some (.ok u, e')) :
    ∀ y ∈ e.stored, y.1 ∈ ids → e'.Gone y.1 := by
  intro y hy hid
  obtain ⟨-, rfl⟩ := Env.command_ok hask
  exact ⟨List.mem_map_of_mem hy, Redis.Store.get_delAll.trans (if_pos hid)⟩

include hexec h hl

theorem holds_after (hdel : ∀ userId, stmt = .aux (.delUserSessions userId) → g = some [])
    {g' : Listed} (hlisted : ∀ ids, g' = some ids →
      ∀ y ∈ ((s.entries i).after s.pool.world stmt r).meant, y.1 ∈ ids ∨ σ.world.env.Gone y.1) :
    ((s.entries i).after s.pool.world stmt r).Holds g' σ.world.env := by
  have hkept := h.later hl
  suffices hall : (∀ y ∈ ((s.entries i).after s.pool.world stmt r).meant, y ∈ σ.world.env.stored) ∧
      (∀ y ∈ ((s.entries i).after s.pool.world stmt r).deleted, σ.world.env.Gone y.1) ∧
      ∀ y ∈ ((s.entries i).after s.pool.world stmt r).revoked, σ.world.env.Gone y.1 from
    ⟨hall.1, hall.2.1, hall.2.2, hlisted⟩
  cases stmt with
  | begin site | commit n | rollback n | sql n q => exact ⟨hkept.meant, hkept.deleted, hkept.revoked⟩
  | aux o =>
    have hask := Shared.exec_ask hexec
    cases o with
    | smembers userId =>
      exact ⟨fun y hy => hl.stored y (List.mem_filter.mp hy).1, hkept.deleted, hkept.revoked⟩
    | delSessions ids =>
      cases r with
      | error e => exact ⟨hkept.meant, hkept.deleted, hkept.revoked⟩
      | ok u =>
        refine ⟨hkept.meant, fun y hy => ?_, hkept.revoked⟩
        obtain hy | hy := List.mem_append.mp hy
        · exact hkept.deleted y hy
        · obtain ⟨hy, hid⟩ := List.mem_filter.mp hy
          exact gone_of_delSessions (i := i) hask y hy (of_decide_eq_true hid)
    | srem userId sessionId =>
      cases r with
      | error e => exact ⟨hkept.meant, hkept.deleted, hkept.revoked⟩
      | ok u =>
        refine ⟨hkept.meant, hkept.deleted, fun y hy => ?_⟩
        obtain hy | hy := List.mem_append.mp hy
        · exact hkept.revoked y hy
        · exact hkept.deleted y (List.mem_filter.mp hy).1
    | delUserSessions userId =>
      cases r with
      | error e => exact ⟨hkept.meant, hkept.deleted, hkept.revoked⟩
      | ok u =>
        -- everything that was found in the index has been deleted
        refine ⟨hkept.meant, hkept.deleted, fun y hy => ?_⟩
        obtain hy | hy := List.mem_append.mp hy
        · exact hkept.revoked y hy
        · exact (hkept.listed [] (hdel userId rfl) y hy).resolve_left List.not_mem_nil
    | _ => exact ⟨hkept.meant, hkept.deleted, hkept.revoked⟩

theorem holds_revoking (hc : c.1.lists = false) (ha : Careful c s.pool.world.env stmt)
    (hmay : (listedLedger c).may g stmt) :
    ((s.entries i).after s.pool.world stmt r).Holds ((listedLedger c).after g stmt r)
      σ.world.env := by
  simp only [listedLedger, hc, Bool.false_eq_true, if_false] at hmay ⊢
  refine holds_after hexec h hl hmay ?_
  have hkept := (h.later hl).listed
  cases stmt with
  | begin site | commit n | rollback n | sql n q => exact hkept
  | aux o =>
    have hask := Shared.exec_ask hexec
    cases o with
    | smembers userId =>
      rintro ids hids y hy
      cases r with
      | error e => cases hids
      | ok found =>
        obtain rfl : found = ids := Option.some.inj hids
        obtain ⟨hfound, -⟩ := Env.command_ok hask
        obtain ⟨hy, hu⟩ := List.mem_filter.mp hy
        by_cases hm : y.1 ∈ found
        · exact .inl hm
        · refine .inr (hl.gone _ ⟨List.mem_map_of_mem hy, ?_⟩)
          by_contra hlive
          exact hm (hfound ▸ ha.indexed hc userId rfl y hy (of_decide_eq_true hu) hlive)
    | delSessions ids =>
      cases r with
      | error e => cases g <;> exact hkept
      | ok u =>
        cases g with
        | none => exact nofun
        | some listed =>
          rintro ids' hids' y hy
          cases hids'
          by_cases hid : y.1 ∈ ids
          · exact .inr (gone_of_delSessions (i := i) hask y (h.meant y hy) hid)
          · refine (hkept listed rfl y hy).imp (fun hlisted => ?_) id
            exact List.mem_filter.mpr ⟨hlisted, decide_eq_true hid⟩
    | srem userId sessionId | delUserSessions userId => cases r <;> exact hkept
    | _ => exact hkept

theorem holds_listing (hc : c.1.lists = true) (hmay : (listedLedger c).may g stmt) :
    ((s.entries i).after s.pool.world stmt r).Holds ((listedLedger c).after g stmt r)
      σ.world.env := by
  simp only [listedLedger, hc, if_true] at hmay ⊢
  obtain ⟨rfl, hno⟩ := hmay
  exact holds_after hexec h hl (fun userId hs => absurd hs (hno userId)) nofun

end Own

def NotedLogouts (s : (logoutJournal S).State) : Prop :=
  Journal.Noted (fun _ => listedLedger)
    (fun _ _ g (x : LogoutEntry) σ => x.Holds g σ.world.env) (fun _ _ _ => True) s

theorem noted_logouts_step (ha : carefulLogouts s a) (hs : (logoutJournal S).step s a = some s')
    (h : NotedLogouts s) : NotedLogouts s' := by
  have hstepped := Journal.stepped hs
  refine Journal.Noted.step h hstepped
    (fun c _ => ⟨none, ⟨nofun, nofun, nofun, nofun⟩, follows_body_listed c⟩) ?_
    fun _ _ _ _ hg => hg.later (later_step ha hstepped)
  rintro i ch c stmt k r σ g rfl ht hexec hg hmay
  have hl : s.pool.world.env.Later σ.world.env :=
    later_step ha (Journal.Stepped.ran ht hexec)
  cases hc : c.1.lists with
  | true =>
    exact ⟨by simp only [listedLedger, hc, if_true], holds_listing hexec hg hl hc hmay⟩
  | false =>
    exact ⟨by simp only [listedLedger, hc, Bool.false_eq_true, if_false],
      holds_revoking hexec hg hl hc (ha c stmt k ht) hmay⟩

theorem revoked_step (ha : carefulLogouts s a) (hs : (logoutJournal S).step s a = some s')
    (hn : NotedLogouts s) (h : ∀ i, ∀ y ∈ (s.entries i).revoked, s.pool.world.env.Gone y.1) :
    ∀ i, ∀ y ∈ (s'.entries i).revoked, s'.pool.world.env.Gone y.1 := by
  intro i
  have hstepped := Journal.stepped hs
  obtain hsame | ⟨ch, c, stmt, k, r, rfl, ht, -, -⟩ := hstepped.entry i
  · rw [hsame]
    exact fun y hy => (later_step ha hstepped).gone _ (h i y hy)
  · obtain ⟨code, hcode⟩ : ∃ code, s'.pool.threads[i]? = some ⟨c, some code⟩ := by
      cases hstepped with
      | @ran _ _ c' stmt' k' r' σ ht' hexec =>
        rw [ht] at ht'
        cases ht'
        exact ⟨k r', List.getElem?_set_self (List.getElem?_eq_some_iff.mp ht).1⟩
    obtain ⟨g, hg, -⟩ := (noted_logouts_step ha hs hn).notes i c code hcode
    exact hg.revoked

end Steps

section Runs

variable {S : Settings} {d : Db} {now : Nat} {s s' : (logoutJournal S).State}

/-- The service before any session, with blank entries. -/
def startLogouts (S : Settings) (d : Db) (now : Nat) : (logoutJournal S).State :=
  (logoutJournal S).start (start S d now)

theorem reachable_logouts {s₀ : (logoutJournal S).State}
    (h : System.Run (logoutJournal S).system carefulLogouts s₀ s) :
    Reachable (carefulRuns S) s₀.pool s.pool :=
  Journal.reachable (fun _ _ hok => hok) (fun _ _ hok => hok) h

theorem gone_of_revoked
    (h : System.Run (logoutJournal S).system carefulLogouts (startLogouts S d now) s)
    {session : Id × Id} (hr : Revoked s session) : s.pool.world.env.Gone session.1 := by
  cases hr with
  | request mem returned stored revokes =>
    exact gone_of_revokes (reachable_logouts h) mem returned stored revokes
  | @inner i mem =>
    have hall : NotedLogouts s ∧ ∀ i, ∀ y ∈ (s.entries i).revoked, s.pool.world.env.Gone y.1 := by
      apply System.Run.invariant (I := fun q : (logoutJournal S).State =>
        NotedLogouts q ∧ ∀ i, ∀ y ∈ (q.entries i).revoked, q.pool.world.env.Gone y.1) _ _ h
      · exact ⟨Journal.noted_start rfl, fun _ _ hy => nomatch hy⟩
      · rintro q a q' - ⟨hn, hg⟩ ha hs
        exact ⟨noted_logouts_step ha hs hn, revoked_step ha hs hn hg⟩
    exact hall.2 i session mem

/-- Once a call has completed that was meant to revoke a session, the session has no record in
any later state, and none of its refresh tokens is accepted by a call that arrives later. -/
theorem revoked_of_careful
    (h : System.Run (logoutJournal S).system carefulLogouts (startLogouts S d now) s)
    (h' : System.Run (logoutJournal S).system carefulLogouts s s') {session : Id × Id}
    (hr : Revoked s session) :
    s'.pool.world.env.session session.1 = none ∧
      ∀ y ∈ s'.pool.threads.drop s.pool.threads.length, ∀ out, y.returned = some out →
        ¬ Accepts y.call.1 out session.1 := by
  have hgone := gone_of_revoked h hr
  exact ⟨(gone_later (reachable_logouts h) hgone (reachable_logouts h')).2,
    not_accepts_of_gone (reachable_logouts h) hgone (reachable_logouts h')⟩

end Runs

section Samples

def carefulTest (c : StampedCall) (w : World userService StampedCall) : Stmt userService → Bool
  | .aux (.setSession id _) => (w.env.session id).isSome
  | .aux (.smembers userId) => c.1.lists || w.env.stored.all (fun x =>
      x.2 ≠ userId || (w.env.session x.1).isNone || x.1 ∈ w.env.members userId)
  | _ => true

theorem careful_of_test {c : StampedCall} {w : World userService StampedCall}
    {s : Stmt userService} (h : carefulTest c w s = true) : Careful c w.env s where
  writeBack id session hs := by
    rw [hs] at h
    exact Option.isSome_iff_ne_none.mp h
  indexed hc userId hs x hx hu hlive := by
    rw [hs, carefulTest, hc, Bool.false_or, List.all_eq_true] at h
    have hx' := h x hx
    simp only [hu, ne_eq, not_true_eq_false, decide_false, Bool.false_or, Bool.or_eq_true,
      Option.isNone_iff_eq_none, decide_eq_true_eq] at hx'
    obtain hnone | hmem := hx'
    · exact absurd hnone hlive
    · exact hmem

abbrev SampleState := (logoutJournal sampleSettings).State

def stampedLabel (s : SampleState) :
    Event (machine sampleSettings) → Event (machine sampleSettings).stamped
  | .call c => .call (c, s.pool.world.env)
  | .act a => .act a

def logoutGuard (s : SampleState) : Event (machine sampleSettings).stamped → Bool
  | .call _ => true
  | .act a => guards carefulTest s.pool a

theorem careful_of_logoutGuard (s : SampleState) (x : Event (machine sampleSettings))
    (h : logoutGuard s (stampedLabel s x) = true) : carefulLogouts s (stampedLabel s x) := by
  cases x with
  | call c => exact rfl
  | act a =>
    have hg : guards carefulTest s.pool a = true := h
    exact permits_guards (fun _ _ _ _ h => careful_of_test h) s.pool a hg

abbrev sampleMachine : Machine userService := machine sampleSettings

/-- A user logs in twice, uses the second session and refreshes the first one. Then the old
token is presented again, and a token of the second session after that. -/
theorem revoked_all : ∃ s s', System.Run (logoutJournal sampleSettings).system carefulLogouts
    (startLogouts sampleSettings sampleTables 0) s ∧
      System.Run (logoutJournal sampleSettings).system carefulLogouts s s' ∧
        ((s.entries 4).revoked = [(5, 1), (0, 1)] ∧ s'.pool.threads.length = 6) ∧
          s'.pool.world.env.session 0 = none ∧ s'.pool.world.env.session 5 = none := by
  let token : RefreshToken := ⟨1, 0, 0, 2592000⟩
  obtain ⟨s, h, ht⟩ := System.exists_run_script (T := (logoutJournal sampleSettings).system)
    (s := startLogouts sampleSettings sampleTables 0) careful_of_logoutGuard
    (.call sampleLogin :: sampleMachine.burst 0 11 ++ .call sampleLogin ::
      sampleMachine.burst 1 11 ++ .call (.sessionMiddleware (some ⟨1, some 5⟩)) ::
      sampleMachine.burst 2 4 ++ .act (.tick 2000) ::
      .call (.refresh (.refresh token) "phone") :: sampleMachine.burst 3 8 ++
      .call (.refresh (.refresh token) "phone") :: sampleMachine.burst 4 5)
    (fun s : SampleState => decide ((s.entries 4).revoked = [(5, 1), (0, 1)]) &&
      (System.script (logoutJournal sampleSettings).system logoutGuard stampedLabel s
        (.call (.refresh (.refresh ⟨1, 5, 0, 2592000⟩) "phone") ::
          sampleMachine.burst 5 2)).any
          (fun s' : SampleState => decide (s'.pool.threads.length = 6))) (by decide +kernel)
  obtain ⟨hrevoked, ht⟩ := Bool.and_eq_true_iff.mp ht
  have hrevoked : (s.entries 4).revoked = [(5, 1), (0, 1)] := of_decide_eq_true hrevoked
  obtain ⟨s', h', hlength⟩ := System.exists_run_script
    (T := (logoutJournal sampleSettings).system) careful_of_logoutGuard _ _ ht
  have hinner : ∀ session ∈ (s.entries 4).revoked, s'.pool.world.env.session session.1 = none :=
    fun session hmem => (revoked_of_careful h h' (.inner hmem)).1
  rw [hrevoked] at hinner
  exact ⟨s, s', h, h', ⟨hrevoked, of_decide_eq_true hlength⟩, hinner (0, 1) (by decide),
    hinner (5, 1) (by decide)⟩

def completedTest (i : Nat) (c : Call) (out : Out) (stored : List (Id × Id))
    (p : Pool (machine sampleSettings).stamped) : Bool :=
  (p.threads[i]?).any (fun x =>
    decide (x.call.1 = c ∧ x.returned = some out ∧ x.call.2.stored = stored))

theorem completed_of_test {i : Nat} {c : Call} {out : Out} {stored : List (Id × Id)}
    {p : Pool (machine sampleSettings).stamped} (h : completedTest i c out stored p = true) :
    ∃ x ∈ p.threads, x.call.1 = c ∧ x.returned = some out ∧ x.call.2.stored = stored := by
  unfold completedTest at h
  cases hx : p.threads[i]? with
  | none =>
    rw [hx] at h
    cases h
  | some x =>
    rw [hx] at h
    exact ⟨x, List.mem_of_getElem? hx, of_decide_eq_true h⟩

/-- A request has read the session's record when the session is revoked, and then writes it
back. -/
theorem not_revoked : ¬ ∀ (S : Settings) (d : Db) (now : Nat) (p p' : Pool (machine S).stamped)
    (x : Thread (machine S).stamped) (out : Out) (session : Id × Id),
    Reachable (allRuns S) (start S d now) p → Reachable (allRuns S) p p' → x ∈ p.threads →
      x.returned = some out → session ∈ x.call.2.stored →
        Revokes x.call.1 out session.1 session.2 → p'.world.env.session session.1 = none := by
  intro hall
  obtain ⟨p, p', h, h', ht⟩ := exists_reachable_stamped (allRuns sampleSettings)
    (start sampleSettings sampleTables 0) (fun _ _ => true)
    [.call sampleLogin, .burst 0 30, .call (.sessionMiddleware (some ⟨1, some 0⟩)), .burst 1 2,
      .call (.revokeSession 0 1), .burst 2 30]
    [.burst 1 30]
    (fun p p' => completedTest 2 (.revokeSession 0 1) .sessionRevoked [(0, 1)] p &&
      (p'.world.env.session 0).isSome)
    permits_allRuns (fun _ _ => rfl) (by decide +kernel)
  obtain ⟨ht, hlive⟩ := Bool.and_eq_true_iff.mp ht
  obtain ⟨x, hx, hcall, hout, hstored⟩ := completed_of_test ht
  have hgone := hall sampleSettings sampleTables 0 p p' x .sessionRevoked (0, 1) h h' hx hout
    (by rw [hstored]; exact List.mem_cons_self) (by rw [hcall]; rfl)
  rw [hgone] at hlive
  cases hlive

end Samples

end RailwayBooking.UserService
