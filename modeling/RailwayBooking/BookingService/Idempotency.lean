import RailwayBooking.Concurrency.History
import RailwayBooking.Concurrency.Schedule
import RailwayBooking.BookingService.SeatHolds
import RailwayBooking.BookingService.SeatRows
import RailwayBooking.BookingService.StatusEvents

namespace RailwayBooking.BookingService

open Concurrency

def Call.Creates (c : Call) : Prop := ∃ userId dto, c = .createBooking userId dto

/-- The call asks for a booking under an idempotency key. -/
def Call.keyed (key : Id) : Call → Prop
  | .createBooking _ dto => dto.idempotencyKey = key
  | _ => False

theorem Commit.creates {userId : Id} {dto : CreateBookingDto} {t : BookingTx} {w : BookingWorld}
    (h : Commit (.createBooking userId dto) t w) : t.writes = [] ∨
      ∃ x : Insertion, x.userId = userId ∧ x.dto = dto ∧ t.writes = x.writes ∧
        x.bookingId.source = t.owner ∧ w.db.bookings x.bookingId = none ∧
          w.db.idempotencyKeys x.dto.idempotencyKey = none := by
  cases h with
  | replayed _ hw => exact .inl hw
  | created x _ hw howner hnew _ hkey => exact .inr ⟨x, rfl, rfl, hw, howner, hnew, hkey⟩
  | recorded _ hrec =>
    cases hrec with
    | confirmed hpays => cases hpays
  | transition hper =>
    cases hper with
    | payHeld _ hpays | payConfirming hpays | payConfirmed hpays => cases hpays

/-- Call `i` has created a booking. -/
def Booked (i : Nat) (w : BookingWorld) : Prop := ∃ b, b.source = i ∧ w.db.bookings b ≠ none

section Discipline

/-- What `createBooking` calls agree on: one that returns has the response of its key. -/
def creating : Discipline machine :=
  (discipline fun _ => False).narrowed Call.Creates (fun c out w => ∀ userId dto,
    c = .createBooking userId dto → ∃ r, out = .booking r ∧ Recorded dto.idempotencyKey r w)

theorem lawful_creating : creating.Lawful := by
  refine lawful.narrowed fun c out => ⟨?_, fun w e hd h => h⟩
  intro w c' t hi hp hc hv h userId dto he
  obtain ⟨r, hr, hrec⟩ := h userId dto he
  exact ⟨r, hr, (lasting_recorded _ r).commit w c' t hi hp hc hv hrec⟩

theorem sound_creating : creating.Sound := by
  rintro i _ w - ⟨⟨userId, dto, rfl⟩, -⟩
  refine Ok.narrowed (Ok.bind ?_ (Ok.mono (fun _ _ _ hq => hq) (fun _ _ _ _ => trivial)
    ok_createBooking))
  rintro r ts w' ⟨-, hrec⟩ userId' dto' he
  cases he
  exact ⟨r, rfl, hrec⟩

/-- The scope of `createBooking` calls. -/
def creations : Scope machine := Scope.calls Call.Creates

theorem creations_within : creations.Within creating :=
  ⟨fun _ _ h => ⟨h, trivial⟩, fun _ _ _ _ _ _ hs => hs.elim⟩

variable {s : Settings} {p p' : Pool machine} {a : Action bookingService} {i : Nat}

theorem wellFormed_creating (h : Reachable creations s.pool p) : WellFormed creating p :=
  h.wellFormed lawful_creating sound_creating creations_within (wellFormed_init (inv_start s))

theorem lasting_booked : Lasting creating (Booked i) where
  commit w c t hi _ hc _ h := by
    obtain ⟨b, hb, hrow⟩ := h
    exact ⟨b, hb, Commit.booked hc hi hrow⟩
  drift _ _ _ h := h

theorem booked_act (hwf : WellFormed creating p) (hp : p.act a = some p') (h : Booked i p.world) :
    Booked i p'.world :=
  keeps_act lawful_creating creations_within hwf (permits_calls p a) hp (lasting_booked.keeps _) h

end Discipline

section Notes

variable {p : Pool machine} {i : Nat} {g : Phase}

/-- What the note of call `i` says. -/
def Phase.Means (i : Nat) : Phase → Shared bookingService Call → Prop
  | .free, σ => σ.world.env.Unlocked i
  | .held keys token, σ => σ.world.env.Locks i keys token
  | .writing keys token h, σ => σ.world.env.Locks i keys token ∧
      ∃ t, σ.txs h = some t ∧ t.owner = i ∧ t.writes ≠ []
  | .booked, σ => Booked i σ.world

/-- Where a call goes on without giving back its locks, it has none: when the lookup in its
transaction finds the key, when the answer to its request for locks is lost, and when it
cannot give them back. -/
def Releases (p : Pool machine) (i : Nat) : Stmt bookingService → Choice Reply → Prop
  | .sql (some _) (.findIdempotencyKey _), .fault | .sql (some _) (.findIdempotencyKey _), .lost =>
      True
  | .sql (some h) (.findIdempotencyKey k), _ =>
      (∀ t, p.shared.txs h = some t → (t.view p.world.db).idempotencyKeys k = none) ∨
        p.world.env.Unlocked i
  | .aux (.lockSeats keys token ttl), .lost =>
      ttl = 0 ∨
        (Redis.seatLock p.world.env.seatLocks p.world.env.now keys token ttl).1 = false
  | .aux (.unlockSeats _ _), .fault => p.world.env.Unlocked i
  | _, _ => True

/-- Runs of `createBooking` calls that give back their locks. -/
def releasingRuns (p : Pool machine) : Event machine → Prop
  | .call c => c.Creates
  | .act (.run i ch) =>
      ∀ c s k, p.threads[i]? = some ⟨c, some (.call s k)⟩ → Releases p i s ch
  | .act _ => True

variable {σ σ' : Shared bookingService Call} {c : Call}

theorem Phase.Means.mono (h : g.Means i σ)
    (hlock : ∀ k token, σ'.world.env.lock k = some token →
      σ.world.env.lock k = some token ∨ token.source ≠ i)
    (htxs : ∀ h t, σ.txs h = some t → t.owner = i → t.writes ≠ [] →
      ∃ t', σ'.txs h = some t' ∧ t'.owner = i ∧ t'.writes ≠ [])
    (hbooked : Booked i σ.world → Booked i σ'.world) : g.Means i σ' := by
  cases g with
  | free => exact Env.Unlocked.mono h hlock
  | held keys token => exact Env.Locks.mono h hlock
  | writing keys token n =>
    obtain ⟨hlocks, t, ht, howner, hw⟩ := h
    exact ⟨hlocks.mono hlock, htxs n t ht howner hw⟩
  | booked => exact hbooked h

theorem Phase.Means.closed (h : g.Means i σ)
    (henv : σ'.world.env = σ.world.env) (hbooked : Booked i σ.world → Booked i σ'.world) :
    g.closed.Means i σ' := by
  cases g with
  | free => exact (congrArg (Env.Unlocked · i) henv).mpr h
  | held keys token => exact (congrArg (Env.Locks · i keys token) henv).mpr h
  | writing keys token n => exact (congrArg (Env.Locks · i keys token) henv).mpr h.1
  | booked => exact hbooked h

section Effects

variable {s : Stmt bookingService} {ch : Choice Reply} {r : Except Err s.Ans}

theorem lock_effect (h : σ.Effect i c s ch r σ') {k : SeatLockKey} {token : Uuid}
    (hk : σ'.world.env.lock k = some token) : σ.world.env.lock k = some token ∨
      ∃ keys ttl, s = .aux (.lockSeats keys token ttl) ∧ k ∈ keys := by
  cases h with
  | asked hask =>
    obtain hold | ⟨keys, ttl, rfl, hmem⟩ := (locksChange_ask hask).lock hk
    · exact .inl hold
    · exact .inr ⟨keys, ttl, rfl, hmem⟩
  | _ => exact .inl hk

theorem after_error {e : Err} (hs : ∀ a, s ≠ .aux a) :
    g.after s (.error e) = g ∨ g.after s (.error e) = g.closed := by
  cases s with
  | begin site => exact .inl rfl
  | commit n => exact .inr rfl
  | rollback n => exact .inr rfl
  | sql n q =>
    cases n with
    | none => exact .inl rfl
    | some n => cases q <;> exact .inl rfl
  | aux a => exact absurd rfl (hs a)

theorem can_of_ne (hs : ∀ u, s ≠ .aux u) : Phase.can i s r := by
  cases s with
  | aux a => exact absurd rfl (hs a)
  | _ => trivial

theorem txs_recorded {n m : Nat} {t t' : BookingTx} {q : Sql} {x : Rows q} {ws : List Write}
    {ks : List Key} (ht : σ.txs n = some t) (ht' : σ.txs m = some t') (ho : t'.owner = i)
    (hw : t'.writes ≠ []) : ∃ t'', (σ.put n (t.record q x ws ks)).txs m = some t'' ∧
      t''.owner = i ∧ t''.writes ≠ [] := by
  by_cases hm : m = n
  · subst hm
    obtain rfl := Option.some.inj (ht.symm.trans ht')
    exact ⟨_, Function.update_self _ _ _, ho, by simp [hw]⟩
  · exact ⟨t', (Function.update_of_ne hm _ _).trans ht', ho, hw⟩

end Effects

section Steps

variable {p' : Pool machine} {ch : Choice Reply}

theorem means_foreign (hwf : WellFormed creating p) {j : Nat} {s : Stmt bookingService}
    {r : Except Err s.Ans} {g' : Phase} (hij : j ≠ i) (hp : p.act (.run i ch) = some p')
    (he : p.shared.Effect i c s ch r p'.shared) (hmay : g.may i s) (h : g'.Means j p.shared) :
    g'.Means j p'.shared := by
  refine h.mono (fun k token hk => ?_) (fun n t ht howner hw => ?_) (booked_act hwf hp)
  · obtain hold | ⟨keys, ttl, rfl, -⟩ := lock_effect he hk
    · exact .inl hold
    · exact .inr (by rw [hmay.2]; exact Ne.symm hij)
  · exact ⟨t, he.foreign hwf.coherent n t ht (by rw [howner]; exact hij), howner, hw⟩

theorem means_committed (hwf : WellFormed creating p) {n : Nat} {t : BookingTx}
    {k : Except Err Unit → BookingCode Out}
    (ht : p.threads[i]? = some ⟨c, some (.call (.commit n) k)⟩) (hx : p.shared.txs n = some t)
    (howner : t.owner = i) (hmay : g.may i (.commit n)) (h : g.Means i p.shared) :
    g.committed.Means i ((p.shared.close n).settle c t) := by
  obtain rfl | ⟨keys, token, rfl⟩ := hmay
  · exact h
  · obtain ⟨-, t', ht', -, hw⟩ := h
    obtain rfl := Option.some.inj (hx.symm.trans ht')
    have hc : Commit c t p.world := hwf.commits ht hx fun _ hs => hs.elim
    obtain ⟨⟨userId, dto, rfl⟩, -⟩ := (hwf.threads i _ _ ht).1
    obtain hnil | ⟨x, -, -, hwrites, hsource, -, -⟩ := hc.creates
    · exact absurd hnil hw
    · refine ⟨x.bookingId, hsource.trans howner, ?_⟩
      change (t.view p.world.db).bookings x.bookingId ≠ none
      rw [bookings_created hwrites, Function.update_self]
      exact Option.some_ne_none _

theorem means_recorded {n : Nat} {t : BookingTx} {q : Sql}
    {x : Rows q} {ws : List Write} {ks : List Key} (hx : p.shared.txs n = some t)
    (howner : t.owner = i) (hrun : run q (t.view p.world.db) = .ok (x, ws, ks))
    (hch : ch ≠ .fault ∧ ch ≠ .lost) (hrel : Releases p i (.sql (some n) q) ch)
    (h : g.Means i p.shared) :
    (g.after (.sql (some n) q) (.ok x)).Means i (p.shared.put n (t.record q x ws ks)) := by
  have hsame : g.Means i (p.shared.put n (t.record q x ws ks)) :=
    h.mono (fun _ _ hk => .inl hk) (fun m t' ht' ho hw => txs_recorded hx ht' ho hw) fun hb => hb
  cases q with
  | findIdempotencyKey k =>
    cases x with
    | none => exact hsame
    | some row =>
      obtain hnone | hfree : (∀ t, p.shared.txs n = some t →
          (t.view p.world.db).idempotencyKeys k = none) ∨ p.world.env.Unlocked i := by
        cases ch with
        | fault => exact absurd rfl hch.1
        | lost => exact absurd rfl hch.2
        | ok => exact hrel
        | reply y => exact hrel
      · cases hrun.symm.trans (congrArg (fun r => Except.ok (r, [], [])) (hnone t hx))
      · exact hfree
  | create data =>
    cases g with
    | held keys token =>
      refine ⟨h, _, Function.update_self _ _ _, howner, ?_⟩
      have hws : ws = [.booking data] := by
        simp only [run] at hrun
        split at hrun
        · cases hrun
        · cases hrun
          rfl
      simp [hws]
    | free => exact hsame
    | writing keys token m => exact hsame
    | booked => exact hsame
  | _ => exact hsame

theorem means_asked {a : Aux} {r : Except Err (AuxAns a)} {e : Env}
    (hask : ask p.world.env i a ch = some (r, e)) (hrel : Releases p i (.aux a) ch)
    (hmay : g.may i (.aux a)) (h : g.Means i p.shared) :
    (g.after (.aux a) r).Means i { p.shared with world := p.world.setEnv e } := by
  have hsame : e.lock = p.world.env.lock →
      g.Means i { p.shared with world := p.world.setEnv e } := fun hl =>
    h.mono (fun k token hk => .inl ((congrFun hl k).symm.trans hk))
      (fun m t ht ho hw => ⟨t, ht, ho, hw⟩) fun hb => hb
  cases locksChange_ask hask with
  | other hlock hunlock hl =>
    have hg : g.after (.aux a) r = g := by
      cases a with
      | lockSeats keys token ttl => exact absurd rfl (hlock keys token ttl)
      | unlockSeats keys token => exact absurd rfl (hunlock keys token)
      | _ => rfl
    rw [hg]
    exact hsame hl
  | @refused keys token ttl _ r hans hl =>
    have hg : g.after (.aux (.lockSeats keys token ttl)) r = g := by
      cases r with
      | error x => rfl
      | ok x =>
        cases x with
        | false => rfl
        | true => exact absurd rfl hans
    rw [hg]
    exact hsame hl
  | @taken keys token ttl _ r httl hfree hans hl =>
    obtain rfl | rfl := hans
    · -- the locks are taken and the call does not know
      obtain hzero | hrefused := hrel
      · exact absurd hzero (Nat.ne_of_gt httl)
      · cases hfree.symm.trans hrefused
    · obtain rfl := hmay.1
      intro k token' hk hs
      change e.lock k = some token' at hk
      rw [hl] at hk
      split at hk
      · next hmem => exact ⟨hmem, (Option.some.inj hk).symm⟩
      · exact absurd hs (h k token' hk)
  | faulted hl =>
    exact Env.Unlocked.mono hrel fun k token hk => .inl ((congrFun hl k).symm.trans hk)
  | @released keys token _ r hl =>
    intro k token' hk hs
    change e.lock k = some token' at hk
    rw [hl] at hk
    split at hk
    · cases hk
    · next hnot =>
      obtain rfl | rfl := hmay
      · exact h k token' hk hs
      · obtain ⟨hmem, rfl⟩ := h k token' hk hs
        exact hnot ⟨hmem, hk⟩

theorem can_asked {a : Aux} {r : Except Err (AuxAns a)} {e e' : Env}
    (hask : ask e i a ch = some (r, e')) : Phase.can i (.aux a) r := by
  cases a with
  | randomUUID =>
    cases hask
    rfl
  | _ => trivial

theorem means_own (hwf : WellFormed creating p) {s : Stmt bookingService} {r : Except Err s.Ans}
    {k : Except Err s.Ans → BookingCode Out} (ht : p.threads[i]? = some ⟨c, some (.call s k)⟩)
    (hp : p.act (.run i ch) = some p') (he : p.shared.Effect i c s ch r p'.shared)
    (hrel : Releases p i s ch) (hmay : g.may i s) (h : g.Means i p.shared) :
    Phase.can i s r ∧ (g.after s r).Means i p'.shared := by
  have hbooked := booked_act (i := i) hwf hp
  generalize hσ : p'.shared = σ at he
  replace hbooked : Booked i p.world → Booked i σ.world := hσ ▸ hbooked
  cases he with
  | failed e hs =>
    refine ⟨can_of_ne hs, ?_⟩
    obtain hg | hg := after_error (g := g) (e := e) hs
    · rw [hg]
      exact h
    · rw [hg]
      exact h.closed rfl hbooked
  | begun site =>
    refine ⟨trivial, h.mono (fun _ _ hk => .inl hk) (fun m t ht ho hw => ?_) hbooked⟩
    have hne : m ≠ p.shared.next := Nat.ne_of_lt (hwf.coherent.next m t ht)
    exact ⟨t, (Function.update_of_ne hne _ _).trans ht, ho, hw⟩
  | broken hx howner => exact ⟨trivial, h.closed rfl hbooked⟩
  | committed hx howner =>
    refine ⟨trivial, ?_⟩
    have hdone := means_committed hwf ht hx howner hmay h
    cases ch with
    | lost => exact h.closed rfl hbooked
    | fault | ok | reply x => exact hdone
  | rolledBack hx howner => exact ⟨trivial, h.closed rfl hbooked⟩
  | recorded hx howner hrun hch => exact ⟨trivial, means_recorded hx howner hrun hch hrel h⟩
  | read hrun => exact ⟨trivial, h⟩
  | single hrun hws =>
    exact ⟨trivial, h.mono (fun _ _ hk => .inl hk) (fun m t ht ho hw => ⟨t, ht, ho, hw⟩) hbooked⟩
  | asked hask => exact ⟨can_asked hask, means_asked hask hrel hmay h⟩

end Steps

/-- Locks belong to calls that have arrived, and every call follows its ledger. -/
structure Sealed (p : Pool machine) : Prop where
  drawn : ∀ k token, p.world.env.lock k = some token → token.source < p.threads.length
  noted : p.Noted Phase.ledger Phase.Means Phase.Done

section Runs

variable {s : Settings} {p' : Pool machine}

theorem reachable_releasing (h : System.Run (pools machine) releasingRuns s.pool p) :
    Reachable creations s.pool p :=
  reachable_run (fun _ _ hc => hc) (fun p a _ => permits_calls p a) h

theorem sealed_start (s : Settings) : Sealed s.pool :=
  ⟨fun _ _ hk => (nomatch hk), fun _ _ _ ht => (nomatch ht)⟩

theorem Sealed.spawn (h : Sealed p) (hc : c.Creates) : Sealed (p.spawn c) := by
  obtain ⟨userId, dto, rfl⟩ := hc
  refine ⟨fun k token hk => ?_, h.noted.spawn (g := .free) (fun k token hk => ?_) ?_⟩
  · refine Nat.lt_of_lt_of_le (h.drawn k token hk) ?_
    simp [Pool.spawn]
  · exact Nat.ne_of_lt (h.drawn k token hk)
  · exact Follows.bind follows_createBooking fun _ _ hg => hg

theorem Sealed.act (h : Sealed p) (hwf : WellFormed creating p) {a : Action bookingService}
    (ha : releasingRuns p (.act a)) (hp : p.act a = some p') : Sealed p' := by
  have hlen : p'.threads.length = p.threads.length := by
    have hcalls := congrArg List.length (act_calls hp)
    rwa [List.length_map, List.length_map] at hcalls
  cases a with
  | run i ch =>
    obtain ⟨c, s, k, r, σ, ht, hexec, rfl⟩ := Pool.run_cases hp
    have heff := Shared.exec_effect hexec
    obtain ⟨g, hg, hmay, -⟩ := h.noted i c _ ht
    refine ⟨fun k token hk => ?_, h.noted.run ht (fun g hg hmay _ => ?_) hexec⟩
    · rw [hlen]
      obtain hold | ⟨keys, ttl, rfl, -⟩ := lock_effect heff hk
      · exact h.drawn k token hold
      · rw [hmay.2]
        exact (List.getElem?_eq_some_iff.mp ht).1
    · obtain ⟨hcan, hafter⟩ := means_own hwf ht hp heff (ha c s k ht) hmay hg
      exact ⟨hcan, hafter, fun j g' hij hg' => means_foreign hwf hij hp heff hmay hg'⟩
  | crash i =>
    obtain ⟨⟨c, code⟩, ht, hcrash⟩ := Option.bind_eq_some_iff.mp hp
    match code with
    | none => cases hcrash
    | some (.ret x) => cases hcrash
    | some (.raise x) => cases hcrash
    | some (.call s k) =>
      cases hcrash
      refine ⟨fun k token hk => by rw [hlen]; exact h.drawn k token hk,
        h.noted.other fun j c' code hj => ?_⟩
      obtain ⟨-, heq⟩ | ⟨hij, hj⟩ := thread_set hj
      · cases heq
      · refine ⟨hj, fun g hg => hg.mono (fun _ _ hk => .inl hk) (fun m t ht ho hw => ?_) fun hb => hb⟩
        exact ⟨t, foreign_abort p.shared i m t ht (by rw [ho]; exact Ne.symm hij), ho, hw⟩
  | tick d =>
    cases hp
    refine ⟨fun k token hk => h.drawn k token (lock_tick d hk), h.noted.other fun j c code hj =>
      ⟨hj, fun g hg => hg.mono (fun k token hk => .inl (lock_tick d hk))
        (fun m t ht ho hw => ⟨t, ht, ho, hw⟩) fun hb => hb⟩⟩

theorem sealed_run (h : System.Run (pools machine) releasingRuns s.pool p) : Sealed p := by
  refine h.invariant (sealed_start s) ?_
  intro q x q' hq hsealed hok hstep
  cases x with
  | call c =>
    cases hstep
    exact hsealed.spawn hok
  | act a => exact hsealed.act (wellFormed_creating (reachable_releasing hq)) hok hstep

theorem Sealed.ended (h : Sealed p) {x : Thread machine} (hx : p.threads[i]? = some x)
    (hend : x.finished = true) : p.world.env.Unlocked i ∨ Booked i p.world := by
  obtain ⟨c, code⟩ := x
  have hdone : ∀ g : Phase, g.Means i p.shared → g.Done →
      p.world.env.Unlocked i ∨ Booked i p.world := by
    rintro g hg (rfl | rfl)
    · exact .inl hg
    · exact .inr hg
  match code with
  | none => cases hend
  | some (.call s k) => cases hend
  | some (.ret a) =>
    obtain ⟨g, hg, hd⟩ := h.noted i c _ hx
    exact hdone g hg hd
  | some (.raise e) =>
    obtain ⟨g, hg, hd⟩ := h.noted i c _ hx
    exact hdone g hg hd

end Runs

end Notes

section Keys

variable {p p' : Pool machine} {s : Settings} {a : Action bookingService}

def author (p : Pool machine) (b : Uuid) : Option Call := (p.threads.map Thread.call)[b.source]?

/-- Bookings and idempotency keys belong together, a booking is the one of the user whose call
created it, and who has written has a booking. -/
structure Keyed (p : Pool machine) : Prop where
  booked : ∀ b, p.world.db.bookings b ≠ none → ∃ key row,
    p.world.db.idempotencyKeys key = some row ∧ row.bookingId = b
  authored : ∀ b row, p.world.db.bookings b = some row →
    ∃ dto, author p b = some (.createBooking row.userId dto)
  stored : ∀ key row, p.world.db.idempotencyKeys key = some row →
    row.responseBody.id = row.bookingId ∧ p.world.db.bookings row.bookingId ≠ none ∧
      ∃ c, author p row.bookingId = some c ∧ c.keyed key
  wrote : ∀ e ∈ p.world.log, e.2.writes ≠ [] → Booked e.2.owner p.world

theorem keyed_start (s : Settings) : Keyed s.pool :=
  ⟨fun _ hb => absurd rfl hb, fun _ _ hb => (nomatch hb), fun _ _ hk => (nomatch hk),
    fun _ he => (nomatch he)⟩

theorem author_spawn {b : Uuid} {c c' : Call} (h : author p b = some c) :
    author (p.spawn c') b = some c := by
  obtain ⟨hlt, -⟩ := List.getElem?_eq_some_iff.mp h
  rw [author, Pool.spawn, List.map_append, List.getElem?_append_left hlt]
  exact h

theorem Keyed.spawn (h : Keyed p) (c : Call) : Keyed (p.spawn c) := by
  refine ⟨h.booked, fun b row hrow => ?_, fun key row hrow => ?_, h.wrote⟩
  · obtain ⟨dto, hc⟩ := h.authored b row hrow
    exact ⟨dto, author_spawn hc⟩
  · obtain ⟨hid, hbooked, c', hc, hkey⟩ := h.stored key row hrow
    exact ⟨hid, hbooked, c', author_spawn hc, hkey⟩

theorem Keyed.of_eq (h : Keyed p) (hcalls : p'.threads.map Thread.call = p.threads.map Thread.call)
    (hdb : p'.world.db = p.world.db)
    (hlog : ∀ e ∈ p'.world.log, e ∈ p.world.log ∨ e.2.writes = []) : Keyed p' := by
  refine ⟨fun b hb => ?_, fun b row hrow => ?_, fun key row hrow => ?_, fun e he hw => ?_⟩
  · rw [hdb] at hb ⊢
    exact h.booked b hb
  · rw [hdb] at hrow
    rw [author, hcalls]
    exact h.authored b row hrow
  · rw [hdb] at hrow ⊢
    rw [author, hcalls]
    exact h.stored key row hrow
  · obtain he | hnil := hlog e he
    · obtain ⟨b, hb, hrow⟩ := h.wrote e he hw
      exact ⟨b, hb, by rw [hdb]; exact hrow⟩
    · exact absurd hnil hw

theorem Keyed.created (h : Keyed p) {i : Nat} {x : Insertion} {t : BookingTx}
    (hcalls : p'.threads.map Thread.call = p.threads.map Thread.call)
    (hworld : p'.world = p.world.commit c t) (hw : t.writes = x.writes)
    (hsource : x.bookingId.source = i) (howner : t.owner = i)
    (hc : (p.threads.map Thread.call)[i]? = some (.createBooking x.userId x.dto))
    (hnew : p.world.db.idempotencyKeys x.dto.idempotencyKey = none) : Keyed p' := by
  have hbookings : p'.world.db.bookings =
      Function.update p.world.db.bookings x.bookingId (some x.row) := by
    rw [hworld]
    exact bookings_created hw
  have hkeys : p'.world.db.idempotencyKeys = Function.update p.world.db.idempotencyKeys
      x.dto.idempotencyKey (some ⟨x.dto.idempotencyKey, x.bookingId, x.response⟩) := by
    rw [hworld]
    exact idempotencyKeys_created hw
  have hkept : ∀ b, p.world.db.bookings b ≠ none → p'.world.db.bookings b ≠ none := by
    intro b hb
    rw [hbookings, Function.update_apply]
    split
    · exact Option.some_ne_none _
    · exact hb
  refine ⟨fun b hb => ?_, fun b row hrow => ?_, fun key row hrow => ?_, fun e he hwrote => ?_⟩
  · rw [hbookings, Function.update_apply] at hb
    rw [hkeys]
    split at hb
    · next hb' => exact ⟨_, _, Function.update_self _ _ _, hb'.symm⟩
    · obtain ⟨key, row, hrow, hid⟩ := h.booked b hb
      refine ⟨key, row, ?_, hid⟩
      rw [Function.update_of_ne]
      · exact hrow
      · rintro rfl
        rw [hnew] at hrow
        cases hrow
  · rw [hbookings, Function.update_apply] at hrow
    rw [author, hcalls]
    split at hrow
    · next hb =>
      cases hrow
      rw [hb, hsource]
      exact ⟨x.dto, hc⟩
    · exact h.authored b row hrow
  · rw [hkeys, Function.update_apply] at hrow
    rw [author, hcalls]
    split at hrow
    · next hk =>
      cases hrow
      refine ⟨rfl, ?_, .createBooking x.userId x.dto, ?_, hk.symm⟩
      · rw [hbookings, Function.update_self]
        exact Option.some_ne_none _
      · rw [hsource]
        exact hc
    · obtain ⟨hid, hbooked, hauthor⟩ := h.stored key row hrow
      exact ⟨hid, hkept _ hbooked, hauthor⟩
  · rw [hworld] at he
    obtain he | he := List.mem_append.mp he
    · obtain ⟨b, hb, hrow⟩ := h.wrote e he hwrote
      exact ⟨b, hb, hkept b hrow⟩
    · cases List.mem_singleton.mp he
      refine ⟨x.bookingId, hsource.trans howner.symm, ?_⟩
      rw [hbookings, Function.update_self]
      exact Option.some_ne_none _

theorem Keyed.act (h : Keyed p) (hwf : WellFormed creating p) (hp : p.act a = some p') :
    Keyed p' := by
  have hcalls := act_calls hp
  obtain ⟨-, hev⟩ := wellFormed_act lawful_creating creations_within hwf (permits_calls p a) hp
  generalize hworld : p'.world = w' at hev
  cases hev with
  | none => exact h.of_eq hcalls (by rw [hworld]) fun e he => .inl (by rwa [hworld] at he)
  | drift hd => exact h.of_eq hcalls (by rw [hworld]; rfl) fun e he => .inl (by rwa [hworld] at he)
  | @commit i ch c t _ _ _ hthread hsettles hpre hc _ _ =>
    obtain ⟨⟨userId, dto, rfl⟩, -⟩ := hpre
    obtain hnil | ⟨x, rfl, rfl, hw, hsource, -, hnew⟩ := Commit.creates hc
    · refine h.of_eq hcalls ?_ fun e he => ?_
      · rw [hworld, World.commit, Tx.view, hnil]
        rfl
      · rw [hworld] at he
        obtain he | he := List.mem_append.mp he
        · exact .inl he
        · cases List.mem_singleton.mp he
          exact .inr hnil
    · have hcall : (p.threads.map Thread.call)[i]? = some (.createBooking x.userId x.dto) := by
        rw [List.getElem?_map, hthread]
        rfl
      exact h.created hcalls hworld hw (hsource.trans hsettles.owner) hsettles.owner hcall hnew

theorem keyed_reachable (h : Reachable creations s.pool p) : Keyed p := by
  induction h with
  | start => exact keyed_start s
  | spawn _ _ ih => exact ih.spawn _
  | act hq _ hp ih => exact ih.act (wellFormed_creating hq) hp

end Keys

/-- Booking `b` exists, and was created by a call with this key. -/
def CreatedFor (p : Pool machine) (key : Id) (b : Uuid) : Prop :=
  p.world.db.bookings b ≠ none ∧ ∃ c, author p b = some c ∧ c.keyed key

/-- The calls with one key create one booking at most and return no other. A call that has
created none has left the tables as they would be without it, and once it has ended has no
locks. -/
structure Idempotent (key : Id) (p : Pool machine) : Prop where
  one : ∀ b b', CreatedFor p key b → CreatedFor p key b' → b = b'
  same : ∀ x ∈ p.threads, ∀ y ∈ p.threads, x.call.keyed key → y.call.keyed key →
    ∀ a a', x.returned = some a → y.returned = some a' → a = a'
  booking : ∀ x ∈ p.threads, x.call.keyed key → ∀ a, x.returned = some a →
    ∃ r, a = .booking r ∧ CreatedFor p key r.id
  unchanged : ∀ (i : Nat) x, p.threads[i]? = some x → x.call.keyed key → ¬ Booked i p.world →
    World.replay Db.empty (p.world.log.filter (fun e => e.2.owner ≠ i)) = p.world.db
  unlocked : ∀ (i : Nat) x, p.threads[i]? = some x → x.call.keyed key → ¬ Booked i p.world →
    x.finished = true → p.world.env.Unlocked i

section Idempotency

variable {s : Settings} {p : Pool machine} {key : Id}

theorem returned_recorded (h : Reachable creations s.pool p) {x : Thread machine} (hx : x ∈ p.threads)
    (hkey : x.call.keyed key) {a : Out} (ha : x.returned = some a) :
    ∃ r, a = .booking r ∧ Recorded key r p.world := by
  obtain ⟨i, hi⟩ := List.mem_iff_getElem?.mp hx
  have hpost := (wellFormed_creating h).post hi ha
  obtain ⟨c, code⟩ := x
  cases c with
  | createBooking userId dto =>
    obtain rfl : dto.idempotencyKey = key := hkey
    exact hpost userId dto rfl
  | _ => exact hkey.elim

theorem Keyed.eq_of_created (h : Keyed p) {b : Uuid} (hb : CreatedFor p key b) :
    ∃ row, p.world.db.idempotencyKeys key = some row ∧ row.bookingId = b := by
  obtain ⟨hrow, c, hc, hkey⟩ := hb
  obtain ⟨key', row, hstored, rfl⟩ := h.booked b hrow
  obtain ⟨-, -, c', hc', hkey'⟩ := h.stored key' row hstored
  obtain rfl : c = c' := Option.some.inj (hc.symm.trans hc')
  obtain rfl : key = key' := by
    cases c with
    | createBooking userId dto => exact hkey.symm.trans hkey'
    | _ => exact hkey.elim
  exact ⟨row, hstored, rfl⟩

/-- In every run in which the calls give back their locks, `createBooking` is idempotent and
leaves nothing behind. -/
theorem idempotent_of_releasingRuns (h : System.Run (pools machine) releasingRuns s.pool p)
    (key : Id) : Idempotent key p := by
  have hreach := reachable_releasing h
  have hkeyed := keyed_reachable hreach
  have hhistory : History creating creations Db.empty p.world :=
    hreach.keeps lawful_creating sound_creating creations_within (wellFormed_init (inv_start s))
      (keeps_history _) (history_init _ _)
  refine ⟨fun b b' hb hb' => ?_, fun x hx y hy hkx hky a a' ha ha' => ?_, fun x hx hk a ha => ?_,
    fun i x hx hk hb => ?_, fun i x hx hk hb hend => ?_⟩
  · obtain ⟨row, hrow, rfl⟩ := hkeyed.eq_of_created hb
    obtain ⟨row', hrow', rfl⟩ := hkeyed.eq_of_created hb'
    rw [Option.some.inj (hrow.symm.trans hrow')]
  · obtain ⟨r, rfl, row, hrow, rfl⟩ := returned_recorded hreach hx hkx ha
    obtain ⟨r', rfl, row', hrow', rfl⟩ := returned_recorded hreach hy hky ha'
    rw [Option.some.inj (hrow.symm.trans hrow')]
  · obtain ⟨r, rfl, row, hrow, rfl⟩ := returned_recorded hreach hx hk ha
    obtain ⟨hid, hcreated⟩ := hkeyed.stored key row hrow
    exact ⟨_, rfl, by rw [hid]; exact hcreated⟩
  · rw [hhistory.db]
    refine replay_filter _ fun e he howner => ?_
    by_contra hw
    have hsource : e.2.owner = i := by simpa using howner
    exact hb (hsource ▸ hkeyed.wrote e he hw)
  · exact ((sealed_run h).ended hx hend).resolve_right hb

end Idempotency

section Schedules

def sampleOther : CreateBookingDto :=
  { sampleRequest with
    seatIds := [12]
    seatIds_length := by decide
    seatIds_nodup := by decide
    passengers_length := by decide }

def releasesTest (p : Pool machine) : Stmt bookingService → Choice Reply → Bool
  | .sql (some h) (.findIdempotencyKey k), _ =>
    (p.shared.txs h).all (fun t => ((t.view p.world.db).idempotencyKeys k).isNone)
  | .aux (.lockSeats _ _ _), .lost | .aux (.unlockSeats _ _), .fault => false
  | _, _ => true

theorem releases_of_test {p : Pool machine} {i : Nat} {s : Stmt bookingService} {ch : Choice Reply}
    (h : releasesTest p s ch = true) : Releases p i s ch := by
  cases s with
  | sql n q =>
    cases n with
    | none => cases ch <;> trivial
    | some n =>
      cases q with
      | findIdempotencyKey k =>
        have hnone : ∀ t, p.shared.txs n = some t →
            (t.view p.world.db).idempotencyKeys k = none := by
          intro t ht
          simpa [releasesTest, ht] using h
        cases ch with
        | fault | lost => trivial
        | ok | reply x => exact .inl hnone
      | _ => cases ch <;> trivial
  | aux a =>
    cases a with
    | lockSeats keys token ttl =>
      cases ch with
      | lost => cases h
      | _ => trivial
    | unlockSeats keys token =>
      cases ch with
      | fault => cases h
      | _ => trivial
    | _ => cases ch <;> trivial
  | _ => cases ch <;> trivial

def releasingTest (p : Pool machine) : Event machine → Bool
  | .call (.createBooking _ _) => true
  | .call _ => false
  | .act (.run i ch) =>
    match p.threads[i]? with
    | some ⟨_, some (.call s _)⟩ => releasesTest p s ch
    | _ => true
  | .act _ => true

theorem releasingRuns_of_test {p : Pool machine} {x : Event machine} (h : releasingTest p x = true) :
    releasingRuns p x := by
  cases x with
  | call c =>
    cases c with
    | createBooking userId dto => exact ⟨userId, dto, rfl⟩
    | _ => cases h
  | act a =>
    cases a with
    | run i ch =>
      intro c s k hth
      apply releases_of_test
      simpa only [releasingTest, hth] using h
    | crash i => trivial
    | tick d => trivial

/-- A call fails in its transaction, a second one waits while a third creates the booking and
finds its seat locked, and a fourth replays. -/
theorem idempotent_raced : ∃ p, System.Run (pools machine) releasingRuns sampleSettings.pool p ∧
    (∀ x ∈ p.threads, x.finished = true) ∧
    (p.threads.map Thread.returned).map Option.isSome = [false, false, true, true] ∧
    p.world.env.lock ⟨1, 11, some 1⟩ = some ⟨2, 2⟩ ∧ p.world.env.lock ⟨1, 12, some 1⟩ = none ∧
    Idempotent 7 p := by
  obtain ⟨p, hp, ht⟩ := System.exists_run (T := pools machine) releasingRuns sampleSettings.pool
    releasingTest
    (.call (.createBooking 5 sampleOther) :: machine.burst 0 9 ++ .act (.run 0 .fault) :: machine.burst 0 2 ++
      .call (.createBooking 5 sampleRequest) :: machine.burst 1 1 ++
      .call (.createBooking 6 sampleRequest) :: machine.burst 2 21 ++ machine.burst 1 5 ++
      .call (.createBooking 5 sampleRequest) :: machine.burst 3 1)
    (fun p => p.threads.all Thread.finished &&
      decide ((p.threads.map Thread.returned).map Option.isSome = [false, false, true, true] ∧
        p.world.env.lock ⟨1, 11, some 1⟩ = some ⟨2, 2⟩ ∧ p.world.env.lock ⟨1, 12, some 1⟩ = none))
    (fun _ _ _ h => releasingRuns_of_test h) (by decide +kernel)
  obtain ⟨hfinished, hrest⟩ := Bool.and_eq_true_iff.mp ht
  obtain ⟨hreturned, hlock, hfree⟩ := of_decide_eq_true hrest
  exact ⟨p, hp, List.all_eq_true.mp hfinished, hreturned, hlock, hfree,
    idempotent_of_releasingRuns hp 7⟩

/-- Calls that all have the key, in any interleaving and with any failures. -/
def keyedRuns (key : Id) (_ : Pool machine) : Event machine → Prop
  | .call c => c.keyed key
  | .act _ => True

instance (key : Id) : (c : Call) → Decidable (c.keyed key)
  | .createBooking _ dto => inferInstanceAs (Decidable (dto.idempotencyKey = key))
  | .markSeatsHeld _ _ | .markPaymentPending _ _ | .markConfirming _ | .markConfirmed _
  | .markFailed _ _ | .markExpired _ | .cancelBooking _ _ | .createPaymentOrder _ _
  | .confirmPayment _ _ | .seatsHeld _ | .seatsHoldFailed _ | .seatHoldExpired _
  | .paymentSuccess _ => inferInstanceAs (Decidable False)

instance (key : Id) (p : Pool machine) : (x : Event machine) → Decidable (keyedRuns key p x)
  | .call c => inferInstanceAs (Decidable (c.keyed key))
  | .act _ => inferInstanceAs (Decidable True)

def replayedLocked (p : Pool machine) : Bool :=
  (p.threads[0]?).any (fun x : Thread machine => decide (x.call.keyed 7 ∧
    x.returned = some (Out.booking ⟨⟨1, 0⟩, 1, .pending⟩) ∧
      p.world.env.lock ⟨1, 11, some 1⟩ = some ⟨0, 4⟩))

/-- The call that finds the booking of another in its transaction keeps its locks. -/
theorem not_idempotent : ¬ ∀ (s : Settings) (key : Id) (p : Pool machine),
    System.Run (pools machine) (keyedRuns key) s.pool p → Idempotent key p := by
  intro hall
  obtain ⟨p, hp, ht⟩ := System.exists_run (T := pools machine) (keyedRuns 7) sampleSettings.pool
    (fun p x => decide (keyedRuns 7 p x))
    (.call (.createBooking 5 sampleRequest) :: machine.burst 0 1 ++
      .call (.createBooking 5 sampleOther) :: machine.burst 1 21 ++ machine.burst 0 8) replayedLocked
    (fun _ _ _ h => of_decide_eq_true h) (by decide +kernel)
  obtain ⟨x, hx, ht⟩ := Option.any_eq_true _ _ |>.mp ht
  obtain ⟨hkeyed, hreturned, hlock⟩ := of_decide_eq_true ht
  have hidem := hall sampleSettings 7 p hp
  have hcall : (p.threads.map Thread.call)[0]? = some x.call := by
    rw [List.getElem?_map, hx]
    rfl
  obtain ⟨r, hr, hcreated⟩ := hidem.booking x (List.mem_of_getElem? hx) hkeyed _ hreturned
  obtain rfl := Out.booking.inj hr
  have hbooked : ¬ Booked 0 p.world := by
    rintro ⟨b, hsource, hrow⟩
    have hb : CreatedFor p 7 b := ⟨hrow, x.call, by rw [author, hsource]; exact hcall, hkeyed⟩
    rw [hidem.one b _ hb hcreated] at hsource
    cases hsource
  have hend : x.finished = true := by
    rw [Thread.returned_eq hreturned]
    rfl
  exact hidem.unlocked 0 x hx hkeyed hbooked hend _ _ hlock rfl

end Schedules

end RailwayBooking.BookingService
