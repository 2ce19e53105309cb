import RailwayBooking.BookingService.Effects

namespace RailwayBooking.BookingService

open Concurrency

def MeetsSettled (w : BookingWorld) (s : Stmt bookingService) : Prop :=
  ∀ key, s = .aux (.reserveIfNew key) → w.env.saga.get w.env.now key = some .processing →
    Settled key w

/-- How an operation of a call may move the environment. -/
structure Drift (w : BookingWorld) (e : Env) : Prop where
  fresh : w.env.fresh ≤ e.fresh
  catalog : e.catalog = w.env.catalog
  processed : ∀ key, e.saga.get e.now key = some .processed →
    w.env.saga.get w.env.now key = some .processed ∨ Settled key w

/-- An amount was taken from the price of booking `b`, before or after it was set. -/
def Quoted (b : Uuid) (amount : Nat) (w : BookingWorld) : Prop :=
  ∃ row, w.db.bookings b = some row ∧ (amount = 0 ∨ amount = row.totalPrice)

/-- What an auxiliary operation of a call relies on. -/
structure Asks (a : Aux) (w : BookingWorld) : Prop where
  processed : ∀ key, a = .markProcessed key → Settled key w
  quoted : ∀ b u n, a = .createOrder b u n → Quoted b n w

/-- What the calls of booking-service agree on. For `strict` keys no reservation
meets a running one of an unsettled event, and then a delivery that returns has
settled its event. -/
def discipline (strict : SagaKey → Prop) : Discipline machine where
  pre _ _ := True
  inv := Inv
  allow _ _ w s := ∀ key, strict key → s = .aux (.reserveIfNew key) →
    w.env.saga.get w.env.now key = some .processing → Settled key w
  commits := Commit
  asks _ a w := Asks a w
  drift := Drift
  raises e := e.isNonRetryable = false
  post c _ w := ∀ key, strict key → c.key = some key → Settled key w

variable {strict : SagaKey → Prop} {c : Call} {t : BookingTx} {w : BookingWorld}

theorem Commit.events (h : Commit c t w) :
    ∀ ev ∈ t.writes.filterMap Write.event?, ∃ u, ev.eventId = .random u ∧ Drawn u t.owner w := by
  cases h with
  | replayed _ hw | heldSkipped _ hw | holdFailedSkipped _ hw | holdExpiredSkipped _ hw
  | paymentMissing _ _ hw | paymentSkipped _ _ _ hw =>
    rw [hw]
    simp
  | recorded _ _ hw | holdExpiredBeaten _ _ _ _ _ _ hw | paid _ _ hw
  | holdFailed _ _ _ _ _ _ _ hw | holdFailedBeaten _ _ _ _ _ _ hw
  | holdExpired _ _ _ _ _ _ _ hw =>
    rw [hw]
    simp [Write.event?]
  | held _ _ _ _ _ _ _ hw _ =>
    rw [hw, List.filterMap_append, enrich_event]
    simp [Write.event?]
  | created x _ hw _ _ _ _ he₁ he₂ _ _ =>
    rw [hw]
    simp only [Insertion.writes, List.filterMap_cons, Write.event?, List.filterMap_nil,
      List.mem_cons, List.not_mem_nil, or_false]
    rintro ev (rfl | rfl)
    · exact ⟨_, rfl, he₁⟩
    · exact ⟨_, rfl, he₂⟩
  | @transition _ _ _ args read row eventId _ _ _ _ _ _ _ _ _ hw hd =>
    have hu : (args.updateWrites row).filterMap Write.event? = [] := by
      unfold TransitionArgs.updateWrites
      cases args.updates <;> rfl
    rw [hw, List.filterMap_append, hu]
    simp only [List.filterMap_cons, Write.event?, List.filterMap_nil, List.nil_append,
      List.mem_singleton]
    rintro ev rfl
    exact ⟨_, rfl, hd⟩

theorem commit_outbox (w : BookingWorld) (c : Call) (t : BookingTx) :
    (w.commit c t).db.outbox = w.db.outbox ++ t.writes.filterMap Write.event? :=
  applyAll_outbox w.db t.writes

theorem mem_outbox_commit {w : BookingWorld} {event : OutboxEvent} (h : event ∈ w.db.outbox)
    (c : Call) (t : BookingTx) : event ∈ (w.commit c t).db.outbox := by
  rw [commit_outbox]
  exact List.mem_append_left _ h

theorem Settled.commit {key : SagaKey} (h : Settled key w) (c : Call) (t : BookingTx) :
    Settled key (w.commit c t) := by
  obtain ⟨c', t', ht, hs⟩ := h
  exact ⟨c', t', List.mem_append_left _ ht, hs⟩

theorem lasting_settled (key : SagaKey) : Lasting (discipline strict) (Settled key) where
  commit _ c t _ _ _ _ h := h.commit c t
  drift _ _ _ h := h

theorem lasting_inv : Lasting (discipline strict) Inv where
  commit w c t hi _ hc _ _ := by
    refine ⟨fun b row hb => ?_, fun ev hev u hu => ?_, fun key hk => ?_, fun b row hb => ?_⟩
    · have hr := hc.rowChange hi b
      change (t.view w.db).bookings b = some row at hb
      rw [hb] at hr
      generalize hold : w.db.bookings b = old at hr
      cases hr with
      | same => exact hi.id b row hold
      | created _ _ _ hid _ => exact hid
      | @annotated row' u _ _ => exact hi.id b row' hold
      | moved _ _ _ _ _ _ hsame _ => exact hsame.id.trans (hi.id b _ hold)
    · rw [commit_outbox] at hev
      obtain hev | hev := List.mem_append.mp hev
      · exact hi.fresh ev hev u hu
      · obtain ⟨u', hu', hd⟩ := hc.events ev hev
        rw [hu] at hu'
        cases hu'
        exact hd.drawn
    · exact (hi.processed key hk).commit c t
    · have hr := hc.rowChange hi b
      change (t.view w.db).bookings b = some row at hb
      rw [hb] at hr
      generalize hold : w.db.bookings b = old at hr
      cases hr with
      | same => exact hi.price b row hold
      | created _ _ _ _ hprice => exact ⟨by rw [hprice]; decide, fun _ => hprice⟩
      | @annotated row' u _ hprice =>
        rw [hprice]
        exact hi.price b row' hold
      | @moved row' _ _ _ _ _ _ _ hedge _ hprice =>
        refine ⟨?_, fun hp => absurd hp hedge.ne_pending⟩
        obtain hprice | ⟨-, hprice⟩ := hprice
        · rw [hprice]
          exact (hi.price b row' hold).1
        · exact hprice
  drift w e hd h := by
    refine ⟨h.id, fun ev hev u hu => lt_of_lt_of_le (h.fresh ev hev u hu) hd.fresh,
      fun key hk => ?_, h.price⟩
    obtain hk | hk := hd.processed key hk
    · exact h.processed key hk
    · exact hk

theorem effect_drift {α : Type} {e e' e₁ : Env} {a : α} {ch : Choice Reply} {r : Except Err α}
    (h : e.effect a e' ch = (r, e₁)) : e₁ = e ∨ e₁ = e' := by
  cases ch <;> cases h <;> simp

theorem effect_error {α : Type} {e e' e₁ : Env} {a : α} {ch : Choice Reply} {x : Err}
    (h : e.effect a e' ch = (.error x, e₁)) : x = .fault := by
  cases ch <;> simp [Env.effect] at h <;> exact h.1.symm

theorem drift_of_eq {w : BookingWorld} {e : Env} (hf : w.env.fresh ≤ e.fresh)
    (hc : e.catalog = w.env.catalog) (hs : e.saga = w.env.saga) (hn : e.now = w.env.now) :
    Drift w e :=
  ⟨hf, hc, fun _ hk => .inl (by rwa [hs, hn] at hk)⟩

theorem drift_effect {α : Type} {w : BookingWorld} {e e₁ : Env} {a : α} {ch : Choice Reply}
    {r : Except Err α} (h : w.env.effect a e ch = (r, e₁)) (he : Drift w e) : Drift w e₁ := by
  obtain rfl | rfl := effect_drift h
  · exact drift_of_eq le_rfl rfl rfl rfl
  · exact he

theorem drift_markProcessed {w : BookingWorld} {key : SagaKey} (h : Settled key w) :
    Drift w { w.env with
      saga := Redis.markProcessed w.env.leases w.env.saga w.env.now key } := by
  refine ⟨le_rfl, rfl, fun k hk => ?_⟩
  obtain rfl | hk := Redis.get_markProcessed hk
  · exact .inr h
  · exact .inl hk

theorem ask_drift {w : BookingWorld} {e : Env} {i : Nat} {a : Aux} {ch : Choice Reply}
    {r : Except Err (AuxAns a)} (hm : ∀ key, a = .markProcessed key → Settled key w)
    (h : ask w.env i a ch = some (r, e)) : Drift w e := by
  unfold ask at h
  split at h <;> simp only [Option.some.injEq, Prod.mk.injEq, reduceCtorEq, Option.map_eq_some_iff,
    Option.ite_none_right_eq_some] at h
  all_goals first
    | (obtain ⟨-, rfl⟩ := h; exact drift_of_eq (by simp) rfl rfl rfl)
    | (obtain ⟨_, _, -, rfl⟩ := h; exact drift_of_eq le_rfl rfl rfl rfl)
    | exact drift_effect h (drift_of_eq le_rfl rfl rfl rfl)
    | exact drift_effect h (drift_markProcessed (hm _ rfl))
    | exact drift_effect h ⟨le_rfl, rfl, fun _ hk => .inl (Redis.get_reserveIfNew hk)⟩
    | exact drift_effect h ⟨le_rfl, rfl, fun _ hk => .inl (Redis.get_release hk)⟩

theorem ask_error {e e' : Env} {i : Nat} {a : Aux} {ch : Choice Reply} {x : Err}
    (h : ask e i a ch = some (.error x, e')) : x.isNonRetryable = false := by
  unfold ask at h
  split at h <;> simp only [Option.some.injEq, Prod.mk.injEq, reduceCtorEq, Option.map_eq_some_iff,
    Option.ite_none_right_eq_some, false_and, and_false, exists_false, Except.error.injEq] at h
  all_goals first
    | (obtain ⟨rfl, -⟩ := h; rfl)
    | (rw [effect_error h]; rfl)

theorem run_error {q : Sql} {d : Db} {x : Err} (h : run q d = .error x) :
    x.isNonRetryable = false := by
  unfold run at h
  split at h
  all_goals first
    | cases h
    | (split at h <;> first | (cases h; rfl) | cases h | (split at h <;> cases h <;> rfl))

theorem lawful : (discipline strict).Lawful where
  ask _ _ _ _ _ _ _ ha h := ask_drift ha.processed h
  tick d _ := ⟨le_rfl, rfl, fun _ hk => .inl (Redis.Store.get_earlier (Nat.le_add_right _ d) hk)⟩
  fault := rfl
  run _ _ _ h := run_error h
  answer _ _ _ _ _ _ h := ask_error h
  inv := lasting_inv
  pre _ := lasting_true
  post _ _ :=
    ⟨fun _ c' t _ _ _ _ h key hs hk => (h key hs hk).commit c' t,
      fun _ _ _ h key hs hk => h key hs hk⟩

/-- Booking `b` was read as `read`: it has not gone back since, and as long as its
version is the same its status is. -/
def Seen (b : Uuid) (read : Booking) (w : BookingWorld) : Prop :=
  ∃ row, w.db.bookings b = some row ∧ read.Same row ∧ read.version ≤ row.version ∧
    (row.version = read.version → row.status = read.status)

theorem seen_of_read {b : Uuid} {read : Booking} (h : w.db.bookings b = some read) :
    Seen b read w :=
  ⟨read, h, .refl read, le_rfl, fun _ => rfl⟩

theorem lasting_seen (b : Uuid) (read : Booking) : Lasting (discipline strict) (Seen b read) where
  commit w c t hi _ hc _ h := by
    obtain ⟨row, hrow, hsame, hle, hst⟩ := h
    have hr := hc.rowChange hi b
    change ∃ row, (t.view w.db).bookings b = some row ∧ _
    rw [hrow] at hr
    generalize (t.view w.db).bookings b = new at hr
    cases hr with
    | same => exact ⟨row, rfl, hsame, hle, hst⟩
    | annotated u _ _ => exact ⟨u.apply row, rfl, hsame.trans (u.apply_same row), hle, hst⟩
    | @moved _ row' _ _ _ _ _ hnext _ hs _ =>
      exact ⟨row', rfl, hsame.trans hs, by omega, fun he => by omega⟩
  drift _ _ _ h := h

theorem lasting_quoted (b : Uuid) (amount : Nat) :
    Lasting (discipline strict) (Quoted b amount) where
  commit w c t hi _ hc _ h := by
    obtain ⟨row, hrow, hq⟩ := h
    have hr := hc.rowChange hi b
    change ∃ row, (t.view w.db).bookings b = some row ∧ _
    rw [hrow] at hr
    generalize (t.view w.db).bookings b = new at hr
    cases hr with
    | same => exact ⟨row, rfl, hq⟩
    | annotated u _ hprice => exact ⟨u.apply row, rfl, hprice ▸ hq⟩
    | @moved _ row' _ _ _ _ _ _ _ _ hprice =>
      refine ⟨row', rfl, ?_⟩
      obtain hprice | ⟨hpend, -⟩ := hprice
      · rw [hprice]
        exact hq
      · rw [(hi.price b row hrow).2 hpend, or_self] at hq
        exact .inl hq
  drift _ _ _ h := h

theorem quoted_of_read (hi : Inv w) {b : Uuid} {row : Booking} (h : w.db.bookings b = some row) :
    Quoted b (minorUnits row.totalPrice) w :=
  ⟨row, h, .inr (minorUnits_eq (hi.price b row h).1)⟩

theorem stable_row {i : Nat} {ks : List Key} {b : Uuid} (r : Option Booking)
    (hk : .booking b ∈ ks) : Stable (discipline strict) i ks (fun w => w.db.bookings b = r) where
  commit w c t _ _ _ hv _ hd h := by
    change (t.view w.db).bookings b = r
    rw [view_eq, applyAll_bookings_other]
    · exact h
    · exact hv.untouched hd hk
  drift _ _ _ h := h

theorem stable_pnr {i : Nat} {ks : List Key} {p : Nat} (r : Option Uuid) (hk : .pnr p ∈ ks) :
    Stable (discipline strict) i ks (fun w => w.db.pnrs p = r) where
  commit w c t _ _ _ hv _ hd h := by
    change (t.view w.db).pnrs p = r
    rw [view_eq, applyAll_pnrs_other]
    · exact h
    · exact hv.untouched hd hk
  drift _ _ _ h := h

theorem stable_key {i : Nat} {ks : List Key} {k : Id} (r : Option BookingIdempotencyKey)
    (hk : .idempotencyKey k ∈ ks) :
    Stable (discipline strict) i ks (fun w => w.db.idempotencyKeys k = r) where
  commit w c t _ _ _ hv _ hd h := by
    change (t.view w.db).idempotencyKeys k = r
    rw [view_eq, applyAll_idempotencyKeys_other]
    · exact h
    · exact hv.untouched hd hk
  drift _ _ _ h := h

theorem stable_drawn {i : Nat} {ks : List Key} (uuid : Uuid) :
    Stable (discipline strict) i ks (Drawn uuid i) where
  commit w c t _ _ hc _ ho _ h := by
    refine ⟨h.source, h.drawn, fun ev hev u hu hs => ?_⟩
    rw [commit_outbox] at hev
    obtain hev | hev := List.mem_append.mp hev
    · exact h.unused ev hev u hu hs
    · obtain ⟨u', hu', hd⟩ := hc.events ev hev
      rw [hu] at hu'
      cases hu'
      exact absurd (hd.source.symm.trans hs) ho
  drift w e hd h := ⟨h.source, lt_of_lt_of_le h.drawn hd.fresh, h.unused⟩

theorem drawn_fresh {i : Nat} {e : Env} (hi : Inv w) (he : e.fresh = w.env.fresh + 1) :
    Drawn ⟨i, w.env.fresh⟩ i (w.setEnv e) :=
  ⟨rfl, by change w.env.fresh < e.fresh; omega, fun ev hev u hu _ => hi.fresh ev hev u hu⟩

/-- The idempotency key `k` is stored with the response `r`. -/
def Recorded (k : Id) (r : CreateBookingResponse) (w : BookingWorld) : Prop :=
  ∃ row, w.db.idempotencyKeys k = some row ∧ row.responseBody = r

theorem lasting_recorded (k : Id) (r : CreateBookingResponse) :
    Lasting (discipline strict) (Recorded k r) where
  commit w c t _ _ hc _ h := by
    obtain ⟨row, hrow, hr⟩ := h
    refine ⟨row, ?_, hr⟩
    have hkeys := hc.keyChange
    change (t.view w.db).idempotencyKeys k = some row
    generalize (t.view w.db).idempotencyKeys = keys at hkeys
    cases hkeys with
    | same => exact hrow
    | created x _ _ _ hnew =>
      rw [Function.update_of_ne]
      · exact hrow
      · rintro rfl
        rw [hnew] at hrow
        cases hrow
  drift _ _ _ h := h

def ResolvedSeats (dto : CreateBookingDto) (ids : List Id) (w : BookingWorld) : Prop :=
  ∀ f ∈ w.env.catalog, (f dto.scheduleId dto.seatIds).length = dto.seatIds.length ∧
    seatInventoryIdsOf (f dto.scheduleId dto.seatIds) dto.seatIds = some ids

theorem lasting_resolvedSeats (dto : CreateBookingDto) (ids : List Id) :
    Lasting (discipline strict) (ResolvedSeats dto ids) where
  commit _ _ _ _ _ _ _ h := h
  drift _ _ hd h f hf := h f (hd.catalog ▸ hf)

theorem lasting_moved (i : Nat) (b : Uuid) (status : BookingStatus) :
    Lasting (discipline strict) (Moved i b status) where
  commit w c' t' _ _ _ _ h := by
    obtain ⟨c, t, v, row, ht, h⟩ := h
    exact ⟨c, t, v, row, List.mem_append_left _ ht, h⟩
  drift _ _ _ h := h

end RailwayBooking.BookingService
