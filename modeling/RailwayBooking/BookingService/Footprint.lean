import RailwayBooking.Concurrency.Noninterference
import RailwayBooking.BookingService.SeatHolds
import RailwayBooking.BookingService.SeatLocks

namespace RailwayBooking.BookingService

open Concurrency

/-- A `createBooking` request that is served while no other is in progress: the numbers that
it draws its ids from, its PNR, the time, and what its statements are answered. -/
structure Arrival where
  label : Nat
  serial : Nat
  pnr : Nat
  time : Nat
  userId : Id
  dto : CreateBookingDto
  script : Script bookingService
  drawn : ∀ n, script.answer n (.aux .generatePnr) = .reply (.pnr pnr)

namespace Arrival

variable (a : Arrival)

def call : Call := .createBooking a.userId a.dto

/-- The world with the clock and the ids of the request. -/
def arrive (w : BookingWorld) : BookingWorld :=
  w.setEnv { w.env with now := a.time, fresh := a.serial }

def serve (w : BookingWorld) : Option (Except Err CreateBookingResponse × BookingWorld) :=
  ((createBooking a.userId a.dto).play a.label a.call a.script 0 (a.arrive w).idle).map
    (fun x => (x.1, x.2.world))

end Arrival

/-- What requests may have in common. A booking is named by the request that drew its id. -/
inductive Resource
  | seat (scheduleId seatId : Id)
  | key (idempotencyKey : Id)
  | bookings (source : Nat)
  | pnr (pnr : Nat)

def Arrival.Uses (a : Arrival) : Resource → Prop
  | .seat scheduleId seatId => scheduleId = a.dto.scheduleId ∧ seatId ∈ a.dto.seatIds
  | .key idempotencyKey => idempotencyKey = a.dto.idempotencyKey
  | .bookings source => source = a.label
  | .pnr pnr => pnr = a.pnr

section Code

/-- A statement of `createBooking` that reads and writes these resources alone. -/
def Confined (U : Resource → Prop) : Stmt bookingService → Prop
  | .begin _ | .commit _ | .rollback _ => True
  | .sql _ (.findIdempotencyKey idempotencyKey) => U (.key idempotencyKey)
  | .sql _ (.create data) => U (.bookings data.id.source) ∧ U (.pnr data.pnr)
  | .sql _ (.createSeats _) | .sql _ (.createPassengers _) | .sql _ (.insertOutbox _) => True
  | .sql _ (.createSaga bookingId _ _) => U (.bookings bookingId.source)
  | .sql _ (.createIdempotencyKey data) => U (.key data.idempotencyKey)
  | .aux (.lockSeats keys _ _) | .aux (.unlockSeats keys _) =>
      ∀ k ∈ keys, U (.seat k.scheduleId k.seatId)
  | .aux .randomUUID | .aux .generatePnr | .aux .seatHoldTtlMs => True
  | .aux (.validateBooking _ _ _) | .aux (.getSeatsDetailsBatch _ _) => True
  | _ => False

/-- The answers that the request can get. -/
def Arrival.can (a : Arrival) : (s : Stmt bookingService) → Except Err s.Ans → Prop
  | .aux .randomUUID, .ok uuid => uuid.source = a.label
  | .aux .generatePnr, .ok pnr => pnr = a.pnr
  | .sql _ (.create data), .ok row => row = data
  | _, _ => True

def Arrival.ledger (a : Arrival) : Ledger bookingService Unit :=
  ⟨fun _ => Confined a.Uses, a.can, fun _ _ _ => ()⟩

def Arrival.Keeps (a : Arrival) {α : Type} (p : BookingCode α) : Prop :=
  Follows a.ledger (fun _ _ => True) (fun _ _ => True) p ()

variable {a : Arrival} {α β : Type}

theorem Arrival.Keeps.bind {p : BookingCode α} {f : α → BookingCode β} (h : a.Keeps p)
    (hf : ∀ x, a.Keeps (f x)) : a.Keeps (p >>= f) :=
  Follows.bind h fun x _ _ => hf x

theorem Arrival.Keeps.attempt {p : BookingCode α} {f : Err → BookingCode α} (h : a.Keeps p)
    (hf : ∀ e, a.Keeps (f e)) : a.Keeps (p.attempt f) :=
  Follows.attempt h fun e _ _ => hf e

theorem keeps_issue {s : Stmt bookingService} (hs : Confined a.Uses s) :
    a.Keeps (Program.issue (L := bookingService.sig) s) :=
  follows_issue hs (fun _ _ => trivial) fun _ _ => trivial

theorem keeps_ret (x : α) : a.Keeps (Program.ret x) := trivial

theorem keeps_raise (e : Err) : a.Keeps (α := α) (Program.raise e) := trivial

theorem keeps_aux {x : Aux} (hx : Confined a.Uses (.aux x)) :
    a.Keeps (Code.aux (V := bookingService) x) :=
  keeps_issue hx

theorem seats_of_keys (bookingId : Uuid) :
    ∀ k ∈ getLockKeys a.dto.scheduleId a.dto.seatIds a.dto.legs,
      a.Uses (.seat k.scheduleId k.seatId) := by
  intro k hk
  let args : SeatLocksArgs := ⟨a.dto.scheduleId, a.dto.seatIds, bookingId, a.dto.legs⟩
  have hmem : k ∈ args.keys := hk
  obtain ⟨hschedule, hseat, -⟩ := SeatLocks.mem_keys.mp hmem
  exact ⟨hschedule, hseat⟩

theorem keeps_validateBooking {scheduleId fromStationId toStationId : Id} :
    a.Keeps (validateBooking scheduleId fromStationId toStationId) := by
  refine Arrival.Keeps.bind (Arrival.Keeps.attempt (keeps_aux trivial) fun e => keeps_raise _)
    fun status => ?_
  cases status with
  | ok => exact keeps_ret ()
  | _ => exact keeps_raise _

theorem keeps_resolveSeatInventoryIds {scheduleId : Id} {seatIds : List Id} :
    a.Keeps (resolveSeatInventoryIds scheduleId seatIds) := by
  refine Arrival.Keeps.attempt (Arrival.Keeps.bind (keeps_issue trivial) fun seats => ?_)
    fun e => keeps_raise _
  split
  · exact keeps_raise _
  · split
    · exact keeps_raise _
    · exact keeps_ret _

theorem keeps_createBookingTransaction {bookingId : Uuid} {ids : List Id} {holdTtlMs : Nat}
    (hid : bookingId.source = a.label) :
    a.Keeps (createBookingTransaction a.userId a.dto bookingId ids holdTtlMs) := by
  refine follows_transaction trivial (fun _ => trivial) fun h => ?_
  suffices hbody : a.Keeps _ from
    hbody.mono (fun _ _ _ => ⟨trivial, trivial, fun _ => trivial⟩)
      fun _ _ _ => ⟨trivial, trivial, fun _ => trivial⟩
  refine Arrival.Keeps.bind (keeps_issue rfl) fun found => ?_
  cases found with
  | some existing => exact keeps_ret _
  | none =>
    refine follows_seq trivial (fun pnr hpnr => ?_) fun _ _ => trivial
    refine follows_seq ⟨hid, hpnr⟩ (fun booking hbooking => ?_) fun _ _ => trivial
    obtain rfl : booking = newBooking a.userId a.dto bookingId pnr := hbooking
    refine Arrival.Keeps.bind (keeps_issue trivial) fun _ => ?_
    refine Arrival.Keeps.bind (keeps_issue trivial) fun _ => ?_
    refine Arrival.Keeps.bind (keeps_issue trivial) fun eventId => ?_
    refine Arrival.Keeps.bind (keeps_issue trivial) fun _ => ?_
    refine Arrival.Keeps.bind (keeps_issue hid) fun _ => ?_
    refine Arrival.Keeps.bind (keeps_issue hid) fun _ => ?_
    refine Arrival.Keeps.bind (keeps_issue hid) fun _ => ?_
    refine Arrival.Keeps.bind (keeps_issue trivial) fun holdEventId => ?_
    refine Arrival.Keeps.bind (keeps_issue trivial) fun _ => ?_
    exact Arrival.Keeps.bind (keeps_issue rfl) fun _ => keeps_ret _

theorem keeps_createBooking : a.Keeps (createBooking a.userId a.dto) := by
  refine Arrival.Keeps.bind (keeps_issue rfl) fun found => ?_
  cases found with
  | some existing => exact keeps_ret _
  | none =>
    refine Arrival.Keeps.bind keeps_validateBooking fun _ => ?_
    refine Arrival.Keeps.bind keeps_resolveSeatInventoryIds fun ids => ?_
    refine follows_seq trivial (fun bookingId hid => ?_) fun _ _ => trivial
    refine Arrival.Keeps.bind (keeps_issue trivial) fun holdTtlMs => ?_
    have hlock : a.Keeps (acquireSeatLocks ⟨a.dto.scheduleId, a.dto.seatIds, bookingId, a.dto.legs⟩
        ((holdTtlMs + 999) / 1000)) := by
      unfold acquireSeatLocks
      split
      · exact keeps_ret _
      · exact Arrival.Keeps.attempt (keeps_aux (seats_of_keys bookingId)) fun _ => keeps_ret _
    have hrelease :
        a.Keeps (releaseSeatLocks ⟨a.dto.scheduleId, a.dto.seatIds, bookingId, a.dto.legs⟩) := by
      unfold releaseSeatLocks
      split
      · exact keeps_ret _
      · exact Arrival.Keeps.attempt (keeps_aux (seats_of_keys bookingId)) fun _ => keeps_ret _
    refine Arrival.Keeps.bind hlock fun acquired => ?_
    cases acquired with
    | false => exact keeps_raise _
    | true =>
      exact (keeps_createBookingTransaction hid).attempt fun e => hrelease.bind fun _ => keeps_raise e

end Code

section View

variable (v : Resource → Prop)

/-- The rows of the resources are the same. -/
structure SameTables (d d' : Db) : Prop where
  bookings : ∀ b, v (.bookings b.source) → d.bookings b = d'.bookings b
  pnrs : ∀ pnr, v (.pnr pnr) → d.pnrs pnr = d'.pnrs pnr
  sagaLogs : ∀ b, v (.bookings b.source) → d.sagaLogs b = d'.sagaLogs b
  keys : ∀ k, v (.key k) → d.idempotencyKeys k = d'.idempotencyKeys k

/-- The settings and the locks of the seats are the same. -/
structure SameStores (e e' : Env) : Prop where
  ttl : e.seatHoldTtlMs = e'.seatHoldTtlMs
  catalog : e.catalog = e'.catalog
  locks : ∀ k, v (.seat k.scheduleId k.seatId) → e.seatLocks k = e'.seatLocks k

/-- So are the time and the next id. -/
structure SameMoment (e e' : Env) : Prop extends SameStores v e e' where
  now : e.now = e'.now
  fresh : e.fresh = e'.fresh

variable {v}

theorem sameTables_equivalence : Equivalence (SameTables v) where
  refl _ := ⟨fun _ _ => rfl, fun _ _ => rfl, fun _ _ => rfl, fun _ _ => rfl⟩
  symm h := ⟨fun b hb => (h.bookings b hb).symm, fun n hn => (h.pnrs n hn).symm,
    fun b hb => (h.sagaLogs b hb).symm, fun k hk => (h.keys k hk).symm⟩
  trans h h' := ⟨fun b hb => (h.bookings b hb).trans (h'.bookings b hb),
    fun n hn => (h.pnrs n hn).trans (h'.pnrs n hn),
    fun b hb => (h.sagaLogs b hb).trans (h'.sagaLogs b hb),
    fun k hk => (h.keys k hk).trans (h'.keys k hk)⟩

theorem sameStores_equivalence : Equivalence (SameStores v) where
  refl _ := ⟨rfl, rfl, fun _ _ => rfl⟩
  symm h := ⟨h.ttl.symm, h.catalog.symm, fun k hk => (h.locks k hk).symm⟩
  trans h h' := ⟨h.ttl.trans h'.ttl, h.catalog.trans h'.catalog,
    fun k hk => (h.locks k hk).trans (h'.locks k hk)⟩

theorem sameTables_apply (x : Write) {d d' : Db} (h : SameTables v d d') :
    SameTables v (x.apply d) (x.apply d') := by
  cases x with
  | booking row =>
    refine ⟨fun b hb => ?_, fun n hn => ?_, h.sagaLogs, h.keys⟩
    · simp only [Write.apply, Function.update_apply, h.bookings b hb]
    · simp only [Write.apply, Function.update_apply, h.pnrs n hn]
  | saga bookingId step row =>
    refine ⟨h.bookings, h.pnrs, fun b hb => ?_, h.keys⟩
    simp only [Write.apply]
    by_cases he : b = bookingId
    · subst he
      rw [Function.update_self, Function.update_self, h.sagaLogs b hb]
    · rw [Function.update_of_ne he, Function.update_of_ne he, h.sagaLogs b hb]
  | idempotencyKey row =>
    refine ⟨h.bookings, h.pnrs, h.sagaLogs, fun k hk => ?_⟩
    simp only [Write.apply, Function.update_apply, h.keys k hk]
  | seats rows | enrich bookingId u | passengers rows | outbox event =>
    exact ⟨h.bookings, h.pnrs, h.sagaLogs, h.keys⟩

section Replies

variable {e e₁ : Env} {i : Nat} {ch : Choice Reply}

theorem ask_generatePnr {r : Except Err Nat} (h : ask e i .generatePnr ch = some (r, e₁)) :
    (e₁ = e ∧ ∀ e', ask e' i .generatePnr ch = some (r, e')) ∨
      (ch = .ok ∧ r = .ok e.fresh ∧ e₁ = { e with fresh := e.fresh + 1 }) := by
  cases ch with
  | ok =>
    cases h
    exact .inr ⟨rfl, rfl, rfl⟩
  | reply x =>
    cases x with
    | pnr p =>
      cases h
      exact .inl ⟨rfl, fun _ => rfl⟩
    | _ => cases h
  | fault | lost => cases h

theorem ask_validateBooking {scheduleId fromStationId toStationId : Id}
    {r : Except Err (AuxAns (.validateBooking scheduleId fromStationId toStationId))}
    (h : ask e i (.validateBooking scheduleId fromStationId toStationId) ch = some (r, e₁)) :
    e₁ = e ∧ ∀ e',
      ask e' i (.validateBooking scheduleId fromStationId toStationId) ch = some (r, e') := by
  cases ch with
  | reply x =>
    cases x with
    | validated status | error status =>
      cases h
      exact ⟨rfl, fun _ => rfl⟩
    | _ => cases h
  | ok | fault | lost =>
    cases h
    exact ⟨rfl, fun _ => rfl⟩

theorem ask_getSeatsDetailsBatch {scheduleId : Id} {seatIds : List Id}
    {r : Except Err (AuxAns (.getSeatsDetailsBatch scheduleId seatIds))}
    (h : ask e i (.getSeatsDetailsBatch scheduleId seatIds) ch = some (r, e₁)) :
    e₁ = e ∧ ∀ e', e.catalog = e'.catalog →
      ask e' i (.getSeatsDetailsBatch scheduleId seatIds) ch = some (r, e') := by
  cases ch with
  | ok =>
    obtain ⟨f, hf, heq⟩ := Option.map_eq_some_iff.mp h
    cases heq
    refine ⟨rfl, fun e' hcatalog => ?_⟩
    simp only [ask, ← hcatalog, hf, Option.map_some]
  | reply x =>
    cases x with
    | seats seats =>
      obtain ⟨hnone, heq⟩ := Option.ite_none_right_eq_some.mp h
      cases heq
      refine ⟨rfl, fun e' hcatalog => ?_⟩
      simp only [ask, ← hcatalog, hnone, if_true]
    | error status =>
      cases h
      exact ⟨rfl, fun _ _ => rfl⟩
    | _ => cases h
  | fault | lost =>
    cases h
    exact ⟨rfl, fun _ _ => rfl⟩

end Replies

section Sees

variable {e e' e₁ : Env} {i : Nat} {ch : Choice Reply}

theorem SameMoment.effect {α : Type} {a a' : α} {l l' : Redis.Store SeatLockKey Uuid}
    {r : Except Err α} (h : SameMoment v e e') (ha : a = a')
    (hl : ∀ k : SeatLockKey, v (.seat k.scheduleId k.seatId) → l k = l' k)
    (h₁ : e.effect a { e with seatLocks := l } ch = (r, e₁)) :
    ∃ e₂, e'.effect a' { e' with seatLocks := l' } ch = (r, e₂) ∧ SameMoment v e₁ e₂ := by
  subst ha
  cases ch with
  | fault =>
    cases h₁
    exact ⟨_, rfl, h⟩
  | lost | ok | reply x =>
    cases h₁
    exact ⟨_, rfl, ⟨h.ttl, h.catalog, hl⟩, h.now, h.fresh⟩

theorem sees_lockSeats {keys : List SeatLockKey} {token : Uuid} {ttl : Nat} {r : Except Err Bool}
    (hkeys : ∀ k ∈ keys, v (.seat k.scheduleId k.seatId)) (h : SameMoment v e e')
    (h₁ : ask e i (.lockSeats keys token ttl) ch = some (r, e₁)) :
    ∃ e₂, ask e' i (.lockSeats keys token ttl) ch = some (r, e₂) ∧ SameMoment v e₁ e₂ := by
  cases ttl with
  | zero =>
    cases h₁
    exact ⟨e', rfl, h⟩
  | succ n =>
    obtain ⟨hans, hlocks⟩ := Redis.seatLock_congr e.now token (n + 1)
      (P := fun k : SeatLockKey => v (.seat k.scheduleId k.seatId)) h.locks hkeys
    obtain ⟨e₂, he₂, hsame⟩ := h.effect (hans.trans (by rw [h.now]))
      (fun k hk => (hlocks k hk).trans (by rw [h.now])) (Option.some.inj h₁)
    exact ⟨e₂, congrArg some he₂, hsame⟩

theorem sees_unlockSeats {keys : List SeatLockKey} {token : Uuid} {r : Except Err Nat}
    (hkeys : ∀ k ∈ keys, v (.seat k.scheduleId k.seatId)) (h : SameMoment v e e')
    (h₁ : ask e i (.unlockSeats keys token) ch = some (r, e₁)) :
    ∃ e₂, ask e' i (.unlockSeats keys token) ch = some (r, e₂) ∧ SameMoment v e₁ e₂ := by
  obtain ⟨hans, hlocks⟩ := Redis.seatUnlock_congr e.now token
    (P := fun k : SeatLockKey => v (.seat k.scheduleId k.seatId)) h.locks hkeys
  obtain ⟨e₂, he₂, hsame⟩ := h.effect (hans.trans (by rw [h.now]))
    (fun k hk => (hlocks k hk).trans (by rw [h.now])) (Option.some.inj h₁)
  exact ⟨e₂, congrArg some he₂, hsame⟩

theorem SameMoment.draw (h : SameMoment v e e') :
    SameMoment v { e with fresh := e.fresh + 1 } { e' with fresh := e'.fresh + 1 } :=
  ⟨⟨h.ttl, h.catalog, h.locks⟩, h.now, congrArg (· + 1) h.fresh⟩

theorem sees_sql {n : Option Nat} {q : Sql} (hq : Confined v (.sql n q)) {d d' : Db}
    (h : SameTables v d d') : run q d = run q d' := by
  cases q with
  | findIdempotencyKey k => exact congrArg (fun x => Except.ok (x, [], [])) (h.keys k hq)
  | create data =>
    simp only [run]
    rw [h.bookings data.id hq.1, h.pnrs data.pnr hq.2]
  | createSaga b step status =>
    simp only [run]
    rw [h.sagaLogs b hq]
  | createIdempotencyKey data =>
    simp only [run]
    rw [h.keys data.idempotencyKey hq]
  | createSeats seats | createPassengers passengers | insertOutbox event => rfl
  | _ => exact hq.elim

theorem sees_ask {x : Aux} (hx : Confined v (.aux x)) {r : Except Err (AuxAns x)}
    (h : SameMoment v e e') (h₁ : ask e i x ch = some (r, e₁)) :
    ∃ e₂, ask e' i x ch = some (r, e₂) ∧ SameMoment v e₁ e₂ := by
  cases x with
  | lockSeats keys token ttl => exact sees_lockSeats hx h h₁
  | unlockSeats keys token => exact sees_unlockSeats hx h h₁
  | randomUUID =>
    cases h₁
    refine ⟨{ e' with fresh := e'.fresh + 1 }, ?_, h.draw⟩
    simp only [ask, h.fresh]
  | generatePnr =>
    obtain ⟨rfl, hreply⟩ | ⟨rfl, rfl, rfl⟩ := ask_generatePnr h₁
    · exact ⟨e', hreply e', h⟩
    · refine ⟨{ e' with fresh := e'.fresh + 1 }, ?_, h.draw⟩
      simp only [ask, h.fresh]
  | seatHoldTtlMs =>
    cases h₁
    refine ⟨e', ?_, h⟩
    simp only [ask, h.ttl]
  | validateBooking scheduleId fromStationId toStationId =>
    obtain ⟨rfl, hreply⟩ := ask_validateBooking h₁
    exact ⟨e', hreply e', h⟩
  | getSeatsDetailsBatch scheduleId seatIds =>
    obtain ⟨rfl, hreply⟩ := ask_getSeatsDetailsBatch h₁
    exact ⟨e', hreply e' h.catalog, h⟩
  | _ => exact hx.elim

theorem sees_confined {s : Stmt bookingService} (hs : Confined v s) :
    Sees (SameTables v) (SameMoment v) i s := by
  cases s with
  | begin site | commit n | rollback n => trivial
  | sql n q =>
    intro d d' h
    exact sees_sql hs h
  | aux x =>
    intro e e' ch r e₁ h h₁
    exact sees_ask hs h h₁

end Sees

section Misses

variable {e e' : Env} {i : Nat} {ch : Choice Reply}

theorem hidden_booking {row : Booking} (hid : ¬ v (.bookings row.id.source))
    (hpnr : ¬ v (.pnr row.pnr)) :
    Hidden (V := bookingService) (SameTables v) (.booking row) := by
  refine fun d => ⟨fun b hb => ?_, fun n hn => ?_, fun _ _ => rfl, fun _ _ => rfl⟩
  · have hne : b ≠ row.id := fun he => hid (he ▸ hb)
    exact (Function.update_of_ne hne _ _).symm
  · have hne : n ≠ row.pnr := fun he => hpnr (he ▸ hn)
    exact (Function.update_of_ne hne _ _).symm

theorem hidden_saga {bookingId : Uuid} {step : SagaStep} {row : SagaLog}
    (hid : ¬ v (.bookings bookingId.source)) :
    Hidden (V := bookingService) (SameTables v) (.saga bookingId step row) := by
  refine fun d => ⟨fun _ _ => rfl, fun _ _ => rfl, fun b hb => ?_, fun _ _ => rfl⟩
  have hne : b ≠ bookingId := fun he => hid (he ▸ hb)
  exact (Function.update_of_ne hne _ _).symm

theorem hidden_key {row : BookingIdempotencyKey} (hkey : ¬ v (.key row.idempotencyKey)) :
    Hidden (V := bookingService) (SameTables v) (.idempotencyKey row) := by
  refine fun d => ⟨fun _ _ => rfl, fun _ _ => rfl, fun _ _ => rfl, fun k hk => ?_⟩
  have hne : k ≠ row.idempotencyKey := fun he => hkey (he ▸ hk)
  exact (Function.update_of_ne hne _ _).symm

theorem sameStores_effect {α : Type} {a : α} {l : Redis.Store SeatLockKey Uuid} {r : Except Err α}
    (hl : ∀ k : SeatLockKey, v (.seat k.scheduleId k.seatId) → l k = e.seatLocks k)
    (h : e.effect a { e with seatLocks := l } ch = (r, e')) : SameStores v e e' := by
  obtain ⟨-, rfl, -⟩ | ⟨-, rfl, -⟩ | ⟨rfl, -⟩ := effect_cases h
  · exact sameStores_equivalence.refl e'
  · exact ⟨rfl, rfl, fun k hk => (hl k hk).symm⟩
  · exact ⟨rfl, rfl, fun k hk => (hl k hk).symm⟩

theorem misses_sql {n : Option Nat} {q : Sql} (hq : Confined (fun x => ¬ v x) (.sql n q)) {d : Db}
    {a : Rows q} {ws : List Write} {ks : List Key} (hrun : run q d = .ok (a, ws, ks)) :
    ∀ x ∈ ws, Hidden (V := bookingService) (SameTables v) x := by
  intro x hx
  cases q with
  | findIdempotencyKey k =>
    cases hrun
    cases hx
  | create data =>
    simp only [run] at hrun
    split at hrun
    · cases hrun
    · cases hrun
      cases List.mem_singleton.mp hx
      exact hidden_booking hq.1 hq.2
  | createSaga b step status =>
    simp only [run] at hrun
    split at hrun
    · cases hrun
    · cases hrun
      cases List.mem_singleton.mp hx
      exact hidden_saga hq
  | createIdempotencyKey data =>
    simp only [run] at hrun
    split at hrun
    · cases hrun
    · cases hrun
      cases List.mem_singleton.mp hx
      exact hidden_key hq
  | createSeats seats | createPassengers passengers | insertOutbox event =>
    cases hrun
    cases List.mem_singleton.mp hx
    exact fun _ => ⟨fun _ _ => rfl, fun _ _ => rfl, fun _ _ => rfl, fun _ _ => rfl⟩
  | _ => exact hq.elim

theorem misses_ask {x : Aux} (hx : Confined (fun y => ¬ v y) (.aux x))
    {r : Except Err (AuxAns x)} (h : ask e i x ch = some (r, e')) : SameStores v e e' := by
  have hrefl : ∀ e : Env, SameStores v e e := sameStores_equivalence.refl
  cases x with
  | lockSeats keys token ttl =>
    cases ttl with
    | zero =>
      cases h
      exact hrefl e
    | succ n =>
      exact sameStores_effect (fun k hk => Redis.seatLock_other fun hmem => hx k hmem hk)
        (Option.some.inj h)
  | unlockSeats keys token =>
    exact sameStores_effect (fun k hk => Redis.seatUnlock_other fun hmem => hx k hmem hk)
      (Option.some.inj h)
  | randomUUID | seatHoldTtlMs =>
    cases h
    exact ⟨rfl, rfl, fun _ _ => rfl⟩
  | generatePnr =>
    obtain ⟨rfl, -⟩ | ⟨-, -, rfl⟩ := ask_generatePnr h
    · exact hrefl e'
    · exact ⟨rfl, rfl, fun _ _ => rfl⟩
  | validateBooking scheduleId fromStationId toStationId =>
    obtain ⟨rfl, -⟩ := ask_validateBooking h
    exact hrefl e'
  | getSeatsDetailsBatch scheduleId seatIds =>
    obtain ⟨rfl, -⟩ := ask_getSeatsDetailsBatch h
    exact hrefl e'
  | _ => exact hx.elim

theorem misses_confined {s : Stmt bookingService} (hs : Confined (fun x => ¬ v x) s) :
    Misses (SameTables v) (SameStores v) i s := by
  cases s with
  | begin site | commit n | rollback n => trivial
  | sql n q =>
    intro d a ws ks hrun
    exact misses_sql hs hrun
  | aux x =>
    intro e e' ch r hask
    exact misses_ask hs hask

end Misses

end View

section Serving

variable {v : Resource → Prop} {U U' : Resource → Prop} {a : Arrival} {w w' : BookingWorld}

theorem Confined.mono {s : Stmt bookingService} (h : Confined U s) (hU : ∀ x, U x → U' x) :
    Confined U' s := by
  cases s with
  | begin site | commit n | rollback n => trivial
  | sql n q =>
    cases q with
    | create data => exact h.imp (hU _) (hU _)
    | findIdempotencyKey k | createSaga b step status | createIdempotencyKey data => exact hU _ h
    | _ => exact h
  | aux x =>
    cases x with
    | lockSeats keys token ttl | unlockSeats keys token => exact fun k hk => hU _ (h k hk)
    | _ => exact h

theorem create_ran {σ σ' : Shared bookingService Call} {i : Nat} {c : Call} {n : Option Nat}
    {data : Booking} {ch : Choice Reply} {r : Except Err Booking}
    (h : σ.Effect i c (.sql n (.create data)) ch r σ') : ∀ row, r = .ok row → row = data := by
  have hrun : ∀ {d : Db} {x : Booking} {ws ks}, run (.create data) d = .ok (x, ws, ks) → x = data := by
    intro d x ws ks hrun
    simp only [run] at hrun
    split at hrun
    · cases hrun
    · cases hrun
      rfl
  intro row hr
  cases h with
  | failed e => cases hr
  | recorded ht howner hq =>
    cases hr
    exact hrun hq
  | read hq | single hq =>
    cases ch with
    | lost => cases hr
    | ok | fault | reply y =>
      cases hr
      exact hrun hq

theorem Arrival.can_exec {σ σ' : Shared bookingService Call} {n : Nat} {s : Stmt bookingService}
    {r : Except Err s.Ans} (h : σ.exec a.label a.call s (a.script.answer n s) = some (r, σ')) :
    a.can s r := by
  cases s with
  | begin site | commit n | rollback n => trivial
  | sql n q =>
    cases q with
    | create data =>
      cases r with
      | ok row => exact create_ran (Shared.exec_effect h) row rfl
      | error e => trivial
    | _ => trivial
  | aux x =>
    cases x with
    | randomUUID =>
      cases h
      rfl
    | generatePnr =>
      rw [a.drawn n] at h
      cases h
      rfl
    | _ => trivial

def Alike (v : Resource → Prop) (w w' : BookingWorld) : Prop :=
  SameTables v w.db w'.db ∧ SameStores v w.env w'.env

theorem Alike.refl (w : BookingWorld) : Alike v w w :=
  ⟨sameTables_equivalence.refl w.db, sameStores_equivalence.refl w.env⟩

theorem Alike.symm (h : Alike v w w') : Alike v w' w :=
  ⟨sameTables_equivalence.symm h.1, sameStores_equivalence.symm h.2⟩

theorem Alike.trans {w'' : BookingWorld} (h : Alike v w w') (h' : Alike v w' w'') : Alike v w w'' :=
  ⟨sameTables_equivalence.trans h.1 h'.1, sameStores_equivalence.trans h.2 h'.2⟩

theorem Arrival.serve_alike (hv : ∀ x, a.Uses x → v x) (h : Alike v w w')
    {o : Except Err CreateBookingResponse} {w₁ : BookingWorld} (ho : a.serve w = some (o, w₁)) :
    ∃ w₂, a.serve w' = some (o, w₂) ∧ Alike v w₁ w₂ := by
  obtain ⟨⟨o, σ₁⟩, hplay, heq⟩ := Option.map_eq_some_iff.mp ho
  cases heq
  have hstart : (a.arrive w).idle.Agree (SameTables v) (SameMoment v) (a.arrive w').idle :=
    ⟨h.1, ⟨⟨h.2.ttl, h.2.catalog, h.2.locks⟩, rfl, rfl⟩, rfl, rfl, rfl⟩
  have hkeeps : a.Keeps (createBooking a.userId a.dto) := keeps_createBooking
  obtain ⟨σ₂, hplay', hend⟩ := hkeeps.play_agree sameTables_apply
    (fun n e e' he => ⟨⟨he.ttl, he.catalog, he.locks⟩, congrArg (· + n) he.now, he.fresh⟩)
    (fun _ _ _ _ _ hexec => a.can_exec hexec)
    (fun _ s (hs : Confined a.Uses s) => sees_confined (hs.mono hv)) hstart hplay
  refine ⟨σ₂.world, ?_, hend.db, hend.env.toSameStores⟩
  simp only [Arrival.serve, hplay', Option.map_some]

theorem Arrival.serve_hidden (hv : ∀ x, a.Uses x → ¬ v x)
    {o : Except Err CreateBookingResponse} (ho : a.serve w = some (o, w')) : Alike v w w' := by
  obtain ⟨⟨o, σ₁⟩, hplay, heq⟩ := Option.map_eq_some_iff.mp ho
  cases heq
  have hkeeps : a.Keeps (createBooking a.userId a.dto) := keeps_createBooking
  have hstart : (a.arrive w).idle.Hides (V := bookingService) (SameTables v) := fun _ _ ht => by
    cases ht
  obtain ⟨hdb, henv⟩ := hkeeps.play_hidden sameTables_equivalence sameStores_equivalence
    (fun n e => ⟨rfl, rfl, fun _ _ => rfl⟩) (fun _ _ _ _ _ hexec => a.can_exec hexec)
    (fun _ s (hs : Confined a.Uses s) => misses_confined (hs.mono hv)) hstart hplay
  exact ⟨hdb, henv.ttl, henv.catalog, henv.locks⟩

end Serving

end RailwayBooking.BookingService
