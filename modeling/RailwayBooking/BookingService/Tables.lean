import RailwayBooking.BookingService.Saga

namespace RailwayBooking.BookingService

open Concurrency

abbrev BookingTx := Tx bookingService

abbrev BookingWorld := World bookingService Call

namespace Write

def row? : Write → Option Booking
  | .booking row => some row
  | _ => none

def event? : Write → Option OutboxEvent
  | .outbox event => some event
  | _ => none

def sagaLog? : Write → Option (Uuid × SagaStep × SagaLog)
  | .saga bookingId step row => some (bookingId, step, row)
  | _ => none

def stored? : Write → Option BookingIdempotencyKey
  | .idempotencyKey row => some row
  | _ => none

def onSeats : Write → List BookingSeat → List BookingSeat
  | .seats rows, s => s ++ rows
  | .enrich bookingId u, s =>
      s.map (fun s => if s.bookingId = bookingId ∧ s.seatId = u.seatId then u.enrich s else s)
  | _, s => s

end Write

def putRow (f : Uuid → Option Booking) (row : Booking) : Uuid → Option Booking :=
  Function.update f row.id (some row)

def putSagaLog (f : Uuid → SagaStep → Option SagaLog) (r : Uuid × SagaStep × SagaLog) :
    Uuid → SagaStep → Option SagaLog :=
  Function.update f r.1 (Function.update (f r.1) r.2.1 (some r.2.2))

def putKey (f : Id → Option BookingIdempotencyKey) (row : BookingIdempotencyKey) :
    Id → Option BookingIdempotencyKey :=
  Function.update f row.idempotencyKey (some row)

section View

variable (d : Db) (ws : List Write)

def applyAll : Db := ws.foldl (fun d x => x.apply d) d

theorem view_eq (t : BookingTx) : t.view d = applyAll d t.writes := rfl

theorem applyAll_bookings : (applyAll d ws).bookings =
    (ws.filterMap Write.row?).foldl putRow d.bookings := by
  induction ws generalizing d with
  | nil => rfl
  | cons x ws ih =>
    rw [show applyAll d (x :: ws) = applyAll (x.apply d) ws from rfl, ih]
    cases x <;> rfl

theorem applyAll_outbox : (applyAll d ws).outbox = d.outbox ++ ws.filterMap Write.event? := by
  induction ws generalizing d with
  | nil => simp [applyAll]
  | cons x ws ih =>
    rw [show applyAll d (x :: ws) = applyAll (x.apply d) ws from rfl, ih]
    cases x <;> simp [Write.apply, Write.event?, List.filterMap_cons]

theorem applyAll_sagaLogs : (applyAll d ws).sagaLogs =
    (ws.filterMap Write.sagaLog?).foldl putSagaLog d.sagaLogs := by
  induction ws generalizing d with
  | nil => rfl
  | cons x ws ih =>
    rw [show applyAll d (x :: ws) = applyAll (x.apply d) ws from rfl, ih]
    cases x <;> rfl

theorem applyAll_seats : (applyAll d ws).seats = ws.foldl (fun s x => x.onSeats s) d.seats := by
  induction ws generalizing d with
  | nil => rfl
  | cons x ws ih =>
    rw [show applyAll d (x :: ws) = applyAll (x.apply d) ws from rfl, ih]
    cases x <;> rfl

theorem applyAll_idempotencyKeys : (applyAll d ws).idempotencyKeys =
    (ws.filterMap Write.stored?).foldl putKey d.idempotencyKeys := by
  induction ws generalizing d with
  | nil => rfl
  | cons x ws ih =>
    rw [show applyAll d (x :: ws) = applyAll (x.apply d) ws from rfl, ih]
    cases x <;> rfl

theorem applyAll_unchanged {β : Type} (f : Db → β) (h : ∀ x ∈ ws, ∀ d, f (x.apply d) = f d) :
    f (applyAll d ws) = f d := by
  induction ws generalizing d with
  | nil => rfl
  | cons x ws ih =>
    rw [show applyAll d (x :: ws) = applyAll (x.apply d) ws from rfl,
      ih _ (fun y hy => h y (List.mem_cons_of_mem _ hy))]
    exact h x List.mem_cons_self d

theorem applyAll_bookings_other {b : Uuid} (h : ∀ x ∈ ws, .booking b ∉ x.keys) :
    (applyAll d ws).bookings b = d.bookings b := by
  refine applyAll_unchanged d ws (fun d => d.bookings b) fun x hx d => ?_
  have hkey := h x hx
  cases x with
  | booking row =>
    have hb : b ≠ row.id := fun he => hkey (by simp [Write.keys, he])
    simp [Write.apply, hb]
  | _ => rfl

theorem applyAll_pnrs_other {p : Nat} (h : ∀ x ∈ ws, .pnr p ∉ x.keys) :
    (applyAll d ws).pnrs p = d.pnrs p := by
  refine applyAll_unchanged d ws (fun d => d.pnrs p) fun x hx d => ?_
  have hkey := h x hx
  cases x with
  | booking row =>
    have hp : p ≠ row.pnr := fun he => hkey (by simp [Write.keys, he])
    simp [Write.apply, hp]
  | _ => rfl

theorem applyAll_idempotencyKeys_other {k : Id} (h : ∀ x ∈ ws, .idempotencyKey k ∉ x.keys) :
    (applyAll d ws).idempotencyKeys k = d.idempotencyKeys k := by
  refine applyAll_unchanged d ws (fun d => d.idempotencyKeys k) fun x hx d => ?_
  have hkey := h x hx
  cases x with
  | idempotencyKey row =>
    have hk : k ≠ row.idempotencyKey := fun he => hkey (by simp [Write.keys, he])
    simp [Write.apply, hk]
  | _ => rfl

end View

end RailwayBooking.BookingService
