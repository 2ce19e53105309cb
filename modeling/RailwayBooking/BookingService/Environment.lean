import Mathlib.Data.List.Sort
import RailwayBooking.Concurrency.ReadCommitted
import RailwayBooking.Redis.Idempotency
import RailwayBooking.Redis.SeatLock
import RailwayBooking.BookingService.Repository

namespace RailwayBooking.BookingService

open Concurrency

/-- `booking:lock:seat:{scheduleId}:{seatId}`, and `:leg:{leg}` when there is one. -/
structure SeatLockKey where
  scheduleId : Id
  seatId : Id
  leg : Option Nat
  deriving DecidableEq

/-- The keys that the saga handlers reserve for an event. -/
inductive SagaKey
  | held (eventId : EventId)
  | failed (eventId : EventId)
  | expired (eventId : EventId)
  | paymentSuccess (eventId : EventId)
  deriving DecidableEq

inductive ValidateBookingStatus
  | ok
  | scheduleNotFound
  | scheduleInactive
  | trainAlreadyDeparted
  | unrecognized
  deriving DecidableEq, Repr

structure SeatDetails where
  seatId : Id
  seatInventoryId : Id
  deriving DecidableEq

structure CreateOrderResponse where
  paymentOrderId : Uuid
  razorpayOrderId : Id
  keyId : Id
  status : PaymentStatus
  deriving DecidableEq

/-- The operations that are not statements of the database. -/
inductive Aux
  | randomUUID
  | generatePnr
  | seatHoldTtlMs
  | validateBooking (scheduleId fromStationId toStationId : Id)
  | getSeatsDetailsBatch (scheduleId : Id) (seatIds : List Id)
  | lockSeats (keys : List SeatLockKey) (lockToken : Uuid) (ttlSeconds : Nat)
  | unlockSeats (keys : List SeatLockKey) (lockToken : Uuid)
  | reserveIfNew (key : SagaKey)
  | markProcessed (key : SagaKey)
  | release (key : SagaKey)
  | createOrder (bookingId : Uuid) (userId : Id) (amount : Nat)
  | heartbeat
  | sendToDlq

@[reducible] def AuxAns : Aux → Type
  | .randomUUID => Uuid
  | .generatePnr => Nat
  | .seatHoldTtlMs => Nat
  | .validateBooking _ _ _ => ValidateBookingStatus
  | .getSeatsDetailsBatch _ _ => List SeatDetails
  | .lockSeats _ _ _ => Bool
  | .unlockSeats _ _ => Nat
  | .reserveIfNew _ => Bool
  | .createOrder _ _ _ => CreateOrderResponse
  | .markProcessed _ | .release _ | .heartbeat | .sendToDlq => Unit

/-- What parties outside the service answer. -/
inductive Reply
  | pnr (pnr : Nat)
  | validated (status : ValidateBookingStatus)
  | seats (seats : List SeatDetails)
  | order (order : CreateOrderResponse)
  | error (httpStatus : Nat)

/-- The clock, the configuration, the Redis keys, and how many random ids were
drawn. `catalog` fixes the seats that inventory-service reports, or leaves them
open. -/
structure Env where
  now : Nat
  fresh : Nat
  seatHoldTtlMs : Nat
  leases : Redis.Leases
  seatLocks : Redis.Store SeatLockKey Uuid
  saga : Redis.Store SagaKey Redis.IdempotencyState
  catalog : Option (Id → List Id → List SeatDetails)

def Env.effect {α : Type} (e : Env) (a : α) (e' : Env) : Choice Reply → Except Err α × Env
  | .fault => (.error .fault, e)
  | .lost => (.error .fault, e')
  | _ => (.ok a, e')

def ask (e : Env) (i : Nat) : (a : Aux) → Choice Reply → Option (Except Err (AuxAns a) × Env)
  | .randomUUID, _ => some (.ok ⟨i, e.fresh⟩, { e with fresh := e.fresh + 1 })
  | .generatePnr, .reply (.pnr p) => some (.ok p, e)
  | .generatePnr, .ok => some (.ok e.fresh, { e with fresh := e.fresh + 1 })
  | .generatePnr, _ => none
  | .seatHoldTtlMs, _ => some (.ok e.seatHoldTtlMs, e)
  | .validateBooking _ _ _, .reply (.validated s) => some (.ok s, e)
  | .validateBooking _ _ _, .reply (.error c) => some (.error (.grpc c), e)
  | .validateBooking _ _ _, .ok => some (.ok .ok, e)
  | .validateBooking _ _ _, .reply _ => none
  | .validateBooking _ _ _, _ => some (.error .fault, e)
  | .getSeatsDetailsBatch scheduleId seatIds, .ok =>
      e.catalog.map (fun f => (.ok (f scheduleId seatIds), e))
  | .getSeatsDetailsBatch _ _, .reply (.seats s) =>
      if e.catalog.isNone then some (.ok s, e) else none
  | .getSeatsDetailsBatch _ _, .reply (.error c) => some (.error (.grpc c), e)
  | .getSeatsDetailsBatch _ _, .reply _ => none
  | .getSeatsDetailsBatch _ _, _ => some (.error .fault, e)
  | .lockSeats _ _ 0, _ => some (.error .fault, e)
  | .lockSeats keys lockToken ttlSeconds, ch =>
      let r := Redis.seatLock e.seatLocks e.now keys lockToken ttlSeconds
      some (e.effect r.1 { e with seatLocks := r.2 } ch)
  | .unlockSeats keys lockToken, ch =>
      let r := Redis.seatUnlock e.seatLocks e.now keys lockToken
      some (e.effect r.1 { e with seatLocks := r.2 } ch)
  | .reserveIfNew key, ch =>
      let r := Redis.reserveIfNew e.leases e.saga e.now key
      some (e.effect r.1 { e with saga := r.2 } ch)
  | .markProcessed key, ch =>
      some (e.effect () { e with saga := Redis.markProcessed e.leases e.saga e.now key } ch)
  | .release key, ch => some (e.effect () { e with saga := Redis.release e.saga e.now key } ch)
  | .createOrder _ _ _, .reply (.order o) => some (.ok o, e)
  | .createOrder _ _ _, .reply (.error c) => some (.error (.grpc c), e)
  | .createOrder _ _ _, .reply _ | .createOrder _ _ _, .ok => none
  | .createOrder _ _ _, _ => some (.error .fault, e)
  | .heartbeat, ch => some (e.effect () e ch)
  | .sendToDlq, ch => some (e.effect () e ch)

/-- Where in the source a transaction is opened. -/
inductive Site
  | createBooking
  | transition
  | seatsHeld
  | seatsHoldFailed
  | seatHoldExpired
  | paymentSuccess
  | auto
  deriving DecidableEq, Repr

@[reducible] def bookingService : Service where
  Db := Db
  Sql := Sql
  Rows := Rows
  Write := Write
  Key := Key
  Site := Site
  Aux := Aux
  AuxAns := AuxAns
  Env := Env
  Err := Err
  Reply := Reply
  fault := .fault
  auto := .auto
  run := run
  apply := Write.apply
  keys := Write.keys
  ask := ask
  tick d e := { e with now := e.now + d }

end RailwayBooking.BookingService
