import Mathlib.Logic.Function.Basic
import RailwayBooking.Contracts

namespace RailwayBooking.BookingService

/-- The stored payment order is one that payment-service issued, or a
placeholder: `PAY-` with a random id, or `auto-` with the booking's id. -/
inductive PaymentOrderId
  | issued (id : Uuid)
  | pay (uuid : Uuid)
  | auto (bookingId : Uuid)
  deriving DecidableEq

structure Booking where
  id : Uuid
  pnr : Nat
  userId : Id
  scheduleId : Id
  fromStationId : Id
  toStationId : Id
  status : BookingStatus
  totalPrice : Nat
  paymentOrderId : Option PaymentOrderId
  version : Nat
  failureReason : Option String
  lockExpiresAt : Option Nat
  deriving DecidableEq

structure BookingSeat where
  bookingId : Uuid
  seatId : Id
  seatInventoryId : Option Id
  coachNumber : Option String
  seatNumber : Option Nat
  seatType : Option String
  price : Option Nat
  deriving DecidableEq

inductive PassengerGender
  | male
  | female
  | other
  deriving DecidableEq, Repr

structure PassengerDto where
  fullName : String
  age : Nat
  gender : PassengerGender
  berthPreference : Option String
  deriving DecidableEq

structure BookingPassenger where
  bookingId : Uuid
  passenger : PassengerDto
  deriving DecidableEq

inductive SagaStep
  | holdSeats
  | createPayment
  | confirmSeats
  deriving DecidableEq, Repr

inductive SagaStatus
  | pending
  | completed
  | failed
  | compensated
  deriving DecidableEq, Repr

structure SagaLog where
  status : SagaStatus
  error : Option String
  deriving DecidableEq

/-- The body of a successful `createBooking`, as stored with its key. -/
structure CreateBookingResponse where
  id : Uuid
  pnr : Nat
  status : BookingStatus
  deriving DecidableEq

structure BookingIdempotencyKey where
  idempotencyKey : Id
  bookingId : Uuid
  responseBody : CreateBookingResponse
  deriving DecidableEq

/-- A row of the transactional outbox: the event that its topic and payload name. -/
inductive OutboxEvent
  | bookingStatusChanged (payload : BookingStatusChanged)
  | holdSeatsRequested (payload : HoldSeatsRequested)
  deriving DecidableEq

/-- The tables of booking-service. `pnrs` is the unique index on `bookings.pnr`. -/
structure Db where
  bookings : Uuid → Option Booking
  pnrs : Nat → Option Uuid
  seats : List BookingSeat
  passengers : List BookingPassenger
  sagaLogs : Uuid → SagaStep → Option SagaLog
  idempotencyKeys : Id → Option BookingIdempotencyKey
  outbox : List OutboxEvent

namespace Db

def empty : Db := ⟨fun _ => none, fun _ => none, [], [], fun _ _ => none, fun _ => none, []⟩

end Db

/-- The columns that `handleSeatsHeld` copies from an allocation onto a seat. -/
structure SeatUpdate where
  seatId : Id
  seatInventoryId : Id
  coachNumber : String
  seatNumber : Nat
  seatType : String
  price : Nat
  deriving DecidableEq

def SeatUpdate.enrich (u : SeatUpdate) (s : BookingSeat) : BookingSeat :=
  { s with
    seatInventoryId := some u.seatInventoryId
    coachNumber := some u.coachNumber
    seatNumber := some u.seatNumber
    seatType := some u.seatType
    price := some u.price }

/-- The columns that `BookingRepository.update` and the saga may set. -/
structure BookingUpdate where
  totalPrice : Option Nat
  paymentOrderId : Option PaymentOrderId
  failureReason : Option String
  lockExpiresAt : Option Nat
  deriving DecidableEq

namespace BookingUpdate

def nothing : BookingUpdate := ⟨none, none, none, none⟩

def apply (u : BookingUpdate) (b : Booking) : Booking :=
  { b with
    totalPrice := u.totalPrice.getD b.totalPrice
    paymentOrderId := u.paymentOrderId.orElse (fun _ => b.paymentOrderId)
    failureReason := u.failureReason.orElse (fun _ => b.failureReason)
    lockExpiresAt := u.lockExpiresAt.orElse (fun _ => b.lockExpiresAt) }

end BookingUpdate

end RailwayBooking.BookingService
