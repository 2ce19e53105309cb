import Mathlib.Init

namespace RailwayBooking

/-- Identifiers given from outside. Only their equality and order are used. -/
abbrev Id := Nat

/-- A random id. It names the call that drew it and how many were drawn before,
which is how the model keeps random ids apart. -/
structure Uuid where
  source : Nat
  serial : Nat
  deriving DecidableEq, Repr

def Uuid.text (u : Uuid) : String := toString u.source ++ "-" ++ toString u.serial

inductive BookingStatus
  | pending
  | seatsHeld
  | paymentPending
  | confirming
  | confirmed
  | cancelling
  | cancelled
  | expired
  | failed
  deriving DecidableEq, Repr

/-- The status as it stands in messages. -/
def BookingStatus.name : BookingStatus → String
  | .pending => "PENDING"
  | .seatsHeld => "SEATS_HELD"
  | .paymentPending => "PAYMENT_PENDING"
  | .confirming => "CONFIRMING"
  | .confirmed => "CONFIRMED"
  | .cancelling => "CANCELLING"
  | .cancelled => "CANCELLED"
  | .expired => "EXPIRED"
  | .failed => "FAILED"

inductive SeatHoldFailureReason
  | seatAlreadyHeld
  | scheduleNotFound
  | seatNotFound
  | segmentConflict
  | internalError
  deriving DecidableEq, Repr

def SeatHoldFailureReason.name : SeatHoldFailureReason → String
  | .seatAlreadyHeld => "SEAT_ALREADY_HELD"
  | .scheduleNotFound => "SCHEDULE_NOT_FOUND"
  | .seatNotFound => "SEAT_NOT_FOUND"
  | .segmentConflict => "SEGMENT_CONFLICT"
  | .internalError => "INTERNAL_ERROR"

/-- Event ids are random, or derived from a seed that names the request. -/
inductive EventId
  | random (uuid : Uuid)
  | held (request : EventId)
  | failed (request : EventId) (reason : SeatHoldFailureReason)
  deriving DecidableEq, Repr

/-- `BookingStatusChangedV1`. -/
structure BookingStatusChanged where
  eventId : EventId
  bookingId : Uuid
  pnr : Nat
  userId : Id
  previousStatus : Option BookingStatus
  currentStatus : BookingStatus
  version : Nat
  deriving DecidableEq

/-- `HoldSeatsRequestedV1`, with the source's spelling of `fromStaionId`. -/
structure HoldSeatsRequested where
  eventId : EventId
  bookingId : Uuid
  scheduleId : Id
  userId : Id
  seatInventoryIds : List Id
  fromStaionId : Id
  toStationId : Id
  fromSequence : Nat
  toSequence : Nat
  holdTtlMs : Nat
  deriving DecidableEq

/-- `SeatAllocationV1`. Prices are in minor units. -/
structure SeatAllocationEntry where
  seatId : Id
  seatInventoryId : Id
  coachNumber : String
  seatNumber : Nat
  seatType : String
  price : Nat
  deriving DecidableEq

structure SeatsHeld where
  eventId : EventId
  bookingId : Uuid
  allocations : List SeatAllocationEntry
  holdExpiresAt : Nat
  deriving DecidableEq

structure SeatsHoldFailed where
  eventId : EventId
  bookingId : Uuid
  reason : SeatHoldFailureReason
  message : String
  failedSeatInventoryIds : List Id
  deriving DecidableEq

structure SeatHoldExpired where
  eventId : EventId
  bookingId : Uuid
  expiredAt : Nat
  deriving DecidableEq

inductive CaptureSource
  | client
  | webhook
  deriving DecidableEq, Repr

/-- `PaymentOrderCreatedV1`. Amounts of payments are in minor units. -/
structure PaymentOrderCreated where
  eventId : EventId
  bookingId : Uuid
  paymentOrderId : Uuid
  razorpayOrderId : Id
  amount : Nat
  currency : String
  deriving DecidableEq

/-- `PaymentSuccessV1`. -/
structure PaymentSuccess where
  eventId : EventId
  bookingId : Uuid
  paymentId : Uuid
  paymentOrderId : Uuid
  razorpayPaymentId : Id
  amount : Nat
  source : CaptureSource
  deriving DecidableEq

/-- `PaymentFailedV1`. -/
structure PaymentFailed where
  eventId : EventId
  bookingId : Uuid
  paymentOrderId : Uuid
  reason : String
  deriving DecidableEq

inductive PaymentStatus
  | created
  | pending
  | captured
  | failed
  | refunded
  deriving DecidableEq, Repr

/-- A Kafka message: its value parses to an event, or does not, or is null. -/
inductive Message (E : Type)
  | event (e : E)
  | malformed
  | tombstone
  deriving DecidableEq

end RailwayBooking
