import RailwayBooking.Kafka.DlqWrapper
import RailwayBooking.BookingService.Operations

namespace RailwayBooking.BookingService

open Concurrency

def reserveIfNew (key : SagaKey) : BookingCode Bool :=
  Code.aux (V := bookingService) (.reserveIfNew key)

def markProcessed (key : SagaKey) : BookingCode Unit :=
  Code.aux (V := bookingService) (.markProcessed key)

def release (key : SagaKey) : BookingCode Unit :=
  Code.aux (V := bookingService) (.release key)

/-- What the four handlers share: `work` runs under a reservation of the event,
which an error releases. The answer tells whether the reservation was granted. -/
def reserved (key : SagaKey) (work : BookingCode Unit) : BookingCode Bool := do
  let granted ← reserveIfNew key
  if !granted then pure false
  else do
    Program.attempt
      (do
        work
        markProcessed key)
      (fun err => do
        release key
        raise err)
    pure true

def bookingNotFound (bookingId : Uuid) : Err :=
  .error ("Booking not found: " ++ bookingId.text)

section SeatsHeld

variable (event : SeatsHeld)

def passengersData : List SeatUpdate :=
  event.allocations.map (fun alloc =>
    ⟨alloc.seatId, alloc.seatInventoryId, alloc.coachNumber, alloc.seatNumber, alloc.seatType,
      alloc.price⟩)

def totalPrice : Nat := event.allocations.foldl (fun sum alloc => sum + alloc.price) 0

def seatsHeldTransaction : BookingCode Unit :=
  Code.transaction (V := bookingService) .seatsHeld (fun tx => do
    let found ← findById (some tx) event.bookingId
    match found with
    | none => raise (bookingNotFound event.bookingId)
    | some booking =>
      if booking.status ≠ .pending then pure ()
      else do
        updatePassengers (some tx) event.bookingId (passengersData event)
        let advanced ← updateStatus (some tx) event.bookingId .seatsHeld (booking.version + 1)
        if !advanced then
          raise (.error ("Booking " ++ event.bookingId.text ++
            " CAS collision on PENDING → SEATS_HELD"))
        else do
          let _ ← update (some tx) event.bookingId
            { BookingUpdate.nothing with
              totalPrice := some (totalPrice event)
              lockExpiresAt := some event.holdExpiresAt }
          let _ ← updateSaga (some tx) event.bookingId .holdSeats .completed none
          pure ())

/-- The advance to `PAYMENT_PENDING` comes after the event is marked processed;
its errors are ignored. -/
def handleSeatsHeld : BookingCode Unit := do
  let granted ← reserved (.held event.eventId) (seatsHeldTransaction event)
  if !granted then pure ()
  else
    Program.attempt (markPaymentPending event.bookingId (.auto event.bookingId)) (fun _ => pure ())

end SeatsHeld

section SeatsHoldFailed

variable (event : SeatsHoldFailed)

/-- The answer of `updateStatus` is not looked at. -/
def seatsHoldFailedTransaction : BookingCode Unit :=
  Code.transaction (V := bookingService) .seatsHoldFailed (fun tx => do
    let found ← findById (some tx) event.bookingId
    match found with
    | none => raise (bookingNotFound event.bookingId)
    | some booking =>
      if booking.status = .pending then do
        let _ ← updateStatus (some tx) event.bookingId .failed (booking.version + 1)
        let _ ← update (some tx) event.bookingId
          { BookingUpdate.nothing with failureReason := some event.message }
        let _ ← updateSaga (some tx) event.bookingId .holdSeats .failed (some event.reason.name)
        pure ()
      else pure ())

def handleSeatsHoldFailed : BookingCode Unit := do
  let _ ← reserved (.failed event.eventId) (seatsHoldFailedTransaction event)
  pure ()

end SeatsHoldFailed

section SeatHoldExpired

variable (event : SeatHoldExpired)

/-- The answer of `updateStatus` is not looked at. -/
def seatHoldExpiredTransaction : BookingCode Unit :=
  Code.transaction (V := bookingService) .seatHoldExpired (fun tx => do
    let found ← findById (some tx) event.bookingId
    match found with
    | none => raise (bookingNotFound event.bookingId)
    | some booking =>
      if booking.status = .seatsHeld ∨ booking.status = .pending then do
        let _ ← updateStatus (some tx) event.bookingId .expired (booking.version + 1)
        let _ ← updateSaga (some tx) event.bookingId .holdSeats .compensated
          (some "Hold duration expired")
        pure ()
      else pure ())

def handleSeatHoldExpired : BookingCode Unit := do
  let _ ← reserved (.expired event.eventId) (seatHoldExpiredTransaction event)
  pure ()

end SeatHoldExpired

section PaymentSuccess

variable (event : PaymentSuccess)

/-- The statuses from which a payment confirms the booking. -/
def payable (s : BookingStatus) : Bool :=
  !(s ≠ .seatsHeld && s ≠ .paymentPending && s ≠ .confirming)

/-- The saga log is written in this transaction, the booking in those that
`confirmPayment` opens beside it. -/
def paymentSuccessTransaction : BookingCode Unit :=
  Code.transaction (V := bookingService) .paymentSuccess (fun tx => do
    let found ← findById (some tx) event.bookingId
    match found with
    | none => pure ()
    | some booking =>
      if !payable booking.status then pure ()
      else do
        let _ ← updateSaga (some tx) event.bookingId .createPayment .completed none
        confirmPayment event.bookingId booking.userId
        let _ ← updateSaga (some tx) event.bookingId .confirmSeats .completed none
        pure ())

def handlePaymentSuccess : BookingCode Unit := do
  let _ ← reserved (.paymentSuccess event.eventId) (paymentSuccessTransaction event)
  pure ()

end PaymentSuccess

def consumer : Kafka.Consumer bookingService where
  isNonRetryable := Err.isNonRetryable
  parseError := .validation "Message does not match its schema."
  heartbeat := Code.aux (V := bookingService) .heartbeat
  sendToDlq := Code.aux (V := bookingService) .sendToDlq

/-- What runs in booking-service: requests of clients, the public operations,
and deliveries of Kafka messages to the saga handlers. -/
inductive Call
  | createBooking (userId : Id) (dto : CreateBookingDto)
  | markSeatsHeld (bookingId : Uuid) (lockExpiresAt : Nat)
  | markPaymentPending (bookingId : Uuid) (paymentOrderId : PaymentOrderId)
  | markConfirming (bookingId : Uuid)
  | markConfirmed (bookingId : Uuid)
  | markFailed (bookingId : Uuid) (reason : String)
  | markExpired (bookingId : Uuid)
  | cancelBooking (bookingId : Uuid) (userId : Id)
  | createPaymentOrder (bookingId : Uuid) (userId : Id)
  | confirmPayment (bookingId : Uuid) (userId : Id)
  | seatsHeld (m : Message SeatsHeld)
  | seatsHoldFailed (m : Message SeatsHoldFailed)
  | seatHoldExpired (m : Message SeatHoldExpired)
  | paymentSuccess (m : Message PaymentSuccess)

inductive Out
  | done
  | booking (response : CreateBookingResponse)
  | order (response : CreateOrderResponse)
  deriving DecidableEq

def finish (work : BookingCode Unit) : BookingCode Out := do
  work
  return .done

def body : Call → BookingCode Out
  | .createBooking userId dto => do return .booking (← createBooking userId dto)
  | .markSeatsHeld bookingId lockExpiresAt => finish (markSeatsHeld bookingId lockExpiresAt)
  | .markPaymentPending bookingId paymentOrderId =>
    finish (markPaymentPending bookingId paymentOrderId)
  | .markConfirming bookingId => finish (markConfirming bookingId)
  | .markConfirmed bookingId => finish (markConfirmed bookingId)
  | .markFailed bookingId reason => finish (markFailed bookingId reason)
  | .markExpired bookingId => finish (markExpired bookingId)
  | .cancelBooking bookingId userId => finish (cancelBooking bookingId userId)
  | .createPaymentOrder bookingId userId => do
    return .order (← createPaymentOrder bookingId userId)
  | .confirmPayment bookingId userId => finish (confirmPayment bookingId userId)
  | .seatsHeld m => finish (Kafka.createDlqConsumerHandler consumer handleSeatsHeld m)
  | .seatsHoldFailed m => finish (Kafka.createDlqConsumerHandler consumer handleSeatsHoldFailed m)
  | .seatHoldExpired m => finish (Kafka.createDlqConsumerHandler consumer handleSeatHoldExpired m)
  | .paymentSuccess m => finish (Kafka.createDlqConsumerHandler consumer handlePaymentSuccess m)

@[reducible] def machine : Machine bookingService := ⟨Call, Out, body⟩

/-- What stays the same over a run, and the time it starts. -/
structure Settings where
  now : Nat
  seatHoldTtlMs : Nat
  leases : Redis.Leases
  catalog : Option (Id → List Id → List SeatDetails)

/-- The service with empty tables and an empty Redis. -/
def Settings.pool (s : Settings) : Pool machine :=
  Pool.init Db.empty ⟨s.now, 0, s.seatHoldTtlMs, s.leases, .empty, .empty, s.catalog⟩

end RailwayBooking.BookingService
