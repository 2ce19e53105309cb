import RailwayBooking.Money
import RailwayBooking.BookingService.Schema

namespace RailwayBooking.BookingService

inductive ErrorCode
  | scheduleNotFound
  | scheduleInactive
  | trainAlreadyDeparted
  | bookingNotFound
  | bookingForbidden
  | bookingInvalidTransition
  | seatHoldFailed
  | notFound
  | internalError
  deriving DecidableEq, Repr

/-- `ApiError`, a plain `Error`, a validation error of a message, an error that a
gRPC server answered, a Prisma error of a violated constraint, a missing record or
a value that its column does not hold, or a broken connection. -/
inductive Err
  | api (statusCode : Nat) (code : ErrorCode) (message : Option String)
  | error (message : String)
  | validation (message : String)
  | grpc (httpStatus : Nat)
  | uniqueViolation
  | recordNotFound
  | valueOutOfRange
  | fault
  deriving DecidableEq

namespace Err

/-- `err.message`. -/
def message : Err → String
  | .api _ _ (some m) | .error m | .validation m => m
  | .api _ _ none => "Booking request failed."
  | .grpc _ => "Upstream gRPC call failed."
  | .uniqueViolation => "Unique constraint failed."
  | .recordNotFound => "Record to update not found."
  | .valueOutOfRange => "Value out of range for the column."
  | .fault => "Connection failed."

/-- `isNonRetryableError`, without a custom classifier. -/
def isNonRetryable : Err → Bool
  | .validation _ => true
  | _ => false

/-- `mapGrpcClientErrorToApiError`; a broken connection is `UNAVAILABLE`. -/
def mapGrpcClientErrorToApiError (defaultMessage : String) : Err → Err
  | .api c k m => .api c k m
  | .grpc httpStatus => .api httpStatus .internalError (some defaultMessage)
  | .fault => .api 503 .internalError (some defaultMessage)
  | e => .api 500 .internalError (some e.message)

end Err

/-- The statements that the repositories issue. -/
inductive Sql
  | findById (bookingId : Uuid)
  | findIdempotencyKey (idempotencyKey : Id)
  | create (data : Booking)
  | createSeats (seats : List BookingSeat)
  | createPassengers (passengers : List BookingPassenger)
  | insertOutbox (event : OutboxEvent)
  | createSaga (bookingId : Uuid) (step : SagaStep) (status : SagaStatus)
  | createIdempotencyKey (data : BookingIdempotencyKey)
  | updateStatus (bookingId : Uuid) (newStatus : BookingStatus) (expectedVersion : Nat)
  | update (bookingId : Uuid) (data : BookingUpdate)
  | updatePassenger (bookingId : Uuid) (u : SeatUpdate)
  | updateSaga (bookingId : Uuid) (step : SagaStep) (status : SagaStatus) (error : Option String)
  deriving DecidableEq

@[reducible] def Rows : Sql → Type
  | .findById _ => Option Booking
  | .findIdempotencyKey _ => Option BookingIdempotencyKey
  | .create _ => Booking
  | .createSeats _ => Nat
  | .createPassengers _ => Nat
  | .insertOutbox _ => Unit
  | .createSaga _ _ _ => SagaLog
  | .createIdempotencyKey _ => BookingIdempotencyKey
  | .updateStatus _ _ _ => Bool
  | .update _ _ => Booking
  | .updatePassenger _ _ => Nat
  | .updateSaga _ _ _ _ => SagaLog

/-- What a statement changes: a row put in place of the one with its key, rows
added, or the matching seats rewritten. -/
inductive Write
  | booking (row : Booking)
  | seats (rows : List BookingSeat)
  | enrich (bookingId : Uuid) (u : SeatUpdate)
  | passengers (rows : List BookingPassenger)
  | outbox (event : OutboxEvent)
  | saga (bookingId : Uuid) (step : SagaStep) (row : SagaLog)
  | idempotencyKey (row : BookingIdempotencyKey)
  deriving DecidableEq

inductive Key
  | booking (id : Uuid)
  | pnr (pnr : Nat)
  | seat (bookingId : Uuid) (seatId : Id)
  | saga (bookingId : Uuid) (step : SagaStep)
  | idempotencyKey (idempotencyKey : Id)
  deriving DecidableEq

def Write.keys : Write → List Key
  | .booking row => [.booking row.id, .pnr row.pnr]
  | .enrich bookingId u => [.seat bookingId u.seatId]
  | .saga bookingId step _ => [.saga bookingId step]
  | .idempotencyKey row => [.idempotencyKey row.idempotencyKey]
  | .seats _ | .passengers _ | .outbox _ => []

def Write.apply : Write → Db → Db
  | .booking row, d =>
      { d with
        bookings := Function.update d.bookings row.id (some row)
        pnrs := Function.update d.pnrs row.pnr (some row.id) }
  | .seats rows, d => { d with seats := d.seats ++ rows }
  | .enrich bookingId u, d =>
      { d with
        seats := d.seats.map (fun s =>
          if s.bookingId = bookingId ∧ s.seatId = u.seatId then u.enrich s else s) }
  | .passengers rows, d => { d with passengers := d.passengers ++ rows }
  | .outbox event, d => { d with outbox := d.outbox ++ [event] }
  | .saga bookingId step row, d =>
      { d with
        sagaLogs := Function.update d.sagaLogs bookingId
          (Function.update (d.sagaLogs bookingId) step (some row)) }
  | .idempotencyKey row, d =>
      { d with idempotencyKeys := Function.update d.idempotencyKeys row.idempotencyKey (some row) }

/-- Each statement against one snapshot: its answer, its writes, and no locks
besides those of the rows it writes. -/
def run : (q : Sql) → Db → Except Err (Rows q × List Write × List Key)
  | .findById bookingId, d => .ok (d.bookings bookingId, [], [])
  | .findIdempotencyKey idempotencyKey, d => .ok (d.idempotencyKeys idempotencyKey, [], [])
  | .create data, d =>
      if (d.bookings data.id).isSome ∨ (d.pnrs data.pnr).isSome then .error .uniqueViolation
      else .ok (data, [.booking data], [])
  | .createSeats seats, _ => .ok (seats.length, [.seats seats], [])
  | .createPassengers passengers, _ => .ok (passengers.length, [.passengers passengers], [])
  | .insertOutbox event, _ => .ok ((), [.outbox event], [])
  | .createSaga bookingId step status, d =>
      if (d.sagaLogs bookingId step).isSome then .error .uniqueViolation
      else .ok (⟨status, none⟩, [.saga bookingId step ⟨status, none⟩], [])
  | .createIdempotencyKey data, d =>
      if (d.idempotencyKeys data.idempotencyKey).isSome then .error .uniqueViolation
      else .ok (data, [.idempotencyKey data], [])
  | .updateStatus bookingId newStatus expectedVersion, d =>
      match d.bookings bookingId with
      | none => .ok (false, [], [])
      | some row =>
        if row.version < expectedVersion then
          .ok (true, [.booking { row with status := newStatus, version := expectedVersion }], [])
        else .ok (false, [], [])
  | .update bookingId data, d =>
      match d.bookings bookingId with
      | none => .error .recordNotFound
      | some row =>
        if data.totalPrice.any (fun n => decimalLimit ≤ n) then .error .valueOutOfRange
        else .ok (data.apply row, [.booking (data.apply row)], [])
  | .updatePassenger bookingId u, d =>
      .ok ((d.seats.filter (fun s => s.bookingId = bookingId ∧ s.seatId = u.seatId)).length,
        [.enrich bookingId u], [])
  | .updateSaga bookingId step status error, d =>
      match d.sagaLogs bookingId step with
      | none => .error .recordNotFound
      | some _ => .ok (⟨status, error⟩, [.saga bookingId step ⟨status, error⟩], [])

end RailwayBooking.BookingService
