import RailwayBooking.Concurrency.Rules
import RailwayBooking.BookingService.Environment

namespace RailwayBooking.BookingService

open Concurrency

abbrev BookingCode (α : Type) := Code bookingService α

def raise {α : Type} (e : Err) : BookingCode α := Program.raise e

section Repositories

variable (h : Option Nat)

def findById (bookingId : Uuid) : BookingCode (Option Booking) :=
  Code.sql (V := bookingService) h (.findById bookingId)

def findIdempotencyKey (idempotencyKey : Id) : BookingCode (Option BookingIdempotencyKey) :=
  Code.sql (V := bookingService) h (.findIdempotencyKey idempotencyKey)

def create (data : Booking) : BookingCode Booking :=
  Code.sql (V := bookingService) h (.create data)

def createSeats (seats : List BookingSeat) : BookingCode Nat :=
  Code.sql (V := bookingService) h (.createSeats seats)

def createPassengers (passengers : List BookingPassenger) : BookingCode Nat :=
  Code.sql (V := bookingService) h (.createPassengers passengers)

def insertOutbox (event : OutboxEvent) : BookingCode Unit :=
  Code.sql (V := bookingService) h (.insertOutbox event)

def createSaga (bookingId : Uuid) (step : SagaStep) (status : SagaStatus) : BookingCode SagaLog :=
  Code.sql (V := bookingService) h (.createSaga bookingId step status)

def createIdempotencyKey (data : BookingIdempotencyKey) : BookingCode BookingIdempotencyKey :=
  Code.sql (V := bookingService) h (.createIdempotencyKey data)

def updateStatus (bookingId : Uuid) (newStatus : BookingStatus) (expectedVersion : Nat) :
    BookingCode Bool :=
  Code.sql (V := bookingService) h (.updateStatus bookingId newStatus expectedVersion)

def update (bookingId : Uuid) (data : BookingUpdate) : BookingCode Booking :=
  Code.sql (V := bookingService) h (.update bookingId data)

def updatePassengers (bookingId : Uuid) (updates : List SeatUpdate) : BookingCode Unit :=
  Program.each updates (fun u => do
    let _ ← Code.sql (V := bookingService) h (.updatePassenger bookingId u)
    pure ())

def updateSaga (bookingId : Uuid) (step : SagaStep) (status : SagaStatus) (error : Option String) :
    BookingCode SagaLog :=
  Code.sql (V := bookingService) h (.updateSaga bookingId step status error)

end Repositories

def randomUUID : BookingCode Uuid := Code.aux (V := bookingService) .randomUUID

def generatePnr : BookingCode Nat := Code.aux (V := bookingService) .generatePnr

section SeatLockService

structure SeatLocksArgs where
  scheduleId : Id
  seatIds : List Id
  lockToken : Uuid
  legIndices : Option (List Nat)

def getLockKeys (scheduleId : Id) (seatIds : List Id) (legIndices : Option (List Nat)) :
    List SeatLockKey :=
  let sortedSeatIds := seatIds.insertionSort (· ≤ ·)
  let legs := legIndices.getD []
  if legs.isEmpty then sortedSeatIds.map (fun id => ⟨scheduleId, id, none⟩)
  else
    let sortedLegIndices := legs.dedup.insertionSort (· ≤ ·)
    sortedSeatIds.flatMap (fun seatId =>
      sortedLegIndices.map (fun legIndex => ⟨scheduleId, seatId, some legIndex⟩))

def SeatLocksArgs.keys (args : SeatLocksArgs) : List SeatLockKey :=
  getLockKeys args.scheduleId args.seatIds args.legIndices

def acquireSeatLocks (args : SeatLocksArgs) (ttlSeconds : Nat) : BookingCode Bool :=
  if args.seatIds.length = 0 then pure true
  else
    (Code.aux (V := bookingService) (.lockSeats args.keys args.lockToken ttlSeconds)).attempt
      (fun _ => pure false)

def releaseSeatLocks (args : SeatLocksArgs) : BookingCode Nat :=
  if args.seatIds.length = 0 then pure 0
  else
    (Code.aux (V := bookingService) (.unlockSeats args.keys args.lockToken)).attempt
      (fun _ => pure 0)

end SeatLockService

section Adapters

def validateBooking (scheduleId fromStationId toStationId : Id) : BookingCode Unit := do
  let status ← (Code.aux (V := bookingService)
      (.validateBooking scheduleId fromStationId toStationId)).attempt
    (fun err => raise (err.mapGrpcClientErrorToApiError
      "Could not validate booking schedule. Please retry shortly."))
  match status with
  | .ok => pure ()
  | .scheduleNotFound =>
    raise (.api 404 .scheduleNotFound "The selected train schedule could not be found.")
  | .scheduleInactive =>
    raise (.api 409 .scheduleInactive
      "The selected train schedule is no longer accepting bookings.")
  | .trainAlreadyDeparted =>
    raise (.api 409 .trainAlreadyDeparted "The train for this schedule has already departed.")
  | .unrecognized =>
    raise (.api 500 .internalError
      "An unexpected error occurred while validating the train schedule.")

/-- The inventory ids of the seats in the order of the request, or `none` when
one is missing. A later entry of the answer replaces an earlier one. -/
def seatInventoryIdsOf (seats : List SeatDetails) (seatIds : List Id) : Option (List Id) :=
  seatIds.mapM (fun id =>
    (seats.reverse.find? (fun s => s.seatId = id)).map SeatDetails.seatInventoryId)

def resolveSeatInventoryIds (scheduleId : Id) (seatIds : List Id) : BookingCode (List Id) :=
  Program.attempt
    (do
      let seats ← Code.aux (V := bookingService) (.getSeatsDetailsBatch scheduleId seatIds)
      if seats.length ≠ seatIds.length then
        raise (.api 404 .notFound "One or more selected seats could not be found or validated.")
      else
        match seatInventoryIdsOf seats seatIds with
        | none => raise (.api 404 .notFound "Seat could not be found or validated.")
        | some ids => pure ids)
    (fun err => raise (err.mapGrpcClientErrorToApiError
      "One of the selected seats could not be found or validated."))

def createOrder (bookingId : Uuid) (userId : Id) (amount : Nat) :
    BookingCode CreateOrderResponse :=
  (Code.aux (V := bookingService) (.createOrder bookingId userId amount)).attempt
    (fun err => raise (err.mapGrpcClientErrorToApiError
      "Failed to create payment order. Please try again shortly."))

end Adapters

/-- A request that `createBookingSchema` accepts. -/
structure CreateBookingDto where
  idempotencyKey : Id
  scheduleId : Id
  fromStationId : Id
  toStationId : Id
  fromSequence : Option Nat
  toSequence : Option Nat
  legIndices : Option (List Nat)
  seatIds : List Id
  passengers : List PassengerDto
  fromSequence_min : ∀ n ∈ fromSequence, 1 ≤ n
  toSequence_min : ∀ n ∈ toSequence, 2 ≤ n
  legIndices_min : ∀ l ∈ legIndices, ∀ n ∈ l, 1 ≤ n
  seatIds_length : 1 ≤ seatIds.length ∧ seatIds.length ≤ 6
  seatIds_nodup : seatIds.Nodup
  passengers_length : passengers.length = seatIds.length
  stations : fromStationId ≠ toStationId

/-- The legs that the request names, or those between its two sequence numbers. -/
def CreateBookingDto.legs (dto : CreateBookingDto) : Option (List Nat) :=
  match dto.legIndices, dto.fromSequence, dto.toSequence with
  | some l, _, _ => some l
  | none, some a, some b => if b > a then some ((List.range (b - a)).map (a + ·)) else none
  | none, _, _ => none

section Create

variable (userId : Id) (dto : CreateBookingDto)

def newBooking (bookingId : Uuid) (pnr : Nat) : Booking where
  id := bookingId
  pnr := pnr
  userId := userId
  scheduleId := dto.scheduleId
  fromStationId := dto.fromStationId
  toStationId := dto.toStationId
  status := .pending
  totalPrice := 0
  paymentOrderId := none
  version := 1
  failureReason := none
  lockExpiresAt := none

def newSeats (bookingId : Uuid) : List BookingSeat :=
  dto.seatIds.map (fun seatId => ⟨bookingId, seatId, none, none, none, none, none⟩)

def newPassengers (bookingId : Uuid) : List BookingPassenger :=
  dto.passengers.map (fun passenger => ⟨bookingId, passenger⟩)

/-- The payload of the status event of a booking that has just become `booking`. -/
def statusChanged (eventId : Uuid) (booking : Booking) (previousStatus : Option BookingStatus) :
    BookingStatusChanged where
  eventId := .random eventId
  bookingId := booking.id
  pnr := booking.pnr
  userId := booking.userId
  previousStatus := previousStatus
  currentStatus := booking.status
  version := booking.version

def holdSeatsPayload (eventId : Uuid) (booking : Booking) (seatInventoryIds : List Id)
    (holdTtlMs : Nat) : HoldSeatsRequested where
  eventId := .random eventId
  bookingId := booking.id
  scheduleId := booking.scheduleId
  userId := booking.userId
  seatInventoryIds := seatInventoryIds
  fromStaionId := dto.fromStationId
  toStationId := dto.toStationId
  fromSequence := dto.fromSequence.getD 0
  toSequence := dto.toSequence.getD 2147483647
  holdTtlMs := holdTtlMs

def createBookingTransaction (bookingId : Uuid) (seatInventoryIds : List Id) (holdTtlMs : Nat) :
    BookingCode CreateBookingResponse :=
  Code.transaction (V := bookingService) .createBooking (fun tx => do
    let existing ← findIdempotencyKey (some tx) dto.idempotencyKey
    match existing with
    | some existing => pure existing.responseBody
    | none => do
      let pnr ← generatePnr
      let booking ← create (some tx) (newBooking userId dto bookingId pnr)
      let _ ← createSeats (some tx) (newSeats dto booking.id)
      let _ ← createPassengers (some tx) (newPassengers dto booking.id)
      let eventId ← randomUUID
      insertOutbox (some tx) (.bookingStatusChanged (statusChanged eventId booking none))
      let _ ← createSaga (some tx) booking.id .holdSeats .pending
      let _ ← createSaga (some tx) booking.id .createPayment .pending
      let _ ← createSaga (some tx) booking.id .confirmSeats .pending
      let holdEventId ← randomUUID
      insertOutbox (some tx) (.holdSeatsRequested
        (holdSeatsPayload dto holdEventId booking seatInventoryIds holdTtlMs))
      let responseBody : CreateBookingResponse := ⟨booking.id, booking.pnr, booking.status⟩
      let _ ← createIdempotencyKey (some tx) ⟨dto.idempotencyKey, booking.id, responseBody⟩
      pure responseBody)

def createBooking : BookingCode CreateBookingResponse := do
  let existingCheck ← findIdempotencyKey none dto.idempotencyKey
  match existingCheck with
  | some existing => pure existing.responseBody
  | none => do
    validateBooking dto.scheduleId dto.fromStationId dto.toStationId
    let seatInventoryIds ← resolveSeatInventoryIds dto.scheduleId dto.seatIds
    let bookingId ← randomUUID
    let holdTtlMs ← Code.aux (V := bookingService) .seatHoldTtlMs
    let locks : SeatLocksArgs := ⟨dto.scheduleId, dto.seatIds, bookingId, dto.legs⟩
    let locksAcquired ← acquireSeatLocks locks ((holdTtlMs + 999) / 1000)
    if !locksAcquired then
      raise (.api 409 .seatHoldFailed (some
        ("One or more selected seats are currently locked by another user. " ++
          "Please select different seats.")))
    else
      Program.attempt (createBookingTransaction userId dto bookingId seatInventoryIds holdTtlMs)
        (fun err => do
          let _ ← releaseSeatLocks locks
          raise err)

end Create

section Transition

structure TransitionArgs where
  bookingId : Uuid
  target : BookingStatus
  allowedFrom : Option BookingStatus
  fromStates : Option (List BookingStatus)
  updates : Option BookingUpdate

def TransitionArgs.permittedStates (args : TransitionArgs) : List BookingStatus :=
  args.fromStates.getD (args.allowedFrom.elim [] (fun s => [s]))

def TransitionArgs.permits (args : TransitionArgs) (s : BookingStatus) : Bool :=
  !(args.permittedStates.length > 0 && !args.permittedStates.contains s)

def applyUpdates (tx : Nat) (args : TransitionArgs) : BookingCode Unit :=
  match args.updates with
  | none => pure ()
  | some updates => do
    let _ ← update (some tx) args.bookingId updates
    pure ()

def transition (args : TransitionArgs) : BookingCode Unit :=
  Code.transaction (V := bookingService) .transition (fun tx => do
    let found ← findById (some tx) args.bookingId
    match found with
    | none => raise (.api 404 .bookingNotFound none)
    | some booking =>
      if !args.permits booking.status then
        raise (.api 409 .bookingInvalidTransition (some ("Booking " ++ args.bookingId.text ++
          " cannot transition from " ++ booking.status.name ++ " to " ++ args.target.name ++ ".")))
      else do
        let newVersion := booking.version + 1
        applyUpdates tx args
        let updated ← updateStatus (some tx) args.bookingId args.target newVersion
        if !updated then
          raise (.api 409 .bookingInvalidTransition (some ("Booking " ++ args.bookingId.text ++
            " status CAS failed — version " ++ toString booking.version ++ " was stale.")))
        else do
          let eventId ← randomUUID
          insertOutbox (some tx) (.bookingStatusChanged (statusChanged eventId
            { booking with status := args.target, version := newVersion } (some booking.status))))

def markSeatsHeldArgs (bookingId : Uuid) (lockExpiresAt : Nat) : TransitionArgs :=
  { bookingId := bookingId, allowedFrom := some .pending, target := .seatsHeld, fromStates := none,
    updates := some { BookingUpdate.nothing with lockExpiresAt := some lockExpiresAt } }

def markSeatsHeld (bookingId : Uuid) (lockExpiresAt : Nat) : BookingCode Unit :=
  transition (markSeatsHeldArgs bookingId lockExpiresAt)

def markPaymentPendingArgs (bookingId : Uuid) (paymentOrderId : PaymentOrderId) : TransitionArgs :=
  { bookingId := bookingId, allowedFrom := some .seatsHeld, target := .paymentPending,
    fromStates := none,
    updates := some { BookingUpdate.nothing with paymentOrderId := some paymentOrderId } }

def markPaymentPending (bookingId : Uuid) (paymentOrderId : PaymentOrderId) : BookingCode Unit :=
  transition (markPaymentPendingArgs bookingId paymentOrderId)

def markConfirmingArgs (bookingId : Uuid) : TransitionArgs :=
  { bookingId := bookingId, allowedFrom := some .paymentPending, target := .confirming,
    fromStates := none, updates := none }

def markConfirming (bookingId : Uuid) : BookingCode Unit := transition (markConfirmingArgs bookingId)

def markConfirmedArgs (bookingId : Uuid) : TransitionArgs :=
  { bookingId := bookingId, allowedFrom := some .confirming, target := .confirmed,
    fromStates := none, updates := none }

def markConfirmed (bookingId : Uuid) : BookingCode Unit := transition (markConfirmedArgs bookingId)

def markFailedArgs (bookingId : Uuid) (reason : String) : TransitionArgs :=
  { bookingId := bookingId, target := .failed, allowedFrom := none, fromStates := none,
    updates := some { BookingUpdate.nothing with failureReason := some reason } }

def markFailed (bookingId : Uuid) (reason : String) : BookingCode Unit :=
  transition (markFailedArgs bookingId reason)

def markExpiredArgs (bookingId : Uuid) : TransitionArgs :=
  { bookingId := bookingId, target := .expired, allowedFrom := none, fromStates := none,
    updates := none }

def markExpired (bookingId : Uuid) : BookingCode Unit := transition (markExpiredArgs bookingId)

def markCancellingArgs (bookingId : Uuid) : TransitionArgs :=
  { bookingId := bookingId, target := .cancelling, allowedFrom := none,
    fromStates := some [.confirmed, .seatsHeld], updates := none }

def markCancelledArgs (bookingId : Uuid) : TransitionArgs :=
  { bookingId := bookingId, allowedFrom := some .cancelling, target := .cancelled,
    fromStates := none, updates := none }

def findOwned (bookingId : Uuid) (userId : Id) (missing foreign : Option String) :
    BookingCode Booking := do
  let found ← findById none bookingId
  match found with
  | none => raise (.api 404 .bookingNotFound missing)
  | some booking =>
    if booking.userId ≠ userId then raise (.api 403 .bookingForbidden foreign) else pure booking

def cancelBooking (bookingId : Uuid) (userId : Id) : BookingCode Unit := do
  let _ ← findOwned bookingId userId
    (some ("Booking not found for bookingId=" ++ bookingId.text ++ "."))
    (some ("Booking " ++ bookingId.text ++ " does not belong to this user."))
  transition (markCancellingArgs bookingId)
  transition (markCancelledArgs bookingId)

/-- A saga log update whose failure is ignored. -/
def updateSagaQuietly (bookingId : Uuid) (step : SagaStep) (status : SagaStatus)
    (error : Option String) : BookingCode Unit :=
  Program.attempt
    (do
      let _ ← updateSaga none bookingId step status error
      pure ())
    (fun _ => pure ())

def createPaymentOrder (bookingId : Uuid) (userId : Id) : BookingCode CreateOrderResponse := do
  let booking ← findOwned bookingId userId none none
  let paymentOrder ← Program.attempt
    (createOrder booking.id booking.userId (minorUnits booking.totalPrice))
    (fun err => do
      updateSagaQuietly bookingId .createPayment .failed (some err.message)
      raise (.api 503 .internalError
        "Payment service is currently unavailable. Please try again."))
  updateSagaQuietly bookingId .createPayment .completed none
  if booking.status = .seatsHeld then do
    markPaymentPending bookingId (.issued paymentOrder.paymentOrderId)
    pure paymentOrder
  else pure paymentOrder

/-- The first step of `confirmPayment`. -/
def payHeld (booking : Booking) (bookingId : Uuid) : BookingCode Unit :=
  if booking.status = .seatsHeld then do
    let uuid ← randomUUID
    markPaymentPending bookingId (.pay uuid)
  else pure ()

def confirmPayment (bookingId : Uuid) (userId : Id) : BookingCode Unit := do
  let booking ← findOwned bookingId userId none none
  payHeld booking bookingId
  markConfirming bookingId
  markConfirmed bookingId
  let _ ← updateSaga none bookingId .confirmSeats .completed none
  pure ()

end Transition

end RailwayBooking.BookingService
