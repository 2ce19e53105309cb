import Mathlib.Data.List.Sort
import RailwayBooking.Kafka.DlqWrapper
import RailwayBooking.InventoryService.Environment
import RailwayBooking.Money

namespace RailwayBooking.InventoryService

open Concurrency Numeric

abbrev InventoryCode (α : Type) := Code inventoryService α

def raise {α : Type} (e : Err) : InventoryCode α := Program.raise e

section Repositories

variable (h : Option Nat)

def existsKey (eventKey : EventKey) : InventoryCode Bool :=
  Code.sql (V := inventoryService) h (.existsKey eventKey)

def findByScheduleId (scheduleId : Id) : InventoryCode (Option ScheduleInventoryStatus) :=
  Code.sql (V := inventoryService) h (.findByScheduleId scheduleId)

def findByScheduleAndSequence (scheduleId : Id) (sequenceNumber : Nat) :
    InventoryCode (Option RouteStop) :=
  Code.sql (V := inventoryService) h (.findByScheduleAndSequence scheduleId sequenceNumber)

def findByScheduleAndStation (scheduleId stationId : Id) : InventoryCode (Option RouteStop) :=
  Code.sql (V := inventoryService) h (.findByScheduleAndStation scheduleId stationId)

def findManyByIds (scheduleId : Id) (ids : List Id) : InventoryCode (List SeatInventory) :=
  Code.sql (V := inventoryService) h (.findManyByIds scheduleId ids)

def lockSeats (ids : List Id) : InventoryCode Unit :=
  if ids.length = 0 then pure () else Code.sql (V := inventoryService) h (.lockSeats ids)

def findOverlap (scheduleId : Id) (seatInventoryIds : List Id) (fromSequence toSequence : Nat) :
    InventoryCode Bool :=
  Code.sql (V := inventoryService) h
    (.hasOverlappingAllocation scheduleId seatInventoryIds fromSequence toSequence)

def createMany (data : List SeatAllocation) : InventoryCode Unit :=
  Code.sql (V := inventoryService) h (.createMany data)

def findByBookingId (bookingId : Uuid) : InventoryCode (List SeatAllocation) :=
  Code.sql (V := inventoryService) h (.findByBookingId bookingId)

def createHistoryMany (data : List SeatAllocationHistory) : InventoryCode Unit :=
  Code.sql (V := inventoryService) h (.createHistoryMany data)

def createKey (eventKey : EventKey) : InventoryCode Unit :=
  Code.sql (V := inventoryService) h (.createKey eventKey)

def updateManyStatusByBooking (bookingId : Uuid) (status : AllocationStatus) : InventoryCode Nat :=
  Code.sql (V := inventoryService) h (.updateManyStatusByBooking bookingId status)

def updateManyStatusByBookingAndStatuses (bookingId : Uuid) (status : AllocationStatus)
    (statuses : List AllocationStatus) : InventoryCode Nat :=
  Code.sql (V := inventoryService) h
    (.updateManyStatusByBookingAndStatuses bookingId status statuses)

def insertOutbox (event : OutboxEvent) : InventoryCode Unit :=
  Code.sql (V := inventoryService) h (.insertOutbox event)

end Repositories

section SeatLockService

def SegmentLockKey.before (a b : SegmentLockKey) : Bool :=
  if a.seatInventoryId ≠ b.seatInventoryId then a.seatInventoryId < b.seatInventoryId
  else if a.fromSequence ≠ b.fromSequence then a.fromSequence < b.fromSequence
  else a.toSequence ≤ b.toSequence

def getLockKeys (segments : List SegmentLockKey) : List SegmentLockKey :=
  segments.insertionSort (fun a b => a.before b)

def acquireSeatLocks (segments : List SegmentLockKey) (lockToken : Uuid) (ttlSeconds : Nat) :
    InventoryCode Bool :=
  if segments.length = 0 then pure true
  else
    (Code.aux (V := inventoryService)
      (.lockSeats (getLockKeys segments) lockToken ttlSeconds)).attempt (fun _ => pure false)

def releaseSeatLocks (segments : List SegmentLockKey) (lockToken : Uuid) : InventoryCode Nat :=
  if segments.length = 0 then pure 0
  else
    (Code.aux (V := inventoryService)
      (.unlockSeats (getLockKeys segments) lockToken)).attempt (fun _ => pure 0)

end SeatLockService

inductive HoldSeatsOutcome
  | held (payload : SeatsHeld)
  | failed (payload : SeatsHoldFailed)
  | duplicate
  deriving DecidableEq

section HoldSeats

variable (event : HoldSeatsRequested)

def failPayload (reason : SeatHoldFailureReason) (message : String) : SeatsHoldFailed where
  eventId := .failed event.eventId reason
  bookingId := event.bookingId
  reason := reason
  message := message
  failedSeatInventoryIds := event.seatInventoryIds

/-- The failure reply has a transaction of its own; the idempotency key is not part
of it. -/
def fail (reason : SeatHoldFailureReason) (message : String) : InventoryCode HoldSeatsOutcome := do
  Code.transaction (V := inventoryService) .fail (fun tx =>
    insertOutbox (some tx) (.seatsHoldFailed (failPayload event reason message)))
  pure (.failed (failPayload event reason message))

/-- The stops of a segment and the distance between them. -/
structure Segment where
  fromStop : RouteStop
  toStop : RouteStop
  distance : Nat
  deriving DecidableEq

def maxPostgresInt : Nat := 2147483647

def findBySequence (sequenceNumber : Nat) : InventoryCode (Option RouteStop) :=
  if sequenceNumber > 0 ∧ sequenceNumber ≤ maxPostgresInt then
    findByScheduleAndSequence none event.scheduleId sequenceNumber
  else pure none

def orByStation (stop : Option RouteStop) (stationId : Id) : InventoryCode (Option RouteStop) :=
  match stop with
  | some stop => pure (some stop)
  | none => findByScheduleAndStation none event.scheduleId stationId

def segmentOf (fromStop toStop : Option RouteStop) : Option Segment :=
  match fromStop, toStop with
  | some fromStop, some toStop =>
    if fromStop.sequenceNumber ≥ toStop.sequenceNumber then none
    else some ⟨fromStop, toStop, toStop.distanceFromStart - fromStop.distanceFromStart⟩
  | _, _ => none

def resolveSegmentStops : InventoryCode (Option Segment) := do
  let fromStop ← findBySequence event event.fromSequence
  let toStop ← findBySequence event event.toSequence
  let fromStop ← orByStation event fromStop event.fromStaionId
  let toStop ← orByStation event toStop event.toStationId
  pure (segmentOf fromStop toStop)

/-- `Number(pricePerKm)` of a decimal with four places. -/
def pricePerKmNumber (pricePerKm : Nat) : ℚ := binary64 (pricePerKm / 10000)

def priceOf (distance : Nat) (seat : SeatInventory) : Nat :=
  let pricePerKm := pricePerKmNumber seat.pricePerKm
  if distance > 0 then toFixed2 (binary64 (distance * pricePerKm)) else toFixed2 pricePerKm

/-- The seats in the order of the request; `fetchSeatMap` has found each of them. -/
def seatsInOrder (seats : List SeatInventory) : List SeatInventory :=
  event.seatInventoryIds.filterMap (fun id => seats.find? (fun s => s.id = id))

def allocationRow (segment : Segment) (holdExpiresAt : Nat) (seat : SeatInventory) :
    SeatAllocation where
  scheduleId := event.scheduleId
  seatInventoryId := seat.id
  bookingId := event.bookingId
  fromStationId := segment.fromStop.stationId
  toStationId := segment.toStop.stationId
  fromSequence := segment.fromStop.sequenceNumber
  toSequence := segment.toStop.sequenceNumber
  status := .held
  holdExpiresAt := holdExpiresAt
  price := priceOf segment.distance seat

def allocationEntry (segment : Segment) (seat : SeatInventory) : SeatAllocationEntry where
  seatId := seat.seatId
  seatInventoryId := seat.id
  coachNumber := seat.coachNumber
  seatNumber := seat.seatNumber
  seatType := seat.seatType
  price := priceOf segment.distance seat

def allocationRows (segment : Segment) (holdExpiresAt : Nat) (seats : List SeatInventory) :
    List SeatAllocation :=
  (seatsInOrder event seats).map (allocationRow event segment holdExpiresAt)

def heldPayload (segment : Segment) (holdExpiresAt : Nat) (seats : List SeatInventory) :
    SeatsHeld where
  eventId := .held event.eventId
  bookingId := event.bookingId
  allocations := (seatsInOrder event seats).map (allocationEntry segment)
  holdExpiresAt := holdExpiresAt

def historyRow (newStatus : AllocationStatus) (reason : String) (a : SeatAllocation) :
    SeatAllocationHistory :=
  ⟨a.id, a.status, newStatus, reason⟩

/-- The creation rows name `HELD` twice, whatever the status of the allocation is. -/
def holdHistoryRow (a : SeatAllocation) : SeatAllocationHistory :=
  ⟨a.id, .held, .held, "Seat hold requested"⟩

def sortedSeatInventoryIds : List Id := event.seatInventoryIds.insertionSort (· ≤ ·)

def holdTransaction (segment : Segment) (holdExpiresAt : Nat) (seats : List SeatInventory) :
    InventoryCode Unit :=
  Code.transaction (V := inventoryService) .hold (fun tx => do
    let processed ← existsKey (some tx) (.hold event.eventId)
    if processed then pure ()
    else do
      lockSeats (some tx) (sortedSeatInventoryIds event)
      let hasOverlap ← findOverlap (some tx) event.scheduleId (sortedSeatInventoryIds event)
        segment.fromStop.sequenceNumber segment.toStop.sequenceNumber
      if hasOverlap then raise (.error "SEGMENT_CONFLICT")
      else do
        createMany (some tx) (allocationRows event segment holdExpiresAt seats)
        let createdAllocations ← findByBookingId (some tx) event.bookingId
        createHistoryMany (some tx) (createdAllocations.map holdHistoryRow)
        createKey (some tx) (.hold event.eventId)
        insertOutbox (some tx) (.seatsHeld (heldPayload event segment holdExpiresAt seats)))

def commitHoldTransaction (segment : Segment) (seats : List SeatInventory) :
    InventoryCode HoldSeatsOutcome := do
  let now ← Code.aux (V := inventoryService) .now
  let holdExpiresAt := now + event.holdTtlMs
  Program.attempt
    (do
      holdTransaction event segment holdExpiresAt seats
      pure (.held (heldPayload event segment holdExpiresAt seats)))
    (fun err =>
      if err.message = "SEGMENT_CONFLICT" then
        fail event .segmentConflict
          "One or more requested seat segments overlap with an active booking."
      else fail event .internalError "Failed to persist seat allocations.")

def lockSegments (segment : Segment) : List SegmentLockKey :=
  event.seatInventoryIds.map (fun id =>
    ⟨event.scheduleId, id, segment.fromStop.sequenceNumber, segment.toStop.sequenceNumber⟩)

def holdLocked (segment : Segment) : InventoryCode HoldSeatsOutcome := do
  let seats ← findManyByIds none event.scheduleId event.seatInventoryIds
  if seats.length ≠ event.seatInventoryIds.length then
    fail event .seatNotFound
      ("Seat inventory rows missing for scheduleId=" ++ toString event.scheduleId ++ ".")
  else commitHoldTransaction event segment seats

/-- `finally` of a block with a value. -/
def finallyRelease (segment : Segment) (work : InventoryCode HoldSeatsOutcome) :
    InventoryCode HoldSeatsOutcome :=
  work.ensure (do
    let _ ← releaseSeatLocks (lockSegments event segment) event.bookingId
    pure ())

def holdSegment (segment : Segment) : InventoryCode HoldSeatsOutcome := do
  let locksAcquired ← acquireSeatLocks (lockSegments event segment) event.bookingId 30
  if !locksAcquired then
    fail event .seatAlreadyHeld "One or more requested seats are already held."
  else finallyRelease event segment (holdLocked event segment)

def holdSeats : InventoryCode HoldSeatsOutcome := do
  let processed ← existsKey none (.hold event.eventId)
  if processed then pure .duplicate
  else do
    let status ← findByScheduleId none event.scheduleId
    if status ≠ some .active then
      fail event .scheduleNotFound "Schedule not found or not active."
    else do
      let segment ← resolveSegmentStops event
      match segment with
      | none =>
        fail event .segmentConflict
          ("Could not resolve valid segment for scheduleId=" ++ toString event.scheduleId ++
            " fromSequence=" ++ toString event.fromSequence ++ " toSequence=" ++
            toString event.toSequence ++ ".")
      | some segment => holdSegment event segment

end HoldSeats

section Lifecycle

/-- `ConfirmSeatsArgs` and `CancelSeatsArgs`; the optional fields are not read. -/
structure SeatLifecycleEventArgs where
  eventId : EventId
  bookingId : Uuid
  deriving DecidableEq

variable (event : SeatLifecycleEventArgs)

def confirmTransaction : InventoryCode Unit :=
  Code.transaction (V := inventoryService) .confirm (fun tx => do
    let processed ← existsKey (some tx) (.confirm event.eventId)
    if processed then pure ()
    else do
      let allocations ← findByBookingId (some tx) event.bookingId
      let heldAllocations := allocations.filter (fun a => a.status = .held)
      if heldAllocations.length = 0 then createKey (some tx) (.confirm event.eventId)
      else do
        let _ ← updateManyStatusByBooking (some tx) event.bookingId .confirmed
        createHistoryMany (some tx)
          (heldAllocations.map (historyRow .confirmed "Booking payment confirmed"))
        createKey (some tx) (.confirm event.eventId))

def confirmSeats : InventoryCode Unit := do
  let processed ← existsKey none (.confirm event.eventId)
  if processed then pure () else confirmTransaction event

def cancelTransaction : InventoryCode Unit :=
  Code.transaction (V := inventoryService) .cancel (fun tx => do
    let processed ← existsKey (some tx) (.cancel event.eventId)
    if processed then pure ()
    else do
      let allocations ← findByBookingId (some tx) event.bookingId
      let activeAllocations := allocations.filter (fun a => a.status.active)
      if activeAllocations.length = 0 then createKey (some tx) (.cancel event.eventId)
      else do
        let _ ← updateManyStatusByBookingAndStatuses (some tx) event.bookingId .cancelled
          [.held, .confirmed]
        createHistoryMany (some tx)
          (activeAllocations.map (historyRow .cancelled "Booking cancelled / payment failed"))
        createKey (some tx) (.cancel event.eventId))

def cancelSeats : InventoryCode Unit := do
  let processed ← existsKey none (.cancel event.eventId)
  if processed then pure () else cancelTransaction event

end Lifecycle

def consumer : Kafka.Consumer inventoryService where
  isNonRetryable := Err.isNonRetryable
  parseError := .validation "Message does not match its schema."
  heartbeat := Code.aux (V := inventoryService) .heartbeat
  sendToDlq := Code.aux (V := inventoryService) .sendToDlq

/-- The processor of `BookingStatusChanged` events. -/
def handleBookingStatusChanged (event : BookingStatusChanged) : InventoryCode Unit :=
  if event.currentStatus = .confirmed then confirmSeats ⟨event.eventId, event.bookingId⟩
  else if event.currentStatus = .cancelled ∨ event.currentStatus = .failed ∨
      event.currentStatus = .expired then cancelSeats ⟨event.eventId, event.bookingId⟩
  else pure ()

def handleHoldSeatsRequested (event : HoldSeatsRequested) : InventoryCode Unit := do
  let _ ← holdSeats event
  pure ()

/-- What runs in inventory-service: the operations on allocations themselves, and
deliveries of Kafka messages to their consumers. -/
inductive Call
  | holdSeats (event : HoldSeatsRequested)
  | confirmSeats (event : SeatLifecycleEventArgs)
  | cancelSeats (event : SeatLifecycleEventArgs)
  | holdSeatsRequested (m : Message HoldSeatsRequested)
  | bookingStatusChanged (m : Message BookingStatusChanged)

inductive Out
  | done
  | outcome (outcome : HoldSeatsOutcome)
  deriving DecidableEq

def finish (work : InventoryCode Unit) : InventoryCode Out := do
  work
  return .done

def body : Call → InventoryCode Out
  | .holdSeats event => do return .outcome (← holdSeats event)
  | .confirmSeats event => finish (confirmSeats event)
  | .cancelSeats event => finish (cancelSeats event)
  | .holdSeatsRequested m =>
    finish (Kafka.createDlqConsumerHandler consumer handleHoldSeatsRequested m)
  | .bookingStatusChanged m =>
    finish (Kafka.createDlqConsumerHandler consumer handleBookingStatusChanged m)

@[reducible] def machine : Machine inventoryService := ⟨Call, Out, body⟩

/-- The service with a projection and no allocation yet. -/
def start (P : Projection) (now : Nat) : Pool machine := Pool.init P.db ⟨now, .empty⟩

end RailwayBooking.InventoryService
