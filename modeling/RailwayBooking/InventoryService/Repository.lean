import RailwayBooking.InventoryService.Schema

namespace RailwayBooking.InventoryService

/-- A plain `Error`, a validation error of a message, a Prisma error of a violated
constraint, or a broken connection. -/
inductive Err
  | error (message : String)
  | validation (message : String)
  | uniqueViolation
  | checkViolation
  | fault
  deriving DecidableEq

namespace Err

/-- `err.message`. -/
def message : Err → String
  | .error m | .validation m => m
  | .uniqueViolation => "Unique constraint failed."
  | .checkViolation => "Check constraint failed."
  | .fault => "Connection failed."

/-- `isNonRetryableError`, without a custom classifier. -/
def isNonRetryable : Err → Bool
  | .validation _ => true
  | _ => false

end Err

/-- The statements that the repositories issue. -/
inductive Sql
  | existsKey (eventKey : EventKey)
  | findByScheduleId (scheduleId : Id)
  | findByScheduleAndSequence (scheduleId : Id) (sequenceNumber : Nat)
  | findByScheduleAndStation (scheduleId : Id) (stationId : Id)
  | findManyByIds (scheduleId : Id) (ids : List Id)
  | lockSeats (ids : List Id)
  | hasOverlappingAllocation (scheduleId : Id) (seatInventoryIds : List Id)
      (fromSequence toSequence : Nat)
  | createMany (data : List SeatAllocation)
  | findByBookingId (bookingId : Uuid)
  | createHistoryMany (data : List SeatAllocationHistory)
  | createKey (eventKey : EventKey)
  | updateManyStatusByBooking (bookingId : Uuid) (status : AllocationStatus)
  | updateManyStatusByBookingAndStatuses (bookingId : Uuid) (status : AllocationStatus)
      (statuses : List AllocationStatus)
  | insertOutbox (event : OutboxEvent)
  deriving DecidableEq

@[reducible] def Rows : Sql → Type
  | .existsKey _ => Bool
  | .findByScheduleId _ => Option ScheduleInventoryStatus
  | .findByScheduleAndSequence _ _ => Option RouteStop
  | .findByScheduleAndStation _ _ => Option RouteStop
  | .findManyByIds _ _ => List SeatInventory
  | .lockSeats _ => Unit
  | .hasOverlappingAllocation _ _ _ _ => Bool
  | .createMany _ => Unit
  | .findByBookingId _ => List SeatAllocation
  | .createHistoryMany _ => Unit
  | .createKey _ => Unit
  | .updateManyStatusByBooking _ _ => Nat
  | .updateManyStatusByBookingAndStatuses _ _ _ => Nat
  | .insertOutbox _ => Unit

/-- What a statement changes: rows added, or the status of one allocation set. -/
inductive Write
  | allocations (rows : List SeatAllocation)
  | status (id : AllocationId) (status : AllocationStatus)
  | history (rows : List SeatAllocationHistory)
  | idempotency (eventKey : EventKey)
  | outbox (event : OutboxEvent)
  deriving DecidableEq

inductive Key
  | seat (seatInventoryId : Id)
  | allocation (id : AllocationId)
  | idempotency (eventKey : EventKey)
  deriving DecidableEq

def Write.keys : Write → List Key
  | .allocations rows => rows.map (fun a => .allocation a.id)
  | .status id _ => [.allocation id]
  | .idempotency eventKey => [.idempotency eventKey]
  | .history _ | .outbox _ => []

def SeatAllocation.setStatus (id : AllocationId) (status : AllocationStatus) (a : SeatAllocation) :
    SeatAllocation :=
  if a.id = id then { a with status := status } else a

def Write.apply : Write → Db → Db
  | .allocations rows, d => { d with allocations := d.allocations ++ rows }
  | .status id newStatus, d =>
      { d with allocations := d.allocations.map (SeatAllocation.setStatus id newStatus) }
  | .history rows, d => { d with history := d.history ++ rows }
  | .idempotency eventKey, d => { d with idempotency := d.idempotency ++ [eventKey] }
  | .outbox event, d => { d with outbox := d.outbox ++ [event] }

/-- `allocation.fromSequence < toSequence` and `allocation.toSequence > fromSequence`. -/
def SeatAllocation.overlaps (a : SeatAllocation) (fromSequence toSequence : Nat) : Bool :=
  a.fromSequence < toSequence && a.toSequence > fromSequence

def hasOverlappingAllocation (d : Db) (scheduleId : Id) (seatInventoryIds : List Id)
    (fromSequence toSequence : Nat) : Bool :=
  d.allocations.any (fun a => a.scheduleId = scheduleId &&
    seatInventoryIds.contains a.seatInventoryId && a.overlaps fromSequence toSequence &&
    a.status.active)

def allocationsIn (d : Db) (bookingId : Uuid) (statuses : List AllocationStatus) :
    List SeatAllocation :=
  d.allocations.filter (fun a => a.bookingId = bookingId && statuses.contains a.status)

def setStatuses (rows : List SeatAllocation) (status : AllocationStatus) : List Write :=
  rows.map (fun a => .status a.id status)

/-- Each statement against one snapshot: its answer, its writes, and the rows it
locks besides those it writes. -/
def run : (q : Sql) → Db → Except Err (Rows q × List Write × List Key)
  | .existsKey eventKey, d => .ok (d.idempotency.contains eventKey, [], [])
  | .findByScheduleId scheduleId, d => .ok (d.schedules scheduleId, [], [])
  | .findByScheduleAndSequence scheduleId sequenceNumber, d =>
      .ok (d.stops.find? (fun s => s.scheduleId = scheduleId ∧ s.sequenceNumber = sequenceNumber),
        [], [])
  | .findByScheduleAndStation scheduleId stationId, d =>
      .ok (d.stops.find? (fun s => s.scheduleId = scheduleId ∧ s.stationId = stationId), [], [])
  | .findManyByIds scheduleId ids, d =>
      .ok (d.seats.filter (fun s => s.scheduleId = scheduleId && ids.contains s.id), [], [])
  | .lockSeats ids, d =>
      .ok ((), [], (d.seats.filter (fun s => ids.contains s.id)).map (fun s => .seat s.id))
  | .hasOverlappingAllocation scheduleId seatInventoryIds fromSequence toSequence, d =>
      .ok (hasOverlappingAllocation d scheduleId seatInventoryIds fromSequence toSequence, [], [])
  -- the exclusion constraint on overlapping segments is not needed: the callers have checked
  | .createMany data, d =>
      if ¬ ((d.allocations ++ data).map SeatAllocation.id).Nodup then .error .uniqueViolation
      else if data.any (fun a => a.toSequence ≤ a.fromSequence) then .error .checkViolation
      else .ok ((), [.allocations data], [])
  | .findByBookingId bookingId, d =>
      .ok (d.allocations.filter (fun a => a.bookingId = bookingId), [], [])
  | .createHistoryMany data, _ => .ok ((), [.history data], [])
  | .createKey eventKey, d =>
      if d.idempotency.contains eventKey then .error .uniqueViolation
      else .ok ((), [.idempotency eventKey], [])
  | .updateManyStatusByBooking bookingId status, d =>
      let rows := allocationsIn d bookingId [.held]
      .ok (rows.length, setStatuses rows status, [])
  | .updateManyStatusByBookingAndStatuses bookingId status statuses, d =>
      let rows := allocationsIn d bookingId statuses
      .ok (rows.length, setStatuses rows status, [])
  | .insertOutbox event, _ => .ok ((), [.outbox event], [])

end RailwayBooking.InventoryService
