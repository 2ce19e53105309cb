import RailwayBooking.InventoryService.SeatAllocation

namespace RailwayBooking.ScheduleService

open InventoryService

inductive ScheduleStatus
  | draft
  | active
  | cancelled
  deriving DecidableEq, Repr

inductive TrainCategory
  | rajdhani
  | shatabdi
  | vandeBharat
  | duronto
  | superfast
  | passenger
  | express
  | demu
  | memu
  deriving DecidableEq, Repr

structure ScheduleStop where
  stationId : Id
  stopNumber : Nat
  distanceFromStart : Nat
  deriving DecidableEq

structure CoachSeat where
  seatId : Id
  seatNumber : Nat
  seatType : String
  deriving DecidableEq

structure Coach where
  coachNumber : String
  coachType : String
  seats : List CoachSeat
  deriving DecidableEq

/-- `ScheduleCreatedEventV1`, as far as the projection reads it. -/
structure ScheduleCreated where
  scheduleId : Id
  trainCategory : TrainCategory
  status : ScheduleStatus
  version : Nat
  stops : List ScheduleStop
  coaches : List Coach
  deriving DecidableEq

/-- `ScheduleStatusChangedEventV1`, as far as it is read. -/
structure ScheduleStatusChanged where
  scheduleId : Id
  status : ScheduleStatus
  version : Nat
  deriving DecidableEq

/-- The status and the version of a schedule's row. -/
structure ScheduleInventory where
  status : ScheduleInventoryStatus
  version : Nat
  deriving DecidableEq

/-- The payloads for search-service, with the id of the event. -/
inductive ScheduleOutboxEvent
  | projected (eventId scheduleId : Id) (version : Nat)
  | statusChanged (eventId scheduleId : Id) (status : ScheduleInventoryStatus) (version : Nat)
  deriving DecidableEq

/-- The tables of inventory-service, now with the versions of the schedules and the
outbox rows about them. -/
structure Db where
  tables : InventoryService.Db
  versions : Id → Nat
  outbox : List ScheduleOutboxEvent

/-- Nothing has been projected yet. -/
def Db.empty : Db := ⟨⟨fun _ => none, [], [], [], [], [], []⟩, fun _ => 0, []⟩

/-- The statements of the repositories: those on allocations, and those on
schedules. -/
inductive Sql
  | inventory (q : InventoryService.Sql)
  | findByScheduleId (scheduleId : Id)
  | create (scheduleId : Id) (row : ScheduleInventory)
  | updateStatus (scheduleId : Id) (status : ScheduleInventoryStatus) (version : Nat)
  | deleteByScheduleId (scheduleId : Id)
  | createStops (data : List RouteStop)
  | createSeats (data : List SeatInventory)
  | insertOutbox (event : ScheduleOutboxEvent)

@[reducible] def Rows : Sql → Type
  | .inventory q => InventoryService.Rows q
  | .findByScheduleId _ => Option ScheduleInventory
  | .create _ _ => Unit
  | .updateStatus _ _ _ => Bool
  | .deleteByScheduleId _ => Unit
  | .createStops _ => Unit
  | .createSeats _ => Unit
  | .insertOutbox _ => Unit

/-- What a statement changes. The row of a schedule is put as a whole; a deletion
names the seats that go with it. -/
inductive Write
  | inventory (x : InventoryService.Write)
  | schedule (scheduleId : Id) (row : ScheduleInventory)
  | deleted (scheduleId : Id) (seatInventoryIds : List Id)
  | stops (rows : List RouteStop)
  | seats (rows : List SeatInventory)
  | outbox (event : ScheduleOutboxEvent)

inductive Key
  | inventory (k : InventoryService.Key)
  | schedule (scheduleId : Id)
  deriving DecidableEq

def Write.keys : Write → List Key
  | .inventory x => x.keys.map .inventory
  | .schedule scheduleId _ => [.schedule scheduleId]
  | .deleted scheduleId seatInventoryIds =>
      .schedule scheduleId :: seatInventoryIds.map (fun id => .inventory (.seat id))
  | .seats rows => rows.map (fun s => .inventory (.seat s.id))
  | .stops _ | .outbox _ => []

/-- Seats and stops go with the row of their schedule; allocations have no foreign
key, and stay. -/
def Write.apply : Write → Db → Db
  | .inventory x, d => { d with tables := x.apply d.tables }
  | .schedule scheduleId row, d =>
      { d with
        tables := { d.tables with
          schedules := Function.update d.tables.schedules scheduleId (some row.status) }
        versions := Function.update d.versions scheduleId row.version }
  | .deleted scheduleId seatInventoryIds, d =>
      { d with
        tables := { d.tables with
          schedules := Function.update d.tables.schedules scheduleId none
          stops := d.tables.stops.filter (fun s => s.scheduleId ≠ scheduleId)
          seats := d.tables.seats.filter (fun s => !seatInventoryIds.contains s.id) } }
  | .stops rows, d => { d with tables := { d.tables with stops := d.tables.stops ++ rows } }
  | .seats rows, d => { d with tables := { d.tables with seats := d.tables.seats ++ rows } }
  | .outbox event, d => { d with outbox := d.outbox ++ [event] }

def seatKey (s : SeatInventory) : Id × Id := (s.scheduleId, s.seatId)

def stopsDistinct (stops : List RouteStop) : Prop :=
  (stops.map (fun s => (s.scheduleId, s.stationId))).Nodup ∧
    (stops.map (fun s => (s.scheduleId, s.sequenceNumber))).Nodup

instance (stops : List RouteStop) : Decidable (stopsDistinct stops) :=
  inferInstanceAs (Decidable (_ ∧ _))

def outOfRange : Err := .error "Unable to fit integer value into an INT4 (32-bit signed integer)."

/-- Each statement against one snapshot, as in `InventoryService.run`. -/
def run : (q : Sql) → Db → Except Err (Rows q × List Write × List Key)
  | .inventory q, d =>
      (InventoryService.run q d.tables).map
        (fun r => (r.1, r.2.1.map .inventory, r.2.2.map .inventory))
  | .findByScheduleId scheduleId, d =>
      .ok ((d.tables.schedules scheduleId).map (fun status => ⟨status, d.versions scheduleId⟩),
        [], [])
  | .create scheduleId row, d =>
      if row.version > maxPostgresInt then .error outOfRange
      else if (d.tables.schedules scheduleId).isSome then .error .uniqueViolation
      else .ok ((), [.schedule scheduleId row], [])
  | .updateStatus scheduleId status version, d =>
      if version > maxPostgresInt then .error outOfRange
      else if (d.tables.schedules scheduleId).isSome && d.versions scheduleId < version then
        .ok (true, [.schedule scheduleId ⟨status, version⟩], [])
      else .ok (false, [], [])
  | .deleteByScheduleId scheduleId, d =>
      if (d.tables.schedules scheduleId).isSome then
        .ok ((), [.deleted scheduleId
          ((d.tables.seats.filter (fun s => s.scheduleId = scheduleId)).map SeatInventory.id)], [])
      else .error (.error "No record was found for a delete.")
  | .createStops data, d =>
      if data.any (fun s => s.sequenceNumber > maxPostgresInt ||
        s.distanceFromStart > maxPostgresInt) then .error outOfRange
      else if ¬ stopsDistinct (d.tables.stops ++ data) then .error .uniqueViolation
      else .ok ((), [.stops data], [])
  | .createSeats data, d =>
      if data.any (fun s => s.seatNumber > maxPostgresInt) then .error outOfRange
      else if ¬ ((d.tables.seats ++ data).map seatKey).Nodup then .error .uniqueViolation
      else .ok ((), [.seats data], [])
  | .insertOutbox event, _ => .ok ((), [.outbox event], [])

end RailwayBooking.ScheduleService
