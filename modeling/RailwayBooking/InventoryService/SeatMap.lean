import Mathlib.Data.List.DropRight
import RailwayBooking.InventoryService.SeatAllocation

namespace RailwayBooking.InventoryService

open Numeric

structure RouteStopRow extends RouteStop where
  stationCode : String
  deriving DecidableEq

structure SeatRow extends SeatInventory where
  coachId : Id
  deriving DecidableEq

structure ScheduleRow where
  status : ScheduleInventoryStatus
  departureDate : Nat
  deriving DecidableEq

/-- The tables that the seat map and the pre-check of a booking read, with their unique
keys. A null expiry of a hold is 0: neither is after any instant. -/
structure ReadDb where
  schedules : Id → Option ScheduleRow
  stops : List RouteStopRow
  seats : List SeatRow
  allocations : List SeatAllocation
  stop_station : (stops.map (fun s => (s.scheduleId, s.stationId))).Nodup
  stop_sequence : (stops.map (fun s => (s.scheduleId, s.sequenceNumber))).Nodup
  seat_id : (seats.map (fun s => s.id)).Nodup
  seat_key : (seats.map (fun s => (s.scheduleId, s.seatId))).Nodup

/-- The same tables as a hold sees them. -/
def ReadDb.toDb (d : ReadDb) : Db where
  schedules scheduleId := (d.schedules scheduleId).map ScheduleRow.status
  stops := d.stops.map RouteStopRow.toRouteStop
  seats := d.seats.map SeatRow.toSeatInventory
  allocations := d.allocations
  history := []
  idempotency := []
  outbox := []

section Repositories

variable (toUpperCase : String → String)

def RouteStopRow.named (s : RouteStopRow) (station : String) : Bool :=
  toString s.stationId = station || s.stationCode = toUpperCase station

def findStopsByScheduleAndStations (d : ReadDb) (scheduleId : Id) (stationIds : List String) :
    List RouteStopRow :=
  d.stops.filter (fun s => s.scheduleId = scheduleId &&
    (stationIds.contains (toString s.stationId) ||
      (stationIds.map toUpperCase).contains s.stationCode))

/-- By coach number and then by seat number. -/
def SeatRow.before (a b : SeatRow) : Bool :=
  if a.coachNumber ≠ b.coachNumber then a.coachNumber < b.coachNumber
  else a.seatNumber ≤ b.seatNumber

def getByScheduleOrdered (d : ReadDb) (scheduleId : Id) : List SeatRow :=
  (d.seats.filter (fun s => s.scheduleId = scheduleId)).insertionSort (fun a b => a.before b)

/-- The columns that the query of the seat map selects. -/
structure ActiveAllocation where
  seatInventoryId : Id
  status : AllocationStatus
  deriving DecidableEq

/-- `CONFIRMED`, or `HELD` and not yet expired. -/
def SeatAllocation.activeAt (a : SeatAllocation) (now : Nat) : Bool :=
  a.status = .confirmed || (a.status = .held && a.holdExpiresAt > now)

def findActiveAllocationsBySegment (d : ReadDb) (now : Nat) (scheduleId : Id)
    (fromSequence toSequence : Nat) : List ActiveAllocation :=
  (d.allocations.filter (fun a => a.scheduleId = scheduleId && a.activeAt now &&
    a.overlaps fromSequence toSequence)).map (fun a => ⟨a.seatInventoryId, a.status⟩)

end Repositories

section Texts

def fixedText (hundredths : Nat) : String :=
  toString (hundredths / 100) ++ "." ++ toString (hundredths % 100 / 10) ++
    toString (hundredths % 10)

def numberText (tenThousandths : Nat) : String :=
  let decimals := [tenThousandths / 1000 % 10, tenThousandths / 100 % 10, tenThousandths / 10 % 10,
    tenThousandths % 10].rdropWhile (fun digit => digit = 0)
  let whole := toString (tenThousandths / 10000)
  if decimals.isEmpty then whole else whole ++ "." ++ String.join (decimals.map toString)

end Texts

inductive SeatMapStatus
  | available
  | held
  | booked
  deriving DecidableEq, Repr

structure SeatMapItem where
  seatId : Id
  seatNumber : Nat
  seatType : String
  berthType : String
  price : String
  isBooked : Bool
  quota : String
  status : SeatMapStatus
  deriving DecidableEq

structure CoachMapItem where
  coachId : Id
  coachNumber : String
  coachType : String
  totalSeats : Nat
  seats : List SeatMapItem
  deriving DecidableEq

inductive ReplyStatus
  | ok
  | scheduleNotFound
  | scheduleInactive
  | trainAlreadyDeparted
  deriving DecidableEq, Repr

section SeatMap

structure SeatMapSegment where
  fromSequence : Nat
  toSequence : Nat
  segmentDistance : Nat
  deriving DecidableEq

/-- The two stops that are found first, when they are in order. -/
def resolveSeatMapSegmentStops (toUpperCase : String → String) (d : ReadDb) (scheduleId : Id)
    (fromStationId toStationId : String) : Option SeatMapSegment :=
  let stops := findStopsByScheduleAndStations toUpperCase d scheduleId [fromStationId, toStationId]
  let fromStop := stops.find? (fun s => s.named toUpperCase fromStationId)
  let toStop := stops.find? (fun s => s.named toUpperCase toStationId)
  match fromStop, toStop with
  | some fromStop, some toStop =>
    if fromStop.sequenceNumber ≥ toStop.sequenceNumber then none
    else some ⟨fromStop.sequenceNumber, toStop.sequenceNumber,
      toStop.distanceFromStart - fromStop.distanceFromStart⟩
  | _, _ => none

/-- `Map.set` for one row after the other: the last row of a seat stays. -/
def allocationStatusMap (allocations : List ActiveAllocation) : Id → Option AllocationStatus :=
  allocations.foldl (fun m a => Function.update m a.seatInventoryId (some a.status)) (fun _ => none)

def statusStr : Option AllocationStatus → SeatMapStatus
  | some .confirmed => .booked
  | some .held => .held
  | _ => .available

def calculatedPrice (segmentDistance : Nat) (seat : SeatRow) : String :=
  if segmentDistance > 0 then
    fixedText (toFixed2 (binary64 (segmentDistance * pricePerKmNumber seat.pricePerKm)))
  else numberText seat.pricePerKm

variable (statusMap : Id → Option AllocationStatus) (segmentDistance : Nat)

def seatItem (seat : SeatRow) : SeatMapItem where
  seatId := seat.seatId
  seatNumber := seat.seatNumber
  seatType := seat.seatType
  berthType := "SEATER"
  price := calculatedPrice segmentDistance seat
  isBooked := statusStr (statusMap seat.id) ≠ .available
  quota := "GENERAL"
  status := statusStr (statusMap seat.id)

structure CoachesMap where
  coachesById : Id → Option CoachMapItem
  coachOrder : List Id

/-- `coach.seats.push` and the new length. -/
def CoachMapItem.push (coach : CoachMapItem) (item : SeatMapItem) : CoachMapItem :=
  { coach with seats := coach.seats ++ [item], totalSeats := coach.seats.length + 1 }

def addSeat (m : CoachesMap) (seat : SeatRow) : CoachesMap :=
  match m.coachesById seat.coachId with
  | some coach =>
    { m with
      coachesById := Function.update m.coachesById seat.coachId
        (some (coach.push (seatItem statusMap segmentDistance seat))) }
  | none =>
    { coachesById := Function.update m.coachesById seat.coachId
        (some (CoachMapItem.push ⟨seat.coachId, seat.coachNumber, "SL", 0, []⟩
          (seatItem statusMap segmentDistance seat)))
      coachOrder := m.coachOrder ++ [seat.coachId] }

def buildCoachesMap (seats : List SeatRow) : CoachesMap :=
  seats.foldl (addSeat statusMap segmentDistance) ⟨fun _ => none, []⟩

def CoachesMap.coaches (m : CoachesMap) : List CoachMapItem :=
  m.coachOrder.filterMap m.coachesById

def seatMap (seats : List SeatRow) (allocations : List ActiveAllocation) (segmentDistance : Nat) :
    List CoachMapItem :=
  (buildCoachesMap (allocationStatusMap allocations) segmentDistance seats).coaches

/-- The clock is read once: between the queries of one request it may stand still. -/
def getSeatMapData (toUpperCase : String → String) (d : ReadDb) (now : Nat) (scheduleId : Id)
    (fromStationId toStationId : String) : ReplyStatus × List CoachMapItem :=
  match d.schedules scheduleId with
  | none => (.scheduleNotFound, [])
  | some schedule =>
    if schedule.status ≠ .active then (.scheduleInactive, [])
    else
      match resolveSeatMapSegmentStops toUpperCase d scheduleId fromStationId toStationId with
      | none => (.scheduleInactive, [])
      | some segment =>
        (.ok, seatMap (getByScheduleOrdered d scheduleId)
          (findActiveAllocationsBySegment d now scheduleId segment.fromSequence segment.toSequence)
          segment.segmentDistance)

end SeatMap

section ValidateBooking

def toleranceMs : Nat := 60000

/-- The status and, where it is `OK`, the departure. -/
def validateBooking (toUpperCase : String → String) (d : ReadDb) (now : Nat) (scheduleId : Id)
    (fromStationId toStationId : String) (clientRequestedAt : Option Nat) :
    ReplyStatus × Option Nat :=
  match d.schedules scheduleId with
  | none => (.scheduleNotFound, none)
  | some schedule =>
    if schedule.status ≠ .active then (.scheduleInactive, none)
    else if (findStopsByScheduleAndStations toUpperCase d scheduleId
        [fromStationId, toStationId]).length < 2 then (.scheduleInactive, none)
    else if clientRequestedAt.getD now > schedule.departureDate + toleranceMs then
      (.trainAlreadyDeparted, none)
    else (.ok, some schedule.departureDate)

end ValidateBooking

end RailwayBooking.InventoryService
