import RailwayBooking.Contracts

namespace RailwayBooking.InventoryService

inductive ScheduleInventoryStatus
  | active
  | cancelled
  deriving DecidableEq, Repr

inductive AllocationStatus
  | held
  | confirmed
  | cancelled
  | expired
  deriving DecidableEq, Repr

namespace AllocationStatus

/-- The statuses in which an allocation keeps its seat. -/
def active : AllocationStatus → Bool
  | .held | .confirmed => true
  | .cancelled | .expired => false

end AllocationStatus

structure RouteStop where
  scheduleId : Id
  stationId : Id
  sequenceNumber : Nat
  distanceFromStart : Nat
  deriving DecidableEq

/-- The price for a kilometre is in ten-thousandths. -/
structure SeatInventory where
  id : Id
  scheduleId : Id
  seatId : Id
  coachNumber : String
  seatNumber : Nat
  seatType : String
  pricePerKm : Nat
  deriving DecidableEq

/-- A booking has at most one allocation of a seat, so the two ids name it. -/
structure AllocationId where
  bookingId : Uuid
  seatInventoryId : Id
  deriving DecidableEq

structure SeatAllocation where
  scheduleId : Id
  seatInventoryId : Id
  bookingId : Uuid
  fromStationId : Id
  toStationId : Id
  fromSequence : Nat
  toSequence : Nat
  status : AllocationStatus
  holdExpiresAt : Nat
  price : Nat
  deriving DecidableEq

def SeatAllocation.id (a : SeatAllocation) : AllocationId := ⟨a.bookingId, a.seatInventoryId⟩

structure SeatAllocationHistory where
  allocationId : AllocationId
  oldStatus : AllocationStatus
  newStatus : AllocationStatus
  reason : String
  deriving DecidableEq

/-- The keys of the idempotency table: `booking:hold:`, `booking:confirm:` or
`booking:cancel:` with an event id. -/
inductive EventKey
  | hold (eventId : EventId)
  | confirm (eventId : EventId)
  | cancel (eventId : EventId)
  deriving DecidableEq

/-- A row of the transactional outbox: the event that its topic and payload name. -/
inductive OutboxEvent
  | seatsHeld (payload : SeatsHeld)
  | seatsHoldFailed (payload : SeatsHoldFailed)
  deriving DecidableEq

/-- The tables of inventory-service that holds, confirmations and cancellations
use. -/
structure Db where
  schedules : Id → Option ScheduleInventoryStatus
  stops : List RouteStop
  seats : List SeatInventory
  allocations : List SeatAllocation
  history : List SeatAllocationHistory
  idempotency : List EventKey
  outbox : List OutboxEvent

/-- The schedules, stops and seats projected from admin-service, with the keys of
their tables. -/
structure Projection where
  schedules : Id → Option ScheduleInventoryStatus
  stops : List RouteStop
  seats : List SeatInventory
  seat_id : (seats.map SeatInventory.id).Nodup
  seat_key : (seats.map (fun s => (s.scheduleId, s.seatId))).Nodup

/-- The tables before any allocation. -/
def Projection.db (P : Projection) : Db := ⟨P.schedules, P.stops, P.seats, [], [], [], []⟩

end RailwayBooking.InventoryService
