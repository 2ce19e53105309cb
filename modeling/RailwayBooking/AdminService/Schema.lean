import Mathlib.Data.List.Sort
import RailwayBooking.ScheduleService.Schema

namespace RailwayBooking.AdminService

inductive TrainCategory
  | express
  | superfast
  | mail
  | passenger
  | vandeBharat
  | rajdhani
  | shatabdi
  | duronto
  | janShatabdi
  | garibRath
  | demu
  | memu
  deriving DecidableEq, Repr

inductive ScheduleStatus
  | draft
  | active
  | scheduled
  | cancelled
  | completed
  deriving DecidableEq, Repr

structure Station where
  id : Id
  name : String
  code : String
  isActive : Bool
  deriving DecidableEq

structure Train where
  id : Id
  trainNumber : String
  trainName : String
  category : TrainCategory
  isActive : Bool
  deriving DecidableEq

structure Seat where
  id : Id
  seatNumber : Nat
  seatType : String
  deriving DecidableEq

/-- A coach with its seats, which no operation changes. -/
structure Coach where
  id : Id
  trainId : Id
  coachNumber : String
  coachType : String
  totalSeats : Nat
  isActive : Bool
  seats : List Seat
  deriving DecidableEq

structure OperatingDay where
  trainId : Id
  dayOfWeek : Nat
  deriving DecidableEq

structure Route where
  id : Id
  trainId : Id
  isActive : Bool
  deriving DecidableEq

structure RouteStation where
  id : Id
  routeId : Id
  stationId : Id
  stopNumber : Nat
  arrivalMinutes : Option Nat
  departureMinutes : Option Nat
  distanceFromStart : Nat
  platformNumber : Option String
  deriving DecidableEq

/-- The departure date is in milliseconds. -/
structure Schedule where
  id : Id
  trainId : Id
  departureDate : Nat
  status : ScheduleStatus
  version : Nat
  deriving DecidableEq

section Events

structure EventStop where
  stationId : Id
  stationCode : String
  stationName : String
  stopNumber : Nat
  arrivalMinutes : Option Nat
  departureMinutes : Option Nat
  distanceFromStart : Nat
  deriving DecidableEq

structure EventCoach where
  coachId : Id
  coachNumber : String
  coachType : String
  totalSeats : Nat
  seats : List ScheduleService.CoachSeat
  deriving DecidableEq

/-- `ScheduleCreatedEventV1`. Of the contract's enumerations there are fewer values
than of the tables'. -/
structure ScheduleCreatedEvent where
  eventId : Id
  scheduleId : Id
  trainId : Id
  trainNumber : String
  trainName : String
  routeId : Id
  trainCategory : ScheduleService.TrainCategory
  departureDate : Nat
  status : ScheduleService.ScheduleStatus
  version : Nat
  operatingDays : List Nat
  stops : List EventStop
  coaches : List EventCoach
  deriving DecidableEq

/-- `ScheduleStatusChangedEventV1`. -/
structure ScheduleStatusChangedEvent where
  eventId : Id
  scheduleId : Id
  trainId : Id
  routeId : Id
  departureDate : Nat
  status : ScheduleService.ScheduleStatus
  version : Nat
  deriving DecidableEq

/-- The rows of the outbox, by their payloads. -/
inductive OutboxEvent
  | scheduleCreated (payload : ScheduleCreatedEvent)
  | scheduleStatusChanged (payload : ScheduleStatusChangedEvent)
  | routeUpdated (eventId : Id) (route : Route)
  | routeDeleted (eventId : Id) (routeId trainId : Id)
  | routeStationAdded (eventId : Id) (trainId : Id) (stationCode : String) (stop : RouteStation)
  | routeStationRemoved (eventId : Id) (trainId : Id) (stationCode : String)
      (routeId routeStationId stationId : Id)
  deriving DecidableEq

end Events

structure Db where
  stations : List Station
  trains : List Train
  coaches : List Coach
  operatingDays : List OperatingDay
  routes : List Route
  routeStations : List RouteStation
  schedules : List Schedule
  outbox : List OutboxEvent

namespace Db

variable (d : Db)

def daysOf (trainId : Id) : List Nat :=
  (d.operatingDays.filter (fun x => x.trainId = trainId)).map OperatingDay.dayOfWeek

def stopsOf (routeId : Id) : List RouteStation :=
  d.routeStations.filter (fun s => s.routeId = routeId)

/-- The schedules that the guards of the other operations look for. -/
def futureActive (trainId : Id) (now : Nat) : List Schedule :=
  d.schedules.filter (fun s => s.trainId = trainId && s.status = .active && now ≤ s.departureDate)

def station (stationId : Id) : Option Station := d.stations.find? (fun s => s.id = stationId)

end Db

section Dates

def millisecondsPerDay : Nat := 86400000

/-- `setUTCHours(0, 0, 0, 0)`. -/
def startOfDay (date : Nat) : Nat := date - date % millisecondsPerDay

/-- `getUTCDay`: the first of January 1970 was a Thursday. -/
def getUTCDay (date : Nat) : Nat := (date / millisecondsPerDay + 4) % 7

end Dates

end RailwayBooking.AdminService
