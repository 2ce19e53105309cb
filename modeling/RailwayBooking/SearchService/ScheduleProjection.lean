import RailwayBooking.ScheduleService.Schema
import RailwayBooking.SearchService.Projection

namespace RailwayBooking.SearchService

open Concurrency ScheduleService

section Events

structure EventStop where
  stationId : Id
  stationCode : String
  stationName : String
  stopNumber : Nat
  arrivalMinutes : Option Nat
  departureMinutes : Option Nat
  distanceFromStart : Nat
  deriving DecidableEq

structure EventCoach where
  coachId : Id
  coachNumber : String
  coachType : String
  totalSeats : Nat
  deriving DecidableEq

/-- `ScheduleCreatedEventV1`, without the seats. Times are in milliseconds. -/
structure ScheduleCreatedEvent where
  eventId : Id
  scheduleId : Id
  trainId : Id
  trainNumber : String
  trainName : String
  routeId : Id
  trainCategory : TrainCategory
  departureDate : Nat
  status : ScheduleStatus
  version : Nat
  operatingDays : List Nat
  stops : List EventStop
  coaches : List EventCoach
  createdAt : Nat
  deriving DecidableEq

/-- `ScheduleStatusChangedEventV1`, as far as it is read. -/
structure ScheduleStatusChangedEvent where
  eventId : Id
  scheduleId : Id
  status : ScheduleStatus
  version : Nat
  deriving DecidableEq

end Events

section Documents

structure StopDocument where
  stationId : Id
  stationCode : String
  stationName : String
  sequenceNumber : Nat
  arrivalMinutes : Option Nat
  departureMinutes : Option Nat
  distanceFromStart : Nat
  deriving DecidableEq

structure CoachDocument where
  coachId : Id
  coachNumber : String
  coachType : String
  totalSeats : Nat
  pricePerKm : Nat
  deriving DecidableEq

structure FareRange where
  min : Nat
  max : Nat
  currency : String
  deriving DecidableEq

structure AvailableSeats where
  total : Nat
  byCoachType : List (String × Nat)
  deriving DecidableEq

/-- The departure date is a day. A schedule without stops has no first and last
station. -/
structure TrainScheduleDocument where
  scheduleId : Id
  trainId : Id
  trainNumber : String
  trainName : String
  trainCategory : TrainCategory
  routeId : Id
  departureDate : Nat
  status : ScheduleStatus
  version : Nat
  operatingDays : List Nat
  fromStationId : Option Id
  toStationId : Option Id
  totalDistance : Nat
  routesServed : List (Id × Id)
  stops : List StopDocument
  coaches : List CoachDocument
  fareRange : FareRange
  capacity : AvailableSeats
  createdAt : Nat
  updatedAt : Nat
  deriving DecidableEq

def pricePerKmForCategory : TrainCategory → Nat
  | .rajdhani => 170
  | .shatabdi => 160
  | .vandeBharat => 180
  | .duronto => 150
  | .superfast => 120
  | .passenger => 50
  | .express => 90
  | .demu => 45
  | .memu => 45

def computeRoutesServed : List EventStop → List (Id × Id)
  | [] => []
  | stop :: stops =>
    stops.map (fun later => (stop.stationId, later.stationId)) ++ computeRoutesServed stops

/-- `Math.round` of an amount in hundredths. -/
def round (hundredths : Nat) : Nat := (hundredths + 50) / 100

def computeFareRange (coaches : List CoachDocument) (totalDistance : Nat) : FareRange :=
  let fares := coaches.map (fun coach => coach.pricePerKm * totalDistance)
  { min := round (fares.min?.getD 0)
    max := round (fares.foldl max 0)
    currency := "INR" }

def addSeats (coachType : String) (seats : Nat) : List (String × Nat) → List (String × Nat)
  | [] => [(coachType, seats)]
  | (type, n) :: rest =>
    if type = coachType then (type, n + seats) :: rest
    else (type, n) :: addSeats coachType seats rest

def computeCapacity (coaches : List CoachDocument) : AvailableSeats where
  total := (coaches.map CoachDocument.totalSeats).sum
  byCoachType := coaches.foldl (fun acc coach => addSeats coach.coachType coach.totalSeats acc) []

def millisecondsPerDay : Nat := 86400000

def stopDocument (stop : EventStop) : StopDocument :=
  ⟨stop.stationId, stop.stationCode, stop.stationName, stop.stopNumber, stop.arrivalMinutes,
    stop.departureMinutes, stop.distanceFromStart⟩

def coachDocument (basePricePerKm : Nat) (coach : EventCoach) : CoachDocument :=
  ⟨coach.coachId, coach.coachNumber, coach.coachType, coach.totalSeats, basePricePerKm⟩

def toDocument (event : ScheduleCreatedEvent) : TrainScheduleDocument :=
  let sortedStops := event.stops.insertionSort (fun a b => a.stopNumber ≤ b.stopNumber)
  let totalDistance := (sortedStops.getLast?.map EventStop.distanceFromStart).getD 0
  let coaches := event.coaches.map (coachDocument (pricePerKmForCategory event.trainCategory))
  { scheduleId := event.scheduleId
    trainId := event.trainId
    trainNumber := event.trainNumber
    trainName := event.trainName
    trainCategory := event.trainCategory
    routeId := event.routeId
    departureDate := event.departureDate / millisecondsPerDay
    status := event.status
    version := event.version
    operatingDays := event.operatingDays
    fromStationId := sortedStops.head?.map EventStop.stationId
    toStationId := sortedStops.getLast?.map EventStop.stationId
    totalDistance := totalDistance
    routesServed := computeRoutesServed sortedStops
    stops := sortedStops.map stopDocument
    coaches := coaches
    fareRange := computeFareRange coaches totalDistance
    capacity := computeCapacity coaches
    createdAt := event.createdAt
    updatedAt := event.createdAt }

end Documents

section Repository

abbrev ScheduleCode (α : Type) := ProjectionCode TrainScheduleDocument α

/-- The script of `upsert`, with the document for the case that there is none. -/
def upsertScript (doc : TrainScheduleDocument) :
    Option TrainScheduleDocument → Update TrainScheduleDocument
  | none => .put doc
  | some source => if source.version ≤ doc.version then .put doc else .noop

/-- The script of `updateStatus`. -/
def updateStatusScript (status : ScheduleStatus) (version updatedAt : Nat) :
    Option TrainScheduleDocument → Update TrainScheduleDocument
  | none => .notFound
  | some source =>
    if source.version < version then
      .put { source with status := status, version := version, updatedAt := updatedAt }
    else .noop

def upsert (eventId : Id) (doc : TrainScheduleDocument) : ScheduleCode Unit := do
  let _ ← update eventId doc.scheduleId (upsertScript doc)
  pure ()

inductive UpdateStatusResult
  | applied
  | notFound
  | stale
  deriving DecidableEq

def updateStatus (eventId scheduleId : Id) (status : ScheduleStatus) (version : Nat) :
    ScheduleCode UpdateStatusResult := do
  let now ← Code.aux (V := projection TrainScheduleDocument) .now
  let result ← update eventId scheduleId (updateStatusScript status version now)
  match result with
  | .notFound => pure .notFound
  | .noop => pure .stale
  | .updated => pure .applied

end Repository

section Service

def applyCreated (event : ScheduleCreatedEvent) : ScheduleCode ProjectionOutcome :=
  dispatch event.eventId event.scheduleId (upsert event.eventId (toDocument event))

def applyStatusChange (event : ScheduleStatusChangedEvent) : ScheduleCode ProjectionOutcome :=
  dispatch event.eventId event.scheduleId (do
    let result ← updateStatus event.eventId event.scheduleId event.status event.version
    match result with
    | .notFound =>
      Program.raise (.error
        ("Schedule status update deferred: document not found yet for schedule " ++
          toString event.scheduleId))
    | .stale | .applied => pure ())

inductive ScheduleEvent
  | created (event : ScheduleCreatedEvent)
  | statusChanged (event : ScheduleStatusChangedEvent)
  deriving DecidableEq

def scheduleBody : ScheduleEvent → ScheduleCode ProjectionOutcome
  | .created event => applyCreated event
  | .statusChanged event => applyStatusChange event

@[reducible] def scheduleProjection : Machine (projection TrainScheduleDocument) :=
  ⟨ScheduleEvent, ProjectionOutcome, scheduleBody⟩

end Service

end RailwayBooking.SearchService
