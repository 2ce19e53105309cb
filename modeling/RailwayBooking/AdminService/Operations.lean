import Mathlib.Data.Nat.Pairing
import RailwayBooking.Concurrency.Rules
import RailwayBooking.AdminService.Repository

namespace RailwayBooking.AdminService

open Concurrency

/-- The operations that are not statements of the database. -/
inductive Aux
  | now
  | randomUUID

@[reducible] def AuxAns : Aux → Type
  | .now => Nat
  | .randomUUID => Id

/-- The clock, and how many random ids were drawn. -/
structure Env where
  now : Nat
  drawn : Nat

/-- As for `Uuid`, no two draws give the same id. -/
def ask (e : Env) (i : Nat) : (a : Aux) → Choice Empty → Option (Except Err (AuxAns a) × Env)
  | .now, _ => some (.ok e.now, e)
  | .randomUUID, _ => some (.ok (Nat.pair i e.drawn), { e with drawn := e.drawn + 1 })

/-- Where in the source a transaction is opened. -/
inductive Site
  | auto
  | createSchedule
  | updateScheduleStatus
  | updateTrainOperatingDays
  | updateRouteStatus
  | deleteRoute
  | addStationToRoute
  | removeRouteStation
  deriving DecidableEq, Repr

@[reducible] def adminService : Service where
  Db := Db
  Sql := Sql
  Rows := Rows
  Write := Write
  Key := Key
  Site := Site
  Aux := Aux
  AuxAns := AuxAns
  Env := Env
  Err := Err
  Reply := Empty
  fault := .fault
  auto := .auto
  run := run
  apply := Write.apply
  keys := Write.keys
  ask := ask
  tick d e := { e with now := e.now + d }

abbrev AdminCode (α : Type) := Code adminService α

def raise {α : Type} (e : Err) : AdminCode α := Program.raise e

/-- `new ApiError(statusCode.notFound, code)`. -/
def notFound {α : Type} (code : ErrorCode) (message : Option String) : AdminCode α :=
  raise (.api 404 code message)

/-- `new ApiError(statusCode.conflict, code)`. -/
def conflict {α : Type} (code : ErrorCode) (message : Option String) : AdminCode α :=
  raise (.api 409 code message)

def now : AdminCode Nat := Code.aux (V := adminService) .now

def randomUUID : AdminCode Id := Code.aux (V := adminService) .randomUUID

section Repositories

variable (tx : Nat)

def sql (q : Sql) : AdminCode (Rows q) := Code.sql (V := adminService) (some tx) q

def withStops : Option Route → AdminCode (Option (Route × List StopWithStation))
  | none => pure none
  | some route => do
    let routeStation ← sql tx (.findRouteStations route.id)
    return some (route, routeStation)

def getRouteById (id : Id) (includeInactive : Bool) :
    AdminCode (Option (Route × List StopWithStation)) := do
  let route ← sql tx (.findRoute (.ofId id) includeInactive)
  withStops tx route

def getRouteByTrainId (trainId : Id) (includeInactive : Bool) :
    AdminCode (Option (Route × List StopWithStation)) := do
  let route ← sql tx (.findRoute (.ofTrain trainId) includeInactive)
  withStops tx route

/-- `PrismaScheduleSnapshot`. -/
structure ScheduleSnapshot where
  schedule : Schedule
  train : Train
  route : Option (Route × List StopWithStation)
  coaches : List Coach
  operatingDays : List Nat

/-- `ScheduleRepository.getById`. A schedule's train exists by its foreign key. -/
def getById (id : Id) : AdminCode (Option ScheduleSnapshot) := do
  let schedule ← sql tx (.findSchedule id)
  match schedule with
  | none => return none
  | some schedule =>
    let loaded ← sql tx (.loadTrain schedule.trainId)
    match loaded with
    | none => return none
    | some (train, coaches, operatingDays) =>
      let route ← getRouteByTrainId tx schedule.trainId true
      return some ⟨schedule, train, route, coaches, operatingDays⟩

def updateOperatingDays (trainId : Id) (days : List Nat) : AdminCode Unit := do
  sql tx (.deleteOperatingDays trainId)
  sql tx (.createOperatingDays trainId days)

end Repositories

section Mappers

/-- The categories that the contract knows. -/
def TrainCategory.contract : TrainCategory → Option ScheduleService.TrainCategory
  | .rajdhani => some .rajdhani
  | .shatabdi => some .shatabdi
  | .vandeBharat => some .vandeBharat
  | .duronto => some .duronto
  | .superfast => some .superfast
  | .passenger => some .passenger
  | .express => some .express
  | .demu => some .demu
  | .memu => some .memu
  | .mail | .janShatabdi | .garibRath => none

/-- The statuses that the contract knows. -/
def ScheduleStatus.contract : ScheduleStatus → Option ScheduleService.ScheduleStatus
  | .draft => some .draft
  | .active => some .active
  | .cancelled => some .cancelled
  | .scheduled | .completed => none

def eventStop (stop : StopWithStation) : EventStop where
  stationId := stop.1.stationId
  stationCode := (stop.2.map Station.code).getD ""
  stationName := (stop.2.map Station.name).getD ""
  stopNumber := stop.1.stopNumber
  arrivalMinutes := stop.1.arrivalMinutes
  departureMinutes := stop.1.departureMinutes
  distanceFromStart := stop.1.distanceFromStart

def eventCoach (coach : Coach) : EventCoach where
  coachId := coach.id
  coachNumber := coach.coachNumber
  coachType := coach.coachType
  totalSeats := coach.totalSeats
  seats := coach.seats.map (fun seat => ⟨seat.id, seat.seatNumber, seat.seatType⟩)

/-- `ScheduleCreatedEventV1.parse`, on the fields of a snapshot. -/
def parseCreated (eventId : Id) (s : ScheduleSnapshot) (route : Route × List StopWithStation) :
    Option ScheduleCreatedEvent := do
  let trainCategory ← s.train.category.contract
  let status ← s.schedule.status.contract
  let coaches := s.coaches.map eventCoach
  if s.operatingDays.all (· ≤ 6) && route.2.all (fun stop => 0 < stop.1.stopNumber) &&
      coaches.all (fun c => 0 < c.totalSeats && c.seats.all (fun seat => 0 < seat.seatNumber)) then
    some {
      eventId := eventId
      scheduleId := s.schedule.id
      trainId := s.schedule.trainId
      trainNumber := s.train.trainNumber
      trainName := s.train.trainName
      routeId := route.1.id
      trainCategory := trainCategory
      departureDate := s.schedule.departureDate
      status := status
      version := s.schedule.version
      operatingDays := s.operatingDays
      stops := route.2.map eventStop
      coaches := coaches }
  else none

/-- `ScheduleStatusChangedEventV1.parse`. -/
def parseStatusChanged (eventId : Id) (s : Schedule) (route : Route) :
    Option ScheduleStatusChangedEvent :=
  s.status.contract.map (fun status => {
    eventId := eventId
    scheduleId := s.id
    trainId := s.trainId
    routeId := route.id
    departureDate := s.departureDate
    status := status
    version := s.version })

def parsed {α : Type} : Option α → AdminCode α
  | none => raise .validation
  | some a => pure a

def toCreatedEvent (s : ScheduleSnapshot) : AdminCode ScheduleCreatedEvent :=
  match s.route with
  | none => raise (.error ("Cannot map ScheduleCreatedEventV1 without routeId. scheduleId=" ++
      toString s.schedule.id))
  | some route => do
    let eventId ← randomUUID
    parsed (parseCreated eventId s route)

def toStatusChangedEvent (s : ScheduleSnapshot) : AdminCode ScheduleStatusChangedEvent :=
  match s.route with
  | none => raise (.error ("Cannot map ScheduleStatusChangedEventV1 without routeId. scheduleId=" ++
      toString s.schedule.id))
  | some route => do
    let eventId ← randomUUID
    parsed (parseStatusChanged eventId s.schedule route.1)

end Mappers

section ScheduleService

structure CreateScheduleRequest where
  trainId : Id
  departureDate : Nat
  deriving DecidableEq

def createSchedule (dto : CreateScheduleRequest) : AdminCode Schedule :=
  let normalizedDate := startOfDay dto.departureDate
  Code.transaction (V := adminService) .createSchedule (fun tx => do
    let found ← sql tx (.findTrain dto.trainId)
    match found with
    | none => notFound .trainNotFound none
    | some (_, operatingDays) =>
      if operatingDays.length = 0 then
        conflict .trainNoOperatingDaysConfigured
          (some "Cannot schedule a train that has no operating days configured.")
      else if !operatingDays.contains (getUTCDay normalizedDate) then
        conflict .trainNotOperatingOnDay
          (some "Train does not operate on the scheduled day of the week.")
      else do
        let route ← getRouteByTrainId tx dto.trainId false
        match route with
        | none =>
          conflict .routeNotFound
            (some "Cannot schedule a train that does not have an active route.")
        | some (_, routeStation) =>
          if routeStation.length < 2 then
            conflict .routeMinStationsRequired
              (some "Cannot schedule a train on a route with fewer than two stops.")
          else do
            let existing ← sql tx (.findByTrainAndDate dto.trainId normalizedDate)
            if existing.isSome then
              conflict .invalidInput
                (some "Train is already scheduled for this departure date.")
            else do
              let id ← randomUUID
              let schedule : Schedule := ⟨id, dto.trainId, normalizedDate, .active, 1⟩
              sql tx (.createSchedule schedule)
              let scheduleDetails ← getById tx id
              match scheduleDetails with
              | none => notFound .invalidInput (some "schedule not found")
              | some scheduleDetails =>
                let payload ← toCreatedEvent scheduleDetails
                sql tx (.insertOutbox (.scheduleCreated payload))
                return schedule)

def updateScheduleStatus (id : Id) (status : ScheduleStatus) : AdminCode Schedule :=
  Code.transaction (V := adminService) .updateScheduleStatus (fun tx => do
    let found ← getById tx id
    match found with
    | none => notFound .invalidInput (some "Schedule not found.")
    | some snapshot =>
      if snapshot.schedule.status = status then return snapshot.schedule
      else do
        let updatedSchedule ← sql tx (.updateSchedule id status)
        let scheduleDetails ← getById tx id
        match scheduleDetails with
        | none => notFound .invalidInput (some "schedule not found")
        | some scheduleDetails =>
          let payload ← toStatusChangedEvent scheduleDetails
          sql tx (.insertOutbox (.scheduleStatusChanged payload))
          return updatedSchedule)

end ScheduleService

section TrainService

def ensureDaysUnreferenced (tx : Nat) (trainId : Id) (removedDays : List Nat) :
    AdminCode Unit := do
  if removedDays.length > 0 then do
    let date ← now
    let futureSchedules ← sql tx (.futureActiveSchedules trainId date)
    if futureSchedules.any (fun departureDate => removedDays.contains (getUTCDay departureDate)) then
      conflict .trainOperatingDaysReferenced none
    else return ()
  else return ()

def updateTrainOperatingDays (trainId : Id) (newDays : List Nat) : AdminCode (List Nat) :=
  Code.transaction (V := adminService) .updateTrainOperatingDays (fun tx => do
    let found ← sql tx (.findTrain trainId)
    match found with
    | none => notFound .trainNotFound none
    | some (_, currentDays) =>
      let removedDays := currentDays.filter (fun day => !newDays.contains day)
      ensureDaysUnreferenced tx trainId removedDays
      updateOperatingDays tx trainId newDays
      return newDays)

end TrainService

section RouteService

def ensureRouteCanBeDeleted (tx : Nat) (routeId : Id) : AdminCode Unit := do
  let route ← getRouteById tx routeId true
  match route with
  | none => notFound .routeNotFound none
  | some (route, _) =>
    let date ← now
    let count ← sql tx (.countFutureActive route.trainId date)
    if count > 0 then conflict .routeReferencedBySchedules none
    else return ()

structure AddStationToRouteRequest where
  stationId : Id
  stopNumber : Nat
  arrivalMinutes : Option Nat
  departureMinutes : Option Nat
  distanceFromStart : Nat
  platformNumber : Option String
  deriving DecidableEq

def addStationToRoute (routeId : Id) (dto : AddStationToRouteRequest) : AdminCode RouteStation :=
  Code.transaction (V := adminService) .addStationToRoute (fun tx => do
    let route ← getRouteById tx routeId true
    match route with
    | none => notFound .routeNotFound none
    | some (route, _) =>
      let station ← sql tx (.findStation dto.stationId)
      if station.isNone then notFound .stationNotFound none
      else do
        let duplicateStation ← sql tx (.findByStationId routeId dto.stationId)
        if duplicateStation.isSome then conflict .stationAlreadyOnRoute none
        else do
          let duplicateStop ← sql tx (.findByStopNumber routeId dto.stopNumber)
          if duplicateStop.isSome then conflict .stopNumberConflict none
          else do
            let id ← randomUUID
            let stop ← sql tx (.addRouteStation ⟨id, routeId, dto.stationId, dto.stopNumber,
              dto.arrivalMinutes, dto.departureMinutes, dto.distanceFromStart,
              dto.platformNumber⟩)
            let eventId ← randomUUID
            sql tx (.insertOutbox (.routeStationAdded eventId route.trainId
              ((stop.2.map Station.code).getD "") stop.1))
            return stop.1)

def removeRouteStation (routeStationId : Id) : AdminCode Unit :=
  Code.transaction (V := adminService) .removeRouteStation (fun tx => do
    let stop ← sql tx (.findRouteStation routeStationId)
    match stop with
    | none => notFound .routeStationNotFound none
    | some (stop, station) =>
      let route ← getRouteById tx stop.routeId true
      match route with
      | none => notFound .routeNotFound none
      | some (route, routeStation) =>
        if routeStation.length ≤ 2 then conflict .routeMinStationsRequired none
        else do
          sql tx (.deleteRouteStation routeStationId)
          let eventId ← randomUUID
          sql tx (.insertOutbox (.routeStationRemoved eventId route.trainId
            ((station.map Station.code).getD "") stop.routeId stop.id stop.stationId))
          return ())

def deleteRoute (routeId : Id) : AdminCode Route :=
  Code.transaction (V := adminService) .deleteRoute (fun tx => do
    let route ← getRouteById tx routeId true
    match route with
    | none => notFound .routeNotFound none
    | some _ =>
      ensureRouteCanBeDeleted tx routeId
      let updatedRoute ← sql tx (.updateRoute routeId false)
      let eventId ← randomUUID
      sql tx (.insertOutbox (.routeDeleted eventId updatedRoute.id updatedRoute.trainId))
      return updatedRoute)

def updateRouteStatus (routeId : Id) (isActive : Bool) : AdminCode Route :=
  Code.transaction (V := adminService) .updateRouteStatus (fun tx => do
    let route ← getRouteById tx routeId true
    match route with
    | none => notFound .routeNotFound none
    | some _ =>
      (if isActive = false then ensureRouteCanBeDeleted tx routeId else pure () : AdminCode Unit)
      let updatedRoute ← sql tx (.updateRoute routeId isActive)
      let eventId ← randomUUID
      sql tx (.insertOutbox (.routeUpdated eventId updatedRoute))
      return updatedRoute)

end RouteService

/-- The requests that change what an active schedule rests on. -/
inductive Call
  | createSchedule (dto : CreateScheduleRequest)
  | updateScheduleStatus (id : Id) (status : ScheduleStatus)
  | updateTrainOperatingDays (trainId : Id) (newDays : List Nat)
  | updateRouteStatus (routeId : Id) (isActive : Bool)
  | deleteRoute (routeId : Id)
  | addStationToRoute (routeId : Id) (dto : AddStationToRouteRequest)
  | removeRouteStation (routeStationId : Id)
  deriving DecidableEq

inductive Out
  | schedule (schedule : Schedule)
  | operatingDays (days : List Nat)
  | route (route : Route)
  | stop (stop : RouteStation)
  | done
  deriving DecidableEq

def body : Call → AdminCode Out
  | .createSchedule dto => do
    let schedule ← createSchedule dto
    return .schedule schedule
  | .updateScheduleStatus id status => do
    let schedule ← updateScheduleStatus id status
    return .schedule schedule
  | .updateTrainOperatingDays trainId newDays => do
    let days ← updateTrainOperatingDays trainId newDays
    return .operatingDays days
  | .updateRouteStatus routeId isActive => do
    let route ← updateRouteStatus routeId isActive
    return .route route
  | .deleteRoute routeId => do
    let route ← deleteRoute routeId
    return .route route
  | .addStationToRoute routeId dto => do
    let stop ← addStationToRoute routeId dto
    return .stop stop
  | .removeRouteStation routeStationId => do
    removeRouteStation routeStationId
    return .done

@[reducible] def machine : Machine adminService := ⟨Call, Out, body⟩

/-- The service on given tables. -/
def start (d : Db) (now : Nat) : Pool machine := Pool.init d ⟨now, 0⟩

end RailwayBooking.AdminService
