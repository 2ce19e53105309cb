import RailwayBooking.AdminService.Schema

namespace RailwayBooking.AdminService

inductive ErrorCode
  | invalidInput
  | trainNotFound
  | trainNoOperatingDaysConfigured
  | trainNotOperatingOnDay
  | trainOperatingDaysReferenced
  | routeNotFound
  | routeReferencedBySchedules
  | routeMinStationsRequired
  | routeStationNotFound
  | stationNotFound
  | stationAlreadyOnRoute
  | stopNumberConflict
  deriving DecidableEq, Repr

/-- `ApiError`, a plain `Error`, a payload that does not match its schema, a Prisma
error, or a broken connection. -/
inductive Err
  | api (statusCode : Nat) (code : ErrorCode) (message : Option String)
  | error (message : String)
  | validation
  | uniqueViolation
  | checkViolation
  | recordNotFound
  | valueOutOfRange
  | fault
  deriving DecidableEq

inductive RouteWhere
  | ofId (id : Id)
  | ofTrain (trainId : Id)
  deriving DecidableEq

def RouteWhere.test : RouteWhere → Route → Bool
  | .ofId id, r => r.id = id
  | .ofTrain trainId, r => r.trainId = trainId

/-- The statements of the repositories. The stops of a route are loaded by a statement
of their own, with their stations; so are the parts of a schedule's snapshot that
change. -/
inductive Sql
  | findTrain (trainId : Id)
  | loadTrain (trainId : Id)
  | findStation (stationId : Id)
  | findRoute (key : RouteWhere) (includeInactive : Bool)
  | findRouteStations (routeId : Id)
  | findRouteStation (routeStationId : Id)
  | findByStationId (routeId stationId : Id)
  | findByStopNumber (routeId : Id) (stopNumber : Nat)
  | findSchedule (scheduleId : Id)
  | findByTrainAndDate (trainId : Id) (departureDate : Nat)
  | futureActiveSchedules (trainId : Id) (now : Nat)
  | countFutureActive (trainId : Id) (now : Nat)
  | createSchedule (data : Schedule)
  | updateSchedule (scheduleId : Id) (status : ScheduleStatus)
  | deleteOperatingDays (trainId : Id)
  | createOperatingDays (trainId : Id) (days : List Nat)
  | updateRoute (routeId : Id) (isActive : Bool)
  | addRouteStation (data : RouteStation)
  | deleteRouteStation (routeStationId : Id)
  | insertOutbox (event : OutboxEvent)
  deriving DecidableEq

abbrev StopWithStation := RouteStation × Option Station

@[reducible] def Rows : Sql → Type
  | .findTrain _ => Option (Train × List Nat)
  | .loadTrain _ => Option (Train × List Coach × List Nat)
  | .findStation _ => Option Station
  | .findRoute _ _ => Option Route
  | .findRouteStations _ => List StopWithStation
  | .findRouteStation _ => Option StopWithStation
  | .findByStationId _ _ => Option RouteStation
  | .findByStopNumber _ _ => Option RouteStation
  | .findSchedule _ => Option Schedule
  | .findByTrainAndDate _ _ => Option Schedule
  | .futureActiveSchedules _ _ => List Nat
  | .countFutureActive _ _ => Nat
  | .createSchedule _ => Unit
  | .updateSchedule _ _ => Schedule
  | .deleteOperatingDays _ => Unit
  | .createOperatingDays _ _ => Unit
  | .updateRoute _ _ => Route
  | .addRouteStation _ => StopWithStation
  | .deleteRouteStation _ => Unit
  | .insertOutbox _ => Unit

/-- What a statement changes. A deletion names what it deletes. -/
inductive Write
  | schedule (row : Schedule)
  | updatedStatus (scheduleId : Id) (status : ScheduleStatus) (version : Nat)
  | deletedDays (trainId : Id) (days : List Nat)
  | createdDays (trainId : Id) (days : List Nat)
  | route (routeId : Id) (isActive : Bool)
  | stop (row : RouteStation)
  | deletedStop (row : RouteStation)
  | outbox (event : OutboxEvent)
  deriving DecidableEq

/-- A row, or an entry of a unique index. -/
inductive Key
  | schedule (scheduleId : Id)
  | departure (trainId : Id) (departureDate : Nat)
  | day (trainId : Id) (dayOfWeek : Nat)
  | route (routeId : Id)
  | stop (routeStationId : Id)
  | stopNumber (routeId : Id) (stopNumber : Nat)
  | stopStation (routeId stationId : Id)
  deriving DecidableEq

namespace Write

def stopKeys (row : RouteStation) : List Key :=
  [.stop row.id, .stopNumber row.routeId row.stopNumber, .stopStation row.routeId row.stationId]

def keys : Write → List Key
  | .schedule row => [.schedule row.id, .departure row.trainId row.departureDate]
  | .updatedStatus scheduleId _ _ => [.schedule scheduleId]
  | .deletedDays trainId days | .createdDays trainId days => days.map (.day trainId)
  | .route routeId _ => [.route routeId]
  | .stop row | .deletedStop row => stopKeys row
  | .outbox _ => []

def apply : Write → Db → Db
  | .schedule row, d => { d with schedules := d.schedules ++ [row] }
  | .updatedStatus scheduleId status version, d =>
      { d with schedules := d.schedules.map (fun s =>
          if s.id = scheduleId then { s with status := status, version := version } else s) }
  | .deletedDays trainId days, d =>
      { d with operatingDays := d.operatingDays.filter (fun x =>
          !(x.trainId = trainId && days.contains x.dayOfWeek)) }
  | .createdDays trainId days, d =>
      { d with operatingDays := d.operatingDays ++ days.map (OperatingDay.mk trainId) }
  | .route routeId isActive, d =>
      { d with routes := d.routes.map (fun r =>
          if r.id = routeId then { r with isActive := isActive } else r) }
  | .stop row, d => { d with routeStations := d.routeStations ++ [row] }
  | .deletedStop row, d =>
      { d with routeStations := d.routeStations.filter (fun s => s.id ≠ row.id) }
  | .outbox event, d => { d with outbox := d.outbox ++ [event] }

end Write

def stopTaken (d : Db) (row : RouteStation) : Bool :=
  d.routeStations.any (fun s => s.id = row.id || (s.routeId = row.routeId &&
    (s.stopNumber = row.stopNumber || s.stationId = row.stationId)))

def stopOutOfRange (row : RouteStation) : Bool :=
  row.stopNumber > InventoryService.maxPostgresInt ||
    row.distanceFromStart > InventoryService.maxPostgresInt ||
    row.arrivalMinutes.any (· > InventoryService.maxPostgresInt) ||
    row.departureMinutes.any (· > InventoryService.maxPostgresInt)

/-- Each statement against one snapshot. -/
def run : (q : Sql) → Db → Except Err (Rows q × List Write × List Key)
  | .findTrain trainId, d =>
      .ok ((d.trains.find? (fun t => t.id = trainId && t.isActive)).map
        (fun t => (t, d.daysOf trainId)), [], [])
  | .loadTrain trainId, d =>
      .ok ((d.trains.find? (fun t => t.id = trainId)).map (fun t =>
        (t, d.coaches.filter (fun x => x.trainId = trainId && x.isActive), d.daysOf trainId)), [], [])
  | .findStation stationId, d =>
      .ok (d.stations.find? (fun s => s.id = stationId && s.isActive), [], [])
  | .findRoute key includeInactive, d =>
      .ok (d.routes.find? (fun r => key.test r && (includeInactive || r.isActive)), [], [])
  | .findRouteStations routeId, d =>
      .ok (((d.stopsOf routeId).insertionSort (fun s s' => s.stopNumber ≤ s'.stopNumber)).map
        (fun s => (s, d.station s.stationId)), [], [])
  | .findRouteStation routeStationId, d =>
      .ok ((d.routeStations.find? (fun s => s.id = routeStationId)).map
        (fun s => (s, d.station s.stationId)), [], [])
  | .findByStationId routeId stationId, d =>
      .ok ((d.stopsOf routeId).find? (fun s => s.stationId = stationId), [], [])
  | .findByStopNumber routeId stopNumber, d =>
      .ok ((d.stopsOf routeId).find? (fun s => s.stopNumber = stopNumber), [], [])
  | .findSchedule scheduleId, d => .ok (d.schedules.find? (fun s => s.id = scheduleId), [], [])
  | .findByTrainAndDate trainId departureDate, d =>
      .ok (d.schedules.find? (fun s => s.trainId = trainId && s.departureDate = departureDate),
        [], [])
  | .futureActiveSchedules trainId now, d =>
      .ok ((d.futureActive trainId now).map Schedule.departureDate, [], [])
  | .countFutureActive trainId now, d => .ok ((d.futureActive trainId now).length, [], [])
  | .createSchedule data, d =>
      if d.schedules.any (fun s => s.id = data.id ||
        (s.trainId = data.trainId && s.departureDate = data.departureDate)) then
        .error .uniqueViolation
      else .ok ((), [.schedule data], [])
  | .updateSchedule scheduleId status, d =>
      match d.schedules.find? (fun s => s.id = scheduleId) with
      | none => .error .recordNotFound
      | some s =>
        if s.version + 1 > InventoryService.maxPostgresInt then .error .valueOutOfRange
        else .ok ({ s with status := status, version := s.version + 1 },
          [.updatedStatus scheduleId status (s.version + 1)], [])
  | .deleteOperatingDays trainId, d => .ok ((), [.deletedDays trainId (d.daysOf trainId)], [])
  | .createOperatingDays trainId days, d =>
      if ¬ (d.daysOf trainId ++ days).Nodup then .error .uniqueViolation
      else .ok ((), [.createdDays trainId days], [])
  | .updateRoute routeId isActive, d =>
      match d.routes.find? (fun r => r.id = routeId) with
      | none => .error .recordNotFound
      | some r => .ok ({ r with isActive := isActive }, [.route routeId isActive], [])
  | .addRouteStation data, d =>
      if stopOutOfRange data then .error .valueOutOfRange
      else if data.stopNumber = 0 then .error .checkViolation
      else if stopTaken d data then .error .uniqueViolation
      else .ok ((data, d.station data.stationId), [.stop data], [])
  | .deleteRouteStation routeStationId, d =>
      match d.routeStations.find? (fun s => s.id = routeStationId) with
      | none => .error .recordNotFound
      | some s => .ok ((), [.deletedStop s], [])
  | .insertOutbox event, _ => .ok ((), [.outbox event], [])

end RailwayBooking.AdminService
