import RailwayBooking.AdminService.Operations

namespace RailwayBooking.AdminService

open Concurrency

abbrev AdminTx := Tx adminService

abbrev AdminWorld := World adminService Call

def applyAll (d : Db) (ws : List Write) : Db := ws.foldl (fun d x => x.apply d) d

theorem view_eq (t : AdminTx) (d : Db) : t.view d = applyAll d t.writes := rfl

theorem applyAll_cons (d : Db) (x : Write) (ws : List Write) :
    applyAll d (x :: ws) = applyAll (x.apply d) ws := rfl

theorem view_nil {t : AdminTx} (h : t.writes = []) (d : Db) : t.view d = d := by
  rw [view_eq, h]
  rfl

section Rows

/-- The row of a schedule. -/
def rowOf (d : Db) (k : Id) : Option Schedule := d.schedules.find? (fun s => s.id = k)

def stopRow (d : Db) (k : Id) : Option RouteStation := d.routeStations.find? (fun s => s.id = k)

variable {d : Db} {k : Id}

theorem rowOf_id {s : Schedule} (h : rowOf d k = some s) : s.id = k := by
  simpa using List.find?_some h

theorem rowOf_mem {s : Schedule} (h : rowOf d k = some s) : s ∈ d.schedules :=
  List.mem_of_find?_eq_some h

theorem rowOf_eq_none : rowOf d k = none ↔ ∀ s ∈ d.schedules, s.id ≠ k := by
  simp [rowOf, List.find?_eq_none]

theorem stopRow_id {s : RouteStation} (h : stopRow d k = some s) : s.id = k := by
  simpa using List.find?_some h

theorem stopRow_eq_none : stopRow d k = none ↔ ∀ s ∈ d.routeStations, s.id ≠ k := by
  simp [stopRow, List.find?_eq_none]

def Schedule.updated (k : Id) (status : ScheduleStatus) (version : Nat) (s : Schedule) : Schedule :=
  if s.id = k then { s with status := status, version := version } else s

def Route.updated (k : Id) (isActive : Bool) (r : Route) : Route :=
  if r.id = k then { r with isActive := isActive } else r

section Updated

variable {status : ScheduleStatus} {version : Nat} {isActive : Bool} (s : Schedule) (r : Route)

@[simp] theorem Schedule.updated_id : (s.updated k status version).id = s.id := by
  unfold Schedule.updated
  split <;> rfl

@[simp] theorem Schedule.updated_trainId : (s.updated k status version).trainId = s.trainId := by
  unfold Schedule.updated
  split <;> rfl

@[simp] theorem Schedule.updated_departureDate :
    (s.updated k status version).departureDate = s.departureDate := by
  unfold Schedule.updated
  split <;> rfl

@[simp] theorem Route.updated_id : (r.updated k isActive).id = r.id := by
  unfold Route.updated
  split <;> rfl

@[simp] theorem Route.updated_trainId : (r.updated k isActive).trainId = r.trainId := by
  unfold Route.updated
  split <;> rfl

end Updated

theorem rowOf_updated (status : ScheduleStatus) (version : Nat) (j : Id) :
    rowOf ((Write.updatedStatus j status version).apply d) k =
      (rowOf d k).map (Schedule.updated j status version) :=
  find?_update Schedule.id (Schedule.updated j status version)
    (fun _ => Schedule.updated_id _) d.schedules k

theorem rowOf_schedule (row : Schedule) :
    rowOf ((Write.schedule row).apply d) k = (rowOf d k).or (rowOf { d with schedules := [row] } k) :=
  List.find?_append

theorem rowOf_other {ws : List Write} (h : ∀ x ∈ ws, Key.schedule k ∉ x.keys) :
    rowOf (applyAll d ws) k = rowOf d k := by
  induction ws generalizing d with
  | nil => rfl
  | cons x ws ih =>
    rw [applyAll_cons, ih (fun y hy => h y (List.mem_cons_of_mem _ hy))]
    have hx := h x List.mem_cons_self
    cases x with
    | schedule row =>
      have hne : row.id ≠ k := fun he => hx (by simp [Write.keys, he])
      rw [rowOf_schedule, show rowOf { d with schedules := [row] } k = none from
        rowOf_eq_none.mpr (by simpa using hne), Option.or_none]
    | updatedStatus j status version =>
      have hne : k ≠ j := fun he => hx (by simp [Write.keys, he])
      rw [rowOf_updated]
      cases hrow : rowOf d k with
      | none => rfl
      | some s => simp [Schedule.updated, rowOf_id hrow, hne]
    | _ => rfl

theorem stopRow_other {ws : List Write} (h : ∀ x ∈ ws, Key.stop k ∉ x.keys) :
    stopRow (applyAll d ws) k = stopRow d k := by
  induction ws generalizing d with
  | nil => rfl
  | cons x ws ih =>
    rw [applyAll_cons, ih (fun y hy => h y (List.mem_cons_of_mem _ hy))]
    have hx := h x List.mem_cons_self
    cases x with
    | stop row =>
      have hne : row.id ≠ k := fun he => hx (by simp [Write.keys, Write.stopKeys, he])
      change (d.routeStations ++ [row]).find? _ = _
      rw [List.find?_append, List.find?_singleton, if_neg (by simpa using hne), Option.or_none]
      rfl
    | deletedStop row =>
      have hne : k ≠ row.id := fun he => hx (by simp [Write.keys, Write.stopKeys, he])
      change (d.routeStations.filter _).find? _ = _
      rw [List.find?_filter]
      apply congrArg (fun p => d.routeStations.find? p)
      funext s
      by_cases hs : s.id = k
      · simp [hs, hne]
      · simp [hs]
    | _ => rfl

end Rows

/-- No two rows of a table have the same id. -/
structure Db.Keys (d : Db) : Prop where
  schedules : (d.schedules.map Schedule.id).Nodup
  routes : (d.routes.map Route.id).Nodup
  routeStations : (d.routeStations.map RouteStation.id).Nodup

def OutboxEvent.ofRoute : OutboxEvent → Bool
  | .scheduleCreated _ | .scheduleStatusChanged _ => false
  | _ => true

/-- What a request to take a route out of service has seen. -/
structure Unreferenced (routeId : Id) (t : AdminTx) (w : AdminWorld) : Prop where
  seen : ∃ route date, t.Answered (.findRoute (.ofId routeId) true) (some route) ∧
    t.Answered (.countFutureActive route.trainId date) (0 : Nat) ∧ date ≤ w.env.now

/-- The transactions that admin-service commits, each with what its checks have seen. -/
inductive Commit : Call → AdminTx → AdminWorld → Prop
  | created {t : AdminTx} {w : AdminWorld} {dto : CreateScheduleRequest} (schedule : Schedule)
      (payload : ScheduleCreatedEvent) (train : Train) (operatingDays : List Nat) (route : Route)
      (routeStation : List StopWithStation)
      (found : t.Answered (.findTrain dto.trainId) (some (train, operatingDays)))
      (operates : getUTCDay (startOfDay dto.departureDate) ∈ operatingDays)
      (foundRoute : t.Answered (.findRoute (.ofTrain dto.trainId) false) (some route))
      (foundStops : t.Answered (.findRouteStations route.id) routeStation)
      (long : 2 ≤ routeStation.length)
      (row : schedule = ⟨schedule.id, dto.trainId, startOfDay dto.departureDate, .active, 1⟩)
      (new : rowOf w.db schedule.id = none) (event : payload.scheduleId = schedule.id ∧
        payload.version = 1 ∧ payload.status = .active)
      (writes : t.writes = [.schedule schedule, .outbox (.scheduleCreated payload)]) :
      Commit (.createSchedule dto) t w
  | unchanged {t : AdminTx} {w : AdminWorld} {id : Id} {status : ScheduleStatus}
      (writes : t.writes = []) : Commit (.updateScheduleStatus id status) t w
  | statusChanged {t : AdminTx} {w : AdminWorld} {id : Id} {status : ScheduleStatus}
      (schedule : Schedule) (payload : ScheduleStatusChangedEvent)
      (row : rowOf w.db id = some schedule) (event : payload.scheduleId = id ∧
        payload.version = schedule.version + 1 ∧ status.contract = some payload.status)
      (writes : t.writes = [.updatedStatus id status (schedule.version + 1),
        .outbox (.scheduleStatusChanged payload)]) : Commit (.updateScheduleStatus id status) t w
  | operatingDays {t : AdminTx} {w : AdminWorld} {trainId : Id} {newDays : List Nat}
      (train : Train) (currentDays deleted : List Nat)
      (found : t.Answered (.findTrain trainId) (some (train, currentDays)))
      (unreferenced : (∀ day ∈ currentDays, day ∈ newDays) ∨ ∃ date dates,
        t.Answered (.futureActiveSchedules trainId date) dates ∧ date ≤ w.env.now ∧
          ∀ x ∈ dates, getUTCDay x ∈ currentDays → getUTCDay x ∈ newDays)
      (writes : t.writes = [.deletedDays trainId deleted, .createdDays trainId newDays]) :
      Commit (.updateTrainOperatingDays trainId newDays) t w
  | routeStatus {t : AdminTx} {w : AdminWorld} {routeId : Id} {isActive : Bool}
      (event : OutboxEvent) (ofRoute : event.ofRoute = true)
      (unreferenced : isActive = false → Unreferenced routeId t w)
      (writes : t.writes = [.route routeId isActive, .outbox event]) :
      Commit (.updateRouteStatus routeId isActive) t w
  | routeDeleted {t : AdminTx} {w : AdminWorld} {routeId : Id} (event : OutboxEvent)
      (ofRoute : event.ofRoute = true) (unreferenced : Unreferenced routeId t w)
      (writes : t.writes = [.route routeId false, .outbox event]) :
      Commit (.deleteRoute routeId) t w
  | stationAdded {t : AdminTx} {w : AdminWorld} {routeId : Id} {dto : AddStationToRouteRequest}
      (row : RouteStation) (event : OutboxEvent) (ofRoute : event.ofRoute = true)
      (new : stopRow w.db row.id = none) (writes : t.writes = [.stop row, .outbox event]) :
      Commit (.addStationToRoute routeId dto) t w
  | stationRemoved {t : AdminTx} {w : AdminWorld} {routeStationId : Id}
      (stop : StopWithStation) (route : Route) (routeStation : List StopWithStation)
      (row : RouteStation) (event : OutboxEvent) (ofRoute : event.ofRoute = true)
      (found : t.Answered (.findRouteStation routeStationId) (some stop))
      (foundRoute : t.Answered (.findRoute (.ofId stop.1.routeId) true) (some route))
      (foundStops : t.Answered (.findRouteStations route.id) routeStation)
      (long : 2 < routeStation.length) (deleted : row.id = routeStationId)
      (writes : t.writes = [.deletedStop row, .outbox event]) :
      Commit (.removeRouteStation routeStationId) t w

end RailwayBooking.AdminService
