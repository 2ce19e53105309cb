import RailwayBooking.AdminService.ScheduleEvents
import RailwayBooking.AdminService.ValidSchedules
import RailwayBooking.ScheduleService.Announcements

namespace RailwayBooking.Integration

open Concurrency AdminService

section Deliveries

/-- What inventory-service reads of the payload. -/
def createdMessage (e : ScheduleCreatedEvent) : ScheduleService.ScheduleCreated where
  scheduleId := e.scheduleId
  trainCategory := e.trainCategory
  status := e.status
  version := e.version
  stops := e.stops.map (fun stop => ⟨stop.stationId, stop.stopNumber, stop.distanceFromStart⟩)
  coaches := e.coaches.map (fun coach => ⟨coach.coachNumber, coach.coachType, coach.seats⟩)

def statusChangedMessage (e : ScheduleStatusChangedEvent) : ScheduleService.ScheduleStatusChanged :=
  ⟨e.scheduleId, e.status, e.version⟩

/-- The delivery of an event to its consumer in inventory-service. -/
def delivery : ScheduleEvent → ScheduleService.Call
  | .created payload => .scheduleCreated (.event (createdMessage payload))
  | .statusChanged payload => .scheduleStatusChanged (.event (statusChangedMessage payload))

/-- The schedule that a delivery is about. -/
def about : ScheduleService.Call → Option Id
  | .scheduleCreated (.event e) => some e.scheduleId
  | .scheduleStatusChanged (.event e) => some e.scheduleId
  | _ => none

/-- Deliveries only, and about schedule `k` only of the given events. -/
def Delivers (events : List ScheduleEvent) (k : Id) (c : ScheduleService.Call) : Prop :=
  (∀ c', c ≠ .inventory c') ∧ (about c = some k → ∃ e ∈ events, c = delivery e)

/-- The runs in which no change of the schedule's status is handled before it has a row. -/
def metRuns (events : List ScheduleEvent) (k : Id) : Scope ScheduleService.machine where
  start c _ := Delivers events k c
  allow c _ w s := ∀ h e, c = .scheduleStatusChanged (.event e) →
    s = .sql (some h) (.findByScheduleId k) → ScheduleService.rowOf w.db k ≠ none

/-- Inventory has the version of the latest event, and is active where the schedule is. -/
def ProjectionAgrees (a : Db) (s : Schedule) (d : ScheduleService.Db) : Prop :=
  ∃ row last, ScheduleService.rowOf d s.id = some row ∧ (eventsOf a s.id).getLast? = some last ∧
    row.version = last.version ∧ (row.status = .active ↔ s.status = .active)

end Deliveries

section History

variable {a : Db} {s : Schedule}

theorem scheduleId_of_mem {k : Id} {e : ScheduleEvent} (h : e ∈ eventsOf a k) : e.scheduleId = k :=
  of_decide_eq_true (List.mem_filter.mp h).2

theorem exists_announcements (h : Recorded (eventsOf a s.id) s) :
    ∃ H : ScheduleService.Announcements, H.id = s.id ∧
      H.deliveries = (eventsOf a s.id).map delivery ∧
      H.rows = (eventsOf a s.id).map
        (fun e => ⟨ScheduleService.foldStatus e.status, e.version⟩) := by
  obtain ⟨payload, changes, hevents⟩ := h.created
  have hid : ∀ e ∈ ScheduleEvent.created payload :: changes.map .statusChanged,
      e.scheduleId = s.id := by
    intro e he
    rw [← hevents] at he
    exact scheduleId_of_mem he
  have hversions := h.versions
  rw [hevents] at hversions
  have hlow : ∀ e ∈ ScheduleEvent.created payload :: changes.map .statusChanged, 1 ≤ e.version := by
    intro e he
    have hmem := List.mem_map_of_mem (f := ScheduleEvent.version) he
    rw [hversions] at hmem
    exact (List.mem_range'_1.mp hmem).1
  have hfirst : payload.version = 1 := by
    cases hv : s.version with
    | zero =>
      rw [hv] at hversions
      cases hversions
    | succ n =>
      rw [hv, List.range'_succ] at hversions
      exact (List.cons.inj hversions).1
  refine ⟨⟨createdMessage payload, changes.map statusChangedMessage, ?_, ?_⟩, ?_, ?_, ?_⟩
  · intro m hm
    obtain ⟨e, he, rfl⟩ := List.mem_map.mp hm
    exact (hid _ (List.mem_cons_of_mem _ (List.mem_map_of_mem he))).trans
      (hid _ List.mem_cons_self).symm
  · intro m hm
    obtain ⟨e, he, rfl⟩ := List.mem_map.mp hm
    change payload.version ≤ e.version
    rw [hfirst]
    exact hlow _ (List.mem_cons_of_mem _ (List.mem_map_of_mem he))
  · exact hid _ List.mem_cons_self
  · rw [hevents, ScheduleService.Announcements.deliveries, List.map_cons, List.map_map, List.map_map]
    rfl
  · rw [hevents, ScheduleService.Announcements.rows, List.map_cons, List.map_map, List.map_map]
    rfl

theorem row_latest (h : Recorded (eventsOf a s.id) s) {row : ScheduleService.ScheduleInventory}
    {last : ScheduleEvent} (hlast : (eventsOf a s.id).getLast? = some last)
    (hmem : row ∈ (eventsOf a s.id).map
      (fun e => (⟨ScheduleService.foldStatus e.status, e.version⟩ : ScheduleService.ScheduleInventory)))
    (hmax : ∀ e ∈ eventsOf a s.id, e.version ≤ row.version) :
    row = ⟨ScheduleService.foldStatus last.status, last.version⟩ := by
  obtain ⟨e, he, rfl⟩ := List.mem_map.mp hmem
  have hnodup : ((eventsOf a s.id).map ScheduleEvent.version).Nodup := by
    rw [h.versions]
    exact List.nodup_range'
  obtain ⟨pre, hpre⟩ := List.getLast?_eq_some_iff.mp hlast
  have hversions := h.versions
  rw [hpre, List.map_append, List.map_singleton] at hversions
  -- the last version is the highest
  have hhigh : last.version = s.version := by
    cases hv : s.version with
    | zero =>
      rw [hv] at hversions
      simp at hversions
    | succ n =>
      rw [hv, List.range'_concat] at hversions
      have hone := (List.append_inj' hversions rfl).2
      rw [List.cons.inj hone |>.1]
      omega
  have hle : e.version ≤ last.version := by
    have hin := List.mem_map_of_mem (f := ScheduleEvent.version) he
    rw [h.versions, List.mem_range'_1] at hin
    omega
  have hge := hmax last (List.mem_of_getLast? hlast)
  have hsame : e = last :=
    List.inj_on_of_nodup_map hnodup he (List.mem_of_getLast? hlast) (Nat.le_antisymm hle hge)
  rw [hsame]

theorem active_fold {status : ScheduleService.ScheduleStatus} (h : s.status.contract = some status) :
    (ScheduleService.foldStatus status = .active ↔ s.status = .active) ↔ s.status ≠ .draft := by
  generalize s.status = r at h
  cases r with
  | scheduled | completed => cases h
  | draft | active | cancelled =>
    cases h
    decide

end History

theorem delivers_of {events : List ScheduleEvent} {k : Id} {H : ScheduleService.Announcements}
    (hid : H.id = k) (hdel : H.deliveries = events.map delivery) {c : ScheduleService.Call}
    (h : Delivers events k c) : H.Delivers c := by
  have hmem : about c = some H.id → c ∈ H.deliveries := by
    intro hc
    rw [hid] at hc
    obtain ⟨e, he, rfl⟩ := h.2 hc
    rw [hdel]
    exact List.mem_map_of_mem he
  cases c with
  | inventory c => exact h.1 c rfl
  | scheduleCreated m =>
    rintro e rfl hk
    obtain heq | hc := List.mem_cons.mp (hmem (congrArg some hk))
    · cases heq
      rfl
    · obtain ⟨_, _, heq⟩ := List.mem_map.mp hc
      cases heq
  | scheduleStatusChanged m =>
    rintro e rfl hk
    obtain heq | hc := List.mem_cons.mp (hmem (congrArg some hk))
    · cases heq
    · obtain ⟨_, hc, heq⟩ := List.mem_map.mp hc
      cases heq
      exact hc

/-- When all events of a schedule have been handled, each change of status after the row
was there, the services agree, unless the schedule is a draft. -/
theorem projectionAgrees_iff_of_met {tables : Db} {now now' : Nat} {a : Pool AdminService.machine}
    {p : Pool ScheduleService.machine} {s : Schedule} (hk : tables.Keys) (hr : tables.Recorded)
    (ha : Reachable (Scope.calls fun _ => True) (AdminService.start tables now) a)
    (hs : s ∈ a.world.db.schedules)
    (hp : Reachable (metRuns (eventsOf a.world.db s.id) s.id) (ScheduleService.start now') p)
    (hall : ∀ e ∈ eventsOf a.world.db s.id, p.Handled (delivery e)) :
    ProjectionAgrees a.world.db s p.world.db ↔ s.status ≠ .draft := by
  have hrow := rowOf_of_mem (keys_reachable hk ha) hs
  have hrec := (recorded_reachable hk hr ha).rows s.id s hrow
  obtain ⟨last, hlast, hstatus⟩ := hrec.latest
  obtain ⟨H, hid, hdel, hrows⟩ := exists_announcements hrec
  have hmet : Reachable H.metRuns (ScheduleService.start now') p := by
    refine hp.mono ?_ ?_
    · intro c w hc
      exact delivers_of hid hdel hc
    · intro p act hperm
      cases act with
      | run i ch =>
        intro c st k hth h e hc hst
        rw [hid] at hst ⊢
        exact hperm c st k hth h e hc hst
      | crash i => trivial
      | tick d => trivial
  obtain ⟨row, hmem, hrow', hmax⟩ :=
    ScheduleService.Announcements.latest_of_handled hmet (fun c hc => by
      rw [hdel] at hc
      obtain ⟨e, he, rfl⟩ := List.mem_map.mp hc
      exact hall e he)
  rw [hid] at hrow'
  have hlatest : row = ⟨ScheduleService.foldStatus last.status, last.version⟩ := by
    rw [hrows] at hmem
    refine row_latest hrec hlast hmem fun e he => ?_
    refine hmax ⟨ScheduleService.foldStatus e.status, e.version⟩ ?_
    rw [hrows]
    exact List.mem_map_of_mem (f := fun e : ScheduleEvent =>
      (⟨ScheduleService.foldStatus e.status, e.version⟩ : ScheduleService.ScheduleInventory)) he
  rw [← active_fold hstatus]
  constructor
  · rintro ⟨row', last', hfound, -, -, hactive⟩
    rw [hrow', hlatest] at hfound
    cases hfound
    exact hactive
  · intro hactive
    refine ⟨row, last, hrow', hlast, ?_, ?_⟩
    · rw [hlatest]
    · rw [hlatest]
      exact hactive

section Runs

def deliveryTest : ScheduleEvent → ScheduleService.Call → Bool
  | .created payload, .scheduleCreated (.event e) => e = createdMessage payload
  | .statusChanged payload, .scheduleStatusChanged (.event e) => e = statusChangedMessage payload
  | _, _ => false

theorem eq_of_deliveryTest {e : ScheduleEvent} (c : ScheduleService.Call)
    (h : deliveryTest e c = true) : c = delivery e := by
  unfold deliveryTest at h
  split at h
  · rw [of_decide_eq_true h]
    rfl
  · rw [of_decide_eq_true h]
    rfl
  · cases h

theorem handled_of_all {events : List ScheduleEvent} {p : Pool ScheduleService.machine}
    (h : events.all (fun e => p.handles (deliveryTest e)) = true) :
    ∀ e ∈ events, p.Handled (delivery e) := by
  intro e he
  exact Pool.handled_of_handles eq_of_deliveryTest (List.all_eq_true.mp h e he)

theorem delivers_deliveries {events deliveries : List ScheduleEvent} {k : Id}
    {c : ScheduleService.Call} (h : ∀ e ∈ deliveries, e ∈ events)
    (hc : c ∈ deliveries.map delivery) : Delivers events k c := by
  obtain ⟨e, he, rfl⟩ := List.mem_map.mp hc
  refine ⟨fun c' => ?_, fun _ => ⟨e, h e he, rfl⟩⟩
  cases e with
  | created | statusChanged => nofun

def metTest (k : Id) (c : ScheduleService.Call) (w : ScheduleService.ScheduleWorld) :
    Stmt ScheduleService.scheduleService → Bool
  | .sql (some _) (.findByScheduleId j) =>
    match c with
    | .scheduleStatusChanged (.event _) => j ≠ k || (ScheduleService.rowOf w.db k).isSome
    | _ => true
  | _ => true

theorem allows_of_metTest {events : List ScheduleEvent} {k : Id} {c : ScheduleService.Call}
    {t : Option (Tx ScheduleService.scheduleService)} {w : ScheduleService.ScheduleWorld}
    {s : Stmt ScheduleService.scheduleService} (h : metTest k c w s = true) :
    (metRuns events k).allow c t w s := by
  rintro t e rfl rfl hrow
  simp [metTest, hrow] at h

def sampleCreated : ScheduleCreatedEvent where
  eventId := 1
  scheduleId := 0
  trainId := 1
  trainNumber := "12301"
  trainName := "Rajdhani Express"
  routeId := 1
  trainCategory := .rajdhani
  departureDate := 10 * millisecondsPerDay
  status := .active
  version := 1
  operatingDays := [0, 1]
  stops := [⟨1, "NDLS", "New Delhi", 1, none, some 0, 0⟩,
    ⟨2, "CNB", "Kanpur", 2, some 300, some 310, 440⟩,
    ⟨3, "PNBE", "Patna", 3, some 720, none, 1000⟩]
  coaches := []

def sampleCancelled : ScheduleStatusChangedEvent :=
  ⟨5, 0, 1, 1, 10 * millisecondsPerDay, .cancelled, 2⟩

def sampleReactivated : ScheduleStatusChangedEvent :=
  ⟨11, 0, 1, 1, 10 * millisecondsPerDay, .active, 3⟩

/-- The schedule is cancelled and taken up again; its creation is delivered twice, and the
last change before the first. -/
theorem projectionAgrees_reordered : ∃ a s p,
    Reachable (Scope.calls fun _ => True) (AdminService.start sampleTables 0) a ∧
      s ∈ a.world.db.schedules ∧ s.version = 3 ∧
        Reachable (metRuns (eventsOf a.world.db s.id) s.id) (ScheduleService.start 0) p ∧
          p.threads.length = 4 ∧ ProjectionAgrees a.world.db s p.world.db := by
  let events : List ScheduleEvent :=
    [.created sampleCreated, .statusChanged sampleCancelled, .statusChanged sampleReactivated]
  let deliveries : List ScheduleEvent :=
    [.created sampleCreated, .statusChanged sampleReactivated, .created sampleCreated,
      .statusChanged sampleCancelled]
  obtain ⟨a, ha, ht⟩ := exists_reachable (Scope.calls fun _ => True)
    (AdminService.start sampleTables 0) (fun _ _ => true)
    (inTurn 30 [.createSchedule ⟨1, sampleDate⟩, .updateScheduleStatus 0 .cancelled,
      .updateScheduleStatus 0 .active])
    (fun a => decide (a.world.db.schedules = [⟨0, 1, 10 * millisecondsPerDay, .active, 3⟩] ∧
      eventsOf a.world.db 0 = events))
    (fun p a _ => permits_calls p a) (fun _ _ _ _ _ => trivial) (by decide +kernel)
  obtain ⟨hschedules, hevents⟩ := of_decide_eq_true ht
  have hs : (⟨0, 1, 10 * millisecondsPerDay, .active, 3⟩ : Schedule) ∈ a.world.db.schedules := by
    rw [hschedules]
    exact List.mem_singleton_self _
  obtain ⟨p, hp, ht'⟩ := exists_reachable (metRuns events 0) (ScheduleService.start 0)
    (guards (metTest 0))
    (inTurn 30 (deliveries.map delivery))
    (fun p => decide (p.threads.length = 4) && events.all (fun e => p.handles (deliveryTest e)))
    (permits_guards fun _ _ _ _ h => allows_of_metTest h)
    (fun m hm c hc _ => delivers_deliveries (by decide) (started_inTurn hm hc))
    (by decide +kernel)
  obtain ⟨hlength, hhandled⟩ := Bool.and_eq_true_iff.mp ht'
  refine ⟨a, _, p, ha, hs, rfl, by rw [hevents]; exact hp, of_decide_eq_true hlength, ?_⟩
  refine (projectionAgrees_iff_of_met sampleTables_keys (recorded_empty rfl rfl) ha hs
    (by rw [hevents]; exact hp) ?_).mpr (by decide)
  rw [hevents]
  exact handled_of_all hhandled

/-- The schedule is cancelled at once; the change arrives before the creation and goes to
the dead letters. -/
theorem not_projectionAgrees : ¬ ∀ (tables : Db) (now now' : Nat) (a : Pool AdminService.machine)
    (p : Pool ScheduleService.machine) (s : Schedule), tables.Keys → tables.Recorded →
    Reachable (Scope.calls fun _ => True) (AdminService.start tables now) a →
      s ∈ a.world.db.schedules →
        Reachable (Scope.calls (Delivers (eventsOf a.world.db s.id) s.id))
          (ScheduleService.start now') p →
          (∀ e ∈ eventsOf a.world.db s.id, p.Handled (delivery e)) →
            ProjectionAgrees a.world.db s p.world.db := by
  intro hall
  let events : List ScheduleEvent := [.created sampleCreated, .statusChanged sampleCancelled]
  let deliveries : List ScheduleEvent := [.statusChanged sampleCancelled, .created sampleCreated]
  obtain ⟨a, ha, ht⟩ := exists_reachable (Scope.calls fun _ => True)
    (AdminService.start sampleTables 0) (fun _ _ => true)
    (inTurn 30 [.createSchedule ⟨1, sampleDate⟩, .updateScheduleStatus 0 .cancelled])
    (fun a => decide (a.world.db.schedules = [⟨0, 1, 10 * millisecondsPerDay, .cancelled, 2⟩] ∧
      eventsOf a.world.db 0 = events))
    (fun p a _ => permits_calls p a) (fun _ _ _ _ _ => trivial) (by decide +kernel)
  obtain ⟨hschedules, hevents⟩ := of_decide_eq_true ht
  have hs : (⟨0, 1, 10 * millisecondsPerDay, .cancelled, 2⟩ : Schedule) ∈ a.world.db.schedules := by
    rw [hschedules]
    exact List.mem_singleton_self _
  obtain ⟨p, hp, ht'⟩ := exists_reachable (Scope.calls (Delivers events 0)) (ScheduleService.start 0)
    (fun _ _ => true) (inTurn 30 (deliveries.map delivery))
    (fun p => decide (ScheduleService.rowOf p.world.db 0 = some ⟨.active, 1⟩) &&
      events.all (fun e => p.handles (deliveryTest e)))
    (fun p a _ => permits_calls p a)
    (fun m hm c hc _ => delivers_deliveries (by decide) (started_inTurn hm hc)) (by decide +kernel)
  obtain ⟨hrow, hhandled⟩ := Bool.and_eq_true_iff.mp ht'
  have hagrees := hall sampleTables 0 0 a p _ sampleTables_keys (recorded_empty rfl rfl) ha hs
    (by rw [hevents]; exact hp) (by rw [hevents]; exact handled_of_all hhandled)
  obtain ⟨row, last, hfound, hlast, hversion, -⟩ := hagrees
  rw [of_decide_eq_true hrow] at hfound
  rw [hevents] at hlast
  cases hfound
  cases hlast
  cases hversion

end Runs

end RailwayBooking.Integration
