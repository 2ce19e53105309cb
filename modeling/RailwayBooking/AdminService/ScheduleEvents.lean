import RailwayBooking.Concurrency.Schedule
import RailwayBooking.AdminService.Sound

namespace RailwayBooking.AdminService

open Concurrency

/-- An event about a schedule. -/
inductive ScheduleEvent
  | created (payload : ScheduleCreatedEvent)
  | statusChanged (payload : ScheduleStatusChangedEvent)
  deriving DecidableEq

namespace ScheduleEvent

def scheduleId : ScheduleEvent → Id
  | .created payload => payload.scheduleId
  | .statusChanged payload => payload.scheduleId

def version : ScheduleEvent → Nat
  | .created payload => payload.version
  | .statusChanged payload => payload.version

def status : ScheduleEvent → ScheduleService.ScheduleStatus
  | .created payload => payload.status
  | .statusChanged payload => payload.status

end ScheduleEvent

def OutboxEvent.schedule? : OutboxEvent → Option ScheduleEvent
  | .scheduleCreated payload => some (.created payload)
  | .scheduleStatusChanged payload => some (.statusChanged payload)
  | _ => none

/-- The events of a schedule, in the order in which they were inserted. -/
def eventsOf (d : Db) (k : Id) : List ScheduleEvent :=
  (d.outbox.filterMap OutboxEvent.schedule?).filter (fun e => e.scheduleId = k)

/-- The events tell the history of the row: its creation, then its changes with one version
after the other, up to the status it has. -/
structure Recorded (events : List ScheduleEvent) (s : Schedule) : Prop where
  created : ∃ payload, ∃ changes : List ScheduleStatusChangedEvent,
    events = .created payload :: changes.map .statusChanged
  versions : events.map ScheduleEvent.version = List.range' 1 s.version
  latest : ∃ e, events.getLast? = some e ∧ s.status.contract = some e.status

/-- Every row is recorded, and nothing is recorded of others. -/
structure Db.Recorded (d : Db) : Prop where
  rows : ∀ k s, rowOf d k = some s → AdminService.Recorded (eventsOf d k) s
  others : ∀ k, rowOf d k = none → eventsOf d k = []

section Recording

variable {d : Db} {k : Id}

theorem recorded_empty (h : d.schedules = []) (ho : d.outbox = []) : d.Recorded where
  rows k s hs := by
    rw [rowOf, h] at hs
    cases hs
  others k _ := by
    rw [eventsOf, ho]
    rfl

theorem eventsOf_outbox (event : OutboxEvent) :
    eventsOf ((Write.outbox event).apply d) k =
      eventsOf d k ++ event.schedule?.toList.filter (fun e => e.scheduleId = k) := by
  change ((d.outbox ++ [event]).filterMap OutboxEvent.schedule?).filter _ = _
  rw [List.filterMap_append, List.filter_append]
  congr 2

theorem eventsOf_recording {event : OutboxEvent} {e : ScheduleEvent}
    (h : event.schedule? = some e) (k : Id) :
    eventsOf ((Write.outbox event).apply d) k =
      eventsOf d k ++ if e.scheduleId = k then [e] else [] := by
  rw [eventsOf_outbox, h, Option.toList_some]
  by_cases hk : e.scheduleId = k
  · simp [hk]
  · simp [hk]

theorem Db.Recorded.same {d' : Db} (h : d.Recorded) (hs : d'.schedules = d.schedules)
    (he : ∀ k, eventsOf d' k = eventsOf d k) : d'.Recorded := by
  have hrow : ∀ k, rowOf d' k = rowOf d k := by
    intro k
    rw [rowOf, hs]
    rfl
  refine ⟨fun k s hk => ?_, fun k hk => ?_⟩
  · rw [he]
    exact h.rows k s (by rw [← hrow]; exact hk)
  · rw [he]
    exact h.others k (by rw [← hrow]; exact hk)

theorem eventsOf_ofRoute {event : OutboxEvent} (h : event.ofRoute = true) (k : Id) :
    eventsOf ((Write.outbox event).apply d) k = eventsOf d k := by
  rw [eventsOf_outbox]
  cases event with
  | scheduleCreated | scheduleStatusChanged => cases h
  | _ => exact List.append_nil _

theorem Recorded.first {s : Schedule} (h : s.version = 1) {payload : ScheduleCreatedEvent}
    (hv : payload.version = 1) (hs : s.status.contract = some payload.status) :
    Recorded [.created payload] s := by
  refine ⟨⟨payload, [], rfl⟩, ?_, .created payload, rfl, hs⟩
  rw [List.map_singleton, ScheduleEvent.version, hv, h]
  rfl

theorem Recorded.next {events : List ScheduleEvent} {s : Schedule} (h : Recorded events s)
    {payload : ScheduleStatusChangedEvent} {status : ScheduleStatus}
    (hv : payload.version = s.version + 1) (hs : status.contract = some payload.status) :
    Recorded (events ++ [.statusChanged payload])
      { s with status := status, version := s.version + 1 } := by
  obtain ⟨created, changes, hevents⟩ := h.created
  refine ⟨⟨created, changes ++ [payload], ?_⟩, ?_, .statusChanged payload, ?_, hs⟩
  · rw [hevents, List.map_append]
    rfl
  · rw [List.map_append, h.versions, List.range'_concat, List.map_singleton, ScheduleEvent.version,
      hv]
    simp [Nat.add_comm]
  · exact List.getLast?_concat

theorem Db.Recorded.create (h : d.Recorded) {schedule : Schedule} {payload : ScheduleCreatedEvent}
    (hnew : rowOf d schedule.id = none) (hid : payload.scheduleId = schedule.id)
    (hfirst : AdminService.Recorded [.created payload] schedule) :
    Db.Recorded ((Write.outbox (.scheduleCreated payload)).apply
      ((Write.schedule schedule).apply d)) := by
  have hrows : ∀ k, rowOf ((Write.outbox (.scheduleCreated payload)).apply
      ((Write.schedule schedule).apply d)) k =
        (rowOf d k).or (if schedule.id = k then some schedule else none) := by
    intro k
    change rowOf ((Write.schedule schedule).apply d) k = _
    rw [rowOf_schedule]
    by_cases hk : schedule.id = k
    · simp [rowOf, hk]
    · simp [rowOf, hk]
  have hevents : ∀ k, eventsOf ((Write.outbox (.scheduleCreated payload)).apply
      ((Write.schedule schedule).apply d)) k =
        eventsOf d k ++ if schedule.id = k then [.created payload] else [] := by
    intro k
    rw [eventsOf_recording rfl, ScheduleEvent.scheduleId, hid]
    rfl
  refine ⟨fun k s hs => ?_, fun k hs => ?_⟩
  · rw [hrows] at hs
    rw [hevents]
    by_cases hk : schedule.id = k
    · rw [if_pos hk, ← hk, hnew, Option.none_or] at hs
      rw [if_pos hk, ← hk, h.others _ hnew, ← Option.some.inj hs]
      exact hfirst
    · rw [if_neg hk, Option.or_none] at hs
      rw [if_neg hk, List.append_nil]
      exact h.rows k s hs
  · rw [hrows, Option.or_eq_none_iff] at hs
    rw [hevents, h.others k hs.1]
    split at hs
    · cases hs.2
    · next hk => rw [if_neg hk]; rfl

theorem Db.Recorded.update (h : d.Recorded) {id : Id} {status : ScheduleStatus}
    {schedule : Schedule} {payload : ScheduleStatusChangedEvent}
    (hrow : rowOf d id = some schedule) (hid : payload.scheduleId = id)
    (hversion : payload.version = schedule.version + 1)
    (hstatus : status.contract = some payload.status) :
    Db.Recorded ((Write.outbox (.scheduleStatusChanged payload)).apply
      ((Write.updatedStatus id status (schedule.version + 1)).apply d)) := by
  have hrows : ∀ k, rowOf ((Write.outbox (.scheduleStatusChanged payload)).apply
      ((Write.updatedStatus id status (schedule.version + 1)).apply d)) k =
        (rowOf d k).map (Schedule.updated id status (schedule.version + 1)) :=
    fun k => rowOf_updated _ _ _
  have hevents : ∀ k, eventsOf ((Write.outbox (.scheduleStatusChanged payload)).apply
      ((Write.updatedStatus id status (schedule.version + 1)).apply d)) k =
        eventsOf d k ++ if id = k then [.statusChanged payload] else [] := by
    intro k
    rw [eventsOf_recording rfl, ScheduleEvent.scheduleId, hid]
    rfl
  refine ⟨fun k s hs => ?_, fun k hs => ?_⟩
  · rw [hrows, Option.map_eq_some_iff] at hs
    obtain ⟨s₀, hs₀, rfl⟩ := hs
    rw [hevents]
    by_cases hk : id = k
    · rw [← hk, hrow] at hs₀
      cases hs₀
      rw [if_pos hk, ← hk, Schedule.updated, if_pos (rowOf_id hrow)]
      exact (h.rows id schedule hrow).next hversion hstatus
    · rw [if_neg hk, List.append_nil, Schedule.updated,
        if_neg (fun he => hk (he.symm.trans (rowOf_id hs₀)))]
      exact h.rows k s₀ hs₀
  · rw [hrows, Option.map_eq_none_iff] at hs
    have hk : id ≠ k := by
      rintro rfl
      rw [hrow] at hs
      cases hs
    rw [hevents, h.others k hs, if_neg hk]
    rfl

end Recording

variable {c : Call} {t : AdminTx} {w : AdminWorld}

theorem Commit.recorded (h : Commit c t w) (hr : w.db.Recorded) : (t.view w.db).Recorded := by
  rw [view_eq]
  cases h with
  | created schedule payload _ _ _ _ _ _ _ _ _ hrow hnew hevent hw =>
    obtain ⟨hid, hversion, hstatus⟩ := hevent
    have hfirst : AdminService.Recorded [.created payload] schedule := by
      rw [hrow]
      exact .first rfl hversion (by rw [hstatus]; rfl)
    rw [hw]
    exact hr.create hnew hid hfirst
  | unchanged hw =>
    rw [hw]
    exact hr
  | statusChanged schedule payload hrow hevent hw =>
    obtain ⟨hid, hversion, hstatus⟩ := hevent
    rw [hw]
    exact hr.update hrow hid hversion hstatus
  | operatingDays _ _ _ _ _ hw =>
    rw [hw]
    exact hr.same rfl fun _ => rfl
  | routeStatus _ hroute _ hw | routeDeleted _ hroute _ hw | stationAdded _ _ hroute _ hw
  | stationRemoved _ _ _ _ _ hroute _ _ _ _ _ hw =>
    rw [hw]
    exact hr.same rfl (eventsOf_ofRoute hroute)

theorem lasting_recorded : Lasting discipline (fun w => w.db.Recorded) where
  commit _ _ _ _ _ hc _ h := hc.2.recorded h
  drift _ _ _ h := h

theorem keys_reachable {d : Db} {now : Nat} {p : Pool machine} (hk : d.Keys)
    (h : Reachable (Scope.calls fun _ => True) (start d now) p) : p.world.db.Keys :=
  (Reachable.wellFormed lawful sound ⟨fun _ _ _ => trivial, fun _ _ _ _ _ => trivial⟩
    (wellFormed_init hk : WellFormed discipline (start d now)) h).inv

theorem rowOf_of_mem {d : Db} (hk : d.Keys) {s : Schedule} (hs : s ∈ d.schedules) :
    rowOf d s.id = some s := by
  cases hrow : rowOf d s.id with
  | none => exact absurd rfl (rowOf_eq_none.mp hrow s hs)
  | some s' => rw [List.inj_on_of_nodup_map hk.schedules hs (rowOf_mem hrow) (rowOf_id hrow).symm]

/-- In every run of admin-service the events of a schedule record its row. -/
theorem recorded_reachable {d : Db} {now : Nat} {p : Pool machine} (hk : d.Keys) (hr : d.Recorded)
    (h : Reachable (Scope.calls fun _ => True) (start d now) p) : p.world.db.Recorded :=
  Reachable.keeps lawful sound ⟨fun _ _ _ => trivial, fun _ _ _ _ _ => trivial⟩
    (wellFormed_init hk : WellFormed discipline (start d now)) (lasting_recorded.keeps _) hr h

end RailwayBooking.AdminService
