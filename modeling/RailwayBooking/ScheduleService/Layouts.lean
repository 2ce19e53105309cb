import RailwayBooking.ScheduleService.Versions

namespace RailwayBooking.ScheduleService

open Concurrency InventoryService

def stopsOf (d : Db) (k : Id) : List RouteStop :=
  d.tables.stops.filter (fun s => s.scheduleId = k)

/-- The stops of a schedule that has a row are those of a delivered creation. Without a row
there are none. -/
structure Laid (calls : Call → Prop) (d : Db) (k : Id) : Prop where
  stands : rowOf d k ≠ none → ∃ e, calls (.scheduleCreated (.event e)) ∧ e.scheduleId = k ∧
    stopsOf d k = routeStopsData e
  bare : rowOf d k = none → stopsOf d k = []

def SeatedAll (c : Call) (t : ScheduleTx) : Prop :=
  ∀ rows, .seats rows ∈ t.writes → ∃ e ids, c = .scheduleCreated (.event e) ∧
    ids.length = (coachSeats e).length ∧ rows = seatInventoriesData e ids

/-- What a delivery commits. -/
inductive Lays (c : Call) (t : ScheduleTx) (w : ScheduleWorld) : Prop
  | kept (writes : t.writes = [])
  | changed (k : Id) (row : ScheduleInventory) (event : ScheduleOutboxEvent)
      (stands : rowOf w.db k ≠ none) (writes : t.writes = [.schedule k row, .outbox event])
  | laid (x : Projection) (call : c = .scheduleCreated (.event x.created))
      (free : x.deleted = none → rowOf w.db x.created.scheduleId = none)
      (writes : t.writes = x.writes)

/-- Deliveries of these events. -/
def deliveries (calls : Call → Prop) : Scope machine :=
  Scope.calls fun c => calls c ∧ c.aboutSchedules = true

def Layouts.discipline (calls : Call → Prop) : Discipline machine :=
  delivered calls (fun w => (∀ k, Laid calls w.db k) ∧ ∀ x ∈ w.log, SeatedAll x.1 x.2)
    (fun _ _ _ => True) Lays

theorem deliveries_within (calls : Call → Prop) :
    (deliveries calls).Within (Layouts.discipline calls) where
  start _ _ h := h
  allow _ _ _ _ _ := trivial

section Writes

variable {d : Db} {k : Id}

theorem scheduleId_of_mem_stopsData {e : ScheduleCreated} {s : RouteStop}
    (h : s ∈ routeStopsData e) : s.scheduleId = e.scheduleId := by
  obtain ⟨stop, _, rfl⟩ := List.mem_map.mp h
  rfl

/-- A projection takes the stops of its own schedule away when it deletes its row, and puts
those of the event. -/
theorem stopsOf_writes (x : Projection) :
    stopsOf (applyAll d x.writes) k =
      if k = x.created.scheduleId then
        (if x.deleted = none then stopsOf d k else []) ++ routeStopsData x.created
      else stopsOf d k := by
  have hown : ∀ j, j ≠ x.created.scheduleId →
      (routeStopsData x.created).filter (fun s => s.scheduleId = j) = [] := by
    intro j hj
    apply List.filter_eq_nil_iff.mpr
    intro s hs hk
    rw [scheduleId_of_mem_stopsData hs] at hk
    exact hj (of_decide_eq_true hk).symm
  have hall : (routeStopsData x.created).filter
      (fun s => s.scheduleId = x.created.scheduleId) = routeStopsData x.created :=
    List.filter_eq_self.mpr fun s hs => decide_eq_true (scheduleId_of_mem_stopsData hs)
  unfold Projection.writes
  cases hd : x.deleted with
  | none =>
    change (d.tables.stops ++ routeStopsData x.created).filter _ = _
    rw [List.filter_append]
    split
    · next hk =>
      rw [hk, hall, if_pos rfl]
      rfl
    · next hk =>
      rw [hown k hk, List.append_nil]
      rfl
  | some ids =>
    change (d.tables.stops.filter (fun s => s.scheduleId ≠ x.created.scheduleId) ++
      routeStopsData x.created).filter _ = _
    rw [List.filter_append, List.filter_filter]
    split
    · next hk =>
      rw [hk, hall, if_neg (by simp)]
      congr 1
      simp
    · next hk =>
      rw [hown k hk, List.append_nil]
      apply List.filter_congr
      intro s _
      by_cases hs : s.scheduleId = k
      · simp [hs, hk]
      · simp [hs]

theorem mem_seats_writes {x : Projection} {rows : List SeatInventory}
    (h : .seats rows ∈ x.writes) : rows = seatInventoriesData x.created x.ids := by
  obtain h | h := List.mem_append.mp h
  · obtain ⟨ids, _, heq⟩ := Option.map_eq_some_iff.mp (Option.mem_toList.mp h)
    cases heq
  · simpa using h

end Writes

namespace Layouts

variable {calls : Call → Prop} {i : Nat} {c : Call} {h : Nat} {t : ScheduleTx}
  {ts : Stack scheduleService} {w : ScheduleWorld}

theorem Lays.seatedAll (hc : Lays c t w) : SeatedAll c t := by
  intro rows hrows
  cases hc with
  | kept hw =>
    rw [hw] at hrows
    cases hrows
  | changed k row event _ hw =>
    rw [hw] at hrows
    simp at hrows
  | laid x hcall _ hw =>
    rw [hw] at hrows
    exact ⟨x.created, x.ids, hcall, x.count, mem_seats_writes hrows⟩

theorem Lays.laid (hc : Lays c t w) (hcalls : calls c) (hi : ∀ k, Laid calls w.db k) (k : Id) :
    Laid calls (t.view w.db) k := by
  obtain ⟨hstands, hbare⟩ := hi k
  rw [view_eq]
  cases hc with
  | kept hw =>
    rw [hw]
    exact ⟨hstands, hbare⟩
  | changed j row event hrow hw =>
    rw [hw]
    by_cases hj : k = j
    · subst hj
      refine ⟨fun _ => hstands hrow, fun hnone => ?_⟩
      rw [rowOf_put (by simp [Write.keys])] at hnone
      cases hnone
    · have hsame : rowOf (applyAll w.db [.schedule j row, .outbox event]) k = rowOf w.db k :=
        rowOf_other (by simp [Write.keys, hj])
      refine ⟨fun hne => ?_, fun hnone => ?_⟩
      · rw [hsame] at hne
        exact hstands hne
      · rw [hsame] at hnone
        exact hbare hnone
  | laid x hcall hfree hw =>
    rw [hw]
    by_cases hk : k = x.created.scheduleId
    · subst hk
      refine ⟨fun _ => ⟨x.created, hcall ▸ hcalls, rfl, ?_⟩, fun hnone => ?_⟩
      · rw [stopsOf_writes, if_pos rfl]
        split
        · next hd => rw [hbare (hfree hd), List.nil_append]
        · exact List.nil_append _
      · rw [Projection.rowOf_writes] at hnone
        cases hnone
    · refine ⟨fun hne => ?_, fun hnone => ?_⟩
      · rw [Projection.rowOf_writes_other hk] at hne
        rw [stopsOf_writes, if_neg hk]
        exact hstands hne
      · rw [Projection.rowOf_writes_other hk] at hnone
        rw [stopsOf_writes, if_neg hk]
        exact hbare hnone

theorem lasting_inv : Lasting (discipline calls) (discipline calls).inv where
  commit w c t hi hp hc _ _ := by
    refine ⟨fun k => Lays.laid hc hp.1 hi.1 k, fun x hx => ?_⟩
    obtain hx | hx := List.mem_append.mp hx
    · exact hi.2 x hx
    · rw [List.mem_singleton.mp hx]
      exact Lays.seatedAll hc
  drift _ _ _ h := h

theorem lawful : (discipline calls).Lawful := delivered_lawful lasting_inv

theorem idles : Idles (discipline calls) c (fun _ => True) :=
  delivered_idles lasting_inv fun _ _ hw => .kept hw

theorem projects (parsed : ScheduleCreated) :
    Projects (discipline calls) i (.scheduleCreated (.event parsed)) parsed
      (fun deleted w => deleted = none → rowOf w.db parsed.scheduleId = none)
      (fun deleted _ w => deleted = none → rowOf w.db parsed.scheduleId = none)
      (fun _ => True) where
  toIdles := idles
  argument := trivial
  known deleted _ hk := stable_row (fun row => deleted = none → row = none) hk
  seated deleted _ _ hk := stable_row (fun row => deleted = none → row = none) hk
  current _ _ _ _ _ := trivial
  absent _ _ hnone _ := hnone
  older _ _ _ _ _ _ _ _ _ _ hne := by cases hne
  drawn _ _ _ h _ := h
  commits deleted ids eventId count _ _ _ _ _ hfree _ _ hwrites _ :=
    ⟨.laid ⟨parsed, deleted, ids, eventId, count⟩ rfl hfree hwrites, trivial⟩

theorem changes (changed : ScheduleStatusChanged) :
    Changes (discipline calls) i (.scheduleStatusChanged (.event changed)) changed
      (fun _ => True) (fun w => rowOf w.db changed.scheduleId ≠ none) (fun _ => True) where
  toIdles := idles
  missing _ _ _ _ _ _ := trivial
  found _ _ _ _ := trivial
  persists := lasting_true
  current _ _ _ _ := trivial
  lower _ _ _ _ hrow _ := by
    rw [hrow]
    exact Option.some_ne_none _
  known _ hk := stable_row (fun row => row ≠ none) hk
  commits eventId _ _ _ _ _ hstands _ hwrites := ⟨.changed changed.scheduleId _ _ hstands hwrites,
    trivial⟩

theorem sound : (discipline calls).Sound :=
  delivered_sound lasting_inv (fun _ parsed => ⟨_, _, projects parsed⟩)
    fun _ changed => ⟨_, _, changes changed⟩

end Layouts

/-- In any run of deliveries the stops of a schedule are those of an event that was delivered,
and whoever has put seats has put all those of its event. -/
theorem laid_of_deliveries {calls : Call → Prop} {now : Nat} {p : Pool machine}
    (h : Reachable (deliveries calls) (start now) p) :
    (∀ k, Laid calls p.world.db k) ∧ ∀ x ∈ p.world.log, SeatedAll x.1 x.2 := by
  have hinv : (Layouts.discipline calls).inv (start now).world := by
    refine ⟨fun k => ⟨fun hne => absurd rfl hne, fun _ => rfl⟩, fun x hx => ?_⟩
    cases hx
  exact (Reachable.wellFormed Layouts.lawful Layouts.sound (deliveries_within calls)
    (wellFormed_init hinv) h).inv

end RailwayBooking.ScheduleService
