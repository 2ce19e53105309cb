import RailwayBooking.InventoryService.NoDoubleBooking
import RailwayBooking.ScheduleService.Operations

namespace RailwayBooking.ScheduleService

open Concurrency InventoryService

abbrev ScheduleTx := Tx scheduleService

abbrev ScheduleWorld := World scheduleService Call

/-- The seat has been projected by a committed transaction, whether it still stands
or not. -/
def Made (w : ScheduleWorld) (s : SeatInventory) : Prop :=
  ∃ x ∈ w.log, ∃ rows, .seats rows ∈ x.2.writes ∧ s ∈ rows

def Write.plain : Write → Bool
  | .inventory (.allocations _) | .inventory (.status _ _) => false
  | .inventory _ | .outbox _ => true
  | _ => false

/-- What a transaction that commits must leave attached: the seats of the rows it
inserts stand in the table, and a schedule whose rows it deletes has no active
allocation. -/
structure Attaching (t : ScheduleTx) (w : ScheduleWorld) : Prop where
  seats : ∀ rows, .inventory (.allocations rows) ∈ t.writes → ∀ a ∈ rows,
    ∃ s ∈ w.db.tables.seats, s.id = a.seatInventoryId
  schedule : ∀ scheduleId ids, .deleted scheduleId ids ∈ t.writes →
    ∀ a ∈ w.db.tables.allocations, a.scheduleId = scheduleId → a.status.active = false

/-- The rows of a projected schedule: the seats that go, where its row was there
before, and those that come. -/
structure Projected where
  scheduleId : Id
  row : ScheduleInventory
  deleted : Option (List Id)
  stops : List RouteStop
  seats : List SeatInventory
  event : ScheduleOutboxEvent

namespace Projected

variable (x : Projected)

def gone : List Id := x.deleted.getD []

def writes : List Write :=
  (x.deleted.map (Write.deleted x.scheduleId)).toList ++
    [.schedule x.scheduleId x.row, .stops x.stops, .seats x.seats, .outbox x.event]

/-- The seats that go are all those of the schedule. -/
structure Covers (w : ScheduleWorld) : Prop where
  all : ∀ s ∈ w.db.tables.seats, s.scheduleId = x.scheduleId → s.id ∈ x.gone
  made : ∀ k ∈ x.gone, ∃ s, Made w s ∧ s.id = k ∧ s.scheduleId = x.scheduleId

/-- The ids of the new seats are the transaction's own. -/
structure Fresh (i : Nat) (w : ScheduleWorld) : Prop where
  own : ∀ s ∈ x.seats, (Nat.unpair s.id).1 = i
  drawn : ∀ s ∈ x.seats, (Nat.unpair s.id).2 < w.env.drawn
  new : ∀ s ∈ x.seats, ∀ s', Made w s' → s'.id ≠ s.id

end Projected

/-- The transactions that inventory-service commits. -/
inductive Commit : ScheduleTx → ScheduleWorld → Prop
  | plain {t : ScheduleTx} {w : ScheduleWorld} (writes : ∀ x ∈ t.writes, x.plain = true) :
      Commit t w
  | held {t : ScheduleTx} {w : ScheduleWorld} (x : Hold) (created : List SeatAllocationHistory)
      (attached : ∀ a ∈ x.rows, ∃ s ∈ w.db.tables.seats, s.id = a.seatInventoryId ∧
        s.scheduleId = a.scheduleId)
      (locked : ∀ a ∈ x.rows, .inventory (.seat a.seatInventoryId) ∈ t.locks)
      (free : ∀ a ∈ w.db.tables.allocations, ∀ a' ∈ x.rows, a.scheduleId = a'.scheduleId →
        ¬ a.Conflict a')
      (new : ∀ a ∈ w.db.tables.allocations, ∀ a' ∈ x.rows, a.id ≠ a'.id)
      (distinct : (x.rows.map SeatAllocation.id).Nodup)
      (writes : t.writes = [.allocations x.rows, .history created,
        .idempotency (.hold x.request.eventId), .outbox (.seatsHeld x.payload)].map
          Write.inventory) : Commit t w
  | settled {t : ScheduleTx} {w : ScheduleWorld} (rows : List SeatAllocation)
      (s : AllocationStatus) (history : List (List SeatAllocationHistory)) (k : EventKey)
      (active : ∀ a ∈ rows, a ∈ w.db.tables.allocations ∧ a.status.active = true)
      (writes : t.writes = (setStatuses rows s ++ history.map InventoryService.Write.history ++
        [InventoryService.Write.idempotency k]).map Write.inventory) : Commit t w
  | projected {t : ScheduleTx} {w : ScheduleWorld} (x : Projected) (covers : x.Covers w)
      (fresh : x.Fresh t.owner w) (schedule : ∀ s ∈ x.seats, s.scheduleId = x.scheduleId)
      (ids : (x.seats.map SeatInventory.id).Nodup) (keys : (x.seats.map seatKey).Nodup)
      (free : x.deleted ≠ none → ∀ a ∈ w.db.tables.allocations, a.scheduleId = x.scheduleId →
        a.status.active = false)
      (writes : t.writes = x.writes) : Commit t w
  | statusChanged {t : ScheduleTx} {w : ScheduleWorld} (scheduleId : Id) (row : ScheduleInventory)
      (event : ScheduleOutboxEvent)
      (writes : t.writes = [.schedule scheduleId row, .outbox event]) : Commit t w

section Views

variable {t : ScheduleTx} {w : ScheduleWorld} {d : Db}

def applyAll (d : Db) (ws : List Write) : Db := ws.foldl (fun d x => x.apply d) d

theorem view_eq (t : ScheduleTx) (d : Db) : t.view d = applyAll d t.writes := rfl

theorem applyAll_inventory (d : Db) (ws : List InventoryService.Write) :
    applyAll d (ws.map .inventory) = { d with tables := InventoryService.applyAll d.tables ws } := by
  induction ws generalizing d with
  | nil => rfl
  | cons x ws ih => exact ih _

/-- Where only allocations are written, the tables change as those of the service
without schedules do. -/
theorem view_inventory {ws : List InventoryService.Write} (h : t.writes = ws.map .inventory) :
    (t.view d).tables = InventoryService.applyAll d.tables ws := by
  rw [view_eq, h, applyAll_inventory]

theorem view_plain (h : ∀ x ∈ t.writes, x.plain = true) :
    (t.view d).tables.schedules = d.tables.schedules ∧ (t.view d).tables.seats = d.tables.seats ∧
      (t.view d).tables.allocations = d.tables.allocations := by
  rw [view_eq]
  generalize t.writes = ws at h
  induction ws generalizing d with
  | nil => exact ⟨rfl, rfl, rfl⟩
  | cons x ws ih =>
    have hx := h x List.mem_cons_self
    obtain ⟨hs, hr, ha⟩ := ih (d := x.apply d) fun y hy => h y (List.mem_cons_of_mem _ hy)
    refine ⟨hs.trans ?_, hr.trans ?_, ha.trans ?_⟩ <;>
      · unfold Write.plain at hx
        split at hx
        · cases hx
        · cases hx
        · next y hna hns =>
          cases y with
          | allocations rows => exact absurd rfl (hna rows)
          | status k s => exact absurd rfl (hns k s)
          | _ => rfl
        · rfl
        · cases hx

theorem view_projected {x : Projected} (h : t.writes = x.writes) :
    (t.view d).tables.schedules =
        Function.update d.tables.schedules x.scheduleId (some x.row.status) ∧
      (t.view d).tables.seats =
        d.tables.seats.filter (fun s => !x.gone.contains s.id) ++ x.seats ∧
      (t.view d).tables.allocations = d.tables.allocations := by
  rw [view_eq, h]
  cases hd : x.deleted with
  | none =>
    rw [Projected.writes, Projected.gone, hd]
    refine ⟨rfl, ?_, rfl⟩
    rw [List.filter_eq_self.mpr (by simp)]
    rfl
  | some ids =>
    rw [Projected.writes, Projected.gone, hd]
    exact ⟨Function.update_idem .., rfl, rfl⟩

theorem made_commit {c : Call} {s : SeatInventory} :
    Made (w.commit c t) s ↔ Made w s ∨ ∃ rows, .seats rows ∈ t.writes ∧ s ∈ rows := by
  simp [Made, World.commit, or_and_right, exists_or]

theorem Projected.mem_seats {x : Projected} {rows : List SeatInventory} :
    Write.seats rows ∈ x.writes ↔ rows = x.seats := by
  cases hd : x.deleted <;> simp [Projected.writes, hd]

end Views

end RailwayBooking.ScheduleService
