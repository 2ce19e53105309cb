import RailwayBooking.InventoryService.SeatAllocation

namespace RailwayBooking.InventoryService

open Concurrency

abbrev InventoryTx := Tx inventoryService

abbrev InventoryWorld := World inventoryService Call

namespace Write

def eventKey? : Write → Option EventKey
  | .idempotency eventKey => some eventKey
  | _ => none

def event? : Write → Option OutboxEvent
  | .outbox event => some event
  | _ => none

def onAllocations : Write → List SeatAllocation → List SeatAllocation
  | .allocations rows, s => s ++ rows
  | .status id newStatus, s => s.map (SeatAllocation.setStatus id newStatus)
  | _, s => s

end Write

namespace SeatAllocation

variable (rows : List SeatAllocation) (status : AllocationStatus) (a : SeatAllocation)

/-- The allocation after the rows have been set to a status. -/
def settled : SeatAllocation :=
  if a.id ∈ rows.map id then { a with status := status } else a

@[simp] theorem setStatus_id (k : AllocationId) : (a.setStatus k status).id = a.id := by
  unfold setStatus
  split <;> rfl

@[simp] theorem settled_id : (a.settled rows status).id = a.id := by
  unfold settled
  split <;> rfl

@[simp] theorem settled_bookingId : (a.settled rows status).bookingId = a.bookingId := by
  unfold settled
  split <;> rfl

@[simp] theorem settled_seatInventoryId :
    (a.settled rows status).seatInventoryId = a.seatInventoryId := by
  unfold settled
  split <;> rfl

@[simp] theorem settled_scheduleId : (a.settled rows status).scheduleId = a.scheduleId := by
  unfold settled
  split <;> rfl

@[simp] theorem settled_fromSequence :
    (a.settled rows status).fromSequence = a.fromSequence := by
  unfold settled
  split <;> rfl

@[simp] theorem settled_toSequence : (a.settled rows status).toSequence = a.toSequence := by
  unfold settled
  split <;> rfl

theorem settled_status : (a.settled rows status).status =
    if a.id ∈ rows.map id then status else a.status := by
  unfold settled
  split <;> rfl

theorem settled_cons (r : SeatAllocation) :
    (a.setStatus r.id status).settled rows status = a.settled (r :: rows) status := by
  unfold settled
  rw [setStatus_id, List.map_cons]
  unfold setStatus
  by_cases hr : a.id = r.id
  · by_cases hm : a.id ∈ rows.map id
    · simp [hr]
    · rw [if_neg hm, if_pos hr, if_pos (by rw [hr]; exact List.mem_cons_self)]
  · rw [if_neg hr]
    by_cases hm : a.id ∈ rows.map id
    · rw [if_pos hm, if_pos (List.mem_cons_of_mem _ hm)]
    · rw [if_neg hm, if_neg (fun h => (List.mem_cons.mp h).elim hr hm)]

end SeatAllocation

section View

variable (d : Db) (ws : List Write)

def applyAll : Db := ws.foldl (fun d x => x.apply d) d

theorem view_eq (t : InventoryTx) : t.view d = applyAll d t.writes := rfl

theorem applyAll_cons (x : Write) : applyAll d (x :: ws) = applyAll (x.apply d) ws := rfl

theorem applyAll_allocations : (applyAll d ws).allocations =
    ws.foldl (fun s x => x.onAllocations s) d.allocations := by
  induction ws generalizing d with
  | nil => rfl
  | cons x ws ih =>
    rw [applyAll_cons, ih]
    cases x <;> rfl

theorem applyAll_idempotency : (applyAll d ws).idempotency =
    d.idempotency ++ ws.filterMap Write.eventKey? := by
  induction ws generalizing d with
  | nil => simp [applyAll]
  | cons x ws ih =>
    rw [applyAll_cons, ih]
    cases x <;> simp [Write.apply, Write.eventKey?, List.filterMap_cons]

theorem applyAll_outbox : (applyAll d ws).outbox = d.outbox ++ ws.filterMap Write.event? := by
  induction ws generalizing d with
  | nil => simp [applyAll]
  | cons x ws ih =>
    rw [applyAll_cons, ih]
    cases x <;> simp [Write.apply, Write.event?, List.filterMap_cons]

theorem applyAll_seats : (applyAll d ws).seats = d.seats := by
  induction ws generalizing d with
  | nil => rfl
  | cons x ws ih =>
    rw [applyAll_cons, ih]
    cases x <;> rfl

theorem applyAll_stops : (applyAll d ws).stops = d.stops := by
  induction ws generalizing d with
  | nil => rfl
  | cons x ws ih =>
    rw [applyAll_cons, ih]
    cases x <;> rfl

theorem applyAll_schedules : (applyAll d ws).schedules = d.schedules := by
  induction ws generalizing d with
  | nil => rfl
  | cons x ws ih =>
    rw [applyAll_cons, ih]
    cases x <;> rfl

theorem setStatuses_allocations (rows as : List SeatAllocation) (status : AllocationStatus) :
    (setStatuses rows status).foldl (fun s x => x.onAllocations s) as =
      as.map (SeatAllocation.settled rows status) := by
  induction rows generalizing as with
  | nil =>
    change as = _
    rw [show SeatAllocation.settled [] status = id from rfl, List.map_id]
  | cons r rows ih =>
    rw [setStatuses, List.map_cons, List.foldl_cons]
    refine (ih _).trans ?_
    rw [Write.onAllocations, List.map_map]
    apply List.map_congr_left
    intro a _
    exact a.settled_cons rows status r

theorem applyAll_allocation_other {a : SeatAllocation}
    (h : ∀ x ∈ ws, .allocation a.id ∉ x.keys) :
    a ∈ (applyAll d ws).allocations ↔ a ∈ d.allocations := by
  induction ws generalizing d with
  | nil => rfl
  | cons x ws ih =>
    rw [applyAll_cons, ih _ (fun y hy => h y (List.mem_cons_of_mem _ hy))]
    have hx := h x List.mem_cons_self
    cases x with
    | allocations rows =>
      have ha : a ∉ rows := fun ha => hx (List.mem_map_of_mem ha)
      simp [Write.apply, ha]
    | status k newStatus =>
      have hk : a.id ≠ k := fun he => hx (by simp [Write.keys, he])
      simp only [Write.apply, List.mem_map]
      constructor
      · rintro ⟨a', ha', rfl⟩
        rw [SeatAllocation.setStatus_id] at hk
        rw [SeatAllocation.setStatus, if_neg hk]
        exact ha'
      · intro ha
        exact ⟨a, ha, if_neg hk⟩
    | _ => rfl

theorem applyAll_key_other {k : EventKey} (h : ∀ x ∈ ws, .idempotency k ∉ x.keys) :
    k ∈ (applyAll d ws).idempotency ↔ k ∈ d.idempotency := by
  rw [applyAll_idempotency, List.mem_append, or_iff_left]
  intro hk
  obtain ⟨x, hx, hxk⟩ := List.mem_filterMap.mp hk
  cases x with
  | idempotency eventKey =>
    cases hxk
    exact h _ hx List.mem_cons_self
  | _ => cases hxk

end View

end RailwayBooking.InventoryService
