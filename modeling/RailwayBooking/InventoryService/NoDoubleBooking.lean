import RailwayBooking.Concurrency.Schedule
import RailwayBooking.InventoryService.LifecycleSound

namespace RailwayBooking.InventoryService

open Concurrency

/-- Two allocations give one seat away twice: both are active and their half-open
segments overlap. -/
structure SeatAllocation.Conflict (a a' : SeatAllocation) : Prop where
  seat : a.seatInventoryId = a'.seatInventoryId
  left : a.status.active = true
  right : a'.status.active = true
  starts : a.fromSequence < a'.toSequence
  ends : a'.fromSequence < a.toSequence

def NoDoubleBooking (d : Db) : Prop :=
  d.allocations.Pairwise (fun a a' => ¬ a.Conflict a')

variable {T : Terms} {c : Call} {t : InventoryTx} {w : InventoryWorld}

theorem pairwise_rows {x : Hold} (h : (x.rows.map SeatAllocation.id).Nodup) :
    x.rows.Pairwise (fun a a' => ¬ a.Conflict a') := by
  have hne : x.rows.Pairwise (fun a a' => a.id ≠ a'.id) := List.pairwise_map.mp h
  apply hne.imp_of_mem
  intro a a' ha ha' hid hconf
  apply hid
  rw [SeatAllocation.id, SeatAllocation.id, Hold.rows_bookingId ha, Hold.rows_bookingId ha',
    hconf.seat]

theorem not_conflict_of_free {x : Hold} (hi : Inv w) (hf : x.Found w) (hfree : x.Free w)
    {a a' : SeatAllocation} (ha : a ∈ w.db.allocations) (ha' : a' ∈ x.rows) : ¬ a.Conflict a' := by
  intro hconf
  obtain ⟨s, hs, hid, hsched⟩ := hi.seat a ha
  obtain ⟨s', hs', hid', hsched'⟩ := hf.seat ha'
  have hsame : s = s' := by
    apply List.inj_on_of_nodup_map hi.seats hs hs'
    rw [hid, hid', hconf.seat]
  obtain ⟨seat, _, hreq, rfl⟩ := Hold.mem_rows ha'
  have hschedule : a.scheduleId = x.request.scheduleId := by
    rw [← hsched, hsame, hsched']
    rfl
  rw [Hold.Free, ← Bool.not_eq_true, hasOverlap_iff] at hfree
  apply hfree
  refine ⟨a, ha, hschedule, mem_sortedSeatInventoryIds.mpr ?_, hconf.starts, hconf.ends, hconf.left⟩
  rw [hconf.seat]
  exact hreq

theorem pairwise_settled {rows as : List SeatAllocation} {s : AllocationStatus}
    (hids : (as.map SeatAllocation.id).Nodup)
    (hact : ∀ a ∈ rows, a ∈ as ∧ a.status.active = true)
    (h : as.Pairwise (fun a a' => ¬ a.Conflict a')) :
    (as.map (SeatAllocation.settled rows s)).Pairwise (fun a a' => ¬ a.Conflict a') := by
  rw [List.pairwise_map]
  apply h.imp_of_mem
  intro a a' ha ha' hno hconf
  apply hno
  have hseat := hconf.seat
  have hstarts := hconf.starts
  have hends := hconf.ends
  simp only [SeatAllocation.settled_seatInventoryId, SeatAllocation.settled_fromSequence,
    SeatAllocation.settled_toSequence] at hseat hstarts hends
  exact ⟨hseat, active_of_settled hids hact ha hconf.left,
    active_of_settled hids hact ha' hconf.right, hstarts, hends⟩

theorem keeps_noDoubleBooking (S : Scope machine) :
    Keeps (discipline T) S (fun w => NoDoubleBooking w.db) where
  commit w c t hi _ hc _ _ h := by
    have hch := hc.allocationsChange
    change (t.view w.db).allocations.Pairwise _
    generalize (t.view w.db).allocations = as at hch
    cases hch with
    | same => exact h
    | held x hf hfree _ hd =>
      rw [List.pairwise_append]
      exact ⟨h, pairwise_rows hd, fun a ha a' ha' => not_conflict_of_free hi hf hfree ha ha'⟩
    | settled rows s hact =>
      exact pairwise_settled hi.ids hact h
  drift _ _ _ h := h

/-- No run of holds, confirmations and cancellations, in any interleaving, gives a
seat away twice on one part of the route. -/
theorem no_double_booking {P : Projection} {now : Nat} {p : Pool machine}
    (h : Reachable (Scope.calls fun _ => True) (start P now) p) : NoDoubleBooking p.world.db := by
  have hS : (Scope.calls (M := machine) fun _ => True).Within (discipline .free) := by
    refine ⟨fun c w _ => ⟨fun r _ r' hr => ?_, False.elim⟩, fun _ _ _ _ _ => trivial⟩
    cases hr
  exact reachable_keeps hS h (keeps_noDoubleBooking _) List.Pairwise.nil

section Runs

def sampleProjection : Projection where
  schedules scheduleId := if scheduleId = 1 then some .active else none
  stops := [⟨1, 1, 1, 0⟩, ⟨1, 2, 2, 100⟩, ⟨1, 3, 3, 250⟩]
  seats := [⟨11, 1, 11, "S1", 1, "LOWER", 12500⟩, ⟨12, 1, 12, "S1", 2, "UPPER", 12500⟩]
  seat_id := by decide
  seat_key := by decide

def sampleHold (b : Uuid) (fromSequence toSequence : Nat) : HoldSeatsRequested where
  eventId := .random b
  bookingId := b
  scheduleId := 1
  userId := 5
  seatInventoryIds := [11]
  fromStaionId := fromSequence
  toStationId := toSequence
  fromSequence := fromSequence
  toSequence := toSequence
  holdTtlMs := 600000

set_option maxRecDepth 20000 in
/-- Two bookings that overlap on seat 11, with their statements interleaved. -/
theorem no_double_booking_raced : ∃ p,
    Reachable (Scope.calls fun _ => True) (start sampleProjection 0) p ∧
      p.world.db.allocations.map SeatAllocation.bookingId = [⟨8, 0⟩] ∧
      NoDoubleBooking p.world.db := by
  obtain ⟨p, hp, ht⟩ := exists_reachable (Scope.calls (M := machine) fun _ => True)
    (start sampleProjection 0) (fun _ _ => true)
    [.call (.holdSeats (sampleHold ⟨8, 0⟩ 1 3)), .call (.holdSeats (sampleHold ⟨9, 0⟩ 2 3)),
      .burst 0 11, .burst 1 30, .burst 0 30, .burst 1 30]
    (fun p => decide (p.world.db.allocations.map SeatAllocation.bookingId = [⟨8, 0⟩]))
    (fun p a _ => permits_calls p a) (by simp) (by decide)
  exact ⟨p, hp, of_decide_eq_true ht, no_double_booking hp⟩

end Runs

end RailwayBooking.InventoryService
