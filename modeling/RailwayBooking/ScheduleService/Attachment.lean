import RailwayBooking.Concurrency.Schedule
import RailwayBooking.ScheduleService.Sound

namespace RailwayBooking.ScheduleService

open Concurrency InventoryService

def SameSeat (w : ScheduleWorld) (a a' : SeatAllocation) : Prop :=
  ∃ s s', Made w s ∧ Made w s' ∧ s.id = a.seatInventoryId ∧ s'.id = a'.seatInventoryId ∧
    seatKey s = seatKey s'

def SegmentsOverlap (a a' : SeatAllocation) : Prop :=
  a.fromSequence < a'.toSequence ∧ a'.fromSequence < a.toSequence

/-- Active allocations are of seats that stand, and no physical seat is given away
twice. -/
structure Attached (w : ScheduleWorld) : Prop where
  stands : ∀ a ∈ w.db.tables.allocations, a.status.active = true →
    ∃ s ∈ w.db.tables.seats, s.id = a.seatInventoryId
  apart : w.db.tables.allocations.Pairwise (fun a a' => a.status.active = true →
    a'.status.active = true → SameSeat w a a' → ¬ SegmentsOverlap a a')

/-- A hold commits only where the seats of its rows still stand, and a projection that
deletes a schedule only where the schedule has no active allocation. -/
def keepingRuns : Scope machine where
  start _ _ := True
  allow _ t w s := ∀ h t', s = .commit h → t = some t' → Attaching t' w

theorem keepingRuns_within : keepingRuns.Within discipline where
  start _ _ _ := trivial
  allow _ _ _ _ h := h

theorem Inv.seat_unique {w : ScheduleWorld} (hi : Inv w) {s s' : SeatInventory}
    (hs : s ∈ w.db.tables.seats) (hs' : s' ∈ w.db.tables.seats) (hkey : seatKey s = seatKey s') :
    s = s' :=
  List.inj_on_of_nodup_map hi.keys hs hs' hkey

theorem attached_of_inv {w : ScheduleWorld} (hi : Inv w) : Attached w where
  stands a ha hact := by
    obtain ⟨s, hs, hid, _⟩ := hi.attached a ha hact
    exact ⟨s, hs, hid⟩
  apart := by
    refine hi.apart.imp_of_mem fun {a a'} ha ha' hconf hact hact' hsame hover => hconf ?_
    obtain ⟨s, s', hmade, hmade', hid, hid', hkey⟩ := hsame
    obtain ⟨r, hr, hrid, _⟩ := hi.attached a ha hact
    obtain ⟨r', hr', hrid', _⟩ := hi.attached a' ha' hact'
    -- the projected seats are those whose rows stand
    obtain rfl := hi.unique s r hmade (hi.made r hr) (hid.trans hrid.symm)
    obtain rfl := hi.unique s' r' hmade' (hi.made r' hr') (hid'.trans hrid'.symm)
    have hone := hi.seat_unique hr hr' hkey
    refine ⟨?_, hact, hact', hover.1, hover.2⟩
    rw [← hid, ← hid', hone]

/-- In every run that deletes no schedule under its allocations, and inserts none of a
seat that is gone, all active allocations stay attached. -/
theorem attached_of_keepingRuns {now : Nat} {p : Pool machine}
    (h : Reachable keepingRuns (start now) p) : Attached p.world :=
  attached_of_inv
    (Reachable.wellFormed lawful sound keepingRuns_within (wellFormed_init (inv_start now)) h).inv

section Runs

def sampleCreated (version : Nat) : ScheduleCreated where
  scheduleId := 1
  trainCategory := .express
  status := .active
  version := version
  stops := [⟨1, 1, 0⟩, ⟨2, 2, 100⟩, ⟨3, 3, 250⟩]
  coaches := [⟨"S1", "SL", [⟨11, 1, "LOWER"⟩]⟩]

def sampleRequest (b : Uuid) (seatInventoryId : Id) : Call :=
  .inventory (.holdSeats { sampleHold b 1 3 with seatInventoryIds := [seatInventoryId] })

def attachingTest (t : ScheduleTx) (w : ScheduleWorld) : Bool :=
  t.writes.all (fun x => match x with
    | .inventory (.allocations rows) =>
      rows.all (fun a => w.db.tables.seats.any (fun s => s.id = a.seatInventoryId))
    | .deleted scheduleId _ =>
      w.db.tables.allocations.all (fun a => a.scheduleId ≠ scheduleId || !a.status.active)
    | _ => true)

theorem attaching_of_test {t : ScheduleTx} {w : ScheduleWorld} (h : attachingTest t w = true) :
    Attaching t w := by
  have hall := List.all_eq_true.mp h
  refine ⟨fun rows hrows a ha => ?_, fun scheduleId ids hdel a ha hk => ?_⟩
  · have hstands := List.all_eq_true.mp (hall _ hrows) a ha
    simpa using hstands
  · have hfree := List.all_eq_true.mp (hall _ hdel) a ha
    simpa [hk] using hfree

def bookedBy (p : Pool machine) : List (Uuid × Id × AllocationStatus) :=
  p.world.db.tables.allocations.map (fun a => (a.bookingId, a.seatInventoryId, a.status))

def dangling (p : Pool machine) : List SeatAllocation :=
  p.world.db.tables.allocations.filter (fun a => a.status.active &&
    !p.world.db.tables.seats.any (fun s => s.id = a.seatInventoryId))

/-- A booking is held and cancelled, the schedule is projected again with a new id for
its seat, and another booking holds the seat. -/
theorem attached_reprojected : ∃ p, Reachable keepingRuns (start 0) p ∧
    bookedBy p = [(⟨8, 0⟩, 0, .cancelled), (⟨9, 0⟩, Nat.pair 3 2, .held)] ∧ Attached p.world := by
  obtain ⟨p, hp, ht⟩ := exists_reachable keepingRuns (start 0) (commitsOnly attachingTest)
    [.call (.scheduleCreated (.event (sampleCreated 1))), .burst 0 20,
      .call (sampleRequest ⟨8, 0⟩ 0), .burst 1 30,
      .call (.inventory (.cancelSeats ⟨.random ⟨8, 1⟩, ⟨8, 0⟩⟩)), .burst 2 20,
      .call (.scheduleCreated (.event (sampleCreated 2))), .burst 3 20,
      .call (sampleRequest ⟨9, 0⟩ (Nat.pair 3 2)), .burst 4 30]
    (fun p => decide (bookedBy p = [(⟨8, 0⟩, 0, .cancelled), (⟨9, 0⟩, Nat.pair 3 2, .held)]))
    (permits_commitsOnly fun c t w s h h' t' hs ht => attaching_of_test (h h' t' hs ht))
    (fun _ _ _ _ _ => trivial) (by decide +kernel)
  exact ⟨p, hp, of_decide_eq_true ht, attached_of_keepingRuns hp⟩

/-- A schedule is projected again under an allocation: its seat is gone, and the new
row for the same physical seat is held by a second booking. -/
theorem not_attached : ¬ ∀ (now : Nat) (p : Pool machine),
    Reachable (Scope.calls fun _ => True) (start now) p → Attached p.world := by
  intro hall
  obtain ⟨p, hp, ht⟩ := exists_reachable (Scope.calls fun _ => True) (start 0) (fun _ _ => true)
    [.call (.scheduleCreated (.event (sampleCreated 1))), .burst 0 20,
      .call (sampleRequest ⟨8, 0⟩ 0), .burst 1 30,
      .call (.scheduleCreated (.event (sampleCreated 2))), .burst 2 20,
      .call (sampleRequest ⟨9, 0⟩ (Nat.pair 2 2)), .burst 3 30]
    (fun p => decide (bookedBy p = [(⟨8, 0⟩, 0, .held), (⟨9, 0⟩, Nat.pair 2 2, .held)] ∧
      (dangling p).length = 1))
    (fun p a _ => permits_calls p a) (fun _ _ _ _ _ => trivial) (by decide +kernel)
  have hone := (of_decide_eq_true ht).2
  obtain ⟨a, ha⟩ := List.exists_mem_of_length_pos (Nat.lt_of_lt_of_eq Nat.zero_lt_one hone.symm)
  obtain ⟨ha, hdangling⟩ := List.mem_filter.mp ha
  obtain ⟨hact, hnone⟩ := Bool.and_eq_true_iff.mp hdangling
  obtain ⟨s, hs, hid⟩ := (hall 0 p hp).stands a ha hact
  have hany : p.world.db.tables.seats.any (fun s => s.id = a.seatInventoryId) = true :=
    List.any_eq_true.mpr ⟨s, hs, decide_eq_true hid⟩
  rw [hany] at hnone
  cases hnone

end Runs

end RailwayBooking.ScheduleService
