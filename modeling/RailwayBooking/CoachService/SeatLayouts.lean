import RailwayBooking.Concurrency.Schedule
import RailwayBooking.CoachService.Sound

namespace RailwayBooking.CoachService

open Concurrency

/-- The runs in which every commit is guarded. -/
def guardedRuns : Scope machine where
  start _ _ := True
  allow c t w s := ∀ h t', s = .commit h → t = some t' → Guarded c t' w

theorem guardedRuns_within : guardedRuns.Within discipline where
  start _ _ _ := trivial
  allow _ _ _ _ h := h

/-- The call makes a new coach. -/
def Call.adds : Call → Bool
  | .addCoach _ _ => true
  | _ => false

theorem inv_of_guardedRuns {d : Db} {p : Pool machine} (hk : d.Keys) (hnone : d.seats = [])
    (h : Reachable guardedRuns (start d) p) : p.world.db.Keys ∧ p.world.db.Consistent := by
  have hc : d.Consistent := by
    intro coach _
    rw [Db.seatsOf, hnone]
    exact .inl rfl
  have hstart : WellFormed discipline (start d) := wellFormed_init ⟨hk, hc⟩
  exact (Reachable.wellFormed lawful sound guardedRuns_within hstart h).inv

/-- In every run whose commits are all guarded each coach stays without seats or with those of
its layout. -/
theorem consistent_of_guardedRuns {d : Db} {p : Pool machine} (hk : d.Keys) (hnone : d.seats = [])
    (h : Reachable guardedRuns (start d) p) : p.world.db.Consistent :=
  (inv_of_guardedRuns hk hnone h).2

section Runs

def sampleTables : Db where
  trains := [⟨1, "12301", "Rajdhani Express", .rajdhani, true⟩]
  coaches := [⟨1, 1, "H1", .ac1a, 18, true⟩, ⟨2, 1, "A1", .ac2a, 46, true⟩]
  seats := []
  outbox := []

theorem sampleTables_keys : sampleTables.Keys :=
  ⟨by decide, by decide, by decide, by decide⟩

/-- The seats of a coach are put while the type of another changes, and reset for a change of
its own. -/
theorem consistent_regenerated : ∃ p, Reachable guardedRuns (start sampleTables) p ∧
    (p.world.db.seatsOf 1).length = 24 ∧ (p.world.db.seatsOf 2).length = 18 ∧
      p.world.db.Consistent := by
  obtain ⟨p, hp, ht⟩ := exists_reachable guardedRuns (start sampleTables)
    (guardsCommits fun c t w => decide (Guarded c t w))
    [.call (.updateCoach 2 ⟨none, some .ac1a, some 18⟩), .burst 0 3,
      .call (.bulkCreateSeats 1), .burst 1 20, .burst 0 20,
      .call (.bulkCreateSeats 2), .burst 2 20,
      .call (.resetSeats 1), .burst 3 20,
      .call (.updateCoach 1 ⟨none, none, some 24⟩), .burst 4 20,
      .call (.bulkCreateSeats 1), .burst 5 20]
    (fun p => decide ((p.world.db.seatsOf 1).length = 24 ∧ (p.world.db.seatsOf 2).length = 18))
    (permits_guardsCommits fun c t w s h h' t' hs ht => of_decide_eq_true (h h' t' hs ht))
    (fun _ _ _ _ _ => trivial) (by decide +kernel)
  obtain ⟨hone, htwo⟩ := of_decide_eq_true ht
  exact ⟨p, hp, hone, htwo, consistent_of_guardedRuns sampleTables_keys rfl hp⟩

def overtakenUpdate : List (Move machine) :=
  [.call (.updateCoach 1 ⟨none, none, some 24⟩), .burst 0 3,
    .call (.bulkCreateSeats 1), .burst 1 20, .burst 0 20]

theorem not_consistent : ¬ ∀ (d : Db) (p : Pool machine), d.Keys → d.seats = [] →
    Reachable (Scope.calls fun c : Call => c.adds = false) (start d) p → p.Quiet →
      p.world.db.Consistent := by
  intro hall
  have hcalls : ∀ m ∈ overtakenUpdate, ∀ c ∈ m.started, c.adds = false := by decide
  obtain ⟨p, hp, ht⟩ := exists_reachable (Scope.calls fun c : Call => c.adds = false)
    (start sampleTables) (fun _ _ => true) overtakenUpdate
    (fun p => p.threads.all Thread.finished && !decide p.world.db.Consistent)
    (fun p a _ => permits_calls p a) (fun m hm c hc _ => hcalls m hm c hc) (by decide +kernel)
  rw [Bool.and_eq_true, List.all_eq_true, Bool.not_eq_true', decide_eq_false_iff_not] at ht
  exact ht.2 (hall sampleTables p sampleTables_keys rfl hp ht.1)

end Runs

end RailwayBooking.CoachService
