import RailwayBooking.BookingService.StatusEvents

namespace RailwayBooking.BookingService

open Concurrency

/-- A delivery that has returned, so that its offset is committed, has the
transaction of its handler for the event in the log: its own one or that of
another delivery of the event. -/
def Acknowledged (p : Pool machine) : Prop :=
  ∀ x ∈ p.threads, ∀ a key, x.returned = some a → x.call.key = some key → Settled key p.world

/-- Runs in which a delivery that meets the reservation of an unfinished one comes
after that one's transaction. -/
def settledReservations : Scope machine where
  start _ _ := True
  allow _ _ w s := MeetsSettled w s

theorem settledReservations_within : settledReservations.Within (discipline fun _ => True) where
  start _ _ _ := trivial
  allow _ _ _ _ h key _ := h key

theorem acknowledged_of_settledReservations {s : Settings} {p : Pool machine}
    (h : Reachable settledReservations s.pool p) : Acknowledged p := by
  intro x hx a key ha hk
  obtain ⟨i, hx⟩ := List.mem_iff_getElem?.mp hx
  exact (reachable_wellFormed settledReservations_within h).post hx ha key trivial hk

section Runs

/-- The key of a delivery that has returned. -/
def returnedKey (x : Thread machine) : Option SagaKey := x.returned.bind (fun _ => x.call.key)

def meetsProcessing (p : Pool machine) (i : Nat) : Bool :=
  match p.threads[i]? with
  | some ⟨_, some (.call (.aux (.reserveIfNew key)) _)⟩ =>
    p.world.env.saga.get p.world.env.now key = some .processing
  | _ => false

def noneProcessing (p : Pool machine) : Action bookingService → Bool
  | .run i _ => !meetsProcessing p i
  | _ => true

theorem permits_noneProcessing (p : Pool machine) (a : Action bookingService)
    (h : noneProcessing p a = true) : settledReservations.Permits p a := by
  cases a with
  | run i ch =>
    rintro c s k hth key rfl hget
    simp [noneProcessing, meetsProcessing, hth, hget] at h
  | crash i => trivial
  | tick d => trivial

set_option maxRecDepth 20000 in
/-- The first delivery fails at its commit, the second one succeeds. -/
theorem acknowledged_redelivered : ∃ p, Reachable settledReservations sampleSettings.pool p ∧
    p.threads[2]?.bind returnedKey = some (.held sampleHeld.eventId) ∧ Acknowledged p := by
  obtain ⟨p, hp, ht⟩ := exists_reachable settledReservations sampleSettings.pool noneProcessing
    (sampleCreated ++ [.call (.seatsHeld (.event sampleHeld)), .burst 1 7,
      .step (.run 1 .fault), .burst 1 20, .call (.seatsHeld (.event sampleHeld)), .burst 2 40])
    (fun p => decide (p.threads[2]?.bind returnedKey = some (.held sampleHeld.eventId)))
    permits_noneProcessing (by simp [sampleCreated, Move.started, settledReservations]) (by decide)
  exact ⟨p, hp, of_decide_eq_true ht, acknowledged_of_settledReservations hp⟩

def crashedRun : List (Move machine) :=
  sampleCreated ++ [.call (.seatsHeld (.event sampleHeld)), .burst 1 1, .step (.crash 1),
    .step (.tick 1000), .call (.seatsHeld (.event sampleHeld)), .burst 2 10]

def ofHeld (x : Call × BookingTx) : Bool := x.2.site = .seatsHeld

set_option maxRecDepth 20000 in
theorem not_acknowledged : ¬ ∀ (s : Settings) (p : Pool machine),
    Reachable (Scope.calls fun _ => True) s.pool p → Acknowledged p := by
  intro hall
  obtain ⟨p, hp, ht⟩ := exists_reachable (Scope.calls (M := machine) fun _ => True)
    sampleSettings.pool (fun _ _ => true) crashedRun
    (fun p => decide (p.threads[2]?.bind returnedKey = some (.held sampleHeld.eventId) ∧
      p.world.log.any ofHeld = false))
    (fun p a _ => permits_calls p a) (by simp) (by decide)
  obtain ⟨hret, hlog⟩ := of_decide_eq_true ht
  obtain ⟨x, hx, hret⟩ := Option.bind_eq_some_iff.mp hret
  obtain ⟨a, ha, hkey⟩ := Option.bind_eq_some_iff.mp hret
  obtain ⟨c, t, hc, -, hsite⟩ :=
    hall sampleSettings p hp x (List.mem_of_getElem? hx) a _ ha hkey
  have hany : p.world.log.any ofHeld = true :=
    List.any_eq_true.mpr ⟨(c, t), hc, by simpa [ofHeld, SagaKey.site] using hsite⟩
  rw [hlog] at hany
  cases hany

end Runs

end RailwayBooking.BookingService
