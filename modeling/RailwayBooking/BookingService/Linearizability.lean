import RailwayBooking.Concurrency.History
import RailwayBooking.BookingService.StatusEvents

namespace RailwayBooking.BookingService

open Concurrency

/-- Transaction `t`, committed on tables `d`, changes the status or the version of
booking `b`. -/
structure Changes (d : Db) (t : BookingTx) (b : Uuid) (row row' : Booking) : Prop where
  before : d.bookings b = some row
  after : (t.view d).bookings b = some row'
  differs : (row'.status, row'.version) ≠ (row.status, row.version)

/-- The tables after a part of the log. -/
def tables (log : List (Call × BookingTx)) : Db := World.replay (V := bookingService) Db.empty log

/-- The committed status changes of each booking are one sequence of successful
compare-and-swaps, and a transition that lost one has not been committed. -/
structure Linearizable (w : BookingWorld) : Prop where
  replay : w.db = tables w.log
  overwrites : ∀ before c t later, w.log = before ++ (c, t) :: later → ∀ b row row',
    Changes (tables before) t b row row' → row'.version = row.version + 1 ∧
      ∃ read, t.Answered (.findById b) (some read) ∧
        (read.status, read.version) = (row.status, row.version) ∧
        Edge c b read.status row'.status ∧
        t.Answered (.updateStatus b row'.status (read.version + 1)) true
  unique : ∀ before c t mid c' t' later, w.log = before ++ (c, t) :: (mid ++ (c', t') :: later) →
    ∀ b row₁ row₁' row₂ row₂', Changes (tables before) t b row₁ row₁' →
      Changes (tables (before ++ (c, t) :: mid)) t' b row₂ row₂' → row₁'.version < row₂'.version
  losers : ∀ c t, (c, t) ∈ w.log → t.site = .transition →
    ∀ b s v, ¬ t.Answered (.updateStatus b s v) false

variable {strict : SagaKey → Prop} {S : Scope machine} {w : BookingWorld} {c : Call}
  {t : BookingTx} {b : Uuid}

theorem tables_append (before : List (Call × BookingTx)) (c : Call) (t : BookingTx) :
    tables (before ++ [(c, t)]) = t.view (tables before) :=
  replay_append _ _ _ _

theorem RowChange.swapped {row row' : Booking} (h : RowChange c t b (some row) (some row'))
    (hne : (row'.status, row'.version) ≠ (row.status, row.version)) :
    row'.version = row.version + 1 ∧ ∃ read, t.Answered (.findById b) (some read) ∧
      (read.status, read.version) = (row.status, row.version) ∧
      Edge c b read.status row'.status ∧
      t.Answered (.updateStatus b row'.status (read.version + 1)) true := by
  cases h with
  | same => exact absurd rfl hne
  | annotated u _ _ => exact absurd rfl hne
  | moved hans hwon hver hst hnext hedge _ _ =>
    exact ⟨hnext, _, hans, by rw [hver, hst], by rw [← hst]; exact hedge, hwon⟩

theorem RowChange.version_le {row : Booking} {r' : Option Booking}
    (h : RowChange c t b (some row) r') : ∃ row', r' = some row' ∧ row.version ≤ row'.version := by
  cases h with
  | same => exact ⟨row, rfl, le_rfl⟩
  | annotated u _ _ => exact ⟨u.apply row, rfl, le_rfl⟩
  | moved _ _ _ _ hnext _ _ _ => exact ⟨_, rfl, by omega⟩

theorem history_rowChange (h : History (discipline strict) S Db.empty w)
    {before later : List (Call × BookingTx)} (he : w.log = before ++ (c, t) :: later) (b : Uuid) :
    RowChange c t b ((tables before).bookings b) ((t.view (tables before)).bookings b) := by
  obtain ⟨v, hdb, -, hi, -, hc, -⟩ := h.entry before c t later he
  have hr := hc.rowChange hi b
  rwa [hdb] at hr

theorem history_version_le (h : History (discipline strict) S Db.empty w)
    {before : List (Call × BookingTx)} {row : Booking}
    (hrow : (tables before).bookings b = some row) (mid : List (Call × BookingTx)) :
    ∀ later, w.log = before ++ mid ++ later →
      ∃ row', (tables (before ++ mid)).bookings b = some row' ∧ row.version ≤ row'.version := by
  induction mid using List.reverseRecOn with
  | nil => exact fun later _ => ⟨row, by rwa [List.append_nil], le_rfl⟩
  | append_singleton mid x ih =>
    intro later he
    obtain ⟨row', hrow', hle⟩ := ih (x :: later) (by simpa using he)
    have he' : w.log = (before ++ mid) ++ (x.1, x.2) :: later := by simpa using he
    have hr := history_rowChange h he' b
    rw [hrow'] at hr
    obtain ⟨row'', hrow'', hle'⟩ := hr.version_le
    refine ⟨row'', ?_, by omega⟩
    rw [← List.append_assoc, tables_append]
    exact hrow''

theorem Commit.unbeaten (h : Commit c t w) (hs : t.site = .transition) (b : Uuid)
    (s : BookingStatus) (v : Nat) : ¬ t.Answered (.updateStatus b s v) false := by
  cases h with
  | transition _ _ _ _ _ hun => exact hun b s v
  | _ => simp_all

theorem linearizable_of_history (h : History (discipline strict) S Db.empty w) :
    Linearizable w where
  replay := h.db
  overwrites before c t later he b row row' hch := by
    have hr := history_rowChange h he b
    rw [hch.before, hch.after] at hr
    exact hr.swapped hch.differs
  unique before c t mid c' t' later he b row₁ row₁' row₂ row₂' h₁ h₂ := by
    have he' : w.log = (before ++ (c, t) :: mid) ++ (c', t') :: later := by simpa using he
    have hr := history_rowChange h he' b
    rw [h₂.before, h₂.after] at hr
    have hnext := (hr.swapped h₂.differs).1
    have hafter : (tables (before ++ [(c, t)])).bookings b = some row₁' := by
      rw [tables_append]
      exact h₁.after
    obtain ⟨row, hrow, hle⟩ := history_version_le h hafter mid ((c', t') :: later) (by simpa using he)
    rw [List.append_assoc, List.singleton_append, h₂.before] at hrow
    cases hrow
    omega
  losers c t hm hs b s v := by
    obtain ⟨before, later, he⟩ := List.append_of_mem hm
    obtain ⟨w', -, -, -, -, hc, -⟩ := h.entry before c t later he
    exact hc.unbeaten hs b s v

/-- The scope of all calls of the service. -/
@[reducible] def allRuns : Scope machine := Scope.calls (fun _ => True)

theorem allRuns_within : allRuns.Within (discipline fun _ => False) where
  start _ _ _ := trivial
  allow _ _ _ _ _ _ h := h.elim

theorem linearizable_of_reachable {s : Settings} {p : Pool machine}
    (h : Reachable allRuns s.pool p) : Linearizable p.world :=
  linearizable_of_history (reachable_keeps allRuns_within h (keeps_history _)
    (history_init (D := discipline fun _ => False) (S := allRuns) Db.empty _))

set_option maxRecDepth 20000 in
/-- Two transitions read the same version; the second one to swap it fails. -/
theorem linearizable_race : ∃ p, Reachable allRuns sampleSettings.pool p ∧
    (p.world.db.bookings sampleBooking).map Booking.version = some 2 ∧ Linearizable p.world := by
  obtain ⟨p, hp, ht⟩ := exists_reachable allRuns sampleSettings.pool (fun _ _ => true)
    (sampleCreated ++ [.call (.markFailed sampleBooking "payment"), .burst 1 2,
      .call (.markExpired sampleBooking), .burst 2 20, .burst 1 20])
    (fun p => decide ((p.world.db.bookings sampleBooking).map Booking.version = some 2 ∧
      p.threads.length = 3))
    (fun p a _ => permits_calls p a) (by simp) (by decide)
  exact ⟨p, hp, (of_decide_eq_true ht).1, linearizable_of_reachable hp⟩

end RailwayBooking.BookingService
