import RailwayBooking.BookingService.SagaLogs

namespace RailwayBooking.BookingService

open Concurrency

def BookingStatus.paidFor : BookingStatus → Bool
  | .confirmed | .cancelling | .cancelled => true
  | _ => false

/-- Requests of clients and deliveries to the saga, without the public operations
that set a status, and without a confirmation that no event asks for. -/
def Call.ofSaga : Call → Bool
  | .createBooking _ _ | .cancelBooking _ _ | .createPaymentOrder _ _ => true
  | .seatsHeld _ | .seatsHoldFailed _ | .seatHoldExpired _ | .paymentSuccess _ => true
  | _ => false

variable {strict : SagaKey → Prop} {c : Call} {t : BookingTx} {w : BookingWorld} {b : Uuid}

theorem edge_paidFor {s s' : BookingStatus} (h : Edge c b s s') (hc : c.ofSaga = true)
    (hs : BookingStatus.paidFor s = true) : BookingStatus.paidFor s' = true := by
  cases h with
  | held | failed => cases hs
  | expired e h =>
    obtain rfl | rfl := h <;> cases hs
  | transition hper hpermits =>
    cases hper with
    | cancelling | cancelled | payConfirmed => rfl
    | markSeatsHeld | markPaymentPending | markConfirming | markConfirmed | markFailed
    | markExpired => cases hc
    | ordered | autoAdvance | payHeld | payConfirming =>
      cases s <;> first
        | exact absurd (show false = true from hs) Bool.false_ne_true
        | exact absurd (show false = true from hpermits) Bool.false_ne_true

theorem Commit.reached (h : Commit c t w) (hi : Inv w) (hdb : w.db = World.replay Db.empty w.log)
    (hsite : t.site = .transition) {row : Booking} (hw : .booking row ∈ t.writes) :
    Reached row.status row.id (w.commit c t) := by
  cases h with
  | @transition _ _ _ args read cur _ _ _ _ _ _ _ hcur _ _ hws _ =>
    have hid := hi.id _ _ hcur
    rw [hws] at hw
    obtain hw | hw := List.mem_append.mp hw
    · refine ⟨w.log, [(c, t)], cur, rfl, ?_, ?_⟩
      · unfold TransitionArgs.updateWrites at hw
        rw [← hdb]
        cases hu : args.updates with
        | none =>
          rw [hu] at hw
          cases hw
        | some u =>
          rw [hu] at hw
          cases List.mem_singleton.mp hw
          rw [u.apply_id, hid]
          exact hcur
      · unfold TransitionArgs.updateWrites at hw
        cases hu : args.updates with
        | none =>
          rw [hu] at hw
          cases hw
        | some u =>
          rw [hu] at hw
          cases List.mem_singleton.mp hw
          rfl
    · simp only [List.mem_cons, Write.booking.injEq, reduceCtorEq, List.not_mem_nil, or_false] at hw
      subst hw
      refine ⟨w.log ++ [(c, t)], [], args.moved cur, (List.append_nil _).symm, ?_, rfl⟩
      rw [replay_append, ← hdb, bookings_transition hid hws, args.moved_id, hid,
        Function.update_self]
  | recorded hs | replayed hs | created _ hs | heldSkipped hs | held hs | holdFailedSkipped hs
  | holdFailed hs | holdFailedBeaten hs | holdExpiredSkipped hs | holdExpired hs
  | holdExpiredBeaten hs | paymentMissing hs | paymentSkipped hs | paid hs =>
    rw [hsite] at hs
    cases hs

theorem Reached.of_commit {s : BookingStatus} (hdb : w.db = World.replay Db.empty w.log)
    (h : Reached s b (w.commit c t)) :
    Reached s b w ∨ ∃ row, (t.view w.db).bookings b = some row ∧ row.status = s := by
  obtain ⟨before, later, row, hlog, hrow, hst⟩ := h
  cases later using List.reverseRecOn with
  | nil =>
    rw [List.append_nil] at hlog
    rw [← hlog, World.commit, replay_append, ← hdb] at hrow
    exact .inr ⟨row, hrow, hst⟩
  | append_singleton later x =>
    rw [World.commit, ← List.append_assoc] at hlog
    exact .inl ⟨before, later, row, (List.append_inj' hlog rfl).1, hrow, hst⟩

def MovesReach (w : BookingWorld) : Prop := ∀ i b s, Moved i b s w → Reached s b w

theorem MovesReach.commit (hi : Inv w) (hdb : w.db = World.replay Db.empty w.log)
    (hc : Commit c t w) (h : MovesReach w) : MovesReach (w.commit c t) := by
  intro i b s hm
  obtain ⟨c', t', v, row, hmem, hown, hsite, hans, hw, hid, hst⟩ := hm
  obtain hmem | hmem := List.mem_append.mp hmem
  · exact (h i b s ⟨c', t', v, row, hmem, hown, hsite, hans, hw, hid, hst⟩).commit c t
  · cases List.mem_singleton.mp hmem
    have hr := hc.reached hi hdb hsite hw
    rw [hid, hst] at hr
    exact hr

def StaysPaid (w : BookingWorld) : Prop :=
  ∀ b, Reached .confirmed b w → ∃ row, w.db.bookings b = some row ∧
    BookingStatus.paidFor row.status = true

theorem paidFor_commit (hi : Inv w) (hc : Commit c t w) (ho : c.ofSaga = true) {row : Booking}
    (hrow : w.db.bookings b = some row) (hp : BookingStatus.paidFor row.status = true) :
    ∃ row', (t.view w.db).bookings b = some row' ∧ BookingStatus.paidFor row'.status = true := by
  have hr := hc.rowChange hi b
  rw [hrow] at hr
  generalize (t.view w.db).bookings b = new at hr
  cases hr with
  | same => exact ⟨row, rfl, hp⟩
  | annotated u => exact ⟨u.apply row, rfl, hp⟩
  | @moved _ row' _ _ _ _ _ _ hedge => exact ⟨row', rfl, edge_paidFor hedge ho hp⟩

theorem StaysPaid.commit (hi : Inv w) (hdb : w.db = World.replay Db.empty w.log)
    (hc : Commit c t w) (ho : c.ofSaga = true) (h : StaysPaid w) : StaysPaid (w.commit c t) := by
  intro b hr
  obtain hr | ⟨row, hrow, hst⟩ := hr.of_commit hdb
  · obtain ⟨row, hrow, hp⟩ := h b hr
    exact paidFor_commit hi hc ho hrow hp
  · exact ⟨row, hrow, by rw [hst]; rfl⟩

end RailwayBooking.BookingService
