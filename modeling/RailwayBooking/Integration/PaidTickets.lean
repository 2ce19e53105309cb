import RailwayBooking.Integration.Payments

namespace RailwayBooking.Integration

open Concurrency

/-- The event stands in the outbox of payment-service. -/
def Announced (e : PaymentSuccess) (v : PaymentService.PaymentWorld) : Prop :=
  ∃ id, .paymentSuccess id e ∈ v.db.outbox

/-- The calls by which bookings are confirmed on payment alone: nobody confirms them
otherwise, and a delivered event was announced. -/
def ConfirmsPaid (c : BookingService.Call) (v : PaymentService.PaymentWorld) : Prop :=
  match c with
  | .confirmPayment _ _ | .markConfirmed _ => False
  | .paymentSuccess (.event e) => Announced e v
  | _ => True

/-- Bookings are confirmed on the announcements of payment-service, whose commits
are those of `S`. -/
def ticketLink (S : Scope PaymentService.machine) :
    Link BookingService.machine PaymentService.machine where
  callLeft c _ v := ConfirmsPaid c v
  callRight c _ v := S.start c v
  request _ := none
  allowLeft _ _ _ _ _ := True
  allowRight c t _ v s := S.allow c t v s

theorem ticketLink_within {S : Scope PaymentService.machine}
    (hS : S.Within PaymentService.discipline) :
    (ticketLink S).Within (BookingService.discipline fun _ => False) PaymentService.discipline where
  callLeft _ _ _ _ := trivial
  callRight c _ v := hS.start c v
  request _ _ _ h := by cases h
  allowLeft _ _ _ _ _ _ _ h := h.elim
  allowRight c t _ v s := hS.allow c t v s

theorem lasting_announced (e : PaymentSuccess) :
    Lasting PaymentService.discipline (Announced e) where
  commit w _ t _ _ _ _ h := by
    obtain ⟨id, hmem⟩ := h
    refine ⟨id, ?_⟩
    change _ ∈ (t.view w.db).outbox
    rw [PaymentService.view_eq, PaymentService.applyAll_outbox]
    exact List.mem_append_left _ hmem
  drift _ _ _ h := h

theorem lasting_confirmsPaid (c : BookingService.Call) :
    Lasting PaymentService.discipline (ConfirmsPaid c) := by
  unfold ConfirmsPaid
  split
  · exact lasting_const False
  · exact lasting_const False
  · exact lasting_announced _
  · exact lasting_const True

def ticketKnowledge : Knowledge BookingService.machine PaymentService.machine where
  left := ConfirmsPaid
  right _ _ := True

theorem ticketKnowledge_sound (S : Scope PaymentService.machine) :
    ticketKnowledge.Sound (BookingService.discipline fun _ => False) PaymentService.discipline
      (ticketLink S) where
  left := lasting_confirmsPaid
  right _ := lasting_true
  callLeft _ _ _ h := h
  callRight _ _ _ _ := trivial
  request _ _ _ _ _ h := by cases h

def CapturedFor (b : Uuid) (v : PaymentService.PaymentWorld) : Prop :=
  ∃ id p, v.db.row id = some p ∧ p.bookingId = b ∧ p.status = .captured

/-- What is announced is captured, and what is confirmed is paid. -/
structure Paid (w : BookingService.BookingWorld) (v : PaymentService.PaymentWorld) : Prop where
  announced : ∀ e, Announced e v → CapturedFor e.bookingId v
  confirmed : ∀ b row, w.db.bookings b = some row → row.status = .confirmed → CapturedFor b v

section Steps

variable {w : BookingService.BookingWorld} {v : PaymentService.PaymentWorld}

theorem edge_confirmed {c : BookingService.Call} {b : Uuid} {s s' : BookingStatus}
    (h : BookingService.Edge c b s s') (hs : s' = .confirmed) :
    c.pays = some b ∨ c = .markConfirmed b := by
  cases h with
  | held | failed | expired => cases hs
  | transition hper _ =>
    cases hper with
    | markConfirmed b => exact .inr rfl
    | payConfirmed h => exact .inl h
    | _ => cases hs

theorem confirmsPaid_edge {c : BookingService.Call} {b : Uuid} (hk : ConfirmsPaid c v)
    (h : c.pays = some b ∨ c = .markConfirmed b) : ∃ e, Announced e v ∧ e.bookingId = b := by
  obtain hpays | rfl := h
  · unfold BookingService.Call.pays at hpays
    split at hpays
    · exact hk.elim
    · next e => exact ⟨e, hk, Option.some.inj hpays⟩
    · cases hpays
  · exact hk.elim

theorem Paid.commitLeft {c : BookingService.Call} {t : BookingService.BookingTx}
    (hi : BookingService.Inv w) (hc : BookingService.Commit c t w) (hk : ConfirmsPaid c v)
    (h : Paid w v) : Paid (w.commit c t) v where
  announced := h.announced
  confirmed b row hrow hst := by
    have hr := hc.rowChange hi b
    change (t.view w.db).bookings b = some row at hrow
    rw [hrow] at hr
    generalize hold : w.db.bookings b = old at hr
    cases hr with
    | same => exact h.confirmed b row hold hst
    | created _ _ hpending =>
      rw [hpending] at hst
      cases hst
    | @annotated row' u => exact h.confirmed b row' hold hst
    | moved _ _ _ _ _ hedge =>
      obtain ⟨e, he, hb⟩ := confirmsPaid_edge hk (edge_confirmed hedge hst)
      exact hb ▸ h.announced e he

theorem CapturedFor.commit {b : Uuid} {c : PaymentService.Call} {t : PaymentService.PaymentTx}
    (hc : PaymentService.Commit c t v) (hx : PaymentService.Exclusive t v) (h : CapturedFor b v) :
    CapturedFor b (v.commit c t) := by
  obtain ⟨id, p, hp, hb, hst⟩ := h
  exact ⟨id, p, ((hc.effect id).final (hx.admits id)).captured p hp hst, hb, hst⟩

theorem captured_of_announced {e : PaymentSuccess} {c : PaymentService.Call}
    {t : PaymentService.PaymentTx} (hc : PaymentService.Commit c t v)
    (hx : PaymentService.Exclusive t v) (h : Announced e (v.commit c t)) :
    Announced e v ∨ CapturedFor e.bookingId (v.commit c t) := by
  obtain ⟨id, hmem⟩ := h
  change _ ∈ (t.view v.db).outbox at hmem
  rw [PaymentService.view_eq, PaymentService.applyAll_outbox] at hmem
  obtain hmem | hmem := List.mem_append.mp hmem
  · exact .inl ⟨id, hmem⟩
  · refine .inr ?_
    cases hc with
    | ordered _ _ _ _ _ _ _ hw | failed _ _ _ _ _ hw =>
      rw [hw] at hmem
      simp [PaymentService.Write.event?] at hmem
    | @captured _ _ _ input read row _ _ hcur hsame _ _ _ _ hw =>
      rw [hw] at hmem
      simp only [PaymentService.Write.event?, List.filterMap_cons, List.filterMap_nil,
        List.mem_singleton, PaymentService.OutboxEvent.paymentSuccess.injEq] at hmem
      obtain ⟨rfl, rfl⟩ := hmem
      have hid := (PaymentService.mem_of_row hcur).2
      have hv := PaymentService.view_put hw
        (show v.db.row (row.captured (input.params read)).id = some row by
          rw [show (row.captured (input.params read)).id = read.id from hid, hcur])
      refine ⟨read.id, row.captured (input.params read), ?_, hsame.bookingId, rfl⟩
      change (t.view v.db).row read.id = _
      rw [hv, show (row.captured (input.params read)).id = read.id from hid, Function.update_self]
    | @recaptured _ _ _ input read row _ _ hcur hsame _ hun _ hw =>
      have hst := hx.capture _ hun row (PaymentService.mem_of_row hcur).1 hsame.paymentOrderId
      have hv := PaymentService.view_recaptured (w := v) hw
      rw [hw] at hmem
      simp only [PaymentService.Write.event?, List.filterMap_cons, List.filterMap_nil,
        List.mem_singleton, PaymentService.OutboxEvent.paymentSuccess.injEq] at hmem
      obtain ⟨rfl, rfl⟩ := hmem
      refine ⟨read.id, row, ?_, hsame.bookingId, hst⟩
      change (t.view v.db).row read.id = _
      rw [hv, hcur]

theorem Paid.commitRight {c : PaymentService.Call} {t : PaymentService.PaymentTx}
    (hc : PaymentService.Commit c t v) (hx : PaymentService.Exclusive t v) (h : Paid w v) :
    Paid w (v.commit c t) where
  announced e he := by
    obtain he | hcap := captured_of_announced hc hx he
    · exact (h.announced e he).commit hc hx
    · exact hcap
  confirmed b row hrow hst := (h.confirmed b row hrow hst).commit hc hx

theorem keeps_paid : (ticketLink PaymentService.exclusiveRuns).Keeps
    (BookingService.discipline fun _ => False) PaymentService.discipline ticketKnowledge Paid where
  left _ _ _ _ hi _ hc _ _ hk h := h.commitLeft hi hc hk
  right _ _ _ _ _ _ _ hc _ hs _ h :=
    h.commitRight hc (PaymentService.exclusive_of_passes hc hs)
  driftLeft _ _ _ _ h := ⟨h.announced, h.confirmed⟩
  driftRight _ _ _ _ h := ⟨h.announced, h.confirmed⟩

end Steps

theorem paid_pools (s : BookingService.Settings) (s' : PaymentService.Settings) :
    Paid s.pool.world s'.pool.world where
  announced e he := by
    obtain ⟨_, he⟩ := he
    cases he
  confirmed b row hb _ := by cases hb

/-- No ticket without payment, where capture and failure exclude each other. -/
theorem captured_of_confirmed {s : BookingService.Settings} {s' : PaymentService.Settings}
    {j : Joint BookingService.machine PaymentService.machine}
    (h : (ticketLink PaymentService.exclusiveRuns).Reachable (payments s s') j) {b : Uuid}
    {row : BookingService.Booking} (hrow : j.left.world.db.bookings b = some row)
    (hst : row.status = .confirmed) :
    ∃ p ∈ j.right.world.db.payments, p.bookingId = b ∧ p.status = .captured := by
  have hpaid := payments_keeps (ticketLink_within PaymentService.exclusiveRuns_within)
    (ticketKnowledge_sound _) keeps_paid
    (paid_pools s s') h
  obtain ⟨id, p, hp, hb, hcap⟩ := hpaid.confirmed b row hrow hst
  exact ⟨p, (PaymentService.mem_of_row hp).1, hb, hcap⟩

section Schedules

def announces (e : PaymentSuccess) (v : PaymentService.PaymentWorld) : Bool :=
  v.db.outbox.any (fun
    | .paymentSuccess _ e' => e' = e
    | _ => false)

def confirmsPaid (c : BookingService.Call) (v : PaymentService.PaymentWorld) : Bool :=
  match c with
  | .confirmPayment _ _ | .markConfirmed _ => false
  | .paymentSuccess (.event e) => announces e v
  | _ => true

theorem announced_of_announces {e : PaymentSuccess} {v : PaymentService.PaymentWorld}
    (h : announces e v = true) : Announced e v := by
  obtain ⟨ev, hmem, hev⟩ := List.any_eq_true.mp h
  split at hev
  · next id e' =>
    obtain rfl := of_decide_eq_true hev
    exact ⟨id, hmem⟩
  · cases hev

theorem confirmsPaid_sound {c : BookingService.Call} {v : PaymentService.PaymentWorld}
    (h : confirmsPaid c v = true) : ConfirmsPaid c v := by
  unfold confirmsPaid at h
  unfold ConfirmsPaid
  split at h
  · cases h
  · cases h
  · exact announced_of_announces h
  · trivial

def ticketGuard (test : PaymentService.PaymentTx → PaymentService.PaymentWorld → Bool) :
    Guard BookingService.machine PaymentService.machine where
  callLeft c _ v := confirmsPaid c v
  callRight _ _ _ := true
  actLeft _ _ _ := true
  actRight p _ a := commitsOnly test p a

theorem ticketGuard_sound {test : PaymentService.PaymentTx → PaymentService.PaymentWorld → Bool}
    {S : Scope PaymentService.machine} (hstart : ∀ c v, S.start c v)
    (hallow : ∀ c t v s, (∀ h t', s = .commit h → t = some t' → test t' v = true) →
      S.allow c t v s) : (ticketGuard test).Sound (ticketLink S) where
  callLeft _ _ _ h := confirmsPaid_sound h
  callRight c _ v _ := hstart c v
  actLeft _ _ a _ := by
    cases a <;> first | trivial | exact fun _ _ _ _ => trivial
  actRight p _ a h := permits_commitsOnly hallow p a h
  send _ _ _ _ h := absurd rfl h

def orderedTurns : List (Turn BookingService.machine PaymentService.machine) :=
  BookingService.sampleCreated.map .left ++
    [.left (.call (.seatsHeld (.event BookingService.sampleHeld))), .left (.burst 1 30),
      .right (.call (.createOrder ⟨BookingService.sampleBooking, 5, 50000, "INR"⟩)),
      .right (.burst 0 12)]

def samplePaid (serial : Nat) : PaymentSuccess :=
  ⟨.random ⟨1, serial⟩, BookingService.sampleBooking, PaymentService.samplePayment, ⟨0, 0⟩, 501,
    50000, .client⟩

/-- The statuses of the booking and of its payment. -/
def ticketOutcome (j : Joint BookingService.machine PaymentService.machine) :
    Option BookingStatus × List PaymentStatus :=
  ((j.left.world.db.bookings BookingService.sampleBooking).map BookingService.Booking.status,
    j.right.world.db.payments.map PaymentService.Payment.status)

theorem captured_of_confirmed_paid : ∃ j row,
    (ticketLink PaymentService.exclusiveRuns).Reachable
      (payments BookingService.sampleSettings PaymentService.sampleSettings) j ∧
    j.left.world.db.bookings BookingService.sampleBooking = some row ∧ row.status = .confirmed ∧
    ∃ p ∈ j.right.world.db.payments,
      p.bookingId = BookingService.sampleBooking ∧ p.status = .captured := by
  obtain ⟨j, hj, ht⟩ := exists_joint (ticketLink PaymentService.exclusiveRuns)
    (payments BookingService.sampleSettings PaymentService.sampleSettings)
    (ticketGuard PaymentService.exclusiveTest)
    (orderedTurns ++
      [.right (.call (.verifyAndCapture PaymentService.sampleCheckout)), .right (.burst 1 12),
        .left (.call (.paymentSuccess (.event (samplePaid 3)))), .left (.burst 2 40)])
    (fun j => decide (ticketOutcome j = (some .confirmed, [.captured])))
    (ticketGuard_sound (fun _ _ => trivial)
      fun c t v s h h' t' hs ht => PaymentService.exclusive_of_test (h h' t' hs ht))
    (by decide +kernel)
  obtain ⟨row, hrow, hst⟩ := Option.map_eq_some_iff.mp (congrArg Prod.fst (of_decide_eq_true ht))
  exact ⟨j, row, hj, hrow, hst, captured_of_confirmed hj hrow hst⟩

/-- The payment fails between the two halves of its capture; the capture is announced
all the same, and the booking is confirmed. -/
theorem not_captured_of_confirmed : ¬ ∀ (s : BookingService.Settings)
    (s' : PaymentService.Settings) (j : Joint BookingService.machine PaymentService.machine),
    (ticketLink (Scope.calls fun _ => True)).Reachable (payments s s') j → ∀ b row,
      j.left.world.db.bookings b = some row → row.status = .confirmed →
        ∃ p ∈ j.right.world.db.payments, p.bookingId = b ∧ p.status = .captured := by
  intro hall
  obtain ⟨j, hj, ht⟩ := exists_joint (ticketLink (Scope.calls fun _ => True))
    (payments BookingService.sampleSettings PaymentService.sampleSettings)
    (ticketGuard fun _ _ => true)
    (orderedTurns ++
      [.right (.call (.verifyAndCapture PaymentService.sampleCheckout)), .right (.burst 1 2),
        .right (.call PaymentService.sampleFailure), .right (.burst 2 12), .right (.burst 1 12),
        .left (.call (.paymentSuccess (.event (samplePaid 4)))), .left (.burst 2 40)])
    (fun j => decide (ticketOutcome j = (some .confirmed, [.failed])))
    (ticketGuard_sound (fun _ _ => trivial) fun _ _ _ _ _ => trivial) (by decide +kernel)
  have hout := of_decide_eq_true ht
  obtain ⟨row, hrow, hst⟩ := Option.map_eq_some_iff.mp (congrArg Prod.fst hout)
  obtain ⟨p, hp, -, hcap⟩ := hall _ _ j hj _ row hrow hst
  have hfailed : p.status ∈ j.right.world.db.payments.map PaymentService.Payment.status :=
    List.mem_map.mpr ⟨p, hp, rfl⟩
  rw [show j.right.world.db.payments.map PaymentService.Payment.status = [.failed] from
    congrArg Prod.snd hout, hcap] at hfailed
  cases List.mem_singleton.mp hfailed

end Schedules

end RailwayBooking.Integration
