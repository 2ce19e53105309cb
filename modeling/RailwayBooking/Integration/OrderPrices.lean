import RailwayBooking.Integration.Payments
import RailwayBooking.PaymentService.ActiveOrders

namespace RailwayBooking.Integration

open Concurrency

/-- The request that `createPaymentOrder` makes. -/
def orderRequest : BookingService.Aux → Option PaymentService.Call
  | .createOrder bookingId userId amount => some (.createOrder ⟨bookingId, userId, amount, "INR"⟩)
  | _ => none

/-- Orders are created on the requests of booking-service alone. Whatever else the
two services do is free. -/
def orderLink : Link BookingService.machine PaymentService.machine where
  callLeft _ _ _ := True
  callRight c _ _ := ∀ request, c ≠ .createOrder request
  request := orderRequest
  allowLeft _ _ _ _ _ := True
  allowRight _ _ _ _ _ := True

theorem orderLink_within :
    orderLink.Within (BookingService.discipline fun _ => False) PaymentService.discipline where
  callLeft _ _ _ _ := trivial
  callRight _ _ _ _ := trivial
  request _ _ _ _ := trivial
  allowLeft _ _ _ _ _ _ _ h := h.elim
  allowRight _ _ _ _ _ _ := trivial

def orderKnowledge : Knowledge BookingService.machine PaymentService.machine where
  left _ _ := True
  right c w := ∀ request, c = .createOrder request →
    BookingService.Quoted request.bookingId request.amount.toNat w

theorem orderKnowledge_sound : orderKnowledge.Sound (BookingService.discipline fun _ => False)
    PaymentService.discipline orderLink where
  left _ := lasting_true
  right c :=
    ⟨fun w c' t hi hp hc hv h request he =>
      (BookingService.lasting_quoted _ _).commit w c' t hi hp hc hv (h request he),
      fun w e hd h request he => (BookingService.lasting_quoted _ _).drift w e hd (h request he)⟩
  callLeft _ _ _ _ := trivial
  callRight _ _ _ h request he := absurd he (h request)
  request c a w r ha hr request he := by
    cases a with
    | createOrder b u n =>
      cases hr
      cases he
      exact ha.quoted b u n rfl
    | _ => cases hr

def Priced (w : BookingService.BookingWorld) (v : PaymentService.PaymentWorld) : Prop :=
  ∀ p ∈ v.db.payments, 0 < p.amount ∧ BookingService.Quoted p.bookingId p.amount w

section Steps

variable {w : BookingService.BookingWorld} {v : PaymentService.PaymentWorld}

theorem amount_of_valid {request : PaymentService.CreateOrderRequest}
    {input : PaymentService.CreateOrderInput}
    (h : PaymentService.createOrderRequestSchema request = .ok input) :
    0 < input.amount ∧ input.amount = request.amount.toNat ∧
      input.bookingId = request.bookingId := by
  unfold PaymentService.createOrderRequestSchema at h
  split at h
  · next hissues =>
    cases h
    simp only [PaymentService.CreateOrderRequest.issues, List.append_eq_nil_iff] at hissues
    have hpos : ¬ request.amount ≤ 0 := by
      intro hle
      simp [hle] at hissues
    refine ⟨?_, rfl, rfl⟩
    change 0 < request.amount.toNat
    omega
  · cases h

theorem priced_of_origin {rows rows' : List PaymentService.Payment}
    (h : ∀ p ∈ rows, 0 < p.amount ∧ BookingService.Quoted p.bookingId p.amount w)
    (ho : ∀ p ∈ rows', ∃ q ∈ rows, q.Same p) :
    ∀ p ∈ rows', 0 < p.amount ∧ BookingService.Quoted p.bookingId p.amount w := by
  intro p hp
  obtain ⟨q, hq, hsame⟩ := ho p hp
  rw [hsame.amount, hsame.bookingId]
  exact h q hq

theorem priced_commit {c : PaymentService.Call} {t : PaymentService.PaymentTx}
    (hi : BookingService.Inv w) (hc : PaymentService.Commit c t v) (hk : orderKnowledge.right c w)
    (h : Priced w v) : Priced w (v.commit c t) := by
  by_cases hsite : t.site = .createOrder
  · cases hc with
    | @ordered request input _ _ id order _ razorpay created _ hvalid _ _ _ _ _ hw =>
      intro p hp
      change p ∈ (t.view v.db).payments at hp
      rw [PaymentService.payments_ordered hw] at hp
      obtain hp | hp := List.mem_append.mp hp
      · exact h p hp
      · obtain ⟨hpos, hamount, hbooking⟩ := amount_of_valid hvalid
        have hquoted := hk request rfl
        rw [← hamount, ← hbooking] at hquoted
        obtain ⟨row, hrow, hq⟩ := hquoted
        have hprice : input.amount = row.totalPrice := by omega
        have hexact : decimalAmount input.amount = input.amount :=
          decimalAmount_eq (hprice ▸ (hi.price _ _ hrow).1)
        rw [List.mem_singleton.mp hp]
        change 0 < decimalAmount input.amount ∧
          BookingService.Quoted input.bookingId (decimalAmount input.amount) w
        rw [hexact]
        exact ⟨hpos, row, hrow, .inr hprice⟩
    | captured hs _ _ _ _ _ _ _ | recaptured hs _ _ _ _ _ _ | failed hs _ _ _ _ _ =>
      rw [hsite] at hs
      cases hs
  · exact priced_of_origin h fun p hp =>
      have ⟨q, hq, hsame, _⟩ := hc.tableChange.origin hsite p hp
      ⟨q, hq, hsame⟩

theorem keeps_priced : orderLink.Keeps (BookingService.discipline fun _ => False)
    PaymentService.discipline orderKnowledge Priced where
  left w _ c t hi _ hc hv _ _ h := fun p hp =>
    ⟨(h p hp).1, (BookingService.lasting_quoted _ _).commit w c t hi trivial hc hv (h p hp).2⟩
  right _ _ _ _ hi _ _ hc _ _ hk h := priced_commit hi hc hk h
  driftLeft _ _ _ _ h := h
  driftRight _ _ _ _ h := h

end Steps

/-- Every payment of a booking is for the price of the booking, in every reachable
state of the two services. -/
theorem amount_eq_totalPrice {s : BookingService.Settings} {s' : PaymentService.Settings}
    {j : Joint BookingService.machine PaymentService.machine}
    (h : orderLink.Reachable (payments s s') j) (p : PaymentService.Payment)
    (hp : p ∈ j.right.world.db.payments) :
    ∃ row, j.left.world.db.bookings p.bookingId = some row ∧ p.amount = row.totalPrice := by
  have hpriced := payments_keeps orderLink_within orderKnowledge_sound keeps_priced
    (fun _ hp => nomatch hp) h
  obtain ⟨hpos, row, hrow, hq⟩ := hpriced p hp
  exact ⟨row, hrow, by omega⟩

section Schedules

def orderGuard : Guard BookingService.machine PaymentService.machine where
  callLeft _ _ _ := true
  callRight c _ _ :=
    match c with
    | .createOrder _ => false
    | _ => true
  actLeft _ _ _ := true
  actRight _ _ _ := true

theorem orderGuard_sound : orderGuard.Sound orderLink where
  callLeft _ _ _ _ := trivial
  callRight c _ _ h request he := by
    subst he
    cases h
  actLeft _ _ a _ := by
    cases a <;> first | trivial | exact fun _ _ _ _ => trivial
  actRight _ _ a _ := by
    cases a <;> first | trivial | exact fun _ _ _ _ => trivial
  send _ _ _ _ _ := trivial

/-- A payment is asked for before the hold reply, which is refused, and once more
after it. -/
theorem amount_eq_totalPrice_ordered : ∃ j p row,
    orderLink.Reachable (payments BookingService.sampleSettings PaymentService.sampleSettings) j ∧
    j.right.world.db.payments = [p] ∧
    j.left.world.db.bookings p.bookingId = some row ∧ p.amount = row.totalPrice := by
  obtain ⟨j, hj, ht⟩ := exists_joint orderLink
    (payments BookingService.sampleSettings PaymentService.sampleSettings) orderGuard
    (BookingService.sampleCreated.map .left ++
      [.left (.call (.createPaymentOrder BookingService.sampleBooking 5)), .left (.burst 1 1),
        .send 1, .arrive 0, .right (.burst 0 12),
        .left (.call (.seatsHeld (.event BookingService.sampleHeld))), .left (.burst 2 8),
        .left (.call (.createPaymentOrder BookingService.sampleBooking 5)), .left (.burst 3 1),
        .send 3, .arrive 1, .right (.burst 1 12)])
    (fun j => decide (j.right.world.db.payments.length = 1)) orderGuard_sound (by decide +kernel)
  obtain ⟨p, hp⟩ := List.length_eq_one_iff.mp (of_decide_eq_true ht)
  obtain ⟨row, hrow, hamount⟩ := amount_eq_totalPrice hj p (by rw [hp]; exact List.mem_cons_self)
  exact ⟨j, p, row, hj, hp, hrow, hamount⟩

end Schedules

end RailwayBooking.Integration
