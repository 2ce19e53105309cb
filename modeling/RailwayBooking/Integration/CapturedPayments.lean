import Mathlib.Data.List.Infix
import RailwayBooking.BookingService.Acknowledgement
import RailwayBooking.BookingService.Confirmation
import RailwayBooking.Integration.OrderPrices
import RailwayBooking.Integration.PaidTickets

namespace RailwayBooking.Integration

open Concurrency

/-- Orders are created on the requests of booking-service, whose commits are those of
`S`, and a delivered payment was announced. -/
def captureLink (S : Scope BookingService.machine) :
    Link BookingService.machine PaymentService.machine where
  callLeft c w v := c.ofSaga = true ∧ ConfirmsPaid c v ∧ S.start c w
  callRight c _ _ := ∀ request, c ≠ .createOrder request
  request := orderRequest
  allowLeft c t w _ s := S.allow c t w s
  allowRight _ _ _ _ _ := True

def isPayment (key : BookingService.SagaKey) : Prop := ∃ id, key = .paymentSuccess id

/-- The handler of a payment passes over a booking, which is not waiting for one, only
where it has been confirmed before. -/
def PassesOver (c : BookingService.Call) (t : BookingService.BookingTx)
    (w : BookingService.BookingWorld) : Prop :=
  ∀ e found, c = .paymentSuccess (.event e) → t.site = .paymentSuccess →
    t.Answered (.findById e.bookingId) found →
    (∀ row, found = some row → BookingService.payable row.status = false) →
    BookingService.Reached .confirmed e.bookingId w

/-- Runs in which no payment is passed over, and no delivery of one returns because
of an unfinished one. -/
def payingRuns : Scope BookingService.machine where
  start _ _ := True
  allow c t w s := (∀ key, isPayment key → s = .aux (.reserveIfNew key) →
      w.env.saga.get w.env.now key = some .processing → BookingService.Settled key w) ∧
    ∀ h t', s = .commit h → t = some t' → PassesOver c t' w

theorem captureLink_within {S : Scope BookingService.machine}
    (hS : S.Within (BookingService.discipline isPayment)) :
    (captureLink S).Within (BookingService.discipline isPayment) PaymentService.discipline where
  callLeft _ _ _ _ := trivial
  callRight _ _ _ _ := trivial
  request _ _ _ _ := trivial
  allowLeft c t w _ s := hS.allow c t w s
  allowRight _ _ _ _ _ _ := trivial

theorem payingRuns_within : payingRuns.Within (BookingService.discipline isPayment) where
  start _ _ _ := trivial
  allow _ _ _ _ h := h.1

def captureKnowledge : Knowledge BookingService.machine PaymentService.machine where
  left c v := c.ofSaga = true ∧ ConfirmsPaid c v
  right _ _ := True

theorem captureKnowledge_sound (S : Scope BookingService.machine) :
    captureKnowledge.Sound (BookingService.discipline isPayment) PaymentService.discipline
      (captureLink S) where
  left c := (lasting_const _).and (lasting_confirmsPaid c)
  right _ := lasting_true
  callLeft _ _ _ h := ⟨h.1, h.2.1⟩
  callRight _ _ _ _ := trivial
  request _ _ _ _ _ _ := trivial

def CapturesAnnounced (v : PaymentService.PaymentWorld) : Prop :=
  ∀ p ∈ v.db.payments, p.status = .captured → ∃ e, Announced e v ∧ e.bookingId = p.bookingId

def PaymentsServed (w : BookingService.BookingWorld) (v : PaymentService.PaymentWorld) : Prop :=
  ∀ e t, (.paymentSuccess (.event e), t) ∈ w.log → t.site = .paymentSuccess →
    Announced e v ∧ BookingService.Reached .confirmed e.bookingId w

structure Served (w : BookingService.BookingWorld) (v : PaymentService.PaymentWorld) : Prop where
  replayed : w.db = World.replay BookingService.Db.empty w.log
  moves : BookingService.MovesReach w
  stays : BookingService.StaysPaid w
  served : PaymentsServed w v
  ids : (v.db.outbox.map PaymentService.OutboxEvent.eventId).Nodup
  captures : CapturesAnnounced v

section Steps

variable {w : BookingService.BookingWorld} {v : PaymentService.PaymentWorld}

theorem nodup_commit {c : PaymentService.Call} {t : PaymentService.PaymentTx}
    (hc : PaymentService.Commit c t v)
    (h : (v.db.outbox.map PaymentService.OutboxEvent.eventId).Nodup) :
    ((v.commit c t).db.outbox.map PaymentService.OutboxEvent.eventId).Nodup := by
  obtain ⟨ev, u, hout, hu, hd⟩ := hc.outbox
  rw [hout, List.map_append, List.map_singleton, List.nodup_append]
  refine ⟨h, List.nodup_singleton _, fun x hx y hy he => ?_⟩
  obtain ⟨ev', hev', rfl⟩ := List.mem_map.mp hx
  rw [List.mem_singleton.mp hy, hu] at he
  exact absurd (hd.unused ev' hev' u he hd.source) (lt_irrefl _)

theorem CapturesAnnounced.commit {c : PaymentService.Call} {t : PaymentService.PaymentTx}
    (hi : PaymentService.Inv v) (hc : PaymentService.Commit c t v) (hv : t.Covered)
    (h : CapturesAnnounced v) : CapturesAnnounced (v.commit c t) := by
  have hold : ∀ p ∈ v.db.payments, p.status = .captured →
      ∃ e, Announced e (v.commit c t) ∧ e.bookingId = p.bookingId := by
    intro p hp hst
    obtain ⟨e, he, hb⟩ := h p hp hst
    exact ⟨e, (lasting_announced e).commit v c t hi trivial hc hv he, hb⟩
  intro p hp hst
  change p ∈ (t.view v.db).payments at hp
  cases hc with
  | ordered _ _ _ _ _ _ _ hw =>
    rw [PaymentService.payments_ordered hw] at hp
    obtain hp | hp := List.mem_append.mp hp
    · exact hold p hp hst
    · rw [List.mem_singleton.mp hp] at hst
      cases hst
  | recaptured _ _ _ _ _ _ hw =>
    rw [PaymentService.view_eq, hw] at hp
    exact hold p hp hst
  | failed _ _ _ _ _ hw =>
    rw [PaymentService.payments_put hw] at hp
    obtain ⟨q, hq, rfl⟩ := List.mem_map.mp hp
    split at hst
    · cases hst
    · next hne => simpa only [if_neg hne] using hold q hq hst
  | @captured _ _ _ input read row eventId _ hcur hsame _ _ _ _ hw =>
    rw [PaymentService.payments_put hw] at hp
    obtain ⟨q, hq, rfl⟩ := List.mem_map.mp hp
    split
    · refine ⟨PaymentService.successEvent input read eventId, ⟨read.id, ?_⟩, hsame.bookingId.symm⟩
      rw [PaymentService.commit_outbox, hw]
      exact List.mem_append_right _ (List.mem_singleton.mpr rfl)
    · next hne =>
      rw [if_neg hne] at hst
      exact hold q hq hst

theorem passesOver_of_passes {c : BookingService.Call} {t : BookingService.BookingTx}
    (hs : payingRuns.Passes c t w) : PassesOver c t w := by
  cases hs with
  | commit h ha => exact ha.2 h t rfl rfl
  | single i q a ws ks _ _ ht _ =>
    intro e found _ hsite
    rw [ht] at hsite
    cases hsite

theorem reached_of_commit {e : PaymentSuccess} {t : BookingService.BookingTx}
    (hc : BookingService.Commit (.paymentSuccess (.event e)) t w) (hsite : t.site = .paymentSuccess)
    (hm : BookingService.MovesReach w) (hp : PassesOver (.paymentSuccess (.event e)) t w) :
    BookingService.Reached .confirmed e.bookingId w := by
  cases hc with
  | paymentMissing _ hans _ => exact hp e none rfl hsite hans fun _ hrow => by cases hrow
  | paymentSkipped _ hans hun _ =>
    exact hp e _ rfl hsite hans fun row hrow => Option.some.inj hrow ▸ hun
  | paid _ hmoved _ => exact hm _ _ _ hmoved
  | transition _ hs | recorded hs =>
    rw [hsite] at hs
    cases hs

theorem Served.commitLeft {c : BookingService.Call} {t : BookingService.BookingTx}
    (hi : BookingService.Inv w) (hc : BookingService.Commit c t w) (hs : payingRuns.Passes c t w)
    (ho : c.ofSaga = true) (hk : ConfirmsPaid c v) (h : Served w v) : Served (w.commit c t) v where
  replayed := by rw [World.commit, replay_append, ← h.replayed]
  moves := h.moves.commit hi h.replayed hc
  stays := h.stays.commit hi h.replayed hc ho
  served e t' hmem hsite := by
    obtain hmem | hmem := List.mem_append.mp hmem
    · obtain ⟨he, hr⟩ := h.served e t' hmem hsite
      exact ⟨he, hr.commit c t⟩
    · cases List.mem_singleton.mp hmem
      have hr := reached_of_commit hc hsite h.moves (passesOver_of_passes hs)
      exact ⟨hk, hr.commit _ t⟩
  ids := h.ids
  captures := h.captures

theorem Served.commitRight {c : PaymentService.Call} {t : PaymentService.PaymentTx}
    (hi : PaymentService.Inv v) (hc : PaymentService.Commit c t v) (hv : t.Covered)
    (h : Served w v) : Served w (v.commit c t) where
  replayed := h.replayed
  moves := h.moves
  stays := h.stays
  served e t' hmem hsite := by
    obtain ⟨he, hr⟩ := h.served e t' hmem hsite
    exact ⟨(lasting_announced e).commit v c t hi trivial hc hv he, hr⟩
  ids := nodup_commit hc h.ids
  captures := h.captures.commit hi hc hv

theorem keeps_served : (captureLink payingRuns).Keeps (BookingService.discipline isPayment)
    PaymentService.discipline captureKnowledge Served where
  left w v c t hi _ hc _ hs hk h := by
    refine h.commitLeft hi hc ?_ hk.1 hk.2
    cases hs with
    | commit k ha => exact .commit k ha
    | single i q a ws ks hrun hws ht ha => exact .single i q a ws ks hrun hws ht ha
  right _ _ _ _ _ hi _ hc hv _ _ h := h.commitRight hi hc hv
  driftLeft _ _ _ _ h := ⟨h.replayed, h.moves, h.stays, h.served, h.ids, h.captures⟩
  driftRight _ _ _ _ h := ⟨h.replayed, h.moves, h.stays, h.served, h.ids, h.captures⟩

end Steps

theorem served_pools (s : BookingService.Settings) (s' : PaymentService.Settings) :
    Served s.pool.world s'.pool.world where
  replayed := rfl
  moves i b st h := by
    obtain ⟨c, t, v, row, hmem, _⟩ := h
    cases hmem
  stays b h := by
    obtain ⟨before, later, row, hlog, hrow, -⟩ := h
    obtain ⟨rfl, -⟩ := List.append_eq_nil_iff.mp hlog.symm
    cases hrow
  served e t hmem _ := by cases hmem
  ids := List.nodup_nil
  captures p hp _ := by cases hp

/-- Every announced payment has been delivered to booking-service, and a delivery of it
has returned. -/
def AllHandled (j : Joint BookingService.machine PaymentService.machine) : Prop :=
  ∀ e, Announced e j.right.world → j.left.Handled (.paymentSuccess (.event e))

/-- The booking of a captured payment is confirmed, or was and is being cancelled. -/
def NoneLost (j : Joint BookingService.machine PaymentService.machine) : Prop :=
  ∀ p ∈ j.right.world.db.payments, p.status = .captured →
    ∃ row, j.left.world.db.bookings p.bookingId = some row ∧
      (row.status = .confirmed ∨ ((row.status = .cancelling ∨ row.status = .cancelled) ∧
        BookingService.Reached .confirmed p.bookingId j.left.world))

theorem served_of_handled {s : BookingService.Settings} {s' : PaymentService.Settings}
    {j : Joint BookingService.machine PaymentService.machine}
    (h : (captureLink payingRuns).Reachable (payments s s') j) (hall : AllHandled j)
    {e : PaymentSuccess} (he : Announced e j.right.world) :
    ∃ e' t, (.paymentSuccess (.event e'), t) ∈ j.left.world.log ∧ t.site = .paymentSuccess ∧
      e'.eventId = e.eventId := by
  obtain ⟨_, hpost⟩ :=
    (payments_wellFormed (captureLink_within payingRuns_within) h).handled (hall e he)
  obtain ⟨c, t, hmem, hkey, hsite⟩ := hpost (.paymentSuccess e.eventId) ⟨_, rfl⟩ rfl
  unfold BookingService.Call.key at hkey
  split at hkey
  · cases hkey
  · cases hkey
  · cases hkey
  · next e' => exact ⟨e', t, hmem, hsite, BookingService.SagaKey.paymentSuccess.inj
      (Option.some.inj hkey)⟩
  · cases hkey

theorem announced_inj {w : BookingService.BookingWorld} {v : PaymentService.PaymentWorld}
    (h : Served w v) {e e' : PaymentSuccess} (he : Announced e v) (he' : Announced e' v)
    (hid : e'.eventId = e.eventId) : e' = e := by
  obtain ⟨p, hp⟩ := he
  obtain ⟨p', hp'⟩ := he'
  exact (PaymentService.OutboxEvent.paymentSuccess.inj
    (List.inj_on_of_nodup_map h.ids hp' hp hid)).2

/-- No captured payment is lost, where none is passed over. -/
theorem noneLost_of_payingRuns {s : BookingService.Settings} {s' : PaymentService.Settings}
    {j : Joint BookingService.machine PaymentService.machine}
    (h : (captureLink payingRuns).Reachable (payments s s') j) (hall : AllHandled j) :
    NoneLost j := by
  have hserved := payments_keeps (captureLink_within payingRuns_within) (captureKnowledge_sound _)
    keeps_served (served_pools s s') h
  intro p hp hst
  obtain ⟨e, he, hb⟩ := hserved.captures p hp hst
  obtain ⟨e', t, hmem, hsite, hid⟩ := served_of_handled h hall he
  obtain ⟨he', hr⟩ := hserved.served e' t hmem hsite
  rw [announced_inj hserved he he' hid, hb] at hr
  obtain ⟨row, hrow, hpaid⟩ := hserved.stays _ hr
  refine ⟨row, hrow, ?_⟩
  cases hs : row.status <;> rw [hs] at hpaid
  case confirmed => exact .inl rfl
  case cancelling => exact .inr ⟨.inl rfl, hr⟩
  case cancelled => exact .inr ⟨.inr rfl, hr⟩
  all_goals cases hpaid

section Schedules

def foundUnpayable : (Σ q : BookingService.Sql, BookingService.Rows q) → Bool
  | ⟨.findById _, none⟩ => true
  | ⟨.findById _, some row⟩ => !BookingService.payable row.status
  | _ => false

def passesOver (p : Pool BookingService.machine) (i : Nat) : Bool :=
  match p.threads[i]? with
  | some ⟨_, some (.call (.commit h) _)⟩ =>
    (p.shared.txs h).any (fun t => t.site = .paymentSuccess && t.stmts.any foundUnpayable)
  | _ => false

def nonePassedOver (p : Pool BookingService.machine) :
    Action BookingService.bookingService → Bool
  | .run i ch => BookingService.noneProcessing p (.run i ch) && !passesOver p i
  | _ => true

theorem permits_nonePassedOver (p : Pool BookingService.machine)
    (a : Action BookingService.bookingService) (h : nonePassedOver p a = true) :
    payingRuns.Permits p a := by
  cases a with
  | run i ch =>
    intro c s k hth
    obtain ⟨hnone, hover⟩ := Bool.and_eq_true_iff.mp h
    refine ⟨fun key _ hs hget => BookingService.permits_noneProcessing p _ hnone c s k hth key hs
      hget, ?_⟩
    rintro h' t rfl ht e found rfl hsite hans hun
    simp only [Stmt.via, Option.bind_some] at ht
    simp only [passesOver, hth, ht, Option.any_some, hsite, decide_true, Bool.true_and,
      Bool.not_eq_true', List.any_eq_false] at hover
    refine absurd ?_ (hover _ hans)
    cases found with
    | none => rfl
    | some row => simp [foundUnpayable, hun row rfl]
  | crash i => trivial
  | tick d => trivial

def captureGuard (test : Pool BookingService.machine → Action BookingService.bookingService → Bool) :
    Guard BookingService.machine PaymentService.machine where
  callLeft c _ v := c.ofSaga && confirmsPaid c v
  callRight c _ _ :=
    match c with
    | .createOrder _ => false
    | _ => true
  actLeft p _ a := test p a
  actRight _ _ _ := true

theorem captureGuard_sound
    {test : Pool BookingService.machine → Action BookingService.bookingService → Bool}
    {S : Scope BookingService.machine} (hstart : ∀ c w, S.start c w)
    (hpermits : ∀ p a, test p a = true → S.Permits p a)
    (hsend : ∀ c a w, orderRequest a ≠ none → S.allow c none w (.aux a)) :
    (captureGuard test).Sound (captureLink S) where
  callLeft c w _ h :=
    have ⟨hsaga, hpaid⟩ := Bool.and_eq_true_iff.mp h
    ⟨hsaga, confirmsPaid_sound hpaid, hstart c w⟩
  callRight c _ _ h request he := by
    subst he
    cases h
  actLeft p _ a h := hpermits p a h
  actRight _ _ a _ := by
    cases a <;> first | trivial | exact fun _ _ _ _ => trivial
  send c a w _ h := hsend c a w h

def isDelivery (e : PaymentSuccess) : BookingService.Call → Bool
  | .paymentSuccess (.event e') => e' = e
  | _ => false

theorem call_of_isDelivery {e : PaymentSuccess} (c : BookingService.Call)
    (h : isDelivery e c = true) : c = .paymentSuccess (.event e) := by
  unfold isDelivery at h
  split at h
  · rw [of_decide_eq_true h]
  · cases h

def handledAll (j : Joint BookingService.machine PaymentService.machine) : Bool :=
  j.right.world.db.outbox.all (fun
    | .paymentSuccess _ e => j.left.handles (isDelivery e)
    | _ => true)

theorem allHandled_of_handledAll {j : Joint BookingService.machine PaymentService.machine}
    (h : handledAll j = true) : AllHandled j := by
  intro e he
  obtain ⟨id, hmem⟩ := he
  exact Pool.handled_of_handles call_of_isDelivery (List.all_eq_true.mp h _ hmem)

def requestedTurns : List (Turn BookingService.machine PaymentService.machine) :=
  BookingService.heldRun.map .left ++
    [.left (.call (.createPaymentOrder BookingService.sampleBooking 5)), .left (.burst 2 1),
      .send 2, .arrive 0, .right (.burst 0 12)]

def capturedTurns (i : Nat) : List (Turn BookingService.machine PaymentService.machine) :=
  [.right (.call (.verifyAndCapture PaymentService.sampleCheckout)), .right (.burst 1 12),
    .left (.call (.paymentSuccess (.event (samplePaid 3)))), .left (.burst i 40)]

theorem noneLost_paid : ∃ j,
    (captureLink payingRuns).Reachable
      (payments BookingService.sampleSettings PaymentService.sampleSettings) j ∧
    ticketOutcome j = (some .confirmed, [.captured]) ∧ AllHandled j ∧ NoneLost j := by
  obtain ⟨j, hj, ht⟩ := exists_joint (captureLink payingRuns)
    (payments BookingService.sampleSettings PaymentService.sampleSettings)
    (captureGuard nonePassedOver) (requestedTurns ++ capturedTurns 3)
    (fun j => decide (ticketOutcome j = (some .confirmed, [.captured])) && handledAll j)
    (captureGuard_sound (fun _ _ => trivial) permits_nonePassedOver fun c a w h =>
      ⟨fun key _ hs => by cases hs; exact absurd rfl h, fun _ _ hs => by cases hs⟩)
    (by decide +kernel)
  obtain ⟨hout, hall⟩ := Bool.and_eq_true_iff.mp ht
  exact ⟨j, hj, of_decide_eq_true hout, allHandled_of_handledAll hall,
    noneLost_of_payingRuns hj (allHandled_of_handledAll hall)⟩

def neverReached (s : BookingStatus) (b : Uuid) (w : BookingService.BookingWorld) : Bool :=
  w.log.inits.all (fun log => ((World.replay BookingService.Db.empty log).bookings b).all
    (fun row => row.status ≠ s))

theorem not_reached_of_neverReached {s : BookingStatus} {b : Uuid} {w : BookingService.BookingWorld}
    (h : neverReached s b w = true) : ¬ BookingService.Reached s b w := by
  intro hr
  obtain ⟨before, later, row, hlog, hrow, hst⟩ := hr
  have hall := List.all_eq_true.mp h before ((List.mem_inits _ _).mpr ⟨later, hlog.symm⟩)
  rw [hrow, Option.all_some] at hall
  exact of_decide_eq_true hall hst

/-- The booking is cancelled while its payment is being made: the payment is captured,
and its handler passes over the booking. -/
theorem not_noneLost : ¬ ∀ (s : BookingService.Settings) (s' : PaymentService.Settings)
    (j : Joint BookingService.machine PaymentService.machine),
    (captureLink (Scope.calls fun _ => True)).Reachable (payments s s') j → AllHandled j →
      NoneLost j := by
  intro hall
  obtain ⟨j, hj, ht⟩ := exists_joint (captureLink (Scope.calls fun _ => True))
    (payments BookingService.sampleSettings PaymentService.sampleSettings)
    (captureGuard fun _ _ => true)
    (requestedTurns ++ [.left (.call (.cancelBooking BookingService.sampleBooking 5)),
      .left (.burst 3 40)] ++ capturedTurns 4)
    (fun j => decide (ticketOutcome j = (some .cancelled, [.captured])) && (handledAll j &&
      (neverReached .confirmed BookingService.sampleBooking j.left.world &&
        decide (j.right.world.db.payments.map PaymentService.Payment.bookingId =
          [BookingService.sampleBooking]))))
    (captureGuard_sound (fun _ _ => trivial) (fun p a _ => permits_calls p a)
      fun _ _ _ _ => trivial) (by decide +kernel)
  obtain ⟨hout, ht⟩ := Bool.and_eq_true_iff.mp ht
  obtain ⟨hhandled, ht⟩ := Bool.and_eq_true_iff.mp ht
  obtain ⟨hnever, hbook⟩ := Bool.and_eq_true_iff.mp ht
  obtain ⟨p, hp, hb⟩ := List.map_eq_singleton_iff.mp (of_decide_eq_true hbook)
  have hout := of_decide_eq_true hout
  have hcap := congrArg Prod.snd hout
  change j.right.world.db.payments.map PaymentService.Payment.status = [.captured] at hcap
  rw [hp, List.map_singleton] at hcap
  obtain ⟨row, hrow, hst⟩ := hall _ _ j hj (allHandled_of_handledAll hhandled) p
    (by rw [hp]; exact List.mem_singleton_self p) (List.cons.inj hcap).1
  rw [hb] at hrow hst
  obtain hst | ⟨-, hr⟩ := hst
  · have hbooking := congrArg Prod.fst hout
    change (j.left.world.db.bookings _).map BookingService.Booking.status = _ at hbooking
    rw [hrow, Option.map_some, hst] at hbooking
    cases hbooking
  · exact not_reached_of_neverReached hnever hr

end Schedules

end RailwayBooking.Integration
