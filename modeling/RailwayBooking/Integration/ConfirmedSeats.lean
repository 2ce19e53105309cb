import RailwayBooking.Integration.OwnedSeats

namespace RailwayBooking.Integration

open Concurrency

/-- Every call of booking-service but `markSeatsHeld`, which nothing makes. -/
def Called (c : BookingService.Call) : Prop := ∀ b l, c ≠ .markSeatsHeld b l

/-- booking-service asking inventory-service for the seats of its projection. -/
def asking (s : BookingService.Settings) (P : InventoryService.Projection) :
    BookingService.Settings :=
  { s with catalog := some (getSeatsDetailsBatch P) }

def termsLink (T : InventoryService.Terms) :
    Link BookingService.machine InventoryService.machine :=
  { seatLink Called with
    callRight := fun c w v => Published c w ∧ (InventoryService.discipline T).pre c v }

def termsOf (w : BookingService.BookingWorld) : InventoryService.Terms where
  requestOf b := w.db.outbox.findSome? (fun
    | .holdSeatsRequested r => if r.bookingId = b then some r else none
    | .bookingStatusChanged _ => none)
  ordered := True

def Agrees (T : InventoryService.Terms) (w : BookingService.BookingWorld) : Prop :=
  ∀ r, .holdSeatsRequested r ∈ w.db.outbox → T.requestOf r.bookingId = some r

section Terms

variable {T : InventoryService.Terms} {P : InventoryService.Projection}
  {s : BookingService.Settings} {now : Nat}
  {j : Joint BookingService.machine InventoryService.machine}

theorem agrees_termsOf {f : Id → List Id → List BookingService.SeatDetails}
    {w : BookingService.BookingWorld} (h : BookingService.RequestsFit f w) :
    Agrees (termsOf w) w := by
  intro r hr
  change w.db.outbox.findSome? _ = some r
  generalize hf : w.db.outbox.findSome? _ = o
  cases o with
  | none =>
    have hnone := List.findSome?_eq_none_iff.mp hf _ hr
    simp at hnone
  | some r' =>
    obtain ⟨ev, hev, hsome⟩ := List.exists_of_findSome?_eq_some hf
    split at hsome
    · simp only [Option.ite_none_right_eq_some, Option.some.injEq] at hsome
      obtain ⟨hb, rfl⟩ := hsome
      rw [h.one _ _ hev hr hb]
    · cases hsome

theorem termsLink_refines : Refines Called (termsLink T) :=
  ⟨fun _ _ _ h => h, fun _ _ _ h => h.1, fun _ => rfl⟩

theorem within_terms : (termsLink T).Within (BookingService.discipline fun _ => False)
    (InventoryService.discipline T) where
  callLeft _ _ _ _ := trivial
  callRight _ _ _ h := h.2
  request _ _ _ h := by cases h
  allowLeft _ _ _ _ _ _ _ h := h.elim
  allowRight _ _ _ _ _ _ := trivial

theorem keeps_owned (ho : T.ordered) : (termsLink T).Keeps
    (BookingService.discipline fun _ => False) (InventoryService.discipline T)
    (seatKnowledge Called) (Owned T P) where
  left _ _ _ _ hi _ hc _ _ hk h := h.commitLeft hi hc hk.1 hk.2
  right _ _ _ _ _ hi _ hc _ _ hp h := h.commitRight ho hi hc hp
  driftLeft _ _ _ hd h := { h with
    requests := h.requests.drift hd
    holds := fun e he => have ⟨r, hr⟩ := h.holds e he
      ⟨r, { hr with }⟩ }
  driftRight _ _ _ _ h := { h with
    holds := fun e he => have ⟨r, hr⟩ := h.holds e he
      ⟨r, { hr with }⟩ }

theorem owned_pools : Owned T P (asking s P).pool.world (InventoryService.start P now).world where
  requests := BookingService.requestsFit_pool (asking s P) rfl
  ids := List.nodup_nil
  seats := rfl
  allocated a ha := by cases ha
  holds e he := by cases he
  released a ha := by cases ha
  ended e he := by cases he
  backed e he := by cases he
  recorded id h := by cases h
  settled e he := by cases he
  seated b row h := by cases h
  announced b row h := by cases h

theorem owned_of_run (ho : T.ordered) (h : (termsLink T).Reachable (seats (asking s P) P now) j) :
    Owned T P j.left.world j.right.world :=
  seats_keeps within_terms (seatKnowledge_sound termsLink_refines) (keeps_owned ho) owned_pools h

/-- Whatever booking-service does, a booking has one request. -/
theorem requestsFit_of_run {start : BookingService.Call → Prop}
    (h : (seatLink start).Reachable (seats (asking s P) P now) j) :
    BookingService.RequestsFit (getSeatsDetailsBatch P) j.left.world :=
  seats_keeps (F := fun w _ => BookingService.RequestsFit (getSeatsDetailsBatch P) w)
    (within_free (seatLink_refines start)) (seatKnowledge_sound (seatLink_refines start))
    ⟨fun _ _ _ _ hi _ hc _ _ _ h => h.commit hi hc, fun _ _ _ _ _ _ _ _ _ _ _ h => h,
      fun _ _ _ hd h => h.drift hd, fun _ _ _ _ h => h⟩
    (BookingService.requestsFit_pool (asking s P) rfl) h

theorem Owned.pre {w : BookingService.BookingWorld} {v : InventoryService.InventoryWorld}
    {c : InventoryService.Call} (hT : Agrees T w) (hp : Published c w) (h : Owned T P w v) :
    (InventoryService.discipline T).pre c v := by
  constructor
  · intro r hreq r' hr'
    rw [hT r (published_of_request hp hreq)] at hr'
    exact Option.some.inj hr'
  · intro _ e hcon r hr
    obtain ⟨ev, hev, hconf, rfl⟩ := published_of_confirms hp hcon
    obtain ⟨e', he', hb⟩ := h.backed ev hev hconf
    obtain ⟨r', hr'⟩ := h.holds e' he'
    have hsame := hT r' hr'.request
    rw [hr'.booking, hb, show T.requestOf ev.bookingId = some r from hr] at hsame
    rw [Option.some.inj hsame]
    exact hr'.recorded

/-- A run of the two services is one on the terms that its requests make. -/
theorem terms_of_run (ho : T.ordered) (h : (seatLink Called).Reachable (seats (asking s P) P now) j)
    (hT : Agrees T j.left.world) : (termsLink T).Reachable (seats (asking s P) P now) j := by
  induction h with
  | start => exact .start
  | callLeft _ hc ih => exact (ih hT).callLeft hc
  | callRight _ hc ih =>
    exact (ih hT).callRight ⟨hc, (owned_of_run ho (ih hT)).pre hT hc⟩
  | send _ _ hr => cases hr
  | arrive _ hc ih => exact (ih hT).arrive hc
  | actLeft h ha hp ih =>
    have hw := seats_wellFormed (within_free (seatLink_refines Called)) h
    exact (ih fun r hr => hT r ((BookingService.lasting_outbox _).act BookingService.lawful
      ((within_free (seatLink_refines Called)).left _) hw.left ha hp hr)).actLeft ha hp
  | actRight _ ha hp ih => exact (ih hT).actRight ha hp

end Terms

/-- Every seat of a confirmed booking has one allocation, which is confirmed, and the
booking has no other active allocation. -/
def SeatsOwned (j : Joint BookingService.machine InventoryService.machine) : Prop :=
  ∀ b row, j.left.world.db.bookings b = some row → row.status = .confirmed →
    (∀ s ∈ j.left.world.db.seats, s.bookingId = b → ∃ i a, s.seatInventoryId = some i ∧
      j.right.world.db.allocations.filter (fun a => a.bookingId = b ∧ a.seatInventoryId = i) = [a] ∧
      a.status = .confirmed) ∧
    ∀ a ∈ j.right.world.db.allocations, a.bookingId = b → a.status.active = true →
      ∃ s ∈ j.left.world.db.seats, s.bookingId = b ∧ s.seatInventoryId = some a.seatInventoryId

section Owners

variable {T : InventoryService.Terms} {P : InventoryService.Projection}
  {w : BookingService.BookingWorld} {v : InventoryService.InventoryWorld}

theorem seat_of_key {q q' : InventoryService.SeatInventory} (hq : q ∈ P.seats) (hq' : q' ∈ P.seats)
    (hsched : q.scheduleId = q'.scheduleId) (hseat : q.seatId = q'.seatId) : q = q' := by
  apply List.inj_on_of_nodup_map P.seat_key hq hq'
  rw [hsched, hseat]

theorem HoldOf.seatInventoryId {e : SeatsHeld} {r : HoldSeatsRequested} (hr : HoldOf P r e w v)
    (hen : Enriched e e.bookingId w.db.seats)
    {s : BookingService.BookingSeat} (hs : s ∈ w.db.seats) (hb : s.bookingId = e.bookingId)
    {q : InventoryService.SeatInventory} (hq : q ∈ P.seats) (hsched : q.scheduleId = r.scheduleId)
    (hseat : q.seatId = s.seatId) : s.seatInventoryId = some q.id := by
  obtain ⟨x, hx, hxs, hid⟩ := hen s hs hb
  obtain ⟨q', hq', hsched', hseat', hqx⟩ := hr.entries x hx
  rw [hid, ← hqx, seat_of_key hq hq' (hsched.trans hsched'.symm)
    (hseat.trans (hxs.symm.trans hseat'.symm))]

theorem Owned.seat_of_allocation (h : Owned T P w v) {e : SeatsHeld}
    (he : .seatsHeld e ∈ v.db.outbox) (hen : Enriched e e.bookingId w.db.seats)
    {a : InventoryService.SeatAllocation} (ha : a ∈ v.db.allocations)
    (hb : a.bookingId = e.bookingId) :
    ∃ s ∈ w.db.seats, s.bookingId = e.bookingId ∧ s.seatInventoryId = some a.seatInventoryId := by
  obtain ⟨r, hr⟩ := h.holds e he
  obtain ⟨r', hr', hrb, hmem⟩ := h.allocated a ha
  obtain rfl : r' = r := h.requests.one _ _ hr' hr.request (hrb.trans (hb.trans hr.booking.symm))
  obtain ⟨q, hq, hqi, hsched, s, hs, hsb, hsk⟩ := (names_of_fits (h.requests.fits _ hr')).ids _ hmem
  have hsb' := hsb.trans hr.booking
  exact ⟨s, hs, hsb', by rw [hr.seatInventoryId hen hs hsb' hq hsched hsk.symm, hqi]⟩

theorem Owned.allocation_of_seat (h : Owned T P w v) {e : SeatsHeld}
    (he : .seatsHeld e ∈ v.db.outbox) (hen : Enriched e e.bookingId w.db.seats)
    {s : BookingService.BookingSeat} (hs : s ∈ w.db.seats) (hb : s.bookingId = e.bookingId) :
    ∃ a ∈ v.db.allocations, a.bookingId = e.bookingId ∧
      s.seatInventoryId = some a.seatInventoryId := by
  obtain ⟨r, hr⟩ := h.holds e he
  obtain ⟨q, hq, hqs, hsched, hqi⟩ := (names_of_fits (h.requests.fits r hr.request)).seats s hs
    (hb.trans hr.booking.symm)
  obtain ⟨a, ha, hab, hai⟩ := hr.allocated q.id hqi
  exact ⟨a, ha, hab.trans hr.booking, by rw [hr.seatInventoryId hen hs hb hq hsched hqs, hai]⟩

theorem Owned.confirmed (h : Owned T P w v) (hT : Agrees T w) {e : BookingStatusChanged}
    (he : .bookingStatusChanged e ∈ w.db.outbox) (hconf : e.currentStatus = .confirmed)
    (hrec : InventoryService.Recorded (.confirm e.eventId) v) {row : BookingService.Booking}
    (hrow : w.db.bookings e.bookingId = some row) (hst : row.status = .confirmed)
    {a : InventoryService.SeatAllocation} (ha : a ∈ v.db.allocations)
    (hb : a.bookingId = e.bookingId) : a.status = .confirmed := by
  obtain ⟨r, hr, hrb, -⟩ := h.allocated a ha
  have hreq : T.requestOf e.bookingId = some r := by rw [← hb, ← hrb, hT r hr]
  have hheld := h.settled e he hconf hrec r hreq a ha hb
  have hact : a.status.active = true := by
    by_contra hnot
    obtain ⟨e', he', heb, hrel⟩ := h.released a ha (Bool.not_eq_true _ ▸ hnot)
    obtain ⟨row', hrow', hrel'⟩ := h.ended e' he' hrel
    rw [heb, hb, hrow] at hrow'
    cases hrow'
    rw [hst] at hrel'
    exact absurd hrel' (by decide)
  cases hstatus : a.status with
  | held => exact absurd hstatus hheld
  | confirmed => rfl
  | cancelled | expired =>
    rw [hstatus] at hact
    cases hact

theorem filter_allocation (hi : InventoryService.Inv v) {a : InventoryService.SeatAllocation}
    (ha : a ∈ v.db.allocations) :
    v.db.allocations.filter (fun a' => a'.bookingId = a.bookingId ∧
      a'.seatInventoryId = a.seatInventoryId) = [a] := by
  have hcongr : v.db.allocations.filter (fun a' => a'.bookingId = a.bookingId ∧
      a'.seatInventoryId = a.seatInventoryId) = v.db.allocations.filter (· == a) := by
    apply List.filter_congr
    intro a' ha'
    rw [decide_eq_decide.mpr, beq_eq_decide]
    constructor
    · rintro ⟨hb, hs⟩
      apply List.inj_on_of_nodup_map hi.ids ha' ha
      rw [InventoryService.SeatAllocation.id, hb, hs]
      rfl
    · rintro rfl
      exact ⟨rfl, rfl⟩
  rw [hcongr, List.filter_beq, List.count_eq_one_of_mem hi.ids.of_map ha]
  rfl

end Owners

/-- Once all messages are handled, confirmed bookings own their seats. -/
theorem seatsOwned_of_seatLink {s : BookingService.Settings} {P : InventoryService.Projection}
    {now : Nat} {j : Joint BookingService.machine InventoryService.machine}
    (h : (seatLink Called).Reachable (seats (asking s P) P now) j) (hd : Drained j) :
    SeatsOwned j := by
  have hT := agrees_termsOf (requestsFit_of_run h)
  have hown := owned_of_run trivial (terms_of_run trivial h hT)
  have hw := seats_wellFormed (within_free (seatLink_refines Called)) h
  intro b row hrow hst
  obtain ⟨e, he, rfl, hconf⟩ := hown.announced b row hrow hst
  obtain ⟨e', he', hb, hen⟩ := hown.seated _ row hrow (by rw [hst]; rfl)
  rw [← hb] at hen
  obtain ⟨_, hpost⟩ := hw.right.handled (hd.statuses e he)
  have hrec := hpost.1 ⟨e.eventId, e.bookingId⟩ (if_pos hconf)
  constructor
  · intro seat hseat hsb
    obtain ⟨a, ha, hab, hid⟩ := hown.allocation_of_seat he' hen hseat (hsb.trans hb.symm)
    have hab' := hab.trans hb
    refine ⟨a.seatInventoryId, a, hid, ?_, hown.confirmed hT he hconf hrec hrow hst ha hab'⟩
    rw [← hab']
    exact filter_allocation hw.right.inv ha
  · intro a ha hab _
    obtain ⟨seat, hseat, hsb, hid⟩ := hown.seat_of_allocation he' hen ha (hab.trans hb.symm)
    exact ⟨seat, hseat, hsb.trans hb, hid⟩

section Schedules

def samplePayment : PaymentSuccess :=
  ⟨.random ⟨1, 3⟩, BookingService.sampleBooking, ⟨1, 1⟩, ⟨0, 0⟩, 501, 12500, .client⟩

def makes : BookingService.Call → Bool
  | .markSeatsHeld _ _ => false
  | _ => true

def calledGuard : Guard BookingService.machine InventoryService.machine where
  callLeft c _ v := makes c && replied c v
  callRight c w _ := published c w
  actLeft _ _ _ := true
  actRight _ _ _ := true

theorem calledGuard_sound : calledGuard.Sound (seatLink Called) where
  callLeft c _ _ h := by
    obtain ⟨hmakes, hreply⟩ := Bool.and_eq_true_iff.mp h
    refine ⟨fun b l hc => ?_, replied_sound hreply⟩
    rw [hc] at hmakes
    cases hmakes
  callRight _ _ _ h := published_sound h
  actLeft _ _ a _ := by
    cases a <;> first | trivial | exact fun _ _ _ _ => trivial
  actRight _ _ a _ := by
    cases a <;> first | trivial | exact fun _ _ _ _ => trivial
  send _ _ _ _ h := absurd rfl h

/-- A booking that is paid for after its seats were held. -/
theorem seatsOwned_confirmed : ∃ j,
    (seatLink Called).Reachable (seats (asking BookingService.sampleSettings
      InventoryService.sampleProjection) InventoryService.sampleProjection 0) j ∧
    seatOutcome j = (some .confirmed, [.confirmed]) ∧ Drained j ∧ SeatsOwned j := by
  obtain ⟨j, hj, ht⟩ := exists_joint (seatLink Called)
    (seats (asking BookingService.sampleSettings InventoryService.sampleProjection)
      InventoryService.sampleProjection 0) calledGuard
    (BookingService.sampleCreated.map .left ++
      [.right (.call (.holdSeatsRequested (.event sampleRequested))), .right (.burst 0 40),
        .left (.call (.seatsHeld (.event sampleReply))), .left (.burst 1 40),
        .left (.call (.paymentSuccess (.event samplePayment))), .left (.burst 2 40),
        .right (.call (.bookingStatusChanged (.event (sampleChange ⟨2, 6⟩ (some .confirming)
          .confirmed 5)))), .right (.burst 1 20),
        .right (.call (.bookingStatusChanged (.event (sampleChange ⟨0, 2⟩ none .pending 1)))),
        .right (.burst 2 20),
        .right (.call (.bookingStatusChanged (.event (sampleChange ⟨1, 4⟩ (some .seatsHeld)
          .paymentPending 3)))), .right (.burst 3 20),
        .right (.call (.bookingStatusChanged (.event (sampleChange ⟨2, 5⟩ (some .paymentPending)
          .confirming 4)))), .right (.burst 4 20)])
    (fun j => decide (seatOutcome j = (some .confirmed, [.confirmed])) && drained j)
    calledGuard_sound (by decide +kernel)
  obtain ⟨hout, hd⟩ := Bool.and_eq_true_iff.mp ht
  exact ⟨j, hj, of_decide_eq_true hout, drained_sound hd,
    seatsOwned_of_seatLink hj (drained_sound hd)⟩

end Schedules

end RailwayBooking.Integration
