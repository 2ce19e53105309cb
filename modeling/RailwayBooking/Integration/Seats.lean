import RailwayBooking.Concurrency.Joint
import RailwayBooking.BookingService.Requests
import RailwayBooking.InventoryService.HoldReplies

namespace RailwayBooking.Integration

open Concurrency

/-- booking-service with inventory-service, before either has done anything. -/
def seats (s : BookingService.Settings) (P : InventoryService.Projection) (now : Nat) :
    Joint BookingService.machine InventoryService.machine :=
  ⟨s.pool, InventoryService.start P now, []⟩

def Replied (c : BookingService.Call) (v : InventoryService.InventoryWorld) : Prop :=
  match c with
  | .seatsHeld (.event e) => .seatsHeld e ∈ v.db.outbox
  | .seatsHoldFailed (.event e) => .seatsHoldFailed e ∈ v.db.outbox
  | _ => True

/-- What arrives at inventory-service was published by booking-service, and seats are
held, confirmed and released on such messages alone. -/
def Published (c : InventoryService.Call) (w : BookingService.BookingWorld) : Prop :=
  match c with
  | .holdSeatsRequested (.event r) => .holdSeatsRequested r ∈ w.db.outbox
  | .bookingStatusChanged (.event e) => .bookingStatusChanged e ∈ w.db.outbox
  | .holdSeats _ | .confirmSeats _ | .cancelSeats _ => False
  | _ => True

/-- The two services with their outboxes between them: messages may come late, more
than once, in any order, or never. -/
def seatLink (start : BookingService.Call → Prop) :
    Link BookingService.machine InventoryService.machine where
  callLeft c _ v := start c ∧ Replied c v
  callRight c w _ := Published c w
  request _ := none
  allowLeft _ _ _ _ _ := True
  allowRight _ _ _ _ _ := True

/-- Every row of the two outboxes has been delivered, and a delivery of it has
returned. -/
structure Drained (j : Joint BookingService.machine InventoryService.machine) : Prop where
  requests : ∀ r, .holdSeatsRequested r ∈ j.left.world.db.outbox →
    j.right.Handled (.holdSeatsRequested (.event r))
  statuses : ∀ e, .bookingStatusChanged e ∈ j.left.world.db.outbox →
    j.right.Handled (.bookingStatusChanged (.event e))
  holds : ∀ e, .seatsHeld e ∈ j.right.world.db.outbox → j.left.Handled (.seatsHeld (.event e))
  failures : ∀ e, .seatsHoldFailed e ∈ j.right.world.db.outbox →
    j.left.Handled (.seatsHoldFailed (.event e))

section Knowledge

variable {strict : BookingService.SagaKey → Prop} {T : InventoryService.Terms}

theorem lasting_said (ev : InventoryService.OutboxEvent) :
    Lasting (InventoryService.discipline T) (fun v => ev ∈ v.db.outbox) where
  commit v c t _ _ _ _ h := by
    rw [InventoryService.commit_outbox]
    exact List.mem_append_left _ h
  drift _ _ _ h := h

theorem lasting_replied (c : BookingService.Call) :
    Lasting (InventoryService.discipline T) (Replied c) := by
  unfold Replied
  split
  · exact lasting_said _
  · exact lasting_said _
  · exact lasting_const True

theorem lasting_published (c : InventoryService.Call) :
    Lasting (BookingService.discipline strict) (Published c) := by
  unfold Published
  split
  · exact BookingService.lasting_outbox _
  · exact BookingService.lasting_outbox _
  · exact lasting_const False
  · exact lasting_const False
  · exact lasting_const False
  · exact lasting_const True

theorem published_of_request {c : InventoryService.Call} {w : BookingService.BookingWorld}
    {r : HoldSeatsRequested} (hp : Published c w) (hc : c.request? = some r) :
    .holdSeatsRequested r ∈ w.db.outbox := by
  unfold InventoryService.Call.request? at hc
  split at hc
  · exact hp.elim
  · cases hc
    exact hp
  · cases hc

theorem published_of_cancels {c : InventoryService.Call} {w : BookingService.BookingWorld}
    {e : InventoryService.SeatLifecycleEventArgs} (hp : Published c w) (hc : c.cancels? = some e) :
    ∃ ev, .bookingStatusChanged ev ∈ w.db.outbox ∧ InventoryService.Releases ev.currentStatus ∧
      e = ⟨ev.eventId, ev.bookingId⟩ := by
  unfold InventoryService.Call.cancels? at hc
  split at hc
  · exact hp.elim
  · next ev =>
    split at hc
    · next hrel =>
      cases hc
      exact ⟨ev, hp, hrel, rfl⟩
    · cases hc
  · cases hc

theorem published_of_confirms {c : InventoryService.Call} {w : BookingService.BookingWorld}
    {e : InventoryService.SeatLifecycleEventArgs} (hp : Published c w) (hc : c.confirms? = some e) :
    ∃ ev, .bookingStatusChanged ev ∈ w.db.outbox ∧ ev.currentStatus = .confirmed ∧
      e = ⟨ev.eventId, ev.bookingId⟩ := by
  unfold InventoryService.Call.confirms? at hc
  split at hc
  · exact hp.elim
  · next ev =>
    split at hc
    · next hconf =>
      cases hc
      exact ⟨ev, hp, hconf, rfl⟩
    · cases hc
  · cases hc

def seatKnowledge (start : BookingService.Call → Prop) :
    Knowledge BookingService.machine InventoryService.machine where
  left c v := start c ∧ Replied c v
  right := Published

/-- The links that admit no more calls than `seatLink`. -/
structure Refines (start : BookingService.Call → Prop)
    (L : Link BookingService.machine InventoryService.machine) : Prop where
  callLeft : ∀ c w v, L.callLeft c w v → start c ∧ Replied c v
  callRight : ∀ c w v, L.callRight c w v → Published c w
  request : ∀ a, L.request a = none

theorem seatLink_refines (start : BookingService.Call → Prop) : Refines start (seatLink start) :=
  ⟨fun _ _ _ h => h, fun _ _ _ h => h, fun _ => rfl⟩

theorem seatKnowledge_sound {start : BookingService.Call → Prop}
    {L : Link BookingService.machine InventoryService.machine} (hL : Refines start L) :
    (seatKnowledge start).Sound (BookingService.discipline strict)
      (InventoryService.discipline T) L where
  left c := (lasting_const _).and (lasting_replied c)
  right := lasting_published
  callLeft := hL.callLeft
  callRight := hL.callRight
  request _ a _ _ _ hr := by
    rw [hL.request a] at hr
    cases hr

theorem within_free {start : BookingService.Call → Prop}
    {L : Link BookingService.machine InventoryService.machine} (hL : Refines start L) :
    L.Within (BookingService.discipline fun _ => False) (InventoryService.discipline .free) where
  callLeft _ _ _ _ := trivial
  callRight _ _ _ _ := ⟨fun _ _ _ hr => (nomatch hr), False.elim⟩
  request a _ _ h := by
    rw [hL.request a] at h
    cases h
  allowLeft _ _ _ _ _ _ _ h := h.elim
  allowRight _ _ _ _ _ _ := trivial

end Knowledge

section Runs

variable {s : BookingService.Settings} {P : InventoryService.Projection} {now : Nat}
  {L : Link BookingService.machine InventoryService.machine}
  {strict : BookingService.SagaKey → Prop} {T : InventoryService.Terms}
  {j : Joint BookingService.machine InventoryService.machine}

theorem wellFormed_seats (s : BookingService.Settings) (P : InventoryService.Projection)
    (now : Nat) : (seats s P now).WellFormed (BookingService.discipline strict)
      (InventoryService.discipline T) :=
  .start (wellFormed_init (BookingService.inv_start s))
    (wellFormed_init (InventoryService.inv_start P now))

theorem seats_wellFormed
    (hL : L.Within (BookingService.discipline strict) (InventoryService.discipline T))
    (h : L.Reachable (seats s P now) j) :
    j.WellFormed (BookingService.discipline strict) (InventoryService.discipline T) :=
  h.wellFormed BookingService.lawful BookingService.sound InventoryService.lawful
    InventoryService.sound hL (wellFormed_seats s P now)

theorem seats_keeps {K : Knowledge BookingService.machine InventoryService.machine}
    {F : BookingService.BookingWorld → InventoryService.InventoryWorld → Prop}
    (hL : L.Within (BookingService.discipline strict) (InventoryService.discipline T))
    (hK : K.Sound (BookingService.discipline strict) (InventoryService.discipline T) L)
    (hF : L.Keeps (BookingService.discipline strict) (InventoryService.discipline T) K F)
    (h₀ : F s.pool.world (InventoryService.start P now).world)
    (h : L.Reachable (seats s P now) j) : F j.left.world j.right.world :=
  h.keeps BookingService.lawful BookingService.sound InventoryService.lawful
    InventoryService.sound hL (wellFormed_seats s P now) hK (K.known_start rfl rfl) hF h₀

end Runs

section Schedules

def replied (c : BookingService.Call) (v : InventoryService.InventoryWorld) : Bool :=
  match c with
  | .seatsHeld (.event e) => v.db.outbox.contains (.seatsHeld e)
  | .seatsHoldFailed (.event e) => v.db.outbox.contains (.seatsHoldFailed e)
  | _ => true

theorem replied_sound {c : BookingService.Call} {v : InventoryService.InventoryWorld}
    (h : replied c v = true) : Replied c v := by
  unfold replied at h
  unfold Replied
  split at h
  · exact List.contains_iff_mem.mp h
  · exact List.contains_iff_mem.mp h
  · trivial

def published (c : InventoryService.Call) (w : BookingService.BookingWorld) : Bool :=
  match c with
  | .holdSeatsRequested (.event r) => w.db.outbox.contains (.holdSeatsRequested r)
  | .bookingStatusChanged (.event e) => w.db.outbox.contains (.bookingStatusChanged e)
  | .holdSeats _ | .confirmSeats _ | .cancelSeats _ => false
  | _ => true

theorem published_sound {c : InventoryService.Call} {w : BookingService.BookingWorld}
    (h : published c w = true) : Published c w := by
  unfold published at h
  unfold Published
  split at h
  · exact List.contains_iff_mem.mp h
  · exact List.contains_iff_mem.mp h
  · cases h
  · cases h
  · cases h
  · trivial

def isRequest (r : HoldSeatsRequested) : InventoryService.Call → Bool
  | .holdSeatsRequested (.event r') => r' = r
  | _ => false

theorem call_of_isRequest {r : HoldSeatsRequested} (c : InventoryService.Call)
    (h : isRequest r c = true) : c = .holdSeatsRequested (.event r) := by
  unfold isRequest at h
  split at h
  · rw [of_decide_eq_true h]
  · cases h

def isChange (e : BookingStatusChanged) : InventoryService.Call → Bool
  | .bookingStatusChanged (.event e') => e' = e
  | _ => false

theorem call_of_isChange {e : BookingStatusChanged} (c : InventoryService.Call)
    (h : isChange e c = true) : c = .bookingStatusChanged (.event e) := by
  unfold isChange at h
  split at h
  · rw [of_decide_eq_true h]
  · cases h

def isHold (e : SeatsHeld) : BookingService.Call → Bool
  | .seatsHeld (.event e') => e' = e
  | _ => false

theorem call_of_isHold {e : SeatsHeld} (c : BookingService.Call) (h : isHold e c = true) :
    c = .seatsHeld (.event e) := by
  unfold isHold at h
  split at h
  · rw [of_decide_eq_true h]
  · cases h

def isHoldFailure (e : SeatsHoldFailed) : BookingService.Call → Bool
  | .seatsHoldFailed (.event e') => e' = e
  | _ => false

theorem call_of_isHoldFailure {e : SeatsHoldFailed} (c : BookingService.Call)
    (h : isHoldFailure e c = true) : c = .seatsHoldFailed (.event e) := by
  unfold isHoldFailure at h
  split at h
  · rw [of_decide_eq_true h]
  · cases h

def drained (j : Joint BookingService.machine InventoryService.machine) : Bool :=
  j.left.world.db.outbox.all (fun
    | .holdSeatsRequested r => j.right.handles (isRequest r)
    | .bookingStatusChanged e => j.right.handles (isChange e)) &&
  j.right.world.db.outbox.all (fun
    | .seatsHeld e => j.left.handles (isHold e)
    | .seatsHoldFailed e => j.left.handles (isHoldFailure e))

theorem drained_sound {j : Joint BookingService.machine InventoryService.machine}
    (h : drained j = true) : Drained j := by
  obtain ⟨hl, hr⟩ := Bool.and_eq_true_iff.mp h
  rw [List.all_eq_true] at hl hr
  exact ⟨fun r hm => Pool.handled_of_handles call_of_isRequest (hl _ hm),
    fun e hm => Pool.handled_of_handles call_of_isChange (hl _ hm),
    fun e hm => Pool.handled_of_handles call_of_isHold (hr _ hm),
    fun e hm => Pool.handled_of_handles call_of_isHoldFailure (hr _ hm)⟩

def sampleRequested : HoldSeatsRequested :=
  ⟨.random ⟨0, 3⟩, BookingService.sampleBooking, 1, 5, [11], 1, 2, 1, 2, 600000⟩

def sampleReply : SeatsHeld :=
  ⟨.held sampleRequested.eventId, BookingService.sampleBooking, [⟨11, 11, "S1", 1, "LOWER", 12500⟩],
    600000⟩

def sampleChange (eventId : Uuid) (previous : Option BookingStatus) (current : BookingStatus)
    (version : Nat) : BookingStatusChanged :=
  ⟨.random eventId, BookingService.sampleBooking, 1, 5, previous, current, version⟩

/-- The status of the sample booking, and those of its allocations. -/
def seatOutcome (j : Joint BookingService.machine InventoryService.machine) :
    Option BookingStatus × List InventoryService.AllocationStatus :=
  ((j.left.world.db.bookings BookingService.sampleBooking).map BookingService.Booking.status,
    (j.right.world.db.allocations.filter
      (fun a => a.bookingId = BookingService.sampleBooking)).map
        InventoryService.SeatAllocation.status)

end Schedules

end RailwayBooking.Integration
