import RailwayBooking.BookingService.FilledSeats
import RailwayBooking.BookingService.Privacy
import RailwayBooking.InventoryService.ExactHolds
import RailwayBooking.Integration.ConfirmedSeats

namespace RailwayBooking.Integration

open Concurrency

structure Reordered (e₀ e : SeatsHeld) : Prop where
  eventId : e.eventId = e₀.eventId
  bookingId : e.bookingId = e₀.bookingId
  allocations : e.allocations.Perm e₀.allocations
  holdExpiresAt : e.holdExpiresAt = e₀.holdExpiresAt

def Delivered (c : BookingService.Call) (v : InventoryService.InventoryWorld) : Prop :=
  ∀ e, c = .seatsHeld (.event e) → ∃ e₀, .seatsHeld e₀ ∈ v.db.outbox ∧ Reordered e₀ e

def OnRequest (c : InventoryService.Call) (w : BookingService.BookingWorld) : Prop :=
  ∀ r, c.request? = some r → .holdSeatsRequested r ∈ w.db.outbox

/-- Requests are those that booking-service has published, and the answers those that
inventory-service gave, with their allocations in any order. Whatever else the two
services do is free. -/
def unorderedLink : Link BookingService.machine InventoryService.machine where
  callLeft c _ v := Delivered c v
  callRight c w _ := OnRequest c w
  request _ := none
  allowLeft _ _ _ _ _ := True
  allowRight _ _ _ _ _ := True

def unorderedKnowledge : Knowledge BookingService.machine InventoryService.machine where
  left := Delivered
  right := OnRequest

theorem unorderedLink_within : unorderedLink.Within (BookingService.discipline fun _ => False)
    (InventoryService.discipline .free) where
  callLeft _ _ _ _ := trivial
  callRight _ _ _ _ := ⟨fun _ _ _ hr => (nomatch hr), False.elim⟩
  request _ _ _ h := by cases h
  allowLeft _ _ _ _ _ _ _ h := h.elim
  allowRight _ _ _ _ _ _ := trivial

theorem unorderedKnowledge_sound : unorderedKnowledge.Sound
    (BookingService.discipline fun _ => False) (InventoryService.discipline .free)
    unorderedLink where
  left c :=
    ⟨fun w c' t hi hp hc hv h e he =>
      have ⟨e₀, he₀, hr⟩ := h e he
      ⟨e₀, (lasting_said _).commit w c' t hi hp hc hv he₀, hr⟩,
      fun _ _ _ h => h⟩
  right c :=
    ⟨fun w c' t hi hp hc hv h r hr =>
      (BookingService.lasting_outbox _).commit w c' t hi hp hc hv (h r hr),
      fun _ _ _ h => h⟩
  callLeft _ _ _ h := h
  callRight _ _ _ h := h
  request _ _ _ _ _ hr := by cases hr

/-- The entry says of the seat what the inventory has of it. -/
def Describes (q : InventoryService.SeatInventory) (x : SeatAllocationEntry) : Prop :=
  x = ⟨q.seatId, q.id, q.coachNumber, q.seatNumber, q.seatType, x.price⟩

/-- The answer allocates the seats that the request asks for, in its order. -/
structure Answers (P : InventoryService.Projection) (r : HoldSeatsRequested) (e : SeatsHeld) :
    Prop where
  booking : r.bookingId = e.bookingId
  ids : e.allocations.map SeatAllocationEntry.seatInventoryId = r.seatInventoryIds
  entries : ∀ x ∈ e.allocations, ∃ q ∈ P.seats, Describes q x

section Answers

variable {P : InventoryService.Projection}

theorem forall₂_of_mapM {α β : Type} {f : α → Option β} {l : List α} {l' : List β}
    (h : l.mapM f = some l') : List.Forall₂ (fun a b => f a = some b) l l' := by
  induction l generalizing l' with
  | nil =>
    cases h
    exact .nil
  | cons a l ih =>
    simp only [List.mapM_cons, Option.pure_def, Option.bind_eq_bind, Option.bind_eq_some_iff,
      Option.some.injEq] at h
    obtain ⟨b, hb, bs, hbs, rfl⟩ := h
    exact .cons hb (ih hbs)

theorem seatIds_of_ids {seatIds : List Id} {xs : List SeatAllocationEntry}
    (h : List.Forall₂ (fun k i => ∃ q ∈ P.seats, q.seatId = k ∧ q.id = i) seatIds
      (xs.map SeatAllocationEntry.seatInventoryId))
    (hx : ∀ x ∈ xs, ∃ q ∈ P.seats, Describes q x) :
    xs.map SeatAllocationEntry.seatId = seatIds := by
  rw [List.forall₂_map_right_iff] at h
  induction h with
  | nil => rfl
  | @cons k x seatIds xs hk _ ih =>
    obtain ⟨q, hq, rfl, hid⟩ := hk
    obtain ⟨q', hq', hdesc⟩ := hx x List.mem_cons_self
    have hsame : q = q' := by
      apply List.inj_on_of_nodup_map P.seat_id hq hq'
      rw [hid, hdesc]
    have hseat : x.seatId = q.seatId := by rw [hsame, hdesc]
    rw [List.map_cons, hseat, ih fun y hy => hx y (List.mem_cons_of_mem _ hy)]

theorem Answers.seatIds {r : HoldSeatsRequested} {e : SeatsHeld} {seatIds : List Id}
    (h : Answers P r e) (hr : BookingService.AsksFor (getSeatsDetailsBatch P) r seatIds) :
    e.allocations.map SeatAllocationEntry.seatId = seatIds := by
  refine seatIds_of_ids ?_ h.entries
  rw [h.ids]
  refine (forall₂_of_mapM hr.ids).imp fun k i hf => ?_
  obtain ⟨q, hq, hqk, -, hqi⟩ := seat_of_found hf
  exact ⟨q, hq, hqk, hqi⟩

theorem answers_payload {x : InventoryService.Hold} {v : InventoryService.InventoryWorld}
    (hi : InventoryService.Inv v) (hf : x.Found v) (hseats : v.db.seats = P.seats) :
    Answers P x.request x.payload where
  booking := rfl
  ids := by
    rw [← InventoryService.seatsInOrder_ids hf hi]
    exact List.map_map ..
  entries y hy := by
    obtain ⟨q, hq, rfl⟩ := List.mem_map.mp hy
    exact ⟨q, (mem_seatsInOrder hf hseats hq).1, rfl⟩

end Answers

/-- Requests ask for the seats of their bookings, answers allocate what is asked for, and
the seats of a booking that an answer has moved are filled from it. -/
structure Matched (P : InventoryService.Projection) (w : BookingService.BookingWorld)
    (v : InventoryService.InventoryWorld) : Prop where
  requests : BookingService.RequestsExact (getSeatsDetailsBatch P) w
  seats : v.db.seats = P.seats
  answers : ∀ e, .seatsHeld e ∈ v.db.outbox →
    ∃ r, .holdSeatsRequested r ∈ w.db.outbox ∧ Answers P r e
  filled : ∀ e t, (.seatsHeld (.event e), t) ∈ w.log → BookingService.MovesToHeld t →
    BookingService.SeatsFilled e w ∧ ∀ x ∈ e.allocations, ∃ q ∈ P.seats, Describes q x

section Matched

variable {P : InventoryService.Projection} {w : BookingService.BookingWorld}
  {v : InventoryService.InventoryWorld}

theorem Matched.held (hi : BookingService.Inv w) {e : SeatsHeld} {t : BookingService.BookingTx}
    (hc : BookingService.Commit (.seatsHeld (.event e)) t w)
    (hk : Delivered (.seatsHeld (.event e)) v) (h : Matched P w v)
    (hm : BookingService.MovesToHeld t) :
    BookingService.SeatsFilled e (w.commit (.seatsHeld (.event e)) t) ∧
      ∀ x ∈ e.allocations, ∃ q ∈ P.seats, Describes q x := by
  obtain ⟨e₀, he₀, hsame⟩ := hk e rfl
  obtain ⟨r, hr, ha⟩ := h.answers e₀ he₀
  have hasks := h.requests.exact r hr
  have hids := ha.seatIds hasks
  rw [ha.booking.trans hsame.bookingId.symm] at hasks hids
  refine ⟨BookingService.seatsFilled_held hi hc hm rfl ?_ hasks.distinct hasks.few,
    fun x hx => ha.entries x (hsame.allocations.mem_iff.mp hx)⟩
  rw [← hids]
  exact hsame.allocations.map _

theorem Matched.commitLeft {c : BookingService.Call} {t : BookingService.BookingTx}
    (hi : BookingService.Inv w) (hc : BookingService.Commit c t w) (hk : Delivered c v)
    (h : Matched P w v) : Matched P (w.commit c t) v where
  requests := h.requests.commit hi hc
  seats := h.seats
  answers e he := by
    obtain ⟨r, hr, ha⟩ := h.answers e he
    exact ⟨r, BookingService.mem_outbox_commit hr c t, ha⟩
  filled e t' hlog hm := by
    obtain hlog | hlog := List.mem_append.mp hlog
    · obtain ⟨hfilled, hx⟩ := h.filled e t' hlog hm
      exact ⟨hfilled.commit hi hc, hx⟩
    · cases List.mem_singleton.mp hlog
      exact h.held hi hc hk hm

theorem Matched.commitRight {T : InventoryService.Terms} {c : InventoryService.Call}
    {t : InventoryService.InventoryTx} (hi : InventoryService.Inv v)
    (hc : InventoryService.Commit T c t v) (hk : OnRequest c w) (h : Matched P w v) :
    Matched P w (v.commit c t) where
  requests := h.requests
  seats := (InventoryService.commit_seats v c t).trans h.seats
  answers e he := by
    obtain hold | ⟨x, rfl, hreq, hf, -, -⟩ := hc.said he
    · exact h.answers e hold
    · exact ⟨x.request, hk _ hreq, answers_payload hi hf h.seats⟩
  filled := h.filled

theorem keeps_matched : unorderedLink.Keeps (BookingService.discipline fun _ => False)
    (InventoryService.discipline .free) unorderedKnowledge (Matched P) where
  left _ _ _ _ hi _ hc _ _ hk h := h.commitLeft hi hc hk
  right _ _ _ _ _ hi _ hc _ _ hk h := h.commitRight hi hc hk
  driftLeft _ _ _ hd h := ⟨h.requests.drift hd, h.seats, h.answers, fun e t hlog hm =>
    have ⟨hfilled, hx⟩ := h.filled e t hlog hm
    ⟨⟨hfilled.rows, hfilled.distinct, hfilled.price⟩, hx⟩⟩
  driftRight _ _ _ _ h := ⟨h.requests, h.seats, h.answers, h.filled⟩

theorem matched_pools (s : BookingService.Settings) (now : Nat) :
    Matched P (asking s P).pool.world (InventoryService.start P now).world where
  requests := BookingService.requestsExact_pool (asking s P) rfl
  seats := rfl
  answers e he := by cases he
  filled e t hlog := by cases hlog

end Matched

/-- A booking that `handleSeatsHeld` has moved to `SEATS_HELD` has the seats that the
event allocates, each with its data, for the sum of their prices. -/
theorem seatsFilled_of_unorderedLink {s : BookingService.Settings}
    {P : InventoryService.Projection} {now : Nat}
    {j : Joint BookingService.machine InventoryService.machine}
    (h : unorderedLink.Reachable (seats (asking s P) P now) j) {e : SeatsHeld}
    {t : BookingService.BookingTx} (hlog : (.seatsHeld (.event e), t) ∈ j.left.world.log)
    (hm : BookingService.MovesToHeld t) :
    BookingService.SeatsFilled e j.left.world ∧
      ∀ x ∈ e.allocations, ∃ q ∈ P.seats, Describes q x :=
  (seats_keeps unorderedLink_within unorderedKnowledge_sound keeps_matched (matched_pools s now)
    h).filled e t hlog hm

section Schedules

def reordered (e₀ e : SeatsHeld) : Bool :=
  e.eventId = e₀.eventId && e.bookingId = e₀.bookingId &&
    e.allocations.isPerm e₀.allocations && e.holdExpiresAt = e₀.holdExpiresAt

theorem reordered_sound {e₀ e : SeatsHeld} (h : reordered e₀ e = true) : Reordered e₀ e := by
  simp only [reordered, Bool.and_eq_true, decide_eq_true_eq] at h
  obtain ⟨⟨⟨hid, hb⟩, hperm⟩, hexp⟩ := h
  exact ⟨hid, hb, List.isPerm_iff.mp hperm, hexp⟩

def unorderedGuard : Guard BookingService.machine InventoryService.machine where
  callLeft c _ v :=
    match c with
    | .seatsHeld (.event e) => v.db.outbox.any (fun
      | .seatsHeld e₀ => reordered e₀ e
      | .seatsHoldFailed _ => false)
    | _ => true
  callRight c w _ := c.request?.all (fun r => w.db.outbox.contains (.holdSeatsRequested r))
  actLeft _ _ _ := true
  actRight _ _ _ := true

theorem unorderedGuard_sound : unorderedGuard.Sound unorderedLink where
  callLeft c w v h e he := by
    subst he
    obtain ⟨ev, hev, hsame⟩ := List.any_eq_true.mp h
    cases ev with
    | seatsHeld e₀ => exact ⟨e₀, hev, reordered_sound hsame⟩
    | seatsHoldFailed => cases hsame
  callRight c w v h r hr := by
    simp only [unorderedGuard, hr, Option.all_some] at h
    exact List.contains_iff_mem.mp h
  actLeft _ _ a _ := by
    cases a <;> first | trivial | exact fun _ _ _ _ => trivial
  actRight _ _ a _ := by
    cases a <;> first | trivial | exact fun _ _ _ _ => trivial
  send _ _ _ _ h := absurd rfl h

def movesToHeld (t : BookingService.BookingTx) : Bool :=
  t.site = .seatsHeld && t.writes.any (fun
    | .booking row => row.status = .seatsHeld
    | _ => false)

theorem movesToHeld_sound {t : BookingService.BookingTx} (h : movesToHeld t = true) :
    BookingService.MovesToHeld t := by
  obtain ⟨hsite, hany⟩ := Bool.and_eq_true_iff.mp h
  refine ⟨of_decide_eq_true hsite, ?_⟩
  obtain ⟨x, hx, hst⟩ := List.any_eq_true.mp hany
  cases x with
  | booking row => exact ⟨row, hx, of_decide_eq_true hst⟩
  | _ => cases hst

def samplePair : BookingService.CreateBookingDto :=
  BookingService.seatsRequest 7 [11, 12] (by decide) (by decide)

def samplePairRequested : HoldSeatsRequested :=
  { sampleRequested with seatInventoryIds := [11, 12] }

def samplePairReply : SeatsHeld :=
  { sampleReply with allocations := [⟨12, 12, "S1", 2, "UPPER", 12500⟩,
    ⟨11, 11, "S1", 1, "LOWER", 12500⟩] }

/-- Two seats that are allocated in one order and filled in the other. -/
theorem seatsFilled_reordered : ∃ j t,
    unorderedLink.Reachable (seats (asking BookingService.sampleSettings
      InventoryService.sampleProjection) InventoryService.sampleProjection 0) j ∧
    (.seatsHeld (.event samplePairReply), t) ∈ j.left.world.log ∧ BookingService.MovesToHeld t ∧
    BookingService.SeatsFilled samplePairReply j.left.world := by
  obtain ⟨j, hj, ht⟩ := exists_joint unorderedLink
    (seats (asking BookingService.sampleSettings InventoryService.sampleProjection)
      InventoryService.sampleProjection 0) unorderedGuard
    [.left (.call (.createBooking 5 samplePair)), .left (.burst 0 40),
      .right (.call (.holdSeatsRequested (.event samplePairRequested))), .right (.burst 0 60),
      .left (.call (.seatsHeld (.event samplePairReply))), .left (.burst 1 40)]
    (fun j => j.left.world.log.any (fun x => isHold samplePairReply x.1 && movesToHeld x.2))
    unorderedGuard_sound (by decide +kernel)
  obtain ⟨⟨c, t⟩, hlog, hx⟩ := List.any_eq_true.mp ht
  obtain ⟨hhold, hmoves⟩ := Bool.and_eq_true_iff.mp hx
  cases call_of_isHold c hhold
  have hm := movesToHeld_sound hmoves
  exact ⟨j, t, hj, hlog, hm, (seatsFilled_of_unorderedLink hj hlog hm).1⟩

end Schedules

end RailwayBooking.Integration
