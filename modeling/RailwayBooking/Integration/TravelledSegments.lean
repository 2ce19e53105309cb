import RailwayBooking.Integration.ConfirmedSeats

namespace RailwayBooking.Integration

open Concurrency

/-- A call of `createBooking` with this request has created booking `b`. -/
def CreatedBy (w : BookingService.BookingWorld) (dto : BookingService.CreateBookingDto) (b : Uuid) :
    Prop :=
  ∃ userId t row, (.createBooking userId dto, t) ∈ w.log ∧ .booking row ∈ t.writes ∧ row.id = b

/-- The allocation is of the stations of the booking and of the sequence numbers that
their stops have on its schedule. -/
structure Travelled (stops : List InventoryService.RouteStop) (booking : BookingService.Booking)
    (a : InventoryService.SeatAllocation) : Prop where
  fromStation : a.fromStationId = booking.fromStationId
  toStation : a.toStationId = booking.toStationId
  fromSequence : ∃ stop ∈ stops, stop.scheduleId = booking.scheduleId ∧
    stop.stationId = booking.fromStationId ∧ stop.sequenceNumber = a.fromSequence
  toSequence : ∃ stop ∈ stops, stop.scheduleId = booking.scheduleId ∧
    stop.stationId = booking.toStationId ∧ stop.sequenceNumber = a.toSequence

def numbered (stops : List InventoryService.RouteStop) (scheduleId : Id) (sequenceNumber : Nat) :
    Option InventoryService.RouteStop :=
  if sequenceNumber > 0 ∧ sequenceNumber ≤ InventoryService.maxPostgresInt then
    stops.find? (fun s => s.scheduleId = scheduleId ∧ s.sequenceNumber = sequenceNumber)
  else none

/-- The sequence numbers that the request sends name no other stops than its
stations. -/
structure Concordant (stops : List InventoryService.RouteStop)
    (dto : BookingService.CreateBookingDto) : Prop where
  origin : ∀ stop ∈ numbered stops dto.scheduleId (dto.fromSequence.getD 0),
    stop.stationId = dto.fromStationId
  destination : ∀ stop ∈ numbered stops dto.scheduleId (dto.toSequence.getD 2147483647),
    stop.stationId = dto.toStationId

section Resolution

variable {stops : List InventoryService.RouteStop} {r : HoldSeatsRequested}
  {segment : InventoryService.Segment} {number : Nat} {stationId : Id}
  {stop : InventoryService.RouteStop}

theorem end_of_segment (h : InventoryService.stopByStation stops r
      (InventoryService.stopBySequence stops r number) stationId = some stop) :
    stop ∈ stops ∧ stop.scheduleId = r.scheduleId ∧
      (stop.stationId = stationId ↔
        ∀ s ∈ numbered stops r.scheduleId number, s.stationId = stationId) := by
  have hnumbered : InventoryService.stopBySequence stops r number =
      numbered stops r.scheduleId number := rfl
  rw [hnumbered] at h
  cases hn : numbered stops r.scheduleId number with
  | some s =>
    rw [hn] at h
    cases h
    have hfind : stops.find? (fun s => s.scheduleId = r.scheduleId ∧ s.sequenceNumber = number) =
        some stop := by
      unfold numbered at hn
      split at hn
      · exact hn
      · cases hn
    have hkey := List.find?_some hfind
    refine ⟨List.mem_of_find?_eq_some hfind, (of_decide_eq_true hkey).1, ?_⟩
    simp
  | none =>
    rw [hn] at h
    have hkey := List.find?_some h
    refine ⟨List.mem_of_find?_eq_some h, (of_decide_eq_true hkey).1, ?_⟩
    simp [(of_decide_eq_true hkey).2]

theorem ends_of_segment (h : InventoryService.resolvedSegment stops r = some segment) :
    InventoryService.stopByStation stops r
        (InventoryService.stopBySequence stops r r.fromSequence) r.fromStaionId =
        some segment.fromStop ∧
      InventoryService.stopByStation stops r
        (InventoryService.stopBySequence stops r r.toSequence) r.toStationId =
        some segment.toStop := by
  unfold InventoryService.resolvedSegment InventoryService.segmentOf at h
  split at h
  · next fromStop toStop hfrom hto =>
    split at h
    · cases h
    · cases h
      exact ⟨hfrom, hto⟩
  · cases h

end Resolution

/-- The stations and sequence numbers of the allocation are those of the segment. -/
structure OnSegment (segment : InventoryService.Segment) (a : InventoryService.SeatAllocation) :
    Prop where
  fromStation : a.fromStationId = segment.fromStop.stationId
  toStation : a.toStationId = segment.toStop.stationId
  fromSequence : a.fromSequence = segment.fromStop.sequenceNumber
  toSequence : a.toSequence = segment.toStop.sequenceNumber

structure Bears (booking : BookingService.Booking) (r : HoldSeatsRequested) : Prop where
  schedule : booking.scheduleId = r.scheduleId
  fromStation : booking.fromStationId = r.fromStaionId
  toStation : booking.toStationId = r.toStationId

/-- An allocation is of the travelled segment just where the numbers of its request
name the stations of the request. -/
theorem travelled_of_segment {stops : List InventoryService.RouteStop} {x : BookingService.Insertion}
    {segment : InventoryService.Segment} {booking : BookingService.Booking}
    {a : InventoryService.SeatAllocation}
    (hsegment : InventoryService.resolvedSegment stops x.request = some segment)
    (ha : OnSegment segment a) (hb : Bears booking x.request) :
    Travelled stops booking a ↔ Concordant stops x.dto := by
  obtain ⟨hfrom, hto⟩ := ends_of_segment hsegment
  obtain ⟨hfromMem, hfromSched, hfromStation⟩ := end_of_segment hfrom
  obtain ⟨htoMem, htoSched, htoStation⟩ := end_of_segment hto
  constructor
  · intro h
    constructor
    · apply hfromStation.mp
      rw [← ha.fromStation, h.fromStation, hb.fromStation]
    · apply htoStation.mp
      rw [← ha.toStation, h.toStation, hb.toStation]
  · intro h
    have hf := hfromStation.mpr h.origin
    have ht := htoStation.mpr h.destination
    refine ⟨?_, ?_, ⟨segment.fromStop, hfromMem, ?_, ?_, ha.fromSequence.symm⟩,
      ⟨segment.toStop, htoMem, ?_, ?_, ha.toSequence.symm⟩⟩
    · rw [ha.fromStation, hf, hb.fromStation]
    · rw [ha.toStation, ht, hb.toStation]
    · rw [hfromSched, hb.schedule]
    · rw [hf, hb.fromStation]
    · rw [htoSched, hb.schedule]
    · rw [ht, hb.toStation]

section Bookings

variable {w : BookingService.BookingWorld} {c : BookingService.Call} {t : BookingService.BookingTx}

/-- Every request for seats is that of a call of `createBooking`, whose booking stands;
every call that has created a booking has sent its request, and a booking has one. -/
structure Requested (w : BookingService.BookingWorld) : Prop where
  created : ∀ r, .holdSeatsRequested r ∈ w.db.outbox → ∃ x : BookingService.Insertion,
    r = x.request ∧ CreatedBy w x.dto x.bookingId ∧
      ∃ booking, w.db.bookings x.bookingId = some booking ∧ Bears booking r
  logged : ∀ userId dto t, (.createBooking userId dto, t) ∈ w.log → t.writes = [] ∨
    ∃ x : BookingService.Insertion, x.dto = dto ∧ t.writes = x.writes ∧
      .holdSeatsRequested x.request ∈ w.db.outbox
  one : ∀ r r', .holdSeatsRequested r ∈ w.db.outbox → .holdSeatsRequested r' ∈ w.db.outbox →
    r.bookingId = r'.bookingId → r = r'

theorem booking_kept (hi : BookingService.Inv w) (hc : BookingService.Commit c t w) {b : Uuid}
    {booking : BookingService.Booking} (h : w.db.bookings b = some booking) :
    ∃ booking', (w.commit c t).db.bookings b = some booking' ∧ booking.Same booking' := by
  have hch := hc.rowChange hi b
  rw [h] at hch
  change ∃ booking', (t.view w.db).bookings b = some booking' ∧ _
  generalize (t.view w.db).bookings b = new at hch
  cases hch with
  | same => exact ⟨booking, rfl, .refl _⟩
  | annotated u => exact ⟨_, rfl, u.apply_same booking⟩
  | moved _ _ _ _ _ _ hsame => exact ⟨_, rfl, hsame⟩

theorem CreatedBy.commit {dto : BookingService.CreateBookingDto} {b : Uuid} (h : CreatedBy w dto b) :
    CreatedBy (w.commit c t) dto b := by
  obtain ⟨userId, t', row, hlog, hrow⟩ := h
  exact ⟨userId, t', row, List.mem_append_left _ hlog, hrow⟩

theorem sent_of_writes {x : BookingService.Insertion} (hw : t.writes = x.writes) :
    .holdSeatsRequested x.request ∈ (w.commit c t).db.outbox := by
  rw [BookingService.commit_outbox, hw, x.events]
  simp

theorem Requested.commit (hi : BookingService.Inv w) (hc : BookingService.Commit c t w)
    (h : Requested w) : Requested (w.commit c t) where
  created r hr := by
    rw [BookingService.commit_outbox] at hr
    obtain hr | hr := List.mem_append.mp hr
    · obtain ⟨x, rfl, hx, booking, hb, hbears⟩ := h.created r hr
      obtain ⟨booking', hb', hsame'⟩ := booking_kept hi hc hb
      exact ⟨x, rfl, hx.commit, booking', hb', hsame'.scheduleId.trans hbears.schedule,
        hsame'.fromStationId.trans hbears.fromStation, hsame'.toStationId.trans hbears.toStation⟩
    · obtain ⟨x, rfl, hw, -, -, rfl⟩ := hc.request hr
      have hrow : .booking x.row ∈ t.writes := by
        rw [hw]
        exact List.mem_cons_self
      refine ⟨x, rfl, ⟨x.userId, t, x.row, List.mem_append_right _ (List.mem_singleton_self _), hrow,
        rfl⟩, x.row, ?_, rfl, rfl, rfl⟩
      change (t.view w.db).bookings x.bookingId = some x.row
      rw [BookingService.bookings_created hw, Function.update_self]
  logged userId dto t' hlog := by
    obtain hlog | hlog := List.mem_append.mp hlog
    · obtain hnone | ⟨x, hdto, hw, hsent⟩ := h.logged userId dto t' hlog
      · exact .inl hnone
      · exact .inr ⟨x, hdto, hw, BookingService.mem_outbox_commit hsent c t⟩
    · obtain ⟨hcall, rfl⟩ := Prod.mk.inj (List.mem_singleton.mp hlog)
      rw [← hcall] at hc
      cases hc with
      | replayed _ hw => exact .inl hw
      | created x _ hw => exact .inr ⟨x, rfl, hw, sent_of_writes hw⟩
      | transition hper => cases hper with | payHeld _ h | payConfirming h | payConfirmed h => cases h
      | recorded _ hrec => cases hrec with | confirmed h => cases h
  one r r' hr hr' hb := by
    have hold : ∀ r, .holdSeatsRequested r ∈ w.db.outbox → w.db.bookings r.bookingId ≠ none := by
      intro r hr hnone
      obtain ⟨x, rfl, -, booking, hsome, -⟩ := h.created r hr
      exact Option.some_ne_none booking (hsome.symm.trans hnone)
    rw [BookingService.commit_outbox] at hr hr'
    obtain hr | hr := List.mem_append.mp hr
    · obtain hr' | hr' := List.mem_append.mp hr'
      · exact h.one r r' hr hr' hb
      · obtain ⟨x, -, -, hnew, -, rfl⟩ := hc.request hr'
        have hbooked := hold r hr
        rw [hb] at hbooked
        exact absurd hnew hbooked
    · obtain ⟨x, -, hw, hnew, -, rfl⟩ := hc.request hr
      obtain hr' | hr' := List.mem_append.mp hr'
      · have hbooked := hold r' hr'
        rw [← hb] at hbooked
        exact absurd hnew hbooked
      · rw [hw, x.events] at hr'
        have hsame : r' = x.request := by simpa using hr'
        exact hsame.symm

end Bookings

section Allocations

variable {P : InventoryService.Projection} {w : BookingService.BookingWorld}
  {v : InventoryService.InventoryWorld} {c : InventoryService.Call} {t : InventoryService.InventoryTx}
  {T : InventoryService.Terms}

def Allocated (P : InventoryService.Projection) (w : BookingService.BookingWorld)
    (v : InventoryService.InventoryWorld) : Prop :=
  ∀ a ∈ v.db.allocations, ∃ r segment, .holdSeatsRequested r ∈ w.db.outbox ∧
    r.bookingId = a.bookingId ∧
    InventoryService.resolvedSegment P.stops r = some segment ∧ OnSegment segment a

theorem onSegment_settled {segment : InventoryService.Segment} {a : InventoryService.SeatAllocation}
    (h : OnSegment segment a) (rows : List InventoryService.SeatAllocation)
    (status : InventoryService.AllocationStatus) : OnSegment segment (a.settled rows status) := by
  unfold InventoryService.SeatAllocation.settled
  split
  · exact ⟨h.fromStation, h.toStation, h.fromSequence, h.toSequence⟩
  · exact h

theorem Allocated.commit (hc : InventoryService.Commit T c t v) (hstops : v.db.stops = P.stops)
    (hp : Published c w) (h : Allocated P w v) : Allocated P w (v.commit c t) := by
  intro a ha
  change a ∈ (t.view v.db).allocations at ha
  cases hc with
  | holdDuplicate _ _ hw | confirmDuplicate _ _ _ hw | cancelDuplicate _ _ _ hw =>
    rw [InventoryService.view_nothing hw] at ha
    exact h a ha
  | failed _ _ hw =>
    rw [(InventoryService.view_failed hw v.db).1] at ha
    exact h a ha
  | confirmed rows history _ _ _ _ hw | cancelled rows history _ _ _ hw =>
    rw [(InventoryService.view_settled hw v.db).1] at ha
    obtain ⟨a', ha', rfl⟩ := List.mem_map.mp ha
    obtain ⟨r, segment, hr, hb, hsegment, hon⟩ := h a' ha'
    exact ⟨r, segment, hr, hb.trans (a'.settled_bookingId _ _).symm, hsegment,
      onSegment_settled hon _ _⟩
  | held x _ hreq _ hfound _ _ _ _ _ hw =>
    rw [(InventoryService.view_held hw v.db).1] at ha
    obtain ha | ha := List.mem_append.mp ha
    · exact h a ha
    · obtain ⟨s, -, -, rfl⟩ := InventoryService.Hold.mem_rows ha
      exact ⟨x.request, x.segment, published_of_request hp hreq, rfl, hstops ▸ hfound.segment,
        ⟨rfl, rfl, rfl, rfl⟩⟩

end Allocations

section Runs

variable {s : BookingService.Settings} {P : InventoryService.Projection} {now : Nat}
  {start : BookingService.Call → Prop}
  {j : Joint BookingService.machine InventoryService.machine}

theorem requested_of_run (h : (seatLink start).Reachable (seats s P now) j) :
    Requested j.left.world ∧ j.right.world.db.stops = P.stops ∧
      Allocated P j.left.world j.right.world := by
  refine seats_keeps (F := fun w v => Requested w ∧ v.db.stops = P.stops ∧ Allocated P w v)
    (within_free (seatLink_refines start)) (seatKnowledge_sound (seatLink_refines start)) ?_ ?_ h
  · constructor
    · rintro w v c t hi - hc - - - ⟨hreq, hstops, hall⟩
      refine ⟨hreq.commit hi hc, hstops, fun a ha => ?_⟩
      obtain ⟨r, segment, hr, hx⟩ := hall a ha
      exact ⟨r, segment, BookingService.mem_outbox_commit hr c t, hx⟩
    · rintro w v c t - - - hc - - hp ⟨hreq, hstops, hall⟩
      exact ⟨hreq, (InventoryService.commit_stops v c t).trans hstops, hall.commit hc hstops hp⟩
    · rintro w v e - ⟨hreq, hrest⟩
      exact ⟨⟨hreq.created, hreq.logged, hreq.one⟩, hrest⟩
    · rintro w v e - hx
      exact hx
  · refine ⟨⟨fun r hr => ?_, fun _ _ _ hlog => ?_, fun r _ hr => ?_⟩, rfl, fun a ha => ?_⟩
    · cases hr
    · cases hlog
    · cases hr
    · cases ha

/-- In every run of the two services, an allocation comes of one request of
`createBooking`, and it is of the travelled segment just where the sequence numbers of
that request name no other stops than its stations. -/
theorem travelled_iff (h : (seatLink start).Reachable (seats s P now) j)
    {a : InventoryService.SeatAllocation} (ha : a ∈ j.right.world.db.allocations) :
    (∃ dto, CreatedBy j.left.world dto a.bookingId) ∧
      ∀ dto, CreatedBy j.left.world dto a.bookingId →
        ∃ booking, j.left.world.db.bookings a.bookingId = some booking ∧
          (Travelled P.stops booking a ↔ Concordant P.stops dto) := by
  obtain ⟨hreq, -, hall⟩ := requested_of_run h
  obtain ⟨r, segment, hr, hb, hsegment, hon⟩ := hall a ha
  obtain ⟨x, rfl, hcreated, booking, hbooking, hbears⟩ := hreq.created r hr
  have hxb : x.bookingId = a.bookingId := hb
  rw [hxb] at hcreated hbooking
  refine ⟨⟨x.dto, hcreated⟩, fun dto hdto => ⟨booking, hbooking, ?_⟩⟩
  obtain ⟨userId, t, row, hlog, hrow, hid⟩ := hdto
  obtain hnone | ⟨y, rfl, hw, hsent⟩ := hreq.logged userId dto t hlog
  · rw [hnone] at hrow
    cases hrow
  · have hyb : row = y.row := by simpa [hw, BookingService.Insertion.writes] using hrow
    have hsameRequest : y.request = x.request := by
      apply hreq.one _ _ hsent hr
      rw [hb, ← hid, hyb]
      rfl
    rw [← hsameRequest] at hsegment hbears
    exact travelled_of_segment hsegment hon hbears

end Runs

section Schedules

def heldTurns (dto : BookingService.CreateBookingDto) (r : HoldSeatsRequested) :
    List (Turn BookingService.machine InventoryService.machine) :=
  [.left (.call (.createBooking 5 dto)), .left (.burst 0 40),
    .right (.call (.holdSeatsRequested (.event r))), .right (.burst 0 40)]

def journeys (j : Joint BookingService.machine InventoryService.machine) :
    Option (Id × Id) × List (Id × Id × Nat × Nat) :=
  ((j.left.world.db.bookings BookingService.sampleBooking).map
      (fun b => (b.fromStationId, b.toStationId)),
    j.right.world.db.allocations.map
      (fun a => (a.fromStationId, a.toStationId, a.fromSequence, a.toSequence)))

/-- The numbers 1 and 2 of a request are those of its stations. -/
theorem travelled_iff_held : ∃ j a,
    (seatLink Called).Reachable (seats BookingService.sampleSettings
      InventoryService.sampleProjection 0) j ∧ a ∈ j.right.world.db.allocations ∧
    (∃ dto, CreatedBy j.left.world dto a.bookingId) ∧
      ∀ dto, CreatedBy j.left.world dto a.bookingId →
        ∃ booking, j.left.world.db.bookings a.bookingId = some booking ∧
          (Travelled InventoryService.sampleProjection.stops booking a ↔
            Concordant InventoryService.sampleProjection.stops dto) := by
  obtain ⟨j, hj, ht⟩ := exists_joint (seatLink Called)
    (seats BookingService.sampleSettings InventoryService.sampleProjection 0) calledGuard
    (heldTurns BookingService.sampleRequest sampleRequested)
    (fun j => decide (journeys j = (some (1, 2), [(1, 2, 1, 2)])))
    calledGuard_sound (by decide +kernel)
  cases has : j.right.world.db.allocations with
  | nil =>
    have hlist := congrArg Prod.snd (of_decide_eq_true ht)
    simp [journeys, has] at hlist
  | cons a as =>
    have ha : a ∈ j.right.world.db.allocations := has ▸ List.mem_cons_self
    exact ⟨j, a, hj, ha, travelled_iff hj ha⟩

def sampleOvershoot : BookingService.CreateBookingDto :=
  { BookingService.sampleRequest with toSequence := some 3, toSequence_min := by decide }

theorem not_travelled : ¬ ∀ (start : BookingService.Call → Prop) (s : BookingService.Settings)
    (P : InventoryService.Projection) (now : Nat)
    (j : Joint BookingService.machine InventoryService.machine),
    (seatLink start).Reachable (seats s P now) j → ∀ a ∈ j.right.world.db.allocations,
      ∃ booking, j.left.world.db.bookings a.bookingId = some booking ∧
        Travelled P.stops booking a := by
  intro hall
  obtain ⟨j, hj, ht⟩ := exists_joint (seatLink Called)
    (seats BookingService.sampleSettings InventoryService.sampleProjection 0) calledGuard
    (heldTurns sampleOvershoot { sampleRequested with toSequence := 3 })
    (fun j => decide (journeys j = (some (1, 2), [(1, 3, 1, 3)]) ∧
      j.right.world.db.allocations.all (fun a => a.bookingId = BookingService.sampleBooking)))
    calledGuard_sound (by decide +kernel)
  obtain ⟨hjourneys, hown⟩ := of_decide_eq_true ht
  obtain ⟨hstations, hlist⟩ := Prod.mk.inj hjourneys
  cases has : j.right.world.db.allocations with
  | nil =>
    rw [has] at hlist
    cases hlist
  | cons a as =>
    have ha : a ∈ j.right.world.db.allocations := has ▸ List.mem_cons_self
    obtain ⟨booking, hbooking, htravelled⟩ := hall _ _ _ _ j hj a ha
    rw [of_decide_eq_true (List.all_eq_true.mp hown a ha)] at hbooking
    rw [hbooking] at hstations
    rw [has] at hlist
    have hto : booking.toStationId = 2 := (Prod.mk.inj (Option.some.inj hstations)).2
    have hheld : a.toStationId = 3 := (Prod.mk.inj (Prod.mk.inj (List.cons.inj hlist).1).2).1
    have hsame := htravelled.toStation
    rw [hto, hheld] at hsame
    cases hsame

end Schedules

end RailwayBooking.Integration
