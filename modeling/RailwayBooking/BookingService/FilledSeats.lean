import RailwayBooking.Money
import RailwayBooking.BookingService.SeatRows

namespace RailwayBooking.BookingService

open Concurrency

/-- The rows of a booking's seats. -/
def seatsOf (rows : List BookingSeat) (b : Uuid) : List BookingSeat :=
  rows.filter (fun s => s.bookingId = b)

def seatIdsOf (rows : List BookingSeat) (b : Uuid) : List Id :=
  (seatsOf rows b).map BookingSeat.seatId

/-- The row of a seat with all data of its update. -/
def SeatUpdate.row (b : Uuid) (u : SeatUpdate) : BookingSeat where
  bookingId := b
  seatId := u.seatId
  seatInventoryId := some u.seatInventoryId
  coachNumber := some u.coachNumber
  seatNumber := some u.seatNumber
  seatType := some u.seatType
  price := some u.price

section Enrich

variable {b : Uuid} {us : List SeatUpdate} {rows : List BookingSeat}

theorem enrichAll_unmatched {s : BookingSeat} (h : ∀ u ∈ us, u.seatId ≠ s.seatId) :
    enrichAll b us s = s := by
  induction us with
  | nil => rfl
  | cons u us ih =>
    rw [enrichAll_cons, if_neg (fun hs => h u List.mem_cons_self hs.2.symm)]
    exact ih fun v hv => h v (List.mem_cons_of_mem _ hv)

theorem enrichAll_matched {s : BookingSeat} {u : SeatUpdate} (hb : s.bookingId = b)
    (hs : s.seatId = u.seatId) (hu : u ∈ us) (hnodup : (us.map SeatUpdate.seatId).Nodup) :
    enrichAll b us s = u.row b := by
  induction us with
  | nil => cases hu
  | cons v us ih =>
    rw [List.map_cons, List.nodup_cons] at hnodup
    rw [enrichAll_cons]
    obtain rfl | hu := List.mem_cons.mp hu
    · rw [if_pos ⟨hb, hs⟩, enrichAll_unmatched]
      · rw [SeatUpdate.enrich, SeatUpdate.row, hb, hs]
      · intro v hv hsame
        exact hnodup.1 (List.mem_map.mpr ⟨v, hv, hsame.trans hs⟩)
    · have hne : s.seatId ≠ v.seatId := by
        intro hsame
        exact hnodup.1 (List.mem_map.mpr ⟨u, hu, hs.symm.trans hsame⟩)
      rw [if_neg (fun h => hne h.2)]
      exact ih hu hnodup.2

theorem perm_enrichAll (hb : ∀ s ∈ rows, s.bookingId = b)
    (hids : (rows.map BookingSeat.seatId).Perm (us.map SeatUpdate.seatId))
    (hnodup : (us.map SeatUpdate.seatId).Nodup) :
    (rows.map (enrichAll b us)).Perm (us.map (SeatUpdate.row b)) := by
  have hkeys : (rows.map (enrichAll b us)).map BookingSeat.seatId = rows.map BookingSeat.seatId := by
    rw [List.map_map]
    exact List.map_congr_left fun s _ => (enrichAll_keys b us s).2
  have hrow : (us.map (SeatUpdate.row b)).map BookingSeat.seatId = us.map SeatUpdate.seatId := by
    rw [List.map_map]
    rfl
  apply (List.perm_ext_iff_of_nodup ?_ ?_).mpr
  · intro y
    constructor
    · intro hy
      obtain ⟨s, hs, rfl⟩ := List.mem_map.mp hy
      obtain ⟨u, hu, hsame⟩ := List.mem_map.mp (hids.mem_iff.mp (List.mem_map_of_mem hs))
      rw [enrichAll_matched (hb s hs) hsame.symm hu hnodup]
      exact List.mem_map_of_mem hu
    · intro hy
      obtain ⟨u, hu, rfl⟩ := List.mem_map.mp hy
      obtain ⟨s, hs, hsame⟩ := List.mem_map.mp (hids.mem_iff.mpr (List.mem_map_of_mem hu))
      rw [← enrichAll_matched (hb s hs) hsame hu hnodup]
      exact List.mem_map_of_mem hs
  · apply List.Nodup.of_map BookingSeat.seatId
    rw [hkeys]
    exact hids.nodup_iff.mpr hnodup
  · apply List.Nodup.of_map BookingSeat.seatId
    rw [hrow]
    exact hnodup

end Enrich

variable {c : Call} {t : BookingTx} {w : BookingWorld} {b : Uuid}

section Rows

theorem mem_seatsOf {rows : List BookingSeat} {s : BookingSeat} :
    s ∈ seatsOf rows b ↔ s ∈ rows ∧ s.bookingId = b := by
  rw [seatsOf, List.mem_filter, decide_eq_true_iff]

theorem seatsOf_append (rows rows' : List BookingSeat) (b : Uuid) :
    seatsOf (rows ++ rows') b = seatsOf rows b ++ seatsOf rows' b :=
  List.filter_append ..

theorem seatsOf_newSeats (dto : CreateBookingDto) (b : Uuid) :
    seatsOf (newSeats dto b) b = newSeats dto b := by
  rw [seatsOf, List.filter_eq_self]
  intro s hs
  exact decide_eq_true (mem_newSeats hs).1

theorem seatsOf_newSeats_of_ne {dto : CreateBookingDto} {b' : Uuid} (h : b' ≠ b) :
    seatsOf (newSeats dto b') b = [] := by
  rw [seatsOf, List.filter_eq_nil_iff]
  intro s hs hb
  exact h ((mem_newSeats hs).1.symm.trans (of_decide_eq_true hb))

theorem seatsOf_enrichAll (rows : List BookingSeat) (b b' : Uuid) (us : List SeatUpdate) :
    seatsOf (rows.map (enrichAll b' us)) b = (seatsOf rows b).map (enrichAll b' us) := by
  rw [seatsOf, seatsOf, List.filter_map]
  congr 2
  funext s
  rw [Function.comp_apply, (enrichAll_keys b' us s).1]

/-- A transaction leaves the seats of a booking as they are, or fills those of a pending
one from an event. -/
theorem SeatsChange.seatsOf {rows : List BookingSeat} (h : SeatsChange t w rows)
    (hb : w.db.bookings b ≠ none) : seatsOf rows b = seatsOf w.db.seats b ∨
      ∃ e row, e.bookingId = b ∧ w.db.bookings b = some row ∧ row.status = .pending ∧
        seatsOf rows b = (seatsOf w.db.seats b).map (enrichAll b (passengersData e)) := by
  cases h with
  | same => exact .inl rfl
  | created x hnew _ =>
    left
    have hne : x.bookingId ≠ b := by
      rintro rfl
      exact hb hnew
    rw [seatsOf_append, seatsOf_newSeats_of_ne hne, List.append_nil]
  | held e row hcur hpending =>
    rw [seatsOf_enrichAll]
    by_cases heb : e.bookingId = b
    · subst heb
      exact .inr ⟨e, row, rfl, hcur, hpending, rfl⟩
    · left
      have hother : ∀ s ∈ BookingService.seatsOf w.db.seats b,
          enrichAll e.bookingId (passengersData e) s = s := by
        intro s hs
        apply enrichAll_other
        rw [(mem_seatsOf.mp hs).2]
        exact Ne.symm heb
      exact (List.map_congr_left hother).trans (List.map_id _)

theorem SeatsChange.seatIdsOf {rows : List BookingSeat} (h : SeatsChange t w rows)
    (hb : w.db.bookings b ≠ none) : seatIdsOf rows b = seatIdsOf w.db.seats b := by
  obtain hsame | ⟨e, _, _, _, _, hseats⟩ := h.seatsOf hb
  · rw [BookingService.seatIdsOf, hsame]
    rfl
  · rw [BookingService.seatIdsOf, hseats, List.map_map]
    exact List.map_congr_left fun s _ => (enrichAll_keys b (passengersData e) s).2

end Rows

/-- The request asks for these seats, which are distinct and few, in their order. -/
structure AsksFor (f : Id → List Id → List SeatDetails) (r : HoldSeatsRequested)
    (seatIds : List Id) : Prop where
  ids : seatInventoryIdsOf (f r.scheduleId seatIds) seatIds = some r.seatInventoryIds
  distinct : seatIds.Nodup
  few : seatIds.length ≤ 6

/-- Each request asks for exactly the seats of its booking. -/
structure RequestsExact (f : Id → List Id → List SeatDetails) (w : BookingWorld) : Prop where
  fit : RequestsFit f w
  exact : ∀ r, .holdSeatsRequested r ∈ w.db.outbox → AsksFor f r (seatIdsOf w.db.seats r.bookingId)

section Requests

variable {f : Id → List Id → List SeatDetails}

theorem RequestsExact.commit (hi : Inv w) (hc : Commit c t w) (h : RequestsExact f w) :
    RequestsExact f (w.commit c t) where
  fit := h.fit.commit hi hc
  exact r hr := by
    change AsksFor f r (seatIdsOf (t.view w.db).seats r.bookingId)
    rw [commit_outbox] at hr
    obtain hr | hr := List.mem_append.mp hr
    · rw [hc.seatsChange.seatIdsOf (h.fit.booked r hr)]
      exact h.exact r hr
    · obtain ⟨x, -, hw, hnew, hres, rfl⟩ := hc.request hr
      have hseats : (t.view w.db).seats = w.db.seats ++ newSeats x.dto x.bookingId := by
        rw [view_eq, applyAll_seats, hw]
        rfl
      have hnone : seatsOf w.db.seats x.bookingId = [] := by
        rw [seatsOf, List.filter_eq_nil_iff]
        intro s hs hb
        exact h.fit.rows s hs (of_decide_eq_true hb ▸ hnew)
      have hids : seatIdsOf (t.view w.db).seats x.bookingId = x.dto.seatIds := by
        rw [seatIdsOf, hseats, seatsOf_append, hnone, List.nil_append, seatsOf_newSeats, newSeats,
          List.map_map]
        exact List.map_id _
      change AsksFor f x.request (seatIdsOf (t.view w.db).seats x.bookingId)
      rw [hids]
      exact ⟨(hres f h.fit.catalog).2, x.dto.seatIds_nodup, x.dto.seatIds_length.2⟩

theorem RequestsExact.drift {e : Env} (hd : Drift w e) (h : RequestsExact f w) :
    RequestsExact f (w.setEnv e) := ⟨h.fit.drift hd, h.exact⟩

theorem requestsExact_pool (s : Settings) (hf : s.catalog = some f) :
    RequestsExact f s.pool.world where
  fit := requestsFit_pool s hf
  exact r hr := by cases hr

end Requests

/-- The transaction of `handleSeatsHeld`, where it moves the booking to `SEATS_HELD`. -/
structure MovesToHeld (t : BookingTx) : Prop where
  site : t.site = .seatsHeld
  moved : ∃ row, .booking row ∈ t.writes ∧ row.status = .seatsHeld

/-- The seats of the booking are the allocations of the event, and its price is the sum
of their prices, also as it is computed in doubles. -/
structure SeatsFilled (e : SeatsHeld) (w : BookingWorld) : Prop where
  rows : (seatsOf w.db.seats e.bookingId).Perm
    ((passengersData e).map (SeatUpdate.row e.bookingId))
  distinct : (seatIdsOf w.db.seats e.bookingId).Nodup
  price : ∃ row, w.db.bookings e.bookingId = some row ∧ row.status ≠ .pending ∧
    row.totalPrice = ((seatsOf w.db.seats e.bookingId).filterMap BookingSeat.price).sum ∧
    row.totalPrice = decimalTotal (e.allocations.map SeatAllocationEntry.price)

section Filled

variable {e : SeatsHeld}

theorem RowChange.price_kept {row : Booking} {new : Option Booking}
    (h : RowChange c t b (some row) new) (hst : row.status ≠ .pending) :
    ∃ row', new = some row' ∧ row'.status ≠ .pending ∧ row'.totalPrice = row.totalPrice := by
  generalize hold : some row = old at h
  cases h with
  | same => exact ⟨row, hold.symm, hst, rfl⟩
  | created => cases hold
  | annotated u _ hprice =>
    cases hold
    exact ⟨_, rfl, hst, hprice⟩
  | moved _ _ _ _ _ hedge _ hprice =>
    cases hold
    obtain hprice | ⟨hpending, -⟩ := hprice
    · exact ⟨_, rfl, hedge.ne_pending, hprice⟩
    · exact absurd hpending hst

theorem SeatsFilled.commit (hi : Inv w) (hc : Commit c t w) (h : SeatsFilled e w) :
    SeatsFilled e (w.commit c t) := by
  obtain ⟨row, hrow, hst, hprice, hdouble⟩ := h.price
  have hch := hc.rowChange hi e.bookingId
  rw [hrow] at hch
  obtain ⟨row', hrow', hst', hprice'⟩ := hch.price_kept hst
  have hseats : seatsOf (t.view w.db).seats e.bookingId = seatsOf w.db.seats e.bookingId := by
    obtain hsame | ⟨_, row₁, _, hrow₁, hpending, _⟩ :=
      hc.seatsChange.seatsOf (b := e.bookingId) (by rw [hrow]; exact Option.some_ne_none _)
    · exact hsame
    · rw [hrow] at hrow₁
      cases hrow₁
      exact absurd hpending hst
  refine ⟨?_, ?_, row', hrow', hst', ?_, hprice'.trans hdouble⟩
  · change (seatsOf (t.view w.db).seats e.bookingId).Perm _
    rw [hseats]
    exact h.rows
  · change ((seatsOf (t.view w.db).seats e.bookingId).map _).Nodup
    rw [hseats]
    exact h.distinct
  · change _ = ((seatsOf (t.view w.db).seats e.bookingId).filterMap _).sum
    rw [hseats, hprice', hprice]

theorem totalPrice_eq_sum (e : SeatsHeld) :
    totalPrice e = (e.allocations.map SeatAllocationEntry.price).sum := by
  rw [totalPrice, List.sum_eq_foldl, List.foldl_map]

theorem prices_of_rows (e : SeatsHeld) (b : Uuid) :
    ((passengersData e).map (SeatUpdate.row b)).filterMap BookingSeat.price =
      e.allocations.map SeatAllocationEntry.price := by
  rw [passengersData, List.map_map, List.filterMap_map]
  change e.allocations.filterMap (some ∘ SeatAllocationEntry.price) = _
  rw [List.filterMap_eq_map]

theorem seatsFilled_held (hi : Inv w) (hc : Commit (.seatsHeld (.event e)) t w)
    (hm : MovesToHeld t) {seatIds : List Id} (hids : seatIdsOf w.db.seats e.bookingId = seatIds)
    (hperm : (e.allocations.map SeatAllocationEntry.seatId).Perm seatIds) (hnodup : seatIds.Nodup)
    (hfew : seatIds.length ≤ 6) : SeatsFilled e (w.commit (.seatsHeld (.event e)) t) := by
  cases hc with
  | transition _ hsite | recorded hsite =>
    rw [hm.site] at hsite
    cases hsite
  | heldSkipped _ hw =>
    obtain ⟨row, hrow, -⟩ := hm.moved
    rw [hw] at hrow
    cases hrow
  | @held _ _ _ _ row _ _ _ _ hcur _ _ hw hprice =>
    have hkeys : (passengersData e).map SeatUpdate.seatId =
        e.allocations.map SeatAllocationEntry.seatId := by
      rw [passengersData, List.map_map]
      rfl
    have hlen : (e.allocations.map SeatAllocationEntry.price).length ≤ 1000 := by
      have hsame := hperm.length_eq
      rw [List.length_map] at hsame ⊢
      omega
    have hseats : seatsOf (t.view w.db).seats e.bookingId =
        (seatsOf w.db.seats e.bookingId).map (enrichAll e.bookingId (passengersData e)) := by
      rw [seats_held hw, seatsOf_enrichAll]
    have hrows : (seatsOf (t.view w.db).seats e.bookingId).Perm
        ((passengersData e).map (SeatUpdate.row e.bookingId)) := by
      rw [hseats]
      apply perm_enrichAll
      · exact fun s hs => (mem_seatsOf.mp hs).2
      · rw [hkeys]
        exact (hids ▸ hperm).symm
      · rw [hkeys]
        exact hperm.nodup_iff.mpr hnodup
    have hsum : ((seatsOf (t.view w.db).seats e.bookingId).filterMap BookingSeat.price).sum =
        totalPrice e := by
      rw [(hrows.filterMap _).sum_eq, prices_of_rows, totalPrice_eq_sum]
    refine ⟨hrows, ?_, (heldUpdate e).apply
      { row with status := .seatsHeld, version := row.version + 1 }, ?_, nofun, hsum.symm, ?_⟩
    · change ((seatsOf (t.view w.db).seats e.bookingId).map BookingSeat.seatId).Nodup
      rw [(hrows.map _).nodup_iff, List.map_map]
      exact (hkeys ▸ hperm).nodup_iff.mpr hnodup
    · change (t.view w.db).bookings e.bookingId = _
      rw [bookings_held (hi.id _ _ hcur) hw, Function.update_self]
    · change totalPrice e = _
      rw [totalPrice_eq_sum] at hprice ⊢
      exact (decimalTotal_eq hlen hprice).symm

end Filled

end RailwayBooking.BookingService
