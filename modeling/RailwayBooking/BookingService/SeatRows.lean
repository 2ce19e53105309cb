import RailwayBooking.BookingService.Requests

namespace RailwayBooking.BookingService

open Concurrency

def enrichAll (b : Uuid) (us : List SeatUpdate) (s : BookingSeat) : BookingSeat :=
  us.foldl (fun s u => if s.bookingId = b ∧ s.seatId = u.seatId then u.enrich s else s) s

section Enrich

variable (b : Uuid) (us : List SeatUpdate) (s : BookingSeat)

theorem enrichAll_cons (u : SeatUpdate) : enrichAll b (u :: us) s =
    enrichAll b us (if s.bookingId = b ∧ s.seatId = u.seatId then u.enrich s else s) := rfl

theorem enrichAll_keys : (enrichAll b us s).bookingId = s.bookingId ∧
    (enrichAll b us s).seatId = s.seatId := by
  induction us generalizing s with
  | nil => exact ⟨rfl, rfl⟩
  | cons u us ih =>
    rw [enrichAll_cons]
    obtain ⟨hb, hs⟩ := ih (if s.bookingId = b ∧ s.seatId = u.seatId then u.enrich s else s)
    rw [hb, hs]
    split <;> exact ⟨rfl, rfl⟩

theorem enrichAll_other {s : BookingSeat} (h : s.bookingId ≠ b) : enrichAll b us s = s := by
  induction us with
  | nil => rfl
  | cons u us ih =>
    rw [enrichAll_cons, if_neg (fun hs => h hs.1)]
    exact ih

theorem enrichAll_cases (hb : s.bookingId = b) :
    ((∀ u ∈ us, u.seatId ≠ s.seatId) ∧ enrichAll b us s = s) ∨
      ∃ u ∈ us, u.seatId = s.seatId ∧
        (enrichAll b us s).seatInventoryId = some u.seatInventoryId := by
  induction us generalizing s with
  | nil => exact .inl ⟨fun _ h => (nomatch h), rfl⟩
  | cons u us ih =>
    rw [enrichAll_cons]
    by_cases hu : s.seatId = u.seatId
    · rw [if_pos ⟨hb, hu⟩]
      right
      obtain ⟨_, hsame⟩ | ⟨u', hu', hs', hid⟩ := ih (u.enrich s) hb
      · exact ⟨u, List.mem_cons_self, hu.symm, by rw [hsame]; rfl⟩
      · exact ⟨u', List.mem_cons_of_mem _ hu', hs', hid⟩
    · rw [if_neg (fun h => hu h.2)]
      obtain ⟨hne, hsame⟩ | ⟨u', hu', hs', hid⟩ := ih s hb
      · refine .inl ⟨fun v hv => ?_, hsame⟩
        obtain rfl | hv := List.mem_cons.mp hv
        · exact Ne.symm hu
        · exact hne v hv
      · exact .inr ⟨u', List.mem_cons_of_mem _ hu', hs', hid⟩

theorem foldl_enrich (rows : List BookingSeat) :
    (us.map (Write.enrich b)).foldl (fun s x => x.onSeats s) rows = rows.map (enrichAll b us) := by
  induction us generalizing rows with
  | nil => exact (List.map_id rows).symm
  | cons u us ih =>
    rw [List.map_cons, List.foldl_cons, ih, Write.onSeats, List.map_map]
    rfl

end Enrich

variable {c : Call} {t : BookingTx} {w : BookingWorld} {b : Uuid}

/-- What a committed transaction does to the seats of the bookings. -/
inductive SeatsChange (t : BookingTx) (w : BookingWorld) : List BookingSeat → Prop
  | same : SeatsChange t w w.db.seats
  | created (x : Insertion) (new : w.db.bookings x.bookingId = none)
      (booked : (t.view w.db).bookings x.bookingId = some x.row) :
      SeatsChange t w (w.db.seats ++ newSeats x.dto x.bookingId)
  | held (e : SeatsHeld) (row : Booking) (current : w.db.bookings e.bookingId = some row)
      (pending : row.status = .pending) :
      SeatsChange t w (w.db.seats.map (enrichAll e.bookingId (passengersData e)))

theorem seats_held {e : SeatsHeld} {row row' : Booking} {log : SagaLog}
    (hw : t.writes = (passengersData e).map (.enrich e.bookingId) ++
      [.booking row, .booking row', .saga e.bookingId .holdSeats log]) (d : Db) :
    (t.view d).seats = d.seats.map (enrichAll e.bookingId (passengersData e)) := by
  rw [view_eq, applyAll_seats, hw, List.foldl_append, foldl_enrich]
  rfl

theorem Commit.seatsChange (h : Commit c t w) : SeatsChange t w (t.view w.db).seats := by
  cases h with
  | replayed _ hw | heldSkipped _ hw | holdFailedSkipped _ hw | holdExpiredSkipped _ hw
  | paymentMissing _ _ hw | paymentSkipped _ _ _ hw | recorded _ _ hw
  | holdExpiredBeaten _ _ _ _ _ _ hw | paid _ _ hw | holdFailed _ _ _ _ _ _ _ hw
  | holdFailedBeaten _ _ _ _ _ _ hw | holdExpired _ _ _ _ _ _ _ hw =>
    rw [view_eq, applyAll_seats, hw]
    exact .same
  | created x _ hw _ hnew _ _ _ _ _ _ =>
    have hv := bookings_created (w := w) hw
    rw [view_eq, applyAll_seats, hw]
    exact .created x hnew (by rw [hv, Function.update_self])
  | @transition _ _ _ args read row _ _ _ _ _ _ _ _ _ _ hw _ =>
    have hu : (args.updateWrites row).foldl (fun s x => x.onSeats s) w.db.seats = w.db.seats := by
      unfold TransitionArgs.updateWrites
      cases args.updates <;> rfl
    rw [view_eq, applyAll_seats, hw, List.foldl_append, hu]
    exact .same
  | @held e _ _ read row _ hpend _ _ hcur _ hst hw _ =>
    rw [seats_held hw]
    exact .held e row hcur (hst.trans hpend)

/-- What a committed transaction does to the status of booking `b`, and what it says
of it. -/
inductive StatusChange (c : Call) (t : BookingTx) (w : BookingWorld) (b : Uuid) :
    Option BookingStatus → Option BookingStatus → Prop
  | same (s : Option BookingStatus) : StatusChange c t w b s s
  | created : StatusChange c t w b none (some .pending)
  | moved {args : TransitionArgs} {s : BookingStatus} (e : BookingStatusChanged)
      (performs : Performs c args) (permits : args.permits s = true)
      (event : .bookingStatusChanged e ∈ t.writes.filterMap Write.event?) (booking : e.bookingId = b)
      (current : e.currentStatus = args.target) : StatusChange c t w b (some s) (some args.target)
  | held (e : SeatsHeld) (call : c = .seatsHeld (.event e)) (booking : e.bookingId = b)
      (seats : (t.view w.db).seats = w.db.seats.map (enrichAll b (passengersData e))) :
      StatusChange c t w b (some .pending) (some .seatsHeld)
  | failed : StatusChange c t w b (some .pending) (some .failed)
  | expired {s : BookingStatus} (h : s = .seatsHeld ∨ s = .pending) :
      StatusChange c t w b (some s) (some .expired)

theorem statusChange_of_update {b' : Uuid} {r r' : Option Booking}
    (hv : (t.view w.db).bookings = Function.update w.db.bookings b' r')
    (hr : w.db.bookings b' = r)
    (h : b = b' → StatusChange c t w b (r.map Booking.status) (r'.map Booking.status)) :
    StatusChange c t w b ((w.db.bookings b).map Booking.status)
      (((t.view w.db).bookings b).map Booking.status) := by
  rw [hv]
  by_cases hb : b = b'
  · subst hb
    rw [Function.update_self, hr]
    exact h rfl
  · rw [Function.update_of_ne hb]
    exact .same _

theorem Commit.statusChange (h : Commit c t w) (hi : Inv w) (b : Uuid) :
    StatusChange c t w b ((w.db.bookings b).map Booking.status)
      (((t.view w.db).bookings b).map Booking.status) := by
  cases h with
  | replayed _ hw | heldSkipped _ hw | holdFailedSkipped _ hw | holdExpiredSkipped _ hw
  | paymentMissing _ _ hw | paymentSkipped _ _ _ hw | recorded _ _ hw
  | holdExpiredBeaten _ _ _ _ _ _ hw | paid _ _ hw =>
    rw [rows_none (by rw [hw]; rfl)]
    exact .same _
  | created x _ hw _ hnew _ _ _ _ _ _ =>
    exact statusChange_of_update (bookings_created hw) hnew fun _ => .created
  | @transition _ _ _ args read row eventId hper _ hpermits _ _ _ hcur _ hst hw _ =>
    have hid := hi.id _ _ hcur
    refine statusChange_of_update (bookings_transition hid hw) hcur fun hb => ?_
    refine .moved (statusChanged eventId (args.moved row) (some row.status)) hper (hst ▸ hpermits)
      ?_ (((args.moved_id row).trans hid).trans hb.symm) rfl
    rw [hw, List.filterMap_append]
    exact List.mem_append_right _ List.mem_cons_self
  | @held e _ _ read row _ hpend _ _ hcur _ hst hw _ =>
    refine statusChange_of_update (bookings_held (hi.id _ _ hcur) hw) hcur fun hb => ?_
    rw [Option.map_some, hst.trans hpend]
    exact .held e rfl hb.symm (by rw [seats_held hw, hb])
  | @holdFailed e _ _ read row _ hpend _ _ hcur _ hst hw =>
    refine statusChange_of_update (bookings_holdFailed (hi.id _ _ hcur) hw) hcur fun _ => ?_
    rw [Option.map_some, hst.trans hpend]
    exact .failed
  | @holdFailedBeaten e _ _ read row _ _ _ _ hcur _ hw =>
    exact statusChange_of_update (bookings_holdFailedBeaten (hi.id _ _ hcur) hw) hcur
      fun _ => .same _
  | @holdExpired e _ _ read row _ hheld _ _ hcur _ hst hw =>
    exact statusChange_of_update (bookings_holdExpired (hi.id _ _ hcur) hw) hcur
      fun _ => .expired (hst ▸ hheld)

def BookingStatus.seated : BookingStatus → Bool
  | .seatsHeld | .paymentPending | .confirming | .confirmed => true
  | _ => false

theorem StatusChange.seated {old : Option BookingStatus} {s' : BookingStatus}
    (h : StatusChange c t w b old (some s')) (hc : ∀ b' l, c ≠ .markSeatsHeld b' l)
    (hs : BookingStatus.seated s' = true) :
    (∃ s, old = some s ∧ BookingStatus.seated s = true) ∨
      ∃ e, c = .seatsHeld (.event e) ∧ e.bookingId = b ∧
        (t.view w.db).seats = w.db.seats.map (enrichAll b (passengersData e)) := by
  cases h with
  | same => exact .inl ⟨s', rfl, hs⟩
  | created | failed => cases hs
  | expired => cases hs
  | held e hcall hb hseats => exact .inr ⟨e, hcall, hb, hseats⟩
  | @moved args s e hper hpermits =>
    refine .inl ⟨s, rfl, ?_⟩
    cases hper with
    | markSeatsHeld b' l => exact absurd rfl (hc b' l)
    | markFailed | markExpired | cancelling | cancelled => cases hs
    | markPaymentPending | markConfirming | markConfirmed | ordered | autoAdvance | payHeld
    | payConfirming | payConfirmed =>
      cases s <;> first | rfl | exact absurd (show false = true from hpermits) Bool.false_ne_true

theorem StatusChange.confirmed {old : Option BookingStatus}
    (h : StatusChange c t w b old (some .confirmed)) : old = some .confirmed ∨
      ∃ e, .bookingStatusChanged e ∈ t.writes.filterMap Write.event? ∧ e.bookingId = b ∧
        e.currentStatus = .confirmed := by
  generalize hs : some BookingStatus.confirmed = new at h
  cases h with
  | same => exact .inl rfl
  | created | failed | expired | held => cases hs
  | moved e _ _ hev hb hcur => exact .inr ⟨e, hev, hb, hcur.trans (Option.some.inj hs).symm⟩

theorem Commit.event_status (h : Commit c t w) (hi : Inv w) {e : BookingStatusChanged}
    (he : .bookingStatusChanged e ∈ t.writes.filterMap Write.event?) :
    ∃ row, (t.view w.db).bookings e.bookingId = some row ∧ row.status = e.currentStatus := by
  have hp := h.publishes hi e.bookingId
  have hmem : e ∈ (t.writes.filterMap Write.event?).filterMap (statusOf e.bookingId) :=
    List.mem_filterMap.mpr ⟨_, he, if_pos rfl⟩
  generalize hes : (t.writes.filterMap Write.event?).filterMap (statusOf e.bookingId) = es
    at hp hmem
  generalize w.db.bookings e.bookingId = old at hp
  generalize (t.view w.db).bookings e.bookingId = new at hp ⊢
  cases hp with
  | quiet | silent => cases hmem
  | @created row e' _ _ hcur =>
    cases List.mem_singleton.mp hmem
    exact ⟨row, rfl, hcur.symm⟩
  | @moved _ row' e' _ _ _ hcur =>
    cases List.mem_singleton.mp hmem
    exact ⟨row', rfl, hcur.symm⟩

theorem Commit.request (h : Commit c t w) {r : HoldSeatsRequested}
    (hr : .holdSeatsRequested r ∈ t.writes.filterMap Write.event?) :
    ∃ x : Insertion, c = .createBooking x.userId x.dto ∧ t.writes = x.writes ∧
      w.db.bookings x.bookingId = none ∧ x.Resolved w ∧ r = x.request := by
  cases h with
  | replayed _ hw | heldSkipped _ hw | holdFailedSkipped _ hw | holdExpiredSkipped _ hw
  | paymentMissing _ _ hw | paymentSkipped _ _ _ hw | recorded _ _ hw
  | holdExpiredBeaten _ _ _ _ _ _ hw | paid _ _ hw | holdFailed _ _ _ _ _ _ _ hw
  | holdFailedBeaten _ _ _ _ _ _ hw | holdExpired _ _ _ _ _ _ _ hw =>
    rw [hw] at hr
    cases hr
  | held _ _ _ _ _ _ _ hw _ =>
    rw [hw, List.filterMap_append, enrich_event] at hr
    cases hr
  | created x _ hw _ hnew _ _ _ _ _ hres =>
    rw [hw, x.events] at hr
    exact ⟨x, rfl, hw, hnew, hres, by simpa using hr⟩
  | @transition _ _ _ args read row eventId _ _ _ _ _ _ _ _ _ hw _ =>
    have hu : (args.updateWrites row).filterMap Write.event? = [] := by
      unfold TransitionArgs.updateWrites
      cases args.updates <;> rfl
    rw [hw, List.filterMap_append, hu] at hr
    simp [Write.event?] at hr

def Fits (f : Id → List Id → List SeatDetails) (r : HoldSeatsRequested) (rows : List BookingSeat) :
    Prop :=
  ∃ seatIds, seatInventoryIdsOf (f r.scheduleId seatIds) seatIds = some r.seatInventoryIds ∧
    (∀ s ∈ rows, s.bookingId = r.bookingId → s.seatId ∈ seatIds) ∧
    ∀ k ∈ seatIds, ∃ s ∈ rows, s.bookingId = r.bookingId ∧ s.seatId = k

/-- A booking has one request for seats at most, and it fits its seats. -/
structure RequestsFit (f : Id → List Id → List SeatDetails) (w : BookingWorld) : Prop where
  catalog : w.env.catalog = some f
  booked : ∀ r, .holdSeatsRequested r ∈ w.db.outbox → w.db.bookings r.bookingId ≠ none
  rows : ∀ s ∈ w.db.seats, w.db.bookings s.bookingId ≠ none
  one : ∀ r r', .holdSeatsRequested r ∈ w.db.outbox → .holdSeatsRequested r' ∈ w.db.outbox →
    r.bookingId = r'.bookingId → r = r'
  fits : ∀ r, .holdSeatsRequested r ∈ w.db.outbox → Fits f r w.db.seats

section Requests

variable {f : Id → List Id → List SeatDetails} {r : HoldSeatsRequested}

theorem Commit.booked (h : Commit c t w) (hi : Inv w) (hb : w.db.bookings b ≠ none) :
    (t.view w.db).bookings b ≠ none := by
  have hr := h.rowChange hi b
  generalize hold : w.db.bookings b = old at hr hb
  generalize (t.view w.db).bookings b = new at hr
  cases hr with
  | same => exact hb
  | created => exact absurd rfl hb
  | annotated | moved => exact Option.some_ne_none _

theorem mem_newSeats {dto : CreateBookingDto} {s : BookingSeat} (h : s ∈ newSeats dto b) :
    s.bookingId = b ∧ s.seatId ∈ dto.seatIds := by
  obtain ⟨k, hk, rfl⟩ := List.mem_map.mp h
  exact ⟨rfl, hk⟩

theorem Fits.change {rows : List BookingSeat} (h : Fits f r w.db.seats)
    (hb : w.db.bookings r.bookingId ≠ none) (hc : SeatsChange t w rows) : Fits f r rows := by
  obtain ⟨seatIds, hids, hall, hex⟩ := h
  cases hc with
  | same => exact ⟨seatIds, hids, hall, hex⟩
  | created x hnew _ =>
    refine ⟨seatIds, hids, fun s hs hsb => ?_, fun k hk => ?_⟩
    · obtain hs | hs := List.mem_append.mp hs
      · exact hall s hs hsb
      · rw [← hsb, (mem_newSeats hs).1] at hb
        exact absurd hnew hb
    · obtain ⟨s, hs, hx⟩ := hex k hk
      exact ⟨s, List.mem_append_left _ hs, hx⟩
  | held e _ _ _ =>
    refine ⟨seatIds, hids, fun s hs hsb => ?_, fun k hk => ?_⟩
    · obtain ⟨s', hs', rfl⟩ := List.mem_map.mp hs
      obtain ⟨hkb, hks⟩ := enrichAll_keys e.bookingId (passengersData e) s'
      rw [hks]
      exact hall s' hs' (hkb.symm.trans hsb)
    · obtain ⟨s, hs, hsb, hsk⟩ := hex k hk
      obtain ⟨hkb, hks⟩ := enrichAll_keys e.bookingId (passengersData e) s
      exact ⟨_, List.mem_map_of_mem hs, hkb.trans hsb, hks.trans hsk⟩

theorem fits_created {x : Insertion} (h : RequestsFit f w)
    (hnew : w.db.bookings x.bookingId = none) (hres : x.Resolved w) :
    Fits f x.request (w.db.seats ++ newSeats x.dto x.bookingId) := by
  refine ⟨x.dto.seatIds, (hres f h.catalog).2, fun s hs hsb => ?_, fun k hk => ?_⟩
  · obtain hs | hs := List.mem_append.mp hs
    · have hbooked := h.rows s hs
      rw [hsb] at hbooked
      exact absurd hnew hbooked
    · exact (mem_newSeats hs).2
  · exact ⟨_, List.mem_append_right _ (List.mem_map_of_mem hk), rfl, rfl⟩

theorem RequestsFit.commit (hi : Inv w) (hc : Commit c t w) (h : RequestsFit f w) :
    RequestsFit f (w.commit c t) where
  catalog := h.catalog
  booked r hr := by
    rw [commit_outbox] at hr
    obtain hr | hr := List.mem_append.mp hr
    · exact hc.booked hi (h.booked r hr)
    · obtain ⟨x, -, hw, -, -, rfl⟩ := hc.request hr
      change (t.view w.db).bookings x.bookingId ≠ none
      rw [bookings_created hw, Function.update_self]
      exact Option.some_ne_none _
  rows s hs := by
    have hch := hc.seatsChange
    change s ∈ (t.view w.db).seats at hs
    change (t.view w.db).bookings s.bookingId ≠ none
    generalize (t.view w.db).seats = rows at hs hch
    cases hch with
    | same => exact hc.booked hi (h.rows s hs)
    | created x _ hbooked =>
      obtain hs | hs := List.mem_append.mp hs
      · exact hc.booked hi (h.rows s hs)
      · rw [(mem_newSeats hs).1, hbooked]
        exact Option.some_ne_none _
    | held e _ _ _ =>
      obtain ⟨s', hs', rfl⟩ := List.mem_map.mp hs
      rw [(enrichAll_keys _ _ s').1]
      exact hc.booked hi (h.rows s' hs')
  one r r' hr hr' hb := by
    rw [commit_outbox] at hr hr'
    obtain hr | hr := List.mem_append.mp hr
    · obtain hr' | hr' := List.mem_append.mp hr'
      · exact h.one r r' hr hr' hb
      · obtain ⟨x, -, -, hnew, -, rfl⟩ := hc.request hr'
        have hbooked := h.booked r hr
        rw [hb] at hbooked
        exact absurd hnew hbooked
    · obtain ⟨x, -, hw, hnew, -, rfl⟩ := hc.request hr
      obtain hr' | hr' := List.mem_append.mp hr'
      · have hbooked := h.booked r' hr'
        rw [← hb] at hbooked
        exact absurd hnew hbooked
      · rw [hw, x.events] at hr'
        have hsame : r' = x.request := by simpa using hr'
        exact hsame.symm
  fits r hr := by
    rw [commit_outbox] at hr
    obtain hr | hr := List.mem_append.mp hr
    · exact (h.fits r hr).change (h.booked r hr) hc.seatsChange
    · obtain ⟨x, -, hw, hnew, hres, rfl⟩ := hc.request hr
      have hseats : (t.view w.db).seats = w.db.seats ++ newSeats x.dto x.bookingId := by
        rw [view_eq, applyAll_seats, hw]
        rfl
      change Fits f x.request (t.view w.db).seats
      rw [hseats]
      exact fits_created h hnew hres

theorem RequestsFit.drift {e : Env} (hd : Drift w e) (h : RequestsFit f w) :
    RequestsFit f (w.setEnv e) :=
  ⟨hd.catalog.trans h.catalog, h.booked, h.rows, h.one, h.fits⟩

theorem requestsFit_pool (s : Settings) (hf : s.catalog = some f) : RequestsFit f s.pool.world where
  catalog := hf
  booked r hr := by cases hr
  rows s hs := by cases hs
  one r r' hr := by cases hr
  fits r hr := by cases hr

end Requests

end RailwayBooking.BookingService
