import RailwayBooking.BookingService.SeatRows
import RailwayBooking.Integration.Seats

namespace RailwayBooking.Integration

open Concurrency

/-- The answer of inventory-service to booking-service's question for seats. -/
def getSeatsDetailsBatch (P : InventoryService.Projection) (scheduleId : Id) (seatIds : List Id) :
    List BookingService.SeatDetails :=
  (P.seats.filter (fun s => s.scheduleId = scheduleId && seatIds.contains s.seatId)).map
    (fun s => ⟨s.seatId, s.id⟩)

/-- What a request asks for are the seats of its booking. -/
structure Names (P : InventoryService.Projection) (r : HoldSeatsRequested)
    (rows : List BookingService.BookingSeat) : Prop where
  ids : ∀ i ∈ r.seatInventoryIds, ∃ q ∈ P.seats, q.id = i ∧ q.scheduleId = r.scheduleId ∧
    ∃ s ∈ rows, s.bookingId = r.bookingId ∧ s.seatId = q.seatId
  seats : ∀ s ∈ rows, s.bookingId = r.bookingId → ∃ q ∈ P.seats, q.seatId = s.seatId ∧
    q.scheduleId = r.scheduleId ∧ q.id ∈ r.seatInventoryIds

section Names

theorem mem_of_mapM {α β : Type} {f : α → Option β} {l : List α} {l' : List β}
    (h : l.mapM f = some l') :
    (∀ b ∈ l', ∃ a ∈ l, f a = some b) ∧ ∀ a ∈ l, ∃ b ∈ l', f a = some b := by
  induction l generalizing l' with
  | nil =>
    cases h
    exact ⟨fun _ hb => (nomatch hb), fun _ ha => (nomatch ha)⟩
  | cons a l ih =>
    simp only [List.mapM_cons, Option.pure_def, Option.bind_eq_bind, Option.bind_eq_some_iff,
      Option.some.injEq] at h
    obtain ⟨b, hb, bs, hbs, rfl⟩ := h
    obtain ⟨hl, hr⟩ := ih hbs
    constructor
    · intro x hx
      obtain rfl | hx := List.mem_cons.mp hx
      · exact ⟨a, List.mem_cons_self, hb⟩
      · obtain ⟨y, hy, hf⟩ := hl x hx
        exact ⟨y, List.mem_cons_of_mem _ hy, hf⟩
    · intro x hx
      obtain rfl | hx := List.mem_cons.mp hx
      · exact ⟨b, List.mem_cons_self, hb⟩
      · obtain ⟨y, hy, hf⟩ := hr x hx
        exact ⟨y, List.mem_cons_of_mem _ hy, hf⟩

variable {P : InventoryService.Projection} {r : HoldSeatsRequested}
  {rows : List BookingService.BookingSeat}

theorem seat_of_found {scheduleId : Id} {seatIds : List Id} {k i : Id}
    (h : ((getSeatsDetailsBatch P scheduleId seatIds).reverse.find? (fun s => s.seatId = k)).map
      BookingService.SeatDetails.seatInventoryId = some i) :
    ∃ q ∈ P.seats, q.seatId = k ∧ q.scheduleId = scheduleId ∧ q.id = i := by
  obtain ⟨d, hd, rfl⟩ := Option.map_eq_some_iff.mp h
  have hk : d.seatId = k := by simpa using List.find?_some hd
  obtain ⟨q, hq, rfl⟩ := List.mem_map.mp (List.mem_reverse.mp (List.mem_of_find?_eq_some hd))
  obtain ⟨hq, hs⟩ := List.mem_filter.mp hq
  have hsched : q.scheduleId = scheduleId := by simp at hs; exact hs.1
  exact ⟨q, hq, hk, hsched, rfl⟩

theorem names_of_fits (h : BookingService.Fits (getSeatsDetailsBatch P) r rows) :
    Names P r rows := by
  obtain ⟨seatIds, hids, hall, hex⟩ := h
  obtain ⟨hl, hr⟩ := mem_of_mapM hids
  constructor
  · intro i hi
    obtain ⟨k, hk, hf⟩ := hl i hi
    obtain ⟨q, hq, hqk, hsched, hqi⟩ := seat_of_found hf
    obtain ⟨s, hs, hsb, hsk⟩ := hex k hk
    exact ⟨q, hq, hqi, hsched, s, hs, hsb, hsk.trans hqk.symm⟩
  · intro s hs hsb
    obtain ⟨i, hi, hf⟩ := hr s.seatId (hall s hs hsb)
    obtain ⟨q, hq, hqk, hsched, rfl⟩ := seat_of_found hf
    exact ⟨q, hq, hqk, hsched, hi⟩

end Names

/-- The answer `e` is that to request `r`, whose seats it names and has allocated. -/
structure HoldOf (P : InventoryService.Projection) (r : HoldSeatsRequested) (e : SeatsHeld)
    (w : BookingService.BookingWorld) (v : InventoryService.InventoryWorld) : Prop where
  request : .holdSeatsRequested r ∈ w.db.outbox
  booking : r.bookingId = e.bookingId
  recorded : InventoryService.Recorded (.hold r.eventId) v
  entries : ∀ x ∈ e.allocations, ∃ q ∈ P.seats, q.scheduleId = r.scheduleId ∧
    q.seatId = x.seatId ∧ q.id = x.seatInventoryId
  answered : ∀ i ∈ r.seatInventoryIds, ∃ x ∈ e.allocations, x.seatInventoryId = i
  allocated : ∀ i ∈ r.seatInventoryIds, ∃ a ∈ v.db.allocations,
    a.bookingId = r.bookingId ∧ a.seatInventoryId = i

def Enriched (e : SeatsHeld) (b : Uuid) (rows : List BookingService.BookingSeat) : Prop :=
  ∀ s ∈ rows, s.bookingId = b →
    ∃ x ∈ e.allocations, x.seatId = s.seatId ∧ s.seatInventoryId = some x.seatInventoryId

/-- How the tables of the two services and the messages between them hang together. -/
structure Owned (T : InventoryService.Terms) (P : InventoryService.Projection)
    (w : BookingService.BookingWorld) (v : InventoryService.InventoryWorld) : Prop where
  requests : BookingService.RequestsFit (getSeatsDetailsBatch P) w
  ids : (w.db.outbox.map BookingService.OutboxEvent.eventId).Nodup
  seats : v.db.seats = P.seats
  allocated : ∀ a ∈ v.db.allocations, ∃ r, .holdSeatsRequested r ∈ w.db.outbox ∧
    r.bookingId = a.bookingId ∧ a.seatInventoryId ∈ r.seatInventoryIds
  holds : ∀ e, .seatsHeld e ∈ v.db.outbox → ∃ r, HoldOf P r e w v
  released : ∀ a ∈ v.db.allocations, a.status.active = false →
    ∃ e, .bookingStatusChanged e ∈ w.db.outbox ∧ e.bookingId = a.bookingId ∧
      InventoryService.Releases e.currentStatus
  ended : ∀ e, .bookingStatusChanged e ∈ w.db.outbox → InventoryService.Releases e.currentStatus →
    ∃ row, w.db.bookings e.bookingId = some row ∧ InventoryService.Releases row.status
  backed : ∀ e, .bookingStatusChanged e ∈ w.db.outbox → e.currentStatus = .confirmed →
    ∃ e', .seatsHeld e' ∈ v.db.outbox ∧ e'.bookingId = e.bookingId
  recorded : ∀ id, InventoryService.Recorded (.confirm id) v → ∃ ev ∈ w.db.outbox, ev.eventId = id
  settled : ∀ e, .bookingStatusChanged e ∈ w.db.outbox → e.currentStatus = .confirmed →
    InventoryService.Recorded (.confirm e.eventId) v → ∀ r ∈ T.requestOf e.bookingId,
      ∀ a ∈ v.db.allocations, a.bookingId = e.bookingId → a.status ≠ .held
  seated : ∀ b row, w.db.bookings b = some row →
    BookingService.BookingStatus.seated row.status = true →
    ∃ e, .seatsHeld e ∈ v.db.outbox ∧ e.bookingId = b ∧ Enriched e b w.db.seats
  announced : ∀ b row, w.db.bookings b = some row → row.status = .confirmed →
    ∃ e, .bookingStatusChanged e ∈ w.db.outbox ∧ e.bookingId = b ∧ e.currentStatus = .confirmed

section Left

variable {T : InventoryService.Terms} {P : InventoryService.Projection}
  {w : BookingService.BookingWorld} {v : InventoryService.InventoryWorld}
  {c : BookingService.Call} {t : BookingService.BookingTx} {b : Uuid}

theorem HoldOf.commitLeft {r : HoldSeatsRequested} {e : SeatsHeld} (h : HoldOf P r e w v) :
    HoldOf P r e (w.commit c t) v :=
  ⟨BookingService.mem_outbox_commit h.request c t, h.booking, h.recorded, h.entries, h.answered, h.allocated⟩

theorem releases_after {s : BookingStatus} {new : Option BookingStatus}
    (h : BookingService.StatusChange c t w b (some s) new) (hs : InventoryService.Releases s) :
    ∃ s', new = some s' ∧ InventoryService.Releases s' := by
  generalize hold : some s = old at h
  cases h with
  | same => exact ⟨s, hold.symm, hs⟩
  | created => cases hold
  | held | failed =>
    cases hold
    exact absurd hs (by decide)
  | expired => exact ⟨_, rfl, by decide⟩
  | moved e hper hpermits =>
    cases hold
    cases hper with
    | markFailed => exact ⟨_, rfl, Or.inr (Or.inl rfl)⟩
    | markExpired => exact ⟨_, rfl, Or.inr (Or.inr rfl)⟩
    | _ =>
      obtain rfl | rfl | rfl := hs <;>
        exact absurd (show false = true from hpermits) Bool.false_ne_true

theorem Enriched.change {e : SeatsHeld} {rows : List BookingService.BookingSeat}
    (h : Enriched e b w.db.seats) {row : BookingService.Booking} (hrow : w.db.bookings b = some row)
    (hs : BookingService.BookingStatus.seated row.status = true)
    (hc : BookingService.SeatsChange t w rows) : Enriched e b rows := by
  cases hc with
  | same => exact h
  | created x hnew _ =>
    intro s hmem hsb
    obtain hmem | hmem := List.mem_append.mp hmem
    · exact h s hmem hsb
    · rw [← (BookingService.mem_newSeats hmem).1, hsb, hrow] at hnew
      cases hnew
  | held e' row' hcur hpending =>
    intro s hmem hsb
    obtain ⟨s', hs', rfl⟩ := List.mem_map.mp hmem
    have hkey := (BookingService.enrichAll_keys e'.bookingId
      (BookingService.passengersData e') s').1
    by_cases hb : e'.bookingId = b
    · rw [hb, hrow] at hcur
      cases hcur
      rw [hpending] at hs
      cases hs
    · have hne : s'.bookingId ≠ e'.bookingId := by
        rw [← hkey, hsb]
        exact Ne.symm hb
      rw [BookingService.enrichAll_other _ _ hne]
      exact h s' hs' (hkey.symm.trans hsb)

theorem enriched_held {e : SeatsHeld} (h : Owned T P w v) (he : .seatsHeld e ∈ v.db.outbox) :
    Enriched e e.bookingId (w.db.seats.map
      (BookingService.enrichAll e.bookingId (BookingService.passengersData e))) := by
  intro s hmem hsb
  obtain ⟨s', hs', rfl⟩ := List.mem_map.mp hmem
  obtain ⟨hkb, hks⟩ := BookingService.enrichAll_keys e.bookingId
    (BookingService.passengersData e) s'
  rw [hks]
  obtain ⟨r, hr⟩ := h.holds e he
  obtain ⟨q, hq, hqs, -, hqi⟩ := (names_of_fits (h.requests.fits r hr.request)).seats s' hs'
    (hkb.symm.trans (hsb.trans hr.booking.symm))
  obtain ⟨x, hx, hxi⟩ := hr.answered q.id hqi
  obtain ⟨q', hq', -, hqx, hqi'⟩ := hr.entries x hx
  have hsame : q' = q := List.inj_on_of_nodup_map P.seat_id hq' hq (hqi'.trans hxi)
  have hxs : x.seatId = s'.seatId := by rw [← hqx, hsame, hqs]
  obtain ⟨hnone, -⟩ | ⟨u, hu, hus, hid⟩ := BookingService.enrichAll_cases e.bookingId
    (BookingService.passengersData e) s' (hkb.symm.trans hsb)
  · exact absurd hxs (hnone _ (List.mem_map_of_mem hx))
  · obtain ⟨y, hy, rfl⟩ := List.mem_map.mp hu
    exact ⟨y, hy, hus, hid⟩

theorem Owned.seated_commit (hi : BookingService.Inv w) (hc : BookingService.Commit c t w)
    (ho : ∀ b' l, c ≠ .markSeatsHeld b' l) (hk : Replied c v) (h : Owned T P w v)
    {row : BookingService.Booking} (hrow : (t.view w.db).bookings b = some row)
    (hs : BookingService.BookingStatus.seated row.status = true) :
    ∃ e, .seatsHeld e ∈ v.db.outbox ∧ e.bookingId = b ∧ Enriched e b (t.view w.db).seats := by
  have hch := hc.statusChange hi b
  rw [hrow, Option.map_some] at hch
  obtain ⟨s, hold, hseated⟩ | ⟨e, rfl, rfl, hseats⟩ := hch.seated ho hs
  · obtain ⟨row', hrow', rfl⟩ := Option.map_eq_some_iff.mp hold
    obtain ⟨e, he, hb, hen⟩ := h.seated b row' hrow' hseated
    exact ⟨e, he, hb, hen.change hrow' hseated hc.seatsChange⟩
  · refine ⟨e, hk, rfl, ?_⟩
    rw [hseats]
    exact enriched_held h hk

theorem Owned.commitLeft (hi : BookingService.Inv w) (hc : BookingService.Commit c t w)
    (ho : ∀ b' l, c ≠ .markSeatsHeld b' l) (hk : Replied c v) (h : Owned T P w v) :
    Owned T P (w.commit c t) v where
  requests := h.requests.commit hi hc
  ids := BookingService.eventIds_commit hc h.ids
  seats := h.seats
  allocated a ha := by
    obtain ⟨r, hr, hx⟩ := h.allocated a ha
    exact ⟨r, BookingService.mem_outbox_commit hr c t, hx⟩
  holds e he := by
    obtain ⟨r, hr⟩ := h.holds e he
    exact ⟨r, hr.commitLeft⟩
  released a ha hact := by
    obtain ⟨e, he, hx⟩ := h.released a ha hact
    exact ⟨e, BookingService.mem_outbox_commit he c t, hx⟩
  ended e he hrel := by
    rw [BookingService.commit_outbox] at he
    obtain he | he := List.mem_append.mp he
    · obtain ⟨row, hrow, hr⟩ := h.ended e he hrel
      have hch := hc.statusChange hi e.bookingId
      rw [hrow, Option.map_some] at hch
      obtain ⟨s', hs', hr'⟩ := releases_after hch hr
      obtain ⟨row', hrow', rfl⟩ := Option.map_eq_some_iff.mp hs'
      exact ⟨row', hrow', hr'⟩
    · obtain ⟨row, hrow, hst⟩ := hc.event_status hi he
      exact ⟨row, hrow, hst ▸ hrel⟩
  backed e he hconf := by
    rw [BookingService.commit_outbox] at he
    obtain he | he := List.mem_append.mp he
    · exact h.backed e he hconf
    · obtain ⟨row, hrow, hst⟩ := hc.event_status hi he
      obtain ⟨e', he', hb, -⟩ := h.seated_commit hi hc ho hk hrow (by rw [hst, hconf]; rfl)
      exact ⟨e', he', hb⟩
  recorded id hid := by
    obtain ⟨ev, hev, hx⟩ := h.recorded id hid
    exact ⟨ev, BookingService.mem_outbox_commit hev c t, hx⟩
  settled e he hconf hrec := by
    rw [BookingService.commit_outbox] at he
    obtain he | he := List.mem_append.mp he
    · exact h.settled e he hconf hrec
    · obtain ⟨ev, hev, hid⟩ := h.recorded _ hrec
      exact absurd hid (hc.event_new he hev)
  seated _ _ hrow hs := h.seated_commit hi hc ho hk hrow hs
  announced b row hrow hst := by
    have hch := hc.statusChange hi b
    change (t.view w.db).bookings b = some row at hrow
    rw [hrow, Option.map_some, hst] at hch
    obtain hold | ⟨e, he, hx⟩ := hch.confirmed
    · obtain ⟨row', hrow', hst'⟩ := Option.map_eq_some_iff.mp hold
      obtain ⟨e, he, hx⟩ := h.announced b row' hrow' hst'
      exact ⟨e, BookingService.mem_outbox_commit he c t, hx⟩
    · refine ⟨e, ?_, hx⟩
      rw [BookingService.commit_outbox]
      exact List.mem_append_right _ he

end Left

section Right

variable {T : InventoryService.Terms} {P : InventoryService.Projection}
  {w : BookingService.BookingWorld} {v : InventoryService.InventoryWorld}
  {c : InventoryService.Call} {t : InventoryService.InventoryTx}

theorem said_mono (c : InventoryService.Call) (t : InventoryService.InventoryTx)
    {ev : InventoryService.OutboxEvent} (h : ev ∈ v.db.outbox) :
    ev ∈ (v.commit c t).db.outbox := by
  rw [InventoryService.commit_outbox]
  exact List.mem_append_left _ h

theorem HoldOf.commitRight {r : HoldSeatsRequested} {e : SeatsHeld}
    (hc : InventoryService.Commit T c t v) (h : HoldOf P r e w v) :
    HoldOf P r e w (v.commit c t) where
  request := h.request
  booking := h.booking
  recorded := h.recorded.commit c t
  entries := h.entries
  answered := h.answered
  allocated i hi := by
    obtain ⟨a, ha, hb, hs⟩ := h.allocated i hi
    obtain ⟨a', ha', hb', hs'⟩ := hc.persists ha
    exact ⟨a', ha', hb'.trans hb, hs'.trans hs⟩

theorem mem_seatsInOrder {x : InventoryService.Hold} (hf : x.Found v) (hseats : v.db.seats = P.seats)
    {s : InventoryService.SeatInventory}
    (h : s ∈ InventoryService.seatsInOrder x.request x.seats) :
    s ∈ P.seats ∧ s.scheduleId = x.request.scheduleId := by
  obtain ⟨k, -, hk⟩ := List.mem_filterMap.mp h
  have hmem := List.mem_of_find?_eq_some hk
  rw [hf.seats, List.mem_filter, hseats] at hmem
  have hsched : s.scheduleId = x.request.scheduleId := by
    have h := hmem.2
    simp at h
    exact h.1
  exact ⟨hmem.1, hsched⟩

theorem exists_seatsInOrder {x : InventoryService.Hold} (hf : x.Found v)
    (hseats : v.db.seats = P.seats) {rows : List BookingService.BookingSeat}
    (hn : Names P x.request rows) {i : Id} (hi : i ∈ x.request.seatInventoryIds) :
    ∃ s ∈ InventoryService.seatsInOrder x.request x.seats, s.id = i := by
  obtain ⟨q, hq, rfl, hsched, -⟩ := hn.ids i hi
  have hmem : q ∈ x.seats := by
    rw [hf.seats, hseats, List.mem_filter]
    simp [hq, hsched, hi]
  cases hfind : x.seats.find? (fun s => s.id = q.id) with
  | none =>
    have h := List.find?_eq_none.mp hfind q hmem
    simp at h
  | some s =>
    have hid : s.id = q.id := by simpa using List.find?_some hfind
    exact ⟨s, List.mem_filterMap.mpr ⟨q.id, hi, hfind⟩, hid⟩

theorem holdOf_said (hp : Published c w) (h : Owned T P w v) {x : InventoryService.Hold}
    (hreq : c.request? = some x.request) (hf : x.Found v)
    (hrec : InventoryService.Recorded (.hold x.request.eventId) (v.commit c t))
    (hrows : ∀ a ∈ x.rows, a ∈ (t.view v.db).allocations) :
    HoldOf P x.request x.payload w (v.commit c t) := by
  have hsent := published_of_request hp hreq
  have hn := names_of_fits (h.requests.fits _ hsent)
  refine ⟨hsent, rfl, hrec, fun y hy => ?_, fun i hi => ?_, fun i hi => ?_⟩
  · obtain ⟨s, hs, rfl⟩ := List.mem_map.mp hy
    obtain ⟨hmem, hsched⟩ := mem_seatsInOrder hf h.seats hs
    exact ⟨s, hmem, hsched, rfl, rfl⟩
  · obtain ⟨s, hs, rfl⟩ := exists_seatsInOrder hf h.seats hn hi
    exact ⟨_, List.mem_map_of_mem hs, rfl⟩
  · obtain ⟨s, hs, rfl⟩ := exists_seatsInOrder hf h.seats hn hi
    exact ⟨_, hrows _ (List.mem_map_of_mem hs), rfl, rfl⟩

theorem Owned.recorded_of_confirmed (h : Owned T P w v) {e : BookingStatusChanged}
    (he : .bookingStatusChanged e ∈ w.db.outbox) (hconf : e.currentStatus = .confirmed)
    {r : HoldSeatsRequested} (hr : .holdSeatsRequested r ∈ w.db.outbox)
    (hb : r.bookingId = e.bookingId) : InventoryService.Recorded (.hold r.eventId) v := by
  obtain ⟨e', he', hb'⟩ := h.backed e he hconf
  obtain ⟨r', hr'⟩ := h.holds e' he'
  have hsame : r' = r := h.requests.one r' r hr'.request hr (hr'.booking.trans (hb'.trans hb.symm))
  rw [← hsame]
  exact hr'.recorded

theorem Owned.held_before (hi : InventoryService.Inv v) (hc : InventoryService.Commit T c t v)
    (hp : Published c w) (h : Owned T P w v) {e : BookingStatusChanged}
    (he : .bookingStatusChanged e ∈ w.db.outbox) (hconf : e.currentStatus = .confirmed)
    {a : InventoryService.SeatAllocation} (ha : a ∈ (t.view v.db).allocations)
    (hb : a.bookingId = e.bookingId) (hst : a.status = .held) :
    ∃ a' ∈ v.db.allocations, a'.bookingId = e.bookingId ∧ a'.status = .held := by
  cases hc.origin hi ha with
  | old a' ha' hb' _ hstep =>
    rw [hst] at hstep
    exact ⟨a', ha', hb'.trans hb, hstep.held⟩
  | held x hreq _ _ hkey hmem =>
    have hxb : x.request.bookingId = e.bookingId :=
      (InventoryService.Hold.rows_bookingId hmem).symm.trans hb
    exact absurd (h.recorded_of_confirmed he hconf (published_of_request hp hreq) hxb) hkey

theorem Owned.commitRight (ho : T.ordered) (hi : InventoryService.Inv v)
    (hc : InventoryService.Commit T c t v) (hp : Published c w) (h : Owned T P w v) :
    Owned T P w (v.commit c t) where
  requests := h.requests
  ids := h.ids
  seats := (InventoryService.commit_seats v c t).trans h.seats
  allocated a ha := by
    cases hc.origin hi ha with
    | old a' ha' hb hs _ =>
      obtain ⟨r, hr, hrb, hmem⟩ := h.allocated a' ha'
      exact ⟨r, hr, hrb.trans hb, hs ▸ hmem⟩
    | held x hreq _ _ _ hmem =>
      obtain ⟨s, -, hs, rfl⟩ := InventoryService.Hold.mem_rows hmem
      exact ⟨x.request, published_of_request hp hreq, rfl, hs⟩
  holds e he := by
    obtain hold | ⟨x, rfl, hreq, hf, hrec, hrows⟩ := hc.said he
    · obtain ⟨r, hr⟩ := h.holds e hold
      exact ⟨r, hr.commitRight hc⟩
    · exact ⟨x.request, holdOf_said hp h hreq hf hrec hrows⟩
  released a ha hact := by
    cases hc.origin hi ha with
    | old a' ha' hb _ hstep =>
      rw [← hb]
      generalize ha₁ : a'.status = s at hstep
      generalize ha₂ : a.status = s' at hstep
      cases hstep with
      | same =>
        rw [ha₂, ← ha₁] at hact
        exact h.released a' ha' hact
      | confirmed =>
        rw [ha₂] at hact
        cases hact
      | cancelled hcan heb _ =>
        obtain ⟨ev, hev, hrel, rfl⟩ := published_of_cancels hp hcan
        exact ⟨ev, hev, heb.trans hb.symm, hrel⟩
    | held x _ _ _ _ hmem =>
      rw [InventoryService.Hold.rows_status hmem] at hact
      cases hact
  ended := h.ended
  backed e he hconf := by
    obtain ⟨e', he', hb⟩ := h.backed e he hconf
    exact ⟨e', said_mono c t he', hb⟩
  recorded id hid := by
    rw [InventoryService.Recorded, InventoryService.commit_idempotency] at hid
    obtain hid | hid := List.mem_append.mp hid
    · exact h.recorded id hid
    · obtain ⟨e₁, hcon, rfl, -⟩ := hc.confirm_recorded hid
      obtain ⟨ev, hev, -, rfl⟩ := published_of_confirms hp hcon
      exact ⟨_, hev, rfl⟩
  settled e he hconf hrec r hr a ha hb hst := by
    rw [InventoryService.Recorded, InventoryService.commit_idempotency] at hrec
    obtain hrec | hrec := List.mem_append.mp hrec
    · obtain ⟨a', ha', hb', hst'⟩ := h.held_before hi hc hp he hconf ha hb hst
      exact h.settled e he hconf hrec r hr a' ha' hb' hst'
    · obtain ⟨e₁, hcon, hid, hnone⟩ := hc.confirm_recorded hrec
      obtain ⟨ev, hev, -, rfl⟩ := published_of_confirms hp hcon
      have hsame : BookingService.OutboxEvent.bookingStatusChanged ev = .bookingStatusChanged e :=
        List.inj_on_of_nodup_map h.ids hev he hid
      cases hsame
      exact hnone ho r hr a ha hb hst
  seated b row hrow hs := by
    obtain ⟨e, he, hx⟩ := h.seated b row hrow hs
    exact ⟨e, said_mono c t he, hx⟩
  announced := h.announced

end Right

end RailwayBooking.Integration
