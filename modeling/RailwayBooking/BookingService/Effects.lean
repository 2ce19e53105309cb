import RailwayBooking.BookingService.Commits

namespace RailwayBooking.BookingService

open Concurrency

/-- The columns of a booking that no statement changes. -/
structure Booking.Same (row row' : Booking) : Prop where
  id : row'.id = row.id
  pnr : row'.pnr = row.pnr
  userId : row'.userId = row.userId
  scheduleId : row'.scheduleId = row.scheduleId
  fromStationId : row'.fromStationId = row.fromStationId
  toStationId : row'.toStationId = row.toStationId

theorem Booking.Same.refl (row : Booking) : row.Same row := ⟨rfl, rfl, rfl, rfl, rfl, rfl⟩

theorem Booking.Same.trans {r₁ r₂ r₃ : Booking} (h : r₁.Same r₂) (h' : r₂.Same r₃) :
    r₁.Same r₃ :=
  ⟨h'.id.trans h.id, h'.pnr.trans h.pnr, h'.userId.trans h.userId,
    h'.scheduleId.trans h.scheduleId, h'.fromStationId.trans h.fromStationId,
    h'.toStationId.trans h.toStationId⟩

theorem BookingUpdate.apply_same (u : BookingUpdate) (row : Booking) : row.Same (u.apply row) :=
  ⟨rfl, rfl, rfl, rfl, rfl, rfl⟩

@[simp] theorem BookingUpdate.apply_status (u : BookingUpdate) (row : Booking) :
    (u.apply row).status = row.status := rfl

@[simp] theorem BookingUpdate.apply_version (u : BookingUpdate) (row : Booking) :
    (u.apply row).version = row.version := rfl

@[simp] theorem BookingUpdate.apply_id (u : BookingUpdate) (row : Booking) :
    (u.apply row).id = row.id := rfl

namespace TransitionArgs

variable (args : TransitionArgs) (row : Booking)

theorem updated_same : row.Same (args.updated row) := by
  unfold updated
  cases args.updates with
  | none => exact .refl row
  | some u => exact u.apply_same row

theorem moved_same : row.Same (args.moved row) := by
  have h := args.updated_same row
  exact ⟨h.id, h.pnr, h.userId, h.scheduleId, h.fromStationId, h.toStationId⟩

@[simp] theorem moved_status : (args.moved row).status = args.target := rfl

@[simp] theorem moved_version : (args.moved row).version = row.version + 1 := rfl

@[simp] theorem moved_id : (args.moved row).id = row.id := (args.moved_same row).id

end TransitionArgs

theorem Performs.moved_totalPrice {c : Call} {args : TransitionArgs} (h : Performs c args)
    (row : Booking) : (args.moved row).totalPrice = row.totalPrice := by
  cases h <;> rfl

/-- The changes of a booking's status that a call may make. -/
inductive Edge : Call → Uuid → BookingStatus → BookingStatus → Prop
  | transition {c : Call} {args : TransitionArgs} {s : BookingStatus} (performs : Performs c args)
      (permits : args.permits s = true) : Edge c args.bookingId s args.target
  | held (e : SeatsHeld) : Edge (.seatsHeld (.event e)) e.bookingId .pending .seatsHeld
  | failed (e : SeatsHoldFailed) :
      Edge (.seatsHoldFailed (.event e)) e.bookingId .pending .failed
  | expired (e : SeatHoldExpired) {s : BookingStatus} (h : s = .seatsHeld ∨ s = .pending) :
      Edge (.seatHoldExpired (.event e)) e.bookingId s .expired

theorem Edge.ne_pending {c : Call} {b : Uuid} {s s' : BookingStatus} (h : Edge c b s s') :
    s' ≠ .pending := by
  cases h with
  | transition performs =>
    cases performs <;> exact nofun
  | held | failed | expired => exact nofun

/-- What a committed transaction does to the row of booking `b`. -/
inductive RowChange (c : Call) (t : BookingTx) (b : Uuid) :
    Option Booking → Option Booking → Prop
  | same (r : Option Booking) : RowChange c t b r r
  | created {row : Booking} (site : t.site = .createBooking) (version : row.version = 1)
      (status : row.status = .pending) (id : row.id = b) (price : row.totalPrice = 0) :
      RowChange c t b none (some row)
  | annotated {row : Booking} (u : BookingUpdate) (site : t.site = .seatsHoldFailed)
      (price : (u.apply row).totalPrice = row.totalPrice) :
      RowChange c t b (some row) (some (u.apply row))
  | moved {row row' read : Booking} (answered : t.Answered (.findById b) (some read))
      (won : t.Answered (.updateStatus b row'.status (read.version + 1)) true)
      (version : row.version = read.version) (status : row.status = read.status)
      (next : row'.version = row.version + 1) (edge : Edge c b row.status row'.status)
      (same : row.Same row') (price : row'.totalPrice = row.totalPrice ∨
        (row.status = .pending ∧ row'.totalPrice < decimalLimit)) :
      RowChange c t b (some row) (some row')

/-- The key that a delivered event reserves. -/
def Call.key : Call → Option SagaKey
  | .seatsHeld (.event e) => some (.held e.eventId)
  | .seatsHoldFailed (.event e) => some (.failed e.eventId)
  | .seatHoldExpired (.event e) => some (.expired e.eventId)
  | .paymentSuccess (.event e) => some (.paymentSuccess e.eventId)
  | _ => none

/-- The transaction in which the handler of an event does its work. -/
def SagaKey.site : SagaKey → Site
  | .held _ => .seatsHeld
  | .failed _ => .seatsHoldFailed
  | .expired _ => .seatHoldExpired
  | .paymentSuccess _ => .paymentSuccess

/-- The handler's transaction for the event of a key has been committed. -/
def Settled (key : SagaKey) (w : BookingWorld) : Prop :=
  ∃ c t, (c, t) ∈ w.log ∧ c.key = some key ∧ t.site = key.site

/-- Every booking stands under its id, no id of the outbox is still to be drawn, a
key marked as processed belongs to a settled event, and a price fits its column and
is zero while the booking is pending. -/
structure Inv (w : BookingWorld) : Prop where
  id : ∀ b row, w.db.bookings b = some row → row.id = b
  fresh : ∀ ev ∈ w.db.outbox, ∀ u, ev.eventId = .random u → u.serial < w.env.fresh
  processed : ∀ key, w.env.saga.get w.env.now key = some .processed → Settled key w
  price : ∀ b row, w.db.bookings b = some row →
    row.totalPrice < decimalLimit ∧ (row.status = .pending → row.totalPrice = 0)

theorem enrich_row (b : Uuid) (us : List SeatUpdate) :
    (us.map (Write.enrich b)).filterMap Write.row? = [] := by
  simp [List.filterMap_eq_nil_iff, Write.row?]

theorem enrich_event (b : Uuid) (us : List SeatUpdate) :
    (us.map (Write.enrich b)).filterMap Write.event? = [] := by
  simp [List.filterMap_eq_nil_iff, Write.event?]

theorem enrich_sagaLog (b : Uuid) (us : List SeatUpdate) :
    (us.map (Write.enrich b)).filterMap Write.sagaLog? = [] := by
  simp [List.filterMap_eq_nil_iff, Write.sagaLog?]

theorem enrich_stored (b : Uuid) (us : List SeatUpdate) :
    (us.map (Write.enrich b)).filterMap Write.stored? = [] := by
  simp [List.filterMap_eq_nil_iff, Write.stored?]

@[simp] theorem putRow_same (f : Uuid → Option Booking) (row : Booking) :
    putRow f row row.id = some row := by simp [putRow]

theorem putRows_last (f : Uuid → Option Booking) (rows : List Booking) (row : Booking) {b : Uuid}
    (h : ∀ r ∈ rows, r.id = b) (hr : row.id = b) :
    (rows ++ [row]).foldl putRow f = Function.update f b (some row) := by
  subst hr
  induction rows generalizing f with
  | nil => rfl
  | cons r rows ih =>
    rw [List.cons_append, List.foldl_cons, ih _ (fun r' hr' => h r' (List.mem_cons_of_mem _ hr'))]
    rw [putRow, h r List.mem_cons_self, Function.update_idem]

section

variable {c : Call} {t : BookingTx} {w : BookingWorld}

theorem rows_none (h : t.writes.filterMap Write.row? = []) :
    (t.view w.db).bookings = w.db.bookings := by
  rw [view_eq, applyAll_bookings, h]
  rfl

theorem rows_last (rows : List Booking) {row : Booking} {b : Uuid}
    (h : t.writes.filterMap Write.row? = rows ++ [row]) (hrows : ∀ r ∈ rows, r.id = b)
    (hrow : row.id = b) : (t.view w.db).bookings = Function.update w.db.bookings b (some row) := by
  rw [view_eq, applyAll_bookings, h, putRows_last _ _ _ hrows hrow]

theorem updateWrites_rows (args : TransitionArgs) (row : Booking) :
    (args.updateWrites row).filterMap Write.row? =
      args.updates.elim [] (fun u => [u.apply row]) := by
  unfold TransitionArgs.updateWrites
  cases args.updates with
  | none => rfl
  | some u => rfl

theorem updateWrites_id (args : TransitionArgs) (row : Booking) :
    ∀ r ∈ args.updates.elim [] (fun u => [u.apply row]), r.id = row.id := by
  cases args.updates with
  | none => simp
  | some u => simp

section Views

variable {row : Booking}

theorem bookings_created {x : Insertion} (hw : t.writes = x.writes) :
    (t.view w.db).bookings = Function.update w.db.bookings x.bookingId (some x.row) :=
  rows_last [] (by rw [hw]; rfl) (by simp) rfl

theorem bookings_transition {args : TransitionArgs} {ev : OutboxEvent} (hid : row.id = args.bookingId)
    (hw : t.writes = args.updateWrites row ++ [.booking (args.moved row), .outbox ev]) :
    (t.view w.db).bookings =
      Function.update w.db.bookings args.bookingId (some (args.moved row)) :=
  rows_last _ (by rw [hw, List.filterMap_append, updateWrites_rows]; rfl)
    (fun r hr => (updateWrites_id args row r hr).trans hid) ((args.moved_id row).trans hid)

theorem bookings_held {e : SeatsHeld} (hid : row.id = e.bookingId)
    (hw : t.writes = (passengersData e).map (.enrich e.bookingId) ++
      [.booking { row with status := .seatsHeld, version := row.version + 1 },
        .booking ((heldUpdate e).apply
          { row with status := .seatsHeld, version := row.version + 1 }),
        .saga e.bookingId .holdSeats ⟨.completed, none⟩]) :
    (t.view w.db).bookings = Function.update w.db.bookings e.bookingId
      (some ((heldUpdate e).apply { row with status := .seatsHeld, version := row.version + 1 })) :=
  rows_last [{ row with status := .seatsHeld, version := row.version + 1 }]
    (by rw [hw, List.filterMap_append, enrich_row]; rfl) (by simpa using hid) hid

theorem bookings_holdFailed {e : SeatsHoldFailed} (hid : row.id = e.bookingId)
    (hw : t.writes = [.booking { row with status := .failed, version := row.version + 1 },
      .booking ((failureUpdate e).apply { row with status := .failed, version := row.version + 1 }),
      .saga e.bookingId .holdSeats ⟨.failed, some e.reason.name⟩]) :
    (t.view w.db).bookings = Function.update w.db.bookings e.bookingId
      (some ((failureUpdate e).apply { row with status := .failed, version := row.version + 1 })) :=
  rows_last [{ row with status := .failed, version := row.version + 1 }] (by rw [hw]; rfl)
    (by simpa using hid) hid

theorem bookings_holdFailedBeaten {e : SeatsHoldFailed} (hid : row.id = e.bookingId)
    (hw : t.writes = [.booking ((failureUpdate e).apply row),
      .saga e.bookingId .holdSeats ⟨.failed, some e.reason.name⟩]) :
    (t.view w.db).bookings =
      Function.update w.db.bookings e.bookingId (some ((failureUpdate e).apply row)) :=
  rows_last [] (by rw [hw]; rfl) (by simp) hid

theorem bookings_holdExpired {e : SeatHoldExpired} (hid : row.id = e.bookingId)
    (hw : t.writes = [.booking { row with status := .expired, version := row.version + 1 },
      .saga e.bookingId .holdSeats ⟨.compensated, some "Hold duration expired"⟩]) :
    (t.view w.db).bookings = Function.update w.db.bookings e.bookingId
      (some { row with status := .expired, version := row.version + 1 }) :=
  rows_last [] (by rw [hw]; rfl) (by simp) hid

end Views

theorem rowChange_of_update {b : Uuid} {row : Option Booking} {row' : Booking}
    (hv : (t.view w.db).bookings = Function.update w.db.bookings b (some row'))
    (hc : w.db.bookings b = row) (h : RowChange c t b row (some row')) (b' : Uuid) :
    RowChange c t b' (w.db.bookings b') ((t.view w.db).bookings b') := by
  rw [hv]
  by_cases hb : b' = b
  · subst hb
    rw [Function.update_self, hc]
    exact h
  · rw [Function.update_of_ne hb]
    exact .same _

theorem rowChange_of_none (h : t.writes.filterMap Write.row? = []) (b : Uuid) :
    RowChange c t b (w.db.bookings b) ((t.view w.db).bookings b) := by
  rw [rows_none h]
  exact .same _

/-- One step of the booking rows: every committed transaction changes each of
them in one of the ways of `RowChange`. -/
theorem Commit.rowChange (h : Commit c t w) (hi : Inv w) (b : Uuid) :
    RowChange c t b (w.db.bookings b) ((t.view w.db).bookings b) := by
  cases h with
  | replayed _ hw | heldSkipped _ hw | holdFailedSkipped _ hw | holdExpiredSkipped _ hw
  | paymentMissing _ _ hw | paymentSkipped _ _ _ hw =>
    exact rowChange_of_none (by rw [hw]; rfl) b
  | recorded _ _ hw | holdExpiredBeaten _ _ _ _ _ _ hw | paid _ _ hw =>
    exact rowChange_of_none (by rw [hw]; rfl) b
  | created x hsite hw _ hnew _ _ _ _ _ _ =>
    have hv := bookings_created (w := w) hw
    exact rowChange_of_update hv hnew (.created hsite rfl rfl rfl rfl) b
  | @transition _ _ _ args read row _ hper hsite hpermits hans hwon _ hcur hver hst hw _ =>
    have hid := hi.id _ _ hcur
    have hv := bookings_transition (w := w) hid hw
    refine rowChange_of_update hv hcur (.moved hans hwon hver hst rfl ?_ (args.moved_same row)
      (.inl (hper.moved_totalPrice row))) b
    exact .transition hper (by rw [hst]; exact hpermits)
  | @held e _ _ read row hsite hpend hans hwon hcur hver hst hw hprice =>
    have hid := hi.id _ _ hcur
    have hv := bookings_held (w := w) hid hw
    refine rowChange_of_update hv hcur (.moved hans hwon hver hst rfl ?_
      ⟨rfl, rfl, rfl, rfl, rfl, rfl⟩ (.inr ⟨hst.trans hpend, hprice⟩)) b
    rw [hst, hpend]
    exact .held e
  | @holdFailed e _ _ read row hsite hpend hans hwon hcur hver hst hw =>
    have hid := hi.id _ _ hcur
    have hv := bookings_holdFailed (w := w) hid hw
    refine rowChange_of_update hv hcur
      (.moved hans hwon hver hst rfl ?_ ⟨rfl, rfl, rfl, rfl, rfl, rfl⟩ (.inl rfl)) b
    rw [hst, hpend]
    exact .failed e
  | @holdFailedBeaten e _ _ read row hsite _ _ _ hcur _ hw =>
    have hid := hi.id _ _ hcur
    have hv := bookings_holdFailedBeaten (w := w) hid hw
    exact rowChange_of_update hv hcur (.annotated _ hsite rfl) b
  | @holdExpired e _ _ read row hsite hheld hans hwon hcur hver hst hw =>
    have hid := hi.id _ _ hcur
    have hv := bookings_holdExpired (w := w) hid hw
    refine rowChange_of_update hv hcur
      (.moved hans hwon hver hst rfl ?_ ⟨rfl, rfl, rfl, rfl, rfl, rfl⟩ (.inl rfl)) b
    exact .expired e (by rw [hst]; exact hheld)

/-- A committed transaction leaves the idempotency keys, or adds that of a new booking. -/
inductive KeyChange (c : Call) (t : BookingTx) (w : BookingWorld) :
    (Id → Option BookingIdempotencyKey) → Prop
  | same : KeyChange c t w w.db.idempotencyKeys
  | created (x : Insertion) (call : c = .createBooking x.userId x.dto) (writes : t.writes = x.writes)
      (owner : x.bookingId.source = t.owner)
      (new : w.db.idempotencyKeys x.dto.idempotencyKey = none) :
      KeyChange c t w (Function.update w.db.idempotencyKeys x.dto.idempotencyKey
        (some ⟨x.dto.idempotencyKey, x.bookingId, x.response⟩))

theorem keyChange_of_none (h : t.writes.filterMap Write.stored? = []) :
    KeyChange c t w (t.view w.db).idempotencyKeys := by
  rw [view_eq, applyAll_idempotencyKeys, h]
  exact .same

theorem idempotencyKeys_created {x : Insertion} (hw : t.writes = x.writes) :
    (t.view w.db).idempotencyKeys = Function.update w.db.idempotencyKeys x.dto.idempotencyKey
      (some ⟨x.dto.idempotencyKey, x.bookingId, x.response⟩) := by
  rw [view_eq, applyAll_idempotencyKeys, hw]
  rfl

theorem Commit.keyChange (h : Commit c t w) : KeyChange c t w (t.view w.db).idempotencyKeys := by
  cases h with
  | replayed _ hw | heldSkipped _ hw | holdFailedSkipped _ hw | holdExpiredSkipped _ hw
  | paymentMissing _ _ hw | paymentSkipped _ _ _ hw | recorded _ _ hw
  | holdExpiredBeaten _ _ _ _ _ _ hw | paid _ _ hw | holdFailed _ _ _ _ _ _ _ hw
  | holdFailedBeaten _ _ _ _ _ _ hw | holdExpired _ _ _ _ _ _ _ hw =>
    exact keyChange_of_none (by rw [hw]; rfl)
  | held _ _ _ _ _ _ _ hw _ =>
    exact keyChange_of_none (by rw [hw, List.filterMap_append, enrich_stored]; rfl)
  | created x _ hw howner _ _ hkey _ _ _ _ =>
    rw [idempotencyKeys_created hw]
    exact .created x rfl hw howner hkey
  | @transition _ _ _ args read row _ _ _ _ _ _ _ _ _ _ hw _ =>
    have hu : (args.updateWrites row).filterMap Write.stored? = [] := by
      unfold TransitionArgs.updateWrites
      cases args.updates <;> rfl
    exact keyChange_of_none (by rw [hw, List.filterMap_append, hu]; rfl)

end

end RailwayBooking.BookingService
