import RailwayBooking.Concurrency.Journal
import RailwayBooking.BookingService.StatusEvents

namespace RailwayBooking.BookingService

open Concurrency

section Rows

variable {c : Call} {t : BookingTx} {w : BookingWorld} {b : Uuid} {row : Booking}

theorem Edge.ne_seatsHeld {s s' : BookingStatus} (h : Edge c b s s') (hs : s ≠ .pending) :
    s' ≠ .seatsHeld := by
  cases h with
  | transition performs permits =>
    cases performs with
    | markSeatsHeld => exact absurd (by simpa [TransitionArgs.permits,
        TransitionArgs.permittedStates, markSeatsHeldArgs] using permits) hs
    | _ => exact nofun
  | held => exact absurd rfl hs
  | failed | expired => exact nofun

theorem Performs.moved_paymentOrderId {args : TransitionArgs} (h : Performs c args)
    (permits : args.permits row.status = true) (hs : row.status ≠ .seatsHeld) :
    (args.moved row).paymentOrderId = row.paymentOrderId := by
  have hheld : ∀ b p, args = markPaymentPendingArgs b p → row.status = .seatsHeld := by
    rintro b p rfl
    simpa [TransitionArgs.permits, TransitionArgs.permittedStates, markPaymentPendingArgs]
      using permits
  cases h with
  | markPaymentPending | ordered | autoAdvance | payHeld => exact absurd (hheld _ _ rfl) hs
  | _ => rfl

theorem order_of_update {b' : Uuid} {old new : Booking}
    (hv : (t.view w.db).bookings = Function.update w.db.bookings b' (some new))
    (hcur : w.db.bookings b' = some old) (hrow : w.db.bookings b = some row)
    (hsame : b = b' → new.paymentOrderId = old.paymentOrderId) :
    ∃ row', (t.view w.db).bookings b = some row' ∧ row'.paymentOrderId = row.paymentOrderId := by
  rw [hv]
  by_cases hb : b = b'
  · subst hb
    obtain rfl := Option.some.inj (hcur.symm.trans hrow)
    exact ⟨new, Function.update_self _ _ _, hsame rfl⟩
  · exact ⟨row, (Function.update_of_ne hb _ _).trans hrow, rfl⟩

theorem order_of_none (h : t.writes.filterMap Write.row? = []) (hrow : w.db.bookings b = some row) :
    ∃ row', (t.view w.db).bookings b = some row' ∧ row'.paymentOrderId = row.paymentOrderId :=
  ⟨row, by rw [rows_none h, hrow], rfl⟩

theorem Commit.order_kept (h : Commit c t w) (hi : Inv w) (hrow : w.db.bookings b = some row)
    (hs : row.status ≠ .seatsHeld) :
    ∃ row', (t.view w.db).bookings b = some row' ∧ row'.paymentOrderId = row.paymentOrderId := by
  cases h with
  | replayed _ hw | heldSkipped _ hw | holdFailedSkipped _ hw | holdExpiredSkipped _ hw
  | paymentMissing _ _ hw | paymentSkipped _ _ _ hw | recorded _ _ hw
  | holdExpiredBeaten _ _ _ _ _ _ hw | paid _ _ hw =>
    exact order_of_none (by rw [hw]; rfl) hrow
  | created x _ hw _ hnew =>
    refine ⟨row, ?_, rfl⟩
    rw [bookings_created hw, Function.update_of_ne, hrow]
    rintro rfl
    cases hnew.symm.trans hrow
  | @transition _ _ _ args read old _ hper _ hpermits _ _ _ hcur _ hst hw =>
    refine order_of_update (bookings_transition (hi.id _ _ hcur) hw) hcur hrow fun hb => ?_
    subst hb
    obtain rfl := Option.some.inj (hcur.symm.trans hrow)
    exact hper.moved_paymentOrderId (by rw [hst]; exact hpermits) hs
  | held _ _ _ _ hcur _ _ hw =>
    exact order_of_update (bookings_held (hi.id _ _ hcur) hw) hcur hrow fun _ => rfl
  | holdFailed _ _ _ _ hcur _ _ hw =>
    exact order_of_update (bookings_holdFailed (hi.id _ _ hcur) hw) hcur hrow fun _ => rfl
  | holdFailedBeaten _ _ _ _ hcur _ hw =>
    exact order_of_update (bookings_holdFailedBeaten (hi.id _ _ hcur) hw) hcur hrow fun _ => rfl
  | holdExpired _ _ _ _ hcur _ _ hw =>
    exact order_of_update (bookings_holdExpired (hi.id _ _ hcur) hw) hcur hrow fun _ => rfl

def Risen (b : Uuid) (w : BookingWorld) : Prop :=
  ∃ row, w.db.bookings b = some row ∧ row.status ≠ .pending

/-- The booking has left `SEATS_HELD` behind. -/
def Past (b : Uuid) (w : BookingWorld) : Prop :=
  ∃ row, w.db.bookings b = some row ∧ row.status ≠ .pending ∧ row.status ≠ .seatsHeld

/-- The booking has left `SEATS_HELD` with this order. -/
def Stored (b : Uuid) (order : Uuid) (w : BookingWorld) : Prop :=
  ∃ row, w.db.bookings b = some row ∧ row.status ≠ .pending ∧ row.status ≠ .seatsHeld ∧
    row.paymentOrderId = some (.issued order)

variable {strict : SagaKey → Prop}

theorem lasting_risen (b : Uuid) : Lasting (discipline strict) (Risen b) where
  commit w c t hi _ hc _ h := by
    obtain ⟨row, hrow, hs⟩ := h
    have hr := hc.rowChange hi b
    change ∃ row, (t.view w.db).bookings b = some row ∧ _
    rw [hrow] at hr
    generalize (t.view w.db).bookings b = new at hr
    cases hr with
    | same => exact ⟨row, rfl, hs⟩
    | annotated u => exact ⟨u.apply row, rfl, hs⟩
    | @moved _ row' _ _ _ _ _ _ hedge => exact ⟨row', rfl, hedge.ne_pending⟩
  drift _ _ _ h := h

theorem lasting_past (b : Uuid) : Lasting (discipline strict) (Past b) where
  commit w c t hi _ hc _ h := by
    obtain ⟨row, hrow, hs, hs'⟩ := h
    have hr := hc.rowChange hi b
    change ∃ row, (t.view w.db).bookings b = some row ∧ _
    rw [hrow] at hr
    generalize (t.view w.db).bookings b = new at hr
    cases hr with
    | same => exact ⟨row, rfl, hs, hs'⟩
    | annotated u => exact ⟨u.apply row, rfl, hs, hs'⟩
    | @moved _ row' _ _ _ _ _ _ hedge => exact ⟨row', rfl, hedge.ne_pending, hedge.ne_seatsHeld hs⟩
  drift _ _ _ h := h

theorem lasting_stored (b order : Uuid) : Lasting (discipline strict) (Stored b order) where
  commit w c t hi hp hc hv h := by
    obtain ⟨row, hrow, hs, hs', ho⟩ := h
    have hlast : Lasting (discipline strict) (Past b) := lasting_past b
    obtain ⟨row₁, hrow₁, hp₁, hp₁'⟩ := hlast.commit w c t hi hp hc hv ⟨row, hrow, hs, hs'⟩
    obtain ⟨row₂, hrow₂, ho₂⟩ := Commit.order_kept hc hi hrow hs'
    obtain rfl := Option.some.inj (hrow₂.symm.trans hrow₁)
    exact ⟨row₂, hrow₁, hp₁, hp₁', ho₂.trans ho⟩
  drift _ _ _ h := h

end Rows

/-- The booking as a request has read it, and its row when the order was created. -/
structure OrderEntry where
  read : Option Booking
  row : Option Booking
  deriving DecidableEq

def OrderEntry.after (e : OrderEntry) (w : BookingWorld) :
    (s : Stmt bookingService) → Except Err s.Ans → OrderEntry
  | .sql none (.findById _), .ok (some booking) => { e with read := some booking }
  | .aux (.createOrder b _ _), .ok _ => { e with row := w.db.bookings b }
  | _, _ => e

@[reducible] def orderJournal : Journal machine := ⟨OrderEntry, ⟨none, none⟩, OrderEntry.after⟩

/-- The order that a request has returned is the one that its booking has, and the booking was
in `SEATS_HELD` or `PAYMENT_PENDING` when the order was created. -/
def StoresOrders (s : orderJournal.State) : Prop :=
  ∀ i b u order, s.pool.threads[i]? = some ⟨.createPaymentOrder b u, some (.ret (.order order))⟩ →
    (∃ row, s.pool.world.db.bookings b = some row ∧
      row.paymentOrderId = some (.issued order.paymentOrderId)) ∧
    ∃ row, (s.entries i).row = some row ∧
      (row.status = .seatsHeld ∨ row.status = .paymentPending)

/-- Every order is created for a booking that the request has read in `SEATS_HELD`, or for one
that is in `PAYMENT_PENDING` and has this order already. -/
def timelyOrders (s : orderJournal.State) : Event machine → Prop
  | .act (.run i ch) => ∀ c b u n k order σ,
      s.pool.threads[i]? = some ⟨c, some (.call (.aux (.createOrder b u n)) k)⟩ →
      s.pool.shared.exec i c (.aux (.createOrder b u n)) ch = some (.ok order, σ) →
      (∃ read, (s.entries i).read = some read ∧ read.status = .seatsHeld) ∨
      ∃ row, s.pool.world.db.bookings b = some row ∧ row.status = .paymentPending ∧
        row.paymentOrderId = some (.issued order.paymentOrderId)
  | _ => True

section Stages

/-- How far a request for an order has come: it has read a booking in `SEATS_HELD` or not, it
has an order, it stores the order in an open transaction, and the order is stored. -/
inductive OrderStage
  | arrived
  | read (held : Bool)
  | ordered (held : Bool) (order : Uuid)
  | storing (order : Uuid) (h : Nat) (updated : Bool)
  | stored (order : Uuid)
  | ended

namespace OrderStage

def after : OrderStage → (s : Stmt bookingService) → Except Err s.Ans → OrderStage
  | .arrived, .sql none (.findById _), .ok (some booking) => .read (booking.status = .seatsHeld)
  | .read held, .aux (.createOrder _ _ _), .ok order => .ordered held order.paymentOrderId
  | .read _, .aux (.createOrder _ _ _), .error _ => .ended
  | .ordered _ order, .begin _, .ok h => .storing order h false
  | .ordered _ _, .begin _, .error _ => .ended
  | .storing order h _, .sql (some _) (.update _ _), .ok _ => .storing order h true
  | .storing order _ _, .commit _, .ok _ => .stored order
  | .storing _ _ _, .commit _, .error _ => .ended
  | .storing _ _ _, .rollback _, _ => .ended
  | g, _, _ => g

def mayStore (order : Uuid) (h : Nat) (updated : Bool) : Stmt bookingService → Prop
  | .sql (some h') (.findById _) => h' = h
  | .sql (some h') (.update _ data) =>
      h' = h ∧ updated = false ∧ data.paymentOrderId = some (.issued order)
  | .sql (some h') (.updateStatus _ _ _) | .sql (some h') (.insertOutbox _) =>
      h' = h ∧ updated = true
  | .aux .randomUUID => True
  | .commit h' => h' = h ∧ updated = true
  | .rollback h' => h' = h
  | _ => False

def may (b : Uuid) : OrderStage → Stmt bookingService → Prop
  | .arrived, s => s = .sql none (.findById b)
  | .read _, s => ∃ u n, s = .aux (.createOrder b u n)
  | .ordered held _, s => (s = .begin .transition ∧ held = true) ∨
      ∃ step status error, s = .sql none (.updateSaga b step status error)
  | .storing order h updated, s => mayStore order h updated s
  | .stored _, _ => False
  | .ended, _ => True

/-- A booking is found under its id. -/
def can : (s : Stmt bookingService) → Except Err s.Ans → Prop
  | .sql none (.findById b), .ok (some booking) => booking.id = b
  | _, _ => True

def ledger : Call → Ledger bookingService OrderStage
  | .createPaymentOrder b _ => ⟨may b, can, after⟩
  | _ => .free bookingService OrderStage

/-- A request returns its order once it is stored, or if it did not read `SEATS_HELD`. -/
def Returns : Call → Out → OrderStage → Prop
  | .createPaymentOrder _ _, out, g => ∃ order, out = .order order ∧
      (g = .stored order.paymentOrderId ∨ g = .ordered false order.paymentOrderId)
  | _, _, _ => True

end OrderStage

open OrderStage

variable {b order : Uuid} {u : Id}

theorem follows_markPaymentPending :
    Follows (ledger (.createPaymentOrder b u)) (fun _ g => g = .stored order) (fun _ _ => True)
      (markPaymentPending b (.issued order)) (.ordered true order) := by
  refine follows_transaction (.inl ⟨rfl, rfl⟩) (fun _ => trivial) fun h => ?_
  have herr : ∀ {updated : Bool}, (ledger (.createPaymentOrder b u)).may
      (.storing order h updated) (.rollback h) ∧ True ∧ ∀ _ : Err, True :=
    ⟨rfl, trivial, fun _ => trivial⟩
  refine follows_seq rfl (fun found _ => ?_) fun _ _ => herr
  cases found with
  | none => exact herr
  | some booking =>
    change Follows _ _ _ (if _ then _ else _) (OrderStage.storing order h false)
    split
    · exact herr
    · have hupdates : Follows (ledger (.createPaymentOrder b u))
          (fun _ (g : OrderStage) => g = .storing order h true)
          (fun (_ : Err) g => (ledger (.createPaymentOrder b u)).may g (.rollback h) ∧ True ∧
            ∀ _ : Err, True)
          (applyUpdates h (markPaymentPendingArgs b (.issued order))) (.storing order h false) :=
        follows_seq ⟨rfl, rfl, rfl⟩ (fun _ _ => rfl) fun _ _ => herr
      refine hupdates.bind ?_
      rintro - _ rfl
      refine follows_seq ⟨rfl, rfl⟩ (fun won _ => ?_) fun _ _ => herr
      change Follows _ _ _ (if _ then _ else _) (OrderStage.storing order h true)
      split
      · exact herr
      · refine follows_seq trivial (fun eventId _ => ?_) fun _ _ => herr
        refine follows_issue ⟨rfl, rfl⟩ (fun _ _ => ?_) fun _ _ => herr
        exact ⟨⟨rfl, rfl⟩, rfl, fun _ => trivial⟩

theorem follows_updateSagaQuietly {g : OrderStage} {step : SagaStep} {status : SagaStatus}
    {error : Option String} (hmay : (ledger (.createPaymentOrder b u)).may g
      (.sql none (.updateSaga b step status error)))
    (hafter : ∀ r, g.after (.sql none (.updateSaga b step status error)) r = g) :
    Still (ledger (.createPaymentOrder b u)) g (updateSagaQuietly b step status error) := by
  refine Still.attempt (Still.bind (still_issue hmay hafter) (fun _ => rfl) fun _ => rfl)
    fun _ => rfl

theorem follows_createPaymentOrder :
    Follows (ledger (.createPaymentOrder b u)) (Returns (.createPaymentOrder b u)) (fun _ _ => True)
      (body (.createPaymentOrder b u)) .arrived := by
  have hfound : Follows (ledger (.createPaymentOrder b u))
      (fun booking (g : OrderStage) => booking.id = b ∧ g = .read (booking.status = .seatsHeld))
      (fun _ _ => True) (findOwned b u none none) .arrived := by
    refine follows_seq rfl (fun found hcan => ?_) fun _ _ => trivial
    cases found with
    | none => exact trivial
    | some booking =>
      change Follows _ _ _ (if _ then _ else _) (OrderStage.read (booking.status = .seatsHeld))
      split
      · exact trivial
      · exact ⟨hcan, rfl⟩
  have hordered : ∀ (booking : Booking) (held : Bool),
      Follows (ledger (.createPaymentOrder booking.id u))
        (fun order (g : OrderStage) => g = .ordered held order.paymentOrderId)
        (fun _ g => g = .ended)
        (createOrder booking.id booking.userId (minorUnits booking.totalPrice)) (.read held) := by
    intro booking held
    have hissue : Follows (ledger (.createPaymentOrder booking.id u))
        (fun order (g : OrderStage) => g = .ordered held order.paymentOrderId)
        (fun _ g => g = .ended) (Code.aux (V := bookingService)
          (.createOrder booking.id booking.userId (minorUnits booking.totalPrice)))
        (.read held) :=
      follows_issue ⟨_, _, rfl⟩ (fun _ _ => rfl) fun _ _ => rfl
    exact hissue.attempt fun _ _ hg => hg
  have hreturned : Follows (ledger (.createPaymentOrder b u))
      (fun out g => Returns (.createPaymentOrder b u) (.order out) g) (fun _ _ => True)
      (createPaymentOrder b u) .arrived := by
    refine hfound.bind ?_
    rintro booking _ ⟨rfl, rfl⟩
    have hcreated : Follows (ledger (.createPaymentOrder booking.id u))
        (fun order (g : OrderStage) =>
          g = .ordered (booking.status = .seatsHeld) order.paymentOrderId) (fun _ _ => True)
        (Program.attempt
          (createOrder booking.id booking.userId (minorUnits booking.totalPrice))
          (fun err => do
            updateSagaQuietly booking.id .createPayment .failed (some err.message)
            raise (.api 503 .internalError
              "Payment service is currently unavailable. Please try again.")))
        (.read (booking.status = .seatsHeld)) := by
      refine (hordered booking _).attempt ?_
      rintro e _ rfl
      exact Still.bind (follows_updateSagaQuietly trivial fun _ => rfl) (fun _ => trivial)
        fun _ => trivial
    refine hcreated.bind ?_
    rintro order _ rfl
    refine Still.bind (follows_updateSagaQuietly (.inr ⟨_, _, _, rfl⟩) fun _ => rfl)
      (fun _ => trivial) fun _ => ?_
    split
    · next hheld =>
      rw [decide_eq_true hheld]
      refine follows_markPaymentPending.bind ?_
      rintro - _ rfl
      exact ⟨order, rfl, .inl rfl⟩
    · next hheld =>
      rw [decide_eq_false hheld]
      exact ⟨order, rfl, .inr rfl⟩
  exact hreturned.bind fun _ _ hg => hg

theorem follows_body {c : Call} :
    Follows (ledger c) (Returns c) (fun _ _ => True) (body c) .arrived := by
  cases c with
  | createPaymentOrder b u => exact follows_createPaymentOrder
  | _ => exact follows_free (fun _ => trivial) (fun _ => trivial) _

end Stages

section Steps

/-- What the stage of request `i` says of its record and of the booking. -/
def OrderStage.Says (i : Nat) (b : Uuid) (e : OrderEntry) (σ : Shared bookingService Call) :
    OrderStage → Prop
  | .arrived | .ended => True
  | .read held => (∃ row, e.read = some row ∧ held = decide (row.status = .seatsHeld)) ∧
      (held = true → Risen b σ.world)
  | .ordered held order => ∃ row, e.row = some row ∧
      (held = true → row.status = .seatsHeld ∨ Past b σ.world) ∧
      (held = false → row.status = .paymentPending ∧ Stored b order σ.world)
  | .storing order h updated => (∃ row, e.row = some row ∧
      (row.status = .seatsHeld ∨ Past b σ.world)) ∧
      ∃ t, σ.txs h = some t ∧ t.owner = i ∧ (updated = false → t.writes = []) ∧
        (updated = true → ∃ row rest, t.writes = .booking row :: rest ∧
          row.paymentOrderId = some (.issued order))
  | .stored order => (∃ row, e.row = some row ∧ row.status = .seatsHeld) ∧ Stored b order σ.world

def OrderStage.Means (i : Nat) (c : Call) (g : OrderStage) (e : OrderEntry)
    (σ : Shared bookingService Call) : Prop :=
  match c with
  | .createPaymentOrder b _ => g.Says i b e σ
  | _ => True

variable {strict : SagaKey → Prop} {i : Nat} {b order : Uuid} {u : Id} {e : OrderEntry}
  {p : Pool machine} {σ σ' : Shared bookingService Call} {c : Call} {ch : Choice Reply}
  {g : OrderStage}

theorem OrderStage.Says.mono (h : g.Says i b e σ)
    (hlast : ∀ F, Lasting (discipline strict) F → F σ.world → F σ'.world)
    (htxs : ∀ n t, σ.txs n = some t → t.owner = i → σ'.txs n = some t) : g.Says i b e σ' := by
  have hpast := hlast _ (lasting_past b)
  cases g with
  | arrived | ended => trivial
  | read held => exact ⟨h.1, fun hx => hlast _ (lasting_risen b) (h.2 hx)⟩
  | ordered held order =>
    obtain ⟨row, hrow, hheld, hother⟩ := h
    exact ⟨row, hrow, fun hx => (hheld hx).imp_right hpast,
      fun hx => (hother hx).imp_right (hlast _ (lasting_stored b order))⟩
  | storing order n updated =>
    obtain ⟨⟨row, hrow, hst⟩, t, ht, ho, hw⟩ := h
    exact ⟨⟨row, hrow, hst.imp_right hpast⟩, t, htxs n t ht ho, ho, hw⟩
  | stored order => exact ⟨h.1, hlast _ (lasting_stored b order) h.2⟩

theorem read_found {row : Booking}
    (he : p.shared.exec i c (.sql none (.findById b)) ch = some (.ok (some row), σ)) :
    σ = p.shared ∧ p.world.db.bookings b = some row := by
  generalize hr : (Except.ok (some row) : Except Err (Option Booking)) = r at he
  cases Shared.exec_effect he with
  | failed x => cases hr
  | read hrun =>
    cases hrun
    cases ch with
    | lost => cases hr
    | ok | fault | reply x => exact ⟨rfl, (Except.ok.inj hr).symm⟩
  | single hrun hne =>
    cases hrun
    exact absurd rfl hne

theorem can_exec (hi : Inv p.world) {s : Stmt bookingService} {r : Except Err s.Ans}
    (he : p.shared.exec i c s ch = some (r, σ)) : OrderStage.can s r := by
  cases s with
  | sql n q =>
    cases n with
    | some n => trivial
    | none =>
      cases q with
      | findById b =>
        cases r with
        | error x => trivial
        | ok found =>
          cases found with
          | none => trivial
          | some row => exact hi.id b row (read_found he).2
      | _ => trivial
  | _ => trivial

theorem says_found {r : Except Err (Option Booking)}
    (he : p.shared.exec i c (.sql none (.findById b)) ch = some (r, σ)) :
    (OrderStage.arrived.after (.sql none (.findById b)) r).Says i b
      (e.after p.world (.sql none (.findById b)) r) σ := by
  cases r with
  | error x => trivial
  | ok found =>
    cases found with
    | none => trivial
    | some row =>
      obtain ⟨rfl, hrow⟩ := read_found he
      refine ⟨⟨row, rfl, rfl⟩, fun hheld => ⟨row, hrow, ?_⟩⟩
      rw [of_decide_eq_true hheld]
      exact nofun

theorem says_created {held : Bool} {n : Nat} {r : Except Err CreateOrderResponse}
    (he : p.shared.exec i c (.aux (.createOrder b u n)) ch = some (r, σ))
    (h : (OrderStage.read held).Says i b e p.shared)
    (hok : ∀ order, r = .ok order → (∃ read, e.read = some read ∧ read.status = .seatsHeld) ∨
      ∃ row, p.world.db.bookings b = some row ∧ row.status = .paymentPending ∧
        row.paymentOrderId = some (.issued order.paymentOrderId)) :
    ((OrderStage.read held).after (.aux (.createOrder b u n)) r).Says i b
      (e.after p.world (.aux (.createOrder b u n)) r) σ := by
  cases r with
  | error x => trivial
  | ok order =>
    obtain ⟨⟨r', env⟩, -, heq⟩ := Option.map_eq_some_iff.mp he
    cases heq
    obtain ⟨⟨read, hread, hheld⟩, hrisen⟩ := h
    cases held with
    | true =>
      obtain ⟨row, hrow, hne⟩ := hrisen rfl
      refine ⟨row, hrow, fun _ => ?_, nofun⟩
      by_cases hs : row.status = .seatsHeld
      · exact .inl hs
      · exact .inr ⟨row, hrow, hne, hs⟩
    | false =>
      obtain ⟨read', hread', hs⟩ | ⟨row, hrow, hs, ho⟩ := hok order rfl
      · obtain rfl := Option.some.inj (hread.symm.trans hread')
        exact absurd hs (of_decide_eq_false hheld.symm)
      · have hstored : Stored b order.paymentOrderId p.world :=
          ⟨row, hrow, by rw [hs]; exact nofun, by rw [hs]; exact nofun, ho⟩
        exact ⟨row, hrow, nofun, fun _ => ⟨hs, hstored⟩⟩

theorem says_recorded {h : Nat} {updated : Bool} {q : Sql} {a : Rows q} {ws : List Write}
    {ks : List Key} {t : BookingTx} (ht : p.shared.txs h = some t)
    (hrun : run q (t.view p.world.db) = .ok (a, ws, ks))
    (hmay : OrderStage.mayStore order h updated (.sql (some h) q))
    (hs : (OrderStage.storing order h updated).Says i b e p.shared) :
    ((OrderStage.storing order h updated).after (.sql (some h) q) (.ok a)).Says i b
      (e.after p.world (.sql (some h) q) (.ok a)) (p.shared.put h (t.record q a ws ks)) := by
  obtain ⟨hrow, t', ht', ho, hnone, hsome⟩ := hs
  obtain rfl := Option.some.inj (ht.symm.trans ht')
  have hself : (p.shared.put h (t.record q a ws ks)).txs h = some (t.record q a ws ks) :=
    Function.update_self _ _ _
  have happend : ∀ ws', updated = true → ∃ row rest, t.writes ++ ws' = .booking row :: rest ∧
      row.paymentOrderId = some (.issued order) := by
    intro ws' hu
    obtain ⟨row, rest, hw, hpay⟩ := hsome hu
    exact ⟨row, rest ++ ws', by rw [hw]; rfl, hpay⟩
  cases q with
  | findById b' =>
    cases hrun
    refine ⟨hrow, _, hself, ho, fun hu => ?_, happend []⟩
    rw [Tx.record_writes, hnone hu]
    rfl
  | update b' data =>
    obtain ⟨-, hu, hdata⟩ := hmay
    simp only [run] at hrun
    split at hrun
    · cases hrun
    · next row _ =>
      split at hrun
      · cases hrun
      · cases hrun
        refine ⟨hrow, _, hself, ho, fun hu' => ?_, fun _ => ⟨data.apply row, [], ?_, ?_⟩⟩
        · cases hu'
        · rw [Tx.record_writes, hnone hu]
          rfl
        · simp only [BookingUpdate.apply, hdata, Option.orElse]
  | updateStatus b' s v =>
    refine ⟨hrow, _, hself, ho, fun hu => ?_, happend ws⟩
    cases hu.symm.trans hmay.2
  | insertOutbox event =>
    refine ⟨hrow, _, hself, ho, fun hu => ?_, happend ws⟩
    cases hu.symm.trans hmay.2
  | _ => exact hmay.elim

/-- The transaction that is committed has met the booking in `SEATS_HELD`, and leaves it with
the order. -/
theorem says_committed (hi : Inv p.world) {h : Nat} {t : BookingTx}
    (hc : Commit (.createPaymentOrder b u) t p.world) (ht : p.shared.txs h = some t)
    (hs : (OrderStage.storing order h true).Says i b e p.shared) :
    (OrderStage.stored order).Says i b e
      ((p.shared.close h).settle (.createPaymentOrder b u) t) := by
  obtain ⟨⟨row, hrow, hst⟩, t', ht', -, -, hsome⟩ := hs
  obtain rfl := Option.some.inj (ht.symm.trans ht')
  obtain ⟨first, rest, hw, hpay⟩ := hsome rfl
  cases hc with
  | recorded _ _ hwrites =>
    rw [hw] at hwrites
    cases hwrites
  | @transition _ _ _ args read cur _ hper _ hpermits _ _ _ hcur _ hstatus hwrites =>
    cases hper with
    | payHeld _ hpays | payConfirming hpays | payConfirmed hpays => cases hpays
    | ordered _ _ o =>
      have hheld : cur.status = .seatsHeld := by
        rw [hstatus]
        simpa [TransitionArgs.permits, TransitionArgs.permittedStates, markPaymentPendingArgs]
          using hpermits
      have hfirst : first.paymentOrderId = some (.issued o) := by
        rw [hw] at hwrites
        obtain rfl := Write.booking.inj (List.cons.inj hwrites).1
        rfl
      obtain rfl : order = o := by
        rw [hpay] at hfirst
        exact PaymentOrderId.issued.inj (Option.some.inj hfirst)
      refine ⟨⟨row, hrow, ?_⟩, (markPaymentPendingArgs b (.issued order)).moved cur, ?_, nofun,
        nofun, rfl⟩
      · obtain hst | ⟨row', hrow', -, hne⟩ := hst
        · exact hst
        · obtain rfl := Option.some.inj (hrow'.symm.trans hcur)
          exact absurd hheld hne
      · change (t.view p.world.db).bookings b = _
        have hview := bookings_transition (w := p.world) (hi.id _ _ hcur) hwrites
        rw [hview]
        exact Function.update_self _ _ _

theorem says_own {s : orderJournal.State} (hwf : WellFormed (discipline strict) s.pool)
    (hstrict : ∀ key, ¬ strict key) (ha : timelyOrders s (.act (.run i ch)))
    {stmt : Stmt bookingService} {k : Except Err stmt.Ans → BookingCode Out}
    {r : Except Err stmt.Ans}
    (ht : s.pool.threads[i]? = some ⟨.createPaymentOrder b u, some (.call stmt k)⟩)
    (he : s.pool.shared.exec i (.createPaymentOrder b u) stmt ch = some (r, σ))
    (hlast : ∀ F, Lasting (discipline strict) F → F s.pool.world → F σ.world)
    (hmay : g.may b stmt) (h : g.Says i b (s.entries i) s.pool.shared) :
    (g.after stmt r).Says i b ((s.entries i).after s.pool.world stmt r) σ := by
  cases g with
  | arrived =>
    obtain rfl := hmay
    exact says_found he
  | read held =>
    obtain ⟨u', n, rfl⟩ := hmay
    refine says_created he h fun order hr => ?_
    subst hr
    exact ha _ b u' n k order σ ht he
  | ordered held order =>
    obtain ⟨rfl, rfl⟩ | ⟨step, status, error, rfl⟩ := hmay
    · cases Shared.exec_effect he with
      | failed x => trivial
      | begun site =>
        obtain ⟨row, hrow, hheld, -⟩ := h
        exact ⟨⟨row, hrow, hheld rfl⟩, _, Function.update_self _ _ _, rfl, fun _ => rfl, nofun⟩
    · refine OrderStage.Says.mono (σ := s.pool.shared) h hlast fun n t hx _ => ?_
      cases Shared.exec_effect he with
      | failed x => exact hx
      | read hrun => exact hx
      | single hrun hne => exact hx
  | storing order n updated =>
    have hfail : ∀ {q : Sql} {m : Nat} {x : Err},
        ((OrderStage.storing order n updated).after (.sql (some m) q) (.error x)).Says i b
          ((s.entries i).after s.pool.world (.sql (some m) q) (.error x)) s.pool.shared := by
      intro q m x
      cases q <;> exact h
    cases stmt with
    | begin site => exact hmay.elim
    | commit m =>
      obtain ⟨rfl, rfl⟩ := hmay
      cases Shared.exec_effect he with
      | failed x => trivial
      | broken hx howner => trivial
      | committed hx howner =>
        have hc : Commit (.createPaymentOrder b u) _ s.pool.world :=
          hwf.commits ht hx fun key hkey => (hstrict key hkey).elim
        have hdone := says_committed hwf.inv hc hx h
        cases ch with
        | lost => trivial
        | fault | ok | reply y => exact hdone
    | rollback m => trivial
    | sql m q =>
      cases m with
      | none => exact hmay.elim
      | some m =>
        have hm : m = n := by
          cases q with
          | findById b' => exact hmay
          | update b' data | updateStatus b' st v | insertOutbox event => exact hmay.1
          | _ => exact hmay.elim
        subst hm
        cases Shared.exec_effect he with
        | failed x => exact hfail
        | recorded hx howner hrun => exact says_recorded hx hrun hmay h
    | aux a =>
      cases a with
      | randomUUID =>
        refine OrderStage.Says.mono (σ := s.pool.shared) h hlast fun n t hx _ => ?_
        cases Shared.exec_effect he with
        | failed x hs => exact hx
        | asked hask => exact hx
      | _ => exact hmay.elim
  | stored order => exact hmay.elim
  | ended => trivial

end Steps

section Runs

variable {settings : Settings} {s s' : orderJournal.State} {a : Event machine}

def everything : Scope machine := Scope.calls fun _ => True

theorem everything_within : everything.Within (discipline fun _ => False) :=
  ⟨fun _ _ _ => trivial, fun _ _ _ _ _ _ hs => hs.elim⟩

theorem noted_step (hwf : WellFormed (discipline fun _ => False) s.pool) (ha : timelyOrders s a)
    (hs : orderJournal.step s a = some s')
    (h : Journal.Noted (fun _ => OrderStage.ledger) OrderStage.Means OrderStage.Returns s) :
    Journal.Noted (fun _ => OrderStage.ledger) OrderStage.Means OrderStage.Returns s' := by
  have hlast : ∀ F, Lasting (discipline fun _ => False) F → F s.pool.world → F s'.pool.world := by
    intro F hF hw
    have hpool := Journal.step_pool hs
    cases a with
    | call c =>
      rw [← Option.some.inj hpool]
      exact hw
    | act a =>
      exact keeps_act lawful everything_within hwf (permits_calls s.pool a) hpool (hF.keeps _) hw
  have hstepped := Journal.stepped hs
  refine h.step hstepped (fun c _ => ⟨.arrived, ?_, follows_body⟩) ?_ ?_
  · cases c <;> trivial
  · rintro i ch c stmt k r σ g rfl ht he hg hmay
    have hσ : s'.pool.shared = σ := by
      cases hstepped with
      | ran ht' he' =>
        cases ht.symm.trans ht'
        cases he.symm.trans he'
        rfl
    subst hσ
    cases c with
    | createPaymentOrder b u =>
      exact ⟨can_exec hwf.inv he, says_own hwf (fun _ => id) ha ht he hlast hmay hg⟩
    | _ => exact ⟨trivial, trivial⟩
  · intro i c g he hg
    cases c with
    | createPaymentOrder b u =>
      exact OrderStage.Says.mono hg hlast fun n t hx ho => hstepped.txs hwf.coherent he hx ho
    | _ => trivial

/-- In runs in which an order is only created for a booking that the request has read in
`SEATS_HELD`, or that is in `PAYMENT_PENDING` with this order, every request that returns has
stored its order. -/
theorem storesOrders_of_timelyOrders
    (h : System.Run orderJournal.system timelyOrders (orderJournal.start settings.pool) s) :
    StoresOrders s := by
  have hnoted : Journal.Noted (fun _ => OrderStage.ledger) OrderStage.Means
      OrderStage.Returns s := by
    refine h.invariant (Journal.noted_start rfl) fun q a q' hq hn ha hstep => ?_
    have hreach : Reachable everything settings.pool q.pool :=
      Journal.reachable (fun _ _ _ => trivial) (fun _ a _ => permits_calls _ a) hq
    exact noted_step (reachable_wellFormed everything_within hreach) ha hstep hn
  intro i b u order ht
  obtain ⟨g, hsays, order', hout, hg⟩ := hnoted.notes i _ _ ht
  cases hout
  obtain rfl | rfl := hg
  · obtain ⟨⟨row, hrow, hs⟩, row', hrow', -, -, ho⟩ := hsays
    exact ⟨⟨row', hrow', ho⟩, row, hrow, .inl hs⟩
  · obtain ⟨row, hrow, -, hother⟩ := hsays
    obtain ⟨hs, row', hrow', -, -, ho⟩ := hother rfl
    exact ⟨⟨row', hrow', ho⟩, row, hrow, .inr hs⟩

def sampleOrder : CreateOrderResponse := ⟨⟨70, 1⟩, 41, 1, .pending⟩

def sampleOrdering : List (Event machine) :=
  .call (.createPaymentOrder sampleBooking 5) :: machine.burst 2 1 ++
    [.act (.run 2 (.reply (.order sampleOrder)))]

/-- The order that call `i` has returned, if it is a request for one. -/
def returnedOrder (s : orderJournal.State) (i : Nat) (b : Uuid) (u : Id) :
    Option CreateOrderResponse :=
  match s.pool.threads[i]? with
  | some ⟨.createPaymentOrder b' u', some (.ret (.order order))⟩ =>
    if b' = b ∧ u' = u then some order else none
  | _ => none

theorem thread_of_returnedOrder {i : Nat} {b : Uuid} {u : Id} {order : CreateOrderResponse}
    (h : returnedOrder s i b u = some order) :
    s.pool.threads[i]? = some ⟨.createPaymentOrder b u, some (.ret (.order order))⟩ := by
  unfold returnedOrder at h
  split at h
  · next ht =>
    split at h
    · next heq =>
      obtain ⟨rfl, rfl⟩ := heq
      rw [ht, Option.some.inj h]
    · cases h
  · cases h

def timelyTest (s : orderJournal.State) : Event machine → Bool
  | .act (.run i _) =>
    match s.pool.threads[i]? with
    | some ⟨_, some (.call (.aux (.createOrder _ _ _)) _)⟩ =>
      (s.entries i).read.any (fun read => read.status = .seatsHeld)
    | _ => true
  | _ => true

theorem timely_of_test (h : timelyTest s a = true) : timelyOrders s a := by
  cases a with
  | call c => trivial
  | act a =>
    cases a with
    | crash i => trivial
    | tick d => trivial
    | run i ch =>
      intro c b u n k order σ ht _
      simp only [timelyTest, ht] at h
      obtain ⟨read, hread, hs⟩ := (Option.any_eq_true _ _).mp h
      exact .inl ⟨read, hread, of_decide_eq_true hs⟩

/-- An order for a booking with held seats. -/
theorem storesOrders_held : ∃ s, System.Run orderJournal.system timelyOrders
    (orderJournal.start sampleSettings.pool) s ∧
    returnedOrder s 2 sampleBooking 5 = some sampleOrder ∧ StoresOrders s := by
  obtain ⟨s, hs, ht⟩ := System.exists_run (T := orderJournal.system) timelyOrders
    (orderJournal.start sampleSettings.pool) timelyTest
    (.call (.createBooking 5 sampleRequest) :: machine.burst 0 21 ++
      .call (.markSeatsHeld sampleBooking 600000) :: machine.burst 1 7 ++ sampleOrdering ++ machine.burst 2 8)
    (fun s => decide (returnedOrder s 2 sampleBooking 5 = some sampleOrder))
    (fun s a _ h => timely_of_test h) (by decide +kernel)
  exact ⟨s, hs, of_decide_eq_true ht, storesOrders_of_timelyOrders hs⟩

/-- The saga has advanced the booking with an order of its own. -/
theorem not_storesOrders : ¬ ∀ (settings : Settings) (s : orderJournal.State),
    System.Run orderJournal.system (fun _ _ => True) (orderJournal.start settings.pool) s →
      StoresOrders s := by
  intro hall
  obtain ⟨s, hs, ht⟩ := System.exists_run (T := orderJournal.system) (fun _ _ => True)
    (orderJournal.start sampleSettings.pool) (fun _ _ => true)
    (.call (.createBooking 5 sampleRequest) :: machine.burst 0 21 ++
      .call (.seatsHeld (.event sampleHeld)) :: machine.burst 1 17 ++ sampleOrdering ++ machine.burst 2 1)
    (fun s : orderJournal.State => decide (
      returnedOrder s 2 sampleBooking 5 = some sampleOrder ∧
      (s.pool.world.db.bookings sampleBooking).map Booking.paymentOrderId =
        some (some (.auto sampleBooking))))
    (fun _ _ _ _ => trivial) (by decide +kernel)
  obtain ⟨hret, hrow⟩ := of_decide_eq_true ht
  obtain ⟨⟨row, hrow', ho⟩, -⟩ := hall sampleSettings s hs 2 sampleBooking 5 sampleOrder
    (thread_of_returnedOrder hret)
  rw [hrow', Option.map_some, ho] at hrow
  cases hrow

end Runs

end RailwayBooking.BookingService
