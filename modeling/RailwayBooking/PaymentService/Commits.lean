import RailwayBooking.PaymentService.Operations

namespace RailwayBooking.PaymentService

open Concurrency

abbrev PaymentTx := Tx paymentService

abbrev PaymentWorld := World paymentService Call

namespace Write

def event? : Write → Option OutboxEvent
  | .outbox event => some event
  | _ => none

end Write

namespace OutboxEvent

def eventId : OutboxEvent → EventId
  | .paymentOrderCreated _ payload => payload.eventId
  | .paymentSuccess _ payload => payload.eventId
  | .paymentFailed _ payload => payload.eventId

end OutboxEvent

/-- The row of a payment, the first of those with its id. -/
def Db.row (d : Db) (id : Uuid) : Option Payment := d.payments.find? (fun p => p.id = id)

section View

variable (d : Db) (ws : List Write)

theorem mem_of_row {d : Db} {id : Uuid} {p : Payment} (h : d.row id = some p) :
    p ∈ d.payments ∧ p.id = id :=
  ⟨List.mem_of_find?_eq_some h, by simpa using List.find?_some h⟩

theorem row_eq_none {d : Db} {id : Uuid} : d.row id = none ↔ ∀ p ∈ d.payments, p.id ≠ id := by
  simp [Db.row]

theorem row_of_mem {d : Db} (hn : (d.payments.map Payment.id).Nodup) {p : Payment}
    (h : p ∈ d.payments) : d.row p.id = some p := by
  obtain ⟨q, hq⟩ := Option.isSome_iff_exists.mp
    (List.find?_isSome (p := fun q => decide (q.id = p.id)) |>.mpr ⟨p, h, by simp⟩)
  obtain ⟨hmem, hid⟩ := mem_of_row hq
  rw [Db.row, hq, List.inj_on_of_nodup_map hn hmem h hid]

theorem row_insert (data : Payment) (id : Uuid) :
    ((Write.insert data).apply d).row id =
      (d.row id).or (if data.id = id then some data else none) := by
  rw [Db.row, Write.apply, List.find?_append, Db.row]
  by_cases h : data.id = id
  · simp [h]
  · simp [h]

theorem row_put (row : Payment) (id : Uuid) :
    ((Write.put row).apply d).row id =
      if id = row.id then (d.row id).map (fun _ => row) else d.row id := by
  obtain ⟨rows, events⟩ := d
  simp only [Db.row, Write.apply, putPayment]
  induction rows with
  | nil => simp
  | cons p rows ih =>
    rw [List.map_cons, List.find?_cons, List.find?_cons]
    by_cases hp : p.id = row.id
    · by_cases hid : id = row.id
      · simp [hp, hid]
      · have hne : ¬ row.id = id := fun he => hid he.symm
        rw [if_neg hid] at ih
        simpa [hp, hid, hne] using ih
    · by_cases hid : p.id = id
      · have hne : ¬ id = row.id := fun he => hp (hid.trans he)
        simp [hid, hne]
      · simpa [hp, hid] using ih

def applyAll : Db := ws.foldl (fun d x => x.apply d) d

theorem view_eq (t : PaymentTx) : t.view d = applyAll d t.writes := rfl

theorem applyAll_outbox : (applyAll d ws).outbox = d.outbox ++ ws.filterMap Write.event? := by
  induction ws generalizing d with
  | nil => simp [applyAll]
  | cons x ws ih =>
    rw [show applyAll d (x :: ws) = applyAll (x.apply d) ws from rfl, ih]
    cases x <;> simp [Write.apply, Write.event?, List.filterMap_cons]

theorem applyAll_row_other {id : Uuid} (h : ∀ x ∈ ws, .payment id ∉ x.keys) :
    (applyAll d ws).row id = d.row id := by
  induction ws generalizing d with
  | nil => rfl
  | cons x ws ih =>
    rw [show applyAll d (x :: ws) = applyAll (x.apply d) ws from rfl,
      ih _ (fun y hy => h y (List.mem_cons_of_mem _ hy))]
    have hx := h x List.mem_cons_self
    cases x with
    | insert data =>
      have hne : ¬ data.id = id := fun he => hx (by simp [Write.keys, he])
      rw [row_insert, if_neg hne, Option.or_none]
    | put row =>
      have hne : ¬ id = row.id := fun he => hx (by simp [Write.keys, he])
      rw [row_put, if_neg hne]
    | outbox event => rfl

theorem map_putPayment {α : Type} {f : Payment → α} {row : Payment} {rows : List Payment}
    (h : ∀ p ∈ rows, p.id = row.id → f row = f p) : (putPayment row rows).map f = rows.map f := by
  rw [putPayment, List.map_map]
  apply List.map_congr_left
  intro p hp
  by_cases hid : p.id = row.id
  · simp only [Function.comp_apply, if_pos hid]
    exact h p hp hid
  · simp only [Function.comp_apply, if_neg hid]

end View

/-- `uuid` was drawn by call `i` after all its ids that stand in the outbox. -/
structure Drawn (uuid : Uuid) (i : Nat) (w : PaymentWorld) : Prop where
  source : uuid.source = i
  drawn : uuid.serial < w.env.fresh
  unused : ∀ ev ∈ w.db.outbox, ∀ u, ev.eventId = .random u → u.source = i → u.serial < uuid.serial

/-- The columns of a payment that no statement changes. -/
structure Payment.Same (p q : Payment) : Prop where
  id : q.id = p.id
  paymentOrderId : q.paymentOrderId = p.paymentOrderId
  razorpayOrderId : q.razorpayOrderId = p.razorpayOrderId
  bookingId : q.bookingId = p.bookingId
  userId : q.userId = p.userId
  amount : q.amount = p.amount
  currency : q.currency = p.currency
  createdAt : q.createdAt = p.createdAt

/-- The transactions that payment-service commits, one constructor for each way
through each transaction of the source, and in each the committed state that it
meets. -/
inductive Commit : Call → PaymentTx → PaymentWorld → Prop
  | ordered {request : CreateOrderRequest} {input : CreateOrderInput} {t : PaymentTx}
      {w : PaymentWorld} {id paymentOrderId eventId : Uuid} {razorpayOrderId : Id} {createdAt : Nat}
      (site : t.site = .createOrder) (valid : createOrderRequestSchema request = .ok input)
      (new : w.db.row id = none) (order : ∀ p ∈ w.db.payments, p.paymentOrderId ≠ paymentOrderId)
      (inserted : t.Answered (.create (newPayment input id paymentOrderId razorpayOrderId createdAt))
        (newPayment input id paymentOrderId razorpayOrderId createdAt))
      (amount : decimalAmount input.amount < decimalLimit)
      (drawn : Drawn eventId t.owner w)
      (writes : t.writes = [.insert (newPayment input id paymentOrderId razorpayOrderId createdAt),
        .outbox (.paymentOrderCreated id
          (orderCreated input eventId paymentOrderId razorpayOrderId))]) :
      Commit (.createOrder request) t w
  | captured {c : Call} {t : PaymentTx} {w : PaymentWorld} {input : VerifyPaymentInput}
      {read row : Payment} {eventId : Uuid} (site : t.site = .verifyAndCapture)
      (current : w.db.row read.id = some row) (same : read.Same row) (isOpen : row.isOpen = true)
      (matched : t.Answered (.captureOpen (input.params read)) 1)
      (once : ∀ params, ¬ t.Answered (.captureOpen params) 0)
      (drawn : Drawn eventId t.owner w)
      (writes : t.writes = [.put (row.captured (input.params read)),
        .outbox (.paymentSuccess read.id (successEvent input read eventId))]) : Commit c t w
  | recaptured {c : Call} {t : PaymentTx} {w : PaymentWorld} {input : VerifyPaymentInput}
      {read row : Payment} {eventId : Uuid} (site : t.site = .verifyAndCapture)
      (current : w.db.row read.id = some row) (same : read.Same row) (closed : row.isOpen = false)
      (unmatched : t.Answered (.captureOpen (input.params read)) 0)
      (drawn : Drawn eventId t.owner w)
      (writes : t.writes = [.outbox (.paymentSuccess read.id (successEvent input read eventId))]) :
      Commit c t w
  | failed {c : Call} {t : PaymentTx} {w : PaymentWorld} {read row : Payment} {reason : String}
      {eventId : Uuid} (site : t.site = .markAsFailed)
      (current : w.db.row read.id = some row) (same : read.Same row)
      (updated : t.Answered (.updateFailed read.id reason) (row.failed reason))
      (drawn : Drawn eventId t.owner w)
      (writes : t.writes = [.put (row.failed reason),
        .outbox (.paymentFailed read.id (failedEvent read reason eventId))]) : Commit c t w

/-- What a committed transaction does to the row of payment `id`. -/
inductive RowChange (t : PaymentTx) : Option Payment → Option Payment → Prop
  | same (r : Option Payment) : RowChange t r r
  | ordered {p : Payment} (site : t.site = .createOrder) (pending : p.status = .pending) :
      RowChange t none (some p)
  | captured {p : Payment} (params : CapturePaymentParams) (site : t.site = .verifyAndCapture)
      (isOpen : p.isOpen = true) : RowChange t (some p) (some (p.captured params))
  | failed {p : Payment} (reason : String) (site : t.site = .markAsFailed) :
      RowChange t (some p) (some (p.failed reason))

/-- What a committed transaction does to the table: it adds a row, or every row it
leaves comes from one that was there. -/
inductive TableChange (t : PaymentTx) (rows rows' : List Payment) : Prop
  | ordered (data : Payment) (site : t.site = .createOrder)
      (answered : t.Answered (.create data) data)
      (added : rows' = rows ++ [data])
  | changed (origin : ∀ p ∈ rows', ∃ q ∈ rows, q.Same p ∧ RowChange t (some q) (some p))

section Effects

variable {c : Call} {t : PaymentTx} {w : PaymentWorld} {id : Uuid} {p : Payment}

theorem Payment.Same.refl (p : Payment) : p.Same p := ⟨rfl, rfl, rfl, rfl, rfl, rfl, rfl, rfl⟩

theorem Payment.Same.trans {p q r : Payment} (h : p.Same q) (h' : q.Same r) : p.Same r :=
  ⟨h'.id.trans h.id, h'.paymentOrderId.trans h.paymentOrderId,
    h'.razorpayOrderId.trans h.razorpayOrderId, h'.bookingId.trans h.bookingId,
    h'.userId.trans h.userId, h'.amount.trans h.amount, h'.currency.trans h.currency,
    h'.createdAt.trans h.createdAt⟩

theorem Payment.captured_same (p : Payment) (params : CapturePaymentParams) :
    p.Same (p.captured params) := ⟨rfl, rfl, rfl, rfl, rfl, rfl, rfl, rfl⟩

theorem Payment.failed_same (p : Payment) (reason : String) : p.Same (p.failed reason) :=
  ⟨rfl, rfl, rfl, rfl, rfl, rfl, rfl, rfl⟩

theorem payments_ordered {data : Payment} {ev : OutboxEvent}
    (hw : t.writes = [.insert data, .outbox ev]) :
    (t.view w.db).payments = w.db.payments ++ [data] := by
  rw [view_eq, hw]
  rfl

theorem payments_put {ev : OutboxEvent} (hw : t.writes = [.put p, .outbox ev]) :
    (t.view w.db).payments = putPayment p w.db.payments := by
  rw [view_eq, hw]
  rfl

theorem view_ordered {data : Payment} {ev : OutboxEvent} (hw : t.writes = [.insert data, .outbox ev])
    (hnew : w.db.row data.id = none) :
    (t.view w.db).row = Function.update w.db.row data.id (some data) := by
  funext a
  rw [view_eq, hw]
  change ((Write.insert data).apply w.db).row a = _
  rw [row_insert]
  by_cases ha : a = data.id
  · subst ha
    simp [hnew]
  · have hne : ¬ data.id = a := fun he => ha he.symm
    simp [ha, hne]

theorem view_put {old : Payment} {ev : OutboxEvent} (hw : t.writes = [.put p, .outbox ev])
    (hcur : w.db.row p.id = some old) :
    (t.view w.db).row = Function.update w.db.row p.id (some p) := by
  funext a
  rw [view_eq, hw]
  change ((Write.put p).apply w.db).row a = _
  rw [row_put]
  by_cases ha : a = p.id
  · subst ha
    simp [hcur]
  · simp [ha]

theorem view_recaptured {ev : OutboxEvent} (hw : t.writes = [.outbox ev]) :
    (t.view w.db).row = w.db.row := by
  rw [view_eq, hw]
  rfl

theorem rowChange_of_update {a : Uuid} {r : Option Payment}
    (hv : (t.view w.db).row = Function.update w.db.row a (some p)) (hc : w.db.row a = r)
    (h : RowChange t r (some p)) (id : Uuid) :
    RowChange t (w.db.row id) ((t.view w.db).row id) := by
  rw [hv]
  by_cases hid : id = a
  · subst hid
    rw [Function.update_self, hc]
    exact h
  · rw [Function.update_of_ne hid]
    exact .same _

theorem Commit.rowChange (h : Commit c t w) (id : Uuid) :
    RowChange t (w.db.row id) ((t.view w.db).row id) := by
  cases h with
  | ordered hsite _ hnew _ _ _ _ hw =>
    exact rowChange_of_update (view_ordered hw hnew) hnew (.ordered hsite rfl) id
  | captured hsite hcur hsame hopen _ _ _ hw =>
    have hid := (mem_of_row hcur).2
    have hv := view_put hw (by simpa [Payment.captured, hid] using hcur)
    exact rowChange_of_update hv (by simpa [Payment.captured, hid] using hcur)
      (.captured _ hsite hopen) id
  | recaptured _ _ _ _ _ _ hw =>
    rw [view_recaptured hw]
    exact .same _
  | failed hsite hcur hsame _ _ hw =>
    have hid := (mem_of_row hcur).2
    have hv := view_put hw (by simpa [Payment.failed, hid] using hcur)
    exact rowChange_of_update hv (by simpa [Payment.failed, hid] using hcur)
      (.failed _ hsite) id

theorem Commit.site_ne_auto (h : Commit c t w) : t.site ≠ .auto := by
  intro hsite
  cases h with
  | ordered hs _ _ _ _ _ _ _ | captured hs _ _ _ _ _ _ _ | recaptured hs _ _ _ _ _ _
  | failed hs _ _ _ _ _ =>
    rw [hsite] at hs
    cases hs

theorem RowChange.same_columns {r : Option Payment} (h : RowChange t (some p) r) :
    ∃ q, r = some q ∧ p.Same q := by
  cases h with
  | same => exact ⟨p, rfl, .refl p⟩
  | captured params => exact ⟨_, rfl, p.captured_same params⟩
  | failed reason => exact ⟨_, rfl, p.failed_same reason⟩

theorem RowChange.closed {q : Payment} (h : RowChange t (some p) (some q))
    (hp : p.isOpen = false) : q.isOpen = false := by
  cases h with
  | same => exact hp
  | captured => rfl
  | failed => rfl

theorem tableChange_put {p row : Payment} {ev : OutboxEvent} (hw : t.writes = [.put p, .outbox ev])
    (hrow : row ∈ w.db.payments) (hs : row.Same p) (hr : RowChange t (some row) (some p)) :
    TableChange t w.db.payments (t.view w.db).payments := by
  refine .changed fun x hx => ?_
  rw [payments_put hw] at hx
  obtain ⟨y, hy, rfl⟩ := List.mem_map.mp hx
  split
  · exact ⟨row, hrow, hs, hr⟩
  · exact ⟨y, hy, .refl y, .same _⟩

theorem Commit.tableChange (h : Commit c t w) :
    TableChange t w.db.payments (t.view w.db).payments := by
  cases h with
  | ordered hsite _ _ _ hins _ _ hw => exact .ordered _ hsite hins (payments_ordered hw)
  | captured hsite hcur _ hopen _ _ _ hw =>
    exact tableChange_put hw (mem_of_row hcur).1 (Payment.captured_same _ _)
      (.captured _ hsite hopen)
  | recaptured _ _ _ _ _ _ hw =>
    rw [view_eq, hw]
    exact .changed fun p hp => ⟨p, hp, .refl p, .same _⟩
  | failed hsite hcur _ _ _ hw =>
    exact tableChange_put hw (mem_of_row hcur).1 (Payment.failed_same _ _) (.failed _ hsite)

theorem TableChange.origin {rows rows' : List Payment} (h : TableChange t rows rows')
    (hsite : t.site ≠ .createOrder) :
    ∀ p ∈ rows', ∃ q ∈ rows, q.Same p ∧ RowChange t (some q) (some p) := by
  cases h with
  | ordered _ hs _ _ => exact absurd hs hsite
  | changed horigin => exact horigin

end Effects

end RailwayBooking.PaymentService
