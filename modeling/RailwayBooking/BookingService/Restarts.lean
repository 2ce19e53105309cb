import RailwayBooking.Concurrency.Alone
import RailwayBooking.BookingService.Linearizability

namespace RailwayBooking.BookingService

open Concurrency

abbrev BookingShared := Shared bookingService Call

variable {i : Nat} {c : Call} {σ σ' σ'' : BookingShared} {b : Uuid} {row : Booking}

section Alone

/-- A run has left the row of booking `b` and the saga logs like this. -/
structure Leaves (σ σ' : BookingShared) (b : Uuid) (row : Booking)
    (logs : Uuid → SagaStep → Option SagaLog) : Prop where
  rests : σ.Rests σ'
  row : σ'.world.db.bookings b = some row
  logs : σ'.world.db.sagaLogs = logs

/-- The row of booking `b` is locked by no transaction. -/
structure Unlocked (σ : BookingShared) (row : Booking) : Prop where
  booking : σ.locked (.booking row.id) = none
  pnr : σ.locked (.pnr row.pnr) = none

theorem Unlocked.rests (h : Unlocked σ row) (hr : σ.Rests σ') : Unlocked σ' row :=
  ⟨hr.locked ▸ h.booking, hr.locked ▸ h.pnr⟩

theorem Unlocked.same (h : Unlocked σ row) {row' : Booking} (hs : row.Same row') :
    Unlocked σ row' :=
  ⟨hs.id ▸ h.booking, hs.pnr ▸ h.pnr⟩

theorem Unlocked.keys (h : Unlocked σ row) {row' : Booking} (hs : row.Same row') :
    ∀ k ∈ Tx.rowKeys bookingService [.booking row'] [], σ.locked k = none := by
  intro k hk
  simp only [Tx.rowKeys, Write.keys, List.flatMap_cons, List.flatMap_nil, List.append_nil,
    List.mem_cons, List.not_mem_nil, or_false] at hk
  obtain rfl | rfl := hk
  · rw [hs.id]
    exact h.booking
  · rw [hs.pnr]
    exact h.pnr

theorem ends_randomUUID : ∃ uuid w, Ends i c randomUUID σ (.ok uuid) (σ.moveTo w σ.next) ∧
    w.db = σ.world.db :=
  ⟨_, _, ends_aux rfl, rfl⟩

variable {t : BookingTx} {h : Nat}

theorem exists_findById {r : Option Booking} (ht : σ.Holds i t)
    (hr : (t.view σ.world.db).bookings b = r) :
    ∃ t', Ends i c (findById (some h) b) (σ.put h t) (.ok r) (σ.put h t') ∧ σ.Holds i t' ∧
      t'.writes = t.writes := by
  subst hr
  obtain ⟨t', he, ht', hw⟩ := exists_inside (c := c) (h := h) (q := Sql.findById b) ht rfl
    (by simp [Tx.rowKeys])
  exact ⟨t', he, ht', hw.trans (List.append_nil _)⟩

theorem exists_applyUpdates {args : TransitionArgs} (ht : σ.Holds i t)
    (hrow : (t.view σ.world.db).bookings args.bookingId = some row) (hu : Unlocked σ row)
    (hprice : ∀ u ∈ args.updates, u.totalPrice = none) :
    ∃ t', Ends i c (applyUpdates h args) (σ.put h t) (.ok ()) (σ.put h t') ∧ σ.Holds i t' ∧
      t'.writes = t.writes ++ args.updateWrites row := by
  unfold applyUpdates TransitionArgs.updateWrites
  cases hup : args.updates with
  | none => exact ⟨t, ends_ret (), ht, (List.append_nil _).symm⟩
  | some u =>
    have hrun : run (.update args.bookingId u) (t.view σ.world.db) =
        .ok (u.apply row, [.booking (u.apply row)], []) := by
      simp [run, hrow, hprice u hup]
    obtain ⟨t', he, ht', hw⟩ := exists_inside (c := c) (h := h)
      (q := Sql.update args.bookingId u) ht hrun (hu.keys (u.apply_same row))
    exact ⟨t', he.bind (ends_ret ()), ht', hw⟩

theorem exists_updateStatus {s : BookingStatus} {v : Nat} (ht : σ.Holds i t)
    (hrow : (t.view σ.world.db).bookings b = some row) (hu : Unlocked σ row)
    (hv : row.version < v) :
    ∃ t', Ends i c (updateStatus (some h) b s v) (σ.put h t) (.ok true) (σ.put h t') ∧
      σ.Holds i t' ∧ t'.writes = t.writes ++ [.booking { row with status := s, version := v }] := by
  have hrun : run (.updateStatus b s v) (t.view σ.world.db) =
      .ok (true, [.booking { row with status := s, version := v }], []) := by
    simp [run, hrow, hv]
  exact exists_inside ht hrun (hu.keys ⟨rfl, rfl, rfl, rfl, rfl, rfl⟩)

theorem exists_insertOutbox (ht : σ.Holds i t) (event : OutboxEvent) :
    ∃ t', Ends i c (insertOutbox (some h) event) (σ.put h t) (.ok ()) (σ.put h t') ∧ σ.Holds i t' ∧
      t'.writes = t.writes ++ [.outbox event] :=
  exists_inside ht rfl (by simp [Tx.rowKeys, Write.keys])

theorem view_updateWrites {args : TransitionArgs} {d : Db} (hw : t.writes = args.updateWrites row)
    (hrow : d.bookings args.bookingId = some row) (hid : row.id = args.bookingId) :
    (t.view d).bookings args.bookingId = some (args.updated row) := by
  rw [view_eq, hw]
  unfold TransitionArgs.updateWrites TransitionArgs.updated
  cases args.updates with
  | none => exact hrow
  | some u =>
    change Function.update d.bookings (u.apply row).id _ _ = _
    rw [u.apply_id, hid, Function.update_self]
    rfl

@[simp] theorem TransitionArgs.updated_version (args : TransitionArgs) (row : Booking) :
    (args.updated row).version = row.version := by
  unfold TransitionArgs.updated
  cases args.updates <;> rfl

theorem updateWrites_sagaLog (args : TransitionArgs) (row : Booking) :
    (args.updateWrites row).filterMap Write.sagaLog? = [] := by
  unfold TransitionArgs.updateWrites
  cases args.updates <;> rfl

section Transition

variable (args : TransitionArgs) (hσ : σ.Tidy)
  (hrow : σ.world.db.bookings args.bookingId = some row)

include hσ hrow

theorem ends_transition (hid : row.id = args.bookingId) (hu : Unlocked σ row)
    (hp : args.permits row.status = true) (hprice : ∀ u ∈ args.updates, u.totalPrice = none) :
    ∃ σ', Ends i c (transition args) σ (.ok ()) σ' ∧
      Leaves σ σ' args.bookingId (args.moved row) σ.world.db.sagaLogs := by
  have hr₀ : σ.Rests (σ.moveTo σ.world (σ.next + 1)) := Shared.rests_moveTo _ (Nat.le_succ _)
  have hu₀ := hu.rests hr₀
  obtain ⟨t₁, h₁, ht₁, hw₁⟩ := exists_findById (c := c) (h := σ.next) (r := some row)
    (Shared.holds_start (σ := σ.moveTo σ.world (σ.next + 1)) i Site.transition) hrow
  have hrow₁ : (t₁.view σ.world.db).bookings args.bookingId = some row := by
    rw [view_eq, hw₁]
    exact hrow
  obtain ⟨t₂, h₂, ht₂, hw₂⟩ := exists_applyUpdates (c := c) (h := σ.next) ht₁ hrow₁ hu₀ hprice
  rw [hw₁, show (Tx.start (V := bookingService) i .transition).writes = [] from rfl,
    List.nil_append] at hw₂
  have hrow₂ := view_updateWrites hw₂ hrow hid
  obtain ⟨t₃, h₃, ht₃, hw₃⟩ := exists_updateStatus (c := c) (h := σ.next) (s := args.target)
    (v := row.version + 1) ht₂ hrow₂ (hu₀.same (args.updated_same row))
    (by rw [args.updated_version]; exact Nat.lt_succ_self _)
  obtain ⟨uuid, w, h₄, hdb⟩ := ends_randomUUID (i := i) (c := c)
    (σ := (σ.moveTo σ.world (σ.next + 1)).put σ.next t₃)
  obtain ⟨t₅, h₅, ht₅, hw₅⟩ := exists_insertOutbox (c := c) (h := σ.next)
    (σ := (σ.moveTo w (σ.next + 1))) ⟨ht₃.owner, ht₃.locks⟩
    (.bookingStatusChanged (statusChanged uuid
      { row with status := args.target, version := row.version + 1 } (some row.status)))
  have hr : σ.Rests (σ.moveTo w (σ.next + 1)) := Shared.rests_moveTo _ (Nat.le_succ _)
  rw [hw₃, hw₂, List.append_assoc] at hw₅
  refine ⟨_, ends_transaction hσ hr ht₅ ?_, ⟨rfl, rfl, hr.next⟩, ?_, ?_⟩
  · refine h₁.bind ?_
    simp only [hp, Bool.not_true, Bool.false_eq_true, if_false]
    exact h₂.bind (h₃.bind (h₄.bind h₅))
  · change (t₅.view w.db).bookings args.bookingId = _
    rw [bookings_transition hid hw₅, Function.update_self]
  · change (t₅.view w.db).sagaLogs = _
    rw [view_eq, applyAll_sagaLogs, hw₅, List.filterMap_append, updateWrites_sagaLog, hdb]
    rfl

theorem ends_transition_refused (hp : args.permits row.status = false) :
    ∃ e σ', Ends i c (transition args) σ (.error e) σ' ∧ σ.Rests σ' ∧ σ'.world.db = σ.world.db := by
  have hr₀ : σ.Rests (σ.moveTo σ.world (σ.next + 1)) := Shared.rests_moveTo _ (Nat.le_succ _)
  obtain ⟨t₁, h₁, ht₁, -⟩ := exists_findById (c := c) (h := σ.next) (r := some row)
    (Shared.holds_start (σ := σ.moveTo σ.world (σ.next + 1)) i Site.transition) hrow
  refine ⟨?e, _, ends_rolledBack hσ hr₀ ht₁ (h₁.bind ?body), hr₀, rfl⟩
  case body =>
    simp only [hp, Bool.not_false, if_true]
    exact ends_raise _

end Transition

theorem Leaves.refl (h : σ.world.db.bookings b = some row) :
    Leaves σ σ b row σ.world.db.sagaLogs :=
  ⟨.refl σ, h, rfl⟩

theorem Leaves.of_rests {logs : Uuid → SagaStep → Option SagaLog} (hr : σ.Rests σ')
    (h : Leaves σ' σ'' b row logs) : Leaves σ σ'' b row logs :=
  ⟨hr.trans h.rests, h.row, h.logs⟩

theorem ends_findById {r : Option Booking} (hr : σ.world.db.bookings b = r) :
    Ends i c (findById none b) σ (.ok r) σ := by
  subst hr
  exact ends_read rfl

theorem ends_findOwned {missing foreign : Option String} (hrow : σ.world.db.bookings b = some row) :
    Ends i c (findOwned b row.userId missing foreign) σ (.ok row) σ := by
  refine (ends_findById hrow).bind ?_
  simp only [ne_eq, not_true_eq_false, if_false]
  exact ends_ret row

theorem run_updateSaga {step : SagaStep} {status : SagaStatus} {error : Option String} {d : Db}
    (hlog : (d.sagaLogs b step).isSome) : run (.updateSaga b step status error) d =
      .ok (⟨status, error⟩, [.saga b step ⟨status, error⟩], []) := by
  obtain ⟨l, hl⟩ := Option.isSome_iff_exists.mp hlog
  simp [run, hl]

theorem ends_updateSaga (step : SagaStep) (status : SagaStatus) (error : Option String)
    (hrow : σ.world.db.bookings b = some row) (hlog : (σ.world.db.sagaLogs b step).isSome)
    (hl : σ.locked (.saga b step) = none) :
    ∃ σ', Ends i c (updateSaga none b step status error) σ (.ok ⟨status, error⟩) σ' ∧
      Leaves σ σ' b row (putSagaLog σ.world.db.sagaLogs (b, step, ⟨status, error⟩)) := by
  refine ⟨_, ends_single (run_updateSaga hlog) (List.cons_ne_nil _ _) ?_, ⟨rfl, rfl, Nat.le_refl _⟩,
    hrow, rfl⟩
  simpa [Tx.rowKeys, Write.keys] using hl

section Payment

variable (hσ : σ.Tidy) (hrow : σ.world.db.bookings b = some row) (hid : row.id = b)
  (hu : Unlocked σ row)

include hσ hrow hid hu

theorem ends_payHeld (hs : row.status = .seatsHeld ∨ row.status = .paymentPending) :
    ∃ σ' row', Ends i c (payHeld row b) σ (.ok ()) σ' ∧ Leaves σ σ' b row' σ.world.db.sagaLogs ∧
      row'.status = .paymentPending ∧ row.Same row' := by
  unfold payHeld
  obtain hs | hs := hs
  · obtain ⟨uuid, w, h₁, hdb⟩ := ends_randomUUID (i := i) (c := c) (σ := σ)
    have hr : σ.Rests (σ.moveTo w σ.next) := Shared.rests_moveTo w (Nat.le_refl _)
    obtain ⟨σ', h₂, hl⟩ := ends_transition (i := i) (c := c)
      (markPaymentPendingArgs b (.pay uuid)) (hr.tidy hσ) (hdb ▸ hrow) hid (hu.rests hr)
      (by rw [hs]; rfl) (by rintro u ⟨⟩; rfl)
    refine ⟨σ', _, ?_, .of_rests hr ⟨hl.rests, hl.row, hl.logs.trans (by rw [← hdb]; rfl)⟩, rfl,
      TransitionArgs.moved_same _ row⟩
    rw [if_pos hs]
    exact h₁.bind h₂
  · refine ⟨σ, row, ?_, .refl hrow, hs, .refl row⟩
    rw [if_neg (by rw [hs]; exact nofun)]
    exact ends_ret ()

variable (hlog : (σ.world.db.sagaLogs b .confirmSeats).isSome)
  (hl : σ.locked (.saga b .confirmSeats) = none)

include hlog hl in
theorem ends_confirmPayment (hs : row.status = .seatsHeld ∨ row.status = .paymentPending) :
    ∃ σ' row', Ends i c (confirmPayment b row.userId) σ (.ok ()) σ' ∧
      Leaves σ σ' b row' (putSagaLog σ.world.db.sagaLogs (b, .confirmSeats, ⟨.completed, none⟩)) ∧
      row'.status = .confirmed := by
  obtain ⟨σ₁, row₁, h₁, hl₁, hs₁, hsame⟩ := ends_payHeld (i := i) (c := c) hσ hrow hid hu hs
  obtain ⟨σ₂, h₂, hl₂⟩ := ends_transition (i := i) (c := c) (markConfirmingArgs b)
    (hl₁.rests.tidy hσ) hl₁.row (hsame.id.trans hid) ((hu.same hsame).rests hl₁.rests)
    (by rw [hs₁]; rfl) (by rintro u ⟨⟩)
  have hsame₂ := hsame.trans (TransitionArgs.moved_same (markConfirmingArgs b) row₁)
  have hr₂ := hl₁.rests.trans hl₂.rests
  obtain ⟨σ₃, h₃, hl₃⟩ := ends_transition (i := i) (c := c) (markConfirmedArgs b)
    (hr₂.tidy hσ) hl₂.row (hsame₂.id.trans hid) ((hu.same hsame₂).rests hr₂) rfl
    (by rintro u ⟨⟩)
  have hr₃ := hr₂.trans hl₃.rests
  have hlogs : σ₃.world.db.sagaLogs = σ.world.db.sagaLogs :=
    hl₃.logs.trans (hl₂.logs.trans hl₁.logs)
  obtain ⟨σ₄, h₄, hl₄⟩ := ends_updateSaga (i := i) (c := c) .confirmSeats .completed none
    hl₃.row (by rw [hlogs]; exact hlog)
    (by rw [hr₃.locked]; exact hl)
  rw [hlogs] at hl₄
  refine ⟨σ₄, _, ?_, .of_rests hr₃ hl₄, rfl⟩
  exact (ends_findOwned hrow).bind (h₁.bind (h₂.bind (h₃.bind (h₄.bind (ends_ret ())))))

omit hid hu in
theorem ends_confirmPayment_refused (hs : row.status = .confirming) :
    ∃ e σ', Ends i c (confirmPayment b row.userId) σ (.error e) σ' ∧ σ.Rests σ' ∧
      σ'.world.db = σ.world.db := by
  obtain ⟨e, σ', h, hr, hdb⟩ := ends_transition_refused (i := i) (c := c)
    (markConfirmingArgs b) hσ hrow (by rw [hs]; rfl)
  refine ⟨e, σ', (ends_findOwned hrow).bind ?_, hr, hdb⟩
  have hpay : payHeld row b = (pure () : BookingCode Unit) := by
    unfold payHeld
    rw [if_neg (by rw [hs]; exact nofun)]
  rw [hpay]
  exact (ends_ret ()).bind h.bind_error

end Payment

/-- The booking is confirmed, and its saga log tells so. -/
def PaymentDone (b : Uuid) (d : Db) : Prop :=
  (d.bookings b).map Booking.status = some .confirmed ∧
    (d.sagaLogs b .createPayment).map SagaLog.status = some .completed ∧
    (d.sagaLogs b .confirmSeats).map SagaLog.status = some .completed

section PaymentSuccess

variable {e : PaymentSuccess} (hσ : σ.Tidy)

include hσ

theorem ends_paymentSkipped
    (h : ∀ row, σ.world.db.bookings e.bookingId = some row → payable row.status = false) :
    ∃ σ', Ends i c (paymentSuccessTransaction e) σ (.ok ()) σ' ∧ σ'.world.db = σ.world.db := by
  have hr₀ : σ.Rests (σ.moveTo σ.world (σ.next + 1)) := Shared.rests_moveTo _ (Nat.le_succ _)
  obtain ⟨t₁, h₁, ht₁, hw₁⟩ := exists_findById (c := c) (h := σ.next) (b := e.bookingId)
    (Shared.holds_start (σ := σ.moveTo σ.world (σ.next + 1)) i Site.paymentSuccess) rfl
  refine ⟨_, ends_transaction hσ hr₀ ht₁ (h₁.bind ?_), ?_⟩
  · cases hrow : σ.world.db.bookings e.bookingId with
    | none =>
      rw [show (Tx.view (Tx.start i Site.paymentSuccess)
        (σ.moveTo σ.world (σ.next + 1)).world.db).bookings e.bookingId = none from hrow]
      exact ends_ret ()
    | some row =>
      rw [show (Tx.view (Tx.start i Site.paymentSuccess)
        (σ.moveTo σ.world (σ.next + 1)).world.db).bookings e.bookingId = some row from hrow]
      simp only [h row hrow, Bool.not_false, if_true]
      exact ends_ret ()
  · change t₁.view σ.world.db = σ.world.db
    rw [view_eq, hw₁]
    rfl

section Payable

variable (hrow : σ.world.db.bookings e.bookingId = some row) (hpay : payable row.status = true)
  (hlogs : ∀ step, (σ.world.db.sagaLogs e.bookingId step).isSome)
  (hl : ∀ step, σ.locked (.saga e.bookingId step) = none)

def payingTx (i : Nat) (b : Uuid) (row : Booking) : BookingTx :=
  ((Tx.start (V := bookingService) i .paymentSuccess).record (.findById b) (some row) [] []).record
    (.updateSaga b .createPayment .completed none) ⟨.completed, none⟩
    [.saga b .createPayment ⟨.completed, none⟩] []

omit hσ in
include hrow hpay hlogs hl in
theorem ends_paying {r : Except Err Unit} {h : Nat}
    (hrest : Ends i c (do
      confirmPayment e.bookingId row.userId
      let _ ← updateSaga (some h) e.bookingId .confirmSeats .completed none
      pure ()) (σ.put h (payingTx i e.bookingId row)) r σ') :
    Ends i c (do
      let found ← findById (some h) e.bookingId
      match found with
      | none => pure ()
      | some booking =>
        if !payable booking.status then pure ()
        else do
          let _ ← updateSaga (some h) e.bookingId .createPayment .completed none
          confirmPayment e.bookingId booking.userId
          let _ ← updateSaga (some h) e.bookingId .confirmSeats .completed none
          pure ()) (σ.put h (Tx.start i .paymentSuccess)) r σ' := by
  have h₁ : Ends i c (findById (some h) e.bookingId) (σ.put h (Tx.start i .paymentSuccess))
      (.ok (some row)) (σ.put h ((Tx.start (V := bookingService) i .paymentSuccess).record
        (.findById e.bookingId) (some row) [] [])) :=
    ends_inside (Shared.holds_start i _) (congrArg (fun r => Except.ok (r, [], [])) hrow)
      (by simp [Tx.rowKeys])
  refine h₁.bind ?_
  simp only [hpay, Bool.not_true, Bool.false_eq_true, if_false]
  have h₂ : Ends i c (updateSaga (some h) e.bookingId .createPayment .completed none)
      (σ.put h ((Tx.start (V := bookingService) i .paymentSuccess).record
        (.findById e.bookingId) (some row) [] [])) (.ok ⟨.completed, none⟩)
      (σ.put h (payingTx i e.bookingId row)) :=
    ends_inside ((Shared.holds_start i _).record (by simp [Tx.rowKeys]))
      (run_updateSaga (hlogs .createPayment)) (by simpa [Tx.rowKeys, Write.keys] using hl _)
  exact h₂.bind hrest

omit hσ in
theorem payingTx_locks (i : Nat) (b : Uuid) (row : Booking) :
    (payingTx i b row).locks = [.saga b .createPayment] := rfl

omit hσ in
include hl in
theorem holds_paying : σ.Holds i (payingTx i e.bookingId row) := by
  refine ⟨rfl, fun k hk => ?_⟩
  rw [payingTx_locks] at hk
  rw [List.mem_singleton.mp hk]
  exact hl .createPayment

omit hσ in
theorem locked_paying {h : Nat} {k : Key} (hk : k ≠ .saga e.bookingId .createPayment) :
    (σ.put h (payingTx i e.bookingId row)).locked k = σ.locked k := by
  simp [Shared.put, payingTx_locks, hk]

omit hσ in
theorem unlocked_paying {h : Nat} (hu : Unlocked σ row) :
    Unlocked (σ.put h (payingTx i e.bookingId row)) row :=
  ⟨(locked_paying (by simp)).trans hu.booking, (locked_paying (by simp)).trans hu.pnr⟩

variable (hid : row.id = e.bookingId) (hu : Unlocked σ row)

include hrow hlogs hl hid hu in
theorem ends_paid (hs : row.status = .seatsHeld ∨ row.status = .paymentPending) :
    ∃ σ', Ends i c (paymentSuccessTransaction e) σ (.ok ()) σ' ∧
      PaymentDone e.bookingId σ'.world.db := by
  have hr₀ : σ.Rests (σ.moveTo σ.world (σ.next + 1)) := Shared.rests_moveTo _ (Nat.le_succ _)
  have hpay : payable row.status = true := by
    obtain hs | hs := hs <;> rw [hs] <;> rfl
  obtain ⟨σ₁, row₁, h₁, hl₁, hs₁⟩ := ends_confirmPayment (i := i) (c := c)
    (σ := (σ.moveTo σ.world (σ.next + 1)).put σ.next (payingTx i e.bookingId row))
    (Shared.tidy_put (hr₀.tidy hσ) (Nat.lt_succ_self _)) hrow hid (unlocked_paying (hu.rests hr₀))
    (hlogs .confirmSeats) ((locked_paying (by simp)).trans (hl .confirmSeats)) hs
  have hput := hl₁.rests.eq_put
  have hr₁ : σ.Rests (σ.moveTo σ₁.world σ₁.next) :=
    Shared.rests_moveTo _ (Nat.le_trans (Nat.le_succ _) hl₁.rests.next)
  have hlog : (((payingTx i e.bookingId row).view σ₁.world.db).sagaLogs e.bookingId
      .confirmSeats).isSome := by
    change (putSagaLog σ₁.world.db.sagaLogs (e.bookingId, .createPayment, ⟨.completed, none⟩)
      e.bookingId .confirmSeats).isSome
    rw [hl₁.logs]
    simp [putSagaLog]
  obtain ⟨t₂, h₂, ht₂, hw₂⟩ := exists_inside (c := c) (h := σ.next)
    (q := Sql.updateSaga e.bookingId .confirmSeats .completed none)
    (σ := (σ.moveTo σ₁.world σ₁.next)) (holds_paying hl) (run_updateSaga hlog)
    (by simpa [Tx.rowKeys, Write.keys, Shared.moveTo] using hl .confirmSeats)
  rw [hput] at h₁
  refine ⟨_, ends_transaction hσ hr₁ ht₂ (ends_paying (σ := σ.moveTo σ.world (σ.next + 1))
    hrow hpay hlogs hl (h₁.bind (h₂.bind (ends_ret ())))), ?_⟩
  change PaymentDone e.bookingId (t₂.view σ₁.world.db)
  have hw : t₂.writes = [.saga e.bookingId .createPayment ⟨.completed, none⟩,
    .saga e.bookingId .confirmSeats ⟨.completed, none⟩] := hw₂
  rw [view_eq, hw]
  refine ⟨?_, ?_, ?_⟩
  · change (σ₁.world.db.bookings e.bookingId).map Booking.status = _
    rw [hl₁.row, Option.map_some, hs₁]
  · simp [applyAll, Write.apply]
  · simp [applyAll, Write.apply]

include hrow hlogs hl in
theorem ends_paymentStuck (hs : row.status = .confirming) :
    ∃ x σ', Ends i c (paymentSuccessTransaction e) σ (.error x) σ' ∧ σ'.world.db = σ.world.db := by
  have hr₀ : σ.Rests (σ.moveTo σ.world (σ.next + 1)) := Shared.rests_moveTo _ (Nat.le_succ _)
  have hpay : payable row.status = true := by rw [hs]; rfl
  obtain ⟨x, σ₁, h₁, hr₁, hdb⟩ := ends_confirmPayment_refused (i := i) (c := c)
    (σ := (σ.moveTo σ.world (σ.next + 1)).put σ.next (payingTx i e.bookingId row))
    (Shared.tidy_put (hr₀.tidy hσ) (Nat.lt_succ_self _)) hrow hs
  have hput := hr₁.eq_put
  have hr : σ.Rests (σ.moveTo σ₁.world σ₁.next) :=
    Shared.rests_moveTo _ (Nat.le_trans (Nat.le_succ _) hr₁.next)
  rw [hput] at h₁
  exact ⟨x, _, ends_rolledBack hσ hr (holds_paying hl)
    (ends_paying (σ := σ.moveTo σ.world (σ.next + 1)) hrow hpay hlogs hl h₁.bind_error), hdb⟩

end Payable

end PaymentSuccess

section Delivery

variable {key : SagaKey} {work : BookingCode Unit} {P : Db → Prop}

theorem ends_reserveIfNew (granted : Bool)
    (h : (σ.world.env.saga.get σ.world.env.now key).isNone = granted) :
    ∃ w, Ends i c (reserveIfNew key) σ (.ok granted) (σ.moveTo w σ.next) ∧ w.db = σ.world.db := by
  have hr : (Redis.reserveIfNew σ.world.env.leases σ.world.env.saga σ.world.env.now key).1 =
      granted := by
    rw [← h]
    unfold Redis.reserveIfNew Redis.Store.setNx
    cases σ.world.env.saga.get σ.world.env.now key <;> rfl
  have he : Ends i c (reserveIfNew key) σ (.ok (Redis.reserveIfNew σ.world.env.leases
    σ.world.env.saga σ.world.env.now key).1) _ := ends_aux rfl
  rw [hr] at he
  exact ⟨_, he, rfl⟩

theorem ends_reserved (h : σ.world.env.saga.get σ.world.env.now key = none)
    (hwork : ∀ w : BookingWorld, w.db = σ.world.db →
      ∃ r σ', Ends i c work (σ.moveTo w σ.next) r σ' ∧ P σ'.world.db) :
    ∃ r σ', Ends i c (reserved key work) σ r σ' ∧ P σ'.world.db := by
  obtain ⟨w, h₁, hdb⟩ := ends_reserveIfNew (i := i) (c := c) true (by rw [h]; rfl)
  obtain ⟨r, σ₂, h₂, hP⟩ := hwork w hdb
  have hmark : Ends i c (markProcessed key) σ₂ (.ok ()) _ := ends_aux rfl
  have hrelease : Ends i c (release key) σ₂ (.ok ()) _ := ends_aux rfl
  cases r with
  | ok a =>
    have hend : Ends i c (reserved key work) σ (.ok true) _ :=
      h₁.bind ((h₂.bind hmark).attempt.bind (ends_ret true))
    exact ⟨_, _, hend, hP⟩
  | error x =>
    have hend : Ends i c (reserved key work) σ (.error x) _ :=
      h₁.bind (h₂.bind_error.attempt_error (hrelease.bind (ends_raise x))).bind_error
    exact ⟨_, _, hend, hP⟩

theorem ends_reserved_refused (work : BookingCode Unit) {v : Redis.IdempotencyState}
    (h : σ.world.env.saga.get σ.world.env.now key = some v) :
    ∃ σ', Ends i c (reserved key work) σ (.ok false) σ' ∧ σ'.world.db = σ.world.db := by
  obtain ⟨w, h₁, hdb⟩ := ends_reserveIfNew (i := i) (c := c) false (by rw [h]; rfl)
  exact ⟨_, h₁.bind (ends_ret false), hdb⟩

theorem ends_delivered {e : PaymentSuccess} {r : Except Err Unit}
    (h : Ends i c (handlePaymentSuccess e) σ r σ') :
    ∃ r' σ'', Ends i c (body (.paymentSuccess (.event e))) σ r' σ'' ∧
      σ''.world.db = σ'.world.db := by
  obtain ⟨σ₁, hbeat, hdb⟩ : ∃ σ₁, Ends i c consumer.heartbeat σ' (.ok ()) σ₁ ∧
      σ₁.world.db = σ'.world.db :=
    ⟨_, ends_aux (V := bookingService) (a := .heartbeat) rfl, rfl⟩
  cases r with
  | ok a =>
    have hend : Ends i c (body (.paymentSuccess (.event e))) σ (.ok .done) σ₁ :=
      (h.ensure hbeat).attempt.bind (ends_ret Out.done)
    exact ⟨_, _, hend, hdb⟩
  | error x =>
    have hensure := h.ensure_error hbeat
    by_cases hx : x.isNonRetryable = true
    · obtain ⟨σ₂, hdlq, hdb₂⟩ : ∃ σ₂, Ends i c consumer.sendToDlq σ₁ (.ok ()) σ₂ ∧
          σ₂.world.db = σ₁.world.db :=
        ⟨_, ends_aux (V := bookingService) (a := .sendToDlq) rfl, rfl⟩
      have hcatch : Ends i c (if !x.isNonRetryable then Program.raise x else consumer.sendToDlq)
          σ₁ (.ok ()) σ₂ := by
        simpa [hx] using hdlq
      have hend : Ends i c (body (.paymentSuccess (.event e))) σ (.ok .done) σ₂ :=
        (hensure.attempt_error hcatch).bind (ends_ret Out.done)
      exact ⟨_, _, hend, hdb₂.trans hdb⟩
    · have hcatch : Ends i c (if !x.isNonRetryable then Program.raise x else consumer.sendToDlq)
          σ₁ (.error x) σ₁ := by
        simpa [hx] using ends_raise (V := bookingService) x
      have hend : Ends i c (body (.paymentSuccess (.event e))) σ (.error x) σ₁ :=
        (hensure.attempt_error hcatch).bind_error
      exact ⟨_, _, hend, hdb⟩

end Delivery

section CancelBooking

/-- A cancellation from `CONFIRMED` or `SEATS_HELD` goes through, any other is refused
and changes nothing. -/
theorem ends_cancelBooking (hσ : σ.Tidy) (hrow : σ.world.db.bookings b = some row)
    (hid : row.id = b) (hu : Unlocked σ row) :
    ∃ r σ', Ends i c (body (.cancelBooking b row.userId)) σ r σ' ∧
      if row.status = .confirmed ∨ row.status = .seatsHeld then
        (σ'.world.db.bookings b).map Booking.status = some .cancelled
      else σ'.world.db = σ.world.db := by
  split
  · next hs =>
    obtain ⟨σ₁, h₁, hl₁⟩ := ends_transition (i := i) (c := c) (markCancellingArgs b) hσ hrow
      hid hu (by obtain hs | hs := hs <;> rw [hs] <;> rfl) (by rintro u ⟨⟩)
    obtain ⟨σ₂, h₂, hl₂⟩ := ends_transition (i := i) (c := c) (markCancelledArgs b)
      (hl₁.rests.tidy hσ) hl₁.row hid ((hu.same (TransitionArgs.moved_same _ row)).rests hl₁.rests)
      rfl (by rintro u ⟨⟩)
    have hend : Ends i c (body (.cancelBooking b row.userId)) σ (.ok .done) σ₂ :=
      ((ends_findOwned hrow).bind (h₁.bind h₂)).bind (ends_ret Out.done)
    exact ⟨_, _, hend, congrArg (Option.map Booking.status) hl₂.row⟩
  · next hs =>
    obtain ⟨e, σ', h, -, hdb⟩ := ends_transition_refused (i := i) (c := c)
      (markCancellingArgs b) hσ hrow
      (by revert hs; cases row.status <;> simp [markCancellingArgs, TransitionArgs.permits,
        TransitionArgs.permittedStates])
    have hend : Ends i c (body (.cancelBooking b row.userId)) σ (.error e) σ' :=
      ((ends_findOwned hrow).bind h.bind_error).bind_error
    exact ⟨_, _, hend, hdb⟩

end CancelBooking

end Alone

section SagaRows

def SagaRows (w : BookingWorld) : Prop :=
  ∀ b row, w.db.bookings b = some row → ∀ step, (w.db.sagaLogs b step).isSome

theorem putSagaLog_isSome (f : Uuid → SagaStep → Option SagaLog) (x : Uuid × SagaStep × SagaLog)
    {b : Uuid} {step : SagaStep} (h : (f b step).isSome) : (putSagaLog f x b step).isSome := by
  unfold putSagaLog
  by_cases hb : b = x.1
  · subst hb
    rw [Function.update_self]
    by_cases hs : step = x.2.1
    · subst hs
      rw [Function.update_self]
      rfl
    · rw [Function.update_of_ne hs]
      exact h
  · rw [Function.update_of_ne hb]
    exact h

theorem sagaLogs_isSome (w : BookingWorld) (c : Call) (t : BookingTx) {step : SagaStep}
    (h : (w.db.sagaLogs b step).isSome) : ((w.commit c t).db.sagaLogs b step).isSome := by
  change ((t.view w.db).sagaLogs b step).isSome
  rw [view_eq, applyAll_sagaLogs]
  generalize w.db.sagaLogs = f at h
  induction t.writes.filterMap Write.sagaLog? generalizing f with
  | nil => exact h
  | cons x xs ih => exact ih _ (putSagaLog_isSome f x h)

theorem keeps_sagaRows : Keeps (discipline fun _ => False) allRuns SagaRows where
  commit w c t hi _ hc _ _ h := by
    intro b row hrow step
    have hr := hc.rowChange hi b
    change (t.view w.db).bookings b = some row at hrow
    rw [hrow] at hr
    generalize hold : w.db.bookings b = old at hr
    cases hr with
    | same | annotated | moved => exact sagaLogs_isSome w c t (h b _ hold step)
    | created hsite _ _ hid _ =>
      cases hc with
      | created x _ hw _ _ _ _ _ _ _ _ =>
        have hb : b = x.bookingId := by
          by_contra hne
          rw [bookings_created hw, Function.update_of_ne hne, hold] at hrow
          cases hrow
        subst hb
        change ((t.view w.db).sagaLogs x.bookingId step).isSome
        rw [view_eq, hw]
        cases step <;> simp [Insertion.writes, applyAll, Write.apply]
      | replayed _ hw =>
        rw [view_eq, hw] at hrow
        exact absurd (hold.symm.trans hrow) (by simp)
      | transition _ hs | recorded hs | heldSkipped hs | held hs | holdFailedSkipped hs
      | holdFailed hs | holdFailedBeaten hs | holdExpiredSkipped hs | holdExpired hs
      | holdExpiredBeaten hs | paymentMissing hs | paymentSkipped hs | paid hs =>
        rw [hsite] at hs
        cases hs
  drift _ _ _ h := h

end SagaRows

/-- A new call that nothing fails and nobody disturbs ends and leaves `P`. -/
def Finishes (p : Pool machine) (c : Call) (P : Db → Prop) : Prop :=
  ∃ r σ', p.serve c = some (r, σ') ∧ P σ'.world.db

def Cancelled (b : Uuid) (d : Db) : Prop :=
  (d.bookings b).map Booking.status = some .cancelled

/-- From `p₀` on, call `c` has been started again and again, and each time it has
crashed or raised an error. Its transactions are gone. -/
structure Attempts (c : Call) (s : Settings) (p₀ p : Pool machine) : Prop where
  before : Reachable allRuns s.pool p₀
  calls : Reachable (Scope.calls (fun c' => c' = c)) p₀ p
  broken : ∀ x ∈ p.threads.drop p₀.threads.length, x.broken = true
  quiet : p.shared.Quiet

section Restart

variable {s : Settings} {p₀ p : Pool machine} {P : Db → Prop}

theorem finishes_iff {r : Except Err Out} (h : p.serve c = some (r, σ')) :
    Finishes p c P ↔ P σ'.world.db := by
  constructor
  · rintro ⟨r', σ'', h', hP⟩
    rw [h] at h'
    cases h'
    exact hP
  · exact fun hP => ⟨r, σ', h, hP⟩

theorem Attempts.reachable (h : Attempts c s p₀ p) : Reachable allRuns s.pool p :=
  h.before.trans (h.calls.mono (fun _ _ _ => trivial) (fun p a _ => permits_calls p a))

/-- What a call finds where nothing else runs. -/
structure Found (p : Pool machine) : Prop where
  tidy : p.shared.Tidy
  unlocked : ∀ k, p.shared.locked k = none
  inv : Inv p.world
  sagaRows : SagaRows p.world

theorem Attempts.found (h : Attempts c s p₀ p) : Found p := by
  have hwf := reachable_wellFormed allRuns_within h.reachable
  have hheld := h.reachable.held (held_init _ _)
  exact ⟨h.quiet.tidy hwf.coherent hheld, h.quiet.unlocked hwf.coherent hheld, hwf.inv,
    reachable_keeps allRuns_within h.reachable keeps_sagaRows (fun _ _ hb => nomatch hb)⟩

/-- The booking has not yet come to `CONFIRMING`. -/
def Ready (b : Uuid) (d : Db) : Prop :=
  ∃ row, d.bookings b = some row ∧ (row.status = .seatsHeld ∨ row.status = .paymentPending)

/-- The event can still be worked on, and its booking is ready. -/
def Confirmable (p : Pool machine) (e : PaymentSuccess) : Prop :=
  p.world.env.saga.get p.world.env.now (.paymentSuccess e.eventId) ≠ some .processed ∧
    Ready e.bookingId p.world.db

def PaymentOutcome (b : Uuid) (d d' : Db) : Prop :=
  (Ready b d ∧ PaymentDone b d') ∨ (¬ Ready b d ∧ d' = d)

theorem ends_paymentWork {e : PaymentSuccess} (h : Found p) {w : BookingWorld}
    (hdb : w.db = p.world.db) :
    ∃ r σ', Ends i c (paymentSuccessTransaction e) (p.shared.moveTo w p.shared.next) r σ' ∧
      PaymentOutcome e.bookingId p.world.db σ'.world.db := by
  have hr : p.shared.Rests (p.shared.moveTo w p.shared.next) :=
    Shared.rests_moveTo w (Nat.le_refl _)
  have hσ := hr.tidy h.tidy
  by_cases hpay : ∃ row, p.world.db.bookings e.bookingId = some row ∧ payable row.status = true
  · obtain ⟨row, hrow, hpay⟩ := hpay
    have hrow' : (p.shared.moveTo w p.shared.next).world.db.bookings e.bookingId = some row := by
      rw [← hrow, ← hdb]
      rfl
    have hlogs : ∀ step, ((p.shared.moveTo w p.shared.next).world.db.sagaLogs e.bookingId
        step).isSome := by
      intro step
      have hsome := h.sagaRows e.bookingId row hrow step
      rw [← hdb] at hsome
      exact hsome
    have hl : ∀ step, (p.shared.moveTo w p.shared.next).locked (.saga e.bookingId step) = none :=
      fun step => h.unlocked _
    by_cases hs : row.status = .seatsHeld ∨ row.status = .paymentPending
    · obtain ⟨σ', hend, hdone⟩ := ends_paid (i := i) (c := c) hσ hrow' hlogs hl
        (h.inv.id _ _ hrow) ⟨h.unlocked _, h.unlocked _⟩ hs
      exact ⟨_, σ', hend, .inl ⟨⟨row, hrow, hs⟩, hdone⟩⟩
    · have hconf : row.status = .confirming := by
        revert hs hpay
        cases row.status <;> simp [payable]
      obtain ⟨x, σ', hend, hsame⟩ := ends_paymentStuck (i := i) (c := c) hσ hrow' hlogs hl hconf
      refine ⟨_, σ', hend, .inr ⟨?_, hsame.trans hdb⟩⟩
      rintro ⟨row', hrow'', hs'⟩
      obtain rfl := Option.some.inj (hrow.symm.trans hrow'')
      exact hs hs'
  · obtain ⟨σ', hend, hsame⟩ := ends_paymentSkipped (i := i) (c := c) (e := e) hσ (fun row hrow => by
      by_contra hne
      rw [Bool.not_eq_false] at hne
      change w.db.bookings e.bookingId = some row at hrow
      rw [hdb] at hrow
      exact hpay ⟨row, hrow, hne⟩)
    refine ⟨_, σ', hend, .inr ⟨?_, hsame.trans hdb⟩⟩
    rintro ⟨row, hrow, hs⟩
    refine hpay ⟨row, hrow, ?_⟩
    obtain hs | hs := hs <;> rw [hs] <;> rfl

theorem finishes_payment_iff {e : PaymentSuccess} (h : Found p)
    (hlapsed : p.world.env.saga.get p.world.env.now (.paymentSuccess e.eventId) ≠
      some .processing) :
    Finishes p (.paymentSuccess (.event e)) (PaymentDone e.bookingId) ↔
      Confirmable p e ∨ PaymentDone e.bookingId p.world.db := by
  have hserve : ∀ {r σ'}, Ends p.threads.length (.paymentSuccess (.event e))
      (reserved (.paymentSuccess e.eventId) (paymentSuccessTransaction e)) p.shared r σ' →
      (Finishes p (.paymentSuccess (.event e)) (PaymentDone e.bookingId) ↔
        PaymentDone e.bookingId σ'.world.db) := by
    intro r σ' hr
    have hhandle : ∃ r', Ends p.threads.length (.paymentSuccess (.event e)) (handlePaymentSuccess e)
        p.shared r' σ' := by
      cases r with
      | ok a => exact ⟨_, hr.bind (ends_ret ())⟩
      | error x => exact ⟨_, hr.bind_error⟩
    obtain ⟨r', hhandle⟩ := hhandle
    obtain ⟨r'', σ'', hend, hdb⟩ := ends_delivered hhandle
    rw [finishes_iff hend, hdb]
  cases hk : p.world.env.saga.get p.world.env.now (.paymentSuccess e.eventId) with
  | some v =>
    obtain ⟨σ', hend, hdb⟩ := ends_reserved_refused (i := p.threads.length)
      (c := .paymentSuccess (.event e)) (paymentSuccessTransaction e) hk
    have hv : v = .processed := by
      cases v with
      | processing => exact absurd hk hlapsed
      | processed => rfl
    rw [hserve hend, hdb]
    refine ⟨.inr, fun hor => hor.resolve_left fun hc => hc.1 (hk.trans (congrArg some hv))⟩
  | none =>
    obtain ⟨r, σ', hend, hwork⟩ := ends_reserved (P := PaymentOutcome e.bookingId p.world.db) hk
      fun w hdb => ends_paymentWork (i := p.threads.length) (c := .paymentSuccess (.event e)) h hdb
    rw [hserve hend]
    obtain ⟨hrow, hdone⟩ | ⟨hrow, hdb⟩ := hwork
    · refine ⟨fun _ => .inl ⟨?_, hrow⟩, fun _ => hdone⟩
      rw [hk]
      exact nofun
    · rw [hdb]
      exact ⟨.inr, fun hor => hor.resolve_left fun hc => hrow hc.2⟩

theorem finishes_cancel_iff {b : Uuid} {row : Booking} (h : Found p)
    (hrow : p.world.db.bookings b = some row) :
    Finishes p (.cancelBooking b row.userId) (Cancelled b) ↔
      row.status = .confirmed ∨ row.status = .seatsHeld ∨ row.status = .cancelled := by
  obtain ⟨r, σ', hend, hout⟩ := ends_cancelBooking (i := p.threads.length)
    (c := .cancelBooking b row.userId) h.tidy hrow (h.inv.id _ _ hrow)
    ⟨h.unlocked _, h.unlocked _⟩
  rw [finishes_iff hend]
  split at hout
  · next hs =>
    exact ⟨fun _ => hs.elim .inl (.inr ∘ .inl), fun _ => hout⟩
  · next hs =>
    rw [not_or] at hs
    have hrow' : p.shared.world.db.bookings b = some row := hrow
    rw [hout, Cancelled, hrow']
    simp [hs.1, hs.2]

/-- Deliveries of a payment's success for a booking that a payment confirms, and the
last lease of the event has lapsed. -/
structure PaymentAttempts (e : PaymentSuccess) (s : Settings) (p₀ p : Pool machine) : Prop where
  start : ∃ row, p₀.world.db.bookings e.bookingId = some row ∧ payable row.status = true
  attempts : Attempts (.paymentSuccess (.event e)) s p₀ p
  lapsed : p.world.env.saga.get p.world.env.now (.paymentSuccess e.eventId) ≠ some .processing

/-- Cancellations of a confirmed or held booking by its owner. -/
structure CancelAttempts (b : Uuid) (userId : Id) (s : Settings) (p₀ p : Pool machine) : Prop where
  start : ∃ row, p₀.world.db.bookings b = some row ∧ row.userId = userId ∧
    (row.status = .confirmed ∨ row.status = .seatsHeld)
  attempts : Attempts (.cancelBooking b userId) s p₀ p

/-- The booking has not come to `CANCELLING`. -/
def Cancellable (b : Uuid) (d : Db) : Prop :=
  ∃ row, d.bookings b = some row ∧
    (row.status = .confirmed ∨ row.status = .seatsHeld ∨ row.status = .cancelled)

theorem CancelAttempts.owner {b : Uuid} {userId : Id} (h : CancelAttempts b userId s p₀ p) :
    ∃ row, p.world.db.bookings b = some row ∧ row.userId = userId := by
  obtain ⟨row₀, hrow₀, hu, -⟩ := h.start
  have hwf := reachable_wellFormed allRuns_within h.attempts.before
  have hS : (Scope.calls (M := machine) fun c => c = .cancelBooking b userId).Within
      (discipline fun _ => False) := ⟨fun _ _ _ => trivial, fun _ _ _ _ _ _ h => h.elim⟩
  obtain ⟨row, hrow, hsame, -⟩ := Reachable.keeps lawful sound hS hwf
    ((lasting_seen b row₀).keeps _) (seen_of_read hrow₀) h.attempts.calls
  exact ⟨row, hrow, hsame.userId.trans hu⟩

/-- Exactly when an operation that has been cut short, any number of times and
anywhere, is finished by one more undisturbed call: a payment where the booking has
not come to `CONFIRMING`, or all is done; a cancellation where the booking has not
come to `CANCELLING`. -/
theorem resumed_iff {s : Settings} {p₀ p : Pool machine} :
    (∀ e, PaymentAttempts e s p₀ p →
      (Finishes p (.paymentSuccess (.event e)) (PaymentDone e.bookingId) ↔
        Confirmable p e ∨ PaymentDone e.bookingId p.world.db)) ∧
    (∀ b userId, CancelAttempts b userId s p₀ p →
      (Finishes p (.cancelBooking b userId) (Cancelled b) ↔ Cancellable b p.world.db)) := by
  constructor
  · exact fun e h => finishes_payment_iff h.attempts.found h.lapsed
  · intro b userId h
    obtain ⟨row, hrow, rfl⟩ := h.owner
    rw [finishes_cancel_iff h.attempts.found hrow]
    constructor
    · exact fun hs => ⟨row, hrow, hs⟩
    · rintro ⟨row', hrow', hs⟩
      obtain rfl := Option.some.inj (hrow.symm.trans hrow')
      exact hs

end Restart

section Schedules

def samplePaid : PaymentSuccess :=
  ⟨.random ⟨9, 0⟩, sampleBooking, ⟨9, 1⟩, ⟨9, 2⟩, 501, 50000, .client⟩

def sampleAdvanced : List (Move machine) :=
  sampleCreated ++ [.call (.seatsHeld (.event sampleHeld)), .burst 1 30]

def sampleMarked : List (Move machine) :=
  sampleCreated ++ [.call (.markSeatsHeld sampleBooking 600000), .burst 1 20]

def crashing (c : Call) (n : Nat) : List (Move machine) :=
  [.call c, .burst 2 n, .step (.crash 2), .step (.tick 61000)]

def attempted (key : SagaKey) (status₀ status : BookingStatus) (p₀ p : Pool machine) : Bool :=
  decide ((p₀.world.db.bookings sampleBooking).map (fun row => (row.userId, row.status)) =
      some (5, status₀)) &&
    decide ((p.world.db.bookings sampleBooking).map Booking.status = some status) &&
    (p.threads.drop p₀.threads.length).all Thread.broken && decide p.shared.Quiet &&
    decide (p.world.env.saga.get p.world.env.now key = none)

theorem exists_attempts (ms : List (Move machine)) (c : Call) (n : Nat) (key : SagaKey)
    (status₀ status : BookingStatus)
    (h : (sampleSettings.pool.play (fun _ _ => true) ms).any (fun p =>
      (p.play (fun _ _ => true) (crashing c n)).any (attempted key status₀ status p)) = true) :
    ∃ p₀ p, Attempts c sampleSettings p₀ p ∧
      (∃ row, p₀.world.db.bookings sampleBooking = some row ∧ row.userId = 5 ∧
        row.status = status₀) ∧
      (∃ row, p.world.db.bookings sampleBooking = some row ∧ row.status = status) ∧
      p.world.env.saga.get p.world.env.now key = none := by
  obtain ⟨p₀, p, h₀, hp, ht⟩ := exists_reachable_then allRuns (Scope.calls fun c' => c' = c)
    sampleSettings.pool (fun _ _ => true) (fun _ _ => true) ms (crashing c n)
    (attempted key status₀ status) (fun p a _ => permits_calls p a) (fun p a _ => permits_calls p a)
    (fun _ _ _ _ _ => trivial) (by simp [crashing, Move.started]) h
  simp only [attempted, Bool.and_eq_true, decide_eq_true_eq, List.all_eq_true] at ht
  obtain ⟨⟨⟨⟨hst₀, hst⟩, hbroken⟩, hquiet⟩, hkey⟩ := ht
  obtain ⟨row₀, hrow₀, hst₀⟩ := Option.map_eq_some_iff.mp hst₀
  exact ⟨p₀, p, ⟨h₀, hp, hbroken, hquiet⟩,
    ⟨row₀, hrow₀, congrArg Prod.fst hst₀, congrArg Prod.snd hst₀⟩, Option.map_eq_some_iff.mp hst, hkey⟩

set_option maxRecDepth 40000 in
/-- A delivery crashes before its first transition, a cancellation likewise. -/
theorem resumed_iff_crashed :
    (∃ p₀ p, PaymentAttempts samplePaid sampleSettings p₀ p ∧
      Finishes p (.paymentSuccess (.event samplePaid)) (PaymentDone sampleBooking)) ∧
    ∃ p₀ p, CancelAttempts sampleBooking 5 sampleSettings p₀ p ∧
      Finishes p (.cancelBooking sampleBooking 5) (Cancelled sampleBooking) := by
  constructor
  · obtain ⟨p₀, p, hatt, ⟨row₀, hrow₀, -, hst₀⟩, ⟨row, hrow, hst⟩, hkey⟩ := exists_attempts
      sampleAdvanced (.paymentSuccess (.event samplePaid)) 8 (.paymentSuccess samplePaid.eventId)
      .paymentPending .paymentPending (by decide)
    have h : PaymentAttempts samplePaid sampleSettings p₀ p :=
      ⟨⟨row₀, hrow₀, by rw [hst₀]; rfl⟩, hatt, by rw [hkey]; exact nofun⟩
    exact ⟨p₀, p, h, (resumed_iff.1 samplePaid h).mpr
      (.inl ⟨by rw [hkey]; exact nofun, row, hrow, .inr hst⟩)⟩
  · obtain ⟨p₀, p, hatt, ⟨row₀, hrow₀, hu, hst₀⟩, ⟨row, hrow, hst⟩, -⟩ := exists_attempts
      sampleMarked (.cancelBooking sampleBooking 5) 4 (.paymentSuccess samplePaid.eventId)
      .seatsHeld .seatsHeld (by decide)
    have h : CancelAttempts sampleBooking 5 sampleSettings p₀ p :=
      ⟨⟨row₀, hrow₀, hu, .inr hst₀⟩, hatt⟩
    exact ⟨p₀, p, h, (resumed_iff.2 sampleBooking 5 h).mpr ⟨row, hrow, .inr (.inl hst)⟩⟩

set_option maxRecDepth 40000 in
/-- A delivery crashes when it has committed `CONFIRMING`, a cancellation when it has
committed `CANCELLING`. -/
theorem not_resumed :
    (¬ ∀ e s p₀ p, PaymentAttempts e s p₀ p →
      Finishes p (.paymentSuccess (.event e)) (PaymentDone e.bookingId)) ∧
    ¬ ∀ b userId s p₀ p, CancelAttempts b userId s p₀ p →
      Finishes p (.cancelBooking b userId) (Cancelled b) := by
  constructor
  · intro hall
    obtain ⟨p₀, p, hatt, ⟨row₀, hrow₀, -, hst₀⟩, ⟨row, hrow, hst⟩, hkey⟩ := exists_attempts
      sampleAdvanced (.paymentSuccess (.event samplePaid)) 11 (.paymentSuccess samplePaid.eventId)
      .paymentPending .confirming (by decide)
    have hlapsed : p.world.env.saga.get p.world.env.now (.paymentSuccess samplePaid.eventId) ≠
        some .processing := by
      rw [hkey]
      exact nofun
    have hfin := hall samplePaid _ p₀ p ⟨⟨row₀, hrow₀, by rw [hst₀]; rfl⟩, hatt, hlapsed⟩
    obtain ⟨-, row', hrow', hs⟩ | ⟨hdone, -⟩ := (finishes_payment_iff hatt.found hlapsed).mp hfin
    · obtain rfl := Option.some.inj (hrow.symm.trans hrow')
      rw [hst] at hs
      simp at hs
    · rw [show p.world.db.bookings samplePaid.bookingId = some row from hrow, Option.map_some, hst]
        at hdone
      cases hdone
  · intro hall
    obtain ⟨p₀, p, hatt, ⟨row₀, hrow₀, hu, hst₀⟩, ⟨row, hrow, hst⟩, -⟩ := exists_attempts
      sampleMarked (.cancelBooking sampleBooking 5) 7 (.paymentSuccess samplePaid.eventId)
      .seatsHeld .cancelling (by decide)
    have h : CancelAttempts sampleBooking 5 sampleSettings p₀ p :=
      ⟨⟨row₀, hrow₀, hu, .inr hst₀⟩, hatt⟩
    obtain ⟨row', hrow', hu'⟩ := h.owner
    obtain rfl := Option.some.inj (hrow.symm.trans hrow')
    have hfin := hall sampleBooking 5 _ p₀ p h
    rw [← hu', finishes_cancel_iff hatt.found hrow, hst] at hfin
    simp at hfin

end Schedules
end RailwayBooking.BookingService
