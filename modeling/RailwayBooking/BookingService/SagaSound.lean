import RailwayBooking.Kafka.DlqSound
import RailwayBooking.BookingService.OperationsSound

namespace RailwayBooking.BookingService

open Concurrency

variable {strict : SagaKey → Prop} {i : Nat} {c : Call} {ts : Stack bookingService} {w : BookingWorld}

theorem settled_commit {key : SagaKey} {t : BookingTx} (w : BookingWorld) (hk : c.key = some key)
    (hsite : t.site = key.site) : Settled key (w.commit c t) :=
  ⟨c, t, List.mem_append_right _ List.mem_cons_self, hk, hsite⟩

section Transactions

variable {h : Nat} {t : BookingTx}

theorem ok_updatePassenger {b : Uuid} {u : SeatUpdate} {F : BookingWorld → Prop}
    (hF : Lasting (discipline strict) F) (hw : F w) :
    OkIn strict i c (fun _ ts' w => F w ∧ ∃ n : Nat,
        ts' = (h, t.record (.updatePassenger b u) n [.enrich b u] []) :: ts) h ts
      (do
        let _ ← Code.sql (V := bookingService) (some h) (.updatePassenger b u)
        pure ()) t w := by
  refine Ok.seq (Ok.sql lawful F (hF.stable _ i _) hw fun w' _ _ hw' _ a ws ks hr => ?_)
  cases hr
  exact ⟨hw', _, rfl⟩

theorem ok_updatePassengers {b : Uuid} {F : BookingWorld → Prop} (hF : Lasting (discipline strict) F)
    (us : List SeatUpdate) (hw : F w) :
    OkIn strict i c (fun _ ts' w => F w ∧ ∃ t', ts' = (h, t') :: ts ∧ t'.owner = t.owner ∧
        t'.site = t.site ∧ t'.writes = t.writes ++ us.map (.enrich b) ∧
        ∀ q a, t.Answered q a → t'.Answered q a) h ts
      (updatePassengers (some h) b us) t w := by
  induction us generalizing t w with
  | nil => exact ⟨hw, t, rfl, rfl, rfl, by simp, fun _ _ ha => ha⟩
  | cons u us ih =>
    refine Ok.handle ?_ (fun _ _ _ hx => hx) (ok_updatePassenger hF hw)
    rintro _ ts' w' ⟨hw', n, rfl⟩
    refine Ok.mono ?_ (fun _ _ _ hx => hx) (ih hw')
    rintro _ ts' w'' ⟨hw'', t', rfl, howner, hsite, hwrites, hans⟩
    exact ⟨hw'', t', rfl, howner, hsite, by simp [hwrites], fun q a ha => hans q a (ha.record _ _ _ _)⟩

/-- The swap of a status that was read in the same transaction: it takes effect on
the row that was read, or a later version is in its place. -/
theorem ok_swap {b : Uuid} {read : Booking} {status : BookingStatus}
    {Q : Bool → Stack bookingService → BookingWorld → Prop} (hseen : Seen b read w)
    (hrows : t.writes.filterMap Write.row? = [])
    (hwon : ∀ w' row, Inv w' → w'.db.bookings b = some row → row.version = read.version →
      row.status = read.status → Q true ((h, t.record (.updateStatus b status (read.version + 1)) true
        [.booking { row with status := status, version := row.version + 1 }] []) :: ts) w')
    (hlost : ∀ w' row, Inv w' → Seen b row w' → read.version < row.version →
      Q false ((h, t.record (.updateStatus b status (read.version + 1)) false [] []) :: ts) w') :
    OkIn strict i c Q h ts (updateStatus (some h) b status (read.version + 1)) t w := by
  refine ok_updateStatus _ ((lasting_seen b read).stable _ i _) hseen ?_ ?_
  · intro w' row hi hseen hrow hlt
    rw [rows_none hrows] at hrow
    obtain ⟨row', hrow', -, hle, hst⟩ := hseen
    obtain rfl : row' = row := Option.some.inj (hrow'.symm.trans hrow)
    have hver : row'.version = read.version := by omega
    rw [show read.version + 1 = row'.version + 1 by rw [hver]]
    have hq := hwon w' row' hi hrow' hver (hst hver)
    rwa [← hver] at hq
  · intro w' hi hseen hge
    obtain ⟨row, hrow, -⟩ := hseen
    have hlt : read.version + 1 ≤ row.version := hge row (by rw [rows_none hrows]; exact hrow)
    exact hlost w' row hi (seen_of_read hrow) hlt

theorem view_swapped {b : Uuid} (row : Booking) {row' : Booking} (hid : row.id = b)
    (hwrites : t.writes.filterMap Write.row? = [row])
    (hview : (t.view w.db).bookings b = some row') : row' = row := by
  rw [rows_last [] (b := b) (by simpa using hwrites) (by simp) hid,
    Function.update_self] at hview
  exact (Option.some.inj hview).symm

end Transactions

section Held

variable {e : SeatsHeld}

theorem ok_seatsHeldTransaction :
    OkOut strict i (.seatsHeld (.event e))
      (fun _ ts' w => ts' = ts ∧ Settled (.held e.eventId) w) ts (seatsHeldTransaction e) w := by
  refine Ok.transaction_any lawful fun h w _ _ => ?_
  refine Ok.seq (ok_findById (fun _ => True) (stable_const _ _ _ _) trivial
    fun w₁ found _ _ hfound => ?_)
  cases found with
  | none => exact ⟨rfl, _, rfl⟩
  | some read =>
    dsimp only
    by_cases hpend : read.status = .pending
    · rw [if_neg (by simp [hpend])]
      refine Ok.bind ?_ (ok_updatePassengers (lasting_seen e.bookingId read) (passengersData e)
        (seen_of_read hfound))
      rintro _ ts' w₂ ⟨hseen, t, rfl, howner, hsite, hwrites, hans⟩
      have hans := hans _ _ (Tx.answered_record _ _ _ _ _)
      have hrows : t.writes.filterMap Write.row? = [] := by
        rw [hwrites]
        exact enrich_row _ _
      refine Ok.seq (ok_swap hseen hrows (fun w₃ row hi hrow hver hst => ?_) fun w₃ row _ _ _ => ?_)
      · have hid := hi.id _ _ hrow
        have hs : ∀ ks : List Key, .booking e.bookingId ∈ ks → Stable (discipline strict) i ks
            (fun w => w.db.bookings e.bookingId = some row) := fun ks hk => stable_row _ hk
        refine Ok.seq (ok_update _ (hs _ ?_) hrow fun w₄ row' hi₄ hrow₄ hview hprice => ?_)
        · simp [Tx.rowKeys, Write.keys, hid]
        have hview := view_swapped
          { row with status := .seatsHeld, version := row.version + 1 } hid
          (by simp [List.filterMap_append, hrows, Write.row?]) hview
        subst hview
        refine Ok.seq (ok_updateSaga _ (hs _ ?_) hrow₄ fun w₅ _ hrow₅ => ?_)
        · simp [Tx.rowKeys, Write.keys, hid]
        refine commits_intro _ (hs _ ?_) hrow₅ fun w₆ _ hrow₆ => ⟨?_, rfl, settled_commit w₆ rfl ?_⟩
        · simp [Tx.rowKeys, Write.keys, hid]
        · refine .held hsite hpend (((hans.record _ _ _ _).record _ _ _ _).record _ _ _ _)
            (((Tx.answered_record _ _ _ _ _).record _ _ _ _).record _ _ _ _) hrow₆ hver hst ?_
            (hprice _ rfl)
          simp [hwrites, heldUpdate, Tx.start]
        · exact hsite
      · exact ⟨rfl, _, rfl⟩
    · rw [if_pos hpend]
      exact commits_intro (fun _ => True) (stable_const _ _ _ _) trivial fun w _ _ =>
        ⟨.heldSkipped rfl rfl, rfl, settled_commit w rfl rfl⟩

end Held

section HoldFailed

variable {e : SeatsHoldFailed}

theorem ok_holdFailed_beaten {h : Nat} {t : BookingTx} {read row : Booking}
    (hpend : read.status = .pending) (hseen : Seen e.bookingId row w)
    (hlt : read.version < row.version) (hsite : t.site = .seatsHoldFailed) (hwrites : t.writes = [])
    (hans : t.Answered (.findById e.bookingId) (some read))
    (hlost : t.Answered (.updateStatus e.bookingId .failed (read.version + 1)) false) :
    OkIn strict i (.seatsHoldFailed (.event e))
      (Commits (discipline strict) i (.seatsHoldFailed (.event e)) h ts fun _ ts' w =>
        ts' = ts ∧ Settled (.failed e.eventId) w) h ts
      (do
        let _ ← update (some h) e.bookingId
          { BookingUpdate.nothing with failureReason := some e.message }
        let _ ← updateSaga (some h) e.bookingId .holdSeats .failed (some e.reason.name)
        pure ()) t w := by
  refine Ok.seq (ok_update _ ((lasting_seen _ row).stable _ i _) hseen
    fun w₁ row' hi hseen hrow' _ => ?_)
  rw [rows_none (by rw [hwrites]; rfl)] at hrow'
  have hid := hi.id _ _ hrow'
  have hlt' : read.version < row'.version := by
    obtain ⟨row'', hrow'', -, hle, -⟩ := hseen
    obtain rfl : row'' = row' := Option.some.inj (hrow''.symm.trans hrow')
    omega
  have hs : ∀ ks : List Key, .booking e.bookingId ∈ ks → Stable (discipline strict) i ks
      (fun w => w.db.bookings e.bookingId = some row') := fun ks hk => stable_row _ hk
  refine Ok.seq (ok_updateSaga _ (hs _ ?_) hrow' fun w₂ _ hrow₂ => ?_)
  · simp [Tx.rowKeys, Write.keys, hid]
  refine commits_intro _ (hs _ ?_) hrow₂ fun w₃ _ hrow₃ => ⟨?_, rfl, settled_commit w₃ rfl hsite⟩
  · simp [Tx.rowKeys, Write.keys, hid]
  · refine .holdFailedBeaten hsite hpend ((hans.record _ _ _ _).record _ _ _ _)
      ((hlost.record _ _ _ _).record _ _ _ _) hrow₃ hlt' ?_
    simp [hwrites, failureUpdate]

theorem ok_seatsHoldFailedTransaction :
    OkOut strict i (.seatsHoldFailed (.event e))
      (fun _ ts' w => ts' = ts ∧ Settled (.failed e.eventId) w) ts
      (seatsHoldFailedTransaction e) w := by
  refine Ok.transaction_any lawful fun h w _ _ => ?_
  refine Ok.seq (ok_findById (fun _ => True) (stable_const _ _ _ _) trivial
    fun w₁ found _ _ hfound => ?_)
  cases found with
  | none => exact ⟨rfl, _, rfl⟩
  | some read =>
    dsimp only
    by_cases hpend : read.status = .pending
    · rw [if_pos hpend]
      refine Ok.seq (ok_swap (seen_of_read hfound) rfl (fun w₂ row hi hrow hver hst => ?_)
        fun w₂ row _ hseen hlt => ?_)
      · have hid := hi.id _ _ hrow
        have hs : ∀ ks : List Key, .booking e.bookingId ∈ ks → Stable (discipline strict) i ks
            (fun w => w.db.bookings e.bookingId = some row) := fun ks hk => stable_row _ hk
        refine Ok.seq (ok_update _ (hs _ ?_) hrow fun w₃ row' _ hrow₃ hview _ => ?_)
        · simp [Tx.rowKeys, Write.keys, hid]
        have hview := view_swapped
          { row with status := .failed, version := row.version + 1 } hid rfl hview
        subst hview
        refine Ok.seq (ok_updateSaga _ (hs _ ?_) hrow₃ fun w₄ _ hrow₄ => ?_)
        · simp [Tx.rowKeys, Write.keys, hid]
        refine commits_intro _ (hs _ ?_) hrow₄ fun w₅ _ hrow₅ => ⟨?_, rfl, settled_commit w₅ rfl rfl⟩
        · simp [Tx.rowKeys, Write.keys, hid]
        · refine .holdFailed rfl hpend
            (((Tx.answered_record _ _ _ _ _).record _ _ _ _).record _ _ _ _ |>.record _ _ _ _)
            (((Tx.answered_record _ _ _ _ _).record _ _ _ _).record _ _ _ _) hrow₅ hver hst ?_
          simp [failureUpdate, Tx.start]
      · exact ok_holdFailed_beaten hpend hseen hlt rfl rfl
          ((Tx.answered_record _ _ _ _ _).record _ _ _ _) (Tx.answered_record _ _ _ _ _)
    · rw [if_neg hpend]
      exact commits_intro (fun _ => True) (stable_const _ _ _ _) trivial fun w _ _ =>
        ⟨.holdFailedSkipped rfl rfl, rfl, settled_commit w rfl rfl⟩

end HoldFailed

section HoldExpired

variable {e : SeatHoldExpired}

theorem ok_seatHoldExpiredTransaction :
    OkOut strict i (.seatHoldExpired (.event e))
      (fun _ ts' w => ts' = ts ∧ Settled (.expired e.eventId) w) ts
      (seatHoldExpiredTransaction e) w := by
  refine Ok.transaction_any lawful fun h w _ _ => ?_
  refine Ok.seq (ok_findById (fun _ => True) (stable_const _ _ _ _) trivial
    fun w₁ found _ _ hfound => ?_)
  cases found with
  | none => exact ⟨rfl, _, rfl⟩
  | some read =>
    dsimp only
    by_cases hheld : read.status = .seatsHeld ∨ read.status = .pending
    · rw [if_pos hheld]
      refine Ok.seq (ok_swap (seen_of_read hfound) rfl (fun w₂ row hi hrow hver hst => ?_)
        fun w₂ row _ hseen hlt => ?_)
      · have hid := hi.id _ _ hrow
        have hs : ∀ ks : List Key, .booking e.bookingId ∈ ks → Stable (discipline strict) i ks
            (fun w => w.db.bookings e.bookingId = some row) := fun ks hk => stable_row _ hk
        refine Ok.seq (ok_updateSaga _ (hs _ ?_) hrow fun w₃ _ hrow₃ => ?_)
        · simp [Tx.rowKeys, Write.keys, hid]
        refine commits_intro _ (hs _ ?_) hrow₃ fun w₄ _ hrow₄ => ⟨?_, rfl, settled_commit w₄ rfl rfl⟩
        · simp [Tx.rowKeys, Write.keys, hid]
        · refine .holdExpired rfl hheld
            (((Tx.answered_record _ _ _ _ _).record _ _ _ _).record _ _ _ _)
            ((Tx.answered_record _ _ _ _ _).record _ _ _ _) hrow₄ hver hst ?_
          simp [Tx.start]
      · have hl : Lasting (discipline strict) (Seen e.bookingId row) := lasting_seen _ _
        have hs := fun ks : List Key => hl.stable _ i ks
        refine Ok.seq (ok_updateSaga _ (hs _) hseen fun w₃ _ hseen₃ => ?_)
        refine commits_intro _ (hs _) hseen₃ fun w₄ _ hseen₄ => ⟨?_, rfl, settled_commit w₄ rfl rfl⟩
        obtain ⟨row', hrow', -, hle, -⟩ := hseen₄
        refine .holdExpiredBeaten rfl hheld
          (((Tx.answered_record _ _ _ _ _).record _ _ _ _).record _ _ _ _)
          ((Tx.answered_record _ _ _ _ _).record _ _ _ _) hrow' (by omega) ?_
        simp [Tx.start]
    · rw [if_neg hheld]
      exact commits_intro (fun _ => True) (stable_const _ _ _ _) trivial fun w _ _ =>
        ⟨.holdExpiredSkipped rfl rfl, rfl, settled_commit w rfl rfl⟩

end HoldExpired

section Payment

variable {e : PaymentSuccess}

theorem ok_paymentSuccessTransaction :
    OkOut strict i (.paymentSuccess (.event e))
      (fun _ ts' w => ts' = ts ∧ Settled (.paymentSuccess e.eventId) w) ts
      (paymentSuccessTransaction e) w := by
  refine Ok.transaction_any lawful fun h w _ _ => ?_
  refine Ok.seq (ok_findById (fun _ => True) (stable_const _ _ _ _) trivial
    fun w₁ found _ _ hfound => ?_)
  cases found with
  | none =>
    exact commits_intro (fun _ => True) (stable_const _ _ _ _) trivial fun w _ _ =>
      ⟨.paymentMissing rfl (Tx.answered_record _ _ _ _ _) rfl, rfl, settled_commit w rfl rfl⟩
  | some read =>
    dsimp only
    by_cases hpay : payable read.status = true
    · rw [if_neg (by simp [hpay])]
      refine Ok.seq (ok_updateSaga (fun _ => True) (stable_const _ _ _ _) trivial fun w₂ _ _ => ?_)
      refine Ok.bind ?_ (Ok.mono (fun _ _ _ hq => hq) (fun _ _ _ hx => ⟨hx.1, _, hx.2⟩)
        (ok_confirmPayment (b := e.bookingId) rfl))
      rintro _ ts' w₃ ⟨rfl, hm⟩
      have hl : Lasting (discipline strict) (Moved i e.bookingId .confirmed) := lasting_moved _ _ _
      refine Ok.seq (ok_updateSaga _ (hl.stable _ i _) hm fun w₄ _ hm => ?_)
      exact commits_intro _ (hl.stable _ i _) hm fun w₅ _ hm =>
        ⟨.paid rfl hm rfl, rfl, settled_commit w₅ rfl rfl⟩
    · rw [if_pos (by simpa using hpay)]
      exact commits_intro (fun _ => True) (stable_const _ _ _ _) trivial fun w _ _ =>
        ⟨.paymentSkipped rfl (Tx.answered_record _ _ _ _ _) (by simpa using hpay) rfl, rfl,
          settled_commit w rfl rfl⟩

end Payment

section Handlers

variable {key : SagaKey}

theorem ok_reserveIfNew :
    OkOut strict i c (fun granted ts' w => ts' = ts ∧ (granted = false → strict key → Settled key w)) ts
      (reserveIfNew key) w := by
  refine Ok.aux (fun _ => True) (stable_const _ _ _ _) trivial (fun _ _ => ⟨nofun, nofun⟩)
    fun w' hi _ _ ha ch r e he => ?_
  refine ⟨fun granted hr => ⟨rfl, fun hg hs => ?_⟩,
    fun x hx => ⟨lawful.answer _ _ _ _ _ _ (hx ▸ he), rfl⟩⟩
  subst hr
  have hrefused : (Redis.reserveIfNew w'.env.leases w'.env.saga w'.env.now key).1 = false := by
    have he := Option.some.inj he
    rw [← hg]
    cases ch <;> cases he <;> rfl
  obtain hp | hp := Redis.reserveIfNew_refused hrefused
  · exact ha key hs rfl hp
  · exact hi.processed key hp

theorem ok_reserved {work : BookingCode Unit}
    (h : ∀ w, OkOut strict i c (fun _ ts' w => ts' = ts ∧ Settled key w) ts work w) :
    OkOut strict i c (fun _ ts' w => ts' = ts ∧ (strict key → Settled key w)) ts
      (reserved key work) w := by
  refine Ok.bind ?_ ok_reserveIfNew
  rintro granted ts' w' ⟨rfl, hg⟩
  cases granted with
  | false => exact ⟨rfl, hg rfl⟩
  | true =>
    have hwork : OkOut strict i c (fun _ ts'' w => ts'' = ts' ∧ Settled key w) ts'
        (Program.attempt
          (do
            work
            markProcessed key)
          (fun err => do
            release key
            raise err)) w' := by
      refine Ok.attempt (Ok.bind ?_ (h w')) ?_
      · rintro _ ts₁ w₁ ⟨rfl, hs⟩
        refine Ok.aux_any lawful (lasting_settled key) hs fun w hw => ⟨fun key' hk => ?_, nofun⟩
        cases hk
        exact hw
      · rintro err ts₁ w₁ ⟨he, rfl⟩
        refine Ok.bind ?_ (ok_aux (by simp) lasting_true trivial)
        rintro _ ts₂ w₂ ⟨rfl, -⟩
        exact ⟨he, rfl⟩
    refine Ok.bind ?_ hwork
    rintro _ ts₁ w₁ ⟨rfl, hs⟩
    exact ⟨rfl, fun _ => hs⟩

theorem lasting_strict (key : SagaKey) :
    Lasting (discipline strict) (fun w => strict key → Settled key w) where
  commit w c t hi hp hc hv h hs := (lasting_settled key).commit w c t hi hp hc hv (h hs)
  drift _ _ _ h hs := h hs

theorem ok_handleSeatsHeld {e : SeatsHeld} :
    OkOut strict i (.seatsHeld (.event e))
      (fun _ ts' w => ts' = ts ∧ (strict (.held e.eventId) → Settled (.held e.eventId) w)) ts
      (handleSeatsHeld e) w := by
  refine Ok.bind ?_ (ok_reserved fun _ => ok_seatsHeldTransaction)
  rintro granted ts' w' ⟨rfl, hs⟩
  cases granted with
  | false => exact ⟨rfl, hs⟩
  | true =>
    have hadvance : OkOut strict i (.seatsHeld (.event e)) (fun _ ts'' _ => ts'' = ts') ts'
        (Program.attempt (markPaymentPending e.bookingId (.auto e.bookingId))
          (fun _ => pure ())) w' := by
      refine Ok.attempt (Ok.mono (fun _ _ _ hq => hq.1) (fun _ _ _ hx => hx)
        (ok_transition (.autoAdvance e))) ?_
      rintro err ts₁ w₁ ⟨-, rfl⟩
      exact rfl
    exact hadvance.frame_result lawful (lasting_strict _) hs

theorem ok_handleSeatsHoldFailed {e : SeatsHoldFailed} :
    OkOut strict i (.seatsHoldFailed (.event e))
      (fun _ ts' w => ts' = ts ∧ (strict (.failed e.eventId) → Settled (.failed e.eventId) w)) ts
      (handleSeatsHoldFailed e) w := by
  refine Ok.bind ?_ (ok_reserved fun _ => ok_seatsHoldFailedTransaction)
  rintro _ ts' w' ⟨rfl, hs⟩
  exact ⟨rfl, hs⟩

theorem ok_handleSeatHoldExpired {e : SeatHoldExpired} :
    OkOut strict i (.seatHoldExpired (.event e))
      (fun _ ts' w => ts' = ts ∧ (strict (.expired e.eventId) → Settled (.expired e.eventId) w)) ts
      (handleSeatHoldExpired e) w := by
  refine Ok.bind ?_ (ok_reserved fun _ => ok_seatHoldExpiredTransaction)
  rintro _ ts' w' ⟨rfl, hs⟩
  exact ⟨rfl, hs⟩

theorem ok_handlePaymentSuccess {e : PaymentSuccess} :
    OkOut strict i (.paymentSuccess (.event e))
      (fun _ ts' w => ts' = ts ∧
        (strict (.paymentSuccess e.eventId) → Settled (.paymentSuccess e.eventId) w)) ts
      (handlePaymentSuccess e) w := by
  refine Ok.bind ?_ (ok_reserved fun _ => ok_paymentSuccessTransaction)
  rintro _ ts' w' ⟨rfl, hs⟩
  exact ⟨rfl, hs⟩

theorem consumerSound : Kafka.ConsumerSound (discipline strict) consumer where
  raises _ h := h
  heartbeat _ _ _ _ _ hF hw := ok_aux (by simp) hF hw
  sendToDlq _ _ _ _ _ hF hw := ok_aux (by simp) hF hw

theorem ok_delivery {E : Type} {process : E → BookingCode Unit} {deliver : Message E → Call}
    {keyOf : E → SagaKey} (hkey : ∀ e, (deliver (.event e)).key = some (keyOf e))
    (hnone : ∀ m, (∀ e, m ≠ .event e) → (deliver m).key = none)
    (h : ∀ e w, OkOut strict i (deliver (.event e))
      (fun _ ts' w => ts' = [] ∧ (strict (keyOf e) → Settled (keyOf e) w)) [] (process e) w)
    (m : Message E) :
    Ok (discipline strict) i (deliver m) (fun a _ w => (discipline strict).post (deliver m) a w)
      (fun _ _ _ => True) (finish (Kafka.createDlqConsumerHandler consumer process m)) [] w := by
  by_cases hm : ∀ e, m ≠ .event e
  · refine Ok.bind ?_ (Kafka.ok_undelivered consumerSound hm)
    intro _ ts' w' _ key _ hk
    rw [hnone m hm] at hk
    cases hk
  · push Not at hm
    obtain ⟨e, rfl⟩ := hm
    refine Ok.bind ?_ (Ok.mono (fun _ _ _ hq => hq) (fun _ _ _ _ => trivial)
      (Kafka.ok_delivered consumerSound (lasting_strict (keyOf e)) (h e w)))
    rintro _ ts' w' ⟨rfl, hs⟩ key hstrict hk
    rw [hkey e, Option.some.injEq] at hk
    subst hk
    exact hs hstrict

end Handlers

theorem ok_request {work : BookingCode Unit} (hc : c.key = none)
    (h : OkOut strict i c (fun _ ts' _ => ts' = []) [] work w) :
    Ok (discipline strict) i c (fun a _ w => (discipline strict).post c a w) (fun _ _ _ => True)
      (finish work) [] w := by
  refine Ok.bind ?_ (Ok.mono (fun _ _ _ hq => hq) (fun _ _ _ _ => trivial) h)
  intro _ _ _ _ key _ hk
  rw [hc] at hk
  cases hk

theorem ok_performs {args : TransitionArgs} (hc : c.key = none) (hp : Performs c args) :
    Ok (discipline strict) i c (fun a _ w => (discipline strict).post c a w) (fun _ _ _ => True)
      (finish (transition args)) [] w :=
  ok_request hc (Ok.mono (fun _ _ _ hq => hq.1) (fun _ _ _ hx => hx) (ok_transition hp))

theorem sound : (discipline strict).Sound := by
  intro i c w _ _
  cases c with
  | createBooking userId dto =>
    refine Ok.bind ?_ (Ok.mono (fun _ _ _ hq => hq) (fun _ _ _ _ => trivial) ok_createBooking)
    intro _ _ _ _ key _ hk
    cases hk
  | createPaymentOrder b u =>
    refine Ok.bind ?_ (Ok.mono (fun _ _ _ hq => hq) (fun _ _ _ _ => trivial) ok_createPaymentOrder)
    intro _ _ _ _ key _ hk
    cases hk
  | markSeatsHeld b l => exact ok_performs rfl (.markSeatsHeld b l)
  | markPaymentPending b p => exact ok_performs rfl (.markPaymentPending b p)
  | markConfirming b => exact ok_performs rfl (.markConfirming b)
  | markConfirmed b => exact ok_performs rfl (.markConfirmed b)
  | markFailed b r => exact ok_performs rfl (.markFailed b r)
  | markExpired b => exact ok_performs rfl (.markExpired b)
  | cancelBooking b u => exact ok_request rfl ok_cancelBooking
  | confirmPayment b u =>
    exact ok_request rfl
      (Ok.mono (fun _ _ _ hq => hq.1) (fun _ _ _ hx => hx) (ok_confirmPayment rfl))
  | seatsHeld m =>
    exact ok_delivery (fun _ => rfl) (fun m hm => by cases m <;> first | rfl | exact absurd rfl (hm _))
      (fun _ _ => ok_handleSeatsHeld) m
  | seatsHoldFailed m =>
    exact ok_delivery (fun _ => rfl) (fun m hm => by cases m <;> first | rfl | exact absurd rfl (hm _))
      (fun _ _ => ok_handleSeatsHoldFailed) m
  | seatHoldExpired m =>
    exact ok_delivery (fun _ => rfl) (fun m hm => by cases m <;> first | rfl | exact absurd rfl (hm _))
      (fun _ _ => ok_handleSeatHoldExpired) m
  | paymentSuccess m =>
    exact ok_delivery (fun _ => rfl) (fun m hm => by cases m <;> first | rfl | exact absurd rfl (hm _))
      (fun _ _ => ok_handlePaymentSuccess) m

theorem inv_start (s : Settings) : Inv s.pool.world where
  id _ _ h := nomatch h
  fresh _ h := nomatch h
  processed _ h := nomatch h
  price _ _ h := nomatch h

theorem reachable_keeps {S : Scope machine} (hS : S.Within (discipline strict)) {s : Settings}
    {p : Pool machine} (h : Reachable S s.pool p) {F : BookingWorld → Prop}
    (hF : Keeps (discipline strict) S F) (hF₀ : F s.pool.world) : F p.world :=
  h.keeps lawful sound hS (wellFormed_init (inv_start s)) hF hF₀

theorem reachable_wellFormed {S : Scope machine} (hS : S.Within (discipline strict)) {s : Settings}
    {p : Pool machine} (h : Reachable S s.pool p) : WellFormed (discipline strict) p :=
  h.wellFormed lawful sound hS (wellFormed_init (inv_start s))

end RailwayBooking.BookingService
