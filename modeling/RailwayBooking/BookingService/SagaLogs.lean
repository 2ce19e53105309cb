import RailwayBooking.Concurrency.History
import RailwayBooking.BookingService.StatusEvents

namespace RailwayBooking.BookingService

open Concurrency

variable {c : Call} {t : BookingTx} {w : BookingWorld} {b : Uuid}

def holdLog (b : Uuid) (d : Db) : Option SagaLog := d.sagaLogs b .holdSeats

theorem holdLog_view (b : Uuid) : holdLog b (t.view w.db) =
    (t.writes.filterMap Write.sagaLog?).foldl putSagaLog w.db.sagaLogs b .holdSeats := by
  rw [holdLog, view_eq, applyAll_sagaLogs]

theorem putSagaLog_hold (f : Uuid → SagaStep → Option SagaLog) (b b' : Uuid) (l : SagaLog) :
    putSagaLog f (b', .holdSeats, l) b .holdSeats = if b = b' then some l else f b .holdSeats := by
  simp only [putSagaLog, Function.update_apply]
  split
  · simp
  · rfl

theorem putSagaLog_other (f : Uuid → SagaStep → Option SagaLog) (b b' : Uuid) {step : SagaStep}
    (h : step ≠ .holdSeats) (l : SagaLog) :
    putSagaLog f (b', step, l) b .holdSeats = f b .holdSeats := by
  simp only [putSagaLog, Function.update_apply]
  split
  · next hb => rw [Function.update_of_ne h.symm, hb]
  · rfl

theorem createPayment_ne : SagaStep.createPayment ≠ .holdSeats := nofun

theorem confirmSeats_ne : SagaStep.confirmSeats ≠ .holdSeats := nofun

/-- What a committed transaction does to the row of booking `b` and to the log of
its first step. -/
inductive HoldChange (c : Call) (t : BookingTx) (b : Uuid) :
    Option Booking → Option SagaLog → Option Booking → Option SagaLog → Prop
  | same (r : Option Booking) (l : Option SagaLog) : HoldChange c t b r l r l
  | created (row : Booking) (l : Option SagaLog) :
      HoldChange c t b none l (some row) (some ⟨.pending, none⟩)
  | moved {args : TransitionArgs} {row : Booking} (l : Option SagaLog) (performs : Performs c args)
      (booking : args.bookingId = b) (permits : args.permits row.status = true) :
      HoldChange c t b (some row) l (some (args.moved row)) l
  | held (e : SeatsHeld) (row : Booking) (l : Option SagaLog) :
      HoldChange c t b (some row) l
        (some ((heldUpdate e).apply { row with status := .seatsHeld, version := row.version + 1 }))
        (some ⟨.completed, none⟩)
  | failed {e : SeatsHoldFailed} (row : Booking) (l : Option SagaLog)
      (call : c = .seatsHoldFailed (.event e)) (booking : e.bookingId = b) :
      HoldChange c t b (some row) l
        (some ((failureUpdate e).apply { row with status := .failed, version := row.version + 1 }))
        (some ⟨.failed, some e.reason.name⟩)
  | failedBeaten {e : SeatsHoldFailed} {v : Nat} (row : Booking) (l : Option SagaLog)
      (call : c = .seatsHoldFailed (.event e)) (booking : e.bookingId = b)
      (lost : t.Answered (.updateStatus b .failed v) false) :
      HoldChange c t b (some row) l (some ((failureUpdate e).apply row))
        (some ⟨.failed, some e.reason.name⟩)
  | expired (row : Booking) (l : Option SagaLog) :
      HoldChange c t b (some row) l
        (some { row with status := .expired, version := row.version + 1 })
        (some ⟨.compensated, some "Hold duration expired"⟩)
  | expiredBeaten {v : Nat} (row : Booking) (l : Option SagaLog)
      (lost : t.Answered (.updateStatus b .expired v) false) :
      HoldChange c t b (some row) l (some row) (some ⟨.compensated, some "Hold duration expired"⟩)

theorem holdChange_of_update {b' : Uuid} {r r' : Option Booking} {m : Option SagaLog}
    (hv : (t.view w.db).bookings = Function.update w.db.bookings b' r')
    (hl : holdLog b (t.view w.db) = if b = b' then m else holdLog b w.db)
    (hr : w.db.bookings b' = r) (h : b = b' → HoldChange c t b r (holdLog b w.db) r' m) :
    HoldChange c t b (w.db.bookings b) (holdLog b w.db) ((t.view w.db).bookings b)
      (holdLog b (t.view w.db)) := by
  rw [hv, hl]
  by_cases hb : b = b'
  · subst hb
    rw [Function.update_self, if_pos rfl, hr]
    exact h rfl
  · rw [Function.update_of_ne hb, if_neg hb]
    exact .same _ _

theorem holdChange_of_none (hw : t.writes.filterMap Write.row? = [])
    (hl : holdLog b (t.view w.db) = holdLog b w.db) :
    HoldChange c t b (w.db.bookings b) (holdLog b w.db) ((t.view w.db).bookings b)
      (holdLog b (t.view w.db)) := by
  rw [rows_none hw, hl]
  exact .same _ _

theorem holdLog_recorded {i : Nat} {b' : Uuid} {step : SagaStep} {status : SagaStatus}
    {error : Option String} (hr : Records i w c b' step status)
    (hw : t.writes = [.saga b' step ⟨status, error⟩]) (b : Uuid) :
    holdLog b (t.view w.db) = holdLog b w.db := by
  have hstep : step ≠ .holdSeats := by
    cases hr with
    | payment s _ => exact nofun
    | confirmed _ _ => exact nofun
  rw [holdLog_view, hw]
  exact putSagaLog_other _ b b' hstep _

theorem Commit.holdChange (h : Commit c t w) (hi : Inv w) (b : Uuid) :
    HoldChange c t b (w.db.bookings b) (holdLog b w.db) ((t.view w.db).bookings b)
      (holdLog b (t.view w.db)) := by
  cases h with
  | replayed _ hw | heldSkipped _ hw | holdFailedSkipped _ hw | holdExpiredSkipped _ hw
  | paymentMissing _ _ hw | paymentSkipped _ _ _ hw =>
    exact holdChange_of_none (by rw [hw]; rfl) (by rw [holdLog_view, hw]; rfl)
  | recorded _ hrec hw =>
    exact holdChange_of_none (by rw [hw]; rfl) (holdLog_recorded hrec hw b)
  | @paid e _ _ _ _ hw =>
    apply holdChange_of_none (by rw [hw]; rfl)
    rw [holdLog_view, hw]
    exact (putSagaLog_other _ b e.bookingId confirmSeats_ne _).trans
      (putSagaLog_other _ b e.bookingId createPayment_ne _)
  | created x _ hw _ hnew _ _ _ _ _ _ =>
    apply holdChange_of_update (bookings_created hw) _ hnew (fun _ => .created x.row _)
    rw [holdLog_view, hw]
    exact (putSagaLog_other _ b x.bookingId confirmSeats_ne _).trans
      ((putSagaLog_other _ b x.bookingId createPayment_ne _).trans (putSagaLog_hold _ b _ _))
  | @transition _ _ _ args read row eventId hper _ hpermits _ _ _ hcur _ hst hw _ =>
    have hu : (args.updateWrites row).filterMap Write.sagaLog? = [] := by
      unfold TransitionArgs.updateWrites
      cases args.updates <;> rfl
    apply holdChange_of_update (m := holdLog b w.db) (bookings_transition (hi.id _ _ hcur) hw) _
      hcur (fun hb => .moved _ hper hb.symm (hst ▸ hpermits))
    rw [holdLog_view, hw, List.filterMap_append, hu, ite_self]
    rfl
  | @held e _ _ read row _ _ _ _ hcur _ _ hw _ =>
    have hu : ((passengersData e).map (Write.enrich e.bookingId)).filterMap Write.sagaLog? = [] :=
      enrich_sagaLog _ _
    apply holdChange_of_update (bookings_held (hi.id _ _ hcur) hw) _ hcur (fun _ => .held e row _)
    rw [holdLog_view, hw, List.filterMap_append, hu]
    exact putSagaLog_hold _ b e.bookingId _
  | @holdFailed e _ _ read row _ _ _ _ hcur _ _ hw =>
    apply holdChange_of_update (bookings_holdFailed (hi.id _ _ hcur) hw) _ hcur
      (fun hb => .failed row _ rfl hb.symm)
    rw [holdLog_view, hw]
    exact putSagaLog_hold _ b e.bookingId _
  | @holdFailedBeaten e _ _ read row _ _ _ hlost hcur _ hw =>
    apply holdChange_of_update (bookings_holdFailedBeaten (hi.id _ _ hcur) hw) _ hcur
      (fun hb => .failedBeaten row _ rfl hb.symm (hb ▸ hlost))
    rw [holdLog_view, hw]
    exact putSagaLog_hold _ b e.bookingId _
  | @holdExpired e _ _ read row _ _ _ _ hcur _ _ hw =>
    apply holdChange_of_update (bookings_holdExpired (hi.id _ _ hcur) hw) _ hcur
      (fun _ => .expired row _)
    rw [holdLog_view, hw]
    exact putSagaLog_hold _ b e.bookingId _
  | @holdExpiredBeaten e _ _ read row _ _ _ hlost hcur _ hw =>
    have hv : (t.view w.db).bookings = Function.update w.db.bookings e.bookingId (some row) := by
      rw [rows_none (by rw [hw]; rfl), ← hcur, Function.update_eq_self]
    apply holdChange_of_update hv _ hcur (fun hb => .expiredBeaten row _ (hb ▸ hlost))
    rw [holdLog_view, hw]
    exact putSagaLog_hold _ b e.bookingId _

/-- At some point of the run the booking had the status. -/
def Reached (s : BookingStatus) (b : Uuid) (w : BookingWorld) : Prop :=
  ∃ before later row, w.log = before ++ later ∧
    (World.replay Db.empty before).bookings b = some row ∧ row.status = s

def FailedBy (b : Uuid) (row : Booking) (log : SagaLog) (w : BookingWorld) : Prop :=
  ∃ e t, (.seatsHoldFailed (.event e), t) ∈ w.log ∧ e.bookingId = b ∧
    row.failureReason = some e.message ∧ log.error = some e.reason.name

/-- The log of the first step says nothing that the booking does not bear out. -/
structure LogAgrees (w : BookingWorld) (b : Uuid) (log : SagaLog) : Prop where
  completed : log.status = .completed → Reached .seatsHeld b w
  failed : log.status = .failed → ∃ row, w.db.bookings b = some row ∧ row.status = .failed ∧
    FailedBy b row log w
  compensated : log.status = .compensated →
    ∃ row, w.db.bookings b = some row ∧ row.status = .expired

/-- A handler whose status change took no effect commits only where the booking
has that status anyway, and no public operation fails or expires a booking whose
first step tells of a failure, or fails one whose first step tells of an expiry. -/
structure Agreeing (c : Call) (t : BookingTx) (w : BookingWorld) : Prop where
  beaten : ∀ b s v, t.Answered (.updateStatus b s v) false →
    ∀ row, w.db.bookings b = some row → row.status = s
  markFailed : ∀ b r, c = .markFailed b r → ∀ log, holdLog b w.db = some log →
    log.status ≠ .failed ∧ log.status ≠ .compensated
  markExpired : ∀ b, c = .markExpired b → ∀ log, holdLog b w.db = some log → log.status ≠ .failed

/-- Runs in which every transaction is committed under these conditions. -/
def agreeingRuns : Scope machine where
  start _ _ := True
  allow c t w s := ∀ h t', s = .commit h → t = some t' → Agreeing c t' w

theorem agreeingRuns_within : agreeingRuns.Within (discipline fun _ => False) where
  start _ _ _ := trivial
  allow _ _ _ _ _ _ h := h.elim

theorem Reached.commit {s : BookingStatus} (h : Reached s b w) (c : Call) (t : BookingTx) :
    Reached s b (w.commit c t) := by
  obtain ⟨before, later, row, hlog, hrow, hst⟩ := h
  refine ⟨before, later ++ [(c, t)], row, ?_, hrow, hst⟩
  rw [World.commit, hlog, List.append_assoc]

theorem FailedBy.commit {row : Booking} {log : SagaLog} (h : FailedBy b row log w) (c : Call)
    (t : BookingTx) : FailedBy b row log (w.commit c t) := by
  obtain ⟨e, t', ht, hx⟩ := h
  exact ⟨e, t', List.mem_append_left _ ht, hx⟩

theorem performs_final {args : TransitionArgs} {s : BookingStatus} (hp : Performs c args)
    (hs : s = .failed ∨ s = .expired) (h : args.permits s = true) :
    (∃ r, c = .markFailed args.bookingId r) ∨
      (c = .markExpired args.bookingId ∧ args.target = .expired) := by
  cases hp with
  | markFailed b r => exact .inl ⟨r, rfl⟩
  | markExpired b => exact .inr ⟨rfl, rfl⟩
  | _ =>
    obtain rfl | rfl := hs <;> exact absurd (show false = true from h) Bool.false_ne_true

theorem LogAgrees.stay {log : SagaLog} (h : LogAgrees w b log) (c : Call) {t : BookingTx}
    (hr : (t.view w.db).bookings b = w.db.bookings b) : LogAgrees (w.commit c t) b log where
  completed hs := (h.completed hs).commit c t
  failed hs := by
    obtain ⟨row, hb, hst, hf⟩ := h.failed hs
    exact ⟨row, hr.trans hb, hst, hf.commit c t⟩
  compensated hs := by
    obtain ⟨row, hb, hst⟩ := h.compensated hs
    exact ⟨row, hr.trans hb, hst⟩

/-- A transition moves no booking whose first step tells of a failure, and an
expired one to its status at most. -/
theorem LogAgrees.moved {args : TransitionArgs} {row : Booking} {log : SagaLog}
    (h : LogAgrees w args.bookingId log) (ha : Agreeing c t w) (hp : Performs c args)
    (hl : holdLog args.bookingId w.db = some log) (hr : w.db.bookings args.bookingId = some row)
    (hpermits : args.permits row.status = true)
    (hr' : (w.commit c t).db.bookings args.bookingId = some (args.moved row)) :
    LogAgrees (w.commit c t) args.bookingId log where
  completed hs := (h.completed hs).commit c t
  failed hs := by
    obtain ⟨row', hb, hst, _⟩ := h.failed hs
    obtain rfl : row = row' := Option.some.inj (hr.symm.trans hb)
    obtain ⟨reason, hcall⟩ | ⟨hcall, _⟩ := performs_final hp (.inl hst) hpermits
    · exact absurd hs (ha.markFailed _ _ hcall log hl).1
    · exact absurd hs (ha.markExpired _ hcall log hl)
  compensated hs := by
    obtain ⟨row', hb, hst⟩ := h.compensated hs
    obtain rfl : row = row' := Option.some.inj (hr.symm.trans hb)
    obtain ⟨reason, hcall⟩ | ⟨_, htarget⟩ := performs_final hp (.inr hst) hpermits
    · exact absurd hs (ha.markFailed _ _ hcall log hl).2
    · exact ⟨_, hr', htarget⟩

theorem failedBy_commit {e : SeatsHoldFailed} (hc : c = .seatsHoldFailed (.event e))
    (hb : e.bookingId = b) (row : Booking) : FailedBy b ((failureUpdate e).apply row)
      ⟨.failed, some e.reason.name⟩ (w.commit c t) :=
  ⟨e, t, List.mem_append_right _ (List.mem_singleton.mpr (by rw [hc])), hb, rfl, rfl⟩

def LogsAgree (w : BookingWorld) : Prop :=
  w.db = World.replay Db.empty w.log ∧ ∀ b log, holdLog b w.db = some log → LogAgrees w b log

theorem logAgrees_commit (hdb : w.db = World.replay Db.empty w.log) (ha : Agreeing c t w)
    (hc : HoldChange c t b (w.db.bookings b) (holdLog b w.db) ((t.view w.db).bookings b)
      (holdLog b (t.view w.db)))
    (h : ∀ log, holdLog b w.db = some log → LogAgrees w b log) (log : SagaLog)
    (hlog : holdLog b (t.view w.db) = some log) : LogAgrees (w.commit c t) b log := by
  generalize hr : w.db.bookings b = r at hc
  generalize hr' : (t.view w.db).bookings b = r' at hc
  generalize hl : holdLog b w.db = l at hc
  rw [hlog] at hc
  cases hc with
  | same => exact (h log hl).stay c (hr'.trans hr.symm)
  | created row => exact ⟨nofun, nofun, nofun⟩
  | moved _ hper hbook hpermits =>
    subst hbook
    exact (h log hl).moved ha hper hl hr hpermits hr'
  | held e row =>
    refine ⟨fun _ => ⟨w.log ++ [(c, t)], [], (heldUpdate e).apply
      { row with status := .seatsHeld, version := row.version + 1 }, (List.append_nil _).symm, ?_,
      rfl⟩, nofun, nofun⟩
    rw [replay_append, ← hdb]
    exact hr'
  | failed row _ hcall hbook =>
    exact ⟨nofun, fun _ => ⟨_, hr', rfl, failedBy_commit hcall hbook _⟩, nofun⟩
  | failedBeaten row _ hcall hbook hlost =>
    have hst := ha.beaten b _ _ hlost row hr
    exact ⟨nofun, fun _ => ⟨_, hr', hst, failedBy_commit hcall hbook _⟩, nofun⟩
  | expired row => exact ⟨nofun, nofun, fun _ => ⟨_, hr', rfl⟩⟩
  | expiredBeaten row _ hlost =>
    exact ⟨nofun, nofun, fun _ => ⟨row, hr', ha.beaten b _ _ hlost row hr⟩⟩

theorem Commit.auto_hold (h : Commit c t w) (hs : t.site = .auto) (b : Uuid) :
    (t.view w.db).bookings b = w.db.bookings b ∧ holdLog b (t.view w.db) = holdLog b w.db := by
  cases h with
  | recorded _ hrec hw =>
    rw [rows_none (by rw [hw]; rfl)]
    exact ⟨rfl, holdLog_recorded hrec hw b⟩
  | _ => simp_all

theorem keeps_logsAgree : Keeps (discipline fun _ => False) agreeingRuns LogsAgree where
  commit w c t hi _ hc _ hs h := by
    obtain ⟨hdb, h⟩ := h
    refine ⟨?_, fun b log hlog => ?_⟩
    · rw [World.commit, replay_append, ← hdb]
    · cases hs with
      | commit h' ha => exact logAgrees_commit hdb (ha h' t rfl rfl) (hc.holdChange hi b) (h b) log hlog
      | single i q a ws ks _ _ ht _ =>
        obtain ⟨hr, hl⟩ := hc.auto_hold (by rw [ht]; rfl) b
        exact (h b log (hl.symm.trans hlog)).stay c hr
  drift _ _ _ h := ⟨h.1, fun b log hlog =>
    ⟨(h.2 b log hlog).completed, (h.2 b log hlog).failed, (h.2 b log hlog).compensated⟩⟩

/-- The log of the first step agrees with the booking in every reachable state. -/
theorem logAgrees_of_agreeingRuns {s : Settings} {p : Pool machine}
    (h : Reachable agreeingRuns s.pool p) (b : Uuid) (log : SagaLog)
    (hlog : p.world.db.sagaLogs b .holdSeats = some log) : LogAgrees p.world b log :=
  (reachable_keeps agreeingRuns_within h keeps_logsAgree ⟨rfl, nofun⟩).2 b log hlog

section Runs

def lostSwap : (Σ q : Sql, Rows q) → Bool
  | ⟨.updateStatus _ _ _, false⟩ => true
  | _ => false

def Call.marksEnd : Call → Bool
  | .markFailed _ _ | .markExpired _ => true
  | _ => false

/-- The next statement of call `i` commits a status change that took no effect, or
the work of `markFailed` or `markExpired`. -/
def commitsAstray (p : Pool machine) (i : Nat) : Bool :=
  match p.threads[i]? with
  | some ⟨c, some (.call (.commit h) _)⟩ =>
      c.marksEnd || (p.shared.txs h).any (fun t => t.stmts.any lostSwap)
  | _ => false

def noneAstray (p : Pool machine) : Action bookingService → Bool
  | .run i _ => !commitsAstray p i
  | _ => true

theorem permits_noneAstray (p : Pool machine) (a : Action bookingService)
    (h : noneAstray p a = true) : agreeingRuns.Permits p a := by
  cases a with
  | run i ch =>
    rintro c s k hth h' t rfl ht
    simp only [Stmt.via, Option.bind_some] at ht
    simp only [noneAstray, commitsAstray, hth, ht, Option.any_some, Bool.not_eq_true',
      Bool.or_eq_false_iff] at h
    refine ⟨fun b s v hlost => ?_, fun b r hc => ?_, fun b hc => ?_⟩
    · have hany : t.stmts.any lostSwap = true := List.any_eq_true.mpr ⟨_, hlost, rfl⟩
      rw [h.2] at hany
      cases hany
    · subst hc
      cases h.1
    · subst hc
      cases h.1
  | crash i => trivial
  | tick d => trivial

def sampleHoldFailed : SeatsHoldFailed :=
  ⟨.failed (.random ⟨0, 3⟩) .seatAlreadyHeld, sampleBooking, .seatAlreadyHeld, "Seat 11 is taken.",
    [11]⟩

def bookingOutcome (p : Pool machine) : Option BookingStatus × Option SagaStatus :=
  ((p.world.db.bookings sampleBooking).map Booking.status,
    (p.world.db.sagaLogs sampleBooking .holdSeats).map SagaLog.status)

set_option maxRecDepth 20000 in
/-- A hold failure that is reported to a pending booking. -/
theorem logAgrees_failed : ∃ p log, Reachable agreeingRuns sampleSettings.pool p ∧
    bookingOutcome p = (some .failed, some .failed) ∧ LogAgrees p.world sampleBooking log := by
  obtain ⟨p, hp, ht⟩ := exists_reachable agreeingRuns sampleSettings.pool noneAstray
    (sampleCreated ++ [.call (.seatsHoldFailed (.event sampleHoldFailed)), .burst 1 20])
    (fun p => decide (bookingOutcome p = (some .failed, some .failed)))
    permits_noneAstray (fun _ _ _ _ _ => trivial) (by decide)
  have hout := of_decide_eq_true ht
  obtain ⟨log, hlog, -⟩ := Option.map_eq_some_iff.mp (Prod.mk.inj hout).2
  exact ⟨p, log, hp, hout, logAgrees_of_agreeingRuns hp sampleBooking log hlog⟩

set_option maxRecDepth 20000 in
/-- The seats are reported held after the handler of a hold failure has read the
pending booking: its status change is lost, and its log entry is not. -/
theorem not_logAgrees : ¬ ∀ (s : Settings) (p : Pool machine),
    Reachable (Scope.calls fun _ => True) s.pool p → ∀ b log,
      p.world.db.sagaLogs b .holdSeats = some log → LogAgrees p.world b log := by
  intro hall
  obtain ⟨p, hp, ht⟩ := exists_reachable (Scope.calls fun _ => True) sampleSettings.pool
    (fun _ _ => true)
    (sampleCreated ++ [.call (.seatsHoldFailed (.event sampleHoldFailed)), .burst 1 3,
      .call (.seatsHeld (.event sampleHeld)), .burst 2 8, .burst 1 4])
    (fun p => decide (bookingOutcome p = (some .seatsHeld, some .failed)))
    (fun p a _ => permits_calls p a) (fun _ _ _ _ _ => trivial) (by decide)
  obtain ⟨hrow, hlog⟩ := Prod.mk.inj (of_decide_eq_true ht)
  obtain ⟨log, hlog, hst⟩ := Option.map_eq_some_iff.mp hlog
  obtain ⟨row, hb, hfailed, -⟩ := (hall sampleSettings p hp sampleBooking log hlog).failed hst
  rw [hb, Option.map_some, hfailed] at hrow
  cases hrow

end Runs

end RailwayBooking.BookingService
