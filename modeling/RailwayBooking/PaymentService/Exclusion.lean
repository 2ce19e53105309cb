import RailwayBooking.PaymentService.Announcements

namespace RailwayBooking.PaymentService

open Concurrency

/-- A capture that has matched no row finds the payment captured, and no failure is
written over a captured payment. -/
structure Exclusive (t : PaymentTx) (w : PaymentWorld) : Prop where
  capture : ∀ params, t.Answered (.captureOpen params) 0 →
    ∀ p ∈ w.db.payments, p.paymentOrderId = params.paymentOrderId → p.status = .captured
  failure : t.site = .markAsFailed → ∀ p ∈ w.db.payments, ∀ reason,
    t.Answered (.updateFailed p.id reason) (p.failed reason) → p.status ≠ .captured

def exclusiveRuns : Scope machine where
  start _ _ := True
  allow _ t w s := ∀ h t', s = .commit h → t = some t' → Exclusive t' w

theorem exclusiveRuns_within : exclusiveRuns.Within discipline where
  start _ _ _ := trivial
  allow _ _ _ _ _ := trivial

/-- A payment has announced its success only if it is captured, and its failure only
if it has failed. -/
structure Account.Decided (a : Account) : Prop where
  success : 0 < a.successes → ∃ p, a.row = some p ∧ p.status = .captured
  failure : 0 < a.failures → ∃ p, a.row = some p ∧ p.status = .failed

structure Final (t : PaymentTx) (a a' : Account) : Prop where
  captured : ∀ p, a.row = some p → p.status = .captured → a'.row = some p
  failed : ∀ p, a.row = some p → p.status = .failed → t.site = .verifyAndCapture → a'.row = some p

section Runs

variable {c : Call} {t : PaymentTx} {w : PaymentWorld} {a a' : Account}

theorem open_status {p : Payment} (h : p.isOpen = true) :
    p.status ≠ .captured ∧ p.status ≠ .failed := by
  unfold Payment.isOpen at h
  constructor
  · intro hs
    rw [hs] at h
    cases h
  · intro hs
    rw [hs] at h
    cases h

/-- The conditions on a transaction, for one payment. -/
structure Admits (t : PaymentTx) (a : Account) : Prop where
  capture : ∀ p params, a.row = some p → t.Answered (.captureOpen params) 0 →
    params.paymentOrderId = p.paymentOrderId → p.status = .captured
  failure : ∀ p reason, a.row = some p → t.site = .markAsFailed →
    t.Answered (.updateFailed p.id reason) (p.failed reason) → p.status ≠ .captured

theorem Exclusive.admits (h : Exclusive t w) (id : Uuid) : Admits t (w.db.account id) where
  capture p params hp hun ho := h.capture params hun p (mem_of_row hp).1 ho.symm
  failure p reason hp hsite hans := h.failure hsite p (mem_of_row hp).1 reason hans

theorem Account.Decided.effect (h : a.Decided) (heff : Effect t a a') (had : Admits t a) :
    a'.Decided := by
  cases heff with
  | none => exact h
  | ordered p s f hpending =>
    refine ⟨fun hs => ?_, fun hf => ?_⟩
    · obtain ⟨q, hq, -⟩ := h.success hs
      cases hq
    · obtain ⟨q, hq, -⟩ := h.failure hf
      cases hq
  | captured p params s f hopen =>
    refine ⟨fun _ => ⟨_, rfl, rfl⟩, fun hf => ?_⟩
    obtain ⟨q, hq, hst⟩ := h.failure hf
    cases hq
    exact absurd hst (open_status hopen).2
  | recaptured p params s f ho hclosed hun =>
    have hst := had.capture p params rfl hun ho
    refine ⟨fun _ => ⟨p, rfl, hst⟩, fun hf => ?_⟩
    obtain ⟨q, hq, hst'⟩ := h.failure hf
    cases hq
    rw [hst] at hst'
    cases hst'
  | failed p reason s f hsite hans =>
    refine ⟨fun hs => ?_, fun _ => ⟨_, rfl, rfl⟩⟩
    obtain ⟨q, hq, hst⟩ := h.success hs
    cases hq
    exact absurd hst (had.failure p reason rfl hsite hans)

theorem Effect.final (heff : Effect t a a') (had : Admits t a) : Final t a a' := by
  cases heff with
  | none => exact ⟨fun p hp _ => hp, fun p hp _ _ => hp⟩
  | ordered =>
    refine ⟨fun _ hp => ?_, fun _ hp => ?_⟩
    · cases hp
    · cases hp
  | captured p params s f hopen =>
    refine ⟨fun q hq hst => ?_, fun q hq hst _ => ?_⟩
    · cases hq
      exact absurd hst (open_status hopen).1
    · cases hq
      exact absurd hst (open_status hopen).2
  | recaptured => exact ⟨fun p hp _ => hp, fun p hp _ _ => hp⟩
  | failed p reason s f hsite hans =>
    refine ⟨fun q hq hst => ?_, fun q hq hst hs => ?_⟩
    · cases hq
      exact absurd hst (had.failure p reason rfl hsite hans)
    · rw [hsite] at hs
      cases hs

theorem exclusive_of_passes (hc : Commit c t w) (hs : exclusiveRuns.Passes c t w) :
    Exclusive t w := by
  cases hs with
  | commit h ha => exact ha h t rfl rfl
  | single i q a ws ks hrun hws ht _ => exact absurd (by rw [ht]; rfl) hc.site_ne_auto

theorem keeps_decided :
    Keeps discipline exclusiveRuns (fun w => ∀ id, (w.db.account id).Decided) where
  commit _ _ _ _ _ hc _ hs h id :=
    (h id).effect (hc.effect id) ((exclusive_of_passes hc hs).admits id)
  drift _ _ _ h := h

/-- Capture and failure exclude each other, for every payment and over the whole
run. -/
structure Excluded (w : PaymentWorld) : Prop where
  final : ∀ before c t later, w.log = before ++ (c, t) :: later → ∀ id,
    Final t (Db.account (World.replay Db.empty before) id)
      (Db.account (t.view (World.replay Db.empty before)) id)
  outbox : ∀ id, w.db.outbox.countP (OutboxEvent.isSuccess id) = 0 ∨
    w.db.outbox.countP (OutboxEvent.isFailure id) = 0

/-- Capture and failure exclude each other in every run of admitted commits. -/
theorem excluded_of_exclusiveRuns {s : Settings} {p : Pool machine}
    (h : Reachable exclusiveRuns s.pool p) : Excluded p.world where
  final before c t later hlog id := by
    have hhist := reachable_keeps exclusiveRuns_within h
      (keeps_history (D := discipline) (S := exclusiveRuns) Db.empty)
      (history_init (D := discipline) (S := exclusiveRuns) Db.empty _)
    obtain ⟨v, hv, -, -, -, hc, hs⟩ := hhist.entry before c t later hlog
    rw [← hv]
    exact (hc.effect id).final ((exclusive_of_passes hc hs).admits id)
  outbox id := by
    have hdec := reachable_keeps exclusiveRuns_within h keeps_decided
      (fun id => ⟨fun h => absurd h (lt_irrefl 0), fun h => absurd h (lt_irrefl 0)⟩) id
    by_contra hboth
    rw [not_or] at hboth
    obtain ⟨q, hq, hst⟩ := hdec.success (Nat.pos_of_ne_zero hboth.1)
    obtain ⟨q', hq', hst'⟩ := hdec.failure (Nat.pos_of_ne_zero hboth.2)
    obtain rfl : q = q' := Option.some.inj (hq.symm.trans hq')
    rw [hst] at hst'
    cases hst'

end Runs

section Schedules

def exclusiveTest (t : PaymentTx) (w : PaymentWorld) : Bool :=
  !t.stmts.any unmatchedCapture &&
    (t.site ≠ .markAsFailed || w.db.payments.all (fun p => p.status ≠ .captured))

theorem exclusive_of_test {t : PaymentTx} {w : PaymentWorld} (h : exclusiveTest t w = true) :
    Exclusive t w := by
  obtain ⟨hm, hf⟩ := Bool.and_eq_true_iff.mp h
  refine ⟨fun params hun => absurd hun (matching_of_test (w := w) hm params),
    fun hsite p hp reason _ => ?_⟩
  simp only [ne_eq, Bool.or_eq_true, decide_eq_true_eq, hsite, not_true_eq_false, false_or,
    List.all_eq_true] at hf
  exact hf p hp

def sampleFailure : Call :=
  .handleWebhook ⟨0, some ⟨"payment.failed", some ⟨some 0, none, some "Card declined", none⟩,
    none⟩⟩ 901

/-- A capture, and a failure that is reported too late. -/
theorem excluded_captured : ∃ p, Reachable exclusiveRuns sampleSettings.pool p ∧
    paymentOutcome p = (some .captured, 1, 0) ∧ Excluded p.world := by
  obtain ⟨p, hp, ht⟩ := exists_reachable exclusiveRuns sampleSettings.pool
    (commitsOnly exclusiveTest)
    (sampleOrdered ++ [.call (.verifyAndCapture sampleCheckout), .burst 1 12, .call sampleFailure,
      .burst 2 12])
    (fun p => decide (paymentOutcome p = (some .captured, 1, 0)))
    (permits_commitsOnly fun c t w s h h' t' hs ht => exclusive_of_test (h h' t' hs ht))
    (fun _ _ _ _ _ => trivial) (by decide +kernel)
  exact ⟨p, hp, of_decide_eq_true ht, excluded_of_exclusiveRuns hp⟩

/-- A failure is read while the payment is pending and written over the capture. -/
theorem not_excluded : ¬ ∀ (s : Settings) (p : Pool machine),
    Reachable (Scope.calls fun _ => True) s.pool p → Excluded p.world := by
  intro hall
  obtain ⟨p, hp, ht⟩ := exists_reachable (Scope.calls fun _ => True) sampleSettings.pool
    (fun _ _ => true)
    (sampleOrdered ++ [.call sampleFailure, .burst 1 2, .call (.verifyAndCapture sampleCheckout),
      .burst 2 12, .burst 1 12])
    (fun p => decide (paymentOutcome p = (some .failed, 1, 1)))
    (fun p a _ => permits_calls p a) (fun _ _ _ _ _ => trivial) (by decide +kernel)
  have hout := of_decide_eq_true ht
  have hone : p.world.db.outbox.countP (OutboxEvent.isSuccess samplePayment) = 1 :=
    congrArg (fun x => x.2.1) hout
  have hone' : p.world.db.outbox.countP (OutboxEvent.isFailure samplePayment) = 1 :=
    congrArg (fun x => x.2.2) hout
  obtain h | h := (hall sampleSettings p hp).outbox samplePayment
  · omega
  · omega

end Schedules

end RailwayBooking.PaymentService
