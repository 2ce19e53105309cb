import RailwayBooking.Concurrency.History
import RailwayBooking.Concurrency.Schedule
import RailwayBooking.PaymentService.Sound

namespace RailwayBooking.PaymentService

open Concurrency

namespace OutboxEvent

/-- The event announces the success of payment `id`. -/
def isSuccess (id : Uuid) : OutboxEvent → Bool
  | .paymentSuccess aggregateId _ => aggregateId = id
  | _ => false

def isFailure (id : Uuid) : OutboxEvent → Bool
  | .paymentFailed aggregateId _ => aggregateId = id
  | _ => false

end OutboxEvent

/-- What the tables hold about one payment: its row, and how many events announce
its success and its failure. -/
@[ext] structure Account where
  row : Option Payment
  successes : Nat
  failures : Nat

def Db.account (d : Db) (id : Uuid) : Account where
  row := d.row id
  successes := d.outbox.countP (OutboxEvent.isSuccess id)
  failures := d.outbox.countP (OutboxEvent.isFailure id)

/-- What a committed transaction does to what is held about one payment. -/
inductive Effect (t : PaymentTx) : Account → Account → Prop
  | none (a : Account) : Effect t a a
  | ordered (p : Payment) (s f : Nat) (pending : p.status = .pending) :
      Effect t ⟨none, s, f⟩ ⟨some p, s, f⟩
  | captured (p : Payment) (params : CapturePaymentParams) (s f : Nat) (isOpen : p.isOpen = true) :
      Effect t ⟨some p, s, f⟩ ⟨some (p.captured params), s + 1, f⟩
  | recaptured (p : Payment) (params : CapturePaymentParams) (s f : Nat)
      (order : params.paymentOrderId = p.paymentOrderId) (closed : p.isOpen = false)
      (unmatched : t.Answered (.captureOpen params) 0) :
      Effect t ⟨some p, s, f⟩ ⟨some p, s + 1, f⟩
  | failed (p : Payment) (reason : String) (s f : Nat) (site : t.site = .markAsFailed)
      (updated : t.Answered (.updateFailed p.id reason) (p.failed reason)) :
      Effect t ⟨some p, s, f⟩ ⟨some (p.failed reason), s, f + 1⟩

section Effects

variable {c : Call} {t : PaymentTx} {w : PaymentWorld}

theorem account_view {ev : OutboxEvent} (hev : t.writes.filterMap Write.event? = [ev]) (id : Uuid) :
    (t.view w.db).account id = ⟨(t.view w.db).row id,
      (w.db.account id).successes + [ev].countP (OutboxEvent.isSuccess id),
      (w.db.account id).failures + [ev].countP (OutboxEvent.isFailure id)⟩ := by
  have hout : (t.view w.db).outbox = w.db.outbox ++ [ev] := by rw [view_eq, applyAll_outbox, hev]
  simp only [Db.account, hout, List.countP_append]

theorem Commit.effect (h : Commit c t w) (id : Uuid) :
    Effect t (w.db.account id) ((t.view w.db).account id) := by
  have hother : ∀ {a : Uuid} {r : Option Payment} {ev : OutboxEvent}, id ≠ a →
      t.writes.filterMap Write.event? = [ev] →
      (t.view w.db).row = Function.update w.db.row a r →
      ev.isSuccess id = false → ev.isFailure id = false →
      Effect t (w.db.account id) ((t.view w.db).account id) := by
    intro a r ev hne hev hrow hs hf
    rw [account_view hev, hrow, Function.update_of_ne hne, List.countP_singleton,
      List.countP_singleton, hs, hf]
    exact .none _
  cases h with
  | @ordered _ input _ _ pid _ _ _ _ hsite _ hnew _ _ _ _ hw =>
    have hev := congrArg (List.filterMap Write.event?) hw
    have hrow := view_ordered hw hnew
    by_cases hid : id = pid
    · subst hid
      rw [account_view hev, hrow]
      simp only [Db.account, hnew]
      rw [show (newPayment input id _ _ _).id = id from rfl, Function.update_self]
      exact .ordered _ _ _ rfl
    · exact hother hid hev hrow rfl rfl
  | @captured _ _ _ input read row _ hsite hcur hsame hopen _ _ _ hw =>
    obtain ⟨-, hrid⟩ := mem_of_row hcur
    have hev := congrArg (List.filterMap Write.event?) hw
    have hrow := view_put hw (show w.db.row row.id = some row by rw [hrid]; exact hcur)
    by_cases hid : id = read.id
    · subst hid
      rw [account_view hev, hrow]
      simp only [Db.account, hcur]
      rw [show (row.captured (input.params read)).id = read.id from hrid, Function.update_self,
        List.countP_singleton, List.countP_singleton]
      simp only [OutboxEvent.isSuccess, OutboxEvent.isFailure, decide_true, if_true,
        Bool.false_eq_true, if_false]
      exact .captured row _ _ _ hopen
    · exact hother (hrid ▸ hid) hev hrow (by simpa [OutboxEvent.isSuccess] using Ne.symm hid) rfl
  | @recaptured _ _ _ input read row _ hsite hcur hsame hclosed hzero _ hw =>
    have hev := congrArg (List.filterMap Write.event?) hw
    rw [account_view hev, view_recaptured hw]
    by_cases hid : id = read.id
    · subst hid
      simp only [Db.account, hcur]
      rw [List.countP_singleton, List.countP_singleton]
      simp only [OutboxEvent.isSuccess, OutboxEvent.isFailure, decide_true, if_true,
        Bool.false_eq_true, if_false]
      exact .recaptured row _ _ _ hsame.paymentOrderId.symm hclosed hzero
    · rw [List.countP_singleton, List.countP_singleton]
      simp only [OutboxEvent.isSuccess, OutboxEvent.isFailure, Ne.symm hid, decide_false,
        Bool.false_eq_true, if_false]
      exact .none _
  | @failed _ _ _ read row reason _ hsite hcur hsame hans _ hw =>
    obtain ⟨-, hrid⟩ := mem_of_row hcur
    have hev := congrArg (List.filterMap Write.event?) hw
    have hrow := view_put hw (show w.db.row row.id = some row by rw [hrid]; exact hcur)
    by_cases hid : id = read.id
    · subst hid
      rw [account_view hev, hrow]
      simp only [Db.account, hcur]
      rw [show (row.failed reason).id = read.id from hrid, Function.update_self,
        List.countP_singleton, List.countP_singleton]
      simp only [OutboxEvent.isSuccess, OutboxEvent.isFailure, decide_true, if_true,
        Bool.false_eq_true, if_false]
      exact .failed row reason _ _ hsite (hrid ▸ hans)
    · exact hother (hrid ▸ hid) hev hrow rfl (by simpa [OutboxEvent.isFailure] using Ne.symm hid)

end Effects

def Replayed (w : PaymentWorld) : Prop := w.db = World.replay Db.empty w.log

/-- At some point of the run the payment was captured. -/
def BeenCaptured (id : Uuid) (w : PaymentWorld) : Prop :=
  ∃ before later row, w.log = before ++ later ∧
    (World.replay Db.empty before).row id = some row ∧ row.status = .captured

def AnnouncedOnce (a : Account) (been : Prop) : Prop :=
  (a.successes = 1 ∧ been ∧ ∃ p, a.row = some p ∧ p.isOpen = false) ∨ (a.successes = 0 ∧ ¬ been)

section Runs

variable {c : Call} {t : PaymentTx} {w : PaymentWorld} {id : Uuid}

theorem Replayed.commit (h : Replayed w) (c : Call) (t : PaymentTx) : Replayed (w.commit c t) := by
  unfold Replayed at *
  rw [World.commit, replay_append, ← h]

theorem BeenCaptured.commit (h : BeenCaptured id w) (c : Call) (t : PaymentTx) :
    BeenCaptured id (w.commit c t) := by
  obtain ⟨before, later, row, hlog, hrow, hst⟩ := h
  refine ⟨before, later ++ [(c, t)], row, ?_, hrow, hst⟩
  rw [World.commit, hlog, List.append_assoc]

theorem BeenCaptured.of_commit (hr : Replayed w) (h : BeenCaptured id (w.commit c t)) :
    BeenCaptured id w ∨ ∃ row, (t.view w.db).row id = some row ∧ row.status = .captured := by
  obtain ⟨before, later, row, hlog, hrow, hst⟩ := h
  cases later using List.reverseRecOn with
  | nil =>
    rw [List.append_nil] at hlog
    rw [← hlog, World.commit, replay_append, ← show w.db = World.replay Db.empty w.log from hr]
      at hrow
    exact .inr ⟨row, hrow, hst⟩
  | append_singleton later x =>
    rw [World.commit, ← List.append_assoc] at hlog
    exact .inl ⟨before, later, row, (List.append_inj' hlog rfl).1, hrow, hst⟩

theorem beenCaptured_now (hr : Replayed w) {row : Payment} (h : w.db.row id = some row)
    (hst : row.status = .captured) : BeenCaptured id w :=
  ⟨w.log, [], row, (List.append_nil _).symm, hr ▸ h, hst⟩

def Matching (t : PaymentTx) : Prop := ∀ params, ¬ t.Answered (.captureOpen params) 0

def matchingRuns : Scope machine where
  start _ _ := True
  allow _ t _ s := ∀ h t', s = .commit h → t = some t' → Matching t'

theorem matchingRuns_within : matchingRuns.Within discipline where
  start _ _ _ := trivial
  allow _ _ _ _ _ := trivial

/-- Every transaction of these runs is matching: a statement outside any
transaction commits none of those of `Commit`. -/
theorem matching_of_passes (hc : Commit c t w) (hs : matchingRuns.Passes c t w) : Matching t := by
  cases hs with
  | commit h ha => exact ha h t rfl rfl
  | single i q a ws ks hrun hws ht _ => exact absurd (by rw [ht]; rfl) hc.site_ne_auto

theorem AnnouncedOnce.effect {a a' : Account} {been been' : Prop} (h : AnnouncedOnce a been)
    (heff : Effect t a a') (hm : Matching t) (hmono : been → been')
    (hnow : ∀ p, a.row = some p → p.status = .captured → been)
    (hbecome : been' ↔ been ∨ ∃ p, a'.row = some p ∧ p.status = .captured) :
    AnnouncedOnce a' been' := by
  obtain ⟨hone, hbeen, p, hp, hclosed⟩ | ⟨hzero, hnot⟩ := h
  · apply Or.inl
    cases heff with
    | none => exact ⟨hone, hmono hbeen, p, hp, hclosed⟩
    | ordered => cases hp
    | captured q _ _ _ hopen =>
      cases hp
      rw [hopen] at hclosed
      cases hclosed
    | recaptured _ params _ _ _ _ hun => exact absurd hun (hm params)
    | failed q reason => exact ⟨hone, hmono hbeen, _, rfl, rfl⟩
  · cases heff with
    | none =>
      refine .inr ⟨hzero, fun hb => ?_⟩
      obtain hb | ⟨p, hp, hst⟩ := hbecome.mp hb
      · exact hnot hb
      · exact hnot (hnow p hp hst)
    | ordered q _ _ hpending =>
      refine .inr ⟨hzero, fun hb => ?_⟩
      obtain hb | ⟨p, hp, hst⟩ := hbecome.mp hb
      · exact hnot hb
      · cases hp
        rw [hpending] at hst
        cases hst
    | captured q params _ _ hopen =>
      exact .inl ⟨congrArg (· + 1) hzero, hbecome.mpr (.inr ⟨_, rfl, rfl⟩), _, rfl, rfl⟩
    | recaptured _ params _ _ _ _ hun => exact absurd hun (hm params)
    | failed q reason =>
      refine .inr ⟨hzero, fun hb => ?_⟩
      obtain hb | ⟨p, hp, hst⟩ := hbecome.mp hb
      · exact hnot hb
      · cases hp
        cases hst

/-- The tables are those of the log, and every payment has announced its success as
often as it was captured. -/
structure Announced (w : PaymentWorld) : Prop where
  replayed : Replayed w
  once : ∀ id, AnnouncedOnce (w.db.account id) (BeenCaptured id w)

theorem keeps_announced : Keeps discipline matchingRuns Announced where
  commit w c t _ _ hc _ hs h := by
    have hr' := h.replayed.commit c t
    refine ⟨hr', fun id => ?_⟩
    refine (h.once id).effect (hc.effect id) (matching_of_passes hc hs)
      (fun hb => hb.commit c t) (fun p hp hst => beenCaptured_now h.replayed hp hst) ⟨?_, ?_⟩
    · exact BeenCaptured.of_commit h.replayed
    · rintro (hb | ⟨p, hp, hst⟩)
      · exact hb.commit c t
      · exact beenCaptured_now hr' hp hst
  drift _ _ _ h := ⟨h.replayed, h.once⟩

theorem announced_pool (s : Settings) : Announced s.pool.world := by
  refine ⟨rfl, fun id => .inr ⟨rfl, ?_⟩⟩
  rintro ⟨before, later, row, hlog, hrow, -⟩
  obtain ⟨rfl, -⟩ := List.append_eq_nil_iff.mp hlog.symm
  cases hrow

/-- Where every capture that commits has matched its row, a payment announces its
success at most once, and does so exactly when it has been captured. -/
theorem announced_of_matchingRuns {s : Settings} {p : Pool machine}
    (h : Reachable matchingRuns s.pool p) (id : Uuid) :
    p.world.db.outbox.countP (OutboxEvent.isSuccess id) ≤ 1 ∧
      (p.world.db.outbox.countP (OutboxEvent.isSuccess id) = 1 ↔ BeenCaptured id p.world) := by
  have hinv := reachable_keeps matchingRuns_within h keeps_announced (announced_pool s)
  have hcount : (p.world.db.account id).successes =
      p.world.db.outbox.countP (OutboxEvent.isSuccess id) := rfl
  obtain ⟨hone, hbeen, -⟩ | ⟨hzero, hnot⟩ := hinv.once id
  · rw [← hcount, hone]
    exact ⟨le_rfl, fun _ => hbeen, fun _ => rfl⟩
  · rw [← hcount, hzero]
    exact ⟨Nat.zero_le 1, nofun, fun hb => absurd hb hnot⟩

end Runs

section Schedules

def sampleSettings : Settings := ⟨1000, 1, true, true, fun _ _ => 0, fun _ => 0⟩

def sampleBooking : Uuid := ⟨90, 0⟩

def sampleOrder : CreateOrderRequest := ⟨sampleBooking, 7, 125050, "INR"⟩

def sampleCheckout : VerifyPaymentInput := ⟨0, 501, 900, some .client⟩

def samplePayment : Uuid := ⟨0, 1⟩

def sampleOrdered : List (Move machine) := [.call (.createOrder sampleOrder), .burst 0 12]

def paymentOutcome (p : Pool machine) : Option PaymentStatus × Nat × Nat :=
  ((p.world.db.row samplePayment).map Payment.status,
    p.world.db.outbox.countP (OutboxEvent.isSuccess samplePayment),
    p.world.db.outbox.countP (OutboxEvent.isFailure samplePayment))

def unmatchedCapture : (Σ q : Sql, Rows q) → Bool
  | ⟨.captureOpen _, n⟩ => n = 0
  | _ => false

def matchingTest (t : PaymentTx) (_ : PaymentWorld) : Bool := !t.stmts.any unmatchedCapture

theorem matching_of_test {t : PaymentTx} {w : PaymentWorld} (h : matchingTest t w = true) :
    Matching t := by
  intro params hun
  have hany : t.stmts.any unmatchedCapture = true :=
    List.any_eq_true.mpr ⟨_, hun, by simp [unmatchedCapture]⟩
  rw [matchingTest, hany] at h
  cases h

/-- A checkout and the webhook of the same capture, one after the other. -/
theorem announced_captured : ∃ p, Reachable matchingRuns sampleSettings.pool p ∧
    paymentOutcome p = (some .captured, 1, 0) ∧
    p.world.db.outbox.countP (OutboxEvent.isSuccess samplePayment) ≤ 1 ∧
    (p.world.db.outbox.countP (OutboxEvent.isSuccess samplePayment) = 1 ↔
      BeenCaptured samplePayment p.world) := by
  obtain ⟨p, hp, ht⟩ := exists_reachable matchingRuns sampleSettings.pool (commitsOnly matchingTest)
    (sampleOrdered ++ [.call (.verifyAndCapture sampleCheckout), .burst 1 12,
      .call (.handleWebhook ⟨0, some ⟨"payment.captured", some ⟨some 0, some 501, none, none⟩,
        none⟩⟩ 901), .burst 2 12])
    (fun p => decide (paymentOutcome p = (some .captured, 1, 0)))
    (permits_commitsOnly fun c t w s h h' t' hs ht => matching_of_test (h h' t' hs ht))
    (fun _ _ _ _ _ => trivial) (by decide +kernel)
  exact ⟨p, hp, of_decide_eq_true ht, announced_of_matchingRuns hp samplePayment⟩

/-- The checkout and the webhook of one capture read the payment before either
captures it, and both announce it. -/
theorem not_announcedOnce : ¬ ∀ (s : Settings) (p : Pool machine),
    Reachable (Scope.calls fun _ => True) s.pool p → ∀ id,
      p.world.db.outbox.countP (OutboxEvent.isSuccess id) ≤ 1 ∧
        (p.world.db.outbox.countP (OutboxEvent.isSuccess id) = 1 ↔ BeenCaptured id p.world) := by
  intro hall
  obtain ⟨p, hp, ht⟩ := exists_reachable (Scope.calls fun _ => True) sampleSettings.pool
    (fun _ _ => true)
    (sampleOrdered ++ [.call (.verifyAndCapture sampleCheckout), .burst 1 2,
      .call (.verifyAndCapture { sampleCheckout with source := some .webhook }), .burst 2 12,
      .burst 1 12])
    (fun p => decide (paymentOutcome p = (some .captured, 2, 0)))
    (fun p a _ => permits_calls p a) (fun _ _ _ _ _ => trivial) (by decide +kernel)
  have htwo := congrArg (fun x => x.2.1) (of_decide_eq_true ht)
  have hle := (hall sampleSettings p hp samplePayment).1
  change p.world.db.outbox.countP (OutboxEvent.isSuccess samplePayment) = 2 at htwo
  omega

end Schedules

end RailwayBooking.PaymentService
