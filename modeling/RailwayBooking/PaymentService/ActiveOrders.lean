import RailwayBooking.PaymentService.Announcements

namespace RailwayBooking.PaymentService

open Concurrency

/-- The payment can still be captured, or has been. -/
def Payment.isActive (p : Payment) : Bool := p.isOpen || p.status = .captured

def Db.activeOrders (d : Db) (bookingId : Uuid) : List Payment :=
  d.payments.filter (fun p => p.bookingId = bookingId && p.isActive)

def Lone (t : PaymentTx) (w : PaymentWorld) : Prop :=
  ∀ data, t.Answered (.create data) data → w.db.activeOrders data.bookingId = []

def loneRuns : Scope machine where
  start _ _ := True
  allow _ t w s := ∀ h t', s = .commit h → t = some t' → Lone t' w

theorem loneRuns_within : loneRuns.Within discipline where
  start _ _ _ := trivial
  allow _ _ _ _ _ := trivial

def OneActive (w : PaymentWorld) : Prop :=
  ∀ p ∈ w.db.payments, ∀ q ∈ w.db.payments, p.isActive = true → q.isActive = true →
    p.bookingId = q.bookingId → p = q

section Runs

variable {c : Call} {t : PaymentTx} {w : PaymentWorld}

theorem RowChange.active {p q : Payment} (h : RowChange t (some p) (some q))
    (hq : q.isActive = true) : p.isActive = true := by
  cases h with
  | same => exact hq
  | captured params hsite hopen => rw [Payment.isActive, hopen, Bool.true_or]
  | failed reason => cases hq

theorem mem_activeOrders {d : Db} {p : Payment} (hp : p ∈ d.payments) (ha : p.isActive = true) :
    p ∈ d.activeOrders p.bookingId := by
  simp [Db.activeOrders, hp, ha]

theorem oneActive_commit (hi : Inv w) (hc : Commit c t w) (hl : Lone t w) (h : OneActive w) :
    OneActive (w.commit c t) := by
  intro p hp q hq hpa hqa hb
  change p ∈ (t.view w.db).payments at hp
  change q ∈ (t.view w.db).payments at hq
  cases hc.tableChange with
  | ordered data _ hans hadd =>
    have hnone := hl data hans
    rw [hadd] at hp hq
    obtain hp | hp := List.mem_append.mp hp
    · obtain hq | hq := List.mem_append.mp hq
      · exact h p hp q hq hpa hqa hb
      · have hmem := mem_activeOrders hp hpa
        rw [hb, List.mem_singleton.mp hq, hnone] at hmem
        cases hmem
    · obtain hq | hq := List.mem_append.mp hq
      · have hmem := mem_activeOrders hq hqa
        rw [← hb, List.mem_singleton.mp hp, hnone] at hmem
        cases hmem
      · rw [List.mem_singleton.mp hp, List.mem_singleton.mp hq]
  | changed horigin =>
    obtain ⟨p', hp', hsp, hrp⟩ := horigin p hp
    obtain ⟨q', hq', hsq, hrq⟩ := horigin q hq
    have hsame : p' = q' := h p' hp' q' hq' (hrp.active hpa) (hrq.active hqa)
      (hsp.bookingId.symm.trans (hb.trans hsq.bookingId))
    apply List.inj_on_of_nodup_map (hc.keys hi).1 hp hq
    rw [hsp.id, hsq.id, hsame]

theorem lone_of_passes (hc : Commit c t w) (hs : loneRuns.Passes c t w) : Lone t w := by
  cases hs with
  | commit h ha => exact ha h t rfl rfl
  | single i q a ws ks hrun hws ht _ => exact absurd (by rw [ht]; rfl) hc.site_ne_auto

theorem keeps_oneActive : Keeps discipline loneRuns OneActive where
  commit _ _ _ hi _ hc _ hs h := oneActive_commit hi hc (lone_of_passes hc hs) h
  drift _ _ _ h := h

theorem length_filter_le_one {α : Type} {f : α → Bool} {xs : List α} (hn : xs.Nodup)
    (h : ∀ x ∈ xs, ∀ y ∈ xs, f x = true → f y = true → x = y) : (xs.filter f).length ≤ 1 := by
  have hnodup := hn.filter f
  match hys : xs.filter f, hnodup with
  | [], _ => exact Nat.zero_le 1
  | [_], _ => exact le_rfl
  | x :: y :: _, hnodup =>
    have hx : x ∈ xs.filter f := hys ▸ List.mem_cons_self
    have hy : y ∈ xs.filter f := hys ▸ List.mem_cons_of_mem _ List.mem_cons_self
    obtain ⟨hx, hfx⟩ := List.mem_filter.mp hx
    obtain ⟨hy, hfy⟩ := List.mem_filter.mp hy
    obtain rfl := h x hx y hy hfx hfy
    exact absurd List.mem_cons_self (List.nodup_cons.mp hnodup).1

/-- Where a payment is ordered only for a booking that has no active one, a booking
has at most one payment that is pending or captured. -/
theorem one_active_of_loneRuns {s : Settings} {p : Pool machine}
    (h : Reachable loneRuns s.pool p) (b : Uuid) :
    (p.world.db.payments.filter (fun x => x.bookingId = b &&
      (x.status = .pending || x.status = .captured))).length ≤ 1 := by
  have hone := reachable_keeps loneRuns_within h keeps_oneActive
    fun x hx => absurd hx List.not_mem_nil
  have hids := (Reachable.wellFormed lawful sound loneRuns_within (wellFormed_pool s) h).inv.ids
  apply length_filter_le_one (hids.of_map _)
  intro x hx y hy hfx hfy
  simp only [Bool.and_eq_true, decide_eq_true_eq, Bool.or_eq_true] at hfx hfy
  apply hone x hx y hy
  · obtain hs | hs := hfx.2
    · simp [Payment.isActive, Payment.isOpen, hs]
    · simp [Payment.isActive, hs]
  · obtain hs | hs := hfy.2
    · simp [Payment.isActive, Payment.isOpen, hs]
    · simp [Payment.isActive, hs]
  · rw [hfx.1, hfy.1]

end Runs

section Schedules

def orderedFor : (Σ q : Sql, Rows q) → Option Uuid
  | ⟨.create data, _⟩ => some data.bookingId
  | _ => none

def loneTest (t : PaymentTx) (w : PaymentWorld) : Bool :=
  (t.stmts.filterMap orderedFor).all (fun b => (w.db.activeOrders b).isEmpty)

theorem lone_of_test {t : PaymentTx} {w : PaymentWorld} (h : loneTest t w = true) : Lone t w := by
  intro data hans
  have hmem : data.bookingId ∈ t.stmts.filterMap orderedFor :=
    List.mem_filterMap.mpr ⟨_, hans, rfl⟩
  exact List.isEmpty_iff.mp (List.all_eq_true.mp h _ hmem)

def pendingOrders (p : Pool machine) : Nat :=
  (p.world.db.payments.filter (fun x => x.bookingId = sampleBooking &&
    (x.status = .pending || x.status = .captured))).length

/-- An order that fails, and the next one, which is captured. -/
theorem one_active_reordered : ∃ p, Reachable loneRuns sampleSettings.pool p ∧
    p.world.db.payments.map Payment.status = [.failed, .captured] ∧ pendingOrders p ≤ 1 := by
  obtain ⟨p, hp, ht⟩ := exists_reachable loneRuns sampleSettings.pool (commitsOnly loneTest)
    (sampleOrdered ++ [.call (.markAsFailed 0 none), .burst 1 12, .call (.createOrder sampleOrder),
      .burst 2 12, .call (.verifyAndCapture { sampleCheckout with razorpayOrderId := 1 }),
      .burst 3 12])
    (fun p => decide (p.world.db.payments.map Payment.status = [.failed, .captured]))
    (permits_commitsOnly fun c t w s h h' t' hs ht => lone_of_test (h h' t' hs ht))
    (fun _ _ _ _ _ => trivial) (by decide +kernel)
  exact ⟨p, hp, of_decide_eq_true ht, one_active_of_loneRuns hp sampleBooking⟩

/-- Two calls look for an active order before either has inserted its own. -/
theorem not_one_active : ¬ ∀ (s : Settings) (p : Pool machine),
    Reachable (Scope.calls fun _ => True) s.pool p → ∀ b,
      (p.world.db.payments.filter (fun x => x.bookingId = b &&
        (x.status = .pending || x.status = .captured))).length ≤ 1 := by
  intro hall
  obtain ⟨p, hp, ht⟩ := exists_reachable (Scope.calls fun _ => True) sampleSettings.pool
    (fun _ _ => true)
    [.call (.createOrder sampleOrder), .call (.createOrder sampleOrder), .burst 0 4, .burst 1 12,
      .burst 0 12]
    (fun p => decide (pendingOrders p = 2))
    (fun p a _ => permits_calls p a) (fun _ _ _ _ _ => trivial) (by decide +kernel)
  have htwo := of_decide_eq_true ht
  have hle := hall sampleSettings p hp sampleBooking
  change pendingOrders p ≤ 1 at hle
  omega

end Schedules

end RailwayBooking.PaymentService
