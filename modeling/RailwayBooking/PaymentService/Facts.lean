import RailwayBooking.PaymentService.Commits

namespace RailwayBooking.PaymentService

open Concurrency

variable {c : Call} {t : PaymentTx} {w : PaymentWorld}

/-- No two payments share an id or a payment order id, and no id of the outbox is
still to be drawn. -/
structure Inv (w : PaymentWorld) : Prop where
  ids : (w.db.payments.map Payment.id).Nodup
  orders : (w.db.payments.map Payment.paymentOrderId).Nodup
  fresh : ∀ ev ∈ w.db.outbox, ∀ u, ev.eventId = .random u → u.serial < w.env.fresh

def discipline : Discipline machine where
  pre _ _ := True
  inv := Inv
  allow _ _ _ _ := True
  commits := Commit
  asks _ _ _ := True
  drift w e := w.env.fresh ≤ e.fresh
  raises _ := True
  post _ _ _ := True

theorem commit_outbox (w : PaymentWorld) (c : Call) (t : PaymentTx) :
    (w.commit c t).db.outbox = w.db.outbox ++ t.writes.filterMap Write.event? :=
  applyAll_outbox w.db t.writes

theorem Commit.event (h : Commit c t w) : ∃ ev u, t.writes.filterMap Write.event? = [ev] ∧
    ev.eventId = .random u ∧ Drawn u t.owner w := by
  cases h with
  | ordered _ _ _ _ _ _ hd hw | captured _ _ _ _ _ _ hd hw | recaptured _ _ _ _ _ hd hw
  | failed _ _ _ _ hd hw =>
    exact ⟨_, _, by rw [hw]; rfl, rfl, hd⟩

theorem Commit.outbox (h : Commit c t w) : ∃ ev u, (w.commit c t).db.outbox = w.db.outbox ++ [ev] ∧
    ev.eventId = .random u ∧ Drawn u t.owner w := by
  obtain ⟨ev, u, hev, hu, hd⟩ := h.event
  exact ⟨ev, u, by rw [commit_outbox, hev], hu, hd⟩

theorem Commit.keys (h : Commit c t w) (hi : Inv w) :
    ((t.view w.db).payments.map Payment.id).Nodup ∧
      ((t.view w.db).payments.map Payment.paymentOrderId).Nodup := by
  have hput : ∀ {p q : Payment} {ev : OutboxEvent}, w.db.row q.id = some q → q.Same p →
      t.writes = [.put p, .outbox ev] →
      ((t.view w.db).payments.map Payment.id).Nodup ∧
        ((t.view w.db).payments.map Payment.paymentOrderId).Nodup := by
    intro p q ev hq hs hw
    obtain ⟨hmem, -⟩ := mem_of_row hq
    rw [payments_put hw, map_putPayment, map_putPayment]
    · exact ⟨hi.ids, hi.orders⟩
    · intro x hx hid
      rw [List.inj_on_of_nodup_map hi.ids hx hmem (hid.trans hs.id)]
      exact hs.paymentOrderId
    · exact fun x _ hid => hid.symm
  cases h with
  | ordered _ _ hnew horder _ _ _ hw =>
    rw [payments_ordered hw, List.map_append, List.map_append]
    refine ⟨List.nodup_append.mpr ⟨hi.ids, List.nodup_singleton _, ?_⟩,
      List.nodup_append.mpr ⟨hi.orders, List.nodup_singleton _, ?_⟩⟩
    · intro a ha b hb
      obtain ⟨p, hp, rfl⟩ := List.mem_map.mp ha
      rw [List.mem_singleton.mp hb]
      exact row_eq_none.mp hnew p hp
    · intro a ha b hb
      obtain ⟨p, hp, rfl⟩ := List.mem_map.mp ha
      rw [List.mem_singleton.mp hb]
      exact horder p hp
  | captured _ hcur hsame _ _ _ _ hw =>
    obtain ⟨-, hid⟩ := mem_of_row hcur
    exact hput (by rw [hid]; exact hcur) (Payment.captured_same _ _) hw
  | recaptured _ _ _ _ _ _ hw =>
    rw [view_eq, hw]
    exact ⟨hi.ids, hi.orders⟩
  | failed _ hcur hsame _ _ hw =>
    obtain ⟨-, hid⟩ := mem_of_row hcur
    exact hput (by rw [hid]; exact hcur) (Payment.failed_same _ _) hw

theorem lasting_inv : Lasting discipline Inv where
  commit w c t hi _ hc _ _ := by
    refine ⟨(hc.keys hi).1, (hc.keys hi).2, fun ev hev u hu => ?_⟩
    obtain ⟨ev', u', ho, hu', hd⟩ := hc.outbox
    rw [ho] at hev
    obtain hev | hev := List.mem_append.mp hev
    · exact hi.fresh ev hev u hu
    · rw [List.mem_singleton.mp hev, hu'] at hu
      cases hu
      exact hd.drawn
  drift w e hd h :=
    ⟨h.ids, h.orders, fun ev hev u hu => lt_of_lt_of_le (h.fresh ev hev u hu) hd⟩

theorem ask_drift {e e' : Env} {i : Nat} {a : Aux} {ch : Choice Reply}
    {r : Except Err (AuxAns a)} (h : ask e i a ch = some (r, e')) : e.fresh ≤ e'.fresh := by
  unfold ask at h
  split at h <;> cases h <;> simp

theorem lawful : discipline.Lawful where
  ask _ _ _ _ _ _ _ _ h := ask_drift h
  tick _ _ := le_rfl
  fault := trivial
  run _ _ _ _ := trivial
  answer _ _ _ _ _ _ _ := trivial
  inv := lasting_inv
  pre _ := lasting_true
  post _ _ := lasting_true

/-- The payment was read as `read`: its row is still there. -/
def Seen (read : Payment) (w : PaymentWorld) : Prop :=
  ∃ row, w.db.row read.id = some row ∧ read.Same row

theorem seen_of_mem (hi : Inv w) {read : Payment} (h : read ∈ w.db.payments) : Seen read w :=
  ⟨read, row_of_mem hi.ids h, .refl read⟩

theorem lasting_seen (read : Payment) : Lasting discipline (Seen read) where
  commit w c t _ _ hc _ h := by
    obtain ⟨row, hrow, hsame⟩ := h
    have hr := hc.rowChange read.id
    rw [hrow] at hr
    obtain ⟨q, hq, hs⟩ := hr.same_columns
    exact ⟨q, hq, hsame.trans hs⟩
  drift _ _ _ h := h

def Closed (id : Uuid) (w : PaymentWorld) : Prop :=
  ∃ row, w.db.row id = some row ∧ row.isOpen = false

theorem lasting_closed (id : Uuid) : Lasting discipline (Closed id) where
  commit w c t _ _ hc _ h := by
    obtain ⟨row, hrow, hclosed⟩ := h
    have hr := hc.rowChange id
    rw [hrow] at hr
    obtain ⟨q, hq, -⟩ := hr.same_columns
    rw [hq] at hr
    exact ⟨q, hq, hr.closed hclosed⟩
  drift _ _ _ h := h

theorem stable_row {i : Nat} {ks : List Key} (id : Uuid) (r : Option Payment)
    (hk : .payment id ∈ ks) : Stable discipline i ks (fun w => w.db.row id = r) where
  commit w c t _ _ _ hv _ hd h := by
    change (t.view w.db).row id = r
    rw [view_eq, applyAll_row_other]
    · exact h
    · exact hv.untouched hd hk
  drift _ _ _ h := h

theorem stable_order {i : Nat} {ks : List Key} {po : Uuid} (hk : .paymentOrder po ∈ ks) :
    Stable discipline i ks (fun w => ∀ p ∈ w.db.payments, p.paymentOrderId ≠ po) where
  commit w c t _ _ hc hv _ hd h := by
    change ∀ p ∈ (t.view w.db).payments, p.paymentOrderId ≠ po
    have hput : ∀ {p q : Payment} {ev : OutboxEvent}, q ∈ w.db.payments → q.Same p →
        t.writes = [.put p, .outbox ev] →
        ∀ x ∈ (t.view w.db).payments, x.paymentOrderId ≠ po := by
      intro p q ev hq hs hw x hx
      rw [payments_put hw] at hx
      obtain ⟨y, hy, rfl⟩ := List.mem_map.mp hx
      split
      · rw [hs.paymentOrderId]
        exact h q hq
      · exact h y hy
    cases hc with
    | ordered _ _ _ _ _ _ _ hw =>
      intro p hp
      rw [payments_ordered hw] at hp
      obtain hp | hp := List.mem_append.mp hp
      · exact h p hp
      · rw [List.mem_singleton.mp hp]
        intro he
        refine hd (.paymentOrder po) (hv _ (by rw [hw]; exact List.mem_cons_self) _ ?_) hk
        simp [Write.keys, he]
    | captured _ hcur _ _ _ _ _ hw =>
      exact hput (mem_of_row hcur).1 (Payment.captured_same _ _) hw
    | recaptured _ _ _ _ _ _ hw =>
      rw [view_eq, hw]
      exact h
    | failed _ hcur _ _ _ hw => exact hput (mem_of_row hcur).1 (Payment.failed_same _ _) hw
  drift _ _ _ h := h

theorem stable_drawn {i : Nat} {ks : List Key} (uuid : Uuid) :
    Stable discipline i ks (Drawn uuid i) where
  commit w c t _ _ hc _ ho _ h := by
    refine ⟨h.source, h.drawn, fun ev hev u hu hs => ?_⟩
    obtain ⟨ev', u', hout, hu', hd⟩ := hc.outbox
    rw [hout] at hev
    obtain hev | hev := List.mem_append.mp hev
    · exact h.unused ev hev u hu hs
    · rw [List.mem_singleton.mp hev, hu'] at hu
      cases hu
      exact absurd (hd.source.symm.trans hs) ho
  drift w e hd h := ⟨h.source, lt_of_lt_of_le h.drawn hd, h.unused⟩

theorem drawn_fresh {i : Nat} {e : Env} (hi : Inv w) (he : e.fresh = w.env.fresh + 1) :
    Drawn ⟨i, w.env.fresh⟩ i (w.setEnv e) :=
  ⟨rfl, by change w.env.fresh < e.fresh; omega, fun ev hev u hu _ => hi.fresh ev hev u hu⟩

end RailwayBooking.PaymentService
