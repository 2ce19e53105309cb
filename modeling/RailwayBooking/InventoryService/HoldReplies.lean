import RailwayBooking.InventoryService.NoDoubleBooking

namespace RailwayBooking.InventoryService

open Concurrency

namespace OutboxEvent

def isHeld (b : Uuid) : OutboxEvent → Bool
  | .seatsHeld payload => payload.bookingId = b
  | .seatsHoldFailed _ => false

def isHoldFailed (b : Uuid) : OutboxEvent → Bool
  | .seatsHeld _ => false
  | .seatsHoldFailed payload => payload.bookingId = b

end OutboxEvent

/-- The answer to a booking's hold request: never both replies, at most one
`SeatsHeld`, and no active allocation beside a `SeatsHoldFailed`. -/
structure OneAnswer (b : Uuid) (d : Db) : Prop where
  exclusive : ¬ (d.outbox.any (OutboxEvent.isHeld b) = true ∧
    d.outbox.any (OutboxEvent.isHoldFailed b) = true)
  once : (d.outbox.filter (OutboxEvent.isHeld b)).length ≤ 1
  released : d.outbox.any (OutboxEvent.isHoldFailed b) = true →
    ∀ a ∈ d.allocations, a.bookingId = b → a.status.active = false

/-- The call is a delivery of `r` or a hold of another booking. -/
def Delivers (r : HoldSeatsRequested) (c : Call) : Prop :=
  ∃ r', c.request? = some r' ∧ (r'.bookingId = r.bookingId → r' = r)

/-- Any number of deliveries of `r` among the holds of other bookings. -/
@[reducible] def deliveries (r : HoldSeatsRequested) : Scope machine := Scope.calls (Delivers r)

/-- The guards that the two reply transactions of `r` do not have: the failure reply
does not look for the key of the request, and the hold does not look for an earlier
failure reply. -/
structure Guarded (r : HoldSeatsRequested) (t : InventoryTx) (w : InventoryWorld) : Prop where
  fail : t.site = .fail → ¬ Recorded (.hold r.eventId) w
  hold : t.site = .hold → t.writes ≠ [] →
    w.db.outbox.any (OutboxEvent.isHoldFailed r.bookingId) = false

/-- The runs in which the transactions of `r` commit only where such guards would let
them. -/
def guardedDeliveries (r : HoldSeatsRequested) : Scope machine where
  start c _ := Delivers r c
  allow c t w s := ∀ h t', s = .commit h → t = some t' → c.request? = some r → Guarded r t' w

/-- The one request of its booking. -/
def Terms.only (r : HoldSeatsRequested) : Terms :=
  ⟨fun b => if b = r.bookingId then some r else none, False⟩

variable {r : HoldSeatsRequested} {c : Call} {t : InventoryTx} {w : InventoryWorld}

theorem guardedDeliveries_within (r : HoldSeatsRequested) :
    (guardedDeliveries r).Within (discipline (.only r)) where
  start c w h := by
    refine ⟨fun r₁ hr₁ r₂ hr₂ => ?_, False.elim⟩
    obtain ⟨r', hr', hsame⟩ := h
    rw [hr₁, Option.some.injEq] at hr'
    subst hr'
    simp only [Terms.only, Option.mem_def, Option.ite_none_right_eq_some, Option.some.injEq] at hr₂
    obtain ⟨hb, rfl⟩ := hr₂
    exact hsame hb
  allow _ _ _ _ _ := trivial

/-- Before its key is recorded a booking has no reply of success and no allocation,
and a reply of failure excludes both. -/
structure Answered (r : HoldSeatsRequested) (w : InventoryWorld) : Prop where
  recorded : w.db.outbox.any (OutboxEvent.isHeld r.bookingId) = true ∨
    (∃ a ∈ w.db.allocations, a.bookingId = r.bookingId) → Recorded (.hold r.eventId) w
  once : (w.db.outbox.filter (OutboxEvent.isHeld r.bookingId)).length ≤ 1
  failed : w.db.outbox.any (OutboxEvent.isHoldFailed r.bookingId) = true →
    w.db.outbox.any (OutboxEvent.isHeld r.bookingId) = false ∧
      ∀ a ∈ w.db.allocations, a.bookingId ≠ r.bookingId

theorem Answered.oneAnswer (h : Answered r w) : OneAnswer r.bookingId w.db where
  exclusive hx := by
    have hno := (h.failed hx.2).1
    rw [hx.1] at hno
    cases hno
  once := h.once
  released hf a ha hb := absurd hb ((h.failed hf).2 a ha)

theorem Answered.unrecorded (h : Answered r w) (hk : ¬ Recorded (.hold r.eventId) w) :
    w.db.outbox.any (OutboxEvent.isHeld r.bookingId) = false ∧
      ∀ a ∈ w.db.allocations, a.bookingId ≠ r.bookingId := by
  constructor
  · rw [← Bool.not_eq_true]
    exact fun hh => hk (h.recorded (.inl hh))
  · exact fun a ha hb => hk (h.recorded (.inr ⟨a, ha, hb⟩))

theorem answered_other (h : Answered r w) {as : List SeatAllocation} {ev : OutboxEvent}
    (has : ∀ a ∈ as, a.bookingId ≠ r.bookingId) (hh : ev.isHeld r.bookingId = false)
    (hf : ev.isHoldFailed r.bookingId = false)
    (hdb : (t.view w.db).allocations = w.db.allocations ++ as ∧
      (t.view w.db).outbox = w.db.outbox ++ [ev]) : Answered r (w.commit c t) where
  recorded hx := by
    apply Recorded.commit
    apply h.recorded
    simp only [World.commit, hdb.1, hdb.2] at hx
    simp only [List.any_append, List.any_cons, hh, List.any_nil, Bool.or_false,
      List.mem_append] at hx
    obtain hx | ⟨a, ha | ha, hb⟩ := hx
    · exact .inl hx
    · exact .inr ⟨a, ha, hb⟩
    · exact absurd hb (has a ha)
  once := by
    simp only [World.commit, hdb.2, List.filter_append, List.filter_cons, hh]
    simpa using h.once
  failed hx := by
    simp only [World.commit, hdb.1, hdb.2] at hx ⊢
    simp only [List.any_append, List.any_cons, hf, List.any_nil, Bool.or_false] at hx
    obtain ⟨hno, ha⟩ := h.failed hx
    refine ⟨by simp [hno, hh], fun a hm => ?_⟩
    obtain hm | hm := List.mem_append.mp hm
    · exact ha a hm
    · exact has a hm

theorem answered_settled (h : Answered r w) {rows : List SeatAllocation} {s : AllocationStatus}
    (hdb : (t.view w.db).allocations = w.db.allocations.map (SeatAllocation.settled rows s) ∧
      (t.view w.db).outbox = w.db.outbox) : Answered r (w.commit c t) where
  recorded hx := by
    apply Recorded.commit
    apply h.recorded
    simp only [World.commit, hdb.1, hdb.2] at hx
    obtain hx | ⟨a, ha, hb⟩ := hx
    · exact .inl hx
    · obtain ⟨a', ha', rfl⟩ := List.mem_map.mp ha
      exact .inr ⟨a', ha', by simpa using hb⟩
  once := by
    simp only [World.commit, hdb.2]
    exact h.once
  failed hx := by
    simp only [World.commit, hdb.1, hdb.2] at hx ⊢
    obtain ⟨hno, ha⟩ := h.failed hx
    refine ⟨hno, fun a hm => ?_⟩
    obtain ⟨a', ha', rfl⟩ := List.mem_map.mp hm
    simpa using ha a' ha'

theorem answered_held (h : Answered r w) (hkey : ¬ Recorded (.hold r.eventId) w)
    (hclean : w.db.outbox.any (OutboxEvent.isHoldFailed r.bookingId) = false)
    (hrec : Recorded (.hold r.eventId) (w.commit c t)) {payload : SeatsHeld}
    (hdb : (t.view w.db).outbox = w.db.outbox ++ [.seatsHeld payload]) :
    Answered r (w.commit c t) where
  recorded _ := hrec
  once := by
    have hnone := (h.unrecorded hkey).1
    simp only [World.commit, hdb, List.filter_append]
    rw [List.any_eq_false] at hnone
    rw [List.filter_eq_nil_iff.mpr hnone]
    exact List.length_filter_le _ _
  failed hx := by
    simp only [World.commit, hdb, List.any_append, hclean] at hx
    cases hx

theorem answered_failed (h : Answered r w) (hkey : ¬ Recorded (.hold r.eventId) w)
    {payload : SeatsHoldFailed}
    (hdb : (t.view w.db).allocations = w.db.allocations ∧
      (t.view w.db).outbox = w.db.outbox ++ [.seatsHoldFailed payload]) :
    Answered r (w.commit c t) where
  recorded hx := by
    apply Recorded.commit
    apply h.recorded
    simpa [World.commit, hdb.1, hdb.2, OutboxEvent.isHeld] using hx
  once := by
    simp only [World.commit, hdb.2, List.filter_append]
    simpa [OutboxEvent.isHeld] using h.once
  failed _ := by
    obtain ⟨hno, ha⟩ := h.unrecorded hkey
    simp only [World.commit, hdb.1, hdb.2]
    exact ⟨by simp [hno, OutboxEvent.isHeld], ha⟩

theorem keeps_answered (r : HoldSeatsRequested) :
    Keeps (discipline (.only r)) (guardedDeliveries r) (Answered r) where
  commit w c t _ hp hc _ hs h := by
    have hsame : ∀ r', c.request? = some r' → r'.bookingId = r.bookingId → r' = r :=
      fun r' hr' hb => hp.1 r' hr' r (if_pos hb)
    have hguard : c.request? = some r → t.site ≠ .auto → Guarded r t w := by
      intro hr hauto
      cases hs with
      | commit h' ha => exact ha h' t rfl rfl hr
      | single i q a ws ks _ _ ht _ =>
        subst ht
        exact absurd rfl hauto
    cases hc with
    | holdDuplicate _ _ hw | confirmDuplicate _ _ _ hw | cancelDuplicate _ _ _ hw =>
      have hv : (w.commit c t).db = w.db := view_nothing hw w.db
      exact ⟨by rw [hv, Recorded, hv]; exact h.recorded, by rw [hv]; exact h.once,
        by rw [hv]; exact h.failed⟩
    | held x created hreq hsite _ _ _ _ _ hkey hw =>
      obtain ⟨has, hid, hout⟩ := view_held hw w.db
      by_cases hb : x.request.bookingId = r.bookingId
      · have hx := hsame _ hreq hb
        rw [hx] at hreq hkey
        have hg := (hguard hreq (by simp [hsite])).hold hsite (by simp [hw])
        refine answered_held h hkey hg ?_ hout
        rw [Recorded]
        change _ ∈ (t.view w.db).idempotency
        rw [hid, hx]
        exact List.mem_append_right _ List.mem_cons_self
      · refine answered_other h (fun a ha => ?_) ?_ rfl ⟨has, hout⟩
        · rw [Hold.rows_bookingId ha]
          exact hb
        · exact decide_eq_false hb
    | @failed r' _ _ _ _ hreq hsite hw =>
      obtain ⟨has, -, hout⟩ := view_failed hw w.db
      by_cases hb : r'.bookingId = r.bookingId
      · obtain rfl := hsame _ hreq hb
        have hg := (hguard hreq (by simp [hsite])).fail hsite
        exact answered_failed h hg ⟨has, hout⟩
      · have hnone : ∀ a ∈ ([] : List SeatAllocation), a.bookingId ≠ r.bookingId :=
          fun a ha => absurd ha List.not_mem_nil
        refine answered_other h hnone rfl ?_ ⟨by simpa using has, hout⟩
        exact decide_eq_false hb
    | confirmed rows history _ _ _ _ hw | cancelled rows history _ _ _ hw =>
      obtain ⟨has, -, hout⟩ := view_settled hw w.db
      exact answered_settled h ⟨has, hout⟩
  drift _ _ _ h := ⟨h.recorded, h.once, h.failed⟩

/-- Where the reply transactions of a request meet their guards, the request gets one
consistent answer. -/
theorem oneAnswer_of_guardedDeliveries {P : Projection} {now : Nat} {r : HoldSeatsRequested}
    {p : Pool machine} (h : Reachable (guardedDeliveries r) (start P now) p) :
    OneAnswer r.bookingId p.world.db := by
  have h₀ : Answered r (start P now).world := by
    refine ⟨fun hx => ?_, Nat.zero_le 1, fun hx => nomatch hx⟩
    obtain hx | ⟨a, ha, -⟩ := hx
    · cases hx
    · exact absurd ha List.not_mem_nil
  exact (reachable_keeps (guardedDeliveries_within r) h (keeps_answered r) h₀).oneAnswer

section Runs

def unguarded (r : HoldSeatsRequested) (p : Pool machine) (i : Nat) : Bool :=
  match p.threads[i]? with
  | some ⟨c, some (.call (.commit h) _)⟩ =>
    c.request? = some r && (p.shared.txs h).any (fun t =>
      (t.site = .fail && p.world.db.idempotency.contains (.hold r.eventId)) ||
      (t.site = .hold && !t.writes.isEmpty &&
        p.world.db.outbox.any (OutboxEvent.isHoldFailed r.bookingId)))
  | _ => false

def allGuarded (r : HoldSeatsRequested) (p : Pool machine) : Action inventoryService → Bool
  | .run i _ => !unguarded r p i
  | _ => true

theorem permits_allGuarded (r : HoldSeatsRequested) (p : Pool machine)
    (a : Action inventoryService) (h : allGuarded r p a = true) :
    (guardedDeliveries r).Permits p a := by
  cases a with
  | run i ch =>
    rintro c s k hth h' t rfl ht hr
    simp only [Stmt.via, Option.bind_some] at ht
    simp only [allGuarded, unguarded, hth, ht, hr, Option.any_some] at h
    constructor
    · intro hsite hk
      simp [hsite] at h
      exact h hk
    · intro hsite hw
      rw [← Bool.not_eq_true]
      intro hf
      have hne : t.writes.isEmpty = false := by simpa using hw
      simp [hsite, hne, hf] at h
  | crash i => trivial
  | tick d => trivial

def sampleDelivery : HoldSeatsRequested := sampleHold ⟨8, 0⟩ 1 3

set_option maxRecDepth 20000 in
/-- A delivery that succeeds and a second one after it. -/
theorem oneAnswer_redelivered : ∃ p,
    Reachable (guardedDeliveries sampleDelivery) (start sampleProjection 0) p ∧
      p.world.db.outbox.any (OutboxEvent.isHeld sampleDelivery.bookingId) = true ∧
      OneAnswer sampleDelivery.bookingId p.world.db := by
  obtain ⟨p, hp, ht⟩ := exists_reachable (guardedDeliveries sampleDelivery)
    (start sampleProjection 0) (allGuarded sampleDelivery)
    [.call (.holdSeats sampleDelivery), .burst 0 40, .call (.holdSeats sampleDelivery), .burst 1 40]
    (fun p => p.world.db.outbox.any (OutboxEvent.isHeld sampleDelivery.bookingId))
    (permits_allGuarded sampleDelivery)
    (by simp [guardedDeliveries, Delivers, Call.request?, Move.started]) (by decide)
  exact ⟨p, hp, ht, oneAnswer_of_guardedDeliveries hp⟩

set_option maxRecDepth 20000 in
/-- The second delivery meets the Redis locks of the first and reports a failure; the
first then commits. -/
theorem not_oneAnswer : ¬ ∀ (P : Projection) (now : Nat) (r : HoldSeatsRequested)
    (p : Pool machine), Reachable (deliveries r) (start P now) p →
      OneAnswer r.bookingId p.world.db := by
  intro hall
  obtain ⟨p, hp, ht⟩ := exists_reachable (deliveries sampleDelivery)
    (start sampleProjection 0) (fun _ _ => true)
    [.call (.holdSeats sampleDelivery), .call (.holdSeats sampleDelivery), .burst 0 5, .burst 1 40,
      .burst 0 40]
    (fun p => p.world.db.outbox.any (OutboxEvent.isHeld sampleDelivery.bookingId) &&
      p.world.db.outbox.any (OutboxEvent.isHoldFailed sampleDelivery.bookingId))
    (fun p a _ => permits_calls p a) (by simp [Delivers, Call.request?, Move.started]) (by decide)
  rw [Bool.and_eq_true] at ht
  exact (hall sampleProjection 0 sampleDelivery p hp).exclusive ht

end Runs

end RailwayBooking.InventoryService
