import RailwayBooking.BookingService.Facts

namespace RailwayBooking.BookingService

open Concurrency

variable {strict : SagaKey → Prop} {i : Nat} {c : Call} {h : Nat} {t : BookingTx}
  {ts : Stack bookingService} {w : BookingWorld} (F : BookingWorld → Prop)

/-- What is known of the committed state, and survives the other calls, while
transaction `t` is open. -/
abbrev Held (strict : SagaKey → Prop) (i : Nat) (t : BookingTx) (ts : Stack bookingService)
    (F : BookingWorld → Prop) : Prop :=
  Stable (discipline strict) i (t.locks ++ ts.locks) F

abbrev OkIn (strict : SagaKey → Prop) (i : Nat) (c : Call) {α : Type}
    (Q : α → Stack bookingService → BookingWorld → Prop) (h : Nat) (ts : Stack bookingService)
    (p : BookingCode α) (t : BookingTx) (w : BookingWorld) : Prop :=
  Ok (discipline strict) i c Q (Inside (discipline strict) h ts) p ((h, t) :: ts) w

section Within

variable (hs : Held strict i t ts F) (hF : F w)

include hs hF

theorem ok_findById {b : Uuid} {Q : Option Booking → Stack bookingService → BookingWorld → Prop}
    (hq : ∀ w' found, Inv w' → F w' → (t.view w'.db).bookings b = found →
      Q found ((h, t.record (.findById b) found [] []) :: ts) w') :
    OkIn strict i c Q h ts (findById (some h) b) t w := by
  refine Ok.sql lawful F hs hF fun w' hi _ hf _ a ws ks hr => ?_
  cases hr
  exact hq w' _ hi hf rfl

theorem ok_findIdempotencyKey {k : Id}
    {Q : Option BookingIdempotencyKey → Stack bookingService → BookingWorld → Prop}
    (hq : ∀ w' found, Inv w' → F w' → (t.view w'.db).idempotencyKeys k = found →
      Q found ((h, t.record (.findIdempotencyKey k) found [] []) :: ts) w') :
    OkIn strict i c Q h ts (findIdempotencyKey (some h) k) t w := by
  refine Ok.sql lawful F hs hF fun w' hi _ hf _ a ws ks hr => ?_
  cases hr
  exact hq w' _ hi hf rfl

theorem ok_create {data : Booking} {Q : Booking → Stack bookingService → BookingWorld → Prop}
    (hq : ∀ w', Inv w' → F w' → (t.view w'.db).bookings data.id = none →
      (t.view w'.db).pnrs data.pnr = none →
      Q data ((h, t.record (.create data) data [.booking data] []) :: ts) w') :
    OkIn strict i c Q h ts (create (some h) data) t w := by
  refine Ok.sql lawful F hs hF fun w' hi _ hf _ a ws ks hr => ?_
  simp only [bookingService, run] at hr
  split at hr
  · cases hr
  · next hn =>
    cases hr
    rw [not_or, Bool.not_eq_true, Bool.not_eq_true, Option.isSome_eq_false_iff,
      Option.isSome_eq_false_iff, Option.isNone_iff_eq_none, Option.isNone_iff_eq_none] at hn
    exact hq w' hi hf hn.1 hn.2

theorem ok_createSeats {seats : List BookingSeat}
    {Q : Nat → Stack bookingService → BookingWorld → Prop}
    (hq : ∀ w', Inv w' → F w' → Q seats.length
      ((h, t.record (.createSeats seats) seats.length [.seats seats] []) :: ts) w') :
    OkIn strict i c Q h ts (createSeats (some h) seats) t w := by
  refine Ok.sql lawful F hs hF fun w' hi _ hf _ a ws ks hr => ?_
  cases hr
  exact hq w' hi hf

theorem ok_createPassengers {rows : List BookingPassenger}
    {Q : Nat → Stack bookingService → BookingWorld → Prop}
    (hq : ∀ w', Inv w' → F w' → Q rows.length
      ((h, t.record (.createPassengers rows) rows.length [.passengers rows] []) :: ts) w') :
    OkIn strict i c Q h ts (createPassengers (some h) rows) t w := by
  refine Ok.sql lawful F hs hF fun w' hi _ hf _ a ws ks hr => ?_
  cases hr
  exact hq w' hi hf

theorem ok_insertOutbox {event : OutboxEvent}
    {Q : Unit → Stack bookingService → BookingWorld → Prop}
    (hq : ∀ w', Inv w' → F w' → Q ()
      ((h, t.record (.insertOutbox event) () [.outbox event] []) :: ts) w') :
    OkIn strict i c Q h ts (insertOutbox (some h) event) t w := by
  refine Ok.sql lawful F hs hF fun w' hi _ hf _ a ws ks hr => ?_
  cases hr
  exact hq w' hi hf

theorem ok_createSaga {b : Uuid} {step : SagaStep} {status : SagaStatus}
    {Q : SagaLog → Stack bookingService → BookingWorld → Prop}
    (hq : ∀ w', Inv w' → F w' → Q ⟨status, none⟩
      ((h, t.record (.createSaga b step status) ⟨status, none⟩
        [.saga b step ⟨status, none⟩] []) :: ts) w') :
    OkIn strict i c Q h ts (createSaga (some h) b step status) t w := by
  refine Ok.sql lawful F hs hF fun w' hi _ hf _ a ws ks hr => ?_
  simp only [bookingService, run] at hr
  split at hr
  · cases hr
  · cases hr
    exact hq w' hi hf

theorem ok_createIdempotencyKey {data : BookingIdempotencyKey}
    {Q : BookingIdempotencyKey → Stack bookingService → BookingWorld → Prop}
    (hq : ∀ w', Inv w' → F w' → (t.view w'.db).idempotencyKeys data.idempotencyKey = none →
      Q data ((h, t.record (.createIdempotencyKey data) data [.idempotencyKey data] []) :: ts) w') :
    OkIn strict i c Q h ts (createIdempotencyKey (some h) data) t w := by
  refine Ok.sql lawful F hs hF fun w' hi _ hf _ a ws ks hr => ?_
  simp only [bookingService, run] at hr
  split at hr
  · cases hr
  · next hn =>
    cases hr
    exact hq w' hi hf (by simpa using hn)

theorem ok_updateStatus {b : Uuid} {status : BookingStatus} {v : Nat}
    {Q : Bool → Stack bookingService → BookingWorld → Prop}
    (hwon : ∀ w' row, Inv w' → F w' → (t.view w'.db).bookings b = some row → row.version < v →
      Q true ((h, t.record (.updateStatus b status v) true
        [.booking { row with status := status, version := v }] []) :: ts) w')
    (hlost : ∀ w', Inv w' → F w' → (∀ row, (t.view w'.db).bookings b = some row → v ≤ row.version) →
      Q false ((h, t.record (.updateStatus b status v) false [] []) :: ts) w') :
    OkIn strict i c Q h ts (updateStatus (some h) b status v) t w := by
  refine Ok.sql lawful F hs hF fun w' hi _ hf _ a ws ks hr => ?_
  simp only [bookingService, run] at hr
  split at hr
  · next hrow =>
    cases hr
    exact hlost w' hi hf fun row hrow' => by rw [hrow] at hrow'; cases hrow'
  · next row hrow =>
    split at hr
    · next hlt =>
      cases hr
      exact hwon w' row hi hf hrow hlt
    · next hlt =>
      cases hr
      refine hlost w' hi hf fun row' hrow' => ?_
      rw [hrow] at hrow'
      cases hrow'
      exact Nat.le_of_not_lt hlt

theorem ok_update {b : Uuid} {data : BookingUpdate}
    {Q : Booking → Stack bookingService → BookingWorld → Prop}
    (hq : ∀ w' row, Inv w' → F w' → (t.view w'.db).bookings b = some row →
      (∀ n ∈ data.totalPrice, n < decimalLimit) → Q (data.apply row)
        ((h, t.record (.update b data) (data.apply row) [.booking (data.apply row)] []) :: ts) w') :
    OkIn strict i c Q h ts (update (some h) b data) t w := by
  refine Ok.sql lawful F hs hF fun w' hi _ hf _ a ws ks hr => ?_
  simp only [bookingService, run] at hr
  split at hr
  · cases hr
  · next row hrow =>
    split at hr
    · cases hr
    · next hprice =>
      cases hr
      simp only [Option.any_eq_true, decide_eq_true_eq, not_exists, not_and, not_le] at hprice
      exact hq w' row hi hf hrow hprice

theorem ok_updateSaga {b : Uuid} {step : SagaStep} {status : SagaStatus} {error : Option String}
    {Q : SagaLog → Stack bookingService → BookingWorld → Prop}
    (hq : ∀ w', Inv w' → F w' → Q ⟨status, error⟩
      ((h, t.record (.updateSaga b step status error) ⟨status, error⟩
        [.saga b step ⟨status, error⟩] []) :: ts) w') :
    OkIn strict i c Q h ts (updateSaga (some h) b step status error) t w := by
  refine Ok.sql lawful F hs hF fun w' hi _ hf _ a ws ks hr => ?_
  simp only [bookingService, run] at hr
  split at hr
  · cases hr
  · cases hr
    exact hq w' hi hf

theorem ok_randomUUID {Q : Uuid → Stack bookingService → BookingWorld → Prop}
    (hq : ∀ w' uuid, Inv w' → F w' → Drawn uuid i w' →
      (∀ n, (∀ w, F w → n < w.env.fresh) → n < uuid.serial) → Q uuid ((h, t) :: ts) w') :
    OkIn strict i c Q h ts randomUUID t w := by
  have hasks : ∀ w, (discipline strict).asks c .randomUUID w := fun _ => ⟨nofun, nofun⟩
  refine Ok.aux F hs hF (fun w _ => hasks w) fun w' hi _ hf _ ch r e he => ?_
  have hd : (discipline strict).drift w' e := lawful.ask _ _ _ _ _ _ _ (hasks w') he
  have hf' := hs.drift w' e hd hf
  have hi' := (lasting_inv : Lasting (discipline strict) Inv).drift w' e hd hi
  cases he
  refine ⟨fun x hx => ?_, fun x hx => by cases hx⟩
  cases hx
  exact hq _ _ hi' hf' (drawn_fresh hi rfl) (fun n hn => hn w' hf)

omit hs hF in
/-- The transaction that the body leaves satisfies `Commit`, and committing it
leaves what is asked for. -/
theorem commits_intro {α : Type} {a : α} {Q : α → Stack bookingService → BookingWorld → Prop}
    (hs : Held strict i t ts F) (hF : F w)
    (hq : ∀ w', Inv w' → F w' → Commit c t w' ∧ Q a ts (w'.commit c t)) :
    Commits (discipline strict) i c h ts Q a ((h, t) :: ts) w :=
  ⟨t, rfl, F, hs, hF, fun w' hi _ hf _ => hq w' hi hf⟩

end Within

end RailwayBooking.BookingService
