import RailwayBooking.BookingService.CreateSound
import RailwayBooking.BookingService.TransitionSound

namespace RailwayBooking.BookingService

open Concurrency

variable {strict : SagaKey → Prop} {i : Nat} {c : Call} {ts : Stack bookingService} {w : BookingWorld}
  {b : Uuid}

abbrev OkOut (strict : SagaKey → Prop) (i : Nat) (c : Call) {α : Type}
    (Q : α → Stack bookingService → BookingWorld → Prop) (ts : Stack bookingService)
    (p : BookingCode α) (w : BookingWorld) : Prop :=
  Ok (discipline strict) i c Q (Outside (discipline strict) ts) p ts w

theorem ok_aux {a : Aux} {F : BookingWorld → Prop}
    (ha : (∀ key, a ≠ .markProcessed key) ∧ ∀ b u n, a ≠ .createOrder b u n)
    (hF : Lasting (discipline strict) F) (hw : F w) :
    OkOut strict i c (fun _ ts' w => ts' = ts ∧ F w) ts (Code.aux (V := bookingService) a) w :=
  Ok.aux_any lawful hF hw fun _ _ =>
    ⟨fun key hk => absurd hk (ha.1 key), fun b u n hk => absurd hk (ha.2 b u n)⟩

theorem ok_findIdempotencyKey_auto {k : Id} :
    OkOut strict i c (fun found ts' w => ts' = ts ∧ w.db.idempotencyKeys k = found) ts
      (findIdempotencyKey none k) w := by
  refine Ok.read lawful (fun _ => True) (stable_const _ _ _ _) trivial (fun d a ws ks h => ?_)
    fun w' _ _ _ _ a ws ks h => ?_
  · cases h
    rfl
  · cases h
    exact ⟨rfl, rfl⟩

theorem ok_updateSaga_auto {step : SagaStep} {status : SagaStatus} {error : Option String}
    {F : BookingWorld → Prop} (hF : Lasting (discipline strict) F) (hw : F w)
    (hrec : ∀ w, F w → Records i w c b step status) :
    OkOut strict i c (fun _ ts' w => ts' = ts ∧ F w) ts (updateSaga none b step status error) w := by
  refine Ok.auto lawful F (hF.stable _ i _) hw fun w' hi _ hf _ a ws ks h => ?_
  simp only [bookingService, run] at h
  split at h
  · cases h
  · cases h
    rw [if_neg (by simp)]
    have hc : Commit c (Shared.single bookingService i (.updateSaga b step status error)
        ⟨status, error⟩ [.saga b step ⟨status, error⟩] []) w' := .recorded rfl (hrec w' hf) rfl
    exact ⟨hc, rfl, hF.commit w' c _ hi trivial hc (Shared.covered_single i _ _ _ _) hf⟩

theorem ok_updateSagaQuietly {step : SagaStep} {status : SagaStatus} {error : Option String}
    (hrec : ∀ w, Records i w c b step status) :
    OkOut strict i c (fun _ ts' _ => ts' = ts) ts (updateSagaQuietly b step status error) w := by
  refine Ok.attempt (Ok.bind ?_ (ok_updateSaga_auto lasting_true trivial
    fun w _ => hrec w)) ?_
  · rintro _ ts' w' ⟨rfl, -⟩
    exact rfl
  · rintro e ts' w' ⟨-, rfl⟩
    exact rfl

theorem ok_findOwned {u : Id} {missing foreign : Option String} :
    OkOut strict i c (fun booking ts' w => ts' = ts ∧ booking.id = b ∧
      Quoted b (minorUnits booking.totalPrice) w) ts (findOwned b u missing foreign) w := by
  refine Ok.seq (Ok.read lawful _ (lasting_true.stable _ i _) trivial
    (fun d a ws ks hr => by cases hr; rfl) fun w₁ hi _ _ _ found ws ks hr => ?_)
  cases hr
  cases hrow : w₁.db.bookings b with
  | none => exact ⟨rfl, rfl⟩
  | some booking =>
    dsimp only
    split
    · exact ⟨rfl, rfl⟩
    · exact ⟨rfl, hi.id _ _ hrow, quoted_of_read hi hrow⟩

theorem ok_cancelBooking {u : Id} :
    OkOut strict i (.cancelBooking b u) (fun _ ts' _ => ts' = ts) ts (cancelBooking b u) w := by
  refine Ok.bind ?_ ok_findOwned
  rintro _ ts' w' ⟨rfl, -⟩
  refine Ok.bind ?_ (ok_transition (.cancelling b u))
  rintro _ ts'' w'' ⟨rfl, -⟩
  exact Ok.mono (fun _ _ _ hq => hq.1) (fun _ _ _ hx => hx) (ok_transition (.cancelled b u))

theorem ok_payHeld {booking : Booking} (hp : c.pays = some b) :
    OkOut strict i c (fun _ ts' _ => ts' = ts) ts (payHeld booking b) w := by
  unfold payHeld
  split
  · refine Ok.bind ?_ (ok_aux (by simp) lasting_true trivial)
    rintro uuid ts' w' ⟨rfl, -⟩
    exact Ok.mono (fun _ _ _ hq => hq.1) (fun _ _ _ hx => hx) (ok_transition (.payHeld uuid hp))
  · exact rfl

theorem ok_confirmPayment {u : Id} (hp : c.pays = some b) :
    OkOut strict i c (fun _ ts' w => ts' = ts ∧ Moved i b .confirmed w) ts (confirmPayment b u) w := by
  refine Ok.bind ?_ ok_findOwned
  rintro booking ts' w' ⟨rfl, -⟩
  refine Ok.bind ?_ (ok_payHeld hp)
  rintro _ ts'' w'' rfl
  refine Ok.bind ?_ (ok_transition (.payConfirming hp))
  rintro _ ts₁ w₁ ⟨rfl, -⟩
  refine Ok.bind ?_ (ok_transition (.payConfirmed hp))
  rintro _ ts₂ w₂ ⟨rfl, hm⟩
  refine Ok.bind ?_ (ok_updateSaga_auto (lasting_moved i b .confirmed) hm
    fun w hm => .confirmed hp hm)
  exact fun _ _ _ hq => hq

theorem mapped_retryable (m : String) (e : Err) :
    (e.mapGrpcClientErrorToApiError m).isNonRetryable = false := by
  cases e <;> rfl

theorem ok_createOrder {u : Id} {amount : Nat} (hw : Quoted b amount w) :
    OkOut strict i c (fun _ ts' _ => ts' = ts) ts (createOrder b u amount) w := by
  refine Ok.attempt (Ok.mono (fun _ _ _ hq => hq.1) (fun _ _ _ hx => hx)
    (Ok.aux_any lawful (lasting_quoted b amount) hw fun w hw => ⟨nofun, fun b' u' n he => ?_⟩)) ?_
  · cases he
    exact hw
  · rintro e ts' w' ⟨-, rfl⟩
    exact ⟨mapped_retryable _ e, rfl⟩

theorem ok_orderPayment {booking : Booking} {u : Id} (hid : booking.id = b)
    (hw : Quoted b (minorUnits booking.totalPrice) w) :
    OkOut strict i (.createPaymentOrder b u) (fun _ ts' _ => ts' = ts) ts
      (Program.attempt (createOrder booking.id booking.userId (minorUnits booking.totalPrice))
        (fun err => do
          updateSagaQuietly b .createPayment .failed (some err.message)
          raise (.api 503 .internalError
            "Payment service is currently unavailable. Please try again."))) w := by
  subst hid
  refine Ok.attempt (ok_createOrder hw) ?_
  rintro e ts' w' ⟨-, rfl⟩
  refine Ok.bind ?_ (ok_updateSagaQuietly fun w => .payment .failed (.inl rfl))
  rintro _ ts₁ w₁ rfl
  exact ⟨rfl, rfl⟩

theorem ok_createPaymentOrder {u : Id} :
    OkOut strict i (.createPaymentOrder b u) (fun _ ts' _ => ts' = ts) ts
      (createPaymentOrder b u) w := by
  refine Ok.bind ?_ ok_findOwned
  rintro booking ts' w' ⟨rfl, hid, hquoted⟩
  refine Ok.bind ?_ (ok_orderPayment hid hquoted)
  rintro order ts'' w'' rfl
  refine Ok.bind ?_ (ok_updateSagaQuietly fun w => .payment .completed (.inr rfl))
  rintro _ ts₁ w₁ rfl
  split
  · refine Ok.bind ?_ (ok_transition (.ordered b u order.paymentOrderId))
    rintro _ ts₂ w₂ ⟨rfl, -⟩
    exact rfl
  · exact rfl

section Create

variable {dto : CreateBookingDto} {userId : Id}

theorem ok_validateBooking {s f t : Id} :
    OkOut strict i c (fun _ ts' _ => ts' = ts) ts (validateBooking s f t) w := by
  have hask : OkOut strict i c (fun _ ts' _ => ts' = ts) ts
      (Program.attempt (Code.aux (V := bookingService) (.validateBooking s f t))
        (fun err => raise (err.mapGrpcClientErrorToApiError
          "Could not validate booking schedule. Please retry shortly."))) w := by
    refine Ok.attempt (Ok.mono (fun _ _ _ hq => hq.1) (fun _ _ _ hx => hx)
      (ok_aux (by simp) lasting_true trivial)) ?_
    rintro e ts' w' ⟨-, rfl⟩
    exact ⟨mapped_retryable _ e, rfl⟩
  refine Ok.bind ?_ hask
  rintro status ts' w' rfl
  cases status <;> first | exact rfl | exact ⟨rfl, rfl⟩

theorem ask_seats {s : Id} {ids : List Id} {e e' : Env} {ch : Choice Reply}
    {seats : List SeatDetails} (h : ask e i (.getSeatsDetailsBatch s ids) ch = some (.ok seats, e')) :
    ∀ f ∈ e'.catalog, seats = f s ids := by
  intro f hf
  cases ch with
  | ok =>
    obtain ⟨g, hg, hx⟩ := Option.map_eq_some_iff.mp h
    cases hx
    rw [Option.mem_def, hg] at hf
    cases hf
    rfl
  | reply r =>
    cases r with
    | seats s' =>
      simp only [ask, Option.ite_none_right_eq_some, Option.isNone_iff_eq_none] at h
      obtain ⟨hn, hx⟩ := h
      cases hx
      rw [hn] at hf
      cases hf
    | _ => cases h
  | _ => cases h

theorem ok_getSeatsDetailsBatch {s : Id} {ids : List Id} :
    OkOut strict i c (fun seats ts' w => ts' = ts ∧ ∀ f ∈ w.env.catalog, seats = f s ids) ts
      (Code.aux (V := bookingService) (.getSeatsDetailsBatch s ids)) w := by
  refine Ok.aux (fun _ => True) (stable_const _ _ _ _) trivial (fun _ _ => ⟨nofun, nofun⟩)
    fun w' _ _ _ _ ch r e he => ?_
  refine ⟨fun seats hr => ⟨rfl, ?_⟩, fun x hx => ⟨lawful.answer _ _ _ _ _ _ (hx ▸ he), rfl⟩⟩
  subst hr
  exact ask_seats he

theorem ok_resolveSeatInventoryIds :
    OkOut strict i c (fun ids ts' w => ts' = ts ∧ ResolvedSeats dto ids w) ts
      (resolveSeatInventoryIds dto.scheduleId dto.seatIds) w := by
  refine Ok.attempt (Ok.bind ?_ ok_getSeatsDetailsBatch) ?_
  · rintro seats ts' w' ⟨rfl, hseats⟩
    by_cases hlen : seats.length = dto.seatIds.length
    · rw [if_neg (by simp [hlen])]
      cases hids : seatInventoryIdsOf seats dto.seatIds with
      | none => exact ⟨rfl, rfl⟩
      | some ids =>
        refine ⟨rfl, fun f hf => ?_⟩
        rw [← hseats f hf]
        exact ⟨hlen, hids⟩
    · rw [if_pos hlen]
      exact ⟨rfl, rfl⟩
  · rintro e ts' w' ⟨-, rfl⟩
    exact ⟨mapped_retryable _ e, rfl⟩

theorem ok_acquireSeatLocks {args : SeatLocksArgs} {ttl : Nat} {F : BookingWorld → Prop}
    (hF : Lasting (discipline strict) F) (hw : F w) :
    OkOut strict i c (fun _ ts' w => ts' = ts ∧ F w) ts (acquireSeatLocks args ttl) w := by
  unfold acquireSeatLocks
  split
  · exact ⟨rfl, hw⟩
  · refine Ok.attempt (X := fun e ts' w => Outside (discipline strict) ts e ts' w ∧ F w) ?_ ?_
    · exact Ok.mono (fun _ _ _ hq => ⟨hq.1.1, hq.2⟩) (fun _ _ _ hx => hx)
        (Ok.frame lawful hF hw (ok_aux (by simp) lasting_true trivial))
    · rintro e ts' w' ⟨⟨-, rfl⟩, hf⟩
      exact ⟨rfl, hf⟩

theorem ok_releaseSeatLocks {args : SeatLocksArgs} :
    OkOut strict i c (fun _ ts' _ => ts' = ts) ts (releaseSeatLocks args) w := by
  unfold releaseSeatLocks
  split
  · exact rfl
  · refine Ok.attempt (Ok.mono (fun _ _ _ hq => hq.1) (fun _ _ _ hx => hx)
      (ok_aux (by simp) lasting_true trivial)) ?_
    rintro e ts' w' ⟨-, rfl⟩
    exact rfl

theorem ok_bookingId {F : BookingWorld → Prop} (hF : Lasting (discipline strict) F) (hw : F w) :
    OkOut strict i c (fun uuid ts' w => ts' = ts ∧ uuid.source = i ∧ F w) ts randomUUID w := by
  have hasks : ∀ w, (discipline strict).asks c .randomUUID w := fun _ => ⟨nofun, nofun⟩
  refine Ok.aux F (hF.stable _ i _) hw (fun w _ => hasks w) fun w' _ _ hf _ ch r e he => ?_
  have hf' := hF.drift w' e (lawful.ask _ _ _ _ _ _ _ (hasks w') he) hf
  cases he
  exact ⟨fun x hx => by cases hx; exact ⟨rfl, rfl, hf'⟩, fun x hx => by cases hx⟩

theorem ok_createBooking :
    OkOut strict i (.createBooking userId dto)
      (fun r ts' w => ts' = ts ∧ Recorded dto.idempotencyKey r w) ts (createBooking userId dto) w := by
  refine Ok.bind ?_ ok_findIdempotencyKey_auto
  rintro found ts' w' ⟨rfl, hfound⟩
  cases found with
  | some existing => exact ⟨rfl, existing, hfound, rfl⟩
  | none =>
    refine Ok.bind ?_ ok_validateBooking
    rintro _ ts₁ w₁ rfl
    refine Ok.bind ?_ ok_resolveSeatInventoryIds
    rintro ids ts₂ w₂ ⟨rfl, hres⟩
    refine Ok.bind ?_ (ok_bookingId (lasting_resolvedSeats dto ids) hres)
    rintro bookingId ts₃ w₃ ⟨rfl, hsource, hres⟩
    refine Ok.bind ?_ (ok_aux (by simp) (lasting_resolvedSeats dto ids) hres)
    rintro holdTtlMs ts₄ w₄ ⟨rfl, hres⟩
    refine Ok.bind ?_ (ok_acquireSeatLocks (lasting_resolvedSeats dto ids) hres)
    rintro acquired ts₅ w₅ ⟨rfl, hres⟩
    cases acquired with
    | false => exact ⟨rfl, rfl⟩
    | true =>
      refine Ok.attempt (ok_createBookingTransaction hres hsource) ?_
      rintro e ts₆ w₆ ⟨he, rfl⟩
      refine Ok.bind ?_ ok_releaseSeatLocks
      rintro _ ts₇ w₇ rfl
      exact ⟨he, rfl⟩

end Create

end RailwayBooking.BookingService
