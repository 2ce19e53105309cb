import RailwayBooking.BookingService.Specs

namespace RailwayBooking.BookingService

open Concurrency

variable {strict : SagaKey → Prop} {i : Nat} {c : Call} {h : Nat} {t : BookingTx}
  {ts : Stack bookingService} {w : BookingWorld}

theorem ok_generatePnr {F : BookingWorld → Prop} (hF : Lasting (discipline strict) F) (hw : F w) :
    Ok (discipline strict) i c (fun _ ts' w => ts' = (h, t) :: ts ∧ F w)
      (Inside (discipline strict) h ts) generatePnr ((h, t) :: ts) w :=
  Ok.mono (fun _ _ _ hq => hq) (fun _ _ _ hx => ⟨hx.1, t, hx.2⟩)
    (Ok.aux_any lawful hF hw fun _ _ => ⟨nofun, nofun⟩)

section Transaction

variable {userId : Id} {dto : CreateBookingDto} {bookingId : Uuid} {ids : List Id}
  {holdTtlMs pnr : Nat}

def Inserting (dto : CreateBookingDto) (bookingId : Uuid) (pnr : Nat) (ids : List Id)
    (w : BookingWorld) : Prop :=
  (w.db.bookings bookingId = none ∧ w.db.pnrs pnr = none) ∧ ResolvedSeats dto ids w

theorem stable_inserting {ks : List Key} (hb : .booking bookingId ∈ ks) (hp : .pnr pnr ∈ ks) :
    Stable (discipline strict) i ks (Inserting dto bookingId pnr ids) :=
  ((stable_row none hb).and _ (stable_pnr none hp)).and _
    ((lasting_resolvedSeats dto ids).stable _ i ks)

theorem ok_insertions (hF : Inserting dto bookingId pnr ids w)
    (ho : t.owner = i) (hsite : t.site = .createBooking) (hsource : bookingId.source = i)
    (hwrites : t.writes = [.booking (newBooking userId dto bookingId pnr)])
    (hb : .booking bookingId ∈ t.locks) (hp : .pnr pnr ∈ t.locks) :
    OkIn strict i (.createBooking userId dto)
      (Commits (discipline strict) i (.createBooking userId dto) h ts
        fun r ts' w => ts' = ts ∧ Recorded dto.idempotencyKey r w) h ts
      (do
        let booking := newBooking userId dto bookingId pnr
        let _ ← createSeats (some h) (newSeats dto booking.id)
        let _ ← createPassengers (some h) (newPassengers dto booking.id)
        let eventId ← randomUUID
        insertOutbox (some h) (.bookingStatusChanged (statusChanged eventId booking none))
        let _ ← createSaga (some h) booking.id .holdSeats .pending
        let _ ← createSaga (some h) booking.id .createPayment .pending
        let _ ← createSaga (some h) booking.id .confirmSeats .pending
        let holdEventId ← randomUUID
        insertOutbox (some h) (.holdSeatsRequested
          (holdSeatsPayload dto holdEventId booking ids holdTtlMs))
        let responseBody : CreateBookingResponse := ⟨booking.id, booking.pnr, booking.status⟩
        let _ ← createIdempotencyKey (some h) ⟨dto.idempotencyKey, booking.id, responseBody⟩
        pure responseBody)
      t w := by
  have hs : ∀ ks : List Key, (∀ k ∈ t.locks, k ∈ ks) →
      Stable (discipline strict) i ks (Inserting dto bookingId pnr ids) :=
    fun ks hk => stable_inserting (hk _ hb) (hk _ hp)
  refine Ok.seq (ok_createSeats _ (hs _ ?_) hF fun w₁ _ hF => ?_)
  · exact fun k hk => List.mem_append_left _ hk
  refine Ok.seq (ok_createPassengers _ (hs _ ?_) hF fun w₂ _ hF => ?_)
  · exact fun k hk => by simp [hk]
  refine Ok.seq (ok_randomUUID _ (hs _ ?_) hF fun w₃ eventId _ hF hd _ => ?_)
  · exact fun k hk => by simp [hk]
  have hs' : ∀ ks : List Key, (∀ k ∈ t.locks, k ∈ ks) → Stable (discipline strict) i ks
      (fun w => Inserting dto bookingId pnr ids w ∧ Drawn eventId i w) :=
    fun ks hk => (hs ks hk).and _ (stable_drawn eventId)
  refine Ok.seq (ok_insertOutbox _ (hs' _ ?_) ⟨hF, hd⟩ fun w₄ _ hF => ?_)
  · exact fun k hk => by simp [hk]
  refine Ok.seq (ok_createSaga _ (hs' _ ?_) hF fun w₅ _ hF => ?_)
  · exact fun k hk => by simp [hk]
  refine Ok.seq (ok_createSaga _ (hs' _ ?_) hF fun w₆ _ hF => ?_)
  · exact fun k hk => by simp [hk]
  refine Ok.seq (ok_createSaga _ (hs' _ ?_) hF fun w₇ _ hF => ?_)
  · exact fun k hk => by simp [hk]
  refine Ok.seq (ok_randomUUID _ (hs' _ ?_) hF fun w₈ holdEventId _ hF hd' hlt => ?_)
  · exact fun k hk => by simp [hk]
  have horder : eventId.serial < holdEventId.serial := hlt _ (fun w hw => hw.2.drawn)
  have hs'' : ∀ ks : List Key, (∀ k ∈ t.locks, k ∈ ks) → Stable (discipline strict) i ks
      (fun w => (Inserting dto bookingId pnr ids w ∧ Drawn eventId i w) ∧ Drawn holdEventId i w) :=
    fun ks hk => (hs' ks hk).and _ (stable_drawn holdEventId)
  refine Ok.seq (ok_insertOutbox _ (hs'' _ ?_) ⟨hF, hd'⟩ fun w₉ _ hF => ?_)
  · exact fun k hk => by simp [hk]
  refine Ok.seq (ok_createIdempotencyKey _ (hs'' _ ?_) hF fun w₁₀ _ hF hkey => ?_)
  · exact fun k hk => by simp [hk]
  have hkey' : w₁₀.db.idempotencyKeys dto.idempotencyKey = none := by
    rw [view_eq, applyAll_idempotencyKeys_other] at hkey
    · exact hkey
    · simp [hwrites, Write.keys]
  refine commits_intro _ ((hs'' _ ?_).and _ (stable_key none ?_)) ⟨hF, hkey'⟩
    fun w hi hF => ?_
  · exact fun k hk => by simp [hk]
  · simp [Tx.rowKeys, Write.keys]
  · obtain ⟨⟨⟨⟨⟨hnew, hpnr⟩, hres⟩, hd⟩, hd'⟩, hkey⟩ := hF
    let x : Insertion := ⟨userId, dto, bookingId, pnr, ids, holdTtlMs, eventId, holdEventId⟩
    have ho' := ho.symm ▸ hsource
    generalize ht : Tx.record _ _ _ _ _ = t'
    have hw : t'.writes = x.writes := by
      simp [← ht, hwrites, x, Insertion.writes, Insertion.row, Insertion.changed,
        Insertion.request, Insertion.response, newBooking]
    have howner : t'.owner = i := by simpa [← ht] using ho
    refine ⟨Commit.created x (by simpa [← ht] using hsite) hw (by simpa [← ht] using ho') hnew hpnr
      hkey (howner ▸ hd) (howner ▸ hd') horder hres, rfl, ?_⟩
    refine ⟨⟨dto.idempotencyKey, bookingId, x.response⟩, ?_, rfl⟩
    exact (congrFun (idempotencyKeys_created hw) _).trans (Function.update_self _ _ _)

theorem ok_createBookingTransaction (hres : ResolvedSeats dto ids w) (hsource : bookingId.source = i) :
    Ok (discipline strict) i (.createBooking userId dto)
      (fun r ts' w => ts' = ts ∧ Recorded dto.idempotencyKey r w) (Outside (discipline strict) ts)
      (createBookingTransaction userId dto bookingId ids holdTtlMs) ts w := by
  have hl : Lasting (discipline strict) (ResolvedSeats dto ids) := lasting_resolvedSeats dto ids
  refine Ok.transaction lawful _ (hl.stable _ i _) hres fun h w hi _ hres => ?_
  refine Ok.seq (ok_findIdempotencyKey _ (hl.stable _ i _) hres fun w₁ found _ hres hfound => ?_)
  cases found with
  | some existing =>
    have hrec : Recorded dto.idempotencyKey existing.responseBody w₁ := ⟨existing, hfound, rfl⟩
    have hlast : Lasting (discipline strict) (Recorded dto.idempotencyKey existing.responseBody) :=
      lasting_recorded _ _
    refine commits_intro _ (hlast.stable _ i _) hrec fun w _ hrec => ?_
    exact ⟨.replayed rfl rfl, rfl, hrec⟩
  | none =>
    refine Ok.seq (Ok.mono ?_ (fun _ _ _ hx => hx) (ok_generatePnr hl hres))
    rintro pnr _ w₂ ⟨rfl, hres⟩
    refine Ok.seq (ok_create _ (hl.stable _ i _) hres fun w₃ hi hres hnew hpnr => ?_)
    refine ok_insertions ⟨⟨hnew, hpnr⟩, hres⟩ rfl rfl hsource rfl ?_ ?_
    · simp [Tx.rowKeys, Write.keys, newBooking]
    · simp [Tx.rowKeys, Write.keys, newBooking]

end Transaction

end RailwayBooking.BookingService
