import RailwayBooking.BookingService.Specs

namespace RailwayBooking.BookingService

open Concurrency

variable {strict : SagaKey → Prop} {i : Nat} {c : Call} {h : Nat} {t : BookingTx}
  {ts : Stack bookingService} {w : BookingWorld} {args : TransitionArgs} {read row : Booking}

/-- The transaction has read the booking and applied the optional updates. -/
structure Prepared (args : TransitionArgs) (read : Booking) (i : Nat) (t : BookingTx) : Prop where
  owner : t.owner = i
  site : t.site = .transition
  answered : t.Answered (.findById args.bookingId) (some read)
  unbeaten : ∀ b s v, ¬ t.Answered (.updateStatus b s v) false

def UpdatedFrom (args : TransitionArgs) (read : Booking) (t : BookingTx) (w : BookingWorld) : Prop :=
  ∃ row, w.db.bookings args.bookingId = some row ∧ t.writes = args.updateWrites row ∧
    read.Same row ∧ read.version ≤ row.version ∧
    (row.version = read.version → row.status = read.status)

theorem view_updated (hi : Inv w) (hrow : w.db.bookings args.bookingId = some row)
    (hw : t.writes = args.updateWrites row) :
    (t.view w.db).bookings args.bookingId = some (args.updated row) := by
  have hid := hi.id _ _ hrow
  rw [view_eq, applyAll_bookings, hw, updateWrites_rows]
  unfold TransitionArgs.updated
  cases args.updates with
  | none => exact hrow
  | some u =>
    change putRow w.db.bookings (u.apply row) args.bookingId = _
    rw [← hid]
    exact putRow_same w.db.bookings (u.apply row)

theorem updated_version (args : TransitionArgs) (row : Booking) :
    (args.updated row).version = row.version := by
  unfold TransitionArgs.updated
  cases args.updates <;> rfl

theorem updated_moved (args : TransitionArgs) {row : Booking} {v : Nat} (h : row.version + 1 = v) :
    { args.updated row with status := args.target, version := v } = args.moved row := by
  rw [TransitionArgs.moved, h]

theorem statusChanged_congr {eventId : Uuid} {row row' : Booking} {p : Option BookingStatus}
    (h : row.Same row') (hs : row'.status = row.status) (hv : row'.version = row.version) :
    statusChanged eventId row' p = statusChanged eventId row p := by
  simp only [statusChanged, h.id, h.pnr, h.userId, hs, hv]

theorem moved_row (i : Nat) (w : BookingWorld) {t : BookingTx} {status : BookingStatus} {b : Uuid}
    {v : Nat} {row : Booking} (ho : t.owner = i) (hsite : t.site = .transition)
    (ha : t.Answered (.updateStatus b status v) true) (hw : .booking row ∈ t.writes)
    (hid : row.id = b) (hst : row.status = status) : Moved i b status (w.commit c t) :=
  ⟨c, t, v, row, List.mem_append_right _ List.mem_cons_self, ho, hsite, ha, hw, hid, hst⟩

/-- Once the swap has succeeded the row is locked: the event is written and the
transaction commits as a `Commit.transition`. -/
theorem ok_transition_event (hrow : w.db.bookings args.bookingId = some row)
    (hid : row.id = args.bookingId)
    (hwrites : t.writes = args.updateWrites row ++ [.booking (args.moved row)])
    (hlock : .booking args.bookingId ∈ t.locks) (hsame : read.Same row)
    (hver : row.version = read.version) (hst : row.status = read.status)
    (hper : Performs c args) (hpermits : args.permits read.status = true)
    (ht : Prepared args read i t)
    (hwon : t.Answered (.updateStatus args.bookingId args.target (read.version + 1)) true) :
    OkIn strict i c (Commits (discipline strict) i c h ts fun _ ts' w =>
        ts' = ts ∧ Moved i args.bookingId args.target w) h ts
      (do
        let eventId ← randomUUID
        insertOutbox (some h) (.bookingStatusChanged (statusChanged eventId
          { read with status := args.target, version := read.version + 1 } (some read.status))))
      t w := by
  have hkey : .booking args.bookingId ∈ t.locks ++ ts.locks := List.mem_append_left _ hlock
  refine Ok.seq (ok_randomUUID _ (stable_row (some row) hkey) hrow fun w₁ uuid _ hrow₁ hd _ => ?_)
  have hlocked : Stable (discipline strict) i (t.locks ++ ts.locks)
      (fun w => w.db.bookings args.bookingId = some row) := stable_row (some row) hkey
  have hstable := hlocked.and _ (stable_drawn uuid)
  refine ok_insertOutbox _ hstable ⟨hrow₁, hd⟩ fun w₂ _ hf₂ => ?_
  refine commits_intro _ (hstable.mono _ ?_) hf₂ fun w₃ _ hf₃ => ⟨?_, rfl, ?_⟩
  · intro k hk
    simpa [Tx.rowKeys, Write.keys] using hk
  · have hev : statusChanged uuid (args.moved row) (some row.status) = statusChanged uuid
        { read with status := args.target, version := read.version + 1 } (some read.status) := by
      have hm := hsame.trans (args.moved_same row)
      rw [hst]
      exact statusChanged_congr ⟨hm.id, hm.pnr, hm.userId, hm.scheduleId, hm.fromStationId,
        hm.toStationId⟩ rfl (by simp [hver])
    refine .transition hper ht.site hpermits (ht.answered.record _ _ _ _) (hwon.record _ _ _ _)
      (fun b s v => Tx.not_answered_record _ _ _ _ (ht.unbeaten b s v) (by simp)) hf₃.1 hver hst ?_
      (by simpa [ht.owner] using hf₃.2)
    simp [hwrites, hev]
  · exact moved_row i w₃ ht.owner ht.site (hwon.record _ _ _ _)
      (by simp [hwrites]) ((args.moved_id row).trans hid) rfl

theorem ok_transition_swap (F : BookingWorld → Prop) (hs : Held strict i t ts F) (hF : F w)
    (hfrom : ∀ w, F w → UpdatedFrom args read t w) (hper : Performs c args)
    (hpermits : args.permits read.status = true) (ht : Prepared args read i t) :
    OkIn strict i c (Commits (discipline strict) i c h ts fun _ ts' w =>
        ts' = ts ∧ Moved i args.bookingId args.target w) h ts
      (do
        let updated ← updateStatus (some h) args.bookingId args.target (read.version + 1)
        if !updated then
          raise (.api 409 .bookingInvalidTransition (some ("Booking " ++ args.bookingId.text ++
            " status CAS failed — version " ++ toString read.version ++ " was stale.")))
        else do
          let eventId ← randomUUID
          insertOutbox (some h) (.bookingStatusChanged (statusChanged eventId
            { read with status := args.target, version := read.version + 1 } (some read.status))))
      t w := by
  refine Ok.seq (ok_updateStatus F hs hF (fun w₁ row' hi hf hview hlt => ?_) fun w₁ _ _ _ => ?_)
  · obtain ⟨row, hrow, hwrites, hsame, hle, hst⟩ := hfrom w₁ hf
    rw [view_updated hi hrow hwrites] at hview
    cases hview
    rw [updated_version] at hlt
    have hver : row.version = read.version := by omega
    rw [updated_moved args (by omega)]
    refine ok_transition_event hrow (hi.id _ _ hrow) (by simp [hwrites]) ?_ hsame hver (hst hver)
      hper hpermits
      ⟨ht.owner, ht.site, ht.answered.record _ _ _ _, fun b s v =>
        Tx.not_answered_record _ _ _ _ (ht.unbeaten b s v) (by simp)⟩ (Tx.answered_record _ _ _ _ _)
    simp [Tx.rowKeys, Write.keys, hi.id _ _ hrow]
  · exact ⟨rfl, _, rfl⟩

theorem ok_transition (hper : Performs c args) :
    Ok (discipline strict) i c (fun _ ts' w => ts' = ts ∧ Moved i args.bookingId args.target w)
      (Outside (discipline strict) ts) (transition args) ts w := by
  refine Ok.transaction_any lawful fun h w _ _ => ?_
  refine Ok.seq (ok_findById (fun _ => True) (stable_const _ _ _ _) trivial
    fun w₁ found hi _ hfound => ?_)
  cases found with
  | none => exact ⟨rfl, _, rfl⟩
  | some read =>
    dsimp only
    by_cases hpermits : args.permits read.status = true
    · rw [if_neg (by simp [hpermits])]
      have ht : Prepared args read i (Tx.record (V := bookingService) (Tx.start i .transition)
          (.findById args.bookingId) (some read) [] []) :=
        ⟨rfl, rfl, Tx.answered_record _ _ _ _ _, fun b s v =>
          Tx.not_answered_record _ _ _ _ (Tx.not_answered_start _ _ _ _) (by simp)⟩
      have hseen : Seen args.bookingId read w₁ := seen_of_read hfound
      refine Ok.seq ?_
      unfold applyUpdates
      cases hu : args.updates with
      | none =>
        refine ok_transition_swap _ ((lasting_seen _ read).stable _ i _) hseen (fun w hw => ?_)
          hper hpermits ht
        obtain ⟨row, hrow, hsame, hle, hst⟩ := hw
        exact ⟨row, hrow, by simp [TransitionArgs.updateWrites, hu, Tx.start], hsame, hle, hst⟩
      | some u =>
        refine Ok.seq (ok_update _ ((lasting_seen _ read).stable _ i _) hseen
          fun w₂ row hi₂ hseen₂ hrow _ => ?_)
        obtain ⟨row', hrow', hsame, hle, hst⟩ := hseen₂
        obtain rfl : row' = row := Option.some.inj (hrow'.symm.trans hrow)
        have hid := hi₂.id _ _ hrow'
        refine ok_transition_swap _ (stable_row (some row') ?_) hrow' (fun w hw => ?_) hper hpermits
          ⟨ht.owner, ht.site, ht.answered.record _ _ _ _, fun b s v =>
            Tx.not_answered_record _ _ _ _ (ht.unbeaten b s v) (by simp)⟩
        · simp [Tx.rowKeys, Write.keys, hid]
        · exact ⟨row', hw, by simp [TransitionArgs.updateWrites, hu, Tx.start], hsame, hle, hst⟩
    · rw [if_pos (by simpa using hpermits)]
      exact ⟨rfl, _, rfl⟩

end RailwayBooking.BookingService
