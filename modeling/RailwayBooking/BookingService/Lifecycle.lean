import RailwayBooking.BookingService.StatusEvents

namespace RailwayBooking.BookingService

open Concurrency

def settledStatus : BookingStatus → Bool
  | .confirmed | .cancelled | .expired | .failed => true
  | _ => false

/-- The booking that a call fails or expires. -/
def Call.ends : Call → Option Uuid
  | .markFailed b _ | .markExpired b => some b
  | .seatsHoldFailed (.event e) => some e.bookingId
  | .seatHoldExpired (.event e) => some e.bookingId
  | _ => none

def OutboxEvent.bookingId : OutboxEvent → Uuid
  | .bookingStatusChanged e => e.bookingId
  | .holdSeatsRequested e => e.bookingId

/-- The row of a booking, its events and its saga log stay as they are. -/
structure Untouched (b : Uuid) (d d' : Db) : Prop where
  row : d'.bookings b = d.bookings b
  outbox : d'.outbox.filter (fun ev => ev.bookingId = b) =
    d.outbox.filter (fun ev => ev.bookingId = b)
  sagaLogs : d'.sagaLogs b = d.sagaLogs b

/-- The write has to do with booking `b`. -/
def Write.Touches (b : Uuid) : Write → Prop
  | .booking row => row.id = b
  | .outbox event => event.bookingId = b
  | .saga bookingId _ _ => bookingId = b
  | _ => False

variable {strict : SagaKey → Prop} {c : Call} {t : BookingTx} {w : BookingWorld} {b : Uuid}

theorem untouched_refl (b : Uuid) (d : Db) : Untouched b d d := ⟨rfl, rfl, rfl⟩

theorem Untouched.trans {d₁ d₂ d₃ : Db} (h : Untouched b d₁ d₂) (h' : Untouched b d₂ d₃) :
    Untouched b d₁ d₃ :=
  ⟨h'.row.trans h.row, h'.outbox.trans h.outbox, h'.sagaLogs.trans h.sagaLogs⟩

theorem untouched_apply {x : Write} (d : Db) (h : ¬ x.Touches b) : Untouched b d (x.apply d) := by
  cases x with
  | booking row => exact ⟨Function.update_of_ne (Ne.symm h) _ _, rfl, rfl⟩
  | outbox event =>
    have hb : event.bookingId ≠ b := h
    refine ⟨rfl, ?_, rfl⟩
    simp [Write.apply, hb]
  | saga b' step row =>
    refine ⟨rfl, rfl, ?_⟩
    exact Function.update_of_ne (Ne.symm h) _ _
  | _ => exact ⟨rfl, rfl, rfl⟩

theorem untouched_applyAll (d : Db) {ws : List Write} (h : ∀ x ∈ ws, ¬ x.Touches b) :
    Untouched b d (applyAll d ws) := by
  induction ws generalizing d with
  | nil => exact untouched_refl b d
  | cons x ws ih =>
    have hx := untouched_apply d (h x List.mem_cons_self)
    exact hx.trans (ih _ fun y hy => h y (List.mem_cons_of_mem _ hy))

/-- The ways out of a final status lead through the calls that fail or expire a
booking, and from `CONFIRMED` to `CANCELLING`. -/
theorem edge_settled {s s' : BookingStatus} (h : Edge c b s s') (hs : settledStatus s = true)
    (he : c.ends ≠ some b) : s = .confirmed ∧ s' = .cancelling := by
  cases h with
  | held e => cases hs
  | failed e => cases hs
  | expired e h =>
    exact absurd rfl he
  | transition hper hpermits =>
    cases hper with
    | markFailed b r => exact absurd rfl he
    | markExpired b => exact absurd rfl he
    | _ =>
      cases s <;> first
        | exact ⟨rfl, rfl⟩
        | exact absurd (show false = true from hs) Bool.false_ne_true
        | exact absurd (show false = true from hpermits) Bool.false_ne_true

inductive Respects (i : Nat) (w : BookingWorld) (b : Uuid) (row : Booking) (d' : Db) : Prop
  | untouched (h : Untouched b w.db d')
  | cancelling {row' : Booking} (confirmed : row.status = .confirmed)
      (current : d'.bookings b = some row') (status : row'.status = .cancelling)
  | completed (moved : Moved i b .confirmed w) (current : d'.bookings b = some row)
      (outbox : d'.outbox.filter (fun ev => ev.bookingId = b) =
        w.db.outbox.filter (fun ev => ev.bookingId = b))

theorem untouched_view (h : ∀ x ∈ t.writes, ¬ x.Touches b) : Untouched b w.db (t.view w.db) :=
  untouched_applyAll w.db h

theorem untouched_of_nil (h : t.writes = []) : Untouched b w.db (t.view w.db) :=
  untouched_view (by simp [h])

theorem not_touches_enrich {b' : Uuid} {us : List SeatUpdate} {x : Write}
    (hx : x ∈ us.map (Write.enrich b')) : ¬ x.Touches b := by
  obtain ⟨u, _, rfl⟩ := List.mem_map.mp hx
  exact not_false

theorem respects_saga {row : Booking} {i : Nat} (hrow : w.db.bookings b = some row)
    (hw : t.writes.filterMap Write.row? = []) (he : t.writes.filterMap Write.event? = [])
    (hm : Moved i b .confirmed w) : Respects i w b row (t.view w.db) := by
  refine .completed hm ?_ ?_
  · rw [rows_none hw]
    exact hrow
  · rw [view_eq, applyAll_outbox, he, List.append_nil]

theorem not_touches_updateWrites {args : TransitionArgs} {row : Booking} (hne : row.id ≠ b) :
    ∀ x ∈ args.updateWrites row, ¬ x.Touches b := by
  unfold TransitionArgs.updateWrites
  cases args.updates with
  | none => simp
  | some u =>
    intro x hx
    rw [List.mem_singleton.mp hx]
    exact hne

theorem not_touches_created {x : Insertion} (hne : x.bookingId ≠ b) :
    ∀ y ∈ x.writes, ¬ y.Touches b := by
  simp [Insertion.writes, Write.Touches, OutboxEvent.bookingId, Insertion.row, newBooking,
    Insertion.changed, statusChanged, Insertion.request, holdSeatsPayload, hne]

theorem respects_other {row : Booking} {i : Nat} {ws : List Write} (hw : t.writes = ws)
    (h : ∀ x ∈ ws, ¬ x.Touches b) : Respects i w b row (t.view w.db) :=
  .untouched (untouched_view (hw ▸ h))

/-- A committed transaction leaves a booking in a final status alone, unless it
cancels a confirmed one or completes its own confirmation. -/
theorem Commit.respects {row : Booking} (h : Commit c t w) (hi : Inv w)
    (hc : c.changesStatus = true) (hrow : w.db.bookings b = some row)
    (hs : settledStatus row.status = true) (he : t.writes ≠ [] → c.ends ≠ some b) :
    Respects t.owner w b row (t.view w.db) := by
  have hid := hi.id _ _ hrow
  cases h with
  | replayed _ hw | heldSkipped _ hw | holdFailedSkipped _ hw | holdExpiredSkipped _ hw
  | paymentMissing _ _ hw | paymentSkipped _ _ _ hw => exact .untouched (untouched_of_nil hw)
  | created x _ hw _ hnew _ _ _ _ _ _ =>
    have hne : x.bookingId ≠ b := by
      rintro rfl
      rw [hnew] at hrow
      cases hrow
    exact respects_other hw (not_touches_created hne)
  | @transition _ _ _ args read row' eventId hper hsite hpermits _ _ _ hcur hver hst hw _ =>
    by_cases hb : args.bookingId = b
    · subst hb
      obtain rfl : row' = row := Option.some.inj (hcur.symm.trans hrow)
      have hends := he (by rw [hw]; simp)
      obtain ⟨hconf, htarget⟩ := edge_settled (.transition hper (hst ▸ hpermits)) hs hends
      have hv := bookings_transition (w := w) hid hw
      exact .cancelling hconf (by rw [hv, Function.update_self]) htarget
    · have hne : row'.id ≠ b := by rw [hi.id _ _ hcur]; exact hb
      refine respects_other hw fun x hx => ?_
      obtain hx | hx := List.mem_append.mp hx
      · exact not_touches_updateWrites hne x hx
      · simp only [List.mem_cons, List.not_mem_nil, or_false] at hx
        obtain rfl | rfl := hx
        · simpa [Write.Touches] using hne
        · simpa [Write.Touches, OutboxEvent.bookingId, statusChanged] using hne
  | @recorded _ _ _ b' step status error _ hrec hw =>
    by_cases hb : b' = b
    · subst hb
      cases hrec with
      | payment => cases hc
      | confirmed _ hm => exact respects_saga hrow (by rw [hw]; rfl) (by rw [hw]; rfl) hm
    · exact respects_other hw (by simpa [Write.Touches] using hb)
  | @held e _ _ read row' _ hpend _ _ hcur hver hst hw _ =>
    have hne : e.bookingId ≠ b := by
      rintro rfl
      obtain rfl : row' = row := Option.some.inj (hcur.symm.trans hrow)
      rw [hst, hpend] at hs
      cases hs
    have hid' : row'.id ≠ b := by rw [hi.id _ _ hcur]; exact hne
    refine respects_other hw fun x hx => ?_
    obtain hx | hx := List.mem_append.mp hx
    · exact not_touches_enrich hx
    · simp only [List.mem_cons, List.not_mem_nil, or_false] at hx
      obtain rfl | rfl | rfl := hx
      · exact hid'
      · exact hid'
      · exact hne
  | @holdFailed e _ _ read row' _ _ _ _ hcur _ _ hw
  | @holdFailedBeaten e _ _ read row' _ _ _ _ hcur _ hw
  | @holdExpired e _ _ read row' _ _ _ _ hcur _ _ hw
  | @holdExpiredBeaten e _ _ read row' _ _ _ _ hcur _ hw =>
    have hne : e.bookingId ≠ b := fun hb => he (by rw [hw]; simp) (congrArg some hb)
    have hid' : row'.id ≠ b := by rw [hi.id _ _ hcur]; exact hne
    exact respects_other hw (by simp [Write.Touches, hid', hne])
  | @paid e _ _ _ hm hw =>
    by_cases hb : e.bookingId = b
    · subst hb
      exact respects_saga hrow (by rw [hw]; rfl) (by rw [hw]; rfl) hm
    · exact respects_other hw (by simp [Write.Touches, hb])

theorem Commit.auto_ends (h : Commit c t w) (hs : t.site = .auto) : c.ends = none := by
  cases h with
  | recorded _ hrec _ =>
    cases hrec with
    | payment => rfl
    | confirmed hpays _ =>
      cases c with
      | confirmPayment => rfl
      | paymentSuccess => rfl
      | _ => cases hpays
  | _ => simp_all

/-- Runs in which no call fails or expires a booking in a final status. -/
def lifecycleRuns : Scope machine where
  start c _ := c.changesStatus = true
  allow c t w s := ∀ h t', s = .commit h → t = some t' → t'.writes ≠ [] →
    ∀ b row, c.ends = some b → w.db.bookings b = some row → settledStatus row.status = false

theorem lifecycleRuns_within : lifecycleRuns.Within (discipline fun _ => False) where
  start _ _ _ := trivial
  allow _ _ _ _ _ _ h := h.elim

/-- What a step of call `i` may do to the bookings in a final status. -/
def KeepsLifecycle (p : Pool machine) (a : Action bookingService) (p' : Pool machine) : Prop :=
  ∀ b row, p.world.db.bookings b = some row → settledStatus row.status = true →
    Untouched b p.world.db p'.world.db ∨
      ∃ i ch, a = .run i ch ∧ Respects i p.world b row p'.world.db

theorem keepsLifecycle_of_lifecycleRuns {s : Settings} {p p' : Pool machine}
    {a : Action bookingService} (h : Reachable lifecycleRuns s.pool p)
    (ha : lifecycleRuns.Permits p a) (hp : p.act a = some p') : KeepsLifecycle p a p' := by
  intro b row hrow hs
  have hwf := reachable_wellFormed lifecycleRuns_within h
  obtain ⟨-, he⟩ := wellFormed_act lawful lifecycleRuns_within hwf ha hp
  generalize p'.world = w' at he ⊢
  cases he with
  | none => exact .inl (untouched_refl b _)
  | drift hd => exact .inl (untouched_refl b _)
  | @commit i ch c t s k haction hth hst _ hc _ hpass =>
    refine .inr ⟨i, ch, haction, ?_⟩
    obtain ⟨_, hstart⟩ := h.started rfl c (List.mem_map.mpr ⟨_, List.mem_of_getElem? hth, rfl⟩)
    have hends : t.writes ≠ [] → c.ends ≠ some b := by
      intro hw hends
      cases hpass with
      | commit h' ha =>
        have hfinal := ha h' t rfl rfl hw b row hends hrow
        rw [hs] at hfinal
        cases hfinal
      | single j q x ws ks _ _ ht _ =>
        rw [hc.auto_ends (by rw [ht]; rfl)] at hends
        cases hends
    have hr := hc.respects hwf.inv hstart hrow hs hends
    rwa [hst.owner] at hr

section Runs

def commitsEnd (p : Pool machine) (i : Nat) : Bool :=
  match p.threads[i]? with
  | some ⟨c, some (.call (.commit _) _)⟩ => c.ends.isSome
  | _ => false

def noEnd (p : Pool machine) : Action bookingService → Bool
  | .run i _ => !commitsEnd p i
  | _ => true

theorem permits_noEnd (p : Pool machine) (a : Action bookingService) (h : noEnd p a = true) :
    lifecycleRuns.Permits p a := by
  cases a with
  | run i ch =>
    rintro c s k hth h' t rfl ht hw b row hends hrow
    simp [noEnd, commitsEnd, hth, hends] at h
  | crash i => trivial
  | tick d => trivial

def bookingStatus (p : Pool machine) : Option BookingStatus :=
  (p.world.db.bookings sampleBooking).map Booking.status

set_option maxRecDepth 20000 in
/-- A cancelled booking is left alone by another cancellation. -/
theorem keepsLifecycle_cancelled : ∃ p p', Reachable lifecycleRuns sampleSettings.pool p ∧
    p.act (.run 3 .ok) = some p' ∧ bookingStatus p = some .cancelled ∧
      KeepsLifecycle p (.run 3 .ok) p' := by
  obtain ⟨p, hp, ht⟩ := exists_reachable lifecycleRuns sampleSettings.pool noEnd
    (sampleCreated ++ [.call (.markSeatsHeld sampleBooking 600000), .burst 1 20,
      .call (.cancelBooking sampleBooking 5), .burst 2 40,
      .call (.cancelBooking sampleBooking 5), .burst 3 2])
    (fun p => decide (bookingStatus p = some .cancelled) && (p.act (.run 3 .ok)).isSome &&
      noEnd p (.run 3 .ok))
    permits_noEnd (by simp [sampleCreated, Move.started, Call.changesStatus, lifecycleRuns])
    (by decide)
  simp only [Bool.and_eq_true, decide_eq_true_eq, Option.isSome_iff_exists] at ht
  obtain ⟨⟨hst, p', hact⟩, hok⟩ := ht
  exact ⟨p, p', hp, hact, hst, keepsLifecycle_of_lifecycleRuns hp (permits_noEnd _ _ hok) hact⟩

set_option maxRecDepth 20000 in
/-- An expired booking can still fail. -/
theorem not_keepsLifecycle : ¬ ∀ (s : Settings) (p p' : Pool machine) (a : Action bookingService),
    Reachable statusRuns s.pool p → p.act a = some p' → KeepsLifecycle p a p' := by
  intro hall
  obtain ⟨p, hp, ht⟩ := exists_reachable statusRuns sampleSettings.pool (fun _ _ => true)
    (sampleCreated ++ [.call (.markExpired sampleBooking), .burst 1 20,
      .call (.markFailed sampleBooking "timeout"), .burst 2 6])
    (fun p => decide (bookingStatus p = some .expired ∧
      (p.act (.run 2 .ok)).bind bookingStatus = some .failed))
    (fun p a _ => permits_calls p a) (by simp [sampleCreated, Move.started, Call.changesStatus])
    (by decide)
  obtain ⟨hst, hact⟩ := of_decide_eq_true ht
  obtain ⟨row, hrow, hst⟩ := Option.map_eq_some_iff.mp hst
  obtain ⟨p', hact, hst'⟩ := Option.bind_eq_some_iff.mp hact
  obtain ⟨row', hrow', hst'⟩ := Option.map_eq_some_iff.mp hst'
  have hne : row ≠ row' := by
    rintro rfl
    rw [hst] at hst'
    cases hst'
  have hkeeps := hall sampleSettings p p' _ hp hact sampleBooking row hrow (by rw [hst]; rfl)
  obtain h | ⟨i, ch, -, h⟩ := hkeeps
  · exact hne (Option.some.inj (hrow.symm.trans (h.row.symm.trans hrow')))
  · cases h with
    | untouched h => exact hne (Option.some.inj (hrow.symm.trans (h.row.symm.trans hrow')))
    | cancelling hconf _ _ =>
      rw [hst] at hconf
      cases hconf
    | completed _ hcur _ => exact hne (Option.some.inj (hcur.symm.trans hrow'))

end Runs

end RailwayBooking.BookingService
