import Mathlib.Data.List.Chain
import RailwayBooking.Concurrency.Schedule
import RailwayBooking.BookingService.SagaSound

namespace RailwayBooking.BookingService

open Concurrency

def statusOf (b : Uuid) : OutboxEvent → Option BookingStatusChanged
  | .bookingStatusChanged e => if e.bookingId = b then some e else none
  | .holdSeatsRequested _ => none

def statusRows (b : Uuid) (d : Db) : List BookingStatusChanged := d.outbox.filterMap (statusOf b)

/-- The events tell the whole history of the row. -/
structure Published (row : Booking) (rows : List BookingStatusChanged) : Prop where
  versions : rows.map BookingStatusChanged.version = List.range' 1 row.version
  linked : rows.IsChain (fun r r' => r'.previousStatus = some r.currentStatus)
  current : rows.getLast?.map BookingStatusChanged.currentStatus = some row.status

/-- The handlers that change a status without an event. -/
def Site.silent : Site → Bool
  | .seatsHeld | .seatsHoldFailed | .seatHoldExpired => true
  | _ => false

/-- What a committed transaction does to the status of booking `b`, and the status
events it writes about it. -/
inductive Publishes (t : BookingTx) (b : Uuid) :
    Option Booking → Option Booking → List BookingStatusChanged → Prop
  | quiet {r r' : Option Booking}
      (h : r'.map (fun x => (x.status, x.version)) = r.map (fun x => (x.status, x.version))) :
      Publishes t b r r' []
  | created {row : Booking} {e : BookingStatusChanged} (version : row.version = 1)
      (published : e.version = 1) (current : e.currentStatus = row.status) :
      Publishes t b none (some row) [e]
  | moved {row row' : Booking} {e : BookingStatusChanged} (next : row'.version = row.version + 1)
      (published : e.version = row'.version) (previous : e.previousStatus = some row.status)
      (current : e.currentStatus = row'.status) : Publishes t b (some row) (some row') [e]
  | silent {row row' : Booking} (site : t.site.silent = true) {s : BookingStatus} {v : Nat}
      (won : t.Answered (.updateStatus b s v) true) (next : row'.version = row.version + 1) :
      Publishes t b (some row) (some row') []

variable {strict : SagaKey → Prop} {c : Call} {t : BookingTx} {w : BookingWorld} {b : Uuid}

theorem publishes_other {b' : Uuid} {row' : Option Booking} {es : List BookingStatusChanged}
    (hv : (t.view w.db).bookings = Function.update w.db.bookings b' row')
    (he : b ≠ b' → es = []) (h : b = b' → Publishes t b (w.db.bookings b) row' es) :
    Publishes t b (w.db.bookings b) ((t.view w.db).bookings b) es := by
  rw [hv]
  by_cases hb : b = b'
  · subst hb
    rw [Function.update_self]
    exact h rfl
  · rw [Function.update_of_ne hb, he hb]
    exact .quiet rfl

theorem Commit.publishes (h : Commit c t w) (hi : Inv w) (b : Uuid) :
    Publishes t b (w.db.bookings b) ((t.view w.db).bookings b)
      ((t.writes.filterMap Write.event?).filterMap (statusOf b)) := by
  cases h with
  | replayed _ hw | heldSkipped _ hw | holdFailedSkipped _ hw | holdExpiredSkipped _ hw
  | paymentMissing _ _ hw | paymentSkipped _ _ _ hw =>
    rw [rows_none (by rw [hw]; rfl), hw]
    exact .quiet rfl
  | recorded _ _ hw | holdExpiredBeaten _ _ _ _ _ _ hw | paid _ _ hw =>
    rw [rows_none (by rw [hw]; rfl), hw]
    exact .quiet rfl
  | created x hsite hw _ hnew _ _ _ _ _ _ =>
    have hv := bookings_created (w := w) hw
    have he : (t.writes.filterMap Write.event?).filterMap (statusOf b) =
        if x.bookingId = b then [x.changed] else [] := by
      rw [hw]
      by_cases hb : x.bookingId = b
      · subst hb
        simp [Insertion.writes, Write.event?, statusOf, List.filterMap_cons, Insertion.changed,
          statusChanged, Insertion.row, newBooking]
      · simp [Insertion.writes, Write.event?, statusOf, List.filterMap_cons, Insertion.changed,
          statusChanged, Insertion.row, newBooking, hb]
    rw [he]
    refine publishes_other hv (fun hb => if_neg (Ne.symm hb)) fun hb => ?_
    subst hb
    rw [if_pos rfl, hnew]
    exact .created rfl rfl rfl
  | @transition _ _ _ args read row eventId hper hsite hpermits hans hwon _ hcur hver hst hw _ =>
    have hid := hi.id _ _ hcur
    have hv := bookings_transition (w := w) hid hw
    have hu : (args.updateWrites row).filterMap Write.event? = [] := by
      unfold TransitionArgs.updateWrites
      cases args.updates <;> rfl
    have he : (t.writes.filterMap Write.event?).filterMap (statusOf b) =
        if args.bookingId = b then [statusChanged eventId (args.moved row) (some row.status)]
        else [] := by
      have hid' : (statusChanged eventId (args.moved row) (some row.status)).bookingId =
          args.bookingId := ((args.moved_id row).trans hid)
      rw [hw, List.filterMap_append, hu]
      simp only [List.filterMap_cons, Write.event?, List.filterMap_nil, List.nil_append, statusOf, hid']
      split <;> simp_all
    rw [he]
    refine publishes_other hv (fun hb => if_neg (Ne.symm hb)) fun hb => ?_
    subst hb
    rw [if_pos rfl, hcur]
    exact .moved rfl rfl rfl rfl
  | @held e _ _ read row hsite hpend hans hwon hcur hver hst hw _ =>
    have hid := hi.id _ _ hcur
    have hv := bookings_held (w := w) hid hw
    rw [show t.writes.filterMap Write.event? = [] by
      rw [hw, List.filterMap_append, enrich_event]; rfl]
    refine publishes_other hv (fun _ => rfl) fun hb => ?_
    subst hb
    rw [hcur]
    exact .silent (by rw [hsite]; rfl) hwon rfl
  | @holdFailed e _ _ read row hsite hpend hans hwon hcur hver hst hw =>
    have hid := hi.id _ _ hcur
    have hv := bookings_holdFailed (w := w) hid hw
    rw [show t.writes.filterMap Write.event? = [] by rw [hw]; rfl]
    refine publishes_other hv (fun _ => rfl) fun hb => ?_
    subst hb
    rw [hcur]
    exact .silent (by rw [hsite]; rfl) hwon rfl
  | @holdFailedBeaten e _ _ read row hsite _ _ _ hcur _ hw =>
    have hid := hi.id _ _ hcur
    have hv := bookings_holdFailedBeaten (w := w) hid hw
    rw [show t.writes.filterMap Write.event? = [] by rw [hw]; rfl]
    refine publishes_other hv (fun _ => rfl) fun hb => ?_
    subst hb
    rw [hcur]
    exact .quiet rfl
  | @holdExpired e _ _ read row hsite hheld hans hwon hcur hver hst hw =>
    have hid := hi.id _ _ hcur
    have hv := bookings_holdExpired (w := w) hid hw
    rw [show t.writes.filterMap Write.event? = [] by rw [hw]; rfl]
    refine publishes_other hv (fun _ => rfl) fun hb => ?_
    subst hb
    rw [hcur]
    exact .silent (by rw [hsite]; rfl) hwon rfl

/-- What is kept for every id: an existing booking is published, and nothing was
published of one that does not exist. -/
def PublishedAt (r : Option Booking) (rows : List BookingStatusChanged) : Prop :=
  match r with
  | none => rows = []
  | some row => Published row rows

theorem published_congr {row row' : Booking} {rows : List BookingStatusChanged}
    (h : (row'.status, row'.version) = (row.status, row.version)) (hp : Published row rows) :
    Published row' rows := by
  obtain ⟨hs, hv⟩ := Prod.mk.inj h
  exact ⟨by rw [hv]; exact hp.versions, hp.linked, by rw [hs]; exact hp.current⟩

theorem published_append {row row' : Booking} {rows : List BookingStatusChanged}
    {e : BookingStatusChanged} (hp : Published row rows) (hnext : row'.version = row.version + 1)
    (hver : e.version = row'.version) (hprev : e.previousStatus = some row.status)
    (hcur : e.currentStatus = row'.status) : Published row' (rows ++ [e]) where
  versions := by
    rw [List.map_append, hp.versions, hnext, List.range'_1_concat]
    simp [hver, hnext, Nat.add_comm]
  linked := by
    refine List.isChain_append.mpr ⟨hp.linked, List.isChain_singleton _, ?_⟩
    intro r hr r' hr'
    have hcurrent := hp.current
    rw [hr] at hcurrent
    cases hr'
    rw [hprev]
    exact hcurrent.symm
  current := by simp [hcur]

theorem publishedAt_step {b : Uuid} {rows es : List BookingStatusChanged} {r r' : Option Booking}
    (hq : t.site.silent = true → ∀ s v, ¬ t.Answered (.updateStatus b s v) true)
    (h : Publishes t b r r' es) (hp : PublishedAt r rows) : PublishedAt r' (rows ++ es) := by
  cases h with
  | quiet h =>
    rw [List.append_nil]
    cases r with
    | none =>
      cases r' with
      | none => exact hp
      | some row' => cases h
    | some row =>
      cases r' with
      | none => cases h
      | some row' => exact published_congr (Option.some.inj h) hp
  | @created row e hver hpub hcur =>
    obtain rfl : rows = [] := hp
    exact ⟨by simp [hpub, hver], List.isChain_singleton _, by simp [hcur]⟩
  | moved hnext hpub hprev hcur => exact published_append hp hnext hpub hprev hcur
  | silent hsite hwon _ => exact absurd hwon (hq hsite _ _)

/-- `createBooking`, the public status operations and the saga handlers. -/
def Call.changesStatus : Call → Bool
  | .createPaymentOrder _ _ => false
  | _ => true

/-- All runs of these calls. -/
@[reducible] def statusRuns : Scope machine := Scope.calls (fun c : Call => c.changesStatus = true)

/-- Runs in which the handlers of hold answers and expiries commit no status change
of their own. -/
def publishingRuns : Scope machine where
  start c _ := c.changesStatus = true
  allow _ t _ s := ∀ h t', s = .commit h → t = some t' → t'.site.silent = true →
    ∀ b s v, ¬ t'.Answered (.updateStatus b s v) true

theorem publishingRuns_within : publishingRuns.Within (discipline fun _ => False) where
  start _ _ _ := trivial
  allow _ _ _ _ _ _ h := h.elim

theorem statusRows_commit (b : Uuid) (w : BookingWorld) (c : Call) (t : BookingTx) :
    statusRows b (w.commit c t).db =
      statusRows b w.db ++ (t.writes.filterMap Write.event?).filterMap (statusOf b) := by
  rw [statusRows, commit_outbox, List.filterMap_append]
  rfl

theorem keeps_published (b : Uuid) : Keeps (discipline fun _ => False) publishingRuns
    (fun w => PublishedAt (w.db.bookings b) (statusRows b w.db)) where
  commit w c t hi _ hc _ hs h := by
    rw [statusRows_commit]
    refine publishedAt_step (fun hsite => ?_) (hc.publishes hi b) h
    cases hs with
    | commit h' ha => exact ha h' t rfl rfl hsite b
    | single i q a ws ks _ _ ht _ =>
      subst ht
      cases hsite
  drift _ _ _ h := h

/-- Every committed status change is published. -/
def StatusPublished (p : Pool machine) : Prop :=
  ∀ b row, p.world.db.bookings b = some row → Published row (statusRows b p.world.db)

theorem statusPublished_of_publishingRuns {s : Settings} {p : Pool machine}
    (h : Reachable publishingRuns s.pool p) : StatusPublished p := by
  intro b row hrow
  have hp := reachable_keeps publishingRuns_within h (keeps_published b) rfl
  rw [hrow] at hp
  exact hp

section Runs

def sampleRequest : CreateBookingDto where
  idempotencyKey := 7
  scheduleId := 1
  fromStationId := 1
  toStationId := 2
  fromSequence := some 1
  toSequence := some 2
  legIndices := none
  seatIds := [11]
  passengers := [⟨"Asha", 30, .female, none⟩]
  fromSequence_min := by decide
  toSequence_min := by decide
  legIndices_min := by decide
  seatIds_length := by decide
  seatIds_nodup := by decide
  passengers_length := by decide
  stations := by decide

def sampleSettings : Settings :=
  ⟨0, 600000, ⟨60, 604800⟩, some (fun _ ids => ids.map (fun id => ⟨id, id⟩))⟩

def sampleBooking : Uuid := ⟨0, 0⟩

def sampleHeld : SeatsHeld :=
  ⟨.held (.random ⟨0, 3⟩), sampleBooking, [⟨11, 11, "S1", 11, "LOWER", 50000⟩], 600000⟩

def sampleCreated : List (Move machine) := [.call (.createBooking 5 sampleRequest), .burst 0 40]

def commitsSilently (p : Pool machine) (i : Nat) : Bool :=
  match p.threads[i]? with
  | some ⟨_, some (.call (.commit h) _)⟩ => (p.shared.txs h).any (fun t => t.site.silent)
  | _ => false

def noSilentCommit (p : Pool machine) : Action bookingService → Bool
  | .run i _ => !commitsSilently p i
  | _ => true

theorem permits_noSilentCommit (p : Pool machine) (a : Action bookingService)
    (h : noSilentCommit p a = true) : publishingRuns.Permits p a := by
  cases a with
  | run i ch =>
    rintro c s k hth h' t rfl ht hsite
    simp only [Stmt.via, Option.bind_some] at ht
    simp [noSilentCommit, commitsSilently, hth, ht, hsite] at h
  | crash i => trivial
  | tick d => trivial

set_option maxRecDepth 20000 in
theorem statusPublished_cancelled : ∃ p, Reachable publishingRuns sampleSettings.pool p ∧
    (p.world.db.bookings sampleBooking).map Booking.status = some .cancelled ∧
      StatusPublished p := by
  obtain ⟨p, hp, ht⟩ := exists_reachable publishingRuns sampleSettings.pool noSilentCommit
    (sampleCreated ++ [.call (.markSeatsHeld sampleBooking 600000), .burst 1 20,
      .call (.cancelBooking sampleBooking 5), .burst 2 40])
    (fun p => decide ((p.world.db.bookings sampleBooking).map Booking.status =
      some .cancelled))
    permits_noSilentCommit (by simp [sampleCreated, Move.started, Call.changesStatus, publishingRuns])
    (by decide)
  exact ⟨p, hp, of_decide_eq_true ht, statusPublished_of_publishingRuns hp⟩

def heldRun : List (Move machine) :=
  sampleCreated ++ [.call (.seatsHeld (.event sampleHeld)), .burst 1 8]

set_option maxRecDepth 20000 in
theorem not_statusPublished : ¬ ∀ (s : Settings) (p : Pool machine),
    Reachable statusRuns s.pool p → StatusPublished p := by
  intro hall
  obtain ⟨p, hp, ht⟩ := exists_reachable statusRuns sampleSettings.pool (fun _ _ => true) heldRun
    (fun p => decide ((p.world.db.bookings sampleBooking).map Booking.status =
      some .seatsHeld ∧ (statusRows sampleBooking p.world.db).map
        BookingStatusChanged.currentStatus = [.pending]))
    (fun p a _ => permits_calls p a)
    (by simp [heldRun, sampleCreated, Move.started, Call.changesStatus]) (by decide)
  obtain ⟨hst, hrows⟩ := of_decide_eq_true ht
  obtain ⟨row, hrow, hst⟩ := Option.map_eq_some_iff.mp hst
  have hcur := (hall sampleSettings p hp sampleBooking row hrow).current
  rw [← List.getLast?_map, hrows, hst] at hcur
  cases hcur

end Runs

end RailwayBooking.BookingService
