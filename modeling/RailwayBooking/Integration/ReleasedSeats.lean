import RailwayBooking.Integration.Seats

namespace RailwayBooking.Integration

open Concurrency

/-- A published event on which the seats of booking `b` are released, and which
inventory-service has not recorded. -/
structure DueRelease (b : Uuid) (e : BookingStatusChanged) (w : BookingService.BookingWorld)
    (v : InventoryService.InventoryWorld) : Prop where
  published : .bookingStatusChanged e ∈ w.db.outbox
  booking : e.bookingId = b
  releases : InventoryService.Releases e.currentStatus
  unrecorded : ¬ InventoryService.Recorded (.cancel e.eventId) v

def Occupies (b : Uuid) (v : InventoryService.InventoryWorld) : Prop :=
  ∃ a ∈ v.db.allocations, a.bookingId = b ∧ a.status.active = true

/-- A handler that ends a booking without an event commits only where the booking
occupies no seat. -/
def EndsFree (t : BookingService.BookingTx) (v : InventoryService.InventoryWorld) : Prop :=
  t.site.silent = true → ∀ b s n, t.Answered (.updateStatus b s n) true →
    InventoryService.Releases s → ¬ Occupies b v

/-- Seats are held for a booking that has ended, and missed by a release, only while
another release is due. -/
structure Releasing (c : InventoryService.Call) (t : InventoryService.InventoryTx)
    (w : BookingService.BookingWorld) (v : InventoryService.InventoryWorld) : Prop where
  hold : ∀ r row, c.request? = some r → t.site = .hold → t.writes ≠ [] →
    w.db.bookings r.bookingId = some row → InventoryService.Releases row.status →
    ∃ e, DueRelease r.bookingId e w v
  cancel : ∀ e, c.cancels? = some e → t.site = .cancel → t.writes ≠ [] →
    (∀ a ∈ v.db.allocations, a.bookingId = e.bookingId → a.status.active = true →
      .status a.id .cancelled ∈ t.writes) ∨
    ∃ e', DueRelease e.bookingId e' w v ∧ e'.eventId ≠ e.eventId

/-- Runs of the two services in which every transaction is committed under these
conditions. -/
def releasingLink : Link BookingService.machine InventoryService.machine :=
  { seatLink fun _ => True with
    allowLeft := fun _ t _ v s => ∀ h t', s = .commit h → t = some t' → EndsFree t' v
    allowRight := fun c t w v s => ∀ h t', s = .commit h → t = some t' → Releasing c t' w v }

theorem releasingLink_refines : Refines (fun _ => True) releasingLink :=
  ⟨fun _ _ _ h => h, fun _ _ _ h => h, fun _ => rfl⟩

/-- A booking that has ended and occupies seats has a release that is due. -/
structure Releasable (w : BookingService.BookingWorld) (v : InventoryService.InventoryWorld) :
    Prop where
  ids : (w.db.outbox.map BookingService.OutboxEvent.eventId).Nodup
  recorded : ∀ id, InventoryService.Recorded (.cancel id) v → ∃ ev ∈ w.db.outbox, ev.eventId = id
  due : ∀ b row, w.db.bookings b = some row → InventoryService.Releases row.status →
    Occupies b v → ∃ e, DueRelease b e w v

section Left

variable {w : BookingService.BookingWorld} {v : InventoryService.InventoryWorld}
  {c : BookingService.Call} {t : BookingService.BookingTx} {b : Uuid}

theorem DueRelease.commitLeft {e : BookingStatusChanged} (h : DueRelease b e w v)
    (c : BookingService.Call) (t : BookingService.BookingTx) : DueRelease b e (w.commit c t) v where
  published := by
    rw [BookingService.commit_outbox]
    exact List.mem_append_left _ h.published
  booking := h.booking
  releases := h.releases
  unrecorded := h.unrecorded

theorem dueRelease_new (hc : BookingService.Commit c t w) (h : Releasable w v)
    {e : BookingStatusChanged}
    (he : e ∈ (t.writes.filterMap BookingService.Write.event?).filterMap (BookingService.statusOf b))
    (hr : InventoryService.Releases e.currentStatus) : DueRelease b e (w.commit c t) v := by
  obtain ⟨ev, hev, hstatus⟩ := List.mem_filterMap.mp he
  obtain ⟨rfl, hb⟩ : ev = .bookingStatusChanged e ∧ e.bookingId = b := by
    unfold BookingService.statusOf at hstatus
    split at hstatus
    · split at hstatus
      · next hb =>
        cases hstatus
        exact ⟨rfl, hb⟩
      · cases hstatus
    · cases hstatus
  refine ⟨?_, hb, hr, fun hrec => ?_⟩
  · rw [BookingService.commit_outbox]
    exact List.mem_append_right _ hev
  · obtain ⟨ev', hev', hid⟩ := h.recorded _ hrec
    exact hc.event_new hev hev' hid

theorem Releasable.commitLeft (hi : BookingService.Inv w) (hc : BookingService.Commit c t w)
    (hf : EndsFree t v) (h : Releasable w v) : Releasable (w.commit c t) v where
  ids := BookingService.eventIds_commit hc h.ids
  recorded id hrec := by
    obtain ⟨ev, hev, hid⟩ := h.recorded id hrec
    refine ⟨ev, ?_, hid⟩
    rw [BookingService.commit_outbox]
    exact List.mem_append_left _ hev
  due b row hrow hr hocc := by
    have hbefore : ∀ row', w.db.bookings b = some row' → row'.status = row.status →
        ∃ e, DueRelease b e (w.commit c t) v := by
      intro row' hrow' hst
      obtain ⟨e, he⟩ := h.due b row' hrow' (hst ▸ hr) hocc
      exact ⟨e, he.commitLeft c t⟩
    have hchange := hc.rowChange hi b
    have hpub := hc.publishes hi b
    change (t.view w.db).bookings b = some row at hrow
    rw [hrow] at hchange hpub
    generalize hold : w.db.bookings b = old at hchange hpub
    generalize hes : (t.writes.filterMap BookingService.Write.event?).filterMap
      (BookingService.statusOf b) = es at hpub
    cases hchange with
    | same => exact hbefore row hold rfl
    | created _ _ hpending =>
      rw [hpending] at hr
      exact absurd hr (by decide)
    | annotated u => exact hbefore _ hold rfl
    | moved _ hwon =>
      cases hpub with
      | quiet hsame => exact hbefore _ hold (by simpa using (congrArg (Option.map Prod.fst) hsame).symm)
      | @moved _ _ e _ _ _ hcur =>
        refine ⟨e, dueRelease_new hc h ?_ (hcur ▸ hr)⟩
        rw [hes]
        exact List.mem_singleton_self e
      | silent hsite _ _ => exact absurd hocc (hf hsite b _ _ hwon hr)

end Left

section Right

variable {w : BookingService.BookingWorld} {v : InventoryService.InventoryWorld}
  {T : InventoryService.Terms} {c : InventoryService.Call} {t : InventoryService.InventoryTx}
  {b : Uuid}

theorem DueRelease.commitRight {e : BookingStatusChanged} (h : DueRelease b e w v)
    (hkeys : .cancel e.eventId ∉ t.writes.filterMap InventoryService.Write.eventKey?) :
    DueRelease b e w (v.commit c t) where
  published := h.published
  booking := h.booking
  releases := h.releases
  unrecorded hrec := by
    rw [InventoryService.Recorded, InventoryService.commit_idempotency] at hrec
    obtain hrec | hrec := List.mem_append.mp hrec
    · exact h.unrecorded hrec
    · exact hkeys hrec

theorem occupies_before (hi : InventoryService.Inv v) (hc : InventoryService.Commit T c t v)
    (h : Occupies b (v.commit c t)) : Occupies b v ∨
      ∃ r, c.request? = some r ∧ t.site = .hold ∧ t.writes ≠ [] ∧ r.bookingId = b := by
  obtain ⟨a, ha, rfl, hact⟩ := h
  cases hc.origin hi ha with
  | old a' ha' hb _ hstep => exact .inl ⟨a', ha', hb, hstep.active hact⟩
  | held x hreq hsite hw _ hmem =>
    exact .inr ⟨x.request, hreq, hsite, hw, (InventoryService.Hold.rows_bookingId hmem).symm⟩

theorem not_occupies_cancelled {e : InventoryService.SeatLifecycleEventArgs}
    (hc : InventoryService.Commit T c t v) (hsite : t.site = .cancel) (hw : t.writes ≠ [])
    (hall : ∀ a ∈ v.db.allocations, a.bookingId = e.bookingId → a.status.active = true →
      .status a.id .cancelled ∈ t.writes) : ¬ Occupies e.bookingId (v.commit c t) := by
  intro hocc
  obtain ⟨a, ha, hb, hact⟩ := hocc
  change a ∈ (t.view v.db).allocations at ha
  cases hc with
  | holdDuplicate _ hs _ | confirmDuplicate _ hs _ _ | failed _ hs _ | held _ _ _ hs
  | confirmed _ _ _ hs =>
    rw [hsite] at hs
    cases hs
  | cancelDuplicate _ _ _ hnone => exact hw hnone
  | cancelled rows history _ _ _ hwrites =>
    rw [(InventoryService.view_settled hwrites v.db).1] at ha
    obtain ⟨a', ha', rfl⟩ := List.mem_map.mp ha
    rw [InventoryService.SeatAllocation.settled_bookingId] at hb
    rw [InventoryService.SeatAllocation.settled_status] at hact
    split at hact
    · cases hact
    · next hid =>
      have hmem := hall a' ha' hb hact
      rw [hwrites] at hmem
      simp only [InventoryService.setStatuses, List.mem_append, List.mem_map,
        InventoryService.Write.status.injEq, and_true, reduceCtorEq, and_false, exists_false,
        List.mem_singleton, or_false] at hmem
      exact hid (List.mem_map.mpr hmem)

theorem Releasable.commitRight (hi : InventoryService.Inv v) (hc : InventoryService.Commit T c t v)
    (hp : Published c w) (hr : Releasing c t w v) (h : Releasable w v) :
    Releasable w (v.commit c t) where
  ids := h.ids
  recorded id hrec := by
    rw [InventoryService.Recorded, InventoryService.commit_idempotency] at hrec
    obtain hrec | hrec := List.mem_append.mp hrec
    · exact h.recorded id hrec
    · obtain ⟨_, hcan, rfl, -⟩ := hc.cancel_recorded hrec
      obtain ⟨ev, hev, -, rfl⟩ := published_of_cancels hp hcan
      exact ⟨_, hev, rfl⟩
  due b row hrow hrel hocc := by
    obtain hbefore | ⟨r, hreq, hsite, hw, rfl⟩ := occupies_before hi hc hocc
    · obtain ⟨e, he⟩ := h.due b row hrow hrel hbefore
      by_cases hk : .cancel e.eventId ∈ t.writes.filterMap InventoryService.Write.eventKey?
      · obtain ⟨e₁, hcan, hid, hsite⟩ := hc.cancel_recorded hk
        obtain ⟨ev, hev, -, rfl⟩ := published_of_cancels hp hcan
        have hsame : BookingService.OutboxEvent.bookingStatusChanged ev = .bookingStatusChanged e :=
          List.inj_on_of_nodup_map h.ids hev he.published hid
        cases hsame
        have hw : t.writes ≠ [] := by
          intro hnil
          rw [hnil] at hk
          cases hk
        obtain hall | ⟨e', hdue, hne⟩ := hr.cancel _ hcan hsite hw
        · rw [← he.booking] at hocc
          exact absurd hocc (not_occupies_cancelled hc hsite hw hall)
        · rw [he.booking] at hdue
          refine ⟨e', hdue.commitRight fun hk' => ?_⟩
          obtain ⟨e₂, hcan', hid₂, -⟩ := hc.cancel_recorded hk'
          rw [hcan] at hcan'
          cases hcan'
          exact hne hid₂.symm
      · exact ⟨e, he.commitRight hk⟩
    · obtain ⟨e, he⟩ := hr.hold r row hreq hsite hw hrow hrel
      refine ⟨e, he.commitRight fun hk => ?_⟩
      obtain ⟨_, _, _, hsite'⟩ := hc.cancel_recorded hk
      rw [hsite] at hsite'
      cases hsite'

theorem releasing_of_passes (hs : (releasingLink.right w).Passes c t v) : Releasing c t w v := by
  cases hs with
  | commit k ha => exact ha k t rfl rfl
  | single i q a ws ks _ _ ht _ =>
    have hauto : t.site = .auto := by rw [ht]; rfl
    refine ⟨fun _ _ _ hsite => ?_, fun _ _ hsite => ?_⟩ <;> rw [hauto] at hsite <;> cases hsite

end Right

theorem endsFree_of_passes {v : InventoryService.InventoryWorld} {c : BookingService.Call}
    {t : BookingService.BookingTx} {w : BookingService.BookingWorld}
    (hs : (releasingLink.left v).Passes c t w) : EndsFree t v := by
  cases hs with
  | commit k ha => exact ha k t rfl rfl
  | single i q a ws ks _ _ ht _ =>
    intro hsite
    rw [ht] at hsite
    cases hsite

theorem keeps_releasable : releasingLink.Keeps (BookingService.discipline fun _ => False)
    (InventoryService.discipline .free) (seatKnowledge fun _ => True) Releasable where
  left _ _ _ _ hi _ hc _ hs _ h := h.commitLeft hi hc (endsFree_of_passes hs)
  right _ _ _ _ _ hi _ hc _ hs hp h := h.commitRight hi hc hp (releasing_of_passes hs)
  driftLeft _ _ _ _ h := ⟨h.ids, h.recorded, fun b row hrow hrel hocc =>
    have ⟨e, he⟩ := h.due b row hrow hrel hocc
    ⟨e, ⟨he.published, he.booking, he.releases, he.unrecorded⟩⟩⟩
  driftRight _ _ _ _ h := ⟨h.ids, h.recorded, fun b row hrow hrel hocc =>
    have ⟨e, he⟩ := h.due b row hrow hrel hocc
    ⟨e, ⟨he.published, he.booking, he.releases, he.unrecorded⟩⟩⟩

theorem releasable_pools (s : BookingService.Settings) (P : InventoryService.Projection)
    (now : Nat) : Releasable s.pool.world (InventoryService.start P now).world where
  ids := List.nodup_nil
  recorded id h := by cases h
  due b row h := by cases h

/-- A booking that has ended unsuccessfully occupies no seat. -/
def SeatsReleased (j : Joint BookingService.machine InventoryService.machine) : Prop :=
  ∀ b row, j.left.world.db.bookings b = some row →
    (row.status = .failed ∨ row.status = .expired ∨ row.status = .cancelled) →
    ∀ a ∈ j.right.world.db.allocations, a.bookingId = b → a.status ≠ .held ∧ a.status ≠ .confirmed

/-- Once all messages are handled, bookings that have ended occupy no seats, where no
transaction leaves them seats without a release that is due. -/
theorem seatsReleased_of_releasingLink {s : BookingService.Settings}
    {P : InventoryService.Projection} {now : Nat}
    {j : Joint BookingService.machine InventoryService.machine}
    (h : releasingLink.Reachable (seats s P now) j) (hd : Drained j) : SeatsReleased j := by
  have hinv := seats_keeps (within_free releasingLink_refines)
    (seatKnowledge_sound releasingLink_refines) keeps_releasable (releasable_pools s P now) h
  have hnone : ∀ b row, j.left.world.db.bookings b = some row →
      InventoryService.Releases row.status → ¬ Occupies b j.right.world := by
    intro b row hrow hrel hocc
    obtain ⟨e, he⟩ := hinv.due b row hrow hrel hocc
    obtain ⟨_, hpost⟩ := (seats_wellFormed (within_free releasingLink_refines) h).right.handled
      (hd.statuses e he.published)
    exact he.unrecorded (hpost.2 ⟨e.eventId, e.bookingId⟩ (if_pos he.releases))
  intro b row hrow hst a ha hb
  have hfree := hnone b row hrow (by obtain h | h | h := hst <;> simp [InventoryService.Releases, h])
  refine ⟨fun hs => hfree ⟨a, ha, hb, by rw [hs]; rfl⟩, fun hs => hfree ⟨a, ha, hb, by rw [hs]; rfl⟩⟩

section Schedules

def hasEnded : (Σ q : BookingService.Sql, BookingService.Rows q) → Bool
  | ⟨.updateStatus _ s _, true⟩ => InventoryService.Releases s
  | _ => false

def endsSilently (p : Pool BookingService.machine) (i : Nat) : Bool :=
  match p.threads[i]? with
  | some ⟨_, some (.call (.commit h) _)⟩ =>
    (p.shared.txs h).any (fun t => t.site.silent && t.stmts.any hasEnded)
  | _ => false

def releasesAll (c : InventoryService.Call) (t : InventoryService.InventoryTx)
    (w : BookingService.BookingWorld) (v : InventoryService.InventoryWorld) : Bool :=
  (t.site ≠ .hold || c.request?.all (fun r => (w.db.bookings r.bookingId).all
    (fun row => !decide (InventoryService.Releases row.status)))) &&
  (t.site ≠ .cancel || c.cancels?.all (fun e => v.db.allocations.all
    (fun a => a.bookingId ≠ e.bookingId || !a.status.active ||
      t.writes.contains (.status a.id .cancelled))))

def releasesNext (p : Pool InventoryService.machine) (w : BookingService.BookingWorld) (i : Nat) :
    Bool :=
  match p.threads[i]? with
  | some ⟨c, some (.call (.commit h) _)⟩ =>
    (p.shared.txs h).all (fun t => releasesAll c t w p.world)
  | _ => true

def releasingGuard : Guard BookingService.machine InventoryService.machine where
  callLeft c _ v := replied c v
  callRight c w _ := published c w
  actLeft p _ a :=
    match a with
    | .run i _ => !endsSilently p i
    | _ => true
  actRight p w a :=
    match a with
    | .run i _ => releasesNext p w i
    | _ => true

theorem releasing_of_releasesAll {c : InventoryService.Call} {t : InventoryService.InventoryTx}
    {w : BookingService.BookingWorld} {v : InventoryService.InventoryWorld}
    (h : releasesAll c t w v = true) : Releasing c t w v := by
  obtain ⟨hhold, hcancel⟩ := Bool.and_eq_true_iff.mp h
  constructor
  · intro r row hreq hsite _ hrow hrel
    simp [hsite, hreq, hrow] at hhold
    exact absurd hrel hhold
  · intro e hcan hsite _
    simp only [hsite, hcan, ne_eq, not_true_eq_false, decide_false, Bool.false_or, Option.all_some,
      List.all_eq_true] at hcancel
    refine .inl fun a ha hb hact => ?_
    simpa [hb, hact] using hcancel a ha

theorem releasingGuard_sound : releasingGuard.Sound releasingLink where
  callLeft _ _ _ h := ⟨trivial, replied_sound h⟩
  callRight _ _ _ h := published_sound h
  actLeft p v a h := by
    cases a with
    | run i ch =>
      rintro c s k hth h' t rfl ht hsite b st n hwon hrel
      simp only [Stmt.via, Option.bind_some] at ht
      simp only [releasingGuard, endsSilently, hth, ht, Option.any_some, hsite, Bool.true_and,
        Bool.not_eq_true', List.any_eq_false] at h
      exact absurd (decide_eq_true hrel) (h _ hwon)
    | crash i => trivial
    | tick d => trivial
  actRight p w a h := by
    cases a with
    | run i ch =>
      rintro c s k hth h' t rfl ht
      simp only [Stmt.via, Option.bind_some] at ht
      simp only [releasingGuard, releasesNext, hth, ht, Option.all_some] at h
      exact releasing_of_releasesAll h
    | crash i => trivial
    | tick d => trivial
  send _ _ _ _ h := absurd rfl h

/-- A booking that is cancelled after its seats were held. -/
theorem seatsReleased_cancelled : ∃ j,
    releasingLink.Reachable
      (seats BookingService.sampleSettings InventoryService.sampleProjection 0) j ∧
    seatOutcome j = (some .cancelled, [.cancelled]) ∧ Drained j ∧ SeatsReleased j := by
  obtain ⟨j, hj, ht⟩ := exists_joint releasingLink
    (seats BookingService.sampleSettings InventoryService.sampleProjection 0) releasingGuard
    (BookingService.sampleCreated.map .left ++
      [.right (.call (.holdSeatsRequested (.event sampleRequested))), .right (.burst 0 40),
        .left (.call (.seatsHeld (.event sampleReply))), .left (.burst 1 8),
        .left (.call (.cancelBooking BookingService.sampleBooking 5)), .left (.burst 2 40),
        .left (.burst 1 40),
        .right (.call (.bookingStatusChanged (.event (sampleChange ⟨0, 2⟩ none .pending 1)))),
        .right (.burst 1 20),
        .right (.call (.bookingStatusChanged (.event (sampleChange ⟨2, 4⟩ (some .seatsHeld)
          .cancelling 3)))), .right (.burst 2 20),
        .right (.call (.bookingStatusChanged (.event (sampleChange ⟨2, 5⟩ (some .cancelling)
          .cancelled 4)))), .right (.burst 3 20)])
    (fun j => decide (seatOutcome j = (some .cancelled, [.cancelled])) && drained j)
    releasingGuard_sound (by decide +kernel)
  obtain ⟨hout, hd⟩ := Bool.and_eq_true_iff.mp ht
  exact ⟨j, hj, of_decide_eq_true hout, drained_sound hd,
    seatsReleased_of_releasingLink hj (drained_sound hd)⟩

/-- The requests and deliveries that make and end bookings. -/
def makesOrEnds : BookingService.Call → Bool
  | .createBooking _ _ | .cancelBooking _ _ | .markFailed _ _ | .markExpired _ => true
  | .seatsHeld _ | .seatsHoldFailed _ | .seatHoldExpired _ | .paymentSuccess _ => true
  | _ => false

def sampleRefusal : SeatsHoldFailed :=
  ⟨.failed sampleRequested.eventId .seatAlreadyHeld, BookingService.sampleBooking, .seatAlreadyHeld,
    "One or more requested seats are already held.", [11]⟩

def seatGuard : Guard BookingService.machine InventoryService.machine where
  callLeft c _ v := makesOrEnds c && replied c v
  callRight c w _ := published c w
  actLeft _ _ _ := true
  actRight _ _ _ := true

theorem seatGuard_sound : seatGuard.Sound (seatLink fun c => makesOrEnds c = true) where
  callLeft _ _ _ h :=
    have ⟨hmake, hreply⟩ := Bool.and_eq_true_iff.mp h
    ⟨hmake, replied_sound hreply⟩
  callRight _ _ _ h := published_sound h
  actLeft _ _ a _ := by
    cases a <;> first | trivial | exact fun _ _ _ _ => trivial
  actRight _ _ a _ := by
    cases a <;> first | trivial | exact fun _ _ _ _ => trivial
  send _ _ _ _ h := absurd rfl h

/-- The hold request is delivered twice: the second delivery meets the locks of the
first and reports a failure, on which the booking fails without an event; the first then
holds the seats. -/
theorem not_seatsReleased : ¬ ∀ (s : BookingService.Settings) (P : InventoryService.Projection)
    (now : Nat) (j : Joint BookingService.machine InventoryService.machine),
    (seatLink fun c => makesOrEnds c = true).Reachable (seats s P now) j → Drained j →
      SeatsReleased j := by
  intro hall
  obtain ⟨j, hj, ht⟩ := exists_joint (seatLink fun c => makesOrEnds c = true)
    (seats BookingService.sampleSettings InventoryService.sampleProjection 0) seatGuard
    (BookingService.sampleCreated.map .left ++
      [.right (.call (.holdSeatsRequested (.event sampleRequested))),
        .right (.call (.holdSeatsRequested (.event sampleRequested))), .right (.burst 0 5),
        .right (.burst 1 40), .right (.burst 0 40),
        .left (.call (.seatsHoldFailed (.event sampleRefusal))), .left (.burst 1 40),
        .left (.call (.seatsHeld (.event sampleReply))), .left (.burst 2 40),
        .right (.call (.bookingStatusChanged (.event (sampleChange ⟨0, 2⟩ none .pending 1)))),
        .right (.burst 2 20)])
    (fun j => decide (seatOutcome j = (some .failed, [.held])) && drained j) seatGuard_sound
    (by decide +kernel)
  obtain ⟨hout, hd⟩ := Bool.and_eq_true_iff.mp ht
  obtain ⟨hbooking, hseats⟩ := Prod.mk.inj (of_decide_eq_true hout)
  obtain ⟨row, hrow, hst⟩ := Option.map_eq_some_iff.mp hbooking
  obtain ⟨a, ha, hheld⟩ := List.map_eq_singleton_iff.mp hseats
  obtain ⟨hmem, hb⟩ := List.mem_filter.mp (by rw [ha]; exact List.mem_singleton_self a)
  exact (hall _ _ _ j hj (drained_sound hd) _ row hrow (.inl hst) a hmem (of_decide_eq_true hb)).1
    hheld

end Schedules

end RailwayBooking.Integration
