import RailwayBooking.InventoryService.HoldInsertions

namespace RailwayBooking.InventoryService

open Concurrency

def Write.plain : Write → Bool
  | .allocations _ | .status _ _ | .history _ => false
  | .idempotency _ | .outbox _ => true

def Site.settles? : Site → Option (AllocationStatus × List AllocationStatus)
  | .confirm => some (.confirmed, [.held])
  | .cancel => some (.cancelled, [.held, .confirmed])
  | .hold | .fail | .auto => none

/-- How a transaction came to write what it commits: what its history rows are made of,
and which rows its update has set. -/
inductive Traced (t : InventoryTx) (w : InventoryWorld) : Prop
  | plain (writes : ∀ x ∈ t.writes, x.plain = true)
  | held (x : Hold) (found : List SeatAllocation) (site : t.site = .hold)
      (answered : t.Answered (.findByBookingId x.request.bookingId) found)
      (distinct : (found.map SeatAllocation.id).Nodup) (new : ∀ a ∈ x.rows, a ∈ found)
      (old : ∀ a ∈ found, a ∈ x.rows ∨ ∃ a' ∈ w.db.allocations, a'.id = a.id)
      (writes : t.writes = [.allocations x.rows, .history (found.map holdHistoryRow),
        .idempotency (.hold x.request.eventId), .outbox (.seatsHeld x.payload)])
  | settled (b : Uuid) (sources : List AllocationStatus) (status : AllocationStatus)
      (reason : String) (key : EventKey) (rows found : List SeatAllocation)
      (settles : t.site.settles? = some (status, sources))
      (answered : t.Answered (.findByBookingId b) found)
      (distinct : (found.map SeatAllocation.id).Nodup)
      (writes : t.writes = setStatuses rows status ++
        [.history ((found.filter (fun a => sources.contains a.status)).map
          (historyRow status reason)), .idempotency key])

/-- What is to be shown of the commits beyond `Commit`. -/
structure Watch (T : Terms) where
  commits : Call → InventoryTx → InventoryWorld → Prop
  only : ∀ c t w, commits c t w → Commit T c t w
  traced : ∀ c t w, Commit T c t w → Traced t w → commits c t w

def Terms.watch (T : Terms) : Watch T where
  commits := Commit T
  only _ _ _ h := h
  traced _ _ _ h _ := h

def Terms.traced (T : Terms) : Watch T where
  commits c t w := Commit T c t w ∧ Traced t w
  only _ _ _ h := h.1
  traced _ _ _ h ht := ⟨h, ht⟩

namespace Watch

variable {T : Terms} (W : Watch T)

def discipline : Discipline machine :=
  { InventoryService.discipline T with commits := W.commits }

variable {W}

theorem stable {i : Nat} {ks : List Key} {F : InventoryWorld → Prop}
    (h : Stable (InventoryService.discipline T) i ks F) : Stable W.discipline i ks F where
  commit w c t hi hp hc := h.commit w c t hi hp (W.only c t w hc)
  drift := h.drift

theorem lasting {F : InventoryWorld → Prop} (h : Lasting (InventoryService.discipline T) F) :
    Lasting W.discipline F where
  commit w c t hi hp hc := h.commit w c t hi hp (W.only c t w hc)
  drift := h.drift

theorem lawful : W.discipline.Lawful where
  ask _ _ _ _ _ _ _ _ _ := trivial
  tick _ _ := trivial
  fault := rfl
  run _ _ _ h := run_error h
  answer _ i _ _ _ _ h := ask_error (i := i) h
  inv := lasting lasting_inv
  pre c := lasting (InventoryService.lawful.pre c)
  post c a := lasting (InventoryService.lawful.post c a)

end Watch

variable {T : Terms} {W : Watch T} {i : Nat} {c : Call} {h : Nat} {t : InventoryTx}
  {ts : Stack inventoryService} {w : InventoryWorld}

/-- What is known of the committed state, and survives the other calls, while
transaction `t` is open. -/
abbrev Held (T : Terms) (i : Nat) (t : InventoryTx) (ts : Stack inventoryService)
    (F : InventoryWorld → Prop) : Prop :=
  Stable (discipline T) i (t.locks ++ ts.locks) F

abbrev OkIn (W : Watch T) (i : Nat) (c : Call) {α : Type}
    (Q : α → Stack inventoryService → InventoryWorld → Prop) (h : Nat)
    (ts : Stack inventoryService) (p : InventoryCode α) (t : InventoryTx) (w : InventoryWorld) :
    Prop :=
  Ok W.discipline i c Q (Inside W.discipline h ts) p ((h, t) :: ts) w

abbrev OkOut (W : Watch T) (i : Nat) (c : Call) {α : Type}
    (Q : α → Stack inventoryService → InventoryWorld → Prop) (ts : Stack inventoryService)
    (p : InventoryCode α) (w : InventoryWorld) : Prop :=
  Ok W.discipline i c Q (Outside W.discipline ts) p ts w

abbrev Returns {α : Type} (ts : Stack inventoryService) (_ : α) (ts' : Stack inventoryService)
    (_ : InventoryWorld) : Prop := ts' = ts

section Statements

variable {F : InventoryWorld → Prop} (hs : Held T i t ts F) (hF : F w)

include hs hF

theorem ok_existsKey {k : EventKey} {Q : Bool → Stack inventoryService → InventoryWorld → Prop}
    (hq : ∀ w' found, F w' → found = (t.view w'.db).idempotency.contains k →
      Q found ((h, t.record (.existsKey k) found [] []) :: ts) w') :
    OkIn W i c Q h ts (existsKey (some h) k) t w := by
  refine Ok.sql Watch.lawful F (Watch.stable hs) hF fun w' _ _ hf _ a ws ks hr => ?_
  cases hr
  exact hq w' _ hf rfl

theorem ok_findByBookingId {b : Uuid}
    {Q : List SeatAllocation → Stack inventoryService → InventoryWorld → Prop}
    (hq : ∀ w' found, Inv w' → (discipline T).pre c w' → F w' →
      found = (t.view w'.db).allocations.filter (fun a => a.bookingId = b) →
      Q found ((h, t.record (.findByBookingId b) found [] []) :: ts) w') :
    OkIn W i c Q h ts (findByBookingId (some h) b) t w := by
  refine Ok.sql Watch.lawful F (Watch.stable hs) hF fun w' hi hp hf _ a ws ks hr => ?_
  cases hr
  exact hq w' _ hi hp hf rfl

theorem ok_createHistoryMany {data : List SeatAllocationHistory}
    {Q : Unit → Stack inventoryService → InventoryWorld → Prop}
    (hq : ∀ w', F w' →
      Q () ((h, t.record (.createHistoryMany data) () [.history data] []) :: ts) w') :
    OkIn W i c Q h ts (createHistoryMany (some h) data) t w := by
  refine Ok.sql Watch.lawful F (Watch.stable hs) hF fun w' _ _ hf _ a ws ks hr => ?_
  cases hr
  exact hq w' hf

theorem ok_createKey {k : EventKey} {Q : Unit → Stack inventoryService → InventoryWorld → Prop}
    (hq : ∀ w', F w' → k ∉ (t.view w'.db).idempotency →
      Q () ((h, t.record (.createKey k) () [.idempotency k] []) :: ts) w') :
    OkIn W i c Q h ts (createKey (some h) k) t w := by
  refine Ok.sql Watch.lawful F (Watch.stable hs) hF fun w' _ _ hf _ a ws ks hr => ?_
  simp only [inventoryService, run] at hr
  split at hr
  · cases hr
  · next hn =>
    cases hr
    exact hq w' hf (by simpa using hn)

theorem ok_insertOutbox {event : OutboxEvent}
    {Q : Unit → Stack inventoryService → InventoryWorld → Prop}
    (hq : ∀ w', F w' → Q () ((h, t.record (.insertOutbox event) () [.outbox event] []) :: ts) w') :
    OkIn W i c Q h ts (insertOutbox (some h) event) t w := by
  refine Ok.sql Watch.lawful F (Watch.stable hs) hF fun w' _ _ hf _ a ws ks hr => ?_
  cases hr
  exact hq w' hf

omit hs hF in
theorem commits_intro {α : Type} {a : α} {Q : α → Stack inventoryService → InventoryWorld → Prop}
    (hs : Held T i t ts F) (hF : F w)
    (hq : ∀ w', F w' → (Commit T c t w' ∧ Traced t w') ∧ Q a ts (w'.commit c t)) :
    Commits W.discipline i c h ts Q a ((h, t) :: ts) w := by
  refine ⟨t, rfl, F, Watch.stable hs, hF, fun w' _ _ hf _ => ?_⟩
  obtain ⟨⟨hc, htraced⟩, hq⟩ := hq w' hf
  exact ⟨W.traced c t w' hc htraced, hq⟩

end Statements

theorem lasting_persists (found rows : List SeatAllocation) : Lasting (discipline T)
    (fun w => ∀ a ∈ found, a ∈ rows ∨ ∃ a' ∈ w.db.allocations, a'.id = a.id) where
  commit w c t _ _ hc _ h a ha := by
    refine (h a ha).imp_right ?_
    rintro ⟨a₁, ha₁, hid⟩
    obtain ⟨a₂, ha₂, hb, hseat⟩ := hc.persists ha₁
    refine ⟨a₂, ha₂, ?_⟩
    rw [← hid, SeatAllocation.id, SeatAllocation.id, hb, hseat]
  drift _ _ _ h := h

theorem ok_lockSeats {seats : List SeatInventory} {ids : List Id} (hw : w.db.seats = seats) :
    OkIn W i c (fun _ ts' w => w.db.seats = seats ∧ ∃ t', ts' = (h, t') :: ts ∧
        t'.writes = t.writes ∧ t'.site = t.site ∧ ∀ s ∈ seats, s.id ∈ ids → .seat s.id ∈ t'.locks)
      h ts (lockSeats (some h) ids) t w := by
  unfold lockSeats
  by_cases hids : ids.length = 0
  · rw [if_pos hids]
    obtain rfl := List.length_eq_zero_iff.mp hids
    exact ⟨hw, t, rfl, rfl, rfl, fun s _ hs => absurd hs List.not_mem_nil⟩
  · rw [if_neg hids]
    have hl : Lasting (discipline T) (fun w => w.db.seats = seats) := lasting_seats seats
    refine Ok.sql Watch.lawful _ (Watch.stable (hl.stable _ i _)) hw
      fun w' _ _ hw' _ a ws ks hr => ?_
    cases hr
    refine ⟨hw', _, rfl, by simp, rfl, fun s hs hid => ?_⟩
    rw [Tx.record_locks, view_eq, applyAll_seats, hw']
    apply List.mem_append_right
    apply List.mem_append_right
    apply List.mem_map_of_mem (f := fun s : SeatInventory => Key.seat s.id)
    exact List.mem_filter.mpr ⟨hs, by simpa using hid⟩

section Hold

variable {r : HoldSeatsRequested}

theorem ok_fail (hc : c.request? = some r) (reason : SeatHoldFailureReason) (message : String) :
    OkOut W i c (Returns ts) ts (fail r reason message) w := by
  refine Ok.bind (Q := Returns ts) (fun _ ts' _ hq => hq) ?_
  refine Ok.transaction_any Watch.lawful fun h w _ _ => ?_
  refine ok_insertOutbox (F := fun _ => True) (stable_const _ _ _ _) trivial fun w' _ => ?_
  exact commits_intro (F := fun _ => True) (stable_const _ _ _ _) trivial
    fun w _ => ⟨⟨.failed hc rfl rfl, .plain (by simp [Tx.start, Write.plain])⟩, rfl⟩

theorem mem_sortedSeatInventoryIds {k : Id} :
    k ∈ sortedSeatInventoryIds r ↔ k ∈ r.seatInventoryIds :=
  (List.perm_insertionSort (· ≤ ·) r.seatInventoryIds).mem_iff

def itself : Host inventoryService where
  tables d := d
  write x := x
  key k := k
  code p := p
  answered t q a := t.Answered q a

theorem itself_lawful : itself.Lawful where
  bind _ _ := rfl
  apply _ _ := rfl
  allocation d x a h := applyAll_allocation_other d [x] (by simpa [itself] using h)
  idempotency d x k h := applyAll_key_other d [x] (by simpa [itself] using h)
  sql hl _ _ _ _ _ _ _ _ _ hs hF hq :=
    Ok.sql hl _ hs hF fun w' hi _ hf _ a ws ks hr => hq w' _ a ws ks hi hf hr
      ⟨rfl, by simp [itself], by simp [itself], Tx.answered_record _ _ _ _ _,
        fun _ _ ha => ha.record _ _ _ _⟩

theorem ok_holdInsertions (x : Hold) (hc : c.request? = some x.request)
    {stops : List RouteStop} (hsegment : resolvedSegment stops x.request = some x.segment)
    {seats : List SeatInventory} (hseats : x.seats = seats.filter (fun s =>
      s.scheduleId = x.request.scheduleId && x.request.seatInventoryIds.contains s.id))
    (hall : x.seats.length = x.request.seatInventoryIds.length)
    (hlocks : ∀ s ∈ seats, s.id ∈ sortedSeatInventoryIds x.request → .seat s.id ∈ t.locks)
    (hsite : t.site = .hold) (hwrites : t.writes = [])
    (hw : (w.db.seats = seats ∧ x.Free w) ∧ w.db.stops = stops) :
    OkIn W i c (Commits W.discipline i c h ts (Returns ts)) h ts
      (do
        createMany (some h) (allocationRows x.request x.segment x.holdExpiresAt x.seats)
        let createdAllocations ← findByBookingId (some h) x.request.bookingId
        createHistoryMany (some h) (createdAllocations.map holdHistoryRow)
        createKey (some h) (.hold x.request.eventId)
        insertOutbox (some h)
          (.seatsHeld (heldPayload x.request x.segment x.holdExpiresAt x.seats))) t w := by
  have hfree : Stable (discipline T) i (t.locks ++ ts.locks)
      (fun w => (w.db.seats = seats ∧ x.Free w) ∧ w.db.stops = stops) :=
    (stable_free fun s hs hid => List.mem_append_left _ (hlocks s hs hid)).and _
      ((lasting_stops stops).stable _ i _)
  refine Host.ok_holdInsertions itself_lawful Watch.lawful x (Watch.stable hfree) hw hwrites
    (E := fun found w => ((found.map SeatAllocation.id).Nodup ∧ ∀ a ∈ x.rows, a ∈ found) ∧
      ∀ a ∈ found, a ∈ x.rows ∨ ∃ a' ∈ w.db.allocations, a'.id = a.id)
    (fun found => Watch.lasting ((lasting_const _).and (lasting_persists found x.rows)))
    (fun w hi hnew hdistinct => ⟨⟨?_, fun a ha => ?_⟩, fun a ha => ?_⟩)
    fun w t' found _ hF hE hready hins _ => W.traced c t' w ?_ ?_
  · exact (nodup_inserted hi.ids hnew hdistinct).sublist (List.filter_sublist.map _)
  · exact List.mem_filter.mpr ⟨List.mem_append_right _ ha, by simpa using Hold.rows_bookingId ha⟩
  · obtain ha | ha := List.mem_append.mp (List.mem_filter.mp ha).1
    · exact .inr ⟨a, ha, rfl⟩
    · exact .inl ha
  · obtain ⟨⟨hs, hfree⟩, hstops⟩ := hF
    refine .held x (found.map holdHistoryRow) hc (hins.site.trans hsite) ⟨?_, ?_, hall⟩ hfree
      (fun a ha => ?_) hready.new hready.distinct hready.key (by simpa [itself] using hins.writes)
    · rw [hstops]
      exact hsegment
    · rw [hs]
      exact hseats
    · obtain ⟨s, hs, hid, rfl⟩ := Hold.mem_rows ha
      rw [hseats, List.mem_filter] at hs
      exact hins.locks _ (hlocks s hs.1 (mem_sortedSeatInventoryIds.mpr hid))
  · exact .held x found (hins.site.trans hsite) hins.answered hE.1.1 hE.1.2 hE.2
      (by simpa [itself] using hins.writes)

theorem ok_holdTransaction (x : Hold) (hc : c.request? = some x.request) (hf : x.Found w) :
    OkOut W i c (Returns ts) ts
      (holdTransaction x.request x.segment x.holdExpiresAt x.seats) w := by
  have hl : Lasting (discipline T) (fun w' => w'.db.seats = w.db.seats ∧
      w'.db.stops = w.db.stops) := (lasting_seats _).and (lasting_stops _)
  refine Ok.transaction Watch.lawful _ (Watch.stable (hl.stable _ i _)) ⟨rfl, rfl⟩
    fun h w₁ _ _ hw₁ => ?_
  refine Ok.seq (ok_existsKey (hl.stable _ i _) hw₁ fun w₂ processed hw₂ _ => ?_)
  cases processed with
  | true =>
    exact commits_intro (F := fun _ => True) (stable_const _ _ _ _) trivial
      fun w _ => ⟨⟨.holdDuplicate hc rfl rfl, .plain fun _ hx => by cases hx⟩, rfl⟩
  | false =>
    refine Ok.bind ?_ ((ok_lockSeats hw₂.1).frame_result Watch.lawful
      (Watch.lasting (lasting_stops _)) hw₂.2)
    rintro _ _ w₃ ⟨⟨hseats₃, t, rfl, hwrites, hsite, hlocks⟩, hstops₃⟩
    have hw₃ := And.intro hseats₃ hstops₃
    refine Ok.seq (Ok.sql Watch.lawful _ (Watch.stable (hl.stable _ i _)) hw₃
      fun w₄ _ _ hw₄ _ a ws ks hr => ?_)
    have hview : t.view w₄.db = w₄.db := view_nothing hwrites w₄.db
    simp only [inventoryService, run, hview, Except.ok.injEq, Prod.mk.injEq] at hr
    obtain ⟨rfl, rfl, rfl⟩ := hr
    cases hov : hasOverlappingAllocation w₄.db x.request.scheduleId
      (sortedSeatInventoryIds x.request) x.segment.fromStop.sequenceNumber
      x.segment.toStop.sequenceNumber with
    | true => exact ⟨rfl, _, rfl⟩
    | false =>
      refine ok_holdInsertions x hc hf.segment hf.seats hf.all ?_ hsite ?_
        ⟨⟨hw₄.1, hov⟩, hw₄.2⟩
      · exact fun s hs hid => by simp [hlocks s hs hid]
      · rw [Tx.record_writes, hwrites]
        rfl

theorem ok_commitHoldTransaction (hc : c.request? = some r) {segment : Segment}
    {seats : List SeatInventory} (hf : ∀ now, (Hold.mk r segment now seats).Found w) :
    OkOut W i c (Returns ts) ts (commitHoldTransaction r segment seats) w := by
  have hl : Lasting (discipline T) (fun w => ∀ now, (Hold.mk r segment now seats).Found w) := by
    refine ⟨fun w c t _ _ _ _ h now => ⟨?_, ?_, (h now).all⟩,
      fun _ _ _ h now => ⟨(h now).segment, (h now).seats, (h now).all⟩⟩
    · rw [commit_stops]
      exact (h now).segment
    · rw [commit_seats]
      exact (h now).seats
  refine Ok.bind ?_ (Ok.aux_any Watch.lawful (Watch.lasting hl) hf fun _ _ => trivial)
  rintro now _ w₁ ⟨rfl, hf⟩
  refine Ok.attempt (Ok.bind (Q := Returns _) (fun _ _ _ hq => hq)
    (ok_holdTransaction ⟨r, segment, now + r.holdTtlMs, seats⟩ hc (hf _))) ?_
  rintro err _ w₂ ⟨-, rfl⟩
  split
  · exact ok_fail hc _ _
  · exact ok_fail hc _ _

theorem ok_query {q : Sql} (hq : ∀ d a ws ks, run q d = .ok (a, ws, ks) → ws = []) :
    OkOut W i c (Returns ts) ts (Code.sql (V := inventoryService) none q) w :=
  Ok.read Watch.lawful (fun _ => True) (stable_const _ _ _ _) trivial hq
    fun _ _ _ _ _ _ _ _ _ => rfl

theorem lasting_resolved (r : HoldSeatsRequested) (segment : Option Segment) :
    Lasting (discipline T) (fun w => resolvedSegment w.db.stops r = segment) where
  commit w c t _ _ _ _ h := by
    rw [commit_stops]
    exact h
  drift _ _ _ h := h

theorem ok_holdLocked (hc : c.request? = some r) {segment : Segment}
    (hsegment : resolvedSegment w.db.stops r = some segment) :
    OkOut W i c (Returns ts) ts (holdLocked r segment) w := by
  refine Ok.seq (Ok.read Watch.lawful _ (Watch.stable ((lasting_resolved r _).stable _ i _))
    hsegment (fun d a ws ks hr => ?_) fun w₁ _ _ hsegment₁ _ seats ws ks hr => ?_)
  · cases hr
    rfl
  · cases hr
    split
    · exact ok_fail hc _ _
    · next hall => exact ok_commitHoldTransaction hc fun now => ⟨hsegment₁, rfl, not_not.mp hall⟩

theorem ok_redis {a : Aux} (x : AuxAns a) :
    OkOut W i c (Returns ts) ts
      ((Code.aux (V := inventoryService) a).attempt (fun _ => pure x)) w := by
  refine Ok.attempt (Ok.mono (fun _ _ _ hq => hq.1) (fun _ _ _ hx => hx)
    (Ok.aux_any Watch.lawful lasting_true trivial fun _ _ => trivial)) ?_
  rintro _ _ _ ⟨-, rfl⟩
  exact rfl

theorem ok_acquireSeatLocks {segments : List SegmentLockKey} {token : Uuid} {ttl : Nat} :
    OkOut W i c (Returns ts) ts (acquireSeatLocks segments token ttl) w := by
  unfold acquireSeatLocks
  split
  · exact rfl
  · exact ok_redis (a := .lockSeats _ _ _) false

theorem ok_releaseSeatLocks {segments : List SegmentLockKey} {token : Uuid} :
    OkOut W i c (Returns ts) ts (releaseSeatLocks segments token) w := by
  unfold releaseSeatLocks
  split
  · exact rfl
  · exact ok_redis (a := .unlockSeats _ _) 0

theorem ok_holdSegment (hc : c.request? = some r) {segment : Segment}
    (hsegment : resolvedSegment w.db.stops r = some segment) :
    OkOut W i c (Returns ts) ts (holdSegment r segment) w := by
  refine Ok.bind ?_ (ok_acquireSeatLocks.frame_result Watch.lawful
    (Watch.lasting (lasting_resolved r _)) hsegment)
  rintro acquired _ w₁ ⟨rfl, hsegment₁⟩
  cases acquired with
  | false => exact ok_fail hc _ _
  | true =>
    refine Ok.ensure (ok_holdLocked hc hsegment₁) ?_ ?_
    · rintro outcome ts₁ w₂ rfl
      refine Ok.bind ?_ ok_releaseSeatLocks
      rintro _ ts₂ w₃ rfl
      exact rfl
    · rintro err ts₁ w₂ ⟨herr, rfl⟩
      refine Ok.bind ?_ ok_releaseSeatLocks
      rintro _ ts₂ w₃ rfl
      exact ⟨herr, rfl⟩

section Stops

variable {stops : List RouteStop}

abbrev Answers {α : Type} (ts : Stack inventoryService) (stops : List RouteStop) (x a : α)
    (ts' : Stack inventoryService) (w : InventoryWorld) : Prop :=
  a = x ∧ ts' = ts ∧ w.db.stops = stops

theorem ok_findBySequence {sequenceNumber : Nat} (hw : w.db.stops = stops) :
    OkOut W i c (Answers ts stops (stopBySequence stops r sequenceNumber)) ts
      (findBySequence r sequenceNumber) w := by
  unfold findBySequence stopBySequence
  split
  · refine Ok.read Watch.lawful _ (Watch.stable ((lasting_stops stops).stable _ i _)) hw
      (fun d a ws ks hr => ?_) fun w₁ _ _ hw₁ _ a ws ks hr => ?_
    · cases hr
      rfl
    · cases hr
      rw [hw₁]
      exact ⟨rfl, rfl, hw₁⟩
  · exact ⟨rfl, rfl, hw⟩

theorem ok_orByStation {stop : Option RouteStop} {stationId : Id} (hw : w.db.stops = stops) :
    OkOut W i c (Answers ts stops (stopByStation stops r stop stationId)) ts
      (orByStation r stop stationId) w := by
  cases stop with
  | some stop => exact ⟨rfl, rfl, hw⟩
  | none =>
    refine Ok.read Watch.lawful _ (Watch.stable ((lasting_stops stops).stable _ i _)) hw
      (fun d a ws ks hr => ?_) fun w₁ _ _ hw₁ _ a ws ks hr => ?_
    · cases hr
      rfl
    · cases hr
      rw [hw₁]
      exact ⟨rfl, rfl, hw₁⟩

theorem ok_resolveSegmentStops (hw : w.db.stops = stops) :
    OkOut W i c (Answers ts stops (resolvedSegment stops r)) ts (resolveSegmentStops r) w := by
  refine Ok.bind ?_ (ok_findBySequence hw)
  rintro _ _ w₁ ⟨rfl, rfl, hw₁⟩
  refine Ok.bind ?_ (ok_findBySequence hw₁)
  rintro _ _ w₂ ⟨rfl, rfl, hw₂⟩
  refine Ok.bind ?_ (ok_orByStation hw₂)
  rintro _ _ w₃ ⟨rfl, rfl, hw₃⟩
  refine Ok.bind ?_ (ok_orByStation hw₃)
  rintro _ _ w₄ ⟨rfl, rfl, hw₄⟩
  exact ⟨rfl, rfl, hw₄⟩

end Stops

theorem ok_holdSeats (hc : c.request? = some r) :
    OkOut W i c (Returns ts) ts (holdSeats r) w := by
  refine Ok.bind ?_ (ok_query (q := .existsKey _) fun d a ws ks hr => by cases hr; rfl)
  rintro processed _ w₁ rfl
  cases processed with
  | true => exact rfl
  | false =>
    refine Ok.bind ?_ (ok_query (q := .findByScheduleId _) fun d a ws ks hr => by cases hr; rfl)
    rintro status _ w₂ rfl
    split
    · exact ok_fail hc _ _
    · refine Ok.bind ?_ (ok_resolveSegmentStops rfl)
      rintro _ _ w₃ ⟨rfl, rfl, hw₃⟩
      cases hsegment : resolvedSegment w₂.db.stops r with
      | none => exact ok_fail hc _ _
      | some segment =>
        rw [← hw₃] at hsegment
        exact ok_holdSegment hc hsegment

end Hold

end RailwayBooking.InventoryService
