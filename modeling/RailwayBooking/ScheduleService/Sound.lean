import RailwayBooking.Kafka.DlqSound
import RailwayBooking.ScheduleService.Projection

namespace RailwayBooking.ScheduleService

open Concurrency InventoryService

section Lift

variable {α β : Type}

theorem lift_handle (p : InventoryCode α) (f : α → InventoryCode β) (g : Err → InventoryCode β) :
    lift (p.handle f g) = (lift p).handle (fun a => lift (f a)) (fun e => lift (g e)) := by
  induction p with
  | ret a => rfl
  | raise e => rfl
  | call s k ih =>
    cases s <;>
      · simp only [Program.handle, lift]
        congr
        funext r
        exact ih r

theorem lift_bind (p : InventoryCode α) (f : α → InventoryCode β) :
    lift (p >>= f) = lift p >>= fun a => lift (f a) := by
  rw [Program.bind_eq, lift_handle]
  rfl

theorem lift_attempt (p : InventoryCode α) (g : Err → InventoryCode α) :
    lift (p.attempt g) = (lift p).attempt (fun e => lift (g e)) := by
  rw [Program.attempt, lift_handle]
  rfl

theorem lift_ensure (p : InventoryCode α) (f : InventoryCode Unit) :
    lift (p.ensure f) = (lift p).ensure (lift f) := by
  rw [Program.ensure, lift_handle, Program.ensure]
  congr
  · funext a
    exact lift_handle f _ _
  · funext e
    exact lift_handle f _ _

theorem lift_sql (h : Option Nat) (q : InventoryService.Sql) :
    lift (Code.sql (V := inventoryService) h q) = Code.sql (V := scheduleService) h (.inventory q) := by
  simp only [Code.sql, Program.issue, lift]
  congr
  funext r
  cases r <;> rfl

theorem lift_aux (a : InventoryService.Aux) :
    lift (Code.aux (V := inventoryService) a) = Code.aux (V := scheduleService) (.inventory a) := by
  simp only [Code.aux, Program.issue, lift]
  congr
  funext r
  cases r <;> rfl

theorem lift_transaction (site : InventoryService.Site) (body : Nat → InventoryCode α) :
    lift (Code.transaction (V := inventoryService) site body) =
      Code.transaction (V := scheduleService) (.inventory site) (fun h => lift (body h)) := by
  have hend : ∀ (h : Nat) (a : α), lift (Program.issue (L := inventoryService.sig) (.commit h) >>=
      fun _ => .ret a) = Program.issue (L := scheduleService.sig) (.commit h) >>= fun _ => .ret a := by
    intro h a
    rw [lift_bind]
    congr 1
    simp only [Program.issue, lift]
    congr
    funext r
    cases r <;> rfl
  have hback : ∀ (h : Nat) (e : Err), lift (α := α)
      (Program.issue (L := inventoryService.sig) (.rollback h) >>= fun _ => .raise e) =
        Program.issue (L := scheduleService.sig) (.rollback h) >>= fun _ => .raise e := by
    intro h e
    rw [lift_bind]
    congr 1
    simp only [Program.issue, lift]
    congr
    funext r
    cases r <;> rfl
  rw [Code.transaction, lift_bind, Code.transaction]
  congr 1
  · simp only [Program.issue, lift]
    congr
    funext r
    cases r <;> rfl
  · funext h
    rw [lift_handle]
    congr
    · funext a
      exact hend h a
    · funext e
      exact hback h e

end Lift

variable {i : Nat} {c : Call} {h : Nat} {t : ScheduleTx} {ts : Stack scheduleService}
  {w : ScheduleWorld} {α : Type}

abbrev OkIn (i : Nat) (c : Call) {α : Type}
    (Q : α → Stack scheduleService → ScheduleWorld → Prop) (h : Nat) (ts : Stack scheduleService)
    (p : ScheduleCode α) (t : ScheduleTx) (w : ScheduleWorld) : Prop :=
  Ok discipline i c Q (Inside discipline h ts) p ((h, t) :: ts) w

abbrev OkOut (i : Nat) (c : Call) {α : Type}
    (Q : α → Stack scheduleService → ScheduleWorld → Prop) (ts : Stack scheduleService)
    (p : ScheduleCode α) (w : ScheduleWorld) : Prop :=
  Ok discipline i c Q (Outside discipline ts) p ts w

abbrev Returns {α : Type} (ts : Stack scheduleService) (_ : α) (ts' : Stack scheduleService)
    (_ : ScheduleWorld) : Prop := ts' = ts

section Statements

variable {F : ScheduleWorld → Prop}

theorem run_inventory {q : InventoryService.Sql} {d : Db} {a : InventoryService.Rows q}
    {ws : List Write} {ks : List Key} (h : run (.inventory q) d = .ok (a, ws, ks)) :
    ∃ ws' ks', InventoryService.run q d.tables = .ok (a, ws', ks') ∧ ws = ws'.map .inventory ∧
      ks = ks'.map .inventory := by
  change (InventoryService.run q d.tables).map _ = _ at h
  cases hrun : InventoryService.run q d.tables with
  | error e =>
    rw [hrun] at h
    cases h
  | ok r =>
    obtain ⟨a', ws', ks'⟩ := r
    rw [hrun] at h
    cases h
    exact ⟨ws', ks', rfl, rfl, rfl⟩

theorem ok_inventory {q : InventoryService.Sql}
    {Q : InventoryService.Rows q → Stack scheduleService → ScheduleWorld → Prop}
    (hs : Stable discipline i (t.locks ++ ts.locks) F) (hF : F w)
    (hq : ∀ w' a ws ks, Inv w' → F w' →
      InventoryService.run q (t.view w'.db).tables = .ok (a, ws, ks) →
      Q a ((h, t.record (.inventory q) a (ws.map .inventory) (ks.map .inventory)) :: ts) w') :
    OkIn i c Q h ts (Code.sql (V := scheduleService) (some h) (.inventory q)) t w := by
  refine Ok.sql lawful F hs hF fun w' hi _ hf _ a ws ks hr => ?_
  obtain ⟨ws', ks', hrun, rfl, rfl⟩ := run_inventory hr
  exact hq w' a ws' ks' hi hf hrun

theorem ok_read {q : InventoryService.Sql}
    {Q : InventoryService.Rows q → Stack scheduleService → ScheduleWorld → Prop}
    (hreads : ∀ d a ws ks, InventoryService.run q d = .ok (a, ws, ks) → ws = [])
    (hq : ∀ w' a ws ks, Inv w' → InventoryService.run q w'.db.tables = .ok (a, ws, ks) →
      Q a ts w') :
    OkOut i c Q ts (Code.sql (V := scheduleService) none (.inventory q)) w := by
  refine Ok.read lawful (fun _ => True) (stable_const _ _ _ _) trivial (fun d a ws ks hr => ?_)
    fun w' hi _ _ _ a ws ks hr => ?_
  · obtain ⟨ws', ks', hrun, rfl, rfl⟩ := run_inventory hr
    rw [hreads _ _ _ _ hrun]
    rfl
  · obtain ⟨ws', ks', hrun, rfl, rfl⟩ := run_inventory hr
    exact hq w' a ws' ks' hi hrun

theorem commits_intro {a : α} {Q : α → Stack scheduleService → ScheduleWorld → Prop}
    (hs : Stable discipline i (t.locks ++ ts.locks) F) (hF : F w)
    (hq : ∀ w', Inv w' → F w' → Attaching t w' → Commit t w' ∧ Q a ts (w'.commit c t)) :
    Commits discipline i c h ts Q a ((h, t) :: ts) w :=
  ⟨t, rfl, F, hs, hF, fun w' hi _ hf ha => hq w' hi hf (ha h t rfl rfl)⟩

theorem commits_plain {a : α} (hw : ∀ x ∈ t.writes, x.plain = true) :
    Commits discipline i c h ts (Returns ts) a ((h, t) :: ts) w :=
  commits_intro (F := fun _ => True) (stable_const _ _ _ _) trivial
    fun _ _ _ _ => ⟨.plain hw, rfl⟩

end Statements

section Hold

theorem ok_lockSeats {ids : List Id} {seats : List SeatInventory} (hids : ∀ s ∈ seats, s.id ∈ ids)
    (hmade : ∀ s ∈ seats, Made w s) (hwrites : t.writes = []) :
    OkIn i c (fun _ ts' w => ∃ t', ts' = (h, t') :: ts ∧ t'.writes = [] ∧
        ∀ s ∈ seats, Made w s ∧ (.inventory (.seat s.id) ∈ t'.locks ∨ Dead s.id w))
      h ts (lift (lockSeats (some h) ids)) t w := by
  have hl : Lasting discipline (fun w => ∀ s ∈ seats, Made w s) :=
    ⟨fun _ c t _ _ _ _ h s hs => (h s hs).commit c t, fun _ _ _ h => h⟩
  unfold lockSeats
  split
  · next hnone =>
    obtain rfl := List.length_eq_zero_iff.mp hnone
    exact ⟨t, rfl, hwrites, fun s hs => absurd (hids s hs) List.not_mem_nil⟩
  · rw [lift_sql]
    refine ok_inventory (hl.stable _ i _) hmade fun w' _ ws ks _ hw' hr => ?_
    cases hr
    refine ⟨_, rfl, by simp [hwrites], fun s hs => ⟨hw' s hs, ?_⟩⟩
    by_cases hstands : ∃ s' ∈ w'.db.tables.seats, s'.id = s.id
    · obtain ⟨s', hs', hid⟩ := hstands
      left
      rw [Tx.record_locks, view_eq, hwrites]
      apply List.mem_append_right
      apply List.mem_append_right
      apply List.mem_map_of_mem
      rw [← hid]
      apply List.mem_map_of_mem (f := fun s : SeatInventory => InventoryService.Key.seat s.id)
      refine List.mem_filter.mpr ⟨hs', ?_⟩
      rw [hid]
      simpa using hids s hs
    · refine .inr ⟨⟨s, hw' s hs, rfl⟩, fun s' hs' hid => hstands ⟨s', hs', hid⟩⟩

theorem free_of_check (x : Hold) (hsched : ∀ s ∈ x.seats, s.scheduleId = x.request.scheduleId)
    {ks : List Key}
    (hlocked : ∀ s ∈ x.seats, Made w s ∧ (.inventory (.seat s.id) ∈ ks ∨ Dead s.id w))
    (hno : hasOverlappingAllocation w.db.tables x.request.scheduleId
      (sortedSeatInventoryIds x.request) x.segment.fromStop.sequenceNumber
      x.segment.toStop.sequenceNumber = false) : Free ks x.rows w where
  made a ha := by
    obtain ⟨s, hs, _, rfl⟩ := Hold.mem_rows ha
    exact ⟨s, (hlocked s hs).1, rfl, hsched s hs⟩
  seats a ha := by
    obtain ⟨s, hs, _, rfl⟩ := Hold.mem_rows ha
    exact (hlocked s hs).2
  apart a ha a' ha' hs hconf := by
    obtain ⟨s, _, hreq, rfl⟩ := Hold.mem_rows ha'
    rw [← Bool.not_eq_true, hasOverlap_iff] at hno
    apply hno
    refine ⟨a, ha, hs, mem_sortedSeatInventoryIds.mpr ?_, hconf.starts, hconf.ends, hconf.left⟩
    rw [hconf.seat]
    exact hreq

theorem rowKeys_inventory (ws : List InventoryService.Write) (ks : List InventoryService.Key) :
    Tx.rowKeys scheduleService (ws.map .inventory) (ks.map .inventory) =
      (Tx.rowKeys inventoryService ws ks).map Key.inventory := by
  rw [Tx.rowKeys, Tx.rowKeys, List.map_append, List.flatMap_map, List.map_flatMap]
  rfl

def host : Host scheduleService where
  tables := Db.tables
  write := .inventory
  key := .inventory
  code := lift
  answered t q a := t.Answered (.inventory q) a

theorem host_lawful : host.Lawful where
  bind := lift_bind
  apply _ _ := rfl
  allocation d x a h := by
    have hx : ∀ y ∈ [x], Key.inventory (.allocation a.id) ∉ y.keys := by simpa [host] using h
    exact applyAll_allocation_other hx
  idempotency d x k h := by
    cases x with
    | inventory y =>
      refine InventoryService.applyAll_key_other d.tables [y] fun z hz hk => h ?_
      rw [List.mem_singleton.mp hz] at hk
      exact List.mem_map_of_mem hk
    | _ => rfl
  sql hl _ _ _ _ _ _ _ _ _ hs hF hq := by
    change Ok _ _ _ _ _ (lift _) _ _
    rw [lift_sql]
    refine Ok.sql hl _ hs hF fun w' hi _ hf _ a ws ks hr => ?_
    obtain ⟨ws', ks', hrun, rfl, rfl⟩ := run_inventory hr
    refine hq w' _ a ws' ks' hi hf hrun ⟨rfl, rfl, ?_, Tx.answered_record _ _ _ _ _,
      fun _ _ ha => ha.record _ _ _ _⟩
    rw [Tx.record_locks, rowKeys_inventory]
    rfl

theorem ok_holdInsertions (x : Hold) (hwrites : t.writes = [])
    (hfree : Free t.locks x.rows w) :
    OkIn i c (Commits discipline i c h ts (Returns ts)) h ts
      (lift (do
        createMany (some h) (allocationRows x.request x.segment x.holdExpiresAt x.seats)
        let createdAllocations ← findByBookingId (some h) x.request.bookingId
        createHistoryMany (some h) (createdAllocations.map holdHistoryRow)
        createKey (some h) (.hold x.request.eventId)
        InventoryService.insertOutbox (some h)
          (.seatsHeld (heldPayload x.request x.segment x.holdExpiresAt x.seats)))) t w := by
  have hs : Stable discipline i (t.locks ++ ts.locks) (Free t.locks x.rows) :=
    (stable_free x.rows).mono _ fun k hk => List.mem_append_left _ hk
  refine Host.ok_holdInsertions host_lawful lawful x hs hfree hwrites (E := fun _ _ => True)
    (fun _ => lasting_true) (fun _ _ _ _ => trivial)
    fun w₆ t₆ found hi hF _ hready hins hallow => ?_
  have hatt := hallow h t₆ rfl rfl
  have hrows : Write.inventory (.allocations x.rows) ∈ t₆.writes := by simp [hins.writes, host]
  have hstands : ∀ a ∈ x.rows, ∃ s ∈ w₆.db.tables.seats, s.id = a.seatInventoryId ∧
      s.scheduleId = a.scheduleId := by
    intro a ha
    obtain ⟨s, hs, hid⟩ := hatt.seats x.rows hrows a ha
    obtain ⟨s', hs', hid', hsched⟩ := hF.made a ha
    rw [← hi.unique s s' (hi.made s hs) hs' (hid.trans hid'.symm)] at hsched
    exact ⟨s, hs, hid, hsched⟩
  refine .held x (found.map holdHistoryRow) hstands (fun a ha => ?_) hF.apart hready.new
    hready.distinct (by simp [hins.writes, host])
  obtain hlock | hdead := hF.seats a ha
  · exact hins.locks _ hlock
  · obtain ⟨s, hs, hid, -⟩ := hstands a ha
    exact absurd hid (hdead.2 s hs)

theorem ok_holdTransaction (x : Hold) (hids : ∀ s ∈ x.seats, s.id ∈ x.request.seatInventoryIds)
    (hsched : ∀ s ∈ x.seats, s.scheduleId = x.request.scheduleId)
    (hmade : ∀ s ∈ x.seats, Made w s) :
    OkOut i c (Returns ts) ts
      (lift (holdTransaction x.request x.segment x.holdExpiresAt x.seats)) w := by
  have hl : Lasting discipline (fun w => ∀ s ∈ x.seats, Made w s) :=
    ⟨fun _ c t _ _ _ _ h s hs => (h s hs).commit c t, fun _ _ _ h => h⟩
  rw [holdTransaction, lift_transaction]
  refine Ok.transaction lawful _ (hl.stable _ i _) hmade fun h w₁ _ _ hw₁ => ?_
  rw [lift_bind, existsKey, lift_sql]
  refine Ok.seq (ok_inventory (hl.stable _ i _) hw₁ fun w₂ processed ws ks _ hw₂ hr => ?_)
  simp only [InventoryService.run, Except.ok.injEq, Prod.mk.injEq] at hr
  obtain ⟨-, rfl, rfl⟩ := hr
  cases processed with
  | true => exact commits_plain (by simp [Tx.start])
  | false =>
    have hsorted : ∀ s ∈ x.seats, s.id ∈ sortedSeatInventoryIds x.request :=
      fun s hs => mem_sortedSeatInventoryIds.mpr (hids s hs)
    rw [if_neg Bool.false_ne_true, lift_bind]
    refine Ok.bind ?_ (ok_lockSeats hsorted hw₂ (by simp [Tx.start]))
    rintro _ _ w₃ ⟨t, rfl, hwrites, hw₃⟩
    have hlocked : Lasting discipline (fun w => ∀ s ∈ x.seats, Made w s ∧
        (.inventory (.seat s.id) ∈ t.locks ∨ Dead s.id w)) := by
      refine ⟨fun w c t hi hp hc hv h s hs => ⟨(h s hs).1.commit c t, ?_⟩, fun _ _ _ h => h⟩
      exact (h s hs).2.imp_right fun hd => (lasting_dead _).commit w c t hi hp hc hv hd
    rw [lift_bind, findOverlap, lift_sql]
    refine Ok.seq (ok_inventory (hlocked.stable _ i _) hw₃ fun w₄ hasOverlap ws ks _ hw₄ hr => ?_)
    have hview : t.view w₄.db = w₄.db := by rw [view_eq, hwrites]; rfl
    simp only [InventoryService.run, hview, Except.ok.injEq, Prod.mk.injEq] at hr
    obtain ⟨hov, rfl, rfl⟩ := hr
    cases hasOverlap with
    | true => exact ⟨trivial, _, rfl⟩
    | false =>
      refine ok_holdInsertions x ?_ (free_of_check x hsched (fun s hs => ⟨(hw₄ s hs).1, ?_⟩) hov)
      · simp [hwrites]
      · exact (hw₄ s hs).2.imp_left fun hk => by simp [hk]

theorem lift_ite {p : Prop} [Decidable p] (a b : InventoryCode α) :
    lift (if p then a else b) = if p then lift a else lift b := by
  split <;> rfl

variable {r : HoldSeatsRequested}

theorem ok_fail (reason : SeatHoldFailureReason) (message : String) :
    OkOut i c (Returns ts) ts (lift (fail r reason message)) w := by
  rw [fail, lift_bind, lift_transaction]
  refine Ok.bind (Q := Returns ts) (fun _ ts' _ hq => hq) ?_
  refine Ok.transaction_any lawful fun h w _ _ => ?_
  rw [InventoryService.insertOutbox, lift_sql]
  refine ok_inventory (F := fun _ => True) (stable_const _ _ _ _) trivial
    fun w' _ ws ks _ _ hr => ?_
  cases hr
  exact commits_plain (by simp [Tx.start, Write.plain])

theorem ok_commitHoldTransaction {segment : Segment} {seats : List SeatInventory}
    (hids : ∀ s ∈ seats, s.id ∈ r.seatInventoryIds)
    (hsched : ∀ s ∈ seats, s.scheduleId = r.scheduleId) (hmade : ∀ s ∈ seats, Made w s) :
    OkOut i c (Returns ts) ts (lift (commitHoldTransaction r segment seats)) w := by
  have hl : Lasting discipline (fun w => ∀ s ∈ seats, Made w s) :=
    ⟨fun _ c t _ _ _ _ h s hs => (h s hs).commit c t, fun _ _ _ h => h⟩
  rw [commitHoldTransaction, lift_bind, lift_aux]
  refine Ok.bind ?_ (Ok.aux_any lawful hl hmade fun _ _ => trivial)
  rintro now _ w₁ ⟨rfl, hmade⟩
  rw [lift_attempt, lift_bind]
  refine Ok.attempt (Ok.bind (Q := Returns _) (fun _ _ _ hq => hq)
    (ok_holdTransaction ⟨r, segment, now + r.holdTtlMs, seats⟩ hids hsched hmade)) ?_
  rintro err _ w₂ ⟨-, rfl⟩
  split
  · exact ok_fail _ _
  · exact ok_fail _ _

theorem ok_holdLocked {segment : Segment} :
    OkOut i c (Returns ts) ts (lift (holdLocked r segment)) w := by
  rw [holdLocked, lift_bind, findManyByIds, lift_sql]
  refine Ok.seq (ok_read (fun d a ws ks hr => ?_) fun w₁ seats ws ks hi hr => ?_)
  · cases hr
    rfl
  · simp only [InventoryService.run, Except.ok.injEq, Prod.mk.injEq] at hr
    obtain ⟨rfl, -, -⟩ := hr
    rw [lift_ite]
    split
    · exact ok_fail _ _
    · refine ok_commitHoldTransaction (fun s hs => ?_) (fun s hs => ?_) fun s hs => ?_
      · have hmem := (List.mem_filter.mp hs).2
        simp at hmem
        exact hmem.2
      · have hmem := (List.mem_filter.mp hs).2
        simp at hmem
        exact hmem.1
      · exact hi.made s (List.mem_filter.mp hs).1

theorem ok_redis {a : InventoryService.Aux} (x : InventoryService.AuxAns a) :
    OkOut i c (Returns ts) ts
      (lift ((Code.aux (V := inventoryService) a).attempt (fun _ => pure x))) w := by
  rw [lift_attempt, lift_aux]
  refine Ok.attempt (Ok.mono (fun _ _ _ hq => hq.1) (fun _ _ _ hx => hx)
    (Ok.aux_any lawful lasting_true trivial fun _ _ => trivial)) ?_
  rintro _ _ _ ⟨-, rfl⟩
  exact rfl

theorem ok_acquireSeatLocks {segments : List SegmentLockKey} {token : Uuid} {ttl : Nat} :
    OkOut i c (Returns ts) ts (lift (acquireSeatLocks segments token ttl)) w := by
  unfold acquireSeatLocks
  split
  · exact rfl
  · exact ok_redis (a := .lockSeats _ _ _) false

theorem ok_releaseSeatLocks {segments : List SegmentLockKey} {token : Uuid} :
    OkOut i c (Returns ts) ts (lift (releaseSeatLocks segments token)) w := by
  unfold releaseSeatLocks
  split
  · exact rfl
  · exact ok_redis (a := .unlockSeats _ _) 0

theorem ok_holdSegment {segment : Segment} :
    OkOut i c (Returns ts) ts (lift (holdSegment r segment)) w := by
  rw [holdSegment, lift_bind]
  refine Ok.bind ?_ ok_acquireSeatLocks
  rintro acquired _ w₁ rfl
  cases acquired with
  | false => exact ok_fail _ _
  | true =>
    rw [if_neg (by simp), finallyRelease, lift_ensure, lift_bind]
    refine Ok.ensure ok_holdLocked ?_ ?_
    · rintro outcome ts₁ w₂ rfl
      refine Ok.bind ?_ ok_releaseSeatLocks
      rintro _ ts₂ w₃ rfl
      exact rfl
    · rintro err ts₁ w₂ ⟨herr, rfl⟩
      refine Ok.bind ?_ ok_releaseSeatLocks
      rintro _ ts₂ w₃ rfl
      exact ⟨herr, rfl⟩

theorem ok_query {q : InventoryService.Sql}
    (hq : ∀ d a ws ks, InventoryService.run q d = .ok (a, ws, ks) → ws = []) :
    OkOut i c (Returns ts) ts (lift (Code.sql (V := inventoryService) none q)) w := by
  rw [lift_sql]
  exact ok_read hq fun _ _ _ _ _ _ => rfl

theorem ok_resolveSegmentStops : OkOut i c (Returns ts) ts (lift (resolveSegmentStops r)) w := by
  have hseq : ∀ n w, OkOut i c (Returns ts) ts (lift (findBySequence r n)) w := by
    intro n w
    unfold findBySequence
    split
    · exact ok_query fun d a ws ks hr => by cases hr; rfl
    · exact rfl
  have hstation : ∀ stop k w, OkOut i c (Returns ts) ts (lift (orByStation r stop k)) w := by
    intro stop k w
    cases stop with
    | some stop => exact rfl
    | none => exact ok_query fun d a ws ks hr => by cases hr; rfl
  rw [resolveSegmentStops, lift_bind]
  refine Ok.bind ?_ (hseq _ w)
  rintro fromStop _ w₁ rfl
  rw [lift_bind]
  refine Ok.bind ?_ (hseq _ w₁)
  rintro toStop _ w₂ rfl
  rw [lift_bind]
  refine Ok.bind ?_ (hstation _ _ w₂)
  rintro fromStop _ w₃ rfl
  rw [lift_bind]
  exact Ok.bind (Q := Returns _) (fun _ _ _ hq => hq) (hstation _ _ w₃)

theorem ok_holdSeats : OkOut i c (Returns ts) ts (lift (holdSeats r)) w := by
  rw [holdSeats, lift_bind, existsKey]
  refine Ok.bind ?_ (ok_query fun d a ws ks hr => by cases hr; rfl)
  rintro processed _ w₁ rfl
  cases processed with
  | true => exact rfl
  | false =>
    rw [if_neg Bool.false_ne_true, lift_bind, InventoryService.findByScheduleId]
    refine Ok.bind ?_ (ok_query fun d a ws ks hr => by cases hr; rfl)
    rintro status _ w₂ rfl
    rw [lift_ite]
    split
    · exact ok_fail _ _
    · rw [lift_bind]
      refine Ok.bind ?_ ok_resolveSegmentStops
      rintro segment _ w₃ rfl
      cases segment with
      | none => exact ok_fail _ _
      | some segment => exact ok_holdSegment

end Hold

section Lifecycle

variable {e : SeatLifecycleEventArgs} {k : EventKey}

theorem ok_recorded (hw : ∀ x ∈ t.writes, x.plain = true) :
    OkIn i c (Commits discipline i c h ts (Returns ts)) h ts (lift (createKey (some h) k)) t w := by
  rw [createKey, lift_sql]
  refine ok_inventory (F := fun _ => True) (stable_const _ _ _ _) trivial
    fun w₁ _ ws ks _ _ hr => commits_plain ?_
  simp only [InventoryService.run] at hr
  split at hr
  · cases hr
  cases hr
  intro x hx
  obtain hx | hx := List.mem_append.mp hx
  · exact hw x hx
  · obtain rfl := List.mem_singleton.mp hx
    rfl

theorem ok_settle (b : Uuid) (statuses : List AllocationStatus) (s : AllocationStatus)
    {q : InventoryService.Sql} {history : List SeatAllocationHistory}
    (hactive : ∀ x ∈ statuses, x.active = true)
    (hrun : ∀ d a ws ks, InventoryService.run q d = .ok (a, ws, ks) →
      ws = setStatuses (allocationsIn d b statuses) s ∧ ks = [])
    (hwrites : t.writes = []) :
    OkIn i c (Commits discipline i c h ts (Returns ts)) h ts
      (lift (do
        let _ ← Code.sql (V := inventoryService) (some h) q
        createHistoryMany (some h) history
        createKey (some h) k)) t w := by
  rw [lift_bind, lift_sql]
  refine Ok.seq (ok_inventory (F := fun _ => True) (stable_const _ _ _ _) trivial
    fun w₁ n ws ks _ _ hr => ?_)
  obtain ⟨rfl, rfl⟩ := hrun _ _ _ _ hr
  have hview : t.view w₁.db = w₁.db := by rw [view_eq, hwrites]; rfl
  rw [hview]
  generalize hrows : allocationsIn w₁.db.tables b statuses = rows
  have hmem : ∀ a ∈ rows, a ∈ w₁.db.tables.allocations ∧ a.status.active = true := by
    intro a ha
    rw [← hrows, allocationsIn, List.mem_filter, Bool.and_eq_true, List.contains_iff_mem] at ha
    exact ⟨ha.1, hactive _ ha.2.2⟩
  have hs := fun ks hk => (stable_allocations rows hk : Stable discipline i ks _)
  have hkeys : ∀ a ∈ rows, Key.inventory (.allocation a.id) ∈
      Tx.rowKeys scheduleService ((setStatuses rows s).map .inventory) [] := by
    intro a ha
    refine List.mem_append_left _ (List.mem_flatMap.mpr
      ⟨.inventory (.status a.id s), List.mem_map_of_mem (List.mem_map_of_mem
        (f := fun a : SeatAllocation => InventoryService.Write.status a.id s) ha), ?_⟩)
    exact List.mem_cons_self
  rw [lift_bind, createHistoryMany, lift_sql]
  refine Ok.seq (ok_inventory (hs _ ?_) (fun a ha => (hmem a ha).1) fun w₂ _ ws ks _ hw₂ hr => ?_)
  · exact fun a ha => List.mem_append_left _ (List.mem_append_right _ (hkeys a ha))
  cases hr
  rw [createKey, lift_sql]
  refine ok_inventory (hs _ ?_) hw₂ fun w₃ _ ws ks _ hw₃ hr => ?_
  · exact fun a ha => List.mem_append_left _ (List.mem_append_left _
      (List.mem_append_right _ (hkeys a ha)))
  simp only [InventoryService.run] at hr
  split at hr
  · cases hr
  cases hr
  refine commits_intro (hs _ ?_) hw₃ fun w₄ _ hw₄ _ => ⟨?_, rfl⟩
  · exact fun a ha => List.mem_append_left _ (List.mem_append_left _ (List.mem_append_left _
      (List.mem_append_right _ (hkeys a ha))))
  refine .settled rows s [history] k (fun a ha => ⟨hw₄ a ha, (hmem a ha).2⟩) ?_
  simp [hwrites]

/-- The transaction that confirms the allocations of a booking, or cancels them. -/
theorem ok_settleTransaction (site : InventoryService.Site) (b : Uuid)
    (statuses : List AllocationStatus) (s : AllocationStatus) {q : InventoryService.Sql}
    {keep : SeatAllocation → Bool} {history : List SeatAllocation → List SeatAllocationHistory}
    (hactive : ∀ x ∈ statuses, x.active = true)
    (hrun : ∀ d a ws ks, InventoryService.run q d = .ok (a, ws, ks) →
      ws = setStatuses (allocationsIn d b statuses) s ∧ ks = []) :
    OkOut i c (Returns ts) ts
      (lift (Code.transaction (V := inventoryService) site (fun tx => do
        let processed ← existsKey (some tx) k
        if processed then pure ()
        else do
          let allocations ← findByBookingId (some tx) b
          if (allocations.filter keep).length = 0 then createKey (some tx) k
          else do
            let _ ← Code.sql (V := inventoryService) (some tx) q
            createHistoryMany (some tx) (history (allocations.filter keep))
            createKey (some tx) k))) w := by
  rw [lift_transaction]
  refine Ok.transaction_any lawful fun h w _ _ => ?_
  rw [lift_bind, existsKey, lift_sql]
  refine Ok.seq (ok_inventory (F := fun _ => True) (stable_const _ _ _ _) trivial
    fun w₁ processed ws ks _ _ hr => ?_)
  simp only [InventoryService.run, Except.ok.injEq, Prod.mk.injEq] at hr
  obtain ⟨-, rfl, rfl⟩ := hr
  cases processed with
  | true => exact commits_plain (by simp [Tx.start])
  | false =>
    rw [if_neg Bool.false_ne_true, lift_bind, findByBookingId, lift_sql]
    refine Ok.seq (ok_inventory (F := fun _ => True) (stable_const _ _ _ _) trivial
      fun w₂ found ws ks _ _ hr => ?_)
    simp only [InventoryService.run, Except.ok.injEq, Prod.mk.injEq] at hr
    obtain ⟨-, rfl, rfl⟩ := hr
    rw [lift_ite]
    split
    · exact ok_recorded (by simp [Tx.start])
    · exact ok_settle b statuses s hactive hrun (by simp [Tx.start])

theorem ok_confirmTransaction : OkOut i c (Returns ts) ts (lift (confirmTransaction e)) w := by
  refine ok_settleTransaction .confirm e.bookingId [.held] .confirmed
    (by simp [AllocationStatus.active]) fun d a ws ks hr => ?_
  cases hr
  exact ⟨rfl, rfl⟩

theorem ok_cancelTransaction : OkOut i c (Returns ts) ts (lift (cancelTransaction e)) w := by
  refine ok_settleTransaction .cancel e.bookingId [.held, .confirmed] .cancelled
    (by simp [AllocationStatus.active]) fun d a ws ks hr => ?_
  cases hr
  exact ⟨rfl, rfl⟩

theorem ok_unlessRecorded {work : InventoryCode Unit}
    (h : ∀ w, OkOut i c (Returns ts) ts (lift work) w) :
    OkOut i c (Returns ts) ts
      (lift (do
        let processed ← existsKey none k
        if processed then pure () else work)) w := by
  rw [lift_bind, existsKey]
  refine Ok.bind ?_ (ok_query fun d a ws ks hr => by cases hr; rfl)
  rintro processed _ w₁ rfl
  cases processed with
  | true => exact rfl
  | false => exact h w₁

theorem ok_confirmSeats : OkOut i c (Returns ts) ts (lift (confirmSeats e)) w :=
  ok_unlessRecorded fun _ => ok_confirmTransaction

theorem ok_cancelSeats : OkOut i c (Returns ts) ts (lift (cancelSeats e)) w :=
  ok_unlessRecorded fun _ => ok_cancelTransaction

end Lifecycle

section Schedules

variable {parsed : ScheduleCreated} {deleted : Option (List Id)}

/-- What an event projects, without its seats. -/
def projection (parsed : ScheduleCreated) (deleted : Option (List Id)) : Projected :=
  ⟨parsed.scheduleId, ⟨foldStatus parsed.status, parsed.version⟩, deleted, routeStopsData parsed, [],
    .projected 0 parsed.scheduleId parsed.version⟩

theorem fresh_drawn (hi : Inv w) (e : Env)
    (he : e.drawn = w.env.drawn + (coachSeats parsed).length) :
    { projection parsed deleted with
      seats := seatInventoriesData parsed (drawIds i w.env.drawn (coachSeats parsed).length) }.Fresh i
        (w.setEnv e) := by
  have hid : ∀ s ∈ seatInventoriesData parsed (drawIds i w.env.drawn (coachSeats parsed).length),
      ∃ k < (coachSeats parsed).length, s.id = Nat.pair i (w.env.drawn + k) := by
    intro s hs
    obtain ⟨n, hn, rfl⟩ := List.mem_iff_getElem.mp hs
    simp only [seatInventoriesData, drawIds, List.length_zipWith, List.length_map,
      List.length_range] at hn
    refine ⟨n, by omega, ?_⟩
    simp [seatInventoriesData, seatInventory, drawIds]
  refine ⟨fun s hs => ?_, fun s hs => ?_, fun s hs s' hs' he' => ?_⟩
  · obtain ⟨k, _, hk⟩ := hid s hs
    rw [hk, Nat.unpair_pair]
  · obtain ⟨k, hlt, hk⟩ := hid s hs
    rw [hk, Nat.unpair_pair]
    change w.env.drawn + k < e.drawn
    omega
  · obtain ⟨k, _, hk⟩ := hid s hs
    have hlt := hi.drawn s' hs'
    rw [he', hk, Nat.unpair_pair] at hlt
    dsimp only at hlt
    omega

theorem nodup_drawn (drawn : Nat) :
    ((seatInventoriesData parsed (drawIds i drawn (coachSeats parsed).length)).map
      SeatInventory.id).Nodup := by
  have hmap : (seatInventoriesData parsed (drawIds i drawn (coachSeats parsed).length)).map
      SeatInventory.id = drawIds i drawn (coachSeats parsed).length := by
    apply List.ext_getElem
    · simp [seatInventoriesData, drawIds]
    · intro n _ _
      simp [seatInventoriesData, seatInventory, drawIds]
  rw [hmap, drawIds]
  refine List.nodup_range.map fun k k' he => ?_
  obtain ⟨-, hk⟩ := Nat.pair_eq_pair.mp he
  omega

theorem schedule_drawn (ids : List Id) :
    ∀ s ∈ seatInventoriesData parsed ids, s.scheduleId = parsed.scheduleId := by
  intro s hs
  obtain ⟨n, hn, rfl⟩ := List.mem_iff_getElem.mp hs
  simp [seatInventoriesData, seatInventory]

/-- What the seats of a projection are once their ids are drawn. -/
structure Seated (i : Nat) (x : Projected) (w : ScheduleWorld) : Prop where
  covers : x.Covers w
  fresh : x.Fresh i w
  schedule : ∀ s ∈ x.seats, s.scheduleId = x.scheduleId
  ids : (x.seats.map SeatInventory.id).Nodup

theorem stable_seated {ks : List Key} {x : Projected} (hk : .schedule x.scheduleId ∈ ks) :
    Stable discipline i ks (Seated i x) := by
  have hs := (stable_covers (i := i) x hk).and _ (stable_fresh x)
  constructor
  · intro w c t hi hp hc hv ho hd h
    obtain ⟨hcov, hfresh⟩ := hs.commit w c t hi hp hc hv ho hd ⟨h.covers, h.fresh⟩
    exact ⟨hcov, hfresh, h.schedule, h.ids⟩
  · intro w e hd h
    obtain ⟨hcov, hfresh⟩ := hs.drift w e hd ⟨h.covers, h.fresh⟩
    exact ⟨hcov, hfresh, h.schedule, h.ids⟩

theorem idles : Idles discipline c (fun _ => True) where
  lawful := lawful
  asks _ _ := trivial
  lasting := lasting_true
  idle _ _ _ _ hw := ⟨.plain (by simp [hw]), trivial⟩

theorem projects : Projects discipline i c parsed
    (fun deleted => (projection parsed deleted).Covers)
    (fun deleted ids => Seated i
      { projection parsed deleted with seats := seatInventoriesData parsed ids })
    (fun _ => True) where
  toIdles := idles
  argument := trivial
  known deleted _ hk := stable_covers (projection parsed deleted) hk
  seated _ _ _ hk := stable_seated hk
  current _ _ _ _ _ := trivial
  absent w hi hnone := by
    refine ⟨fun s hs hk => absurd ?_ (hi.rooted s hs), fun k hk => absurd hk List.not_mem_nil⟩
    rw [hk]
    exact Option.map_eq_none_iff.mp hnone
  older _ _ _ _ _ _ _ w hi _ := by
    refine ⟨fun s hs hk => ?_, fun k hk => ?_⟩
    · exact List.mem_map_of_mem (List.mem_filter.mpr ⟨hs, decide_eq_true hk⟩)
    · obtain ⟨s, hs, rfl⟩ := List.mem_map.mp hk
      obtain ⟨hs, hsched⟩ := List.mem_filter.mp hs
      exact ⟨s, hi.made s hs, rfl, of_decide_eq_true hsched⟩
  drawn _ _ hi hcov _ :=
    ⟨⟨hcov.all, hcov.made⟩, fresh_drawn hi _ rfl, schedule_drawn _, nodup_drawn _⟩
  commits deleted ids eventId _ h t w _ _ hw hatt howner hwrites hkeys := by
    have hattaching : Attaching t w := hatt h t rfl rfl
    refine ⟨.projected { projection parsed deleted with
      seats := seatInventoriesData parsed ids
      event := .projected eventId parsed.scheduleId parsed.version }
      ⟨hw.covers.all, hw.covers.made⟩ ?_ hw.schedule hw.ids hkeys ?_ ?_, trivial⟩
    · rw [howner]
      exact ⟨hw.fresh.own, hw.fresh.drawn, hw.fresh.new⟩
    · intro hne
      obtain ⟨gone, rfl⟩ := Option.ne_none_iff_exists'.mp hne
      refine hattaching.schedule parsed.scheduleId gone ?_
      simp [hwrites, Projection.writes]
    · rw [hwrites]
      rfl

theorem changes {changed : ScheduleStatusChanged} : Changes discipline i c changed
    (fun _ => True) (fun _ => True) (fun _ => True) where
  toIdles := idles
  missing _ _ _ _ _ _ := trivial
  found _ _ _ _ := trivial
  persists := lasting_true
  current _ _ _ _ := trivial
  lower _ _ _ _ _ _ := trivial
  known _ _ := stable_true
  commits eventId _ _ _ _ _ _ _ hwrites := ⟨.statusChanged changed.scheduleId
    ⟨foldStatus changed.status, changed.version⟩
    (.statusChanged eventId changed.scheduleId (foldStatus changed.status) changed.version)
    hwrites, trivial⟩

end Schedules

section Calls

theorem lift_createDlqConsumerHandler {E : Type} (process : E → InventoryCode Unit)
    (m : Message E) : lift (Kafka.createDlqConsumerHandler consumer process m) =
      Kafka.createDlqConsumerHandler createdConsumer (fun e => lift (process e)) m := by
  have hbeat : lift consumer.heartbeat = createdConsumer.heartbeat := lift_aux _
  have hdlq : lift consumer.sendToDlq = createdConsumer.sendToDlq := lift_aux _
  have hj : lift (Kafka.jsonProcessor consumer process m) =
      Kafka.jsonProcessor createdConsumer (fun e => lift (process e)) m := by
    cases m with
    | tombstone => rfl
    | malformed =>
      rw [Kafka.jsonProcessor, lift_ensure, hbeat]
      rfl
    | event e =>
      rw [Kafka.jsonProcessor, lift_ensure, hbeat]
      rfl
  rw [Kafka.createDlqConsumerHandler, Kafka.wrapWithDlq, lift_attempt, hj]
  congr
  funext err
  rw [lift_ite, hdlq]
  rfl

/-- A delivery, whatever errors its consumer takes to be final, under any discipline that
admits what a consumer does besides. -/
theorem ok_consumed {D : Discipline machine} (hl : D.Lawful) (hasks : ∀ a w, D.asks c a w)
    (hpost : ∀ a w, D.post c a w) {E : Type} {isNonRetryable : Err → Bool}
    {process : E → ScheduleCode Unit} {m : Message E}
    (h : ∀ e, m = .event e →
      Ok D i c (fun _ ts' _ => ts' = []) (fun _ ts' _ => ts' = []) (process e) [] w) :
    Ok D i c (fun a _ w => D.post c a w) (fun _ _ _ => True)
      (finish (Kafka.createDlqConsumerHandler
        { createdConsumer with isNonRetryable := isNonRetryable } process m)) [] w := by
  have haux : ∀ (a : InventoryService.Aux) w, Ok D i c (fun _ ts' _ => ts' = [])
      (fun _ ts' _ => ts' = []) (Code.aux (V := scheduleService) (.inventory a)) [] w :=
    fun a w => Ok.mono (fun _ _ _ hq => hq.1) (fun _ _ _ hx => hx.2)
      (Ok.aux_any hl lasting_true trivial fun _ _ => hasks _ _)
  refine Ok.bind ?_ (Ok.mono (fun _ _ _ hq => hq) (fun _ _ _ _ => trivial)
    (Kafka.ok_routed (haux .heartbeat) (haux .sendToDlq) h))
  intro _ _ w' _
  exact hpost _ w'

theorem ok_delivery {E : Type} {isNonRetryable : Err → Bool} {process : E → ScheduleCode Unit}
    {m : Message E} (h : ∀ e w, OkOut i c (Returns []) [] (process e) w) :
    Ok discipline i c (fun a _ w => discipline.post c a w) (fun _ _ _ => True)
      (finish (Kafka.createDlqConsumerHandler
        { createdConsumer with isNonRetryable := isNonRetryable } process m)) [] w :=
  ok_consumed lawful (fun _ _ => trivial) (fun _ _ => trivial) fun e _ =>
    Ok.mono (fun _ _ _ hq => hq) (fun _ _ _ hx => hx.2) (h e w)

theorem ok_handleBookingStatusChanged (event : BookingStatusChanged) :
    OkOut i c (Returns ts) ts (lift (handleBookingStatusChanged event)) w := by
  unfold handleBookingStatusChanged
  split
  · exact ok_confirmSeats
  · split
    · exact ok_cancelSeats
    · exact rfl

theorem ok_call (call : InventoryService.Call) :
    Ok discipline i c (fun a _ w => discipline.post c a w) (fun _ _ _ => True)
      (lift (InventoryService.body call)) [] w := by
  have hbind : ∀ {β : Type} {p : ScheduleCode β} {f : β → Out}, OkOut i c (Returns []) [] p w →
      Ok discipline i c (fun a _ w => discipline.post c a w) (fun _ _ _ => True)
        (p >>= fun b => pure (f b)) [] w := by
    intro β p f h
    refine Ok.bind ?_ (Ok.mono (fun _ _ _ hq => hq) (fun _ _ _ _ => trivial) h)
    intro _ _ _ _
    trivial
  have hfinish : ∀ {work : InventoryCode Unit},
      lift (InventoryService.finish work) = finish (lift work) := lift_bind _ _
  cases call with
  | holdSeats event =>
    rw [InventoryService.body, lift_bind]
    exact hbind ok_holdSeats
  | confirmSeats event =>
    rw [InventoryService.body, hfinish]
    exact hbind ok_confirmSeats
  | cancelSeats event =>
    rw [InventoryService.body, hfinish]
    exact hbind ok_cancelSeats
  | holdSeatsRequested m =>
    rw [InventoryService.body, hfinish, lift_createDlqConsumerHandler]
    refine ok_delivery fun e w => ?_
    rw [handleHoldSeatsRequested, lift_bind]
    exact Ok.bind (Q := Returns []) (fun _ _ _ hq => hq) ok_holdSeats
  | bookingStatusChanged m =>
    rw [InventoryService.body, hfinish, lift_createDlqConsumerHandler]
    exact ok_delivery fun e w => ok_handleBookingStatusChanged e

theorem sound : discipline.Sound := by
  intro i c w _ _
  cases c with
  | inventory call => exact ok_call call
  | scheduleCreated m =>
    exact ok_delivery fun _ _ => Ok.mono (fun _ _ _ hq => hq.1) (fun _ _ _ hx => hx)
      (ok_processCreated projects)
  | scheduleStatusChanged m =>
    exact ok_delivery fun _ _ => Ok.mono (fun _ _ _ hq => hq.1) (fun _ _ _ hx => hx)
      (ok_processStatusChanged changes)

end Calls

theorem inv_start (now : Nat) : Inv (start now).world where
  ids := List.nodup_nil
  keys := List.nodup_nil
  rooted _ h := absurd h List.not_mem_nil
  made _ h := absurd h List.not_mem_nil
  unique _ _ h := by
    obtain ⟨_, hx, _⟩ := h
    cases hx
  drawn _ h := by
    obtain ⟨_, hx, _⟩ := h
    cases hx
  attached _ h := absurd h List.not_mem_nil
  apart := List.Pairwise.nil

end RailwayBooking.ScheduleService
