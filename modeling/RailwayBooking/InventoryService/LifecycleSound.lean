import RailwayBooking.Kafka.DlqSound
import RailwayBooking.InventoryService.HoldSound

namespace RailwayBooking.InventoryService

open Concurrency

variable {T : Terms} {W : Watch T} {i : Nat} {c : Call} {ts : Stack inventoryService}
  {w : InventoryWorld} {e : SeatLifecycleEventArgs}

abbrev Records (k : EventKey) {α : Type} (ts : Stack inventoryService) (_ : α)
    (ts' : Stack inventoryService) (w : InventoryWorld) : Prop := ts' = ts ∧ Recorded k w

theorem recorded_commit {k : EventKey} {t : InventoryTx} (w : InventoryWorld) (c : Call)
    (h : .idempotency k ∈ t.writes) : Recorded k (w.commit c t) := by
  rw [Recorded, commit_idempotency]
  exact List.mem_append_right _ (List.mem_filterMap.mpr ⟨_, h, rfl⟩)

theorem recorded_of_contains {k : EventKey} (h : w.db.idempotency.contains k = true) :
    Recorded k w :=
  List.contains_iff_mem.mp h

theorem nodup_found (hi : Inv w) {b : Uuid} {found : List SeatAllocation}
    (h : found = w.db.allocations.filter (fun a => a.bookingId = b)) :
    (found.map SeatAllocation.id).Nodup := by
  rw [h]
  exact hi.ids.sublist (List.filter_sublist.map _)

theorem contains_held (s : AllocationStatus) :
    [AllocationStatus.held].contains s = decide (s = .held) := by
  cases s <;> rfl

theorem contains_sources (s : AllocationStatus) :
    [AllocationStatus.held, AllocationStatus.confirmed].contains s = s.active := by
  cases s <;> rfl

theorem ok_unlessRecorded {k : EventKey} {work : InventoryCode Unit}
    (h : ∀ w, OkOut W i c (Records k ts) ts work w) :
    OkOut W i c (Records k ts) ts
      (do
        let processed ← existsKey none k
        if processed then pure () else work) w := by
  have hread : OkOut W i c (fun processed ts' w => ts' = ts ∧ (processed = true → Recorded k w)) ts
      (existsKey none k) w := by
    refine Ok.read Watch.lawful (fun _ => True) (stable_const _ _ _ _) trivial
      (fun d a ws ks hr => ?_) fun w₁ _ _ _ _ a ws ks hr => ?_
    · cases hr
      rfl
    · cases hr
      exact ⟨rfl, recorded_of_contains⟩
  refine Ok.bind ?_ hread
  rintro processed _ w₁ ⟨rfl, hk⟩
  cases processed with
  | true => exact ⟨rfl, hk rfl⟩
  | false => exact h w₁

theorem locked_setStatuses {rows : List SeatAllocation} {s : AllocationStatus}
    {a : SeatAllocation} (ha : a ∈ rows) :
    Key.allocation a.id ∈ Tx.rowKeys inventoryService (setStatuses rows s) [] := by
  refine List.mem_append_left _ (List.mem_flatMap.mpr ⟨.status a.id s, ?_, ?_⟩)
  · exact List.mem_map_of_mem (f := fun a : SeatAllocation => Write.status a.id s) ha
  · exact List.mem_cons_self

/-- Once the statuses of some rows are set, the history and the key of the event are
recorded, and the transaction is committed with the rows still there. -/
theorem ok_recordSettled {F : InventoryWorld → Prop} (hF : Lasting (discipline T) F)
    {rows : List SeatAllocation} {history : List SeatAllocationHistory} {k : EventKey} {h : Nat}
    {t : InventoryTx} (hkeys : ∀ a ∈ rows, .allocation a.id ∈ t.locks)
    (hrows : ∀ a ∈ rows, a ∈ w.db.allocations) (hw : F w)
    (hq : ∀ t' w', t' = (t.record (.createHistoryMany history) () [.history history] []).record
      (.createKey k) () [.idempotency k] [] → (∀ a ∈ rows, a ∈ w'.db.allocations) → F w' →
        Commit T c t' w' ∧ Traced t' w') :
    OkIn W i c (Commits W.discipline i c h ts (Records k ts)) h ts
      (do
        createHistoryMany (some h) history
        createKey (some h) k) t w := by
  have hs : ∀ ks : List Key, (∀ a ∈ rows, .allocation a.id ∈ ks) → Stable (discipline T) i ks
      (fun w => (∀ a ∈ rows, a ∈ w.db.allocations) ∧ F w) :=
    fun ks hk => (stable_allocations rows hk).and _ (hF.stable _ i ks)
  refine Ok.seq (ok_createHistoryMany (hs _ ?_) ⟨hrows, hw⟩ fun w₁ hw₁ => ?_)
  · exact fun a ha => List.mem_append_left _ (hkeys a ha)
  refine ok_createKey (hs _ ?_) hw₁ fun w₂ hw₂ _ => ?_
  · exact fun a ha => List.mem_append_left _ (List.mem_append_left _ (hkeys a ha))
  refine commits_intro (hs _ ?_) hw₂ fun w₃ hw₃ => ⟨hq _ w₃ rfl hw₃.1 hw₃.2, rfl, ?_⟩
  · exact fun a ha => List.mem_append_left _ (List.mem_append_left _ (List.mem_append_left _
      (hkeys a ha)))
  · exact recorded_commit w₃ c (List.mem_append_right _ List.mem_cons_self)

section Confirm

theorem complete_of_read {b : Uuid} {rows : List SeatAllocation}
    (h : ∀ a ∈ w.db.allocations, a.bookingId = b → a.status = .held → a ∈ rows) :
    T.Complete b rows w :=
  fun _ _ _ a ha hb hheld => h a ha hb hheld

theorem ok_confirmTransaction (hc : c.confirms? = some e) :
    OkOut W i c (Records (.confirm e.eventId) ts) ts (confirmTransaction e) w := by
  refine Ok.transaction_any Watch.lawful fun h w _ _ => ?_
  refine Ok.seq (ok_existsKey (F := fun _ => True) (stable_const _ _ _ _) trivial
    fun w₁ processed _ hprocessed => ?_)
  cases processed with
  | true =>
    have hk : Recorded (.confirm e.eventId) w₁ := recorded_of_contains hprocessed.symm
    exact commits_intro ((lasting_recorded _).stable _ i _) hk
      fun w hk => ⟨⟨.confirmDuplicate hc rfl hk rfl, .plain fun _ hx => by cases hx⟩, rfl,
        hk.commit c _⟩
  | false =>
    refine Ok.seq (ok_findByBookingId (F := fun _ => True) (stable_const _ _ _ _) trivial
      fun w₂ found hi hp _ hfound => ?_)
    have hbefore : T.ordered → ∀ r ∈ T.requestOf e.bookingId, Recorded (.hold r.eventId) w₂ :=
      fun ho => hp.2 ho e hc
    dsimp only
    by_cases hnone : (found.filter (fun a => a.status = .held)).length = 0
    · rw [if_pos hnone]
      have hcomplete : T.Complete e.bookingId [] w₂ := by
        apply complete_of_read
        intro a ha hb hheld
        rw [← List.length_eq_zero_iff.mp hnone, hfound]
        exact List.mem_filter.mpr ⟨List.mem_filter.mpr ⟨ha, by simpa using hb⟩,
          by simpa using hheld⟩
      have hl := lasting_complete (T := T) (b := e.bookingId) []
      refine ok_createKey (hl.stable _ i _) ⟨hbefore, hcomplete⟩ fun w₃ hw₃ _ => ?_
      refine commits_intro (hl.stable _ i _) hw₃ fun w₄ hw₄ => ⟨⟨?_, .plain ?_⟩, rfl, ?_⟩
      · exact .confirmed [] [] hc rfl (fun a ha => absurd ha List.not_mem_nil) hw₄.2 rfl
      · simp [Tx.start, Write.plain]
      · exact recorded_commit w₄ c List.mem_cons_self
    · rw [if_neg hnone]
      have hrecorded : Lasting (discipline T) (fun w => T.ordered → ∀ r ∈ T.requestOf e.bookingId,
          Recorded (.hold r.eventId) w) :=
        ⟨fun _ c t _ _ _ _ h ho r hr => (h ho r hr).commit c t, fun _ _ _ h => h⟩
      refine Ok.seq (Ok.sql Watch.lawful _ (Watch.stable (hrecorded.stable _ i _)) hbefore
        fun w₃ _ _ hw₃ _ n ws ks hr => ?_)
      let rows := allocationsIn w₃.db e.bookingId [.held]
      have hmem : ∀ a, a ∈ rows ↔ a ∈ w₃.db.allocations ∧ a.bookingId = e.bookingId ∧
          a.status = .held := by
        intro a
        simp [rows, allocationsIn]
      have hcomplete : T.Complete e.bookingId rows w₃ :=
        complete_of_read fun a ha hb hheld => (hmem a).mpr ⟨ha, hb, hheld⟩
      cases hr
      refine ok_recordSettled (lasting_complete (b := e.bookingId) rows)
        (fun a ha => List.mem_append_right _ (locked_setStatuses ha))
        (fun a ha => ((hmem a).mp ha).1) ⟨hw₃, hcomplete⟩ fun t' w' ht' hrows hw' => ?_
      subst ht'
      constructor
      · exact .confirmed rows [(found.filter (fun a => a.status = .held)).map
          (historyRow .confirmed "Booking payment confirmed")] hc rfl
          (fun a ha => ⟨hrows a ha, ((hmem a).mp ha).2⟩) hw'.2 rfl
      · refine .settled e.bookingId [.held] .confirmed "Booking payment confirmed"
          (.confirm e.eventId) rows found rfl ?_ (nodup_found hi hfound) ?_
        · exact (((Tx.answered_record _ _ _ _ _).record _ _ _ _).record _ _ _ _).record _ _ _ _
        · simp only [contains_held]
          exact List.append_assoc (setStatuses rows .confirmed) _ _

theorem ok_confirmSeats (hc : c.confirms? = some e) :
    OkOut W i c (Records (.confirm e.eventId) ts) ts (confirmSeats e) w :=
  ok_unlessRecorded fun _ => ok_confirmTransaction hc

end Confirm

section Cancel

theorem ok_cancelTransaction (hc : c.cancels? = some e) :
    OkOut W i c (Records (.cancel e.eventId) ts) ts (cancelTransaction e) w := by
  refine Ok.transaction_any Watch.lawful fun h w _ _ => ?_
  refine Ok.seq (ok_existsKey (F := fun _ => True) (stable_const _ _ _ _) trivial
    fun w₁ processed _ hprocessed => ?_)
  cases processed with
  | true =>
    have hk : Recorded (.cancel e.eventId) w₁ := recorded_of_contains hprocessed.symm
    exact commits_intro ((lasting_recorded _).stable _ i _) hk
      fun w hk => ⟨⟨.cancelDuplicate hc rfl hk rfl, .plain fun _ hx => by cases hx⟩, rfl,
        hk.commit c _⟩
  | false =>
    refine Ok.seq (ok_findByBookingId (F := fun _ => True) (stable_const _ _ _ _) trivial
      fun w₂ found hi _ _ hfound => ?_)
    dsimp only
    by_cases hnone : (found.filter (fun a => a.status.active)).length = 0
    · rw [if_pos hnone]
      refine ok_createKey (F := fun _ => True) (stable_const _ _ _ _) trivial fun w₃ _ _ => ?_
      refine commits_intro (F := fun _ => True) (stable_const _ _ _ _) trivial
        fun w₄ _ => ⟨⟨?_, .plain ?_⟩, rfl, ?_⟩
      · exact .cancelled [] [] hc rfl (fun a ha => absurd ha List.not_mem_nil) rfl
      · simp [Tx.start, Write.plain]
      · exact recorded_commit w₄ c List.mem_cons_self
    · rw [if_neg hnone]
      refine Ok.seq (Ok.sql Watch.lawful (fun _ => True) (stable_const _ _ _ _) trivial
        fun w₃ _ _ _ _ n ws ks hr => ?_)
      let rows := allocationsIn w₃.db e.bookingId [.held, .confirmed]
      have hmem : ∀ a ∈ rows, a ∈ w₃.db.allocations ∧ a.bookingId = e.bookingId ∧
          a.status.active = true := by
        intro a ha
        simp only [rows, allocationsIn, List.mem_filter, Bool.and_eq_true, decide_eq_true_eq,
          List.contains_iff_mem] at ha
        refine ⟨ha.1, ha.2.1, ?_⟩
        obtain hs | hs := List.mem_cons.mp ha.2.2
        · rw [hs]
          rfl
        · rw [List.mem_singleton.mp hs]
          rfl
      cases hr
      refine ok_recordSettled (lasting_const True)
        (fun a ha => List.mem_append_right _ (locked_setStatuses ha))
        (fun a ha => (hmem a ha).1) trivial fun t' w' ht' hrows _ => ?_
      subst ht'
      constructor
      · exact .cancelled rows [(found.filter (fun a => a.status.active)).map
          (historyRow .cancelled "Booking cancelled / payment failed")] hc rfl
          (fun a ha => ⟨hrows a ha, (hmem a ha).2⟩) rfl
      · refine .settled e.bookingId [.held, .confirmed] .cancelled
          "Booking cancelled / payment failed" (.cancel e.eventId) rows found rfl ?_
          (nodup_found hi hfound) ?_
        · exact (((Tx.answered_record _ _ _ _ _).record _ _ _ _).record _ _ _ _).record _ _ _ _
        · simp only [contains_sources]
          exact List.append_assoc (setStatuses rows .cancelled) _ _

theorem ok_cancelSeats (hc : c.cancels? = some e) :
    OkOut W i c (Records (.cancel e.eventId) ts) ts (cancelSeats e) w :=
  ok_unlessRecorded fun _ => ok_cancelTransaction hc

end Cancel

section Calls

theorem consumerSound : Kafka.ConsumerSound W.discipline consumer where
  raises _ h := h
  heartbeat _ _ _ _ _ hF hw := Ok.aux_any Watch.lawful hF hw fun _ _ => trivial
  sendToDlq _ _ _ _ _ hF hw := Ok.aux_any Watch.lawful hF hw fun _ _ => trivial

theorem lasting_post (c : Call) (a : Out) : Lasting W.discipline (W.discipline.post c a) :=
  Watch.lawful.post c a

theorem ok_delivery {E : Type} {process : E → InventoryCode Unit} {m : Message E}
    (hnone : (∀ e, m ≠ .event e) → W.discipline.post c .done = fun _ => True)
    (h : ∀ e, m = .event e → ∀ w, OkOut W i c
      (fun _ ts' w => ts' = [] ∧ W.discipline.post c .done w) [] (process e) w) :
    Ok W.discipline i c (fun a _ w => W.discipline.post c a w) (fun _ _ _ => True)
      (finish (Kafka.createDlqConsumerHandler consumer process m)) [] w := by
  by_cases hm : ∀ e, m ≠ .event e
  · refine Ok.bind ?_ (Kafka.ok_undelivered consumerSound hm)
    rintro _ ts' w' rfl
    change W.discipline.post c .done w'
    rw [hnone hm]
    trivial
  · push Not at hm
    obtain ⟨e, rfl⟩ := hm
    refine Ok.bind ?_ (Ok.mono (fun _ _ _ hq => hq) (fun _ _ _ _ => trivial)
      (Kafka.ok_delivered consumerSound (lasting_post c .done) (h e rfl w)))
    rintro _ ts' w' ⟨rfl, hpost⟩
    exact hpost

theorem ok_handleBookingStatusChanged (event : BookingStatusChanged) :
    OkOut W i (.bookingStatusChanged (.event event)) (fun _ ts' w => ts' = [] ∧
      W.discipline.post (.bookingStatusChanged (.event event)) .done w) []
      (handleBookingStatusChanged event) w := by
  unfold handleBookingStatusChanged
  by_cases hconf : event.currentStatus = .confirmed
  · rw [if_pos hconf]
    have hc : (Call.bookingStatusChanged (.event event)).confirms? =
        some ⟨event.eventId, event.bookingId⟩ := if_pos hconf
    refine Ok.mono ?_ (fun _ _ _ hx => hx) (ok_confirmSeats hc)
    rintro _ ts' w' ⟨rfl, hk⟩
    refine ⟨rfl, fun e he => ?_, fun e he => ?_⟩
    · rw [hc] at he
      cases he
      exact hk
    · simp [Call.cancels?, Releases, hconf] at he
  · rw [if_neg hconf]
    by_cases hrel : Releases event.currentStatus
    · rw [if_pos (show _ ∨ _ ∨ _ from hrel)]
      have hc : (Call.bookingStatusChanged (.event event)).cancels? =
          some ⟨event.eventId, event.bookingId⟩ := if_pos hrel
      refine Ok.mono ?_ (fun _ _ _ hx => hx) (ok_cancelSeats hc)
      rintro _ ts' w' ⟨rfl, hk⟩
      refine ⟨rfl, fun e he => ?_, fun e he => ?_⟩
      · simp [Call.confirms?, hconf] at he
      · rw [hc] at he
        cases he
        exact hk
    · rw [if_neg (show ¬ (_ ∨ _ ∨ _) from hrel)]
      refine ⟨rfl, fun e he => ?_, fun e he => ?_⟩
      · simp [Call.confirms?, hconf] at he
      · simp [Call.cancels?, hrel] at he

theorem Watch.sound : W.discipline.Sound := by
  intro i c w _ _
  cases c with
  | holdSeats event =>
    refine Ok.bind ?_ (Ok.mono (fun _ _ _ hq => hq) (fun _ _ _ _ => trivial) (ok_holdSeats rfl))
    intro _ _ _ _
    exact ⟨fun e he => (nomatch he), fun e he => (nomatch he)⟩
  | confirmSeats event =>
    refine Ok.bind ?_ (Ok.mono (fun _ _ _ hq => hq) (fun _ _ _ _ => trivial) (ok_confirmSeats rfl))
    rintro _ _ _ ⟨-, hk⟩
    refine ⟨fun e he => ?_, fun e he => (nomatch he)⟩
    cases he
    exact hk
  | cancelSeats event =>
    refine Ok.bind ?_ (Ok.mono (fun _ _ _ hq => hq) (fun _ _ _ _ => trivial) (ok_cancelSeats rfl))
    rintro _ _ _ ⟨-, hk⟩
    refine ⟨fun e he => (nomatch he), fun e he => ?_⟩
    cases he
    exact hk
  | holdSeatsRequested m =>
    refine ok_delivery (fun _ => ?_) fun e he w => ?_
    · funext w
      simp [discipline, InventoryService.discipline, Call.confirms?, Call.cancels?]
    · subst he
      refine Ok.bind ?_ (ok_holdSeats rfl)
      rintro _ ts' w' rfl
      exact ⟨rfl, fun e he => (nomatch he), fun e he => (nomatch he)⟩
  | bookingStatusChanged m =>
    refine ok_delivery (fun hm => ?_) fun e he w => ?_
    · funext w
      cases m with
      | event e => exact absurd rfl (hm e)
      | _ => simp [discipline, InventoryService.discipline, Call.confirms?, Call.cancels?]
    · subst he
      exact ok_handleBookingStatusChanged e

theorem sound : (discipline T).Sound := Watch.sound (W := T.watch)

end Calls

theorem inv_start (P : Projection) (now : Nat) : Inv (start P now).world where
  seats := P.seat_id
  ids := List.nodup_nil
  seat _ h := absurd h List.not_mem_nil

theorem Watch.reachable_keeps {S : Scope machine} (hS : S.Within W.discipline) {P : Projection}
    {now : Nat} {p : Pool machine} (h : Reachable S (start P now) p) {F : InventoryWorld → Prop}
    (hF : Keeps W.discipline S F) (hF₀ : F (start P now).world) : F p.world :=
  h.keeps lawful sound hS (wellFormed_init (inv_start P now)) hF hF₀

theorem reachable_keeps {S : Scope machine} (hS : S.Within (discipline T)) {P : Projection}
    {now : Nat} {p : Pool machine} (h : Reachable S (start P now) p) {F : InventoryWorld → Prop}
    (hF : Keeps (discipline T) S F) (hF₀ : F (start P now).world) : F p.world :=
  Watch.reachable_keeps (W := T.watch) hS h hF hF₀

end RailwayBooking.InventoryService
