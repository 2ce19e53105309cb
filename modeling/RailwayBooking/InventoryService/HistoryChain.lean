import Mathlib.Data.List.Chain
import RailwayBooking.InventoryService.NoDoubleBooking

namespace RailwayBooking.InventoryService

open Concurrency

def Db.historyOf (d : Db) (id : AllocationId) : List SeatAllocationHistory :=
  d.history.filter (fun r => r.allocationId = id)

/-- The history rows lead from the creation of an allocation to its status. -/
structure SeatAllocation.Chain (a : SeatAllocation) (rows : List SeatAllocationHistory) : Prop where
  creation : rows.head? = some (holdHistoryRow a)
  linked : rows.IsChain (fun r r' => r'.oldStatus = r.newStatus)
  current : rows.getLast?.map SeatAllocationHistory.newStatus = some a.status

def Db.Chained (d : Db) : Prop := ∀ a ∈ d.allocations, a.Chain (d.historyOf a.id)

instance (a : SeatAllocation) (rows : List SeatAllocationHistory) : Decidable (a.Chain rows) :=
  decidable_of_iff (rows.head? = some (holdHistoryRow a) ∧
      rows.IsChain (fun r r' => r'.oldStatus = r.newStatus) ∧
      rows.getLast?.map SeatAllocationHistory.newStatus = some a.status)
    ⟨fun h => ⟨h.1, h.2.1, h.2.2⟩, fun h => ⟨h.creation, h.linked, h.current⟩⟩

instance (d : Db) : Decidable d.Chained :=
  inferInstanceAs (Decidable (∀ a ∈ d.allocations, a.Chain (d.historyOf a.id)))

def Write.sets? : Write → Option AllocationId
  | .status id _ => some id
  | _ => none

/-- What a transaction has read of its booking still stands: a hold meets no settled
allocation, and a settlement sets just the rows that it read, which are as it read
them. -/
structure Current (t : InventoryTx) (w : InventoryWorld) : Prop where
  held : t.site = .hold → ∀ b found, t.Answered (.findByBookingId b) found →
    ∀ a ∈ w.db.allocations, a.id ∈ found.map SeatAllocation.id → a.status = .held
  stands : ∀ status sources, t.site.settles? = some (status, sources) →
    ∀ b found, t.Answered (.findByBookingId b) found → ∀ a ∈ found, a.status ∈ sources →
      a ∈ w.db.allocations
  sets : ∀ status sources, t.site.settles? = some (status, sources) →
    ∀ b found, t.Answered (.findByBookingId b) found → ∀ id, id ∈ t.writes.filterMap Write.sets? ↔
      id ∈ (found.filter (fun a => sources.contains a.status)).map SeatAllocation.id

def currentRuns : Scope machine where
  start _ _ := True
  allow _ t w s := ∀ h t', s = .commit h → t = some t' → Current t' w

theorem currentRuns_within : currentRuns.Within Terms.free.traced.discipline where
  start c _ _ := ⟨fun _ _ _ h => absurd h (by simp [Terms.free]), fun h => h.elim⟩
  allow _ _ _ _ _ := trivial

section Rows

variable {a a' : SeatAllocation} {rows : List SeatAllocationHistory}

theorem SeatAllocation.chain_created (h : a.status = .held) : a.Chain [holdHistoryRow a] where
  creation := rfl
  linked := List.isChain_singleton _
  current := by
    rw [h]
    rfl

theorem SeatAllocation.Chain.next (h : a.Chain rows) {r : SeatAllocationHistory}
    (hid : a'.id = a.id) (hold : r.oldStatus = a.status) (hnew : r.newStatus = a'.status) :
    a'.Chain (rows ++ [r]) where
  creation := by
    rw [List.head?_append, h.creation, holdHistoryRow, holdHistoryRow, hid]
    rfl
  linked := by
    apply h.linked.append (List.isChain_singleton r)
    intro x hx y hy
    have hcurrent := h.current
    rw [Option.mem_def.mp hx] at hcurrent
    cases hy
    rw [hold]
    exact (Option.some.inj hcurrent).symm
  current := by
    rw [List.getLast?_concat, Option.map_some, hnew]

variable {found : List SeatAllocation} {row : SeatAllocation → SeatAllocationHistory}

theorem rows_of_mem (hd : (found.map SeatAllocation.id).Nodup)
    (hrow : ∀ a, (row a).allocationId = a.id) (ha : a ∈ found) :
    (found.map row).filter (fun r => r.allocationId = a.id) = [row a] := by
  have hcomp : (fun r : SeatAllocationHistory => decide (r.allocationId = a.id)) ∘ row =
      fun a' => decide (a'.id = a.id) := by
    funext a'
    simp [hrow]
  rw [List.filter_map, hcomp, filter_eq_singleton hd ha]
  rfl

theorem rows_of_not_mem {id : AllocationId} (hrow : ∀ a, (row a).allocationId = a.id)
    (h : id ∉ found.map SeatAllocation.id) :
    (found.map row).filter (fun r => r.allocationId = id) = [] := by
  apply List.filter_eq_nil_iff.mpr
  intro r hr he
  obtain ⟨a, ha, rfl⟩ := List.mem_map.mp hr
  rw [hrow, decide_eq_true_eq] at he
  exact h (he ▸ List.mem_map_of_mem ha)

end Rows

section Commits

variable {c : Call} {t : InventoryTx} {w : InventoryWorld}

def Write.historyRows : Write → List SeatAllocationHistory
  | .history rows => rows
  | _ => []

theorem commit_history (w : InventoryWorld) (c : Call) (t : InventoryTx) :
    (w.commit c t).db.history = w.db.history ++ t.writes.flatMap Write.historyRows := by
  change (applyAll w.db t.writes).history = _
  generalize w.db = d
  induction t.writes generalizing d with
  | nil => simp [applyAll]
  | cons x ws ih =>
    rw [applyAll_cons, ih]
    cases x <;> simp [Write.apply, Write.historyRows]

theorem commit_allocations (w : InventoryWorld) (c : Call) (t : InventoryTx) :
    (w.commit c t).db.allocations =
      t.writes.foldl (fun s x => x.onAllocations s) w.db.allocations :=
  applyAll_allocations w.db t.writes

theorem setStatuses_history (rows : List SeatAllocation) (s : AllocationStatus) :
    (setStatuses rows s).flatMap Write.historyRows = [] := by
  simp [setStatuses, Write.historyRows]

theorem setStatuses_sets (rows : List SeatAllocation) (s : AllocationStatus) :
    (setStatuses rows s).filterMap Write.sets? = rows.map SeatAllocation.id := by
  rw [setStatuses, List.filterMap_map]
  exact congrFun List.filterMap_eq_map rows

/-- Every history row is of an allocation, and the rows of each allocation are a
chain. -/
structure Logged (w : InventoryWorld) : Prop where
  chained : w.db.Chained
  known : ∀ r ∈ w.db.history, r.allocationId ∈ w.db.allocations.map SeatAllocation.id

/-- What a commit adds to the history: for each allocation nothing, its creation, or a
row from its status to the new one. -/
theorem Logged.commit {rows : List SeatAllocationHistory} (h : Logged w)
    (hhistory : (w.commit c t).db.history = w.db.history ++ rows)
    (hknown : ∀ id ∈ w.db.allocations.map SeatAllocation.id,
      id ∈ (w.commit c t).db.allocations.map SeatAllocation.id)
    (hrows : ∀ r ∈ rows, r.allocationId ∈ (w.commit c t).db.allocations.map SeatAllocation.id)
    (hchain : ∀ a' ∈ (w.commit c t).db.allocations,
      a'.Chain (w.db.historyOf a'.id ++ rows.filter (fun r => r.allocationId = a'.id))) :
    Logged (w.commit c t) where
  chained a' ha' := by
    rw [Db.historyOf, hhistory, List.filter_append]
    exact hchain a' ha'
  known r hr := by
    rw [hhistory] at hr
    obtain hr | hr := List.mem_append.mp hr
    · exact hknown _ (h.known r hr)
    · exact hrows r hr

theorem Logged.plain (h : Logged w) (hw : ∀ x ∈ t.writes, x.plain = true) :
    Logged (w.commit c t) := by
  have hallocations : (w.commit c t).db.allocations = w.db.allocations := by
    rw [commit_allocations]
    generalize w.db.allocations = as
    revert hw
    induction t.writes with
    | nil => exact fun _ => rfl
    | cons x ws ih =>
      intro hw
      have hx := hw x List.mem_cons_self
      rw [List.foldl_cons, show x.onAllocations as = as by cases x <;> first | rfl | cases hx]
      exact ih fun y hy => hw y (List.mem_cons_of_mem _ hy)
  have hhistory : (w.commit c t).db.history = w.db.history ++ [] := by
    rw [commit_history, List.flatMap_eq_nil_iff.mpr]
    intro x hx
    have hplain := hw x hx
    cases x with
    | history rows => cases hplain
    | _ => rfl
  apply h.commit hhistory
  · rw [hallocations]
    exact fun _ hid => hid
  · exact fun r hr => absurd hr List.not_mem_nil
  · rw [hallocations]
    intro a ha
    rw [List.filter_nil, List.append_nil]
    exact h.chained a ha

theorem Logged.held (h : Logged w) (hi' : Inv (w.commit c t)) (hcurrent : Current t w) {x : Hold}
    {found : List SeatAllocation} (hsite : t.site = .hold)
    (hanswered : t.Answered (.findByBookingId x.request.bookingId) found)
    (hdistinct : (found.map SeatAllocation.id).Nodup) (hnew : ∀ a ∈ x.rows, a ∈ found)
    (hold : ∀ a ∈ found, a ∈ x.rows ∨ ∃ a' ∈ w.db.allocations, a'.id = a.id)
    (hwrites : t.writes = [.allocations x.rows, .history (found.map holdHistoryRow),
      .idempotency (.hold x.request.eventId), .outbox (.seatsHeld x.payload)]) :
    Logged (w.commit c t) := by
  have hallocations : (w.commit c t).db.allocations = w.db.allocations ++ x.rows := by
    rw [commit_allocations, hwrites]
    rfl
  have hhistory : (w.commit c t).db.history = w.db.history ++ found.map holdHistoryRow := by
    rw [commit_history, hwrites]
    simp [Write.historyRows]
  apply h.commit hhistory
  · intro id hid
    rw [hallocations, List.map_append]
    exact List.mem_append_left _ hid
  · intro r hr
    obtain ⟨a, ha, rfl⟩ := List.mem_map.mp hr
    rw [hallocations, List.map_append]
    obtain hx | ⟨a', ha', hid⟩ := hold a ha
    · exact List.mem_append_right _ (List.mem_map_of_mem hx)
    · exact List.mem_append_left _ (List.mem_map.mpr ⟨a', ha', hid⟩)
  · intro a ha
    rw [hallocations] at ha
    obtain ha | ha := List.mem_append.mp ha
    · by_cases hfound : a.id ∈ found.map SeatAllocation.id
      · have hheld : a.status = .held := hcurrent.held hsite _ _ hanswered a ha hfound
        obtain ⟨a', ha', hid⟩ := List.mem_map.mp hfound
        rw [← hid, rows_of_mem hdistinct (fun _ => rfl) ha', hid]
        exact (h.chained a ha).next rfl hheld.symm hheld.symm
      · rw [rows_of_not_mem (fun _ => rfl) hfound, List.append_nil]
        exact h.chained a ha
    · have hids := hi'.ids
      rw [hallocations, List.map_append, List.nodup_append'] at hids
      have hnone : w.db.historyOf a.id = [] := by
        apply List.filter_eq_nil_iff.mpr
        intro r hr he
        have hknown := h.known r hr
        rw [of_decide_eq_true he] at hknown
        exact hids.2.2 hknown (List.mem_map_of_mem ha)
      rw [hnone, List.nil_append, rows_of_mem hdistinct (fun _ => rfl) (hnew a ha)]
      exact SeatAllocation.chain_created (Hold.rows_status ha)

theorem Logged.settled (h : Logged w) (hi : Inv w) (hcurrent : Current t w) {b : Uuid}
    {sources : List AllocationStatus} {status : AllocationStatus} {reason : String} {key : EventKey}
    {rows found : List SeatAllocation} (hsettles : t.site.settles? = some (status, sources))
    (hanswered : t.Answered (.findByBookingId b) found)
    (hdistinct : (found.map SeatAllocation.id).Nodup)
    (hwrites : t.writes = setStatuses rows status ++
      [.history ((found.filter (fun a => sources.contains a.status)).map
        (historyRow status reason)), .idempotency key]) : Logged (w.commit c t) := by
  let read := found.filter (fun a => sources.contains a.status)
  have hread : (read.map SeatAllocation.id).Nodup :=
    hdistinct.sublist (List.filter_sublist.map _)
  have hallocations : (w.commit c t).db.allocations =
      w.db.allocations.map (SeatAllocation.settled rows status) := by
    rw [commit_allocations, hwrites, List.foldl_append, setStatuses_allocations]
    rfl
  have hhistory : (w.commit c t).db.history =
      w.db.history ++ read.map (historyRow status reason) := by
    rw [commit_history, hwrites, List.flatMap_append, setStatuses_history]
    simp [Write.historyRows, read]
  have hids : (w.commit c t).db.allocations.map SeatAllocation.id =
      w.db.allocations.map SeatAllocation.id := by
    rw [hallocations, ids_settled]
  have hset : ∀ id, id ∈ rows.map SeatAllocation.id ↔ id ∈ read.map SeatAllocation.id := by
    intro id
    rw [← hcurrent.sets _ _ hsettles _ _ hanswered id, hwrites, List.filterMap_append,
      setStatuses_sets]
    simp [Write.sets?]
  have hstands : ∀ a ∈ read, a ∈ w.db.allocations := by
    intro a ha
    obtain ⟨ha, hs⟩ := List.mem_filter.mp ha
    exact hcurrent.stands _ _ hsettles _ _ hanswered a ha (List.contains_iff_mem.mp hs)
  apply h.commit hhistory
  · rw [hids]
    exact fun _ hid => hid
  · intro r hr
    obtain ⟨a, ha, rfl⟩ := List.mem_map.mp hr
    rw [hids]
    exact List.mem_map_of_mem (hstands a ha)
  · intro a' ha'
    rw [hallocations] at ha'
    obtain ⟨a, ha, rfl⟩ := List.mem_map.mp ha'
    rw [SeatAllocation.settled_id]
    by_cases hmem : a.id ∈ rows.map SeatAllocation.id
    · obtain ⟨a₁, ha₁, hid⟩ := List.mem_map.mp ((hset a.id).mp hmem)
      obtain rfl := List.inj_on_of_nodup_map hi.ids (hstands a₁ ha₁) ha hid
      rw [rows_of_mem hread (fun _ => rfl) ha₁]
      apply (h.chained a₁ ha).next (SeatAllocation.settled_id _ _ _) rfl
      rw [SeatAllocation.settled_status, if_pos hmem]
      rfl
    · rw [SeatAllocation.settled, if_neg hmem,
        rows_of_not_mem (fun _ => rfl) (fun hr => hmem ((hset a.id).mpr hr)), List.append_nil]
      exact h.chained a ha

theorem current_of_passes (hs : currentRuns.Passes c t w) : Current t w := by
  cases hs with
  | commit h ha => exact ha h t rfl rfl
  | single i q a ws ks hrun hws ht _ =>
    have hsite : t.site = .auto := by
      rw [ht]
      rfl
    constructor
    · intro hhold
      rw [hsite] at hhold
      cases hhold
    · intro status sources hsettles
      rw [hsite] at hsettles
      cases hsettles
    · intro status sources hsettles
      rw [hsite] at hsettles
      cases hsettles

theorem keeps_logged : Keeps Terms.free.traced.discipline currentRuns Logged where
  commit w c t hi hp hc hcov hs h := by
    have hcurrent := current_of_passes hs
    have hi' : Inv (w.commit c t) := lasting_inv.commit w c t hi hp hc.1 hcov hi
    cases hc.2 with
    | plain hw => exact h.plain hw
    | held x found hsite hans hd hnew hold hw =>
      exact h.held hi' hcurrent hsite hans hd hnew hold hw
    | settled b sources status reason key rows found hsettles hans hd hw =>
      exact h.settled hi hcurrent hsettles hans hd hw
  drift _ _ _ h := ⟨h.chained, h.known⟩

/-- Where holds, confirmations and cancellations commit only what they have read, the
history of every allocation is a chain. -/
theorem chained_of_currentRuns {P : Projection} {now : Nat} {p : Pool machine}
    (h : Reachable currentRuns (start P now) p) : p.world.db.Chained := by
  have h₀ : Logged (start P now).world :=
    ⟨fun _ ha => absurd ha List.not_mem_nil, fun _ hr => absurd hr List.not_mem_nil⟩
  exact (Watch.reachable_keeps currentRuns_within h keeps_logged h₀).chained

end Commits

section Schedules

def foundIn : (Σ q : Sql, Rows q) → Option (List SeatAllocation)
  | ⟨.findByBookingId _, found⟩ => some found
  | _ => none

def currentTest (t : InventoryTx) (w : InventoryWorld) : Bool :=
  (t.stmts.filterMap foundIn).all (fun found =>
    (t.site != .hold || w.db.allocations.all (fun a =>
      !(found.map SeatAllocation.id).contains a.id || a.status = .held)) &&
    t.site.settles?.all (fun x =>
      let read := found.filter (fun a => x.2.contains a.status)
      read.all w.db.allocations.contains &&
        t.writes.filterMap Write.sets? = read.map SeatAllocation.id))

theorem current_of_test {t : InventoryTx} {w : InventoryWorld} (h : currentTest t w = true) :
    Current t w := by
  have hfound : ∀ b found, t.Answered (.findByBookingId b) found →
      found ∈ t.stmts.filterMap foundIn :=
    fun b found hans => List.mem_filterMap.mpr ⟨_, hans, rfl⟩
  have htest := List.all_eq_true.mp h
  refine ⟨fun hsite b found hans a ha hid => ?_,
    fun status sources hsettles b found hans a ha hs => ?_,
    fun status sources hsettles b found hans id => ?_⟩
  · have hx := htest found (hfound b found hans)
    simp only [hsite, bne_self_eq_false, Bool.false_or, Bool.and_eq_true, List.all_eq_true] at hx
    have hx := hx.1 a ha
    rw [List.contains_iff_mem.mpr hid] at hx
    simpa using hx
  · have hx := htest found (hfound b found hans)
    simp only [hsettles, Option.all_some, Bool.and_eq_true, List.all_eq_true] at hx
    have hread : a ∈ found.filter (fun a => sources.contains a.status) :=
      List.mem_filter.mpr ⟨ha, List.contains_iff_mem.mpr hs⟩
    exact List.contains_iff_mem.mp (hx.2.1 a hread)
  · have hx := htest found (hfound b found hans)
    simp only [hsettles, Option.all_some, Bool.and_eq_true, decide_eq_true_eq] at hx
    rw [hx.2.2]

def sampleEvent (n : Nat) : SeatLifecycleEventArgs := ⟨.random ⟨n, 1⟩, ⟨8, 0⟩⟩

/-- A hold that is confirmed and then cancelled. -/
theorem chained_cancelled : ∃ p, Reachable currentRuns (start sampleProjection 0) p ∧
    p.world.db.history.map SeatAllocationHistory.newStatus = [.held, .confirmed, .cancelled] ∧
    p.world.db.Chained := by
  obtain ⟨p, hp, ht⟩ := exists_reachable currentRuns (start sampleProjection 0)
    (commitsOnly currentTest)
    (inTurn 30 [.holdSeats (sampleHold ⟨8, 0⟩ 1 3), .confirmSeats (sampleEvent 1),
      .cancelSeats (sampleEvent 2)])
    (fun p => decide (p.world.db.history.map SeatAllocationHistory.newStatus =
      [.held, .confirmed, .cancelled]))
    (permits_commitsOnly fun c t w s h h' t' hs ht => current_of_test (h h' t' hs ht))
    (fun _ _ _ _ _ => trivial) (by decide +kernel)
  exact ⟨p, hp, of_decide_eq_true ht, chained_of_currentRuns hp⟩

/-- A confirmation reads the hold, the cancellation of the booking commits, and the
confirmation records a transition that has not happened. -/
theorem not_chained : ¬ ∀ (P : Projection) (now : Nat) (p : Pool machine),
    Reachable (Scope.calls fun _ => True) (start P now) p → p.world.db.Chained := by
  intro hall
  obtain ⟨p, hp, ht⟩ := exists_reachable (Scope.calls (M := machine) fun _ => True)
    (start sampleProjection 0) (fun _ _ => true)
    [.call (.holdSeats (sampleHold ⟨8, 0⟩ 1 3)), .burst 0 30, .call (.confirmSeats (sampleEvent 1)),
      .call (.cancelSeats (sampleEvent 2)), .burst 1 4, .burst 2 30, .burst 1 30]
    (fun p => decide (¬ p.world.db.Chained))
    (fun p a _ => permits_calls p a) (fun _ _ _ _ _ => trivial) (by decide +kernel)
  exact of_decide_eq_true ht (hall sampleProjection 0 p hp)

end Schedules

end RailwayBooking.InventoryService
