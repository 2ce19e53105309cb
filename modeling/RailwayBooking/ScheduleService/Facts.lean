import RailwayBooking.ScheduleService.Commits

namespace RailwayBooking.ScheduleService

open Concurrency InventoryService

/-- Active allocations are of seats that stand, and no two of them conflict. A seat
id names one seat for good, whether its row stands or not. -/
structure Inv (w : ScheduleWorld) : Prop where
  ids : (w.db.tables.allocations.map SeatAllocation.id).Nodup
  keys : (w.db.tables.seats.map seatKey).Nodup
  rooted : ∀ s ∈ w.db.tables.seats, w.db.tables.schedules s.scheduleId ≠ none
  made : ∀ s ∈ w.db.tables.seats, Made w s
  unique : ∀ s s', Made w s → Made w s' → s.id = s'.id → s = s'
  drawn : ∀ s, Made w s → (Nat.unpair s.id).2 < w.env.drawn
  attached : ∀ a ∈ w.db.tables.allocations, a.status.active = true →
    ∃ s ∈ w.db.tables.seats, s.id = a.seatInventoryId ∧ s.scheduleId = a.scheduleId
  apart : NoDoubleBooking w.db.tables

def discipline : Discipline machine where
  pre _ _ := True
  inv := Inv
  allow _ t w s := ∀ h t', s = .commit h → t = some t' → Attaching t' w
  commits _ t w := Commit t w
  asks _ _ _ := True
  drift w e := w.env.drawn ≤ e.drawn
  raises _ := True
  post _ _ _ := True

variable {c : Call} {t : ScheduleTx} {w w' : ScheduleWorld}

section Changes

/-- How a committed transaction changes the allocations. -/
inductive AllocationsChange (t : ScheduleTx) (w : ScheduleWorld) : List SeatAllocation → Prop
  | same : AllocationsChange t w w.db.tables.allocations
  | held (x : Hold)
      (attached : ∀ a ∈ x.rows, ∃ s ∈ w.db.tables.seats, s.id = a.seatInventoryId ∧
        s.scheduleId = a.scheduleId)
      (locked : ∀ a ∈ x.rows, .inventory (.seat a.seatInventoryId) ∈ t.locks)
      (free : ∀ a ∈ w.db.tables.allocations, ∀ a' ∈ x.rows, a.scheduleId = a'.scheduleId →
        ¬ a.Conflict a')
      (new : ∀ a ∈ w.db.tables.allocations, ∀ a' ∈ x.rows, a.id ≠ a'.id)
      (distinct : (x.rows.map SeatAllocation.id).Nodup) :
      AllocationsChange t w (w.db.tables.allocations ++ x.rows)
  | settled (rows : List SeatAllocation) (s : AllocationStatus)
      (active : ∀ a ∈ rows, a ∈ w.db.tables.allocations ∧ a.status.active = true) :
      AllocationsChange t w (w.db.tables.allocations.map (SeatAllocation.settled rows s))

/-- How it changes the seats, with the seats that it projects. -/
inductive SeatsChange (t : ScheduleTx) (w : ScheduleWorld) : List SeatInventory → Prop
  | same (none : ∀ rows, .seats rows ∉ t.writes) : SeatsChange t w w.db.tables.seats
  | projected (x : Projected) (covers : x.Covers w) (fresh : x.Fresh t.owner w)
      (schedule : ∀ s ∈ x.seats, s.scheduleId = x.scheduleId)
      (ids : (x.seats.map SeatInventory.id).Nodup) (keys : (x.seats.map seatKey).Nodup)
      (free : x.deleted ≠ none → ∀ a ∈ w.db.tables.allocations, a.scheduleId = x.scheduleId →
        a.status.active = false)
      (writes : t.writes = x.writes)
      (allocations : (t.view w.db).tables.allocations = w.db.tables.allocations) :
      SeatsChange t w (w.db.tables.seats.filter (fun s => !x.gone.contains s.id) ++ x.seats)

theorem applyAll_settled (rows : List SeatAllocation) (s : AllocationStatus)
    (history : List (List SeatAllocationHistory)) (k : EventKey) (d : InventoryService.Db) :
    (InventoryService.applyAll d (setStatuses rows s ++
      history.map InventoryService.Write.history ++
      [InventoryService.Write.idempotency k])).allocations =
        d.allocations.map (SeatAllocation.settled rows s) := by
  rw [applyAll_allocations, List.foldl_append, List.foldl_append, setStatuses_allocations,
    history_allocations]
  rfl

theorem seats_inventory {ws : List InventoryService.Write} (h : t.writes = ws.map .inventory) :
    SeatsChange t w (t.view w.db).tables.seats := by
  rw [view_inventory h, applyAll_seats]
  refine .same fun rows hrows => ?_
  rw [h] at hrows
  obtain ⟨_, _, hx⟩ := List.mem_map.mp hrows
  cases hx

theorem Commit.allocationsChange (h : Commit t w) :
    AllocationsChange t w (t.view w.db).tables.allocations := by
  cases h with
  | plain hw =>
    rw [(view_plain hw).2.2]
    exact .same
  | held x created hatt hl hfree hnew hd hw =>
    rw [view_inventory hw]
    exact .held x hatt hl hfree hnew hd
  | settled rows s history k hact hw =>
    rw [view_inventory hw, applyAll_settled]
    exact .settled rows s hact
  | projected x _ _ _ _ _ _ hw =>
    rw [(view_projected hw).2.2]
    exact .same
  | statusChanged k row event hw =>
    rw [view_eq, hw]
    exact .same

theorem Commit.seatsChange (h : Commit t w) : SeatsChange t w (t.view w.db).tables.seats := by
  cases h with
  | plain hw =>
    rw [(view_plain hw).2.1]
    refine .same fun rows hrows => ?_
    have hplain := hw _ hrows
    cases hplain
  | held _ _ _ _ _ _ _ hw | settled _ _ _ _ _ hw => exact seats_inventory hw
  | projected x hcov hfresh hsched hids hkeys hfree hw =>
    rw [(view_projected hw).2.1]
    exact .projected x hcov hfresh hsched hids hkeys hfree hw (view_projected hw).2.2
  | statusChanged k row event hw =>
    rw [view_eq, hw]
    refine .same fun rows hrows => ?_
    rw [hw] at hrows
    simp at hrows

theorem Commit.schedule (h : Commit t w) {k : Id} (hk : w.db.tables.schedules k ≠ none) :
    (t.view w.db).tables.schedules k ≠ none := by
  have hput : ∀ (b : Id) (s : ScheduleInventoryStatus),
      Function.update w.db.tables.schedules b (some s) k ≠ none := by
    intro b s
    rw [Function.update_apply]
    split
    · exact Option.some_ne_none s
    · exact hk
  cases h with
  | plain hw =>
    rw [(view_plain hw).1]
    exact hk
  | held _ _ _ _ _ _ _ hw | settled _ _ _ _ _ hw =>
    rw [view_inventory hw, applyAll_schedules]
    exact hk
  | projected x _ _ _ _ _ _ hw =>
    rw [(view_projected hw).1]
    exact hput _ _
  | statusChanged b row event hw =>
    rw [view_eq, hw]
    exact hput _ _

theorem made_same (h : ∀ rows, .seats rows ∉ t.writes) (s : SeatInventory) :
    Made (w.commit c t) s ↔ Made w s := by
  rw [made_commit, or_iff_left]
  rintro ⟨rows, hrows, _⟩
  exact h rows hrows

theorem made_projected {x : Projected} (h : t.writes = x.writes) (s : SeatInventory) :
    Made (w.commit c t) s ↔ Made w s ∨ s ∈ x.seats := by
  rw [made_commit, h]
  simp [Projected.mem_seats]

theorem Made.commit {s : SeatInventory} (h : Made w s) (c : Call) (t : ScheduleTx) :
    Made (w.commit c t) s :=
  made_commit.mpr (.inl h)

end Changes

section Invariant

theorem Inv.allocations (hi : Inv w) {as : List SeatAllocation} (hc : AllocationsChange t w as) :
    (as.map SeatAllocation.id).Nodup ∧
      (∀ a ∈ as, a.status.active = true → ∃ s ∈ w.db.tables.seats, s.id = a.seatInventoryId ∧
        s.scheduleId = a.scheduleId) ∧ as.Pairwise (fun a a' => ¬ a.Conflict a') := by
  cases hc with
  | same => exact ⟨hi.ids, hi.attached, hi.apart⟩
  | held x hatt _ hfree hnew hd =>
    refine ⟨nodup_inserted hi.ids hnew hd, fun a ha hact => ?_, ?_⟩
    · obtain ha | ha := List.mem_append.mp ha
      · exact hi.attached a ha hact
      · exact hatt a ha
    · rw [List.pairwise_append]
      refine ⟨hi.apart, pairwise_rows hd, fun a ha a' ha' hconf => ?_⟩
      obtain ⟨s, hs, hid, hsched⟩ := hi.attached a ha hconf.left
      obtain ⟨s', hs', hid', hsched'⟩ := hatt a' ha'
      have hsame := hi.unique s s' (hi.made s hs) (hi.made s' hs')
        (hid.trans (hconf.seat.trans hid'.symm))
      refine hfree a ha a' ha' ?_ hconf
      rw [← hsched, hsame, hsched']
  | settled rows s hact =>
    refine ⟨?_, fun a ha hactive => ?_, pairwise_settled hi.ids hact hi.apart⟩
    · rw [ids_settled]
      exact hi.ids
    · obtain ⟨a', ha', rfl⟩ := List.mem_map.mp ha
      simpa using hi.attached a' ha' (active_of_settled hi.ids hact ha' hactive)

theorem Inv.seats_keys (hi : Inv w) {x : Projected} (hcov : x.Covers w)
    (hsched : ∀ s ∈ x.seats, s.scheduleId = x.scheduleId) (hkeys : (x.seats.map seatKey).Nodup) :
    ((w.db.tables.seats.filter (fun s => !x.gone.contains s.id) ++ x.seats).map seatKey).Nodup := by
  rw [List.map_append]
  refine List.Nodup.append (hi.keys.sublist (List.filter_sublist.map _)) hkeys fun k hk hk' => ?_
  obtain ⟨s, hs, rfl⟩ := List.mem_map.mp hk
  obtain ⟨s', hs', he⟩ := List.mem_map.mp hk'
  obtain ⟨hs, hstays⟩ := List.mem_filter.mp hs
  have hschedule : s.scheduleId = x.scheduleId := by
    rw [← hsched s' hs']
    exact (congrArg Prod.fst he).symm
  simp [hcov.all s hs hschedule] at hstays

theorem Inv.stays (hi : Inv w) {x : Projected} (hcov : x.Covers w)
    (hfree : x.deleted ≠ none → ∀ a ∈ w.db.tables.allocations, a.scheduleId = x.scheduleId →
      a.status.active = false) {a : SeatAllocation} (ha : a ∈ w.db.tables.allocations)
    (hact : a.status.active = true) {s : SeatInventory} (hs : s ∈ w.db.tables.seats)
    (hsched : s.scheduleId = a.scheduleId) : s.id ∉ x.gone := by
  intro hgone
  obtain ⟨s', hmade, hid, hsched'⟩ := hcov.made s.id hgone
  have hsame := hi.unique s' s hmade (hi.made s hs) hid
  have hdeleted : x.deleted ≠ none := by
    intro hnone
    rw [Projected.gone, hnone] at hgone
    cases hgone
  rw [hfree hdeleted a ha (by rw [← hsched, ← hsame, hsched'])] at hact
  cases hact

theorem lasting_inv : Lasting discipline Inv where
  commit w c t hi _ hc _ _ := by
    obtain ⟨hids, hatt, hapart⟩ := hi.allocations hc.allocationsChange
    have hsched := fun k hk => hc.schedule (k := k) hk
    have hch := hc.seatsChange
    change Commit t w at hc
    generalize hseats : (t.view w.db).tables.seats = seats at hch
    cases hch with
    | same hnone =>
      have hmade := made_same (w := w) (c := c) hnone
      constructor
      · exact hids
      · change ((t.view w.db).tables.seats.map seatKey).Nodup
        rw [hseats]
        exact hi.keys
      · change ∀ s ∈ (t.view w.db).tables.seats, _
        rw [hseats]
        exact fun s hs => hsched _ (hi.rooted s hs)
      · change ∀ s ∈ (t.view w.db).tables.seats, _
        rw [hseats]
        exact fun s hs => (hmade s).mpr (hi.made s hs)
      · exact fun s s' hs hs' => hi.unique s s' ((hmade s).mp hs) ((hmade s').mp hs')
      · exact fun s hs => hi.drawn s ((hmade s).mp hs)
      · change ∀ a ∈ (t.view w.db).tables.allocations, _ → ∃ s ∈ (t.view w.db).tables.seats, _
        rw [hseats]
        exact hatt
      · exact hapart
    | projected x hcov hfresh hschedule hxids hkeys hfree hw hallocs =>
      have hmade := made_projected (w := w) (c := c) hw
      constructor
      · exact hids
      · change ((t.view w.db).tables.seats.map seatKey).Nodup
        rw [hseats]
        exact hi.seats_keys hcov hschedule hkeys
      · change ∀ s ∈ (t.view w.db).tables.seats, _
        rw [hseats]
        intro s hs
        obtain hs | hs := List.mem_append.mp hs
        · exact hsched _ (hi.rooted s (List.mem_filter.mp hs).1)
        · change (t.view w.db).tables.schedules s.scheduleId ≠ none
          rw [(view_projected hw).1, hschedule s hs, Function.update_self]
          exact Option.some_ne_none _
      · change ∀ s ∈ (t.view w.db).tables.seats, _
        rw [hseats]
        intro s hs
        obtain hs | hs := List.mem_append.mp hs
        · exact (hmade s).mpr (.inl (hi.made s (List.mem_filter.mp hs).1))
        · exact (hmade s).mpr (.inr hs)
      · intro s s' hs hs' hid
        obtain hs | hs := (hmade s).mp hs
        · obtain hs' | hs' := (hmade s').mp hs'
          · exact hi.unique s s' hs hs' hid
          · exact absurd hid (hfresh.new s' hs' s hs)
        · obtain hs' | hs' := (hmade s').mp hs'
          · exact absurd hid.symm (hfresh.new s hs s' hs')
          · exact List.inj_on_of_nodup_map hxids hs hs' hid
      · intro s hs
        obtain hs | hs := (hmade s).mp hs
        · exact hi.drawn s hs
        · exact hfresh.drawn s hs
      · change ∀ a ∈ (t.view w.db).tables.allocations, _ → ∃ s ∈ (t.view w.db).tables.seats, _
        rw [hseats, hallocs]
        intro a ha hact
        obtain ⟨s, hs, hid, hsa⟩ := hi.attached a ha hact
        refine ⟨s, List.mem_append_left _ (List.mem_filter.mpr ⟨hs, ?_⟩), hid, hsa⟩
        simpa using hi.stays hcov hfree ha hact hs hsa
      · exact hapart
  drift w e hd h := ⟨h.ids, h.keys, h.rooted, h.made, h.unique,
    fun s hs => Nat.lt_of_lt_of_le (h.drawn s hs) hd, h.attached, h.apart⟩

theorem lawful : discipline.Lawful where
  ask w i _ a ch r e _ h := by
    cases a with
    | inventory a =>
      obtain ⟨_, _, hr⟩ := Option.map_eq_some_iff.mp h
      cases hr
      exact Nat.le_refl _
    | uuids n =>
      cases h
      exact Nat.le_add_right _ _
  tick _ _ := Nat.le_refl _
  fault := trivial
  run _ _ _ _ := trivial
  answer _ _ _ _ _ _ _ := trivial
  inv := lasting_inv
  pre _ := lasting_true
  post _ _ := lasting_true

end Invariant

section Stable

variable {i : Nat} {ks : List Key}

def Dead (k : Id) (w : ScheduleWorld) : Prop :=
  (∃ s, Made w s ∧ s.id = k) ∧ ∀ s ∈ w.db.tables.seats, s.id ≠ k

theorem lasting_dead (k : Id) : Lasting discipline (Dead k) where
  commit w c t _ _ hc _ h := by
    obtain ⟨⟨s, hmade, hid⟩, hgone⟩ := h
    refine ⟨⟨s, hmade.commit c t, hid⟩, ?_⟩
    have hch := hc.seatsChange
    change ∀ s ∈ (t.view w.db).tables.seats, _
    generalize (t.view w.db).tables.seats = seats at hch
    cases hch with
    | same => exact hgone
    | projected x _ hfresh =>
      intro s' hs'
      obtain hs' | hs' := List.mem_append.mp hs'
      · exact hgone s' (List.mem_filter.mp hs').1
      · rw [← hid]
        exact Ne.symm (hfresh.new s' hs' s hmade)
  drift _ _ _ h := h

/-- The rows are of projected seats that are locked or gone, and conflict with no
allocation. -/
structure Free (ks : List Key) (rows : List SeatAllocation) (w : ScheduleWorld) : Prop where
  made : ∀ a ∈ rows, ∃ s, Made w s ∧ s.id = a.seatInventoryId ∧ s.scheduleId = a.scheduleId
  seats : ∀ a ∈ rows, .inventory (.seat a.seatInventoryId) ∈ ks ∨ Dead a.seatInventoryId w
  apart : ∀ a ∈ w.db.tables.allocations, ∀ a' ∈ rows, a.scheduleId = a'.scheduleId →
    ¬ a.Conflict a'

/-- While the rows of its seats are locked nobody else allocates them, and seats that
are gone nobody can. -/
theorem stable_free (rows : List SeatAllocation) : Stable discipline i ks (Free ks rows) where
  commit w c t hi hp hc hv _ hd h := by
    refine ⟨fun a ha => ?_, fun a ha => (h.seats a ha).imp_right
      fun hdead => (lasting_dead _).commit w c t hi hp hc hv hdead, ?_⟩
    · obtain ⟨s, hs, hx⟩ := h.made a ha
      exact ⟨s, hs.commit c t, hx⟩
    have hch := hc.allocationsChange
    change ∀ a ∈ (t.view w.db).tables.allocations, _
    generalize (t.view w.db).tables.allocations = as at hch
    cases hch with
    | same => exact h.apart
    | held x hatt hlocked =>
      intro a ha a' ha' hsched hconf
      obtain ha | ha := List.mem_append.mp ha
      · exact h.apart a ha a' ha' hsched hconf
      · obtain hlock | hdead := h.seats a' ha'
        · refine hd _ (hlocked a ha) ?_
          rw [hconf.seat]
          exact hlock
        · obtain ⟨s, hs, hid, _⟩ := hatt a ha
          exact hdead.2 s hs (hid.trans hconf.seat)
    | settled rows' s hact =>
      intro a ha a' ha' hsched hconf
      obtain ⟨a₀, ha₀, rfl⟩ := List.mem_map.mp ha
      have hseat := hconf.seat
      have hstarts := hconf.starts
      have hends := hconf.ends
      simp only [SeatAllocation.settled_seatInventoryId, SeatAllocation.settled_fromSequence,
        SeatAllocation.settled_toSequence, SeatAllocation.settled_scheduleId]
        at hseat hstarts hends hsched
      exact h.apart a₀ ha₀ a' ha' hsched
        ⟨hseat, active_of_settled hi.ids hact ha₀ hconf.left, hconf.right, hstarts, hends⟩
  drift _ _ _ h := ⟨h.made, h.seats, h.apart⟩

theorem applyAll_cons (d : Db) (x : Write) (ws : List Write) :
    applyAll d (x :: ws) = applyAll (x.apply d) ws := rfl

theorem applyAll_allocation_other {d : Db} {ws : List Write} {a : SeatAllocation}
    (h : ∀ x ∈ ws, .inventory (.allocation a.id) ∉ x.keys) :
    a ∈ (applyAll d ws).tables.allocations ↔ a ∈ d.tables.allocations := by
  induction ws generalizing d with
  | nil => rfl
  | cons x ws ih =>
    rw [applyAll_cons, ih (fun y hy => h y (List.mem_cons_of_mem _ hy))]
    have hx := h x List.mem_cons_self
    cases x with
    | inventory y =>
      refine InventoryService.applyAll_allocation_other d.tables [y] fun z hz hk => hx ?_
      rw [List.mem_singleton.mp hz] at hk
      exact List.mem_map_of_mem hk
    | _ => rfl

theorem stable_allocations (rows : List SeatAllocation)
    (hk : ∀ a ∈ rows, .inventory (.allocation a.id) ∈ ks) :
    Stable discipline i ks (fun w => ∀ a ∈ rows, a ∈ w.db.tables.allocations) where
  commit w c t _ _ _ hv _ hd h a ha := by
    change a ∈ (t.view w.db).tables.allocations
    rw [view_eq, applyAll_allocation_other]
    · exact h a ha
    · exact hv.untouched hd (hk a ha)
  drift _ _ _ h := h

theorem stable_covers (x : Projected) (hk : .schedule x.scheduleId ∈ ks) :
    Stable discipline i ks x.Covers where
  commit w c t _ _ hc hv _ hd h := by
    refine ⟨?_, fun k hk => ?_⟩
    · have hch := hc.seatsChange
      change ∀ s ∈ (t.view w.db).tables.seats, _
      generalize (t.view w.db).tables.seats = seats at hch
      cases hch with
      | same => exact h.all
      | projected y _ _ hsched _ _ _ hw =>
        intro s hs hsx
        obtain hs | hs := List.mem_append.mp hs
        · exact h.all s (List.mem_filter.mp hs).1 hsx
        · have hmem : Write.schedule y.scheduleId y.row ∈ t.writes := by
            rw [hw]
            simp [Projected.writes]
          have hlock := hv _ hmem (.schedule y.scheduleId) List.mem_cons_self
          rw [← hsched s hs, hsx] at hlock
          exact absurd hk (hd _ hlock)
    · obtain ⟨s, hs, hx⟩ := h.made k hk
      exact ⟨s, hs.commit c t, hx⟩
  drift _ _ _ h := ⟨h.all, h.made⟩

theorem stable_fresh (x : Projected) : Stable discipline i ks (x.Fresh i) where
  commit w c t _ _ hc _ ho _ h := by
    refine ⟨h.own, h.drawn, fun s hs s' hs' => ?_⟩
    have hch := hc.seatsChange
    generalize (t.view w.db).tables.seats = seats at hch
    cases hch with
    | same hnone => exact h.new s hs s' ((made_same hnone s').mp hs')
    | projected y _ hfresh _ _ _ _ hw =>
      obtain hs' | hs' := (made_projected hw s').mp hs'
      · exact h.new s hs s' hs'
      · intro hid
        apply ho
        rw [← hfresh.own s' hs', hid, h.own s hs]
  drift w e hd h := ⟨h.own, fun s hs => Nat.lt_of_lt_of_le (h.drawn s hs) hd, h.new⟩

end Stable

end RailwayBooking.ScheduleService
