import RailwayBooking.Concurrency.Rules
import RailwayBooking.InventoryService.Commits

namespace RailwayBooking.InventoryService

open Concurrency

/-- Seats and allocations are told apart by their ids, and every allocation is one of
a seat of its schedule. -/
structure Inv (w : InventoryWorld) : Prop where
  seats : (w.db.seats.map SeatInventory.id).Nodup
  ids : (w.db.allocations.map SeatAllocation.id).Nodup
  seat : ∀ a ∈ w.db.allocations, ∃ s ∈ w.db.seats, s.id = a.seatInventoryId ∧
    s.scheduleId = a.scheduleId

def Recorded (k : EventKey) (w : InventoryWorld) : Prop := k ∈ w.db.idempotency

def discipline (T : Terms) : Discipline machine where
  pre c w := (∀ r, c.request? = some r → ∀ r' ∈ T.requestOf r.bookingId, r = r') ∧
    (T.ordered → ∀ e, c.confirms? = some e → ∀ r ∈ T.requestOf e.bookingId,
      Recorded (.hold r.eventId) w)
  inv := Inv
  allow _ _ _ _ := True
  commits := Commit T
  asks _ _ _ := True
  drift _ _ := True
  raises e := e.isNonRetryable = false
  post c _ w := (∀ e, c.confirms? = some e → Recorded (.confirm e.eventId) w) ∧
    ∀ e, c.cancels? = some e → Recorded (.cancel e.eventId) w

variable {T : Terms} {c : Call} {t : InventoryTx} {w : InventoryWorld}

theorem Recorded.commit {k : EventKey} (h : Recorded k w) (c : Call) (t : InventoryTx) :
    Recorded k (w.commit c t) := by
  rw [Recorded, commit_idempotency]
  exact List.mem_append_left _ h

theorem lasting_recorded (k : EventKey) : Lasting (discipline T) (Recorded k) where
  commit _ c t _ _ _ _ h := h.commit c t
  drift _ _ _ h := h

theorem ids_settled (rows as : List SeatAllocation) (s : AllocationStatus) :
    (as.map (SeatAllocation.settled rows s)).map SeatAllocation.id = as.map SeatAllocation.id := by
  have hcomp : SeatAllocation.id ∘ SeatAllocation.settled rows s = SeatAllocation.id := by
    funext a
    exact a.settled_id rows s
  rw [List.map_map, hcomp]

theorem nodup_inserted {as rows : List SeatAllocation} (h : (as.map SeatAllocation.id).Nodup)
    (hnew : ∀ a ∈ as, ∀ a' ∈ rows, a.id ≠ a'.id) (hd : (rows.map SeatAllocation.id).Nodup) :
    ((as ++ rows).map SeatAllocation.id).Nodup := by
  rw [List.map_append]
  refine List.Nodup.append h hd fun k hk hk' => ?_
  obtain ⟨a, ha, rfl⟩ := List.mem_map.mp hk
  obtain ⟨a', ha', he⟩ := List.mem_map.mp hk'
  exact hnew a ha a' ha' he.symm

theorem active_of_settled {rows as : List SeatAllocation} {s : AllocationStatus}
    (hids : (as.map SeatAllocation.id).Nodup)
    (hact : ∀ a ∈ rows, a ∈ as ∧ a.status.active = true) {a : SeatAllocation} (ha : a ∈ as)
    (h : (a.settled rows s).status.active = true) : a.status.active = true := by
  rw [SeatAllocation.settled_status] at h
  split at h
  · next hm =>
    obtain ⟨r, hr, hid⟩ := List.mem_map.mp hm
    obtain ⟨hrm, hra⟩ := hact r hr
    rw [← List.inj_on_of_nodup_map hids hrm ha hid]
    exact hra
  · exact h

theorem lasting_inv : Lasting (discipline T) Inv where
  commit w c t hi _ hc _ _ := by
    have hch := hc.allocationsChange
    refine ⟨by rw [commit_seats]; exact hi.seats, ?_, ?_⟩
    · change ((t.view w.db).allocations.map SeatAllocation.id).Nodup
      generalize (t.view w.db).allocations = as at hch
      cases hch with
      | same => exact hi.ids
      | held x _ _ hnew hd => exact nodup_inserted hi.ids hnew hd
      | settled rows s _ =>
        rw [ids_settled]
        exact hi.ids
    · rw [commit_seats]
      change ∀ a ∈ (t.view w.db).allocations, _
      generalize (t.view w.db).allocations = as at hch
      cases hch with
      | same => exact hi.seat
      | held x hf _ _ _ =>
        intro a ha
        obtain ha | ha := List.mem_append.mp ha
        · exact hi.seat a ha
        · exact hf.seat ha
      | settled rows s _ =>
        intro a ha
        obtain ⟨a', ha', rfl⟩ := List.mem_map.mp ha
        simpa using hi.seat a' ha'
  drift _ _ _ h := ⟨h.seats, h.ids, h.seat⟩

theorem effect_error {α : Type} {e e' e₁ : Env} {a : α} {ch : Choice Empty} {x : Err}
    (h : e.effect a e' ch = (.error x, e₁)) : x = .fault := by
  cases ch with
  | reply r => exact r.elim
  | _ =>
    simp [Env.effect] at h
    try exact h.1.symm

theorem ask_error {e e' : Env} {i : Nat} {a : Aux} {ch : Choice Empty} {x : Err}
    (h : ask e i a ch = some (.error x, e')) : x.isNonRetryable = false := by
  cases a with
  | now => simp [ask] at h
  | _ =>
    rw [effect_error (Option.some.inj h)]
    rfl

theorem run_error {q : Sql} {d : Db} {x : Err} (h : run q d = .error x) :
    x.isNonRetryable = false := by
  cases q with
  | createMany data =>
    simp only [run] at h
    split at h
    · cases h
      rfl
    · split at h <;> cases h
      rfl
  | createKey k =>
    simp only [run] at h
    split at h <;> cases h
    rfl
  | _ => cases h

theorem lawful : (discipline T).Lawful where
  ask _ _ _ _ _ _ _ _ _ := trivial
  tick _ _ := trivial
  fault := rfl
  run _ _ _ h := run_error h
  answer _ i _ _ _ _ h := ask_error (i := i) h
  inv := lasting_inv
  pre _ :=
    ⟨fun _ c' t _ _ _ _ h => ⟨h.1, fun ho e he r hr => (h.2 ho e he r hr).commit c' t⟩,
      fun _ _ _ h => h⟩
  post _ _ :=
    ⟨fun _ c' t _ _ _ _ h => ⟨fun e he => (h.1 e he).commit c' t,
      fun e he => (h.2 e he).commit c' t⟩, fun _ _ _ h => h⟩

theorem lasting_seats (seats : List SeatInventory) :
    Lasting (discipline T) (fun w => w.db.seats = seats) where
  commit w c t _ _ _ _ h := (commit_seats w c t).trans h
  drift _ _ _ h := h

theorem lasting_stops (stops : List RouteStop) :
    Lasting (discipline T) (fun w => w.db.stops = stops) where
  commit w c t _ _ _ _ h := (commit_stops w c t).trans h
  drift _ _ _ h := h

theorem stable_allocation {i : Nat} {ks : List Key} {a : SeatAllocation}
    (hk : .allocation a.id ∈ ks) :
    Stable (discipline T) i ks (fun w => a ∈ w.db.allocations) where
  commit w c t _ _ _ hv _ hd h := by
    change a ∈ (t.view w.db).allocations
    rw [view_eq, applyAll_allocation_other]
    · exact h
    · exact hv.untouched hd hk
  drift _ _ _ h := h

theorem stable_allocations {i : Nat} {ks : List Key} (rows : List SeatAllocation)
    (hk : ∀ a ∈ rows, .allocation a.id ∈ ks) :
    Stable (discipline T) i ks (fun w => ∀ a ∈ rows, a ∈ w.db.allocations) where
  commit w c t hi hp hc hv ho hd h a ha :=
    (stable_allocation (hk a ha)).commit w c t hi hp hc hv ho hd (h a ha)
  drift _ _ _ h := h

theorem hasOverlap_iff {d : Db} {scheduleId : Id} {ids : List Id} {fromSequence toSequence : Nat} :
    hasOverlappingAllocation d scheduleId ids fromSequence toSequence = true ↔
      ∃ a ∈ d.allocations, a.scheduleId = scheduleId ∧ a.seatInventoryId ∈ ids ∧
        a.fromSequence < toSequence ∧ fromSequence < a.toSequence ∧ a.status.active = true := by
  simp [hasOverlappingAllocation, SeatAllocation.overlaps, and_assoc]

/-- While the rows of the seats are locked nobody else allocates them: this is where
the row lock and the overlap check of a hold meet. -/
theorem stable_free {i : Nat} {ks : List Key} {scheduleId : Id} {ids : List Id}
    {fromSequence toSequence : Nat} {seats : List SeatInventory}
    (hk : ∀ s ∈ seats, s.id ∈ ids → .seat s.id ∈ ks) :
    Stable (discipline T) i ks (fun w => w.db.seats = seats ∧
      hasOverlappingAllocation w.db scheduleId ids fromSequence toSequence = false) where
  commit w c t hi hp hc hv _ hd h := by
    refine ⟨(commit_seats w c t).trans h.1, ?_⟩
    rw [← Bool.not_eq_true, hasOverlap_iff]
    rintro ⟨a, ha, hs, hids, hf, ht, hact⟩
    have hfree := h.2
    rw [← Bool.not_eq_true, hasOverlap_iff] at hfree
    change a ∈ (t.view w.db).allocations at ha
    cases hc with
    | holdDuplicate _ _ hw | confirmDuplicate _ _ _ hw | cancelDuplicate _ _ _ hw =>
      rw [view_nothing hw] at ha
      exact hfree ⟨a, ha, hs, hids, hf, ht, hact⟩
    | failed _ _ hw =>
      rw [(view_failed hw w.db).1] at ha
      exact hfree ⟨a, ha, hs, hids, hf, ht, hact⟩
    | held x created _ _ hfound _ hlocked _ _ _ hw =>
      rw [(view_held hw w.db).1] at ha
      obtain ha | ha := List.mem_append.mp ha
      · exact hfree ⟨a, ha, hs, hids, hf, ht, hact⟩
      · obtain ⟨s, hseat, hid, -⟩ := hfound.seat ha
        rw [h.1] at hseat
        have hlock := hk s hseat (by rw [hid]; exact hids)
        rw [hid] at hlock
        exact hd _ (hlocked a ha) hlock
    | confirmed rows history _ _ hr _ hw =>
      rw [(view_settled hw w.db).1] at ha
      obtain ⟨a', ha', rfl⟩ := List.mem_map.mp ha
      simp only [SeatAllocation.settled_scheduleId, SeatAllocation.settled_seatInventoryId,
        SeatAllocation.settled_fromSequence, SeatAllocation.settled_toSequence] at hs hids hf ht
      refine hfree ⟨a', ha', hs, hids, hf, ht, ?_⟩
      rw [SeatAllocation.settled_status] at hact
      split at hact
      · next hm =>
        obtain ⟨a₁, ha₁, he⟩ := List.mem_map.mp hm
        have hsame := List.inj_on_of_nodup_map hi.ids (hr a₁ ha₁).1 ha' he
        rw [← hsame, (hr a₁ ha₁).2.2]
        rfl
      · exact hact
    | cancelled rows history _ _ _ hw =>
      rw [(view_settled hw w.db).1] at ha
      obtain ⟨a', ha', rfl⟩ := List.mem_map.mp ha
      simp only [SeatAllocation.settled_scheduleId, SeatAllocation.settled_seatInventoryId,
        SeatAllocation.settled_fromSequence, SeatAllocation.settled_toSequence] at hs hids hf ht
      rw [SeatAllocation.settled_status] at hact
      split at hact
      · cases hact
      · exact hfree ⟨a', ha', hs, hids, hf, ht, hact⟩
  drift _ _ _ h := h

theorem lasting_complete {b : Uuid} (rows : List SeatAllocation) :
    Lasting (discipline T) (fun w => (T.ordered → ∀ r ∈ T.requestOf b,
      Recorded (.hold r.eventId) w) ∧ T.Complete b rows w) where
  commit w c t hi hp hc _ h := by
    refine ⟨fun ho r hr => (h.1 ho r hr).commit c t, fun ho r hr a ha hb hheld => ?_⟩
    change a ∈ (t.view w.db).allocations at ha
    cases hc with
    | holdDuplicate _ _ hw | confirmDuplicate _ _ _ hw | cancelDuplicate _ _ _ hw =>
      rw [view_nothing hw] at ha
      exact h.2 ho r hr a ha hb hheld
    | failed _ _ hw =>
      rw [(view_failed hw w.db).1] at ha
      exact h.2 ho r hr a ha hb hheld
    | held x created hreq _ _ _ _ _ _ hkey hw =>
      rw [(view_held hw w.db).1] at ha
      obtain ha | ha := List.mem_append.mp ha
      · exact h.2 ho r hr a ha hb hheld
      · have hxb : x.request.bookingId = b := (Hold.rows_bookingId ha).symm.trans hb
        have hx : x.request = r := hp.1 x.request hreq r (by rw [hxb]; exact hr)
        exact absurd (h.1 ho r hr) (by rw [← hx]; exact hkey)
    | confirmed rows' history _ _ _ _ hw | cancelled rows' history _ _ _ hw =>
      rw [(view_settled hw w.db).1] at ha
      obtain ⟨a', ha', rfl⟩ := List.mem_map.mp ha
      rw [SeatAllocation.settled_status] at hheld
      split at hheld
      · cases hheld
      · next hm =>
        rw [SeatAllocation.settled_bookingId] at hb
        rw [SeatAllocation.settled, if_neg hm]
        exact h.2 ho r hr a' ha' hb hheld
  drift _ _ _ h := h

section Steps

/-- What a call may do to the status of an allocation of booking `b`. -/
inductive StatusStep (c : Call) (b : Uuid) : AllocationStatus → AllocationStatus → Prop
  | same (s : AllocationStatus) : StatusStep c b s s
  | confirmed : StatusStep c b .held .confirmed
  | cancelled {e : SeatLifecycleEventArgs} {s : AllocationStatus} (cancels : c.cancels? = some e)
      (booking : e.bookingId = b) (active : s.active = true) : StatusStep c b s .cancelled

theorem StatusStep.active {b : Uuid} {s s' : AllocationStatus} (h : StatusStep c b s s')
    (hs : s'.active = true) : s.active = true := by
  cases h with
  | same => exact hs
  | confirmed => rfl
  | cancelled => cases hs

theorem StatusStep.held {b : Uuid} {s : AllocationStatus} (h : StatusStep c b s .held) :
    s = .held := by
  cases h
  rfl

/-- The allocation of a booking for a seat stood there before with a status that the
transaction may have changed, or a hold has inserted it. -/
inductive Origin (c : Call) (t : InventoryTx) (w : InventoryWorld) (a : SeatAllocation) : Prop
  | old (a' : SeatAllocation) (mem : a' ∈ w.db.allocations) (booking : a'.bookingId = a.bookingId)
      (seat : a'.seatInventoryId = a.seatInventoryId)
      (step : StatusStep c a.bookingId a'.status a.status)
  | held (x : Hold) (request : c.request? = some x.request) (site : t.site = .hold)
      (writes : t.writes ≠ []) (key : ¬ Recorded (.hold x.request.eventId) w) (mem : a ∈ x.rows)

theorem origin_settled {rows : List SeatAllocation} {s : AllocationStatus} {a : SeatAllocation}
    (hi : Inv w) (ha : a ∈ w.db.allocations.map (SeatAllocation.settled rows s))
    (h : ∀ r ∈ rows, r ∈ w.db.allocations ∧ StatusStep c r.bookingId r.status s) :
    Origin c t w a := by
  obtain ⟨a', ha', rfl⟩ := List.mem_map.mp ha
  refine .old a' ha' (by simp) (by simp) ?_
  rw [SeatAllocation.settled_status, SeatAllocation.settled_bookingId]
  split
  · next hid =>
    obtain ⟨r, hr, hrid⟩ := List.mem_map.mp hid
    rw [← List.inj_on_of_nodup_map hi.ids (h r hr).1 ha' hrid]
    exact (h r hr).2
  · exact .same _

theorem Commit.origin (hc : Commit T c t w) (hi : Inv w) {a : SeatAllocation}
    (ha : a ∈ (t.view w.db).allocations) : Origin c t w a := by
  cases hc with
  | holdDuplicate _ _ hw | confirmDuplicate _ _ _ hw | cancelDuplicate _ _ _ hw =>
    rw [view_nothing hw] at ha
    exact .old a ha rfl rfl (.same _)
  | failed _ _ hw =>
    rw [(view_failed hw w.db).1] at ha
    exact .old a ha rfl rfl (.same _)
  | held x _ hreq hsite _ _ _ _ _ hkey hw =>
    rw [(view_held hw w.db).1] at ha
    obtain ha | ha := List.mem_append.mp ha
    · exact .old a ha rfl rfl (.same _)
    · exact .held x hreq hsite (by rw [hw]; simp) hkey ha
  | confirmed rows _ _ _ hheld _ hw =>
    rw [(view_settled hw w.db).1] at ha
    exact origin_settled hi ha fun r hr => ⟨(hheld r hr).1, (hheld r hr).2.2 ▸ .confirmed⟩
  | cancelled rows _ hcan _ hactive hw =>
    rw [(view_settled hw w.db).1] at ha
    exact origin_settled hi ha fun r hr => ⟨(hactive r hr).1,
      .cancelled hcan (hactive r hr).2.1.symm (hactive r hr).2.2⟩

theorem Commit.persists (hc : Commit T c t w) {a : SeatAllocation} (ha : a ∈ w.db.allocations) :
    ∃ a' ∈ (t.view w.db).allocations, a'.bookingId = a.bookingId ∧
      a'.seatInventoryId = a.seatInventoryId := by
  have hch := hc.allocationsChange
  generalize (t.view w.db).allocations = as at hch
  cases hch with
  | same => exact ⟨a, ha, rfl, rfl⟩
  | held x => exact ⟨a, List.mem_append_left _ ha, rfl, rfl⟩
  | settled rows s =>
    exact ⟨_, List.mem_map_of_mem ha, a.settled_bookingId rows s, a.settled_seatInventoryId rows s⟩

theorem settled_eventKeys {rows : List SeatAllocation} {s : AllocationStatus}
    {history : List (List SeatAllocationHistory)} {k : EventKey}
    (h : t.writes = setStatuses rows s ++ history.map .history ++ [.idempotency k]) :
    t.writes.filterMap Write.eventKey? = [k] := by
  rw [h, List.filterMap_append, List.filterMap_append, setStatuses_eventKey, history_eventKey]
  rfl

theorem Commit.cancel_recorded (hc : Commit T c t w) {id : EventId}
    (h : .cancel id ∈ t.writes.filterMap Write.eventKey?) :
    ∃ e, c.cancels? = some e ∧ e.eventId = id ∧ t.site = .cancel := by
  cases hc with
  | holdDuplicate _ _ hw | confirmDuplicate _ _ _ hw | cancelDuplicate _ _ _ hw
  | held _ _ _ _ _ _ _ _ _ _ hw | failed _ _ hw =>
    rw [hw] at h
    simp [Write.eventKey?] at h
  | confirmed rows history _ _ _ _ hw =>
    rw [settled_eventKeys hw] at h
    simp at h
  | @cancelled e _ _ rows history hcan hsite _ hw =>
    rw [settled_eventKeys hw] at h
    exact ⟨e, hcan, (EventKey.cancel.inj (List.mem_singleton.mp h)).symm, hsite⟩

/-- A key of a confirmation is recorded by the transaction of that event, and then
nothing of its booking is held any more. -/
theorem Commit.confirm_recorded (hc : Commit T c t w) {id : EventId}
    (h : .confirm id ∈ t.writes.filterMap Write.eventKey?) :
    ∃ e, c.confirms? = some e ∧ e.eventId = id ∧ (T.ordered → ∀ r ∈ T.requestOf e.bookingId,
      ∀ a ∈ (t.view w.db).allocations, a.bookingId = e.bookingId → a.status ≠ .held) := by
  cases hc with
  | holdDuplicate _ _ hw | confirmDuplicate _ _ _ hw | cancelDuplicate _ _ _ hw
  | held _ _ _ _ _ _ _ _ _ _ hw | failed _ _ hw =>
    rw [hw] at h
    simp [Write.eventKey?] at h
  | cancelled rows history _ _ _ hw =>
    rw [settled_eventKeys hw] at h
    simp at h
  | @confirmed e _ _ rows history hcon _ hheld hcomplete hw =>
    rw [settled_eventKeys hw] at h
    refine ⟨e, hcon, (EventKey.confirm.inj (List.mem_singleton.mp h)).symm,
      fun ho r hr a ha hb hst => ?_⟩
    rw [(view_settled hw w.db).1] at ha
    obtain ⟨a', ha', rfl⟩ := List.mem_map.mp ha
    rw [SeatAllocation.settled_bookingId] at hb
    rw [SeatAllocation.settled_status] at hst
    split at hst
    · cases hst
    · next hid => exact hid (List.mem_map_of_mem (hcomplete ho r hr a' ha' hb hst))

theorem Commit.said (hc : Commit T c t w) {e : SeatsHeld}
    (h : .seatsHeld e ∈ (t.view w.db).outbox) : .seatsHeld e ∈ w.db.outbox ∨
      ∃ x : Hold, e = x.payload ∧ c.request? = some x.request ∧ x.Found w ∧
        Recorded (.hold x.request.eventId) (w.commit c t) ∧
        ∀ a ∈ x.rows, a ∈ (t.view w.db).allocations := by
  cases hc with
  | holdDuplicate _ _ hw | confirmDuplicate _ _ _ hw | cancelDuplicate _ _ _ hw =>
    rw [view_nothing hw] at h
    exact .inl h
  | failed _ _ hw =>
    rw [(view_failed hw w.db).2.2] at h
    exact .inl (by simpa using h)
  | confirmed rows history _ _ _ _ hw | cancelled rows history _ _ _ hw =>
    rw [(view_settled hw w.db).2.2] at h
    exact .inl h
  | held x _ hreq _ hfound _ _ _ _ _ hw =>
    obtain ⟨has, hkeys, hout⟩ := view_held hw w.db
    rw [hout] at h
    obtain h | h := List.mem_append.mp h
    · exact .inl h
    · refine .inr ⟨x, by simpa using h, hreq, hfound, ?_, fun a ha => ?_⟩
      · change _ ∈ (t.view w.db).idempotency
        rw [hkeys]
        exact List.mem_append_right _ (List.mem_singleton_self _)
      · rw [has]
        exact List.mem_append_right _ ha

end Steps

end RailwayBooking.InventoryService
