import RailwayBooking.InventoryService.Tables

namespace RailwayBooking.InventoryService

open Concurrency

/-- The hold request that a call answers. -/
def Call.request? : Call → Option HoldSeatsRequested
  | .holdSeats event => some event
  | .holdSeatsRequested (.event event) => some event
  | _ => none

def Call.confirms? : Call → Option SeatLifecycleEventArgs
  | .confirmSeats event => some event
  | .bookingStatusChanged (.event e) =>
      if e.currentStatus = .confirmed then some ⟨e.eventId, e.bookingId⟩ else none
  | _ => none

/-- The statuses on which inventory-service releases the seats of a booking. -/
def Releases (s : BookingStatus) : Prop := s = .cancelled ∨ s = .failed ∨ s = .expired

instance : DecidablePred Releases := fun s =>
  inferInstanceAs (Decidable (s = .cancelled ∨ s = .failed ∨ s = .expired))

def Call.cancels? : Call → Option SeatLifecycleEventArgs
  | .cancelSeats event => some event
  | .bookingStatusChanged (.event e) =>
      if Releases e.currentStatus then some ⟨e.eventId, e.bookingId⟩ else none
  | _ => none

/-- What the callers of the service keep to: the only hold request of a booking,
where it has one, and whether it is confirmed only after its hold. -/
structure Terms where
  requestOf : Uuid → Option HoldSeatsRequested
  ordered : Prop

/-- The callers keep to nothing. -/
def Terms.free : Terms := ⟨fun _ => none, False⟩

/-- Nothing of booking `b` is held beyond `rows`, once its hold has been recorded. -/
def Terms.Complete (T : Terms) (b : Uuid) (rows : List SeatAllocation) (w : InventoryWorld) :
    Prop :=
  T.ordered → ∀ r ∈ T.requestOf b, ∀ a ∈ w.db.allocations, a.bookingId = b → a.status = .held →
    a ∈ rows

section Segments

variable (stops : List RouteStop) (r : HoldSeatsRequested)

def stopBySequence (sequenceNumber : Nat) : Option RouteStop :=
  if sequenceNumber > 0 ∧ sequenceNumber ≤ maxPostgresInt then
    stops.find? (fun s => s.scheduleId = r.scheduleId ∧ s.sequenceNumber = sequenceNumber)
  else none

def stopByStation (stop : Option RouteStop) (stationId : Id) : Option RouteStop :=
  match stop with
  | some stop => some stop
  | none => stops.find? (fun s => s.scheduleId = r.scheduleId ∧ s.stationId = stationId)

/-- The segment that the stops give for a request. -/
def resolvedSegment : Option Segment :=
  segmentOf (stopByStation stops r (stopBySequence stops r r.fromSequence) r.fromStaionId)
    (stopByStation stops r (stopBySequence stops r r.toSequence) r.toStationId)

end Segments

/-- The rows that a committed hold has inserted, with what it read. -/
structure Hold where
  request : HoldSeatsRequested
  segment : Segment
  holdExpiresAt : Nat
  seats : List SeatInventory

namespace Hold

variable (x : Hold)

def rows : List SeatAllocation := allocationRows x.request x.segment x.holdExpiresAt x.seats

def payload : SeatsHeld := heldPayload x.request x.segment x.holdExpiresAt x.seats

/-- The segment was resolved, and the seats were found, all of them. -/
structure Found (w : InventoryWorld) : Prop where
  segment : resolvedSegment w.db.stops x.request = some x.segment
  seats : x.seats = w.db.seats.filter (fun s => s.scheduleId = x.request.scheduleId &&
    x.request.seatInventoryIds.contains s.id)
  all : x.seats.length = x.request.seatInventoryIds.length

def Free (w : InventoryWorld) : Prop :=
  hasOverlappingAllocation w.db x.request.scheduleId (sortedSeatInventoryIds x.request)
    x.segment.fromStop.sequenceNumber x.segment.toStop.sequenceNumber = false

end Hold

/-- The transactions that inventory-service commits, one constructor for each way
through each transaction of the source, and in each the committed state that it
meets. -/
inductive Commit (T : Terms) : Call → InventoryTx → InventoryWorld → Prop
  | holdDuplicate {c : Call} {r : HoldSeatsRequested} {t : InventoryTx} {w : InventoryWorld}
      (request : c.request? = some r) (site : t.site = .hold) (writes : t.writes = []) :
      Commit T c t w
  | held {c : Call} {t : InventoryTx} {w : InventoryWorld} (x : Hold)
      (created : List SeatAllocationHistory) (request : c.request? = some x.request)
      (site : t.site = .hold) (found : x.Found w) (free : x.Free w)
      (locked : ∀ a ∈ x.rows, .seat a.seatInventoryId ∈ t.locks)
      (new : ∀ a ∈ w.db.allocations, ∀ a' ∈ x.rows, a.id ≠ a'.id)
      (distinct : (x.rows.map SeatAllocation.id).Nodup)
      (key : .hold x.request.eventId ∉ w.db.idempotency)
      (writes : t.writes = [.allocations x.rows, .history created,
        .idempotency (.hold x.request.eventId), .outbox (.seatsHeld x.payload)]) : Commit T c t w
  | failed {c : Call} {r : HoldSeatsRequested} {t : InventoryTx} {w : InventoryWorld}
      {reason : SeatHoldFailureReason} {message : String} (request : c.request? = some r)
      (site : t.site = .fail)
      (writes : t.writes = [.outbox (.seatsHoldFailed (failPayload r reason message))]) :
      Commit T c t w
  | confirmDuplicate {c : Call} {e : SeatLifecycleEventArgs} {t : InventoryTx}
      {w : InventoryWorld} (confirms : c.confirms? = some e) (site : t.site = .confirm)
      (recorded : .confirm e.eventId ∈ w.db.idempotency) (writes : t.writes = []) : Commit T c t w
  | confirmed {c : Call} {e : SeatLifecycleEventArgs} {t : InventoryTx} {w : InventoryWorld}
      (rows : List SeatAllocation) (history : List (List SeatAllocationHistory))
      (confirms : c.confirms? = some e) (site : t.site = .confirm)
      (held : ∀ a ∈ rows, a ∈ w.db.allocations ∧ a.bookingId = e.bookingId ∧ a.status = .held)
      (complete : T.Complete e.bookingId rows w)
      (writes : t.writes = setStatuses rows .confirmed ++ history.map .history ++
        [.idempotency (.confirm e.eventId)]) : Commit T c t w
  | cancelDuplicate {c : Call} {e : SeatLifecycleEventArgs} {t : InventoryTx}
      {w : InventoryWorld} (cancels : c.cancels? = some e) (site : t.site = .cancel)
      (recorded : .cancel e.eventId ∈ w.db.idempotency) (writes : t.writes = []) : Commit T c t w
  | cancelled {c : Call} {e : SeatLifecycleEventArgs} {t : InventoryTx} {w : InventoryWorld}
      (rows : List SeatAllocation) (history : List (List SeatAllocationHistory))
      (cancels : c.cancels? = some e) (site : t.site = .cancel)
      (active : ∀ a ∈ rows, a ∈ w.db.allocations ∧ a.bookingId = e.bookingId ∧
        a.status.active = true)
      (writes : t.writes = setStatuses rows .cancelled ++ history.map .history ++
        [.idempotency (.cancel e.eventId)]) : Commit T c t w

section

variable {x : Hold} {w : InventoryWorld} {a : SeatAllocation}

theorem Hold.mem_rows (h : a ∈ x.rows) : ∃ s ∈ x.seats, s.id ∈ x.request.seatInventoryIds ∧
    a = allocationRow x.request x.segment x.holdExpiresAt s := by
  obtain ⟨s, hs, rfl⟩ := List.mem_map.mp h
  obtain ⟨k, hk, hf⟩ := List.mem_filterMap.mp hs
  have hid : s.id = k := by simpa using List.find?_some hf
  exact ⟨s, List.mem_of_find?_eq_some hf, hid ▸ hk, rfl⟩

theorem Hold.Found.seat (hf : x.Found w) (h : a ∈ x.rows) :
    ∃ s ∈ w.db.seats, s.id = a.seatInventoryId ∧ s.scheduleId = a.scheduleId := by
  obtain ⟨s, hs, _, rfl⟩ := Hold.mem_rows h
  rw [hf.seats, List.mem_filter] at hs
  have hsched : s.scheduleId = x.request.scheduleId := by simp at hs; exact hs.2.1
  exact ⟨s, hs.1, rfl, hsched⟩

theorem Hold.rows_bookingId (h : a ∈ x.rows) : a.bookingId = x.request.bookingId := by
  obtain ⟨s, _, _, rfl⟩ := Hold.mem_rows h
  rfl

theorem Hold.rows_status (h : a ∈ x.rows) : a.status = .held := by
  obtain ⟨s, _, _, rfl⟩ := Hold.mem_rows h
  rfl

end

section Views

variable {T : Terms} {c : Call} {t : InventoryTx} {w : InventoryWorld}

theorem history_allocations (hs : List (List SeatAllocationHistory)) (as : List SeatAllocation) :
    (hs.map Write.history).foldl (fun s x => x.onAllocations s) as = as := by
  induction hs with
  | nil => rfl
  | cons h hs ih => exact ih

theorem setStatuses_eventKey (rows : List SeatAllocation) (s : AllocationStatus) :
    (setStatuses rows s).filterMap Write.eventKey? = [] := by
  simp [setStatuses, List.filterMap_eq_nil_iff, Write.eventKey?]

theorem setStatuses_event (rows : List SeatAllocation) (s : AllocationStatus) :
    (setStatuses rows s).filterMap Write.event? = [] := by
  simp [setStatuses, List.filterMap_eq_nil_iff, Write.event?]

theorem history_eventKey (hs : List (List SeatAllocationHistory)) :
    (hs.map Write.history).filterMap Write.eventKey? = [] := by
  simp [List.filterMap_eq_nil_iff, Write.eventKey?]

theorem history_event (hs : List (List SeatAllocationHistory)) :
    (hs.map Write.history).filterMap Write.event? = [] := by
  simp [List.filterMap_eq_nil_iff, Write.event?]

theorem view_held {x : Hold} {created : List SeatAllocationHistory}
    (h : t.writes = [.allocations x.rows, .history created,
      .idempotency (.hold x.request.eventId), .outbox (.seatsHeld x.payload)]) (d : Db) :
    (t.view d).allocations = d.allocations ++ x.rows ∧
      (t.view d).idempotency = d.idempotency ++ [.hold x.request.eventId] ∧
      (t.view d).outbox = d.outbox ++ [.seatsHeld x.payload] := by
  rw [view_eq, h]
  exact ⟨rfl, rfl, rfl⟩

theorem view_settled {rows : List SeatAllocation} {s : AllocationStatus}
    {history : List (List SeatAllocationHistory)} {k : EventKey}
    (h : t.writes = setStatuses rows s ++ history.map .history ++ [.idempotency k]) (d : Db) :
    (t.view d).allocations = d.allocations.map (SeatAllocation.settled rows s) ∧
      (t.view d).idempotency = d.idempotency ++ [k] ∧ (t.view d).outbox = d.outbox := by
  rw [view_eq, h]
  refine ⟨?_, ?_, ?_⟩
  · rw [applyAll_allocations, List.foldl_append, List.foldl_append, setStatuses_allocations,
      history_allocations]
    rfl
  · rw [applyAll_idempotency, List.filterMap_append, List.filterMap_append, setStatuses_eventKey,
      history_eventKey]
    rfl
  · rw [applyAll_outbox, List.filterMap_append, List.filterMap_append, setStatuses_event,
      history_event]
    simp [Write.event?]

theorem view_failed {r : HoldSeatsRequested} {reason : SeatHoldFailureReason} {message : String}
    (h : t.writes = [.outbox (.seatsHoldFailed (failPayload r reason message))]) (d : Db) :
    (t.view d).allocations = d.allocations ∧ (t.view d).idempotency = d.idempotency ∧
      (t.view d).outbox = d.outbox ++ [.seatsHoldFailed (failPayload r reason message)] := by
  rw [view_eq, h]
  exact ⟨rfl, rfl, rfl⟩

theorem view_nothing (h : t.writes = []) (d : Db) : t.view d = d := by
  rw [view_eq, h]
  rfl

/-- How a committed transaction changes the allocations: nothing, new rows, or a
new status for active rows. -/
inductive AllocationsChange (w : InventoryWorld) : List SeatAllocation → Prop
  | same : AllocationsChange w w.db.allocations
  | held (x : Hold) (found : x.Found w) (free : x.Free w)
      (new : ∀ a ∈ w.db.allocations, ∀ a' ∈ x.rows, a.id ≠ a'.id)
      (distinct : (x.rows.map SeatAllocation.id).Nodup) :
      AllocationsChange w (w.db.allocations ++ x.rows)
  | settled (rows : List SeatAllocation) (s : AllocationStatus)
      (active : ∀ a ∈ rows, a ∈ w.db.allocations ∧ a.status.active = true) :
      AllocationsChange w (w.db.allocations.map (SeatAllocation.settled rows s))

theorem Commit.allocationsChange (h : Commit T c t w) :
    AllocationsChange w (t.view w.db).allocations := by
  cases h with
  | holdDuplicate _ _ hw | confirmDuplicate _ _ _ hw | cancelDuplicate _ _ _ hw =>
    rw [view_nothing hw]
    exact .same
  | held x created _ _ hf hfree _ hn hd _ hw =>
    rw [(view_held hw w.db).1]
    exact .held x hf hfree hn hd
  | failed _ _ hw =>
    rw [(view_failed hw w.db).1]
    exact .same
  | confirmed rows history _ _ hr _ hw =>
    rw [(view_settled hw w.db).1]
    refine .settled rows .confirmed fun a ha => ⟨(hr a ha).1, ?_⟩
    rw [(hr a ha).2.2]
    rfl
  | cancelled rows history _ _ hr hw =>
    rw [(view_settled hw w.db).1]
    exact .settled rows .cancelled fun a ha => ⟨(hr a ha).1, (hr a ha).2.2⟩

theorem commit_idempotency (w : InventoryWorld) (c : Call) (t : InventoryTx) :
    (w.commit c t).db.idempotency = w.db.idempotency ++ t.writes.filterMap Write.eventKey? :=
  applyAll_idempotency w.db t.writes

theorem commit_outbox (w : InventoryWorld) (c : Call) (t : InventoryTx) :
    (w.commit c t).db.outbox = w.db.outbox ++ t.writes.filterMap Write.event? :=
  applyAll_outbox w.db t.writes

theorem commit_seats (w : InventoryWorld) (c : Call) (t : InventoryTx) :
    (w.commit c t).db.seats = w.db.seats :=
  applyAll_seats w.db t.writes

theorem commit_stops (w : InventoryWorld) (c : Call) (t : InventoryTx) :
    (w.commit c t).db.stops = w.db.stops :=
  applyAll_stops w.db t.writes

end Views

end RailwayBooking.InventoryService
