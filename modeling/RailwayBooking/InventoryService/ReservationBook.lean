import Mathlib.Data.List.Pairwise
import RailwayBooking.InventoryService.ExactHolds
import RailwayBooking.InventoryService.NoDoubleBooking
import RailwayBooking.Reservations.Book

namespace RailwayBooking.InventoryService

open Concurrency Reservations

section Abstraction

def AllocationStatus.phase : AllocationStatus → Phase
  | .held => .held
  | .confirmed | .cancelled | .expired => .confirmed

/-- The allocation keeps the seat from the stop of this number to the next. -/
def SeatAllocation.covers (a : SeatAllocation) (seat : Id) (n : Nat) : Bool :=
  a.status.active && a.seatInventoryId = seat && a.fromSequence ≤ n && n < a.toSequence

/-- The seats as a book of bookings, leg by leg. -/
def Db.book (d : Db) : Book Id Uuid := fun seat n =>
  (d.allocations.find? (fun a => a.covers seat n)).map (fun a => (a.bookingId, a.status.phase))

def Write.inserted : Write → List SeatAllocation
  | .allocations rows => rows
  | _ => []

def Write.status? : Write → Option (AllocationId × AllocationStatus)
  | .status id newStatus => some (id, newStatus)
  | _ => none

def settlement : List (AllocationId × AllocationStatus) → Option (Op Id Uuid)
  | [] => none
  | (id, .confirmed) :: rest =>
    some (.confirm id.bookingId (((id, .confirmed) :: rest).map (fun x => x.1.seatInventoryId)))
  | (id, status) :: rest =>
    some (.release id.bookingId (((id, status) :: rest).map (fun x => x.1.seatInventoryId)))

/-- What a transaction does to the book. -/
def opOf (t : InventoryTx) : Option (Op Id Uuid) :=
  match t.writes.flatMap Write.inserted with
  | row :: rows =>
    some (.hold row.bookingId ((row :: rows).map SeatAllocation.seatInventoryId) row.fromSequence
      row.toSequence)
  | [] => settlement (t.writes.filterMap Write.status?)

def opsOf (log : List (Call × InventoryTx)) : List (Op Id Uuid) :=
  log.filterMap (fun entry => opOf entry.2)

/-- The call asks for the operation: for the seats of its request on their segment, or for a
booking to be confirmed or released. -/
inductive Requested (stops : List RouteStop) (c : Call) : Op Id Uuid → Prop
  | hold {r : HoldSeatsRequested} {segment : Segment} (request : c.request? = some r)
      (resolved : resolvedSegment stops r = some segment) :
      Requested stops c (.hold r.bookingId r.seatInventoryIds segment.fromStop.sequenceNumber
        segment.toStop.sequenceNumber)
  | confirm {e : SeatLifecycleEventArgs} {seats : List Id} (request : c.confirms? = some e) :
      Requested stops c (.confirm e.bookingId seats)
  | release {e : SeatLifecycleEventArgs} {seats : List Id} (request : c.cancels? = some e) :
      Requested stops c (.release e.bookingId seats)

end Abstraction

variable {T : Terms} {c : Call} {t : InventoryTx} {w : InventoryWorld} {d : Db} {seat : Id} {n : Nat}

section Cells

theorem book_congr {d' : Db} (h : d'.allocations = d.allocations) : d'.book = d.book := by
  funext seat n
  rw [Db.book, Db.book, h]

theorem covers_iff {a : SeatAllocation} : a.covers seat n = true ↔ a.status.active = true ∧
    a.seatInventoryId = seat ∧ a.fromSequence ≤ n ∧ n < a.toSequence := by
  simp [SeatAllocation.covers, and_assoc]

theorem Conflict.symm {a a' : SeatAllocation} (h : a.Conflict a') : a'.Conflict a :=
  ⟨h.seat.symm, h.right, h.left, h.ends, h.starts⟩

theorem NoDoubleBooking.unique (h : NoDoubleBooking d) {a a' : SeatAllocation}
    (ha : a ∈ d.allocations) (ha' : a' ∈ d.allocations) (hc : a.covers seat n = true)
    (hc' : a'.covers seat n = true) : a = a' := by
  by_contra hne
  rw [covers_iff] at hc hc'
  obtain ⟨hact, hseat, hfrom, hto⟩ := hc
  obtain ⟨hact', hseat', hfrom', hto'⟩ := hc'
  have hsymm : Std.Symm (fun a a' : SeatAllocation => ¬ a.Conflict a') :=
    ⟨fun _ _ hno hconf => hno (Conflict.symm hconf)⟩
  refine List.Pairwise.forall h ha ha' hne ?_
  exact ⟨hseat.trans hseat'.symm, hact, hact', by omega, by omega⟩

theorem NoDoubleBooking.book_eq_some (h : NoDoubleBooking d) {v : Uuid × Phase} :
    d.book seat n = some v ↔
      ∃ a ∈ d.allocations, a.covers seat n = true ∧ (a.bookingId, a.status.phase) = v := by
  rw [Db.book, Option.map_eq_some_iff]
  constructor
  · rintro ⟨a, hfind, hv⟩
    exact ⟨a, List.mem_of_find?_eq_some hfind, by simpa using List.find?_some hfind, hv⟩
  · rintro ⟨a, ha, hc, hv⟩
    refine ⟨a, ?_, hv⟩
    cases hfind : d.allocations.find? (fun a => a.covers seat n) with
    | none => exact absurd hc (List.find?_eq_none.mp hfind a ha)
    | some a' =>
      have hc' : a'.covers seat n = true := by simpa using List.find?_some hfind
      rw [h.unique ha (List.mem_of_find?_eq_some hfind) hc hc']

end Cells

section Holds

variable {x : Hold}

theorem Hold.row_segment {a : SeatAllocation} (h : a ∈ x.rows) :
    a.fromSequence = x.segment.fromStop.sequenceNumber ∧
      a.toSequence = x.segment.toStop.sequenceNumber := by
  obtain ⟨s, _, _, rfl⟩ := Hold.mem_rows h
  exact ⟨rfl, rfl⟩

theorem Hold.Found.rows_seats (hf : x.Found w) (hi : Inv w) :
    x.rows.map SeatAllocation.seatInventoryId = x.request.seatInventoryIds := by
  rw [← seatsInOrder_ids hf hi, Hold.rows, allocationRows, List.map_map]
  rfl

/-- The legs that a hold takes. -/
def Hold.op (x : Hold) : Op Id Uuid :=
  .hold x.request.bookingId x.request.seatInventoryIds x.segment.fromStop.sequenceNumber
    x.segment.toStop.sequenceNumber

theorem Hold.enabled (hi : Inv w) (hf : x.Found w) (hfree : x.Free w) : x.op.Enabled w.db.book := by
  intro seat hseat n hstart hstop
  rw [← hf.rows_seats hi] at hseat
  obtain ⟨a', ha', rfl⟩ := List.mem_map.mp hseat
  rw [Db.book, Option.map_eq_none_iff, List.find?_eq_none]
  intro a ha hc
  rw [covers_iff] at hc
  obtain ⟨hact, hsame, hfrom, hto⟩ := hc
  obtain ⟨hfrom', hto'⟩ := Hold.row_segment ha'
  apply not_conflict_of_free hi hf hfree ha ha'
  refine ⟨hsame, hact, ?_, by omega, by omega⟩
  rw [Hold.rows_status ha']
  rfl

theorem Hold.book (hi : Inv w) (hf : x.Found w) (hfree : x.Free w)
    (hd : d.allocations = w.db.allocations ++ x.rows) : d.book = x.op.apply w.db.book := by
  funext seat n
  change _ = if seat ∈ x.request.seatInventoryIds ∧ x.segment.fromStop.sequenceNumber ≤ n ∧
    n < x.segment.toStop.sequenceNumber then some (x.request.bookingId, .held) else w.db.book seat n
  rw [Db.book, hd, List.find?_append]
  by_cases hin : seat ∈ x.request.seatInventoryIds ∧ x.segment.fromStop.sequenceNumber ≤ n ∧
      n < x.segment.toStop.sequenceNumber
  · have hnone := Hold.enabled hi hf hfree seat hin.1 n hin.2.1 hin.2.2
    rw [Db.book, Option.map_eq_none_iff] at hnone
    rw [if_pos hin, hnone, Option.none_or]
    obtain ⟨hseat, hstart, hstop⟩ := hin
    rw [← hf.rows_seats hi] at hseat
    obtain ⟨a, ha, rfl⟩ := List.mem_map.mp hseat
    cases hfind : x.rows.find? (fun b => b.covers a.seatInventoryId n) with
    | none =>
      refine absurd ?_ (List.find?_eq_none.mp hfind a ha)
      obtain ⟨hfrom, hto⟩ := Hold.row_segment ha
      rw [covers_iff]
      exact ⟨by rw [Hold.rows_status ha]; rfl, rfl, by omega, by omega⟩
    | some b =>
      have hb := List.mem_of_find?_eq_some hfind
      rw [Option.map_some, Hold.rows_bookingId hb, Hold.rows_status hb]
      rfl
  · rw [if_neg hin]
    have hnone : x.rows.find? (fun a => a.covers seat n) = none := by
      rw [List.find?_eq_none]
      intro a ha hc
      rw [covers_iff] at hc
      obtain ⟨-, rfl, hfrom, hto⟩ := hc
      obtain ⟨hfrom', hto'⟩ := Hold.row_segment ha
      refine hin ⟨?_, by omega, by omega⟩
      rw [← hf.rows_seats hi]
      exact List.mem_map_of_mem ha
    rw [hnone, Option.or_none]
    rfl

end Holds

section Settlements

variable {rows : List SeatAllocation} {s : AllocationStatus} {b : Uuid}

/-- Of the allocations that cover a leg, that of the booking is among the rows when they are of
its seat. -/
theorem id_mem_iff (hrows : ∀ a ∈ rows, a.bookingId = b) {a : SeatAllocation}
    (hc : a.covers seat n = true) : a.id ∈ rows.map SeatAllocation.id ↔
      seat ∈ rows.map SeatAllocation.seatInventoryId ∧ a.bookingId = b := by
  obtain ⟨-, rfl, -⟩ := covers_iff.mp hc
  constructor
  · intro hmem
    obtain ⟨r, hr, hid⟩ := List.mem_map.mp hmem
    have hbooking : r.bookingId = a.bookingId := congrArg AllocationId.bookingId hid
    have hseat : r.seatInventoryId = a.seatInventoryId := congrArg AllocationId.seatInventoryId hid
    exact ⟨List.mem_map.mpr ⟨r, hr, hseat⟩, hbooking.symm.trans (hrows r hr)⟩
  · rintro ⟨hmem, hbooking⟩
    obtain ⟨r, hr, hseat⟩ := List.mem_map.mp hmem
    refine List.mem_map.mpr ⟨r, hr, ?_⟩
    rw [SeatAllocation.id, SeatAllocation.id, hseat, hrows r hr, hbooking]

theorem covers_settled (hids : (d.allocations.map SeatAllocation.id).Nodup)
    (hact : ∀ a ∈ rows, a ∈ d.allocations ∧ a.status.active = true) {a : SeatAllocation}
    (ha : a ∈ d.allocations) : (a.settled rows s).covers seat n = true ↔
      a.covers seat n = true ∧ (a.id ∈ rows.map SeatAllocation.id → s.active = true) := by
  simp only [covers_iff, SeatAllocation.settled_seatInventoryId,
    SeatAllocation.settled_fromSequence, SeatAllocation.settled_toSequence,
    SeatAllocation.settled_status]
  by_cases hmem : a.id ∈ rows.map SeatAllocation.id
  · obtain ⟨r, hr, hid⟩ := List.mem_map.mp hmem
    obtain rfl : r = a := List.inj_on_of_nodup_map hids (hact r hr).1 ha hid
    simp [hmem, (hact r hr).2, and_comm]
  · simp [hmem]

theorem book_settled {d' : Db} (hids : (d.allocations.map SeatAllocation.id).Nodup)
    (hact : ∀ a ∈ rows, a ∈ d.allocations ∧ a.status.active = true) (h' : NoDoubleBooking d')
    (hd : d'.allocations = d.allocations.map (SeatAllocation.settled rows s)) {v : Uuid × Phase} :
    d'.book seat n = some v ↔ ∃ a ∈ d.allocations, a.covers seat n = true ∧
      (a.id ∈ rows.map SeatAllocation.id → s.active = true) ∧
        (a.bookingId, if a.id ∈ rows.map SeatAllocation.id then s.phase else a.status.phase) = v := by
  rw [h'.book_eq_some, hd]
  constructor
  · rintro ⟨a', ha', hc, hv⟩
    obtain ⟨a, ha, rfl⟩ := List.mem_map.mp ha'
    obtain ⟨hc, hs⟩ := (covers_settled hids hact ha).mp hc
    refine ⟨a, ha, hc, hs, ?_⟩
    rw [← hv, SeatAllocation.settled_bookingId, SeatAllocation.settled_status, apply_ite
      AllocationStatus.phase]
  · rintro ⟨a, ha, hc, hs, hv⟩
    refine ⟨a.settled rows s, List.mem_map_of_mem ha, (covers_settled hids hact ha).mpr ⟨hc, hs⟩, ?_⟩
    rw [← hv, SeatAllocation.settled_bookingId, SeatAllocation.settled_status, apply_ite
      AllocationStatus.phase]

theorem owner_eq_iff (h : NoDoubleBooking d) {a : SeatAllocation} (ha : a ∈ d.allocations)
    (hc : a.covers seat n = true) : (d.book seat n).map Prod.fst = some b ↔ a.bookingId = b := by
  rw [h.book_eq_some.mpr ⟨a, ha, hc, rfl⟩]
  simp

variable {d' : Db} (hids : (d.allocations.map SeatAllocation.id).Nodup)
  (hact : ∀ a ∈ rows, a ∈ d.allocations ∧ a.status.active = true)
  (hrows : ∀ a ∈ rows, a.bookingId = b) (h : NoDoubleBooking d) (h' : NoDoubleBooking d')

include hids hact hrows h h'

theorem book_moved (hd : d'.allocations = d.allocations.map (SeatAllocation.settled rows s)) :
    d'.book seat n = if seat ∈ rows.map SeatAllocation.seatInventoryId ∧
      (d.book seat n).map Prod.fst = some b then (if s.active then some (b, s.phase) else none)
      else d.book seat n := by
  apply Option.ext
  intro v
  rw [book_settled hids hact h' hd]
  split
  · next hin =>
    obtain ⟨hseat, howns⟩ := hin
    have hmoved : ∀ a ∈ d.allocations, a.covers seat n = true →
        a.bookingId = b ∧ a.id ∈ rows.map SeatAllocation.id := by
      intro a ha hc
      have howner := (owner_eq_iff h ha hc).mp howns
      exact ⟨howner, (id_mem_iff hrows hc).mpr ⟨hseat, howner⟩⟩
    constructor
    · rintro ⟨a, ha, hc, hs, rfl⟩
      obtain ⟨howner, hmem⟩ := hmoved a ha hc
      rw [if_pos (hs hmem), if_pos hmem, howner]
    · intro hv
      split at hv
      · next hs =>
        obtain ⟨x, hx, -⟩ := Option.map_eq_some_iff.mp howns
        obtain ⟨a, ha, hc, -⟩ := h.book_eq_some.mp hx
        obtain ⟨howner, hmem⟩ := hmoved a ha hc
        refine ⟨a, ha, hc, fun _ => hs, ?_⟩
        rw [if_pos hmem, howner]
        exact Option.some.inj hv
      · cases hv
  · next hout =>
    rw [h.book_eq_some]
    refine exists_congr fun a => and_congr_right fun ha => and_congr_right fun hc => ?_
    have hnot : a.id ∉ rows.map SeatAllocation.id := by
      intro hmem
      obtain ⟨hseat, howner⟩ := (id_mem_iff hrows hc).mp hmem
      exact hout ⟨hseat, (owner_eq_iff h ha hc).mpr howner⟩
    simp [hnot]

theorem book_confirmed (hd : d'.allocations = d.allocations.map (SeatAllocation.settled rows .confirmed)) :
    d'.book = Op.apply (.confirm b (rows.map SeatAllocation.seatInventoryId)) d.book := by
  funext seat n
  exact book_moved hids hact hrows h h' hd

theorem book_released (hd : d'.allocations = d.allocations.map (SeatAllocation.settled rows .cancelled)) :
    d'.book = Op.apply (.release b (rows.map SeatAllocation.seatInventoryId)) d.book := by
  funext seat n
  exact book_moved hids hact hrows h h' hd

end Settlements

section Operations

variable {rows : List SeatAllocation}

theorem opOf_nothing (hw : t.writes = []) : opOf t = none := by
  rw [opOf, hw]
  rfl

theorem opOf_settled {s : AllocationStatus} {history : List (List SeatAllocationHistory)}
    {k : EventKey} (hw : t.writes = setStatuses rows s ++ history.map .history ++ [.idempotency k]) :
    opOf t = settlement (rows.map (fun a => (a.id, s))) := by
  have hinserted : t.writes.flatMap Write.inserted = [] := by
    rw [hw, List.flatMap_eq_nil_iff]
    intro x hx
    simp only [setStatuses, List.mem_append, List.mem_map, List.mem_singleton] at hx
    obtain (⟨a, -, rfl⟩ | ⟨h, -, rfl⟩) | rfl := hx <;> rfl
  have hhistory : (history.map Write.history).filterMap Write.status? = [] := by
    simp [List.filterMap_eq_nil_iff, Write.status?]
  have hstatuses : t.writes.filterMap Write.status? = rows.map (fun a => (a.id, s)) := by
    rw [hw, List.filterMap_append, List.filterMap_append, hhistory, setStatuses,
      List.filterMap_map, List.append_nil]
    have hsome : Write.status? ∘ (fun a : SeatAllocation => Write.status a.id s) =
        some ∘ fun a => (a.id, s) := rfl
    rw [hsome, List.filterMap_eq_map]
    exact List.append_nil _
  rw [opOf, hinserted, hstatuses]

theorem opOf_held {x : Hold} {created : List SeatAllocationHistory} (hi : Inv w) (hf : x.Found w)
    (hw : t.writes = [.allocations x.rows, .history created,
      .idempotency (.hold x.request.eventId), .outbox (.seatsHeld x.payload)]) :
    (x.rows = [] ∧ opOf t = none) ∨ opOf t = some x.op := by
  have hinserted : t.writes.flatMap Write.inserted = x.rows := by
    rw [hw]
    exact List.append_nil _
  have hseats := hf.rows_seats hi
  cases hrows : x.rows with
  | nil =>
    refine .inl ⟨rfl, ?_⟩
    rw [opOf, hinserted, hrows, hw]
    rfl
  | cons row rest =>
    right
    have hmem : row ∈ x.rows := hrows ▸ List.mem_cons_self
    rw [opOf, hinserted, hrows]
    rw [hrows] at hseats
    dsimp only
    rw [hseats, Hold.rows_bookingId hmem, (Hold.row_segment hmem).1, (Hold.row_segment hmem).2]
    rfl

theorem opsOf_concat (log : List (Call × InventoryTx)) (c : Call) (t : InventoryTx) :
    opsOf (log ++ [(c, t)]) = opsOf log ++ (opOf t).toList := by
  rw [opsOf, List.filterMap_append]
  cases h : opOf t with
  | none => simp [opsOf, h]
  | some op => simp [opsOf, h]

end Operations

/-- The committed transactions are operations on the book that their calls ask for, one after
another, each of them enabled where it is committed. -/
structure KeepsBook (stops : List RouteStop) (log : List (Call × InventoryTx)) (d : Db) : Prop where
  legal : Legal (opsOf log) d.book
  requested : ∀ entry ∈ log, ∀ op, opOf entry.2 = some op → Requested stops entry.1 op

/-- What a commit does to the book. -/
inductive BookStep (stops : List RouteStop) (c : Call) (t : InventoryTx) (b b' : Book Id Uuid) : Prop
  | same (op : opOf t = none) (book : b' = b)
  | op {op : Op Id Uuid} (op_eq : opOf t = some op) (requested : Requested stops c op)
      (enabled : op.Enabled b) (book : b' = op.apply b)

theorem Commit.bookStep (h : Commit T c t w) (hi : Inv w) (hno : NoDoubleBooking w.db)
    (hno' : NoDoubleBooking (t.view w.db)) :
    BookStep w.db.stops c t w.db.book (t.view w.db).book := by
  cases h with
  | holdDuplicate _ _ hw | confirmDuplicate _ _ _ hw | cancelDuplicate _ _ _ hw =>
    exact .same (opOf_nothing hw) (by rw [view_nothing hw])
  | failed _ _ hw =>
    exact .same (by rw [opOf, hw]; rfl) (book_congr (view_failed hw w.db).1)
  | held x created hrequest _ hf hfree _ _ _ _ hw =>
    have hallocations := (view_held hw w.db).1
    obtain ⟨hrows, hnone⟩ | hsome := opOf_held hi hf hw
    · refine .same hnone (book_congr ?_)
      rw [hallocations, hrows, List.append_nil]
    · exact .op hsome (.hold hrequest hf.segment) (Hold.enabled hi hf hfree)
        (Hold.book hi hf hfree hallocations)
  | @confirmed e _ _ rows history hconfirms _ hheld _ hw =>
    have hallocations := (view_settled hw w.db).1
    have hact : ∀ a ∈ rows, a ∈ w.db.allocations ∧ a.status.active = true := by
      intro a ha
      refine ⟨(hheld a ha).1, ?_⟩
      rw [(hheld a ha).2.2]
      rfl
    have hrows : ∀ a ∈ rows, a.bookingId = e.bookingId := fun a ha => (hheld a ha).2.1
    have hbook := book_confirmed hi.ids hact hrows hno hno' hallocations
    have hop := opOf_settled hw
    cases hr : rows with
    | nil =>
      rw [hr] at hop hbook
      exact .same hop (hbook.trans (Op.apply_confirm_nil _ _))
    | cons row rest =>
      have hfirst : row.bookingId = e.bookingId := hrows row (hr ▸ List.mem_cons_self)
      have hseats : (rows.map (fun a => (a.id, AllocationStatus.confirmed))).map
          (fun y => y.1.seatInventoryId) = rows.map SeatAllocation.seatInventoryId := by
        rw [List.map_map]
        rfl
      have hsome : opOf t = some (.confirm e.bookingId (rows.map SeatAllocation.seatInventoryId)) := by
        rw [hop, ← hseats, hr, ← hfirst]
        rfl
      refine .op hsome (.confirm hconfirms) ?_ hbook
      intro seat hseat n phase hb
      obtain ⟨a, ha, hc, hv⟩ := hno.book_eq_some.mp hb
      have howner : a.bookingId = e.bookingId := congrArg Prod.fst hv
      obtain ⟨r, hrmem, hid⟩ := List.mem_map.mp ((id_mem_iff hrows hc).mpr ⟨hseat, howner⟩)
      obtain rfl : r = a := List.inj_on_of_nodup_map hi.ids (hheld r hrmem).1 ha hid
      have hphase : r.status.phase = phase := congrArg Prod.snd hv
      rw [← hphase, (hheld r hrmem).2.2]
      rfl
  | @cancelled e _ _ rows history hcancels _ hactive hw =>
    have hallocations := (view_settled hw w.db).1
    have hact : ∀ a ∈ rows, a ∈ w.db.allocations ∧ a.status.active = true := fun a ha =>
      ⟨(hactive a ha).1, (hactive a ha).2.2⟩
    have hrows : ∀ a ∈ rows, a.bookingId = e.bookingId := fun a ha => (hactive a ha).2.1
    have hbook := book_released hi.ids hact hrows hno hno' hallocations
    have hop := opOf_settled hw
    cases hr : rows with
    | nil =>
      rw [hr] at hop hbook
      exact .same hop (hbook.trans (Op.apply_release_nil _ _))
    | cons row rest =>
      have hfirst : row.bookingId = e.bookingId := hrows row (hr ▸ List.mem_cons_self)
      have hseats : (rows.map (fun a => (a.id, AllocationStatus.cancelled))).map
          (fun y => y.1.seatInventoryId) = rows.map SeatAllocation.seatInventoryId := by
        rw [List.map_map]
        rfl
      have hsome : opOf t = some (.release e.bookingId (rows.map SeatAllocation.seatInventoryId)) := by
        rw [hop, ← hseats, hr, ← hfirst]
        rfl
      exact .op hsome (.release hcancels) trivial hbook

theorem keeps_book (S : Scope machine) (stops : List RouteStop) : Keeps (discipline T) S
    (fun w => w.db.stops = stops ∧ NoDoubleBooking w.db ∧ KeepsBook stops w.log w.db) where
  commit w c t hi hp hc hv hs h := by
    obtain ⟨hstops, hno, hbook⟩ := h
    have hno' : NoDoubleBooking (t.view w.db) :=
      (keeps_noDoubleBooking S).commit w c t hi hp hc hv hs hno
    refine ⟨(commit_stops w c t).trans hstops, hno', ?_⟩
    have hstep := hc.bookStep hi hno hno'
    rw [hstops] at hstep
    cases hstep with
    | same hop hsame =>
      refine ⟨?_, fun entry hentry op heq => ?_⟩
      · change Legal (opsOf (w.log ++ [(c, t)])) (t.view w.db).book
        rw [opsOf_concat, hop, Option.toList_none, List.append_nil, hsame]
        exact hbook.legal
      · obtain hentry | hentry := List.mem_append.mp hentry
        · exact hbook.requested entry hentry op heq
        · rw [List.mem_singleton.mp hentry, hop] at heq
          cases heq
    | op hop hrequested henabled happly =>
      refine ⟨?_, fun entry hentry op heq => ?_⟩
      · change Legal (opsOf (w.log ++ [(c, t)])) (t.view w.db).book
        rw [opsOf_concat, hop, Option.toList_some, happly]
        exact hbook.legal.concat henabled
      · obtain hentry | hentry := List.mem_append.mp hentry
        · exact hbook.requested entry hentry op heq
        · rw [List.mem_singleton.mp hentry] at heq ⊢
          cases hop.symm.trans heq
          exact hrequested
  drift _ _ _ h := h

theorem reachable_book {P : Projection} {now : Nat} {p : Pool machine}
    (h : Reachable (Scope.calls fun _ => True) (start P now) p) :
    NoDoubleBooking p.world.db ∧ KeepsBook P.stops p.world.log p.world.db := by
  have hS : (Scope.calls (M := machine) fun _ => True).Within (discipline .free) := by
    refine ⟨fun c w _ => ⟨fun r _ r' hr => ?_, False.elim⟩, fun _ _ _ _ _ => trivial⟩
    cases hr
  have hstart : KeepsBook P.stops [] P.db :=
    ⟨.nil, fun entry hentry => absurd hentry List.not_mem_nil⟩
  exact (reachable_keeps hS h (keeps_book _ P.stops) ⟨rfl, List.Pairwise.nil, hstart⟩).2

/-- Every run of holds, confirmations and cancellations is one of operations on a book of seats,
each made in one step where it is allowed, and each asked for by its call. -/
theorem keepsBook_of_reachable {P : Projection} {now : Nat} {p : Pool machine}
    (h : Reachable (Scope.calls fun _ => True) (start P now) p) :
    KeepsBook P.stops p.world.log p.world.db :=
  (reachable_book h).2

section Legs

variable {P : Projection} {now : Nat} {p : Pool machine} {b : Uuid}

/-- A booking has a leg of a seat exactly when a committed request of its own took the leg, and no
transaction committed since has released the seat of the booking. -/
theorem leg_allocated_iff (h : Reachable (Scope.calls fun _ => True) (start P now) p) :
    (∃ a ∈ p.world.db.allocations, a.bookingId = b ∧ a.covers seat n = true) ↔
      ∃ before c t after r segment, p.world.log = before ++ (c, t) :: after ∧
        c.request? = some r ∧ r.bookingId = b ∧ seat ∈ r.seatInventoryIds ∧
        resolvedSegment P.stops r = some segment ∧ segment.fromStop.sequenceNumber ≤ n ∧
        n < segment.toStop.sequenceNumber ∧
        opOf t = some (.hold b r.seatInventoryIds segment.fromStop.sequenceNumber
          segment.toStop.sequenceNumber) ∧
        ∀ later ∈ after, ∀ seats, seat ∈ seats → opOf later.2 ≠ some (.release b seats) := by
  obtain ⟨hno, hlegal, hrequested⟩ := reachable_book h
  have howner : (∃ a ∈ p.world.db.allocations, a.bookingId = b ∧ a.covers seat n = true) ↔
      (p.world.db.book seat n).map Prod.fst = some b := by
    rw [Option.map_eq_some_iff]
    constructor
    · rintro ⟨a, ha, rfl, hc⟩
      exact ⟨_, hno.book_eq_some.mpr ⟨a, ha, hc, rfl⟩, rfl⟩
    · rintro ⟨v, hv, rfl⟩
      obtain ⟨a, ha, hc, rfl⟩ := hno.book_eq_some.mp hv
      exact ⟨a, ha, rfl, hc⟩
  rw [howner, hlegal.owner_iff, opsOf, keeps_filterMap]
  constructor
  · rintro ⟨before, ⟨c, t⟩, after, seats, first, last, hlog, hop, hseat, hfirst, hlast, hlater⟩
    have hmem : (c, t) ∈ p.world.log := by
      rw [hlog]
      exact List.mem_append_right _ List.mem_cons_self
    obtain @⟨r, segment, hrequest, hresolved⟩ := hrequested _ hmem _ hop
    exact ⟨before, c, t, after, r, segment, hlog, hrequest, rfl, hseat, hresolved, hfirst, hlast,
      hop, hlater⟩
  · rintro ⟨before, c, t, after, r, segment, hlog, -, -, hseat, -, hfirst, hlast, hop, hlater⟩
    exact ⟨before, (c, t), after, r.seatInventoryIds, _, _, hlog, hop, hseat, hfirst, hlast, hlater⟩

end Legs

section Runs

/-- Of two holds of one leg the first is made; it is confirmed and released before the other booking
takes the seat. -/
theorem exists_handedOver : ∃ p,
    Reachable (Scope.calls fun _ => True) (start sampleProjection 0) p ∧
      opsOf p.world.log = [.hold ⟨8, 0⟩ [11] 1 3, .confirm ⟨8, 0⟩ [11], .release ⟨8, 0⟩ [11],
        .hold ⟨9, 0⟩ [11] 2 3] ∧
      ∃ a ∈ p.world.db.allocations, a.bookingId = ⟨9, 0⟩ ∧ a.covers 11 2 = true := by
  obtain ⟨p, hp, ht⟩ := exists_reachable (Scope.calls (M := machine) fun _ => True)
    (start sampleProjection 0) (fun _ _ => true)
    [.call (.holdSeats (sampleHold ⟨8, 0⟩ 1 3)), .call (.holdSeats (sampleHold ⟨9, 0⟩ 2 3)),
      .burst 0 11, .burst 1 30, .burst 0 30, .burst 1 30,
      .call (.confirmSeats ⟨.random ⟨1, 1⟩, ⟨8, 0⟩⟩), .burst 2 30,
      .call (.cancelSeats ⟨.random ⟨2, 1⟩, ⟨8, 0⟩⟩), .burst 3 30,
      .call (.holdSeats (sampleHold ⟨9, 0⟩ 2 3)), .burst 4 30]
    (fun p => decide (opsOf p.world.log = [.hold ⟨8, 0⟩ [11] 1 3, .confirm ⟨8, 0⟩ [11],
      .release ⟨8, 0⟩ [11], .hold ⟨9, 0⟩ [11] 2 3] ∧
      ∃ a ∈ p.world.db.allocations, a.bookingId = ⟨9, 0⟩ ∧ a.covers 11 2 = true))
    (fun p a _ => permits_calls p a) (by simp) (by decide +kernel)
  exact ⟨p, hp, of_decide_eq_true ht⟩

theorem keepsBook_handedOver : ∃ p,
    Reachable (Scope.calls fun _ => True) (start sampleProjection 0) p ∧
      KeepsBook sampleProjection.stops p.world.log p.world.db := by
  obtain ⟨p, hp, -⟩ := exists_handedOver
  exact ⟨p, hp, keepsBook_of_reachable hp⟩

theorem leg_allocated_handedOver : ∃ p,
    Reachable (Scope.calls fun _ => True) (start sampleProjection 0) p ∧
      ∃ before c t after r, p.world.log = before ++ (c, t) :: after ∧ c.request? = some r ∧
        r.bookingId = ⟨9, 0⟩ ∧ 11 ∈ r.seatInventoryIds := by
  obtain ⟨p, hp, -, hleg⟩ := exists_handedOver
  obtain ⟨before, c, t, after, r, _, hlog, hrequest, hbooking, hseat, -⟩ :=
    (leg_allocated_iff hp).mp hleg
  exact ⟨p, hp, before, c, t, after, r, hlog, hrequest, hbooking, hseat⟩

end Runs

end RailwayBooking.InventoryService
