import Mathlib.Data.List.Dedup
import RailwayBooking.InventoryService.HoldReplies

namespace RailwayBooking.InventoryService

open Concurrency

/-- The allocations of a booking. -/
def Db.allocationsOf (d : Db) (b : Uuid) : List SeatAllocation :=
  d.allocations.filter (fun a => a.bookingId = b)

def Db.repliesOf (d : Db) (b : Uuid) : List OutboxEvent := d.outbox.filter (OutboxEvent.isHeld b)

/-- Allocations, the entries of a reply and the seats of its request correspond one to
one, with one price for each seat, on the segment that the stops give for the request. -/
structure Corresponds (stops : List RouteStop) (r : HoldSeatsRequested) (e : SeatsHeld)
    (rows : List SeatAllocation) : Prop where
  seats : (rows.map SeatAllocation.seatInventoryId).Perm r.seatInventoryIds.dedup
  entries : (e.allocations.map (fun x => (x.seatInventoryId, x.price))).Perm
    (rows.map (fun a => (a.seatInventoryId, a.price)))
  segment : ∃ s, resolvedSegment stops r = some s ∧ ∀ a ∈ rows,
    a.fromStationId = s.fromStop.stationId ∧ a.toStationId = s.toStop.stationId ∧
      a.fromSequence = s.fromStop.sequenceNumber ∧ a.toSequence = s.toStop.sequenceNumber

/-- A booking has allocations when it has a reply of success, and they are what the
reply to its request says. -/
structure ExactHold (stops : List RouteStop) (r : HoldSeatsRequested) (d : Db) : Prop where
  replied : (∃ a ∈ d.allocations, a.bookingId = r.bookingId) ↔
    ∃ e, .seatsHeld e ∈ d.outbox ∧ e.bookingId = r.bookingId
  exact : ∀ e, .seatsHeld e ∈ d.outbox → e.bookingId = r.bookingId →
    Corresponds stops r e (d.allocationsOf r.bookingId)

/-- The one request of each booking, for one seat at least. -/
structure Requests where
  requestOf : Uuid → HoldSeatsRequested
  booking : ∀ b, (requestOf b).bookingId = b
  seats : ∀ b, (requestOf b).seatInventoryIds ≠ []

/-- A call that asks for seats delivers the request of its booking. -/
def Asks (R : Requests) (c : Call) : Prop :=
  ∀ r, c.request? = some r → r = R.requestOf r.bookingId

def Requests.terms (R : Requests) : Terms := ⟨fun b => some (R.requestOf b), False⟩

/-- The allocation as its hold inserted it. -/
def SeatAllocation.inserted (a : SeatAllocation) : SeatAllocation := { a with status := .held }

/-- A booking has no allocation and no reply, or those of one hold that is recorded. -/
inductive Standing (r : HoldSeatsRequested) (w : InventoryWorld) : Prop
  | unheld (rows : w.db.allocationsOf r.bookingId = []) (replies : w.db.repliesOf r.bookingId = [])
  | held (x : Hold) (request : x.request = r) (found : x.Found w)
      (key : Recorded (.hold r.eventId) w)
      (rows : (w.db.allocationsOf r.bookingId).map SeatAllocation.inserted = x.rows)
      (replies : w.db.repliesOf r.bookingId = [.seatsHeld x.payload])

section Rows

variable {x : Hold} {w : InventoryWorld}

theorem Hold.Found.nodup_ids (hf : x.Found w) (hi : Inv w) :
    (x.seats.map SeatInventory.id).Nodup := by
  rw [hf.seats]
  exact hi.seats.sublist (List.filter_sublist.map _)

theorem Hold.Found.perm (hf : x.Found w) (hi : Inv w) :
    (x.seats.map SeatInventory.id).Perm x.request.seatInventoryIds := by
  apply (List.subperm_of_subset (hf.nodup_ids hi) ?_).perm_of_length_le
  · rw [List.length_map, hf.all]
  · intro k hk
    obtain ⟨s, hs, rfl⟩ := List.mem_map.mp hk
    rw [hf.seats, List.mem_filter] at hs
    simpa using (Bool.and_eq_true_iff.mp hs.2).2

theorem seatsInOrder_ids (hf : x.Found w) (hi : Inv w) :
    (seatsInOrder x.request x.seats).map SeatInventory.id = x.request.seatInventoryIds := by
  have hfind : ∀ k ∈ x.request.seatInventoryIds,
      (x.seats.find? (fun s => s.id = k)).map SeatInventory.id = some k := by
    intro k hk
    obtain ⟨s, hs, rfl⟩ := List.mem_map.mp ((hf.perm hi).mem_iff.mpr hk)
    cases hfound : x.seats.find? (fun s' => s'.id = s.id) with
    | none => simpa using List.find?_eq_none.mp hfound s hs
    | some s' =>
      have hid : s'.id = s.id := by simpa using List.find?_some hfound
      rw [Option.map_some, hid]
  unfold seatsInOrder
  generalize x.request.seatInventoryIds = ids at hfind
  induction ids with
  | nil => rfl
  | cons k ids ih =>
    obtain ⟨s, hs, hk⟩ := Option.map_eq_some_iff.mp (hfind k List.mem_cons_self)
    have htail := ih fun k' hk' => hfind k' (List.mem_cons_of_mem _ hk')
    rw [List.filterMap_cons, hs, List.map_cons, hk, htail]

theorem Hold.rows_inserted {a : SeatAllocation} (h : a ∈ x.rows) : a.inserted = a := by
  rw [SeatAllocation.inserted, ← Hold.rows_status h]

theorem corresponds_rows (hf : x.Found w) (hi : Inv w) {rows : List SeatAllocation}
    (hrows : rows.map SeatAllocation.inserted = x.rows) :
    Corresponds w.db.stops x.request x.payload rows := by
  have hmap : ∀ {β : Type} (f : SeatAllocation → β), (∀ a, f a.inserted = f a) →
      rows.map f = x.rows.map f := by
    intro β f hf
    rw [← hrows, List.map_map]
    exact List.map_congr_left fun a _ => (hf a).symm
  refine ⟨?_, ?_, x.segment, hf.segment, fun a ha => ?_⟩
  · have hids : x.request.seatInventoryIds.Nodup := (hf.perm hi).nodup_iff.mp (hf.nodup_ids hi)
    rw [hmap _ fun _ => rfl, hids.dedup, ← seatsInOrder_ids hf hi, Hold.rows, allocationRows,
      List.map_map]
    exact List.Perm.refl _
  · rw [hmap _ fun _ => rfl, Hold.rows, allocationRows, Hold.payload, heldPayload, List.map_map,
      List.map_map]
    exact List.Perm.refl _
  · have hmem : a.inserted ∈ x.rows := hrows ▸ List.mem_map_of_mem ha
    obtain ⟨s, -, -, he⟩ := Hold.mem_rows hmem
    exact ⟨congrArg SeatAllocation.fromStationId he, congrArg SeatAllocation.toStationId he,
      congrArg SeatAllocation.fromSequence he, congrArg SeatAllocation.toSequence he⟩

end Rows

section Standing

variable {R : Requests} {r : HoldSeatsRequested} {c : Call} {t : InventoryTx}
  {w : InventoryWorld}

theorem Standing.commit (h : Standing r w) (c : Call)
    (hrows : ((t.view w.db).allocationsOf r.bookingId).map SeatAllocation.inserted =
      (w.db.allocationsOf r.bookingId).map SeatAllocation.inserted)
    (hreplies : (t.view w.db).repliesOf r.bookingId = w.db.repliesOf r.bookingId) :
    Standing r (w.commit c t) := by
  cases h with
  | unheld hr hp =>
    rw [hr] at hrows
    exact .unheld (List.map_eq_nil_iff.mp hrows) (hreplies.trans hp)
  | held x hx hf hk hr hp =>
    refine .held x hx ⟨?_, ?_, hf.all⟩ (hk.commit c t) (hrows.trans hr) (hreplies.trans hp)
    · rw [commit_stops]
      exact hf.segment
    · rw [commit_seats]
      exact hf.seats

theorem allocationsOf_settled {as rows : List SeatAllocation} {s : AllocationStatus} {b : Uuid} :
    (((as.map (SeatAllocation.settled rows s)).filter (fun a => a.bookingId = b)).map
      SeatAllocation.inserted) =
        (as.filter (fun a => a.bookingId = b)).map SeatAllocation.inserted := by
  have hins : ∀ a : SeatAllocation, (a.settled rows s).inserted = a.inserted := by
    intro a
    unfold SeatAllocation.settled
    split <;> rfl
  induction as with
  | nil => rfl
  | cons a as ih => by_cases hb : a.bookingId = b <;> simp [hb, hins, ih]

theorem Hold.allocationsOf_rows (x : Hold) (b : Uuid) :
    x.rows.filter (fun a => a.bookingId = b) = if x.request.bookingId = b then x.rows else [] := by
  split
  · next hb =>
    rw [List.filter_eq_self]
    intro a ha
    simpa [Hold.rows_bookingId ha] using hb
  · next hb =>
    rw [List.filter_eq_nil_iff]
    intro a ha
    simpa [Hold.rows_bookingId ha] using hb

theorem standing_held {x : Hold} (h : Standing x.request w) (hf : x.Found w)
    (hkey : ¬ Recorded (.hold x.request.eventId) w)
    (hdb : (t.view w.db).allocations = w.db.allocations ++ x.rows ∧
      (t.view w.db).idempotency = w.db.idempotency ++ [.hold x.request.eventId] ∧
      (t.view w.db).outbox = w.db.outbox ++ [.seatsHeld x.payload]) :
    Standing x.request (w.commit c t) := by
  obtain ⟨has, hids, hout⟩ := hdb
  cases h with
  | held x' _ _ hk => exact absurd hk hkey
  | unheld hrows hreplies =>
    refine .held x rfl ⟨?_, ?_, hf.all⟩ ?_ ?_ ?_
    · rw [commit_stops]
      exact hf.segment
    · rw [commit_seats]
      exact hf.seats
    · change _ ∈ (t.view w.db).idempotency
      rw [hids]
      exact List.mem_append_right _ (List.mem_singleton_self _)
    · change ((t.view w.db).allocations.filter _).map _ = _
      change w.db.allocations.filter _ = _ at hrows
      rw [has, List.filter_append, hrows, List.nil_append, Hold.allocationsOf_rows, if_pos rfl]
      exact (List.map_congr_left fun a ha => Hold.rows_inserted ha).trans (List.map_id _)
    · change (t.view w.db).outbox.filter _ = _
      change w.db.outbox.filter _ = _ at hreplies
      rw [hout, List.filter_append, hreplies, List.nil_append]
      exact List.filter_eq_self.mpr fun e he => by
        rw [List.mem_singleton.mp he]
        exact decide_eq_true rfl

theorem keeps_standing (S : Scope machine) (b : Uuid) :
    Keeps (discipline R.terms) S (Standing (R.requestOf b)) where
  commit w c t _ hp hc _ _ h := by
    cases hc with
    | holdDuplicate _ _ hw | confirmDuplicate _ _ _ hw | cancelDuplicate _ _ _ hw =>
      have hv := view_nothing hw w.db
      exact h.commit c (by rw [hv]) (by rw [hv])
    | held x created hreq _ hf _ _ _ _ hkey hw =>
      obtain ⟨has, hids, hout⟩ := view_held hw w.db
      have hx : x.request = R.requestOf x.request.bookingId := hp.1 _ hreq _ rfl
      have hb := R.booking b
      by_cases hxb : x.request.bookingId = b
      · rw [hxb] at hx
        rw [← hx] at h ⊢
        exact standing_held h hf hkey ⟨has, hids, hout⟩
      · refine h.commit c ?_ ?_
        · rw [Db.allocationsOf, has, List.filter_append, Hold.allocationsOf_rows, hb, if_neg hxb,
            List.append_nil]
          rfl
        · rw [Db.repliesOf, hout, List.filter_append, hb]
          have hno : OutboxEvent.isHeld b (.seatsHeld x.payload) = false := decide_eq_false hxb
          simp [hno, Db.repliesOf]
    | failed _ _ hw =>
      obtain ⟨has, -, hout⟩ := view_failed hw w.db
      refine h.commit c (by rw [Db.allocationsOf, has]; rfl) ?_
      rw [Db.repliesOf, hout, List.filter_append]
      simp [OutboxEvent.isHeld, Db.repliesOf]
    | confirmed rows history _ _ _ _ hw | cancelled rows history _ _ _ hw =>
      obtain ⟨has, -, hout⟩ := view_settled hw w.db
      refine h.commit c ?_ (by rw [Db.repliesOf, hout]; rfl)
      rw [Db.allocationsOf, has]
      exact allocationsOf_settled
  drift w e _ h := by
    cases h with
    | unheld hr hp => exact .unheld hr hp
    | held x hx hf hk hr hp => exact .held x hx ⟨hf.segment, hf.seats, hf.all⟩ hk hr hp

theorem Standing.exactHold (h : Standing r w) (hi : Inv w) (hseats : r.seatInventoryIds ≠ []) :
    ExactHold w.db.stops r w.db := by
  have hrows : ∀ a, a ∈ w.db.allocationsOf r.bookingId ↔
      a ∈ w.db.allocations ∧ a.bookingId = r.bookingId := by
    simp [Db.allocationsOf]
  have hreplies : ∀ e, .seatsHeld e ∈ w.db.repliesOf r.bookingId ↔
      .seatsHeld e ∈ w.db.outbox ∧ e.bookingId = r.bookingId := by
    simp [Db.repliesOf, OutboxEvent.isHeld]
  cases h with
  | unheld hr hp =>
    constructor
    · constructor
      · rintro ⟨a, ha⟩
        have hmem := (hrows a).mpr ha
        rw [hr] at hmem
        cases hmem
      · rintro ⟨e, he⟩
        have hmem := (hreplies e).mpr he
        rw [hp] at hmem
        cases hmem
    · intro e he hb
      have hmem := (hreplies e).mpr ⟨he, hb⟩
      rw [hp] at hmem
      cases hmem
  | held x hx hf _ hr hp =>
    subst hx
    have hcorr := corresponds_rows hf hi hr
    constructor
    · constructor
      · intro _
        refine ⟨x.payload, (hreplies _).mp ?_⟩
        rw [hp]
        exact List.mem_singleton_self _
      · intro _
        cases hall : w.db.allocationsOf x.request.bookingId with
        | nil =>
          have hperm := hcorr.seats
          rw [hall] at hperm
          exact absurd ((List.dedup_eq_nil _).mp hperm.nil_eq.symm) hseats
        | cons a as => exact ⟨a, (hrows a).mp (hall ▸ List.mem_cons_self)⟩
    · intro e he hb
      have hmem := (hreplies e).mpr ⟨he, hb⟩
      rw [hp] at hmem
      cases List.mem_singleton.mp hmem
      exact hcorr

end Standing

/-- Whatever holds are delivered, and whatever fails, a booking has the allocations that
the reply to its request says, and none without the reply. -/
theorem exactHold_of_asks {P : Projection} {now : Nat} {R : Requests} {p : Pool machine}
    (h : Reachable (Scope.calls (Asks R)) (start P now) p) (b : Uuid) :
    ExactHold P.stops (R.requestOf b) p.world.db := by
  have hS : (Scope.calls (M := machine) (Asks R)).Within (discipline R.terms) := by
    refine ⟨fun c w hc => ⟨fun r hr r' hr' => ?_, False.elim⟩, fun _ _ _ _ _ => trivial⟩
    rw [hc r hr]
    exact Option.some.inj hr'
  have hinv : Inv p.world := reachable_keeps hS h (lasting_inv.keeps _) (inv_start P now)
  have hstops : p.world.db.stops = P.stops :=
    reachable_keeps hS h ((lasting_stops P.stops).keeps _) rfl
  have hstanding : Standing (R.requestOf b) p.world :=
    reachable_keeps hS h (keeps_standing _ b) (.unheld rfl rfl)
  rw [← hstops]
  exact hstanding.exactHold hinv (R.seats b)

section Runs

def sampleRequests : Requests where
  requestOf b := { sampleHold b 1 3 with seatInventoryIds := [12, 11] }
  booking _ := rfl
  seats _ := List.cons_ne_nil _ _

set_option maxRecDepth 20000 in
/-- A request that is delivered twice, with one of another booking for the same seats. -/
theorem exactHold_redelivered : ∃ p,
    Reachable (Scope.calls (Asks sampleRequests)) (start sampleProjection 0) p ∧
      (p.world.db.allocationsOf ⟨8, 0⟩).length = 2 ∧
      ∀ b, ExactHold sampleProjection.stops (sampleRequests.requestOf b) p.world.db := by
  obtain ⟨p, hp, ht⟩ := exists_reachable (Scope.calls (M := machine) (Asks sampleRequests))
    (start sampleProjection 0) (fun _ _ => true)
    [.call (.holdSeats (sampleRequests.requestOf ⟨8, 0⟩)), .burst 0 40,
      .call (.holdSeats (sampleRequests.requestOf ⟨8, 0⟩)),
      .call (.holdSeats (sampleRequests.requestOf ⟨9, 0⟩)), .burst 1 40, .burst 2 40]
    (fun p => decide ((p.world.db.allocationsOf ⟨8, 0⟩).length = 2))
    (fun p a _ => permits_calls p a)
    (by simp [Asks, Call.request?, Move.started, sampleRequests, sampleHold]) (by decide)
  exact ⟨p, hp, of_decide_eq_true ht, fun b => exactHold_of_asks hp b⟩

end Runs

end RailwayBooking.InventoryService
