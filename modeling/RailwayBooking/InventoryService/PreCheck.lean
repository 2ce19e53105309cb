import RailwayBooking.Concurrency.Alone
import RailwayBooking.InventoryService.Commits
import RailwayBooking.InventoryService.SeatMap

namespace RailwayBooking.InventoryService

open Concurrency

section Resolution

variable {i : Nat} {c : Call} {σ : Shared inventoryService Call} {event : HoldSeatsRequested}

theorem ends_findBySequence (sequenceNumber : Nat) :
    Ends i c (findBySequence event sequenceNumber) σ
      (.ok (stopBySequence σ.world.db.stops event sequenceNumber)) σ := by
  unfold findBySequence stopBySequence
  split
  · exact ends_read rfl
  · exact ends_ret _

theorem ends_orByStation (stop : Option RouteStop) (stationId : Id) :
    Ends i c (orByStation event stop stationId) σ
      (.ok (stopByStation σ.world.db.stops event stop stationId)) σ := by
  cases stop with
  | some stop => exact ends_ret _
  | none => exact ends_read rfl

theorem ends_resolveSegmentStops :
    Ends i c (resolveSegmentStops event) σ (.ok (resolvedSegment σ.world.db.stops event)) σ :=
  (ends_findBySequence _).bind ((ends_findBySequence _).bind
    ((ends_orByStation _ _).bind ((ends_orByStation _ _).bind (ends_ret _))))

/-- On these tables the hold resolves its two stations to their stops, in order. -/
structure Resolves (d : Db) (event : HoldSeatsRequested) (segment : Segment) : Prop where
  ends : ∀ (i : Nat) (c : Call) (σ : Shared inventoryService Call), σ.world.db = d →
    Ends i c (resolveSegmentStops event) σ (.ok (some segment)) σ
  fromStation : segment.fromStop.stationId = event.fromStaionId
  toStation : segment.toStop.stationId = event.toStationId
  order : segment.fromStop.sequenceNumber < segment.toStop.sequenceNumber

theorem resolves_iff {d : Db} {segment : Segment} : Resolves d event segment ↔
    resolvedSegment d.stops event = some segment ∧
      segment.fromStop.stationId = event.fromStaionId ∧
      segment.toStop.stationId = event.toStationId ∧
      segment.fromStop.sequenceNumber < segment.toStop.sequenceNumber := by
  constructor
  · intro h
    have hends := h.ends 0 (.holdSeats event) (Pool.init (M := machine) d ⟨0, .empty⟩).shared rfl
    have hsame := Option.some.inj (hends.symm.trans ends_resolveSegmentStops)
    have hsegment := Except.ok.inj (Prod.mk.inj hsame).1
    exact ⟨hsegment.symm, h.fromStation, h.toStation, h.order⟩
  · rintro ⟨hsegment, hfrom, hto, horder⟩
    refine ⟨fun i c σ hσ => ?_, hfrom, hto, horder⟩
    rw [← hsegment, ← hσ]
    exact ends_resolveSegmentStops

end Resolution

section PreCheck

variable {toUpperCase : String → String} {d : ReadDb} {now : Nat} {event : HoldSeatsRequested}
  {clientRequestedAt : Option Nat}

/-- The stop of a station, found by its id. -/
def ReadDb.stopOf (d : ReadDb) (scheduleId stationId : Id) : Option RouteStop :=
  d.toDb.stops.find? (fun s => s.scheduleId = scheduleId ∧ s.stationId = stationId)

/-- The schedule is active and the request is not later than its departure allows. -/
def Open (d : ReadDb) (now : Nat) (scheduleId : Id) (clientRequestedAt : Option Nat) : Prop :=
  ∃ schedule, d.schedules scheduleId = some schedule ∧ schedule.status = .active ∧
    clientRequestedAt.getD now ≤ schedule.departureDate + toleranceMs

/-- Both stations are stops, but not in the order of the request, or another station
stands at the sequence number that is sent when the client gives none. -/
def Misordered (d : ReadDb) (event : HoldSeatsRequested) : Prop :=
  ∃ fromStop ∈ d.stopOf event.scheduleId event.fromStaionId,
    ∃ toStop ∈ d.stopOf event.scheduleId event.toStationId,
      toStop.sequenceNumber ≤ fromStop.sequenceNumber ∨
        ∃ stop ∈ d.toDb.stops, stop.scheduleId = event.scheduleId ∧
          stop.sequenceNumber = maxPostgresInt ∧ stop.stationId ≠ event.toStationId

/-- A station is not a stop, but two stops bear the ids or the codes that were given. -/
def Misnamed (toUpperCase : String → String) (d : ReadDb) (event : HoldSeatsRequested) : Prop :=
  (d.stopOf event.scheduleId event.fromStaionId = none ∨
    d.stopOf event.scheduleId event.toStationId = none) ∧
    2 ≤ (findStopsByScheduleAndStations toUpperCase d event.scheduleId
      [toString event.fromStaionId, toString event.toStationId]).length

theorem validateBooking_ok_iff {scheduleId : Id} {fromStationId toStationId : String} :
    (validateBooking toUpperCase d now scheduleId fromStationId toStationId clientRequestedAt).1 =
      .ok ↔ Open d now scheduleId clientRequestedAt ∧
        2 ≤ (findStopsByScheduleAndStations toUpperCase d scheduleId
          [fromStationId, toStationId]).length := by
  unfold validateBooking Open
  cases hschedule : d.schedules scheduleId with
  | none => simp
  | some schedule =>
    by_cases hactive : schedule.status = .active
    · by_cases htwo : (findStopsByScheduleAndStations toUpperCase d scheduleId
        [fromStationId, toStationId]).length < 2
      · simp [hactive, htwo]
      · by_cases hlate : clientRequestedAt.getD now > schedule.departureDate + toleranceMs
        · simp [hactive, htwo, hlate]
        · simp only [hactive, htwo, hlate]
          simp [not_lt.mp htwo, not_lt.mp hlate, hactive]
    · simp [hactive]

theorem two_le_length {α : Type} {l : List α} {x y : α} (hx : x ∈ l) (hy : y ∈ l) (h : x ≠ y) :
    2 ≤ l.length := by
  obtain _ | ⟨a, _ | ⟨b, l⟩⟩ := l
  · cases hx
  · rw [List.mem_singleton.mp hx, List.mem_singleton.mp hy] at h
    exact absurd rfl h
  · simp

theorem stopOf_spec {scheduleId stationId : Id} {stop : RouteStop}
    (h : d.stopOf scheduleId stationId = some stop) :
    stop ∈ d.toDb.stops ∧ stop.scheduleId = scheduleId ∧ stop.stationId = stationId := by
  unfold ReadDb.stopOf at h
  have hkey := List.find?_some h
  exact ⟨List.mem_of_find?_eq_some h, of_decide_eq_true hkey⟩

theorem mem_findStops (toUpperCase : String → String) {scheduleId stationId : Id}
    {stop : RouteStop} {stations : List String}
    (h : d.stopOf scheduleId stationId = some stop) (hs : toString stationId ∈ stations) :
    ∃ row ∈ findStopsByScheduleAndStations toUpperCase d scheduleId stations,
      row.stationId = stationId := by
  obtain ⟨hmem, hkey⟩ := stopOf_spec h
  obtain ⟨row, hrow, rfl⟩ := List.mem_map.mp hmem
  refine ⟨row, List.mem_filter.mpr ⟨hrow, ?_⟩, hkey.2⟩
  rw [Bool.and_eq_true, Bool.or_eq_true]
  refine ⟨decide_eq_true hkey.1, .inl ?_⟩
  rw [hkey.2]
  exact List.contains_iff_mem.mpr hs

theorem two_le_findStops {fromStop toStop : RouteStop}
    (hdistinct : event.fromStaionId ≠ event.toStationId)
    (hfrom : d.stopOf event.scheduleId event.fromStaionId = some fromStop)
    (hto : d.stopOf event.scheduleId event.toStationId = some toStop) :
    2 ≤ (findStopsByScheduleAndStations toUpperCase d event.scheduleId
      [toString event.fromStaionId, toString event.toStationId]).length := by
  obtain ⟨row, hrow, hid⟩ := mem_findStops toUpperCase hfrom List.mem_cons_self
  obtain ⟨row', hrow', hid'⟩ := mem_findStops toUpperCase hto
    (List.mem_cons_of_mem _ List.mem_cons_self)
  refine two_le_length hrow hrow' fun he => hdistinct ?_
  rw [← hid, ← hid', he]

theorem find?_of_key {α κ : Type} [DecidableEq κ] {l : List α} {f : α → κ} {p : α → Bool} {x : α}
    (hkey : (l.map f).Nodup) (hx : x ∈ l) (hp : p x = true) (hsame : ∀ y, p y = true → f y = f x) :
    l.find? p = some x := by
  cases hfound : l.find? p with
  | none => exact absurd hp (List.find?_eq_none.mp hfound x hx)
  | some y =>
    have hy := hsame y (List.find?_some hfound)
    rw [List.inj_on_of_nodup_map hkey (List.mem_of_find?_eq_some hfound) hx hy]

theorem stopOf_eq {scheduleId stationId : Id} {stop : RouteStop} (hstop : stop ∈ d.toDb.stops)
    (hschedule : stop.scheduleId = scheduleId) (hstation : stop.stationId = stationId) :
    d.stopOf scheduleId stationId = some stop := by
  have hkey : (d.toDb.stops.map (fun s => (s.scheduleId, s.stationId))).Nodup := by
    rw [ReadDb.toDb, List.map_map]
    exact d.stop_station
  refine find?_of_key hkey hstop (decide_eq_true ⟨hschedule, hstation⟩) fun s hs => ?_
  have hs := of_decide_eq_true hs
  rw [hs.1, hs.2, hschedule, hstation]

def ReadDb.lastStop (d : ReadDb) (scheduleId : Id) : Option RouteStop :=
  d.toDb.stops.find? (fun s => s.scheduleId = scheduleId ∧ s.sequenceNumber = maxPostgresInt)

theorem lastStop_spec {scheduleId : Id} {stop : RouteStop} (h : d.lastStop scheduleId = some stop) :
    stop ∈ d.toDb.stops ∧ stop.scheduleId = scheduleId ∧ stop.sequenceNumber = maxPostgresInt := by
  unfold ReadDb.lastStop at h
  have hkey := List.find?_some h
  exact ⟨List.mem_of_find?_eq_some h, of_decide_eq_true hkey⟩

theorem lastStop_eq {scheduleId : Id} {stop : RouteStop} (hstop : stop ∈ d.toDb.stops)
    (hschedule : stop.scheduleId = scheduleId) (hseq : stop.sequenceNumber = maxPostgresInt) :
    d.lastStop scheduleId = some stop := by
  have hkey : (d.toDb.stops.map (fun s => (s.scheduleId, s.sequenceNumber))).Nodup := by
    rw [ReadDb.toDb, List.map_map]
    exact d.stop_sequence
  refine find?_of_key hkey hstop (decide_eq_true ⟨hschedule, hseq⟩) fun s hs => ?_
  have hs := of_decide_eq_true hs
  rw [hs.1, hs.2, hschedule, hseq]

theorem segmentOf_eq_some {fromStop toStop : Option RouteStop} {segment : Segment}
    (h : segmentOf fromStop toStop = some segment) :
    fromStop = some segment.fromStop ∧ toStop = some segment.toStop ∧
      segment.fromStop.sequenceNumber < segment.toStop.sequenceNumber := by
  obtain _ | fromStop := fromStop
  · cases h
  obtain _ | toStop := toStop
  · cases h
  simp only [segmentOf] at h
  split at h
  · cases h
  · next horder =>
    cases h
    exact ⟨rfl, rfl, not_le.mp horder⟩

/-- Without sequence numbers the origin is found by its station, and the destination
too unless a stop has the last number. -/
theorem resolvedSegment_default (hfrom : event.fromSequence = 0)
    (hto : event.toSequence = maxPostgresInt) :
    resolvedSegment d.toDb.stops event =
      segmentOf (d.stopOf event.scheduleId event.fromStaionId)
        ((d.lastStop event.scheduleId).or (d.stopOf event.scheduleId event.toStationId)) := by
  unfold resolvedSegment
  have hnone : stopBySequence d.toDb.stops event event.fromSequence = none := by
    rw [hfrom]
    exact if_neg (fun h => absurd h.1 (Nat.lt_irrefl _))
  have hlast : stopBySequence d.toDb.stops event event.toSequence = d.lastStop event.scheduleId := by
    rw [hto]
    exact if_pos (by decide)
  rw [hnone, hlast]
  congr 1
  cases d.lastStop event.scheduleId <;> rfl

/-- Where the hold resolves its stations, both are stops, in order, and no other
station has the last number. -/
theorem not_mistaken {segment : Segment} (hfrom : event.fromSequence = 0)
    (hto : event.toSequence = maxPostgresInt) (h : Resolves d.toDb event segment) :
    d.stopOf event.scheduleId event.fromStaionId = some segment.fromStop ∧
      d.stopOf event.scheduleId event.toStationId = some segment.toStop ∧
      ∀ stop ∈ d.toDb.stops, stop.scheduleId = event.scheduleId →
        stop.sequenceNumber = maxPostgresInt → stop.stationId = event.toStationId := by
  have hsegment := (resolves_iff.mp h).1
  rw [resolvedSegment_default hfrom hto] at hsegment
  obtain ⟨hfromStop, htoStop, -⟩ := segmentOf_eq_some hsegment
  have hmem : segment.toStop ∈ d.toDb.stops ∧ segment.toStop.scheduleId = event.scheduleId := by
    cases hlast : d.lastStop event.scheduleId with
    | some stop =>
      rw [hlast] at htoStop
      cases htoStop
      exact ⟨(lastStop_spec hlast).1, (lastStop_spec hlast).2.1⟩
    | none =>
      rw [hlast, Option.none_or] at htoStop
      exact ⟨(stopOf_spec htoStop).1, (stopOf_spec htoStop).2.1⟩
  refine ⟨hfromStop, stopOf_eq hmem.1 hmem.2 h.toStation, fun stop hstop hschedule hseq => ?_⟩
  rw [lastStop_eq hstop hschedule hseq] at htoStop
  cases htoStop
  exact h.toStation

/-- Where both stations are stops, in order, and no other station has the last number,
the hold resolves them. -/
theorem exists_resolves {fromStop toStop : RouteStop} (hfrom : event.fromSequence = 0)
    (hto : event.toSequence = maxPostgresInt)
    (hfromStop : d.stopOf event.scheduleId event.fromStaionId = some fromStop)
    (htoStop : d.stopOf event.scheduleId event.toStationId = some toStop)
    (horder : fromStop.sequenceNumber < toStop.sequenceNumber)
    (hlast : ∀ stop ∈ d.toDb.stops, stop.scheduleId = event.scheduleId →
      stop.sequenceNumber = maxPostgresInt → stop.stationId = event.toStationId) :
    ∃ segment, Resolves d.toDb event segment := by
  have hor : (d.lastStop event.scheduleId).or (d.stopOf event.scheduleId event.toStationId) =
      some toStop := by
    cases hx : d.lastStop event.scheduleId with
    | none => exact htoStop
    | some stop =>
      obtain ⟨hmem, hschedule, hseq⟩ := lastStop_spec hx
      rw [← htoStop]
      exact (stopOf_eq hmem hschedule (hlast stop hmem hschedule hseq)).symm
  refine ⟨⟨fromStop, toStop, toStop.distanceFromStart - fromStop.distanceFromStart⟩,
    resolves_iff.mpr ⟨?_, ?_, ?_, horder⟩⟩
  · rw [resolvedSegment_default hfrom hto, hfromStop, hor]
    exact if_neg (not_le.mpr horder)
  · exact (stopOf_spec hfromStop).2.2
  · exact (stopOf_spec htoStop).2.2

/-- An accepted booking has a segment that its hold resolves, except where the order
of the stations or a name of theirs deceives the pre-check. -/
theorem resolves_of_ok_iff (toUpperCase : String → String) (d : ReadDb) (now : Nat)
    (clientRequestedAt : Option Nat) {event : HoldSeatsRequested}
    (hdistinct : event.fromStaionId ≠ event.toStationId) (hfrom : event.fromSequence = 0)
    (hto : event.toSequence = maxPostgresInt) :
    ((validateBooking toUpperCase d now event.scheduleId (toString event.fromStaionId)
        (toString event.toStationId) clientRequestedAt).1 = .ok →
      ∃ segment, Resolves d.toDb event segment) ↔
      ¬ (Open d now event.scheduleId clientRequestedAt ∧
        (Misordered d event ∨ Misnamed toUpperCase d event)) := by
  rw [validateBooking_ok_iff]
  constructor
  · rintro h ⟨hopen, ⟨fromStop, hfromStop, toStop, htoStop, hwrong⟩ | ⟨hmissing, htwo⟩⟩
    · obtain ⟨segment, hsegment⟩ := h ⟨hopen, two_le_findStops hdistinct hfromStop htoStop⟩
      obtain ⟨hfromStop', htoStop', hlast⟩ := not_mistaken hfrom hto hsegment
      rw [Option.mem_def, hfromStop', Option.some.injEq] at hfromStop
      rw [Option.mem_def, htoStop', Option.some.injEq] at htoStop
      obtain horder | ⟨stop, hstop, hschedule, hseq, hother⟩ := hwrong
      · rw [← hfromStop, ← htoStop] at horder
        exact absurd hsegment.order (not_lt.mpr horder)
      · exact hother (hlast stop hstop hschedule hseq)
    · obtain ⟨segment, hsegment⟩ := h ⟨hopen, htwo⟩
      obtain ⟨hfromStop, htoStop, -⟩ := not_mistaken hfrom hto hsegment
      rw [hfromStop, htoStop] at hmissing
      exact hmissing.elim (Option.some_ne_none _) (Option.some_ne_none _)
  · rintro h ⟨hopen, htwo⟩
    cases hfromStop : d.stopOf event.scheduleId event.fromStaionId with
    | none => exact absurd ⟨hopen, .inr ⟨.inl hfromStop, htwo⟩⟩ h
    | some fromStop =>
      cases htoStop : d.stopOf event.scheduleId event.toStationId with
      | none => exact absurd ⟨hopen, .inr ⟨.inr htoStop, htwo⟩⟩ h
      | some toStop =>
        have hright : ¬ Misordered d event := fun hm => h ⟨hopen, .inl hm⟩
        apply exists_resolves hfrom hto hfromStop htoStop
        · apply not_le.mp
          exact fun horder => hright ⟨fromStop, hfromStop, toStop, htoStop, .inl horder⟩
        · intro stop hstop hschedule hseq
          by_contra hother
          exact hright ⟨fromStop, hfromStop, toStop, htoStop, .inr ⟨stop, hstop, hschedule, hseq,
            hother⟩⟩

def sampleLine : ReadDb where
  schedules scheduleId := if scheduleId = 1 then some ⟨.active, 1000⟩ else none
  stops := [⟨⟨1, 2, 1, 0⟩, "NDLS"⟩, ⟨⟨1, 3, 2, 150⟩, "BPL"⟩]
  seats := []
  allocations := []
  stop_station := by decide
  stop_sequence := by decide
  seat_id := by decide
  seat_key := by decide

def sampleJourney (fromStationId toStationId : Id) : HoldSeatsRequested where
  eventId := .random ⟨4, 0⟩
  bookingId := ⟨4, 1⟩
  scheduleId := 1
  userId := 5
  seatInventoryIds := [20]
  fromStaionId := fromStationId
  toStationId := toStationId
  fromSequence := 0
  toSequence := maxPostgresInt
  holdTtlMs := 600000

theorem resolves_forward :
    ¬ (Open sampleLine 10 1 none ∧ (Misordered sampleLine (sampleJourney 2 3) ∨
        Misnamed id sampleLine (sampleJourney 2 3))) ∧
      ((validateBooking id sampleLine 10 1 "2" "3" none).1 = .ok →
        ∃ segment, Resolves sampleLine.toDb (sampleJourney 2 3) segment) := by
  have hright : ¬ (Open sampleLine 10 1 none ∧ (Misordered sampleLine (sampleJourney 2 3) ∨
      Misnamed id sampleLine (sampleJourney 2 3))) := by
    rintro ⟨-, ⟨fromStop, hfromStop, toStop, htoStop, hwrong⟩ | ⟨hmissing, -⟩⟩
    · cases hfromStop
      cases htoStop
      revert hwrong
      decide
    · revert hmissing
      decide
  have hdistinct : (sampleJourney 2 3).fromStaionId ≠ (sampleJourney 2 3).toStationId := by decide
  exact ⟨hright, (resolves_of_ok_iff id sampleLine 10 none hdistinct rfl rfl).mpr hright⟩

/-- The way back: the pre-check accepts it, and the hold finds no segment. -/
theorem not_resolves_of_ok : ¬ ∀ (toUpperCase : String → String) (d : ReadDb) (now : Nat)
    (clientRequestedAt : Option Nat) (event : HoldSeatsRequested),
    event.fromStaionId ≠ event.toStationId → event.fromSequence = 0 →
      event.toSequence = maxPostgresInt →
      (validateBooking toUpperCase d now event.scheduleId (toString event.fromStaionId)
        (toString event.toStationId) clientRequestedAt).1 = .ok →
      ∃ segment, Resolves d.toDb event segment := by
  intro hall
  obtain ⟨segment, hsegment⟩ := hall id sampleLine 10 none (sampleJourney 3 2) (by decide) rfl rfl
    (by decide)
  have hnone : resolvedSegment sampleLine.toDb.stops (sampleJourney 3 2) = none := by decide
  rw [(resolves_iff.mp hsegment).1] at hnone
  cases hnone

end PreCheck

end RailwayBooking.InventoryService
