import RailwayBooking.Integration.ScheduleAgreement
import RailwayBooking.InventoryService.PreCheck
import RailwayBooking.ScheduleService.Layouts
import RailwayBooking.SearchService.ScheduleProjection

namespace RailwayBooking.Integration

open Concurrency AdminService

/-- What search-service reads of the payload, with the time of its creation. -/
def searchMessage (createdAt : Nat) (e : ScheduleCreatedEvent) :
    SearchService.ScheduleCreatedEvent where
  eventId := e.eventId
  scheduleId := e.scheduleId
  trainId := e.trainId
  trainNumber := e.trainNumber
  trainName := e.trainName
  routeId := e.routeId
  trainCategory := e.trainCategory
  departureDate := e.departureDate
  status := e.status
  version := e.version
  operatingDays := e.operatingDays
  stops := e.stops.map (fun stop => ⟨stop.stationId, stop.stationCode, stop.stationName,
    stop.stopNumber, stop.arrivalMinutes, stop.departureMinutes, stop.distanceFromStart⟩)
  coaches := e.coaches.map (fun coach =>
    ⟨coach.coachId, coach.coachNumber, coach.coachType, coach.totalSeats⟩)
  createdAt := createdAt

/-- Stations and stop numbers of the event are its own, in any order of the stops. -/
structure ValidStops (e : ScheduleCreatedEvent) : Prop where
  stations : (e.stops.map EventStop.stationId).Nodup
  numbers : (e.stops.map EventStop.stopNumber).Nodup
  range : ∀ stop ∈ e.stops, 0 < stop.stopNumber ∧ stop.stopNumber < 2147483647

/-- The schedule of the event is created by no other event. -/
def createdOnlyBy (e : ScheduleCreatedEvent) (c : ScheduleService.Call) : Prop :=
  ∀ m, c = .scheduleCreated (.event m) → m.scheduleId = e.scheduleId → m = createdMessage e

/-- On these tables `resolveSegmentStops` succeeds. -/
def Resolved (d : ScheduleService.Db) (r : HoldSeatsRequested) : Prop :=
  ∃ segment, ∀ (i : Nat) (c : InventoryService.Call)
    (σ : Shared InventoryService.inventoryService InventoryService.Call), σ.world.db = d.tables →
      Ends i c (InventoryService.resolveSegmentStops r) σ (.ok (some segment)) σ

def Leads (e : ScheduleCreatedEvent) (f t : Id) : Prop :=
  ∃ a ∈ e.stops, ∃ b ∈ e.stops, a.stationId = f ∧ b.stationId = t ∧ a.stopNumber < b.stopNumber

section Routes

theorem mem_computeRoutesServed {stops : List SearchService.EventStop}
    (h : stops.Pairwise (fun a b => a.stopNumber < b.stopNumber)) {f t : Id} :
    (f, t) ∈ SearchService.computeRoutesServed stops ↔
      ∃ a ∈ stops, ∃ b ∈ stops, a.stationId = f ∧ b.stationId = t ∧
        a.stopNumber < b.stopNumber := by
  induction stops with
  | nil => simp [SearchService.computeRoutesServed]
  | cons stop stops ih =>
    obtain ⟨hstop, hrest⟩ := List.pairwise_cons.mp h
    rw [SearchService.computeRoutesServed, List.mem_append, List.mem_map, ih hrest]
    constructor
    · rintro (⟨later, hlater, heq⟩ | ⟨a, ha, b, hb, hab⟩)
      · obtain ⟨hf, ht⟩ := Prod.mk.inj heq
        exact ⟨stop, List.mem_cons_self, later, List.mem_cons_of_mem _ hlater, hf, ht,
          hstop later hlater⟩
      · exact ⟨a, List.mem_cons_of_mem _ ha, b, List.mem_cons_of_mem _ hb, hab⟩
    · rintro ⟨a, ha, b, hb, hf, ht, hlt⟩
      obtain rfl | hb' := List.mem_cons.mp hb
      · -- no stop comes before the first one
        obtain rfl | ha' := List.mem_cons.mp ha
        · exact absurd hlt (Nat.lt_irrefl _)
        · exact absurd hlt (Nat.lt_asymm (hstop a ha'))
      obtain rfl | ha' := List.mem_cons.mp ha
      · exact .inl ⟨b, hb', by rw [hf, ht]⟩
      · exact .inr ⟨a, ha', b, hb', hf, ht, hlt⟩

variable {e : ScheduleCreatedEvent} {f t : Id}

theorem mem_routesServed_iff (he : ValidStops e) (createdAt : Nat) :
    (f, t) ∈ (SearchService.toDocument (searchMessage createdAt e)).routesServed ↔
      Leads e f t := by
  let le : SearchService.EventStop → SearchService.EventStop → Prop :=
    fun a b => a.stopNumber ≤ b.stopNumber
  change (f, t) ∈ SearchService.computeRoutesServed
    ((searchMessage createdAt e).stops.insertionSort le) ↔ _
  have hle : ((searchMessage createdAt e).stops.insertionSort le).Pairwise le := by
    have : Std.Total le := ⟨fun a b => Nat.le_total a.stopNumber b.stopNumber⟩
    have : IsTrans _ le := ⟨fun _ _ _ => Nat.le_trans⟩
    exact List.pairwise_insertionSort le _
  have hne : ((searchMessage createdAt e).stops.insertionSort le).Pairwise
      (fun a b => a.stopNumber ≠ b.stopNumber) := by
    have hnodup : (((searchMessage createdAt e).stops.insertionSort le).map
        SearchService.EventStop.stopNumber).Nodup := by
      rw [((List.perm_insertionSort le _).map _).nodup_iff, searchMessage, List.map_map]
      exact he.numbers
    exact List.pairwise_map.mp hnodup
  rw [mem_computeRoutesServed ((hle.and hne).imp fun h => Nat.lt_of_le_of_ne h.1 h.2)]
  simp [searchMessage, Leads]

end Routes

section Stops

variable {e : ScheduleCreatedEvent} {d : ScheduleService.Db} {f : Id}

theorem mem_stops_iff {stop : InventoryService.RouteStop}
    (hstops : ScheduleService.stopsOf d e.scheduleId =
      ScheduleService.routeStopsData (createdMessage e)) :
    stop ∈ d.tables.stops ∧ stop.scheduleId = e.scheduleId ↔ ∃ x ∈ e.stops,
      (⟨e.scheduleId, x.stationId, x.stopNumber, x.distanceFromStart⟩ :
        InventoryService.RouteStop) = stop := by
  have hmem : stop ∈ ScheduleService.stopsOf d e.scheduleId ↔
      stop ∈ d.tables.stops ∧ stop.scheduleId = e.scheduleId := by
    rw [ScheduleService.stopsOf, List.mem_filter, decide_eq_true_eq]
  rw [← hmem, hstops]
  simp [ScheduleService.routeStopsData, createdMessage]

theorem resolvedSegment_unnumbered {r : HoldSeatsRequested} (he : ValidStops e)
    (hstops : ScheduleService.stopsOf d e.scheduleId =
      ScheduleService.routeStopsData (createdMessage e)) (hschedule : r.scheduleId = e.scheduleId)
    (hfrom : r.fromSequence = 0) (hto : r.toSequence = InventoryService.maxPostgresInt) :
    InventoryService.resolvedSegment d.tables.stops r = InventoryService.segmentOf
      (InventoryService.stopByStation d.tables.stops r none r.fromStaionId)
      (InventoryService.stopByStation d.tables.stops r none r.toStationId) := by
  have hnone : InventoryService.stopBySequence d.tables.stops r r.fromSequence = none := by
    rw [hfrom]
    exact if_neg fun h => Nat.lt_irrefl _ h.1
  have hlast : InventoryService.stopBySequence d.tables.stops r r.toSequence = none := by
    rw [hto]
    refine (if_pos (by decide)).trans (List.find?_eq_none.mpr fun s hs hkey => ?_)
    obtain ⟨hs', hseq⟩ := of_decide_eq_true hkey
    obtain ⟨x, hx, rfl⟩ := (mem_stops_iff hstops).mp ⟨hs, hs'.trans hschedule⟩
    exact Nat.ne_of_lt (he.range x hx).2 hseq
  rw [InventoryService.resolvedSegment, hnone, hlast]

theorem stopByStation_iff {r : HoldSeatsRequested} (he : ValidStops e)
    (hstops : ScheduleService.stopsOf d e.scheduleId =
      ScheduleService.routeStopsData (createdMessage e)) (hschedule : r.scheduleId = e.scheduleId)
    {stop : InventoryService.RouteStop} :
    InventoryService.stopByStation d.tables.stops r none f = some stop ↔ ∃ x ∈ e.stops,
      x.stationId = f ∧ (⟨e.scheduleId, x.stationId, x.stopNumber, x.distanceFromStart⟩ :
        InventoryService.RouteStop) = stop := by
  change d.tables.stops.find? _ = some stop ↔ _
  constructor
  · intro h
    have hkey := List.find?_some h
    obtain ⟨hs, hstation⟩ := of_decide_eq_true hkey
    obtain ⟨x, hx, rfl⟩ := (mem_stops_iff hstops).mp
      ⟨List.mem_of_find?_eq_some h, hs.trans hschedule⟩
    exact ⟨x, hx, hstation, rfl⟩
  · rintro ⟨x, hx, hstation, rfl⟩
    obtain ⟨hmem, _⟩ := (mem_stops_iff hstops).mpr ⟨x, hx, rfl⟩
    cases hfind : d.tables.stops.find?
        (fun s => decide (s.scheduleId = r.scheduleId ∧ s.stationId = f)) with
    | none =>
      refine absurd ?_ (List.find?_eq_none.mp hfind _ hmem)
      exact decide_eq_true ⟨hschedule.symm, hstation⟩
    | some s =>
      have hkey := List.find?_some hfind
      obtain ⟨hs, hstation'⟩ := of_decide_eq_true hkey
      obtain ⟨y, hy, rfl⟩ := (mem_stops_iff hstops).mp
        ⟨List.mem_of_find?_eq_some hfind, hs.trans hschedule⟩
      -- a station is that of one stop only
      have hsame : y = x :=
        List.inj_on_of_nodup_map he.stations hy hx (hstation'.trans hstation.symm)
      rw [hsame]

theorem segmentOf_isSome {fromStop toStop : Option InventoryService.RouteStop} :
    (∃ segment, InventoryService.segmentOf fromStop toStop = some segment) ↔
      ∃ a b, fromStop = some a ∧ toStop = some b ∧ a.sequenceNumber < b.sequenceNumber := by
  unfold InventoryService.segmentOf
  split
  · next a b =>
    split
    · next hge => simpa using hge
    · next hlt => simpa using hlt
  · next hnone =>
    simp only [reduceCtorEq, exists_false, false_iff]
    rintro ⟨a, b, ha, hb, _⟩
    exact hnone a b ha hb

end Stops

theorem resolved_iff {d : ScheduleService.Db} {r : HoldSeatsRequested} :
    Resolved d r ↔ ∃ segment, InventoryService.resolvedSegment d.tables.stops r = some segment := by
  constructor
  · rintro ⟨segment, h⟩
    have hends := h 0 (.holdSeats r)
      (Pool.init (M := InventoryService.machine) d.tables ⟨0, .empty⟩).shared rfl
    have hsame := Option.some.inj (hends.symm.trans InventoryService.ends_resolveSegmentStops)
    exact ⟨segment, (Except.ok.inj (Prod.mk.inj hsame).1).symm⟩
  · rintro ⟨segment, h⟩
    refine ⟨segment, fun i c σ hσ => ?_⟩
    rw [← h, ← hσ]
    exact InventoryService.ends_resolveSegmentStops

/-- Where a schedule has been projected from an event, search offers exactly the journeys that
inventory resolves by their stations. -/
theorem served_iff_resolved {now : Nat} (createdAt : Nat) {p : Pool ScheduleService.machine}
    {e : ScheduleCreatedEvent} {r : HoldSeatsRequested} (he : ValidStops e)
    (h : Reachable (ScheduleService.deliveries (createdOnlyBy e)) (ScheduleService.start now) p)
    (hrow : ScheduleService.rowOf p.world.db e.scheduleId ≠ none)
    (hschedule : r.scheduleId = e.scheduleId) (hfrom : r.fromSequence = 0)
    (hto : r.toSequence = InventoryService.maxPostgresInt) :
    (r.fromStaionId, r.toStationId) ∈
        (SearchService.toDocument (searchMessage createdAt e)).routesServed ↔
      Resolved p.world.db r := by
  obtain ⟨m, hm, hid, hstops⟩ :=
    ((ScheduleService.laid_of_deliveries h).1 e.scheduleId).stands hrow
  rw [hm m rfl hid] at hstops
  rw [mem_routesServed_iff he, resolved_iff,
    resolvedSegment_unnumbered he hstops hschedule hfrom hto, segmentOf_isSome]
  simp only [stopByStation_iff he hstops hschedule]
  constructor
  · rintro ⟨a, ha, b, hb, hf, ht, hlt⟩
    exact ⟨_, _, ⟨a, ha, hf, rfl⟩, ⟨b, hb, ht, rfl⟩, hlt⟩
  · rintro ⟨_, _, ⟨a, ha, hf, rfl⟩, ⟨b, hb, ht, rfl⟩, hlt⟩
    exact ⟨a, ha, b, hb, hf, ht, hlt⟩

section Runs

def sampleShuffled : ScheduleCreatedEvent :=
  { sampleCreated with
    scheduleId := 1
    stops := [⟨3, "PNBE", "Patna", 7, some 720, none, 1000⟩,
      ⟨1, "NDLS", "New Delhi", 2, none, some 0, 0⟩,
      ⟨2, "CNB", "Kanpur", 4, some 300, some 310, 440⟩] }

def shuffledDeliveries : List ScheduleService.Call :=
  [.scheduleCreated (.event (createdMessage sampleShuffled)),
    .scheduleStatusChanged (.event ⟨1, .cancelled, 2⟩),
    .scheduleCreated (.event (createdMessage sampleShuffled))]

theorem resolved_shuffled : ∃ p,
    Reachable (ScheduleService.deliveries (createdOnlyBy sampleShuffled))
      (ScheduleService.start 0) p ∧ Resolved p.world.db (InventoryService.sampleJourney 2 3) ∧
        ¬ Resolved p.world.db (InventoryService.sampleJourney 3 2) := by
  have hvalid : ValidStops sampleShuffled := ⟨by decide, by decide, by decide⟩
  obtain ⟨p, hp, ht⟩ := exists_reachable
    (ScheduleService.deliveries (createdOnlyBy sampleShuffled)) (ScheduleService.start 0)
    (fun _ _ => true) (inTurn 20 shuffledDeliveries)
    (fun p => decide (ScheduleService.rowOf p.world.db 1 ≠ none))
    (fun p a _ => permits_calls p a)
    (fun m hm c hc _ => by
      have hmem := started_inTurn hm hc
      simp only [shuffledDeliveries, List.mem_cons, List.not_mem_nil, or_false] at hmem
      obtain rfl | rfl | rfl := hmem
      · refine ⟨fun m heq _ => ?_, rfl⟩
        cases heq
        rfl
      · refine ⟨fun m heq _ => ?_, rfl⟩
        cases heq
      · refine ⟨fun m heq _ => ?_, rfl⟩
        cases heq
        rfl)
    (by decide +kernel)
  have hrow := of_decide_eq_true ht
  refine ⟨p, hp, (served_iff_resolved 0 hvalid hp hrow rfl rfl rfl).mp (by decide),
    fun hresolved => ?_⟩
  have hmem := (served_iff_resolved 0 hvalid hp hrow rfl rfl rfl).mpr hresolved
  exact absurd hmem (by decide)

end Runs

end RailwayBooking.Integration
