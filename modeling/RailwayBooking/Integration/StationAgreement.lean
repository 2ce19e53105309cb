import RailwayBooking.Catalogue.Stations
import RailwayBooking.SearchService.StationConvergence

namespace RailwayBooking.Integration

open Concurrency
open Catalogue (rowOf eventsOf Reader Recorded Reads)
open Catalogue.Stations (Station StationData StationEvent TellsStations stations
  tellsStations_of_inv)
open SearchService (StationDocument StationHistory stationProjection)

section Deliveries

def upsertMessage (payload : StationData) : SearchService.StationUpsertEvent where
  eventId := payload.eventId
  stationId := payload.stationId
  stationCode := payload.stationCode
  stationName := payload.stationName
  zone := payload.zone
  state := some payload.state
  isActive := payload.isActive

/-- The delivery of an event to its consumer in search-service. -/
def stationDelivery : StationEvent → SearchService.StationEvent
  | .created payload _ => .created (upsertMessage payload)
  | .updated payload _ => .updated (upsertMessage payload)
  | .deactivated eventId stationId stationCode _ => .deactivated ⟨eventId, stationId, stationCode⟩

variable (toLowerCase : String → String)

/-- The document that a search for the station should find. -/
def stationDocument (station : Station) : StationDocument where
  stationId := station.id
  code := station.code
  name := station.name
  zone := station.zone.getD ""
  state := some (station.state.getD "")
  isActive := station.isActive
  suggest := ([station.name, station.code, station.zone.getD "", station.state.getD ""].filter
    (· ≠ "")).map toLowerCase

def searchIndex : Reader StationEvent Id StationDocument where
  key := StationEvent.stationId
  apply e d := ((stationDelivery e).script toLowerCase d).after d

theorem reads_searchIndex :
    Reads (K := stations) (searchIndex toLowerCase) (stationDocument toLowerCase) where
  key _ := rfl
  created h _ := by cases h; rfl
  updated h _ := by cases h; rfl
  deactivated h := by cases h; rfl

theorem written_of_recorded {old : Option Station} {es : List StationEvent}
    (h : Recorded (K := stations) old es) :
    StationHistory.written toLowerCase (es.map stationDelivery) =
      old.map (stationDocument toLowerCase) := by
  rw [StationHistory.written, List.foldl_map]
  exact (reads_searchIndex toLowerCase).recorded h

end Deliveries

section Histories

theorem stationId_stationDelivery (e : StationEvent) : (stationDelivery e).stationId = e.stationId := by
  cases e <;> rfl

theorem eventId_stationDelivery (e : StationEvent) : (stationDelivery e).eventId = e.eventId := by
  cases e <;> rfl

/-- The deliveries about a station of admin-service. -/
def stationHistory {now : Nat} {p : Pool (Catalogue.machine stations)}
    (hp : Reachable (Catalogue.allRuns stations) (Catalogue.start stations now) p) {k : Id}
    {station : Station} (hrow : rowOf p.world.db k = some station) : StationHistory where
  stationId := k
  events := (eventsOf p.world.db k).map stationDelivery
  station e he := by
    obtain ⟨x, hx, rfl⟩ := List.mem_map.mp he
    rw [stationId_stationDelivery]
    exact of_decide_eq_true (List.mem_filter.mp hx).2
  created := by
    have hstands : rowOf p.world.db k ≠ none := by simp [hrow]
    have htells : TellsStations p.world.db := tellsStations_of_inv (Catalogue.inv_of_reachable hp)
    obtain ⟨payload, createdAt, hhead⟩ := htells.created k hstands
    refine ⟨upsertMessage payload, ?_⟩
    rw [List.head?_map, hhead]
    rfl
  ids := by
    rw [List.map_map]
    have heq : SearchService.StationEvent.eventId ∘ stationDelivery = StationEvent.eventId :=
      funext eventId_stationDelivery
    rw [heq]
    exact (Catalogue.inv_of_reachable hp).events.sublist (List.filter_sublist.map _)

end Histories

section Agreement

variable {toLowerCase : String → String} {now now' : Nat} {leases : Redis.Leases}

/-- Where no event is written after a later one, the index holds what the events say once all
of them have been handled. -/
theorem index_of_ordered {H : StationHistory} {q : Pool (stationProjection toLowerCase)}
    (h : Reachable (H.ordered toLowerCase) (SearchService.start _ leases now) q)
    (hall : ∀ e ∈ H.events, StationHistory.Handled e q.world.env) :
    q.world.env.index H.stationId = StationHistory.written toLowerCase H.events := by
  obtain ⟨ws, hpart, hhandled, hindex⟩ := StationHistory.inv_reachable h
  have hsub : H.events ⊆ ws := fun e he => (hhandled e he).mp (hall e he)
  have hlength := (List.subperm_of_subset StationHistory.nodup_events hsub).length_le
  rw [hindex, hpart.eq_of_length_le hlength]

/-- Once all events of a station have been handled, none after a later one, a search finds the
station as its row in admin-service has it. -/
theorem found_of_ordered {p : Pool (Catalogue.machine stations)}
    (hp : Reachable (Catalogue.allRuns stations) (Catalogue.start stations now) p) {k : Id}
    {station : Station} (hrow : rowOf p.world.db k = some station)
    {q : Pool (stationProjection toLowerCase)}
    (hq : Reachable ((stationHistory hp hrow).ordered toLowerCase)
      (SearchService.start _ leases now') q)
    (hall : ∀ e ∈ eventsOf p.world.db k,
      StationHistory.Handled (stationDelivery e) q.world.env) :
    q.world.env.index k = some (stationDocument toLowerCase station) := by
  have hindex := index_of_ordered hq fun e he => by
    obtain ⟨x, hx, rfl⟩ := List.mem_map.mp he
    exact hall x hx
  have hrecorded := (Catalogue.inv_of_reachable hp).recorded k
  rw [hrow] at hrecorded
  exact hindex.trans (written_of_recorded toLowerCase hrecorded)

section Samples

def sampleDeliveries : StationHistory where
  stationId := 0
  events := [.created ⟨1, 0, "NDLS", "New Delhi", "NR", some "", true⟩,
    .deactivated ⟨5, 0, "NDLS"⟩]
  station := by decide
  created := ⟨_, rfl⟩
  ids := by decide

/-- A station is created and deactivated, and both events are delivered twice. -/
theorem found_deactivated : ∃ (p : Pool (Catalogue.machine stations))
    (hp : Reachable (Catalogue.allRuns stations) (Catalogue.start stations 0) p)
    (station : Station) (hrow : rowOf p.world.db 0 = some station)
    (q : Pool (stationProjection id)),
    Reachable ((stationHistory hp hrow).ordered id) (SearchService.start _ ⟨60, 86400⟩ 0) q ∧
      q.world.env.index 0 = some (stationDocument id station) := by
  obtain ⟨p, hp, ht⟩ := exists_reachable (Catalogue.allRuns stations)
    (Catalogue.start stations 0) (fun _ _ => true)
    [.call (.create Catalogue.Stations.sampleStation), .burst 0 20, .call (.deactivate 0),
      .burst 1 20]
    (fun p => decide (rowOf p.world.db 0 ≠ none ∧
      (eventsOf p.world.db 0).map stationDelivery = sampleDeliveries.events))
    (fun p a _ => permits_calls p a) (fun _ _ _ _ _ => trivial) (by decide +kernel)
  obtain ⟨hstands, hevents⟩ := of_decide_eq_true ht
  obtain ⟨station, hrow⟩ := Option.ne_none_iff_exists'.mp hstands
  obtain ⟨q, hq, htest⟩ := exists_reachable (M := stationProjection id)
    (sampleDeliveries.ordered id) (SearchService.start _ ⟨60, 86400⟩ 0) sampleDeliveries.inOrder
    (sampleDeliveries.events.flatMap (fun e => [.call e, .call e]) ++
      [.burst 0 9, .burst 1 9, .burst 2 9, .burst 3 9])
    (fun q => decide (∀ e ∈ sampleDeliveries.events, StationHistory.Handled e q.world.env))
    sampleDeliveries.permits_inOrder
    (by simp [StationHistory.ordered, StationHistory.Delivers, Move.started, sampleDeliveries])
    (by decide +kernel)
  have hall := of_decide_eq_true htest
  have hsame : stationHistory hp hrow = sampleDeliveries := by
    simp only [stationHistory, hevents]
    rfl
  refine ⟨p, hp, station, hrow, q, hsame ▸ hq, found_of_ordered hp hrow (hsame ▸ hq) fun e he => ?_⟩
  apply hall
  rw [← hevents]
  exact List.mem_map_of_mem he

end Samples

end Agreement

end RailwayBooking.Integration
