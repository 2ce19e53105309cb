import RailwayBooking.Catalogue.Sound

namespace RailwayBooking.Catalogue

open Concurrency

namespace Stations

/-- The times are in milliseconds. -/
structure Station where
  id : Id
  name : String
  code : String
  zone : Option String
  state : Option String
  isActive : Bool
  createdAt : Nat
  updatedAt : Nat
  deriving DecidableEq

structure CreateStationRequest where
  name : String
  code : String
  zone : Option String
  state : Option String
  isActive : Bool
  deriving DecidableEq

/-- The entries that are not undefined are the columns that the update sets. -/
structure UpdateStationRequest where
  name : Option String
  code : Option String
  zone : Option String
  state : Option String
  isActive : Option Bool
  deriving DecidableEq

inductive Column
  | name (name : String)
  | code (code : String)
  deriving DecidableEq

inductive ErrorCode
  | stationAlreadyExists
  | stationNotFound
  deriving DecidableEq, Repr

/-- `StationCreatedEventV1` and `StationUpdatedEventV1` but for their times. -/
structure StationData where
  eventId : Id
  stationId : Id
  stationCode : String
  stationName : String
  zone : String
  state : String
  isActive : Bool
  deriving DecidableEq

inductive StationEvent
  | created (payload : StationData) (createdAt : Nat)
  | updated (payload : StationData) (updatedAt : Nat)
  | deactivated (eventId stationId : Id) (stationCode : String) (deactivatedAt : Nat)
  deriving DecidableEq

namespace StationEvent

def eventId : StationEvent → Id
  | .created payload _ | .updated payload _ => payload.eventId
  | .deactivated eventId _ _ _ => eventId

def stationId : StationEvent → Id
  | .created payload _ | .updated payload _ => payload.stationId
  | .deactivated _ stationId _ _ => stationId

end StationEvent

section StationEventMapper

def stationData (eventId : Id) (station : Station) : StationData where
  eventId := eventId
  stationId := station.id
  stationCode := station.code
  stationName := station.name
  zone := station.zone.getD ""
  state := station.state.getD ""
  isActive := station.isActive

def toCreatedEvent (eventId : Id) (station : Station) : StationEvent :=
  .created (stationData eventId station) station.createdAt

def toUpdatedEvent (eventId : Id) (station : Station) : StationEvent :=
  .updated (stationData eventId station) station.updatedAt

def toDeactivatedEvent (eventId : Id) (station : Station) : StationEvent :=
  .deactivated eventId station.id station.code station.updatedAt

end StationEventMapper

def newStation (dto : CreateStationRequest) (id : Id) (now : Nat) : Station :=
  ⟨id, dto.name, dto.code, dto.zone, dto.state, dto.isActive, now, now⟩

def UpdateStationRequest.set (updatedData : UpdateStationRequest) (now : Nat) (station : Station) :
    Station :=
  { station with
    name := updatedData.name.getD station.name
    code := updatedData.code.getD station.code
    zone := updatedData.zone.or station.zone
    state := updatedData.state.or station.state
    isActive := updatedData.isActive.getD station.isActive
    updatedAt := now }

/-- An empty code is not looked up. -/
def UpdateStationRequest.changed (dto : UpdateStationRequest) (station : Station) : Option Column :=
  match dto.code with
  | none => none
  | some code => if code ≠ "" ∧ code ≠ station.code then some (.code code) else none

@[reducible] def stations : Kind where
  Row := Station
  Create := CreateStationRequest
  Update := UpdateStationRequest
  Data := UpdateStationRequest
  Column := Column
  Event := StationEvent
  ErrorCode := ErrorCode
  id := Station.id
  isActive := Station.isActive
  columns station := [.name station.name, .code station.code]
  new := newStation
  wanted dto := .code dto.code
  data dto := dto
  changed := UpdateStationRequest.changed
  inactive := ⟨none, none, none, none, some false⟩
  set := UpdateStationRequest.set
  created eventId station := some (toCreatedEvent eventId station)
  updated eventId station := some (toUpdatedEvent eventId station)
  deactivated eventId station := some (toDeactivatedEvent eventId station)
  eventId := StationEvent.eventId
  recordId := StationEvent.stationId
  notFound := .stationNotFound
  alreadyExists := .stationAlreadyExists
  set_id _ _ _ := rfl
  named_created _ _ _ h := by cases h; exact ⟨rfl, rfl⟩
  named_updated _ _ _ h := by cases h; exact ⟨rfl, rfl⟩
  named_deactivated _ _ _ h := by cases h; exact ⟨rfl, rfl⟩

section StationService

abbrev StationCode (α : Type) := CatalogueCode stations α

def createStation (dto : CreateStationRequest) : StationCode Station := create (K := stations) dto

def updateStation (stationId : Id) (dto : UpdateStationRequest) : StationCode Station :=
  update (K := stations) stationId dto

def deactivateStation (stationId : Id) : StationCode Station := deactivate stationId

theorem body_stations (c : Call stations) : body c = match c with
    | .create dto => createStation dto
    | .update stationId dto => updateStation stationId dto
    | .deactivate stationId => deactivateStation stationId := by
  cases c <;> rfl

end StationService

section Replay

structure PublishedStation where
  stationId : Id
  code : String
  name : String
  zone : String
  state : String
  isActive : Bool
  deriving DecidableEq

def published (station : Station) : PublishedStation :=
  ⟨station.id, station.code, station.name, station.zone.getD "", station.state.getD "",
    station.isActive⟩

def StationData.published (payload : StationData) : PublishedStation :=
  ⟨payload.stationId, payload.stationCode, payload.stationName, payload.zone, payload.state,
    payload.isActive⟩

/-- A consumer that knows the stations from the events alone. -/
def consumer : Reader StationEvent Id PublishedStation where
  key := StationEvent.stationId
  apply
    | .created payload _, _ | .updated payload _, _ => some payload.published
    | .deactivated _ _ _ _, d => d.map (fun station => { station with isActive := false })

theorem reads_consumer : Reads (K := stations) consumer published where
  key _ := rfl
  created h _ := by cases h; rfl
  updated h _ := by cases h; rfl
  deactivated h := by cases h; rfl

end Replay

/-- The events of the outbox, of which no two are the same, tell of each station its creation
first and, read in their order, the data of its row. -/
structure TellsStations (d : Db stations) : Prop where
  mirrors : consumer.Mirrors d.outbox (fun k => (rowOf d k).map published)
  created : ∀ k, rowOf d k ≠ none → ∃ payload createdAt,
    (eventsOf d k).head? = some (.created payload createdAt)
  events : (d.outbox.map StationEvent.eventId).Nodup

theorem tellsStations_of_inv {w : CatalogueWorld stations} (h : Inv w) : TellsStations w.db := by
  refine ⟨reads_consumer.mirrors h.recorded, fun k hk => ?_, h.events⟩
  have hne : eventsOf w.db k ≠ [] := by
    intro hnil
    have hrecorded := h.recorded k
    rw [hnil] at hrecorded
    cases hrow : rowOf w.db k with
    | none => exact hk hrow
    | some station =>
      have hfold := reads_consumer.recorded hrecorded
      rw [hrow] at hfold
      cases hfold
  obtain ⟨eventId, station, e, he, hhead⟩ := (h.recorded k).created hne
  cases he
  exact ⟨_, _, hhead⟩

/-- In every run of requests on stations the outbox tells of each station what its row holds. -/
theorem tellsStations_of_reachable {now : Nat} {p : Pool (machine stations)}
    (h : Reachable (allRuns stations) (start stations now) p) : TellsStations p.world.db :=
  tellsStations_of_inv (inv_of_reachable h)

section Samples

def sampleStation : CreateStationRequest := ⟨"New Delhi", "NDLS", some "NR", none, true⟩

def renamedTo (name : String) : UpdateStationRequest := ⟨some name, none, none, some "Delhi", none⟩

/-- An update of the name has found the station when it is deactivated, and waits for its row;
another update is interrupted. -/
theorem tellsStations_raced : ∃ p, Reachable (allRuns stations) (start stations 0) p ∧
    (p.world.db.rows.map published) = [⟨0, "NDLS", "Delhi", "NR", "Delhi", false⟩] ∧
      p.world.db.outbox.length = 3 ∧ TellsStations p.world.db := by
  obtain ⟨p, hp, ht⟩ := exists_reachable (allRuns stations) (start stations 0) (fun _ _ => true)
    [.call (.create sampleStation), .burst 0 20, .call (.create sampleStation), .burst 1 20,
      .call (.update 0 (renamedTo "Nowhere")), .burst 2 5, .step (.crash 2),
      .call (.update 0 (renamedTo "Delhi")), .burst 3 2, .call (.deactivate 0), .burst 4 5,
      .burst 3 2, .burst 4 20, .burst 3 20]
    (fun p => decide ((p.world.db.rows.map published) =
      [⟨0, "NDLS", "Delhi", "NR", "Delhi", false⟩] ∧ p.world.db.outbox.length = 3))
    (fun p a _ => permits_calls p a) (fun _ _ _ _ _ => trivial) (by decide +kernel)
  obtain ⟨hrows, hlength⟩ := of_decide_eq_true ht
  exact ⟨p, hp, hrows, hlength, tellsStations_of_reachable hp⟩

end Samples

end Stations

end RailwayBooking.Catalogue
