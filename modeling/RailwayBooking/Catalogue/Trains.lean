import RailwayBooking.AdminService.Operations
import RailwayBooking.Catalogue.Sound

namespace RailwayBooking.Catalogue

open Concurrency
open AdminService (TrainCategory)

namespace Trains

/-- The times are in milliseconds. -/
structure Train where
  id : Id
  trainNumber : String
  trainName : String
  category : TrainCategory
  isActive : Bool
  createdAt : Nat
  updatedAt : Nat
  deriving DecidableEq

structure CreateTrainRequest where
  trainNumber : String
  trainName : String
  category : TrainCategory
  isActive : Bool
  deriving DecidableEq

/-- The entries that are not undefined are the columns that the update sets. -/
structure UpdateTrainRequest where
  trainNumber : Option String
  trainName : Option String
  category : Option TrainCategory
  isActive : Option Bool
  deriving DecidableEq

inductive ErrorCode
  | trainAlreadyExists
  | trainNotFound
  deriving DecidableEq, Repr

/-- `TrainCreatedEventV1` and `TrainUpdatedEventV1` but for their times. Of the contract's
categories there are fewer than of the tables'. -/
structure TrainData where
  eventId : Id
  trainId : Id
  trainNumber : String
  trainName : String
  category : ScheduleService.TrainCategory
  isActive : Bool
  deriving DecidableEq

inductive TrainEvent
  | created (payload : TrainData) (createdAt : Nat)
  | updated (payload : TrainData) (updatedAt : Nat)
  | deactivated (eventId trainId : Id) (trainNumber : String) (deactivatedAt : Nat)
  deriving DecidableEq

namespace TrainEvent

def eventId : TrainEvent → Id
  | .created payload _ | .updated payload _ => payload.eventId
  | .deactivated eventId _ _ _ => eventId

def trainId : TrainEvent → Id
  | .created payload _ | .updated payload _ => payload.trainId
  | .deactivated _ trainId _ _ => trainId

end TrainEvent

section TrainEventMapper

def trainData (eventId : Id) (train : Train) (category : ScheduleService.TrainCategory) :
    TrainData :=
  ⟨eventId, train.id, train.trainNumber, train.trainName, category, train.isActive⟩

def toCreatedEvent (eventId : Id) (train : Train) : Option TrainEvent :=
  train.category.contract.map fun category =>
    .created (trainData eventId train category) train.createdAt

def toUpdatedEvent (eventId : Id) (train : Train) : Option TrainEvent :=
  train.category.contract.map fun category =>
    .updated (trainData eventId train category) train.updatedAt

def toDeactivatedEvent (eventId : Id) (train : Train) : TrainEvent :=
  .deactivated eventId train.id train.trainNumber train.updatedAt

theorem toCreatedEvent_eq_some {eventId : Id} {train : Train} {e : TrainEvent} :
    toCreatedEvent eventId train = some e ↔ ∃ category, train.category.contract = some category ∧
      .created (trainData eventId train category) train.createdAt = e :=
  Option.map_eq_some_iff

theorem toUpdatedEvent_eq_some {eventId : Id} {train : Train} {e : TrainEvent} :
    toUpdatedEvent eventId train = some e ↔ ∃ category, train.category.contract = some category ∧
      .updated (trainData eventId train category) train.updatedAt = e :=
  Option.map_eq_some_iff

end TrainEventMapper

def newTrain (dto : CreateTrainRequest) (id : Id) (now : Nat) : Train :=
  ⟨id, dto.trainNumber, dto.trainName, dto.category, dto.isActive, now, now⟩

def UpdateTrainRequest.set (updatedData : UpdateTrainRequest) (now : Nat) (train : Train) : Train :=
  { train with
    trainNumber := updatedData.trainNumber.getD train.trainNumber
    trainName := updatedData.trainName.getD train.trainName
    category := updatedData.category.getD train.category
    isActive := updatedData.isActive.getD train.isActive
    updatedAt := now }

/-- An empty number is not looked up. -/
def UpdateTrainRequest.changed (dto : UpdateTrainRequest) (train : Train) : Option String :=
  match dto.trainNumber with
  | none => none
  | some trainNumber =>
    if trainNumber ≠ "" ∧ trainNumber ≠ train.trainNumber then some trainNumber else none

@[reducible] def trains : Kind where
  Row := Train
  Create := CreateTrainRequest
  Update := UpdateTrainRequest
  Data := UpdateTrainRequest
  Column := String
  Event := TrainEvent
  ErrorCode := ErrorCode
  id := Train.id
  isActive := Train.isActive
  columns train := [train.trainNumber]
  new := newTrain
  wanted dto := dto.trainNumber
  data dto := dto
  changed := UpdateTrainRequest.changed
  inactive := ⟨none, none, none, some false⟩
  set := UpdateTrainRequest.set
  created := toCreatedEvent
  updated := toUpdatedEvent
  deactivated eventId train := some (toDeactivatedEvent eventId train)
  eventId := TrainEvent.eventId
  recordId := TrainEvent.trainId
  notFound := .trainNotFound
  alreadyExists := .trainAlreadyExists
  set_id _ _ _ := rfl
  named_created _ _ _ h := by
    obtain ⟨category, -, rfl⟩ := toCreatedEvent_eq_some.mp h
    exact ⟨rfl, rfl⟩
  named_updated _ _ _ h := by
    obtain ⟨category, -, rfl⟩ := toUpdatedEvent_eq_some.mp h
    exact ⟨rfl, rfl⟩
  named_deactivated _ _ _ h := by cases h; exact ⟨rfl, rfl⟩

section TrainService

abbrev TrainCode (α : Type) := CatalogueCode trains α

def createTrain (dto : CreateTrainRequest) : TrainCode Train := create (K := trains) dto

def updateTrain (trainId : Id) (dto : UpdateTrainRequest) : TrainCode Train :=
  update (K := trains) trainId dto

def deactivateTrain (trainId : Id) : TrainCode Train := deactivate trainId

theorem body_trains (c : Call trains) : body c = match c with
    | .create dto => createTrain dto
    | .update trainId dto => updateTrain trainId dto
    | .deactivate trainId => deactivateTrain trainId := by
  cases c <;> rfl

end TrainService

section Replay

structure PublishedTrain where
  trainId : Id
  trainNumber : String
  trainName : String
  category : Option ScheduleService.TrainCategory
  isActive : Bool
  deriving DecidableEq

def published (train : Train) : PublishedTrain :=
  ⟨train.id, train.trainNumber, train.trainName, train.category.contract, train.isActive⟩

def TrainData.published (payload : TrainData) : PublishedTrain :=
  ⟨payload.trainId, payload.trainNumber, payload.trainName, some payload.category,
    payload.isActive⟩

/-- A consumer that knows the trains from the events alone. -/
def consumer : Reader TrainEvent Id PublishedTrain where
  key := TrainEvent.trainId
  apply
    | .created payload _, _ | .updated payload _, _ => some payload.published
    | .deactivated _ _ _ _, d => d.map (fun train => { train with isActive := false })

theorem reads_consumer : Reads (K := trains) consumer published where
  key _ := rfl
  created h _ := by
    obtain ⟨category, hcategory, rfl⟩ := toCreatedEvent_eq_some.mp h
    exact congrArg some (by simp [TrainData.published, published, trainData, hcategory])
  updated h _ := by
    obtain ⟨category, hcategory, rfl⟩ := toUpdatedEvent_eq_some.mp h
    exact congrArg some (by simp [TrainData.published, published, trainData, hcategory])
  deactivated h := by cases h; rfl

end Replay

/-- The outbox tells of each train what its row holds, and no train has a category that the
contract lacks: of those that a request may name `MAIL`, `JAN_SHATABDI` and `GARIB_RATH` are
refused by the schema of the event, and the transaction is rolled back. -/
structure TellsTrains (d : Db trains) : Prop where
  mirrors : consumer.Mirrors d.outbox (fun k => (rowOf d k).map published)
  categories : ∀ train ∈ d.rows, ∃ category, train.category.contract = some category

theorem tellsTrains_of_inv {w : CatalogueWorld trains} (h : Inv w) : TellsTrains w.db := by
  refine ⟨reads_consumer.mirrors h.recorded, fun train htrain => ?_⟩
  have hrow : rowOf w.db train.id = some train := by
    have hstands : rowOf w.db train.id ≠ none := fun hnone => rowOf_eq_none.mp hnone train htrain rfl
    obtain ⟨found, hfound⟩ := Option.ne_none_iff_exists'.mp hstands
    rw [hfound, List.inj_on_of_nodup_map h.ids (rowOf_mem hfound) htrain (rowOf_id hfound)]
  refine (h.recorded train.id).row_induction (P := fun train : Train =>
    ∃ category, train.category.contract = some category) ?_ ?_ ?_ train hrow
  · intro eventId row e he
    obtain ⟨category, hcategory, -⟩ := toCreatedEvent_eq_some.mp he
    exact ⟨category, hcategory⟩
  · intro eventId row e he
    obtain ⟨category, hcategory, -⟩ := toUpdatedEvent_eq_some.mp he
    exact ⟨category, hcategory⟩
  · exact fun _ _ h => h

/-- In every run of requests on trains the outbox tells of each train what its row holds, and
only categories of the contract are stored. -/
theorem tellsTrains_of_reachable {now : Nat} {p : Pool (machine trains)}
    (h : Reachable (allRuns trains) (start trains now) p) : TellsTrains p.world.db :=
  tellsTrains_of_inv (inv_of_reachable h)

section Samples

def sampleTrain (category : TrainCategory) : CreateTrainRequest :=
  ⟨"12301", "Rajdhani Express", category, true⟩

/-- A mail train is refused, and a train is not made one. -/
theorem tellsTrains_mail : ∃ p, Reachable (allRuns trains) (start trains 0) p ∧
    p.world.db.rows.map Train.category = [.rajdhani] ∧ p.world.db.outbox.length = 2 ∧
      TellsTrains p.world.db := by
  obtain ⟨p, hp, ht⟩ := exists_reachable (allRuns trains) (start trains 0) (fun _ _ => true)
    [.call (.create (sampleTrain .mail)), .burst 0 20, .call (.create (sampleTrain .rajdhani)),
      .burst 1 20, .call (.update (Nat.pair 1 2) ⟨none, none, some .mail, none⟩), .burst 2 20,
      .call (.deactivate (Nat.pair 1 2)), .burst 3 20]
    (fun p => decide (p.world.db.rows.map Train.category = [.rajdhani] ∧
      p.world.db.outbox.length = 2))
    (fun p a _ => permits_calls p a) (fun _ _ _ _ _ => trivial) (by decide +kernel)
  obtain ⟨hrows, hlength⟩ := of_decide_eq_true ht
  exact ⟨p, hp, hrows, hlength, tellsTrains_of_reachable hp⟩

end Samples

end Trains

end RailwayBooking.Catalogue
