import RailwayBooking.SearchService.Projection

namespace RailwayBooking.SearchService

open Concurrency

/-- `StationCreatedEventV1` and `StationUpdatedEventV1`, as far as they are read. -/
structure StationUpsertEvent where
  eventId : Id
  stationId : Id
  stationCode : String
  stationName : String
  zone : String
  state : Option String
  isActive : Bool
  deriving DecidableEq

structure StationDeactivatedEvent where
  eventId : Id
  stationId : Id
  stationCode : String
  deriving DecidableEq

structure StationDocument where
  stationId : Id
  code : String
  name : String
  zone : String
  state : Option String
  isActive : Bool
  suggest : List String
  deriving DecidableEq

namespace Station

section Code

-- lower case in whatever alphabet
variable (toLowerCase : String → String)

abbrev StationCode (α : Type) := ProjectionCode StationDocument α

def toDocument (event : StationUpsertEvent) : StationDocument where
  stationId := event.stationId
  code := event.stationCode
  name := event.stationName
  zone := event.zone
  state := event.state
  isActive := event.isActive
  suggest := (([some event.stationName, some event.stationCode, some event.zone,
    event.state].filterMap id).filter (· ≠ "")).map toLowerCase

/-- `index` replaces the document. -/
def upsertScript (doc : StationDocument) (_ : Option StationDocument) : Update StationDocument :=
  .put doc

def activeScript (isActive : Bool) : Option StationDocument → Update StationDocument
  | none => .notFound
  | some source => .put { source with isActive := isActive }

def upsert (eventId : Id) (doc : StationDocument) : StationCode Unit := do
  let _ ← update eventId doc.stationId (upsertScript doc)
  pure ()

def updateActiveStatus (eventId stationId : Id) (isActive : Bool) : StationCode Unit := do
  let _ ← update eventId stationId (activeScript isActive)
  pure ()

def applyUpsert (event : StationUpsertEvent) : StationCode ProjectionOutcome :=
  dispatch event.eventId event.stationId (upsert event.eventId (toDocument toLowerCase event))

def applyDeactivated (event : StationDeactivatedEvent) : StationCode ProjectionOutcome :=
  dispatch event.eventId event.stationId (updateActiveStatus event.eventId event.stationId false)

end Code

end Station

inductive StationTopic
  | created
  | updated
  | deactivated
  deriving DecidableEq

/-- An event of one of the three topics. -/
inductive StationEvent
  | created (event : StationUpsertEvent)
  | updated (event : StationUpsertEvent)
  | deactivated (event : StationDeactivatedEvent)
  deriving DecidableEq

namespace StationEvent

def topic : StationEvent → StationTopic
  | .created _ => .created
  | .updated _ => .updated
  | .deactivated _ => .deactivated

def eventId : StationEvent → Id
  | .created event | .updated event => event.eventId
  | .deactivated event => event.eventId

def stationId : StationEvent → Id
  | .created event | .updated event => event.stationId
  | .deactivated event => event.stationId

def upsert? : StationEvent → Option StationUpsertEvent
  | .created event | .updated event => some event
  | .deactivated _ => none

def deactivates (e : StationEvent) : Bool := !(e.upsert?.any StationUpsertEvent.isActive)

end StationEvent

section Machine

variable (toLowerCase : String → String)

def stationBody : StationEvent → ProjectionCode StationDocument ProjectionOutcome
  | .created event | .updated event => Station.applyUpsert toLowerCase event
  | .deactivated event => Station.applyDeactivated event

@[reducible] def stationProjection : Machine (projection StationDocument) :=
  ⟨StationEvent, ProjectionOutcome, stationBody toLowerCase⟩

/-- The update that a delivery of the event makes. -/
def StationEvent.script : StationEvent → Option StationDocument → Update StationDocument
  | .created event | .updated event => Station.upsertScript (Station.toDocument toLowerCase event)
  | .deactivated _ => Station.activeScript false

theorem issues_stationBody (c : StationEvent) :
    Issues (V := projection StationDocument)
      (Asks c.eventId c.stationId (· = c.script toLowerCase)) (stationBody toLowerCase c) := by
  cases c with
  | created event | updated event | deactivated event =>
    apply issues_dispatch
    exact (issues_aux (.update rfl)).bind fun _ => trivial

end Machine

end RailwayBooking.SearchService
