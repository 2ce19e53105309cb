import Mathlib.Logic.Function.Basic
import RailwayBooking.Concurrency.Program
import RailwayBooking.Concurrency.Transition
import RailwayBooking.Kafka.Outbox

namespace RailwayBooking.Kafka

open Concurrency

structure KafkaMessage where
  topic : String
  key : String
  value : String
  headers : List (String × String)
  deriving DecidableEq, Repr

namespace OutboxPublisherWorker

def batchSize : Nat := 50

/-- What the worker awaits: the calls of the repository, the producer and its
`send`. -/
inductive Operation
  | claimPendingEvents (limit : Nat)
  | getProducer
  | send (id : Uuid) (message : KafkaMessage)
  | markPublished (id : Uuid)
  | markFailed (id : Uuid) (error : String) (currentRetryCount : Nat)

@[reducible] def Operation.Ans : Operation → Type
  | .claimPendingEvents _ => List OutboxEvent
  | .markFailed _ _ _ => Bool
  | _ => Unit

@[reducible] def sig : Signature := ⟨Operation, Operation.Ans, String⟩

def addEventIdHeader (event : OutboxEvent) (headers : List (String × String)) :
    List (String × String) :=
  match event.payload.eventId with
  | some (.string s) => setHeader headers eventIdHeader s
  | some (.number n) => setHeader headers eventIdHeader (toString n)
  | some .other | none => headers

def buildHeaders (event : OutboxEvent) : List (String × String) :=
  addEventIdHeader event (event.headers.foldl (fun hs x => setHeader hs x.1 x.2) [])

def message (event : OutboxEvent) : KafkaMessage :=
  ⟨event.topic, event.aggregateId, event.payload.text, buildHeaders event⟩

def handlePublishFailure (event : OutboxEvent) (error : String) : Program sig Unit :=
  (do
    let _ ← Program.issue (L := sig) (.markFailed event.id error event.retryCount)
    pure ()).attempt (fun _ => pure ())

def publishEvent (event : OutboxEvent) : Program sig Unit :=
  (do
    let _ ← Program.issue (L := sig) (.send event.id (message event))
    let _ ← Program.issue (L := sig) (.markPublished event.id)
    pure ()).attempt (handlePublishFailure event)

def pollAndPublish : Program sig Unit := do
  let events ← Program.issue (L := sig) (.claimPendingEvents batchSize)
  if events.length = 0 then
    pure ()
  else
    let _ ← Program.issue (L := sig) .getProducer
    Program.each events publishEvent

def logged (p : Program sig Unit) : Program sig Unit := p.attempt (fun _ => pure ())

/-- The callback of `schedulePoll`. -/
def pollCycle : Program sig Unit := logged pollAndPublish

/-- Where a worker stands in its poll cycle, by what it awaits next and the
events of its batch that are still to come. -/
inductive Poll
  | idle
  | claiming
  | connecting (events : List OutboxEvent)
  | sending (event : OutboxEvent) (rest : List OutboxEvent)
  | marking (event : OutboxEvent) (rest : List OutboxEvent)
  | failing (event : OutboxEvent) (error : String) (rest : List OutboxEvent)
  deriving DecidableEq, Repr

namespace Poll

def batch : Poll → List OutboxEvent
  | .idle | .claiming => []
  | .connecting events => events
  | .sending e rest | .marking e rest | .failing e _ rest => e :: rest

def publishing : List OutboxEvent → Poll
  | [] => .idle
  | e :: rest => .sending e rest

def operation : Poll → Option Operation
  | .idle => none
  | .claiming => some (.claimPendingEvents batchSize)
  | .connecting _ => some .getProducer
  | .sending e _ => some (.send e.id (message e))
  | .marking e _ => some (.markPublished e.id)
  | .failing e error _ => some (.markFailed e.id error e.retryCount)

def onError (error : String) : Poll → Poll
  | .sending e rest | .marking e rest => .failing e error rest
  | .failing _ _ rest => publishing rest
  | .idle | .claiming | .connecting _ => .idle

def onClaim (events : List OutboxEvent) : Poll :=
  if events.length = 0 then .idle else .connecting events

def onDone : Poll → Poll
  | .connecting events => publishing events
  | .sending e rest => .marking e rest
  | .marking _ rest | .failing _ _ rest => publishing rest
  | .idle | .claiming => .idle

def next (p : Poll) : (op : Operation) → Except String op.Ans → Poll
  | _, .error error => p.onError error
  | .claimPendingEvents _, .ok events => onClaim events
  | _, .ok _ => p.onDone

/-- What is left of `pollCycle`. -/
def code : Poll → Program sig Unit
  | .idle => pure ()
  | .claiming => pollCycle
  | .connecting events =>
      logged (do
        let _ ← Program.issue (L := sig) .getProducer
        Program.each events publishEvent)
  | .sending e rest => logged ((publishEvent e).handle (fun _ => Program.each rest publishEvent) .raise)
  | .marking e rest =>
      logged (Program.handle
        ((do
          let _ ← Program.issue (L := sig) (.markPublished e.id)
          pure ()).attempt (handlePublishFailure e))
        (fun _ => Program.each rest publishEvent) .raise)
  | .failing e error rest =>
      logged ((handlePublishFailure e error).handle
        (fun _ => Program.each rest publishEvent) .raise)

theorem code_publishing (events : List OutboxEvent) :
    (publishing events).code = logged (Program.each events publishEvent) := by
  cases events with
  | nil => rfl
  | cons e rest => rfl

/-- The points of a poll are those of the code: it awaits the operation of its
point, and the answer takes it to the code of the next point. -/
theorem code_eq (p : Poll) :
    p.code = match p.operation with
      | none => .ret ()
      | some op => .call op (fun r => (p.next op r).code) := by
  cases p with
  | idle => rfl
  | claiming =>
    apply congrArg (Program.call (L := sig) (.claimPendingEvents batchSize))
    funext r
    cases r with
    | error error => rfl
    | ok events =>
      cases events with
      | nil => rfl
      | cons e rest => rfl
  | connecting events =>
    apply congrArg (Program.call (L := sig) .getProducer)
    funext r
    cases r with
    | error error => rfl
    | ok a => exact (code_publishing events).symm
  | sending e rest =>
    apply congrArg (Program.call (L := sig) (.send e.id (message e)))
    funext r
    cases r with
    | error error => rfl
    | ok a => rfl
  | marking e rest =>
    apply congrArg (Program.call (L := sig) (.markPublished e.id))
    funext r
    cases r with
    | error error => rfl
    | ok a => exact (code_publishing rest).symm
  | failing e error rest =>
    apply congrArg (Program.call (L := sig) (.markFailed e.id error e.retryCount))
    funext r
    cases r with
    | error error => exact (code_publishing rest).symm
    | ok a => exact (code_publishing rest).symm

end Poll

end OutboxPublisherWorker

end RailwayBooking.Kafka
