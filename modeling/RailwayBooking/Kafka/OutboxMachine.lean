import RailwayBooking.Kafka.OutboxWorker

namespace RailwayBooking.Kafka

open Concurrency OutboxPublisherWorker PostgresOutboxRepository

structure Accepted where
  id : Uuid
  message : KafkaMessage
  deriving DecidableEq, Repr

/-- The table, the broker and the workers. `claimant` remembers whose claim of a
row is the latest; no operation reads it. -/
structure Outbox where
  rows : List OutboxRow
  accepted : List Accepted
  claimant : Uuid → Option Nat
  polls : Nat → Poll
  now : Nat

/-- An awaited operation succeeds, fails without effect, or takes effect and
fails before its answer arrives. -/
inductive Outcome
  | ok
  | fault (error : String)
  | lost (error : String)
  deriving DecidableEq, Repr

namespace Outcome

def applies : Outcome → Bool
  | .fault _ => false
  | _ => true

def answer {α : Type} (a : α) : Outcome → Except String α
  | .ok => .ok a
  | .fault error | .lost error => .error error

end Outcome

namespace Outbox

/-- What happens next: an aggregate's transaction commits an event, a worker's
timer fires or its poll goes on, a maintenance sweep runs, a worker crashes, time
passes. `createdAt` is fixed when the transaction starts. -/
inductive Label
  | insert (id : Uuid) (createdAt : Nat) (data : CreateOutboxEventData)
  | poll (i : Nat)
  | run (i : Nat) (skipped : List Uuid) (o : Outcome)
  | requeueFailedEvents
  | resetStuckProcessingEvents
  | crash (i : Nat)
  | tick (d : Nat)

def acceptedIds (s : Outbox) : List Uuid := s.accepted.map Accepted.id

def setPoll (s : Outbox) (i : Nat) (p : Poll) : Outbox :=
  { s with polls := Function.update s.polls i p }

/-- What an operation of worker `i` changes. -/
def effect (s : Outbox) (i : Nat) (skipped : List Uuid) : Operation → Outbox
  | .claimPendingEvents limit =>
      { s with
        rows := claimPendingEvents s.now limit skipped s.rows
        claimant := fun id =>
          if id ∈ (claimed limit skipped s.rows).map OutboxEvent.id then some i
          else s.claimant id }
  | .getProducer => s
  | .send id message => { s with accepted := s.accepted ++ [⟨id, message⟩] }
  | .markPublished id => { s with rows := markPublished s.now id s.rows }
  | .markFailed id error currentRetryCount =>
      { s with rows := markFailed s.now id error currentRetryCount s.rows }

def result (s : Outbox) (skipped : List Uuid) : (op : Operation) → op.Ans
  | .claimPendingEvents limit => claimed limit skipped s.rows
  | .markFailed id _ currentRetryCount => becameDead id currentRetryCount s.rows
  | .getProducer | .send _ _ | .markPublished _ => ()

/-- Worker `i`, about to issue `op`, goes on. -/
def perform (s : Outbox) (i : Nat) (skipped : List Uuid) (o : Outcome) (op : Operation) : Outbox :=
  (if o.applies then s.effect i skipped op else s).setPoll i
    ((s.polls i).next op (o.answer (s.result skipped op)))

def step (s : Outbox) : Label → Option Outbox
  | .insert id createdAt data =>
      if createdAt ≤ s.now ∧ id ∉ s.rows.map OutboxRow.id then
        some { s with rows := s.rows ++ [OutboxRow.create id createdAt s.now data] }
      else none
  | .poll i => if s.polls i = .idle then some (s.setPoll i .claiming) else none
  | .run i skipped o => (s.polls i).operation.map (s.perform i skipped o)
  | .requeueFailedEvents => some { s with rows := requeueFailedEvents s.now s.rows }
  | .resetStuckProcessingEvents => some { s with rows := resetStuckProcessingEvents s.now s.rows }
  | .crash i => some (s.setPoll i .idle)
  | .tick d => some { s with now := s.now + d }

def init (now : Nat) : Outbox := ⟨[], [], fun _ => none, fun _ => .idle, now⟩

@[reducible] def system : System := ⟨Outbox, Label, step⟩

section SetPoll

variable (s : Outbox) (i : Nat) (p : Poll)

@[simp] theorem setPoll_rows : (s.setPoll i p).rows = s.rows := rfl

@[simp] theorem setPoll_accepted : (s.setPoll i p).accepted = s.accepted := rfl

@[simp] theorem setPoll_acceptedIds : (s.setPoll i p).acceptedIds = s.acceptedIds := rfl

@[simp] theorem setPoll_claimant : (s.setPoll i p).claimant = s.claimant := rfl

@[simp] theorem setPoll_now : (s.setPoll i p).now = s.now := rfl

theorem setPoll_polls (j : Nat) :
    (s.setPoll i p).polls j = if j = i then p else s.polls j := by
  simp [setPoll, Function.update_apply]

end SetPoll

@[simp] theorem effect_polls (s : Outbox) (i : Nat) (skipped : List Uuid) (op : Operation) :
    (s.effect i skipped op).polls = s.polls := by
  cases op <;> rfl

/-- What a step of a worker's poll does, by the point the poll stands at. -/
inductive Performs (s : Outbox) (i : Nat) (skipped : List Uuid) : Outcome → Outbox → Prop
  | claimed {o : Outcome} {p : Poll} (point : s.polls i = .claiming) (applies : o.applies = true)
      (next : p = .idle ∨ p = .connecting (claimed batchSize skipped s.rows)) :
      Performs s i skipped o ((s.effect i skipped (.claimPendingEvents batchSize)).setPoll i p)
  | refused {error : String} (point : s.polls i = .claiming) :
      Performs s i skipped (.fault error) (s.setPoll i .idle)
  | connected {o : Outcome} {events : List OutboxEvent} {p : Poll}
      (point : s.polls i = .connecting events) (next : p = .idle ∨ p = .publishing events) :
      Performs s i skipped o (s.setPoll i p)
  | sent {o : Outcome} {e : OutboxEvent} {rest : List OutboxEvent} {p : Poll}
      (point : s.polls i = .sending e rest) (applies : o.applies = true)
      (next : p = .marking e rest ∨ ∃ error, p = .failing e error rest) :
      Performs s i skipped o ((s.effect i skipped (.send e.id (message e))).setPoll i p)
  | unsent {e : OutboxEvent} {error : String} {rest : List OutboxEvent}
      (point : s.polls i = .sending e rest) :
      Performs s i skipped (.fault error) (s.setPoll i (.failing e error rest))
  | marked {o : Outcome} {e : OutboxEvent} {rest : List OutboxEvent} {p : Poll}
      (point : s.polls i = .marking e rest) (applies : o.applies = true)
      (next : p = .publishing rest ∨ ∃ error, p = .failing e error rest) :
      Performs s i skipped o ((s.effect i skipped (.markPublished e.id)).setPoll i p)
  | unmarked {e : OutboxEvent} {error : String} {rest : List OutboxEvent}
      (point : s.polls i = .marking e rest) :
      Performs s i skipped (.fault error) (s.setPoll i (.failing e error rest))
  | failed {o : Outcome} {e : OutboxEvent} {error : String} {rest : List OutboxEvent}
      (point : s.polls i = .failing e error rest) (applies : o.applies = true) :
      Performs s i skipped o
        ((s.effect i skipped (.markFailed e.id error e.retryCount)).setPoll i (.publishing rest))
  | unfailed {e : OutboxEvent} {error error' : String} {rest : List OutboxEvent}
      (point : s.polls i = .failing e error rest) :
      Performs s i skipped (.fault error') (s.setPoll i (.publishing rest))

theorem performs {s s' : Outbox} {i : Nat} {skipped : List Uuid} {o : Outcome}
    (h : s.step (.run i skipped o) = some s') : Performs s i skipped o s' := by
  simp only [step, Option.map_eq_some_iff] at h
  obtain ⟨op, hop, rfl⟩ := h
  unfold perform
  cases hp : s.polls i with
  | idle =>
    rw [hp] at hop
    cases hop
  | claiming =>
    rw [hp] at hop
    cases hop
    cases o with
    | ok =>
      apply Performs.claimed hp rfl
      simp only [Poll.next, Poll.onClaim, Outcome.answer, result]
      split
      · exact .inl rfl
      · exact .inr rfl
    | fault error => exact .refused hp
    | lost error => exact .claimed hp rfl (.inl rfl)
  | connecting events =>
    rw [hp] at hop
    cases hop
    cases o with
    | ok => exact .connected hp (.inr rfl)
    | fault error => exact .connected hp (.inl rfl)
    | lost error => exact .connected hp (.inl rfl)
  | sending e rest =>
    rw [hp] at hop
    cases hop
    cases o with
    | ok => exact .sent hp rfl (.inl rfl)
    | fault error => exact .unsent hp
    | lost error => exact .sent hp rfl (.inr ⟨error, rfl⟩)
  | marking e rest =>
    rw [hp] at hop
    cases hop
    cases o with
    | ok => exact .marked hp rfl (.inl rfl)
    | fault error => exact .unmarked hp
    | lost error => exact .marked hp rfl (.inr ⟨error, rfl⟩)
  | failing e error rest =>
    rw [hp] at hop
    cases hop
    cases o with
    | ok => exact .failed hp rfl
    | fault error => exact .unfailed hp
    | lost error => exact .failed hp rfl

end Outbox

end RailwayBooking.Kafka
