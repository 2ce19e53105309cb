import RailwayBooking.Concurrency.Remote
import RailwayBooking.Contracts
import RailwayBooking.Redis.Idempotency

namespace RailwayBooking.SearchService

open Concurrency

/-- An error of the projection itself, or a broken connection. -/
inductive Err
  | error (message : String)
  | fault
  deriving DecidableEq

/-- What an update makes of a document: it puts one, leaves it as it is, or does not find
it. -/
inductive Update (Doc : Type)
  | put (doc : Doc)
  | noop
  | notFound

inductive UpdateResult
  | updated
  | noop
  | notFound
  deriving DecidableEq, Repr

/-- The operations on Redis and Elasticsearch. An update is atomic; the event on whose
behalf it is made is named for the log of the requests. -/
inductive Aux (Doc : Type)
  | now
  | reserveIfNew (eventId : Id)
  | markProcessed (eventId : Id)
  | release (eventId : Id)
  | update (eventId id : Id) (script : Option Doc → Update Doc)

@[reducible] def AuxAns {Doc : Type} : Aux Doc → Type
  | .now => Nat
  | .reserveIfNew _ => Bool
  | .markProcessed _ => Unit
  | .release _ => Unit
  | .update _ _ _ => UpdateResult

/-- An update that Elasticsearch has executed, and whether there was a document. -/
structure Request where
  eventId : Id
  id : Id
  found : Bool
  deriving DecidableEq

/-- The clock, the idempotency keys, the documents and the log of the updates. -/
structure Env (Doc : Type) where
  now : Nat
  leases : Redis.Leases
  idempotency : Redis.Store Id Redis.IdempotencyState
  index : Id → Option Doc
  answered : List Request

section Asking

variable {Doc : Type}

def Env.effect {α : Type} (e : Env Doc) (a : α) (e' : Env Doc) :
    Choice Empty → Except Err α × Env Doc
  | .fault => (.error .fault, e)
  | .lost => (.error .fault, e')
  | .ok => (.ok a, e')

def Env.updated (e : Env Doc) (eventId id : Id) :
    Update Doc → UpdateResult × Env Doc
  | .put doc =>
    (.updated, { e with
      index := Function.update e.index id (some doc)
      answered := ⟨eventId, id, true⟩ :: e.answered })
  | .noop => (.noop, { e with answered := ⟨eventId, id, true⟩ :: e.answered })
  | .notFound => (.notFound, { e with answered := ⟨eventId, id, false⟩ :: e.answered })

def ask (e : Env Doc) (_ : Nat) : (a : Aux Doc) → Choice Empty →
    Option (Except Err (AuxAns a) × Env Doc)
  | .now, _ => some (.ok e.now, e)
  | .reserveIfNew eventId, ch =>
      let r := Redis.reserveIfNew e.leases e.idempotency e.now eventId
      some (e.effect r.1 { e with idempotency := r.2 } ch)
  | .markProcessed eventId, ch =>
      let keys := Redis.markProcessed e.leases e.idempotency e.now eventId
      some (e.effect () { e with idempotency := keys } ch)
  | .release eventId, ch =>
      some (e.effect () { e with idempotency := Redis.release e.idempotency e.now eventId } ch)
  | .update eventId id script, ch =>
      let r := e.updated eventId id (script (e.index id))
      some (e.effect r.1 r.2 ch)

end Asking

/-- A service without tables. -/
@[reducible] def projection (Doc : Type) : Service where
  Db := Unit
  Sql := Empty
  Rows q := q.elim
  Write := Empty
  Key := Unit
  Site := Unit
  Aux := Aux Doc
  AuxAns := AuxAns
  Env := Env Doc
  Err := Err
  Reply := Empty
  fault := .fault
  auto := ()
  run q := q.elim
  apply x := x.elim
  keys x := x.elim
  ask := ask
  tick d e := { e with now := e.now + d }

abbrev ProjectionCode (Doc α : Type) := Code (projection Doc) α

/-- `ScheduleProjectionOutcome` and `StationProjectionOutcome`. -/
inductive ProjectionOutcome
  | applied (eventId id : Id)
  | deduped (eventId id : Id)
  deriving DecidableEq

section Code

variable {Doc : Type}

def reserveIfNew (eventId : Id) : ProjectionCode Doc Bool :=
  Code.aux (V := projection Doc) (.reserveIfNew eventId)

def markProcessed (eventId : Id) : ProjectionCode Doc Unit :=
  Code.aux (V := projection Doc) (.markProcessed eventId)

def release (eventId : Id) : ProjectionCode Doc Unit :=
  Code.aux (V := projection Doc) (.release eventId)

def update (eventId id : Id) (script : Option Doc → Update Doc) :
    ProjectionCode Doc UpdateResult :=
  Code.aux (V := projection Doc) (.update eventId id script)

/-- The two projections have the same `dispatch`. -/
def dispatch (eventId id : Id) (apply : ProjectionCode Doc Unit) :
    ProjectionCode Doc ProjectionOutcome := do
  let reserved ← reserveIfNew eventId
  if !reserved then pure (.deduped eventId id)
  else
    Program.attempt
      (do
        apply
        markProcessed eventId
        pure (.applied eventId id))
      (fun err => do
        (release eventId).attempt (fun _ => pure ())
        Program.raise err)

/-- What a delivery of an event asks for, besides the clock and its idempotency key: one
update of its document. -/
inductive Asks (eventId id : Id) (ok : (Option Doc → Update Doc) → Prop) : Aux Doc → Prop
  | now : Asks eventId id ok .now
  | reserveIfNew : Asks eventId id ok (.reserveIfNew eventId)
  | markProcessed : Asks eventId id ok (.markProcessed eventId)
  | release : Asks eventId id ok (.release eventId)
  | update {script : Option Doc → Update Doc} (h : ok script) :
      Asks eventId id ok (.update eventId id script)

theorem issues_dispatch {eventId id : Id} {ok : (Option Doc → Update Doc) → Prop}
    {apply : ProjectionCode Doc Unit}
    (h : Issues (V := projection Doc) (Asks eventId id ok) apply) :
    Issues (V := projection Doc) (Asks eventId id ok) (dispatch eventId id apply) := by
  apply (issues_aux (V := projection Doc) .reserveIfNew).bind
  intro reserved
  cases reserved with
  | false => trivial
  | true =>
    apply Issues.attempt
    · apply h.bind
      intro _
      exact (issues_aux (V := projection Doc) .markProcessed).bind fun _ => trivial
    · intro err
      have hrelease := issues_aux (V := projection Doc)
        (P := Asks eventId id ok) (a := .release eventId) .release
      have hcaught : Issues (V := projection Doc) (Asks eventId id ok)
          ((release eventId).attempt (fun _ => pure ())) := hrelease.attempt fun _ => trivial
      exact hcaught.bind fun _ => trivial

theorem ask_cases {e e' : Env Doc} {i : Nat} {a : Aux Doc} {ch : Choice Empty}
    {r : Except Err (AuxAns a)} (h : ask e i a ch = some (r, e')) :
    (e'.index = e.index ∧ e'.answered = e.answered) ∨
      ∃ eventId id script, a = .update eventId id script ∧
        e' = (e.updated eventId id (script (e.index id))).2 := by
  cases a with
  | now =>
    cases h
    exact .inl ⟨rfl, rfl⟩
  | reserveIfNew | markProcessed | release =>
    cases ch with
    | reply x => exact x.elim
    | _ =>
      cases h
      exact .inl ⟨rfl, rfl⟩
  | update eventId id script =>
    cases ch with
    | reply x => exact x.elim
    | fault =>
      cases h
      exact .inl ⟨rfl, rfl⟩
    | ok | lost =>
      cases h
      exact .inr ⟨eventId, id, script, rfl, rfl⟩

/-- The document after an update. -/
def Update.after (old : Option Doc) : Update Doc → Option Doc
  | .put doc => some doc
  | .noop => old
  | .notFound => old

theorem updated_index (e : Env Doc) (eventId id : Id) (u : Update Doc) :
    (e.updated eventId id u).2.index = Function.update e.index id (u.after (e.index id)) := by
  cases u with
  | put doc => rfl
  | noop => exact (Function.update_eq_self id e.index).symm
  | notFound => exact (Function.update_eq_self id e.index).symm

theorem updated_answered (e : Env Doc) (eventId id : Id) (u : Update Doc) :
    ∃ found, (e.updated eventId id u).2.answered = ⟨eventId, id, found⟩ :: e.answered := by
  cases u with
  | put doc => exact ⟨true, rfl⟩
  | noop => exact ⟨true, rfl⟩
  | notFound => exact ⟨false, rfl⟩

/-- Before the first event. -/
def Env.start (Doc : Type) (leases : Redis.Leases) (now : Nat) : Env Doc :=
  ⟨now, leases, .empty, fun _ => none, []⟩

def start (M : Machine (projection Doc)) (leases : Redis.Leases) (now : Nat) : Pool M :=
  Pool.init () (.start Doc leases now)

end Code

end RailwayBooking.SearchService
