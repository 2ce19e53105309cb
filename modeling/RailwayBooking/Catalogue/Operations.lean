import Mathlib.Data.Nat.Pairing
import RailwayBooking.Concurrency.Rules
import RailwayBooking.Catalogue.Schema

namespace RailwayBooking.Catalogue

open Concurrency

/-- The operations that are not statements of the database. -/
inductive Aux
  | now
  | randomUUID

@[reducible] def AuxAns : Aux → Type
  | .now => Nat
  | .randomUUID => Id

/-- The clock, and how many random ids were drawn. -/
structure Env where
  now : Nat
  drawn : Nat

variable (K : Kind)

/-- As for `Uuid`, no two draws give the same id. -/
def ask (e : Env) (i : Nat) :
    (a : Aux) → Choice Empty → Option (Except (Err K) (AuxAns a) × Env)
  | .now, _ => some (.ok e.now, e)
  | .randomUUID, _ => some (.ok (Nat.pair i e.drawn), { e with drawn := e.drawn + 1 })

/-- Where in the source a transaction is opened. -/
inductive Site
  | auto
  | create
  | update
  | deactivate
  deriving DecidableEq, Repr

@[reducible] def service : Service where
  Db := Db K
  Sql := Sql K
  Rows := Rows
  Write := Write K
  Key := Key K
  Site := Site
  Aux := Aux
  AuxAns := AuxAns
  Env := Env
  Err := Err K
  Reply := Empty
  fault := .fault
  auto := .auto
  run := run
  apply := Write.apply
  keys := Write.keys
  ask := ask K
  tick d e := { e with now := e.now + d }

abbrev CatalogueCode (α : Type) := Code (service K) α

variable {K}

def raise {α : Type} (e : Err K) : CatalogueCode K α := Program.raise e

def now : CatalogueCode K Nat := Code.aux (V := service K) .now

def randomUUID : CatalogueCode K Id := Code.aux (V := service K) .randomUUID

def sql (tx : Nat) (q : Sql K) : CatalogueCode K (Rows q) := Code.sql (V := service K) (some tx) q

/-- `P2002` is answered with a conflict. -/
def existsAlready {α : Type} : Err K → CatalogueCode K α
  | .uniqueViolation => raise (.api 409 K.alreadyExists)
  | e => raise e

def ensureUnique (tx : Nat) (column : K.Column) : CatalogueCode K Unit := do
  let existing ← sql tx (.getByColumn column)
  if existing.isSome then raise (.api 409 K.alreadyExists) else return ()

def announce (tx : Nat) (event : Id → Option K.Event) : CatalogueCode K Unit := do
  let eventId ← randomUUID
  match event eventId with
  | none => raise .validation
  | some event => sql tx (.insertOutbox event)

def create (dto : K.Create) : CatalogueCode K K.Row :=
  (Code.transaction (V := service K) .create (fun tx => do
    ensureUnique tx (K.wanted dto)
    let id ← randomUUID
    let time ← now
    let row ← sql tx (.create (K.new dto id time))
    announce tx (fun eventId => K.created eventId row)
    return row)).attempt existsAlready

def ensureChangeable (tx : Nat) : Option K.Column → CatalogueCode K Unit
  | none => pure ()
  | some column => ensureUnique tx column

def update (id : Id) (dto : K.Update) : CatalogueCode K K.Row :=
  (Code.transaction (V := service K) .update (fun tx => do
    let row ← sql tx (.getById id)
    match row with
    | none => raise (.api 404 K.notFound)
    | some row =>
      ensureChangeable tx (K.changed dto row)
      let time ← now
      let updatedRow ← sql tx (.update id (K.data dto) time)
      announce tx (fun eventId => K.updated eventId updatedRow)
      return updatedRow)).attempt existsAlready

def deactivate (id : Id) : CatalogueCode K K.Row :=
  Code.transaction (V := service K) .deactivate (fun tx => do
    let row ← sql tx (.getById id)
    match row with
    | none => raise (.api 404 K.notFound)
    | some row =>
      if !K.isActive row then return row
      else do
        let time ← now
        let deactivatedRow ← sql tx (.update id K.inactive time)
        announce tx (fun eventId => K.deactivated eventId deactivatedRow)
        return deactivatedRow)

variable (K)

inductive Call
  | create (dto : K.Create)
  | update (id : Id) (dto : K.Update)
  | deactivate (id : Id)

variable {K}

def body : Call K → CatalogueCode K K.Row
  | .create dto => create dto
  | .update id dto => update id dto
  | .deactivate id => deactivate id

variable (K)

@[reducible] def machine : Machine (service K) := ⟨Call K, K.Row, body⟩

/-- The service on empty tables. -/
def start (now : Nat) : Pool (machine K) := Pool.init ⟨[], []⟩ ⟨now, 0⟩

end RailwayBooking.Catalogue
