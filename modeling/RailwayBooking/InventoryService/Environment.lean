import RailwayBooking.Concurrency.ReadCommitted
import RailwayBooking.Redis.SeatLock
import RailwayBooking.InventoryService.Repository

namespace RailwayBooking.InventoryService

open Concurrency

/-- `inv:lock:seat:{scheduleId}:{seatInventoryId}:{fromSequence}:{toSequence}`. -/
structure SegmentLockKey where
  scheduleId : Id
  seatInventoryId : Id
  fromSequence : Nat
  toSequence : Nat
  deriving DecidableEq

/-- The operations that are not statements of the database. -/
inductive Aux
  | now
  | lockSeats (keys : List SegmentLockKey) (lockToken : Uuid) (ttlSeconds : Nat)
  | unlockSeats (keys : List SegmentLockKey) (lockToken : Uuid)
  | heartbeat
  | sendToDlq

@[reducible] def AuxAns : Aux → Type
  | .now => Nat
  | .lockSeats _ _ _ => Bool
  | .unlockSeats _ _ => Nat
  | .heartbeat | .sendToDlq => Unit

/-- The clock and the Redis keys. -/
structure Env where
  now : Nat
  seatLocks : Redis.Store SegmentLockKey Uuid

def Env.effect {α : Type} (e : Env) (a : α) (e' : Env) : Choice Empty → Except Err α × Env
  | .fault => (.error .fault, e)
  | .lost => (.error .fault, e')
  | .ok => (.ok a, e')

def ask (e : Env) (_ : Nat) : (a : Aux) → Choice Empty → Option (Except Err (AuxAns a) × Env)
  | .now, _ => some (.ok e.now, e)
  | .lockSeats keys lockToken ttlSeconds, ch =>
      let r := Redis.seatLock e.seatLocks e.now keys lockToken ttlSeconds
      some (e.effect r.1 { e with seatLocks := r.2 } ch)
  | .unlockSeats keys lockToken, ch =>
      let r := Redis.seatUnlock e.seatLocks e.now keys lockToken
      some (e.effect r.1 { e with seatLocks := r.2 } ch)
  | .heartbeat, ch => some (e.effect () e ch)
  | .sendToDlq, ch => some (e.effect () e ch)

/-- Where in the source a transaction is opened. -/
inductive Site
  | hold
  | fail
  | confirm
  | cancel
  | auto
  deriving DecidableEq, Repr

@[reducible] def inventoryService : Service where
  Db := Db
  Sql := Sql
  Rows := Rows
  Write := Write
  Key := Key
  Site := Site
  Aux := Aux
  AuxAns := AuxAns
  Env := Env
  Err := Err
  Reply := Empty
  fault := .fault
  auto := .auto
  run := run
  apply := Write.apply
  keys := Write.keys
  ask := ask
  tick d e := { e with now := e.now + d }

end RailwayBooking.InventoryService
