import Mathlib.Data.Nat.Pairing
import RailwayBooking.Concurrency.Rules
import RailwayBooking.CoachService.Schema

namespace RailwayBooking.CoachService

open Concurrency

/-- The operations that are not statements of the database. -/
inductive Aux
  | uuids (count : Nat)

@[reducible] def AuxAns : Aux → Type
  | .uuids _ => List Id

/-- How many random ids were drawn. -/
structure Env where
  drawn : Nat

/-- As for `Uuid`, no two draws give the same id. -/
def drawIds (i drawn count : Nat) : List Id :=
  (List.range count).map (fun k => Nat.pair i (drawn + k))

def ask (e : Env) (i : Nat) : (a : Aux) → Choice Empty → Option (Except Err (AuxAns a) × Env)
  | .uuids count, _ => some (.ok (drawIds i e.drawn count), { e with drawn := e.drawn + count })

/-- Where in the source a transaction is opened. -/
inductive Site
  | auto
  | addCoach
  | updateCoach
  | deleteCoach
  | bulkCreateSeats
  | resetSeats
  deriving DecidableEq, Repr

@[reducible] def coachService : Service where
  Db := Db
  Sql := Sql
  Rows := Rows
  Write := Write
  Key := Key
  Site := Site
  Aux := Aux
  AuxAns := AuxAns
  Env := Env
  Err := Err
  Reply := Empty
  fault := .fault
  auto := .auto
  run := run
  apply := Write.apply
  keys := Write.keys
  ask := ask
  tick _ e := e

abbrev CoachCode (α : Type) := Code coachService α

def raise {α : Type} (e : Err) : CoachCode α := Program.raise e

/-- `new ApiError(statusCode.notFound, code)`. -/
def notFound {α : Type} (code : ErrorCode) : CoachCode α := raise (.api 404 code none)

/-- `new ApiError(statusCode.conflict, code)`. -/
def conflict {α : Type} (code : ErrorCode) (message : Option String) : CoachCode α :=
  raise (.api 409 code message)

def uuids (count : Nat) : CoachCode (List Id) := Code.aux (V := coachService) (.uuids count)

def randomUUID : CoachCode Id := do
  let ids ← uuids 1
  return ids.headD 0

def sql (tx : Nat) (q : Sql) : CoachCode (Rows q) := Code.sql (V := coachService) (some tx) q

/-- `P2002` is answered with a conflict. -/
def coachExists {α : Type} : Err → CoachCode α
  | .uniqueViolation => conflict .coachAlreadyExists none
  | e => raise e

section CoachService

structure CreateCoachRequest where
  coachNumber : String
  coachType : CoachType
  totalSeats : Nat
  deriving DecidableEq

structure UpdateCoachRequest where
  coachNumber : Option String
  coachType : Option CoachType
  totalSeats : Option Nat
  deriving DecidableEq

def UpdateCoachRequest.updatedData (dto : UpdateCoachRequest) : CoachUpdate where
  coachNumber := dto.coachNumber
  coachType := dto.coachType
  totalSeats := dto.totalSeats
  isActive := none

/-- `COACH_CAPACITY`. -/
def coachCapacity : CoachType → Nat × Nat
  | .gen => (90, 120)
  | .sl => (72, 80)
  | .ac3e => (72, 80)
  | .ac3a => (64, 72)
  | .ac2a => (46, 54)
  | .ac1a => (18, 24)
  | .cc => (73, 78)
  | .ec => (52, 56)

def capacityMessage (finalType : CoachType) : String :=
  "Capacity for coach type " ++ finalType.name ++ " must be between " ++
    toString (coachCapacity finalType).1 ++ " and " ++ toString (coachCapacity finalType).2 ++
    " seats."

def ensureUniqueCoachNumber (tx : Nat) (trainId : Id) (coachNumber : String) :
    CoachCode Unit := do
  let existing ← sql tx (.getCoachByNumber trainId coachNumber)
  if existing.isSome then conflict .coachAlreadyExists none else return ()

/-- `CoachCreatedEventV1.parse` wants a positive number of seats. -/
def coachCreatedEvent (coach : Coach) : CoachCode OutboxEvent := do
  let eventId ← randomUUID
  if coach.totalSeats = 0 then raise .validation
  else
    return .coachCreated eventId coach.id coach.trainId coach.coachNumber coach.coachType
      coach.totalSeats

def addCoach (trainId : Id) (dto : CreateCoachRequest) : CoachCode Coach :=
  (Code.transaction (V := coachService) .addCoach (fun tx => do
    let train ← sql tx (.getTrainById trainId)
    if train.isNone then notFound .trainNotFound
    else do
      ensureUniqueCoachNumber tx trainId dto.coachNumber
      let id ← randomUUID
      let coach ← sql tx (.createCoach ⟨id, trainId, dto.coachNumber, dto.coachType,
        dto.totalSeats, true⟩)
      let payload ← coachCreatedEvent coach
      sql tx (.insertOutbox payload)
      return coach)).attempt coachExists

def ensureLayoutChangeable (tx : Nat) (coachId : Id) (coach : Coach) (dto : UpdateCoachRequest) :
    CoachCode Unit := do
  if dto.coachType.isSome || dto.totalSeats.isSome then do
    let seatCount ← sql tx (.countSeatsByCoachId coachId)
    if seatCount > 0 then conflict .seatsAlreadyGenerated none
    else
      let finalType := dto.coachType.getD coach.coachType
      let finalSeats := dto.totalSeats.getD coach.totalSeats
      let range := coachCapacity finalType
      if finalSeats < range.1 || finalSeats > range.2 then
        raise (.api 400 .invalidInput (some (capacityMessage finalType)))
      else return ()
  else return ()

def ensureNumberChangeable (tx : Nat) (coach : Coach) : Option String → CoachCode Unit
  | none => pure ()
  | some coachNumber =>
    if coachNumber ≠ "" ∧ coachNumber ≠ coach.coachNumber then
      ensureUniqueCoachNumber tx coach.trainId coachNumber
    else pure ()

def updateCoach (coachId : Id) (dto : UpdateCoachRequest) : CoachCode Coach :=
  (Code.transaction (V := coachService) .updateCoach (fun tx => do
    let coach ← sql tx (.getCoachById coachId)
    match coach with
    | none => notFound .coachNotFound
    | some coach =>
      ensureLayoutChangeable tx coachId coach dto
      ensureNumberChangeable tx coach dto.coachNumber
      sql tx (.updateCoach coachId dto.updatedData))).attempt coachExists

def deleteCoach (coachId : Id) : CoachCode Coach :=
  Code.transaction (V := coachService) .deleteCoach (fun tx => do
    let coach ← sql tx (.getCoachById coachId)
    match coach with
    | none => notFound .coachNotFound
    | some _ =>
      let seatCount ← sql tx (.countSeatsByCoachId coachId)
      if seatCount > 0 then
        conflict .seatsAlreadyGenerated
          (some "Cannot delete coach because generated seats exist. Reset seats first.")
      else sql tx (.updateCoach coachId ⟨none, none, none, some false⟩))

end CoachService

section SeatService

def determineSeatType (seatNumber : Nat) (coachType : CoachType) : SeatType :=
  match coachType with
  | .sl | .ac3a | .ac3e =>
    let stop := seatNumber % 8
    if stop = 1 ∨ stop = 4 then .lower
    else if stop = 2 ∨ stop = 5 then .middle
    else if stop = 3 ∨ stop = 6 then .upper
    else if stop = 7 then .sideLower
    else .sideUpper
  | .ac2a =>
    let stop := seatNumber % 6
    if stop = 1 ∨ stop = 3 then .lower
    else if stop = 2 ∨ stop = 4 then .upper
    else if stop = 5 then .sideLower
    else .sideUpper
  | .ac1a => if seatNumber % 2 = 1 then .lower else .upper
  | .cc | .ec | .gen => .lower

def seatsToCreate (coach : Coach) (coachId : Id) (ids : List Id) : List Seat :=
  (ids.zip (List.range' 1 coach.totalSeats)).map
    (fun x => ⟨x.1, coachId, x.2, determineSeatType x.2 coach.coachType⟩)

/-- `SeatTemplateCreatedEventV1.parse` wants a positive number of seats. -/
def seatTemplateCreatedEvent (coach : Coach) : CoachCode OutboxEvent := do
  let eventId ← randomUUID
  if coach.totalSeats = 0 then raise .validation
  else
    return .seatTemplateCreated eventId coach.id coach.trainId coach.coachType coach.totalSeats

def bulkCreateSeats (coachId : Id) : CoachCode Nat :=
  Code.transaction (V := coachService) .bulkCreateSeats (fun tx => do
    let coach ← sql tx (.getCoachById coachId)
    match coach with
    | none => notFound .coachNotFound
    | some coach =>
      let existingSeatsCount ← sql tx (.countSeatsByCoachId coachId)
      if existingSeatsCount > 0 then conflict .seatsAlreadyGenerated none
      else do
        let ids ← uuids coach.totalSeats
        sql tx (.bulkCreate (seatsToCreate coach coachId ids))
        let payload ← seatTemplateCreatedEvent coach
        sql tx (.insertOutbox payload)
        return coach.totalSeats)

def resetSeats (coachId : Id) : CoachCode Nat :=
  Code.transaction (V := coachService) .resetSeats (fun tx => do
    let coach ← sql tx (.getCoachById coachId)
    if coach.isNone then notFound .coachNotFound
    else do
      let count ← sql tx (.countSeatsByCoachId coachId)
      if count = 0 then return 0
      else do
        sql tx (.deleteSeatsByCoachId coachId)
        return count)

end SeatService

inductive Call
  | addCoach (trainId : Id) (dto : CreateCoachRequest)
  | updateCoach (coachId : Id) (dto : UpdateCoachRequest)
  | deleteCoach (coachId : Id)
  | bulkCreateSeats (coachId : Id)
  | resetSeats (coachId : Id)
  deriving DecidableEq

inductive Out
  | coach (coach : Coach)
  | count (count : Nat)
  deriving DecidableEq

def body : Call → CoachCode Out
  | .addCoach trainId dto => do
    let coach ← addCoach trainId dto
    return .coach coach
  | .updateCoach coachId dto => do
    let coach ← updateCoach coachId dto
    return .coach coach
  | .deleteCoach coachId => do
    let coach ← deleteCoach coachId
    return .coach coach
  | .bulkCreateSeats coachId => do
    let count ← bulkCreateSeats coachId
    return .count count
  | .resetSeats coachId => do
    let count ← resetSeats coachId
    return .count count

@[reducible] def machine : Machine coachService := ⟨Call, Out, body⟩

/-- The service on given tables. -/
def start (d : Db) : Pool machine := Pool.init d ⟨0⟩

end RailwayBooking.CoachService
