import Mathlib.Data.Nat.Pairing
import RailwayBooking.ScheduleService.Schema

namespace RailwayBooking.ScheduleService

open Concurrency InventoryService

/-- The operations that are not statements of the database; ids are drawn by the
client. -/
inductive Aux
  | inventory (a : InventoryService.Aux)
  | uuids (count : Nat)

@[reducible] def AuxAns : Aux → Type
  | .inventory a => InventoryService.AuxAns a
  | .uuids _ => List Id

/-- The environment of inventory-service with the number of ids drawn so far. -/
structure Env where
  inventory : InventoryService.Env
  drawn : Nat

/-- The ids that call `i` draws when `drawn` have been drawn: as for `Uuid`, no two
draws give the same. -/
def drawIds (i drawn count : Nat) : List Id :=
  (List.range count).map (fun k => Nat.pair i (drawn + k))

def ask (e : Env) (i : Nat) : (a : Aux) → Choice Empty → Option (Except Err (AuxAns a) × Env)
  | .inventory a, ch =>
      (InventoryService.ask e.inventory i a ch).map (fun r => (r.1, { e with inventory := r.2 }))
  | .uuids count, _ =>
      some (.ok (drawIds i e.drawn count), { e with drawn := e.drawn + count })

/-- Where in the source a transaction is opened. -/
inductive Site
  | inventory (site : InventoryService.Site)
  | created
  | statusChanged
  deriving DecidableEq, Repr

@[reducible] def scheduleService : Service where
  Db := Db
  Sql := Sql
  Rows := Rows
  Write := Write
  Key := Key
  Site := Site
  Aux := Aux
  AuxAns := AuxAns
  Env := Env
  Err := Err
  Reply := Empty
  fault := .fault
  auto := .inventory .auto
  run := run
  apply := Write.apply
  keys := Write.keys
  ask := ask
  tick d e := { e with inventory := { e.inventory with now := e.inventory.now + d } }

abbrev ScheduleCode (α : Type) := Code scheduleService α

/-- The code of inventory-service on its allocations, statement by statement. -/
def lift {α : Type} : InventoryCode α → ScheduleCode α
  | .ret a => .ret a
  | .raise e => .raise e
  | .call (.begin site) k => .call (.begin (.inventory site)) (fun r => lift (k r))
  | .call (.commit h) k => .call (.commit h) (fun r => lift (k r))
  | .call (.rollback h) k => .call (.rollback h) (fun r => lift (k r))
  | .call (.sql h q) k => .call (.sql h (.inventory q)) (fun r => lift (k r))
  | .call (.aux a) k => .call (.aux (.inventory a)) (fun r => lift (k r))

def raise {α : Type} (e : Err) : ScheduleCode α := Program.raise e

section Repositories

variable (h : Option Nat)

def findByScheduleId (scheduleId : Id) : ScheduleCode (Option ScheduleInventory) :=
  Code.sql (V := scheduleService) h (.findByScheduleId scheduleId)

def create (scheduleId : Id) (row : ScheduleInventory) : ScheduleCode Unit :=
  Code.sql (V := scheduleService) h (.create scheduleId row)

def updateStatus (scheduleId : Id) (status : ScheduleInventoryStatus) (version : Nat) :
    ScheduleCode Bool :=
  Code.sql (V := scheduleService) h (.updateStatus scheduleId status version)

def deleteByScheduleId (scheduleId : Id) : ScheduleCode Unit :=
  Code.sql (V := scheduleService) h (.deleteByScheduleId scheduleId)

def createStops (data : List RouteStop) : ScheduleCode Unit :=
  Code.sql (V := scheduleService) h (.createStops data)

def createSeats (data : List SeatInventory) : ScheduleCode Unit :=
  Code.sql (V := scheduleService) h (.createSeats data)

def insertOutbox (event : ScheduleOutboxEvent) : ScheduleCode Unit :=
  Code.sql (V := scheduleService) h (.insertOutbox event)

def uuids (count : Nat) : ScheduleCode (List Id) :=
  Code.aux (V := scheduleService) (.uuids count)

end Repositories

section Pricing

/-- `TRAIN_CATEGORY_MULTIPLIER`, in tenths. -/
def categoryMultiplier : TrainCategory → Nat
  | .passenger => 10
  | .express => 12
  | .superfast => 14
  | .duronto => 18
  | .rajdhani => 22
  | .shatabdi => 20
  | .vandeBharat => 25
  | .demu => 10
  | .memu => 10

/-- `toUpperCase`, as far as a text without other letters can come out. -/
def toUpperCase (s : String) : String := s.map (fun c => if c = 'ſ' then 'S' else c.toUpper)

/-- `COACH_MULTIPLIER`, in tenths. -/
def coachMultiplier (coachType : String) : Nat :=
  ([("GEN", 10), ("SL", 15), ("AC_3E", 20), ("AC_3A", 25), ("AC_2A", 35), ("AC_1A", 50),
    ("CC", 20), ("EC", 40)].lookup (toUpperCase coachType)).getD 10

/-- The price for a kilometre, in ten-thousandths: the base rate is `0.8`. -/
def calculatePricePerKm (trainCategory : TrainCategory) (coachType : String) : Nat :=
  80 * categoryMultiplier trainCategory * coachMultiplier coachType

end Pricing

section ScheduleService

def foldStatus : ScheduleStatus → ScheduleInventoryStatus
  | .cancelled => .cancelled
  | .draft | .active => .active

def seatTypes : List String := ["LOWER", "MIDDLE", "UPPER", "SIDE_LOWER", "SIDE_UPPER"]

def routeStopsData (parsed : ScheduleCreated) : List RouteStop :=
  parsed.stops.map (fun stop =>
    ⟨parsed.scheduleId, stop.stationId, stop.stopNumber, stop.distanceFromStart⟩)

/-- The seats of all coaches, still without ids. -/
def coachSeats (parsed : ScheduleCreated) : List (Coach × CoachSeat) :=
  parsed.coaches.flatMap (fun coach => coach.seats.map (fun seat => (coach, seat)))

def seatInventory (parsed : ScheduleCreated) (id : Id) (x : Coach × CoachSeat) : SeatInventory where
  id := id
  scheduleId := parsed.scheduleId
  seatId := x.2.seatId
  coachNumber := x.1.coachNumber
  seatNumber := x.2.seatNumber
  seatType := x.2.seatType
  pricePerKm := calculatePricePerKm parsed.trainCategory x.1.coachType

def seatInventoriesData (parsed : ScheduleCreated) (ids : List Id) : List SeatInventory :=
  List.zipWith (seatInventory parsed) ids (coachSeats parsed)

def createSeatInventories (tx : Nat) (parsed : ScheduleCreated) : ScheduleCode Unit := do
  if (coachSeats parsed).any (fun x => !seatTypes.contains x.2.seatType) then
    raise (.error "Argument seatType is missing.")
  else do
    let ids ← uuids (coachSeats parsed).length
    createSeats (some tx) (seatInventoriesData parsed ids)

def createProjection (tx : Nat) (parsed : ScheduleCreated) : ScheduleCode Unit := do
  create (some tx) parsed.scheduleId ⟨foldStatus parsed.status, parsed.version⟩
  createStops (some tx) (routeStopsData parsed)
  createSeatInventories tx parsed
  let eventId ← uuids 1
  insertOutbox (some tx) (.projected (eventId.headD 0) parsed.scheduleId parsed.version)

def processCreated (parsed : ScheduleCreated) : ScheduleCode Unit :=
  Code.transaction (V := scheduleService) .created (fun tx => do
    let scheduleInventory ← findByScheduleId (some tx) parsed.scheduleId
    match scheduleInventory with
    | some row =>
      if row.version ≥ parsed.version then pure ()
      else do
        deleteByScheduleId (some tx) parsed.scheduleId
        createProjection tx parsed
    | none => createProjection tx parsed)

/-- The code of `ERROR_CODES.SCHEDULE_INVENTORY_NOT_FOUND`. -/
def scheduleInventoryNotFound : Err := .error "SCHEDULE_INVENTORY_NOT_FOUND"

def processStatusChanged (parsed : ScheduleStatusChanged) : ScheduleCode Unit :=
  Code.transaction (V := scheduleService) .statusChanged (fun tx => do
    let scheduleInventory ← findByScheduleId (some tx) parsed.scheduleId
    if scheduleInventory.isNone then raise scheduleInventoryNotFound
    else do
      let updated ← updateStatus (some tx) parsed.scheduleId (foldStatus parsed.status)
        parsed.version
      if !updated then pure ()
      else do
        let eventId ← uuids 1
        insertOutbox (some tx) (.statusChanged (eventId.headD 0) parsed.scheduleId
          (foldStatus parsed.status) parsed.version))

end ScheduleService

def createdConsumer : Kafka.Consumer scheduleService where
  isNonRetryable := Err.isNonRetryable
  parseError := .validation "Message does not match its schema."
  heartbeat := Code.aux (V := scheduleService) (.inventory .heartbeat)
  sendToDlq := Code.aux (V := scheduleService) (.inventory .sendToDlq)

def statusChangedConsumer : Kafka.Consumer scheduleService :=
  { createdConsumer with
    isNonRetryable := fun e => e.isNonRetryable || decide (e = scheduleInventoryNotFound) }

/-- What runs in inventory-service: its calls on allocations, and the deliveries to
the consumers of schedules. -/
inductive Call
  | inventory (c : InventoryService.Call)
  | scheduleCreated (m : Message ScheduleCreated)
  | scheduleStatusChanged (m : Message ScheduleStatusChanged)

def finish (work : ScheduleCode Unit) : ScheduleCode Out := do
  work
  return .done

def body : Call → ScheduleCode Out
  | .inventory c => lift (InventoryService.body c)
  | .scheduleCreated m =>
    finish (Kafka.createDlqConsumerHandler createdConsumer processCreated m)
  | .scheduleStatusChanged m =>
    finish (Kafka.createDlqConsumerHandler statusChangedConsumer processStatusChanged m)

@[reducible] def machine : Machine scheduleService := ⟨Call, Out, body⟩

/-- The service before its first projection. -/
def start (now : Nat) : Pool machine := Pool.init Db.empty ⟨⟨now, .empty⟩, 0⟩

end RailwayBooking.ScheduleService
