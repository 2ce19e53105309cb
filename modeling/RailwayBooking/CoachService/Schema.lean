import RailwayBooking.AdminService.Schema

namespace RailwayBooking.CoachService

inductive CoachType
  | gen
  | sl
  | ac3e
  | ac3a
  | ac2a
  | ac1a
  | cc
  | ec
  deriving DecidableEq, Repr

def CoachType.name : CoachType → String
  | .gen => "GEN"
  | .sl => "SL"
  | .ac3e => "AC_3E"
  | .ac3a => "AC_3A"
  | .ac2a => "AC_2A"
  | .ac1a => "AC_1A"
  | .cc => "CC"
  | .ec => "EC"

inductive SeatType
  | lower
  | middle
  | upper
  | sideLower
  | sideUpper
  deriving DecidableEq, Repr

def SeatType.name : SeatType → String
  | .lower => "LOWER"
  | .middle => "MIDDLE"
  | .upper => "UPPER"
  | .sideLower => "SIDE_LOWER"
  | .sideUpper => "SIDE_UPPER"

structure Coach where
  id : Id
  trainId : Id
  coachNumber : String
  coachType : CoachType
  totalSeats : Nat
  isActive : Bool
  deriving DecidableEq

structure Seat where
  id : Id
  coachId : Id
  seatNumber : Nat
  seatType : SeatType
  deriving DecidableEq

/-- The columns that an update of a coach sets. -/
structure CoachUpdate where
  coachNumber : Option String
  coachType : Option CoachType
  totalSeats : Option Nat
  isActive : Option Bool
  deriving DecidableEq

def CoachUpdate.set (data : CoachUpdate) (coach : Coach) : Coach :=
  { coach with
    coachNumber := data.coachNumber.getD coach.coachNumber
    coachType := data.coachType.getD coach.coachType
    totalSeats := data.totalSeats.getD coach.totalSeats
    isActive := data.isActive.getD coach.isActive }

/-- The rows of the outbox, by their payloads. -/
inductive OutboxEvent
  | coachCreated (eventId coachId trainId : Id) (coachNumber : String) (coachType : CoachType)
      (totalSeats : Nat)
  | seatTemplateCreated (eventId coachId trainId : Id) (coachType : CoachType) (seatCount : Nat)
  deriving DecidableEq

structure Db where
  trains : List AdminService.Train
  coaches : List Coach
  seats : List Seat
  outbox : List OutboxEvent

def Db.seatsOf (d : Db) (coachId : Id) : List Seat := d.seats.filter (fun s => s.coachId = coachId)

inductive ErrorCode
  | invalidInput
  | trainNotFound
  | coachNotFound
  | coachAlreadyExists
  | seatsAlreadyGenerated
  deriving DecidableEq, Repr

/-- `ApiError`, a payload that does not match its schema, a Prisma error, or a broken
connection. -/
inductive Err
  | api (statusCode : Nat) (code : ErrorCode) (message : Option String)
  | validation
  | uniqueViolation
  | checkViolation
  | recordNotFound
  | valueOutOfRange
  | fault
  deriving DecidableEq

/-- The statements of the repositories. No coach is ever deleted: `delete` is an update. -/
inductive Sql
  | getTrainById (id : Id)
  | getCoachById (id : Id)
  | getCoachByNumber (trainId : Id) (coachNumber : String)
  | countSeatsByCoachId (coachId : Id)
  | createCoach (data : Coach)
  | updateCoach (id : Id) (data : CoachUpdate)
  | bulkCreate (seats : List Seat)
  | deleteSeatsByCoachId (coachId : Id)
  | insertOutbox (event : OutboxEvent)
  deriving DecidableEq

@[reducible] def Rows : Sql → Type
  | .getTrainById _ => Option AdminService.Train
  | .getCoachById _ => Option Coach
  | .getCoachByNumber _ _ => Option Coach
  | .countSeatsByCoachId _ => Nat
  | .createCoach _ => Coach
  | .updateCoach _ _ => Coach
  | .bulkCreate _ => Unit
  | .deleteSeatsByCoachId _ => Unit
  | .insertOutbox _ => Unit

/-- What a statement changes. An update and a deletion name the rows that they have found. -/
inductive Write
  | coach (row : Coach)
  | updated (row : Coach) (data : CoachUpdate)
  | seats (rows : List Seat)
  | deletedSeats (rows : List Seat)
  | outbox (event : OutboxEvent)
  deriving DecidableEq

/-- A row, or an entry of a unique index. -/
inductive Key
  | coach (id : Id)
  | number (trainId : Id) (coachNumber : String)
  | seat (coachId : Id) (seatNumber : Nat)
  deriving DecidableEq

namespace Write

def seatKey (s : Seat) : Key := .seat s.coachId s.seatNumber

def keys : Write → List Key
  | .coach row => [.coach row.id, .number row.trainId row.coachNumber]
  | .updated row data => [.coach row.id, .number row.trainId row.coachNumber,
      .number row.trainId (data.set row).coachNumber]
  | .seats rows | .deletedSeats rows => rows.map seatKey
  | .outbox _ => []

def apply : Write → Db → Db
  | .coach row, d => { d with coaches := d.coaches ++ [row] }
  | .updated row data, d =>
      { d with coaches := d.coaches.map (fun c => if c.id = row.id then data.set c else c) }
  | .seats rows, d => { d with seats := d.seats ++ rows }
  | .deletedSeats rows, d => { d with seats := d.seats.filter (fun s => !rows.contains s) }
  | .outbox event, d => { d with outbox := d.outbox ++ [event] }

end Write

def numberTaken (d : Db) (row : Coach) : Bool :=
  d.coaches.any (fun c => c.id ≠ row.id && c.trainId = row.trainId &&
    c.coachNumber = row.coachNumber)

/-- Each statement against one snapshot. -/
def run : (q : Sql) → Db → Except Err (Rows q × List Write × List Key)
  | .getTrainById id, d => .ok (d.trains.find? (fun t => t.id = id && t.isActive), [], [])
  | .getCoachById id, d => .ok (d.coaches.find? (fun c => c.id = id && c.isActive), [], [])
  | .getCoachByNumber trainId coachNumber, d =>
      .ok (d.coaches.find? (fun c => c.trainId = trainId && c.coachNumber = coachNumber &&
        c.isActive), [], [])
  | .countSeatsByCoachId coachId, d => .ok ((d.seatsOf coachId).length, [], [])
  | .createCoach data, d =>
      if data.totalSeats > InventoryService.maxPostgresInt then .error .valueOutOfRange
      else if data.totalSeats = 0 then .error .checkViolation
      else if d.coaches.any (fun c => c.id = data.id) || numberTaken d data then
        .error .uniqueViolation
      else .ok (data, [.coach data], [])
  | .updateCoach id data, d =>
      match d.coaches.find? (fun c => c.id = id) with
      | none => .error .recordNotFound
      | some row =>
        if (data.set row).totalSeats > InventoryService.maxPostgresInt then .error .valueOutOfRange
        else if (data.set row).totalSeats = 0 then .error .checkViolation
        else if numberTaken d (data.set row) then .error .uniqueViolation
        else .ok (data.set row, [.updated row data], [])
  | .bulkCreate seats, d =>
      if seats.any (fun s => s.seatNumber = 0) then .error .checkViolation
      else if ¬ ((d.seats ++ seats).map Seat.id).Nodup ∨
          ¬ ((d.seats ++ seats).map Write.seatKey).Nodup then .error .uniqueViolation
      else .ok ((), [.seats seats], [])
  | .deleteSeatsByCoachId coachId, d => .ok ((), [.deletedSeats (d.seatsOf coachId)], [])
  | .insertOutbox event, _ => .ok ((), [.outbox event], [])

end RailwayBooking.CoachService
