import RailwayBooking.ScheduleService.Schema

namespace RailwayBooking.Catalogue

/-- One of the master tables: its rows, the requests that create and update one, its unique
columns and the events that announce its changes. A row is made and updated at a time, and an
event is there when the row matches its schema. -/
structure Kind where
  Row : Type
  Create : Type
  Update : Type
  Data : Type
  Column : Type
  Event : Type
  ErrorCode : Type
  id : Row → Id
  isActive : Row → Bool
  columns : Row → List Column
  new : Create → Id → Nat → Row
  /-- The column that has to be free before a row is created. -/
  wanted : Create → Column
  data : Update → Data
  /-- The column that has to be free before the row is updated. -/
  changed : Update → Row → Option Column
  inactive : Data
  set : Data → Nat → Row → Row
  created : Id → Row → Option Event
  updated : Id → Row → Option Event
  deactivated : Id → Row → Option Event
  eventId : Event → Id
  recordId : Event → Id
  notFound : ErrorCode
  alreadyExists : ErrorCode
  set_id : ∀ data now row, id (set data now row) = id row
  named_created : ∀ uuid row e, created uuid row = some e → eventId e = uuid ∧ recordId e = id row
  named_updated : ∀ uuid row e, updated uuid row = some e → eventId e = uuid ∧ recordId e = id row
  named_deactivated : ∀ uuid row e, deactivated uuid row = some e →
    eventId e = uuid ∧ recordId e = id row
  [decRow : DecidableEq Row]
  [decColumn : DecidableEq Column]

attribute [instance] Kind.decRow Kind.decColumn

attribute [simp] Kind.set_id

variable (K : Kind)

structure Db where
  rows : List K.Row
  outbox : List K.Event

/-- `ApiError`, a payload that does not match its schema, a Prisma error, or a broken
connection. -/
inductive Err
  | api (statusCode : Nat) (code : K.ErrorCode)
  | validation
  | uniqueViolation
  | recordNotFound
  | fault

/-- The statements of the repository. No row is ever deleted. -/
inductive Sql
  | getByColumn (column : K.Column)
  | getById (id : Id)
  | create (row : K.Row)
  | update (id : Id) (data : K.Data) (now : Nat)
  | insertOutbox (event : K.Event)

@[reducible] def Rows {K : Kind} : Sql K → Type
  | .getByColumn _ => Option K.Row
  | .getById _ => Option K.Row
  | .create _ => K.Row
  | .update _ _ _ => K.Row
  | .insertOutbox _ => Unit

/-- What a statement changes. An update names the row that it has found and that it leaves. -/
inductive Write
  | created (row : K.Row)
  | updated (row row' : K.Row)
  | outbox (event : K.Event)

/-- A row, or an entry of a unique index. -/
inductive Key
  | row (id : Id)
  | column (column : K.Column)
  deriving DecidableEq

variable {K}

namespace Write

def keys : Write K → List (Key K)
  | .created row => .row (K.id row) :: (K.columns row).map .column
  | .updated row row' => .row (K.id row) :: (K.columns row ++ K.columns row').map .column
  | .outbox _ => []

def apply : Write K → Db K → Db K
  | .created row, d => { d with rows := d.rows ++ [row] }
  | .updated row row', d =>
      { d with rows := d.rows.map (fun r => if K.id r = K.id row then row' else r) }
  | .outbox event, d => { d with outbox := d.outbox ++ [event] }

end Write

/-- Another row has one of the unique columns. -/
def taken (d : Db K) (row : K.Row) : Bool :=
  d.rows.any (fun r => K.id r ≠ K.id row && (K.columns r).any (fun c => (K.columns row).contains c))

/-- Each statement against one snapshot. -/
def run : (q : Sql K) → Db K → Except (Err K) (Rows q × List (Write K) × List (Key K))
  | .getByColumn column, d =>
      .ok (d.rows.find? (fun r => (K.columns r).contains column && K.isActive r), [], [])
  | .getById id, d => .ok (d.rows.find? (fun r => K.id r = id && K.isActive r), [], [])
  | .create row, d =>
      if d.rows.any (fun r => K.id r = K.id row) || taken d row then .error .uniqueViolation
      else .ok (row, [.created row], [])
  | .update id data now, d =>
      match d.rows.find? (fun r => K.id r = id) with
      | none => .error .recordNotFound
      | some row =>
        if taken d (K.set data now row) then .error .uniqueViolation
        else .ok (K.set data now row, [.updated row (K.set data now row)], [])
  | .insertOutbox event, _ => .ok ((), [.outbox event], [])

end RailwayBooking.Catalogue
