import RailwayBooking.Money
import RailwayBooking.PaymentService.Schema

namespace RailwayBooking.PaymentService

inductive ErrorCode
  | invalidInput
  | notFound
  | internalError
  deriving DecidableEq, Repr

/-- `ApiError`, the issues of a request, a syntax error of a body, an error of the
gateway, a Prisma error, or a broken connection. -/
inductive Err
  | api (statusCode : Nat) (code : ErrorCode) (message : String)
  | validation (issues : List String)
  | syntaxError
  | gateway (statusCode : Nat)
  | uniqueViolation
  | recordNotFound
  | valueOutOfRange
  | fault
  deriving DecidableEq

/-- The statements that the repository and the service issue. -/
inductive Sql
  | create (data : Payment)
  | findByPaymentOrderId (paymentOrderId : Uuid)
  | findByBookingId (bookingId : Uuid)
  | findByRazorpayOrderId (razorpayOrderId : Id)
  | captureOpen (params : CapturePaymentParams)
  | updateFailed (id : Uuid) (reason : String)
  | insertOutbox (event : OutboxEvent)
  deriving DecidableEq

@[reducible] def Rows : Sql → Type
  | .create _ => Payment
  | .findByPaymentOrderId _ => Option Payment
  | .findByBookingId _ => Option Payment
  | .findByRazorpayOrderId _ => Option Payment
  | .captureOpen _ => Nat
  | .updateFailed _ _ => Payment
  | .insertOutbox _ => Unit

/-- A row added, a row put in place of the one with its id, or an event added. -/
inductive Write
  | insert (row : Payment)
  | put (row : Payment)
  | outbox (event : OutboxEvent)
  deriving DecidableEq

inductive Key
  | payment (id : Uuid)
  | paymentOrder (paymentOrderId : Uuid)
  deriving DecidableEq

def Write.keys : Write → List Key
  | .insert row => [.payment row.id, .paymentOrder row.paymentOrderId]
  | .put row => [.payment row.id]
  | .outbox _ => []

def putPayment (row : Payment) (rows : List Payment) : List Payment :=
  rows.map (fun p => if p.id = row.id then row else p)

def Write.apply : Write → Db → Db
  | .insert row, d => { d with payments := d.payments ++ [row] }
  | .put row, d => { d with payments := putPayment row d.payments }
  | .outbox event, d => { d with outbox := d.outbox ++ [event] }

/-- `findFirst` in descending order of creation. Of rows created at one time the
one inserted last is taken. -/
def latest (rows : List Payment) : Option Payment :=
  rows.foldl (fun found p =>
    match found with
    | none => some p
    | some q => if q.createdAt ≤ p.createdAt then some p else some q) none

/-- Each statement against one snapshot. -/
def run : (q : Sql) → Db → Except Err (Rows q × List Write × List Key)
  | .create data, d =>
      if d.payments.any (fun p => p.id = data.id || p.paymentOrderId = data.paymentOrderId) then
        .error .uniqueViolation
      else if decimalLimit ≤ data.amount then .error .valueOutOfRange
      else .ok (data, [.insert data], [])
  | .findByPaymentOrderId paymentOrderId, d =>
      .ok (d.payments.find? (fun p => p.paymentOrderId = paymentOrderId), [], [])
  | .findByBookingId bookingId, d =>
      .ok (latest (d.payments.filter (fun p => p.bookingId = bookingId)), [], [])
  | .findByRazorpayOrderId razorpayOrderId, d =>
      .ok (d.payments.find? (fun p => p.razorpayOrderId = razorpayOrderId), [], [])
  | .captureOpen params, d =>
      let rows := d.payments.filter (fun p =>
        p.paymentOrderId = params.paymentOrderId && p.isOpen)
      .ok (rows.length, rows.map (fun p => .put (p.captured params)), [])
  | .updateFailed id reason, d =>
      match d.payments.find? (fun p => p.id = id) with
      | none => .error .recordNotFound
      | some row => .ok (row.failed reason, [.put (row.failed reason)], [])
  | .insertOutbox event, _ => .ok ((), [.outbox event], [])

end RailwayBooking.PaymentService
