import Mathlib.Init
import RailwayBooking.Contracts

namespace RailwayBooking.PaymentService

structure Payment where
  id : Uuid
  paymentOrderId : Uuid
  razorpayOrderId : Id
  bookingId : Uuid
  userId : Id
  amount : Nat
  currency : String
  status : PaymentStatus
  razorpayPaymentId : Option Id
  razorpaySignature : Option Id
  failureReason : Option String
  createdAt : Nat
  deriving DecidableEq

/-- A row of the transactional outbox, by the event that its payload holds and the
payment it is about. -/
inductive OutboxEvent
  | paymentOrderCreated (aggregateId : Uuid) (payload : PaymentOrderCreated)
  | paymentSuccess (aggregateId : Uuid) (payload : PaymentSuccess)
  | paymentFailed (aggregateId : Uuid) (payload : PaymentFailed)
  deriving DecidableEq

structure Db where
  payments : List Payment
  outbox : List OutboxEvent

namespace Db

def empty : Db := ⟨[], []⟩

end Db

structure CapturePaymentParams where
  paymentOrderId : Uuid
  razorpayPaymentId : Id
  razorpaySignature : Option Id
  deriving DecidableEq

namespace Payment

/-- The statuses that `updateStatusToCaptured` accepts. -/
def isOpen (p : Payment) : Bool := p.status = .created || p.status = .pending

def captured (params : CapturePaymentParams) (p : Payment) : Payment :=
  { p with
    status := .captured
    razorpayPaymentId := some params.razorpayPaymentId
    razorpaySignature := params.razorpaySignature.orElse (fun _ => p.razorpaySignature) }

def failed (reason : String) (p : Payment) : Payment :=
  { p with status := .failed, failureReason := some reason }

end Payment

end RailwayBooking.PaymentService
