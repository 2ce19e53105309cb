import RailwayBooking.Concurrency.ReadCommitted
import RailwayBooking.PaymentService.Repository

namespace RailwayBooking.PaymentService

open Concurrency

/-- The `entity` of a webhook payload. Fields that are missing or falsy are `none`. -/
structure Entity where
  orderId : Option Id
  id : Option Id
  errorDescription : Option String
  errorCode : Option String
  deriving DecidableEq

structure WebhookBody where
  event : String
  payment : Option Entity
  order : Option Entity
  deriving DecidableEq

/-- The raw body of a webhook request, and what `JSON.parse` makes of it. -/
structure RawBody where
  text : Id
  json : Option WebhookBody
  deriving DecidableEq

/-- The Razorpay keys. The signatures are HMACs under the secrets; a dummy secret
turns their verification off. -/
structure Razorpay where
  keyId : Id
  dummySecret : Bool
  dummyWebhookSecret : Bool
  paymentSignature : Id → Id → Id
  webhookSignature : Id → Id

structure RazorpayOrder where
  amountInPaise : Nat
  currency : String
  receipt : Uuid
  deriving DecidableEq

/-- The operations that are not statements of the database. -/
inductive Aux
  | randomUUID
  | now
  | keyId
  | createRazorpayOrder (order : RazorpayOrder)
  | verifyPaymentSignature (razorpayOrderId razorpayPaymentId razorpaySignature : Id)
  | verifyWebhookSignature (rawBody : RawBody) (signature : Id)

@[reducible] def AuxAns : Aux → Type
  | .randomUUID => Uuid
  | .now => Nat
  | .keyId => Id
  | .createRazorpayOrder _ => Id
  | .verifyPaymentSignature _ _ _ => Bool
  | .verifyWebhookSignature _ _ => Bool

/-- What the gateway answers. -/
inductive Reply
  | order (razorpayOrderId : Id)
  | error (statusCode : Nat)

/-- The clock, the configuration, how many random ids were drawn and how many
orders the gateway has named. -/
structure Env where
  now : Nat
  fresh : Nat
  orders : Nat
  razorpay : Razorpay

/-- The gateway names a new order, unless the schedule has it name another one or
fail. -/
def ask (e : Env) (i : Nat) : (a : Aux) → Choice Reply → Option (Except Err (AuxAns a) × Env)
  | .randomUUID, _ => some (.ok ⟨i, e.fresh⟩, { e with fresh := e.fresh + 1 })
  | .now, _ => some (.ok e.now, e)
  | .keyId, _ => some (.ok e.razorpay.keyId, e)
  | .createRazorpayOrder _, .ok => some (.ok e.orders, { e with orders := e.orders + 1 })
  | .createRazorpayOrder _, .reply (.order razorpayOrderId) => some (.ok razorpayOrderId, e)
  | .createRazorpayOrder _, .reply (.error statusCode) => some (.error (.gateway statusCode), e)
  | .createRazorpayOrder _, _ => some (.error .fault, e)
  | .verifyPaymentSignature razorpayOrderId razorpayPaymentId razorpaySignature, _ =>
      some (.ok (e.razorpay.dummySecret ||
        e.razorpay.paymentSignature razorpayOrderId razorpayPaymentId == razorpaySignature), e)
  | .verifyWebhookSignature rawBody signature, _ =>
      some (.ok (e.razorpay.dummyWebhookSecret ||
        e.razorpay.webhookSignature rawBody.text == signature), e)

/-- Where in the source a transaction is opened. -/
inductive Site
  | createOrder
  | verifyAndCapture
  | markAsFailed
  | auto
  deriving DecidableEq, Repr

@[reducible] def paymentService : Service where
  Db := Db
  Sql := Sql
  Rows := Rows
  Write := Write
  Key := Key
  Site := Site
  Aux := Aux
  AuxAns := AuxAns
  Env := Env
  Err := Err
  Reply := Reply
  fault := .fault
  auto := .auto
  run := run
  apply := Write.apply
  keys := Write.keys
  ask := ask
  tick d e := { e with now := e.now + d }

end RailwayBooking.PaymentService
