import RailwayBooking.Concurrency.Rules
import RailwayBooking.PaymentService.Environment

namespace RailwayBooking.PaymentService

open Concurrency

abbrev PaymentCode (α : Type) := Code paymentService α

def raise {α : Type} (e : Err) : PaymentCode α := Program.raise e

section Repository

variable (h : Option Nat)

def create (data : Payment) : PaymentCode Payment :=
  Code.sql (V := paymentService) h (.create data)

def findByPaymentOrderId (paymentOrderId : Uuid) : PaymentCode (Option Payment) :=
  Code.sql (V := paymentService) h (.findByPaymentOrderId paymentOrderId)

def findByBookingId (bookingId : Uuid) : PaymentCode (Option Payment) :=
  Code.sql (V := paymentService) h (.findByBookingId bookingId)

def findByRazorpayOrderId (razorpayOrderId : Id) : PaymentCode (Option Payment) :=
  Code.sql (V := paymentService) h (.findByRazorpayOrderId razorpayOrderId)

/-- How many rows the conditional update matched is not looked at. -/
def updateStatusToCaptured (params : CapturePaymentParams) : PaymentCode (Option Payment) := do
  let _ ← Code.sql (V := paymentService) h (.captureOpen params)
  findByPaymentOrderId h params.paymentOrderId

/-- `tx.payment.update` of `markAsFailed`. -/
def updateFailed (id : Uuid) (reason : String) : PaymentCode Payment :=
  Code.sql (V := paymentService) h (.updateFailed id reason)

def insertOutbox (event : OutboxEvent) : PaymentCode Unit :=
  Code.sql (V := paymentService) h (.insertOutbox event)

end Repository

def randomUUID : PaymentCode Uuid := Code.aux (V := paymentService) .randomUUID

def now : PaymentCode Nat := Code.aux (V := paymentService) .now

def keyId : PaymentCode Id := Code.aux (V := paymentService) .keyId

def createRazorpayOrder (order : RazorpayOrder) : PaymentCode Id :=
  Code.aux (V := paymentService) (.createRazorpayOrder order)

def verifyPaymentSignature (razorpayOrderId razorpayPaymentId razorpaySignature : Id) :
    PaymentCode Bool :=
  Code.aux (V := paymentService)
    (.verifyPaymentSignature razorpayOrderId razorpayPaymentId razorpaySignature)

def verifyWebhookSignature (rawBody : RawBody) (signature : Id) : PaymentCode Bool :=
  Code.aux (V := paymentService) (.verifyWebhookSignature rawBody signature)

section CreateOrder

structure CreateOrderRequest where
  bookingId : Uuid
  userId : Id
  amount : Int
  currency : String
  deriving DecidableEq

structure CreateOrderInput where
  bookingId : Uuid
  userId : Id
  amount : Nat
  currency : String
  deriving DecidableEq

structure CreateOrderOutput where
  paymentOrderId : Uuid
  razorpayOrderId : Id
  keyId : Id
  status : PaymentStatus
  deriving DecidableEq

/-- What `createOrderRequestSchema` finds wrong with a request. -/
def CreateOrderRequest.issues (request : CreateOrderRequest) : List String :=
  (if request.amount ≤ 0 then ["Amount must be greater than zero"] else []) ++
    (if request.currency.length ≠ 3 then ["Currency must be a 3-letter ISO code (e.g. INR)"]
      else [])

def createOrderRequestSchema (request : CreateOrderRequest) : Except Err CreateOrderInput :=
  if request.issues = [] then
    .ok ⟨request.bookingId, request.userId, request.amount.toNat, request.currency⟩
  else .error (.validation request.issues)

variable (input : CreateOrderInput)

/-- `currency || "INR"`. -/
def CreateOrderInput.currencyCode : String := if input.currency = "" then "INR" else input.currency

def newPayment (id paymentOrderId : Uuid) (razorpayOrderId : Id) (createdAt : Nat) : Payment where
  id := id
  paymentOrderId := paymentOrderId
  razorpayOrderId := razorpayOrderId
  bookingId := input.bookingId
  userId := input.userId
  amount := decimalAmount input.amount
  currency := input.currencyCode
  status := .pending
  razorpayPaymentId := none
  razorpaySignature := none
  failureReason := none
  createdAt := createdAt

def orderCreated (eventId paymentOrderId : Uuid) (razorpayOrderId : Id) : PaymentOrderCreated where
  eventId := .random eventId
  bookingId := input.bookingId
  paymentOrderId := paymentOrderId
  razorpayOrderId := razorpayOrderId
  amount := decimalAmount input.amount
  currency := input.currencyCode

def createOrderTransaction (paymentOrderId : Uuid) (razorpayOrderId : Id) : PaymentCode Unit :=
  Code.transaction (V := paymentService) .createOrder (fun tx => do
    let id ← randomUUID
    let createdAt ← now
    let payment ← create (some tx) (newPayment input id paymentOrderId razorpayOrderId createdAt)
    let eventId ← randomUUID
    insertOutbox (some tx) (.paymentOrderCreated payment.id
      (orderCreated input eventId payment.paymentOrderId razorpayOrderId)))

/-- The gateway is called between the look for an active order and the insertion. -/
def createOrder : PaymentCode CreateOrderOutput := do
  let existing ← findByBookingId none input.bookingId
  let key ← keyId
  match existing.filter (fun p => p.status = .pending) with
  | some existing => pure ⟨existing.paymentOrderId, existing.razorpayOrderId, key, existing.status⟩
  | none => do
    let paymentOrderId ← randomUUID
    let razorpayOrderId ← createRazorpayOrder ⟨input.amount, input.currencyCode, paymentOrderId⟩
    createOrderTransaction input paymentOrderId razorpayOrderId
    pure ⟨paymentOrderId, razorpayOrderId, key, .pending⟩

end CreateOrder

section Capture

structure VerifyPaymentInput where
  razorpayOrderId : Id
  razorpayPaymentId : Id
  razorpaySignature : Id
  source : Option CaptureSource
  deriving DecidableEq

structure VerifyPaymentOutput where
  paymentOrderId : Uuid
  razorpayOrderId : Id
  razorpayPaymentId : Id
  status : PaymentStatus
  deriving DecidableEq

variable (input : VerifyPaymentInput) (payment : Payment)

def VerifyPaymentInput.params : CapturePaymentParams :=
  ⟨payment.paymentOrderId, input.razorpayPaymentId, some input.razorpaySignature⟩

def successEvent (eventId : Uuid) : PaymentSuccess where
  eventId := .random eventId
  bookingId := payment.bookingId
  paymentId := payment.id
  paymentOrderId := payment.paymentOrderId
  razorpayPaymentId := input.razorpayPaymentId
  amount := payment.amount
  source := input.source.getD .client

/-- A row that the conditional update did not match is found all the same. -/
def captureTransaction : PaymentCode Unit :=
  Code.transaction (V := paymentService) .verifyAndCapture (fun tx => do
    let updated ← updateStatusToCaptured (some tx) (input.params payment)
    match updated with
    | none => raise (.api 500 .internalError "Failed to update payment status.")
    | some _ => do
      let eventId ← randomUUID
      insertOutbox (some tx) (.paymentSuccess payment.id (successEvent input payment eventId)))

def verifyAndCapture : PaymentCode VerifyPaymentOutput := do
  let isValidSignature ← verifyPaymentSignature input.razorpayOrderId input.razorpayPaymentId
    input.razorpaySignature
  if !isValidSignature then
    raise (.api 400 .invalidInput "Invalid Razorpay payment signature.")
  else do
    let found ← findByRazorpayOrderId none input.razorpayOrderId
    match found with
    | none => raise (.api 404 .notFound
        ("Payment order not found for razorpayOrderId " ++ toString input.razorpayOrderId))
    | some payment =>
      if payment.status = .captured then
        pure ⟨payment.paymentOrderId, payment.razorpayOrderId,
          payment.razorpayPaymentId.getD input.razorpayPaymentId, payment.status⟩
      else do
        captureTransaction input payment
        pure ⟨payment.paymentOrderId, payment.razorpayOrderId, input.razorpayPaymentId, .captured⟩

end Capture

section Failure

/-- `reason || "Payment failed at gateway"`. -/
def failureReason (reason : Option String) : String :=
  (reason.filter (fun r => r ≠ "")).getD "Payment failed at gateway"

variable (payment : Payment) (reason : String)

def failedEvent (eventId : Uuid) : PaymentFailed where
  eventId := .random eventId
  bookingId := payment.bookingId
  paymentOrderId := payment.paymentOrderId
  reason := reason

def failTransaction : PaymentCode Unit :=
  Code.transaction (V := paymentService) .markAsFailed (fun tx => do
    let _ ← updateFailed (some tx) payment.id reason
    let eventId ← randomUUID
    insertOutbox (some tx) (.paymentFailed payment.id (failedEvent payment reason eventId)))

def markAsFailed (razorpayOrderId : Id) (reason : Option String) : PaymentCode Unit := do
  let found ← findByRazorpayOrderId none razorpayOrderId
  match found with
  | none => pure ()
  | some payment =>
    if payment.status = .failed ∨ payment.status = .captured then pure ()
    else failTransaction payment (failureReason reason)

end Failure

section Webhook

/-- `payload?.payment?.entity || payload?.order?.entity`. -/
def WebhookBody.entity (body : WebhookBody) : Option Entity :=
  body.payment.orElse (fun _ => body.order)

def Entity.errorReason (entity : Entity) : String :=
  (entity.errorDescription.orElse (fun _ => entity.errorCode)).getD "Payment failed at gateway"

def captureWebhook (body : WebhookBody) (signature : Id) : PaymentCode Unit :=
  match body.entity.bind Entity.orderId, body.entity.bind Entity.id with
  | some orderId, some id => do
    let _ ← verifyAndCapture ⟨orderId, id, signature, some .webhook⟩
    pure ()
  | _, _ => pure ()

def failWebhook (body : WebhookBody) : PaymentCode Unit :=
  match body.entity with
  | none => pure ()
  | some entity =>
    match entity.orderId with
    | none => pure ()
    | some orderId => markAsFailed orderId (some entity.errorReason)

/-- The event that was processed. -/
def handleWebhook (rawBody : RawBody) (signature : Id) : PaymentCode String := do
  let isValid ← verifyWebhookSignature rawBody signature
  if !isValid then raise (.api 400 .invalidInput "Invalid webhook signature.")
  else
    match rawBody.json with
    | none => raise .syntaxError
    | some body =>
      if body.event = "payment.captured" ∨ body.event = "order.paid" then do
        captureWebhook body signature
        pure body.event
      else if body.event = "payment.failed" then do
        failWebhook body
        pure body.event
      else pure body.event

end Webhook

/-- What runs in payment-service: requests of booking-service, of clients and of
the gateway. -/
inductive Call
  | createOrder (request : CreateOrderRequest)
  | verifyAndCapture (input : VerifyPaymentInput)
  | markAsFailed (razorpayOrderId : Id) (reason : Option String)
  | handleWebhook (rawBody : RawBody) (signature : Id)
  deriving DecidableEq

inductive Out
  | done
  | order (output : CreateOrderOutput)
  | verified (output : VerifyPaymentOutput)
  | processed (event : String)
  deriving DecidableEq

def body : Call → PaymentCode Out
  | .createOrder request =>
    match createOrderRequestSchema request with
    | .error e => raise e
    | .ok input => do return .order (← createOrder input)
  | .verifyAndCapture input => do return .verified (← verifyAndCapture input)
  | .markAsFailed razorpayOrderId reason => do
    markAsFailed razorpayOrderId reason
    return .done
  | .handleWebhook rawBody signature => do return .processed (← handleWebhook rawBody signature)

@[reducible] def machine : Machine paymentService := ⟨Call, Out, body⟩

/-- What stays the same over a run, and the time it starts. -/
structure Settings where
  now : Nat
  razorpay : Razorpay

/-- The service with empty tables. -/
def Settings.pool (s : Settings) : Pool machine := Pool.init Db.empty ⟨s.now, 0, 0, s.razorpay⟩

end RailwayBooking.PaymentService
