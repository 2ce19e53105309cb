import Mathlib.Data.Nat.Pairing
import RailwayBooking.Concurrency.Noninterference
import RailwayBooking.PaymentService.Commits

namespace RailwayBooking.PaymentService

open Concurrency

/-- The secrets of the gateway, with HMAC-SHA256 and the text `order_id|payment_id` that is
signed for a payment. Neither secret is a dummy. -/
structure Secrets where
  keyId : Id
  keySecret : Id
  webhookSecret : Id
  createHmac : Id → Id → Id
  text : Id → Id → Id

namespace Secrets

def razorpay (s : Secrets) : Razorpay where
  keyId := s.keyId
  dummySecret := false
  dummyWebhookSecret := false
  paymentSignature razorpayOrderId razorpayPaymentId :=
    s.createHmac s.keySecret (s.text razorpayOrderId razorpayPaymentId)
  webhookSignature rawBody := s.createHmac s.webhookSecret rawBody

/-- Different secrets, under which different texts have different signatures. -/
structure Distinct (s : Secrets) : Prop where
  secrets : s.keySecret ≠ s.webhookSecret
  hmac : ∀ k m k' m', s.createHmac k m = s.createHmac k' m' → k = k' ∧ m = m'

theorem Distinct.paymentSignature_ne {s : Secrets} (h : s.Distinct) (order payment text : Id) :
    s.razorpay.paymentSignature order payment ≠ s.razorpay.webhookSignature text :=
  fun heq => h.secrets (h.hmac _ _ _ _ heq).1

end Secrets

/-- A webhook for the capture of a payment, with the signature that is due to it. -/
structure Genuine (s : Secrets) (payment : Payment) (rawBody : RawBody) (signature : Id)
    (body : WebhookBody) : Prop where
  json : rawBody.json = some body
  event : body.event = "payment.captured"
  order : body.entity.bind Entity.orderId = some payment.razorpayOrderId
  signature : s.razorpay.webhookSignature rawBody.text = signature

/-- The payment is captured, and its event is in the outbox. -/
structure Captured (payment : Payment) (d : Db) : Prop where
  row : ∃ row, d.row payment.id = some row ∧ row.status = .captured
  event : ∃ payload, .paymentSuccess payment.id payload ∈ d.outbox

section Play

variable {s : Secrets} {i : Nat} {c : Call} {x : Script paymentService} {n : Nat}
  {σ : Shared paymentService Call}

theorem play_verifyAndCapture (hs : s.Distinct) (hσ : σ.world.env.razorpay = s.razorpay)
    {order payment text : Id} {source : Option CaptureSource} :
    (verifyAndCapture ⟨order, payment, s.razorpay.webhookSignature text, source⟩).play i c x n σ =
      some (.error (.api 400 .invalidInput "Invalid Razorpay payment signature."),
        σ.pass (x.wait n)) := by
  have henv : (σ.pass (x.wait n)).world.env.razorpay = s.razorpay := hσ
  have hvalid : (s.razorpay.dummySecret || s.razorpay.paymentSignature order payment ==
      s.razorpay.webhookSignature text) = false := by
    rw [Bool.or_eq_false_iff, beq_eq_false_iff_ne]
    exact ⟨rfl, hs.paymentSignature_ne order payment text⟩
  unfold verifyAndCapture verifyPaymentSignature Code.aux
  simp only [Program.bind_eq, Program.issue, Program.handle, Code.play, Shared.exec, ask, henv,
    hvalid, Option.map_some, Option.bind_some]
  rfl

theorem play_handleWebhook {rawBody : RawBody} {signature : Id} {body : WebhookBody}
    {payment : Payment} (hσ : σ.world.env.razorpay = s.razorpay)
    (hg : Genuine s payment rawBody signature body) :
    (handleWebhook rawBody signature).play i c x n σ =
      ((captureWebhook body signature >>= fun _ => pure body.event).play i c x (n + 1)
        (σ.pass (x.wait n))) := by
  have henv : (σ.pass (x.wait n)).world.env.razorpay = s.razorpay := hσ
  have hvalid : (s.razorpay.dummyWebhookSecret ||
      s.razorpay.webhookSignature rawBody.text == signature) = true := by
    rw [hg.signature, beq_self_eq_true, Bool.or_true]
  unfold handleWebhook verifyWebhookSignature Code.aux
  simp only [Program.bind_eq, Program.issue, Program.handle, Code.play, Shared.exec, ask, henv,
    hvalid, Option.map_some, Option.bind_some, hg.json, hg.event]
  rfl

theorem play_genuine {rawBody : RawBody} {signature : Id} {body : WebhookBody} {payment : Payment}
    (hs : s.Distinct) (hσ : σ.world.env.razorpay = s.razorpay)
    (hg : Genuine s payment rawBody signature body) :
    ∃ r σ', (handleWebhook rawBody signature).play i c x n σ = some (r, σ') ∧
      σ'.world.db = σ.world.db := by
  rw [play_handleWebhook hσ hg]
  unfold captureWebhook
  rw [hg.order]
  cases hid : body.entity.bind Entity.id with
  | none => exact ⟨_, _, rfl, rfl⟩
  | some id =>
    have henv : (σ.pass (x.wait n)).world.env.razorpay = s.razorpay := hσ
    have hrefused : (verifyAndCapture ⟨payment.razorpayOrderId, id,
        s.razorpay.webhookSignature rawBody.text, some .webhook⟩).play i c x (n + 1)
          (σ.pass (x.wait n)) = some (.error (.api 400 .invalidInput
            "Invalid Razorpay payment signature."), (σ.pass (x.wait n)).pass (x.wait (n + 1))) :=
      play_verifyAndCapture hs henv
    rw [hg.signature] at hrefused
    exact ⟨_, _, Code.play_bind_error (Code.play_bind_error hrefused), rfl⟩

/-- A genuine webhook never captures the pending payment it is about. -/
theorem not_captured_of_webhook {rawBody : RawBody} {signature : Id} {body : WebhookBody}
    {payment : Payment} (hs : s.Distinct) (hσ : σ.world.env.razorpay = s.razorpay)
    (hg : Genuine s payment rawBody signature body)
    (hrow : σ.world.db.row payment.id = some payment) (hp : payment.status = .pending) :
    ¬ ∃ r σ', (handleWebhook rawBody signature).play i c x n σ = some (r, σ') ∧
      Captured payment σ'.world.db := by
  rintro ⟨r, σ', hend, hcaptured⟩
  obtain ⟨r', σ'', hend', hdb⟩ := play_genuine (i := i) (c := c) (x := x) (n := n) hs hσ hg
  cases hend.symm.trans hend'
  obtain ⟨row, hrow', hstatus⟩ := hcaptured.row
  rw [hdb, hrow] at hrow'
  cases hrow'
  cases hp.symm.trans hstatus

end Play

section Schedules

def sampleSecrets : Secrets := ⟨1, 2, 3, Nat.pair, Nat.pair⟩

theorem sampleSecrets_distinct : sampleSecrets.Distinct where
  secrets := by decide
  hmac _ _ _ _ h := Nat.pair_eq_pair.mp h

def pendingPayment : Payment where
  id := ⟨0, 1⟩
  paymentOrderId := ⟨0, 0⟩
  razorpayOrderId := 41
  bookingId := ⟨90, 0⟩
  userId := 7
  amount := 125050
  currency := "INR"
  status := .pending
  razorpayPaymentId := none
  razorpaySignature := none
  failureReason := none
  createdAt := 1000

def captureBody : WebhookBody := ⟨"payment.captured", some ⟨some 41, some 501, none, none⟩, none⟩

def captureRequest : RawBody := ⟨77, some captureBody⟩

def captureSignature : Id := sampleSecrets.razorpay.webhookSignature captureRequest.text

theorem captureRequest_genuine :
    Genuine sampleSecrets pendingPayment captureRequest captureSignature captureBody :=
  ⟨rfl, rfl, rfl, rfl⟩

/-- The tables with the pending payment alone. -/
def pendingWorld : PaymentWorld :=
  ⟨⟨[pendingPayment], []⟩, [], ⟨1000, 2, 1, sampleSecrets.razorpay⟩⟩

/-- Every statement succeeds, at once. -/
def promptly : Script paymentService := ⟨fun _ _ => .ok, fun _ => 0⟩

theorem not_captured_pending :
    ¬ ∃ r σ', (handleWebhook captureRequest captureSignature).play 0
      (.handleWebhook captureRequest captureSignature) promptly 0 pendingWorld.idle = some (r, σ') ∧
      Captured pendingPayment σ'.world.db :=
  not_captured_of_webhook sampleSecrets_distinct rfl captureRequest_genuine rfl rfl

/-- A pending payment whose webhook is refused. -/
theorem not_captured : ¬ ∀ (s : Secrets) (σ : Shared paymentService Call) (rawBody : RawBody)
    (signature : Id) (body : WebhookBody) (payment : Payment) (i : Nat), s.Distinct →
    σ.world.env.razorpay = s.razorpay → Genuine s payment rawBody signature body →
    σ.world.db.row payment.id = some payment → payment.status = .pending →
      ∃ r σ', (handleWebhook rawBody signature).play i (.handleWebhook rawBody signature) promptly 0
        σ = some (r, σ') ∧ Captured payment σ'.world.db := by
  intro hall
  obtain ⟨r, σ', hend, hcaptured⟩ := hall sampleSecrets pendingWorld.idle captureRequest
    captureSignature captureBody pendingPayment 0 sampleSecrets_distinct rfl captureRequest_genuine
    rfl rfl
  have hdb : ((handleWebhook captureRequest captureSignature).play 0
      (.handleWebhook captureRequest captureSignature) promptly 0 pendingWorld.idle).map
        (fun y => y.2.world.db.row pendingPayment.id) = some (some pendingPayment) := by
    decide +kernel
  obtain ⟨row, hrow, hstatus⟩ := hcaptured.row
  rw [hend, Option.map_some, hrow] at hdb
  cases hdb
  cases hstatus

end Schedules

end RailwayBooking.PaymentService
