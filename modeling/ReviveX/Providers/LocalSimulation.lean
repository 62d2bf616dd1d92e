import ReviveX.Tools.Execution
import Mathlib.Algebra.Order.Ring.Rat
import Mathlib.Data.Rat.Defs

/-!
# The local payment simulator

`LocalSimulationProvider` keeps its orders, payments and links in memory, next to a counter that
every new identifier takes its number from. A service that is constructed without a provider
gets an instance of its own, whose counter starts at 0.
-/

namespace ReviveX

open Lib (Json Session)

/-- What the simulator, and the rows of its payments, take from Python and its packages. -/
structure SimulatorRuntime where
  /-- The first 16 hexadecimal digits of the SHA-256 digest of a text. -/
  digest : String → String
  /-- `uuid.uuid5(INTERNAL_PAYMENT_NS, text)`. -/
  uuid5 : String → String
  /-- `random.Random(material).random()`. -/
  draw : String → ℚ
  /-- `float` of a decimal. -/
  float : ℚ → ℚ
  /-- What a call reads on the clock. No call reads it twice, and none is bound to the reading of
  another. -/
  now : Time
  /-- How `model_dump(mode="json")` prints an instant. -/
  jsonTime : Time → String

/-! ## Identifiers -/

/-- The text whose digest identifies a resource. -/
def idMaterial (kind : String) (seed : ℤ) (merchantReference sequence : ℕ) : String :=
  toString seed ++ ":" ++ kind ++ ":" ++ toString merchantReference ++ ":" ++ toString sequence

/-- `deterministic_payment_id`. -/
def deterministicPaymentId (env : SimulatorRuntime) (seed : ℤ)
    (merchantReference sequence : ℕ) : String :=
  "pay_sim_" ++ env.digest (idMaterial "pay" seed merchantReference sequence)

/-- `deterministic_order_id`. -/
def deterministicOrderId (env : SimulatorRuntime) (seed : ℤ)
    (merchantReference sequence : ℕ) : String :=
  "order_sim_" ++ env.digest (idMaterial "order" seed merchantReference sequence)

/-- `deterministic_payment_link_id`. -/
def deterministicPaymentLinkId (env : SimulatorRuntime) (seed : ℤ)
    (merchantReference sequence : ℕ) : String :=
  "plink_sim_" ++ env.digest (idMaterial "plink" seed merchantReference sequence)

/-- `internal_payment_uuid`. -/
def internalPaymentUuid (env : SimulatorRuntime) (merchantId : ℕ)
    (provider providerPaymentId : String) : String :=
  env.uuid5 (internalPaymentName merchantId provider providerPaymentId)

/-! ## Outcomes -/

/-- `capture_probability`. Sums of a decimal context are exact where the bounds do not cut
them off. -/
def captureProbability (failureReason : String) (attemptNumber priorFailures : ℤ) : ℚ :=
  let attempt : ℚ := max attemptNumber 1
  let priorFail : ℚ := max priorFailures 0
  if failureReason = "CUSTOMER_CANCELLED" ∨ failureReason = "MANDATE_FAILURE" then 0
  else if failureReason = "EXPIRED_CARD" then 2 / 100
  else if failureReason = "TEMPORARY_BANK_ERROR" then
    min (max (25 / 100 + 15 / 100 * (attempt - 1) - 3 / 100 * priorFail) (5 / 100)) (80 / 100)
  else if failureReason = "NETWORK_TIMEOUT" then
    min (20 / 100 + 15 / 100 * (attempt - 1)) (75 / 100)
  else if failureReason = "INSUFFICIENT_FUNDS" then
    min (max (8 / 100 + 4 / 100 * (attempt - 1) - 2 / 100 * priorFail) (2 / 100)) (35 / 100)
  else if failureReason = "DECLINED" then
    min (12 / 100 + 5 / 100 * (attempt - 1)) (40 / 100)
  else min (15 / 100 + 5 / 100 * attempt) (50 / 100)

/-- A `PaymentStatus` from its text. -/
def PaymentStatus.ofText? (text : String) : Option PaymentStatus :=
  [PaymentStatus.created, .authorized, .captured, .failed, .refunded, .partiallyRefunded,
    .cancelled, .unknown].find? fun status => status.text = text

/-- `roll_attempt_outcome` with an intended status. -/
def intendedOutcome (failureReason : Option String) (status : PaymentStatus) :
    PaymentStatus × Option String :=
  match status with
  | .failed => (.failed, some (failureReason.getD "UNKNOWN"))
  | .cancelled => (.cancelled, some (failureReason.getD "CUSTOMER_CANCELLED"))
  | status => (status, none)

/-- `roll_attempt_outcome`. Retries intend no status, so a text that names none is not told
apart from `UNKNOWN`; the history of a retry has no prior failures. -/
def rollAttemptOutcome (env : SimulatorRuntime) (draw : ℚ) (request : CreatePaymentRequest) :
    PaymentStatus × Option String :=
  match request.intendedStatus with
  | some text =>
    intendedOutcome request.failureReason ((PaymentStatus.ofText? text).getD .unknown)
  | none =>
    let reason := request.failureReason.getD "UNKNOWN"
    if reason = "CUSTOMER_CANCELLED" then (.cancelled, some reason)
    else if draw < env.float (captureProbability reason request.attemptNumber 0) then
      (.captured, none)
    else (.failed, some reason)

/-! ## Instances -/

/-- `CreateOrderRequest`. -/
structure CreateOrderRequest where
  merchantReference : ℕ
  amount : Money
  currency : String
  customerReference : Option ℕ

/-- `OrderSnapshot`. -/
structure OrderSnapshot where
  provider : String
  providerOrderId : String
  merchantReference : ℕ
  amount : Money
  currency : String
  status : PaymentStatus

/-- `LocalSimulationProvider`. -/
structure LocalSimulationProvider where
  seed : ℤ := 42
  sequence : ℕ := 0
  orders : AList (fun _ : String => OrderSnapshot) := ∅
  payments : AList (fun _ : String => PaymentSnapshot) := ∅
  orderPayments : AList (fun _ : String => List String) := ∅
  paymentLinks : AList (fun _ : String => PaymentLinkSnapshot) := ∅

/-- A method of the simulator. -/
abbrev Simulation (α : Type) := Session LocalSimulationProvider ProviderError α

/-- `ProviderNotFoundError`. -/
def providerNotFoundError (resource resourceId : String) : ProviderError where
  code := "PROVIDER_RESOURCE_NOT_FOUND"
  message := s!"{resource} {resourceId} was not found"
  notFound := true

namespace LocalSimulationProvider

/-- `_next_sequence`. -/
def nextSequence : Simulation ℕ :=
  Session.modifyGet fun self => (self.sequence + 1, { self with sequence := self.sequence + 1 })

/-- The snapshot of an order that was created for a request. -/
def orderSnapshot (request : CreateOrderRequest) (providerOrderId : String) : OrderSnapshot where
  provider := simulatorName
  providerOrderId := providerOrderId
  merchantReference := request.merchantReference
  amount := request.amount
  currency := request.currency
  status := .created

/-- `self._order_payments.setdefault(order_id, []).extend(payment_ids)`. -/
def listPayments (orderPayments : AList (fun _ : String => List String)) (orderId : String)
    (paymentIds : List String) : AList (fun _ : String => List String) :=
  orderPayments.insert orderId ((orderPayments.lookup orderId).getD [] ++ paymentIds)

/-- `create_order`. -/
def createOrder (env : SimulatorRuntime) (request : CreateOrderRequest) :
    Simulation OrderSnapshot := do
  let sequence ← nextSequence
  let self ← Session.get
  let order := orderSnapshot request
    (deterministicOrderId env self.seed request.merchantReference sequence)
  Session.modify fun self =>
    { self with
      orders := self.orders.insert order.providerOrderId order
      orderPayments := listPayments self.orderPayments order.providerOrderId [] }
  pure order

/-- The order of a payment: the one that the request names, recorded when it is unknown, or
a new one. -/
def orderOf (env : SimulatorRuntime) (request : CreatePaymentRequest) : Simulation String :=
  let order : CreateOrderRequest :=
    { merchantReference := request.merchantReference
      amount := request.amount
      currency := request.currency
      customerReference := some request.customerReference }
  match request.providerOrderId with
  | none => do
    let order ← createOrder env order
    pure order.providerOrderId
  | some orderId => do
    Session.modify fun self =>
      if (self.orders.lookup orderId).isSome then self
      else { self with orders := self.orders.insert orderId (orderSnapshot order orderId) }
    pure orderId

/-- What `model_dump(mode="json")` prints of a payment. -/
def paymentDump (env : SimulatorRuntime) (request : CreatePaymentRequest)
    (p : PaymentSnapshot) : Payload :=
  [("provider", .str p.provider), ("provider_payment_id", .str p.providerPaymentId),
    ("provider_order_id", .ofOption p.providerOrderId),
    ("merchant_reference", .str (toString request.merchantReference)),
    ("amount", .str (Money.text request.amount)), ("currency", .str p.currency),
    ("status", .str p.status.text), ("attempt_number", .int request.attemptNumber),
    ("failure_reason", .ofOption p.failureReason),
    ("payment_method", .ofOption p.paymentMethod),
    ("occurred_at", .str (env.jsonTime p.occurredAt)),
    ("metadata", .obj
      [("recovery_case_id", .str (toString request.merchantReference)),
        ("original_provider_payment_id", .ofOption request.originalProviderPaymentId),
        ("idempotency_key", .str request.idempotencyKey)])]

/-- The snapshot of a payment. -/
def paymentSnapshot (env : SimulatorRuntime) (request : CreatePaymentRequest)
    (providerPaymentId providerOrderId : String)
    (outcome : PaymentStatus × Option String) : PaymentSnapshot :=
  let p : PaymentSnapshot :=
    { provider := simulatorName
      providerPaymentId
      providerOrderId := some providerOrderId
      merchantReference := toString request.merchantReference
      amount := request.amount
      currency := request.currency
      status := outcome.1
      attemptNumber := request.attemptNumber
      failureReason := outcome.2
      occurredAt := env.now }
  { p with dump := paymentDump env request p }

/-- The material of `_rng`. -/
def rngMaterial (seed : ℤ) (providerPaymentId : String) (attemptNumber : ℤ) : String :=
  toString seed ++ ":" ++ providerPaymentId ++ ":" ++ toString attemptNumber

/-- `create_payment`. -/
def createPayment (env : SimulatorRuntime) (request : CreatePaymentRequest) :
    Simulation PaymentSnapshot := do
  let sequence ← nextSequence
  let self ← Session.get
  let paymentId := deterministicPaymentId env self.seed request.merchantReference sequence
  let orderId ← orderOf env request
  let draw := env.draw (rngMaterial self.seed paymentId request.attemptNumber)
  let snapshot := paymentSnapshot env request paymentId orderId
    (rollAttemptOutcome env draw request)
  Session.modify fun self =>
    { self with
      payments := self.payments.insert paymentId snapshot
      orderPayments := listPayments self.orderPayments orderId [paymentId] }
  pure snapshot

/-- `fetch_payment`. -/
def fetchPayment (providerPaymentId : String) : Simulation PaymentSnapshot := do
  let self ← Session.get
  match self.payments.lookup providerPaymentId with
  | none => Session.raise (providerNotFoundError "payment" providerPaymentId)
  | some payment => pure payment

/-- `fetch_order_payments`. -/
def fetchOrderPayments (providerOrderId : String) : Simulation (List PaymentSnapshot) := do
  let self ← Session.get
  if (self.orders.lookup providerOrderId).isNone &&
      (self.orderPayments.lookup providerOrderId).isNone then
    Session.raise (providerNotFoundError "order" providerOrderId)
  else
    pure (((self.orderPayments.lookup providerOrderId).getD []).filterMap fun paymentId =>
      self.payments.lookup paymentId)

/-- The refund of a payment: a copy with another status and instant, and no reason of failure. -/
def refundSnapshot (env : SimulatorRuntime) (payment : PaymentSnapshot) : PaymentSnapshot :=
  { payment with
    status := .refunded
    occurredAt := env.now
    failureReason := none
    dump := Json.update payment.dump
      [("status", .str PaymentStatus.refunded.text), ("occurred_at", .str (env.jsonTime env.now)),
        ("failure_reason", .null)] }

/-- The statuses of payments that can be refunded. -/
def isRefundable (status : PaymentStatus) : Bool := status = .captured || status = .authorized

/-- The error of a refund that comes at the wrong time. -/
def refundInvalidState (status : PaymentStatus) : ProviderError where
  code := "PROVIDER_REFUND_INVALID_STATE"
  message := s!"Cannot refund payment in status {status.text}"

/-- `refund_payment`; the amount that a request may name is not read. -/
def refundPayment (env : SimulatorRuntime) (providerPaymentId : String) :
    Simulation PaymentSnapshot := do
  let self ← Session.get
  match self.payments.lookup providerPaymentId with
  | none => Session.raise (providerNotFoundError "payment" providerPaymentId)
  | some payment =>
    if isRefundable payment.status then
      let refunded := refundSnapshot env payment
      Session.modify fun self =>
        { self with payments := self.payments.insert providerPaymentId refunded }
      pure refunded
    else
      Session.raise (refundInvalidState payment.status)

/-- The snapshot of a payment link. -/
def linkSnapshot (request : CreatePaymentLinkRequest) (linkId : String) :
    PaymentLinkSnapshot where
  provider := simulatorName
  providerPaymentLinkId := linkId
  amount := request.amount
  status := "CREATED"
  url := s!"sim://payment-link/{linkId}"

/-- `create_payment_link`. -/
def createPaymentLink (env : SimulatorRuntime) (request : CreatePaymentLinkRequest) :
    Simulation PaymentLinkSnapshot := do
  let sequence ← nextSequence
  let self ← Session.get
  let snapshot := linkSnapshot request
    (deterministicPaymentLinkId env self.seed request.merchantReference sequence)
  Session.modify fun self =>
    { self with
      paymentLinks := self.paymentLinks.insert snapshot.providerPaymentLinkId snapshot }
  pure snapshot

/-- `fetch_payment_link`. -/
def fetchPaymentLink (providerPaymentLinkId : String) : Simulation PaymentLinkSnapshot := do
  let self ← Session.get
  match self.paymentLinks.lookup providerPaymentLinkId with
  | none => Session.raise (providerNotFoundError "payment_link" providerPaymentLinkId)
  | some link => pure link

/-- `cancel_payment_link`. -/
def cancelPaymentLink (providerPaymentLinkId : String) : Simulation PaymentLinkSnapshot := do
  let self ← Session.get
  match self.paymentLinks.lookup providerPaymentLinkId with
  | none => Session.raise (providerNotFoundError "payment_link" providerPaymentLinkId)
  | some link =>
    let cancelled := { link with status := "CANCELLED" }
    Session.modify fun self =>
      { self with paymentLinks := self.paymentLinks.insert providerPaymentLinkId cancelled }
    pure cancelled

/-- An instance as the provider of a service that asks it one question. -/
def provider (env : SimulatorRuntime) (self : LocalSimulationProvider) : PaymentProvider where
  name := simulatorName
  createPayment request := ((createPayment env request).run self).1
  createPaymentLink request := ((createPaymentLink env request).run self).1
  fetchPayment providerPaymentId := ((fetchPayment providerPaymentId).run self).1

end LocalSimulationProvider

/-- `get_payment_provider(seed=seed)`: a new instance. -/
def getPaymentProvider (seed : ℤ) : LocalSimulationProvider := { seed }

/-- `ToolExecutionService(session)`, constructed without a provider. -/
def ToolExecutionService.default (env : SimulatorRuntime) (settings : RecoverySettings)
    (predict : Store → ℕ → String → ℕ → Except String (Except (String × String) Payload)) :
    ToolExecutionService where
  settings := settings
  provider := (getPaymentProvider 42).provider env
  predict := predict

end ReviveX
