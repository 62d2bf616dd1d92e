import ReviveX.Agents.Security
import ReviveX.Domain.Ingestion
import ReviveX.Providers.Interventions

/-!
# Where provider events come from

The two producers of the API: `webhook_to_provider_event` turns the body of a posted webhook into
a provider event, and `ingest_simulated_payment` lets a new simulator make a payment and reports it
with `build_provider_event`. Both put what they know into a payload next to what else it holds.
-/

namespace ReviveX

open Lib (Json Session)

/-! ## Webhook bodies -/

/-- A `Decimal` of a request: its value, and what `str` prints of it. Requests take finite
decimals only. -/
structure SentAmount (py : PyText) where
  value : ℚ
  text : String
  reads : py.decimal text = some (.finite value)

/-- `SimulatorWebhookRequest`, with the parties that it was resolved to. -/
structure SimulatorWebhookRequest (py : PyText) where
  eventId : Option String := none
  eventType : String
  occurredAt : Option Time := none
  providerResourceId : Option String := none
  providerPaymentId : Option String := none
  providerOrderId : Option String := none
  merchantReference : Option String := none
  customerId : Option ℕ := none
  customerExternalId : Option String := none
  amount : Option (SentAmount py) := none
  currency : String := "INR"
  status : Option String := none
  failureReason : Option String := none
  attemptNumber : ℤ := 1
  paymentMethod : Option String := some "card"
  payload : Payload := []
  /-- The names of a dictionary are distinct. -/
  payload_nodup : (payload.map Prod.fst).Nodup := by simp

/-- What `datetime.now(UTC)` gives, the first time it is read and the second. -/
structure ClockReadings where
  payload : Time
  event : Time

def knownPaymentEventTypes : List String :=
  ["payment.created", "payment.authorized", "payment.captured", "payment.failed",
    "payment.refunded", "payment.cancelled"]

/-- `value is not None`. -/
def isGiven : Json → Bool
  | .null => false
  | _ => true

namespace SimulatorWebhookRequest

variable (env : EventText) (clock : ClockReadings) (merchantId : ℕ)
  (body : SimulatorWebhookRequest env.py)

/-- `provider_resource_id or provider_payment_id`. -/
def resourceId : Option String := (givenText body.providerResourceId).or body.providerPaymentId

/-- `merchant_reference or str(merchant_id)`. -/
def reference : String := (givenText body.merchantReference).getD (env.uuidText merchantId)

/-- What is written over the payload of the body. -/
def changes : Payload :=
  [("provider_payment_id", .ofOption (body.resourceId env)),
    ("provider_order_id", .ofOption body.providerOrderId),
    ("amount",
      match body.amount with
      | some amount => .str amount.text
      | none => (Json.get? body.payload "amount").getD .null),
    ("currency", .str body.currency),
    ("status", .ofOption body.status),
    ("failure_reason", .ofOption body.failureReason),
    ("attempt_number", .int body.attemptNumber),
    ("payment_method", .ofOption body.paymentMethod),
    ("customer_id", .ofOption (body.customerId.map env.uuidText)),
    ("customer_external_id", .ofOption body.customerExternalId),
    ("merchant_id", .str (env.uuidText merchantId)),
    ("merchant_reference", .str (body.reference env merchantId)),
    ("occurred_at", .str (env.py.isoformat (body.occurredAt.getD clock.payload)))]

/-- `cleaned`: the payload with the changes, without what is `None`. -/
def cleaned : Payload :=
  (Json.update body.payload (body.changes env clock merchantId)).filter fun field =>
    isGiven field.2

end SimulatorWebhookRequest

/-- `webhook_to_provider_event`. -/
def webhookToProviderEvent (env : EventText) (clock : ClockReadings) (merchantId : ℕ)
    (body : SimulatorWebhookRequest env.py) : Except Failure ProviderEvent :=
  let eventType := stripText body.eventType
  let cleaned := body.cleaned env clock merchantId
  if eventType = "" then
    .error (ingestionError "INVALID_PROVIDER_EVENT" "event_type is required")
  else
    match body.eventId.map stripText with
    | none | some "" =>
      .error (ingestionError "INVALID_PROVIDER_EVENT" "event_id is required")
    | some eventId =>
      if (body.resourceId env).isNone ∧ knownPaymentEventTypes.contains eventType then
        .error (ingestionError "INVALID_PAYMENT_REFERENCE" "provider_resource_id is required")
      else if ["payment.failed", "payment.captured", "payment.refunded"].contains body.eventType ∧
          (Json.get? cleaned "amount").isNone then
        .error (ingestionError "INVALID_PROVIDER_EVENT" "amount is required")
      else .ok
        { provider := simulatorName
          eventId
          eventType
          occurredAt := body.occurredAt.getD clock.event
          providerResourceId := (body.resourceId env).getD ""
          merchantReference := merchantReference env cleaned merchantId
          payload := cleaned }

/-- `ingest_simulator_webhook`, of a body whose parties are resolved. -/
def ingestSimulatorWebhook (env : EventText) (clock : ClockReadings) (now : Time) (enqueue : Bool)
    (merchantId : ℕ) (body : SimulatorWebhookRequest env.py) : Service IngestResult := do
  let event ← Session.ofExcept (webhookToProviderEvent env clock merchantId body)
  ingest env now enqueue event merchantId

/-! ## Simulated payments -/

/-- `PaymentSnapshot`, as a provider gives it to the API. -/
structure ProviderSnapshot (py : PyText) where
  providerPaymentId : String
  providerOrderId : Option String := none
  merchantReference : String
  amount : SentAmount py
  currency : String
  status : String
  attemptNumber : ℤ := 1
  failureReason : Option FailureReason := none
  paymentMethod : Option String := some "card"

/-- `deterministic_event_id`; `digest` gives the first 20 hexadecimal digits of the SHA-256 digest
of a text. -/
def deterministicEventId (digest : String → String) (seed : ℤ)
    (providerPaymentId eventType : String) (attemptNumber : ℤ) : String :=
  "evt_sim_" ++ digest (toString seed ++ ":" ++ providerPaymentId ++ ":" ++ eventType ++ ":" ++
    toString attemptNumber)

/-- `event_type_for_status`. -/
def eventTypeForStatus (env : EventText) : String → String
  | "CREATED" => "payment.created"
  | "AUTHORIZED" => "payment.authorized"
  | "CAPTURED" => "payment.captured"
  | "FAILED" => "payment.failed"
  | "REFUNDED" => "payment.refunded"
  | "CANCELLED" => "payment.cancelled"
  | status => "payment." ++ env.lower status

/-- What `build_provider_event` puts into the payload. -/
def ProviderSnapshot.payload (env : EventText) (clock : ClockReadings)
    (p : ProviderSnapshot env.py) : Payload :=
  [("provider_payment_id", .str p.providerPaymentId),
    ("provider_order_id", .ofOption p.providerOrderId),
    ("amount", .str p.amount.text),
    ("currency", .str p.currency),
    ("status", .str p.status),
    ("attempt_number", .int p.attemptNumber),
    ("failure_reason", .ofOption (p.failureReason.map FailureReason.text)),
    ("payment_method", .ofOption p.paymentMethod),
    ("merchant_reference", .str p.merchantReference),
    ("occurred_at", .str (env.py.isoformat clock.payload))]

/-- `event_type or event_type_for_status(status)`. -/
def ProviderSnapshot.eventType (env : EventText) (p : ProviderSnapshot env.py)
    (eventType : Option String) : String :=
  (givenText eventType).getD (eventTypeForStatus env p.status)

/-- `build_provider_event`. -/
def buildProviderEvent (env : EventText) (clock : ClockReadings) (digest : String → String)
    (seed : ℤ) (extra : Payload) (eventType : Option String) (p : ProviderSnapshot env.py) :
    ProviderEvent where
  provider := simulatorName
  eventId := deterministicEventId digest seed p.providerPaymentId (p.eventType env eventType)
    p.attemptNumber
  eventType := p.eventType env eventType
  occurredAt := clock.event
  providerResourceId := p.providerPaymentId
  merchantReference := p.merchantReference
  payload := Json.update (p.payload env clock) extra

/-- The arguments of `ingest_simulated_payment`; those that only the provider reads are left to
it. -/
structure SimulatedPaymentRequest where
  merchantId : ℕ
  customerId : Option ℕ := none
  customerExternalId : Option String := none
  seed : ℤ
  eventType : String
  failureReason : Option String := none
  providerPaymentId : Option String := none

/-- `FailureReason(text)`. -/
def FailureReason.ofText? (text : String) : Option FailureReason :=
  [FailureReason.temporaryBankError, .insufficientFunds, .expiredCard, .declined, .networkTimeout,
    .mandateFailure, .customerCancelled, .unknown].find? fun reason => reason.text = text

namespace SimulatedPaymentRequest

/-- The parties, which go into the payload. -/
def extra (env : EventText) (request : SimulatedPaymentRequest) : Payload :=
  [("merchant_id", .str (env.uuidText request.merchantId))] ++
    (request.customerId.map fun i => ("customer_id", Json.str (env.uuidText i))).toList ++
    ((givenText request.customerExternalId).map fun text =>
      ("customer_external_id", Json.str text)).toList

/-- The reason of the failure, if one is given. -/
def failure (request : SimulatedPaymentRequest) : Except Failure (Option FailureReason) :=
  match givenText request.failureReason with
  | none => .ok none
  | some text =>
    (FailureReason.ofText? text).elim
      (.error (ingestionError "INVALID_PROVIDER_EVENT" "Unknown failure_reason")) (.ok ∘ some)

/-- The payment that the provider made, under the identifier that was asked for. -/
def named {py : PyText} (request : SimulatedPaymentRequest) (p : ProviderSnapshot py) :
    ProviderSnapshot py :=
  { p with providerPaymentId := (givenText request.providerPaymentId).getD p.providerPaymentId }

end SimulatedPaymentRequest

/-- `ingest_simulated_payment`; `createPayment` is what the provider does, by the reason of the
failure. -/
def ingestSimulatedPayment (env : EventText) (clock : ClockReadings) (digest : String → String)
    (now : Time) (enqueue : Bool) (createPayment : Option FailureReason → ProviderSnapshot env.py)
    (request : SimulatedPaymentRequest) : Service IngestResult := do
  let failure ← Session.ofExcept request.failure
  let snapshot := request.named (createPayment failure)
  ingest env now enqueue
    (buildProviderEvent env clock digest request.seed (request.extra env)
      (some request.eventType) snapshot)
    request.merchantId

end ReviveX
