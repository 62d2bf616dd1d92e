import ReviveX.Domain.PolicyContext

/-!
# Provider events

What a payment provider reports, and `normalize_provider_event`, which reads a payment
event of the domain out of the opaque payload. An event of a type that is not known is
`unknown`, not an error; a payload that does not say what its type needs is refused.
-/

namespace ReviveX

open Lib (Decimal Json)

/-- What provider events take from Python besides `PyText`. -/
structure EventText where
  py : PyText
  /-- `key.lower()`. -/
  lower : String → String
  /-- `UUID(text)`: the identifier that a text names, `none` where it raises. -/
  uuid : String → Option ℕ
  /-- `str(uuid)`. -/
  uuidText : ℕ → String

/-- `IngestionError(code, message)`. -/
def ingestionError (code message : String) : Failure := .domain { code, message }

/-! ## Events -/

/-- `ProviderEvent`. -/
structure ProviderEvent where
  provider : String
  eventId : String
  eventType : String
  occurredAt : Time
  providerResourceId : String
  merchantReference : String
  payload : Payload

/-- `DomainEventType` of an event that is known. -/
inductive DomainEventType
  | paymentFailed | paymentCaptured | paymentRefunded | paymentCancelled | paymentAuthorized
  | paymentCreated
deriving DecidableEq, Repr

/-- `EVENT_TYPE_MAP.get(event_type)`. -/
def DomainEventType.ofText? : String → Option DomainEventType
  | "payment.failed" | "PAYMENT_FAILED" => some .paymentFailed
  | "payment.captured" | "PAYMENT_CAPTURED" => some .paymentCaptured
  | "payment.refunded" | "PAYMENT_REFUNDED" => some .paymentRefunded
  | "payment.cancelled" | "PAYMENT_CANCELLED" => some .paymentCancelled
  | "payment.authorized" => some .paymentAuthorized
  | "payment.created" => some .paymentCreated
  | _ => none

/-- `DomainPaymentEvent`. -/
structure DomainPaymentEvent where
  eventType : DomainEventType
  provider : String
  merchantId : ℕ
  occurredAt : Time
  providerPaymentId : String
  providerOrderId : Option String := none
  merchantReference : String
  /-- Rupees, as they were sent: any finite decimal. -/
  amount : ℚ
  currency : String := "INR"
  failureCode : Option String := none
  customerId : Option ℕ := none
  customerExternalId : Option String := none
  paymentMethod : Option String := none

/-- `UnknownDomainEvent`. -/
structure UnknownDomainEvent where
  occurredAt : Time
  rawEventType : String
deriving DecidableEq, Repr

/-- What an event is normalized to. -/
inductive NormalizedEvent
  | unknown (event : UnknownDomainEvent)
  | payment (event : DomainPaymentEvent)

/-! ## Reading payloads -/

/-- `payload_str`. -/
def payloadStr (py : PyText) (payload : Payload) (keys : List String) : Option String :=
  keys.findSome? fun key =>
    match Json.get? payload key with
    | none | some .null => none
    | some value => if isBlank (py.str value) then none else some (py.str value)

/-- `str(payload.get(key₁) or payload.get(key₂) or ... or "")`. -/
def firstTruthyStr (py : PyText) (payload : Payload) (keys : List String) : String :=
  (keys.findSome? fun key => (Json.get? payload key).filter isTruthy).elim "" py.str

/-- `str(text).replace("Z", "+00:00")`. -/
def replaceZulu (text : String) : String :=
  String.ofList (text.toList.flatMap fun c => if c = 'Z' then "+00:00".toList else [c])

/-- The instant an event names, unless it names none. -/
def occurredAt (py : PyText) (payload : Payload) (receivedAt : Time) : Time :=
  match Json.get? payload "occurred_at" with
  | some (.str raw) =>
    if isBlank raw then receivedAt else (py.fromisoformat (replaceZulu raw)).getD receivedAt
  | _ => receivedAt

/-- The reference a payload carries, and the text of the merchant's identifier without one. -/
def merchantReference (env : EventText) (payload : Payload) (merchantId : ℕ) : String :=
  ((Json.get? payload "merchant_reference").filter isTruthy).elim (env.uuidText merchantId)
    env.py.str

/-- `provider_event_from_row`. -/
def providerEventFromRow (env : EventText) (row : WebhookEvent) : ProviderEvent where
  provider := row.provider
  eventId := row.eventId
  eventType := row.eventType
  occurredAt := occurredAt env.py row.payload row.receivedAt
  providerResourceId := firstTruthyStr env.py row.payload
    ["provider_payment_id", "provider_resource_id", "payment_id"]
  merchantReference := merchantReference env row.payload row.merchantId
  payload := row.payload

/-- `_require_decimal`. -/
def requireDecimal (py : PyText) (payload : Payload) : Except Failure Decimal :=
  match Json.get? payload "amount" with
  | none | some .null =>
    .error (ingestionError "INVALID_PROVIDER_EVENT" "amount is required to normalize this event")
  | some raw =>
    (py.decimal (py.str raw)).elim
      (.error (ingestionError "INVALID_PROVIDER_EVENT" "amount must be a decimal value")) .ok

/-- `int(payload.get("attempt_number", 1))`. -/
def requireAttemptNumber (py : PyText) (payload : Payload) : Except Failure ℤ :=
  (pyInt py ((Json.get? payload "attempt_number").getD (.int 1))).elim
    (.error (ingestionError "INVALID_PROVIDER_EVENT" "attempt_number must be an integer")) .ok

/-- `_optional_uuid(payload.get("customer_id"))`. -/
def optionalUuid (env : EventText) (payload : Payload) : Except Failure (Option ℕ) :=
  match Json.get? payload "customer_id" with
  | none | some .null | some (.str "") => .ok none
  | some value =>
    (env.uuid (env.py.str value)).elim
      (.error (ingestionError "INVALID_PROVIDER_EVENT" "customer_id must be a UUID"))
      fun customerId => .ok (some customerId)

/-- The amount field of `DomainPaymentEvent` takes finite decimals only. -/
def finiteAmount : Decimal → Except Failure ℚ
  | .finite q => .ok q
  | _ => .error (.crash "ValidationError")

/-- `normalize_provider_event`. -/
def normalizeProviderEvent (env : EventText) (merchantId : ℕ) (event : ProviderEvent) :
    Except Failure NormalizedEvent := do
  match DomainEventType.ofText? event.eventType with
  | none => return .unknown { occurredAt := event.occurredAt, rawEventType := event.eventType }
  | some eventType =>
    let payload := event.payload
    let providerPaymentId :=
      (payloadStr env.py payload ["provider_payment_id", "payment_id"]).getD
        event.providerResourceId
    if providerPaymentId = "" then
      throw (ingestionError "INVALID_PAYMENT_REFERENCE" "provider payment id is required")
    let amount ← requireDecimal env.py payload
    let _ ← requireAttemptNumber env.py payload
    let customerId ← optionalUuid env payload
    let amount ← finiteAmount amount
    return .payment {
      eventType
      provider := event.provider
      merchantId
      occurredAt := event.occurredAt
      providerPaymentId
      providerOrderId := payloadStr env.py payload ["provider_order_id", "order_id"]
      merchantReference := event.merchantReference
      amount
      currency := (payloadStr env.py payload ["currency"]).getD "INR"
      failureCode := payloadStr env.py payload ["failure_reason", "failure_code"]
      customerId
      customerExternalId := payloadStr env.py payload ["customer_external_id"]
      paymentMethod := payloadStr env.py payload ["payment_method"] }

end ReviveX
