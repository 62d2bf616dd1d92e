import ReviveX.Domain.Processing

/-!
# Event ingestion

`EventIngestionService.ingest`: store a provider event once, whatever the merchant it comes
for, and hand it to the queue. Only the webhook table and the audit trail are written.
-/

namespace ReviveX

open Lib (Json Session Table)

/-- `IngestResult`. -/
structure IngestResult where
  webhookEventId : ℕ
  eventId : String
  status : WebhookEventStatus
  duplicate : Bool
  queued : Bool
  merchantId : ℕ
deriving DecidableEq, Repr

/-- The keys that `_safe_payload` drops. -/
def blockedPayloadKeys : List String :=
  ["authorization", "signature", "secret", "api_key", "key_secret", "webhook_secret"]

/-- `_safe_payload`. -/
def safePayload (env : EventText) (payload : Payload) : Payload :=
  payload.filter fun field => !blockedPayloadKeys.contains (env.lower field.1)

/-- The payload that is stored: it names the instant of the event. -/
def storedPayload (env : EventText) (event : ProviderEvent) : Payload :=
  let payload := safePayload env event.payload
  if (Json.get? payload "occurred_at").isSome then payload
  else payload ++ [("occurred_at", .str (env.py.isoformat event.occurredAt))]

/-- `_validate`. -/
def validateEvent (event : ProviderEvent) : Except Failure Unit :=
  if isBlank event.eventId then
    .error (ingestionError "INVALID_PROVIDER_EVENT" "event_id is required")
  else if isBlank event.eventType then
    .error (ingestionError "INVALID_PROVIDER_EVENT" "event_type is required")
  else if event.providerResourceId = "" ∧
      ¬ (Json.get? event.payload "provider_payment_id").any isTruthy ∧
      ["payment.failed", "payment.captured", "payment.refunded"].contains event.eventType then
    .error (ingestionError "INVALID_PAYMENT_REFERENCE"
      "provider_resource_id is required for payment events")
  else .ok ()

/-- `get_by_provider_event_id`: unique over all merchants. -/
def Store.webhookOfProvider (s : Store) (provider eventId : String) : Option ℕ :=
  s.webhookEvents.findId? fun row => row.provider = provider && row.eventId = eventId

/-- The row of a new event. -/
def ProviderEvent.row (env : EventText) (event : ProviderEvent) (merchantId : ℕ) (now : Time) :
    WebhookEvent where
  merchantId := merchantId
  provider := if event.provider = "" then "SIMULATOR" else event.provider
  eventId := event.eventId
  eventType := event.eventType
  payload := storedPayload env event
  receivedAt := now

/-- An audit row of the ingestion. -/
def auditIngest (now : Time) (merchantId : ℕ) (eventType : AuditEventType) (action : String)
    (status : WebhookEventStatus) : Service Unit :=
  Service.recordAudit
    { merchantId
      caseId := none
      actorType := .system
      eventType
      action
      newState := some (.webhook status)
      createdAt := now }

/-- `_handle_duplicate`; `enqueue` says whether the queue takes a job. -/
def handleDuplicate (now : Time) (enqueue : Bool) (webhookEventId : ℕ) (row : WebhookEvent) :
    Service IngestResult := do
  auditIngest now row.merchantId .duplicateEventIgnored "ingest_duplicate" row.status
  pure
    { webhookEventId
      eventId := row.eventId
      status := row.status
      duplicate := true
      queued := enqueue &&
        [WebhookEventStatus.received, .processing, .failed].contains row.status
      merchantId := row.merchantId }

/-- Store an event that is not there yet. -/
def storeEvent (env : EventText) (now : Time) (enqueue : Bool) (event : ProviderEvent)
    (merchantId : ℕ) : Service IngestResult := do
  let s ← Session.get
  let row := event.row env merchantId now
  if (s.webhookOfProvider row.provider row.eventId).isSome then
    Session.raise (.crash "IntegrityError")
  else
    let webhookEventId ← Session.modifyGet fun s =>
      (s.webhookEvents.nextId, { s with webhookEvents := s.webhookEvents.insert row })
    auditIngest now merchantId .providerEventReceived "ingest" .received
    pure
      { webhookEventId
        eventId := event.eventId
        status := .received
        duplicate := false
        queued := enqueue
        merchantId }

/-- `ingest`. -/
def ingest (env : EventText) (now : Time) (enqueue : Bool) (event : ProviderEvent)
    (merchantId : ℕ) : Service IngestResult := do
  Session.ofExcept (validateEvent event)
  let s ← Session.get
  if (s.merchants.get? merchantId).isNone then
    Session.raise (ingestionError "MISSING_MERCHANT" "Merchant was not found")
  else
    match (s.webhookOfProvider event.provider event.eventId).bind fun i =>
        (s.webhookEvents.get? i).map (i, ·) with
    | some (webhookEventId, row) => handleDuplicate now enqueue webhookEventId row
    | none => storeEvent env now enqueue event merchantId

end ReviveX
