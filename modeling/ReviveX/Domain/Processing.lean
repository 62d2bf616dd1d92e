import ReviveX.Domain.Normalize
import ReviveX.Domain.StateMachine

/-!
# Webhook processing

`process_webhook_event`: turn a stored provider event into a payment row with an attempt,
and open a recovery case when a payment failed. A case is never changed here: captures only
queue its verification.

The rows are flushed by the database, which rounds money to the paisa and refuses negative
amounts; the exception it raises ends the transaction.
-/

namespace ReviveX

open Lib (Json Session Table)

namespace Service

def modifyWebhookEvent (webhookEventId : ℕ) (f : WebhookEvent → WebhookEvent) : Service Unit :=
  Session.modify fun s => { s with webhookEvents := s.webhookEvents.modify webhookEventId f }

def modifyPayment (paymentId : ℕ) (f : Payment → Payment) : Service Unit :=
  Session.modify fun s => { s with payments := s.payments.modify paymentId f }

/-- Insert a payment and return its identifier. -/
def insertPayment (p : Payment) : Service ℕ :=
  Session.modifyGet fun s => (s.payments.nextId, { s with payments := s.payments.insert p })

def insertPaymentAttempt (a : PaymentAttempt) : Service Unit :=
  Session.modify fun s => { s with paymentAttempts := s.paymentAttempts.insert a }

/-- Insert a case and return its identifier. -/
def insertCase (c : RecoveryCase) : Service ℕ :=
  Session.modifyGet fun s => (s.cases.nextId, { s with cases := s.cases.insert c })

end Service

/-! ## Results -/

/-- `FollowUpJob`. -/
inductive FollowUpJob
  | processRecoveryCase (caseId webhookEventId : ℕ)
  | verifyRecoveryCase (caseId paymentId webhookEventId : ℕ)
deriving DecidableEq, Repr

/-- The `status` that `process_webhook_event` returns. -/
inductive ProcessingStatus
  | alreadyProcessed | deadLetter | processed
deriving DecidableEq, Repr

structure ProcessingResult where
  status : ProcessingStatus
  webhookEventId : ℕ
  followups : List FollowUpJob := []
deriving DecidableEq, Repr

/-! ## Payments -/

/-- `Decimal` to a `NUMERIC(18, 2)` column: rounded to the paisa, half away from zero. -/
def storeAmount (q : ℚ) : Except Failure Money :=
  let paise := if 0 ≤ q then ⌊q * 100 + 1 / 2⌋ else -⌊-q * 100 + 1 / 2⌋
  if (10 : ℤ) ^ 18 ≤ |paise| then .error (.crash "DataError")
  else if paise < 0 then .error (.crash "IntegrityError")
  else .ok paise.toNat

/-- `int(amount * 100)`. -/
def minorUnits (q : ℚ) : ℤ := if 0 ≤ q then ⌊q * 100⌋ else ⌈q * 100⌉

/-- `_resolve_customer`. -/
def resolveCustomer (s : Store) (e : DomainPaymentEvent) : Except Failure ℕ :=
  match e.customerId, givenText e.customerExternalId with
  | some customerId, _ =>
    match s.getCustomer e.merchantId customerId with
    | some _ => .ok customerId
    | none =>
      .error (.domain
        { code := "MISSING_CUSTOMER", message := "Customer does not belong to this merchant" })
  | none, some externalId =>
    match s.customers.findId? fun c =>
        c.merchantId = e.merchantId && c.externalId = some externalId with
    | some customerId => .ok customerId
    | none =>
      .error (.domain
        { code := "MISSING_CUSTOMER", message := "Customer external id was not found" })
  | none, none =>
    .error (.domain
      { code := "MISSING_CUSTOMER"
        message := "customer_id or customer_external_id is required" })

/-- `get_by_provider_payment_id`. -/
def Store.paymentOfProvider (s : Store) (merchantId : ℕ) (provider providerPaymentId : String) :
    Option ℕ :=
  s.payments.findId? fun p =>
    p.merchantId = merchantId && p.provider = provider &&
      p.providerPaymentId = some providerPaymentId

/-- `next_attempt_number`. -/
def Store.nextAttemptNumber (s : Store) (paymentId : ℕ) : ℤ :=
  let numbers := (s.paymentAttempts.rows.filter fun a => a.paymentId = paymentId).map
    (·.attemptNumber)
  numbers.max?.getD 0 + 1

/-- `_is_status_downgrade`. -/
def isStatusDowngrade (current incoming : PaymentStatus) : Bool :=
  (current = .captured &&
    [PaymentStatus.created, .authorized, .failed, .cancelled].contains incoming) ||
  (current = .refunded && incoming != .refunded)

/-- The status of a row after an event: a capture is written whatever was there. -/
def PaymentStatus.receive (current incoming : PaymentStatus) : PaymentStatus :=
  let guarded := if isStatusDowngrade current incoming then current else incoming
  if incoming = .captured then .captured else guarded

/-- What an event writes on the row of its payment. -/
def Payment.receive (p : Payment) (e : DomainPaymentEvent) (status : PaymentStatus)
    (amount : Money) : Payment :=
  { p with
    status := p.status.receive status
    providerOrderId := e.providerOrderId.or p.providerOrderId
    failureCode := if status = .failed then e.failureCode.or p.failureCode else p.failureCode
    failedAt := if status = .failed then some e.occurredAt else p.failedAt
    capturedAt := if status = .captured then some e.occurredAt else p.capturedAt
    amount := if status = .captured then amount else p.amount
    paymentMethod := e.paymentMethod.or p.paymentMethod }

/-- What `internal_payment_uuid` makes the primary key of a payment from. -/
def internalPaymentName (merchantId : ℕ) (provider providerPaymentId : String) : String :=
  toString merchantId ++ ":" ++ provider ++ ":" ++ providerPaymentId

/-- The row of a payment that an event is the first to name. -/
def DomainPaymentEvent.newPayment (e : DomainPaymentEvent) (customerId : ℕ)
    (status : PaymentStatus) (amount : Money) : Payment where
  merchantId := e.merchantId
  customerId := customerId
  provider := e.provider
  providerPaymentId := some e.providerPaymentId
  providerOrderId := e.providerOrderId
  amount := amount
  providerAmountMinor := some (minorUnits e.amount)
  currency := e.currency
  status := status
  paymentMethod := e.paymentMethod
  failureCode := e.failureCode
  capturedAt := if status = .captured then some e.occurredAt else none
  failedAt := if status = .failed then some e.occurredAt else none
  internalName := some (internalPaymentName e.merchantId e.provider e.providerPaymentId)

/-- The row of an attempt. -/
def DomainPaymentEvent.attempt (e : DomainPaymentEvent) (paymentId : ℕ) (attemptNumber : ℤ)
    (status : PaymentStatus) (amount : Money) : PaymentAttempt where
  paymentId := paymentId
  attemptNumber := attemptNumber
  status := status
  amount := amount
  currency := e.currency
  failureCode := e.failureCode
  attemptedAt := e.occurredAt

/-- `_add_attempt`. -/
def addAttempt (paymentId : ℕ) (e : DomainPaymentEvent) (status : PaymentStatus)
    (amount : Money) : Service Unit := do
  let s ← Session.get
  Service.insertPaymentAttempt
    (e.attempt paymentId (s.nextAttemptNumber paymentId) status amount)

/-- `_find_or_create_payment`: the payment, and its status before. -/
def findOrCreatePayment (e : DomainPaymentEvent) (status : PaymentStatus) :
    Service (ℕ × Option PaymentStatus) := do
  let s ← Session.get
  match s.paymentOfProvider e.merchantId e.provider e.providerPaymentId with
  | some paymentId =>
    let previous := (s.payments.get? paymentId).map (·.status)
    let amount ← Session.ofExcept (storeAmount e.amount)
    Service.modifyPayment paymentId (·.receive e status amount)
    addAttempt paymentId e status amount
    pure (paymentId, previous)
  | none =>
    let customerId ← Session.ofExcept (resolveCustomer s e)
    let amount ← Session.ofExcept (storeAmount e.amount)
    let paymentId ← Service.insertPayment (e.newPayment customerId status amount)
    addAttempt paymentId e status amount
    pure (paymentId, none)

/-! ## Cases -/

/-- An audit row of the worker. -/
def workerAudit (now : Time) (merchantId : ℕ) (eventType : AuditEventType) (action : String)
    (caseId : Option ℕ := none) (previousState newState : Option AuditState := none) :
    AuditEvent where
  merchantId := merchantId
  caseId := caseId
  actorType := .worker
  eventType := eventType
  action := action
  previousState := previousState
  newState := newState
  createdAt := now

/-- The audit row of a payment that an event changed. -/
def auditPayment (now : Time) (e : DomainPaymentEvent) (status : PaymentStatus)
    (previous : Option PaymentStatus) (caseId : Option ℕ := none) : Service Unit :=
  Service.recordAudit <|
    workerAudit now e.merchantId .paymentUpdated "update_payment" caseId
      (previous.map .payment) (some (.payment status))

/-- `list_open_for_payment`. -/
def Store.listOpenForPayment (s : Store) (merchantId paymentId : ℕ) : List ℕ :=
  s.cases.idsWhere fun c =>
    c.merchantId = merchantId && c.paymentId = some paymentId && c.closedAt.isNone

/-- `list_open_for_customer`. -/
def Store.listOpenForCustomer (s : Store) (merchantId customerId : ℕ) : List ℕ :=
  s.cases.idsWhere fun c =>
    c.merchantId = merchantId && c.customerId = customerId && c.closedAt.isNone

/-- The case that a failed payment opens. -/
def Payment.openedCase (p : Payment) (merchantId paymentId : ℕ) (now : Time) : RecoveryCase where
  merchantId := merchantId
  customerId := p.customerId
  paymentId := some paymentId
  caseType := .failedPayment
  status := .detected
  amountAtRisk := p.amount
  amountRecovered := 0
  currency := p.currency
  openedAt := now
  recovered_le_at_risk := Nat.zero_le _
  has_subject := .inl rfl

/-- A payment that is captured already has its case verified. -/
def queueVerify (p : Payment) (caseId paymentId webhookEventId : ℕ) : List FollowUpJob :=
  if p.status = .captured then [.verifyRecoveryCase caseId paymentId webhookEventId] else []

/-- The row of a payment that has just been written. -/
def readPayment (paymentId : ℕ) : Service Payment := do
  let s ← Session.get
  match s.payments.get? paymentId with
  | some p => pure p
  | none => Session.raise (.crash "ObjectDeletedError")

/-- `_create_or_attach_recovery_case`; a case that another transaction opened in between
is attached the same way. -/
def createOrAttachRecoveryCase (now : Time) (webhookEventId : ℕ) (e : DomainPaymentEvent)
    (paymentId : ℕ) : Service (List FollowUpJob) := do
  let p ← readPayment paymentId
  let s ← Session.get
  match s.listOpenForPayment e.merchantId paymentId with
  | caseId :: _ =>
    Service.recordAudit <|
      workerAudit now e.merchantId .recoveryCaseAttached "attach_case" (some caseId)
        none ((s.cases.get? caseId).map fun c => .status c.status)
    pure (queueVerify p caseId paymentId webhookEventId)
  | [] =>
    let caseId ← Service.insertCase (p.openedCase e.merchantId paymentId now)
    Service.recordAudit <|
      workerAudit now e.merchantId .recoveryCaseCreated "create_case" (some caseId)
        none (some (.status .detected))
    pure (.processRecoveryCase caseId webhookEventId ::
      queueVerify p caseId paymentId webhookEventId)

/-- `_handle_payment_failed`. -/
def handlePaymentFailed (now : Time) (webhookEventId : ℕ) (e : DomainPaymentEvent) :
    Service (List FollowUpJob) := do
  let (paymentId, previous) ← findOrCreatePayment e .failed
  auditPayment now e .failed previous
  createOrAttachRecoveryCase now webhookEventId e paymentId

/-- `_candidate_cases`: the open cases of the payment, then the others of its customer. -/
def Store.candidateCases (s : Store) (p : Payment) (paymentId : ℕ) : List ℕ :=
  let own := s.listOpenForPayment p.merchantId paymentId
  own ++ (s.listOpenForCustomer p.merchantId p.customerId).filter fun i => !own.contains i

/-- `_handle_payment_captured`. -/
def handlePaymentCaptured (now : Time) (webhookEventId : ℕ) (e : DomainPaymentEvent) :
    Service (List FollowUpJob) := do
  let (paymentId, previous) ← findOrCreatePayment e .captured
  let p ← readPayment paymentId
  let s ← Session.get
  let candidates := s.candidateCases p paymentId
  auditPayment now e .captured previous candidates.head?
  pure (candidates.map fun caseId => .verifyRecoveryCase caseId paymentId webhookEventId)

/-- `_handle_payment_status` and `_handle_payment_refunded`. -/
def handlePaymentStatus (now : Time) (e : DomainPaymentEvent) (status : PaymentStatus) :
    Service (List FollowUpJob) := do
  let (_, previous) ← findOrCreatePayment e status
  auditPayment now e status previous
  pure []

/-! ## Events -/

/-- `_dispatch`. -/
def dispatch (now : Time) (webhookEventId merchantId : ℕ) :
    NormalizedEvent → Service (List FollowUpJob)
  | .unknown _ => do
    Service.recordAudit (workerAudit now merchantId .unknownEventIgnored "ignore_unknown")
    pure []
  | .payment e =>
    match e.eventType with
    | .paymentFailed => handlePaymentFailed now webhookEventId e
    | .paymentCaptured => handlePaymentCaptured now webhookEventId e
    | .paymentRefunded => handlePaymentStatus now e .refunded
    | .paymentCancelled => handlePaymentStatus now e .cancelled
    | .paymentAuthorized => handlePaymentStatus now e .authorized
    | .paymentCreated => handlePaymentStatus now e .created

/-- The part of `process_webhook_event` whose errors are recorded on the row. -/
def processRow (env : EventText) (now : Time) (webhookEventId : ℕ) (row : WebhookEvent) :
    Service ProcessingResult := do
  let s ← Session.get
  if (s.merchants.get? row.merchantId).isNone then
    Session.raise <| .domain
      { code := "MISSING_MERCHANT", message := "Merchant was not found for provider event" }
  else
    let event ← Session.ofExcept
      (normalizeProviderEvent env row.merchantId (providerEventFromRow env row))
    let followups ← dispatch now webhookEventId row.merchantId event
    Service.modifyWebhookEvent webhookEventId fun row =>
      { row with
        status := .processed, processedAt := some now, errorCode := none, errorMessage := none }
    Service.recordAudit <|
      workerAudit now row.merchantId .providerEventProcessed "process" none none
        (some (.webhook .processed))
    pure { status := .processed, webhookEventId, followups }

/-- `_mark_failure` of a `DomainError`. -/
def markFailure (now : Time) (webhookEventId : ℕ) (row : WebhookEvent) (e : DomainError)
    (status : WebhookEventStatus) (action : String) : Service Unit := do
  Service.modifyWebhookEvent webhookEventId fun row =>
    { row with
      status
      errorCode := some (String.ofList (e.code.toList.take 64))
      errorMessage := some (String.ofList (e.message.toList.take 500)) }
  Service.recordAudit <|
    workerAudit now row.merchantId .providerEventFailed action none none (some (.webhook status))

/-- The handlers of the exceptions of `process_webhook_event`. What is written on the row
when the exception is raised again is rolled back by every caller, and left out for an
exception that is not a `DomainError`. -/
def recordRowFailure (now : Time) (webhookEventId : ℕ) (row : WebhookEvent) :
    Failure → Service ProcessingResult
  | .domain e =>
    if e.retryable then do
      markFailure now webhookEventId row e .failed "process_failed"
      Session.raise (.domain e)
    else do
      markFailure now webhookEventId row e .deadLetter "dead_letter"
      pure { status := .deadLetter, webhookEventId }
  | .crash exception => Session.raise (.crash exception)

/-- `process_webhook_event`. -/
def processWebhookEvent (env : EventText) (now : Time) (webhookEventId : ℕ) :
    Service ProcessingResult := do
  let s ← Session.get
  match s.webhookEvents.get? webhookEventId with
  | none =>
    Session.raise <| .domain
      { code := "INVALID_PROVIDER_EVENT"
        message := s!"Webhook event {webhookEventId} was not found" }
  | some row =>
    if row.status = .processed then
      pure { status := .alreadyProcessed, webhookEventId }
    else if row.status = .deadLetter then
      pure { status := .deadLetter, webhookEventId }
    else
      -- received, processing (a crashed worker) and failed (a retry) rows are all eligible
      Service.modifyWebhookEvent webhookEventId fun row => { row with status := .processing }
      (processRow env now webhookEventId row).recover
        (recordRowFailure now webhookEventId row)

/-- `mark_dead_letter`, after the last retry. -/
def markDeadLetter (now : Time) (webhookEventId : ℕ) (error : String) : Service Unit := do
  let s ← Session.get
  match s.webhookEvents.get? webhookEventId with
  | none => pure ()
  | some row =>
    if row.status = .processed ∨ row.status = .deadLetter then
      pure ()
    else
      Service.modifyWebhookEvent webhookEventId fun row =>
        { row with
          status := .deadLetter
          errorMessage := some (String.ofList (error.toList.take 500)) }
      Service.recordAudit <|
        workerAudit now row.merchantId .providerEventFailed "dead_letter" none none
          (some (.webhook .deadLetter))

end ReviveX
