import ReviveX.Domain.Processing
import ReviveX.Tools.Schemas

/-!
# Tool handlers

One handler for each tool. A handler reads the case, its customer and its payment, may ask
the payment provider, and returns a `HandlerResult`; an exception other than a provider
error escapes it. The provider is a parameter of the service, so it may answer differently
at every call. Every question to it is noted in the history before its answer is used.

`applyCaseOutcome` then moves the case to the status that a successful result declares.
-/

namespace ReviveX

open Lib (Decimal Json Session Table)

/-! ## Texts -/

/-- `str(PaymentStatus)`. -/
def PaymentStatus.text : PaymentStatus → String
  | .created => "CREATED"
  | .authorized => "AUTHORIZED"
  | .captured => "CAPTURED"
  | .failed => "FAILED"
  | .refunded => "REFUNDED"
  | .partiallyRefunded => "PARTIALLY_REFUNDED"
  | .cancelled => "CANCELLED"
  | .unknown => "UNKNOWN"

/-- `str(CartStatus)`. -/
def CartStatus.text : CartStatus → String
  | .active => "ACTIVE"
  | .abandoned => "ABANDONED"
  | .converted => "CONVERTED"
  | .expired => "EXPIRED"

/-- `str(SubscriptionStatus)`. -/
def SubscriptionStatus.text : SubscriptionStatus → String
  | .created => "CREATED"
  | .active => "ACTIVE"
  | .pending => "PENDING"
  | .halted => "HALTED"
  | .cancelled => "CANCELLED"
  | .completed => "COMPLETED"

/-- `str` of a stored amount: rupees with two decimals. -/
def Money.text (m : Money) : String :=
  s!"{m / 100}.{m / 10 % 10}{m % 10}"

/-- A text of the payload; `null`, an absent key and another type give none. -/
def textField (payload : Payload) (key : String) : Option String :=
  match Json.get? payload key with
  | some (.str s) => some s
  | _ => none

/-- `payload.get(key) or default`. -/
def textOr (payload : Payload) (key default : String) : String :=
  (givenText (textField payload key)).getD default

/-! ## Payment providers -/

/-- `ProviderError`; `ProviderNotFoundError` is the subclass the code tells apart. -/
structure ProviderError where
  code : String
  message : String
  notFound : Bool := false

/-- `CreatePaymentRequest`. -/
structure CreatePaymentRequest where
  merchantReference : ℕ
  amount : Money
  currency : String
  customerReference : ℕ
  providerOrderId : Option String
  attemptNumber : ℤ
  lifetimeValue : Money
  intendedStatus : Option String
  failureReason : Option String
  originalProviderPaymentId : Option String
  idempotencyKey : String

/-- `PaymentSnapshot`; `dump` is what `model_dump` prints of it. The amount is any number of
paise, as a money column would round it. -/
structure PaymentSnapshot where
  provider : String
  providerPaymentId : String
  providerOrderId : Option String := none
  merchantReference : String := ""
  amount : ℤ
  currency : String
  status : PaymentStatus
  attemptNumber : ℤ := 1
  failureReason : Option String := none
  paymentMethod : Option String := some "card"
  occurredAt : Time
  dump : Payload := []

/-- `CreatePaymentLinkRequest`. -/
structure CreatePaymentLinkRequest where
  merchantReference : ℕ
  amount : Money
  currency : String
  customerReference : ℕ
  description : Option String

/-- `PaymentLinkSnapshot`. -/
structure PaymentLinkSnapshot where
  provider : String
  providerPaymentLinkId : String
  amount : ℤ
  status : String
  url : String
  simulated : Bool := true

/-- `PaymentProvider`. -/
structure PaymentProvider where
  name : String
  createPayment : CreatePaymentRequest → Except ProviderError PaymentSnapshot
  createPaymentLink : CreatePaymentLinkRequest → Except ProviderError PaymentLinkSnapshot
  fetchPayment : String → Except ProviderError PaymentSnapshot

/-- `ProviderName.SIMULATOR`. -/
def simulatorName : String := "SIMULATOR"

/-- An instance of the tool service: its configuration and the parties it talks to. -/
structure ToolExecutionService where
  settings : RecoverySettings := {}
  provider : PaymentProvider
  /-- `predict_recovery_probability` for a case, an action and an attempt number: the
  output, or the code and message of an `InferenceError`, or another exception. -/
  predict : Store → ℕ → String → ℕ → Except String (Except (String × String) Payload)

/-! ## Contexts and results -/

/-- `HandlerContext`. -/
structure HandlerContext where
  caseId : ℕ
  case : RecoveryCase
  customer : Option (ℕ × Customer)
  payment : Option (ℕ × Payment)
  payload : Payload
  attemptNumber : ℕ
  idempotencyKey : String

/-- `HandlerResult`. -/
structure HandlerResult where
  success : Bool
  output : Payload := []
  provider : Option String := none
  providerReference : Option String := none
  amount : Option Money := none
  errorCode : Option String := none
  errorMessage : Option String := none
  caseStatus : Option RecoveryCaseStatus := none
  simulated : Bool := true
  metadata : ActionMetadata := {}

/-- A result that reports a failure. -/
def HandlerResult.failure (code message : String) (provider : Option String := none) :
    HandlerResult where
  success := false
  errorCode := some code
  errorMessage := some message
  provider := provider

/-- The result of a provider error. -/
def ProviderError.result (e : ProviderError) (provider : PaymentProvider) : HandlerResult :=
  .failure e.code e.message (some provider.name)

/-- The value, or an exception that is not a `DomainError`. -/
def orCrash {α : Type} (exception : String) (x : Option α) : Service α :=
  match x with
  | some a => pure a
  | none => Session.raise (.crash exception)

/-- What a provider was asked for, and the rows that say what is still owed. -/
def providerAsk (ctx : HandlerContext) (amount : Money) (s : Store) : ProviderAsk where
  caseId := ctx.caseId
  amount := amount
  case := ctx.case
  payments := s.payments
  actions := s.actions

/-! ## Reading tools -/

/-- `_payment_dict`. -/
def paymentDict (paymentId : ℕ) (p : Payment) : Payload :=
  [("payment_id", .str (toString paymentId)), ("provider", .str p.provider),
    ("provider_payment_id", .ofOption p.providerPaymentId),
    ("provider_order_id", .ofOption p.providerOrderId), ("status", .str p.status.text),
    ("amount", .str (Money.text p.amount)), ("currency", .str p.currency),
    ("failure_code", .ofOption p.failureCode)]

/-- `list_for_customer`: newest first. -/
def Store.listForCustomer (s : Store) (merchantId customerId : ℕ) : List (ℕ × Payment) :=
  (s.payments.entries.filter fun e =>
    e.2.merchantId = merchantId && e.2.customerId = customerId).reverse

/-- `handle_get_customer_history`. -/
def handleGetCustomerHistory (ctx : HandlerContext) : Service HandlerResult := do
  match ctx.customer with
  | none => pure (.failure "MISSING_CUSTOMER" "Customer not found")
  | some (customerId, customer) =>
    let s ← Session.get
    let payments := (s.listForCustomer ctx.case.merchantId customerId).map fun e =>
      Json.obj
        [("id", .str (toString e.1)), ("status", .str e.2.status.text),
          ("amount", .str (Money.text e.2.amount)),
          ("provider_payment_id", .ofOption e.2.providerPaymentId)]
    pure
      { success := true
        output :=
          [("customer_id", .str (toString customerId)), ("email", .ofOption customer.email),
            ("lifetime_value", .str (Money.text customer.lifetimeValue)),
            ("payments", .arr payments)] }

/-- `handle_get_payment_details`. -/
def handleGetPaymentDetails (ctx : HandlerContext) : Service HandlerResult :=
  match ctx.payment with
  | none => pure (.failure "MISSING_PAYMENT" "Payment not found")
  | some (paymentId, p) =>
    pure
      { success := true
        output := paymentDict paymentId p
        provider := some p.provider
        providerReference := p.providerPaymentId }

/-- `handle_get_cart_details`. -/
def handleGetCartDetails (ctx : HandlerContext) : Service HandlerResult := do
  let s ← Session.get
  match ctx.case.cartId.bind fun cartId => (s.carts.get? cartId).map (cartId, ·) with
  | none => pure { success := true, output := [("cart", .null)] }
  | some (cartId, cart) =>
    pure
      { success := true
        output :=
          [("cart_id", .str (toString cartId)), ("status", .str cart.status.text),
            ("total", .str (Money.text cart.total)),
            ("discount", .str (Money.text cart.discount)), ("currency", .str cart.currency)] }

/-- `handle_get_subscription_details`. -/
def handleGetSubscriptionDetails (ctx : HandlerContext) : Service HandlerResult := do
  let s ← Session.get
  match ctx.case.subscriptionId.bind fun i => (s.subscriptions.get? i).map (i, ·) with
  | none => pure { success := true, output := [("subscription", .null)] }
  | some (subscriptionId, row) =>
    pure
      { success := true
        output :=
          [("subscription_id", .str (toString subscriptionId)), ("status", .str row.status.text),
            ("amount", .str (Money.text row.amount)),
            ("provider_subscription_id", .ofOption row.providerSubscriptionId)] }

/-- `handle_get_recovery_case`. -/
def handleGetRecoveryCase (ctx : HandlerContext) : Service HandlerResult :=
  pure
    { success := true
      output :=
        [("case_id", .str (toString ctx.caseId)), ("status", .str ctx.case.status.text),
          ("amount_at_risk", .str (Money.text ctx.case.amountAtRisk)),
          ("amount_recovered", .str (Money.text ctx.case.amountRecovered)),
          ("currency", .str ctx.case.currency), ("version", .int ctx.case.version)] }

/-- `handle_calculate_recovery_probability`. -/
def handleCalculateRecoveryProbability (svc : ToolExecutionService) (ctx : HandlerContext) :
    Service HandlerResult := do
  let s ← Session.get
  let action := textOr ctx.payload "action" RecoveryActionType.retryNow.text
  match svc.predict s ctx.caseId action ctx.attemptNumber with
  | .error exception => Session.raise (.crash exception)
  | .ok (.error (code, message)) => pure (.failure code message)
  | .ok (.ok output) => pure { success := true, output }

/-- `handle_check_payment_status`, on the local record. -/
def checkLocalPayment (ctx : HandlerContext) : HandlerResult :=
  match ctx.payment with
  | none => .failure "MISSING_PAYMENT" "Payment not found"
  | some (paymentId, p) =>
    { success := true, output := paymentDict paymentId p, provider := some p.provider }

/-- `handle_check_payment_status`. -/
def handleCheckPaymentStatus (svc : ToolExecutionService) (ctx : HandlerContext) :
    Service HandlerResult :=
  match givenText (textField ctx.payload "provider_payment_id") with
  | none => pure (checkLocalPayment ctx)
  | some providerPaymentId =>
    match svc.provider.fetchPayment providerPaymentId with
    | .ok snapshot =>
      pure
        { success := true
          output := snapshot.dump
          provider := some snapshot.provider
          providerReference := some snapshot.providerPaymentId }
    | .error e =>
      pure (if e.notFound then checkLocalPayment ctx else e.result svc.provider)

/-! ## Collecting money -/

/-- `FailureReason`. -/
def failureReasons : List String :=
  ["TEMPORARY_BANK_ERROR", "INSUFFICIENT_FUNDS", "EXPIRED_CARD", "DECLINED",
    "NETWORK_TIMEOUT", "MANDATE_FAILURE", "CUSTOMER_CANCELLED", "UNKNOWN"]

/-- `FailureReason(failure_code)`, with `UNKNOWN` for a code that is none. -/
def failureReason (failureCode : Option String) : Option String :=
  (givenText failureCode).map fun code =>
    if failureReasons.contains code then code else "UNKNOWN"

/-- The attempt number of a retry: the one of the payload, unless it is 0 or absent. -/
def retryAttemptNumber (s : Store) (payload : Payload) (paymentId : ℕ) : ℤ :=
  match Json.get? payload "attempt_number" with
  | some (.int n) => if n = 0 then s.nextAttemptNumber paymentId else n
  | _ => s.nextAttemptNumber paymentId

/-- The request a retry sends to the provider. -/
def retryRequest (ctx : HandlerContext) (original : Payment) (attemptNumber : ℤ) :
    CreatePaymentRequest where
  merchantReference := ctx.caseId
  amount := original.amount
  currency := original.currency
  customerReference := original.customerId
  providerOrderId := original.providerOrderId
  attemptNumber := attemptNumber
  lifetimeValue := (ctx.customer.map (·.2.lifetimeValue)).getD 0
  intendedStatus := textField ctx.payload "intended_status"
  failureReason := failureReason original.failureCode
  originalProviderPaymentId := original.providerPaymentId
  idempotencyKey := ctx.idempotencyKey

/-- The largest amount of a money column, a `NUMERIC(18, 2)`, and one paisa. -/
def moneyColumnBound : ℤ := 10 ^ 18

/-- The amount goes into a money column, whose check is that it is not negative. -/
def fitsMoneyColumn (paise : ℤ) : Bool := decide (0 ≤ paise ∧ paise < moneyColumnBound)

/-- What the database raises for an amount that does not fit. -/
def moneyColumnError (paise : ℤ) : Failure :=
  .crash (if paise < 0 then "IntegrityError" else "DataError")

/-- The payment row of a retry. -/
def retriedPayment (ctx : HandlerContext) (original : Payment) (snapshot : PaymentSnapshot) :
    Payment where
  merchantId := ctx.case.merchantId
  customerId := original.customerId
  provider := snapshot.provider
  providerPaymentId := some snapshot.providerPaymentId
  providerOrderId := snapshot.providerOrderId
  amount := snapshot.amount.toNat
  currency := snapshot.currency
  status := snapshot.status
  paymentMethod := snapshot.paymentMethod
  failureCode := givenText snapshot.failureReason
  failedAt := if snapshot.status = .failed then some snapshot.occurredAt else none
  capturedAt := if snapshot.status = .captured then some snapshot.occurredAt else none
  internalName := some (internalPaymentName ctx.case.merchantId snapshot.provider
    snapshot.providerPaymentId)

/-- The two payments cannot both be stored: they are one payment of a merchant at a provider,
or their primary keys are one. -/
def Payment.clashes (p q : Payment) : Bool :=
  (q.merchantId = p.merchantId && q.provider = p.provider &&
    q.providerPaymentId = p.providerPaymentId) ||
  (p.internalName.isSome && q.internalName = p.internalName)

/-- The number fits the column `attempt_number`, an `INTEGER`. -/
def fitsInteger (n : ℤ) : Bool := decide (-2147483648 ≤ n ∧ n ≤ 2147483647)

/-- Insert the payment of a retry, whose table has uniqueness constraints and a money column. -/
def insertRetryPayment (p : Payment) (snapshot : PaymentSnapshot) : Service ℕ := do
  let s ← Session.get
  if !fitsMoneyColumn snapshot.amount then
    Session.raise (moneyColumnError snapshot.amount)
  else if s.payments.any p.clashes then
    Session.raise (.crash "IntegrityError")
  else
    Session.modifyGet fun s =>
      (s.payments.nextId, { s with payments := s.payments.insert p })

/-- The attempt of a retry. -/
def retriedAttempt (originalId : ℕ) (attemptNumber : ℤ) (snapshot : PaymentSnapshot) :
    PaymentAttempt where
  paymentId := originalId
  attemptNumber := attemptNumber
  status := snapshot.status
  amount := snapshot.amount.toNat
  currency := snapshot.currency
  failureCode := givenText snapshot.failureReason
  attemptedAt := snapshot.occurredAt

/-- Insert the attempt of a retry: its number is unique and an `INTEGER`. -/
def insertRetryAttempt (originalId : ℕ) (attemptNumber : ℤ) (snapshot : PaymentSnapshot) :
    Service Unit := do
  let s ← Session.get
  if s.paymentAttempts.any (fun a => a.paymentId = originalId && a.attemptNumber = attemptNumber)
  then
    Session.raise (.crash "IntegrityError")
  else if !fitsInteger attemptNumber then
    Session.raise (.crash "DataError")
  else
    Session.modify fun s =>
      { s with
        paymentAttempts :=
          s.paymentAttempts.insert (retriedAttempt originalId attemptNumber snapshot) }

/-- Insert the rows of a retry. -/
def insertRetry (originalId : ℕ) (attemptNumber : ℤ) (p : Payment)
    (snapshot : PaymentSnapshot) : Service ℕ := do
  let newPaymentId ← insertRetryPayment p snapshot
  insertRetryAttempt originalId attemptNumber snapshot
  pure newPaymentId

/-- What `handle_retry_payment` returns after the rows are written. -/
def retryResult (original : Payment) (attemptNumber : ℤ) (snapshot : PaymentSnapshot)
    (newPaymentId : ℕ) : HandlerResult where
  success := true
  output :=
    [("original_provider_payment_id", .ofOption original.providerPaymentId),
      ("original_status", .str original.status.text),
      ("new_provider_payment_id", .str snapshot.providerPaymentId),
      ("new_payment_id", .str (toString newPaymentId)),
      ("provider_status", .str snapshot.status.text), ("attempt_number", .int attemptNumber),
      ("provider", .str snapshot.provider),
      ("simulated", .bool (snapshot.provider = simulatorName))]
  provider := some snapshot.provider
  providerReference := some snapshot.providerPaymentId
  amount := some snapshot.amount.toNat
  caseStatus := some .actionCompleted
  metadata := { newPaymentId := some newPaymentId, executed := some true }

/-- `handle_retry_payment` from the provider's answer on. -/
def finishRetry (svc : ToolExecutionService) (ctx : HandlerContext) (originalId : ℕ)
    (original : Payment) (attemptNumber : ℤ) :
    Except ProviderError PaymentSnapshot → Service HandlerResult
  | .error e => pure (e.result svc.provider)
  | .ok snapshot => do
    -- only rows are added, so `ORIGINAL_PAYMENT_MUTATED` cannot be returned
    let newPaymentId ← insertRetry originalId attemptNumber
      (retriedPayment ctx original snapshot) snapshot
    pure (retryResult original attemptNumber snapshot newPaymentId)

/-- `handle_retry_payment` of a service without an event queue. -/
def handleRetryPayment (svc : ToolExecutionService) (ctx : HandlerContext) :
    Service HandlerResult := do
  match ctx.payment with
  | none => pure (.failure "MISSING_PAYMENT" "Retry requires a case payment")
  | some (originalId, original) =>
    let s ← Session.get
    let attemptNumber := retryAttemptNumber s ctx.payload originalId
    Service.note (.createPaymentAsked (providerAsk ctx original.amount s))
    finishRetry svc ctx originalId original attemptNumber
      (svc.provider.createPayment (retryRequest ctx original attemptNumber))

/-- What `handle_create_payment_link` returns. -/
def linkResult (snapshot : PaymentLinkSnapshot) : HandlerResult where
  success := true
  output :=
    [("provider", .str snapshot.provider),
      ("provider_payment_link_id", .str snapshot.providerPaymentLinkId),
      ("url", .str snapshot.url), ("status", .str snapshot.status),
      ("simulated", .bool snapshot.simulated)]
  provider := some snapshot.provider
  providerReference := some snapshot.providerPaymentLinkId
  amount := some snapshot.amount.toNat
  caseStatus := some .actionCompleted
  simulated := snapshot.simulated

/-- Record a payment link on the case's payment. -/
def recordPaymentLink (payment : Option (ℕ × Payment)) (linkId : String) : Service Unit :=
  match payment with
  | none => pure ()
  | some (paymentId, _) => Session.modify fun s =>
    { s with
      payments := s.payments.modify paymentId fun p =>
        { p with providerPaymentLinkId := some linkId } }

/-- The request for a payment link. -/
def linkRequest (ctx : HandlerContext) : CreatePaymentLinkRequest where
  merchantReference := ctx.caseId
  amount := ctx.case.amountAtRisk
  currency := ctx.case.currency
  customerReference := ctx.case.customerId
  description := textField ctx.payload "description"

/-- `handle_create_payment_link` from the provider's answer on. -/
def finishPaymentLink (svc : ToolExecutionService) (ctx : HandlerContext) :
    Except ProviderError PaymentLinkSnapshot → Service HandlerResult
  | .error e => pure (e.result svc.provider)
  | .ok snapshot =>
    -- the amount is written on the row of the action, which is flushed before the call returns
    if !fitsMoneyColumn snapshot.amount then
      Session.raise (moneyColumnError snapshot.amount)
    else do
      recordPaymentLink ctx.payment snapshot.providerPaymentLinkId
      pure (linkResult snapshot)

/-- `handle_create_payment_link`. -/
def handleCreatePaymentLink (svc : ToolExecutionService) (ctx : HandlerContext) :
    Service HandlerResult := do
  let s ← Session.get
  Service.note (.createPaymentLinkAsked (providerAsk ctx ctx.case.amountAtRisk s))
  finishPaymentLink svc ctx (svc.provider.createPaymentLink (linkRequest ctx))

/-! ## The other side effects -/

/-- `handle_schedule_retry`. -/
def handleScheduleRetry (rt : Runtime) (ctx : HandlerContext) : Service HandlerResult := do
  let text := (textField ctx.payload "scheduled_for").getD ""
  let scheduledFor ← orCrash "ValueError" (rt.py.fromisoformat (replaceZulu text))
  pure
    { success := true
      output :=
        [("scheduled_for", .str (rt.py.isoformat scheduledFor)), ("executed", .bool false),
          ("note", .str "Future workers must re-check payment, case, policy, and idempotency")]
      caseStatus := some .retryScheduled
      metadata := { scheduledFor := some scheduledFor, executed := some false } }

/-- The notification row of a reminder. -/
def reminder (ctx : HandlerContext) (customerId : ℕ) (now : Time) : Notification where
  merchantId := ctx.case.merchantId
  customerId := customerId
  recoveryCaseId := ctx.caseId
  channel := (NotificationChannel.ofText?
    (textOr ctx.payload "channel" NotificationChannel.email.text)).getD .email
  status := .sent
  providerReference := s!"notif_sim_{String.ofList (ctx.idempotencyKey.toList.take 24)}"
  subject := textOr ctx.payload "subject" "Recovery reminder"
  bodyPreview := textOr ctx.payload "body_preview" "Simulated recovery reminder"
  createdAt := now

/-- `handle_send_notification`. -/
def handleSendNotification (now : Time) (ctx : HandlerContext) : Service HandlerResult := do
  match ctx.customer with
  | none => pure (.failure "MISSING_CUSTOMER" "Notification requires a customer")
  | some (customerId, _) =>
    let row := reminder ctx customerId now
    let notificationId ← Session.modifyGet fun s =>
      (s.notifications.nextId, { s with notifications := s.notifications.insert row })
    pure
      { success := true
        output :=
          [("notification_id", .str (toString notificationId)),
            ("channel", .str row.channel.text), ("status", .str "SENT"),
            ("provider", .str simulatorName), ("simulated", .bool true)]
        provider := some simulatorName
        providerReference := some row.providerReference
        caseStatus := some .actionCompleted }

/-- `as_money((amount_at_risk * percent) / 100)`. -/
def discountAmount (c : RecoveryCase) (percent : Decimal) : Option Money := do
  let product ← Decimal.mul? ((c.amountAtRisk : ℚ) / 100) percent
  let quotient ← product.div? 100
  asMoney quotient

/-- The discount of the case's cart grows. -/
def discountCart (cartId : Option ℕ) (amount : Money) : Service Unit := do
  let s ← Session.get
  match cartId.bind fun i => (s.carts.get? i).map (i, ·) with
  | none => pure ()
  | some (i, cart) =>
    let discount ← orCrash "InvalidOperation"
      ((cart.discount.toDecimal.add? amount.toDecimal).bind asMoney)
    Session.modify fun s => { s with carts := s.carts.modify i fun cart => { cart with discount } }

/-- `handle_offer_discount`. -/
def handleOfferDiscount (rt : Runtime) (ctx : HandlerContext) : Service HandlerResult := do
  let text := (textField ctx.payload "discount_percent").getD ""
  let percent ← orCrash "InvalidOperation" (rt.py.decimal text)
  let amount ← orCrash "InvalidOperation" (discountAmount ctx.case percent)
  discountCart ctx.case.cartId amount
  pure
    { success := true
      output :=
        [("discount_percent", .str (rt.decimalText text)),
          ("discount_amount", .str (Money.text amount)), ("currency", .str ctx.case.currency),
          ("executed", .bool true)]
      amount := some amount
      caseStatus := some .actionCompleted
      metadata := { discountPercent := some (rt.decimalText text), executed := some true } }

/-- `handle_escalate_to_human`. -/
def handleEscalateToHuman (ctx : HandlerContext) : Service HandlerResult :=
  pure
    { success := true
      output :=
        [("escalated", .bool true),
          ("reason", .str (textOr ctx.payload "reason" "Escalated to a human operator")),
          ("amount_recovered_claimed", .bool false)]
      caseStatus := some .escalated
      metadata := { executed := some true } }

/-- `handle_pause_recovery`. -/
def handlePauseRecovery (ctx : HandlerContext) : Service HandlerResult :=
  pure
    { success := true
      output :=
        [("stopped", .bool true),
          ("reason", .str (textOr ctx.payload "reason" "Automatic recovery paused"))]
      caseStatus := some .stopped
      metadata := { executed := some true } }

/-- `HANDLERS`. -/
def handlers (rt : Runtime) (svc : ToolExecutionService) (now : Time) (ctx : HandlerContext) :
    ToolName → Service HandlerResult
  | .getCustomerHistory => handleGetCustomerHistory ctx
  | .getPaymentDetails => handleGetPaymentDetails ctx
  | .getCartDetails => handleGetCartDetails ctx
  | .getSubscriptionDetails => handleGetSubscriptionDetails ctx
  | .getRecoveryCase => handleGetRecoveryCase ctx
  | .calculateRecoveryProbability => handleCalculateRecoveryProbability svc ctx
  | .retryPayment => handleRetryPayment svc ctx
  | .scheduleRetry => handleScheduleRetry rt ctx
  | .createPaymentLink => handleCreatePaymentLink svc ctx
  | .sendNotification => handleSendNotification now ctx
  | .offerDiscount => handleOfferDiscount rt ctx
  | .checkPaymentStatus => handleCheckPaymentStatus svc ctx
  -- `handle_check_subscription_status` calls the handler of the details
  | .checkSubscriptionStatus => handleGetSubscriptionDetails ctx
  | .escalateToHuman => handleEscalateToHuman ctx
  | .pauseRecovery => handlePauseRecovery ctx

/-! ## The case afterwards -/

/-- `apply_case_outcome` for `ACTION_COMPLETED`. -/
def completeAction (caller : Caller) (caseId : ℕ) (current : RecoveryCaseStatus) :
    Service Unit := do
  if current = .policyCheck ∨ current = .awaitingApproval then
    transitionCase caller caseId .executing
    transitionCase caller caseId .actionCompleted
  else if current = .executing then
    transitionCase caller caseId .actionCompleted
  else
    pure ()

/-- `apply_case_outcome`. -/
def applyCaseOutcome (caller : Caller) (caseId : ℕ) (target : Option RecoveryCaseStatus) :
    Service Unit := do
  let c ← readCase caseId
  if some c.status = target then
    pure ()
  else
    match target with
    | some .actionCompleted => completeAction caller caseId c.status
    | some .retryScheduled =>
      if c.status = .policyCheck then
        transitionCase caller caseId .retryScheduled
      else
        pure ()
    | some .escalated | some .stopped =>
      if [RecoveryCaseStatus.policyCheck, .awaitingApproval, .failed,
          .notRecovered].contains c.status then
        transitionCase caller caseId (target.getD .stopped)
      else
        pure ()
    | _ => pure ()

end ReviveX
