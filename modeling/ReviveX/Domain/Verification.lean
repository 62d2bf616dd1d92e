import ReviveX.Domain.Processor

/-!
# Recovery verification

`RecoveryVerificationService`: credit a recovery case with a captured payment.

- `evaluate` decides whether the payment matches the case, from the store alone;
- `duplicateOrAlreadyCounted` is the guard against counting money twice;
- `verifyCase` locks the case, asks both, drives the case to `VERIFYING` and writes the
  credit (`applySuccess`) or the failure (`persistFailure`, which also credits partial
  captures).
-/

namespace ReviveX

open Lib (Session)

/-- `RecoveryMatchResult`. -/
structure RecoveryMatchResult where
  matched : Bool
  caseId : ℕ
  paymentId : Option ℕ := none
  amountRecovered : Money := 0
  currency : String
  reasons : List String := []
  mismatchReason : Option MismatchReason := none
  remainingExposure : Money := 0
  cappedOverpayment : Money := 0
deriving DecidableEq

/-- The arguments of `verify_case`. -/
structure VerifyArgs where
  caseId : ℕ
  paymentId : Option ℕ := none
  webhookEventId : Option ℕ := none
deriving DecidableEq

/-! ## Reading -/

/-- `as_money(case.amount_at_risk - case.amount_recovered)`. -/
def RecoveryCase.remaining (c : RecoveryCase) : Money := c.amountAtRisk - c.amountRecovered

/-- `_resolve_payment`: the argument, else the case's own payment, whatever its merchant. -/
def resolvePayment (s : Store) (c : RecoveryCase) (paymentId : Option ℕ) :
    Option (ℕ × Payment) :=
  (paymentId.or c.paymentId).bind fun target => (s.payments.get? target).map (target, ·)

/-- `list_that_counted_payment`. -/
def Store.listThatCountedPayment (s : Store) (merchantId paymentId : ℕ) : List ℕ :=
  s.cases.idsWhere fun c =>
    c.merchantId = merchantId && c.verifiedPaymentId = some paymentId &&
      decide (0 < c.amountRecovered)

/-- A result that credits nothing. -/
def noCredit (caseId : ℕ) (c : RecoveryCase) (paymentId : ℕ) (reason : MismatchReason)
    (detail : String) : RecoveryMatchResult where
  matched := false
  caseId := caseId
  paymentId := some paymentId
  amountRecovered := c.amountRecovered
  currency := c.currency
  mismatchReason := some reason
  remainingExposure := c.remaining
  reasons := [detail]

/-- `_duplicate_or_already_counted`; `counted` is what `list_that_counted_payment` read. -/
def duplicateOrAlreadyCounted (caseId : ℕ) (c : RecoveryCase) (paymentId : ℕ)
    (webhookEventId : Option ℕ) (counted : List ℕ) : Option RecoveryMatchResult :=
  if webhookEventId.isSome ∧ c.verifiedWebhookEventId = webhookEventId then
    some (noCredit caseId c paymentId .duplicateEvent "same capture event already verified")
  else if c.verifiedPaymentId = some paymentId then
    some (noCredit caseId c paymentId .alreadyCounted
      "this payment was already counted toward the case")
  else if counted.any (· != caseId) then
    some (noCredit caseId c paymentId .alreadyCounted
      "payment already counted on another recovery case")
  else none

/-- The case's own payment, when it belongs to the case's merchant. -/
def Store.casePayment (s : Store) (c : RecoveryCase) : Option Payment :=
  c.paymentId.bind (s.getPayment c.merchantId)

/-- Both payments carry an order. -/
def bothOrders (s : Store) (c : RecoveryCase) (p : Payment) : Option (String × String) := do
  let own ← (s.casePayment c).bind fun q => givenText q.providerOrderId
  let other ← givenText p.providerOrderId
  return (own, other)

/-- The payment was created by an action of the case. -/
def linkedViaAction (s : Store) (caseId paymentId : ℕ) (p : Payment) : Bool :=
  s.actions.any fun a =>
    a.recoveryCaseId = caseId &&
      (((givenText a.providerReference).isSome && a.providerReference == p.providerPaymentId) ||
        a.metadata.newPaymentId = some paymentId)

/-- `_inside_window`. -/
def insideWindow (settings : RecoverySettings) (c : RecoveryCase) (capturedAt : Time) : Bool :=
  decide (c.openedAt - settings.recoveryOrderingGraceMinutes * 60000000 ≤ capturedAt ∧
    capturedAt ≤ c.openedAt + settings.recoveryWindowHours * hour)

/-- The first guard of `_evaluate` that the payment fails, with its detail text. -/
def evaluateMismatch (settings : RecoverySettings) (s : Store) (caseId : ℕ) (c : RecoveryCase)
    (paymentId : ℕ) (p : Payment) : Option (MismatchReason × String) :=
  if p.merchantId ≠ c.merchantId then
    some (.merchantMismatch, "merchant does not match")
  else if p.customerId ≠ c.customerId then
    some (.customerMismatch, "customer does not match")
  else if (bothOrders s c p).any fun o => o.1 != o.2 then
    some (.orderMismatch, "order does not match case")
  -- a case without a payment of its own is not asked how the payment is tied to it
  else if c.paymentId.isSome ∧ c.paymentId ≠ some paymentId ∧
      ¬ ((bothOrders s c p).isSome ∨ linkedViaAction s caseId paymentId p) then
    some (.paymentMismatch, "payment does not match case")
  else if p.currency ≠ c.currency then
    some (.currencyMismatch, "currency does not match")
  else if p.status ≠ .captured then
    some (.notCaptured, "payment is not CAPTURED")
  else match p.capturedAt with
    | none => some (.notCaptured, "captured_at is missing")
    | some capturedAt =>
      if !insideWindow settings c capturedAt then
        some (.outsideRecoveryWindow, "capture is outside the recovery window")
      else if p.amount = 0 then
        some (.amountMismatch, "captured amount is not positive")
      else none

/-- The result of `_evaluate` for a payment that passes every guard. -/
def creditResult (caseId : ℕ) (c : RecoveryCase) (paymentId : ℕ) (p : Payment) :
    RecoveryMatchResult :=
  let captured := p.amount
  let atRisk := c.amountAtRisk
  let credited := min captured atRisk
  let overpayment := if captured > atRisk then captured - credited else 0
  let full := decide (captured ≥ atRisk)
  { matched := full
    caseId
    paymentId := some paymentId
    amountRecovered := if full then credited else captured
    currency := c.currency
    reasons :=
      ["merchant matches", "customer matches", "payment/order matches recovery context",
        "payment is CAPTURED", "capture is inside the recovery window",
        "payment was not previously counted"] ++
      (if captured < atRisk then
        ["partial capture credited without treating full amount_at_risk as recovered"]
      else []) ++
      (if overpayment > 0 then
        ["overpayment capped at amount_at_risk; excess is not recovery revenue"]
      else [])
    mismatchReason := none
    remainingExposure := atRisk - (if full then credited else captured)
    cappedOverpayment := overpayment }

/-- `_evaluate`. -/
def evaluate (settings : RecoverySettings) (s : Store) (caseId : ℕ) (c : RecoveryCase)
    (paymentId : ℕ) (p : Payment) : RecoveryMatchResult :=
  match evaluateMismatch settings s caseId c paymentId p with
  | some (reason, detail) =>
    { noCredit caseId c paymentId reason detail with amountRecovered := 0 }
  | none => creditResult caseId c paymentId p

/-! ## Writing -/

/-- The columns a credit writes. The check constraint caps the amount; `applySuccess`
raises before the cap could bite, `persistFailure` asks for the minimum itself. -/
def RecoveryCase.credit (c : RecoveryCase) (amount : Money) (paymentId : Option ℕ)
    (webhookEventId : Option ℕ) (lastMismatchReason : Option MismatchReason) : RecoveryCase :=
  { c with
    amountRecovered := min amount c.amountAtRisk
    verifiedPaymentId := paymentId.or c.verifiedPaymentId
    verifiedWebhookEventId := webhookEventId
    lastMismatchReason
    recovered_le_at_risk := min_le_right _ _ }

/-- The end of `_ensure_verifying`: a completed action starts the verification. -/
def startVerifying (caller : Caller) (caseId : ℕ) : Service Unit := do
  let c ← readCase caseId
  if c.status = .actionCompleted then
    transitionCase caller caseId .verifying
  else
    pure ()

/-- `_ensure_verifying`. -/
def ensureVerifying (cfg : Config) (caller : Caller) (caseId : ℕ) : Service Unit := do
  let c ← readCase caseId
  if c.status = .verifying ∨ c.status = .recovered then
    pure ()
  else if c.status = .actionCompleted then
    startVerifying caller caseId
  else
    processLockedCase cfg caller caseId
    startVerifying caller caseId

/-- The audit row of a changed credit. -/
def auditCredit (caller : Caller) (caseId : ℕ) (c : RecoveryCase) (credited : Money) :
    Service Unit :=
  if c.amountRecovered ≠ credited then
    Service.recordAudit <|
      caseAudit caller caseId c .recoveryAmountUpdated "update_amount_recovered"
        (some (.amount c.amountRecovered)) (some (.amount credited))
  else pure ()

/-- `_apply_success`. -/
def applySuccess (caller : Caller) (caseId paymentId : ℕ) (result : RecoveryMatchResult)
    (webhookEventId : Option ℕ) : Service Unit := do
  let c ← readCase caseId
  if c.status ≠ .verifying then
    pure ()
  else
    let credited := result.amountRecovered
    if credited > c.amountAtRisk then
      Session.raise <| .domain
        { code := "RECOVERY_AMOUNT_OVERFLOW"
          message := "amount_recovered would exceed amount_at_risk" }
    else
      Service.modifyCase caseId (·.credit credited (some paymentId) webhookEventId none)
      auditCredit caller caseId c credited
      transitionCase caller caseId .recovered

/-- A result that the failure path credits. -/
def RecoveryMatchResult.isPartial (result : RecoveryMatchResult) : Bool :=
  result.mismatchReason.isNone && decide (0 < result.amountRecovered) &&
    decide (0 < result.remainingExposure)

/-- The partial-capture branch of `_persist_failure`; it does not ask for the status. -/
def creditPartial (caller : Caller) (caseId : ℕ) (result : RecoveryMatchResult)
    (webhookEventId : Option ℕ) (c : RecoveryCase) : Service Unit :=
  if result.isPartial then do
    Service.modifyCase caseId
      (·.credit result.amountRecovered result.paymentId webhookEventId c.lastMismatchReason)
    auditCredit caller caseId c (min result.amountRecovered c.amountAtRisk)
  else pure ()

/-- The columns `_persist_failure` writes first. -/
def RecoveryCase.noteFailure (c : RecoveryCase) (result : RecoveryMatchResult)
    (webhookEventId : Option ℕ) : RecoveryCase :=
  { c with
    lastMismatchReason := some (result.mismatchReason.getD .unknown)
    verifiedWebhookEventId :=
      if webhookEventId.isSome ∧ result.mismatchReason = some .duplicateEvent then
        webhookEventId
      else c.verifiedWebhookEventId }

/-- `_persist_failure`. -/
def persistFailure (caller : Caller) (caseId : ℕ) (result : RecoveryMatchResult)
    (webhookEventId : Option ℕ) : Service Unit := do
  Service.modifyCase caseId (·.noteFailure result webhookEventId)
  let c ← readCase caseId
  creditPartial caller caseId result webhookEventId c
  if c.status = .verifying then
    transitionCase caller caseId .notRecovered
  else if result.mismatchReason.isSome then
    Service.recordAudit <|
      caseAudit caller caseId c .recoveryVerificationFailed "verify_failed"
        (some (.status c.status)) (some (.status c.status))
  else
    pure ()

/-- `_audit_no_credit`. -/
def auditNoCredit (caller : Caller) (caseId : ℕ) (result : RecoveryMatchResult) :
    Service Unit := do
  Service.modifyCase caseId fun c => { c with lastMismatchReason := result.mismatchReason }
  let c ← readCase caseId
  Service.recordAudit <|
    caseAudit caller caseId c .recoveryVerificationFailed "verify_idempotent"
      (some (.status c.status)) (some (.status c.status))

/-- The two ends of `verify_case`. -/
def persistOutcome (caller : Caller) (caseId paymentId : ℕ) (result : RecoveryMatchResult)
    (webhookEventId : Option ℕ) : Service Unit :=
  if result.matched then
    applySuccess caller caseId paymentId result webhookEventId
  else
    persistFailure caller caseId result webhookEventId

/-! ## The service -/

/-- The result for a stopped case. -/
def stoppedResult (caseId : ℕ) (c : RecoveryCase) : RecoveryMatchResult where
  matched := false
  caseId := caseId
  amountRecovered := c.amountRecovered
  currency := c.currency
  mismatchReason := some .unknown
  remainingExposure := c.remaining
  reasons := ["case is STOPPED"]

/-- The result when there is no payment to verify. -/
def missingPaymentResult (caseId : ℕ) (c : RecoveryCase) : RecoveryMatchResult where
  matched := false
  caseId := caseId
  amountRecovered := 0
  currency := c.currency
  mismatchReason := some .paymentMismatch
  remainingExposure := c.remaining

/-- The result for a case that is already recovered. -/
def alreadyRecoveredResult (caseId : ℕ) (c : RecoveryCase) (paymentId : ℕ) :
    RecoveryMatchResult where
  matched := true
  caseId := caseId
  paymentId := some paymentId
  amountRecovered := c.amountRecovered
  currency := c.currency
  reasons := ["already recovered; verification is idempotent"]
  remainingExposure := 0

/-- `verify_case` on a locked case, given what `list_that_counted_payment` reads. -/
def verifyLocked (cfg : Config) (caller : Caller) (args : VerifyArgs)
    (listThatCountedPayment : ℕ → ℕ → List ℕ) (c : RecoveryCase) :
    Service RecoveryMatchResult := do
  if c.status = .stopped then
    pure (stoppedResult args.caseId c)
  else
    let s ← Session.get
    match resolvePayment s c args.paymentId with
    | none =>
      let result := missingPaymentResult args.caseId c
      persistFailure caller args.caseId result args.webhookEventId
      pure result
    | some (paymentId, payment) =>
      match duplicateOrAlreadyCounted args.caseId c paymentId args.webhookEventId
          (listThatCountedPayment c.merchantId paymentId) with
      | some duplicate =>
        auditNoCredit caller args.caseId duplicate
        pure duplicate
      | none =>
        let result := evaluate cfg.settings s args.caseId c paymentId payment
        if c.status = .recovered then
          pure (alreadyRecoveredResult args.caseId c paymentId)
        else
          ensureVerifying cfg caller args.caseId
          persistOutcome caller args.caseId paymentId result args.webhookEventId
          pure result

/-- `verify_case`. -/
def verifyCase (cfg : Config) (caller : Caller) (args : VerifyArgs) :
    Service RecoveryMatchResult := do
  let c ← lockRecoveryCase args.caseId
  let s ← Session.get
  verifyLocked cfg caller args s.listThatCountedPayment c

end ReviveX
