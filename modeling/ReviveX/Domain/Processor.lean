import ReviveX.Domain.PolicyEngine
import ReviveX.Domain.StateMachine

/-!
# Recovery case processor

`RecoveryCaseProcessor`: walk a case to `POLICY_CHECK`, select an action, ask the policy
engine, and block it, park it for approval or record it as ready. No provider is called.
-/

namespace ReviveX

open Lib (Json Session)

/-- `RETRYABLE_FAILURES`. -/
def retryableFailures : List String :=
  ["TEMPORARY_BANK_ERROR", "NETWORK_TIMEOUT", "INSUFFICIENT_FUNDS"]

/-- `PROCESS_STEPS`. -/
def processSteps : List RecoveryCaseStatus :=
  [.triaged, .investigating, .diagnosed, .scoring, .strategySelected, .policyCheck]

/-- The order in `_already_past`. -/
def lifecycleOrder : List RecoveryCaseStatus :=
  [.detected, .triaged, .investigating, .diagnosed, .scoring, .strategySelected, .policyCheck,
    .awaitingApproval, .executing, .actionCompleted]

/-- `_already_past`. -/
def alreadyPast (current target : RecoveryCaseStatus) : Bool :=
  lifecycleOrder.contains current && lifecycleOrder.contains target &&
    decide (lifecycleOrder.idxOf target < lifecycleOrder.idxOf current)

/-- `TOOL_BY_ACTION`. -/
def toolByAction : RecoveryActionType → ToolName
  | .retryNow => .retryPayment
  | .retryLater => .scheduleRetry
  | .sendPaymentLink => .createPaymentLink
  | .sendReminder => .sendNotification
  | .offerDiscount => .offerDiscount
  | .escalate => .escalateToHuman
  | .doNothing => .pauseRecovery

/-- The steps of `_walk_to_policy_check` that are still ahead. -/
def walkSteps (caller : Caller) (caseId : ℕ) : List RecoveryCaseStatus → Service Unit
  | [] => pure ()
  | target :: rest => do
    let c ← readCase caseId
    if c.status = target ∨ alreadyPast c.status target then
      walkSteps caller caseId rest
    else if c.status = .policyCheck then
      pure ()
    else
      transitionCase caller caseId target
      walkSteps caller caseId rest

/-- `walk_to_policy_check`. -/
def walkToPolicyCheck (caller : Caller) (caseId : ℕ) : Service Unit :=
  walkSteps caller caseId processSteps

/-- `_select_action`. -/
def selectAction (s : Store) (c : RecoveryCase) : RecoveryActionType :=
  let payment := c.paymentId.bind (s.getPayment c.merchantId)
  let failure := (payment.bind (·.failureCode)).getD ""
  if retryableFailures.contains failure then .retryLater else .sendPaymentLink

/-- The action of a merchant under an idempotency key. -/
def Store.actionIdOfKey (s : Store) (merchantId : ℕ) (key : String) : Option ℕ :=
  s.actions.findId? fun a => a.merchantId = merchantId && a.idempotencyKey = key

/-- `_record_planned_action`: an existing row of the key is returned as it is. -/
def recordPlannedAction (caller : Caller) (caseId : ℕ) (c : RecoveryCase)
    (actionType : RecoveryActionType) (status : RecoveryActionStatus) (riskLevel : RiskLevel)
    (metadata : ActionMetadata) : Service ℕ := do
  let idempotencyKey := s!"phase5:{caseId}:{actionType.text}:1"
  let s ← Session.get
  match s.actionIdOfKey c.merchantId idempotencyKey with
  | some existing => pure existing
  | none =>
    let actionId ← Service.insertAction
      { merchantId := c.merchantId
        recoveryCaseId := caseId
        actionType, status, idempotencyKey, riskLevel, metadata
        amount := some c.amountAtRisk
        currency := c.currency
        createdAt := caller.now }
    Service.insertDecision
      { merchantId := c.merchantId
        recoveryCaseId := caseId
        recoveryActionId := actionId
        selectedAction := actionType
        policyVerdict := if status = .blocked then "DENY" else "ALLOW" }
    pure actionId

/-- The words a list of characters contains. -/
def containsWord (word : List Char) : List Char → Bool
  | [] => word.isEmpty
  | c :: rest => word.isPrefixOf (c :: rest) || containsWord word rest

/-- `word in text.lower()`. -/
def mentions (word text : String) : Bool :=
  containsWord word.toList (text.toList.map Char.toLower)

/-- The metadata `process_locked_case` gives an action that needs approval. -/
def plannedMetadata (py : PyText) (actionType : RecoveryActionType) (now : Time) :
    ActionMetadata where
  executed := some false
  toolName := some (toolByAction actionType)
  payload := some <|
    if actionType = .retryLater then [("scheduled_for", .str (py.isoformat (now + hour)))]
    else []

/-- The branch of `process_locked_case` that parks the case for a human. -/
def requestPlannedApproval (cfg : Config) (caller : Caller) (caseId : ℕ)
    (actionType : RecoveryActionType) (ctx : PolicyContext)
    (evaluation : PolicyEvaluationResult) : Service Unit := do
  let c ← readCase caseId
  let metadata := plannedMetadata cfg.py actionType caller.now
  let actionId ← recordPlannedAction caller caseId c actionType .approvalRequired
    evaluation.riskLevel metadata
  let approvalId ← Service.insertApproval
    { merchantId := c.merchantId
      recoveryCaseId := caseId
      recoveryActionId := some actionId
      requestedBy := some "processor"
      expiresAt := some (caller.now + ctx.settings.approvalTtlMinutes * 60000000) }
  let s ← Session.get
  Service.modifyAction actionId fun a =>
    { a with
      metadata :=
        { a.metadata with
          approvalId := some approvalId
          caseFingerprint := some c.fingerprint
          idempotencyKey := some a.idempotencyKey } }
  let recorded := ((s.actions.get? actionId).map (·.metadata)).getD {}
  Service.note <| .approvalRequested approvalId caseId actionId c.fingerprint
    recorded.toolName (recorded.payload.getD [])
  transitionCase caller caseId .awaitingApproval

/-- What `process_locked_case` does with a verdict. -/
def actOnEvaluation (cfg : Config) (caller : Caller) (caseId : ℕ)
    (actionType : RecoveryActionType) (ctx : PolicyContext)
    (evaluation : PolicyEvaluationResult) : Service Unit := do
  let c ← readCase caseId
  if !evaluation.allowed then
    let _ ← recordPlannedAction caller caseId c actionType .blocked evaluation.riskLevel
      { executed := some false }
    let target := if mentions "suspicious" evaluation.reason ||
        mentions "mismatch" evaluation.reason then RecoveryCaseStatus.escalated else .stopped
    transitionCase caller caseId target
  else if evaluation.requiresApproval then
    requestPlannedApproval cfg caller caseId actionType ctx evaluation
  else
    let _ ← recordPlannedAction caller caseId c actionType .pending evaluation.riskLevel
      { executed := some false }
    transitionCase caller caseId .executing
    transitionCase caller caseId .actionCompleted

/-- The part of `process_locked_case` that a case at the policy check reaches. -/
def decideAtPolicyCheck (cfg : Config) (caller : Caller) (caseId : ℕ) : Service Unit := do
  let c ← readCase caseId
  let s ← Session.get
  let actionType := selectAction s c
  let ctx ← Session.ofExcept (buildPolicyContext cfg s caseId c caller.now)
  let evaluation ← evaluateAndPersist caller caseId ctx { actionType := actionType.text }
  actOnEvaluation cfg caller caseId actionType ctx evaluation

/-- `process_locked_case`. -/
def processLockedCase (cfg : Config) (caller : Caller) (caseId : ℕ) : Service Unit := do
  let c ← readCase caseId
  if isTerminal c.status ∨ [RecoveryCaseStatus.actionCompleted, .verifying, .notRecovered,
      .retryScheduled, .failed, .escalated, .awaitingApproval].contains c.status then
    pure ()
  else
    walkToPolicyCheck caller caseId
    let c ← readCase caseId
    if c.status ≠ .policyCheck then
      pure ()
    else
      decideAtPolicyCheck cfg caller caseId

/-- `RecoveryCaseProcessor.process`. -/
def process (cfg : Config) (caller : Caller) (caseId : ℕ) : Service Unit := do
  let _ ← lockRecoveryCase caseId
  processLockedCase cfg caller caseId

end ReviveX
