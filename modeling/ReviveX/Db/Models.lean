import ReviveX.Db.Enums
import ReviveX.Lib.Json

/-!
# Rows of the recovery database

One structure per table, with the columns the modelled code reads or writes. Identifiers
are positions in the table, money is a whole number of paise (the columns are
`NUMERIC(18, 2)` with a non-negativity check) and instants are microseconds since the
epoch in UTC. The check constraints of `recovery_cases` are fields of `RecoveryCase`, so a
row that violates them cannot be written.
-/

namespace ReviveX

open Lib (Json)

/-- Paise. -/
abbrev Money := ℕ

/-- Microseconds since the epoch, UTC. -/
abbrev Time := ℤ

/-- The fifteen tools of the registry. -/
inductive ToolName
  | getCustomerHistory | getPaymentDetails | getCartDetails | getSubscriptionDetails
  | getRecoveryCase | calculateRecoveryProbability | retryPayment | scheduleRetry
  | createPaymentLink | sendNotification | offerDiscount | checkPaymentStatus
  | checkSubscriptionStatus | escalateToHuman | pauseRecovery
deriving DecidableEq, Repr

/-- The fields of a tool's payload, as a Python `dict[str, Any]`. -/
abbrev Payload := List (String × Json)

/-! ## Merchants and their customers -/

structure Merchant where
  settings : Payload := []

structure Customer where
  merchantId : ℕ
  externalId : Option String := none
  email : Option String := none
  lifetimeValue : Money := 0
  metadata : Payload := []

structure Cart where
  merchantId : ℕ
  customerId : ℕ
  status : CartStatus := .active
  discount : Money := 0
  total : Money := 0
  currency : String := "INR"
deriving DecidableEq

structure Subscription where
  merchantId : ℕ
  customerId : ℕ
  providerSubscriptionId : Option String := none
  status : SubscriptionStatus := .created
  amount : Money := 0
deriving DecidableEq

structure Payment where
  merchantId : ℕ
  customerId : ℕ
  provider : String := "simulator"
  providerPaymentId : Option String := none
  providerOrderId : Option String := none
  providerPaymentLinkId : Option String := none
  amount : Money
  providerAmountMinor : Option ℤ := none
  currency : String := "INR"
  status : PaymentStatus := .created
  paymentMethod : Option String := none
  failureCode : Option String := none
  capturedAt : Option Time := none
  failedAt : Option Time := none
  /-- The name whose `uuid5` is the primary key; `none` where the key was made otherwise. -/
  internalName : Option String := none
deriving DecidableEq

structure PaymentAttempt where
  paymentId : ℕ
  attemptNumber : ℤ
  status : PaymentStatus
  amount : Money
  currency : String
  failureCode : Option String
  attemptedAt : Time
deriving DecidableEq

/-! ## Provider events -/

/-- A provider event as it was ingested, unique by provider and event identifier. -/
structure WebhookEvent where
  merchantId : ℕ
  provider : String
  eventId : String
  eventType : String
  status : WebhookEventStatus := .received
  payload : Payload
  receivedAt : Time
  processedAt : Option Time := none
  errorCode : Option String := none
  errorMessage : Option String := none

/-! ## Recovery cases -/

/-- A recovery case; the last three fields are the table's check constraints. -/
structure RecoveryCase where
  merchantId : ℕ
  customerId : ℕ
  paymentId : Option ℕ := none
  cartId : Option ℕ := none
  subscriptionId : Option ℕ := none
  caseType : RecoveryCaseType
  status : RecoveryCaseStatus := .detected
  amountAtRisk : Money
  amountRecovered : Money := 0
  currency : String := "INR"
  version : ℕ := 1
  openedAt : Time
  closedAt : Option Time := none
  lastMismatchReason : Option MismatchReason := none
  verifiedPaymentId : Option ℕ := none
  verifiedWebhookEventId : Option ℕ := none
  recovered_le_at_risk : amountRecovered ≤ amountAtRisk := by decide
  has_subject : paymentId.isSome ∨ cartId.isSome ∨ subscriptionId.isSome := by decide
deriving DecidableEq

theorem isSome_payment (paymentId : ℕ) :
    (some paymentId).isSome ∨ (none : Option ℕ).isSome ∨ (none : Option ℕ).isSome :=
  .inl rfl

/-- A case of a failed payment of the first merchant's first customer, for the examples. -/
def sampleCase (paymentId : ℕ) (amountAtRisk : Money) (status : RecoveryCaseStatus) :
    RecoveryCase where
  merchantId := 0
  customerId := 0
  paymentId := some paymentId
  caseType := .failedPayment
  status := status
  amountAtRisk := amountAtRisk
  openedAt := 0
  recovered_le_at_risk := Nat.zero_le amountAtRisk
  has_subject := isSome_payment paymentId

/-- What an approval records about the case it was requested for. -/
structure CaseFingerprint where
  amountAtRisk : Money
  paymentId : Option ℕ
  customerId : ℕ
  lastMismatchReason : Option MismatchReason
  amountRecovered : Money
deriving DecidableEq

/-- `_case_fingerprint`. -/
def RecoveryCase.fingerprint (c : RecoveryCase) : CaseFingerprint where
  amountAtRisk := c.amountAtRisk
  paymentId := c.paymentId
  customerId := c.customerId
  lastMismatchReason := c.lastMismatchReason
  amountRecovered := c.amountRecovered

/-! ## Actions, approvals and idempotency keys -/

/-- The keys of an action's `metadata` object that the code reads back. -/
structure ActionMetadata where
  executed : Option Bool := none
  toolName : Option ToolName := none
  payload : Option Payload := none
  approvalId : Option ℕ := none
  caseVersion : Option ℕ := none
  caseFingerprint : Option CaseFingerprint := none
  idempotencyKey : Option String := none
  newPaymentId : Option ℕ := none
  scheduledFor : Option Time := none
  discountPercent : Option String := none

structure RecoveryAction where
  merchantId : ℕ
  recoveryCaseId : ℕ
  actionType : RecoveryActionType
  status : RecoveryActionStatus := .planned
  idempotencyKey : String
  attemptNumber : ℕ := 1
  riskLevel : RiskLevel := .green
  provider : Option String := none
  providerReference : Option String := none
  amount : Option Money := none
  currency : String := "INR"
  scheduledFor : Option Time := none
  executedAt : Option Time := none
  errorCode : Option String := none
  errorMessage : Option String := none
  metadata : ActionMetadata := {}
  createdAt : Time

structure Approval where
  merchantId : ℕ
  recoveryCaseId : ℕ
  recoveryActionId : Option ℕ
  status : ApprovalStatus := .pending
  requestedBy : Option String := none
  decidedBy : Option String := none
  decisionReason : Option String := none
  decidedAt : Option Time := none
  expiresAt : Option Time := none
deriving DecidableEq

/-- The `status` of a `ToolExecutionResult`. -/
inductive ExecutionStatus
  | succeeded | failed | blocked | approvalRequired
deriving DecidableEq, Repr

/-- `ToolExecutionResult`; the same fields are stored in the idempotency key's metadata. -/
structure ToolExecutionResult where
  status : ExecutionStatus
  toolName : ToolName
  allowed : Bool
  requiresApproval : Bool
  reason : String
  actionId : Option ℕ := none
  approvalId : Option ℕ := none
  toolCallId : Option ℕ := none
  provider : Option String := none
  providerReference : Option String := none
  simulated : Bool := true
  policyVersion : Option String := none
  idempotencyKey : Option String := none
  output : Option Payload := none
  riskLevel : Option RiskLevel := none
  replayed : Bool := false

structure IdempotencyKey where
  operation : ToolName
  requestHash : ℕ
  status : IdempotencyKeyStatus := .inProgress
  responseReference : Option ℕ := none
  completedAt : Option Time := none
  expiresAt : Option Time := none
  result : Option ToolExecutionResult := none
  errorCode : Option String := none

/-! ## Records of what happened -/

structure RecoveryDecision where
  merchantId : ℕ
  recoveryCaseId : ℕ
  recoveryActionId : Option ℕ := none
  selectedAction : Option RecoveryActionType
  policyVerdict : String
deriving DecidableEq

structure PolicyEvaluation where
  merchantId : ℕ
  recoveryCaseId : ℕ
  action : String
  policyVersion : String
  riskLevel : RiskLevel
  allowed : Bool
  requiresApproval : Bool
  reason : String
  evaluatedAt : Time
deriving DecidableEq

structure AgentRun where
  merchantId : ℕ
  recoveryCaseId : ℕ
  agentName : String
  status : AgentRunStatus := .running
  source : Option String := none
  errorMessage : Option String := none
  startedAt : Time
  completedAt : Option Time := none
deriving DecidableEq

structure ToolCall where
  merchantId : ℕ
  recoveryCaseId : ℕ
  toolName : ToolName
  status : ToolCallStatus
  idempotencyKey : String
  errorCode : Option String := none
  errorMessage : Option String := none
deriving DecidableEq

structure Notification where
  merchantId : ℕ
  customerId : ℕ
  recoveryCaseId : ℕ
  channel : NotificationChannel
  status : NotificationStatus
  providerReference : String
  subject : String
  bodyPreview : String
  createdAt : Time
deriving DecidableEq

/-- `AuditEventType`, the members that the modelled services record. -/
inductive AuditEventType
  | providerEventReceived | duplicateEventIgnored | recoveryCaseCreated | recoveryCaseAttached
  | providerEventProcessed | providerEventFailed | unknownEventIgnored | ervOptimizationRecorded
  | agentRunRecorded | agentLimitExceeded
  | paymentUpdated | caseTriaged | caseInvestigating | caseDiagnosed | recoveryScoringStarted
  | recoveryStrategySelected | recoveryPolicyChecked | recoveryExecutionStarted
  | recoveryActionCompleted | recoveryVerificationStarted | recoveryVerified
  | recoveryVerificationFailed | recoveryAmountUpdated | stateTransitionRejected
  | recoveryCaseStopped | recoveryCaseEscalated | policyEvaluated | actionPlanned
  | approvalRequested | approvalApproved | approvalRejected | actionBlocked | actionStarted
  | actionSucceeded | actionFailed | actionCancelled
deriving DecidableEq, Repr

/-- What `previous_state` and `new_state` of an audit event print. -/
inductive AuditState
  | status (s : RecoveryCaseStatus)
  | amount (m : Money)
  | payment (s : PaymentStatus)
  | webhook (s : WebhookEventStatus)
deriving DecidableEq, Repr

structure AuditEvent where
  merchantId : ℕ
  caseId : Option ℕ
  actorType : ActorType
  eventType : AuditEventType
  action : Option String := none
  previousState : Option AuditState := none
  newState : Option AuditState := none
  /-- The `version` in the metadata of a transition. -/
  version : Option ℕ := none
  createdAt : Time
deriving DecidableEq

end ReviveX
