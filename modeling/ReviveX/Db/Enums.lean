import Mathlib.Tactic.Common

/-!
# Closed enumerations of the database

Every `StrEnum` column of the recovery schema that the modelled code reads, with the
text a member is stored under where the code compares or prints that text.
-/

namespace ReviveX

inductive PaymentStatus
  | created | authorized | captured | failed | refunded | partiallyRefunded | cancelled
  | unknown
deriving DecidableEq, Repr

inductive CartStatus
  | active | abandoned | converted | expired
deriving DecidableEq, Repr

inductive SubscriptionStatus
  | created | active | pending | halted | cancelled | completed
deriving DecidableEq, Repr

inductive RecoveryCaseType
  | failedPayment | abandonedCheckout | subscriptionFailure
deriving DecidableEq, Repr

/-- The seventeen lifecycle states of a recovery case. -/
inductive RecoveryCaseStatus
  | detected | triaged | investigating | diagnosed | scoring | strategySelected | policyCheck
  | awaitingApproval | executing | actionCompleted | verifying | recovered | notRecovered
  | retryScheduled | escalated | stopped | failed
deriving DecidableEq, Repr

/-- `str(RecoveryCaseStatus)`. -/
def RecoveryCaseStatus.text : RecoveryCaseStatus → String
  | .detected => "DETECTED"
  | .triaged => "TRIAGED"
  | .investigating => "INVESTIGATING"
  | .diagnosed => "DIAGNOSED"
  | .scoring => "SCORING"
  | .strategySelected => "STRATEGY_SELECTED"
  | .policyCheck => "POLICY_CHECK"
  | .awaitingApproval => "AWAITING_APPROVAL"
  | .executing => "EXECUTING"
  | .actionCompleted => "ACTION_COMPLETED"
  | .verifying => "VERIFYING"
  | .recovered => "RECOVERED"
  | .notRecovered => "NOT_RECOVERED"
  | .retryScheduled => "RETRY_SCHEDULED"
  | .escalated => "ESCALATED"
  | .stopped => "STOPPED"
  | .failed => "FAILED"

/-- `TERMINAL_RECOVERY_STATUSES`. -/
def terminalRecoveryStatuses : List RecoveryCaseStatus := [.recovered, .stopped]

inductive RecoveryActionType
  | retryNow | retryLater | sendPaymentLink | sendReminder | offerDiscount | escalate
  | doNothing
deriving DecidableEq, Repr

/-- `str(RecoveryActionType)`. -/
def RecoveryActionType.text : RecoveryActionType → String
  | .retryNow => "RETRY_NOW"
  | .retryLater => "RETRY_LATER"
  | .sendPaymentLink => "SEND_PAYMENT_LINK"
  | .sendReminder => "SEND_REMINDER"
  | .offerDiscount => "OFFER_DISCOUNT"
  | .escalate => "ESCALATE"
  | .doNothing => "DO_NOTHING"

/-- `RecoveryActionType(value)`, with `none` for the `ValueError`. -/
def RecoveryActionType.ofText? : String → Option RecoveryActionType
  | "RETRY_NOW" => some .retryNow
  | "RETRY_LATER" => some .retryLater
  | "SEND_PAYMENT_LINK" => some .sendPaymentLink
  | "SEND_REMINDER" => some .sendReminder
  | "OFFER_DISCOUNT" => some .offerDiscount
  | "ESCALATE" => some .escalate
  | "DO_NOTHING" => some .doNothing
  | _ => none

@[simp] theorem RecoveryActionType.ofText?_text (a : RecoveryActionType) :
    ofText? a.text = some a := by
  cases a <;> rfl

inductive RecoveryActionStatus
  | pending | planned | approvalRequired | approved | executing | succeeded | completed
  | failed | blocked | cancelled
deriving DecidableEq, Repr

/-- `str(RecoveryActionStatus)`. -/
def RecoveryActionStatus.text : RecoveryActionStatus → String
  | .pending => "PENDING"
  | .planned => "PLANNED"
  | .approvalRequired => "APPROVAL_REQUIRED"
  | .approved => "APPROVED"
  | .executing => "EXECUTING"
  | .succeeded => "SUCCEEDED"
  | .completed => "COMPLETED"
  | .failed => "FAILED"
  | .blocked => "BLOCKED"
  | .cancelled => "CANCELLED"

inductive RiskLevel
  | green | yellow | red
deriving DecidableEq, Repr

inductive ApprovalStatus
  | pending | approved | rejected | expired | cancelled
deriving DecidableEq, Repr

/-- `str(ApprovalStatus)`. -/
def ApprovalStatus.text : ApprovalStatus → String
  | .pending => "PENDING"
  | .approved => "APPROVED"
  | .rejected => "REJECTED"
  | .expired => "EXPIRED"
  | .cancelled => "CANCELLED"

inductive IdempotencyKeyStatus
  | inProgress | completed | failed
deriving DecidableEq, Repr

inductive NotificationChannel
  | email | sms | whatsapp | push
deriving DecidableEq, Repr

/-- `str(NotificationChannel)`. -/
def NotificationChannel.text : NotificationChannel → String
  | .email => "EMAIL"
  | .sms => "SMS"
  | .whatsapp => "WHATSAPP"
  | .push => "PUSH"

/-- `NotificationChannel(value)`, with `none` for the `ValueError`. -/
def NotificationChannel.ofText? : String → Option NotificationChannel
  | "EMAIL" => some .email
  | "SMS" => some .sms
  | "WHATSAPP" => some .whatsapp
  | "PUSH" => some .push
  | _ => none

@[simp] theorem NotificationChannel.ofText?_text (c : NotificationChannel) :
    ofText? c.text = some c := by
  cases c <;> rfl

inductive NotificationStatus
  | pending | sent | delivered | failed | cancelled
deriving DecidableEq, Repr

inductive ActorType
  | system | user | agent | worker
deriving DecidableEq, Repr

inductive ToolCallStatus
  | pending | success | failed | blocked | approvalRequired
deriving DecidableEq, Repr

/-- The states of a stored provider event. -/
inductive WebhookEventStatus
  | received | processing | processed | failed | deadLetter
deriving DecidableEq, Repr

inductive AgentRunStatus
  | running | completed | failed
deriving DecidableEq, Repr

inductive ToolPermission
  | viewRecovery | viewCustomer | viewPayment | retryPayment | createPaymentLink
  | sendNotification | offerDiscount | escalate | approveRecoveryAction | pauseRecovery
deriving DecidableEq, Repr

/-- `MismatchReason` of `verification_types.py`; the column `last_mismatch_reason` stores
its text. -/
inductive MismatchReason
  | merchantMismatch | customerMismatch | orderMismatch | paymentMismatch | amountMismatch
  | currencyMismatch | outsideRecoveryWindow | alreadyCounted | duplicateEvent | notCaptured
  | unknown
deriving DecidableEq, Repr

end ReviveX
