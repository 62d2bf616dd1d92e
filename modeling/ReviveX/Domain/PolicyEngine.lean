import ReviveX.Domain.PolicyContext
import ReviveX.Domain.StateMachine

/-!
# Policy engine

`PolicyEngine.evaluate_action`: the rules a proposed action hits, and the verdict they add
up to. A rule is a `_RuleHit`; `PolicyRule` names the rules and the functions below give
each its columns. A comparison with a NaN raises in Python, so hits are computed in
`Except`.
-/

namespace ReviveX

open Lib (Decimal Session)

/-- `AUTOMATIC_ACTIONS`. -/
def automaticActions : List RecoveryActionType :=
  [.retryNow, .retryLater, .sendPaymentLink, .sendReminder, .offerDiscount]

/-- `COMMUNICATION_ACTIONS`. -/
def communicationActions : List RecoveryActionType :=
  [.sendReminder, .sendPaymentLink, .offerDiscount]

/-- `RETRY_ACTIONS`. -/
def retryActions : List RecoveryActionType := [.retryNow, .retryLater]

/-- `ProposedAction`. -/
structure ProposedAction where
  actionType : String
  discountPercent : Option Decimal := none
  discountAmount : Option Decimal := none

/-- `PolicyEvaluationResult`. -/
structure PolicyEvaluationResult where
  allowed : Bool
  requiresApproval : Bool
  riskLevel : RiskLevel
  reason : String
  policyIds : List String
  policyVersion : String

/-! ## Rules -/

/-- The rules a proposed action can hit. -/
inductive PolicyRule
  | humanPath | highValue | mediumValue | lowValue
  | blockedActionType (action : RecoveryActionType)
  | killSwitch | suspiciousSourceMismatch | maxRetryAttempts
  | discountRequired | discountTooLarge | discountIneligible | discountBudget
  | discountRecorded
  | optOut | communicationFrequency | quietHours
deriving DecidableEq

namespace PolicyRule

/-- `_RuleHit.policy_id`. -/
def policyId : PolicyRule → String
  | .humanPath | .lowValue => "value_threshold"
  | .highValue => "high_value_approval_threshold"
  | .mediumValue => "medium_value_approval_threshold"
  | .blockedActionType _ => "blocked_action_types"
  | .killSwitch => "automatic_recovery_kill_switch"
  | .suspiciousSourceMismatch => "suspicious_source_mismatch"
  | .maxRetryAttempts => "max_retry_attempts"
  | .discountRequired | .discountTooLarge => "max_discount_percent"
  | .discountIneligible => "discount_eligibility"
  | .discountBudget => "daily_discount_budget"
  | .discountRecorded => "discount_recorded"
  | .optOut => "customer_communication_opt_out"
  | .communicationFrequency => "communication_frequency"
  | .quietHours => "quiet_hours"

/-- `_RuleHit.allowed is False`. -/
def denies : PolicyRule → Bool
  | .humanPath | .highValue | .mediumValue | .lowValue | .discountRecorded => false
  | _ => true

/-- `_RuleHit.requires_approval`. -/
def requiresApproval : PolicyRule → Bool
  | .highValue | .mediumValue => true
  | _ => false

/-- `_RuleHit.risk_level`. -/
def riskLevel : PolicyRule → RiskLevel
  | .humanPath | .lowValue => .green
  | .mediumValue | .discountRecorded | .communicationFrequency | .quietHours => .yellow
  | _ => .red

/-- `_RuleHit.reason`. -/
def reason : PolicyRule → String
  | .humanPath => "Human-path action does not require automatic recovery"
  | .highValue => "High-value action requires human approval"
  | .mediumValue => "Medium-value action requires human approval"
  | .lowValue => "Low-value action may execute automatically when other rules allow"
  | .blockedActionType action => s!"Action {action.text} is blocked by merchant policy"
  | .killSwitch => "Automatic recovery is disabled by the merchant kill switch"
  | .suspiciousSourceMismatch =>
    "Suspicious or source-mismatch cases cannot run automatic recovery"
  | .maxRetryAttempts => "Retry attempt limit has been reached"
  | .discountRequired => "Discount percentage is required"
  | .discountTooLarge => "Discount exceeds the maximum allowed percentage"
  | .discountIneligible => "Customer is not eligible for a discount"
  | .discountBudget => "Daily discount budget would be exceeded"
  | .discountRecorded => "Discount is bounded by percentage and daily budget"
  | .optOut => "Customer has opted out of recovery communications"
  | .communicationFrequency => "Communication frequency limit has been reached"
  | .quietHours => "Quiet hours currently prohibit outbound reminders"

end PolicyRule

/-- A comparison that signals on a NaN. -/
def exceeds (a b : Decimal) : Except Failure Bool :=
  (a.gt? b).elim (.error (.crash "InvalidOperation")) .ok

/-- The result of a decimal operation, which raises on a signal. -/
def signalling (x : Option Decimal) : Except Failure Decimal :=
  x.elim (.error (.crash "InvalidOperation")) .ok

/-- The rule, when its condition holds. -/
def hitWhen (condition : Bool) (rule : PolicyRule) : List PolicyRule :=
  if condition then [rule] else []

/-- `_value_risk`. -/
def valueRisk (ctx : PolicyContext) (action : RecoveryActionType) :
    Except Failure PolicyRule := do
  let amount := ctx.case.amountAtRisk.toDecimal
  if [RecoveryActionType.escalate, .doNothing].contains action then
    return .humanPath
  if ← exceeds amount ctx.settings.highValueApprovalThreshold then
    return .highValue
  if ← exceeds amount ctx.settings.mediumValueApprovalThreshold then
    return .mediumValue
  return .lowValue

/-- `_discount_rules`. -/
def discountRules (ctx : PolicyContext) (proposed : ProposedAction) :
    Except Failure (List PolicyRule) := do
  match proposed.discountPercent with
  | none => return [.discountRequired]
  | some percent =>
    let tooLarge ← exceeds percent ctx.settings.maxDiscountPercent
    let amount ← match proposed.discountAmount with
      | some amount => pure amount
      | none =>
        signalling ((Decimal.mul? ((ctx.case.amountAtRisk : ℚ) / 100) percent).bind
          (·.div? 100))
    let projected ← signalling (ctx.discountSpentToday.toDecimal.add? amount)
    let overBudget ← exceeds projected ctx.settings.maxDailyDiscountBudget
    let positive ← exceeds percent (.finite 0)
    return hitWhen tooLarge .discountTooLarge ++
      hitWhen (!ctx.discountEligible) .discountIneligible ++
      hitWhen overBudget .discountBudget ++ hitWhen positive .discountRecorded

/-- `_in_quiet_hours`. -/
def inQuietHours (ctx : PolicyContext) : Bool :=
  let hourOfDay := ctx.now / hour % 24
  let start := ctx.settings.quietHoursStart
  let stop := ctx.settings.quietHoursEnd
  if start = stop then false
  else if start < stop then decide (start ≤ hourOfDay ∧ hourOfDay < stop)
  else decide (hourOfDay ≥ start ∨ hourOfDay < stop)

/-- `_communication_rules`. -/
def communicationRules (ctx : PolicyContext) (action : RecoveryActionType) : List PolicyRule :=
  hitWhen ctx.customerOptedOut .optOut ++
    hitWhen (decide (ctx.settings.maxCommunicationsPerDay ≤ ctx.communicationsLast24h))
      .communicationFrequency ++
    hitWhen (action = .sendReminder && inQuietHours ctx) .quietHours

/-- `_restriction_rules`. -/
def restrictionRules (ctx : PolicyContext) (action : RecoveryActionType)
    (proposed : ProposedAction) : Except Failure (List PolicyRule) := do
  let automatic := automaticActions.contains action
  let general :=
    hitWhen (ctx.blockedActionTypes.contains action.text) (.blockedActionType action) ++
      hitWhen (!ctx.settings.automaticRecoveryEnabled && automatic) .killSwitch ++
      hitWhen ((ctx.suspicious || ctx.sourceMismatch) && automatic) .suspiciousSourceMismatch ++
      hitWhen (retryActions.contains action &&
        decide (ctx.settings.maxRetryAttempts ≤ ctx.retryCount)) .maxRetryAttempts
  let discount ← if action = .offerDiscount then discountRules ctx proposed else pure []
  let communication :=
    if communicationActions.contains action then communicationRules ctx action else []
  return general ++ discount ++ communication

/-! ## Verdict -/

/-- The higher of two risk levels, the first one on a tie. -/
def RiskLevel.max (a b : RiskLevel) : RiskLevel :=
  let rank : RiskLevel → ℕ := fun level =>
    match level with
    | .green => 0
    | .yellow => 1
    | .red => 2
  if rank a < rank b then b else a

/-- `settings.policy_version or POLICY_VERSION`. -/
def RecoverySettings.policyLabel (settings : RecoverySettings) : String :=
  if settings.policyVersion = "" then "policy-v1" else settings.policyVersion

/-- The verdict a list of hits adds up to. -/
def verdict (settings : RecoverySettings) (hits : List PolicyRule) : PolicyEvaluationResult :=
  let allowed := !hits.any PolicyRule.denies
  { allowed
    requiresApproval := hits.any PolicyRule.requiresApproval && allowed
    riskLevel := hits.foldl (fun risk hit => risk.max hit.riskLevel) .green
    reason := "; ".intercalate (hits.map PolicyRule.reason)
    policyIds := hits.map PolicyRule.policyId
    policyVersion := settings.policyLabel }

/-- `PolicyEngine.evaluate_action`. -/
def evaluateAction (ctx : PolicyContext) (proposed : ProposedAction) :
    Except Failure PolicyEvaluationResult := do
  match RecoveryActionType.ofText? proposed.actionType with
  | none =>
    return {
      allowed := false
      requiresApproval := false
      riskLevel := .red
      reason := "Unknown action is rejected before execution"
      policyIds := ["closed_action_enum"]
      policyVersion := ctx.settings.policyLabel }
  | some action =>
    let value ← valueRisk ctx action
    let restrictions ← restrictionRules ctx action proposed
    return verdict ctx.settings (value :: restrictions)

/-- `persist_policy_evaluation`. -/
def persistPolicyEvaluation (caller : Caller) (caseId : ℕ) (ctx : PolicyContext)
    (proposed : ProposedAction) (result : PolicyEvaluationResult) : Service Unit := do
  Service.insertPolicyEvaluation
    { merchantId := ctx.case.merchantId
      recoveryCaseId := caseId
      action := proposed.actionType
      policyVersion := result.policyVersion
      riskLevel := result.riskLevel
      allowed := result.allowed
      requiresApproval := result.requiresApproval
      reason := result.reason
      evaluatedAt := caller.now }
  Service.recordAudit (caseAudit caller caseId ctx.case .policyEvaluated proposed.actionType)

/-- `PolicyEngine.evaluate_and_persist`. -/
def evaluateAndPersist (caller : Caller) (caseId : ℕ) (ctx : PolicyContext)
    (proposed : ProposedAction) : Service PolicyEvaluationResult := do
  let result ← Session.ofExcept (evaluateAction ctx proposed)
  persistPolicyEvaluation caller caseId ctx proposed result
  return result

end ReviveX
