import ReviveX.Agents.Optimizer
import ReviveX.Domain.PolicyContext

/-!
# Policy settings of the operator

`get_policy` and `update_policy`: the operator reads the settings of a merchant as they are
merged with the environment, and writes them into the `policy` object of the merchant's
document. Amounts travel as texts.
-/

namespace ReviveX

open Lib (Decimal Json Session)

/-- An amount of a request and its text, `str(value)`. -/
structure SentDecimal (py : PyText) where
  value : ℚ
  text : String
  nonempty : text ≠ ""
  reads : py.decimal text = some (.finite value)

/-- `PolicySettingsBody`. -/
structure PolicySettingsBody (py : PyText) where
  maxRetryAttempts : ℤ
  maxDiscountPercent : SentDecimal py
  maxDailyDiscountBudget : SentDecimal py
  highValueApprovalThreshold : SentDecimal py
  mediumValueApprovalThreshold : SentDecimal py
  maxCommunicationsPerDay : ℤ
  quietHoursStart : ℤ
  quietHoursEnd : ℤ
  automaticRecoveryEnabled : Bool
  approvalTtlMinutes : ℤ
  blockedActionTypes : List String := []
  retryAttempts_mem : 0 ≤ maxRetryAttempts ∧ maxRetryAttempts ≤ 50
  discountPercent_mem : 0 ≤ maxDiscountPercent.value ∧ maxDiscountPercent.value ≤ 100
  budget_nonneg : 0 ≤ maxDailyDiscountBudget.value
  highThreshold_nonneg : 0 ≤ highValueApprovalThreshold.value
  mediumThreshold_nonneg : 0 ≤ mediumValueApprovalThreshold.value
  communications_mem : 0 ≤ maxCommunicationsPerDay ∧ maxCommunicationsPerDay ≤ 100
  quietStart_mem : 0 ≤ quietHoursStart ∧ quietHoursStart ≤ 23
  quietEnd_mem : 0 ≤ quietHoursEnd ∧ quietHoursEnd ≤ 23
  approvalTtl_mem : 1 ≤ approvalTtlMinutes ∧ approvalTtlMinutes ≤ 24 * 60

/-- The `policy` of an answer; the amounts are the numbers that its texts show. -/
structure PolicyView where
  maxRetryAttempts : ℤ
  maxDiscountPercent : Decimal
  maxDailyDiscountBudget : Decimal
  highValueApprovalThreshold : Decimal
  mediumValueApprovalThreshold : Decimal
  maxCommunicationsPerDay : ℤ
  quietHoursStart : ℤ
  quietHoursEnd : ℤ
  automaticRecoveryEnabled : Bool
  approvalTtlMinutes : ℤ
  blockedActionTypes : List String
  policyVersion : String
deriving DecidableEq

/-- The settings an answer shows. -/
def RecoverySettings.view (merged : RecoverySettings) (blocked : List String) : PolicyView where
  maxRetryAttempts := merged.maxRetryAttempts
  maxDiscountPercent := merged.maxDiscountPercent
  maxDailyDiscountBudget := merged.maxDailyDiscountBudget
  highValueApprovalThreshold := merged.highValueApprovalThreshold
  mediumValueApprovalThreshold := merged.mediumValueApprovalThreshold
  maxCommunicationsPerDay := merged.maxCommunicationsPerDay
  quietHoursStart := merged.quietHoursStart
  quietHoursEnd := merged.quietHoursEnd
  automaticRecoveryEnabled := merged.automaticRecoveryEnabled
  approvalTtlMinutes := merged.approvalTtlMinutes
  blockedActionTypes := blocked
  policyVersion := merged.policyVersion

/-- The nested `policy` of a document, when it has one. -/
def nestedPolicy (settings : Payload) : Option Payload :=
  match Json.get? settings "policy" with
  | some (.obj nested) => some nested
  | _ => none

/-- The blocked actions `get_policy` shows: the nested list, else that of the document. -/
def shownBlockedActions (py : PyText) (settings : Payload) : List String :=
  match (nestedPolicy settings).bind fun nested => Json.get? nested "blocked_action_types" with
  | some (.arr items) => items.map py.str
  | _ => blockedActions py settings

/-- `get_policy`. -/
def getPolicy (cfg : Config) (m : Merchant) : Except Failure PolicyView := do
  let merged ← cfg.settings.mergeMerchant cfg.py m.settings
  return merged.view (shownBlockedActions cfg.py m.settings)

/-- What `update_policy` writes into the policy section. -/
def PolicySettingsBody.changes {py : PyText} (body : PolicySettingsBody py) : Payload :=
  [("max_retry_attempts", .int body.maxRetryAttempts),
    ("max_discount_percent", .str body.maxDiscountPercent.text),
    ("max_daily_discount_budget", .str body.maxDailyDiscountBudget.text),
    ("high_value_approval_threshold", .str body.highValueApprovalThreshold.text),
    ("medium_value_approval_threshold", .str body.mediumValueApprovalThreshold.text),
    ("max_communications_per_day", .int body.maxCommunicationsPerDay),
    ("quiet_hours_start", .int body.quietHoursStart),
    ("quiet_hours_end", .int body.quietHoursEnd),
    ("automatic_recovery_enabled", .bool body.automaticRecoveryEnabled),
    ("approval_ttl_minutes", .int body.approvalTtlMinutes),
    ("blocked_action_types", .arr (body.blockedActionTypes.map .str))]

/-- The document after an update: only its nested policy is written, starting from an empty
one when there is none. -/
def PolicySettingsBody.write {py : PyText} (body : PolicySettingsBody py) (settings : Payload) :
    Payload :=
  Json.set settings "policy" (.obj (Json.update ((nestedPolicy settings).getD []) body.changes))

/-- `OperatorError("INVALID_POLICY", message)`. -/
def invalidPolicy (message : String) : Failure := .domain { code := "INVALID_POLICY", message }

/-- The checks of `update_policy`. -/
def PolicySettingsBody.check {py : PyText} (body : PolicySettingsBody py) : Except Failure Unit :=
  let legal := legalActions.map (·.text)
  let illegal := body.blockedActionTypes.filter fun item => !legal.contains item
  if illegal ≠ [] then
    .error (invalidPolicy ("Unknown blocked actions: " ++ ", ".intercalate illegal))
  else if body.highValueApprovalThreshold.value < body.mediumValueApprovalThreshold.value then
    .error (invalidPolicy "medium threshold cannot exceed high-value approval threshold")
  else .ok ()

namespace Service

def modifyMerchant (merchantId : ℕ) (f : Merchant → Merchant) : Service Unit :=
  Session.modify fun s => { s with merchants := s.merchants.modify merchantId f }

end Service

/-- The row of a merchant that has been resolved. -/
def readMerchant (merchantId : ℕ) : Service Merchant := do
  let s ← Session.get
  match s.merchants.get? merchantId with
  | some m => pure m
  | none =>
    Session.raise (.domain { code := "MERCHANT_NOT_FOUND", message := "Merchant was not found" })

/-- `update_policy`. -/
def updatePolicy (cfg : Config) (merchantId : ℕ) (body : PolicySettingsBody cfg.py) :
    Service PolicyView := do
  Session.ofExcept body.check
  Service.modifyMerchant merchantId fun m => { m with settings := body.write m.settings }
  let m ← readMerchant merchantId
  Session.ofExcept (getPolicy cfg m)

end ReviveX
