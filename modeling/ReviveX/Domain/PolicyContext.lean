import ReviveX.Domain.Money
import ReviveX.Domain.RecoveryConfig

/-!
# Policy context

`build_policy_context`: what the policy engine is told about a case. Everything here reads
the store and writes nothing.
-/

namespace ReviveX

open Lib (Json Decimal)

/-- What the services are configured with. -/
structure Config where
  settings : RecoverySettings := {}
  py : PyText

/-- `PolicyContext`. -/
structure PolicyContext where
  case : RecoveryCase
  settings : RecoverySettings
  now : Time
  retryCount : ℕ
  communicationsLast24h : ℕ
  discountSpentToday : Money
  blockedActionTypes : List String
  customerOptedOut : Bool
  suspicious : Bool
  sourceMismatch : Bool
  discountEligible : Bool

/-- `PaymentRepository.get_payment`: a payment of one merchant. -/
def Store.getPayment (s : Store) (merchantId paymentId : ℕ) : Option Payment :=
  (s.payments.get? paymentId).filter fun p => p.merchantId = merchantId

/-- `CustomerRepository.get_customer`: a customer of one merchant. -/
def Store.getCustomer (s : Store) (merchantId customerId : ℕ) : Option Customer :=
  (s.customers.get? customerId).filter fun c => c.merchantId = merchantId

/-- `_blocked_actions`. -/
def blockedActions (py : PyText) (policy : Payload) : List String :=
  match Json.get? policy "blocked_action_types" with
  | some (.arr items) => items.map py.str
  | _ => []

/-- `_truthy(meta.get(key))`. -/
def metaSaysYes (py : PyText) (metadata : Payload) (key : String) : Bool :=
  match Json.get? metadata key with
  | none => false
  | some .null => false
  | some (.bool b) => b
  | some value => saysYes py value

/-- The mismatch reasons that make a case suspicious while they are the last one. -/
def isIdentityMismatch : Option MismatchReason → Bool
  | some .merchantMismatch | some .customerMismatch | some .orderMismatch
  | some .paymentMismatch => true
  | _ => false

/-- `_is_suspicious`. -/
def isSuspicious (py : PyText) (c : RecoveryCase) (customerMeta : Payload) : Bool :=
  metaSaysYes py customerMeta "suspicious" || isIdentityMismatch c.lastMismatchReason

/-- `_is_source_mismatch`. -/
def isSourceMismatch (py : PyText) (c : RecoveryCase) (customerMeta : Payload) : Bool :=
  metaSaysYes py customerMeta "source_mismatch" || isIdentityMismatch c.lastMismatchReason

/-- `_retry_count`. -/
def Store.retryCount (s : Store) (caseId : ℕ) : ℕ :=
  s.actions.count fun a =>
    a.recoveryCaseId = caseId &&
      [RecoveryActionType.retryNow, .retryLater].contains a.actionType &&
      [RecoveryActionStatus.pending, .planned, .approvalRequired, .approved, .executing,
        .succeeded, .completed].contains a.status

/-- Microseconds in an hour. -/
def hour : Time := 3600000000

/-- `_communications_last_24h`. -/
def Store.communicationsLast24h (s : Store) (merchantId customerId : ℕ) (now : Time) : ℕ :=
  s.notifications.count fun n =>
    n.merchantId = merchantId && n.customerId = customerId &&
      decide (now - 24 * hour ≤ n.createdAt) && n.status != .cancelled

/-- `_discount_spent_today`: since midnight UTC. -/
def Store.discountSpentToday (s : Store) (merchantId : ℕ) (now : Time) : Money :=
  let start := now - now % (24 * hour)
  s.actions.sumWhere
    (fun a =>
      a.merchantId = merchantId && a.actionType = .offerDiscount &&
        [RecoveryActionStatus.succeeded, .completed, .executing, .pending, .approved,
          .approvalRequired].contains a.status && decide (start ≤ a.createdAt))
    (fun a => a.amount.getD 0)

/-- `build_policy_context`. -/
def buildPolicyContext (cfg : Config) (s : Store) (caseId : ℕ) (c : RecoveryCase)
    (now : Time) : Except Failure PolicyContext := do
  match s.merchants.get? c.merchantId with
  | none => throw (.crash "ValueError")
  | some merchant =>
    let merged ← cfg.settings.mergeMerchant cfg.py merchant.settings
    let customerMeta := ((s.getCustomer c.merchantId c.customerId).map (·.metadata)).getD []
    return {
      case := c
      settings := merged
      now := now
      retryCount := s.retryCount caseId
      communicationsLast24h := s.communicationsLast24h c.merchantId c.customerId now
      discountSpentToday := s.discountSpentToday c.merchantId now
      blockedActionTypes := blockedActions cfg.py (policySection merchant.settings)
      customerOptedOut := metaSaysYes cfg.py customerMeta "communication_opt_out"
      suspicious := isSuspicious cfg.py c customerMeta
      sourceMismatch := isSourceMismatch cfg.py c customerMeta
      discountEligible := !metaSaysYes cfg.py customerMeta "discount_ineligible" }

end ReviveX
