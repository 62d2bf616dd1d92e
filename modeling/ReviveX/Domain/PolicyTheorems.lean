import ReviveX.Domain.PolicyEngine
import ReviveX.Lib.Except

/-!
# What the policy verdict depends on

- the engine looks at the case only through its amount at risk;
- the context looks at the store through the case's merchant, customer and payment, and
  through three aggregates (`PolicyAgrees`);
- an automatic action above a threshold is allowed only with an approval.
-/

namespace ReviveX

open Lib (Decimal Json RaisesOnly)

/-! ## The engine -/

/-- The engine does not see which case it evaluates beyond the amount at risk. -/
theorem evaluateAction_case (ctx : PolicyContext) (c : RecoveryCase) (proposed : ProposedAction)
    (h : c.amountAtRisk = ctx.case.amountAtRisk) :
    evaluateAction { ctx with case := c } proposed = evaluateAction ctx proposed := by
  unfold evaluateAction valueRisk restrictionRules discountRules communicationRules inQuietHours
  simp only [h]

/-- A verdict is an approval request only when some rule asks for one and none denies. -/
theorem verdict_requiresApproval (settings : RecoverySettings) (hits : List PolicyRule) :
    (verdict settings hits).requiresApproval =
      (hits.any PolicyRule.requiresApproval && (verdict settings hits).allowed) := rfl

/-! ## The context -/

/-- Two stores and two rows of a case that the policy engine cannot tell apart. -/
structure PolicyAgrees (caseId : ℕ) (s s' : Store) (c c' : RecoveryCase) : Prop where
  merchants : s'.merchants = s.merchants
  customers : s'.customers = s.customers
  payments : s'.payments = s.payments
  notifications : s'.notifications = s.notifications
  retryCount : s'.retryCount caseId = s.retryCount caseId
  discountSpentToday : ∀ m t, s'.discountSpentToday m t = s.discountSpentToday m t
  merchantId : c'.merchantId = c.merchantId
  customerId : c'.customerId = c.customerId
  paymentId : c'.paymentId = c.paymentId
  amountAtRisk : c'.amountAtRisk = c.amountAtRisk
  identityMismatch : isIdentityMismatch c'.lastMismatchReason =
    isIdentityMismatch c.lastMismatchReason

variable {cfg : Config} {caseId : ℕ} {s s' : Store} {c c' : RecoveryCase} {now : Time}

/-- The context differs at most in the row it carries. -/
theorem buildPolicyContext_agrees (h : PolicyAgrees caseId s s' c c') :
    buildPolicyContext cfg s' caseId c' now =
      (buildPolicyContext cfg s caseId c now).map fun ctx => { ctx with case := c' } := by
  unfold buildPolicyContext Store.getCustomer Store.communicationsLast24h isSuspicious
    isSourceMismatch
  rw [h.merchants, h.customers, h.notifications, h.retryCount, h.merchantId, h.customerId,
    h.identityMismatch, h.discountSpentToday]
  cases s.merchants.get? c.merchantId with
  | none => rfl
  | some merchant =>
    dsimp only
    cases cfg.settings.mergeMerchant cfg.py merchant.settings <;> rfl

/-- The row a context was built for. -/
theorem buildPolicyContext_case {ctx : PolicyContext}
    (h : buildPolicyContext cfg s caseId c now = .ok ctx) : ctx.case = c := by
  unfold buildPolicyContext at h
  cases hm : s.merchants.get? c.merchantId with
  | none => simp [hm, throw, throwThe, MonadExceptOf.throw] at h
  | some merchant =>
    simp only [hm] at h
    cases hs : cfg.settings.mergeMerchant cfg.py merchant.settings with
    | error f => simp [hs, bind, Except.bind] at h
    | ok merged =>
      simp only [hs, bind, Except.bind, pure, Except.pure, Except.ok.injEq] at h
      rw [← h]

/-! ## Errors

Policy code raises no `DomainError`. -/

private theorem raises_intValue (py : PyText) (data : Payload) (key : String) (default : ℤ) :
    RaisesOnly Failure.RollsBack (intValue py data key default) := by
  unfold intValue
  split
  · exact .ok _
  · exact .elim rfl fun _ => .ok _

private theorem raises_decimalValue (py : PyText) (data : Payload) (key : String)
    (default : Decimal) : RaisesOnly Failure.RollsBack (decimalValue py data key default) := by
  unfold decimalValue
  split
  · exact .ok _
  · exact .elim rfl fun _ => .ok _

theorem raises_mergeMerchant (py : PyText) (base : RecoverySettings) (settings : Payload) :
    RaisesOnly Failure.RollsBack (base.mergeMerchant py settings) := by
  unfold RecoverySettings.mergeMerchant
  refine .ite (.ok _) ?_
  -- one field of the merged settings after the other
  repeat' first
    | exact .ok _
    | refine RaisesOnly.bind (raises_intValue _ _ _ _) fun _ => ?_
    | refine RaisesOnly.bind (raises_decimalValue _ _ _ _) fun _ => ?_

theorem raises_buildPolicyContext (cfg : Config) (s : Store) (caseId : ℕ) (c : RecoveryCase)
    (now : Time) : RaisesOnly Failure.RollsBack (buildPolicyContext cfg s caseId c now) := by
  unfold buildPolicyContext
  split
  · exact .error rfl
  · exact .bind (raises_mergeMerchant _ _ _) fun _ => .ok _

private theorem raises_exceeds (a b : Decimal) : RaisesOnly Failure.RollsBack (exceeds a b) :=
  .elim rfl fun _ => .ok _

private theorem raises_signalling (x : Option Decimal) :
    RaisesOnly Failure.RollsBack (signalling x) := .elim rfl fun _ => .ok _

theorem raises_valueRisk (ctx : PolicyContext) (action : RecoveryActionType) :
    RaisesOnly Failure.RollsBack (valueRisk ctx action) :=
  .ite (.ok _) <| .bind (raises_exceeds _ _) fun _ => .ite (.ok _) <|
    .bind (raises_exceeds _ _) fun _ => .ite (.ok _) (.ok _)

theorem raises_discountRules (ctx : PolicyContext) (proposed : ProposedAction) :
    RaisesOnly Failure.RollsBack (discountRules ctx proposed) := by
  unfold discountRules
  split
  · exact .ok _
  · refine .bind (raises_exceeds _ _) fun _ => ?_
    dsimp only
    split
    all_goals
      repeat' first
        | exact .ok _
        | refine RaisesOnly.bind (RaisesOnly.ok _) fun _ => ?_
        | refine RaisesOnly.bind (raises_signalling _) fun _ => ?_
        | refine RaisesOnly.bind (raises_exceeds _ _) fun _ => ?_

theorem raises_restrictionRules (ctx : PolicyContext) (action : RecoveryActionType)
    (proposed : ProposedAction) :
    RaisesOnly Failure.RollsBack (restrictionRules ctx action proposed) := by
  unfold restrictionRules
  dsimp only
  split
  · exact .bind (raises_discountRules _ _) fun _ => .ok _
  · exact .ok _

theorem raises_evaluateAction (ctx : PolicyContext) (proposed : ProposedAction) :
    RaisesOnly Failure.RollsBack (evaluateAction ctx proposed) := by
  unfold evaluateAction
  split
  · exact .ok _
  · exact .bind (raises_valueRisk _ _) fun _ =>
      .bind (raises_restrictionRules _ _ _) fun _ => .ok _

end ReviveX
