import ReviveX.Tools.Handlers

/-!
# The recovery optimizer

`RecoveryOptimizer.optimize_case`: price the candidate actions of a case, ask the policy
engine about each, select one and record the decision. What the probability model answers
and how the priced candidates are ranked are parameters: the rows that are written do not
depend on them.
-/

namespace ReviveX

open Lib (Decimal Session Table)

/-- `OptimizerError(code, message)`. -/
def optimizerError (code message : String) : Failure := .domain { code, message }

/-- `CandidateAction`, as far as it is decided before the ranking. -/
structure CandidateAction where
  action : RecoveryActionType
  /-- Missing when no model gave one. -/
  probability : Option ℚ
  discountCost : Money
  discountPercent : Option Decimal
  allowed : Bool
  requiresApproval : Bool

/-- `RecoveryOptimizer`. -/
structure RecoveryOptimizer where
  settings : RecoverySettings := {}
  defaultDiscountPercent : Decimal := .finite 5
  /-- `str(default_discount_percent)`. -/
  discountPercentText : String := "5"
  /-- `resolve_probability` for an action of a case. -/
  resolveProbability : Store → ℕ → RecoveryActionType → Except Failure (Option ℚ)
  /-- `select_action`, with whether the case is high-risk: the choice and its reason. -/
  selectAction : RecoveryCase → List CandidateAction → Bool →
    Except Failure (Option CandidateAction × String)

/-- `OptimizationResult`. -/
structure OptimizationResult where
  candidateActions : List CandidateAction
  selected : Option CandidateAction
  selectionReason : String

/-- `selected_action`. -/
def OptimizationResult.selectedAction (r : OptimizationResult) : Option RecoveryActionType :=
  r.selected.map (·.action)

/-- `LEGAL_ACTIONS`. -/
def legalActions : List RecoveryActionType :=
  [.retryNow, .retryLater, .sendPaymentLink, .sendReminder, .offerDiscount, .escalate,
    .doNothing]

/-- `_normalize_candidates`: the first of each action stays, in order. -/
def normalizeCandidates : Option (List String) → Except Failure (List RecoveryActionType)
  | none => .ok legalActions
  | some candidates =>
    candidates.foldlM (fun unique raw =>
      match RecoveryActionType.ofText? raw with
      | none => .error (optimizerError "INVALID_ACTION" s!"Unknown recovery action: {raw}")
      | some action => .ok (if unique.contains action then unique else unique ++ [action])) []

/-- `discount_cost`. -/
def discountCost (c : RecoveryCase) (percent : Decimal) : Except Failure Money :=
  match percent.gt? (.finite 0), percent with
  | some false, .finite q =>
    if q = 0 then .ok 0
    else .error (optimizerError "INVALID_DISCOUNT" "Discount percent must be >= 0")
  | some true, _ => (discountAmount c percent).elim (.error (.crash "InvalidOperation")) .ok
  | some false, _ =>
    .error (optimizerError "INVALID_DISCOUNT" "Discount percent must be >= 0")
  | none, _ => .error (.crash "InvalidOperation")

/-- The part of a discount in a candidate. -/
def RecoveryOptimizer.concession (opt : RecoveryOptimizer) (c : RecoveryCase) :
    RecoveryActionType → Except Failure (Option Decimal × Money)
  | .offerDiscount => do
    let cost ← discountCost c opt.defaultDiscountPercent
    return (some opt.defaultDiscountPercent, cost)
  | _ => .ok (none, 0)

/-- What the policy engine is asked about a candidate. -/
def candidateProposal (action : RecoveryActionType) (discountPercent : Option Decimal)
    (cost : Money) : ProposedAction where
  actionType := action.text
  discountPercent := discountPercent
  discountAmount := discountPercent.map fun _ => cost.toDecimal

/-- One round of the loop of `optimize`. -/
def scoreCandidate (opt : RecoveryOptimizer) (caller : Caller) (caseId : ℕ)
    (ctx : PolicyContext) (action : RecoveryActionType) : Service CandidateAction := do
  let s ← Session.get
  let probability ← Session.ofExcept (opt.resolveProbability s caseId action)
  let (discountPercent, cost) ← Session.ofExcept (opt.concession ctx.case action)
  let evaluation ← evaluateAndPersist { caller with actorType := .system, actorId := none }
    caseId ctx (candidateProposal action discountPercent cost)
  pure
    { action, probability, discountPercent
      discountCost := cost
      allowed := probability.isSome && evaluation.allowed
      requiresApproval := probability.isSome && evaluation.requiresApproval &&
        evaluation.allowed }

/-- The loop of `optimize`. -/
def scoreCandidates (opt : RecoveryOptimizer) (caller : Caller) (caseId : ℕ)
    (ctx : PolicyContext) : List RecoveryActionType → Service (List CandidateAction)
  | [] => pure []
  | action :: rest => do
    let candidate ← scoreCandidate opt caller caseId ctx action
    let others ← scoreCandidates opt caller caseId ctx rest
    pure (candidate :: others)

/-- `_policy_verdict`. -/
def OptimizationResult.policyVerdict (r : OptimizationResult) : String :=
  match r.selected with
  | none => "NONE"
  | some candidate =>
    if !candidate.allowed then "DENY"
    else if candidate.requiresApproval then "APPROVAL_REQUIRED"
    else "ALLOW"

/-- `persist_optimization_decision`. -/
def persistOptimizationDecision (caller : Caller) (caseId : ℕ) (c : RecoveryCase)
    (result : OptimizationResult) : Service Unit := do
  Service.insertDecision
    { merchantId := c.merchantId
      recoveryCaseId := caseId
      selectedAction := result.selectedAction
      policyVerdict := result.policyVerdict }
  Service.recordAudit
    { merchantId := c.merchantId
      caseId := some caseId
      actorType := .system
      eventType := .ervOptimizationRecorded
      action := result.selectedAction.map (·.text)
      createdAt := caller.now }

/-- `optimize_case`; only rows of evaluations, decisions and audits are written, so
`OPTIMIZER_MUTATED_RECOVERY` cannot be raised. -/
def optimizeCase (opt : RecoveryOptimizer) (py : PyText) (caller : Caller) (caseId : ℕ)
    (candidates : Option (List String)) : Service OptimizationResult := do
  let s ← Session.get
  match s.cases.get? caseId with
  | none =>
    Session.raise
      (optimizerError "RECOVERY_CASE_NOT_FOUND" s!"Recovery case {caseId} was not found")
  | some c =>
    let ctx ← Session.ofExcept
      (buildPolicyContext { settings := opt.settings, py } s caseId c caller.now)
    let actions ← Session.ofExcept (normalizeCandidates candidates)
    let scored ← scoreCandidates opt caller caseId ctx actions
    let (selected, selectionReason) ← Session.ofExcept
      (opt.selectAction c scored (ctx.suspicious || ctx.sourceMismatch))
    let result : OptimizationResult :=
      { candidateActions := scored, selected, selectionReason }
    persistOptimizationDecision caller caseId c result
    pure result

end ReviveX
