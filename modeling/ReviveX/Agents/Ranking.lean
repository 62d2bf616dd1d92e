import Mathlib.Data.List.Sort
import Mathlib.Data.Prod.Lex
import Mathlib.Data.String.Basic
import ReviveX.Agents.Optimizer

/-!
# Expected net recovery and its ranking

The pricing of a candidate action, `erv.py`, and the choice among the priced candidates,
`ranking.py`: the best recovery intervention that does not lose money, and a control strategy
when there is none.
-/

namespace ReviveX

open Lib (Decimal)

/-! ## Settings -/

/-- `ActionCostAssumptions`, in rupees. -/
structure ActionCostAssumptions where
  interventionCost : Decimal
  communicationCost : Decimal
  riskPenalty : Decimal

/-- `OptimizerSettings`, as far as the ranking reads it. -/
structure OptimizerSettings where
  defaultDiscountPercent : Decimal := .finite 5
  tieEpsilon : Decimal := .finite (1 / 100)
  retryNow : ActionCostAssumptions := ⟨.finite 5, .finite 0, .finite 15⟩
  retryLater : ActionCostAssumptions := ⟨.finite 2, .finite 0, .finite 4⟩
  sendPaymentLink : ActionCostAssumptions := ⟨.finite 3, .finite (3 / 2), .finite 8⟩
  sendReminder : ActionCostAssumptions := ⟨.finite (1 / 2), .finite (3 / 2), .finite 12⟩
  offerDiscount : ActionCostAssumptions := ⟨.finite 1, .finite (3 / 2), .finite 40⟩
  escalate : ActionCostAssumptions := ⟨.finite 250, .finite 0, .finite 30⟩
  doNothing : ActionCostAssumptions := ⟨.finite 0, .finite 0, .finite 0⟩

/-- `RECOVERY_INTERVENTIONS`; the others are the `CONTROL_STRATEGIES`. -/
def RecoveryActionType.isIntervention : RecoveryActionType → Bool
  | .retryNow | .retryLater | .sendPaymentLink | .sendReminder | .offerDiscount => true
  | .escalate | .doNothing => false

/-- `FRICTION_RANK`. -/
def RecoveryActionType.frictionRank : RecoveryActionType → ℕ
  | .doNothing => 0
  | .retryLater => 1
  | .sendPaymentLink => 2
  | .sendReminder => 3
  | .retryNow => 4
  | .offerDiscount => 5
  | .escalate => 6

/-- `SIMPLICITY_RANK`. -/
def RecoveryActionType.simplicityRank : RecoveryActionType → ℕ
  | .doNothing => 0
  | .sendReminder => 1
  | .retryLater => 2
  | .sendPaymentLink => 3
  | .retryNow => 4
  | .offerDiscount => 5
  | .escalate => 6

/-! ## Money -/

/-- `as_money`, with what it raises: `ValueError` for a negative amount. -/
def raiseMoney (value : Decimal) : Except Failure Money :=
  match asMoney value with
  | some m => .ok m
  | none => .error (.crash (if value.gt? (.finite 0) = some false then "ValueError"
      else "InvalidOperation"))

/-- `signed_money`, in paise. -/
def signedMoney : Decimal → Except Failure ℤ
  | .finite q =>
    let paise := Decimal.roundHalfEven (q * 100)
    if (10 : ℤ) ^ 28 ≤ |paise| then .error (.crash "InvalidOperation") else .ok paise
  | _ => .error (.crash "InvalidOperation")

/-- `str` of a signed amount. -/
def signedText (paise : ℤ) : String :=
  (if paise < 0 then "-" else "") ++ Money.text paise.natAbs

/-! ## Costs -/

/-- The part of `OptimizerSettings.costs_for` that picks the assumptions of an action. -/
def OptimizerSettings.assumptions (settings : OptimizerSettings) :
    RecoveryActionType → ActionCostAssumptions
  | .retryNow => settings.retryNow
  | .retryLater => settings.retryLater
  | .sendPaymentLink => settings.sendPaymentLink
  | .sendReminder => settings.sendReminder
  | .offerDiscount => settings.offerDiscount
  | .escalate => settings.escalate
  | .doNothing => settings.doNothing

/-- What `costs_for_action` returns. -/
structure ActionCosts where
  interventionCost : Money
  discountCost : Money
  communicationCost : Money
  riskPenalty : Money
deriving DecidableEq

/-- The sum of the four costs. -/
def ActionCosts.total (costs : ActionCosts) : Money :=
  costs.interventionCost + costs.discountCost + costs.communicationCost + costs.riskPenalty

/-- `costs_for`. -/
def OptimizerSettings.costsFor (settings : OptimizerSettings) (action : RecoveryActionType) :
    Except Failure ActionCosts := do
  let assumptions := settings.assumptions action
  let interventionCost ← raiseMoney assumptions.interventionCost
  let communicationCost ← raiseMoney assumptions.communicationCost
  let riskPenalty ← raiseMoney assumptions.riskPenalty
  return { interventionCost, discountCost := 0, communicationCost, riskPenalty }

/-- `discount_cost` of an amount. -/
def concessionOn (amountAtRisk percent : Decimal) : Except Failure Money := do
  let amount ← raiseMoney amountAtRisk
  match percent.gt? (.finite 0) with
  | none => .error (.crash "InvalidOperation")
  | some positive =>
    if !positive ∧ percent ≠ .finite 0 then
      .error (optimizerError "INVALID_DISCOUNT" "Discount percent must be >= 0")
    else
      match (Decimal.mul? ((amount : ℚ) / 100) percent).bind (·.div? 100) with
      | none => .error (.crash "InvalidOperation")
      | some concession => raiseMoney concession

/-- `costs_for_action`. -/
def costsForAction (action : RecoveryActionType) (amountAtRisk : Decimal)
    (settings : OptimizerSettings) (discountPercent : Option Decimal) :
    Except Failure ActionCosts := do
  let costs ← settings.costsFor action
  if action = .offerDiscount then do
    let percent := discountPercent.getD settings.defaultDiscountPercent
    let discountCost ← concessionOn amountAtRisk percent
    return { costs with discountCost }
  else return costs

/-! ## Expected recovery -/

/-- `expected_recovered_revenue`. -/
def expectedRecoveredRevenue (probability : ℚ) (amountAtRisk : Decimal) :
    Except Failure Money := do
  if probability < 0 ∨ 1 < probability then
    .error (optimizerError "INVALID_PROBABILITY" "Probability is outside [0, 1]")
  else
    let amount ← raiseMoney amountAtRisk
    match Decimal.mul? probability amount.toDecimal with
    | none => .error (.crash "Overflow")
    | some expected => raiseMoney expected

/-- One subtraction of `expected_net_recovery`. -/
def lessCost (value : Decimal) (cost : Money) : Except Failure Decimal :=
  match value with
  | .finite q => (Decimal.sub? q ((cost : ℚ) / 100)).elim (.error (.crash "Overflow")) .ok
  | other => .ok other

/-- `expected_net_recovery`, in paise. -/
def expectedNetRecovery (probability : ℚ) (amountAtRisk : Decimal) (costs : ActionCosts) :
    Except Failure ℤ := do
  let expected ← expectedRecoveredRevenue probability amountAtRisk
  let net ← lessCost expected.toDecimal costs.interventionCost
  let net ← lessCost net costs.discountCost
  let net ← lessCost net costs.communicationCost
  let net ← lessCost net costs.riskPenalty
  signedMoney net

/-- `CandidateAction` with its prices. -/
structure PricedCandidate extends CandidateAction where
  interventionCost : Money
  communicationCost : Money
  riskPenalty : Money
  expectedRecovery : Money
  /-- In paise. -/
  expectedValue : ℤ
  missingProbability : Bool := false

/-- `_candidate_from_quote`. -/
def candidateFromQuote (candidate : CandidateAction) (amountAtRisk : Decimal)
    (costs : ActionCosts) : Except Failure PricedCandidate :=
  let priced : PricedCandidate :=
    { candidate with
      interventionCost := costs.interventionCost
      communicationCost := costs.communicationCost
      riskPenalty := costs.riskPenalty
      expectedRecovery := 0
      expectedValue := 0 }
  match candidate.probability with
  | none =>
    .ok { priced with allowed := false, requiresApproval := false, missingProbability := true }
  | some probability => do
    let expectedRecovery ← expectedRecoveredRevenue probability amountAtRisk
    let expectedValue ← expectedNetRecovery probability amountAtRisk costs
    return { priced with
      expectedRecovery, expectedValue
      requiresApproval := candidate.requiresApproval && candidate.allowed }

/-! ## Choice -/

/-- `_tie_key`, with the cost compared before the risk penalty. -/
def PricedCandidate.tieKey (c : PricedCandidate) : ℕ ×ₗ ℕ ×ₗ ℕ ×ₗ ℕ ×ₗ String :=
  toLex (c.action.frictionRank,
    toLex (c.interventionCost + c.communicationCost + c.discountCost,
      toLex (c.riskPenalty, toLex (c.action.simplicityRank, c.action.text))))

/-- `eligible_candidates`. -/
def eligibleCandidates (candidates : List PricedCandidate) : List PricedCandidate :=
  candidates.filter fun item =>
    item.allowed && !item.missingProbability && item.probability.isSome

/-- `sorted(...)[0]`. -/
def firstOf (ranked : List PricedCandidate) : Except Failure PricedCandidate :=
  ranked.head?.elim (.error (.crash "IndexError")) .ok

/-- `_max_with_ties`. -/
def maxWithTies (pool : List PricedCandidate) (settings : OptimizerSettings) :
    Except Failure PricedCandidate := do
  let ranked := pool.insertionSort fun a b => b.expectedValue ≤ a.expectedValue
  let best ← firstOf ranked
  let epsilon ← signedMoney settings.tieEpsilon
  let tied := ranked.filter fun item => best.expectedValue - item.expectedValue ≤ epsilon
  firstOf (tied.insertionSort fun a b => a.tieKey ≤ b.tieKey)

/-- `_select_control`. -/
def selectControl (eligible : List PricedCandidate) (suspicious : Bool) :
    Option PricedCandidate × String :=
  let byAction (action : RecoveryActionType) := eligible.reverse.find? (·.action = action)
  match suspicious, byAction .escalate, byAction .doNothing with
  | true, some escalate, _ =>
    (some escalate, "Recovery interventions are uneconomic or unavailable; " ++
      "ESCALATE selected because the case is high-risk")
  | _, _, some nothing =>
    (some nothing, "Every permitted recovery intervention has negative expected value; " ++
      "DO_NOTHING selected for economic discipline")
  | _, some escalate, none =>
    (some escalate, "Every permitted recovery intervention has negative expected value; " ++
      "ESCALATE selected because DO_NOTHING is not permitted")
  -- every control strategy has been looked up, so the fallback on the first one finds none
  | _, none, none => (none, "No permitted recovery or control strategy remains")

/-- `select_action`. -/
def Ranking.selectAction (candidates : List PricedCandidate) (settings : OptimizerSettings)
    (suspicious sourceMismatch : Bool) : Except Failure (Option PricedCandidate × String) := do
  let eligible := eligibleCandidates candidates
  if eligible.isEmpty then
    return (none, "No policy-permitted candidate with a valid probability remains")
  else
    let nonNegativeRecovery := eligible.filter fun item =>
      item.action.isIntervention && decide (0 ≤ item.expectedValue)
    if nonNegativeRecovery.isEmpty then
      return selectControl eligible (suspicious || sourceMismatch)
    else do
      let winner ← maxWithTies nonNegativeRecovery settings
      return (some winner,
        s!"Selected {winner.action.text} with maximum expected recovery value " ++
          s!"{signedText winner.expectedValue} among policy-permitted recovery interventions" ++
          if winner.requiresApproval then "; execution still requires human approval" else "")

/-! ## The optimizer -/

/-- The rest of `optimize`: the scored candidates are priced, in the order of their names, and
one of them is selected. -/
def OptimizerSettings.rankCandidates (settings : OptimizerSettings) (c : RecoveryCase)
    (scored : List CandidateAction) (highRisk : Bool) :
    Except Failure (Option CandidateAction × String) := do
  let ordered := scored.insertionSort fun a b => a.action.text ≤ b.action.text
  let priced ← ordered.mapM fun candidate => do
    let costs ← settings.costsFor candidate.action
    candidateFromQuote candidate c.amountAtRisk.toDecimal
      { costs with discountCost := candidate.discountCost }
  let (selected, reason) ← Ranking.selectAction priced settings highRisk false
  return (selected.map (·.toCandidateAction), reason)

/-- `RecoveryOptimizer` with its ranking. A probability outside of [0, 1] is refused, and the
costs of an action are read, before the policy engine is asked about it. -/
def OptimizerSettings.optimizer (settings : OptimizerSettings) (recovery : RecoverySettings)
    (discountPercentText : String)
    (resolveProbability : Store → ℕ → RecoveryActionType → Except Failure (Option ℚ)) :
    RecoveryOptimizer where
  settings := recovery
  defaultDiscountPercent := settings.defaultDiscountPercent
  discountPercentText := discountPercentText
  resolveProbability s caseId action := do
    let probability ← resolveProbability s caseId action
    if probability.any fun p => p < 0 ∨ 1 < p then
      .error (optimizerError "INVALID_PROBABILITY" "Probability is outside [0, 1]")
    else do
      let _ ← settings.costsFor action
      return probability
  selectAction := settings.rankCandidates

end ReviveX
