import ReviveX.Db.Enums
import ReviveX.Eval.BatchEvaluation
import ReviveX.Eval.QualityGates
import ReviveX.Lib.Binary64
import ReviveX.Lib.Session
import ReviveX.Lib.Totals
import ReviveX.Providers.Interventions

/-!
# Baseline and ReviveX on one batch

`evaluate_batch`: every generated case is settled twice, once under the passive baseline and once
under the ReviveX strategy, and the two lists of results are compared. The digest and the
generator behind `_deterministic_rng` are a parameter: for each seed text a sequence of draws
from `[0, 1)`.
-/

namespace ReviveX

open Lib (Decimal)

/-! ## Inputs -/

/-- The age of a cart that the generator draws: at most `2 + 400 + 80` hours. -/
def cartAge (hours : ℚ) (h : |hours| ≤ 482) : FloatText where
  number := .finite hours
  abs_lt := by
    rintro _ ⟨⟩
    calc |hours| ≤ 482 := h
      _ < 10 ^ 3 := by norm_num
      _ ≤ 10 ^ 309 := pow_le_pow_right₀ (by norm_num) (by norm_num)

/-- A case of `generate_cases`, with what the evaluator reads of it and the bounds that the
generator keeps. The prediction for an action is what `predict_recovery_probability` returns or
raises. -/
structure GeneratedCase where
  caseId : String
  /-- `amount`, in paise: at most `80 + 4500 + 800 + 2500` rupees are drawn. -/
  paise : ℕ
  paise_le : paise ≤ 788000
  failureReason : FailureReason
  attemptNumber : ℕ
  attemptNumber_le : attemptNumber ≤ 8
  priorFailures : ℕ
  priorFailures_le : priorFailures ≤ 15
  historicalSuccessRate : ℚ
  historicalRecoveryRate : ℚ
  communicationCount : ℕ
  communicationCount_le : communicationCount ≤ 11
  previousDiscountUsage : ℚ
  cartAgeHours : Option ℚ
  cartAgeHours_le : ∀ hours ∈ cartAgeHours, |hours| ≤ 482
  customerLifetimeValue : ℚ
  le_customerLifetimeValue : 200 ≤ customerLifetimeValue
  hourOfDay : ℕ
  caseType : String
  predict : RecoveryActionType → Except Failure Prediction
  /-- `_validate_probability` refuses what is outside of [0, 1], and a NaN is not. -/
  predict_valid : ∀ action p, predict action = .ok p → outsideUnit p.probability = false

namespace GeneratedCase

/-- `Decimal(str(case["amount"]))`. -/
def amount (c : GeneratedCase) : ℚ := (c.paise : ℚ) / 100

/-- `_intervention_context_from_case`. -/
def interventionContext (c : GeneratedCase) : InterventionContext where
  failureReason := some c.failureReason
  attemptNumber := c.attemptNumber
  priorFailures := c.priorFailures
  historicalSuccessRate := .finite c.historicalSuccessRate
  historicalRecoveryRate := .finite c.historicalRecoveryRate
  communicationCount := c.communicationCount
  previousDiscountUsage := .finite c.previousDiscountUsage
  cartAgeHours := c.cartAgeHours.pmap cartAge c.cartAgeHours_le
  customerLifetimeValue := .finite c.customerLifetimeValue
  amount := .finite c.amount
  hourOfDay := c.hourOfDay
  caseType := c.caseType

/-- `intervention_recovery_probability` of the case. Its numbers are in range, so that nothing
signals. -/
def chance (c : GeneratedCase) (action : RecoveryActionType) : ℚ :=
  (Decimal.number? (interventionRecoveryProbability c.interventionContext action)).getD 0

/-- Where the probabilities of the case come from. -/
def model (c : GeneratedCase) : ProbabilityModel where
  predict := c.predict
  simulated := c.chance

end GeneratedCase

/-- The list that `generate_cases` returns: a list has fewer than `2 ^ 63` entries. -/
structure GeneratedBatch where
  cases : List GeneratedCase
  length_lt : cases.length < 2 ^ 63

/-- `random.Random`: the draws that are still to come. -/
structure Random where
  draws : ℕ → ℚ
  draws_valid : ∀ n, 0 ≤ draws n ∧ draws n < 1

/-- The generator after a draw. -/
def Random.next (rng : Random) : Random where
  draws n := rng.draws (n + 1)
  draws_valid n := rng.draws_valid (n + 1)

/-- `rng.random()`. -/
def Random.random : Lib.Session Random Failure ℚ :=
  Lib.Session.modifyGet fun rng => (rng.draws 0, rng.next)

/-- What the evaluator finds outside. -/
structure EvaluationRuntime where
  /-- `random.Random(int.from_bytes(sha256(payload).digest()[:8], "big"))`. -/
  random : String → Random

/-- The strategies that `evaluate_batch` names. -/
inductive EvaluationStrategy
  | baseline | revivex
deriving DecidableEq, Repr

/-- `_deterministic_rng`; the strategy does not enter. -/
def deterministicRng (rt : EvaluationRuntime) (seed : ℤ) (caseId : String)
    (_strategy : EvaluationStrategy) : Random :=
  rt.random (toString seed ++ ":" ++ caseId)

/-! ## One case -/

structure CaseEvaluationResult where
  caseId : String
  amountAtRisk : ℚ
  action : RecoveryActionType
  recovered : Bool
  recoveredAmount : ℚ
  cost : ℚ
  finalStatus : RecoveryCaseStatus
  probabilitySource : Option String
deriving DecidableEq

/-- The number that an operation on numbers yields. -/
def orFailure : Option ℚ → Except Failure ℚ
  | some q => .ok q
  | none => .error (.crash "Overflow")

/-- `_baseline_strategy`. -/
def baselineStrategy : Lib.Session Random Failure RecoveryActionType := pure .doNothing

/-- What `_evaluate_case` chooses, and the source of the probabilities. -/
def chosenAction (c : GeneratedCase) (strategy : EvaluationStrategy) (mode : String) :
    Lib.Session Random Failure (RecoveryActionType × Option String) :=
  match strategy with
  | .baseline => do
    let action ← baselineStrategy
    return (action, none)
  | .revivex => do
    let (action, source) ← Lib.Session.ofExcept (revivexStrategy c.model mode c.amount)
    return (action, some source)

/-- The status of a case that a strategy has settled. -/
def settledStatus (recovered : Bool) (action : RecoveryActionType) : RecoveryCaseStatus :=
  if recovered then .recovered
  else if action = .escalate then .escalated
  else if action = .doNothing then .stopped
  else .failed

/-- `_simulate_outcome`, from the context of the case and its amount. -/
def simulateOutcome (context : InterventionContext) (amount : ℚ) (action : RecoveryActionType) :
    Lib.Session Random Failure (Bool × ℚ × RecoveryCaseStatus) := do
  let chance ← Lib.Session.ofExcept
    (orFailure (Decimal.number? (interventionRecoveryProbability context action)))
  let prob := Lib.toBinary64 chance
  let draw ← Random.random
  let recovered := decide (draw < prob)
  let recoveredAmount := if recovered then amount else 0
  return (recovered, recoveredAmount, settledStatus recovered action)

/-- `_evaluate_case`. -/
def evaluateCase (rt : EvaluationRuntime) (seed : ℤ) (mode : String)
    (strategy : EvaluationStrategy) (c : GeneratedCase) : Except Failure CaseEvaluationResult :=
  let session : Lib.Session Random Failure CaseEvaluationResult := do
    let (action, probabilitySource) ← chosenAction c strategy mode
    let (recovered, recoveredAmount, finalStatus) ←
      simulateOutcome c.interventionContext c.amount action
    let cost ← Lib.Session.ofExcept (actionCost action c.amount)
    let cost ← Lib.Session.ofExcept (orFailure (Decimal.number? (some cost)))
    return {
      caseId := c.caseId
      amountAtRisk := c.amount
      action
      recovered
      recoveredAmount
      cost
      finalStatus
      probabilitySource }
  (session.run (deterministicRng rt seed c.caseId strategy)).1

/-! ## The batch -/

structure BatchEvaluationMetrics where
  totalRevenueAtRisk : ℚ
  totalRecovered : ℚ
  recoveryRate : ℚ
  casesRecovered : ℕ
  totalCases : ℕ
  totalCost : ℚ
  netRecovery : ℚ
  casesEscalated : ℕ
  casesStopped : ℕ
deriving DecidableEq

/-- `part / whole`, or zero where there is no whole. -/
def shareOf (part whole : ℚ) : Except Failure ℚ :=
  if 0 < whole then orFailure (Decimal.number? (Decimal.div? (.finite part) whole)) else .ok 0

/-- `_compute_metrics`. -/
def computeMetrics (results : List CaseEvaluationResult) :
    Except Failure BatchEvaluationMetrics := do
  let totalAtRisk ← orFailure (Decimal.sum? (results.map (·.amountAtRisk)))
  let totalRecovered ← orFailure (Decimal.sum? (results.map (·.recoveredAmount)))
  let totalCost ← orFailure (Decimal.sum? (results.map (·.cost)))
  let recoveryRate ← shareOf totalRecovered totalAtRisk
  let netRecovery ← orFailure (Decimal.number? (Decimal.sub? totalRecovered totalCost))
  return {
    totalRevenueAtRisk := totalAtRisk
    totalRecovered
    recoveryRate
    casesRecovered := results.countP (·.recovered)
    totalCases := results.length
    totalCost
    netRecovery
    casesEscalated := results.countP (·.finalStatus = .escalated)
    casesStopped := results.countP (·.finalStatus = .stopped) }

/-- An entry of `case_results`. -/
structure CaseComparison where
  caseId : String
  amountAtRisk : ℚ
  baselineAction : RecoveryActionType
  revivexAction : RecoveryActionType
  baselineOutcome : RecoveryCaseStatus
  revivexOutcome : RecoveryCaseStatus
  baselineRecoveredAmount : ℚ
  revivexRecoveredAmount : ℚ
  incrementalRecoveredAmount : ℚ
  baselineCost : ℚ
  revivexCost : ℚ
  probabilitySource : Option String
deriving DecidableEq

/-- The entry of a case. -/
def compareCase (entry : GeneratedCase × CaseEvaluationResult × CaseEvaluationResult) :
    Except Failure CaseComparison := do
  let (c, baseline, revivex) := entry
  let incremental ← orFailure
    (Decimal.number? (Decimal.sub? revivex.recoveredAmount baseline.recoveredAmount))
  return {
    caseId := c.caseId
    amountAtRisk := c.amount
    baselineAction := baseline.action
    revivexAction := revivex.action
    baselineOutcome := baseline.finalStatus
    revivexOutcome := revivex.finalStatus
    baselineRecoveredAmount := baseline.recoveredAmount
    revivexRecoveredAmount := revivex.recoveredAmount
    incrementalRecoveredAmount := incremental
    baselineCost := baseline.cost
    revivexCost := revivex.cost
    probabilitySource := revivex.probabilitySource }

structure BatchComparisonResult where
  nCases : ℕ
  seed : ℤ
  totalRevenueAtRisk : ℚ
  baselineMetrics : BatchEvaluationMetrics
  revivexMetrics : BatchEvaluationMetrics
  incrementalRevenue : ℚ
  recoveryUpliftPercent : ℚ
  revivexMode : String
  mlPredictionCount : ℕ
  heuristicFallbackCount : ℕ
  caseResults : List CaseComparison
deriving DecidableEq

/-- The increment in percent of what the baseline recovered. -/
def upliftPercent (incremental recovered : ℚ) : Except Failure ℚ :=
  if 0 < recovered then do
    let share ← orFailure (Decimal.number? (Decimal.div? (.finite incremental) recovered))
    orFailure (Decimal.number? (Decimal.mul? share (.finite 100)))
  else .ok 0

/-- `evaluate_batch`, from the cases that were generated. -/
def evaluateBatch (rt : EvaluationRuntime) (batch : GeneratedBatch) (seed : ℤ) (mode : String) :
    Except Failure BatchComparisonResult := do
  let baselineResults ← batch.cases.mapM (evaluateCase rt seed mode .baseline)
  let baselineMetrics ← computeMetrics baselineResults
  let revivexResults ← batch.cases.mapM (evaluateCase rt seed mode .revivex)
  let revivexMetrics ← computeMetrics revivexResults
  let incrementalRevenue ← orFailure (Decimal.number?
    (Decimal.sub? revivexMetrics.totalRecovered baselineMetrics.totalRecovered))
  let recoveryUpliftPercent ← upliftPercent incrementalRevenue baselineMetrics.totalRecovered
  let caseResults ← (batch.cases.zip (baselineResults.zip revivexResults)).mapM compareCase
  return {
    nCases := batch.cases.length
    seed
    totalRevenueAtRisk := baselineMetrics.totalRevenueAtRisk
    baselineMetrics
    revivexMetrics
    incrementalRevenue
    recoveryUpliftPercent
    revivexMode := mode
    mlPredictionCount := revivexResults.countP (·.probabilitySource = some "ml")
    heuristicFallbackCount := revivexResults.countP fun r =>
      r.probabilitySource = some "heuristic" || r.probabilitySource = some "heuristic_fallback"
    caseResults }

end ReviveX
