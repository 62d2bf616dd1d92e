import ReviveX.Agents.Ranking
import ReviveX.Lib.Signals

/-!
# Batch evaluation

The strategy that `batch_evaluation.py` measures against the passive baseline: its own cost
table and its own choice of an action for a case. What the model predicts for an action and
what the simulator's rules say are parameters.
-/

namespace ReviveX

open Lib (Decimal)

/-- A prediction of `predict_recovery_probability`, as the decimal number that is read off its
float when that is rounded to six digits. -/
structure Prediction where
  source : String
  probability : Decimal

/-- Where a case's probabilities come from. -/
structure ProbabilityModel where
  /-- The prediction for an action, or the exception. -/
  predict : RecoveryActionType → Except Failure Prediction
  /-- `intervention_recovery_probability`. -/
  simulated : RecoveryActionType → ℚ

/-- `SCORABLE_ACTIONS`. -/
def scorableActions : List RecoveryActionType := legalActions

/-- `costs` of `_action_cost`. -/
def evaluationCost : RecoveryActionType → ℚ
  | .retryNow => 5
  | .retryLater => 2
  | .sendPaymentLink => 3
  | .sendReminder => 1 / 2
  | .offerDiscount => 1
  | .escalate => 250
  | .doNothing => 0

/-- `risk_penalties` of `_action_cost`. -/
def evaluationRisk : RecoveryActionType → ℚ
  | .retryNow => 15
  | .retryLater => 4
  | .sendPaymentLink => 8
  | .sendReminder => 12
  | .offerDiscount => 40
  | .escalate => 30
  | .doNothing => 0

/-- The communication cost of `_action_cost`. -/
def evaluationCommunication : RecoveryActionType → ℚ
  | .sendPaymentLink | .sendReminder | .offerDiscount => 3 / 2
  | _ => 0

/-- The overflow of an operation. -/
def orOverflow : Option Decimal → Except Failure Decimal
  | some d => .ok d
  | none => .error (.crash "Overflow")

/-- `_action_cost`; 5 % of the amount is not rounded. -/
def actionCost (action : RecoveryActionType) (amount : ℚ) : Except Failure Decimal := do
  let discountCost ← if action = .offerDiscount then
      orOverflow (Decimal.mul? amount (.finite (1 / 20)))
    else .ok (.finite 0)
  let cost ← orOverflow (Decimal.add? (.finite (evaluationCost action)) discountCost)
  let cost ← orOverflow (cost.add? (.finite (evaluationCommunication action)))
  orOverflow (cost.add? (.finite (evaluationRisk action)))

/-- The value of an action in `_revivex_strategy`: a control strategy has one too. -/
def evaluatedValue (probability : Decimal) (amount : ℚ) (action : RecoveryActionType) :
    Except Failure Decimal := do
  let cost ← actionCost action amount
  let expectedRevenue ← orOverflow (Decimal.times? probability (.finite amount))
  orOverflow (Decimal.minus? expectedRevenue cost)

/-- One round of the loop that keeps the best action. -/
def keepBest (probability : RecoveryActionType → Decimal) (amount : ℚ)
    (best : Option RecoveryActionType × Decimal) (action : RecoveryActionType) :
    Except Failure (Option RecoveryActionType × Decimal) := do
  let erv ← evaluatedValue (probability action) amount action
  match erv.gt? best.2 with
  | none => .error (.crash "InvalidOperation")
  | some better => return if better then (some action, erv) else best

/-- The probabilities of the scorable actions, and their source. -/
def caseProbabilities (model : ProbabilityModel) (mode : String) :
    (RecoveryActionType → Decimal) × String :=
  let simulated (action : RecoveryActionType) := Decimal.finite (model.simulated action)
  if mode = "ml" then
    match scorableActions.mapM model.predict with
    | .error _ => (simulated, "heuristic_fallback")
    | .ok predictions =>
      (fun action => match model.predict action with
        | .ok prediction =>
          if prediction.source = "ml" then prediction.probability else simulated action
        | .error _ => simulated action,
        if predictions.all (·.source = "ml") then "ml" else "heuristic_fallback")
  else (simulated, "heuristic")

/-- `_revivex_strategy`. -/
def revivexStrategy (model : ProbabilityModel) (mode : String) (amount : ℚ) :
    Except Failure (RecoveryActionType × String) := do
  let (probability, usedSource) := caseProbabilities model mode
  let best ← scorableActions.foldlM (keepBest probability amount) (none, .finite (-999999))
  return (best.1.getD .doNothing, usedSource)

end ReviveX
