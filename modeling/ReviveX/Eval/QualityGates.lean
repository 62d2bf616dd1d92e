import ReviveX.Eval.CustomerSplit
import ReviveX.Lib.Decimal

/-!
# Quality gates of a trained model

`run_quality_gates` and the choice of `train` between its two candidates. A float is a finite
number, an infinity or a NaN; unlike a decimal one, a comparison with a NaN is false.
-/

namespace ReviveX

open Lib (Decimal toBinary64)

/-! ## Floats -/

/-- `x < bound`. -/
def floatBelow (bound : ℚ) : Decimal → Bool
  | .finite q => q < bound
  | .infinity negative => negative
  | .nan => false

/-- `x > bound`. -/
def floatAbove (bound : ℚ) : Decimal → Bool
  | .finite q => bound < q
  | .infinity negative => !negative
  | .nan => false

/-- `p < 0.0 or p > 1.0`. -/
def outsideUnit (p : Decimal) : Bool := floatBelow 0 p || floatAbove 1 p

/-! ## Columns -/

/-- `LEAKAGE_FIELDS`, sorted. -/
def leakageFields : List String :=
  ["amount_recovered", "captured", "label", "outcome", "recovered", "recovery_time_hours",
    "true_probability"]

/-- `NUMERIC_FEATURES`. -/
def numericFeatures : List String :=
  ["amount", "attempt_number", "historical_success_rate", "historical_recovery_rate",
    "customer_lifetime_value", "days_since_last_purchase", "cart_age_hours", "cart_value",
    "communication_count", "days_since_last_contact", "previous_discount_usage", "hour_of_day",
    "day_of_week", "prior_failures", "prior_captures", "customer_success_ratio",
    "recent_failure_count", "communication_fatigue", "amount_to_clv_ratio"]

/-- `CATEGORICAL_FEATURES`. -/
def categoricalFeatures : List String :=
  ["merchant_category", "payment_method", "bank", "failure_reason", "subscription_state",
    "customer_segment", "case_type", "action", "failure_action_interaction"]

/-- `MODEL_FEATURE_COLUMNS`. -/
def modelFeatureColumns : List String := numericFeatures ++ categoricalFeatures

/-! ## Gates -/

/-- The arguments of `run_quality_gates`. -/
structure QualityInput where
  yTrue : List ℕ
  yProb : List Decimal
  rocAuc : Decimal
  prAuc : Decimal
  brier : Decimal
  ece : Decimal
  trainCaseIds : List String
  testCaseIds : List String
  featureNames : List String

/-- The entries of `failures`. -/
inductive GateFailure
  | probabilitiesOutsideUnitInterval | metricsNan | rocAucBelow | prAucBelow | brierAbove
  | calibrationEceAbove | trainTestCaseOverlap
  | featureLeakage (fields : List String)
  | unknownFeatures (names : List String)
  | degenerateTestLabels
deriving DecidableEq

/-- The text of an entry; `repr` writes a list of texts. -/
def GateFailure.text (repr : List String → String) : GateFailure → String
  | .probabilitiesOutsideUnitInterval => "probabilities_outside_unit_interval"
  | .metricsNan => "metrics_nan"
  | .rocAucBelow => "roc_auc_below_0.60"
  | .prAucBelow => "pr_auc_below_0.20"
  | .brierAbove => "brier_above_0.25"
  | .calibrationEceAbove => "calibration_ece_above_0.12"
  | .trainTestCaseOverlap => "train_test_case_overlap"
  | .featureLeakage fields => "feature_leakage:" ++ repr fields
  | .unknownFeatures names => "unknown_features:" ++ repr names
  | .degenerateTestLabels => "degenerate_test_labels"

/-- A gate that fails under a condition. -/
def gate (fails : Bool) (failure : GateFailure) : List GateFailure :=
  if fails then [failure] else []

/-- `failures`, in the order of the gates. -/
def gateFailures (input : QualityInput) : List GateFailure :=
  let leaked := leakageFields.filter (input.featureNames.contains ·)
  let unexpected := input.featureNames.filter fun name => !modelFeatureColumns.contains name
  let positives := input.yTrue.sum
  gate (input.yProb.any outsideUnit) .probabilitiesOutsideUnitInterval ++
    gate (input.rocAuc = .nan || input.prAuc = .nan || input.brier = .nan) .metricsNan ++
    gate (floatBelow (toBinary64 (60 / 100)) input.rocAuc) .rocAucBelow ++
    gate (floatBelow (toBinary64 (20 / 100)) input.prAuc) .prAucBelow ++
    gate (floatAbove (toBinary64 (25 / 100)) input.brier) .brierAbove ++
    gate (floatAbove (toBinary64 (12 / 100)) input.ece) .calibrationEceAbove ++
    gate (input.trainCaseIds.any (input.testCaseIds.contains ·)) .trainTestCaseOverlap ++
    gate (!leaked.isEmpty) (.featureLeakage leaked) ++
    gate (!unexpected.isEmpty) (.unknownFeatures unexpected) ++
    gate (positives = 0 || positives = input.yTrue.length) .degenerateTestLabels

/-- What `train` keeps of `run_quality_gates`: `quality` of a model that passed, or the failures
of the exception that it caught. -/
structure QualityReport where
  passed : Bool
  failures : List GateFailure
deriving DecidableEq

/-- `run_quality_gates`; the exception carries the failures. -/
def runQualityGates (input : QualityInput) : Except (List GateFailure) QualityReport :=
  match gateFailures input with
  | [] => .ok { passed := true, failures := [] }
  | failures => .error failures

/-- `quality`. -/
def QualityInput.report (input : QualityInput) : QualityReport :=
  match runQualityGates input with
  | .ok report => report
  | .error failures => { passed := false, failures }

/-! ## What a model has that passed -/

/-- What the gates ask of the model and of its evaluation. -/
structure QualityInput.Admissible (input : QualityInput) : Prop where
  inUnit : ∀ p ∈ input.yProb, outsideUnit p = false
  numbers : input.rocAuc ≠ .nan ∧ input.prAuc ≠ .nan ∧ input.brier ≠ .nan
  rocAuc : floatBelow (toBinary64 (60 / 100)) input.rocAuc = false
  prAuc : floatBelow (toBinary64 (20 / 100)) input.prAuc = false
  brier : floatAbove (toBinary64 (25 / 100)) input.brier = false
  ece : floatAbove (toBinary64 (12 / 100)) input.ece = false
  separated : ∀ i ∈ input.trainCaseIds, i ∉ input.testCaseIds
  columns : ∀ name ∈ input.featureNames, name ∈ modelFeatureColumns ∧ name ∉ leakageFields
  bothLabels : input.yTrue.sum ≠ 0 ∧ input.yTrue.sum ≠ input.yTrue.length

@[simp] theorem gate_eq_nil {fails : Bool} {failure : GateFailure} :
    gate fails failure = [] ↔ fails = false := by
  cases fails <;> simp [gate]

/-- No gate fails exactly for the admissible models. -/
theorem gateFailures_eq_nil (input : QualityInput) :
    gateFailures input = [] ↔ input.Admissible := by
  unfold gateFailures
  simp only [List.append_eq_nil_iff, gate_eq_nil, and_assoc]
  constructor
  · rintro ⟨hunit, hnan, hroc, hpr, hbrier, hece, hoverlap, hleaked, hunknown, hlabels⟩
    refine ⟨by simpa using hunit, by simpa [not_or, and_assoc] using hnan, hroc, hpr, hbrier, hece,
      by simpa using hoverlap, ?_, by simpa [not_or] using hlabels⟩
    intro name hname
    constructor
    · have hknown : ∀ name ∈ input.featureNames, name ∈ modelFeatureColumns := by
        simpa using hunknown
      exact hknown name hname
    · intro hleakage
      have hclean : ∀ field ∈ leakageFields, field ∉ input.featureNames := by
        simpa using hleaked
      exact hclean name hleakage hname
  · intro h
    have hclean : ∀ field ∈ leakageFields, field ∉ input.featureNames := by
      intro field hfield hname
      exact (h.columns field hname).2 hfield
    refine ⟨by simpa using h.inUnit, by simpa [not_or, and_assoc] using h.numbers, h.rocAuc,
      h.prAuc, h.brier, h.ece, by simpa using h.separated, by simpa using hclean, ?_,
      by simpa [not_or] using h.bothLabels⟩
    have hknown : ∀ name ∈ input.featureNames, name ∈ modelFeatureColumns :=
      fun name hname => (h.columns name hname).1
    simpa using hknown

theorem report_passed (input : QualityInput) : input.report.passed = true ↔ input.Admissible := by
  rw [← gateFailures_eq_nil]
  unfold QualityInput.report runQualityGates
  cases gateFailures input with
  | nil => exact iff_of_true rfl rfl
  | cons failure rest =>
    dsimp only
    simp

/-! ## Candidates -/

/-- A fitted candidate: `name`, `model`, `val_brier`. -/
structure Candidate (Model : Type) where
  name : String
  model : Model
  valBrier : ℚ

/-- The forest is taken where its Brier score is lower by more than 0.003. -/
def selectCandidate {Model : Type} (logistic forest : Candidate Model) : Candidate Model :=
  if toBinary64 (forest.valBrier + toBinary64 (3 / 1000)) < logistic.valBrier then forest
  else logistic

end ReviveX
