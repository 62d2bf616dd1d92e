import ReviveX.Agents.Ranking

/-!
# Cached predictions

`resolve_probability`: the probability of an action of a case is an override, the latest
stored prediction while it is fresh, or what the model answers now. A new answer is rounded to
six decimals and stored for the runs to come, and the run that asked for it goes on with the
answer as it is.
-/

namespace ReviveX

open Lib (Decimal Session)

/-! ## Predictions -/

/-- A float: its value, and the decimal number that `str` writes for it. -/
structure PyFloat where
  value : ℚ
  text : ℚ

/-- `RecoveryProbability`. -/
structure RecoveryProbability where
  probability : PyFloat
  modelVersion : String
  featureVersion : String
  source : String

/-- A number that the check constraint of `model_predictions` admits. -/
abbrev Probability : Type := { q : ℚ // 0 ≤ q ∧ q ≤ 1 }

/-- `ModelPrediction`. -/
structure ModelPrediction where
  merchantId : ℕ
  recoveryCaseId : ℕ
  action : RecoveryActionType
  probability : Probability
  modelVersion : String
  featureVersion : String
  source : String
  createdAt : Time
  updatedAt : Time

/-- `ProbabilityQuote`. -/
structure ProbabilityQuote where
  probability : Probability
  modelVersion : String
  featureVersion : String
  source : String
  predictedAt : Time
  stale : Bool
  refreshed : Bool

/-- What `prediction_fingerprint` hashes. -/
structure PredictionFingerprint where
  merchantId : ℕ
  recoveryCaseId : ℕ
  action : RecoveryActionType
  modelVersion : String
  featureVersion : String
deriving DecidableEq

/-- The fingerprint of a row: every row is written with the one of its columns. -/
def ModelPrediction.fingerprint (row : ModelPrediction) : PredictionFingerprint where
  merchantId := row.merchantId
  recoveryCaseId := row.recoveryCaseId
  action := row.action
  modelVersion := row.modelVersion
  featureVersion := row.featureVersion

/-- A session on the table of predictions. -/
abbrev PredictionTable := Session (List ModelPrediction) Failure

/-- `FEATURE_VERSION`. -/
def featureVersionText : String := "features-v1"

/-- `map_prediction_source`; the other names stay, `MODEL_FALLBACK` and `OVERRIDE` included. -/
def mapPredictionSource (raw : String) : String :=
  if raw = "ml" ∨ raw = "MODEL" then "MODEL" else raw

/-- `probability_to_decimal`. -/
def probabilityToDecimal : Decimal → Except Failure Probability
  | .finite q =>
    if h : 0 ≤ q ∧ q ≤ 1 then .ok ⟨q, h⟩
    else .error (optimizerError "INVALID_PROBABILITY" "Probability is outside [0, 1]")
  | .infinity _ =>
    .error (optimizerError "INVALID_PROBABILITY" "Probability is outside [0, 1]")
  | .nan => .error (.crash "InvalidOperation")

/-! ## The table -/

/-- `Decimal(str(round(probability, 6)))` of a float. -/
def roundSix (q : ℚ) : ℚ := Decimal.roundHalfEven (q * 10 ^ 6) / 10 ^ 6

theorem roundSix_mem {q : ℚ} (h : 0 ≤ q ∧ q ≤ 1) : 0 ≤ roundSix q ∧ roundSix q ≤ 1 := by
  have hscale : (0 : ℚ) < 10 ^ 6 := by norm_num
  have hlow : (0 : ℤ) ≤ Decimal.roundHalfEven (q * 10 ^ 6) :=
    Decimal.le_roundHalfEven (by push_cast; exact mul_nonneg h.1 hscale.le)
  have hhigh : Decimal.roundHalfEven (q * 10 ^ 6) ≤ 10 ^ 6 :=
    Decimal.roundHalfEven_le (by push_cast; exact mul_le_of_le_one_left hscale.le h.2)
  have hhigh' : (Decimal.roundHalfEven (q * 10 ^ 6) : ℚ) ≤ 10 ^ 6 := by exact_mod_cast hhigh
  unfold roundSix
  constructor
  · exact div_nonneg (by exact_mod_cast hlow) hscale.le
  · exact (div_le_one hscale).mpr hhigh'

/-- What is stored of a probability. -/
def Probability.stored (p : Probability) : Probability := ⟨roundSix p.val, roundSix_mem p.property⟩

/-- `ModelPredictionRepository.get_latest_for_action`. -/
def latestForAction (rows : List ModelPrediction) (caseId : ℕ) (action : RecoveryActionType) :
    Option ModelPrediction :=
  ((rows.filter fun row => row.recoveryCaseId = caseId && row.action = action).insertionSort
    fun a b => toLex (b.updatedAt, b.createdAt) ≤ toLex (a.updatedAt, a.createdAt)).head?

/-- `ModelPredictionRepository.upsert` of a new row at its `updatedAt`. -/
def upsertPrediction (rows : List ModelPrediction) (new : ModelPrediction) :
    List ModelPrediction :=
  if rows.any fun row => row.fingerprint = new.fingerprint then
    rows.map fun row =>
      if row.fingerprint = new.fingerprint then
        { row with
          probability := new.probability
          source := new.source
          updatedAt := new.updatedAt }
      else row
  else rows ++ [new]

/-- `persist_prediction`. -/
def persistPrediction (now : Time) (merchantId caseId : ℕ) (action : RecoveryActionType)
    (probability : ℚ) (modelVersion featureVersion source : String) : PredictionTable Unit :=
  if h : 0 ≤ probability ∧ probability ≤ 1 then
    Session.modify fun rows => upsertPrediction rows
      { merchantId
        recoveryCaseId := caseId
        action
        probability := Probability.stored ⟨probability, h⟩
        modelVersion, featureVersion, source
        createdAt := now
        updatedAt := now }
  else Session.raise (.crash "ValueError")

/-! ## Resolution -/

/-- The quote of an override. -/
def ProbabilityQuote.ofOverride (probability : Probability) (now : Time) : ProbabilityQuote where
  probability := probability
  modelVersion := "override"
  featureVersion := featureVersionText
  source := "OVERRIDE"
  predictedAt := now
  stale := false
  refreshed := false

/-- What decides the probabilities of a run: `prediction_ttl_minutes`, the `probabilities` that
override the model, by action, and the model. The context that the model is asked about is
read from the store at the start of the run. -/
structure PredictionSource where
  predictionTtlMinutes : ℤ := 60
  probabilities : Option (RecoveryActionType → Option Decimal) := none
  predictor : Store → ℕ → RecoveryActionType → Except (String × String) RecoveryProbability

/-- `timedelta(minutes=settings.prediction_ttl_minutes)`. -/
def PredictionSource.ttl (source : PredictionSource) : Time :=
  source.predictionTtlMinutes * 60000000

/-- `_load_cached`. -/
def loadCached (rows : List ModelPrediction) (caseId : ℕ) (action : RecoveryActionType)
    (now ttl : Time) : Option ProbabilityQuote :=
  (latestForAction rows caseId action).map fun row =>
    { probability := row.probability
      modelVersion := row.modelVersion
      featureVersion := row.featureVersion
      source := mapPredictionSource row.source
      predictedAt := row.updatedAt
      stale := decide (ttl < now - row.updatedAt)
      refreshed := false }

/-- `_predict`, with the float that was scored. -/
def predict (answer : Except (String × String) RecoveryProbability) (now : Time)
    (refreshed : Bool) : Except Failure (ProbabilityQuote × PyFloat) :=
  match answer with
  | .error (code, message) => .error (optimizerError code message)
  | .ok scored => do
    let probability ← probabilityToDecimal (.finite scored.probability.text)
    return (
      { probability
        modelVersion := scored.modelVersion
        featureVersion := scored.featureVersion
        source := mapPredictionSource scored.source
        predictedAt := now
        stale := false
        refreshed }, scored.probability)

/-- The end of `resolve_probability`, without a fresh prediction. -/
def refreshProbability (answer : Except (String × String) RecoveryProbability) (now : Time)
    (merchantId caseId : ℕ) (action : RecoveryActionType) (refreshed : Bool) :
    PredictionTable ProbabilityQuote := do
  -- the float of the quoted decimal is the float that was scored
  let (quote, scored) ← Session.ofExcept (predict answer now refreshed)
  persistPrediction now merchantId caseId action scored.value quote.modelVersion
    quote.featureVersion (if quote.source = "MODEL" then "ml" else quote.source)
  return quote

/-- `resolve_probability` of one action, where `answer` is what the model says of it. -/
def PredictionSource.resolveProbability (source : PredictionSource)
    (answer : Except (String × String) RecoveryProbability) (now : Time)
    (merchantId caseId : ℕ) (action : RecoveryActionType) :
    PredictionTable (Option ProbabilityQuote) := do
  match source.probabilities with
  | some overrides =>
    match overrides action with
    | none => return none
    | some value =>
      let probability ← Session.ofExcept (probabilityToDecimal value)
      return some (.ofOverride probability now)
  | none =>
    let rows ← Session.get
    match loadCached rows caseId action now source.ttl with
    | some cached =>
      if cached.stale then
        some <$> refreshProbability answer now merchantId caseId action true
      else return some cached
    | none => some <$> refreshProbability answer now merchantId caseId action false

/-! ## The optimizer -/

/-- A session on the store and the table of predictions. -/
abbrev PredictionService := Session (Store × List ModelPrediction) Failure

/-- The parts of a `RecoveryOptimizer`. -/
structure PredictedOptimizer where
  settings : OptimizerSettings := {}
  recovery : RecoverySettings := {}
  /-- `str(default_discount_percent)`. -/
  discountPercentText : String := "5"
  source : PredictionSource

/-- The optimizer of an action whose probability is known. -/
def PredictedOptimizer.quoted (opt : PredictedOptimizer) (quote : Option ProbabilityQuote) :
    RecoveryOptimizer :=
  opt.settings.optimizer opt.recovery opt.discountPercentText fun _ _ _ =>
    .ok (quote.map fun q => q.probability.val)

/-- One round of the loop of `optimize`, in a run that started from `start`. -/
def scorePredicted (opt : PredictedOptimizer) (caller : Caller) (caseId : ℕ) (start : Store)
    (ctx : PolicyContext) (action : RecoveryActionType) : PredictionService CandidateAction := do
  let quote ← Session.second (opt.source.resolveProbability
    (opt.source.predictor start caseId action) caller.now ctx.case.merchantId caseId action)
  Session.first (scoreCandidate (opt.quoted quote) caller caseId ctx action)

/-- The loop of `optimize`. -/
def scorePredictions (opt : PredictedOptimizer) (caller : Caller) (caseId : ℕ) (start : Store)
    (ctx : PolicyContext) :
    List RecoveryActionType → PredictionService (List CandidateAction)
  | [] => pure []
  | action :: rest => do
    let candidate ← scorePredicted opt caller caseId start ctx action
    let others ← scorePredictions opt caller caseId start ctx rest
    pure (candidate :: others)

/-- `optimize_case` with its predictions. -/
def optimizePredicted (opt : PredictedOptimizer) (py : PyText) (caller : Caller) (caseId : ℕ)
    (candidates : Option (List String)) : PredictionService OptimizationResult := do
  let (s, _) ← Session.get
  match s.cases.get? caseId with
  | none =>
    Session.raise
      (optimizerError "RECOVERY_CASE_NOT_FOUND" s!"Recovery case {caseId} was not found")
  | some c =>
    let ctx ← Session.ofExcept
      (buildPolicyContext { settings := opt.recovery, py } s caseId c caller.now)
    let actions ← Session.ofExcept (normalizeCandidates candidates)
    let scored ← scorePredictions opt caller caseId s ctx actions
    let (selected, selectionReason) ← Session.ofExcept
      (opt.settings.rankCandidates c scored (ctx.suspicious || ctx.sourceMismatch))
    let result : OptimizationResult :=
      { candidateActions := scored, selected, selectionReason }
    Session.first (persistOptimizationDecision caller caseId c result)
    pure result

end ReviveX
