import ReviveX.Eval.QualityGates
import ReviveX.Lib.Markers
import ReviveX.Providers.Interventions
import Mathlib.Data.List.AList

/-!
# The directory of trained models

`train` from the quality gates on, `save_bundle`, `load_bundle` and
`predict_recovery_probability`, cut at the statements between which another process can read or
write the directory. Opening a file for writing empties it, so a bundle is torn before it is
whole. The fitted models, their evaluation on the rows held out and their answers are parameters.
-/

namespace ReviveX

open Lib (Decimal strip toBinary64)

/-! ## Texts -/

/-- Python's classes of characters: `str.isdigit`, the digits that `int` reads, and what
`str.strip` removes. -/
structure VersionText where
  isDigit : Char → Bool
  digit : Char → Option ℕ
  isSpace : Char → Bool
  isDigit_ascii : ∀ c : Char, c.isDigit = true → isDigit c = true
  digit_ascii : ∀ c : Char, c.isDigit = true → digit c = some (c.toNat - '0'.toNat)
  isSpace_graph : ∀ c : Char, 33 ≤ c.toNat → c.toNat ≤ 126 → isSpace c = false

/-- `int(text)` of a text of digits; a superscript raises. -/
def VersionText.int (text : VersionText) (digits : List Char) : Option ℕ :=
  digits.foldlM (fun n c => (text.digit c).map (10 * n + ·)) 0

/-- `text.strip()`. -/
def VersionText.stripped (text : VersionText) (s : String) : String :=
  String.ofList (strip text.isSpace s.toList)

/-! ## Files -/

/-- A file that is written in one go: opened, it is torn until the text is there. -/
inductive WrittenFile (α : Type)
  | torn
  | whole (content : α)
deriving DecidableEq

/-- The keys of `metadata.json` that are read back. -/
structure Metadata where
  modelVersion : String
  featureVersion : String
  seed : ℤ
  algorithm : String
  nCases : ℕ
  quality : QualityReport
deriving DecidableEq

/-- A version's directory: `model.joblib` and `metadata.json`. -/
structure Bundle (Model : Type) where
  artifact : Option (WrittenFile Model) := none
  metadata : Option (WrittenFile Metadata) := none
deriving DecidableEq

/-- An entry of the models directory. -/
inductive Child (Model : Type)
  | directory (bundle : Bundle Model)
  | file (text : String)
deriving DecidableEq

/-- `models_dir()`, by the names of its entries. A version is taken as the name of an entry, also
where it is another path to one, as `./x` is to `x`. -/
abbrev Models (Model : Type) := AList fun _ : String => Child Model

/-- The name of the pointer file. -/
def pointerName : String := "PRODUCTION"

/-- The key of the production model in `_pipeline_cache`. -/
def productionKey : String := "__production__"

variable {Model : Type}

/-- `target.mkdir(parents=True, exist_ok=True)`; `none` is the `FileExistsError`. -/
def Models.mkdir (models : Models Model) (version : String) : Option (Models Model) :=
  match models.lookup version with
  | none => some (models.insert version (.directory {}))
  | some (.directory _) => some models
  | some (.file _) => none

/-- A write inside a version's directory. -/
def Models.write (models : Models Model) (version : String)
    (change : Bundle Model → Bundle Model) : Models Model :=
  match models.lookup version with
  | some (.directory bundle) => models.insert version (.directory (change bundle))
  | _ => models

/-- Writing the pointer file; `none` is the `IsADirectoryError`. -/
def Models.writePointer (models : Models Model) (text : String) : Option (Models Model) :=
  match models.lookup pointerName with
  | some (.directory _) => none
  | _ => some (models.insert pointerName (.file text))

/-- `read_production_pointer`; the outer `none` is the `IsADirectoryError`. -/
def Models.readProductionPointer (text : VersionText) (models : Models Model) :
    Option (Option String) :=
  match models.lookup pointerName with
  | none => some none
  | some (.directory _) => none
  | some (.file content) =>
    let version := text.stripped content
    some (if version = "" then none else some version)

/-- The default `prefix` of `next_model_version`. -/
def versionPrefix : String := "recovery-v"

/-- What a name has after the prefix. -/
def versionSuffix (name : String) : Option (List Char) :=
  if versionPrefix.toList.isPrefixOf name.toList then
    some (name.toList.drop versionPrefix.length)
  else none

/-- `suffix.isdigit()`. -/
def VersionText.isNumber (text : VersionText) (suffix : List Char) : Bool :=
  !suffix.isEmpty && suffix.all text.isDigit

/-- `next_model_version`; `none` is the `ValueError` of a superscript. -/
def nextModelVersion (text : VersionText) (models : Models Model) : Option String := do
  let suffixes := (models.keys.filterMap versionSuffix).filter text.isNumber
  let existing ← suffixes.mapM text.int
  -- the largest number so far is 0 where there is none
  return versionPrefix ++ toString (existing.foldr max 0 + 1)

/-! ## Training -/

/-- The third-party code around a model: its metrics on the rows that the seed and the number of
cases hold out, and `predict_proba` on the features of a case. -/
structure Toolkit (Model Context : Type) where
  text : VersionText
  heldOut : ℤ → ℕ → Model → QualityInput
  predictProba : Model → Context → RecoveryActionType → Decimal

/-- The arguments of `train` that are read after the models are fitted. -/
structure TrainArgs where
  seed : ℤ := 42
  nCases : ℕ := 10000
  modelVersion : Option String := none
  overwrite : Bool := false
  publish : Bool := true

/-- How a `train` ends early. -/
inductive TrainFailure
  /-- `ModelQualityError("QUALITY_GATE", …)`. -/
  | qualityGate (failures : List GateFailure)
  /-- `ModelQualityError("VERSION_EXISTS", …)`. -/
  | versionExists (version : String)
  | valueError | fileExistsError | isADirectoryError
  /-- The process died. -/
  | crashed
deriving DecidableEq

/-- The next statement of a `train`. -/
inductive TrainPhase
  | fitted
  | chosen (version : String)
  | checked (version : String)
  | made (version : String)
  | dumping (version : String)
  | dumped (version : String)
  | describing (version : String)
  | saved (version : String)
  | pointing (version : String)
  | returned (version : String) (published : Bool)
  | raised (failure : TrainFailure)
deriving DecidableEq

/-- A `train` with its two fitted candidates. -/
structure TrainJob (Model : Type) where
  args : TrainArgs
  logistic : Candidate Model
  forest : Candidate Model
  phase : TrainPhase := .fitted

namespace TrainJob

variable {Context : Type} (kit : Toolkit Model Context) (models : Models Model)
  (job : TrainJob Model)

/-- `selected`. -/
def selected : Candidate Model := selectCandidate job.logistic job.forest

/-- `quality`. -/
def quality : QualityReport :=
  (kit.heldOut job.args.seed job.args.nCases job.selected.model).report

/-- `metadata`, under the version that `save_bundle` writes into it. -/
def metadata (version : String) : Metadata where
  modelVersion := version
  featureVersion := featureVersionText
  seed := job.args.seed
  algorithm := job.selected.name
  nCases := job.args.nCases
  quality := job.quality kit

/-- `published`. -/
def published : Bool := (job.quality kit).passed && job.args.publish

/-- `model_version or next_model_version()`. -/
def chooseVersion : TrainPhase :=
  match job.args.modelVersion.filter (· ≠ "") with
  | some version => .chosen version
  | none =>
    match nextModelVersion kit.text models with
    | some version => .chosen version
    | none => .raised .valueError

/-- The next statement of `train`, with the directory after it. -/
def next : TrainPhase × Models Model :=
  match job.phase with
  | .fitted =>
    if !(job.quality kit).passed && job.args.publish then
      (.raised (.qualityGate (job.quality kit).failures), models)
    else (job.chooseVersion kit models, models)
  | .chosen version =>
    if (models.lookup version).isSome && !job.args.overwrite then
      (.raised (.versionExists version), models)
    else (.checked version, models)
  | .checked version =>
    match models.mkdir version with
    | none => (.raised .fileExistsError, models)
    | some models' => (.made version, models')
  | .made version =>
    (.dumping version, models.write version fun b => { b with artifact := some .torn })
  | .dumping version =>
    (.dumped version, models.write version fun b =>
      { b with artifact := some (.whole job.selected.model) })
  | .dumped version =>
    (.describing version, models.write version fun b => { b with metadata := some .torn })
  | .describing version =>
    (.saved version, models.write version fun b =>
      { b with metadata := some (.whole (job.metadata kit version)) })
  | .saved version =>
    if job.published kit then
      match models.writePointer "" with
      | none => (.raised .isADirectoryError, models)
      | some models' => (.pointing version, models')
    else (.returned version false, models)
  | .pointing version =>
    match models.writePointer version with
    | none => (.raised .isADirectoryError, models)
    | some models' => (.returned version true, models')
  | phase => (phase, models)

end TrainJob

/-! ## Predictions -/

/-- `CaseContext`. -/
structure CaseContext where
  amount : FloatText
  failureReason : String
  attemptNumber : ℤ
  merchantCategory : Option String := none
  paymentMethod : Option String := none
  bank : Option String := none
  historicalSuccessRate : Option Decimal := none
  historicalRecoveryRate : Option Decimal := none
  customerLifetimeValue : Option FloatText := none
  daysSinceLastPurchase : Option FloatText := none
  cartAgeHours : Option FloatText := none
  cartValue : Option FloatText := none
  subscriptionState : Option String := none
  communicationCount : Option ℤ := none
  daysSinceLastContact : Option FloatText := none
  previousDiscountUsage : Option Decimal := none
  hourOfDay : Option ℤ := none
  dayOfWeek : Option ℤ := none
  customerSegment : Option String := none
  caseType : Option String := none
  priorFailures : Option ℤ := none
  priorCaptures : Option ℤ := none

/-- `FailureReason(text)`, or `UNKNOWN`. -/
def failureReasonOf (text : String) : FailureReason :=
  ([.temporaryBankError, .insufficientFunds, .expiredCard, .declined, .networkTimeout,
    .mandateFailure, .customerCancelled].find? (·.text = text)).getD .unknown

/-- The `InterventionContext` that `fallback_probability` builds. -/
def CaseContext.intervention (context : CaseContext) : InterventionContext where
  failureReason := some (failureReasonOf context.failureReason)
  attemptNumber := context.attemptNumber
  priorFailures := context.priorFailures.getD 0
  historicalSuccessRate := context.historicalSuccessRate.getD (.finite 0)
  historicalRecoveryRate := context.historicalRecoveryRate.getD (.finite 0)
  communicationCount := context.communicationCount.getD 0
  previousDiscountUsage := context.previousDiscountUsage.getD (.finite 0)
  cartAgeHours := context.cartAgeHours
  customerLifetimeValue := (context.customerLifetimeValue.map (·.number)).getD (.finite 0)
  amount := context.amount.number
  hourOfDay := context.hourOfDay.getD 12
  caseType := (context.caseType.filter (· ≠ "")).getD "FAILED_PAYMENT"

/-- `float(value)` of a decimal number. -/
def floatOf : Decimal → Decimal
  | .finite q => .finite (toBinary64 q)
  | value => value

/-- `fallback_probability`; `none` is a signal of the decimal context. -/
def fallbackProbability (context : CaseContext) (action : RecoveryActionType) : Option Decimal :=
  (interventionRecoveryProbability context.intervention action).map fun value =>
    clampRate (floatOf value)

/-- `FALLBACK_VERSION`, which is also the source of a fallback. -/
def fallbackVersion : String := "MODEL_FALLBACK"

/-- `RecoveryProbability` as the prediction returns it. -/
structure PredictedProbability where
  probability : Decimal
  modelVersion : String
  featureVersion : String
  source : String
deriving DecidableEq

/-- The arguments of `predict_recovery_probability`. -/
structure PredictRequest where
  context : CaseContext
  action : RecoveryActionType
  modelVersion : Option String := none
  allowFallback : Bool := true

/-- What `load_bundle` returns; a bundle without `metadata.json` has an empty dictionary. -/
abbrev LoadedBundle (Model : Type) := Model × Option Metadata

namespace PredictRequest

variable (request : PredictRequest)

/-- `model_version`, where an empty one counts as none. -/
def version : Option String := request.modelVersion.filter (· ≠ "")

/-- The key in the cache. -/
def key : String := request.version.getD productionKey

/-- The answer without the model; `none` is an exception. -/
def fallback : Option PredictedProbability := do
  if !request.allowFallback then none
  let probability ← fallbackProbability request.context request.action
  if outsideUnit probability then none
  return {
    probability
    modelVersion := fallbackVersion
    featureVersion := featureVersionText
    source := fallbackVersion }

/-- The answer of `_ml_predict` from a loaded bundle; a probability that is refused is answered
without the model. -/
def answer (kit : Toolkit Model CaseContext) (loaded : LoadedBundle Model) :
    Option PredictedProbability :=
  let probability := kit.predictProba loaded.1 request.context request.action
  if outsideUnit probability then request.fallback
  else
    some {
      probability
      modelVersion := ((loaded.2.map (·.modelVersion)).filter (· ≠ "")).getD
        (request.version.getD "unknown")
      featureVersion := ((loaded.2.map (·.featureVersion)).filter (· ≠ "")).getD
        featureVersionText
      source := "ml" }

end PredictRequest

/-- The next statement of a prediction. -/
inductive PredictPhase (Model : Type)
  | idle
  | naming (request : PredictRequest)
  | named (request : PredictRequest) (version : String)
  | loaded (request : PredictRequest) (version : String) (model : Model)

/-- `_pipeline_cache`. -/
abbrev PipelineCache (Model : Type) := AList fun _ : String => LoadedBundle Model

/-- A request that was answered. -/
structure Answered where
  request : PredictRequest
  result : PredictedProbability

/-- A request with its answer; an exception leaves none. -/
def PredictRequest.answered (request : PredictRequest) (result : Option PredictedProbability) :
    List Answered :=
  (result.map (Answered.mk request)).toList

/-- What a statement of a prediction leaves. -/
structure PredictOutcome (Model : Type) where
  phase : PredictPhase Model
  cache : PipelineCache Model
  answered : List Answered := []

namespace PredictRequest

variable (kit : Toolkit Model CaseContext) (cache : PipelineCache Model) (request : PredictRequest)

/-- The request ends without the model. -/
def finish (result : Option PredictedProbability) : PredictOutcome Model where
  phase := .idle
  cache := cache
  answered := request.answered result

/-- The bundle is cached and answers. -/
def answerWith (loaded : LoadedBundle Model) : PredictOutcome Model where
  phase := .idle
  cache := cache.insert request.key loaded
  answered := request.answered (request.answer kit loaded)

/-- `_load` of a request: a cached bundle answers at once. -/
def start : PredictOutcome Model :=
  match cache.lookup request.key with
  | some loaded => request.finish cache (request.answer kit loaded)
  | none => { phase := .naming request, cache }

end PredictRequest

/-- The next statement of `load_bundle`, and what follows it. -/
def PredictPhase.next (kit : Toolkit Model CaseContext) (models : Models Model)
    (cache : PipelineCache Model) : PredictPhase Model → PredictOutcome Model
  | .idle => { phase := .idle, cache }
  | .naming request =>
    match request.version with
    | some version => { phase := .named request version, cache }
    | none =>
      match models.readProductionPointer kit.text with
      | none => request.finish cache none
      | some none => request.finish cache request.fallback
      | some (some version) => { phase := .named request version, cache }
  | .named request version =>
    match models.lookup version with
    | some (.directory { artifact := some (.whole model), .. }) =>
      { phase := .loaded request version model, cache }
    | _ => request.finish cache request.fallback
  | .loaded request version model =>
    match models.lookup version with
    | some (.directory { metadata := some (.whole metadata), .. }) =>
      request.answerWith kit cache (model, some metadata)
    -- the text of a torn file is no JSON document, and its exception is not caught
    | some (.directory { metadata := some .torn, .. }) => request.finish cache none
    | _ => request.answerWith kit cache (model, none)

/-! ## Processes on one directory -/

/-- A thread that answers requests, and the process that it shares a cache with. -/
structure PredictThread (Model : Type) where
  process : ℕ
  phase : PredictPhase Model := .idle

/-- The directory with the processes that train and predict; `answers` is what was answered. -/
structure Registry (Model : Type) where
  models : Models Model
  jobs : ℕ → TrainJob Model
  caches : ℕ → PipelineCache Model
  threads : ℕ → PredictThread Model
  answers : List Answered := []

/-- The next statement of a process or of a thread. -/
inductive RegistryLabel
  | train (i : ℕ)
  | crash (i : ℕ)
  | ask (k : ℕ) (request : PredictRequest)
  | predict (k : ℕ)
  /-- `clear_model_cache`, or a new process. -/
  | clearModelCache (process : ℕ)

namespace Registry

variable (s : Registry Model)

def setPhase (i : ℕ) (phase : TrainPhase) : Registry Model :=
  { s with jobs := Function.update s.jobs i { s.jobs i with phase } }

def setCache (process : ℕ) (cache : PipelineCache Model) : Registry Model :=
  { s with caches := Function.update s.caches process cache }

/-- The registry after a statement of a thread. -/
def setThread (k : ℕ) (outcome : PredictOutcome Model) : Registry Model :=
  { s.setCache (s.threads k).process outcome.cache with
    threads := Function.update s.threads k { s.threads k with phase := outcome.phase }
    answers := s.answers ++ outcome.answered }

/-- The cache that a thread sees. -/
def cacheOf (k : ℕ) : PipelineCache Model := s.caches (s.threads k).process

/-- The registry after a statement. -/
def after (kit : Toolkit Model CaseContext) : RegistryLabel → Registry Model
  | .train i =>
    let outcome := (s.jobs i).next kit s.models
    { s.setPhase i outcome.1 with models := outcome.2 }
  | .crash i => s.setPhase i (.raised .crashed)
  | .ask k request =>
    match (s.threads k).phase with
    | .idle => s.setThread k (request.start kit (s.cacheOf k))
    | _ => s
  | .predict k => s.setThread k ((s.threads k).phase.next kit s.models (s.cacheOf k))
  | .clearModelCache process => s.setCache process ∅

/-- A statement of one of the processes. -/
def Step (kit : Toolkit Model CaseContext) (s : Registry Model) (label : RegistryLabel)
    (s' : Registry Model) : Prop :=
  s' = s.after kit label

end Registry

end ReviveX
