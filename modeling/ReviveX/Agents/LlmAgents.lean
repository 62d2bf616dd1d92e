import ReviveX.Agents.Orchestrator

/-!
# Agents with a language model

What the agents of `run_case` make of a language model: every stage asks its client a few
times, validates what it gets against a closed schema, and falls back on rules when nothing
passes. The client is arbitrary. Of the results only what a later stage reads is kept; the
texts for people are checked and left out.
-/

namespace ReviveX

open Lib (Json)

/-! ## Asking -/

/-- How asking a model may fail. -/
inductive ClientError
  /-- With an exception that `try_llm_model` catches. -/
  | caught
  | escapes (f : Failure)

/-- A language model behind its client. -/
structure LlmClient where
  /-- What `complete` gives to the `n`-th request of a stage. -/
  complete : AgentName → ℕ → Except ClientError String

/-- The libraries that read what the model wrote. -/
structure OutputReader where
  /-- `json.loads`. -/
  loads : String → Except ClientError Json
  /-- What the schemas take for a `bool` and for a `float`. -/
  bool? : Json → Option Bool
  float? : Json → Option ℚ

/-- `parse_json_object`. -/
def parseJsonObject (reader : OutputReader) (text : String) : Except ClientError Payload := do
  match ← reader.loads text with
  | .obj fields => return fields
  | _ => .error .caught

/-- `try_llm_model`, from the `n`-th request on. -/
def tryLlmModel {α : Type} (reader : OutputReader) (answer : ℕ → Except ClientError String)
    (merge : Payload → Payload) (validate : Payload → Option α) (n : ℕ) :
    ℕ → Except Failure (Option α)
  | 0 => .ok none
  | attempts + 1 =>
    match answer n >>= parseJsonObject reader with
    | .error (.escapes f) => .error f
    | .error .caught => tryLlmModel reader answer merge validate (n + 1) attempts
    | .ok payload =>
      match validate (merge payload) with
      | some output => .ok (some output)
      | none => tryLlmModel reader answer merge validate (n + 1) attempts

/-- The number of requests of a stage. -/
def AgentSettings.llmAttempts (settings : AgentSettings) : ℕ := (settings.llmMaxRetries + 1).toNat

/-- `data[key] = value`. -/
def setField (data : Payload) (key : String) (value : Json) : Payload :=
  (data.filter fun field => field.1 ≠ key) ++ [(key, value)]

/-- `attach_source`. -/
def attachSource (version : String) (payload : Payload) : Payload :=
  setField (setField payload "source" (.str "LLM")) "agent_version" (.str version)

/-! ## Schemas -/

/-- A model that forbids other fields. -/
def hasOnly (data : Payload) (keys : List String) : Bool :=
  data.all fun field => keys.contains field.1

/-- A required `str`. -/
def requiredText (data : Payload) (key : String) : Option String :=
  match Json.get? data key with
  | some (.str text) => some text
  | _ => none

/-- A `list[str]`. -/
def textList : Json → Option (List String)
  | .arr items => items.mapM fun
    | .str text => some text
    | _ => none
  | _ => none

/-- A `list[str]` that may be missing. -/
def optionalTexts (data : Payload) (key : String) : Option (List String) :=
  match Json.get? data key with
  | none => some []
  | some value => textList value

/-- `Recoverability`. -/
inductive Recoverability
  | high | medium | low | unrecoverable
deriving DecidableEq, Repr

def Recoverability.ofText? : String → Option Recoverability
  | "HIGH" => some .high
  | "MEDIUM" => some .medium
  | "LOW" => some .low
  | "UNRECOVERABLE" => some .unrecoverable
  | _ => none

/-- `DiagnosisResult`. -/
structure DiagnosisResult where
  recoverability : Recoverability
  source : AgentSource

/-- Every action once, at its first place. -/
def firstOccurrences : List RecoveryActionType → List RecoveryActionType
  | [] => []
  | action :: rest => action :: (firstOccurrences rest).filter (· ≠ action)

theorem nodup_firstOccurrences (actions : List RecoveryActionType) :
    (firstOccurrences actions).Nodup := by
  induction actions with
  | nil => exact List.nodup_nil
  | cons action rest ih =>
    refine List.nodup_cons.mpr ⟨fun hmem => ?_, ih.filter _⟩
    simpa using List.of_mem_filter hmem

/-- `StrategyResult`. -/
structure StrategyResult where
  candidateActions : List RecoveryActionType
  source : AgentSource
  nonempty : candidateActions ≠ []
  nodup : candidateActions.Nodup

/-- `closed_enum_only`. -/
def closedEnumOnly (source : AgentSource) (value : List String) : Option StrategyResult :=
  match value.mapM RecoveryActionType.ofText? with
  | some (action :: rest) =>
    some
      { candidateActions := firstOccurrences (action :: rest)
        source
        nonempty := List.cons_ne_nil _ _
        nodup := nodup_firstOccurrences (action :: rest) }
  | _ => none

/-- The validation of a `TriageResult`. -/
def validateTriage (reader : OutputReader) (data : Payload) : Option AgentSource := do
  let _ ← if hasOnly data ["case_type", "severity", "investigation_needed", "relevant_context",
    "source", "agent_version"] then some () else none
  let caseType ← requiredText data "case_type"
  let severity ← requiredText data "severity"
  let _ ← (Json.get? data "investigation_needed").bind reader.bool?
  let _ ← optionalTexts data "relevant_context"
  if ["FAILED_PAYMENT", "ABANDONED_CHECKOUT", "SUBSCRIPTION_FAILURE"].contains caseType ∧
      ["LOW", "MEDIUM", "HIGH"].contains severity then
    some .llm
  else none

/-- The validation of a `DiagnosisResult`. -/
def validateDiagnosis (reader : OutputReader) (data : Payload) : Option DiagnosisResult := do
  let _ ← if hasOnly data ["root_cause", "confidence", "evidence", "recoverability", "source",
    "agent_version"] then some () else none
  let rootCause ← requiredText data "root_cause"
  let confidence ← (Json.get? data "confidence").bind reader.float?
  let _ ← optionalTexts data "evidence"
  let recoverability ← (requiredText data "recoverability").bind Recoverability.ofText?
  if isBlank rootCause ∨ confidence < 0 ∨ 1 < confidence then none
  else some { recoverability, source := .llm }

/-- The validation of a `StrategyResult`. -/
def validateStrategy (data : Payload) : Option StrategyResult := do
  let _ ← if hasOnly data ["candidate_actions", "rationale", "source", "agent_version"]
    then some () else none
  let value ← (Json.get? data "candidate_actions").bind textList
  let _ ← requiredText data "rationale"
  closedEnumOnly .llm value

/-- The validation of a `DecisionExplanation`; its selected action has been written over. -/
def validateExplanation (data : Payload) : Option AgentSource := do
  let _ ← if hasOnly data ["observed", "candidate_comparison", "selected_action", "policy",
    "reason", "source", "agent_version"] then some () else none
  let _ ← requiredText data "observed"
  let _ ← requiredText data "candidate_comparison"
  let _ ← requiredText data "policy"
  some .llm

/-! ## Fallbacks -/

/-- `UNRECOVERABLE_FAILURES`. -/
def unrecoverableFailures : List String := ["CUSTOMER_CANCELLED", "MANDATE_FAILURE"]

/-- `CARD_FAILURES`. -/
def cardFailures : List String := ["EXPIRED_CARD", "DECLINED"]

/-- The recoverability that `fallback_diagnosis` gives to a failure code. -/
def fallbackDiagnosis (code : String) : DiagnosisResult where
  recoverability :=
    if unrecoverableFailures.contains code then .unrecoverable
    else if code = "INSUFFICIENT_FUNDS" then .medium
    else if ["TEMPORARY_BANK_ERROR", "NETWORK_TIMEOUT"].contains code then .high
    else if cardFailures.contains code then .medium
    else .low
  source := .deterministicFallback

/-- The candidates that `fallback_strategy` gives to a failure code and a diagnosis. -/
def fallbackCandidates (code : String) (recoverability : Recoverability) :
    List RecoveryActionType :=
  if recoverability = .unrecoverable ∨ unrecoverableFailures.contains code then
    [.escalate, .doNothing]
  else if ["TEMPORARY_BANK_ERROR", "NETWORK_TIMEOUT"].contains code then
    [.retryLater, .retryNow, .sendPaymentLink, .sendReminder, .escalate, .doNothing]
  else if code = "INSUFFICIENT_FUNDS" then
    [.retryLater, .sendPaymentLink, .sendReminder, .offerDiscount, .escalate, .doNothing]
  else if cardFailures.contains code then
    [.sendPaymentLink, .sendReminder, .offerDiscount, .escalate, .doNothing]
  else legalActions

/-- `fallback_strategy`. -/
def fallbackStrategy (code : String) (diagnosis : DiagnosisResult) : StrategyResult where
  candidateActions := fallbackCandidates code diagnosis.recoverability
  source := .deterministicFallback
  nonempty := by
    unfold fallbackCandidates
    repeat' split
    all_goals decide
  nodup := by
    unfold fallbackCandidates
    repeat' split
    all_goals decide

/-! ## Agents -/

/-- `(context.payment or {}).get("failure_code")`. -/
def Store.contextFailure (s : Store) (caseId : ℕ) : Option String := do
  let c ← s.cases.get? caseId
  let paymentId ← c.paymentId
  let payment ← s.getPayment c.merchantId paymentId
  payment.failureCode

/-- `failure_code or "UNKNOWN"`. -/
def failureOrUnknown (failure : Option String) : String :=
  (failure.filter (· ≠ "")).getD "UNKNOWN"

/-- The client with what reads its texts, and the settings. -/
structure LlmSetup where
  client : LlmClient
  reader : OutputReader
  settings : AgentSettings := {}
  /-- How long the answers keep the orchestrator from executing what it decided. -/
  elapsed : Time := 0

namespace LlmSetup

/-- The attempts of one stage, from the `n`-th request on. -/
def ask {α : Type} (llm : LlmSetup) (agent : AgentName) (n : ℕ) (merge : Payload → Payload)
    (validate : Payload → Option α) : Except Failure (Option α) :=
  tryLlmModel llm.reader (llm.client.complete agent) merge validate n llm.settings.llmAttempts

/-- `RevenueTriageAgent.run`. -/
def triage (llm : LlmSetup) : Except Failure AgentSource := do
  let result ← llm.ask .triage 0 (attachSource "triage-v1") (validateTriage llm.reader)
  return result.getD .deterministicFallback

/-- `DiagnosisAgent.run`: a known failure code is not the model's to diagnose. -/
def diagnosis (llm : LlmSetup) (failure : Option String) : Except Failure DiagnosisResult := do
  let code := failureOrUnknown failure
  if code ≠ "UNKNOWN" then return fallbackDiagnosis code
  else
    let result ← llm.ask .diagnosis 0 (attachSource "diagnosis-v1")
      (validateDiagnosis llm.reader)
    return result.getD (fallbackDiagnosis code)

/-- `StrategyAgent.run`. -/
def strategy (llm : LlmSetup) (failure : Option String) (diagnosis : DiagnosisResult) :
    Except Failure StrategyResult := do
  let result ← llm.ask .strategy 0 (attachSource "strategy-v1") validateStrategy
  return result.getD (fallbackStrategy (failureOrUnknown failure) diagnosis)

/-- The merge of `DecisionExplanationAgent.run`. -/
def mergeDecision (optimization : OptimizationResult) (payload : Payload) : Payload :=
  setField
    (setField (attachSource "decision-explainer-v1" payload) "selected_action"
      (Json.ofOption (optimization.selectedAction.map (·.text))))
    "reason" (.str optimization.selectionReason)

/-- `DecisionExplanationAgent.run`, for the `n`-th time: either way it explains the selected
action. -/
def explain (llm : LlmSetup) (optimization : OptimizationResult) (n : ℕ) :
    Except Failure (AgentSource × Option RecoveryActionType) := do
  let result ← llm.ask .decisionExplainer (n * llm.settings.llmAttempts)
    (mergeDecision optimization) validateExplanation
  return (result.getD .deterministicFallback, optimization.selectedAction)

/-- The agents of the orchestrator; the strategy is given the diagnosis. -/
def agents (llm : LlmSetup) (buildContext : Store → ℕ → Except Failure Unit) : Agents where
  buildContext := buildContext
  triage _ _ := llm.triage
  diagnosis s caseId := do
    let result ← llm.diagnosis (s.contextFailure caseId)
    return result.source
  strategy s caseId := do
    let failure := s.contextFailure caseId
    let result ← llm.strategy failure (← llm.diagnosis failure)
    return (result.source, result.candidateActions.map (·.text))
  explain _ _ optimization n := llm.explain optimization n

end LlmSetup

end ReviveX
