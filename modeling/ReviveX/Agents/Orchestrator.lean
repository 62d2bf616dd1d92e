import ReviveX.Agents.Optimizer
import ReviveX.Tools.Execution

/-!
# The recovery agents

`RecoveryAgentOrchestrator.run_case`: a fixed sequence of stages, each recorded as an agent
run, that drives a case to the policy check, has the optimizer select an action and executes
the tool of that action. What an agent makes of its context, with or without its LLM, is a
parameter; every step and every tool call counts against a budget.
-/

namespace ReviveX

open Lib (Decimal Json Session Table)

/-- `AgentError(code, message)`. -/
def agentError (code message : String) : Failure := .domain { cls := .agent, code, message }

/-- `AgentSettings`. -/
structure AgentSettings where
  maxAgentSteps : ℤ := 8
  maxToolCalls : ℤ := 12
  maxRepeatedToolCalls : ℤ := 2
  llmMaxRetries : ℤ := 1

/-- Where the output of an agent comes from. -/
inductive AgentSource
  | llm | deterministicFallback
deriving DecidableEq, Repr

/-- `SOURCE_LLM` and `SOURCE_FALLBACK`. -/
def AgentSource.text : AgentSource → String
  | .llm => "LLM"
  | .deterministicFallback => "DETERMINISTIC_FALLBACK"

/-- The agents with their LLM: what each answers in a context built from the store, or the
exception that escapes it. -/
structure Agents where
  /-- `build_agent_context` raises, or the agents are given the store it read. -/
  buildContext : Store → ℕ → Except Failure Unit
  triage : Store → ℕ → Except Failure AgentSource
  diagnosis : Store → ℕ → Except Failure AgentSource
  /-- With the candidate actions it proposes. -/
  strategy : Store → ℕ → Except Failure (AgentSource × List String)
  /-- With the action it explains; the second answer is asked for when the first one is
  about another action. -/
  explain : Store → ℕ → OptimizationResult → ℕ →
    Except Failure (AgentSource × Option RecoveryActionType)

/-- `RecoveryAgentOrchestrator`. -/
structure RecoveryAgentOrchestrator where
  settings : AgentSettings := {}
  agents : Agents
  optimizer : RecoveryOptimizer
  tools : ToolExecutionService
  /-- By how much the clock has moved on from the decision to the execution: each reads it. -/
  elapsed : Time := 0

/-- `OrchestrationResult`. -/
structure OrchestrationResult where
  caseStatus : RecoveryCaseStatus
  optimization : OptimizationResult
  executionStatus : Option ExecutionStatus := none
  approvalId : Option ℕ := none
  stepsUsed : ℤ
  toolCallsUsed : ℤ
  orchestratorRunId : ℕ
  amountRecovered : Money
  fallbacks : List String

/-! ## Records of the runs -/

/-- An audit row of an agent. -/
def agentAudit (now : Time) (merchantId caseId : ℕ) (eventType : AuditEventType)
    (action : Option String := none) : AuditEvent where
  merchantId := merchantId
  caseId := some caseId
  actorType := .agent
  eventType := eventType
  action := action
  createdAt := now

/-- The agents that record runs: the orchestrator and its stages. -/
inductive AgentName
  | orchestrator | triage | diagnosis | strategy | decisionExplainer
deriving DecidableEq, Repr

def AgentName.text : AgentName → String
  | .orchestrator => "orchestrator"
  | .triage => "triage"
  | .diagnosis => "diagnosis"
  | .strategy => "strategy"
  | .decisionExplainer => "decision_explainer"

/-- `start_agent_run`. -/
def startAgentRun (now : Time) (merchantId caseId : ℕ) (agent : AgentName) : Service ℕ := do
  let runId ← Session.modifyGet fun s =>
    (s.agentRuns.nextId,
      { s with
        agentRuns := s.agentRuns.insert
          { merchantId, recoveryCaseId := caseId, agentName := agent.text, startedAt := now } })
  Service.recordAudit (agentAudit now merchantId caseId .agentRunRecorded (some agent.text))
  pure runId

/-- `complete_agent_run`. -/
def completeAgentRun (now : Time) (merchantId caseId runId : ℕ) (agent : AgentName)
    (source : String) (status : AgentRunStatus := .completed)
    (errorMessage : Option String := none) : Service Unit := do
  Session.modify fun s =>
    { s with
      agentRuns := s.agentRuns.modify runId fun run =>
        { run with
          status, errorMessage, source := some source, completedAt := some now } }
  Service.recordAudit (agentAudit now merchantId caseId .agentRunRecorded (some agent.text))

/-- `_persist_stage`: a stage that raises leaves its run unfinished. -/
def persistStage {α : Type} (now : Time) (merchantId caseId : ℕ) (agent : AgentName)
    (source : α → AgentSource) (stage : Except Failure α) : Service α := do
  let runId ← startAgentRun now merchantId caseId agent
  let output ← Session.ofExcept stage
  completeAgentRun now merchantId caseId runId agent (source output).text
  pure output

/-- `add_step`, for the `n`-th step. -/
def addStep (settings : AgentSettings) (n : ℕ) (name : String) : Service Unit :=
  if settings.maxAgentSteps < n then
    Session.raise (agentError "AGENT_STEP_LIMIT"
      s!"Exceeded MAX_AGENT_STEPS={settings.maxAgentSteps} at {name}")
  else pure ()

/-- `add_tool`, for the only tool call of a run. -/
def addTool (settings : AgentSettings) (toolName : String) : Service Unit :=
  if settings.maxToolCalls < 1 then
    Session.raise (agentError "AGENT_TOOL_LIMIT"
      s!"Exceeded MAX_TOOL_CALLS={settings.maxToolCalls}")
  else if settings.maxRepeatedToolCalls < 1 then
    Session.raise (agentError "AGENT_REPEATED_TOOL_LIMIT"
      s!"Tool {toolName} exceeded repeated-call limit")
  else pure ()

/-! ## The case -/

/-- `_STAGE_ORDER`. -/
def stageOrder : List RecoveryCaseStatus :=
  [.detected, .triaged, .investigating, .diagnosed, .scoring, .strategySelected, .policyCheck]

/-- `_already_past` of the orchestrator. -/
def stageAlreadyPast (current target : RecoveryCaseStatus) : Bool :=
  stageOrder.contains current && stageOrder.contains target &&
    decide (stageOrder.idxOf target < stageOrder.idxOf current)

/-- `_advance`. -/
def advance (caller : Caller) (caseId : ℕ) (target : RecoveryCaseStatus) : Service Unit := do
  let c ← readCase caseId
  if c.status = target ∨ stageAlreadyPast c.status target then
    pure ()
  else if [RecoveryCaseStatus.policyCheck, .awaitingApproval, .executing,
      .actionCompleted].contains c.status then
    pure ()
  else
    transitionCase caller caseId target

/-- `_fail_closed`. -/
def failClosed (caller : Caller) (caseId : ℕ) : Service Unit := do
  let c ← readCase caseId
  if c.status = .policyCheck then
    transitionCase caller caseId .escalated
  else
    pure ()

/-! ## Executing the selected action -/

/-- `str(percent or "5")` of the selected discount. -/
def selectedPercent (opt : RecoveryOptimizer) (optimization : OptimizationResult) : String :=
  match (optimization.candidateActions.find? fun item => item.action = .offerDiscount).bind
      (·.discountPercent) with
  | none | some (.finite 0) => "5"
  | some _ => opt.discountPercentText

/-- `_payload_for_action`. -/
def payloadForAction (py : PyText) (opt : RecoveryOptimizer) (optimization : OptimizationResult)
    (now : Time) : RecoveryActionType → Payload
  | .retryLater => [("scheduled_for", .str (py.isoformat (now + hour)))]
  | .offerDiscount => [("discount_percent", .str (selectedPercent opt optimization))]
  | .sendReminder => [("channel", .str "EMAIL"), ("subject", .str "Payment reminder")]
  | .escalate => [("reason", .str "Orchestrator selected ESCALATE")]
  | .doNothing => [("reason", .str "Orchestrator selected DO_NOTHING")]
  | _ => []

/-- The call of `execute` that the orchestrator makes for an action. -/
def selectedExecution (py : PyText) (opt : RecoveryOptimizer) (optimization : OptimizationResult)
    (caseId : ℕ) (c : RecoveryCase) (runId : ℕ) (now : Time) (action : RecoveryActionType) :
    ExecuteArgs where
  caseId := caseId
  toolName := some (toolByAction action).text
  action := some action.text
  payload := payloadForAction py opt optimization now action
  idempotencyKey := s!"agent:{runId}:{action.text}"
  merchantId := some c.merchantId

/-- The caller of the tool service, with the clock of the execution. -/
def RecoveryAgentOrchestrator.executor (orch : RecoveryAgentOrchestrator) (caller : Caller) :
    Caller :=
  { caller with now := caller.now + orch.elapsed }

/-- `_execute_selected`, through the gateway. -/
def executeSelected (rt : Runtime) (orch : RecoveryAgentOrchestrator) (caller : Caller)
    (caseId : ℕ) (c : RecoveryCase) (runId : ℕ) (optimization : OptimizationResult)
    (action : RecoveryActionType) : Service ToolExecutionResult := do
  addTool orch.settings (toolByAction action).text
  let caller := orch.executor caller
  execute rt orch.tools caller
    (selectedExecution rt.py orch.optimizer optimization caseId c runId caller.now action)

/-! ## Stages -/

/-- The actor of the orchestrator's transitions, and of its tool calls. -/
def agentCaller (now : Time) : Caller where
  actorType := .agent
  actorId := some "recovery-orchestrator"
  now := now

/-- The name of a stage whose agent fell back. -/
def fallbackOf (source : AgentSource) (name : String) : List String :=
  if source = .deterministicFallback then [name] else []

/-- The stages up to the decision: its result and the stages that fell back. -/
def decideStages (rt : Runtime) (orch : RecoveryAgentOrchestrator) (caller : Caller)
    (caseId : ℕ) (c : RecoveryCase) : Service (OptimizationResult × List String) := do
  let now := caller.now
  let context ← Session.get
  Session.ofExcept (orch.agents.buildContext context caseId)
  addStep orch.settings 1 "triage"
  let triage ← persistStage now c.merchantId caseId .triage id
    (orch.agents.triage context caseId)
  advance caller caseId .triaged
  addStep orch.settings 2 "diagnosis"
  let diagnosis ← persistStage now c.merchantId caseId .diagnosis id
    (orch.agents.diagnosis context caseId)
  advance caller caseId .investigating
  advance caller caseId .diagnosed
  addStep orch.settings 3 "strategy"
  let (strategy, candidates) ← persistStage now c.merchantId caseId .strategy Prod.fst
    (orch.agents.strategy context caseId)
  addStep orch.settings 4 "optimize"
  let optimization ← optimizeCase orch.optimizer rt.py caller caseId (some candidates)
  advance caller caseId .scoring
  advance caller caseId .strategySelected
  advance caller caseId .policyCheck
  addStep orch.settings 5 "explain"
  let first ← Session.ofExcept (orch.agents.explain context caseId optimization 0)
  let (explainer, _) ← Session.ofExcept <|
    if first.2 = optimization.selectedAction then .ok first
    else orch.agents.explain context caseId optimization 1
  let _ ← persistStage now c.merchantId caseId .decisionExplainer id (.ok explainer)
  pure (optimization,
    fallbackOf triage "triage" ++ fallbackOf diagnosis "diagnosis" ++
      fallbackOf strategy "strategy" ++ fallbackOf explainer "explainer")

/-- The execution of the selected action, when one is asked for and selected. -/
def executeStage (rt : Runtime) (orch : RecoveryAgentOrchestrator) (caller : Caller)
    (execute : Bool) (caseId : ℕ) (c : RecoveryCase) (runId : ℕ)
    (optimization : OptimizationResult) : Service (Option ToolExecutionResult) :=
  match optimization.selectedAction with
  | some action =>
    if execute then do
      addStep orch.settings 6 "execute"
      let result ← executeSelected rt orch caller caseId c runId optimization action
      pure (some result)
    else pure none
  | none => pure none

/-- The body of `run_case` whose agent errors are recorded. -/
def runStages (rt : Runtime) (orch : RecoveryAgentOrchestrator) (caller : Caller)
    (execute : Bool) (caseId : ℕ) (c : RecoveryCase) (runId : ℕ) :
    Service OrchestrationResult := do
  let (optimization, fallbacks) ← decideStages rt orch caller caseId c
  let executed ← executeStage rt orch caller execute caseId c runId optimization
  let after ← readCase caseId
  if after.amountRecovered ≠ c.amountRecovered then
    Session.raise (agentError "AGENT_MUTATED_RECOVERY" "Agents must not write amount_recovered")
  else
    completeAgentRun caller.now c.merchantId caseId runId .orchestrator
      (if fallbacks.isEmpty then "LLM" else "DETERMINISTIC_FALLBACK")
    let toSteps : ℤ := if execute ∧ optimization.selectedAction.isSome then 6 else 5
    pure
      { caseStatus := after.status
        optimization
        executionStatus := executed.map (·.status)
        approvalId := executed.bind (·.approvalId)
        stepsUsed := toSteps
        toolCallsUsed := if executed.isSome then 1 else 0
        orchestratorRunId := runId
        amountRecovered := after.amountRecovered
        fallbacks }

/-- The codes after which a case at the policy check is escalated. -/
def limitCodes : List String :=
  ["AGENT_STEP_LIMIT", "AGENT_TOOL_LIMIT", "AGENT_REPEATED_TOOL_LIMIT"]

/-- What `run_case` does with an `AgentError` before it raises it again. -/
def recordAgentError (caller : Caller) (caseId : ℕ) (c : RecoveryCase) (runId : ℕ) :
    Failure → Service Unit
  | .crash _ => pure ()
  | .domain e =>
    if e.cls = .agent then do
      completeAgentRun caller.now c.merchantId caseId runId .orchestrator
        "DETERMINISTIC_FALLBACK" .failed (some e.message)
      if limitCodes.contains e.code then do
        Service.recordAudit (agentAudit caller.now c.merchantId caseId .agentLimitExceeded)
        failClosed caller caseId
      else pure ()
    else pure ()

/-- `run_case`. -/
def runCase (rt : Runtime) (orch : RecoveryAgentOrchestrator) (now : Time) (execute : Bool)
    (caseId : ℕ) (merchantId : Option ℕ) : Service OrchestrationResult := do
  let c ← lockRecoveryCase caseId
  if merchantId.isSome ∧ merchantId ≠ some c.merchantId then
    Session.raise <| .domain
      { code := "MERCHANT_MISMATCH", message := "Case does not belong to this merchant" }
  else if isTerminal c.status then
    Session.raise (agentError "CASE_TERMINAL" "Terminal cases are not orchestrated")
  else
    let runId ← startAgentRun now c.merchantId caseId .orchestrator
    (runStages rt orch (agentCaller now) execute caseId c runId).onError
      (recordAgentError (agentCaller now) caseId c runId)

end ReviveX
