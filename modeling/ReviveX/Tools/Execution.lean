import ReviveX.Tools.Handlers
import ReviveX.Tools.Idempotency

/-!
# Tool execution

`ToolExecutionService.execute`, the only way to a handler:

1. `admitRequest` resolves the tool, validates the input and checks the case;
2. the idempotency key is taken, or a stored result is replayed;
3. `runAfterIdempotency` asks the policy engine and takes one of four branches: refuse the
   case state, block the action, park it for approval, or run the handler;
4. the key and the tool call are completed, or failed when a `DomainError` was raised.
-/

namespace ReviveX

open Lib (Decimal Json Session Table)

/-! ## Admission -/

/-- The arguments of `execute`. -/
structure ExecuteArgs where
  caseId : ℕ
  toolName : Option String := none
  action : Option String := none
  payload : Payload := []
  idempotencyKey : String
  merchantId : Option ℕ := none
  grantedPermissions : Option (List String) := none
  existingActionId : Option ℕ := none
  approvalId : Option ℕ := none
  approvedExecution : Bool := false

/-- What `execute` knows of a request before it takes the key. -/
structure ToolRequest where
  args : ExecuteArgs
  tool : ToolName
  input : Payload
  /-- The case row as it was locked. -/
  case : RecoveryCase
  customer : Option (ℕ × Customer)
  payment : Option (ℕ × Payment)
  requestHash : ℕ

/-- `_resolve_tool`. -/
def resolveTool (toolName action : Option String) : Except Failure ToolName :=
  match givenText toolName, givenText action with
  | some name, _ =>
    (ToolName.ofText? name).elim
      (.error (toolValidationError "UNKNOWN_TOOL" s!"Tool {name} is not registered")) .ok
  | none, some action =>
    match RecoveryActionType.ofText? action with
    | some parsed => .ok (toolByAction parsed)
    | none => .error (toolValidationError "UNKNOWN_ACTION" s!"Action {action} is not valid")
  | none, none =>
    .error (toolValidationError "UNKNOWN_TOOL"
      "A registered tool or closed action type is required")

/-- The row that `lock_recovery_case` returns. -/
def lockedCase (s : Store) (caseId : ℕ) : Except Failure RecoveryCase :=
  ((lockRecoveryCase caseId).run s).1

/-- The merchant check of every service. -/
def assertSameMerchant (c : RecoveryCase) (merchantId : Option ℕ) : Except Failure Unit :=
  if merchantId.isSome ∧ merchantId ≠ some c.merchantId then
    .error (toolValidationError "MERCHANT_MISMATCH" "Case does not belong to the given merchant")
  else .ok ()

/-- `_assert_merchant`. -/
def assertMerchant (s : Store) (c : RecoveryCase) (merchantId : Option ℕ) :
    Except Failure Unit := do
  assertSameMerchant c merchantId
  if (s.merchants.get? c.merchantId).isNone then
    throw (toolValidationError "MISSING_MERCHANT" "Merchant was not found")

/-- The permission check of `execute`. -/
def assertPermission (tool : ToolName) (granted : Option (List String)) :
    Except Failure Unit :=
  let required := tool.spec.requiredPermission.text
  match granted with
  | none => .ok ()
  | some allowed =>
    if allowed.contains required then .ok ()
    else .error (toolValidationError "PERMISSION_DENIED"
      s!"Permission {required} is required for {tool.text}")

/-- The terminal check of `execute`. -/
def assertOpen (c : RecoveryCase) : Except Failure Unit :=
  if isTerminal c.status then
    .error (toolValidationError "CASE_TERMINAL"
      "Tools cannot run on a terminal recovery case and cannot bypass verification")
  else .ok ()

/-- The document whose hash identifies a request: it does not name the case. -/
def hashPayload (tool : ToolName) (action : Option String) (input : Payload) : Payload :=
  [("tool_name", .str tool.text),
    ("action", .str (((actionForTool tool).map (·.text)).getD
      ((givenText action).getD tool.text))),
    ("input", .obj input)]

/-- `execute` up to the idempotency key. -/
def admitRequest (rt : Runtime) (s : Store) (args : ExecuteArgs) : Except Failure ToolRequest := do
  let tool ← resolveTool args.toolName args.action
  let input ← validateInput rt tool args.payload
  let c ← lockedCase s args.caseId
  assertMerchant s c args.merchantId
  assertPermission tool args.grantedPermissions
  assertOpen c
  return {
    args, tool, input
    case := c
    customer := (s.customers.get? c.customerId).map (c.customerId, ·)
    payment := c.paymentId.bind fun i => (s.payments.get? i).map (i, ·)
    requestHash := canonicalRequestHash rt (hashPayload tool args.action input) }

/-! ## Verdicts -/

/-- `_proposed_from_payload`. -/
def proposedFromPayload (rt : Runtime) (action : RecoveryActionType) (input : Payload) :
    Except Failure ProposedAction :=
  match Json.get? input "discount_percent" with
  | none | some .null => .ok { actionType := action.text }
  | some raw =>
    match rt.py.decimal (rt.py.str raw) with
    | some percent => .ok { actionType := action.text, discountPercent := some percent }
    | none => .error (.crash "InvalidOperation")

/-- A verdict with the context it was given in. -/
structure ToolVerdict where
  ctx : PolicyContext
  evaluation : PolicyEvaluationResult

/-- The verdict on a tool that is no action. -/
def readOnlyEvaluation (ctx : PolicyContext) : PolicyEvaluationResult where
  allowed := true
  requiresApproval := false
  riskLevel := .green
  reason := "Read-only tool"
  policyIds := ["read_only"]
  policyVersion := ctx.settings.policyVersion

/-- The verdict of `_run_after_idempotency`. -/
def judgeTool (rt : Runtime) (svc : ToolExecutionService) (now : Time) (s : Store)
    (request : ToolRequest) : Except Failure ToolVerdict :=
  let context := buildPolicyContext { settings := svc.settings, py := rt.py } s
    request.args.caseId request.case now
  match actionForTool request.tool with
  | some action => do
    let proposed ← proposedFromPayload rt action request.input
    let ctx ← context
    let evaluation ← evaluateAction ctx proposed
    return { ctx, evaluation }
  | none => do
    let ctx ← context
    return { ctx, evaluation := readOnlyEvaluation ctx }

/-- The verdict on an action is stored. -/
def persistVerdict (caller : Caller) (request : ToolRequest) (verdict : ToolVerdict) :
    Service Unit :=
  match actionForTool request.tool with
  | some action =>
    persistPolicyEvaluation caller request.args.caseId verdict.ctx
      { actionType := action.text } verdict.evaluation
  | none => pure ()

/-- `SIDE_EFFECT_EXECUTE_STATES`. -/
def sideEffectExecuteStates : List RecoveryCaseStatus :=
  [.policyCheck, .awaitingApproval, .executing, .actionCompleted, .retryScheduled,
    .notRecovered, .failed]

/-- The ways `_run_after_idempotency` goes on from a verdict. -/
inductive ToolBranch
  | invalidState
  | blocked (action : RecoveryActionType)
  | approval (action : RecoveryActionType)
  | run
deriving DecidableEq

def toolBranch (request : ToolRequest) (evaluation : PolicyEvaluationResult) : ToolBranch :=
  if request.tool.spec.sideEffect && !sideEffectExecuteStates.contains request.case.status then
    .invalidState
  else match actionForTool request.tool with
    | none => .run
    | some action =>
      if !evaluation.allowed then .blocked action
      else if evaluation.requiresApproval && !request.args.approvedExecution then
        .approval action
      else .run

/-! ## Action rows -/

/-- `dict.update` on the metadata of an action. -/
def ActionMetadata.update (m other : ActionMetadata) : ActionMetadata where
  executed := other.executed.or m.executed
  toolName := other.toolName.or m.toolName
  payload := other.payload.or m.payload
  approvalId := other.approvalId.or m.approvalId
  caseVersion := other.caseVersion.or m.caseVersion
  caseFingerprint := other.caseFingerprint.or m.caseFingerprint
  idempotencyKey := other.idempotencyKey.or m.idempotencyKey
  newPaymentId := other.newPaymentId.or m.newPaymentId
  scheduledFor := other.scheduledFor.or m.scheduledFor
  discountPercent := other.discountPercent.or m.discountPercent

/-- What `_upsert_action` is asked to write. -/
structure ActionWrite where
  status : RecoveryActionStatus
  riskLevel : RiskLevel
  errorCode : Option String := none
  errorMessage : Option String := none
  metadata : Option ActionMetadata := none

/-- `_upsert_action` on a row that exists: its case, merchant, type and key stay. -/
def ActionWrite.onto (w : ActionWrite) (a : RecoveryAction) : RecoveryAction :=
  { a with
    status := w.status
    errorCode := w.errorCode
    errorMessage := w.errorMessage
    riskLevel := w.riskLevel
    metadata := w.metadata.elim a.metadata a.metadata.update }

/-- The row that `_upsert_action` finds: of any case under its identifier, else of the
merchant under the key. -/
def Store.existingAction (s : Store) (merchantId : ℕ) (key : String)
    (existingActionId : Option ℕ) : Option ℕ :=
  (existingActionId.filter fun i => (s.actions.get? i).isSome).or (s.actionIdOfKey merchantId key)

/-- `_next_action_attempt`. -/
def Store.nextActionAttempt (s : Store) (caseId : ℕ) (actionType : RecoveryActionType) : ℕ :=
  let numbers := (s.actions.rows.filter fun a =>
    a.recoveryCaseId = caseId && a.actionType = actionType).map (·.attemptNumber)
  numbers.max?.getD 0 + 1

/-- The row that `_upsert_action` inserts when there is none. -/
def ActionWrite.newRow (w : ActionWrite) (s : Store) (request : ToolRequest)
    (actionType : RecoveryActionType) (now : Time) : RecoveryAction where
  merchantId := request.case.merchantId
  recoveryCaseId := request.args.caseId
  actionType := actionType
  status := w.status
  idempotencyKey := request.args.idempotencyKey
  attemptNumber := s.nextActionAttempt request.args.caseId actionType
  riskLevel := w.riskLevel
  amount := some request.case.amountAtRisk
  currency := request.case.currency
  errorCode := w.errorCode
  errorMessage := w.errorMessage
  metadata := w.metadata.getD { executed := some false }
  createdAt := now

/-- An audit row of the request. -/
def auditRequest (caller : Caller) (request : ToolRequest) (eventType : AuditEventType)
    (action : String) : Service Unit :=
  Service.recordAudit (caseAudit caller request.args.caseId request.case eventType action)

/-- `_upsert_action`. -/
def upsertAction (caller : Caller) (request : ToolRequest) (actionType : RecoveryActionType)
    (w : ActionWrite) : Service ℕ := do
  let s ← Session.get
  match s.existingAction request.case.merchantId request.args.idempotencyKey
      request.args.existingActionId with
  | some actionId =>
    Service.modifyAction actionId w.onto
    pure actionId
  | none =>
    let actionId ← Service.insertAction (w.newRow s request actionType caller.now)
    auditRequest { caller with actorType := .system } request .actionPlanned actionType.text
    pure actionId

/-! ## Blocking and parking -/

/-- What a denied action is written with. -/
def blockingWrite (evaluation : PolicyEvaluationResult) : ActionWrite where
  status := .blocked
  riskLevel := evaluation.riskLevel
  errorCode := some "POLICY_DENIED"
  errorMessage := some evaluation.reason

/-- The branch of a denied action. -/
def blockAction (caller : Caller) (request : ToolRequest) (action : RecoveryActionType)
    (evaluation : PolicyEvaluationResult) : Service ToolExecutionResult := do
  let actionId ← upsertAction caller request action (blockingWrite evaluation)
  auditRequest caller request .actionBlocked action.text
  pure
    { status := .blocked
      toolName := request.tool
      allowed := false
      requiresApproval := false
      reason := evaluation.reason
      actionId := some actionId
      policyVersion := some evaluation.policyVersion
      riskLevel := some evaluation.riskLevel
      output := some [] }

/-- The metadata an action carries from its request on. -/
def requestMetadata (request : ToolRequest) : ActionMetadata where
  payload := some request.input
  toolName := some request.tool
  executed := some false

/-- What an action that waits for its approval is written with. -/
def parkingWrite (request : ToolRequest) (riskLevel : RiskLevel) : ActionWrite where
  status := .approvalRequired
  riskLevel := riskLevel
  metadata := some (requestMetadata request)

/-- What an action is written with before its handler runs. -/
def startingWrite (request : ToolRequest) (riskLevel : RiskLevel) : ActionWrite where
  status := .executing
  riskLevel := riskLevel
  metadata := some (requestMetadata request)

/-- The metadata that `_create_approval` writes. -/
def approvalMetadata (request : ToolRequest) (approvalId : ℕ) : ActionMetadata where
  approvalId := some approvalId
  caseVersion := some request.case.version
  caseFingerprint := some request.case.fingerprint
  toolName := some request.tool
  payload := some request.input
  idempotencyKey := some request.args.idempotencyKey

/-- The approval row of a parked action. -/
def requestedApproval (caller : Caller) (request : ToolRequest) (actionId : ℕ)
    (ttlMinutes : ℤ) : Approval where
  merchantId := request.case.merchantId
  recoveryCaseId := request.args.caseId
  recoveryActionId := some actionId
  requestedBy := caller.actorId
  expiresAt := some (caller.now + ttlMinutes * 60000000)

/-- `_create_approval`. -/
def createApproval (caller : Caller) (request : ToolRequest) (actionId : ℕ)
    (ttlMinutes : ℤ) : Service ℕ := do
  let approvalId ← Service.insertApproval (requestedApproval caller request actionId ttlMinutes)
  Service.modifyAction actionId fun a =>
    { a with metadata := a.metadata.update (approvalMetadata request approvalId) }
  Service.note <| .approvalRequested approvalId request.args.caseId actionId
    request.case.fingerprint (some request.tool) request.input
  pure approvalId

/-- A case at the policy check waits for the approval. -/
def awaitApproval (caller : Caller) (request : ToolRequest) : Service Unit :=
  if request.case.status = .policyCheck then
    transitionCase caller request.args.caseId .awaitingApproval
  else
    pure ()

/-- The branch of an action that needs an approval. -/
def requestApproval (caller : Caller) (request : ToolRequest) (action : RecoveryActionType)
    (verdict : ToolVerdict) : Service ToolExecutionResult := do
  let actionId ← upsertAction caller request action
    (parkingWrite request verdict.evaluation.riskLevel)
  let approvalId ← createApproval caller request actionId
    verdict.ctx.settings.approvalTtlMinutes
  awaitApproval caller request
  auditRequest caller request .approvalRequested action.text
  pure
    { status := .approvalRequired
      toolName := request.tool
      allowed := true
      requiresApproval := true
      reason := verdict.evaluation.reason
      actionId := some actionId
      approvalId := some approvalId
      policyVersion := some verdict.evaluation.policyVersion
      riskLevel := some verdict.evaluation.riskLevel
      output := some [("approval_id", .str (toString approvalId))] }

/-! ## Running the handler -/

/-- `approval.expires_at is not None and approval.expires_at <= now`. -/
def Approval.isExpired (a : Approval) (now : Time) : Bool :=
  a.expiresAt.any fun expiresAt => decide (expiresAt ≤ now)

/-- The fingerprint in the action's metadata is not the one of the case. -/
def isStale (s : Store) (c : RecoveryCase) (actionId : Option ℕ) : Bool :=
  (actionId.bind s.actions.get?).any fun a =>
    a.metadata.caseFingerprint.any fun fingerprint => fingerprint != c.fingerprint

/-- `_assert_usable_approval`. -/
def assertUsableApproval (now : Time) (request : ToolRequest) : Service Unit := do
  let s ← Session.get
  match request.args.approvalId with
  | none =>
    Session.raise
      (toolValidationError "APPROVAL_REQUIRED" "Approved execution requires an approval id")
  | some approvalId =>
    match (s.approvals.get? approvalId).filter (·.recoveryCaseId = request.args.caseId) with
    | none =>
      Session.raise
        (toolValidationError "APPROVAL_NOT_FOUND" "Approval was not found for this case")
    | some approval =>
      if approval.status ≠ .approved then
        Session.raise
          (toolValidationError "APPROVAL_NOT_APPROVED" "Approval is not in APPROVED status")
      else if approval.isExpired now then
        Service.modifyApproval approvalId fun a => { a with status := .expired }
        Session.raise
          (toolValidationError "APPROVAL_EXPIRED" "Approval has expired and cannot execute")
      else if isStale s request.case request.args.existingActionId then
        Session.raise
          (toolValidationError "STALE_APPROVAL"
            "The recovery case changed materially after approval was requested")
      else
        pure ()

/-- An approved execution checks its approval. -/
def checkApproval (now : Time) (request : ToolRequest) : Service Unit :=
  if request.args.approvedExecution then assertUsableApproval now request else pure ()

/-- The tools that do not move the case to `EXECUTING`. -/
def staysInPlace (tool : ToolName) : Bool :=
  [ToolName.scheduleRetry, .escalateToHuman, .pauseRecovery].contains tool

/-- The case starts executing. -/
def beginExecuting (caller : Caller) (request : ToolRequest) : Service Unit :=
  if !staysInPlace request.tool ∧
      (request.case.status = .policyCheck ∨ request.case.status = .awaitingApproval) then
    transitionCase caller request.args.caseId .executing
  else
    pure ()

/-- The action of a side effect is written before its handler runs. -/
def startAction (caller : Caller) (request : ToolRequest) (riskLevel : RiskLevel) :
    Service (Option ℕ) := do
  match actionForTool request.tool with
  | none => pure none
  | some action =>
    let actionId ← upsertAction caller request action (startingWrite request riskLevel)
    beginExecuting caller request
    auditRequest caller request .actionStarted action.text
    pure (some actionId)

/-- The history entry of a handler. -/
def handlerCall (request : ToolRequest) (ctx : PolicyContext) (actionId : Option ℕ)
    (s : Store) (c : RecoveryCase) (now : Time) : HandlerCall where
  merchantId := request.case.merchantId
  caseId := request.args.caseId
  idempotencyKey := request.args.idempotencyKey
  requestHash := request.requestHash
  toolName := request.tool
  payload := request.input
  actionId := actionId
  approvalId := if request.args.approvedExecution then request.args.approvalId else none
  highValueApprovalThreshold := ctx.settings.highValueApprovalThreshold
  mediumValueApprovalThreshold := ctx.settings.mediumValueApprovalThreshold
  case := c
  approvals := s.approvals
  now := now

/-- A successful handler is noted. -/
def noteSuccess (call : HandlerCall) (handled : HandlerResult) : Service Unit :=
  if handled.success then
    Service.note (.handlerSucceeded call handled.amount handled.metadata.newPaymentId)
  else pure ()

/-- `handler_ctx`. -/
def handlerContext (request : ToolRequest) (c : RecoveryCase) (actionId : Option ℕ)
    (s : Store) : HandlerContext where
  caseId := request.args.caseId
  case := c
  customer := request.customer
  payment := request.payment
  payload := request.input
  attemptNumber := ((actionId.bind s.actions.get?).map (·.attemptNumber)).getD 1
  idempotencyKey := request.args.idempotencyKey

/-- `handler(handler_ctx)`. -/
def callHandler (rt : Runtime) (svc : ToolExecutionService) (caller : Caller)
    (request : ToolRequest) (policy : PolicyContext) (actionId : Option ℕ) :
    Service HandlerResult := do
  let c ← readCase request.args.caseId
  let s ← Session.get
  let call := handlerCall request policy actionId s c caller.now
  Service.note (.handlerCalled call)
  let handled ← handlers rt svc caller.now (handlerContext request c actionId s) request.tool
  noteSuccess call handled
  pure handled

/-- The action row after its handler. -/
def RecoveryAction.record (a : RecoveryAction) (handled : HandlerResult) (now : Time) :
    RecoveryAction :=
  let merged := a.metadata.update handled.metadata
  let executed := merged.executed.getD handled.success
  { a with
    provider := handled.provider
    providerReference := handled.providerReference
    amount := handled.amount.or a.amount
    metadata := { merged with executed := some executed }
    executedAt := if executed then some now else a.executedAt
    status := if handled.success then .succeeded else .failed
    errorCode := if handled.success then none else handled.errorCode
    errorMessage := if handled.success then none else handled.errorMessage
    scheduledFor := handled.metadata.scheduledFor.or a.scheduledFor }

/-- The result of the handler is written on the action. -/
def recordAction (now : Time) (actionId : Option ℕ) (handled : HandlerResult) : Service Unit :=
  match actionId with
  | none => pure ()
  | some actionId => Service.modifyAction actionId (·.record handled now)

/-- The name of the action in the audit of a tool. -/
def auditName (tool : ToolName) : String :=
  ((actionForTool tool).map (·.text)).getD tool.text

/-- The end of a run whose handler succeeded. -/
def reportSuccess (caller : Caller) (request : ToolRequest)
    (evaluation : PolicyEvaluationResult) (actionId : Option ℕ) (handled : HandlerResult) :
    Service ToolExecutionResult := do
  applyCaseOutcome caller request.args.caseId handled.caseStatus
  if request.tool.spec.sideEffect then
    auditRequest caller request .actionSucceeded (auditName request.tool)
  else
    pure ()
  pure
    { status := .succeeded
      toolName := request.tool
      allowed := true
      requiresApproval := false
      reason := evaluation.reason
      actionId := actionId
      approvalId := request.args.approvalId
      provider := handled.provider
      providerReference := handled.providerReference
      simulated := handled.simulated
      policyVersion := some evaluation.policyVersion
      output := some handled.output
      riskLevel := some evaluation.riskLevel }

/-- A case whose side effect failed while it was executing has failed. -/
def failCase (caller : Caller) (request : ToolRequest) : Service Unit := do
  let c ← readCase request.args.caseId
  if request.tool.spec.sideEffect ∧ c.status = .executing then
    transitionCase caller request.args.caseId .failed
  else
    pure ()

/-- The end of a run whose handler failed. -/
def reportFailure (caller : Caller) (request : ToolRequest)
    (evaluation : PolicyEvaluationResult) (actionId : Option ℕ) (handled : HandlerResult) :
    Service ToolExecutionResult := do
  failCase caller request
  auditRequest caller request .actionFailed (auditName request.tool)
  pure
    { status := .failed
      toolName := request.tool
      allowed := true
      requiresApproval := false
      reason := (givenText handled.errorMessage).getD "Tool failed"
      actionId := actionId
      provider := handled.provider
      policyVersion := some evaluation.policyVersion
      output := some handled.output
      riskLevel := some evaluation.riskLevel }

/-- The branch of a tool that may run. -/
def runTool (rt : Runtime) (svc : ToolExecutionService) (caller : Caller)
    (request : ToolRequest) (verdict : ToolVerdict) : Service ToolExecutionResult := do
  checkApproval caller.now request
  let actionId ← startAction caller request verdict.evaluation.riskLevel
  let handled ← callHandler rt svc caller request verdict.ctx actionId
  recordAction caller.now actionId handled
  if handled.success then
    reportSuccess caller request verdict.evaluation actionId handled
  else
    reportFailure caller request verdict.evaluation actionId handled

/-- `_run_after_idempotency`. -/
def runAfterIdempotency (rt : Runtime) (svc : ToolExecutionService) (caller : Caller)
    (request : ToolRequest) : Service ToolExecutionResult := do
  let s ← Session.get
  let verdict ← Session.ofExcept (judgeTool rt svc caller.now s request)
  persistVerdict caller request verdict
  match toolBranch request verdict.evaluation with
  | .invalidState =>
    Session.raise
      (toolValidationError "INVALID_CASE_STATE"
        s!"Cannot execute {request.tool.text} while the case is {request.case.status.text}")
  | .blocked action => blockAction caller request action verdict.evaluation
  | .approval action => requestApproval caller request action verdict
  | .run => runTool rt svc caller request verdict

/-! ## The service -/

/-- `_tool_call_status`. -/
def toolCallStatus : ExecutionStatus → ToolCallStatus
  | .succeeded => .success
  | .failed => .failed
  | .blocked => .blocked
  | .approvalRequired => .approvalRequired

/-- `_finish_tool_call` after a result. -/
def ToolCall.finish (call : ToolCall) (result : ToolExecutionResult) : ToolCall :=
  { call with
    status := toolCallStatus result.status
    errorCode := if result.status = .failed then some "TOOL_FAILED" else none
    errorMessage := if result.status = .failed then some result.reason else none }

/-- The key after a result: an action that waits for its approval keeps it in progress. -/
def IdempotencyKey.finish (row : IdempotencyKey) (now : Time) (result : ToolExecutionResult)
    (toolCallId : ℕ) : IdempotencyKey :=
  if result.status = .approvalRequired then { row with result := some result }
  else row.complete now result (result.actionId.getD toolCallId)

/-- The key and the tool call after a `DomainError`. -/
def recordFailure (caller : Caller) (request : ToolRequest) (toolCallId : ℕ) :
    Failure → Service Unit
  | .crash _ => pure ()
  | .domain e =>
    if e.cls = .idempotencyConflict then pure ()
    else do
      Service.modifyKey request.case.merchantId request.args.idempotencyKey
        (·.fail caller.now e.code)
      Service.modifyToolCall toolCallId fun call =>
        { call with
          status := .failed, errorCode := some e.code, errorMessage := some e.message }

/-- `execute` once the key is taken. -/
def executeRequest (rt : Runtime) (svc : ToolExecutionService) (caller : Caller)
    (request : ToolRequest) : Service ToolExecutionResult := do
  let toolCallId ← Service.insertToolCall
    { merchantId := request.case.merchantId
      recoveryCaseId := request.args.caseId
      toolName := request.tool
      status := .pending
      idempotencyKey := request.args.idempotencyKey }
  let result ← (runAfterIdempotency rt svc caller request).onError
    (recordFailure caller request toolCallId)
  Service.modifyKey request.case.merchantId request.args.idempotencyKey
    (·.finish caller.now result toolCallId)
  Service.modifyToolCall toolCallId (·.finish result)
  pure
    { result with
      toolCallId := some toolCallId, idempotencyKey := some request.args.idempotencyKey }

/-- The error of a request whose key another execution holds. -/
def idempotencyInProgressError : Failure :=
  .domain
    { code := "IDEMPOTENCY_IN_PROGRESS"
      message := "A matching side-effecting request is already executing"
      retryable := true }

/-- What `execute` does with the key. -/
def resumeRequest (rt : Runtime) (svc : ToolExecutionService) (caller : Caller)
    (request : ToolRequest) (idem : IdempotencyOutcome) : Service ToolExecutionResult :=
  if idem.replay then
    match idem.record.replayDecision request.args.approvedExecution with
    | .replay result => pure result
    | .busy => Session.raise idempotencyInProgressError
    | .proceed => executeRequest rt svc caller request
  else
    executeRequest rt svc caller request

/-- `ToolExecutionService.execute`. -/
def execute (rt : Runtime) (svc : ToolExecutionService) (caller : Caller)
    (args : ExecuteArgs) : Service ToolExecutionResult := do
  let s ← Session.get
  let request ← Session.ofExcept (admitRequest rt s args)
  let idem ← beginIdempotentOperation caller.now request.case.merchantId args.idempotencyKey
    request.tool request.requestHash
  resumeRequest rt svc caller request idem

end ReviveX
