import ReviveX.Tools.Execution

/-!
# Approvals

`ApprovalService`: a human decides the newest approval of an action. An approved action
re-enters `execute` with the tool and the payload of the action's metadata and with the
action's own idempotency key; a rejected or cancelled one fails the key.

The operator routes name an approval; they pass its case and its action to the service.
-/

namespace ReviveX

open Lib (Json Session Table)

/-- The arguments of `approve_action`, `reject_action` and `cancel_action`. -/
structure DecisionArgs where
  caseId : ℕ
  actionId : ℕ
  merchantId : Option ℕ := none
  reason : Option String := none

/-- `_load_action`. -/
def loadAction (s : Store) (merchantId actionId : ℕ) : Except Failure RecoveryAction :=
  match (s.actions.get? actionId).filter (·.merchantId = merchantId) with
  | some a => .ok a
  | none => .error (toolValidationError "ACTION_NOT_FOUND" "Recovery action was not found")

/-- The newest approval of an action of a case. -/
def Store.newestApproval (s : Store) (caseId actionId : ℕ) : Option ℕ :=
  s.approvals.findLastId? fun a =>
    a.recoveryCaseId = caseId && a.recoveryActionId = some actionId

/-- `_pending_approval`: despite its name it does not look at the status. -/
def pendingApproval (s : Store) (caseId actionId : ℕ) : Except Failure (ℕ × Approval) :=
  match (s.newestApproval caseId actionId).bind fun i => (s.approvals.get? i).map (i, ·) with
  | some found => .ok found
  | none =>
    .error (toolValidationError "APPROVAL_NOT_FOUND" "No approval exists for this action")

/-- What a decision is about. -/
structure Decision where
  args : DecisionArgs
  case : RecoveryCase
  action : RecoveryAction
  approvalId : ℕ
  approval : Approval

/-- The rows that `approve_action` and `reject_action` load. -/
def loadDecision (s : Store) (args : DecisionArgs) : Except Failure Decision := do
  let c ← lockedCase s args.caseId
  assertSameMerchant c args.merchantId
  let action ← loadAction s c.merchantId args.actionId
  let (approvalId, approval) ← pendingApproval s args.caseId args.actionId
  return { args, case := c, action, approvalId, approval }

/-- An audit row of a decision. -/
def auditDecision (caller : Caller) (d : Decision) (eventType : AuditEventType) :
    Service Unit :=
  Service.recordAudit
    (caseAudit caller d.args.caseId d.case eventType d.action.actionType.text)

/-! ## Approving -/

/-- The check of an approval that has just been given a chance to expire. -/
def assertPending (caller : Caller) (d : Decision) : Service Unit :=
  if d.approval.status = .pending ∧ d.approval.isExpired caller.now then do
    Service.modifyApproval d.approvalId fun a => { a with status := .expired }
    Session.raise
      (toolValidationError "APPROVAL_EXPIRED" "Approval has expired and cannot execute")
  else if d.approval.status = .expired then
    Session.raise
      (toolValidationError "APPROVAL_EXPIRED" "Approval has expired and cannot execute")
  else if d.approval.status ≠ .pending then
    Session.raise
      (toolValidationError "APPROVAL_NOT_PENDING" s!"Approval is {d.approval.status.text}")
  else
    pure ()

/-- The statuses of an action that can be approved. -/
def approvableStatuses : List RecoveryActionStatus := [.approvalRequired, .approved, .pending]

/-- The status check of `approve_action`. -/
def assertApprovable (d : Decision) : Service Unit :=
  if approvableStatuses.contains d.action.status then
    pure ()
  else
    Session.raise
      (toolValidationError "ACTION_NOT_APPROVABLE"
        s!"Action in status {d.action.status.text} cannot be approved")

/-- The approval and its action after a human approved. -/
def markApproved (caller : Caller) (d : Decision) : Service Unit := do
  Service.modifyApproval d.approvalId fun a =>
    { a with
      status := .approved, decidedBy := caller.actorId, decidedAt := some caller.now }
  Service.modifyAction d.args.actionId fun a => { a with status := .approved }
  Service.note (.approvalDecided d.approvalId .approved)
  auditDecision caller d .approvalApproved

/-- The call of `execute` that an approval leads to. -/
def approvedExecution (d : Decision) : ExecuteArgs where
  caseId := d.args.caseId
  toolName := d.action.metadata.toolName.map (·.text)
  action := some d.action.actionType.text
  payload := d.action.metadata.payload.getD []
  idempotencyKey := d.action.idempotencyKey
  merchantId := some d.case.merchantId
  existingActionId := some d.args.actionId
  approvalId := some d.approvalId
  approvedExecution := true

/-- `approve_action`. -/
def approveAction (rt : Runtime) (svc : ToolExecutionService) (caller : Caller)
    (args : DecisionArgs) : Service ToolExecutionResult := do
  let s ← Session.get
  let d ← Session.ofExcept (loadDecision s args)
  assertPending caller d
  assertApprovable d
  markApproved caller d
  execute rt svc caller (approvedExecution d)

/-! ## Rejecting -/

/-- `_expire_if_needed`, in `reject_action`, is overwritten by the decision. -/
def markRejected (caller : Caller) (d : Decision) : Service Unit := do
  Service.modifyApproval d.approvalId fun a =>
    { a with
      status := .rejected
      decidedBy := caller.actorId
      decidedAt := some caller.now
      decisionReason := some ((givenText d.args.reason).getD "Rejected by operator") }
  Service.modifyAction d.args.actionId fun a => { a with status := .cancelled }
  Service.note (.approvalDecided d.approvalId .rejected)

/-- A case that waits for the rejected approval is escalated. -/
def escalateRejected (caller : Caller) (d : Decision) : Service Unit :=
  if d.case.status = .awaitingApproval then
    transitionCase caller d.args.caseId .escalated
  else
    pure ()

/-- `reject_action`; it returns the identifier of the approval it decided. -/
def rejectAction (caller : Caller) (args : DecisionArgs) : Service ℕ := do
  let s ← Session.get
  let d ← Session.ofExcept (loadDecision s args)
  markRejected caller d
  Service.modifyKey d.case.merchantId d.action.idempotencyKey
    (·.fail caller.now "APPROVAL_REJECTED")
  auditDecision caller d .approvalRejected
  auditDecision caller d .actionCancelled
  escalateRejected caller d
  pure d.approvalId

/-- `cancel_action`. -/
def cancelAction (caller : Caller) (args : DecisionArgs) : Service ℕ :=
  rejectAction caller
    { args with
      reason := some ((givenText args.reason).getD "Cancelled by merchant operator") }

/-! ## Operator routes -/

/-- `_load_approval`, with the arguments that the routes pass on. -/
def decisionOnApproval (s : Store) (approvalId : ℕ) (merchantId : Option ℕ)
    (reason : Option String) : Except Failure DecisionArgs :=
  match s.approvals.get? approvalId with
  | none =>
    .error (.domain { code := "APPROVAL_NOT_FOUND", message := "Approval was not found" })
  | some approval =>
    match approval.recoveryActionId with
    | none =>
      .error (.domain { code := "ACTION_NOT_FOUND", message := "Approval has no recovery action" })
    | some actionId =>
      .ok
        { caseId := approval.recoveryCaseId
          actionId
          merchantId := merchantId.or (some approval.merchantId)
          reason }

/-- `approve_from_queue`. -/
def approveFromQueue (rt : Runtime) (svc : ToolExecutionService) (caller : Caller)
    (approvalId : ℕ) (merchantId : Option ℕ) : Service ToolExecutionResult := do
  let s ← Session.get
  let args ← Session.ofExcept (decisionOnApproval s approvalId merchantId none)
  approveAction rt svc caller args

/-- `reject_from_queue`. -/
def rejectFromQueue (caller : Caller) (approvalId : ℕ) (merchantId : Option ℕ)
    (reason : Option String) : Service ℕ := do
  let s ← Session.get
  let args ← Session.ofExcept (decisionOnApproval s approvalId merchantId reason)
  rejectAction caller args

/-- `cancel_from_queue`. -/
def cancelFromQueue (caller : Caller) (approvalId : ℕ) (merchantId : Option ℕ)
    (reason : Option String) : Service ℕ := do
  let s ← Session.get
  let args ← Session.ofExcept (decisionOnApproval s approvalId merchantId reason)
  cancelAction caller args

end ReviveX
