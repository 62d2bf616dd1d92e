import ReviveX.Domain.ClockTheorems
import ReviveX.Tools.ReplayTheorems
import ReviveX.Tools.RowTheorems

/-!
# From the parked action to its handler

`approve_action` evaluates the policy of a parked action again, on a store that holds the
parked row. `Parked` says what a parked action leaves in the store, whoever parked it;
`CountsLeaveRoom` what the limits must leave it when the row itself is counted. Then the
handler of the parked tool is reached.
-/

namespace ReviveX

open Lib (Decimal Session Table)

variable {rt : Runtime} {svc : ToolExecutionService} {caller : Caller} {now : Time}
  {s s' s'' : Store} {args : DecisionArgs} {caseId actionId : ℕ} {c : RecoveryCase}

/-! ## Aggregates -/

/-- Granting an approval rewrites a row that waits for it. -/
def RecoveryAction.approve (a : RecoveryAction) : RecoveryAction :=
  if a.status = .approvalRequired then { a with status := .approved } else a

theorem approve_eq {a : RecoveryAction} (h : a.status = .approvalRequired) :
    a.approve = { a with status := .approved } := if_pos h

/-- An approved row is counted where a waiting row is. -/
theorem retryCount_approve {row : RecoveryAction} (h : s.actions.get? actionId = some row)
    (hstatus : row.status = .approvalRequired)
    (hactions : s'.actions =
      s.actions.modify actionId fun a => { a with status := .approved }) :
    s'.retryCount caseId = s.retryCount caseId := by
  have hrows : s'.actions = s.actions.modify actionId RecoveryAction.approve := by
    rw [hactions]
    exact Table.modify_congr h (approve_eq hstatus).symm
  unfold Store.retryCount
  rw [hrows]
  refine Table.count_modify _ _ fun a => ?_
  unfold RecoveryAction.approve
  split
  · rename_i hwaits
    rw [hwaits]
    rfl
  · rfl

theorem discountSpentToday_approve {row : RecoveryAction} {m : ℕ}
    (h : s.actions.get? actionId = some row) (hstatus : row.status = .approvalRequired)
    (hactions : s'.actions =
      s.actions.modify actionId fun a => { a with status := .approved }) :
    s'.discountSpentToday m now = s.discountSpentToday m now := by
  have hrows : s'.actions = s.actions.modify actionId RecoveryAction.approve := by
    rw [hactions]
    exact Table.modify_congr h (approve_eq hstatus).symm
  unfold Store.discountSpentToday
  rw [hrows]
  refine Table.sumWhere_modify _ _ (fun a => ?_) fun a => ?_
  · unfold RecoveryAction.approve
    split
    · rename_i hwaits
      rw [hwaits]
      rfl
    · rfl
  · unfold RecoveryAction.approve
    split <;> rfl

/-! ## Parked actions -/

/-- An action that waits for its approval, with the request that it records. -/
structure ParkedAction where
  case : RecoveryCase
  row : RecoveryAction
  approvalId : ℕ
  approval : Approval
  tool : ToolName
  action : RecoveryActionType
  input : Payload
  proposed : ProposedAction

/-- What parking an action at a time leaves in the store. -/
structure Parked (rt : Runtime) (svc : ToolExecutionService) (parkedAt : Time) (s : Store)
    (caseId actionId : ℕ) (p : ParkedAction) : Prop where
  caseRow : s.cases.get? caseId = some p.case
  executable : sideEffectExecuteStates.contains p.case.status = true
  row : s.actions.get? actionId = some p.row
  waits : p.row.status = .approvalRequired
  toolName : p.row.metadata.toolName = some p.tool
  validated : validateInput rt p.tool (p.row.metadata.payload.getD []) = .ok p.input
  fingerprint : p.row.metadata.caseFingerprint = some p.case.fingerprint
  tool : p.tool = toolByAction p.action
  proposed : proposedFromPayload rt p.action p.input = .ok p.proposed
  newest : s.newestApproval caseId actionId = some p.approvalId
  approval : s.approvals.get? p.approvalId = some p.approval
  pending : p.approval.status = .pending
  approvalCase : p.approval.recoveryCaseId = caseId
  /-- The policy engine allowed the action, on a store that differs in the tables of the tool
  layer and in the lifecycle columns of the case. -/
  judged : ∃ s₀ c₀ ctx evaluation, s.merchants = s₀.merchants ∧ s.customers = s₀.customers ∧
    s.notifications = s₀.notifications ∧ c₀.LifecycleOnly p.case ∧
    buildPolicyContext { settings := svc.settings, py := rt.py } s₀ caseId c₀ parkedAt =
      .ok ctx ∧
    evaluateAction ctx p.proposed = .ok evaluation ∧ evaluation.allowed = true

/-- The decision that a human takes about a parked action. -/
def ParkedAction.decision (p : ParkedAction) (args : DecisionArgs) : Decision where
  args := args
  case := p.case
  action := p.row
  approvalId := p.approvalId
  approval := p.approval

/-- The request that the approval leads to. -/
def ParkedAction.request (p : ParkedAction) (rt : Runtime) (s : Store) (args : DecisionArgs) :
    ToolRequest where
  args := approvedExecution (p.decision args)
  tool := p.tool
  input := p.input
  case := p.case
  customer := (s.customers.get? p.case.customerId).map (p.case.customerId, ·)
  payment := p.case.paymentId.bind fun i => (s.payments.get? i).map (i, ·)
  requestHash := canonicalRequestHash rt
    (hashPayload p.tool (some p.row.actionType.text) p.input)

/-- The action is the merchant's own, and its key is free or held by its own request. -/
structure ApprovableBy (rt : Runtime) (s : Store) (args : DecisionArgs) (p : ParkedAction) :
    Prop where
  merchant : args.merchantId = none ∨ args.merchantId = some p.case.merchantId
  owner : p.row.merchantId = p.case.merchantId
  key : ∀ row, s.idempotencyKey? p.case.merchantId p.row.idempotencyKey = some row →
    row.requestHash = canonicalRequestHash rt (hashPayload p.tool none p.input) ∧
      row.replayDecision true = .proceed

/-- The limits have room for the action in the store that holds its row. -/
def CountsLeaveRoom (rt : Runtime) (svc : ToolExecutionService) (now : Time) (s : Store)
    (caseId : ℕ) (p : ParkedAction) : Prop :=
  ∀ ctx, buildPolicyContext { settings := svc.settings, py := rt.py } s caseId p.case now =
    .ok ctx → HasRoom ctx p.action p.proposed

/-! ## Judging the parked action again -/

/-- The policy context of the case at a later time. -/
theorem buildPolicyContext_later {cfg : Config} {s₀ : Store} {c₀ c : RecoveryCase}
    {ctx : PolicyContext} {now' : Time} (hlater : now ≤ now')
    (hmerchants : s.merchants = s₀.merchants) (hcustomers : s.customers = s₀.customers)
    (hnotifications : s.notifications = s₀.notifications) (hlife : c₀.LifecycleOnly c)
    (h : buildPolicyContext cfg s₀ caseId c₀ now = .ok ctx) :
    ∃ ctx', buildPolicyContext cfg s caseId c now' = .ok ctx' ∧ AlikeContexts ctx ctx' := by
  have hfewer := communicationsLast24h_le c₀.merchantId c₀.customerId hlater hnotifications
  unfold buildPolicyContext Store.getCustomer at h ⊢
  rw [hmerchants, hcustomers, hlife.merchantId, hlife.customerId]
  cases hmerchant : s₀.merchants.get? c₀.merchantId with
  | none => simp [hmerchant, throw, throwThe, MonadExceptOf.throw] at h
  | some merchant =>
    simp only [hmerchant] at h
    obtain ⟨merged, hmerged, h⟩ := Lib.bind_eq_ok.mp h
    obtain rfl := Except.ok.inj h
    dsimp only
    rw [hmerged]
    refine ⟨_, rfl, ⟨rfl, hlife.amountAtRisk, rfl, rfl, ?_, ?_, rfl, hfewer⟩⟩
    · dsimp only
      unfold isSuspicious
      rw [hlife.lastMismatchReason]
    · dsimp only
      unfold isSourceMismatch
      rw [hlife.lastMismatchReason]

/-- A parked action is not denied when the limits leave it room. -/
theorem judgeTool_parked (args : DecisionArgs) {p : ParkedAction} {parkedAt : Time} {s₀ : Store}
    (hparked : Parked rt svc parkedAt s caseId actionId p) (hlater : parkedAt ≤ now)
    (hcase : args.caseId = caseId) (hroom : CountsLeaveRoom rt svc now s caseId p)
    (hmerchants : s₀.merchants = s.merchants) (hcustomers : s₀.customers = s.customers)
    (hnotifications : s₀.notifications = s.notifications)
    (hactions : s₀.actions =
      s.actions.modify actionId fun a => { a with status := .approved }) :
    ∃ verdict, judgeTool rt svc now s₀ (p.request rt s args) = .ok verdict ∧
      verdict.evaluation.allowed = true := by
  obtain ⟨s₁, c₁, ctx, evaluation, hm, hcu, hn, hlife, hctx, hevaluation, hallowed⟩ :=
    hparked.judged
  obtain ⟨ctx', hctx', halike⟩ := buildPolicyContext_later hlater hm hcu hn hlife hctx
  obtain ⟨htype, hamount⟩ := proposedFromPayload_ok hparked.proposed
  have hagain := evaluateAction_again halike (hroom ctx' hctx') hamount hevaluation
    (by rw [htype]; exact RecoveryActionType.ofText?_text _) hallowed
  -- the granted row is counted where the parked one was
  have hsame : buildPolicyContext { settings := svc.settings, py := rt.py } s₀ caseId p.case
      now = .ok ctx' := by
    rw [← hctx']
    unfold buildPolicyContext Store.getCustomer Store.communicationsLast24h
    rw [hmerchants, hcustomers, hnotifications,
      retryCount_approve hparked.row hparked.waits hactions,
      discountSpentToday_approve hparked.row hparked.waits hactions]
  refine ⟨⟨ctx', evaluation⟩, ?_, hallowed⟩
  unfold judgeTool ParkedAction.request approvedExecution ParkedAction.decision
  dsimp only
  rw [hparked.tool, actionForTool_toolByAction]
  dsimp only
  rw [hparked.proposed, hcase, hsame]
  dsimp only [bind, Except.bind]
  rw [hagain]
  rfl

/-! ## Approving the parked action -/

theorem hashPayload_ofAction {tool : ToolName} {action : RecoveryActionType}
    (h : tool = toolByAction action) (name : Option String) (input : Payload) :
    hashPayload tool name input = hashPayload tool none input := by
  unfold hashPayload
  rw [h, actionForTool_toolByAction]
  rfl

theorem loadDecision_parked {p : ParkedAction} {parkedAt : Time}
    (hparked : Parked rt svc parkedAt s args.caseId args.actionId p)
    (hown : ApprovableBy rt s args p) : loadDecision s args = .ok (p.decision args) := by
  have hlocked : lockedCase s args.caseId = .ok p.case := lockedCase_eq_ok.mpr hparked.caseRow
  have hsame : assertSameMerchant p.case args.merchantId = .ok () := by
    unfold assertSameMerchant
    rcases hown.merchant with hnone | hsome
    · rw [if_neg (by simp [hnone])]
    · rw [if_neg (by simp [hsome])]
  have haction : loadAction s p.case.merchantId args.actionId = .ok p.row := by
    unfold loadAction
    rw [hparked.row, Option.filter_some, if_pos (by simpa using hown.owner)]
  have hpending : pendingApproval s args.caseId args.actionId =
      .ok (p.approvalId, p.approval) := by
    unfold pendingApproval
    rw [hparked.newest, Option.bind_some, hparked.approval]
    rfl
  unfold loadDecision
  rw [hlocked]
  dsimp only [bind, Except.bind]
  rw [hsame]
  dsimp only
  rw [haction]
  dsimp only
  rw [hpending]
  rfl

/-- The execution that the approval leads to is admitted. -/
theorem admitRequest_parked {p : ParkedAction} {parkedAt : Time}
    (hparked : Parked rt svc parkedAt s args.caseId args.actionId p)
    (hmerchant : (s.merchants.get? p.case.merchantId).isSome = true) :
    admitRequest rt s (approvedExecution (p.decision args)) = .ok (p.request rt s args) := by
  have hresolved : resolveTool (p.row.metadata.toolName.map (·.text))
      (some p.row.actionType.text) = .ok p.tool := by
    rw [hparked.toolName]
    cases p.tool <;> rfl
  have hlocked : lockedCase s args.caseId = .ok p.case := lockedCase_eq_ok.mpr hparked.caseRow
  have hassert : assertMerchant s p.case (some p.case.merchantId) = .ok () := by
    unfold assertMerchant assertSameMerchant
    rw [if_neg (by simp)]
    dsimp only [bind, Except.bind]
    rw [if_neg]
    · rfl
    · rw [Bool.not_eq_true, Option.isNone_eq_false_iff]
      exact hmerchant
  have hopen : assertOpen p.case = .ok () := by
    have hexecutable := hparked.executable
    unfold assertOpen
    rw [if_neg]
    revert hexecutable
    cases p.case.status <;> decide
  unfold admitRequest approvedExecution ParkedAction.decision
  dsimp only
  rw [hresolved]
  dsimp only [bind, Except.bind]
  rw [hparked.validated]
  dsimp only
  rw [hlocked]
  dsimp only
  rw [hassert]
  dsimp only [assertPermission]
  rw [hopen]
  rfl

/-- The approval is usable once it was granted. -/
theorem usableApproval_parked {p : ParkedAction} {parkedAt : Time} {s₀ : Store}
    (hparked : Parked rt svc parkedAt s args.caseId args.actionId p)
    (hintime : p.approval.isExpired caller.now = false)
    (happrovals : s₀.approvals = s.approvals.modify p.approvalId (·.grant caller))
    (hactions : s₀.actions =
      s.actions.modify args.actionId fun a => { a with status := .approved }) :
    UsableApproval s₀ (p.request rt s args) caller.now where
  approval := by
    refine ⟨p.approvalId, p.approval.grant caller, rfl, ?_, hparked.approvalCase, rfl, hintime⟩
    rw [happrovals, Table.get?_modify_self, hparked.approval]
    rfl
  fresh := by
    unfold isStale ParkedAction.request approvedExecution ParkedAction.decision
    dsimp only
    rw [Option.bind_some, hactions, Table.get?_modify_self, hparked.row]
    simp [hparked.fingerprint]

/-! ## Reaching the handler -/

/-- From the store `s` on, the handler of the tool was called for the action of the case, and
the result, if there is one, is not a refusal by the policy. -/
structure ReachedHandler (tool : ToolName) (caseId actionId : ℕ) (s : Store)
    (run : Except Failure ToolExecutionResult × Store) : Prop where
  called : ∃ call, run.2.handlerCalls = s.handlerCalls ++ [call] ∧ call.toolName = tool ∧
    call.caseId = caseId ∧ call.actionId = some actionId
  notBlocked : ∀ r, run.1 = .ok r → r.status ≠ .blocked

theorem ReachedHandler.of_calls {tool : ToolName}
    {run : Except Failure ToolExecutionResult × Store}
    (h : ReachedHandler tool caseId actionId s run) (hcalls : s.handlerCalls = s'.handlerCalls) :
    ReachedHandler tool caseId actionId s' run := by
  obtain ⟨⟨call, hcalled, hcall⟩, hnot⟩ := h
  refine ⟨⟨call, ?_, hcall⟩, hnot⟩
  rw [hcalled, hcalls]

/-- A handler that was left by an exception had been entered. -/
theorem calls_of_crash {request : ToolRequest} {verdict : ToolVerdict} {s₁ s₂ : Store}
    {f : Failure} (h : HandlerReached caller request s verdict s₁ c)
    (hran : (handlers rt svc caller.now (handlerContext request c (s.startedId request) s₁)
      request.tool).run (s₁.entered (requestCall caller request verdict s s₁ c)) =
        (.error f, s₂)) :
    s₂.handlerCalls = s.handlerCalls ++ [requestCall caller request verdict s s₁ c] := by
  have hasks : (s.asks caller request verdict c).filterMap TraceEvent.call? = [] := by
    unfold Store.asks handlerAsks
    dsimp only
    split
    · split <;> rfl
    · rfl
    · rfl
  have hcall : TraceEvent.call? (.handlerCalled (s.handlerCall caller request verdict c)) =
      some (s.handlerCall caller request verdict c) := rfl
  unfold Store.handlerCalls
  rw [h.asked hran, List.filterMap_append, List.filterMap_cons_some hcall, hasks,
    h.handlerCall_eq]

/-- A run that may proceed reaches its handler. -/
theorem runAfterIdempotency_reached {request : ToolRequest} {verdict : ToolVerdict}
    (hrow : s.cases.get? request.args.caseId = some request.case)
    (hjudged : judgeTool rt svc caller.now s request = .ok verdict)
    (hbranch : toolBranch request verdict.evaluation = .run)
    (husable : request.args.approvedExecution = true → UsableApproval s request caller.now)
    (hstarted : s.startedId request = some actionId) :
    ReachedHandler request.tool request.args.caseId actionId s
      ((runAfterIdempotency rt svc caller request).run s) := by
  obtain ⟨s₀, hrecorded, hrow₀, husable₀, hrun₀⟩ :=
    run_letThrough svc hrow hjudged hbranch husable
  have hstarted₀ : s₀.startedId request = some actionId := by
    rw [← hstarted, hrecorded]
    rfl
  have hcalls₀ : s₀.handlerCalls = s.handlerCalls := by
    unfold Store.handlerCalls
    rw [hrecorded.trace]
  rw [hrun₀]
  obtain ⟨s₁, c, s₂, hreached, ⟨handled, r, s₃, hran, hrun, hstatus, hkept⟩ |
    ⟨f, hran, hrun, -⟩⟩ :=
      runTool_reached rt svc hrow₀ hbranch (checkApproval_run husable₀) husable₀
  · rw [hrun]
    have hreported := hreached.reported hran
    have htrace : s₃.trace = s₀.trace ++ s₀.handlingEvents caller request verdict c handled :=
      hkept.trace.trans hreported.trace
    refine ⟨⟨s₀.handlerCall caller request verdict c, ?_, rfl, rfl, hstarted₀⟩, ?_⟩
    · rw [calls_of_handling htrace, hcalls₀]
    · intro r' hr'
      obtain rfl := Except.ok.inj hr'
      rw [hstatus]
      split <;> decide
  · rw [hrun]
    refine ⟨⟨requestCall caller request verdict s₀ s₁ c, ?_, rfl, rfl, hstarted₀⟩, ?_⟩
    · rw [calls_of_crash hreached hran, hcalls₀]
    · intro r' hr'
      dsimp only at hr'
      cases hr'

/-- Recording a run keeps what it reached. -/
theorem executeRequest_reached {request : ToolRequest} {row : IdempotencyKey}
    (hrow : s.cases.get? request.args.caseId = some request.case)
    (hkey : s.keyOf request = some row)
    (h : ReachedHandler request.tool caseId actionId (s.pending request)
      ((runAfterIdempotency rt svc caller request).run (s.pending request))) :
    ReachedHandler request.tool caseId actionId s
      ((executeRequest rt svc caller request).run s) := by
  have houtcome := runAfterIdempotency_outcome rt svc caller (s := s.pending request) hrow
  rcases hran : (runAfterIdempotency rt svc caller request).run (s.pending request) with ⟨x, s₁⟩
  rw [hran] at houtcome h
  have hkey₁ : s₁.keyOf request = some row := by
    unfold Store.keyOf Store.idempotencyKey?
    rw [houtcome.idempotencyKeys]
    exact hkey
  have hfinished := recordRun_finished caller s.toolCalls.nextId hran
    (fun f hf => by subst hf; exact houtcome.isRefusal) hkey₁
  rw [← run_executeRequest rt svc caller request s] at hfinished
  obtain ⟨⟨call, hcalls, hcall⟩, hnot⟩ := h
  generalize (executeRequest rt svc caller request).run s = run at hfinished ⊢
  obtain ⟨x', s'⟩ := run
  -- what is recorded leaves the history alone
  have hhistory : s'.trace = s₁.trace ∧ ∀ r, x' = .ok r → r.status ≠ .blocked := by
    dsimp only at hfinished
    cases hfinished with
    | @returned r₀ _ _ hrecorded =>
      refine ⟨hrecorded.trace, fun r hr => ?_⟩
      obtain rfl := Except.ok.inj hr
      exact hnot r₀ rfl
    | failed hclass hrecorded =>
      refine ⟨hrecorded.trace, fun r hr => ?_⟩
      cases hr
    | crashed =>
      refine ⟨rfl, fun r hr => ?_⟩
      cases hr
  refine ⟨⟨call, ?_, hcall⟩, hhistory.2⟩
  have hsame : s'.handlerCalls = s₁.handlerCalls := by
    unfold Store.handlerCalls
    rw [hhistory.1]
  exact hsame.trans hcalls

/-- Approving a parked action that has room reaches the handler of its tool. -/
theorem approveAction_reached {p : ParkedAction} {parkedAt : Time}
    (hparked : Parked rt svc parkedAt s args.caseId args.actionId p)
    (hlater : parkedAt ≤ caller.now) (hintime : p.approval.isExpired caller.now = false)
    (hown : ApprovableBy rt s args p)
    (hroom : CountsLeaveRoom rt svc caller.now s args.caseId p) :
    ReachedHandler p.tool args.caseId args.actionId s
      ((approveAction rt svc caller args).run s) := by
  obtain ⟨s₀, hmark, hrecorded⟩ := markApproved_run caller (p.decision args) s
  have hgrantable : Grantable caller (p.decision args) := by
    refine ⟨hparked.pending, hintime, ?_⟩
    show approvableStatuses.contains p.row.status = true
    rw [hparked.waits]
    rfl
  rw [run_approveAction rt svc (loadDecision_parked hparked hown) hgrantable hmark]
  have hactions : s₀.actions =
      s.actions.modify args.actionId fun a => { a with status := .approved } := hrecorded.actions
  have happrovals : s₀.approvals = s.approvals.modify p.approvalId (·.grant caller) :=
    hrecorded.approvals
  have hkeys : s₀.idempotencyKeys = s.idempotencyKeys := hrecorded.idempotencyKeys
  have hmerchants : s₀.merchants = s.merchants := (SameTools.of_recorded hrecorded).merchants
  have hnotifications : s₀.notifications = s.notifications :=
    (SameTools.of_recorded hrecorded).notifications
  have hcustomers : s₀.customers = s.customers := by rw [hrecorded]; rfl
  have hcases : s₀.cases = s.cases := hrecorded.cases
  have hpayments : s₀.payments = s.payments := hrecorded.payments
  have hmerchant : (s.merchants.get? p.case.merchantId).isSome = true := by
    obtain ⟨s₁, c₁, ctx, evaluation, hm, -, -, hlife, hctx, -⟩ := hparked.judged
    obtain ⟨merchant, hcontext⟩ := contextOf_of_build hctx
    rw [hm, hlife.merchantId, hcontext.merchantRow]
    rfl
  have hadmits : admitRequest rt s₀ (approvedExecution (p.decision args)) =
      .ok (p.request rt s args) := by
    rw [admitRequest_congr hcases hmerchants hcustomers hpayments]
    exact admitRequest_parked hparked hmerchant
  obtain ⟨row, hholds⟩ : ∃ row, HoldsKey s₀ (p.request rt s args) caller.now row := by
    have hfound : s₀.keyOf (p.request rt s args) =
        s.idempotencyKey? p.case.merchantId p.row.idempotencyKey := by
      unfold Store.keyOf Store.idempotencyKey?
      rw [hkeys]
      rfl
    cases hkey : s.idempotencyKey? p.case.merchantId p.row.idempotencyKey with
    | none => exact ⟨_, .inl ⟨hfound.trans hkey, rfl⟩⟩
    | some row =>
      obtain ⟨hhash, hdecision⟩ := hown.key row hkey
      rw [← hashPayload_ofAction hparked.tool (some p.row.actionType.text)] at hhash
      exact ⟨row, .inr ⟨hfound.trans hkey, hhash, hdecision⟩⟩
  rw [execute_run_of_holds rt svc caller hadmits hholds]
  obtain ⟨verdict, hjudged, hallowed⟩ := judgeTool_parked args hparked hlater rfl hroom
    hmerchants hcustomers hnotifications hactions
  have husable : UsableApproval s₀ (p.request rt s args) caller.now :=
    usableApproval_parked hparked hintime happrovals hactions
  have hbranch : toolBranch (p.request rt s args) verdict.evaluation = .run := by
    have hexecutable : sideEffectExecuteStates.contains (p.request rt s args).case.status =
        true := hparked.executable
    have haction : actionForTool (p.request rt s args).tool = some p.action :=
      actionForTool_eq_some.mpr hparked.tool
    unfold toolBranch
    rw [hexecutable, haction, hallowed]
    simp [ParkedAction.request, approvedExecution]
  have hrow : s₀.cases.get? args.caseId = some p.case := by
    rw [hcases]
    exact hparked.caseRow
  have hstarted : s₀.startedId (p.request rt s args) = some args.actionId := by
    have hexists : (s₀.actions.get? args.actionId).isSome = true := by
      rw [hactions, Table.get?_modify_self, hparked.row]
      rfl
    have haction : actionForTool (p.request rt s args).tool = some p.action :=
      actionForTool_eq_some.mpr hparked.tool
    unfold Store.startedId Store.upsertId Store.existingAction
    rw [haction]
    have hfound : (some args.actionId).filter (fun i => (s₀.actions.get? i).isSome) =
        some args.actionId := by
      rw [Option.filter_some, if_pos hexists]
    simp [ParkedAction.request, approvedExecution, ParkedAction.decision, hfound]
  have hcalls : s₀.handlerCalls = s.handlerCalls := by
    have htrace : s₀.trace = s.trace ++ [.approvalDecided p.approvalId .approved] :=
      hrecorded.trace
    exact (SameHandlers.of_trace htrace rfl rfl).calls
  -- the key and the tool call are read by nothing on the way to the handler
  have hreached : ReachedHandler p.tool args.caseId args.actionId s₀
      ((executeRequest rt svc caller (p.request rt s args)).run
        (s₀.keyTaken (p.request rt s args) caller.now)) := by
    have hkey := keyOf_keyTaken hholds
    rw [keyTaken_eq] at hkey ⊢
    refine ReachedHandler.of_calls (executeRequest_reached hrow hkey ?_) rfl
    exact runAfterIdempotency_reached hrow hjudged hbranch
      (fun _ => ⟨husable.approval, husable.fresh⟩) hstarted
  exact hreached.of_calls hcalls

/-! ## Parking through the tool service -/

variable {request : ToolRequest} {action : RecoveryActionType} {verdict : ToolVerdict}

theorem fingerprint_eq {c' : RecoveryCase} (h : c.LifecycleOnly c') :
    c'.fingerprint = c.fingerprint := by
  unfold RecoveryCase.fingerprint
  rw [h.amountAtRisk, h.paymentId, h.customerId, h.lastMismatchReason, h.amountRecovered]

/-- The row of an action that was parked. -/
theorem parked_row (s : Store) (caller : Caller) (request : ToolRequest)
    (action : RecoveryActionType) (verdict : ToolVerdict) :
    ∃ row, (s.parked caller request action verdict).actions.get? (s.upsertId request) =
        some row ∧
      row.status = .approvalRequired ∧ row.metadata.toolName = some request.tool ∧
      row.metadata.payload = some request.input ∧
      row.metadata.caseFingerprint = some request.case.fingerprint := by
  unfold Store.parked Store.withApproval
  dsimp only
  rw [Table.get?_modify_self]
  rcases upserted_get? s request action (parkingWrite request verdict.evaluation.riskLevel)
    caller.now with ⟨a, -, -, hrow⟩ | ⟨-, -, hrow⟩
  · rw [hrow]
    exact ⟨_, rfl, rfl, rfl, rfl, rfl⟩
  · rw [hrow]
    exact ⟨_, rfl, rfl, rfl, rfl, rfl⟩

/-- The status of a case at which an action was parked allows it to be executed. -/
theorem executable_parkedStatus {status : RecoveryCaseStatus}
    (h : sideEffectExecuteStates.contains status = true) :
    sideEffectExecuteStates.contains (parkedStatus status) = true := by
  revert h
  cases status <;> decide

/-- A request that is parked leaves a parked action. -/
theorem parked_of_request {c' : RecoveryCase} {input : Payload}
    {keys : AList (fun _ : ℕ × String => IdempotencyKey)}
    (hvalidated : validateInput rt request.tool input = .ok request.input)
    (hjudged : judgeTool rt svc caller.now s request = .ok verdict)
    (hbranch : toolBranch request verdict.evaluation = .approval action)
    (hsame : SameTools { s.parked caller request action verdict with idempotencyKeys := keys } s')
    (hcustomers : s'.customers = s.customers)
    (hrow : s'.cases.get? request.args.caseId = some c')
    (hlife : request.case.LifecycleOnly c')
    (hstatus : c'.status = parkedStatus request.case.status) :
    ∃ p, Parked rt svc caller.now s' request.args.caseId (s.upsertId request) p := by
  obtain ⟨row, hget, hwaits, htool, hpayload, hfingerprint⟩ := parked_row s caller request action
    verdict
  obtain ⟨haction, hallowed, -, -⟩ := toolBranch_approval hbranch
  obtain ⟨proposed, hproposed, hctx, hevaluation⟩ := judgeTool_ok haction hjudged
  have hexecutable : sideEffectExecuteStates.contains request.case.status = true := by
    have hvalid := toolBranch_ne_invalidState (hbranch.trans_ne (by simp))
    rw [spec_sideEffect, haction] at hvalid
    simpa using hvalid
  -- the request that was just stored is the newest one of the action
  have happrovals : s'.approvals = s.approvals.insert (requestedApproval caller request
      (s.upsertId request) verdict.ctx.settings.approvalTtlMinutes) := hsame.approvals
  let p : ParkedAction :=
    { case := c'
      row := row
      approvalId := s.approvals.nextId
      approval := requestedApproval caller request (s.upsertId request)
        verdict.ctx.settings.approvalTtlMinutes
      tool := request.tool
      action := action
      input := request.input
      proposed := proposed }
  refine ⟨p, ?_⟩
  exact {
    caseRow := hrow
    executable := by
      show sideEffectExecuteStates.contains c'.status = true
      rw [hstatus]
      exact executable_parkedStatus hexecutable
    row := by
      rw [hsame.actions]
      exact hget
    waits := hwaits
    toolName := htool
    validated := by
      show validateInput rt request.tool (row.metadata.payload.getD []) = .ok request.input
      rw [hpayload]
      exact validateInput_validated hvalidated
    fingerprint := by
      show row.metadata.caseFingerprint = some c'.fingerprint
      rw [hfingerprint, fingerprint_eq hlife]
    tool := actionForTool_eq_some.mp haction
    proposed := hproposed
    newest := by
      unfold Store.newestApproval
      rw [happrovals, Table.findLastId?_insert]
      simp [requestedApproval]
    approval := by
      rw [happrovals]
      exact Table.get?_insert_nextId _ _
    pending := rfl
    approvalCase := rfl
    judged := ⟨s, request.case, verdict.ctx, verdict.evaluation, hsame.merchants, hcustomers,
      hsame.notifications, hlife, hctx, hevaluation, hallowed⟩ }

/-- The case and the customers after a request was parked. -/
theorem execute_parked_run {execution : ExecuteArgs} {row : IdempotencyKey}
    (hadmits : admitRequest rt s execution = .ok request)
    (hholds : HoldsKey s request caller.now row)
    (hjudged : judgeTool rt svc caller.now s request = .ok verdict)
    (hbranch : toolBranch request verdict.evaluation = .approval action) :
    ∃ r s' c', (execute rt svc caller execution).run s = (.ok r, s') ∧
      s'.customers = s.customers ∧ s'.cases.get? request.args.caseId = some c' ∧
      request.case.LifecycleOnly c' ∧ c'.status = parkedStatus request.case.status := by
  have hadmitted := admitted_of_ok hadmits
  have hrow : s.cases.get? request.args.caseId = some request.case := by
    rw [hadmitted.args_eq]
    exact hadmitted.row
  rw [execute_run_of_holds rt svc caller hadmits hholds, run_executeRequest]
  have hkey := keyOf_keyTaken hholds
  rw [keyTaken_eq] at hkey ⊢
  generalize (s.keyTaken request caller.now).idempotencyKeys = keys at hkey ⊢
  let s₀ : Store := Store.pending { s with idempotencyKeys := keys } request
  obtain ⟨s₁, hrun₁, hrecorded₁⟩ := persistVerdict_run caller request verdict s₀
  have hrow₁ : s₁.cases.get? request.args.caseId = some request.case := by
    rw [hrecorded₁.cases]
    exact hrow
  obtain ⟨r, s₂, c', hrun₂, hparked, hkept, hrow₂, hstatus⟩ :=
    requestApproval_run caller action verdict hrow₁
  obtain ⟨c'', hrow₂', hlife⟩ := hkept.lifecycle request.case hrow₁
  obtain rfl := Option.some.inj (hrow₂.symm.trans hrow₂')
  -- verdict, approval request and the end of the call, one write after the other
  have hran : (runAfterIdempotency rt svc caller request).run s₀ = (.ok r, s₂) := by
    have hjudged₀ : judgeTool rt svc caller.now s₀ request = .ok verdict := hjudged
    rw [run_runAfterIdempotency, Session.run_ofExcept_bind, hjudged₀]
    dsimp only
    unfold actOnVerdict
    rw [Session.run_bind_ok hrun₁, hbranch]
    exact hrun₂
  have hcustomers : s₂.customers = s.customers := by
    rw [hkept.store]
    show s₁.customers = s.customers
    rw [hrecorded₁]
    rfl
  have hkey₂ : s₂.keyOf request = some row := by
    have hkeys : s₂.idempotencyKeys = keys := by
      rw [hkept.idempotencyKeys]
      show s₁.idempotencyKeys = keys
      rw [hrecorded₁]
      rfl
    unfold Store.keyOf Store.idempotencyKey?
    rw [hkeys]
    exact hkey
  have hfinished := recordRun_finished caller s.toolCalls.nextId hran
    (fun f hf => by cases hf) hkey₂
  show ∃ r s' c', (recordRun caller request s.toolCalls.nextId
    (runAfterIdempotency rt svc caller request)).run s₀ = (.ok r, s') ∧ _
  generalize (recordRun caller request s.toolCalls.nextId
    (runAfterIdempotency rt svc caller request)).run s₀ = run at hfinished ⊢
  obtain ⟨x, s'⟩ := run
  dsimp only at hfinished
  cases hfinished with
  | returned hrecorded =>
    refine ⟨_, s', c', rfl, ?_, ?_, hlife, hstatus⟩
    · rw [hrecorded]
      exact hcustomers
    · rw [hrecorded.cases]
      exact hrow₂

/-- A call of `execute` that requested an approval leaves a parked action. -/
theorem execute_parked {execution : ExecuteArgs} {r : ToolExecutionResult} {approvalId : ℕ}
    {fingerprint : CaseFingerprint} {tool : Option ToolName} {payload : Payload}
    (hran : (execute rt svc caller execution).run s = (.ok r, s'))
    (hrequested : s'.trace = s.trace ++
      [.approvalRequested approvalId caseId actionId fingerprint tool payload]) :
    ∃ p, Parked rt svc caller.now s' caseId actionId p := by
  have hexecuted := execute_executed rt svc caller execution s
  rw [committed_ok hran] at hexecuted
  cases hexecuted with
  | idle => simp at hrequested
  | refused hadmits hholds happrovals hsame =>
    have htrace : s'.trace = s.trace := hsame.trace
    simp [htrace] at hrequested
  | blocked hadmits hholds hjudged hbranch hstatus hsame =>
    have htrace : s'.trace = s.trace := hsame.trace
    simp [htrace] at hrequested
  | handled hadmits hholds hhandling hstatus hsame =>
    have htrace := hsame.trace
    rw [hrequested] at htrace
    have hevents := List.append_cancel_left htrace
    unfold Store.handlingEvents at hevents
    cases hevents
  | parked hadmits hholds hjudged hbranch hstatus hsame =>
    have htrace := hsame.trace
    rw [hrequested] at htrace
    have hevents := List.append_cancel_left htrace
    obtain ⟨rfl, rfl⟩ : caseId = _ ∧ actionId = _ := by
      simp only [List.cons.injEq, TraceEvent.approvalRequested.injEq] at hevents
      exact ⟨hevents.1.2.1, hevents.1.2.2.1⟩
    have hadmitted := admitted_of_ok hadmits
    obtain ⟨r', s'', c', hran', hcustomers, hrow, hlife, hend⟩ :=
      execute_parked_run hadmits hholds hjudged hbranch
    obtain ⟨-, rfl⟩ := Prod.mk.inj (hran.symm.trans hran')
    exact parked_of_request hadmitted.validated hjudged hbranch hsame hcustomers hrow hlife hend

/-! ## Parking by the processor -/

/-- The payload that the processor records is one that the tool accepts, and it proposes the
planned action. -/
theorem plannedMetadata_validated (rt : Runtime) {action : RecoveryActionType} (now : Time)
    (htype : action ∈ plannableActions) :
    ∃ input, validateInput rt (toolByAction action)
        ((plannedMetadata rt.py action now).payload.getD []) = .ok input ∧
      proposedFromPayload rt action input = .ok { actionType := action.text } := by
  simp only [plannableActions, List.mem_cons, List.not_mem_nil, or_false] at htype
  rcases htype with rfl | rfl
  · exact ⟨_, rfl, rfl⟩
  · exact ⟨_, rfl, rfl⟩

/-- The row that the processor inserted and then completed. -/
theorem planParked_row {row : RecoveryAction} (hnew : s.actionIdOfKey row.merchantId
    row.idempotencyKey = none) (fingerprint : CaseFingerprint) (ttlMinutes : ℤ) :
    (s.planParked caller row fingerprint ttlMinutes).actions.get? s.actions.nextId =
      some { row with
        metadata := ActionMetadata.awaiting row s.approvals.nextId fingerprint } := by
  unfold Store.planParked Store.plannedId Store.plannedActions
  dsimp only
  rw [hnew]
  simp

/-- The verdict of the policy check that led to an approval leaves a parked action. -/
theorem decided_parked {s₁ s₂ : Store} {c₁ : RecoveryCase} {ctx : PolicyContext}
    {evaluation : PolicyEvaluationResult} {actionType : RecoveryActionType} {approvalId : ℕ}
    {fingerprint : CaseFingerprint} {tool : Option ToolName} {payload : Payload}
    (htype : actionType ∈ plannableActions)
    (hrow : s₁.cases.get? caseId = some c₁) (hcheck : c₁.status = .policyCheck)
    (hctx : buildPolicyContext { settings := svc.settings, py := rt.py } s₁ caseId c₁
      caller.now = .ok ctx)
    (hevaluation : evaluateAction ctx { actionType := actionType.text } = .ok evaluation)
    (hframe : ProcessFrame caseId s₁ s')
    (hcases : s₂.cases = s₁.cases) (hactions : s₂.actions = s₁.actions)
    (htrace : s₂.trace = s₁.trace)
    (hran : (actOnEvaluation { settings := svc.settings, py := rt.py } caller caseId actionType
      ctx evaluation).run s₂ = (.ok (), s'))
    (hrequested : s'.trace = s₁.trace ++
      [.approvalRequested approvalId caseId actionId fingerprint tool payload])
    (hnew : s₁.actions.get? actionId = none) :
    ∃ p, Parked rt svc caller.now s' caseId actionId p := by
  have hrow₂ : s₂.cases.get? caseId = some c₁ := by
    rw [hcases]
    exact hrow
  have hchanged : ((actOnEvaluation { settings := svc.settings, py := rt.py } caller caseId
      actionType ctx evaluation).run s₂).2.trace ≠ s₂.trace := by
    rw [hran, htrace, hrequested]
    simp
  obtain ⟨hallowed, hpark⟩ := actOnEvaluation_trace _ caller ctx evaluation hrow₂ hchanged
  rw [hpark] at hran
  obtain ⟨s₃, hrun₃, hafter⟩ := run_requestPlannedApproval
    { settings := svc.settings, py := rt.py } caller actionType ctx evaluation hrow₂ hcheck
  obtain ⟨-, rfl⟩ := Prod.mk.inj (hran.symm.trans hrun₃)
  have hsame := requestPlannedApproval_parks { settings := svc.settings, py := rt.py } caller
    actionType ctx evaluation hrow₂
  rw [hran] at hsame
  let row : RecoveryAction := plannedRow caller caseId c₁ actionType .approvalRequired
    evaluation.riskLevel (plannedMetadata rt.py actionType caller.now)
  have hid : actionId = s₂.plannedId row := by
    have hwhole := hsame.trace
    rw [hrequested, ← htrace] at hwhole
    have hevents := List.append_cancel_left hwhole
    simp only [List.cons.injEq, TraceEvent.approvalRequested.injEq] at hevents
    exact hevents.1.2.2.1
  -- an action under the planned key would have been found
  have hfresh : s₂.actionIdOfKey row.merchantId row.idempotencyKey = none := by
    cases hfound : s₂.actionIdOfKey row.merchantId row.idempotencyKey with
    | none => rfl
    | some i =>
      obtain ⟨a, ha, -⟩ := Table.get?_of_findId? hfound
      have hi : actionId = i := by
        rw [hid]
        unfold Store.plannedId
        rw [hfound]
        rfl
      rw [← hi, hactions, hnew] at ha
      cases ha
  have hnext : actionId = s₂.actions.nextId := by
    rw [hid]
    unfold Store.plannedId
    rw [hfresh]
    rfl
  obtain ⟨input, hvalidated, hproposed⟩ := plannedMetadata_validated rt caller.now htype
  let parkedRow : RecoveryAction :=
    { row with metadata := ActionMetadata.awaiting row s₂.approvals.nextId c₁.fingerprint }
  have hget : s'.actions.get? actionId = some parkedRow := by
    rw [hsame.actions, hnext]
    exact planParked_row hfresh _ _
  have happrovals : s'.approvals = s₂.approvals.insert
      (plannedApproval caller row actionId ctx.settings.approvalTtlMinutes) := by
    rw [hsame.approvals, hid]
    rfl
  let p : ParkedAction :=
    { case := c₁.moveTo .awaitingApproval caller.now
      row := parkedRow
      approvalId := s₂.approvals.nextId
      approval := plannedApproval caller row actionId ctx.settings.approvalTtlMinutes
      tool := toolByAction actionType
      action := actionType
      input := input
      proposed := { actionType := actionType.text } }
  refine ⟨p, ?_⟩
  exact {
    caseRow := hafter
    executable := rfl
    row := hget
    waits := rfl
    toolName := rfl
    validated := hvalidated
    fingerprint := rfl
    tool := rfl
    proposed := hproposed
    newest := by
      unfold Store.newestApproval
      rw [happrovals, Table.findLastId?_insert]
      simp [plannedApproval, row, plannedRow]
    approval := by
      rw [happrovals]
      exact Table.get?_insert_nextId _ _
    pending := rfl
    approvalCase := rfl
    judged := ⟨s₁, c₁, ctx, evaluation, hframe.merchants, hframe.customers,
      hframe.notifications, .moveTo c₁ _ _, hctx, hevaluation, hallowed⟩ }

/-- A case that the processor took to its approval leaves a parked action. -/
theorem process_parked {approvalId : ℕ} {fingerprint : CaseFingerprint}
    {tool : Option ToolName} {payload : Payload}
    (hran : (process { settings := svc.settings, py := rt.py } caller caseId).run s =
      (.ok (), s'))
    (hrequested : s'.trace = s.trace ++
      [.approvalRequested approvalId caseId actionId fingerprint tool payload])
    (hnew : s.actions.get? actionId = none) :
    ∃ p, Parked rt svc caller.now s' caseId actionId p := by
  let cfg : Config := { settings := svc.settings, py := rt.py }
  -- an approval was asked for, so the processor did not end before its decision
  have hchanged : s'.trace ≠ s.trace := by simp [hrequested]
  unfold process at hran
  cases hrow : s.cases.get? caseId with
  | none =>
    unfold lockRecoveryCase at hran
    rw [Session.run_bind, Session.run_get_bind, hrow] at hran
    cases hran
  | some c =>
    rw [Session.run_bind_ok (run_lockRecoveryCase hrow)] at hran
    cases hwalk : isWalkable c.status with
    | false =>
      rw [run_processLockedCase_idle _ caller hrow hwalk] at hran
      obtain ⟨-, rfl⟩ := Prod.mk.inj hran
      exact absurd rfl hchanged
    | true =>
      obtain ⟨s₁, c₁, hmoved, hcheck, hrun⟩ := run_processLockedCase_walks cfg caller hrow hwalk
      have hsame₁ := SameTools.of_caseMoved hmoved
      rw [hrun] at hran
      have hframe : ProcessFrame caseId s₁ s' := by
        have hkept : ProcessFrame caseId s₁
            ((decideAtPolicyCheck cfg caller caseId).run s₁).2 :=
          keeps_decideAtPolicyCheck (ProcessFrame.processorFrame caseId) cfg s₁
        rwa [hran] at hkept
      unfold decideAtPolicyCheck at hran
      rw [run_readCase_bind hmoved.after, Session.run_get_bind, Session.run_ofExcept_bind] at hran
      cases hctx : buildPolicyContext cfg s₁ caseId c₁ caller.now with
      | error f =>
        rw [hctx] at hran
        cases hran
      | ok ctx =>
        rw [hctx] at hran
        dsimp only at hran
        unfold evaluateAndPersist at hran
        rw [Session.run_bind, Session.run_ofExcept_bind] at hran
        cases hevaluation : evaluateAction ctx { actionType := (selectAction s₁ c₁).text } with
        | error f =>
          rw [hevaluation] at hran
          cases hran
        | ok evaluation =>
          rw [hevaluation] at hran
          rw [← hsame₁.trace] at hrequested
          rw [← hsame₁.actions] at hnew
          obtain ⟨s₂, hacted, hcases, hactions, htrace⟩ : ∃ s₂,
              (actOnEvaluation cfg caller caseId (selectAction s₁ c₁) ctx evaluation).run s₂ =
                (.ok (), s') ∧
              s₂.cases = s₁.cases ∧ s₂.actions = s₁.actions ∧ s₂.trace = s₁.trace :=
            ⟨_, hran, rfl, rfl, rfl⟩
          exact decided_parked (selectAction_mem s₁ c₁) hmoved.after hcheck hctx hevaluation
            hframe hcases hactions htrace hacted hrequested hnew

/-! ## Round trips -/

/-- A call of `execute` or of the processor parked the action: it requested its approval and,
if it was the processor, planned the action itself. -/
inductive Parks (rt : Runtime) (svc : ToolExecutionService) (caller : Caller)
    (caseId actionId : ℕ) (s s' : Store) : Prop
  | execute {execution : ExecuteArgs} {r : ToolExecutionResult} {approvalId : ℕ}
      {fingerprint : CaseFingerprint} {tool : Option ToolName} {payload : Payload}
      (hran : (execute rt svc caller execution).run s = (.ok r, s'))
      (hrequested : s'.trace = s.trace ++
        [.approvalRequested approvalId caseId actionId fingerprint tool payload])
  | process {approvalId : ℕ} {fingerprint : CaseFingerprint} {tool : Option ToolName}
      {payload : Payload}
      (hran : (process { settings := svc.settings, py := rt.py } caller caseId).run s =
        (.ok (), s'))
      (hrequested : s'.trace = s.trace ++
        [.approvalRequested approvalId caseId actionId fingerprint tool payload])
      (hnew : s.actions.get? actionId = none)

theorem Parks.parked (h : Parks rt svc caller caseId actionId s s') :
    ∃ p, Parked rt svc caller.now s' caseId actionId p := by
  cases h with
  | execute hran hrequested => exact execute_parked hran hrequested
  | process hran hrequested hnew => exact process_parked hran hrequested hnew

/-- An action that was parked, and that the limits leave room once its own row is counted, is
not blocked when it is approved in time and nothing else has happened: its tool reaches its
handler. -/
theorem approvalRoundTrip {approver : Caller} (args : DecisionArgs)
    (hparks : Parks rt svc caller args.caseId args.actionId s s')
    (hlater : caller.now ≤ approver.now)
    (hintime : ∀ p, Parked rt svc caller.now s' args.caseId args.actionId p →
      p.approval.isExpired approver.now = false)
    (hown : ∀ p, Parked rt svc caller.now s' args.caseId args.actionId p →
      ApprovableBy rt s' args p)
    (hroom : ∀ p, Parked rt svc caller.now s' args.caseId args.actionId p →
      CountsLeaveRoom rt svc approver.now s' args.caseId p) :
    ∃ row tool, s'.actions.get? args.actionId = some row ∧
      row.metadata.toolName = some tool ∧
      ReachedHandler tool args.caseId args.actionId s'
        ((approveAction rt svc approver args).run s') := by
  obtain ⟨p, hparked⟩ := hparks.parked
  refine ⟨p.row, p.tool, hparked.row, hparked.toolName, ?_⟩
  exact approveAction_reached hparked hlater (hintime p hparked) (hown p hparked)
    (hroom p hparked)

/-! ### A reminder that is approved -/

/-- The parked reminder is the merchant's own, and its key is held by its request. -/
theorem approvableBy_reminder {p : ParkedAction}
    (h : Parked sampleRuntime sampleService noonCaller.now parkedStore 0 0 p) :
    ApprovableBy sampleRuntime parkedStore firstAction p := by
  have hmerchant : p.case.merchantId = 0 := by
    have hrow : (parkedStore.cases.get? 0).map (·.merchantId) = some 0 := by decide +kernel
    rw [h.caseRow] at hrow
    exact Option.some.inj hrow
  have howner : p.row.merchantId = 0 ∧ p.row.idempotencyKey = "first" := by
    have hrow : (parkedStore.actions.get? 0).map (fun a => (a.merchantId, a.idempotencyKey)) =
        some (0, "first") := by decide +kernel
    rw [h.row] at hrow
    exact Prod.mk.inj (Option.some.inj hrow)
  have htool : p.tool = .sendNotification := by
    have hrow : (parkedStore.actions.get? 0).bind (·.metadata.toolName) =
        some .sendNotification := by decide +kernel
    rw [h.row, Option.bind_some, h.toolName] at hrow
    exact Option.some.inj hrow
  refine ⟨.inl rfl, howner.1.trans hmerchant.symm, fun row hkey => ?_⟩
  rw [hmerchant, howner.2] at hkey
  have hhash : (parkedStore.idempotencyKey? 0 "first").map (fun row => some row.requestHash) =
      (parkedStore.actions.get? 0).map fun a =>
        (validateInput sampleRuntime .sendNotification (a.metadata.payload.getD [])).toOption.map
          fun input =>
            canonicalRequestHash sampleRuntime (hashPayload .sendNotification none input) := by
    decide +kernel
  have hproceeds : (parkedStore.idempotencyKey? 0 "first").map (fun row =>
      match row.replayDecision true with
      | .proceed => true
      | _ => false) = some true := by decide +kernel
  have hvalidated := h.validated
  rw [htool] at hvalidated ⊢
  rw [hkey, h.row, Option.map_some, Option.map_some, hvalidated] at hhash
  rw [hkey, Option.map_some] at hproceeds
  refine ⟨Option.some.inj (Option.some.inj hhash), ?_⟩
  cases hdecision : row.replayDecision true with
  | proceed => rfl
  | replay result =>
    rw [hdecision] at hproceeds
    cases hproceeds
  | busy =>
    rw [hdecision] at hproceeds
    cases hproceeds

/-- At noon a reminder is sent. -/
theorem countsLeaveRoom_reminder {p : ParkedAction}
    (h : Parked sampleRuntime sampleService noonCaller.now parkedStore 0 0 p) :
    CountsLeaveRoom sampleRuntime sampleService noonCaller.now parkedStore 0 p := by
  have haction : p.action = .sendReminder := by
    have hrow : (parkedStore.actions.get? 0).bind (·.metadata.toolName) =
        some .sendNotification := by decide +kernel
    rw [h.row, Option.bind_some, h.toolName] at hrow
    have htool := (h.tool.symm.trans (Option.some.inj hrow))
    revert htool
    cases p.action <;> decide
  intro ctx hctx
  obtain ⟨merchant, hcontext⟩ := contextOf_of_build hctx
  have hsettings : ctx.settings = {} := by
    have hmerchants : (parkedStore.merchants.rows.all fun m => m.settings.isEmpty) = true := by
      decide +kernel
    have hmem := List.all_eq_true.mp hmerchants merchant
      (List.mem_of_getElem? hcontext.merchantRow)
    have hempty : merchant.settings = [] := List.isEmpty_iff.mp hmem
    have hmerged := hcontext.merged
    rw [hempty] at hmerged
    exact (Except.ok.inj hmerged).symm
  rw [haction]
  refine ⟨fun hretry => ?_, fun hdiscount => ?_, fun _ => ?_⟩
  · cases hretry
  · cases hdiscount
  · unfold inQuietHours
    rw [hsettings, hcontext.clock]
    decide

/-- Parking the reminder asked for one approval, of its only action row. -/
private theorem parkedStore_requested :
    (match parkedStore.trace with
      | [.approvalRequested _ caseId actionId _ _ _] => caseId = 0 && actionId = 0
      | _ => false) = true := by
  decide +kernel

/-- The reminder that was parked at noon and approved at once is sent. -/
theorem approvalRoundTrip_reminder :
    ∃ row tool, parkedStore.actions.get? 0 = some row ∧ row.metadata.toolName = some tool ∧
      ReachedHandler tool 0 0 parkedStore
        ((approveAction sampleRuntime sampleService noonCaller firstAction).run parkedStore) := by
  have hreturned : ((execute sampleRuntime sampleService noonCaller
      (reminderUnder "first" none)).run mediumValueStore).1.isOk = true := by decide +kernel
  have hrequested := parkedStore_requested
  have hparks : Parks sampleRuntime sampleService noonCaller 0 0 mediumValueStore
      parkedStore := by
    rcases hran : (execute sampleRuntime sampleService noonCaller
        (reminderUnder "first" none)).run mediumValueStore with ⟨f | r, s'⟩
    · rw [hran] at hreturned
      cases hreturned
    · have hparked : parkedStore = s' := committed_ok hran
      split at hrequested
      · rename_i htrace
        simp only [Bool.and_eq_true, decide_eq_true_eq] at hrequested
        obtain ⟨rfl, rfl⟩ := hrequested
        rw [← hparked] at hran
        exact .execute hran htrace
      · cases hrequested
  refine approvalRoundTrip firstAction hparks le_rfl (fun p hp => ?_)
    (fun p hp => approvableBy_reminder hp) fun p hp => countsLeaveRoom_reminder hp
  have hintime : (parkedStore.approvals.rows.all fun a => !a.isExpired noonCaller.now) =
      true := by decide +kernel
  have hmem := List.all_eq_true.mp hintime p.approval (List.mem_of_getElem? hp.approval)
  simpa using hmem

/-! ### Round trips that fail -/

/-- What comes of approving an action that an execution has just parked: the status of the
result, if there is one, and how many handlers were called. -/
def roundTrip (rt : Runtime) (svc : ToolExecutionService) (execution : ExecuteArgs) (s : Store)
    (parkedAt approvedAt : Time) : Option (Option ExecutionStatus × ℕ) :=
  match (execute rt svc { now := parkedAt } execution).run s with
  | (.error _, _) => none
  | (.ok r, s') =>
    if r.status = .approvalRequired ∧ r.replayed = false then
      r.actionId.map fun i =>
        let approved := (approveAction rt svc { now := approvedAt }
          { caseId := execution.caseId, actionId := i }).run s'
        (approved.1.toOption.map (·.status), approved.2.handlerCalls.length)
    else none

/-- An execution of a tool for the case of `mediumValueStore`. -/
def executionOf (toolName : String) (payload : Payload) : ExecuteArgs where
  caseId := 0
  toolName := some toolName
  payload := payload
  idempotencyKey := "first"

/-- Microseconds in a minute. -/
def minute : Time := 60000000

/-- A runtime that reads the percentage of a discount. -/
def percentRuntime : Runtime :=
  { sampleRuntime with
    py :=
      { wholeNumberText with
        decimal := fun text => if text = "5" then some (.finite 5) else none } }

/-- The key of the request has failed before. -/
def failedKeyStore : Store :=
  { mediumValueStore with
    idempotencyKeys := (committed
      (execute sampleRuntime sampleService noonCaller (executionOf "send_notification" []))
      { mediumValueStore with
        cases := mediumValueStore.cases.modify 0 fun c =>
          c.moveTo .detected 0 }).idempotencyKeys }

/-- A reminder parked before the quiet hours and approved in them, a retry that takes the last
attempt, a discount on an amount above the budget are blocked; under a key that has failed the
parked result is replayed. -/
theorem blockedRoundTrips :
    roundTrip sampleRuntime sampleService (executionOf "send_notification" []) mediumValueStore
        (20 * hour + 30 * minute) (21 * hour) = some (some .blocked, 0) ∧
      roundTrip sampleRuntime { sampleService with settings := { maxRetryAttempts := 1 } }
        (executionOf "schedule_retry" [("scheduled_for", .str "tomorrow")]) mediumValueStore
        (12 * hour) (12 * hour + minute) = some (some .blocked, 0) ∧
      roundTrip percentRuntime sampleService
        (executionOf "offer_discount" [("discount_percent", .str "5")]) mediumValueStore
        (12 * hour) (12 * hour + minute) = some (some .blocked, 0) ∧
      roundTrip sampleRuntime sampleService (executionOf "send_notification" []) failedKeyStore
        (12 * hour) (12 * hour + minute) = some (some .approvalRequired, 0) := by
  refine ⟨?_, ?_, ?_, ?_⟩
  · decide +kernel
  · decide +kernel
  · decide +kernel
  · decide +kernel

end ReviveX
