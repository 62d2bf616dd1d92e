import ReviveX.Tools.Approvals
import ReviveX.Tools.ExecutionTheorems

/-!
# What a decision does

`ApproveOutcome` and `RejectOutcome` list what `approveAction` and `rejectAction` can do:
refuse, expire the approval, or decide it. An approval that is granted goes on with an
`ExecuteOutcome` from the store in which it was granted.
-/

namespace ReviveX

open Lib (Session Table)

variable {rt : Runtime} {svc : ToolExecutionService} {caller : Caller} {s s' : Store}
  {args : DecisionArgs} {d : Decision}

/-! ## Loading -/

/-- The rows a decision is about, as they were loaded. -/
structure Loaded (s : Store) (args : DecisionArgs) (d : Decision) : Prop where
  args_eq : d.args = args
  row : s.cases.get? args.caseId = some d.case
  merchant : args.merchantId = none ∨ args.merchantId = some d.case.merchantId
  action : s.actions.get? args.actionId = some d.action
  owner : d.action.merchantId = d.case.merchantId
  newest : s.newestApproval args.caseId args.actionId = some d.approvalId
  approval : s.approvals.get? d.approvalId = some d.approval
  approvalCase : d.approval.recoveryCaseId = args.caseId
  approvalAction : d.approval.recoveryActionId = some args.actionId

theorem loaded_of_loadDecision (h : loadDecision s args = .ok d) : Loaded s args d := by
  unfold loadDecision at h
  obtain ⟨c, hc, h⟩ := Lib.bind_eq_ok.mp h
  obtain ⟨_, hmerchant, h⟩ := Lib.bind_eq_ok.mp h
  obtain ⟨action, haction, h⟩ := Lib.bind_eq_ok.mp h
  obtain ⟨⟨approvalId, approval⟩, hpending, h⟩ := Lib.bind_eq_ok.mp h
  obtain rfl := Except.ok.inj h
  -- each lookup, with what it checked
  have hsame : args.merchantId = none ∨ args.merchantId = some c.merchantId := by
    unfold assertSameMerchant at hmerchant
    split at hmerchant
    · exact absurd hmerchant (by simp)
    · rename_i hmatch
      cases hgiven : args.merchantId with
      | none => exact .inl rfl
      | some m => simpa [hgiven] using hmatch
  have hfound : s.actions.get? args.actionId = some action ∧
      action.merchantId = c.merchantId := by
    unfold loadAction at haction
    split at haction
    · rename_i a hrow
      obtain rfl := Except.ok.inj haction
      obtain ⟨hget, howner⟩ := Option.filter_eq_some_iff.mp hrow
      exact ⟨hget, by simpa using howner⟩
    · exact absurd haction (by simp)
  have hnewest : s.newestApproval args.caseId args.actionId = some approvalId ∧
      s.approvals.get? approvalId = some approval := by
    unfold pendingApproval at hpending
    split at hpending
    · rename_i found hsome
      obtain rfl := Except.ok.inj hpending
      obtain ⟨i, hi, hrow⟩ := Option.bind_eq_some_iff.mp hsome
      obtain ⟨a, ha, heq⟩ := Option.map_eq_some_iff.mp hrow
      obtain ⟨rfl, rfl⟩ := Prod.mk.inj heq
      exact ⟨hi, ha⟩
    · exact absurd hpending (by simp)
  obtain ⟨a, ha, hmatches⟩ := Table.get?_of_findLastId? hnewest.1
  obtain rfl := Option.some.inj (hnewest.2.symm.trans ha)
  have hboth : approval.recoveryCaseId = args.caseId ∧
      approval.recoveryActionId = some args.actionId := by
    simpa using hmatches
  exact ⟨rfl, lockedCase_eq_ok.mp hc, hsame, hfound.1, hfound.2, hnewest.1, hnewest.2,
    hboth.1, hboth.2⟩

/-! ## Approving -/

/-- An approval row that its time has run out for. -/
def Approval.expire (a : Approval) : Approval := { a with status := .expired }

/-- The approval row after a human approved. -/
def Approval.grant (a : Approval) (caller : Caller) : Approval :=
  { a with
    status := .approved, decidedBy := caller.actorId, decidedAt := some caller.now }

/-- The store after an approval was granted, up to an audit row. -/
def Store.granted (s : Store) (caller : Caller) (d : Decision) : Store :=
  { s with
    approvals := s.approvals.modify d.approvalId (·.grant caller)
    actions := s.actions.modify d.args.actionId fun a => { a with status := .approved }
    trace := s.trace ++ [.approvalDecided d.approvalId .approved] }

/-- The decision reaches `execute`: its approval is pending and in time, and its action
may be approved. -/
structure Grantable (caller : Caller) (d : Decision) : Prop where
  pending : d.approval.status = .pending
  inTime : d.approval.isExpired caller.now = false
  approvable : approvableStatuses.contains d.action.status = true

/-- What a call of `approve_action` can do. -/
inductive ApproveOutcome (rt : Runtime) (svc : ToolExecutionService) (caller : Caller)
    (args : DecisionArgs) (s : Store) : Except Failure ToolExecutionResult → Store → Prop
  | refused {f : Failure} (hload : loadDecision s args = .error f) :
      ApproveOutcome rt svc caller args s (.error f) s
  | expired {d : Decision} {code message : String} (hload : loadDecision s args = .ok d)
      (hpending : d.approval.status = .pending)
      (hexpired : d.approval.isExpired caller.now = true) :
      ApproveOutcome rt svc caller args s (.error (toolValidationError code message))
        { s with approvals := s.approvals.modify d.approvalId Approval.expire }
  | decided {d : Decision} {code message : String} (hload : loadDecision s args = .ok d)
      (hdecided : d.approval.status ≠ .pending ∨
        approvableStatuses.contains d.action.status = false) :
      ApproveOutcome rt svc caller args s (.error (toolValidationError code message)) s
  | granted {d : Decision} {s₀ s' : Store} {x : Except Failure ToolExecutionResult}
      (hload : loadDecision s args = .ok d) (hgrantable : Grantable caller d)
      (hrecorded : Recorded (s.granted caller d) s₀)
      (hexecute : ExecuteOutcome rt svc caller (approvedExecution d) s₀ x s') :
      ApproveOutcome rt svc caller args s x s'

theorem assertPending_outcome (caller : Caller) (d : Decision) (s : Store) :
    (assertPending caller d).run s = (.ok (), s) ∧ d.approval.status = .pending ∧
        d.approval.isExpired caller.now = false ∨
    (∃ code message, (assertPending caller d).run s =
        (.error (toolValidationError code message),
          { s with approvals := s.approvals.modify d.approvalId Approval.expire })) ∧
      d.approval.status = .pending ∧ d.approval.isExpired caller.now = true ∨
    (∃ code message, (assertPending caller d).run s =
        (.error (toolValidationError code message), s)) ∧ d.approval.status ≠ .pending := by
  unfold assertPending
  split
  · rename_i hlate
    exact .inr (.inl ⟨⟨_, _, rfl⟩, hlate.1, hlate.2⟩)
  · rename_i htimely
    split
    · rename_i hexpired
      exact .inr (.inr ⟨⟨_, _, rfl⟩, by rw [hexpired]; decide⟩)
    · split
      · rename_i hdecided
        exact .inr (.inr ⟨⟨_, _, rfl⟩, hdecided⟩)
      · rename_i hpending
        have hstatus : d.approval.status = .pending := not_not.mp hpending
        exact .inl ⟨rfl, hstatus, by simpa [hstatus] using htimely⟩

theorem markApproved_run (caller : Caller) (d : Decision) (s : Store) :
    ∃ s₀, (markApproved caller d).run s = (.ok (), s₀) ∧
      Recorded (s.granted caller d) s₀ :=
  ⟨_, rfl, rfl⟩

/-- An approval that is granted goes on with the execution of its action. -/
theorem run_approveAction (rt : Runtime) (svc : ToolExecutionService) {s₀ : Store}
    (hload : loadDecision s args = .ok d) (hgrantable : Grantable caller d)
    (hmark : (markApproved caller d).run s = (.ok (), s₀)) :
    (approveAction rt svc caller args).run s =
      (execute rt svc caller (approvedExecution d)).run s₀ := by
  have hpending : (assertPending caller d).run s = (.ok (), s) := by
    rcases assertPending_outcome caller d s with ⟨hrun, -, -⟩ | ⟨-, -, hexpired⟩ | ⟨-, hdecided⟩
    · exact hrun
    · exact absurd (hgrantable.inTime.symm.trans hexpired) (by simp)
    · exact absurd hgrantable.pending hdecided
  unfold approveAction assertApprovable
  rw [Session.run_get_bind, Session.run_ofExcept_bind, hload]
  dsimp only
  rw [Session.run_bind_ok hpending, if_pos hgrantable.approvable, Session.run_pure_bind,
    Session.run_bind_ok hmark]

theorem approveAction_outcome (rt : Runtime) (svc : ToolExecutionService) (caller : Caller)
    (args : DecisionArgs) (s : Store) :
    ApproveOutcome rt svc caller args s ((approveAction rt svc caller args).run s).1
      ((approveAction rt svc caller args).run s).2 := by
  unfold approveAction
  rw [Session.run_get_bind, Session.run_ofExcept_bind]
  cases hload : loadDecision s args with
  | error f => exact .refused hload
  | ok d =>
    dsimp only
    rcases assertPending_outcome caller d s with ⟨hrun, hpending, hintime⟩ |
      ⟨⟨code, message, hrun⟩, hpending, hexpired⟩ | ⟨⟨code, message, hrun⟩, hdecided⟩
    · rw [Session.run_bind_ok hrun]
      unfold assertApprovable
      cases happrovable : approvableStatuses.contains d.action.status with
      | false => exact .decided hload (.inr happrovable)
      | true =>
        obtain ⟨s₀, hmark, hrecorded⟩ := markApproved_run caller d s
        rw [if_pos rfl, Session.run_pure_bind, Session.run_bind_ok hmark]
        exact .granted hload ⟨hpending, hintime, happrovable⟩ hrecorded
          (execute_outcome rt svc caller (approvedExecution d) s₀)
    · rw [Session.run_bind_error hrun]
      exact .expired hload hpending hexpired
    · rw [Session.run_bind_error hrun]
      exact .decided hload (.inl hdecided)

/-- An approval that returned was granted. -/
theorem granted_of_approveAction_ok {r : ToolExecutionResult}
    (h : ((approveAction rt svc caller args).run s).1 = .ok r) :
    ∃ d, loadDecision s args = .ok d ∧ Grantable caller d := by
  have houtcome := approveAction_outcome rt svc caller args s
  rw [h] at houtcome
  cases houtcome with
  | granted hload hgrantable hrecorded hexecute => exact ⟨_, hload, hgrantable⟩

/-! ## Rejecting -/

/-- The approval row after a human rejected. -/
def Approval.reject (a : Approval) (caller : Caller) (reason : Option String) : Approval :=
  { a with
    status := .rejected
    decidedBy := caller.actorId
    decidedAt := some caller.now
    decisionReason := some ((givenText reason).getD "Rejected by operator") }

/-- The idempotency keys after the key of a rejected action failed. -/
def Store.failedKeys (s : Store) (caller : Caller) (d : Decision) :
    AList (fun _ : ℕ × String => IdempotencyKey) :=
  match s.idempotencyKeys.lookup (d.case.merchantId, d.action.idempotencyKey) with
  | some row =>
    s.idempotencyKeys.insert (d.case.merchantId, d.action.idempotencyKey)
      (row.fail caller.now "APPROVAL_REJECTED")
  | none => s.idempotencyKeys

/-- The store after a rejection, up to bookkeeping. -/
def Store.rejected (s : Store) (caller : Caller) (d : Decision) : Store :=
  { s with
    approvals := s.approvals.modify d.approvalId (·.reject caller d.args.reason)
    actions := s.actions.modify d.args.actionId fun a => { a with status := .cancelled }
    idempotencyKeys := s.failedKeys caller d
    trace := s.trace ++ [.approvalDecided d.approvalId .rejected] }

/-- What a call of `reject_action` can do. -/
inductive RejectOutcome (caller : Caller) (args : DecisionArgs) (s : Store) :
    Except Failure ℕ → Store → Prop
  | refused {f : Failure} (hload : loadDecision s args = .error f) :
      RejectOutcome caller args s (.error f) s
  | rejected {d : Decision} {s' : Store} (hload : loadDecision s args = .ok d)
      (hkept : Bookkept args.caseId (s.rejected caller d) s') :
      RejectOutcome caller args s (.ok d.approvalId) s'

theorem escalateRejected_run (caller : Caller)
    (h : s.cases.get? d.args.caseId = some d.case) :
    ∃ s', (escalateRejected caller d).run s = (.ok (), s') ∧
      Bookkept d.args.caseId s s' := by
  unfold escalateRejected
  split
  · rename_i hwaiting
    have hlegal : canTransition d.case.status .escalated = true := by
      rw [hwaiting]
      decide
    obtain ⟨s', hrun, -, hkept⟩ := transitionCase_bookkept caller h hlegal
    exact ⟨s', hrun, hkept⟩
  · exact ⟨s, rfl, .refl _ s⟩

theorem run_failKey (caller : Caller) (d : Decision) (s : Store) :
    (Service.modifyKey d.case.merchantId d.action.idempotencyKey
      (·.fail caller.now "APPROVAL_REJECTED")).run s =
        (.ok (), { s with idempotencyKeys := s.failedKeys caller d }) := by
  unfold Service.modifyKey Store.failedKeys
  rw [Session.run_modify]
  cases s.idempotencyKeys.lookup (d.case.merchantId, d.action.idempotencyKey) <;> rfl

theorem rejectAction_outcome (caller : Caller) (args : DecisionArgs) (s : Store) :
    RejectOutcome caller args s ((rejectAction caller args).run s).1
      ((rejectAction caller args).run s).2 := by
  unfold rejectAction
  rw [Session.run_get_bind, Session.run_ofExcept_bind]
  cases hload : loadDecision s args with
  | error f => exact .refused hload
  | ok d =>
    have hloaded := loaded_of_loadDecision hload
    obtain rfl := hloaded.args_eq
    have hmark : ∃ s₁, (markRejected caller d).run s = (.ok (), s₁) ∧
        { s₁ with idempotencyKeys := s.failedKeys caller d } = s.rejected caller d ∧
        s₁.idempotencyKeys = s.idempotencyKeys := ⟨_, rfl, rfl, rfl⟩
    obtain ⟨s₁, hrun₁, hrejected, hkeys⟩ := hmark
    dsimp only
    rw [Session.run_bind_ok hrun₁, Session.run_bind_ok (run_failKey caller d s₁)]
    have hfailed : s₁.failedKeys caller d = s.failedKeys caller d := by
      unfold Store.failedKeys
      rw [hkeys]
    rw [hfailed, hrejected]
    have haudit : ∀ (eventType : AuditEventType) (s : Store),
        ∃ s', (auditDecision caller d eventType).run s = (.ok (), s') ∧ Recorded s s' :=
      fun eventType s => ⟨_, rfl, rfl⟩
    obtain ⟨s₂, hrun₂, hkept₂⟩ := haudit .approvalRejected (s.rejected caller d)
    obtain ⟨s₃, hrun₃, hkept₃⟩ := haudit .actionCancelled s₂
    have hrow₃ : s₃.cases.get? d.args.caseId = some d.case := by
      rw [hkept₃.cases, hkept₂.cases]
      exact hloaded.row
    obtain ⟨s₄, hrun₄, hkept₄⟩ := escalateRejected_run caller hrow₃
    rw [Session.run_bind_ok hrun₂, Session.run_bind_ok hrun₃, Session.run_bind_ok hrun₄]
    exact .rejected hload ((Bookkept.of_recorded (hkept₂.trans hkept₃)).trans hkept₄)

end ReviveX
