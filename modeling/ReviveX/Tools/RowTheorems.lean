import ReviveX.Domain.VerdictTheorems
import ReviveX.Tools.CommitTheorems

/-!
# Which action row a call writes

A call of `execute` writes at most one action row: the one that its `existing_action_id` or
its key finds (`Rewrites`), else a new one. Every other row of the table is as before.
-/

namespace ReviveX

open Lib (Session Table)

variable {rt : Runtime} {svc : ToolExecutionService} {caller : Caller} {now : Time}
  {request : ToolRequest} {s s' : Store} {args : ExecuteArgs} {action : RecoveryActionType}
  {evaluation : PolicyEvaluationResult} {a : RecoveryAction} {i : ℕ}

/-! ## Branches -/

/-- The case may have the side effects of the tool. -/
theorem toolBranch_ne_invalidState (h : toolBranch request evaluation ≠ .invalidState) :
    (request.tool.spec.sideEffect &&
      !sideEffectExecuteStates.contains request.case.status) = false := by
  by_contra hinvalid
  rw [Bool.not_eq_false] at hinvalid
  unfold toolBranch at h
  rw [if_pos hinvalid] at h
  exact h rfl

theorem toolBranch_eq (h : toolBranch request evaluation ≠ .invalidState) :
    toolBranch request evaluation = match actionForTool request.tool with
      | none => .run
      | some action =>
        if !evaluation.allowed then .blocked action
        else if evaluation.requiresApproval && !request.args.approvedExecution then
          .approval action
        else .run := by
  have hvalid := toolBranch_ne_invalidState h
  unfold toolBranch
  refine (if_neg (by rw [hvalid]; decide)).trans ?_
  cases actionForTool request.tool <;> rfl

/-- A blocked action is denied. -/
theorem toolBranch_blocked (h : toolBranch request evaluation = .blocked action) :
    actionForTool request.tool = some action ∧ evaluation.allowed = false := by
  have hbranch := toolBranch_eq (h.trans_ne (by simp))
  rw [hbranch] at h
  split at h
  · cases h
  · rename_i found hfound
    split at h
    · rename_i hdenied
      obtain rfl := ToolBranch.blocked.inj h
      exact ⟨hfound, by simpa using hdenied⟩
    · split at h <;> cases h

/-- A parked action needs an approval that it does not come with. -/
theorem toolBranch_approval (h : toolBranch request evaluation = .approval action) :
    actionForTool request.tool = some action ∧ evaluation.allowed = true ∧
      evaluation.requiresApproval = true ∧ request.args.approvedExecution = false := by
  have hbranch := toolBranch_eq (h.trans_ne (by simp))
  rw [hbranch] at h
  split at h
  · cases h
  · rename_i found hfound
    split at h
    · cases h
    · rename_i hallowed
      split at h
      · rename_i hneeds
        obtain rfl := ToolBranch.approval.inj h
        rw [Bool.and_eq_true] at hneeds
        exact ⟨hfound, by simpa using hallowed, hneeds.1, by simpa using hneeds.2⟩
      · cases h

/-- The tool of an action runs when it is allowed and approved, should it need to be. -/
theorem toolBranch_run (h : toolBranch request evaluation = .run)
    (haction : actionForTool request.tool = some action) :
    evaluation.allowed = true ∧
      (evaluation.requiresApproval = true → request.args.approvedExecution = true) := by
  have hbranch := toolBranch_eq (h.trans_ne (by simp))
  rw [hbranch, haction] at h
  dsimp only at h
  split at h
  · cases h
  · rename_i hallowed
    split at h
    · cases h
    · rename_i hneeds
      refine ⟨by simpa using hallowed, fun happroval => ?_⟩
      simpa [happroval] using hneeds

/-! ## Verdicts -/

/-- What is proposed for a tool is its action, at most with a percentage. -/
theorem proposedFromPayload_ok {input : Payload} {proposed : ProposedAction}
    (h : proposedFromPayload rt action input = .ok proposed) :
    proposed.actionType = action.text ∧ proposed.discountAmount = none := by
  unfold proposedFromPayload at h
  split at h
  · obtain rfl := Except.ok.inj h
    exact ⟨rfl, rfl⟩
  · obtain rfl := Except.ok.inj h
    exact ⟨rfl, rfl⟩
  · split at h
    · obtain rfl := Except.ok.inj h
      exact ⟨rfl, rfl⟩
    · cases h

/-- The verdict on an action was given on the case's own context. -/
structure Judged (rt : Runtime) (svc : ToolExecutionService) (now : Time) (s : Store)
    (request : ToolRequest) (action : RecoveryActionType) (merchant : Merchant)
    (proposed : ProposedAction) (verdict : ToolVerdict) : Prop where
  context : ContextOf { settings := svc.settings, py := rt.py } s request.args.caseId
    request.case now merchant verdict.ctx
  proposal : proposedFromPayload rt action request.input = .ok proposed
  evaluated : evaluateAction verdict.ctx proposed = .ok verdict.evaluation

theorem judgeTool_ok {verdict : ToolVerdict}
    (haction : actionForTool request.tool = some action)
    (h : judgeTool rt svc now s request = .ok verdict) :
    ∃ proposed, proposedFromPayload rt action request.input = .ok proposed ∧
      buildPolicyContext { settings := svc.settings, py := rt.py } s request.args.caseId
        request.case now = .ok verdict.ctx ∧
      evaluateAction verdict.ctx proposed = .ok verdict.evaluation := by
  unfold judgeTool at h
  rw [haction] at h
  dsimp only at h
  obtain ⟨proposed, hproposed, h⟩ := Lib.bind_eq_ok.mp h
  obtain ⟨ctx, hctx, h⟩ := Lib.bind_eq_ok.mp h
  obtain ⟨evaluation, hevaluation, h⟩ := Lib.bind_eq_ok.mp h
  obtain rfl := Except.ok.inj h
  exact ⟨proposed, hproposed, hctx, hevaluation⟩

theorem judged_of_judgeTool {verdict : ToolVerdict}
    (haction : actionForTool request.tool = some action)
    (h : judgeTool rt svc now s request = .ok verdict) :
    ∃ merchant proposed, Judged rt svc now s request action merchant proposed verdict := by
  obtain ⟨proposed, hproposed, hctx, hevaluation⟩ := judgeTool_ok haction h
  obtain ⟨merchant, hcontext⟩ := contextOf_of_build hctx
  exact ⟨merchant, proposed, hcontext, hproposed, hevaluation⟩

/-- The action that was proposed. -/
theorem Judged.action_eq {merchant : Merchant} {proposed : ProposedAction}
    {verdict : ToolVerdict} (h : Judged rt svc now s request action merchant proposed verdict) :
    RecoveryActionType.ofText? proposed.actionType = some action := by
  rw [(proposedFromPayload_ok h.proposal).1]
  exact RecoveryActionType.ofText?_text action

/-! ## The row -/

/-- The call gets past its key, its case and its approval, and finds the row `i` to write on. -/
def Rewrites (rt : Runtime) (svc : ToolExecutionService) (caller : Caller)
    (args : ExecuteArgs) (s : Store) (i : ℕ) : Prop :=
  ∃ request row verdict, admitRequest rt s args = .ok request ∧
    HoldsKey s request caller.now row ∧
    judgeTool rt svc caller.now s request = .ok verdict ∧
    (actionForTool request.tool).isSome = true ∧
    toolBranch request verdict.evaluation ≠ .invalidState ∧
    (toolBranch request verdict.evaluation = .run → request.args.approvedExecution = true →
      UsableApproval s request caller.now) ∧
    s.existingAction request.case.merchantId request.args.idempotencyKey
      request.args.existingActionId = some i

/-- From the store `s`, the run of the request writes on the row `i`. -/
def RunRewrites (rt : Runtime) (svc : ToolExecutionService) (caller : Caller)
    (request : ToolRequest) (s : Store) (i : ℕ) : Prop :=
  ∃ verdict, judgeTool rt svc caller.now s request = .ok verdict ∧
    (actionForTool request.tool).isSome = true ∧
    toolBranch request verdict.evaluation ≠ .invalidState ∧
    (toolBranch request verdict.evaluation = .run → request.args.approvedExecution = true →
      UsableApproval s request caller.now) ∧
    s.existingAction request.case.merchantId request.args.idempotencyKey
      request.args.existingActionId = some i

theorem rewrites_iff : Rewrites rt svc caller args s i ↔
    ∃ request row, admitRequest rt s args = .ok request ∧ HoldsKey s request caller.now row ∧
      RunRewrites rt svc caller request s i := by
  constructor
  · rintro ⟨request, row, verdict, hadmits, hholds, hrun⟩
    exact ⟨request, row, hadmits, hholds, verdict, hrun⟩
  · rintro ⟨request, row, hadmits, hholds, verdict, hrun⟩
    exact ⟨request, row, verdict, hadmits, hholds, hrun⟩

/-- A denied or parked action is written on the row that is found. -/
theorem runRewrites_of_refusal {verdict : ToolVerdict}
    (hjudged : judgeTool rt svc caller.now s request = .ok verdict)
    (hbranch : toolBranch request verdict.evaluation = .blocked action ∨
      toolBranch request verdict.evaluation = .approval action)
    (hfound : s.existingAction request.case.merchantId request.args.idempotencyKey
      request.args.existingActionId = some i) :
    RunRewrites rt svc caller request s i := by
  have htool : actionForTool request.tool = some action := by
    rcases hbranch with hblocked | hparked
    · exact (toolBranch_blocked hblocked).1
    · exact (toolBranch_approval hparked).1
  refine ⟨verdict, hjudged, ?_, ?_, ?_, hfound⟩
  · rw [htool]
    rfl
  · rcases hbranch with hbranch | hbranch <;> rw [hbranch] <;> simp
  · rcases hbranch with hbranch | hbranch <;> rw [hbranch] <;> exact fun hrun => nomatch hrun

/-- An action whose handler is entered is written on the row that is found. -/
theorem runRewrites_of_run {verdict : ToolVerdict}
    (hjudged : judgeTool rt svc caller.now s request = .ok verdict)
    (hbranch : toolBranch request verdict.evaluation = .run)
    (haction : actionForTool request.tool = some action)
    (husable : request.args.approvedExecution = true → UsableApproval s request caller.now)
    (hfound : s.existingAction request.case.merchantId request.args.idempotencyKey
      request.args.existingActionId = some i) :
    RunRewrites rt svc caller request s i := by
  refine ⟨verdict, hjudged, ?_, ?_, fun _ => husable, hfound⟩
  · rw [haction]
    rfl
  · rw [hbranch]
    simp

/-- `_upsert_action` leaves a row alone that it does not find. -/
theorem upserted_get?_of_some (haction : s.actions.get? i = some a)
    (hother : s.existingAction request.case.merchantId request.args.idempotencyKey
      request.args.existingActionId ≠ some i) (action : RecoveryActionType) (w : ActionWrite)
    (now : Time) :
    i ≠ s.upsertId request ∧ (s.upserted request action w now).get? i = some a := by
  have hne : i ≠ s.upsertId request := by
    rintro rfl
    rcases upserted_get? s request action w now with ⟨-, -, hfound, -⟩ | ⟨hnew, -, -⟩
    · exact hother hfound
    · have hlt := Table.lt_nextId haction
      omega
  exact ⟨hne, by rw [upserted_get?_ne hne, haction]⟩

/-- What a verdict leads to leaves a row alone that the request does not find. -/
theorem Written.action_kept {verdict : ToolVerdict} {row : IdempotencyKey}
    (h : Written rt svc caller request verdict row s s') (haction : s.actions.get? i = some a)
    (hother : (actionForTool request.tool).isSome = true →
      s.existingAction request.case.merchantId request.args.idempotencyKey
        request.args.existingActionId ≠ some i) :
    s'.actions.get? i = some a := by
  have hsome : ∀ {action : RecoveryActionType}, actionForTool request.tool = some action →
      (actionForTool request.tool).isSome = true := by
    intro action htool
    rw [htool]
    rfl
  cases h with
  | refused happrovals hsame =>
    rw [hsame.actions]
    exact haction
  | @blocked action _ _ _ hbranch hstatus hsame =>
    have hrow := upserted_get?_of_some haction (hother (hsome (toolBranch_blocked hbranch).1))
      action (blockingWrite verdict.evaluation) caller.now
    rw [hsame.actions]
    exact hrow.2
  | @parked action _ _ _ hbranch hstatus hsame =>
    obtain ⟨hne, hrow⟩ := upserted_get?_of_some haction
      (hother (hsome (toolBranch_approval hbranch).1)) action
      (parkingWrite request verdict.evaluation.riskLevel) caller.now
    rw [hsame.actions]
    unfold Store.parked Store.withApproval
    dsimp only
    rw [Table.get?_modify_ne _ (Ne.symm hne)]
    exact hrow
  | handled hreturned hstatus hsame =>
    rw [hsame.actions]
    unfold Store.handledActions Store.startedActions Store.startedId
    dsimp only
    cases htool : actionForTool request.tool with
    | none => exact haction
    | some action =>
      obtain ⟨hne, hrow⟩ := upserted_get?_of_some haction (hother (hsome htool)) action
        (startingWrite request verdict.evaluation.riskLevel) caller.now
      dsimp only [Option.map_some]
      rw [Table.get?_modify_ne _ (Ne.symm hne)]
      exact hrow

/-- A row that the call does not find is as before. -/
theorem Executed.action_kept (h : Executed rt svc caller args s s')
    (haction : s.actions.get? i = some a) (hother : ¬ Rewrites rt svc caller args s i) :
    s'.actions.get? i = some a := by
  -- the run finds another row
  have hfound : ∀ {request : ToolRequest} {row : IdempotencyKey},
      admitRequest rt s args = .ok request → HoldsKey s request caller.now row →
      ¬ RunRewrites rt svc caller request s i :=
    fun hadmits hholds hrun => hother (rewrites_iff.mpr ⟨_, _, hadmits, hholds, hrun⟩)
  cases h with
  | idle => exact haction
  | refused hadmits hholds happrovals hsame =>
    rw [hsame.actions]
    exact haction
  | blocked hadmits hholds hjudged hbranch hstatus hsame =>
    have hwritten : Written rt svc caller _ _ _ s s' := .blocked hbranch hstatus hsame
    exact hwritten.action_kept haction fun _ h =>
      hfound hadmits hholds (runRewrites_of_refusal hjudged (.inl hbranch) h)
  | parked hadmits hholds hjudged hbranch hstatus hsame =>
    have hwritten : Written rt svc caller _ _ _ s s' := .parked hbranch hstatus hsame
    exact hwritten.action_kept haction fun _ h =>
      hfound hadmits hholds (runRewrites_of_refusal hjudged (.inr hbranch) h)
  | handled hadmits hholds hhandling hstatus hsame =>
    refine (Written.handled ⟨hhandling.branch, hhandling.usable, hhandling.lifecycle,
      hhandling.returned⟩ hstatus hsame).action_kept haction fun hsome h => ?_
    obtain ⟨action, htool⟩ := Option.isSome_iff_exists.mp hsome
    exact hfound hadmits hholds
      (runRewrites_of_run hhandling.judged hhandling.branch htool hhandling.usable h)

/-- The row that an action has written when its handler returned: one that was found, or a
new one, with the result recorded on it. -/
theorem handledActions_row (s : Store) {action : RecoveryActionType} (riskLevel : RiskLevel)
    (handled : HandlerResult) (now : Time) (htool : actionForTool request.tool = some action) :
    ∃ a : RecoveryAction,
      (s.handledActions request riskLevel handled now).get? (s.upsertId request) =
        some (a.record handled now) ∧
      ((∃ a₀, s.actions.get? (s.upsertId request) = some a₀ ∧
        s.existingAction request.case.merchantId request.args.idempotencyKey
          request.args.existingActionId = some (s.upsertId request) ∧
        a = (startingWrite request riskLevel).onto a₀) ∨
      (s.upsertId request = s.actions.nextId ∧
        a = (startingWrite request riskLevel).newRow s request action now)) := by
  unfold Store.handledActions Store.startedActions Store.startedId
  rw [htool]
  dsimp only [Option.map_some]
  rw [Table.get?_modify_self]
  rcases upserted_get? s request action (startingWrite request riskLevel) now with
    ⟨a₀, ha₀, hfound, hwritten⟩ | ⟨hnew, -, hwritten⟩
  · rw [hwritten]
    exact ⟨_, rfl, .inl ⟨a₀, ha₀, hfound, rfl⟩⟩
  · rw [hwritten]
    exact ⟨_, rfl, .inr ⟨hnew, rfl⟩⟩

end ReviveX
