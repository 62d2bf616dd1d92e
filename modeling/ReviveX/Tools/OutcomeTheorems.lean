import ReviveX.Tools.ReplayTheorems

/-!
# The case after a successful tool

Each tool with a side effect declares the status in which it leaves the case.
`apply_case_outcome` knows only some of the moves there: from the other statuses in which the
tool may run it succeeds and the case stays where it is.
-/

namespace ReviveX

open Lib (Session Table)

variable {rt : Runtime} {svc : ToolExecutionService} {caller : Caller} {request : ToolRequest}
  {s s' s'' : Store} {args : ExecuteArgs} {caseId : ℕ} {c : RecoveryCase} {tool : ToolName}
  {current target : RecoveryCaseStatus} {r : ToolExecutionResult} {verdict : ToolVerdict}

/-! ## Declared outcomes -/

/-- The status that the handler of a tool declares. -/
def declaredOutcome : ToolName → Option RecoveryCaseStatus
  | .retryPayment | .createPaymentLink | .sendNotification | .offerDiscount =>
    some .actionCompleted
  | .scheduleRetry => some .retryScheduled
  | .escalateToHuman => some .escalated
  | .pauseRecovery => some .stopped
  | _ => none

/-- The statuses from which the outcome of a tool is applied. -/
def outcomeSources : ToolName → List RecoveryCaseStatus
  | .scheduleRetry => [.policyCheck, .retryScheduled]
  | .escalateToHuman | .pauseRecovery => [.policyCheck, .awaitingApproval, .failed, .notRecovered]
  | _ => [.policyCheck, .awaitingApproval, .executing, .actionCompleted]

/-- The tools with a side effect are those that declare an outcome. -/
theorem spec_sideEffect_eq (tool : ToolName) :
    tool.spec.sideEffect = (declaredOutcome tool).isSome := by
  cases tool <;> rfl

/-- The status in which a run that reaches its handler leaves the case before the handler. -/
def startedStatus (tool : ToolName) (current : RecoveryCaseStatus) : RecoveryCaseStatus :=
  if !staysInPlace tool ∧ (current = .policyCheck ∨ current = .awaitingApproval) then
    .executing
  else current

/-- The status in which `apply_case_outcome` leaves a case. -/
def outcomeStatus (target : Option RecoveryCaseStatus) (current : RecoveryCaseStatus) :
    RecoveryCaseStatus :=
  match target with
  | some .actionCompleted =>
    if [RecoveryCaseStatus.policyCheck, .awaitingApproval, .executing].contains current then
      .actionCompleted
    else current
  | some .retryScheduled => if current = .policyCheck then .retryScheduled else current
  | some .escalated =>
    if [RecoveryCaseStatus.policyCheck, .awaitingApproval, .failed, .notRecovered].contains
        current then .escalated
    else current
  | some .stopped =>
    if [RecoveryCaseStatus.policyCheck, .awaitingApproval, .failed, .notRecovered].contains
        current then .stopped
    else current
  | _ => current

/-- Among the statuses in which a side effect is admitted, the sources are those that lead to
the declared outcome. -/
theorem outcomeStatus_eq_iff (hdeclared : declaredOutcome tool = some target)
    (hadmitted : sideEffectExecuteStates.contains current = true) :
    outcomeStatus (some target) (startedStatus tool current) = target ↔
      current ∈ outcomeSources tool := by
  cases tool <;> cases hdeclared <;> revert hadmitted <;> cases current <;> decide

/-! ## Handlers -/

/-- A handler that succeeds declares the status. -/
def HandlerResult.Declares (target : RecoveryCaseStatus) (handled : HandlerResult) : Prop :=
  handled.success = true → handled.caseStatus = some target

theorem HandlerResult.Declares.of_failure {handled : HandlerResult}
    (h : handled.success = false) : handled.Declares target := by
  intro hsuccess
  rw [h] at hsuccess
  cases hsuccess

/-- Every handler with a side effect declares the outcome of its tool. -/
theorem handlers_declare (rt : Runtime) (svc : ToolExecutionService) (now : Time)
    (ctx : HandlerContext) (hdeclared : declaredOutcome tool = some target) :
    Session.Returns (HandlerResult.Declares target) (handlers rt svc now ctx tool) := by
  cases tool with
  | retryPayment =>
    obtain rfl := Option.some.inj hdeclared
    change Session.Returns _ (handleRetryPayment svc ctx)
    unfold handleRetryPayment
    split
    · exact .pure (.of_failure rfl)
    · refine .bind fun s => .bind fun _ => ?_
      unfold finishRetry
      split
      · exact .pure (.of_failure rfl)
      · exact .bind fun _ => .pure fun _ => rfl
  | createPaymentLink =>
    obtain rfl := Option.some.inj hdeclared
    refine .bind fun s => .bind fun _ => ?_
    unfold finishPaymentLink
    split
    · exact .pure (.of_failure rfl)
    · split
      · exact .raise _
      · exact .bind fun _ => .pure fun _ => rfl
  | sendNotification =>
    obtain rfl := Option.some.inj hdeclared
    change Session.Returns _ (handleSendNotification now ctx)
    unfold handleSendNotification
    split
    · exact .pure (.of_failure rfl)
    · exact .bind fun _ => .pure fun _ => rfl
  | offerDiscount =>
    obtain rfl := Option.some.inj hdeclared
    exact .bind fun _ => .bind fun _ => .bind fun _ => .pure fun _ => rfl
  | scheduleRetry =>
    obtain rfl := Option.some.inj hdeclared
    exact .bind fun _ => .pure fun _ => rfl
  | escalateToHuman | pauseRecovery =>
    obtain rfl := Option.some.inj hdeclared
    exact .pure fun _ => rfl
  | _ => cases hdeclared

/-! ## The status along a run -/

/-- The case stands in a status. -/
def Store.StandsIn (s : Store) (caseId : ℕ) (status : RecoveryCaseStatus) : Prop :=
  ∃ c, s.cases.get? caseId = some c ∧ c.status = status

theorem Store.StandsIn.of_cases {status : RecoveryCaseStatus} (h : s.StandsIn caseId status)
    (hcases : s'.cases = s.cases) : s'.StandsIn caseId status := by
  unfold Store.StandsIn
  rw [hcases]
  exact h

/-- A case stands in one status only. -/
theorem Store.StandsIn.eq (h : s.StandsIn caseId current) (h' : s.StandsIn caseId target) :
    current = target := by
  obtain ⟨c, hc, rfl⟩ := h
  obtain ⟨c', hc', rfl⟩ := h'
  obtain rfl := Option.some.inj (hc.symm.trans hc')
  rfl

/-- A legal transition that returned moved the case. -/
theorem transitionCase_standsIn {caller : Caller} (hc : s.cases.get? caseId = some c)
    (hlegal : canTransition c.status target = true)
    (hrun : (transitionCase caller caseId target).run s = (.ok (), s')) :
    s'.cases.get? caseId = some (c.moveTo target caller.now) := by
  obtain ⟨s₁, hrun₁, hrow, -⟩ := transitionCase_bookkept caller hc hlegal
  rw [hrun] at hrun₁
  rw [(Prod.mk.inj hrun₁).2]
  exact hrow

theorem completeAction_standsIn (hc : s.cases.get? caseId = some c)
    (hrun : (completeAction caller caseId c.status).run s = (.ok (), s')) :
    s'.StandsIn caseId (outcomeStatus (some .actionCompleted) c.status) := by
  unfold completeAction at hrun
  by_cases hwaiting : c.status = .policyCheck ∨ c.status = .awaitingApproval
  · rw [if_pos hwaiting] at hrun
    obtain ⟨_, s₁, hrun₁, hrun₂⟩ := Session.run_bind_eq_ok.mp hrun
    have hlegal : canTransition c.status .executing = true := by
      rcases hwaiting with hstatus | hstatus <;> rw [hstatus] <;> decide
    have hrow₁ := transitionCase_standsIn hc hlegal hrun₁
    have hlegal₁ : canTransition (c.moveTo .executing caller.now).status .actionCompleted =
        true := by
      rw [moveTo_status]
      decide
    refine ⟨_, transitionCase_standsIn hrow₁ hlegal₁ hrun₂, ?_⟩
    rw [moveTo_status]
    rcases hwaiting with hstatus | hstatus <;> rw [hstatus] <;> rfl
  · rw [if_neg hwaiting] at hrun
    by_cases hexecuting : c.status = .executing
    · rw [if_pos hexecuting] at hrun
      have hlegal : canTransition c.status .actionCompleted = true := by
        rw [hexecuting]
        decide
      refine ⟨_, transitionCase_standsIn hc hlegal hrun, ?_⟩
      rw [moveTo_status, hexecuting]
      rfl
    · rw [if_neg hexecuting] at hrun
      obtain rfl := (Prod.mk.inj hrun).2
      refine ⟨c, hc, ?_⟩
      unfold outcomeStatus
      dsimp only
      rw [if_neg]
      simp only [List.contains_cons, List.contains_nil, Bool.or_false, Bool.or_eq_true,
        beq_iff_eq]
      rintro (hstatus | hstatus | hstatus)
      · exact hwaiting (.inl hstatus)
      · exact hwaiting (.inr hstatus)
      · exact hexecuting hstatus

/-- `apply_case_outcome`. -/
theorem applyCaseOutcome_standsIn {target : Option RecoveryCaseStatus}
    (hc : s.cases.get? caseId = some c)
    (hrun : (applyCaseOutcome caller caseId target).run s = (.ok (), s')) :
    s'.StandsIn caseId (outcomeStatus target c.status) := by
  unfold applyCaseOutcome at hrun
  rw [run_readCase_bind hc] at hrun
  -- a move that the guard admits, or none
  have hguarded : ∀ {guard : Prop} [Decidable guard] {status : RecoveryCaseStatus},
      (guard → canTransition c.status status = true) →
      (if guard then transitionCase caller caseId status else pure ()).run s = (.ok (), s') →
      s'.StandsIn caseId (if guard then status else c.status) := by
    intro guard _ status hlegal hran
    by_cases hguard : guard
    · rw [if_pos hguard] at hran ⊢
      exact ⟨_, transitionCase_standsIn hc (hlegal hguard) hran, moveTo_status _ _ _⟩
    · rw [if_neg hguard] at hran ⊢
      obtain rfl := (Prod.mk.inj hran).2
      exact ⟨c, hc, rfl⟩
  split at hrun
  · rename_i hthere
    obtain rfl := (Prod.mk.inj hrun).2
    refine ⟨c, hc, ?_⟩
    rw [← hthere]
    cases c.status <;> decide
  · split at hrun
    · exact completeAction_standsIn hc hrun
    · exact hguarded (fun hstatus => by rw [hstatus]; decide) hrun
    · refine hguarded (fun hstatus => ?_) hrun
      revert hstatus
      cases c.status <;> decide
    · refine hguarded (fun hstatus => ?_) hrun
      revert hstatus
      cases c.status <;> decide
    · obtain rfl := (Prod.mk.inj hrun).2
      refine ⟨c, hc, ?_⟩
      unfold outcomeStatus
      split <;> simp_all

/-! ## A run that succeeded -/

theorem beginExecuting_standsIn (hc : s.cases.get? request.args.caseId = some request.case)
    (hrun : (beginExecuting caller request).run s = (.ok (), s')) :
    s'.StandsIn request.args.caseId (startedStatus request.tool request.case.status) := by
  unfold beginExecuting at hrun
  unfold startedStatus
  split at hrun
  · rename_i hmoves
    have hlegal : canTransition request.case.status .executing = true := by
      rcases hmoves.2 with hstatus | hstatus <;> rw [hstatus] <;> decide
    rw [if_pos hmoves]
    exact ⟨_, transitionCase_standsIn hc hlegal hrun, moveTo_status _ _ _⟩
  · rename_i hstays
    obtain rfl := (Prod.mk.inj hrun).2
    rw [if_neg hstays]
    exact ⟨_, hc, rfl⟩

theorem startAction_standsIn {riskLevel : RiskLevel} {actionId : Option ℕ}
    (hc : s.cases.get? request.args.caseId = some request.case)
    (hdeclared : declaredOutcome request.tool = some target)
    (hrun : (startAction caller request riskLevel).run s = (.ok actionId, s')) :
    s'.StandsIn request.args.caseId (startedStatus request.tool request.case.status) := by
  unfold startAction at hrun
  cases haction : actionForTool request.tool with
  | none =>
    have hsideEffect := spec_sideEffect request.tool
    rw [spec_sideEffect_eq, hdeclared, haction] at hsideEffect
    cases hsideEffect
  | some action =>
    rw [haction] at hrun
    dsimp only at hrun
    obtain ⟨actionId, s₁, hupserted, hrun⟩ := Session.run_bind_eq_ok.mp hrun
    obtain ⟨_, s₂, hbegan, hrun⟩ := Session.run_bind_eq_ok.mp hrun
    obtain ⟨_, s₃, haudited, hrun⟩ := Session.run_bind_eq_ok.mp hrun
    obtain ⟨s₁', hupserted', hrecorded⟩ := upsertAction_run caller request action
      (startingWrite request riskLevel) s
    rw [hupserted] at hupserted'
    rw [← (Prod.mk.inj hupserted').2] at hrecorded
    have hc₁ : s₁.cases.get? request.args.caseId = some request.case := by
      rw [hrecorded.cases]
      exact hc
    have hcases : s'.cases = s₂.cases := by
      rw [← (Prod.mk.inj hrun).2, ← (Prod.mk.inj haudited).2]
    exact (beginExecuting_standsIn hc₁ hbegan).of_cases hcases

/-- The handler leaves the case alone and, when it succeeds, declares the outcome. -/
theorem callHandler_declares {policy : PolicyContext} {actionId : Option ℕ}
    {handled : HandlerResult} (hdeclared : declaredOutcome request.tool = some target)
    (hstands : s.StandsIn request.args.caseId current)
    (hrun : (callHandler rt svc caller request policy actionId).run s = (.ok handled, s')) :
    s'.StandsIn request.args.caseId current ∧ handled.Declares target := by
  obtain ⟨c, hc, hcurrent⟩ := hstands
  obtain ⟨s₂, ⟨handled', hran, hcall⟩ | ⟨f, hran, hcall⟩⟩ := callHandler_outcome rt svc caller
    request policy actionId hc
  · rw [hrun] at hcall
    obtain ⟨hhandled, hs'⟩ := Prod.mk.inj hcall
    obtain rfl := Except.ok.inj hhandled
    refine ⟨⟨c, ?_, hcurrent⟩, handlers_declare _ _ _ _ hdeclared _ _ _ hran⟩
    rw [hs']
    have hcases : s₂.cases = s.cases := handlers_cases hran
    dsimp only
    rw [hcases]
    exact hc
  · rw [hrun] at hcall
    cases (Prod.mk.inj hcall).1

/-- A run of its handler that succeeded left the case where the outcome is applied. -/
theorem runTool_standsIn (hc : s.cases.get? request.args.caseId = some request.case)
    (hdeclared : declaredOutcome request.tool = some target)
    (hrun : (runTool rt svc caller request verdict).run s = (.ok r, s'))
    (hsucceeded : r.status = .succeeded) :
    s'.StandsIn request.args.caseId
      (outcomeStatus (some target) (startedStatus request.tool request.case.status)) := by
  unfold runTool at hrun
  obtain ⟨_, s₁, hchecked, hrun₁⟩ := Session.run_bind_eq_ok.mp hrun
  obtain ⟨actionId, s₂, hstarted, hrun₂⟩ := Session.run_bind_eq_ok.mp hrun₁
  obtain ⟨handled, s₃, hhandled, hrun₃⟩ := Session.run_bind_eq_ok.mp hrun₂
  obtain ⟨_, s₄, hrecorded, hrun₄⟩ := Session.run_bind_eq_ok.mp hrun₃
  have hs₁ : s₁ = s := by
    rcases checkApproval_outcome caller.now request s with ⟨hpassed, -⟩ | ⟨f, _, hraised, -⟩
    · rw [hchecked] at hpassed
      exact (Prod.mk.inj hpassed).2
    · rw [hchecked] at hraised
      cases (Prod.mk.inj hraised).1
  subst hs₁
  obtain ⟨hstands, hdeclares⟩ := callHandler_declares hdeclared
    (startAction_standsIn hc hdeclared hstarted) hhandled
  have hs₄ := (Prod.mk.inj ((recordAction_run caller.now actionId handled s₃).symm.trans
    hrecorded)).2
  have hstands₄ : s₄.StandsIn request.args.caseId
      (startedStatus request.tool request.case.status) :=
    hstands.of_cases (by rw [← hs₄])
  obtain ⟨c, hc₄, hcurrent⟩ := hstands₄
  cases hsuccess : handled.success with
  | false =>
    -- a failure is reported as one
    rw [hsuccess, if_neg (by simp)] at hrun₄
    obtain ⟨_, s₅, -, hrun₅⟩ := Session.run_bind_eq_ok.mp hrun₄
    obtain ⟨_, s₆, -, hrun₆⟩ := Session.run_bind_eq_ok.mp hrun₅
    rw [← Except.ok.inj (Prod.mk.inj hrun₆).1] at hsucceeded
    cases hsucceeded
  | true =>
    rw [hsuccess, if_pos rfl] at hrun₄
    unfold reportSuccess at hrun₄
    obtain ⟨_, s₅, happlied, hrun₅⟩ := Session.run_bind_eq_ok.mp hrun₄
    rw [hdeclares hsuccess] at happlied
    have hstands₅ := applyCaseOutcome_standsIn hc₄ happlied
    rw [hcurrent] at hstands₅
    refine hstands₅.of_cases ?_
    -- the end of the report is an audit row at most
    dsimp only at hrun₅
    split at hrun₅
    · obtain ⟨_, s₆, haudited, hrun₆⟩ := Session.run_bind_eq_ok.mp hrun₅
      rw [← (Prod.mk.inj hrun₆).2, ← (Prod.mk.inj haudited).2]
    · rw [← (Prod.mk.inj hrun₅).2]

/-- A run that succeeded was admitted in its status, and left the case where the outcome is
applied. -/
theorem runAfterIdempotency_standsIn
    (hc : s.cases.get? request.args.caseId = some request.case)
    (hdeclared : declaredOutcome request.tool = some target)
    (hrun : (runAfterIdempotency rt svc caller request).run s = (.ok r, s'))
    (hsucceeded : r.status = .succeeded) :
    sideEffectExecuteStates.contains request.case.status = true ∧
      s'.StandsIn request.args.caseId
        (outcomeStatus (some target) (startedStatus request.tool request.case.status)) := by
  unfold runAfterIdempotency at hrun
  rw [Session.run_get_bind, Session.run_ofExcept_bind] at hrun
  cases hjudged : judgeTool rt svc caller.now s request with
  | error f =>
    rw [hjudged] at hrun
    cases (Prod.mk.inj hrun).1
  | ok verdict =>
    rw [hjudged] at hrun
    dsimp only at hrun
    obtain ⟨_, s₁, hpersisted, hrun₁⟩ := Session.run_bind_eq_ok.mp hrun
    obtain ⟨s₁', hpersisted', hrecorded⟩ := persistVerdict_run caller request verdict s
    rw [hpersisted] at hpersisted'
    rw [← (Prod.mk.inj hpersisted').2] at hrecorded
    have hc₁ : s₁.cases.get? request.args.caseId = some request.case := by
      rw [hrecorded.cases]
      exact hc
    -- only a run that enters the handler succeeds
    cases hbranch : toolBranch request verdict.evaluation with
    | invalidState =>
      rw [hbranch] at hrun₁
      cases (Prod.mk.inj hrun₁).1
    | blocked action =>
      rw [hbranch] at hrun₁
      obtain ⟨r', s₂, hblocked, hstatus, -⟩ := blockAction_run caller request action
        verdict.evaluation s₁
      rw [hrun₁] at hblocked
      rw [← Except.ok.inj (Prod.mk.inj hblocked).1, hsucceeded] at hstatus
      cases hstatus
    | approval action =>
      rw [hbranch] at hrun₁
      obtain ⟨r', s₂, _, hparked, hstatus, -⟩ := requestApproval_run caller action verdict hc₁
      rw [hrun₁] at hparked
      rw [← Except.ok.inj (Prod.mk.inj hparked).1, hsucceeded] at hstatus
      cases hstatus
    | run =>
      rw [hbranch] at hrun₁
      refine ⟨?_, runTool_standsIn hc₁ hdeclared hrun₁ hsucceeded⟩
      -- the branch would have been the refusal of the status
      by_contra hrefused
      unfold toolBranch at hbranch
      rw [spec_sideEffect_eq, hdeclared, if_pos (by simpa using hrefused)] at hbranch
      cases hbranch

theorem executeRequest_standsIn
    (hc : s.cases.get? request.args.caseId = some request.case)
    (hdeclared : declaredOutcome request.tool = some target)
    (hrun : (executeRequest rt svc caller request).run s = (.ok r, s'))
    (hsucceeded : r.status = .succeeded) :
    s'.StandsIn request.args.caseId target ↔
      request.case.status ∈ outcomeSources request.tool := by
  unfold executeRequest at hrun
  obtain ⟨toolCallId, s₁, hinserted, hrun₁⟩ := Session.run_bind_eq_ok.mp hrun
  obtain ⟨result, s₂, hresult, hrun₂⟩ := Session.run_bind_eq_ok.mp hrun₁
  obtain ⟨_, s₃, hkey, hrun₃⟩ := Session.run_bind_eq_ok.mp hrun₂
  obtain ⟨_, s₄, hcall, hrun₄⟩ := Session.run_bind_eq_ok.mp hrun₃
  have hsucceeded₁ : result.status = .succeeded := by
    rw [← Except.ok.inj (Prod.mk.inj hrun₄).1] at hsucceeded
    exact hsucceeded
  have hc₁ : s₁.cases.get? request.args.caseId = some request.case := by
    rw [← (Prod.mk.inj hinserted).2]
    exact hc
  rcases Session.run_onError_cases hresult with ⟨result', hran, hok⟩ | ⟨e, e', s₅, -, hraised, -⟩
  swap
  · cases hraised
  obtain rfl := Except.ok.inj hok
  obtain ⟨hadmitted, hstands⟩ := runAfterIdempotency_standsIn hc₁ hdeclared hran hsucceeded₁
  have hcases : s'.cases = s₂.cases := by
    rw [← (Prod.mk.inj hrun₄).2, ← (Prod.mk.inj hcall).2, ← (Prod.mk.inj hkey).2]
    dsimp only
    split <;> rfl
  have hstands' := hstands.of_cases hcases
  rw [← outcomeStatus_eq_iff hdeclared hadmitted]
  constructor
  · intro htarget
    exact hstands'.eq htarget
  · intro heq
    rw [heq] at hstands'
    exact hstands'

/-! ## A call that succeeded -/

/-- The case stands where the outcome of the tool that a call runs is applied; a call that
replays a stored result finds the case there already. -/
def OutcomeApplies (rt : Runtime) (s : Store) (args : ExecuteArgs) (tool : ToolName)
    (target : RecoveryCaseStatus) : Prop :=
  ∃ c, s.cases.get? args.caseId = some c ∧
    ((∃ r, Replays rt args s r) ∧ c.status = target ∨
      (∀ r, ¬ Replays rt args s r) ∧ c.status ∈ outcomeSources tool)

/-- A call that returned replayed a stored result, or ran. -/
theorem execute_ok_cases (hrun : (execute rt svc caller args).run s = (.ok r, s')) :
    Replays rt args s r ∧ s' = s ∨
      ∃ request, admitRequest rt s args = .ok request ∧ (∀ r', ¬ Replays rt args s r') ∧
        (executeRequest rt svc caller request).run (s.keyTaken request caller.now) =
          (.ok r, s') := by
  cases hadmits : admitRequest rt s args with
  | error f =>
    unfold execute at hrun
    rw [Session.run_get_bind, Session.run_ofExcept_bind, hadmits] at hrun
    cases (Prod.mk.inj hrun).1
  | ok request =>
    -- a request that holds its key is no replay
    have hholding : ∀ {row}, HoldsKey s request caller.now row →
        (∀ r', ¬ Replays rt args s r') ∧
          (executeRequest rt svc caller request).run (s.keyTaken request caller.now) =
            (.ok r, s') := by
      intro row hholds
      rw [execute_run_of_holds rt svc caller hadmits hholds] at hrun
      refine ⟨?_, hrun⟩
      rintro r' ⟨request', row', hadmits', hkey', hhash', hdecision'⟩
      obtain rfl := Except.ok.inj (hadmits.symm.trans hadmits')
      obtain rfl := hholds.of_found hkey'
      have hargs := (admitted_of_ok hadmits).args_eq
      rcases hholds with ⟨hnone, -⟩ | ⟨-, -, hproceeds⟩
      · rw [hnone] at hkey'
        cases hkey'
      · rw [hargs, hdecision'] at hproceeds
        cases hproceeds
    cases hkey : s.keyOf request with
    | none => exact .inr ⟨request, rfl, hholding (.inl ⟨hkey, rfl⟩)⟩
    | some row =>
      have hran := hrun
      rw [execute_run_of_key rt svc caller hadmits hkey] at hran
      split at hran
      · cases (Prod.mk.inj hran).1
      · rename_i hhash
        have hmatch := not_not.mp hhash
        split at hran
        · rename_i result hdecision
          obtain rfl := Except.ok.inj (Prod.mk.inj hran).1
          exact .inl ⟨⟨request, row, hadmits, hkey, hmatch, hdecision⟩, (Prod.mk.inj hran).2.symm⟩
        · cases (Prod.mk.inj hran).1
        · rename_i hproceeds
          rw [← (admitted_of_ok hadmits).args_eq] at hproceeds
          exact .inr ⟨request, rfl, hholding (.inr ⟨hkey, hmatch, hproceeds⟩)⟩

/-- A call that reports `SUCCEEDED` leaves the case in the declared status exactly where the
outcome applies. -/
theorem execute_standsIn (htool : resolveTool args.toolName args.action = .ok tool)
    (hdeclared : declaredOutcome tool = some target)
    (hrun : (execute rt svc caller args).run s = (.ok r, s'))
    (hsucceeded : r.status = .succeeded) :
    s'.StandsIn args.caseId target ↔ OutcomeApplies rt s args tool target := by
  rcases execute_ok_cases hrun with ⟨hreplays, rfl⟩ | ⟨request, hadmits, hnone, hran⟩
  · constructor
    · rintro ⟨c, hc, hstatus⟩
      exact ⟨c, hc, .inl ⟨⟨r, hreplays⟩, hstatus⟩⟩
    · rintro ⟨c, hc, ⟨-, hstatus⟩ | ⟨hnone, -⟩⟩
      · exact ⟨c, hc, hstatus⟩
      · exact absurd hreplays (hnone r)
  · have hadmitted := admitted_of_ok hadmits
    have hargs := hadmitted.args_eq
    have hrow := hadmitted.row
    obtain rfl := Except.ok.inj (htool.symm.trans hadmitted.resolved)
    have hc : (s.keyTaken request caller.now).cases.get? request.args.caseId =
        some request.case := by
      rw [cases_keyTaken, hargs]
      exact hrow
    have hiff := executeRequest_standsIn hc hdeclared hran hsucceeded
    rw [hargs] at hiff
    rw [hiff]
    constructor
    · intro hsource
      exact ⟨request.case, hrow, .inr ⟨hnone, hsource⟩⟩
    · rintro ⟨c, hc', ⟨⟨r', hreplays⟩, -⟩ | ⟨-, hsource⟩⟩
      · exact absurd hreplays (hnone r')
      · obtain rfl := Option.some.inj (hrow.symm.trans hc')
        exact hsource

/-- The same for the execution of an approved action. -/
theorem approve_standsIn {dargs : DecisionArgs}
    (hrun : (approveAction rt svc caller dargs).run s = (.ok r, s'))
    (hsucceeded : r.status = .succeeded) :
    ∃ d, loadDecision s dargs = .ok d ∧ (approvedExecution d).caseId = dargs.caseId ∧
      ∀ tool target,
        resolveTool (approvedExecution d).toolName (approvedExecution d).action = .ok tool →
        declaredOutcome tool = some target →
        (s'.StandsIn dargs.caseId target ↔
          OutcomeApplies rt s (approvedExecution d) tool target) := by
  obtain ⟨d, hload, hgrantable⟩ := granted_of_approveAction_ok (congrArg Prod.fst hrun)
  have hargs := (loaded_of_loadDecision hload).args_eq
  have hcase : (approvedExecution d).caseId = dargs.caseId := congrArg DecisionArgs.caseId hargs
  refine ⟨d, hload, hcase, fun tool target htool hdeclared => ?_⟩
  obtain ⟨s₀, hmark, hrecorded⟩ := markApproved_run caller d s
  rw [run_approveAction rt svc hload hgrantable hmark] at hrun
  have hiff := execute_standsIn htool hdeclared hrun hsucceeded
  rw [hcase] at hiff
  rw [hiff]
  have hcases : s₀.cases = s.cases := hrecorded.cases
  unfold OutcomeApplies
  simp only [replays_granted hrecorded, hcases]

end ReviveX
