import ReviveX.Tools.KeyTheorems
import ReviveX.Tools.OwnershipTheorems

/-!
# A call touches only its own case

`ForeignKept` is the frame condition of a call of `execute` on a case of a merchant: every
row of another merchant, and every action, approval and tool call of another case, is the
same afterwards. The action row is the one place where the frame can break: it is found
under an identifier of the caller, or under a key of the merchant, without a look at its
case (`Rewrites`).
-/

namespace ReviveX

open Lib (Session Table)

variable {rt : Runtime} {svc : ToolExecutionService} {caller : Caller} {now : Time}
  {request : ToolRequest} {s s' s'' : Store} {args : ExecuteArgs} {M C : ℕ}
  {action : RecoveryActionType} {c : RecoveryCase}

/-- The actions of other merchants and of other cases are the same. -/
def ActionsKept (M C : ℕ) (t t' : Table RecoveryAction) : Prop :=
  t.KeptWhere (fun a => IsForeign M C a.merchantId a.recoveryCaseId) t'

/-- The approvals of other merchants and of other cases are the same. -/
def ApprovalsKept (M C : ℕ) (t t' : Table Approval) : Prop :=
  t.KeptWhere (fun a => IsForeign M C a.merchantId a.recoveryCaseId) t'

/-- The rows of other merchants are the same, and so are the actions, approvals and tool
calls of other cases. -/
structure ForeignKept (M C : ℕ) (s s' : Store) : Prop extends MerchantKept M s s' where
  actions : ActionsKept M C s.actions s'.actions
  approvals : ApprovalsKept M C s.approvals s'.approvals
  toolCalls : ToolCallsKept M C s s'
  idempotencyKeys : ∀ m key, m ≠ M → s'.idempotencyKey? m key = s.idempotencyKey? m key

/-! ## Action rows -/

/-- The rows that the request finds are its own. -/
def FindsOwnRow (request : ToolRequest) (s : Store) : Prop :=
  ∀ i a, s.existingAction request.case.merchantId request.args.idempotencyKey
      request.args.existingActionId = some i → s.actions.get? i = some a →
    a.merchantId = request.case.merchantId ∧ a.recoveryCaseId = request.args.caseId

/-- The row that `_upsert_action` leaves belongs to the request. -/
theorem upserted_own (h : FindsOwnRow request s) (action : RecoveryActionType)
    (w : ActionWrite) (now : Time) {a : RecoveryAction}
    (ha : (s.upserted request action w now).get? (s.upsertId request) = some a) :
    a.merchantId = request.case.merchantId ∧ a.recoveryCaseId = request.args.caseId := by
  rcases upserted_get? s request action w now with ⟨a₀, ha₀, hfound, hrow⟩ | ⟨-, -, hrow⟩
  · obtain rfl := Option.some.inj (hrow.symm.trans ha)
    exact h _ a₀ hfound ha₀
  · obtain rfl := Option.some.inj (hrow.symm.trans ha)
    exact ⟨rfl, rfl⟩

theorem upserted_kept (h : FindsOwnRow request s) (action : RecoveryActionType)
    (w : ActionWrite) (now : Time) :
    ActionsKept request.case.merchantId request.args.caseId s.actions
      (s.upserted request action w now) := by
  unfold Store.upserted
  cases hfound : s.existingAction request.case.merchantId request.args.idempotencyKey
      request.args.existingActionId with
  | none => exact .insert _ (not_isForeign.mpr ⟨rfl, rfl⟩)
  | some actionId =>
    refine .modify fun a ha => ?_
    have hown := h actionId a hfound ha
    exact ⟨not_isForeign.mpr hown, not_isForeign.mpr hown⟩

/-- A later write on the row of the request. -/
theorem upserted_modify_kept (h : FindsOwnRow request s) (action : RecoveryActionType)
    (w : ActionWrite) (now : Time) {f : RecoveryAction → RecoveryAction}
    (hmerchant : ∀ a, (f a).merchantId = a.merchantId)
    (hcase : ∀ a, (f a).recoveryCaseId = a.recoveryCaseId) :
    ActionsKept request.case.merchantId request.args.caseId s.actions
      ((s.upserted request action w now).modify (s.upsertId request) f) := by
  refine Table.KeptWhere.trans (upserted_kept h action w now) (.modify fun a ha => ?_)
  have hown := upserted_own h action w now ha
  refine ⟨not_isForeign.mpr hown, not_isForeign.mpr ?_⟩
  rw [hmerchant, hcase]
  exact hown

/-- The actions when a handler is entered, and after it returned. -/
theorem started_kept {verdict : ToolVerdict}
    (h : ∀ action, actionForTool request.tool = some action → FindsOwnRow request s) :
    ActionsKept request.case.merchantId request.args.caseId s.actions
        (s.startedActions request verdict.evaluation.riskLevel now) ∧
      ∀ handled, ActionsKept request.case.merchantId request.args.caseId s.actions
        (s.handledActions request verdict.evaluation.riskLevel handled now) := by
  unfold Store.handledActions Store.startedActions Store.startedId
  cases htool : actionForTool request.tool with
  | none => exact ⟨.refl _ _, fun _ => .refl _ _⟩
  | some action =>
    have hfinds := h action htool
    exact ⟨upserted_kept hfinds action _ now, fun handled =>
      upserted_modify_kept hfinds action _ now (fun _ => rfl) fun _ => rfl⟩

theorem RunOutcome.actions_kept {x : Except Failure ToolExecutionResult}
    (h : RunOutcome rt svc caller request s x s')
    (hown : ∀ i a, RunRewrites rt svc caller request s i → s.actions.get? i = some a →
      a.merchantId = request.case.merchantId ∧ a.recoveryCaseId = request.args.caseId) :
    ActionsKept request.case.merchantId request.args.caseId s.actions s'.actions := by
  cases h with
  | refused hrefusal happrovals hkept => exact .of_eq hkept.actions
  | @blocked verdict action _ _ hjudged hbranch hstatus hkept =>
    rw [hkept.actions]
    exact upserted_kept (fun i a hfound => hown i a <| runRewrites_of_refusal hjudged
      (.inl hbranch) hfound) action _ _
  | @parked verdict action _ _ hjudged hbranch hstatus hkept =>
    rw [hkept.actions]
    exact upserted_modify_kept (fun i a hfound => hown i a <| runRewrites_of_refusal hjudged
      (.inr hbranch) hfound) action _ _ (fun _ => rfl) fun _ => rfl
  | @handled verdict s₁ s₂ _ c handled _ hentered hran hstatus hkept =>
    have hfinds : ∀ action, actionForTool request.tool = some action → FindsOwnRow request s :=
      fun action haction i a hfound => hown i a <| runRewrites_of_run hentered.judged
        hentered.branch haction hentered.usable hfound
    rw [hkept.actions, (hentered.reached.reported hran).actions]
    exact (started_kept hfinds).2 handled
  | @crashed verdict s₁ s₂ c f hentered hran hrollsBack =>
    have hfinds : ∀ action, actionForTool request.tool = some action → FindsOwnRow request s :=
      fun action haction i a hfound => hown i a <| runRewrites_of_run hentered.judged
        hentered.branch haction hentered.usable hfound
    have heffects := handlers_effects rt svc caller.now
      (handlerContext request c (s.startedId request) s₁) request.tool
      (s₁.entered (requestCall caller request verdict s s₁ c))
    rw [hran] at heffects
    have hactions : s'.actions = s₁.actions := heffects.actions
    rw [hactions, hentered.started.actions]
    exact (started_kept hfinds).1

/-! ## Approval rows -/

theorem RunOutcome.approvals_kept {x : Except Failure ToolExecutionResult}
    (h : RunOutcome rt svc caller request s x s')
    (hown : ∀ i a, s.approvals.get? i = some a → a.recoveryCaseId = request.args.caseId →
      a.merchantId = request.case.merchantId) :
    ApprovalsKept request.case.merchantId request.args.caseId s.approvals s'.approvals := by
  cases h with
  | refused hrefusal happrovals hkept =>
    rcases happrovals with hsame | ⟨approvalId, a, -, -, hrow, hcase, -, -, hexpired⟩
    · exact .of_eq hsame
    · rw [hexpired]
      refine .modify fun a' ha' => ?_
      obtain rfl := Option.some.inj (hrow.symm.trans ha')
      have howner := hown approvalId a hrow hcase
      exact ⟨not_isForeign.mpr ⟨howner, hcase⟩, not_isForeign.mpr ⟨howner, hcase⟩⟩
  | blocked hjudged hbranch hstatus hkept => exact .of_eq hkept.approvals
  | parked hjudged hbranch hstatus hkept =>
    rw [hkept.approvals]
    exact .insert _ (not_isForeign.mpr ⟨rfl, rfl⟩)
  | handled hentered hran hstatus hkept =>
    rw [hkept.approvals]
    exact .of_eq (hentered.reached.reported hran).approvals
  | @crashed verdict s₁ s₂ c f hentered hran hrollsBack =>
    have heffects := handlers_effects rt svc caller.now
      (handlerContext request c (s.startedId request) s₁) request.tool
      (s₁.entered (requestCall caller request verdict s s₁ c))
    rw [hran] at heffects
    exact .of_eq (heffects.approvals.trans hentered.started.approvals)

/-! ## The frame of a call -/

/-- What comes after a run writes the key and the tool call of the request. -/
theorem Finished.tables {row : IdempotencyKey} {s₁ : Store}
    {x x' : Except Failure ToolExecutionResult} (h : Finished request row now s₁ x x' s') :
    s'.actions = s₁.actions ∧ s'.approvals = s₁.approvals ∧
      ∀ m key, m ≠ request.case.merchantId →
        s'.idempotencyKey? m key = s₁.idempotencyKey? m key := by
  have hother : ∀ {row' : IdempotencyKey} {m : ℕ} {key : String},
      m ≠ request.case.merchantId →
      (s₁.withKey request row').idempotencyKey? m key = s₁.idempotencyKey? m key := by
    intro row' m key hm
    unfold Store.withKey Store.idempotencyKey?
    dsimp only
    rw [AList.lookup_insert_ne]
    intro heq
    exact hm (congrArg Prod.fst heq)
  cases h with
  | returned hrecorded =>
    refine ⟨hrecorded.actions, hrecorded.approvals, fun m key hm => ?_⟩
    rw [← hother hm]
    unfold Store.idempotencyKey?
    rw [hrecorded.idempotencyKeys]
  | failed hclass hrecorded =>
    refine ⟨hrecorded.actions, hrecorded.approvals, fun m key hm => ?_⟩
    rw [← hother hm]
    unfold Store.idempotencyKey?
    rw [hrecorded.idempotencyKeys]
  | crashed => exact ⟨rfl, rfl, fun _ _ _ => rfl⟩

/-- The rows that a call may write on belong to the case and to its merchant. -/
structure OwnRows (rt : Runtime) (svc : ToolExecutionService) (caller : Caller)
    (args : ExecuteArgs) (c : RecoveryCase) (s : Store) : Prop where
  payment : ∀ i p, c.paymentId = some i → s.payments.get? i = some p →
    p.merchantId = c.merchantId
  cart : ∀ i cart, c.cartId = some i → s.carts.get? i = some cart →
    cart.merchantId = c.merchantId
  approval : ∀ i a, s.approvals.get? i = some a → a.recoveryCaseId = args.caseId →
    a.merchantId = c.merchantId
  action : ∀ i a, Rewrites rt svc caller args s i → s.actions.get? i = some a →
    a.merchantId = c.merchantId ∧ a.recoveryCaseId = args.caseId

theorem OwnRows.subjects (h : OwnRows rt svc caller args c s)
    (hcase : s.cases.get? args.caseId = some c) (hadmits : admitRequest rt s args = .ok request) :
    request.case = c ∧ OwnSubjects request s := by
  have hadmitted := admitted_of_ok hadmits
  obtain rfl : request.case = c := Option.some.inj (hadmitted.row.symm.trans hcase)
  refine ⟨rfl, ?_, ?_, h.cart⟩
  · intro c' hc'
    rw [hadmitted.args_eq, hcase] at hc'
    obtain rfl := Option.some.inj hc'
    exact ⟨rfl, rfl⟩
  · intro i p q hpayment hq
    rw [hadmitted.payment] at hpayment
    obtain ⟨paymentId, hid, hrow⟩ := Option.bind_eq_some_iff.mp hpayment
    obtain ⟨_, -, heq⟩ := Option.map_eq_some_iff.mp hrow
    obtain rfl : paymentId = i := congrArg Prod.fst heq
    exact h.payment paymentId q hid hq

theorem foreignKept_of_ownRows (hcase : s.cases.get? args.caseId = some c)
    (h : OwnRows rt svc caller args c s) :
    ForeignKept c.merchantId args.caseId s ((execute rt svc caller args).run s).2 := by
  have hmerchant :=
    execute_merchantKept (M := c.merchantId) rt svc caller args s fun request hadmits => by
      obtain ⟨hrow, hsubjects⟩ := h.subjects hcase hadmits
      exact ⟨by rw [hrow], hsubjects⟩
  have houtcome := execute_outcome rt svc caller args s
  rcases hrun : (execute rt svc caller args).run s with ⟨x, s'⟩
  rw [hrun] at houtcome hmerchant
  obtain ⟨hkept, hcalls⟩ := hmerchant
  cases houtcome with
  | rejected | conflict | replayed | busy =>
    exact ⟨hkept, .refl _ _, .refl _ _, hcalls, fun _ _ _ => rfl⟩
  | @ran request row s₁ _ x₀ _ hadmits hholds hran hfinished =>
    have hrow := (h.subjects hcase hadmits).1
    have hargs := (admitted_of_ok hadmits).args_eq
    obtain ⟨hactions, happrovals, hkeys⟩ := hfinished.tables
    have hkeys₁ := hran.idempotencyKeys
    -- the key that the call took is one of its merchant
    have htakenKeys : ∀ m key, m ≠ c.merchantId →
        (s.keyTaken request caller.now).idempotencyKey? m key = s.idempotencyKey? m key := by
      intro m key hm
      unfold Store.keyTaken
      split
      · rfl
      · unfold Store.withKey Store.idempotencyKey?
        dsimp only
        rw [AList.lookup_insert_ne]
        intro heq
        rw [← hrow] at hm
        exact hm (congrArg Prod.fst heq)
    have htaken := keyTaken_eq s request caller.now
    generalize (s.keyTaken request caller.now).idempotencyKeys = keys at htaken
    rw [htaken] at hran
    have hown : ∀ i a, RunRewrites rt svc caller request { s with idempotencyKeys := keys } i →
        s.actions.get? i = some a → a.merchantId = request.case.merchantId ∧
          a.recoveryCaseId = request.args.caseId := by
      rintro i a ⟨verdict, hjudged, haction, hvalid, husable, hfound⟩ ha
      rw [hrow, hargs]
      refine h.action i a (rewrites_iff.mpr ⟨request, row, hadmits, hholds, verdict, hjudged,
        haction, hvalid, ?_, hfound⟩) ha
      exact fun hbranch happroved =>
        ⟨(husable hbranch happroved).1, (husable hbranch happroved).2⟩
    have hactions₁ := hran.actions_kept hown
    have happrovals₁ := hran.approvals_kept fun i a ha hcase' => by
      rw [hrow]
      exact h.approval i a ha (by rw [← hargs]; exact hcase')
    rw [hrow, hargs] at hactions₁ happrovals₁
    refine ⟨hkept, ?_, ?_, hcalls, fun m key hm => ?_⟩
    · rw [hactions]
      exact hactions₁
    · rw [happrovals]
      exact happrovals₁
    · rw [hkeys m key (by rw [hrow]; exact hm), ← htakenKeys m key hm]
      unfold Store.idempotencyKey?
      rw [hkeys₁]

/-! ## A row that is found is written -/

/-- The statuses that a call writes on an action row. -/
def writtenStatuses : List RecoveryActionStatus :=
  [.blocked, .approvalRequired, .executing, .succeeded, .failed]

theorem upserted_status (s : Store) (request : ToolRequest) (action : RecoveryActionType)
    (w : ActionWrite) (now : Time) :
    ∃ a, (s.upserted request action w now).get? (s.upsertId request) = some a ∧
      a.status = w.status := by
  rcases upserted_get? s request action w now with ⟨a, -, -, hrow⟩ | ⟨-, -, hrow⟩
  · exact ⟨_, hrow, rfl⟩
  · exact ⟨_, hrow, rfl⟩

/-- A run that enters its handler writes its row. -/
theorem runTool_writes {verdict : ToolVerdict}
    (hrow : s.cases.get? request.args.caseId = some request.case)
    (hbranch : toolBranch request verdict.evaluation = .run)
    (haction : actionForTool request.tool = some action)
    (husable : request.args.approvedExecution = true → UsableApproval s request caller.now) :
    ∃ a, ((runTool rt svc caller request verdict).run s).2.actions.get? (s.upsertId request) =
        some a ∧ a.status ∈ writtenStatuses := by
  have hcheck : (checkApproval caller.now request).run s = (.ok (), s) :=
    checkApproval_run husable
  obtain ⟨a, ha, hstatus⟩ := upserted_status s request action
    (startingWrite request verdict.evaluation.riskLevel) caller.now
  have hstarted : s.startedActions request verdict.evaluation.riskLevel caller.now =
      s.upserted request action (startingWrite request verdict.evaluation.riskLevel)
        caller.now := by
    unfold Store.startedActions
    rw [haction]
  obtain ⟨s₁, c, s₂, hreached, ⟨handled, r, s₃, hran, hrun, -, hkept⟩ |
    ⟨f, hran, hrun, -⟩⟩ := runTool_reached rt svc hrow hbranch hcheck husable
  · -- the handler answered: the row records its result
    have hactions := hkept.actions.trans (hreached.reported hran).actions
    rw [hrun]
    dsimp only
    rw [hactions]
    unfold Store.handledActions Store.startedId
    rw [haction, hstarted]
    dsimp only [Option.map_some]
    rw [Table.get?_modify_self, ha]
    refine ⟨_, rfl, ?_⟩
    unfold RecoveryAction.record writtenStatuses
    cases handled.success <;> simp
  · -- the handler crashed: the row stays as the start wrote it
    have heffects := handlers_effects rt svc caller.now
      (handlerContext request c (s.startedId request) s₁) request.tool
      (s₁.entered (requestCall caller request verdict s s₁ c))
    rw [hran] at heffects
    have hactions : s₂.actions = _ := heffects.actions.trans hreached.started.actions
    rw [hrun]
    dsimp only
    rw [hactions]
    refine ⟨a, ?_, ?_⟩
    · dsimp only
      rw [hstarted]
      exact ha
    · rw [hstatus]
      unfold startingWrite writtenStatuses
      simp

theorem runAfterIdempotency_writes {i : ℕ}
    (hrow : s.cases.get? request.args.caseId = some request.case)
    (h : RunRewrites rt svc caller request s i) :
    ∃ a, ((runAfterIdempotency rt svc caller request).run s).2.actions.get? i = some a ∧
      a.status ∈ writtenStatuses := by
  obtain ⟨verdict, hjudged, hsome, hvalid, husable, hfound⟩ := h
  obtain ⟨action, haction⟩ := Option.isSome_iff_exists.mp hsome
  obtain ⟨s₀, hrun₀, hrecorded⟩ := persistVerdict_run caller request verdict s
  have hrow₀ : s₀.cases.get? request.args.caseId = some request.case := by
    rw [hrecorded.cases]
    exact hrow
  -- the record of the verdict does not change the row that is found
  have hid : s₀.upsertId request = i := by
    unfold Store.upsertId Store.existingAction Store.actionIdOfKey
    unfold Store.existingAction Store.actionIdOfKey at hfound
    rw [hrecorded.actions, hfound]
    rfl
  unfold runAfterIdempotency
  rw [Session.run_get_bind, Session.run_ofExcept_bind, hjudged]
  dsimp only
  rw [Session.run_bind_ok hrun₀]
  cases hbranch : toolBranch request verdict.evaluation with
  | invalidState => exact absurd hbranch hvalid
  | blocked action =>
    obtain ⟨r, s₁, hrun₁, -, hkept⟩ := blockAction_run caller request action
      verdict.evaluation s₀
    obtain ⟨a, ha, hstatus⟩ := upserted_status s₀ request action
      (blockingWrite verdict.evaluation) caller.now
    dsimp only
    rw [hrun₁, hkept.actions, ← hid]
    refine ⟨a, ha, ?_⟩
    rw [hstatus]
    unfold blockingWrite writtenStatuses
    simp
  | approval action =>
    obtain ⟨r, s₁, _, hrun₁, -, hkept, -⟩ := requestApproval_run caller action verdict hrow₀
    obtain ⟨a, ha, hstatus⟩ := upserted_status s₀ request action
      (parkingWrite request verdict.evaluation.riskLevel) caller.now
    dsimp only
    rw [hrun₁, hkept.actions, ← hid]
    unfold Store.parked Store.withApproval
    dsimp only
    rw [Table.get?_modify_self, ha]
    refine ⟨_, rfl, ?_⟩
    dsimp only
    rw [hstatus]
    unfold parkingWrite writtenStatuses
    simp
  | run =>
    rw [← hid]
    refine runTool_writes hrow₀ hbranch haction fun happroved => ?_
    have husable' := husable hbranch happroved
    rw [hrecorded]
    exact ⟨husable'.1, husable'.2⟩

theorem recordFailure_actions (caller : Caller) (request : ToolRequest) (toolCallId : ℕ)
    (f : Failure) (s : Store) :
    ∃ s', (recordFailure caller request toolCallId f).run s = (.ok (), s') ∧
      s'.actions = s.actions := by
  cases f with
  | crash exception => exact ⟨s, rfl, rfl⟩
  | domain e =>
    unfold recordFailure
    dsimp only
    split
    · exact ⟨s, rfl, rfl⟩
    · refine ⟨_, rfl, ?_⟩
      dsimp only
      split <;> rfl

/-- What comes after a run does not write on actions. -/
theorem executeRequest_actions (rt : Runtime) (svc : ToolExecutionService) (caller : Caller)
    (request : ToolRequest) (s : Store) :
    ((executeRequest rt svc caller request).run s).2.actions =
      ((runAfterIdempotency rt svc caller request).run (s.pending request)).2.actions := by
  rw [run_executeRequest]
  unfold recordRun
  rcases hran : (runAfterIdempotency rt svc caller request).run (s.pending request) with
    ⟨f | r, s₁⟩
  · obtain ⟨s₂, hnote, hactions⟩ := recordFailure_actions caller request s.toolCalls.nextId f s₁
    rw [Session.run_bind_error (Session.run_onError_error hran hnote)]
    exact hactions
  · rw [Session.run_bind_ok (Session.run_onError_ok hran _)]
    unfold Service.modifyKey
    rw [Session.run_modify_bind]
    dsimp only
    split <;> rfl

theorem Rewrites.written {i : ℕ} (h : Rewrites rt svc caller args s i) :
    ∃ a, ((execute rt svc caller args).run s).2.actions.get? i = some a ∧
      a.status ∈ writtenStatuses := by
  obtain ⟨request, row, hadmits, hholds, hrun⟩ := rewrites_iff.mp h
  have hadmitted := admitted_of_ok hadmits
  rw [execute_run_of_holds rt svc caller hadmits hholds]
  rw [executeRequest_actions, keyTaken_eq]
  refine runAfterIdempotency_writes ?_ ?_
  · rw [hadmitted.args_eq]
    exact hadmitted.row
  · obtain ⟨verdict, hjudged, haction, hvalid, husable, hfound⟩ := hrun
    refine ⟨verdict, hjudged, haction, hvalid, fun hbranch happroved => ?_, hfound⟩
    have husable' := husable hbranch happroved
    exact ⟨husable'.1, husable'.2⟩

/-- A call of `execute` touches only its own case when every row it may write on belongs to
the case and to its merchant. A foreign action that it finds, and that was not in one of
the statuses that a call writes, is not the same afterwards. -/
theorem execute_foreignKept (rt : Runtime) (svc : ToolExecutionService) (caller : Caller)
    (hcase : s.cases.get? args.caseId = some c) :
    (OwnRows rt svc caller args c s →
      ForeignKept c.merchantId args.caseId s ((execute rt svc caller args).run s).2) ∧
    ∀ i a, Rewrites rt svc caller args s i → s.actions.get? i = some a →
      IsForeign c.merchantId args.caseId a.merchantId a.recoveryCaseId →
      a.status ∉ writtenStatuses →
      ¬ ForeignKept c.merchantId args.caseId s ((execute rt svc caller args).run s).2 := by
  refine ⟨foreignKept_of_ownRows hcase, ?_⟩
  intro i a hrewrites ha hforeign hstatus hkept
  obtain ⟨a', ha', hwritten⟩ := hrewrites.written
  have hsame := (hkept.actions i a hforeign).mpr ha
  obtain rfl := Option.some.inj (ha'.symm.trans hsame)
  exact hstatus hwritten

/-- Pausing a case without actions touches only that case. -/
theorem execute_foreignKept_paused :
    ForeignKept 0 0 twoCasesStore
      ((execute sampleRuntime sampleService { now := 0 } (underKey "pause_recovery" 0)).run
        twoCasesStore).2 := by
  have hcase : twoCasesStore.cases.get? (underKey "pause_recovery" 0).caseId =
      some (policyCheckCase 0) := rfl
  refine (execute_foreignKept sampleRuntime sampleService { now := 0 } hcase).1 ?_
  have hnone : ∀ {α : Type} {i : ℕ} {a : α}, (Table.empty : Table α).get? i ≠ some a := by
    intro α i a
    simp
  refine ⟨?_, ?_, ?_, ?_⟩
  · intro i p hi hp
    obtain rfl := Option.some.inj hi
    obtain rfl := Option.some.inj hp
    rfl
  · exact fun i cart hi => nomatch hi
  · exact fun i a ha => absurd ha hnone
  · exact fun i a _ ha => absurd ha hnone

/-- A case of each of two merchants, and an approved action of the second one. -/
def twoMerchantsStore : Store where
  merchants := ⟨[{}, {}]⟩
  customers := ⟨[{ merchantId := 0 }, { merchantId := 1 }]⟩
  payments := ⟨[
    { merchantId := 0, customerId := 0, amount := 100000, status := .failed },
    { merchantId := 1, customerId := 1, amount := 100000, status := .failed }]⟩
  cases := ⟨[policyCheckCase 0,
    { policyCheckCase 1 with merchantId := 1, customerId := 1, status := .awaitingApproval }]⟩
  actions := ⟨[
    { merchantId := 1, recoveryCaseId := 1, actionType := .retryNow, status := .approved
      idempotencyKey := "retry", createdAt := 0 }]⟩

/-- Pausing the first merchant's case on the action row of the second merchant. -/
def pauseOnForeignRow : ExecuteArgs :=
  { underKey "pause_recovery" 0 with existingActionId := some 0 }

/-- The call returns, and the action of the other merchant is no longer approved. -/
theorem foreignRow_not_foreignKept :
    ((execute sampleRuntime sampleService { now := 0 } pauseOnForeignRow).run
        twoMerchantsStore).1.isOk = true ∧
      ¬ ForeignKept 0 0 twoMerchantsStore
        ((execute sampleRuntime sampleService { now := 0 } pauseOnForeignRow).run
          twoMerchantsStore).2 := by
  refine ⟨by decide +kernel, fun hkept => ?_⟩
  have hafter : ((((execute sampleRuntime sampleService { now := 0 } pauseOnForeignRow).run
      twoMerchantsStore).2.actions.get? 0).map (·.status)) = some .succeeded := by
    decide +kernel
  have hsame := (hkept.actions 0 _ (.inl (by decide))).mpr
    (show twoMerchantsStore.actions.get? 0 = some _ from rfl)
  rw [hsame] at hafter
  cases hafter

end ReviveX
