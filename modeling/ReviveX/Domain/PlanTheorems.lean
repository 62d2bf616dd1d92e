import ReviveX.Domain.VerificationTheorems

/-!
# What the processor plans

Processing a case, alone or on the way of its verification, does one of three things to the
tables of the tool layer: nothing, a planned action row, or a row that waits for a new
approval (`Plans`). `SameTools` is the frame around it.
-/

namespace ReviveX

open Lib (Session Table)

variable {cfg : Config} {caller : Caller} {caseId : ℕ} {s s' s'' : Store} {c : RecoveryCase}

/-! ## Frame -/

/-- The tables of the tool layer, the merchants and the history are the same. -/
structure SameTools (s s' : Store) : Prop where
  merchants : s'.merchants = s.merchants
  actions : s'.actions = s.actions
  approvals : s'.approvals = s.approvals
  idempotencyKeys : s'.idempotencyKeys = s.idempotencyKeys
  notifications : s'.notifications = s.notifications
  trace : s'.trace = s.trace

namespace SameTools

theorem refl (s : Store) : SameTools s s := ⟨rfl, rfl, rfl, rfl, rfl, rfl⟩

theorem trans (h : SameTools s s') (h' : SameTools s' s'') : SameTools s s'' where
  merchants := h'.merchants.trans h.merchants
  actions := h'.actions.trans h.actions
  approvals := h'.approvals.trans h.approvals
  idempotencyKeys := h'.idempotencyKeys.trans h.idempotencyKeys
  notifications := h'.notifications.trans h.notifications
  trace := h'.trace.trans h.trace

theorem of_caseMoved {c' : RecoveryCase} (h : CaseMoved caseId c c' s s') :
    SameTools s s' := by
  rw [h.store]
  exact ⟨rfl, rfl, rfl, rfl, rfl, rfl⟩

theorem caseFrame (caseId : ℕ) : CaseFrame caseId SameTools where
  refl := refl
  trans _ _ _ := trans
  modifyCase _ _ := ⟨rfl, rfl, rfl, rfl, rfl, rfl⟩
  recordAudit _ _ := ⟨rfl, rfl, rfl, rfl, rfl, rfl⟩

end SameTools

/-! ## Planned rows -/

/-- The row that `_record_planned_action` inserts. -/
def plannedRow (caller : Caller) (caseId : ℕ) (c : RecoveryCase)
    (actionType : RecoveryActionType) (status : RecoveryActionStatus) (riskLevel : RiskLevel)
    (metadata : ActionMetadata) : RecoveryAction where
  merchantId := c.merchantId
  recoveryCaseId := caseId
  actionType := actionType
  status := status
  idempotencyKey := s!"phase5:{caseId}:{actionType.text}:1"
  riskLevel := riskLevel
  metadata := metadata
  amount := some c.amountAtRisk
  currency := c.currency
  createdAt := caller.now

/-- The identifier of the planned row: its key may have a row already. -/
def Store.plannedId (s : Store) (row : RecoveryAction) : ℕ :=
  (s.actionIdOfKey row.merchantId row.idempotencyKey).getD s.actions.nextId

/-- The actions with the planned row. -/
def Store.plannedActions (s : Store) (row : RecoveryAction) : Table RecoveryAction :=
  match s.actionIdOfKey row.merchantId row.idempotencyKey with
  | some _ => s.actions
  | none => s.actions.insert row

/-- The approval that the processor requests. -/
def plannedApproval (caller : Caller) (row : RecoveryAction) (actionId : ℕ)
    (ttlMinutes : ℤ) : Approval where
  merchantId := row.merchantId
  recoveryCaseId := row.recoveryCaseId
  recoveryActionId := some actionId
  requestedBy := some "processor"
  expiresAt := some (caller.now + ttlMinutes * 60000000)

/-- What a planned row records about its approval. -/
def ActionMetadata.awaiting (a : RecoveryAction) (approvalId : ℕ)
    (fingerprint : CaseFingerprint) : ActionMetadata :=
  { a.metadata with
    approvalId := some approvalId
    caseFingerprint := some fingerprint
    idempotencyKey := some a.idempotencyKey }

/-- The tool and the payload that a row records. -/
def Store.recordedRequest (actions : Table RecoveryAction) (actionId : ℕ) :
    Option ToolName × Payload :=
  let recorded := ((actions.get? actionId).map (·.metadata)).getD {}
  (recorded.toolName, recorded.payload.getD [])

/-- The store after a planned row was parked, up to the case and records. -/
def Store.planParked (s : Store) (caller : Caller) (row : RecoveryAction)
    (fingerprint : CaseFingerprint) (ttlMinutes : ℤ) : Store :=
  let actionId := s.plannedId row
  let request := Store.recordedRequest (s.plannedActions row) actionId
  { s with
    actions := (s.plannedActions row).modify actionId fun a =>
      { a with metadata := ActionMetadata.awaiting a s.approvals.nextId fingerprint }
    approvals := s.approvals.insert (plannedApproval caller row actionId ttlMinutes)
    trace := s.trace ++ [.approvalRequested s.approvals.nextId row.recoveryCaseId actionId
      fingerprint request.1 request.2] }

theorem recordPlannedAction_run (caller : Caller) (caseId : ℕ) (c : RecoveryCase)
    (actionType : RecoveryActionType) (status : RecoveryActionStatus) (riskLevel : RiskLevel)
    (metadata : ActionMetadata) (s : Store) :
    ∃ s', (recordPlannedAction caller caseId c actionType status riskLevel metadata).run s =
        (.ok (s.plannedId (plannedRow caller caseId c actionType status riskLevel metadata)),
          s') ∧
      SameTools
        { s with
          actions := s.plannedActions
            (plannedRow caller caseId c actionType status riskLevel metadata) } s' ∧
      s'.cases = s.cases := by
  unfold recordPlannedAction Store.plannedId Store.plannedActions plannedRow
  simp only [Session.run_get_bind]
  cases s.actionIdOfKey c.merchantId s!"phase5:{caseId}:{actionType.text}:1" with
  | some existing => exact ⟨s, rfl, .refl s, rfl⟩
  | none => exact ⟨_, rfl, ⟨rfl, rfl, rfl, rfl, rfl, rfl⟩, rfl⟩

/-! ## Plans -/

/-- The actions that `_select_action` chooses from. -/
def plannableActions : List RecoveryActionType := [.retryLater, .sendPaymentLink]

/-- The row of the case, up to its lifecycle columns. -/
def Store.CurrentRow (s : Store) (caseId : ℕ) (c : RecoveryCase) : Prop :=
  ∃ c₀, s.cases.get? caseId = some c₀ ∧ c₀.LifecycleOnly c

/-- What processing the case can do to the tables of the tool layer. -/
inductive Plans (py : PyText) (caller : Caller) (caseId : ℕ) (s : Store) : Store → Prop
  | nothing {s' : Store} (hsame : SameTools s s') : Plans py caller caseId s s'
  | recorded (c : RecoveryCase) (actionType : RecoveryActionType)
      (status : RecoveryActionStatus) (riskLevel : RiskLevel) {s' : Store}
      (hrow : s.CurrentRow caseId c) (htype : actionType ∈ plannableActions)
      (hstatus : status = .blocked ∨ status = .pending)
      (hsame : SameTools
        { s with
          actions := s.plannedActions
            (plannedRow caller caseId c actionType status riskLevel { executed := some false }) }
        s') :
      Plans py caller caseId s s'
  | parked (c : RecoveryCase) (actionType : RecoveryActionType) (riskLevel : RiskLevel)
      (ttlMinutes : ℤ) {s' : Store}
      (hrow : s.CurrentRow caseId c) (htype : actionType ∈ plannableActions)
      (hsame : SameTools
        (s.planParked caller
          (plannedRow caller caseId c actionType .approvalRequired riskLevel
            (plannedMetadata py actionType caller.now)) c.fingerprint ttlMinutes) s') :
      Plans py caller caseId s s'

namespace Plans

variable {py : PyText}

/-- What happens to the tables outside the tool layer does not matter. -/
theorem and_then (h : Plans py caller caseId s s') (h' : SameTools s' s'') :
    Plans py caller caseId s s'' := by
  cases h with
  | nothing hsame => exact .nothing (hsame.trans h')
  | recorded c actionType status riskLevel hrow htype hstatus hsame =>
    exact .recorded c actionType status riskLevel hrow htype hstatus (hsame.trans h')
  | parked c actionType riskLevel ttlMinutes hrow htype hsame =>
    exact .parked c actionType riskLevel ttlMinutes hrow htype (hsame.trans h')

theorem of_same {s₀ : Store} (hsame₀ : SameTools s s₀)
    (hrow₀ : ∀ c, s₀.CurrentRow caseId c → s.CurrentRow caseId c)
    (h : Plans py caller caseId s₀ s') : Plans py caller caseId s s' := by
  have hid : ∀ row, s₀.plannedId row = s.plannedId row := by
    intro row
    unfold Store.plannedId Store.actionIdOfKey
    rw [hsame₀.actions]
  have hactions : ∀ row, s₀.plannedActions row = s.plannedActions row := by
    intro row
    unfold Store.plannedActions Store.actionIdOfKey
    rw [hsame₀.actions]
  cases h with
  | nothing hsame => exact .nothing (hsame₀.trans hsame)
  | recorded c actionType status riskLevel hrow htype hstatus hsame =>
    refine .recorded c actionType status riskLevel (hrow₀ _ hrow) htype hstatus
      (SameTools.trans ?_ hsame)
    exact { hsame₀ with actions := hactions _ }
  | parked c actionType riskLevel ttlMinutes hrow htype hsame =>
    refine .parked c actionType riskLevel ttlMinutes (hrow₀ _ hrow) htype
      (SameTools.trans ?_ hsame)
    unfold Store.planParked
    refine ⟨hsame₀.merchants, ?_, ?_, hsame₀.idempotencyKeys, hsame₀.notifications, ?_⟩
    · rw [hid, hactions, hsame₀.approvals]
    · rw [hid, hsame₀.approvals]
    · rw [hid, hactions, hsame₀.approvals, hsame₀.trace]

end Plans

theorem selectAction_mem (s : Store) (c : RecoveryCase) : selectAction s c ∈ plannableActions := by
  unfold selectAction
  dsimp only
  split <;> decide

/-- The store after the processor requested an approval. -/
theorem requestPlannedApproval_parks (cfg : Config) (caller : Caller)
    (actionType : RecoveryActionType) (ctx : PolicyContext)
    (evaluation : PolicyEvaluationResult) (hrow : s.cases.get? caseId = some c) :
    SameTools
      (s.planParked caller
        (plannedRow caller caseId c actionType .approvalRequired evaluation.riskLevel
          (plannedMetadata cfg.py actionType caller.now)) c.fingerprint
        ctx.settings.approvalTtlMinutes)
      ((requestPlannedApproval cfg caller caseId actionType ctx evaluation).run s).2 := by
  obtain ⟨s₁, hrun₁, hsame₁, -⟩ := recordPlannedAction_run caller caseId c actionType
    .approvalRequired evaluation.riskLevel (plannedMetadata cfg.py actionType caller.now) s
  unfold requestPlannedApproval
  rw [run_readCase_bind hrow, Session.run_bind_ok hrun₁]
  simp only [Service.insertApproval, Service.modifyAction, Service.note,
    Session.run_modifyGet_bind, Session.run_get_bind, Session.run_modify_bind]
  have hrequested := (SameTools.caseFrame caseId).keeps_transitionCase caller .awaitingApproval
  refine SameTools.trans ?_ (hrequested _)
  exact ⟨hsame₁.merchants, by rw [hsame₁.actions, hsame₁.approvals]; rfl,
    by rw [hsame₁.approvals]; rfl, hsame₁.idempotencyKeys, hsame₁.notifications,
    by rw [hsame₁.actions, hsame₁.approvals, hsame₁.trace]; rfl⟩

theorem requestPlannedApproval_plans (cfg : Config) (caller : Caller)
    {actionType : RecoveryActionType} (ctx : PolicyContext)
    (evaluation : PolicyEvaluationResult) (htype : actionType ∈ plannableActions)
    (hrow : s.cases.get? caseId = some c) :
    Plans cfg.py caller caseId s
      ((requestPlannedApproval cfg caller caseId actionType ctx evaluation).run s).2 :=
  .parked c actionType evaluation.riskLevel ctx.settings.approvalTtlMinutes ⟨c, hrow, .refl c⟩
    htype (requestPlannedApproval_parks cfg caller actionType ctx evaluation hrow)

/-- Only the branch that requests an approval writes history. -/
theorem actOnEvaluation_trace (cfg : Config) (caller : Caller)
    {actionType : RecoveryActionType} (ctx : PolicyContext)
    (evaluation : PolicyEvaluationResult) (hrow : s.cases.get? caseId = some c)
    (htrace : ((actOnEvaluation cfg caller caseId actionType ctx evaluation).run s).2.trace ≠
      s.trace) :
    evaluation.allowed = true ∧
      (actOnEvaluation cfg caller caseId actionType ctx evaluation).run s =
        (requestPlannedApproval cfg caller caseId actionType ctx evaluation).run s := by
  have hframe := SameTools.caseFrame caseId
  unfold actOnEvaluation at htrace ⊢
  rw [run_readCase_bind hrow] at htrace ⊢
  split at htrace
  · obtain ⟨s₁, hrun₁, hsame₁, -⟩ := recordPlannedAction_run caller caseId c actionType
      .blocked evaluation.riskLevel { executed := some false } s
    rw [Session.run_bind_ok hrun₁] at htrace
    exact absurd ((hframe.keeps_transitionCase caller _ s₁).trace.trans hsame₁.trace) htrace
  · rename_i hallowed
    split at htrace
    · rename_i happroval
      rw [if_neg hallowed, if_pos happroval]
      exact ⟨by simpa using hallowed, rfl⟩
    · obtain ⟨s₁, hrun₁, hsame₁, -⟩ := recordPlannedAction_run caller caseId c actionType
        .pending evaluation.riskLevel { executed := some false } s
      have hfinish := hframe.bind (hframe.keeps_transitionCase caller .executing) fun _ =>
        hframe.keeps_transitionCase caller .actionCompleted
      rw [Session.run_bind_ok hrun₁] at htrace
      exact absurd ((hfinish s₁).trace.trans hsame₁.trace) htrace

theorem actOnEvaluation_plans (cfg : Config) (caller : Caller)
    {actionType : RecoveryActionType} (ctx : PolicyContext)
    (evaluation : PolicyEvaluationResult) (htype : actionType ∈ plannableActions)
    (hrow : s.cases.get? caseId = some c) :
    Plans cfg.py caller caseId s
      ((actOnEvaluation cfg caller caseId actionType ctx evaluation).run s).2 := by
  have hframe := SameTools.caseFrame caseId
  unfold actOnEvaluation
  rw [run_readCase_bind hrow]
  split
  · obtain ⟨s₁, hrun₁, hsame₁, -⟩ := recordPlannedAction_run caller caseId c actionType
      .blocked evaluation.riskLevel { executed := some false } s
    rw [Session.run_bind_ok hrun₁]
    exact Plans.and_then (.recorded c actionType .blocked _ ⟨c, hrow, .refl c⟩ htype (.inl rfl)
      hsame₁) (hframe.keeps_transitionCase caller _ s₁)
  · split
    · exact requestPlannedApproval_plans cfg caller ctx evaluation htype hrow
    · obtain ⟨s₁, hrun₁, hsame₁, -⟩ := recordPlannedAction_run caller caseId c actionType
        .pending evaluation.riskLevel { executed := some false } s
      have hfinish := hframe.bind (hframe.keeps_transitionCase caller .executing) fun _ =>
        hframe.keeps_transitionCase caller .actionCompleted
      rw [Session.run_bind_ok hrun₁]
      exact Plans.and_then (.recorded c actionType .pending _ ⟨c, hrow, .refl c⟩ htype
        (.inr rfl) hsame₁) (hfinish s₁)

theorem decideAtPolicyCheck_plans (cfg : Config) (caller : Caller)
    (hrow : s.cases.get? caseId = some c) :
    Plans cfg.py caller caseId s ((decideAtPolicyCheck cfg caller caseId).run s).2 := by
  unfold decideAtPolicyCheck
  rw [run_readCase_bind hrow, Session.run_get_bind, Session.run_ofExcept_bind]
  cases hctx : buildPolicyContext cfg s caseId c caller.now with
  | error f => exact .nothing (.refl s)
  | ok ctx =>
    dsimp only
    unfold evaluateAndPersist
    rw [Session.run_bind, Session.run_ofExcept_bind]
    cases evaluateAction ctx { actionType := (selectAction s c).text } with
    | error f => exact .nothing (.refl s)
    | ok evaluation =>
      refine Plans.of_same ?_ ?_
        (actOnEvaluation_plans (c := c) cfg caller ctx evaluation (selectAction_mem s c) hrow)
      · exact ⟨rfl, rfl, rfl, rfl, rfl, rfl⟩
      · exact fun _ h => h

theorem processLockedCase_plans (cfg : Config) (caller : Caller)
    (hrow : s.cases.get? caseId = some c) :
    Plans cfg.py caller caseId s ((processLockedCase cfg caller caseId).run s).2 := by
  cases hwalk : isWalkable c.status with
  | false =>
    rw [run_processLockedCase_idle cfg caller hrow hwalk]
    exact .nothing (.refl s)
  | true =>
    obtain ⟨s₁, c₁, hmoved₁, -, hrun⟩ := run_processLockedCase_walks cfg caller hrow hwalk
    rw [hrun]
    refine Plans.of_same (.of_caseMoved hmoved₁) ?_
      (decideAtPolicyCheck_plans cfg caller hmoved₁.after)
    rintro c' ⟨c₀, hc₀, hlife⟩
    obtain rfl := Option.some.inj (hmoved₁.after.symm.trans hc₀)
    exact ⟨c, hrow, hmoved₁.lifecycle.trans hlife⟩

/-! ## Services -/

theorem process_plans (cfg : Config) (caller : Caller) (caseId : ℕ) (s : Store) :
    Plans cfg.py caller caseId s ((process cfg caller caseId).run s).2 := by
  unfold process
  cases hrow : s.cases.get? caseId with
  | none =>
    have hmissing : ∃ f, (lockRecoveryCase caseId).run s = (.error f, s) := by
      unfold lockRecoveryCase
      rw [Session.run_get_bind, hrow]
      exact ⟨_, rfl⟩
    obtain ⟨f, hrun⟩ := hmissing
    rw [Session.run_bind_error hrun]
    exact .nothing (.refl s)
  | some c =>
    rw [Session.run_bind_ok (run_lockRecoveryCase hrow)]
    exact processLockedCase_plans cfg caller hrow

theorem ensureVerifying_plans (cfg : Config) (caller : Caller)
    (hrow : s.cases.get? caseId = some c) :
    Plans cfg.py caller caseId s ((ensureVerifying cfg caller caseId).run s).2 := by
  have hstart : Session.Keeps SameTools (startVerifying caller caseId) :=
    keeps_startVerifying (SameTools.caseFrame caseId)
  unfold ensureVerifying
  rw [run_readCase_bind hrow]
  split
  · exact .nothing (.refl s)
  · split
    · exact .nothing (hstart s)
    · have hplans := processLockedCase_plans cfg caller hrow
      rcases hran : (processLockedCase cfg caller caseId).run s with ⟨f | _, s₁⟩
      · rw [hran] at hplans
        rw [Session.run_bind_error hran]
        exact hplans
      · rw [hran] at hplans
        rw [Session.run_bind_ok hran]
        exact hplans.and_then (hstart s₁)

theorem verifyLocked_plans (cfg : Config) (caller : Caller) (args : VerifyArgs)
    (listThatCountedPayment : ℕ → ℕ → List ℕ)
    (hrow : s.cases.get? args.caseId = some c) :
    Plans cfg.py caller args.caseId s
      ((verifyLocked cfg caller args listThatCountedPayment c).run s).2 := by
  have hframe := SameTools.caseFrame args.caseId
  unfold verifyLocked
  split
  · exact .nothing (.refl s)
  · rw [Session.run_get_bind]
    split
    · refine .nothing (hframe.bind (keeps_persistFailure hframe _ _) ?_ s)
      exact fun _ => hframe.keeps_pure _
    · split
      · refine .nothing (hframe.bind (keeps_auditNoCredit hframe _) ?_ s)
        exact fun _ => hframe.keeps_pure _
      · dsimp only
        split
        · exact .nothing (.refl s)
        · have hplans := ensureVerifying_plans cfg caller hrow
          rcases hran : (ensureVerifying cfg caller args.caseId).run s with ⟨f | _, s₁⟩
          · rw [hran] at hplans
            rw [Session.run_bind_error hran]
            exact hplans
          · rw [hran] at hplans
            rw [Session.run_bind_ok hran]
            refine hplans.and_then (hframe.bind ?_ (fun _ => hframe.keeps_pure _) s₁)
            exact .ite (keeps_applySuccess hframe _ _ _) (keeps_persistFailure hframe _ _)

theorem verifyCase_plans (cfg : Config) (caller : Caller) (args : VerifyArgs) (s : Store) :
    Plans cfg.py caller args.caseId s ((verifyCase cfg caller args).run s).2 := by
  cases hrow : s.cases.get? args.caseId with
  | none =>
    rw [run_verifyCase_missing cfg caller hrow]
    exact .nothing (.refl s)
  | some c =>
    rw [run_verifyCase cfg caller hrow]
    exact verifyLocked_plans cfg caller args _ hrow

end ReviveX
