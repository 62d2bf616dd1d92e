import ReviveX.Domain.PolicyTheorems
import ReviveX.Domain.Verification
import ReviveX.Domain.StateMachineTheorems

/-!
# What processing a case does

`processLockedCase` leaves a case alone outside the seven statuses of `isWalkable`. From
one of these it ends in the status that `plannedStatus` names for the verdict of
`plannedEvaluation`, which is a function of the store before the call; it raises exactly
when that evaluation does. `ProcessFrame` says what the call may have changed on the way.
-/

namespace ReviveX

open Lib (Session Table)

/-! ## Planned outcome -/

/-- The statuses from which `process_locked_case` reaches the policy check. -/
def isWalkable (status : RecoveryCaseStatus) : Bool :=
  [RecoveryCaseStatus.detected, .triaged, .investigating, .diagnosed, .scoring,
    .strategySelected, .policyCheck].contains status

/-- The verdict `process_locked_case` acts on, read off the store before the call. -/
def plannedEvaluation (cfg : Config) (s : Store) (caseId : ℕ) (c : RecoveryCase)
    (now : Time) : Except Failure PolicyEvaluationResult := do
  let ctx ← buildPolicyContext cfg s caseId c now
  evaluateAction ctx { actionType := (selectAction s c).text }

/-- The status a case ends in after a verdict. -/
def plannedStatus (evaluation : PolicyEvaluationResult) : RecoveryCaseStatus :=
  if !evaluation.allowed then
    if mentions "suspicious" evaluation.reason || mentions "mismatch" evaluation.reason then
      .escalated
    else .stopped
  else if evaluation.requiresApproval then .awaitingApproval
  else .actionCompleted

theorem selectAction_agrees {caseId : ℕ} {s s' : Store} {c c' : RecoveryCase}
    (h : PolicyAgrees caseId s s' c c') : selectAction s' c' = selectAction s c := by
  unfold selectAction Store.getPayment
  rw [h.payments, h.paymentId, h.merchantId]

theorem plannedEvaluation_agrees {cfg : Config} {caseId : ℕ} {s s' : Store}
    {c c' : RecoveryCase} {now : Time} (h : PolicyAgrees caseId s s' c c') :
    plannedEvaluation cfg s' caseId c' now = plannedEvaluation cfg s caseId c now := by
  unfold plannedEvaluation
  rw [buildPolicyContext_agrees h, selectAction_agrees h]
  cases hctx : buildPolicyContext cfg s caseId c now with
  | error f => rfl
  | ok ctx =>
    have hcase := buildPolicyContext_case hctx
    exact evaluateAction_case ctx c' _ (by rw [h.amountAtRisk, hcase])

/-! ## Frame -/

/-- What processing (and verifying) the case `caseId` may change: rows of other cases and
every table the policy and the verification of other cases read stay as they are. -/
structure ProcessFrame (caseId : ℕ) (s s' : Store) : Prop where
  merchants : s'.merchants = s.merchants
  customers : s'.customers = s.customers
  payments : s'.payments = s.payments
  notifications : s'.notifications = s.notifications
  carts : s'.carts = s.carts
  idempotencyKeys : s'.idempotencyKeys = s.idempotencyKeys
  others : ∀ j, j ≠ caseId → s'.cases.get? j = s.cases.get? j
  retryCount : ∀ j, j ≠ caseId → s'.retryCount j = s.retryCount j
  linkedViaAction : ∀ j paymentId p,
    linkedViaAction s' j paymentId p = linkedViaAction s j paymentId p
  discountSpentToday : ∀ m t, s'.discountSpentToday m t = s.discountSpentToday m t

namespace ProcessFrame

variable {caseId : ℕ} {s s' s'' : Store}

theorem refl (caseId : ℕ) (s : Store) : ProcessFrame caseId s s :=
  ⟨rfl, rfl, rfl, rfl, rfl, rfl, fun _ _ => rfl, fun _ _ => rfl, fun _ _ _ => rfl,
    fun _ _ => rfl⟩

theorem trans (h : ProcessFrame caseId s s') (h' : ProcessFrame caseId s' s'') :
    ProcessFrame caseId s s'' where
  merchants := h'.merchants.trans h.merchants
  customers := h'.customers.trans h.customers
  payments := h'.payments.trans h.payments
  notifications := h'.notifications.trans h.notifications
  carts := h'.carts.trans h.carts
  idempotencyKeys := h'.idempotencyKeys.trans h.idempotencyKeys
  others j hj := (h'.others j hj).trans (h.others j hj)
  retryCount j hj := (h'.retryCount j hj).trans (h.retryCount j hj)
  linkedViaAction j i p := (h'.linkedViaAction j i p).trans (h.linkedViaAction j i p)
  discountSpentToday m t := (h'.discountSpentToday m t).trans (h.discountSpentToday m t)

/-- Only the case's own row was rewritten. -/
theorem of_modifyCase (s : Store) (f : RecoveryCase → RecoveryCase) :
    ProcessFrame caseId s { s with cases := s.cases.modify caseId f } :=
  { refl caseId s with others := fun _ hj => Table.get?_modify_ne _ (Ne.symm hj) f }

/-- A planned action of the case was inserted. -/
theorem of_insertAction (s : Store) {a : RecoveryAction} (hcase : a.recoveryCaseId = caseId)
    (htype : a.actionType ≠ .offerDiscount) (href : a.providerReference = none)
    (hnew : a.metadata.newPaymentId = none) :
    ProcessFrame caseId s { s with actions := s.actions.insert a } where
  merchants := rfl
  customers := rfl
  payments := rfl
  notifications := rfl
  carts := rfl
  idempotencyKeys := rfl
  others _ _ := rfl
  retryCount j hj := by
    unfold Store.retryCount
    rw [Table.count_insert]
    simp [hcase, Ne.symm hj]
  linkedViaAction j i p := by
    unfold ReviveX.linkedViaAction
    rw [Table.any_insert]
    simp [href, hnew, givenText]
  discountSpentToday m t := by
    unfold Store.discountSpentToday
    rw [Table.sumWhere_insert]
    simp [htype]

/-- The metadata of an action was rewritten, but not the payment it created. -/
theorem of_modifyMetadata (s : Store) (actionId : ℕ) {f : RecoveryAction → ActionMetadata}
    (hf : ∀ a, (f a).newPaymentId = a.metadata.newPaymentId) :
    ProcessFrame caseId s
      { s with actions := s.actions.modify actionId fun a => { a with metadata := f a } } where
  merchants := rfl
  customers := rfl
  payments := rfl
  notifications := rfl
  carts := rfl
  idempotencyKeys := rfl
  others _ _ := rfl
  retryCount j _ := Table.count_modify _ _ fun _ => rfl
  linkedViaAction j i p := Table.any_modify _ _ fun a => by simp only [hf]
  discountSpentToday m t := Table.sumWhere_modify _ _ (fun _ => rfl) fun _ => rfl

end ProcessFrame

/-! ### Frames of the processor -/

/-- A relation between stores that allows everything the processor writes. -/
structure ProcessorFrame (caseId : ℕ) (R : Store → Store → Prop) : Prop
    extends CaseFrame caseId R where
  insertPlanned : ∀ (s : Store) (a : RecoveryAction), a.recoveryCaseId = caseId →
    a.actionType ≠ .offerDiscount → a.providerReference = none →
    a.metadata.newPaymentId = none → R s { s with actions := s.actions.insert a }
  insertDecision : ∀ (s : Store) (d : RecoveryDecision),
    R s { s with decisions := s.decisions.insert d }
  insertPolicyEvaluation : ∀ (s : Store) (e : PolicyEvaluation),
    R s { s with policyEvaluations := s.policyEvaluations.insert e }
  insertApproval : ∀ (s : Store) (a : Approval),
    R s { s with approvals := s.approvals.insert a }
  modifyMetadata : ∀ (s : Store) (actionId : ℕ) (f : RecoveryAction → ActionMetadata),
    (∀ a, (f a).newPaymentId = a.metadata.newPaymentId) →
    R s { s with actions := s.actions.modify actionId fun a => { a with metadata := f a } }
  note : ∀ (s : Store) (e : TraceEvent), R s { s with trace := s.trace ++ [e] }

theorem ProcessFrame.processorFrame (caseId : ℕ) :
    ProcessorFrame caseId (ProcessFrame caseId) where
  refl := refl caseId
  trans _ _ _ := trans
  modifyCase := of_modifyCase
  recordAudit s _ := { refl caseId s with }
  insertPlanned s _ := of_insertAction s
  insertDecision s _ := { refl caseId s with }
  insertPolicyEvaluation s _ := { refl caseId s with }
  insertApproval s _ := { refl caseId s with }
  modifyMetadata s actionId _ := of_modifyMetadata s actionId
  note s _ := { refl caseId s with }

/-! ## Walking to the policy check -/

/-- Each status of the list lies ahead of the one before it, one legal step away. -/
def climbs : RecoveryCaseStatus → List RecoveryCaseStatus → Bool
  | _, [] => true
  | current, target :: rest =>
    current != target && !alreadyPast current target && current != .policyCheck &&
      canTransition current target && climbs target rest

/-- Where a walkable status stands among the steps: past the first ones, and a climb away
from the policy check through the others. -/
theorem processSteps_split {status : RecoveryCaseStatus} (h : isWalkable status = true) :
    let k := lifecycleOrder.idxOf status
    (∀ t ∈ processSteps.take k, status = t ∨ alreadyPast status t = true) ∧
      climbs status (processSteps.drop k) = true ∧
      ((processSteps.drop k).getLast?.getD status) = .policyCheck := by
  cases status <;> first | decide | exact absurd h (by decide)

variable {caller : Caller} {caseId : ℕ} {s : Store} {c : RecoveryCase}

/-- Steps that the case is past are skipped. -/
theorem run_walkSteps_skip (h : s.cases.get? caseId = some c)
    (skipped rest : List RecoveryCaseStatus)
    (hpast : ∀ t ∈ skipped, c.status = t ∨ alreadyPast c.status t = true) :
    (walkSteps caller caseId (skipped ++ rest)).run s = (walkSteps caller caseId rest).run s := by
  induction skipped with
  | nil => rfl
  | cons t skipped ih =>
    rw [List.cons_append, walkSteps, run_readCase_bind h, Session.run_ite,
      if_pos (hpast t List.mem_cons_self)]
    exact ih fun t' ht' => hpast t' (List.mem_cons_of_mem t ht')

/-- Steps ahead of the case are taken one by one. -/
theorem run_walkSteps_climb (steps : List RecoveryCaseStatus)
    (h : s.cases.get? caseId = some c) (hclimbs : climbs c.status steps = true) :
    ∃ s' c', (walkSteps caller caseId steps).run s = (.ok (), s') ∧
      CaseMoved caseId c c' s s' ∧ c'.status = steps.getLast?.getD c.status := by
  induction steps generalizing s c with
  | nil => exact ⟨s, c, rfl, .refl h, rfl⟩
  | cons target rest ih =>
    simp only [climbs, Bool.and_eq_true, bne_iff_ne, ne_eq, Bool.not_eq_true'] at hclimbs
    obtain ⟨⟨⟨⟨hne, hpast⟩, hcheck⟩, hlegal⟩, hrest⟩ := hclimbs
    obtain ⟨s₁, hrun, hmoved⟩ := transitionCase_run caller h hlegal
    obtain ⟨s', c', hrun', hmoved', hlast⟩ := ih hmoved.after hrest
    refine ⟨s', c', ?_, hmoved.trans hmoved', ?_⟩
    · rw [walkSteps, run_readCase_bind h, Session.run_ite, if_neg (by simp [hne, hpast]),
        Session.run_ite, if_neg hcheck, Session.run_bind_ok hrun, hrun']
    · rw [hlast, moveTo_status]
      cases rest <;> simp [List.getLast?_cons]

/-- From a walkable status, walking ends in the policy check. -/
theorem run_walkToPolicyCheck (caller : Caller) (h : s.cases.get? caseId = some c)
    (hwalk : isWalkable c.status = true) :
    ∃ s' c', (walkToPolicyCheck caller caseId).run s = (.ok (), s') ∧
      CaseMoved caseId c c' s s' ∧ c'.status = .policyCheck := by
  obtain ⟨hpast, hclimbs, hlast⟩ := processSteps_split hwalk
  obtain ⟨s', c', hrun, hmoved, hstatus⟩ := run_walkSteps_climb _ h hclimbs
  refine ⟨s', c', ?_, hmoved, hstatus.trans hlast⟩
  unfold walkToPolicyCheck
  rw [← List.take_append_drop (lifecycleOrder.idxOf c.status) processSteps,
    run_walkSteps_skip h _ _ hpast, hrun]

/-- A case that is executing is past every step. -/
theorem run_walkToPolicyCheck_executing (h : s.cases.get? caseId = some c)
    (hstatus : c.status = .executing) :
    (walkToPolicyCheck caller caseId).run s = (.ok (), s) := by
  unfold walkToPolicyCheck
  rw [← List.append_nil processSteps, run_walkSteps_skip h processSteps []]
  · rfl
  · rw [hstatus]
    decide

/-! ## Processing a locked case -/

section Keeps

variable {R : Store → Store → Prop} (hR : ProcessorFrame caseId R)
include hR

/-- The planned action is a new row of the case, or the row its key already had. -/
theorem keeps_recordPlannedAction (c : RecoveryCase) {actionType : RecoveryActionType}
    (status : RecoveryActionStatus) (riskLevel : RiskLevel) {metadata : ActionMetadata}
    (htype : actionType ≠ .offerDiscount) (hnew : metadata.newPaymentId = none) :
    Session.Keeps R
      (recordPlannedAction caller caseId c actionType status riskLevel metadata) := by
  refine .get_bind fun s => ?_
  cases s.actionIdOfKey c.merchantId s!"phase5:{caseId}:{actionType.text}:1" with
  | some existing => exact hR.keeps_pure existing
  | none =>
    refine hR.bind (.modifyGet fun s => ?_) fun actionId =>
      hR.bind (.modify fun s => hR.insertDecision s _) fun _ => hR.keeps_pure _
    exact hR.insertPlanned s _ rfl htype rfl hnew

theorem keeps_requestPlannedApproval (cfg : Config) {actionType : RecoveryActionType}
    (ctx : PolicyContext) (evaluation : PolicyEvaluationResult)
    (htype : actionType ≠ .offerDiscount) :
    Session.Keeps R
      (requestPlannedApproval cfg caller caseId actionType ctx evaluation) :=
  hR.bind (hR.keeps_readCase _) fun c =>
    hR.bind (keeps_recordPlannedAction hR c _ _ htype rfl) fun actionId =>
      hR.bind (.modifyGet fun s => hR.insertApproval s _) fun _ =>
        .get_bind fun _ =>
          hR.bind (.modify fun s => hR.modifyMetadata s actionId _ fun _ => rfl) fun _ =>
            hR.bind (.modify fun s => hR.note s _) fun _ =>
              hR.keeps_transitionCase caller _

omit hR in
theorem selectAction_ne_offerDiscount (s : Store) (c : RecoveryCase) :
    selectAction s c ≠ .offerDiscount := by
  unfold selectAction
  dsimp only
  split <;> decide

theorem keeps_walkToPolicyCheck :
    Session.Keeps R (walkToPolicyCheck caller caseId) := by
  unfold walkToPolicyCheck
  -- on the steps that are left: one is skipped, ends the walk, or is taken before the rest
  induction processSteps with
  | nil => exact hR.keeps_pure ()
  | cons target rest ih =>
    exact hR.bind (hR.keeps_readCase _) fun _ =>
      .ite ih (.ite (hR.keeps_pure ())
        (hR.bind (hR.keeps_transitionCase caller _) fun _ => ih))

theorem keeps_evaluateAndPersist (ctx : PolicyContext) (proposed : ProposedAction) :
    Session.Keeps R (evaluateAndPersist caller caseId ctx proposed) :=
  hR.bind (.ofExcept hR.refl _) fun _ =>
    hR.bind
      (hR.bind (.modify fun s => hR.insertPolicyEvaluation s _) fun _ =>
        hR.keeps_recordAudit _)
      fun _ => hR.keeps_pure _

theorem keeps_actOnEvaluation (cfg : Config) {actionType : RecoveryActionType}
    (ctx : PolicyContext) (evaluation : PolicyEvaluationResult)
    (htype : actionType ≠ .offerDiscount) :
    Session.Keeps R (actOnEvaluation cfg caller caseId actionType ctx evaluation) := by
  refine hR.bind (hR.keeps_readCase _) fun c =>
    .ite ?_ (.ite (keeps_requestPlannedApproval hR cfg ctx evaluation htype) ?_)
  · exact hR.bind (keeps_recordPlannedAction hR c _ _ htype rfl) fun _ =>
      hR.keeps_transitionCase caller _
  · exact hR.bind (keeps_recordPlannedAction hR c _ _ htype rfl) fun _ =>
      hR.bind (hR.keeps_transitionCase caller _) fun _ => hR.keeps_transitionCase caller _

theorem keeps_decideAtPolicyCheck (cfg : Config) :
    Session.Keeps R (decideAtPolicyCheck cfg caller caseId) :=
  hR.bind (hR.keeps_readCase _) fun c => .get_bind fun s =>
    hR.bind (.ofExcept hR.refl _) fun ctx =>
    hR.bind (keeps_evaluateAndPersist hR ctx _) fun evaluation =>
    keeps_actOnEvaluation hR cfg ctx evaluation (selectAction_ne_offerDiscount s c)

theorem keeps_processLockedCase (cfg : Config) :
    Session.Keeps R (processLockedCase cfg caller caseId) :=
  hR.bind (hR.keeps_readCase _) fun _ =>
    .ite (hR.keeps_pure ()) <| hR.bind (keeps_walkToPolicyCheck hR) fun _ =>
    hR.bind (hR.keeps_readCase _) fun _ =>
    .ite (hR.keeps_pure ()) (keeps_decideAtPolicyCheck hR cfg)

end Keeps

/-! ### Outcomes -/

theorem run_recordPlannedAction (caller : Caller) (caseId : ℕ) (c : RecoveryCase) (s : Store)
    (actionType : RecoveryActionType) (status : RecoveryActionStatus) (riskLevel : RiskLevel)
    (metadata : ActionMetadata) :
    ∃ actionId s', (recordPlannedAction caller caseId c actionType status riskLevel
        metadata).run s = (.ok actionId, s') ∧ s'.cases = s.cases := by
  unfold recordPlannedAction
  simp only [Session.run_get_bind]
  cases s.actionIdOfKey c.merchantId s!"phase5:{caseId}:{actionType.text}:1" with
  | some existing => exact ⟨existing, s, rfl, rfl⟩
  | none => exact ⟨_, _, rfl, rfl⟩

/-- A legal transition, from any store that holds the row. -/
theorem transitionCase_get? (caller : Caller) {target : RecoveryCaseStatus}
    (hlegal : canTransition c.status target = true) (h : s.cases.get? caseId = some c)
    {s₁ : Store} (hcases : s₁.cases = s.cases) :
    ∃ s', (transitionCase caller caseId target).run s₁ = (.ok (), s') ∧
      s'.cases.get? caseId = some (c.moveTo target caller.now) := by
  obtain ⟨s', hrun, hmoved⟩ := transitionCase_run caller (hcases ▸ h) hlegal
  exact ⟨s', hrun, hmoved.after⟩

/-- Parking a case at the policy check ends in `AWAITING_APPROVAL`. -/
theorem run_requestPlannedApproval (cfg : Config) (caller : Caller)
    (actionType : RecoveryActionType) (ctx : PolicyContext)
    (evaluation : PolicyEvaluationResult) (h : s.cases.get? caseId = some c)
    (hstatus : c.status = .policyCheck) :
    ∃ s', (requestPlannedApproval cfg caller caseId actionType ctx evaluation).run s =
        (.ok (), s') ∧
      s'.cases.get? caseId = some (c.moveTo .awaitingApproval caller.now) := by
  obtain ⟨actionId, s₁, hrun, hcases⟩ := run_recordPlannedAction caller caseId c s actionType
    .approvalRequired evaluation.riskLevel (plannedMetadata cfg.py actionType caller.now)
  unfold requestPlannedApproval
  rw [run_readCase_bind h, Session.run_bind_ok hrun]
  simp only [Service.insertApproval, Service.modifyAction, Service.note,
    Session.run_modifyGet_bind, Session.run_get_bind, Session.run_modify_bind]
  exact transitionCase_get? caller (by rw [hstatus]; decide) h hcases

/-- Outside the walkable statuses processing does nothing. -/
theorem run_processLockedCase_idle (cfg : Config) (caller : Caller)
    (h : s.cases.get? caseId = some c) (hwalk : isWalkable c.status = false) :
    (processLockedCase cfg caller caseId).run s = (.ok (), s) := by
  unfold processLockedCase
  rw [run_readCase_bind h, Session.run_ite]
  by_cases hexec : c.status = .executing
  · rw [if_neg (by rw [hexec]; decide),
      Session.run_bind_ok (run_walkToPolicyCheck_executing h hexec), run_readCase_bind h,
      Session.run_ite, if_pos (by rw [hexec]; decide)]
    rfl
  · rw [if_pos]
    · rfl
    · revert hwalk hexec
      cases c.status <;> decide

/-- The store at the policy check, which the policy engine cannot tell from the store at
the start. -/
theorem PolicyAgrees.of_caseMoved {c' : RecoveryCase} {s' : Store}
    (h : CaseMoved caseId c c' s s') : PolicyAgrees caseId s s' c c' := by
  have hstore := h.store
  rw [hstore]
  exact
    { merchants := rfl
      customers := rfl
      payments := rfl
      notifications := rfl
      retryCount := rfl
      discountSpentToday := fun _ _ => rfl
      merchantId := h.lifecycle.merchantId
      customerId := h.lifecycle.customerId
      paymentId := h.lifecycle.paymentId
      amountAtRisk := h.lifecycle.amountAtRisk
      identityMismatch := by rw [h.lifecycle.lastMismatchReason] }

/-- Acting on a verdict at the policy check ends in the planned status. -/
theorem run_actOnEvaluation (cfg : Config) (caller : Caller) (actionType : RecoveryActionType)
    (ctx : PolicyContext) (evaluation : PolicyEvaluationResult)
    (h : s.cases.get? caseId = some c) (hstatus : c.status = .policyCheck) :
    ∃ s' c', (actOnEvaluation cfg caller caseId actionType ctx evaluation).run s =
        (.ok (), s') ∧
      s'.cases.get? caseId = some c' ∧ c.LifecycleOnly c' ∧
      c'.status = plannedStatus evaluation := by
  unfold actOnEvaluation plannedStatus
  rw [run_readCase_bind h]
  by_cases hallowed : evaluation.allowed = true
  · simp only [hallowed, Bool.not_true, Bool.false_eq_true, if_false]
    by_cases happroval : evaluation.requiresApproval = true
    · simp only [happroval, if_true]
      obtain ⟨s', hrun, hafter⟩ :=
        run_requestPlannedApproval cfg caller actionType ctx evaluation h hstatus
      exact ⟨s', _, hrun, hafter, .moveTo c _ _, rfl⟩
    · simp only [happroval, Bool.false_eq_true, if_false]
      obtain ⟨actionId, s₁, hrun₁, hcases⟩ := run_recordPlannedAction caller caseId c s
        actionType .pending evaluation.riskLevel { executed := some false }
      obtain ⟨s₂, hrun₂, hafter₂⟩ := transitionCase_get? caller
        (show canTransition c.status .executing = true by rw [hstatus]; decide) h hcases
      obtain ⟨s₃, hrun₃, hafter₃⟩ := transitionCase_get? caller
        (show canTransition .executing .actionCompleted = true by decide) hafter₂ rfl
      refine ⟨s₃, _, ?_, hafter₃, .trans (.moveTo c _ _) (.moveTo _ _ _), rfl⟩
      rw [Session.run_bind_ok hrun₁, Session.run_bind_ok hrun₂, hrun₃]
  · simp only [hallowed, Bool.not_false, if_true]
    obtain ⟨actionId, s₁, hrun₁, hcases⟩ := run_recordPlannedAction caller caseId c s
      actionType .blocked evaluation.riskLevel { executed := some false }
    obtain ⟨s₂, hrun₂, hafter₂⟩ := transitionCase_get? caller
      (show canTransition c.status (if mentions "suspicious" evaluation.reason ||
          mentions "mismatch" evaluation.reason then .escalated else .stopped) = true by
        rw [hstatus]; split <;> decide) h hcases
    refine ⟨s₂, _, ?_, hafter₂, .moveTo c _ _, rfl⟩
    rw [Session.run_bind_ok hrun₁, hrun₂]

theorem run_evaluateAndPersist (caller : Caller) (caseId : ℕ) (ctx : PolicyContext)
    (proposed : ProposedAction) (s : Store) :
    ∃ s', (evaluateAndPersist caller caseId ctx proposed).run s =
        (evaluateAction ctx proposed, s') ∧ s'.cases = s.cases := by
  unfold evaluateAndPersist
  rw [Session.run_ofExcept_bind]
  cases evaluateAction ctx proposed with
  | error f => exact ⟨s, rfl, rfl⟩
  | ok evaluation => exact ⟨_, rfl, rfl⟩

/-- The decision at the policy check raises when the evaluation does. -/
theorem run_decideAtPolicyCheck (cfg : Config) (caller : Caller)
    (h : s.cases.get? caseId = some c) (hstatus : c.status = .policyCheck) :
    ∃ s' c', s'.cases.get? caseId = some c' ∧ c.LifecycleOnly c' ∧
      match plannedEvaluation cfg s caseId c caller.now with
      | .error f => (decideAtPolicyCheck cfg caller caseId).run s = (.error f, s') ∧
          c'.status = .policyCheck
      | .ok evaluation => (decideAtPolicyCheck cfg caller caseId).run s = (.ok (), s') ∧
          c'.status = plannedStatus evaluation := by
  unfold decideAtPolicyCheck plannedEvaluation
  rw [run_readCase_bind h, Session.run_get_bind, Session.run_ofExcept_bind]
  cases hctx : buildPolicyContext cfg s caseId c caller.now with
  | error f => exact ⟨s, c, h, .refl c, rfl, hstatus⟩
  | ok ctx =>
    obtain ⟨s₁, hrun₁, hcases⟩ := run_evaluateAndPersist caller caseId ctx
      { actionType := (selectAction s c).text } s
    have h₁ : s₁.cases.get? caseId = some c := by rw [hcases, h]
    simp only [bind, Except.bind]
    cases hev : evaluateAction ctx { actionType := (selectAction s c).text } with
    | error f =>
      rw [hev] at hrun₁
      exact ⟨s₁, c, h₁, .refl c, Session.run_bind_error hrun₁ _, hstatus⟩
    | ok evaluation =>
      rw [hev] at hrun₁
      obtain ⟨s', c', hrun, hafter, hlifecycle, hend⟩ :=
        run_actOnEvaluation cfg caller (selectAction s c) ctx evaluation h₁ hstatus
      exact ⟨s', c', hafter, hlifecycle, (Session.run_bind_ok hrun₁ _).trans hrun, hend⟩

/-- From a walkable status, the case is walked to the policy check and decided there. -/
theorem run_processLockedCase_walks (cfg : Config) (caller : Caller)
    (h : s.cases.get? caseId = some c) (hwalk : isWalkable c.status = true) :
    ∃ s₁ c₁, CaseMoved caseId c c₁ s s₁ ∧ c₁.status = .policyCheck ∧
      (processLockedCase cfg caller caseId).run s =
        (decideAtPolicyCheck cfg caller caseId).run s₁ := by
  obtain ⟨s₁, c₁, hrun₁, hmoved₁, hcheck⟩ := run_walkToPolicyCheck caller h hwalk
  refine ⟨s₁, c₁, hmoved₁, hcheck, ?_⟩
  unfold processLockedCase
  rw [run_readCase_bind h, Session.run_ite, if_neg, Session.run_bind_ok hrun₁,
    run_readCase_bind hmoved₁.after, Session.run_ite, if_neg (by rw [hcheck]; simp)]
  revert hwalk
  cases c.status <;> decide

/-- From a walkable status, processing raises at the policy check when the evaluation does,
and otherwise ends in the planned status; the other columns stay as they are. -/
theorem run_processLockedCase (cfg : Config) (caller : Caller)
    (h : s.cases.get? caseId = some c) (hwalk : isWalkable c.status = true) :
    ∃ s' c', s'.cases.get? caseId = some c' ∧ c.LifecycleOnly c' ∧
      match plannedEvaluation cfg s caseId c caller.now with
      | .error f => (processLockedCase cfg caller caseId).run s = (.error f, s') ∧
          c'.status = .policyCheck
      | .ok evaluation => (processLockedCase cfg caller caseId).run s = (.ok (), s') ∧
          c'.status = plannedStatus evaluation := by
  obtain ⟨s₁, c₁, hmoved₁, hcheck, hrun⟩ := run_processLockedCase_walks cfg caller h hwalk
  obtain ⟨s', c', hafter, hlifecycle, hdecide⟩ :=
    run_decideAtPolicyCheck cfg caller hmoved₁.after hcheck
  refine ⟨s', c', hafter, hmoved₁.lifecycle.trans hlifecycle, ?_⟩
  rw [hrun, ← plannedEvaluation_agrees (PolicyAgrees.of_caseMoved hmoved₁)]
  exact hdecide

end ReviveX
