import ReviveX.Domain.PolicyTheorems
import ReviveX.Tools.Execution
import ReviveX.Tools.HandlerTheorems

/-!
# What a run after the idempotency key does

`RunOutcome` lists everything `runAfterIdempotency` can do to the store: refuse, block the
action, park it for an approval, run the handler, or crash in it. Later proofs look at
these outcomes and never at the code again.

Stores are described up to bookkeeping (`Bookkept`): audit rows, policy evaluations, tool
calls, and the lifecycle columns of the case.
-/

namespace ReviveX

open Lib (RaisesOnly Session Table)

/-! ## Bookkeeping -/

/-- Only records of what happened were written. -/
def Recorded (s s' : Store) : Prop :=
  s' = { s with
    policyEvaluations := s'.policyEvaluations
    toolCalls := s'.toolCalls
    auditEvents := s'.auditEvents }

namespace Recorded

variable {s s' s'' : Store}

theorem refl (s : Store) : Recorded s s := rfl

theorem trans (h : Recorded s s') (h' : Recorded s' s'') : Recorded s s'' := by
  unfold Recorded at *
  rw [h', h]

theorem cases (h : Recorded s s') : s'.cases = s.cases := by rw [h]

theorem actions (h : Recorded s s') : s'.actions = s.actions := by rw [h]

theorem approvals (h : Recorded s s') : s'.approvals = s.approvals := by rw [h]

theorem trace (h : Recorded s s') : s'.trace = s.trace := by rw [h]

theorem payments (h : Recorded s s') : s'.payments = s.payments := by rw [h]

theorem idempotencyKeys (h : Recorded s s') : s'.idempotencyKeys = s.idempotencyKeys := by
  rw [h]

end Recorded

/-- Records were written, and the case moved along its lifecycle. -/
structure Bookkept (caseId : ℕ) (s s' : Store) : Prop where
  store : s' = { s with
    cases := s'.cases
    policyEvaluations := s'.policyEvaluations
    toolCalls := s'.toolCalls
    auditEvents := s'.auditEvents }
  others : ∀ j, j ≠ caseId → s'.cases.get? j = s.cases.get? j
  lifecycle : ∀ c, s.cases.get? caseId = some c →
    ∃ c', s'.cases.get? caseId = some c' ∧ c.LifecycleOnly c'

namespace Bookkept

variable {caseId : ℕ} {s s' s'' : Store}

theorem of_recorded (h : Recorded s s') : Bookkept caseId s s' where
  store := by rw [h]
  others j _ := by rw [h.cases]
  lifecycle c hc := ⟨c, by rw [h.cases, hc], .refl c⟩

theorem refl (caseId : ℕ) (s : Store) : Bookkept caseId s s := .of_recorded (.refl s)

theorem trans (h : Bookkept caseId s s') (h' : Bookkept caseId s' s'') :
    Bookkept caseId s s'' where
  store := by rw [h'.store, h.store]
  others j hj := (h'.others j hj).trans (h.others j hj)
  lifecycle c hc := by
    obtain ⟨c', hc', hlife⟩ := h.lifecycle c hc
    obtain ⟨c'', hc'', hlife'⟩ := h'.lifecycle c' hc'
    exact ⟨c'', hc'', hlife.trans hlife'⟩

theorem of_caseMoved {c c' : RecoveryCase} (h : CaseMoved caseId c c' s s') :
    Bookkept caseId s s' where
  store := by
    have hstore := h.store
    rw [hstore]
  others := h.others
  lifecycle d hd := by
    obtain rfl := Option.some.inj (h.before.symm.trans hd)
    exact ⟨c', h.after, h.lifecycle⟩

theorem actions (h : Bookkept caseId s s') : s'.actions = s.actions := by rw [h.store]

theorem approvals (h : Bookkept caseId s s') : s'.approvals = s.approvals := by rw [h.store]

theorem trace (h : Bookkept caseId s s') : s'.trace = s.trace := by rw [h.store]

theorem payments (h : Bookkept caseId s s') : s'.payments = s.payments := by rw [h.store]

theorem merchants (h : Bookkept caseId s s') : s'.merchants = s.merchants := by rw [h.store]

theorem idempotencyKeys (h : Bookkept caseId s s') :
    s'.idempotencyKeys = s.idempotencyKeys := by
  rw [h.store]

end Bookkept

variable {rt : Runtime} {svc : ToolExecutionService} {caller : Caller} {now : Time}
  {request : ToolRequest} {s s' : Store} {c : RecoveryCase} {caseId : ℕ}

theorem recorded_recordAudit (e : AuditEvent) (s : Store) :
    Recorded s { s with auditEvents := s.auditEvents.insert e } := rfl

/-- The verdict is stored next to what the store holds. -/
theorem persistVerdict_run (caller : Caller) (request : ToolRequest) (verdict : ToolVerdict)
    (s : Store) : ∃ s', (persistVerdict caller request verdict).run s = (.ok (), s') ∧
      Recorded s s' := by
  unfold persistVerdict
  split
  · exact ⟨_, rfl, rfl⟩
  · exact ⟨s, rfl, .refl s⟩

/-- A legal transition, as bookkeeping. -/
theorem transitionCase_bookkept (caller : Caller) {target : RecoveryCaseStatus}
    (h : s.cases.get? caseId = some c) (hlegal : canTransition c.status target = true) :
    ∃ s', (transitionCase caller caseId target).run s = (.ok (), s') ∧
      s'.cases.get? caseId = some (c.moveTo target caller.now) ∧ Bookkept caseId s s' := by
  obtain ⟨s', hrun, hmoved⟩ := transitionCase_run caller h hlegal
  exact ⟨s', hrun, hmoved.after, .of_caseMoved hmoved⟩

/-! ## The case afterwards -/

theorem completeAction_run (caller : Caller) (h : s.cases.get? caseId = some c) :
    ∃ s', (completeAction caller caseId c.status).run s = (.ok (), s') ∧
      Bookkept caseId s s' := by
  unfold completeAction
  by_cases hwaiting : c.status = .policyCheck ∨ c.status = .awaitingApproval
  · rw [if_pos hwaiting]
    have hlegal : canTransition c.status .executing = true := by
      rcases hwaiting with hstatus | hstatus <;> rw [hstatus] <;> decide
    obtain ⟨s₁, hrun₁, hrow₁, hkept₁⟩ := transitionCase_bookkept caller h hlegal
    have hlegal₁ : canTransition (c.moveTo .executing caller.now).status .actionCompleted =
        true := by
      rw [moveTo_status]
      decide
    obtain ⟨s₂, hrun₂, -, hkept₂⟩ := transitionCase_bookkept caller hrow₁ hlegal₁
    rw [Session.run_bind_ok hrun₁]
    exact ⟨s₂, hrun₂, hkept₁.trans hkept₂⟩
  · rw [if_neg hwaiting]
    by_cases hexecuting : c.status = .executing
    · rw [if_pos hexecuting]
      have hlegal : canTransition c.status .actionCompleted = true := by
        rw [hexecuting]
        decide
      obtain ⟨s₁, hrun₁, -, hkept₁⟩ := transitionCase_bookkept caller h hlegal
      exact ⟨s₁, hrun₁, hkept₁⟩
    · rw [if_neg hexecuting]
      exact ⟨s, rfl, .refl caseId s⟩

/-- The outcome of a successful handler is applied without an error. -/
theorem applyCaseOutcome_run (caller : Caller) (h : s.cases.get? caseId = some c)
    (target : Option RecoveryCaseStatus) :
    ∃ s', (applyCaseOutcome caller caseId target).run s = (.ok (), s') ∧
      Bookkept caseId s s' := by
  have hstay : ∃ s', ((pure () : Service Unit).run s) = (.ok (), s') ∧ Bookkept caseId s s' :=
    ⟨s, rfl, .refl caseId s⟩
  have hmove : ∀ target, canTransition c.status target = true →
      ∃ s', (transitionCase caller caseId target).run s = (.ok (), s') ∧
        Bookkept caseId s s' := by
    intro target hlegal
    obtain ⟨s', hrun, -, hkept⟩ := transitionCase_bookkept caller h hlegal
    exact ⟨s', hrun, hkept⟩
  -- from each of these statuses the case may be escalated or stopped
  have hend : ∀ target, target = .escalated ∨ target = .stopped →
      [RecoveryCaseStatus.policyCheck, .awaitingApproval, .failed,
        .notRecovered].contains c.status = true → canTransition c.status target = true := by
    intro target htarget hstatus
    rcases htarget with rfl | rfl <;> revert hstatus <;> cases c.status <;> decide
  unfold applyCaseOutcome
  rw [run_readCase_bind h]
  split
  · exact hstay
  · split
    · exact completeAction_run caller h
    · split
      · rename_i hstatus
        exact hmove _ (by rw [hstatus]; decide)
      · exact hstay
    · split
      · rename_i hstatus
        exact hmove _ (hend _ (.inl rfl) hstatus)
      · exact hstay
    · split
      · rename_i hstatus
        exact hmove _ (hend _ (.inr rfl) hstatus)
      · exact hstay
    · exact hstay

/-! ## Action rows -/

/-- The identifier of the row that `_upsert_action` writes. -/
def Store.upsertId (s : Store) (request : ToolRequest) : ℕ :=
  (s.existingAction request.case.merchantId request.args.idempotencyKey
    request.args.existingActionId).getD s.actions.nextId

/-- The actions after `_upsert_action`. -/
def Store.upserted (s : Store) (request : ToolRequest) (action : RecoveryActionType)
    (w : ActionWrite) (now : Time) : Table RecoveryAction :=
  match s.existingAction request.case.merchantId request.args.idempotencyKey
      request.args.existingActionId with
  | some actionId => s.actions.modify actionId w.onto
  | none => s.actions.insert (w.newRow s request action now)

theorem upsertAction_run (caller : Caller) (request : ToolRequest) (action : RecoveryActionType)
    (w : ActionWrite) (s : Store) :
    ∃ s', (upsertAction caller request action w).run s = (.ok (s.upsertId request), s') ∧
      Recorded { s with actions := s.upserted request action w caller.now } s' := by
  unfold upsertAction Store.upsertId Store.upserted
  rw [Session.run_get_bind]
  cases hfound : s.existingAction request.case.merchantId request.args.idempotencyKey
      request.args.existingActionId with
  | some actionId => exact ⟨_, rfl, rfl⟩
  | none => exact ⟨_, rfl, rfl⟩

/-- A row that `_upsert_action` finds is in the table. -/
theorem existingAction_get? {merchantId : ℕ} {key : String} {existing : Option ℕ}
    {actionId : ℕ} (h : s.existingAction merchantId key existing = some actionId) :
    ∃ a, s.actions.get? actionId = some a := by
  unfold Store.existingAction at h
  rcases Option.or_eq_some_iff.mp h with hgiven | ⟨-, hkey⟩
  · obtain ⟨-, hsome⟩ := Option.filter_eq_some_iff.mp hgiven
    exact Option.isSome_iff_exists.mp (by simpa using hsome)
  · obtain ⟨a, ha, -⟩ := Table.get?_of_findId? hkey
    exact ⟨a, ha⟩

/-- The rows after `_upsert_action`: one row is written, onto what was there or new. -/
theorem upserted_get? (s : Store) (request : ToolRequest) (action : RecoveryActionType)
    (w : ActionWrite) (now : Time) :
    (∃ a, s.actions.get? (s.upsertId request) = some a ∧
      s.existingAction request.case.merchantId request.args.idempotencyKey
        request.args.existingActionId = some (s.upsertId request) ∧
      (s.upserted request action w now).get? (s.upsertId request) = some (w.onto a)) ∨
    (s.upsertId request = s.actions.nextId ∧
      s.existingAction request.case.merchantId request.args.idempotencyKey
        request.args.existingActionId = none ∧
      (s.upserted request action w now).get? (s.upsertId request) =
        some (w.newRow s request action now)) := by
  unfold Store.upsertId Store.upserted
  cases hfound : s.existingAction request.case.merchantId request.args.idempotencyKey
      request.args.existingActionId with
  | some actionId =>
    obtain ⟨a, ha⟩ := existingAction_get? hfound
    refine .inl ⟨a, ha, rfl, ?_⟩
    simp [ha]
  | none => exact .inr ⟨rfl, rfl, Table.get?_insert_nextId _ _⟩

theorem upserted_get?_ne {i : ℕ} (h : i ≠ s.upsertId request) (action : RecoveryActionType)
    (w : ActionWrite) (now : Time) :
    (s.upserted request action w now).get? i = s.actions.get? i := by
  unfold Store.upsertId at h
  unfold Store.upserted
  cases hfound : s.existingAction request.case.merchantId request.args.idempotencyKey
      request.args.existingActionId with
  | some actionId =>
    rw [hfound] at h
    exact Table.get?_modify_ne _ (Ne.symm h) _
  | none =>
    rw [hfound, Option.getD_none] at h
    rw [Table.get?_insert, if_neg h]

/-! ## Parking -/

/-- The store after an approval was created for an action. -/
def Store.withApproval (s : Store) (caller : Caller) (request : ToolRequest) (actionId : ℕ)
    (ttlMinutes : ℤ) : Store :=
  { s with
    actions := s.actions.modify actionId fun a =>
      { a with metadata := a.metadata.update (approvalMetadata request s.approvals.nextId) }
    approvals := s.approvals.insert (requestedApproval caller request actionId ttlMinutes)
    trace := s.trace ++ [.approvalRequested s.approvals.nextId request.args.caseId actionId
      request.case.fingerprint (some request.tool) request.input] }

theorem createApproval_run (caller : Caller) (request : ToolRequest) (actionId : ℕ)
    (ttlMinutes : ℤ) (s : Store) :
    (createApproval caller request actionId ttlMinutes).run s =
      (.ok s.approvals.nextId, s.withApproval caller request actionId ttlMinutes) := rfl

/-- The store after an action was parked, up to bookkeeping. -/
def Store.parked (s : Store) (caller : Caller) (request : ToolRequest)
    (action : RecoveryActionType) (verdict : ToolVerdict) : Store :=
  Store.withApproval
    { s with
      actions := s.upserted request action
        (parkingWrite request verdict.evaluation.riskLevel) caller.now }
    caller request (s.upsertId request) verdict.ctx.settings.approvalTtlMinutes

/-- The status of a case once one of its actions waits for an approval. -/
def parkedStatus (status : RecoveryCaseStatus) : RecoveryCaseStatus :=
  if status = .policyCheck then .awaitingApproval else status

theorem awaitApproval_run (caller : Caller)
    (h : s.cases.get? request.args.caseId = some request.case) :
    ∃ s' c', (awaitApproval caller request).run s = (.ok (), s') ∧
      Bookkept request.args.caseId s s' ∧ s'.cases.get? request.args.caseId = some c' ∧
      c'.status = parkedStatus request.case.status := by
  unfold awaitApproval parkedStatus
  split
  · rename_i hstatus
    have hlegal : canTransition request.case.status .awaitingApproval = true := by
      rw [hstatus]
      decide
    obtain ⟨s', hrun, hrow, hkept⟩ := transitionCase_bookkept caller h hlegal
    exact ⟨s', _, hrun, hkept, hrow, moveTo_status _ _ _⟩
  · exact ⟨s, _, rfl, .refl _ s, h, rfl⟩

theorem requestApproval_run (caller : Caller) (action : RecoveryActionType)
    (verdict : ToolVerdict) (h : s.cases.get? request.args.caseId = some request.case) :
    ∃ r s' c', (requestApproval caller request action verdict).run s = (.ok r, s') ∧
      r.status = .approvalRequired ∧
      Bookkept request.args.caseId (s.parked caller request action verdict) s' ∧
      s'.cases.get? request.args.caseId = some c' ∧
      c'.status = parkedStatus request.case.status := by
  obtain ⟨s₁, hrun₁, hkept₁⟩ := upsertAction_run caller request action
    (parkingWrite request verdict.evaluation.riskLevel) s
  unfold requestApproval
  rw [Session.run_bind_ok hrun₁]
  rw [Session.run_bind_ok (createApproval_run _ _ _ _ _)]
  have hkept₂ : Recorded (s.parked caller request action verdict)
      (s₁.withApproval caller request (s.upsertId request)
        verdict.ctx.settings.approvalTtlMinutes) := by
    unfold Recorded at hkept₁
    rw [hkept₁]
    rfl
  have hcases := hkept₂.cases
  obtain ⟨s₃, c₃, hrun₃, hkept₃, hrow₃, hstatus₃⟩ := awaitApproval_run caller
    (show (s₁.withApproval caller request (s.upsertId request)
      verdict.ctx.settings.approvalTtlMinutes).cases.get? request.args.caseId =
        some request.case by rw [hcases]; exact h)
  rw [Session.run_bind_ok hrun₃]
  exact ⟨_, _, c₃, rfl, rfl, ((Bookkept.of_recorded hkept₂).trans hkept₃).trans
    (.of_recorded (recorded_recordAudit _ _)), hrow₃, hstatus₃⟩

/-! ## Running the handler -/

/-- What an approved execution needs of its approval. -/
structure UsableApproval (s : Store) (request : ToolRequest) (now : Time) : Prop where
  approval : ∃ approvalId a, request.args.approvalId = some approvalId ∧
    s.approvals.get? approvalId = some a ∧ a.recoveryCaseId = request.args.caseId ∧
    a.status = .approved ∧ a.isExpired now = false
  fresh : isStale s request.case request.args.existingActionId = false

/-- Whether an approval is usable is read from the approvals and the actions. -/
theorem usableApproval_congr {s₀ : Store} (happrovals : s₀.approvals = s.approvals)
    (hactions : s₀.actions = s.actions) :
    UsableApproval s₀ request now ↔ UsableApproval s request now := by
  have hstale : isStale s₀ request.case request.args.existingActionId =
      isStale s request.case request.args.existingActionId := by
    unfold isStale
    rw [hactions]
  constructor
  · rintro ⟨happroval, hfresh⟩
    rw [happrovals] at happroval
    exact ⟨happroval, hstale ▸ hfresh⟩
  · rintro ⟨happroval, hfresh⟩
    rw [← happrovals] at happroval
    exact ⟨happroval, hstale.trans hfresh⟩

/-- The approvals after a refusal: at most the one of an approved execution, whose time had
run out, expired. -/
def RefusedApprovals (s s' : Store) (request : ToolRequest) (now : Time) : Prop :=
  s'.approvals = s.approvals ∨
    ∃ approvalId a, request.args.approvedExecution = true ∧
      request.args.approvalId = some approvalId ∧
      s.approvals.get? approvalId = some a ∧ a.recoveryCaseId = request.args.caseId ∧
      a.status = .approved ∧ a.isExpired now = true ∧
      s'.approvals = s.approvals.modify approvalId fun a => { a with status := .expired }

/-- A refusal, or an exception after which the transaction is rolled back. -/
def Failure.IsRefusal (f : Failure) : Prop :=
  f.RollsBack ∨ ∃ code message, f = toolValidationError code message

/-- The approval check raises, or leaves a usable approval. -/
theorem checkApproval_outcome (now : Time) (request : ToolRequest) (s : Store) :
    ((checkApproval now request).run s = (.ok (), s) ∧
      (request.args.approvedExecution = true → UsableApproval s request now)) ∨
    ∃ f s', (checkApproval now request).run s = (.error f, s') ∧ f.IsRefusal ∧
      RefusedApprovals s s' request now ∧ s' = { s with approvals := s'.approvals } := by
  unfold checkApproval
  split
  swap
  · rename_i hplain
    exact .inl ⟨rfl, fun happroved => absurd happroved hplain⟩
  · rename_i happroved
    unfold assertUsableApproval
    rw [Session.run_get_bind]
    cases hid : request.args.approvalId with
    | none => exact .inr ⟨_, s, rfl, .inr ⟨_, _, rfl⟩, .inl rfl, rfl⟩
    | some approvalId =>
      dsimp only
      cases hrow : (s.approvals.get? approvalId).filter
          (·.recoveryCaseId = request.args.caseId) with
      | none => exact .inr ⟨_, s, rfl, .inr ⟨_, _, rfl⟩, .inl rfl, rfl⟩
      | some approval =>
        obtain ⟨hget, hcase⟩ := Option.filter_eq_some_iff.mp hrow
        dsimp only
        split
        · exact .inr ⟨_, s, rfl, .inr ⟨_, _, rfl⟩, .inl rfl, rfl⟩
        · rename_i hstatus
          split
          · rename_i hexpired
            exact .inr ⟨_, _, rfl, .inr ⟨_, _, rfl⟩, .inr ⟨approvalId, approval, happroved, hid,
              hget, by simpa using hcase, by simpa using hstatus, hexpired, rfl⟩, rfl⟩
          · rename_i hexpired
            split
            · exact .inr ⟨_, s, rfl, .inr ⟨_, _, rfl⟩, .inl rfl, rfl⟩
            · rename_i hfresh
              exact .inl ⟨rfl, fun _ => ⟨⟨approvalId, approval, hid, hget, by simpa using hcase,
                by simpa using hstatus, by simpa using hexpired⟩, by simpa using hfresh⟩⟩

/-- A usable approval passes the check. -/
theorem checkApproval_run
    (h : request.args.approvedExecution = true → UsableApproval s request now) :
    (checkApproval now request).run s = (.ok (), s) := by
  unfold checkApproval
  split
  swap
  · rfl
  · rename_i happroved
    obtain ⟨⟨approvalId, a, hid, hrow, hcase, hstatus, hexpired⟩, hfresh⟩ := h happroved
    have hfound : (s.approvals.get? approvalId).filter
        (·.recoveryCaseId = request.args.caseId) = some a := by
      rw [hrow]
      simp [hcase]
    unfold assertUsableApproval
    rw [Session.run_get_bind, hid]
    dsimp only
    rw [hfound]
    simp [hstatus, hexpired, hfresh]

/-- The action row of a run, when its tool is an action. -/
def Store.startedId (s : Store) (request : ToolRequest) : Option ℕ :=
  (actionForTool request.tool).map fun _ => s.upsertId request

/-- The actions when the handler is entered. -/
def Store.startedActions (s : Store) (request : ToolRequest) (riskLevel : RiskLevel)
    (now : Time) : Table RecoveryAction :=
  match actionForTool request.tool with
  | none => s.actions
  | some action => s.upserted request action (startingWrite request riskLevel) now

theorem beginExecuting_run (caller : Caller)
    (h : s.cases.get? request.args.caseId = some request.case) :
    ∃ s', (beginExecuting caller request).run s = (.ok (), s') ∧
      Bookkept request.args.caseId s s' := by
  unfold beginExecuting
  split
  · rename_i hmoves
    have hlegal : canTransition request.case.status .executing = true := by
      rcases hmoves.2 with hstatus | hstatus <;> rw [hstatus] <;> decide
    obtain ⟨s', hrun, -, hkept⟩ := transitionCase_bookkept caller h hlegal
    exact ⟨s', hrun, hkept⟩
  · exact ⟨s, rfl, .refl _ s⟩

theorem startAction_run (caller : Caller) (riskLevel : RiskLevel)
    (h : s.cases.get? request.args.caseId = some request.case) :
    ∃ s', (startAction caller request riskLevel).run s = (.ok (s.startedId request), s') ∧
      Bookkept request.args.caseId
        { s with actions := s.startedActions request riskLevel caller.now } s' := by
  unfold startAction Store.startedId Store.startedActions
  cases haction : actionForTool request.tool with
  | none => exact ⟨s, rfl, .refl _ s⟩
  | some action =>
    obtain ⟨s₁, hrun₁, hkept₁⟩ := upsertAction_run caller request action
      (startingWrite request riskLevel) s
    have hcase₁ : s₁.cases.get? request.args.caseId = some request.case := by
      rw [hkept₁.cases]
      exact h
    obtain ⟨s₂, hrun₂, hkept₂⟩ := beginExecuting_run caller hcase₁
    dsimp only
    rw [Session.run_bind_ok hrun₁, Session.run_bind_ok hrun₂]
    exact ⟨_, rfl, ((Bookkept.of_recorded hkept₁).trans hkept₂).trans
      (.of_recorded (recorded_recordAudit _ _))⟩

/-- The store when the handler is entered. -/
def Store.entered (s : Store) (call : HandlerCall) : Store :=
  { s with trace := s.trace ++ [.handlerCalled call] }

/-- The history of a successful handler. -/
def successEvents (call : HandlerCall) (handled : HandlerResult) : List TraceEvent :=
  if handled.success then
    [.handlerSucceeded call handled.amount handled.metadata.newPaymentId]
  else []

/-- The store after the handler returned, its action row written. -/
def Store.reported (s : Store) (call : HandlerCall) (handled : HandlerResult) : Store :=
  { s with
    actions :=
      match call.actionId with
      | none => s.actions
      | some actionId => s.actions.modify actionId (·.record handled call.now)
    trace := s.trace ++ successEvents call handled }

/-- The call that a request makes of its handler, from the store and the row it finds. -/
def requestCall (caller : Caller) (request : ToolRequest) (verdict : ToolVerdict) (s s₁ : Store)
    (c : RecoveryCase) : HandlerCall :=
  handlerCall request verdict.ctx (s.startedId request) s₁ c caller.now

/-- What has happened, from `s` on, when a verdict led to a call of the handler on `s₁`. -/
structure HandlerReached (caller : Caller) (request : ToolRequest) (s : Store)
    (verdict : ToolVerdict) (s₁ : Store) (c : RecoveryCase) : Prop where
  branch : toolBranch request verdict.evaluation = .run
  usable : request.args.approvedExecution = true → UsableApproval s request caller.now
  started : Bookkept request.args.caseId
    { s with actions := s.startedActions request verdict.evaluation.riskLevel caller.now } s₁
  row : s₁.cases.get? request.args.caseId = some c
  lifecycle : request.case.LifecycleOnly c

/-- What has happened, from `s` on, when the handler is called on `s₁`. -/
structure HandlerEntered (rt : Runtime) (svc : ToolExecutionService) (caller : Caller)
    (request : ToolRequest) (s : Store) (verdict : ToolVerdict) (s₁ : Store)
    (c : RecoveryCase) : Prop where
  judged : judgeTool rt svc caller.now s request = .ok verdict
  branch : toolBranch request verdict.evaluation = .run
  usable : request.args.approvedExecution = true → UsableApproval s request caller.now
  started : Bookkept request.args.caseId
    { s with actions := s.startedActions request verdict.evaluation.riskLevel caller.now } s₁
  row : s₁.cases.get? request.args.caseId = some c
  lifecycle : request.case.LifecycleOnly c

theorem HandlerReached.entered {verdict : ToolVerdict} {s₁ : Store}
    (h : HandlerReached caller request s verdict s₁ c)
    (hjudged : judgeTool rt svc caller.now s request = .ok verdict) :
    HandlerEntered rt svc caller request s verdict s₁ c :=
  ⟨hjudged, h.branch, h.usable, h.started, h.row, h.lifecycle⟩

theorem HandlerEntered.reached {verdict : ToolVerdict} {s₁ : Store}
    (h : HandlerEntered rt svc caller request s verdict s₁ c) :
    HandlerReached caller request s verdict s₁ c :=
  ⟨h.branch, h.usable, h.started, h.row, h.lifecycle⟩

/-! ## The branches -/

/-- `_run_after_idempotency` once the verdict is given. -/
def actOnVerdict (rt : Runtime) (svc : ToolExecutionService) (caller : Caller)
    (request : ToolRequest) (verdict : ToolVerdict) : Service ToolExecutionResult := do
  persistVerdict caller request verdict
  match toolBranch request verdict.evaluation with
  | .invalidState =>
    Session.raise
      (toolValidationError "INVALID_CASE_STATE"
        s!"Cannot execute {request.tool.text} while the case is {request.case.status.text}")
  | .blocked action => blockAction caller request action verdict.evaluation
  | .approval action => requestApproval caller request action verdict
  | .run => runTool rt svc caller request verdict

theorem run_runAfterIdempotency (rt : Runtime) (svc : ToolExecutionService) (caller : Caller)
    (request : ToolRequest) (s : Store) :
    (runAfterIdempotency rt svc caller request).run s =
      (Session.ofExcept (judgeTool rt svc caller.now s request) >>=
        actOnVerdict rt svc caller request).run s := rfl

/-- What a verdict leads to, from the store `s`, wherever the verdict was given. -/
inductive VerdictOutcome (rt : Runtime) (svc : ToolExecutionService) (caller : Caller)
    (request : ToolRequest) (verdict : ToolVerdict) (s : Store) :
    Except Failure ToolExecutionResult → Store → Prop
  | refused {f : Failure} {s' : Store} (hrefusal : f.IsRefusal)
      (happrovals : RefusedApprovals s s' request caller.now)
      (hkept : Bookkept request.args.caseId { s with approvals := s'.approvals } s') :
      VerdictOutcome rt svc caller request verdict s (.error f) s'
  | blocked {action : RecoveryActionType} {r : ToolExecutionResult} {s' : Store}
      (hbranch : toolBranch request verdict.evaluation = .blocked action)
      (hstatus : r.status = .blocked)
      (hkept : Bookkept request.args.caseId
        { s with
          actions := s.upserted request action (blockingWrite verdict.evaluation) caller.now }
        s') :
      VerdictOutcome rt svc caller request verdict s (.ok r) s'
  | parked {action : RecoveryActionType} {r : ToolExecutionResult} {s' : Store}
      (hbranch : toolBranch request verdict.evaluation = .approval action)
      (hstatus : r.status = .approvalRequired)
      (hkept : Bookkept request.args.caseId (s.parked caller request action verdict) s') :
      VerdictOutcome rt svc caller request verdict s (.ok r) s'
  | handled {s₁ s₂ s' : Store} {c : RecoveryCase} {handled : HandlerResult}
      {r : ToolExecutionResult} (hreached : HandlerReached caller request s verdict s₁ c)
      (hran : (handlers rt svc caller.now (handlerContext request c (s.startedId request) s₁)
        request.tool).run (s₁.entered (requestCall caller request verdict s s₁ c)) =
          (.ok handled, s₂))
      (hstatus : r.status = if handled.success then .succeeded else .failed)
      (hkept : Bookkept request.args.caseId
        (s₂.reported (requestCall caller request verdict s s₁ c) handled) s') :
      VerdictOutcome rt svc caller request verdict s (.ok r) s'
  /-- An exception left the handler: the transaction is going to be rolled back. -/
  | crashed {s₁ s₂ : Store} {c : RecoveryCase} {f : Failure}
      (hreached : HandlerReached caller request s verdict s₁ c)
      (hran : (handlers rt svc caller.now (handlerContext request c (s.startedId request) s₁)
        request.tool).run (s₁.entered (requestCall caller request verdict s s₁ c)) =
          (.error f, s₂))
      (hrollsBack : f.RollsBack) :
      VerdictOutcome rt svc caller request verdict s (.error f) s₂

/-- What `runAfterIdempotency` can do, from the store `s`. -/
inductive RunOutcome (rt : Runtime) (svc : ToolExecutionService) (caller : Caller)
    (request : ToolRequest) (s : Store) : Except Failure ToolExecutionResult → Store → Prop
  /-- Nothing but records was written, and perhaps an approval expired. -/
  | refused {f : Failure} {s' : Store} (hrefusal : f.IsRefusal)
      (happrovals : RefusedApprovals s s' request caller.now)
      (hkept : Bookkept request.args.caseId { s with approvals := s'.approvals } s') :
      RunOutcome rt svc caller request s (.error f) s'
  | blocked {verdict : ToolVerdict} {action : RecoveryActionType} {r : ToolExecutionResult}
      {s' : Store} (hjudged : judgeTool rt svc caller.now s request = .ok verdict)
      (hbranch : toolBranch request verdict.evaluation = .blocked action)
      (hstatus : r.status = .blocked)
      (hkept : Bookkept request.args.caseId
        { s with
          actions := s.upserted request action (blockingWrite verdict.evaluation) caller.now }
        s') :
      RunOutcome rt svc caller request s (.ok r) s'
  | parked {verdict : ToolVerdict} {action : RecoveryActionType} {r : ToolExecutionResult}
      {s' : Store} (hjudged : judgeTool rt svc caller.now s request = .ok verdict)
      (hbranch : toolBranch request verdict.evaluation = .approval action)
      (hstatus : r.status = .approvalRequired)
      (hkept : Bookkept request.args.caseId (s.parked caller request action verdict) s') :
      RunOutcome rt svc caller request s (.ok r) s'
  | handled {verdict : ToolVerdict} {s₁ s₂ s' : Store} {c : RecoveryCase}
      {handled : HandlerResult} {r : ToolExecutionResult}
      (hentered : HandlerEntered rt svc caller request s verdict s₁ c)
      (hran : (handlers rt svc caller.now (handlerContext request c (s.startedId request) s₁)
        request.tool).run (s₁.entered (requestCall caller request verdict s s₁ c)) =
          (.ok handled, s₂))
      (hstatus : r.status = if handled.success then .succeeded else .failed)
      (hkept : Bookkept request.args.caseId
        (s₂.reported (requestCall caller request verdict s s₁ c) handled) s') :
      RunOutcome rt svc caller request s (.ok r) s'
  /-- An exception left the handler: the transaction is going to be rolled back. -/
  | crashed {verdict : ToolVerdict} {s₁ s₂ : Store} {c : RecoveryCase} {f : Failure}
      (hentered : HandlerEntered rt svc caller request s verdict s₁ c)
      (hran : (handlers rt svc caller.now (handlerContext request c (s.startedId request) s₁)
        request.tool).run (s₁.entered (requestCall caller request verdict s s₁ c)) =
          (.error f, s₂))
      (hrollsBack : f.RollsBack) :
      RunOutcome rt svc caller request s (.error f) s₂

theorem blockAction_run (caller : Caller) (request : ToolRequest) (action : RecoveryActionType)
    (evaluation : PolicyEvaluationResult) (s : Store) :
    ∃ r s', (blockAction caller request action evaluation).run s = (.ok r, s') ∧
      r.status = .blocked ∧
      Recorded
        { s with actions := s.upserted request action (blockingWrite evaluation) caller.now }
        s' := by
  obtain ⟨s₁, hrun₁, hkept₁⟩ := upsertAction_run caller request action
    (blockingWrite evaluation) s
  unfold blockAction
  rw [Session.run_bind_ok hrun₁]
  exact ⟨_, _, rfl, rfl, hkept₁.trans (recorded_recordAudit _ _)⟩

theorem failCase_run (caller : Caller) (h : s.cases.get? request.args.caseId = some c) :
    ∃ s', (failCase caller request).run s = (.ok (), s') ∧
      Bookkept request.args.caseId s s' := by
  unfold failCase
  rw [run_readCase_bind h]
  split
  · rename_i hfails
    have hlegal : canTransition c.status .failed = true := by
      rw [hfails.2]
      decide
    obtain ⟨s', hrun, -, hkept⟩ := transitionCase_bookkept caller h hlegal
    exact ⟨s', hrun, hkept⟩
  · exact ⟨s, rfl, .refl _ s⟩

/-- The end of a run returns, whatever the handler reported. -/
theorem report_run (caller : Caller) (evaluation : PolicyEvaluationResult)
    (actionId : Option ℕ) (handled : HandlerResult)
    (h : s.cases.get? request.args.caseId = some c) :
    ∃ r s', (if handled.success then reportSuccess caller request evaluation actionId handled
        else reportFailure caller request evaluation actionId handled).run s = (.ok r, s') ∧
      (r.status = if handled.success then .succeeded else .failed) ∧
      Bookkept request.args.caseId s s' := by
  cases hsuccess : handled.success with
  | true =>
    obtain ⟨s₁, hrun₁, hkept₁⟩ := applyCaseOutcome_run caller h handled.caseStatus
    rw [if_pos rfl]
    unfold reportSuccess
    rw [Session.run_bind_ok hrun₁]
    split
    · exact ⟨_, _, rfl, rfl, hkept₁.trans (.of_recorded (recorded_recordAudit _ _))⟩
    · exact ⟨_, _, rfl, rfl, hkept₁⟩
  | false =>
    obtain ⟨s₁, hrun₁, hkept₁⟩ := failCase_run caller h
    rw [if_neg (by simp)]
    unfold reportFailure
    rw [Session.run_bind_ok hrun₁]
    exact ⟨_, _, rfl, rfl, hkept₁.trans (.of_recorded (recorded_recordAudit _ _))⟩

/-- The handler call, from the store on which it is made. -/
theorem callHandler_outcome (rt : Runtime) (svc : ToolExecutionService) (caller : Caller)
    (request : ToolRequest) (policy : PolicyContext) (actionId : Option ℕ)
    (h : s.cases.get? request.args.caseId = some c) :
    ∃ s₂, (∃ handled,
        (handlers rt svc caller.now (handlerContext request c actionId s) request.tool).run
          (s.entered (handlerCall request policy actionId s c caller.now)) = (.ok handled, s₂) ∧
        (callHandler rt svc caller request policy actionId).run s = (.ok handled,
          { s₂ with
            trace := s₂.trace ++
              successEvents (handlerCall request policy actionId s c caller.now) handled })) ∨
      (∃ f,
        (handlers rt svc caller.now (handlerContext request c actionId s) request.tool).run
          (s.entered (handlerCall request policy actionId s c caller.now)) = (.error f, s₂) ∧
        (callHandler rt svc caller request policy actionId).run s = (.error f, s₂)) := by
  have hcall : (callHandler rt svc caller request policy actionId).run s =
      (do
        let handled ← handlers rt svc caller.now (handlerContext request c actionId s)
          request.tool
        noteSuccess (handlerCall request policy actionId s c caller.now) handled
        pure handled : Service HandlerResult).run
          (s.entered (handlerCall request policy actionId s c caller.now)) := by
    unfold callHandler
    rw [run_readCase_bind h]
    rfl
  rw [hcall]
  rcases hran : (handlers rt svc caller.now (handlerContext request c actionId s)
      request.tool).run (s.entered (handlerCall request policy actionId s c caller.now)) with
    ⟨f | handled, s₂⟩
  · exact ⟨s₂, .inr ⟨f, rfl, Session.run_bind_error hran _⟩⟩
  · refine ⟨s₂, .inl ⟨handled, rfl, ?_⟩⟩
    rw [Session.run_bind_ok hran]
    unfold noteSuccess successEvents
    cases handled.success <;> simp [Service.note]

theorem recordAction_run (now : Time) (actionId : Option ℕ) (handled : HandlerResult)
    (s : Store) :
    (recordAction now actionId handled).run s = (.ok (),
      { s with
        actions :=
          match actionId with
          | none => s.actions
          | some actionId => s.actions.modify actionId (·.record handled now) }) := by
  cases actionId <;> rfl

/-- The handler leaves the case where it found it. -/
theorem handlers_cases {actionId : Option ℕ} {call : HandlerCall}
    {x : Except Failure HandlerResult} {s₁ s₂ : Store}
    (h : (handlers rt svc now (handlerContext request c actionId s₁) request.tool).run
      (s₁.entered call) = (x, s₂)) : s₂.cases = s₁.cases := by
  have heffects := handlers_effects rt svc now (handlerContext request c actionId s₁)
    request.tool (s₁.entered call)
  rw [h] at heffects
  exact heffects.cases

/-- A run whose approval is in order enters its handler, and returns unless it crashes there. -/
theorem runTool_reached (rt : Runtime) (svc : ToolExecutionService) {verdict : ToolVerdict}
    (hrow : s.cases.get? request.args.caseId = some request.case)
    (hbranch : toolBranch request verdict.evaluation = .run)
    (hcheck : (checkApproval caller.now request).run s = (.ok (), s))
    (husable : request.args.approvedExecution = true → UsableApproval s request caller.now) :
    ∃ s₁ c s₂, HandlerReached caller request s verdict s₁ c ∧
      ((∃ handled r s₃,
          (handlers rt svc caller.now (handlerContext request c (s.startedId request) s₁)
            request.tool).run (s₁.entered (requestCall caller request verdict s s₁ c)) =
              (.ok handled, s₂) ∧
          (runTool rt svc caller request verdict).run s = (.ok r, s₃) ∧
          (r.status = if handled.success then .succeeded else .failed) ∧
          Bookkept request.args.caseId
            (s₂.reported (requestCall caller request verdict s s₁ c) handled) s₃) ∨
        ∃ f,
          (handlers rt svc caller.now (handlerContext request c (s.startedId request) s₁)
            request.tool).run (s₁.entered (requestCall caller request verdict s s₁ c)) =
              (.error f, s₂) ∧
          (runTool rt svc caller request verdict).run s = (.error f, s₂) ∧ f.RollsBack) := by
  unfold runTool
  rw [Session.run_bind_ok hcheck]
  obtain ⟨s₁, hrun₁, hkept₁⟩ := startAction_run caller verdict.evaluation.riskLevel hrow
  obtain ⟨c, hc, hlife⟩ := hkept₁.lifecycle request.case hrow
  have hreached : HandlerReached caller request s verdict s₁ c :=
    ⟨hbranch, husable, hkept₁, hc, hlife⟩
  rw [Session.run_bind_ok hrun₁]
  obtain ⟨s₂, ⟨handled, hran, hcall⟩ | ⟨f, hran, hcall⟩⟩ := callHandler_outcome rt svc caller
    request verdict.ctx (s.startedId request) hc
  swap
  · rw [Session.run_bind_error hcall]
    exact ⟨s₁, c, s₂, hreached, .inr ⟨f, hran, rfl, handlers_raises _ _ _ _ _ _ _ _ hran⟩⟩
  rw [Session.run_bind_ok hcall, Session.run_bind_ok (recordAction_run _ _ _ _)]
  -- no handler writes a case
  have hc₂ : s₂.cases.get? request.args.caseId = some c := by
    rw [handlers_cases hran]
    exact hc
  obtain ⟨r, s₃, hrun₃, hstatus, hkept₃⟩ := report_run caller verdict.evaluation
    (s.startedId request) handled (s := s₂.reported (requestCall caller request verdict s s₁ c)
      handled) hc₂
  have hend : ((if handled.success then
        reportSuccess caller request verdict.evaluation (s.startedId request) handled
      else reportFailure caller request verdict.evaluation (s.startedId request) handled).run
        (s₂.reported (requestCall caller request verdict s s₁ c) handled)) = (.ok r, s₃) := hrun₃
  exact ⟨s₁, c, s₂, hreached, .inl ⟨handled, r, s₃, hran, hend, hstatus, hkept₃⟩⟩

theorem runTool_outcome {verdict : ToolVerdict}
    (hrow : s.cases.get? request.args.caseId = some request.case)
    (hbranch : toolBranch request verdict.evaluation = .run) :
    VerdictOutcome rt svc caller request verdict s
      ((runTool rt svc caller request verdict).run s).1
      ((runTool rt svc caller request verdict).run s).2 := by
  rcases checkApproval_outcome caller.now request s with
    ⟨hcheck, husable⟩ | ⟨f, s', hcheck, hrefusal, happrovals, hstore⟩
  · obtain ⟨s₁, c, s₂, hreached, ⟨handled, r, s₃, hran, hrun, hstatus, hkept⟩ |
      ⟨f, hran, hrun, hrollsBack⟩⟩ := runTool_reached rt svc hrow hbranch hcheck husable
    · rw [hrun]
      exact .handled hreached hran hstatus hkept
    · rw [hrun]
      exact .crashed hreached hran hrollsBack
  · unfold runTool
    rw [Session.run_bind_error hcheck]
    refine .refused hrefusal happrovals ?_
    rw [← hstore]
    exact .refl _ s'

/-! ## From the verdict on -/

/-- Records written beforehand do not change what a verdict leads to. -/
theorem VerdictOutcome.of_recorded {s₀ : Store} {verdict : ToolVerdict}
    {x : Except Failure ToolExecutionResult} (hrecorded : Recorded s s₀)
    (h : VerdictOutcome rt svc caller request verdict s₀ x s') :
    VerdictOutcome rt svc caller request verdict s x s' := by
  unfold Recorded at hrecorded
  generalize s₀.policyEvaluations = evaluations at hrecorded
  generalize s₀.toolCalls = calls at hrecorded
  generalize s₀.auditEvents = audits at hrecorded
  subst hrecorded
  -- what a store looks like from the records that were there before
  have hbefore : ∀ {caseId : ℕ} {s₁ : Store} {actions : Table RecoveryAction}
      {approvals : Table Approval} {trace : List TraceEvent},
      Bookkept caseId
        { s with
          actions, approvals, trace
          policyEvaluations := evaluations, toolCalls := calls, auditEvents := audits } s₁ →
      Bookkept caseId { s with actions, approvals, trace } s₁ := by
    intro caseId s₁ actions approvals trace hkept
    refine Bookkept.trans (.of_recorded ?_) hkept
    rfl
  have hreached : ∀ {s₁ c},
      HandlerReached caller request
        { s with policyEvaluations := evaluations, toolCalls := calls, auditEvents := audits }
        verdict s₁ c → HandlerReached caller request s verdict s₁ c := by
    rintro s₁ c ⟨hbranch, husable, hstarted, hrow, hlife⟩
    exact ⟨hbranch, fun happroved => ⟨(husable happroved).1, (husable happroved).2⟩,
      hbefore hstarted, hrow, hlife⟩
  cases h with
  | refused hrefusal happrovals hkept => exact .refused hrefusal happrovals (hbefore hkept)
  | blocked hbranch hstatus hkept => exact .blocked hbranch hstatus (hbefore hkept)
  | parked hbranch hstatus hkept => exact .parked hbranch hstatus (hbefore hkept)
  | handled hreached₀ hran hstatus hkept =>
    exact .handled (hreached hreached₀) hran hstatus hkept
  | crashed hreached₀ hran hrollsBack => exact .crashed (hreached hreached₀) hran hrollsBack

theorem actOnVerdict_outcome (rt : Runtime) (svc : ToolExecutionService) (caller : Caller)
    (verdict : ToolVerdict) (hrow : s.cases.get? request.args.caseId = some request.case) :
    VerdictOutcome rt svc caller request verdict s
      ((actOnVerdict rt svc caller request verdict).run s).1
      ((actOnVerdict rt svc caller request verdict).run s).2 := by
  obtain ⟨s₀, hrun₀, hrecorded⟩ := persistVerdict_run caller request verdict s
  unfold actOnVerdict
  rw [Session.run_bind_ok hrun₀]
  have hrow₀ : s₀.cases.get? request.args.caseId = some request.case := by
    rw [hrecorded.cases]
    exact hrow
  refine VerdictOutcome.of_recorded hrecorded ?_
  cases hbranch : toolBranch request verdict.evaluation with
  | invalidState => exact .refused (.inr ⟨_, _, rfl⟩) (.inl rfl) (.refl _ s₀)
  | blocked action =>
    obtain ⟨r, s₁, hrun₁, hstatus, hkept⟩ := blockAction_run caller request action
      verdict.evaluation s₀
    dsimp only
    rw [hrun₁]
    exact .blocked hbranch hstatus (.of_recorded hkept)
  | approval action =>
    obtain ⟨r, s₁, _, hrun₁, hstatus, hkept, -⟩ := requestApproval_run caller action verdict
      hrow₀
    dsimp only
    rw [hrun₁]
    exact .parked hbranch hstatus hkept
  | run => exact runTool_outcome hrow₀ hbranch

/-- A run that is let through records its verdict and runs its tool. -/
theorem run_letThrough (svc : ToolExecutionService) {verdict : ToolVerdict}
    (hrow : s.cases.get? request.args.caseId = some request.case)
    (hjudged : judgeTool rt svc caller.now s request = .ok verdict)
    (hbranch : toolBranch request verdict.evaluation = .run)
    (husable : request.args.approvedExecution = true → UsableApproval s request caller.now) :
    ∃ s₀, Recorded s s₀ ∧ s₀.cases.get? request.args.caseId = some request.case ∧
      (request.args.approvedExecution = true → UsableApproval s₀ request caller.now) ∧
      (runAfterIdempotency rt svc caller request).run s =
        (runTool rt svc caller request verdict).run s₀ := by
  obtain ⟨s₀, hrun₀, hrecorded⟩ := persistVerdict_run caller request verdict s
  refine ⟨s₀, hrecorded, ?_, fun happroved =>
    (usableApproval_congr hrecorded.approvals hrecorded.actions).mpr (husable happroved), ?_⟩
  · rw [hrecorded.cases]
    exact hrow
  · rw [run_runAfterIdempotency, Session.run_ofExcept_bind, hjudged]
    dsimp only
    unfold actOnVerdict
    rw [Session.run_bind_ok hrun₀, hbranch]

/-- A run is what its own verdict leads to. -/
theorem RunOutcome.of_verdict {verdict : ToolVerdict} {x : Except Failure ToolExecutionResult}
    (hjudged : judgeTool rt svc caller.now s request = .ok verdict)
    (h : VerdictOutcome rt svc caller request verdict s x s') :
    RunOutcome rt svc caller request s x s' := by
  cases h with
  | refused hrefusal happrovals hkept => exact .refused hrefusal happrovals hkept
  | blocked hbranch hstatus hkept => exact .blocked hjudged hbranch hstatus hkept
  | parked hbranch hstatus hkept => exact .parked hjudged hbranch hstatus hkept
  | handled hreached hran hstatus hkept =>
    exact .handled (hreached.entered hjudged) hran hstatus hkept
  | crashed hreached hran hrollsBack =>
    exact .crashed (hreached.entered hjudged) hran hrollsBack

theorem raises_judgeTool (rt : Runtime) (svc : ToolExecutionService) (now : Time) (s : Store)
    (request : ToolRequest) :
    RaisesOnly Failure.RollsBack (judgeTool rt svc now s request) := by
  unfold judgeTool
  dsimp only
  split
  · rename_i action _
    have hproposed : RaisesOnly Failure.RollsBack
        (proposedFromPayload rt action request.input) := by
      unfold proposedFromPayload
      split
      · exact .ok _
      · exact .ok _
      · split
        · exact .ok _
        · exact .error rfl
    exact .bind hproposed fun _ => .bind (raises_buildPolicyContext _ _ _ _ _) fun _ =>
      .bind (raises_evaluateAction _ _) fun _ => .ok _
  · exact .bind (raises_buildPolicyContext _ _ _ _ _) fun _ => .ok _

theorem runAfterIdempotency_outcome (rt : Runtime) (svc : ToolExecutionService)
    (caller : Caller) (hrow : s.cases.get? request.args.caseId = some request.case) :
    RunOutcome rt svc caller request s ((runAfterIdempotency rt svc caller request).run s).1
      ((runAfterIdempotency rt svc caller request).run s).2 := by
  rw [run_runAfterIdempotency, Session.run_ofExcept_bind]
  cases hjudged : judgeTool rt svc caller.now s request with
  | error f =>
    exact .refused (.inl (raises_judgeTool _ _ _ _ _ f hjudged)) (.inl rfl) (.refl _ s)
  | ok verdict => exact .of_verdict hjudged (actOnVerdict_outcome rt svc caller verdict hrow)

/-- No verdict touches the idempotency keys. -/
theorem VerdictOutcome.idempotencyKeys {verdict : ToolVerdict}
    {x : Except Failure ToolExecutionResult}
    (h : VerdictOutcome rt svc caller request verdict s x s') :
    s'.idempotencyKeys = s.idempotencyKeys := by
  -- the store at the end of the handler
  have hhandler : ∀ {s₁ s₂ : Store} {c : RecoveryCase} {y : Except Failure HandlerResult},
      HandlerReached caller request s verdict s₁ c →
      (handlers rt svc caller.now (handlerContext request c (s.startedId request) s₁)
        request.tool).run (s₁.entered (requestCall caller request verdict s s₁ c)) = (y, s₂) →
      s₂.idempotencyKeys = s.idempotencyKeys := by
    intro s₁ s₂ c y hreached hran
    have heffects := handlers_effects rt svc caller.now
      (handlerContext request c (s.startedId request) s₁) request.tool
      (s₁.entered (requestCall caller request verdict s s₁ c))
    rw [hran] at heffects
    exact heffects.idempotencyKeys.trans hreached.started.idempotencyKeys
  cases h with
  | refused hrefusal happrovals hkept => exact hkept.idempotencyKeys
  | blocked hbranch hstatus hkept => exact hkept.idempotencyKeys
  | parked hbranch hstatus hkept => exact hkept.idempotencyKeys
  | handled hreached hran hstatus hkept =>
    have hend := hhandler hreached hran
    exact hkept.idempotencyKeys.trans hend
  | crashed hreached hran hrollsBack => exact hhandler hreached hran

/-- A run that was refused before its verdict, or what its verdict leads to. -/
theorem RunOutcome.verdict {x : Except Failure ToolExecutionResult}
    (h : RunOutcome rt svc caller request s x s') :
    (∃ f, x = .error f ∧ f.IsRefusal ∧ RefusedApprovals s s' request caller.now ∧
      Bookkept request.args.caseId { s with approvals := s'.approvals } s') ∨
    ∃ verdict, judgeTool rt svc caller.now s request = .ok verdict ∧
      VerdictOutcome rt svc caller request verdict s x s' := by
  cases h with
  | refused hrefusal happrovals hkept =>
    exact .inl ⟨_, rfl, hrefusal, happrovals, hkept⟩
  | blocked hjudged hbranch hstatus hkept =>
    exact .inr ⟨_, hjudged, .blocked hbranch hstatus hkept⟩
  | parked hjudged hbranch hstatus hkept =>
    exact .inr ⟨_, hjudged, .parked hbranch hstatus hkept⟩
  | handled hentered hran hstatus hkept =>
    exact .inr ⟨_, hentered.judged, .handled hentered.reached hran hstatus hkept⟩
  | crashed hentered hran hrollsBack =>
    exact .inr ⟨_, hentered.judged, .crashed hentered.reached hran hrollsBack⟩

/-- Records written beforehand do not change what a run does. -/
theorem RunOutcome.of_recorded {s₀ : Store} {x : Except Failure ToolExecutionResult}
    (hrecorded : Recorded s s₀) (h : RunOutcome rt svc caller request s₀ x s') :
    RunOutcome rt svc caller request s x s' := by
  rcases h.verdict with ⟨f, rfl, hrefusal, happrovals, hkept⟩ | ⟨verdict, hjudged, houtcome⟩
  · have hbefore : Bookkept request.args.caseId { s with approvals := s'.approvals }
        { s₀ with approvals := s'.approvals } := by
      refine .of_recorded ?_
      rw [hrecorded]
      rfl
    refine .refused hrefusal ?_ (hbefore.trans hkept)
    unfold RefusedApprovals at happrovals
    rw [hrecorded.approvals] at happrovals
    exact happrovals
  · refine .of_verdict ?_ (.of_recorded hrecorded houtcome)
    -- the verdict does not read the records
    rw [← hjudged, hrecorded]
    rfl

/-- No run touches the idempotency keys. -/
theorem RunOutcome.idempotencyKeys {x : Except Failure ToolExecutionResult}
    (h : RunOutcome rt svc caller request s x s') :
    s'.idempotencyKeys = s.idempotencyKeys := by
  rcases h.verdict with ⟨f, -, -, -, hkept⟩ | ⟨verdict, -, houtcome⟩
  · exact hkept.idempotencyKeys
  · exact houtcome.idempotencyKeys

end ReviveX
