import ReviveX.Domain.ProcessorTheorems

/-!
# What one verification does

`VerifyOutcome` lists the eight ways `verify_case` can go, each with the result and the
row it leaves, in terms of the store before the call:

- `reachesVerifying` tells whether the case can be driven to `VERIFYING`;
- `processingRaises` tells whether the processor raises on the way;
- `failureRow` is the row a failed verification leaves.

`verifyLocked_outcome` proves that the list is complete. Nothing else is needed of the
code to reason about verifications.
-/

namespace ReviveX

open Lib (Session Table)

/-! ## Driving the case to `VERIFYING` -/

/-- A verdict that lets the planned action run. -/
def PolicyEvaluationResult.clears (evaluation : PolicyEvaluationResult) : Bool :=
  evaluation.allowed && !evaluation.requiresApproval

/-- `_ensure_verifying` gets the case to `VERIFYING`. -/
def reachesVerifying (cfg : Config) (s : Store) (caseId : ℕ) (c : RecoveryCase)
    (now : Time) : Bool :=
  c.status = .verifying || c.status = .actionCompleted ||
    (isWalkable c.status &&
      match plannedEvaluation cfg s caseId c now with
      | .ok evaluation => evaluation.clears
      | .error _ => false)

/-- The exception of `_ensure_verifying`. -/
def processingRaises (cfg : Config) (s : Store) (caseId : ℕ) (c : RecoveryCase)
    (now : Time) : Option Failure :=
  if isWalkable c.status then
    match plannedEvaluation cfg s caseId c now with
    | .ok _ => none
    | .error f => some f
  else none

theorem plannedStatus_eq_actionCompleted (evaluation : PolicyEvaluationResult) :
    plannedStatus evaluation = .actionCompleted ↔ evaluation.clears = true := by
  unfold plannedStatus PolicyEvaluationResult.clears
  cases evaluation.allowed
  · simp only [Bool.not_false, if_true, Bool.false_and, Bool.false_eq_true, iff_false]
    split <;> decide
  · cases evaluation.requiresApproval <;> simp

theorem plannedStatus_ne (evaluation : PolicyEvaluationResult) :
    plannedStatus evaluation ≠ .verifying ∧ plannedStatus evaluation ≠ .recovered := by
  unfold plannedStatus
  constructor <;> repeat' split
  all_goals decide

variable {cfg : Config} {caller : Caller} {caseId : ℕ} {s : Store} {c : RecoveryCase}

theorem keeps_startVerifying {R : Store → Store → Prop} (hR : CaseFrame caseId R) :
    Session.Keeps R (startVerifying caller caseId) :=
  hR.bind (hR.keeps_readCase _) fun _ =>
    .ite (hR.keeps_transitionCase caller _) (hR.keeps_pure ())

theorem keeps_ensureVerifying {R : Store → Store → Prop} (hR : ProcessorFrame caseId R) :
    Session.Keeps R (ensureVerifying cfg caller caseId) :=
  hR.bind (hR.keeps_readCase _) fun _ =>
    .ite (hR.keeps_pure ()) <| .ite (keeps_startVerifying hR.toCaseFrame) <|
      hR.bind (keeps_processLockedCase hR cfg) fun _ => keeps_startVerifying hR.toCaseFrame

theorem run_startVerifying (caller : Caller) (h : s.cases.get? caseId = some c) :
    ∃ s' c', (startVerifying caller caseId).run s = (.ok (), s') ∧
      s'.cases.get? caseId = some c' ∧ c.LifecycleOnly c' ∧
      c'.status = if c.status = .actionCompleted then .verifying else c.status := by
  unfold startVerifying
  rw [run_readCase_bind h, Session.run_ite]
  by_cases hstatus : c.status = .actionCompleted
  · obtain ⟨s', hrun, hafter⟩ := transitionCase_get? caller
      (show canTransition c.status .verifying = true by rw [hstatus]; decide) h rfl
    exact ⟨s', _, by rw [if_pos hstatus, hrun], hafter, .moveTo c _ _,
      by rw [if_pos hstatus]; rfl⟩
  · exact ⟨s, c, by rw [if_neg hstatus]; rfl, h, .refl c, by rw [if_neg hstatus]⟩

theorem run_ensureVerifying_eq (cfg : Config) (caller : Caller)
    (h : s.cases.get? caseId = some c) :
    (ensureVerifying cfg caller caseId).run s =
      if c.status = .verifying ∨ c.status = .recovered then (.ok (), s)
      else if c.status = .actionCompleted then (startVerifying caller caseId).run s
      else (processLockedCase cfg caller caseId >>= fun _ =>
        startVerifying caller caseId).run s := by
  unfold ensureVerifying
  rw [run_readCase_bind h, Session.run_ite, Session.run_ite]
  rfl

/-- From a walkable status: the processor raises, or its verdict decides. -/
private theorem run_ensureVerifying_walkable (cfg : Config) (caller : Caller)
    (h : s.cases.get? caseId = some c) (hwalk : isWalkable c.status = true) :
    ∃ s' c', s'.cases.get? caseId = some c' ∧ c.LifecycleOnly c' ∧
      match plannedEvaluation cfg s caseId c caller.now with
      | .error f => (ensureVerifying cfg caller caseId).run s = (.error f, s') ∧
          c'.status = .policyCheck
      | .ok evaluation => (ensureVerifying cfg caller caseId).run s = (.ok (), s') ∧
          c'.status = if evaluation.clears then .verifying else plannedStatus evaluation := by
  have hrun := run_ensureVerifying_eq cfg caller h
  rw [if_neg (by revert hwalk; cases c.status <;> decide),
    if_neg (by revert hwalk; cases c.status <;> decide)] at hrun
  obtain ⟨s₁, c₁, hafter₁, hlifecycle₁, hprocess⟩ := run_processLockedCase cfg caller h hwalk
  cases hplan : plannedEvaluation cfg s caseId c caller.now with
  | error f =>
    rw [hplan] at hprocess
    exact ⟨s₁, c₁, hafter₁, hlifecycle₁,
      hrun.trans (Session.run_bind_error hprocess.1 _), hprocess.2⟩
  | ok evaluation =>
    rw [hplan] at hprocess
    obtain ⟨s', c', hstart, hafter, hlifecycle, hend⟩ := run_startVerifying caller hafter₁
    refine ⟨s', c', hafter, hlifecycle₁.trans hlifecycle,
      hrun.trans ((Session.run_bind_ok hprocess.1 _).trans hstart), ?_⟩
    rw [hend, hprocess.2]
    simp only [plannedStatus_eq_actionCompleted]

/-- `_ensure_verifying` raises with the processor, and otherwise ends in `VERIFYING`
exactly when `reachesVerifying` says so. -/
theorem run_ensureVerifying (cfg : Config) (caller : Caller)
    (h : s.cases.get? caseId = some c) (hstatus : c.status ≠ .recovered) :
    ∃ s' c', s'.cases.get? caseId = some c' ∧ c.LifecycleOnly c' ∧ c'.status ≠ .recovered ∧
      match processingRaises cfg s caseId c caller.now with
      | some f => (ensureVerifying cfg caller caseId).run s = (.error f, s')
      | none => (ensureVerifying cfg caller caseId).run s = (.ok (), s') ∧
          (c'.status = .verifying ↔ reachesVerifying cfg s caseId c caller.now = true) := by
  unfold processingRaises reachesVerifying
  by_cases hwalk : isWalkable c.status = true
  · obtain ⟨s', c', hafter, hlifecycle, hensure⟩ := run_ensureVerifying_walkable cfg caller h hwalk
    have hne : c.status ≠ .verifying ∧ c.status ≠ .actionCompleted := by
      revert hwalk
      cases c.status <;> decide
    rw [if_pos hwalk]
    cases hplan : plannedEvaluation cfg s caseId c caller.now with
    | error f =>
      rw [hplan] at hensure
      exact ⟨s', c', hafter, hlifecycle, by rw [hensure.2]; decide, hensure.1⟩
    | ok evaluation =>
      rw [hplan] at hensure
      have hplanned := plannedStatus_ne evaluation
      refine ⟨s', c', hafter, hlifecycle, ?_, hensure.1, ?_⟩
      · rw [hensure.2]
        split
        · decide
        · exact hplanned.2
      · rw [hensure.2]
        by_cases hclears : evaluation.clears = true <;> simp [hwalk, hne, hclears, hplanned]
  · have hidle : isWalkable c.status = false := by simpa using hwalk
    have hrun := run_ensureVerifying_eq cfg caller h
    simp only [hidle, Bool.false_eq_true, if_false, Bool.false_and, Bool.or_false]
    by_cases hverifying : c.status = .verifying
    · rw [if_pos (.inl hverifying)] at hrun
      exact ⟨s, c, h, .refl c, by simp [hverifying, hrun]⟩
    · rw [if_neg (by simp [hverifying, hstatus]),
        Session.run_bind_ok (run_processLockedCase_idle cfg caller h hidle), ite_self] at hrun
      obtain ⟨s', c', hstart, hafter, hlifecycle, hend⟩ := run_startVerifying caller h
      refine ⟨s', c', hafter, hlifecycle, ?_⟩
      by_cases hcompleted : c.status = .actionCompleted <;>
        simp [hverifying, hcompleted, hstatus, hend, hrun, hstart]

/-! ## Writing the outcome -/

/-- The row after the partial-capture branch. -/
def RecoveryCase.creditedPartially (c : RecoveryCase) (result : RecoveryMatchResult)
    (webhookEventId : Option ℕ) : RecoveryCase :=
  if result.isPartial then
    c.credit result.amountRecovered result.paymentId webhookEventId c.lastMismatchReason
  else c

/-- The row `_persist_failure` leaves. -/
def failureRow (now : Time) (result : RecoveryMatchResult) (webhookEventId : Option ℕ)
    (c : RecoveryCase) : RecoveryCase :=
  let credited := (c.noteFailure result webhookEventId).creditedPartially result webhookEventId
  if c.status = .verifying then credited.moveTo .notRecovered now else credited

@[simp] theorem noteFailure_status (c : RecoveryCase) (result : RecoveryMatchResult)
    (webhookEventId : Option ℕ) : (c.noteFailure result webhookEventId).status = c.status := rfl

@[simp] theorem credit_status (c : RecoveryCase) (amount : Money)
    (paymentId webhookEventId : Option ℕ) (reason : Option MismatchReason) :
    (c.credit amount paymentId webhookEventId reason).status = c.status := rfl

@[simp] theorem creditedPartially_status (c : RecoveryCase) (result : RecoveryMatchResult)
    (webhookEventId : Option ℕ) :
    (c.creditedPartially result webhookEventId).status = c.status := by
  unfold RecoveryCase.creditedPartially
  split <;> rfl

theorem failureRow_status (now : Time) (result : RecoveryMatchResult)
    (webhookEventId : Option ℕ) (c : RecoveryCase) :
    (failureRow now result webhookEventId c).status =
      if c.status = .verifying then .notRecovered else c.status := by
  unfold failureRow
  dsimp only
  split
  · rfl
  · exact creditedPartially_status _ _ _

section Keeps

variable {R : Store → Store → Prop} (hR : CaseFrame caseId R)
include hR

theorem keeps_auditCredit (c : RecoveryCase) (credited : Money) :
    Session.Keeps R (auditCredit caller caseId c credited) :=
  .ite (hR.keeps_recordAudit _) (hR.keeps_pure ())

theorem keeps_persistFailure (result : RecoveryMatchResult) (webhookEventId : Option ℕ) :
    Session.Keeps R (persistFailure caller caseId result webhookEventId) :=
  hR.bind (hR.keeps_modifyCase _) fun _ =>
    hR.bind (hR.keeps_readCase _) fun c =>
    hR.bind
      (.ite (hR.bind (hR.keeps_modifyCase _) fun _ => keeps_auditCredit hR c _)
        (hR.keeps_pure ())) fun _ =>
    .ite (hR.keeps_transitionCase caller _)
      (.ite (hR.keeps_recordAudit _) (hR.keeps_pure ()))

theorem keeps_applySuccess (paymentId : ℕ) (result : RecoveryMatchResult)
    (webhookEventId : Option ℕ) :
    Session.Keeps R (applySuccess caller caseId paymentId result webhookEventId) :=
  hR.bind (hR.keeps_readCase _) fun c =>
    .ite (hR.keeps_pure ()) <| .ite (hR.keeps_raise _) <|
      hR.bind (hR.keeps_modifyCase _) fun _ =>
      hR.bind (keeps_auditCredit hR c _) fun _ =>
      hR.keeps_transitionCase caller _

theorem keeps_auditNoCredit (result : RecoveryMatchResult) :
    Session.Keeps R (auditNoCredit caller caseId result) :=
  hR.bind (hR.keeps_modifyCase _) fun _ =>
    hR.bind (hR.keeps_readCase _) fun _ => hR.keeps_recordAudit _

end Keeps

theorem run_auditCredit (caller : Caller) (caseId : ℕ) (c' : RecoveryCase) (credited : Money)
    (s : Store) :
    ∃ s', (auditCredit caller caseId c' credited).run s = (.ok (), s') ∧ s'.cases = s.cases := by
  unfold auditCredit
  rw [Session.run_ite]
  split
  · exact ⟨_, rfl, rfl⟩
  · exact ⟨_, rfl, rfl⟩

/-- Rewriting the case's row, then going on from a store that holds the new row. -/
theorem run_modifyCase (h : s.cases.get? caseId = some c) (f : RecoveryCase → RecoveryCase) :
    ∃ s', (Service.modifyCase caseId f).run s = (.ok (), s') ∧
      s'.cases.get? caseId = some (f c) :=
  ⟨_, rfl, by simp [h]⟩

theorem run_creditPartial (caller : Caller) (result : RecoveryMatchResult)
    (webhookEventId : Option ℕ) (h : s.cases.get? caseId = some c) :
    ∃ s', (creditPartial caller caseId result webhookEventId c).run s = (.ok (), s') ∧
      s'.cases.get? caseId = some (c.creditedPartially result webhookEventId) := by
  unfold creditPartial RecoveryCase.creditedPartially
  rw [Session.run_ite]
  split
  · obtain ⟨s₁, hrun₁, hafter₁⟩ := run_modifyCase h
      (·.credit result.amountRecovered result.paymentId webhookEventId c.lastMismatchReason)
    obtain ⟨s₂, hrun₂, hcases⟩ :=
      run_auditCredit caller caseId c (min result.amountRecovered c.amountAtRisk) s₁
    exact ⟨s₂, (Session.run_bind_ok hrun₁ _).trans hrun₂, by rw [hcases, hafter₁]⟩
  · exact ⟨s, rfl, h⟩

/-- A failed verification leaves the `failureRow`. -/
theorem run_persistFailure (caller : Caller) (result : RecoveryMatchResult)
    (webhookEventId : Option ℕ) (h : s.cases.get? caseId = some c) :
    ∃ s', (persistFailure caller caseId result webhookEventId).run s = (.ok (), s') ∧
      s'.cases.get? caseId = some (failureRow caller.now result webhookEventId c) := by
  obtain ⟨s₁, hrun₁, hafter₁⟩ := run_modifyCase h (·.noteFailure result webhookEventId)
  obtain ⟨s₂, hrun₂, hafter₂⟩ := run_creditPartial caller result webhookEventId hafter₁
  unfold persistFailure failureRow
  rw [Session.run_bind_ok hrun₁, run_readCase_bind hafter₁, Session.run_bind_ok hrun₂,
    Session.run_ite, Session.run_ite, noteFailure_status]
  by_cases hstatus : c.status = .verifying
  · have hlegal : canTransition ((c.noteFailure result webhookEventId).creditedPartially result
        webhookEventId).status .notRecovered = true := by
      rw [creditedPartially_status, noteFailure_status, hstatus]
      decide
    obtain ⟨s₃, hrun₃, hafter₃⟩ := transitionCase_get? caller hlegal hafter₂ rfl
    exact ⟨s₃, by rw [if_pos hstatus, hrun₃], by rw [if_pos hstatus, hafter₃]⟩
  · rw [if_neg hstatus, if_neg hstatus]
    split
    · exact ⟨_, rfl, hafter₂⟩
    · exact ⟨_, rfl, hafter₂⟩

theorem run_auditNoCredit (caller : Caller) (result : RecoveryMatchResult)
    (h : s.cases.get? caseId = some c) :
    ∃ s', (auditNoCredit caller caseId result).run s = (.ok (), s') ∧
      s'.cases.get? caseId = some { c with lastMismatchReason := result.mismatchReason } := by
  obtain ⟨s₁, hrun₁, hafter₁⟩ :=
    run_modifyCase h fun c => { c with lastMismatchReason := result.mismatchReason }
  unfold auditNoCredit
  rw [Session.run_bind_ok hrun₁, run_readCase_bind hafter₁]
  exact ⟨_, rfl, hafter₁⟩

/-- A success on a case that is not being verified is dropped without a trace. -/
theorem run_applySuccess_dropped (caller : Caller) (paymentId : ℕ)
    (result : RecoveryMatchResult) (webhookEventId : Option ℕ)
    (h : s.cases.get? caseId = some c) (hstatus : c.status ≠ .verifying) :
    (applySuccess caller caseId paymentId result webhookEventId).run s = (.ok (), s) := by
  unfold applySuccess
  rw [run_readCase_bind h, Session.run_ite, if_pos hstatus]
  rfl

theorem run_applySuccess (caller : Caller) (paymentId : ℕ) (result : RecoveryMatchResult)
    (webhookEventId : Option ℕ) (h : s.cases.get? caseId = some c)
    (hstatus : c.status = .verifying) (hamount : result.amountRecovered ≤ c.amountAtRisk) :
    ∃ s', (applySuccess caller caseId paymentId result webhookEventId).run s = (.ok (), s') ∧
      s'.cases.get? caseId = some ((c.credit result.amountRecovered (some paymentId)
        webhookEventId none).moveTo .recovered caller.now) := by
  obtain ⟨s₁, hrun₁, hafter₁⟩ := run_modifyCase h
    (·.credit result.amountRecovered (some paymentId) webhookEventId none)
  obtain ⟨s₂, hrun₂, hcases⟩ := run_auditCredit caller caseId c result.amountRecovered s₁
  obtain ⟨s₃, hrun₃, hafter₃⟩ := transitionCase_get? caller
    (show canTransition (c.credit result.amountRecovered (some paymentId) webhookEventId
      none).status .recovered = true by rw [credit_status, hstatus]; decide) hafter₁ hcases
  unfold applySuccess
  rw [run_readCase_bind h, Session.run_ite, if_neg (not_not_intro hstatus)]
  dsimp only
  rw [Session.run_ite, if_neg (Nat.not_lt.mpr hamount), Session.run_bind_ok hrun₁,
    Session.run_bind_ok hrun₂, hrun₃]
  exact ⟨s₃, rfl, hafter₃⟩

/-! ## The outcomes of a verification -/

section Outcome

variable (cfg : Config) (caller : Caller) (s : Store) (args : VerifyArgs)
  (listThatCountedPayment : ℕ → ℕ → List ℕ) (c : RecoveryCase)

/-- The call gets as far as evaluating the payment `p` of identifier `paymentId`. -/
structure Considers (paymentId : ℕ) (p : Payment) : Prop where
  notStopped : c.status ≠ .stopped
  resolved : resolvePayment s c args.paymentId = some (paymentId, p)
  passesGuard : duplicateOrAlreadyCounted args.caseId c paymentId args.webhookEventId
    (listThatCountedPayment c.merchantId paymentId) = none

/-- The result and the row of `verify_case` on a case whose row is `c`. -/
inductive VerifyOutcome : Except Failure RecoveryMatchResult → RecoveryCase → Prop
  | stopped (hstatus : c.status = .stopped) :
      VerifyOutcome (.ok (stoppedResult args.caseId c)) c
  | missing (hstatus : c.status ≠ .stopped)
      (hpayment : resolvePayment s c args.paymentId = none) :
      VerifyOutcome (.ok (missingPaymentResult args.caseId c))
        (failureRow caller.now (missingPaymentResult args.caseId c) args.webhookEventId c)
  | duplicate {paymentId : ℕ} {p : Payment} {result : RecoveryMatchResult}
      (hstatus : c.status ≠ .stopped)
      (hpayment : resolvePayment s c args.paymentId = some (paymentId, p))
      (hguard : duplicateOrAlreadyCounted args.caseId c paymentId args.webhookEventId
        (listThatCountedPayment c.merchantId paymentId) = some result) :
      VerifyOutcome (.ok result) { c with lastMismatchReason := result.mismatchReason }
  | alreadyRecovered {paymentId : ℕ} {p : Payment}
      (hconsiders : Considers s args listThatCountedPayment c paymentId p)
      (hstatus : c.status = .recovered) :
      VerifyOutcome (.ok (alreadyRecoveredResult args.caseId c paymentId)) c
  | raised {paymentId : ℕ} {p : Payment} {f : Failure} {c' : RecoveryCase}
      (hconsiders : Considers s args listThatCountedPayment c paymentId p)
      (hstatus : c.status ≠ .recovered)
      (hraises : processingRaises cfg s args.caseId c caller.now = some f)
      (hlifecycle : c.LifecycleOnly c') (hend : c'.status ≠ .recovered) :
      VerifyOutcome (.error f) c'
  | recovered {paymentId : ℕ} {p : Payment} {c₁ : RecoveryCase}
      (hconsiders : Considers s args listThatCountedPayment c paymentId p)
      (hstatus : c.status ≠ .recovered)
      (hraises : processingRaises cfg s args.caseId c caller.now = none)
      (hmatched : (evaluate cfg.settings s args.caseId c paymentId p).matched = true)
      (hreaches : reachesVerifying cfg s args.caseId c caller.now = true)
      (hlifecycle : c.LifecycleOnly c₁) :
      VerifyOutcome (.ok (evaluate cfg.settings s args.caseId c paymentId p))
        ((c₁.credit (evaluate cfg.settings s args.caseId c paymentId p).amountRecovered
          (some paymentId) args.webhookEventId none).moveTo .recovered caller.now)
  | dropped {paymentId : ℕ} {p : Payment} {c₁ : RecoveryCase}
      (hconsiders : Considers s args listThatCountedPayment c paymentId p)
      (hstatus : c.status ≠ .recovered)
      (hraises : processingRaises cfg s args.caseId c caller.now = none)
      (hmatched : (evaluate cfg.settings s args.caseId c paymentId p).matched = true)
      (hreaches : reachesVerifying cfg s args.caseId c caller.now = false)
      (hlifecycle : c.LifecycleOnly c₁) (hend : c₁.status ≠ .recovered) :
      VerifyOutcome (.ok (evaluate cfg.settings s args.caseId c paymentId p)) c₁
  | failed {paymentId : ℕ} {p : Payment} {c₁ : RecoveryCase}
      (hconsiders : Considers s args listThatCountedPayment c paymentId p)
      (hstatus : c.status ≠ .recovered)
      (hraises : processingRaises cfg s args.caseId c caller.now = none)
      (hmatched : (evaluate cfg.settings s args.caseId c paymentId p).matched = false)
      (hlifecycle : c.LifecycleOnly c₁) (hend : c₁.status ≠ .recovered)
      (hverifying : c₁.status = .verifying ↔
        reachesVerifying cfg s args.caseId c caller.now = true) :
      VerifyOutcome (.ok (evaluate cfg.settings s args.caseId c paymentId p))
        (failureRow caller.now (evaluate cfg.settings s args.caseId c paymentId p)
          args.webhookEventId c₁)

end Outcome

/-- A match asks for at most the amount at risk. -/
theorem evaluate_amount_le (settings : RecoverySettings) (s : Store) (caseId : ℕ)
    (c : RecoveryCase) (paymentId : ℕ) (p : Payment) :
    (evaluate settings s caseId c paymentId p).amountRecovered ≤ c.amountAtRisk := by
  unfold evaluate
  cases evaluateMismatch settings s caseId c paymentId p with
  | some mismatch => exact Nat.zero_le _
  | none =>
    unfold creditResult
    dsimp only
    split
    · exact min_le_right _ _
    · rename_i hpartial
      have : p.amount < c.amountAtRisk := by simpa using hpartial
      exact this.le

variable {args : VerifyArgs} {listThatCountedPayment : ℕ → ℕ → List ℕ}

theorem keeps_verifyLocked {R : Store → Store → Prop} (hR : ProcessorFrame args.caseId R) :
    Session.Keeps R (verifyLocked cfg caller args listThatCountedPayment c) := by
  refine .ite (hR.keeps_pure _) (.get_bind fun s => ?_)
  cases resolvePayment s c args.paymentId with
  | none =>
    exact hR.bind (keeps_persistFailure hR.toCaseFrame _ _) fun _ => hR.keeps_pure _
  | some resolved =>
    obtain ⟨paymentId, p⟩ := resolved
    dsimp only
    cases duplicateOrAlreadyCounted args.caseId c paymentId args.webhookEventId
        (listThatCountedPayment c.merchantId paymentId) with
    | some result =>
      exact hR.bind (keeps_auditNoCredit hR.toCaseFrame _) fun _ => hR.keeps_pure _
    | none =>
      exact .ite (hR.keeps_pure _) <|
        hR.bind (keeps_ensureVerifying hR) fun _ =>
        hR.bind (.ite (keeps_applySuccess hR.toCaseFrame _ _ _)
          (keeps_persistFailure hR.toCaseFrame _ _)) fun _ =>
        hR.keeps_pure _

/-- The end of a verification that evaluated a payment, on the row `c₁` that the drive to
`VERIFYING` left. -/
theorem run_persistOutcome_outcome {paymentId : ℕ} {p : Payment} {c₁ : RecoveryCase}
    {s₁ : Store} (hconsiders : Considers s args listThatCountedPayment c paymentId p)
    (hstatus : c.status ≠ .recovered)
    (hraises : processingRaises cfg s args.caseId c caller.now = none)
    (hlifecycle : c.LifecycleOnly c₁) (hend : c₁.status ≠ .recovered)
    (hverifying : c₁.status = .verifying ↔
      reachesVerifying cfg s args.caseId c caller.now = true)
    (h₁ : s₁.cases.get? args.caseId = some c₁) :
    ∃ s' c', (persistOutcome caller args.caseId paymentId
        (evaluate cfg.settings s args.caseId c paymentId p) args.webhookEventId).run s₁ =
        (.ok (), s') ∧
      s'.cases.get? args.caseId = some c' ∧
      VerifyOutcome cfg caller s args listThatCountedPayment c
        (.ok (evaluate cfg.settings s args.caseId c paymentId p)) c' := by
  unfold persistOutcome
  rw [Session.run_ite]
  by_cases hmatched : (evaluate cfg.settings s args.caseId c paymentId p).matched = true
  · rw [if_pos hmatched]
    by_cases hreaches : reachesVerifying cfg s args.caseId c caller.now = true
    · obtain ⟨s', hrun, hafter⟩ := run_applySuccess caller paymentId
        (evaluate cfg.settings s args.caseId c paymentId p) args.webhookEventId h₁
        (hverifying.mpr hreaches)
        (hlifecycle.amountAtRisk ▸ evaluate_amount_le _ _ _ _ _ _)
      exact ⟨s', _, hrun, hafter,
        .recovered hconsiders hstatus hraises hmatched hreaches hlifecycle⟩
    · have hdropped := run_applySuccess_dropped caller paymentId
        (evaluate cfg.settings s args.caseId c paymentId p) args.webhookEventId h₁
        (mt hverifying.mp hreaches)
      exact ⟨s₁, c₁, hdropped, h₁, .dropped hconsiders hstatus hraises hmatched
        (by simpa using hreaches) hlifecycle hend⟩
  · obtain ⟨s', hrun, hafter⟩ := run_persistFailure caller
      (evaluate cfg.settings s args.caseId c paymentId p) args.webhookEventId h₁
    rw [if_neg hmatched]
    exact ⟨s', _, hrun, hafter, .failed hconsiders hstatus hraises (by simpa using hmatched)
      hlifecycle hend hverifying⟩

/-- Every verification of a case ends in one of the listed outcomes. -/
theorem verifyLocked_outcome (cfg : Config) (caller : Caller) (args : VerifyArgs)
    (listThatCountedPayment : ℕ → ℕ → List ℕ) (h : s.cases.get? args.caseId = some c) :
    ∃ c', ((verifyLocked cfg caller args listThatCountedPayment c).run s).2.cases.get?
        args.caseId = some c' ∧
      VerifyOutcome cfg caller s args listThatCountedPayment c
        ((verifyLocked cfg caller args listThatCountedPayment c).run s).1 c' := by
  unfold verifyLocked
  rw [Session.run_ite]
  by_cases hstopped : c.status = .stopped
  · rw [if_pos hstopped]
    exact ⟨c, h, .stopped hstopped⟩
  rw [if_neg hstopped, Session.run_get_bind]
  cases hpayment : resolvePayment s c args.paymentId with
  | none =>
    obtain ⟨s', hrun, hafter⟩ := run_persistFailure caller
      (missingPaymentResult args.caseId c) args.webhookEventId h
    dsimp only
    rw [Session.run_bind_ok hrun]
    exact ⟨_, hafter, .missing hstopped hpayment⟩
  | some resolved =>
    obtain ⟨paymentId, p⟩ := resolved
    dsimp only
    cases hguard : duplicateOrAlreadyCounted args.caseId c paymentId args.webhookEventId
        (listThatCountedPayment c.merchantId paymentId) with
    | some result =>
      obtain ⟨s', hrun, hafter⟩ := run_auditNoCredit caller result h
      dsimp only
      rw [Session.run_bind_ok hrun]
      exact ⟨_, hafter, .duplicate hstopped hpayment hguard⟩
    | none =>
      have hconsiders : Considers s args listThatCountedPayment c paymentId p :=
        ⟨hstopped, hpayment, hguard⟩
      dsimp only
      rw [Session.run_ite]
      by_cases hrecovered : c.status = .recovered
      · rw [if_pos hrecovered]
        exact ⟨c, h, .alreadyRecovered hconsiders hrecovered⟩
      rw [if_neg hrecovered]
      -- from here on the case is walked to VERIFYING, which a fault of the walk ends
      obtain ⟨s₁, c₁, hafter₁, hlifecycle, hend, hensure⟩ :=
        run_ensureVerifying cfg caller h hrecovered
      cases hraises : processingRaises cfg s args.caseId c caller.now with
      | some f =>
        rw [hraises] at hensure
        rw [Session.run_bind_error hensure]
        exact ⟨c₁, hafter₁, .raised hconsiders hrecovered hraises hlifecycle hend⟩
      | none =>
        rw [hraises] at hensure
        obtain ⟨hrun₁, hverifying⟩ := hensure
        obtain ⟨s', c', hrun, hafter, houtcome⟩ := run_persistOutcome_outcome hconsiders
          hrecovered hraises hlifecycle hend hverifying hafter₁
        rw [Session.run_bind_ok hrun₁, Session.run_bind_ok hrun]
        exact ⟨c', hafter, houtcome⟩

/-! ## The service -/

theorem run_verifyCase (cfg : Config) (caller : Caller) {args : VerifyArgs}
    (h : s.cases.get? args.caseId = some c) :
    (verifyCase cfg caller args).run s =
      (verifyLocked cfg caller args s.listThatCountedPayment c).run s := by
  unfold verifyCase
  rw [Session.run_bind_ok (run_lockRecoveryCase h), Session.run_get_bind]

theorem run_verifyCase_missing (cfg : Config) (caller : Caller) {args : VerifyArgs}
    (h : s.cases.get? args.caseId = none) : ((verifyCase cfg caller args).run s).2 = s := by
  unfold verifyCase lockRecoveryCase
  simp [Session.run_bind, h]

theorem keeps_verifyCase (cfg : Config) (caller : Caller) (args : VerifyArgs)
    {R : Store → Store → Prop} (hR : ProcessorFrame args.caseId R) :
    Session.Keeps R (verifyCase cfg caller args) :=
  hR.bind (hR.keeps_lockRecoveryCase _) fun _ => .get_bind fun _ => keeps_verifyLocked hR

/-- Every call of `verify_case` on an existing case ends in one of the outcomes. -/
theorem verifyCase_outcome (cfg : Config) (caller : Caller) (args : VerifyArgs)
    (h : s.cases.get? args.caseId = some c) :
    ∃ c', ((verifyCase cfg caller args).run s).2.cases.get? args.caseId = some c' ∧
      VerifyOutcome cfg caller s args s.listThatCountedPayment c
        ((verifyCase cfg caller args).run s).1 c' := by
  rw [run_verifyCase cfg caller h]
  exact verifyLocked_outcome cfg caller args _ h

/-! ## The credit of a call -/

/-- The payment a call credits, read off the store before it: one that gets past the guard
and the evaluation of an open case, and that is either partial or meets the case in
`VERIFYING`. -/
def creditedPayment (cfg : Config) (caller : Caller) (s : Store) (args : VerifyArgs)
    (listThatCountedPayment : ℕ → ℕ → List ℕ) (c : RecoveryCase) : Option (ℕ × Payment) :=
  if c.status = .stopped ∨ c.status = .recovered then none
  else
    (resolvePayment s c args.paymentId).filter fun resolved =>
      (duplicateOrAlreadyCounted args.caseId c resolved.1 args.webhookEventId
        (listThatCountedPayment c.merchantId resolved.1)).isNone &&
      (evaluateMismatch cfg.settings s args.caseId c resolved.1 resolved.2).isNone &&
      (processingRaises cfg s args.caseId c caller.now).isNone &&
      (decide (resolved.2.amount < c.amountAtRisk) ||
        reachesVerifying cfg s args.caseId c caller.now)

/-- The columns of a case that no verification writes. -/
structure RecoveryCase.SameClaim (c c' : RecoveryCase) : Prop where
  merchantId : c'.merchantId = c.merchantId
  customerId : c'.customerId = c.customerId
  paymentId : c'.paymentId = c.paymentId
  amountAtRisk : c'.amountAtRisk = c.amountAtRisk
  currency : c'.currency = c.currency
  openedAt : c'.openedAt = c.openedAt

namespace RecoveryCase.SameClaim

theorem refl (c : RecoveryCase) : c.SameClaim c := ⟨rfl, rfl, rfl, rfl, rfl, rfl⟩

theorem trans {c c' c'' : RecoveryCase} (h : c.SameClaim c') (h' : c'.SameClaim c'') :
    c.SameClaim c'' :=
  ⟨h'.merchantId.trans h.merchantId, h'.customerId.trans h.customerId,
    h'.paymentId.trans h.paymentId, h'.amountAtRisk.trans h.amountAtRisk,
    h'.currency.trans h.currency, h'.openedAt.trans h.openedAt⟩

theorem of_lifecycleOnly {c c' : RecoveryCase} (h : c.LifecycleOnly c') : c.SameClaim c' :=
  ⟨h.merchantId, h.customerId, h.paymentId, h.amountAtRisk, h.currency, h.openedAt⟩

end RecoveryCase.SameClaim

theorem failureRow_sameClaim (now : Time) (result : RecoveryMatchResult)
    (webhookEventId : Option ℕ) (c : RecoveryCase) :
    c.SameClaim (failureRow now result webhookEventId c) := by
  unfold failureRow RecoveryCase.creditedPartially
  dsimp only
  split <;> split <;> exact ⟨rfl, rfl, rfl, rfl, rfl, rfl⟩

/-- A failure that is not partial leaves the credit alone. -/
theorem failureRow_not_partial (now : Time) {result : RecoveryMatchResult}
    (webhookEventId : Option ℕ) (c : RecoveryCase) (h : result.isPartial = false) :
    (failureRow now result webhookEventId c).amountRecovered = c.amountRecovered ∧
      (failureRow now result webhookEventId c).verifiedPaymentId = c.verifiedPaymentId := by
  unfold failureRow RecoveryCase.creditedPartially
  simp only [h, Bool.false_eq_true, if_false]
  split <;> exact ⟨rfl, rfl⟩

/-- A partial failure credits the captured amount. -/
theorem failureRow_partial (now : Time) {result : RecoveryMatchResult} {paymentId : ℕ}
    (webhookEventId : Option ℕ) (c : RecoveryCase) (h : result.isPartial = true)
    (hpayment : result.paymentId = some paymentId) :
    (failureRow now result webhookEventId c).amountRecovered =
        min result.amountRecovered c.amountAtRisk ∧
      (failureRow now result webhookEventId c).verifiedPaymentId = some paymentId := by
  unfold failureRow RecoveryCase.creditedPartially
  simp only [h, if_true]
  split <;> exact ⟨rfl, by simp [RecoveryCase.moveTo, RecoveryCase.credit, hpayment]⟩

/-! ### Evaluating a payment -/

variable {settings : RecoverySettings} {paymentId : ℕ} {p : Payment}

theorem evaluate_of_mismatch {reason : MismatchReason} {detail : String}
    (h : evaluateMismatch settings s caseId c paymentId p = some (reason, detail)) :
    evaluate settings s caseId c paymentId p =
      { noCredit caseId c paymentId reason detail with amountRecovered := 0 } := by
  unfold evaluate
  rw [h]

theorem evaluate_of_match (h : evaluateMismatch settings s caseId c paymentId p = none) :
    evaluate settings s caseId c paymentId p = creditResult caseId c paymentId p := by
  unfold evaluate
  rw [h]

theorem evaluate_matched : (evaluate settings s caseId c paymentId p).matched = true ↔
    evaluateMismatch settings s caseId c paymentId p = none ∧ c.amountAtRisk ≤ p.amount := by
  cases h : evaluateMismatch settings s caseId c paymentId p with
  | some mismatch =>
    rw [evaluate_of_mismatch h]
    simp [noCredit]
  | none =>
    rw [evaluate_of_match h]
    simp [creditResult]

/-- Every guard the payment has passed. -/
structure PassesGuards (settings : RecoverySettings) (s : Store) (caseId : ℕ)
    (c : RecoveryCase) (paymentId : ℕ) (p : Payment) : Prop where
  merchantId : p.merchantId = c.merchantId
  customerId : p.customerId = c.customerId
  sameOrder : ∀ o, bothOrders s c p = some o → o.1 = o.2
  tied : c.paymentId = none ∨ c.paymentId = some paymentId ∨ (bothOrders s c p).isSome ∨
    linkedViaAction s caseId paymentId p = true
  currency : p.currency = c.currency
  captured : p.status = .captured
  insideWindow : ∃ capturedAt, p.capturedAt = some capturedAt ∧
    insideWindow settings c capturedAt = true
  positive : 0 < p.amount

theorem PassesGuards.of_evaluate
    (h : evaluateMismatch settings s caseId c paymentId p = none) :
    PassesGuards settings s caseId c paymentId p := by
  -- every guard that fires ends the evaluation with its reason
  unfold evaluateMismatch at h
  split at h
  · cases h
  rename_i hmerchant
  split at h
  · cases h
  rename_i hcustomer
  split at h
  · cases h
  rename_i horder
  split at h
  · cases h
  rename_i htied
  split at h
  · cases h
  rename_i hcurrency
  split at h
  · cases h
  rename_i hcaptured
  split at h
  · cases h
  rename_i capturedAt hcapturedAt
  split at h
  · cases h
  rename_i hwindow
  split at h
  · cases h
  rename_i hamount
  refine ⟨not_not.mp hmerchant, not_not.mp hcustomer, ?_, ?_, not_not.mp hcurrency,
    not_not.mp hcaptured, ⟨capturedAt, hcapturedAt, by simpa using hwindow⟩,
    Nat.pos_of_ne_zero hamount⟩
  · intro o ho
    rw [ho] at horder
    simpa using horder
  · cases hpayment : c.paymentId with
    | none => exact .inl rfl
    | some own =>
      rw [hpayment] at htied
      by_cases hown : own = paymentId
      · exact .inr (.inl (by rw [hown]))
      · right
        right
        by_contra hnot
        exact htied ⟨rfl, by simpa using hown, hnot⟩

end ReviveX
