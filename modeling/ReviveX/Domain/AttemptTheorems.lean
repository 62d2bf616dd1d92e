import ReviveX.Domain.CreditRuns

/-!
# Verification attempts that leave a case open

`LeavesOpen` lists the calls that write nothing about their case but the reason of the
last mismatch (`verifyJob_leavesOpen`): the guard answers, or there is no payment to
verify, or the case is past the point where an evaluation could move it. Every other call
moves the case, whatever it finds, or changes the flag that its policy check reads.

`SameForCase` is what an attempt of this kind preserves, and it is all that the next
verification looks at (`creditedPayment_congr`).
-/

namespace ReviveX

open Lib (Run Session Table)

variable {cfg : Config} {caller : Caller} {args : VerifyArgs} {s s' : Store} {c c' : RecoveryCase}

/-- `verify_recovery_case_job`: the worker rolls back whatever the call raises. -/
def verifyJob (cfg : Config) (caller : Caller) (args : VerifyArgs) :
    Service RecoveryMatchResult :=
  verifyTransaction cfg (fun _ => false) caller args

/-! ## Attempts -/

/-- Recording the reason does not change the flag that the policy check of the case reads;
a case that is past the policy check is not asked about it. -/
def KeepsFlag (c : RecoveryCase) (reason : Option MismatchReason) : Prop :=
  isWalkable c.status = true →
    isIdentityMismatch reason = isIdentityMismatch c.lastMismatchReason

instance (c : RecoveryCase) (reason : Option MismatchReason) : Decidable (KeepsFlag c reason) :=
  inferInstanceAs (Decidable (_ → _))

/-- The statuses in which `_ensure_verifying` does nothing and returns outside
`VERIFYING`. -/
def isParked (status : RecoveryCaseStatus) : Bool :=
  !isWalkable status && status != .verifying && status != .actionCompleted

/-- The calls that leave the way of the case to `VERIFYING`, and its credit, as they are. -/
inductive LeavesOpen (cfg : Config) (caller : Caller) (s : Store) (args : VerifyArgs)
    (c : RecoveryCase) : Prop
  /-- The case is stopped. -/
  | stopped (hstatus : c.status = .stopped)
  /-- There is no payment to verify. -/
  | missing (hstatus : c.status ≠ .stopped) (hverifying : c.status ≠ .verifying)
      (hpayment : resolvePayment s c args.paymentId = none)
      (hflag : KeepsFlag c (some .paymentMismatch))
  /-- The guard answers. -/
  | answered {paymentId : ℕ} {p : Payment} {result : RecoveryMatchResult}
      (hstatus : c.status ≠ .stopped)
      (hpayment : resolvePayment s c args.paymentId = some (paymentId, p))
      (hguard : duplicateOrAlreadyCounted args.caseId c paymentId args.webhookEventId
        (s.listThatCountedPayment c.merchantId paymentId) = some result)
      (hflag : KeepsFlag c result.mismatchReason)
  /-- The case is recovered. -/
  | recovered {paymentId : ℕ} {p : Payment}
      (hconsiders : Considers s args s.listThatCountedPayment c paymentId p)
      (hstatus : c.status = .recovered)
  /-- The processor raises, and the job rolls back. -/
  | rolledBack {paymentId : ℕ} {p : Payment} {f : Failure}
      (hconsiders : Considers s args s.listThatCountedPayment c paymentId p)
      (hstatus : c.status ≠ .recovered)
      (hraises : processingRaises cfg s args.caseId c caller.now = some f)
  /-- A mismatch, in a status that an evaluation does not change. -/
  | parked {paymentId : ℕ} {p : Payment}
      (hconsiders : Considers s args s.listThatCountedPayment c paymentId p)
      (hstatus : c.status ≠ .recovered) (hparked : isParked c.status = true)
      (hmismatch : evaluateMismatch cfg.settings s args.caseId c paymentId p ≠ none)

/-- Only the case's rows and the audit trail were written. -/
def WritesCase (s s' : Store) : Prop :=
  s' = { s with cases := s'.cases, auditEvents := s'.auditEvents }

theorem WritesCase.caseFrame (caseId : ℕ) : CaseFrame caseId WritesCase where
  refl _ := rfl
  trans a b d h h' := by
    unfold WritesCase at *
    rw [h', h]
  modifyCase _ _ := rfl
  recordAudit _ _ := rfl

/-- From `s` to `s'`, only the last mismatch reason of the case was written. -/
structure OnlyNoted (caseId : ℕ) (c : RecoveryCase) (s s' : Store) : Prop where
  store : WritesCase s s'
  others : ∀ j, j ≠ caseId → s'.cases.get? j = s.cases.get? j
  row : ∃ reason, KeepsFlag c reason ∧
    s'.cases.get? caseId = some { c with lastMismatchReason := reason }

theorem OnlyNoted.refl {caseId : ℕ} (h : s.cases.get? caseId = some c) :
    OnlyNoted caseId c s s :=
  ⟨rfl, fun _ _ => rfl, c.lastMismatchReason, fun _ => rfl, h⟩

/-- The job ends where the call does, when the call returns. -/
theorem run_verifyJob_ok {r : RecoveryMatchResult}
    (h : (verifyCase cfg caller args).run s = (.ok r, s')) :
    ((verifyJob cfg caller args).run s).2 = s' := by
  unfold verifyJob verifyTransaction
  rw [Session.run_transact_ok h]

/-- The job ends where it started, when the call raises. -/
theorem run_verifyJob_error {f : Failure}
    (h : (verifyCase cfg caller args).run s = (.error f, s')) :
    ((verifyJob cfg caller args).run s).2 = s := by
  unfold verifyJob verifyTransaction
  rw [Session.run_transact_error h]
  rfl

/-- A row that the failure path only annotates. -/
theorem failureRow_noted {result : RecoveryMatchResult} {webhookEventId : Option ℕ}
    {reason : MismatchReason} (now : Time) (c : RecoveryCase) (hstatus : c.status ≠ .verifying)
    (hreason : result.mismatchReason = some reason) (hduplicate : reason ≠ .duplicateEvent) :
    failureRow now result webhookEventId c = { c with lastMismatchReason := some reason } := by
  have hpartial : result.isPartial = false := by
    unfold RecoveryMatchResult.isPartial
    rw [hreason]
    rfl
  unfold failureRow RecoveryCase.creditedPartially RecoveryCase.noteFailure
  simp [hstatus, hpartial, hreason, hduplicate]

/-- A failed verification outside `VERIFYING` only notes its reason. -/
theorem run_persistFailure_noted {caseId : ℕ} {result : RecoveryMatchResult}
    {reason : MismatchReason} (caller : Caller) (webhookEventId : Option ℕ)
    (h : s.cases.get? caseId = some c) (hstatus : c.status ≠ .verifying)
    (hreason : result.mismatchReason = some reason) (hduplicate : reason ≠ .duplicateEvent)
    (hflag : KeepsFlag c (some reason)) :
    ∃ s', (persistFailure caller caseId result webhookEventId).run s = (.ok (), s') ∧
      OnlyNoted caseId c s s' := by
  obtain ⟨s', hrun, hafter⟩ := run_persistFailure caller result webhookEventId h
  have hwrites : WritesCase s ((persistFailure caller caseId result webhookEventId).run s).2 :=
    keeps_persistFailure (WritesCase.caseFrame caseId) result webhookEventId s
  have hframe : ProcessFrame caseId s
      ((persistFailure caller caseId result webhookEventId).run s).2 :=
    keeps_persistFailure (ProcessFrame.processorFrame caseId).toCaseFrame result webhookEventId s
  rw [hrun] at hwrites hframe
  rw [failureRow_noted caller.now c hstatus hreason hduplicate] at hafter
  exact ⟨s', hrun, hwrites, hframe.others, some reason, hflag, hafter⟩

theorem run_auditNoCredit_noted {caseId : ℕ} {result : RecoveryMatchResult} (caller : Caller)
    (h : s.cases.get? caseId = some c) (hflag : KeepsFlag c result.mismatchReason) :
    ∃ s', (auditNoCredit caller caseId result).run s = (.ok (), s') ∧
      OnlyNoted caseId c s s' := by
  obtain ⟨s', hrun, hafter⟩ := run_auditNoCredit caller result h
  have hwrites : WritesCase s ((auditNoCredit caller caseId result).run s).2 :=
    keeps_auditNoCredit (WritesCase.caseFrame caseId) result s
  have hframe : ProcessFrame caseId s ((auditNoCredit caller caseId result).run s).2 :=
    keeps_auditNoCredit (ProcessFrame.processorFrame caseId).toCaseFrame result s
  rw [hrun] at hwrites hframe
  exact ⟨s', hrun, hwrites, hframe.others, result.mismatchReason, hflag, hafter⟩

/-- Driving a parked case to `VERIFYING` does nothing. -/
theorem run_ensureVerifying_parked {caseId : ℕ} (cfg : Config) (caller : Caller)
    (h : s.cases.get? caseId = some c) (hstatus : c.status ≠ .recovered)
    (hparked : isParked c.status = true) :
    (ensureVerifying cfg caller caseId).run s = (.ok (), s) := by
  simp only [isParked, Bool.and_eq_true, Bool.not_eq_true', bne_iff_ne] at hparked
  obtain ⟨⟨hwalk, hverifying⟩, hcompleted⟩ := hparked
  rw [run_ensureVerifying_eq cfg caller h, if_neg (by simp [hverifying, hstatus]),
    if_neg hcompleted, Session.run_bind_ok (run_processLockedCase_idle cfg caller h hwalk)]
  unfold startVerifying
  rw [run_readCase_bind h, Session.run_ite, if_neg hcompleted]
  rfl

/-- A reason that `_evaluate` gives. -/
theorem evaluateMismatch_ne_duplicateEvent {settings : RecoverySettings} {caseId paymentId : ℕ}
    {p : Payment} {reason : MismatchReason} {detail : String}
    (h : evaluateMismatch settings s caseId c paymentId p = some (reason, detail)) :
    reason ≠ .duplicateEvent := by
  unfold evaluateMismatch at h
  repeat' split at h
  all_goals
    cases h
    try decide

/-- A call that leaves its case open only notes a reason. -/
theorem verifyJob_leavesOpen (h : s.cases.get? args.caseId = some c)
    (hopen : LeavesOpen cfg caller s args c) :
    OnlyNoted args.caseId c s ((verifyJob cfg caller args).run s).2 := by
  have hrun := run_verifyCase cfg caller h
  unfold verifyLocked at hrun
  rw [Session.run_ite] at hrun
  cases hopen with
  | stopped hstatus =>
    rw [if_pos hstatus] at hrun
    rw [run_verifyJob_ok hrun]
    exact .refl h
  | missing hstatus hverifying hpayment hflag =>
    obtain ⟨s', hfailure, hnoted⟩ := run_persistFailure_noted caller args.webhookEventId h
      hverifying (show (missingPaymentResult args.caseId c).mismatchReason = _ from rfl)
      (by decide) hflag
    rw [if_neg hstatus, Session.run_get_bind, hpayment] at hrun
    dsimp only at hrun
    rw [Session.run_bind_ok hfailure] at hrun
    rw [run_verifyJob_ok hrun]
    exact hnoted
  | answered hstatus hpayment hguard hflag =>
    obtain ⟨s', haudit, hnoted⟩ := run_auditNoCredit_noted caller h hflag
    rw [if_neg hstatus, Session.run_get_bind, hpayment] at hrun
    dsimp only at hrun
    rw [hguard] at hrun
    dsimp only at hrun
    rw [Session.run_bind_ok haudit] at hrun
    rw [run_verifyJob_ok hrun]
    exact hnoted
  | recovered hconsiders hstatus =>
    rw [if_neg hconsiders.notStopped, Session.run_get_bind, hconsiders.resolved] at hrun
    dsimp only at hrun
    rw [hconsiders.passesGuard] at hrun
    dsimp only at hrun
    rw [Session.run_ite, if_pos hstatus] at hrun
    rw [run_verifyJob_ok hrun]
    exact .refl h
  | rolledBack hconsiders hstatus hraises =>
    -- the walk to VERIFYING raises and the transaction takes everything back
    obtain ⟨s', c', -, -, -, hensure⟩ := run_ensureVerifying cfg caller h hstatus
    rw [hraises] at hensure
    rw [if_neg hconsiders.notStopped, Session.run_get_bind, hconsiders.resolved] at hrun
    dsimp only at hrun
    rw [hconsiders.passesGuard] at hrun
    dsimp only at hrun
    rw [Session.run_ite, if_neg hstatus, Session.run_bind_error hensure] at hrun
    rw [run_verifyJob_error hrun]
    exact .refl h
  | @parked paymentId p hconsiders hstatus hparked hmismatch =>
    obtain ⟨⟨reason, detail⟩, hreason⟩ := Option.ne_none_iff_exists'.mp hmismatch
    have hfailed : (evaluate cfg.settings s args.caseId c paymentId p).mismatchReason =
        some reason := by
      rw [evaluate_of_mismatch hreason]
      rfl
    have hunmatched : ¬ (evaluate cfg.settings s args.caseId c paymentId p).matched = true :=
      fun h => hmismatch (evaluate_matched.mp h).1
    -- a parked status is neither walked on nor VERIFYING, so the failure notes its reason and moves
    -- nothing
    have hwalk : isWalkable c.status = false ∧ c.status ≠ .verifying := by
      revert hparked
      cases c.status <;> decide
    obtain ⟨s', hfailure, hnoted⟩ := run_persistFailure_noted caller args.webhookEventId h
      hwalk.2 hfailed (evaluateMismatch_ne_duplicateEvent hreason)
      (fun hw => absurd (hw.symm.trans hwalk.1) (by decide))
    have hpersist : (persistOutcome caller args.caseId paymentId
        (evaluate cfg.settings s args.caseId c paymentId p) args.webhookEventId).run s =
          (.ok (), s') := by
      unfold persistOutcome
      rw [Session.run_ite, if_neg hunmatched, hfailure]
    rw [if_neg hconsiders.notStopped, Session.run_get_bind, hconsiders.resolved] at hrun
    dsimp only at hrun
    rw [hconsiders.passesGuard] at hrun
    dsimp only at hrun
    rw [Session.run_ite, if_neg hstatus,
      Session.run_bind_ok (run_ensureVerifying_parked cfg caller h hstatus hparked),
      Session.run_bind_ok hpersist] at hrun
    rw [run_verifyJob_ok hrun]
    exact hnoted

/-! ## What the next verification looks at -/

/-- The payment meets every condition for a credit, other cases apart. -/
structure Creditable (cfg : Config) (caller : Caller) (s : Store) (args : VerifyArgs)
    (c : RecoveryCase) (paymentId : ℕ) (p : Payment) : Prop where
  notStopped : c.status ≠ .stopped
  notRecovered : c.status ≠ .recovered
  resolved : resolvePayment s c args.paymentId = some (paymentId, p)
  newEvent : ¬ (args.webhookEventId.isSome ∧ c.verifiedWebhookEventId = args.webhookEventId)
  newPayment : c.verifiedPaymentId ≠ some paymentId
  matching : evaluateMismatch cfg.settings s args.caseId c paymentId p = none
  processed : processingRaises cfg s args.caseId c caller.now = none
  accepted : p.amount < c.amountAtRisk ∨
    reachesVerifying cfg s args.caseId c caller.now = true

/-- A creditable payment is credited when no other case counts it. -/
theorem creditedPayment_eq_some_iff {paymentId : ℕ} {p : Payment} :
    creditedPayment cfg caller s args s.listThatCountedPayment c = some (paymentId, p) ↔
      Creditable cfg caller s args c paymentId p ∧
        ∀ i ∈ s.listThatCountedPayment c.merchantId paymentId, i = args.caseId := by
  rw [creditedPayment_eq_some]
  constructor
  · rintro ⟨hstatus, ⟨hstopped, hresolved, hguard⟩, hmatch, hraises, hcredit⟩
    obtain ⟨hevent, hpayment, hcounted⟩ := passesGuard_iff.mp hguard
    exact ⟨⟨hstopped, hstatus, hresolved, hevent, hpayment, hmatch, hraises, hcredit⟩, hcounted⟩
  · rintro ⟨h, hcounted⟩
    exact ⟨h.notRecovered, ⟨h.notStopped, h.resolved,
      passesGuard_iff.mpr ⟨h.newEvent, h.newPayment, hcounted⟩⟩, h.matching, h.processed,
      h.accepted⟩

/-- The store `t` shows the next verification of the case `caseId` what `s` shows it, other
cases and the flag of a case past the policy check apart; `c` is the row of `s`. -/
structure SameForCase (caseId : ℕ) (c : RecoveryCase) (s t : Store) : Prop where
  merchants : t.merchants = s.merchants
  customers : t.customers = s.customers
  payments : t.payments = s.payments
  notifications : t.notifications = s.notifications
  retryCount : t.retryCount caseId = s.retryCount caseId
  discountSpentToday : ∀ m now, t.discountSpentToday m now = s.discountSpentToday m now
  linkedViaAction : ∀ paymentId p,
    linkedViaAction t caseId paymentId p = linkedViaAction s caseId paymentId p
  row : ∃ reason, KeepsFlag c reason ∧
    t.cases.get? caseId = some { c with lastMismatchReason := reason }

namespace SameForCase

variable {caseId : ℕ} {t t' : Store}

theorem refl (h : s.cases.get? caseId = some c) : SameForCase caseId c s s :=
  ⟨rfl, rfl, rfl, rfl, rfl, fun _ _ => rfl, fun _ _ => rfl,
    c.lastMismatchReason, fun _ => rfl, h⟩

/-- An attempt that leaves the case open goes unnoticed. -/
theorem note (h : SameForCase caseId c s t) (hrow : t.cases.get? caseId = some c')
    (hnoted : OnlyNoted caseId c' t t') : SameForCase caseId c s t' := by
  obtain ⟨reason, hflag, hget⟩ := h.row
  obtain ⟨reason', hflag', hget'⟩ := hnoted.row
  obtain rfl := Option.some.inj (hget.symm.trans hrow)
  have hstore : t' = { t with cases := t'.cases, auditEvents := t'.auditEvents } := hnoted.store
  have hrow' : ∃ reason, KeepsFlag c reason ∧
      t'.cases.get? caseId = some { c with lastMismatchReason := reason } :=
    ⟨reason', fun hwalk => (hflag' hwalk).trans (hflag hwalk), hget'⟩
  rw [hstore] at hrow' ⊢
  exact { h with row := hrow' }

/-- So does anything that happens to another case. -/
theorem frame {j : ℕ} (h : SameForCase caseId c s t) (hne : caseId ≠ j)
    (hframe : ProcessFrame j t t') : SameForCase caseId c s t' where
  merchants := hframe.merchants.trans h.merchants
  customers := hframe.customers.trans h.customers
  payments := hframe.payments.trans h.payments
  notifications := hframe.notifications.trans h.notifications
  retryCount := (hframe.retryCount caseId hne).trans h.retryCount
  discountSpentToday m now := (hframe.discountSpentToday m now).trans (h.discountSpentToday m now)
  linkedViaAction i p := (hframe.linkedViaAction caseId i p).trans (h.linkedViaAction i p)
  row := by
    obtain ⟨reason, hflag, hget⟩ := h.row
    exact ⟨reason, hflag, (hframe.others caseId hne).trans hget⟩

variable {reason : Option MismatchReason}

/-- The policy check of a walkable case comes to the same verdict. -/
theorem plannedEvaluation (h : SameForCase caseId c s t) (hflag : KeepsFlag c reason)
    (hwalk : isWalkable c.status = true) (now : Time) :
    ReviveX.plannedEvaluation cfg t caseId { c with lastMismatchReason := reason } now =
      ReviveX.plannedEvaluation cfg s caseId c now :=
  plannedEvaluation_agrees
    { merchants := h.merchants
      customers := h.customers
      payments := h.payments
      notifications := h.notifications
      retryCount := h.retryCount
      discountSpentToday := h.discountSpentToday
      merchantId := rfl
      customerId := rfl
      paymentId := rfl
      amountAtRisk := rfl
      identityMismatch := hflag hwalk }

theorem processingRaises (h : SameForCase caseId c s t) (hflag : KeepsFlag c reason)
    (now : Time) :
    ReviveX.processingRaises cfg t caseId { c with lastMismatchReason := reason } now =
      ReviveX.processingRaises cfg s caseId c now := by
  unfold ReviveX.processingRaises
  by_cases hwalk : isWalkable c.status = true
  · rw [if_pos hwalk, if_pos hwalk, h.plannedEvaluation hflag hwalk]
  · rw [if_neg hwalk, if_neg hwalk]

theorem reachesVerifying (h : SameForCase caseId c s t) (hflag : KeepsFlag c reason)
    (now : Time) :
    ReviveX.reachesVerifying cfg t caseId { c with lastMismatchReason := reason } now =
      ReviveX.reachesVerifying cfg s caseId c now := by
  unfold ReviveX.reachesVerifying
  by_cases hwalk : isWalkable c.status = true
  · rw [h.plannedEvaluation hflag hwalk]
  · simp only [hwalk, Bool.false_and]

theorem resolvePayment (h : SameForCase caseId c s t) (asked : Option ℕ) :
    ReviveX.resolvePayment t { c with lastMismatchReason := reason } asked =
      ReviveX.resolvePayment s c asked := by
  unfold ReviveX.resolvePayment
  rw [h.payments]

theorem evaluateMismatch (h : SameForCase caseId c s t) (settings : RecoverySettings)
    (paymentId : ℕ) (p : Payment) :
    ReviveX.evaluateMismatch settings t caseId { c with lastMismatchReason := reason } paymentId
        p =
      ReviveX.evaluateMismatch settings s caseId c paymentId p := by
  unfold ReviveX.evaluateMismatch bothOrders Store.casePayment Store.getPayment insideWindow
  rw [h.payments, h.linkedViaAction]

/-- The same payments are creditable. -/
theorem creditable (h : SameForCase args.caseId c s t) (hflag : KeepsFlag c reason)
    {paymentId : ℕ} {p : Payment} :
    Creditable cfg caller t args { c with lastMismatchReason := reason } paymentId p ↔
      Creditable cfg caller s args c paymentId p := by
  constructor
  · rintro ⟨h₁, h₂, h₃, h₄, h₅, h₆, h₇, h₈⟩
    rw [h.resolvePayment] at h₃
    rw [h.evaluateMismatch] at h₆
    rw [h.processingRaises hflag] at h₇
    rw [h.reachesVerifying hflag] at h₈
    exact ⟨h₁, h₂, h₃, h₄, h₅, h₆, h₇, h₈⟩
  · rintro ⟨h₁, h₂, h₃, h₄, h₅, h₆, h₇, h₈⟩
    rw [← h.resolvePayment] at h₃
    rw [← h.evaluateMismatch] at h₆
    rw [← h.processingRaises hflag] at h₇
    rw [← h.reachesVerifying hflag] at h₈
    exact ⟨h₁, h₂, h₃, h₄, h₅, h₆, h₇, h₈⟩

/-- The same payment is credited, when other cases count it in both stores or in neither. -/
theorem creditedPayment (h : SameForCase args.caseId c s t) (hflag : KeepsFlag c reason)
    (hcounted : ∀ paymentId p, Creditable cfg caller s args c paymentId p →
      ((∀ i ∈ t.listThatCountedPayment c.merchantId paymentId, i = args.caseId) ↔
        ∀ i ∈ s.listThatCountedPayment c.merchantId paymentId, i = args.caseId)) :
    ReviveX.creditedPayment cfg caller t args t.listThatCountedPayment
        { c with lastMismatchReason := reason } =
      ReviveX.creditedPayment cfg caller s args s.listThatCountedPayment c := by
  refine Option.ext fun resolved => ?_
  obtain ⟨paymentId, p⟩ := resolved
  rw [creditedPayment_eq_some_iff, creditedPayment_eq_some_iff, h.creditable hflag]
  exact and_congr_right fun hcreditable => hcounted paymentId p hcreditable

end SameForCase

end ReviveX
