import ReviveX.Domain.StateMachine

/-!
# What a transition changes

A transition writes the lifecycle columns of one case and an audit row, nothing else.
`LifecycleOnly` says that of a row, `CaseMoved` of the store; both compose, so a sequence
of transitions is described by the first and the last row.
-/

namespace ReviveX

open Lib (Session)

/-- `c'` differs from `c` at most in `status`, `version` and `closed_at`. -/
def RecoveryCase.LifecycleOnly (c c' : RecoveryCase) : Prop :=
  c' = { c with status := c'.status, version := c'.version, closedAt := c'.closedAt }

namespace RecoveryCase.LifecycleOnly

variable {c c' c'' : RecoveryCase}

theorem refl (c : RecoveryCase) : c.LifecycleOnly c := rfl

theorem trans (h : c.LifecycleOnly c') (h' : c'.LifecycleOnly c'') : c.LifecycleOnly c'' := by
  unfold LifecycleOnly at *
  rw [h'] at *
  rw [h]

theorem moveTo (c : RecoveryCase) (target : RecoveryCaseStatus) (now : Time) :
    c.LifecycleOnly (c.moveTo target now) := rfl

theorem merchantId (h : c.LifecycleOnly c') : c'.merchantId = c.merchantId := by rw [h]

theorem customerId (h : c.LifecycleOnly c') : c'.customerId = c.customerId := by rw [h]

theorem paymentId (h : c.LifecycleOnly c') : c'.paymentId = c.paymentId := by rw [h]

theorem cartId (h : c.LifecycleOnly c') : c'.cartId = c.cartId := by rw [h]

theorem amountAtRisk (h : c.LifecycleOnly c') : c'.amountAtRisk = c.amountAtRisk := by rw [h]

theorem amountRecovered (h : c.LifecycleOnly c') : c'.amountRecovered = c.amountRecovered := by
  rw [h]

theorem currency (h : c.LifecycleOnly c') : c'.currency = c.currency := by rw [h]

theorem openedAt (h : c.LifecycleOnly c') : c'.openedAt = c.openedAt := by rw [h]

theorem lastMismatchReason (h : c.LifecycleOnly c') :
    c'.lastMismatchReason = c.lastMismatchReason := by
  rw [h]

theorem verifiedPaymentId (h : c.LifecycleOnly c') :
    c'.verifiedPaymentId = c.verifiedPaymentId := by
  rw [h]

end RecoveryCase.LifecycleOnly

@[simp] theorem moveTo_status (c : RecoveryCase) (target : RecoveryCaseStatus) (now : Time) :
    (c.moveTo target now).status = target := rfl

/-- From `s` to `s'`, the case `caseId` moved from the row `c` to the row `c'`, and audit
rows were written. -/
structure CaseMoved (caseId : ℕ) (c c' : RecoveryCase) (s s' : Store) : Prop where
  store : s' = { s with cases := s'.cases, auditEvents := s'.auditEvents }
  before : s.cases.get? caseId = some c
  after : s'.cases.get? caseId = some c'
  others : ∀ j, j ≠ caseId → s'.cases.get? j = s.cases.get? j
  lifecycle : c.LifecycleOnly c'

namespace CaseMoved

variable {caseId : ℕ} {c c' c'' : RecoveryCase} {s s' s'' : Store}

theorem refl (h : s.cases.get? caseId = some c) : CaseMoved caseId c c s s :=
  ⟨rfl, h, h, fun _ _ => rfl, .refl c⟩

theorem trans (h : CaseMoved caseId c c' s s') (h' : CaseMoved caseId c' c'' s' s'') :
    CaseMoved caseId c c'' s s'' where
  store := by
    rw [h'.store, h.store]
  before := h.before
  after := h'.after
  others j hj := (h'.others j hj).trans (h.others j hj)
  lifecycle := h.lifecycle.trans h'.lifecycle

end CaseMoved

/-! ## Frames of a case -/

/-- A relation between stores that allows rewriting one case and recording audit rows. -/
structure CaseFrame (caseId : ℕ) (R : Store → Store → Prop) : Prop where
  refl : ∀ s, R s s
  trans : ∀ a b c, R a b → R b c → R a c
  modifyCase : ∀ (s : Store) (f : RecoveryCase → RecoveryCase),
    R s { s with cases := s.cases.modify caseId f }
  recordAudit : ∀ (s : Store) (e : AuditEvent),
    R s { s with auditEvents := s.auditEvents.insert e }

namespace CaseFrame

variable {caseId : ℕ} {R : Store → Store → Prop} {α β : Type} {m : Service α}
  {f : α → Service β}

theorem bind (h : CaseFrame caseId R) (hm : Session.Keeps R m)
    (hf : ∀ a, Session.Keeps R (f a)) : Session.Keeps R (m >>= f) :=
  Session.Keeps.bind h.trans hm hf

theorem keeps_pure (h : CaseFrame caseId R) (a : α) :
    Session.Keeps R (pure a : Service α) := .pure h.refl a

theorem keeps_raise (h : CaseFrame caseId R) (e : Failure) :
    Session.Keeps R (Session.raise e : Service α) := .raise h.refl e

theorem keeps_modifyCase (h : CaseFrame caseId R) (g : RecoveryCase → RecoveryCase) :
    Session.Keeps R (Service.modifyCase caseId g) := .modify fun s => h.modifyCase s g

theorem keeps_recordAudit (h : CaseFrame caseId R) (e : AuditEvent) :
    Session.Keeps R (Service.recordAudit e) := .modify fun s => h.recordAudit s e

theorem keeps_readCase (h : CaseFrame caseId R) (i : ℕ) : Session.Keeps R (readCase i) :=
  .get_bind fun s => by cases s.cases.get? i <;> exact .of_state_eq h.refl fun _ => rfl

theorem keeps_lockRecoveryCase (h : CaseFrame caseId R) (i : ℕ) :
    Session.Keeps R (lockRecoveryCase i) :=
  .get_bind fun s => by cases s.cases.get? i <;> exact .of_state_eq h.refl fun _ => rfl

theorem keeps_transitionCase (h : CaseFrame caseId R) (caller : Caller)
    (target : RecoveryCaseStatus) : Session.Keeps R (transitionCase caller caseId target) :=
  h.bind (h.keeps_readCase _) fun _ =>
    .ite (h.bind (h.keeps_modifyCase _) fun _ => h.keeps_recordAudit _)
      (h.bind (h.keeps_recordAudit _) fun _ => h.keeps_raise _)

end CaseFrame

/-! ## Running -/

variable {caller : Caller} {caseId : ℕ} {s : Store} {c : RecoveryCase}

theorem run_readCase (h : s.cases.get? caseId = some c) :
    (readCase caseId).run s = (.ok c, s) := by
  unfold readCase
  simp [h]

theorem run_readCase_bind {β : Type} (h : s.cases.get? caseId = some c)
    (f : RecoveryCase → Service β) : (readCase caseId >>= f).run s = (f c).run s :=
  Session.run_bind_ok (run_readCase h) f

theorem run_lockRecoveryCase (h : s.cases.get? caseId = some c) :
    (lockRecoveryCase caseId).run s = (.ok c, s) := by
  unfold lockRecoveryCase
  simp [h]

/-- A legal transition returns and moves the case to its target. -/
theorem transitionCase_run (caller : Caller) {target : RecoveryCaseStatus}
    (h : s.cases.get? caseId = some c) (hlegal : canTransition c.status target = true) :
    ∃ s', (transitionCase caller caseId target).run s = (.ok (), s') ∧
      CaseMoved caseId c (c.moveTo target caller.now) s s' := by
  unfold transitionCase
  rw [run_readCase_bind h, Session.run_ite, if_pos hlegal]
  refine ⟨_, rfl, rfl, h, ?_, ?_, .moveTo c target caller.now⟩
  · simp [h]
  · intro j hj
    exact Lib.Table.get?_modify_ne _ (Ne.symm hj) _

end ReviveX
