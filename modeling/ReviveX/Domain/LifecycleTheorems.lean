import ReviveX.Domain.VerificationTheorems

/-!
# What every service may do to a case

Outside verification a case row is written by `transition_case` alone, and audit rows named
"transition" come from it alone. A relation between stores that allows the rest is a
`LifecycleFrame`; the services of the processor keep it, and so do all services of the tool
layer, which do not write the agent runs either (`ServiceFrame`). Verification also writes
the money columns (`VerificationFrame`).
-/

namespace ReviveX

open Lib (Session Table)

variable {cfg : Config} {caller : Caller} {caseId : ℕ} {s s' s'' : Store} {c : RecoveryCase}

/-! ## Frames -/

/-- A relation between stores that allows transitions, records of anything else, and every
write to other tables but the agent runs. -/
structure ServiceFrame (R : Store → Store → Prop) : Prop where
  refl : ∀ s, R s s
  trans : ∀ a b c, R a b → R b c → R a c
  outside : ∀ s s', s'.cases = s.cases → s'.auditEvents = s.auditEvents →
    s'.agentRuns = s.agentRuns → R s s'
  audit : ∀ (s : Store) (e : AuditEvent), e.action ≠ some "transition" →
    R s { s with auditEvents := s.auditEvents.insert e }
  transition : ∀ caller caseId target, Session.Keeps R (transitionCase caller caseId target)

/-- A service frame that allows every write to the agent runs too. -/
structure LifecycleFrame (R : Store → Store → Prop) : Prop extends ServiceFrame R where
  elsewhere : ∀ s s', s'.cases = s.cases → s'.auditEvents = s.auditEvents → R s s'
  outside := fun s s' hcases haudits _ => elsewhere s s' hcases haudits

namespace LifecycleFrame

variable {R : Store → Store → Prop} {α : Type}

theorem keeps_modify (h : LifecycleFrame R) {g : Store → Store}
    (hcases : ∀ s, (g s).cases = s.cases) (haudits : ∀ s, (g s).auditEvents = s.auditEvents) :
    Session.Keeps R (Session.modify g : Service Unit) :=
  .modify fun s => h.elsewhere s _ (hcases s) (haudits s)

theorem keeps_modifyGet (h : LifecycleFrame R) {g : Store → α × Store}
    (hcases : ∀ s, (g s).2.cases = s.cases)
    (haudits : ∀ s, (g s).2.auditEvents = s.auditEvents) :
    Session.Keeps R (Session.modifyGet g : Service α) :=
  .modifyGet fun s => h.elsewhere s _ (hcases s) (haudits s)

end LifecycleFrame

namespace ServiceFrame

variable {R : Store → Store → Prop} {α β : Type} {m : Service α} {f : α → Service β}

theorem bind (h : ServiceFrame R) (hm : Session.Keeps R m)
    (hf : ∀ a, Session.Keeps R (f a)) : Session.Keeps R (m >>= f) :=
  Session.Keeps.bind h.trans hm hf

theorem keeps_pure (h : ServiceFrame R) (a : α) :
    Session.Keeps R (pure a : Service α) := .pure h.refl a

theorem keeps_raise (h : ServiceFrame R) (e : Failure) :
    Session.Keeps R (Session.raise e : Service α) := .raise h.refl e

theorem keeps_ofExcept (h : ServiceFrame R) (x : Except Failure α) :
    Session.Keeps R (Session.ofExcept x : Service α) := .ofExcept h.refl x

theorem keeps_modify (h : ServiceFrame R) {g : Store → Store}
    (hcases : ∀ s, (g s).cases = s.cases) (haudits : ∀ s, (g s).auditEvents = s.auditEvents)
    (hruns : ∀ s, (g s).agentRuns = s.agentRuns) :
    Session.Keeps R (Session.modify g : Service Unit) :=
  .modify fun s => h.outside s _ (hcases s) (haudits s) (hruns s)

theorem keeps_modifyGet (h : ServiceFrame R) {g : Store → α × Store}
    (hcases : ∀ s, (g s).2.cases = s.cases)
    (haudits : ∀ s, (g s).2.auditEvents = s.auditEvents)
    (hruns : ∀ s, (g s).2.agentRuns = s.agentRuns) :
    Session.Keeps R (Session.modifyGet g : Service α) :=
  .modifyGet fun s => h.outside s _ (hcases s) (haudits s) (hruns s)

theorem keeps_recordAudit (h : ServiceFrame R) {e : AuditEvent}
    (haction : e.action ≠ some "transition") : Session.Keeps R (Service.recordAudit e) :=
  .modify fun s => h.audit s e haction

theorem keeps_caseAudit (h : ServiceFrame R) (caller : Caller) (caseId : ℕ)
    (c : RecoveryCase) (eventType : AuditEventType) {action : String}
    (previousState newState : Option AuditState) (haction : action ≠ "transition") :
    Session.Keeps R
      (Service.recordAudit (caseAudit caller caseId c eventType action previousState newState)) :=
  h.keeps_recordAudit fun heq => haction (Option.some.inj heq)

theorem keeps_readCase (h : ServiceFrame R) (i : ℕ) : Session.Keeps R (readCase i) :=
  .get_bind fun s => by cases s.cases.get? i <;> exact .of_state_eq h.refl fun _ => rfl

theorem keeps_lockRecoveryCase (h : ServiceFrame R) (i : ℕ) :
    Session.Keeps R (lockRecoveryCase i) :=
  .get_bind fun s => by cases s.cases.get? i <;> exact .of_state_eq h.refl fun _ => rfl

/-- The name of an action is not the name of a transition. -/
theorem actionText_ne_transition (action : RecoveryActionType) :
    action.text ≠ "transition" := by
  cases action <;> decide

/-! ## The processor -/

theorem keeps_walkSteps (h : ServiceFrame R) (caller : Caller) (caseId : ℕ)
    (steps : List RecoveryCaseStatus) : Session.Keeps R (walkSteps caller caseId steps) := by
  induction steps with
  | nil => exact h.keeps_pure ()
  | cons target rest ih =>
    exact h.bind (h.keeps_readCase _) fun _ =>
      .ite ih (.ite (h.keeps_pure ()) (h.bind (h.transition _ _ _) fun _ => ih))

theorem keeps_walkToPolicyCheck (h : ServiceFrame R) (caller : Caller) (caseId : ℕ) :
    Session.Keeps R (walkToPolicyCheck caller caseId) :=
  h.keeps_walkSteps caller caseId processSteps

theorem keeps_recordPlannedAction (h : ServiceFrame R) (caller : Caller) (caseId : ℕ)
    (c : RecoveryCase) (actionType : RecoveryActionType) (status : RecoveryActionStatus)
    (riskLevel : RiskLevel) (metadata : ActionMetadata) :
    Session.Keeps R
      (recordPlannedAction caller caseId c actionType status riskLevel metadata) := by
  refine .get_bind fun s => ?_
  cases s.actionIdOfKey c.merchantId s!"phase5:{caseId}:{actionType.text}:1" with
  | some existing => exact h.keeps_pure existing
  | none =>
    exact h.bind (h.keeps_modifyGet (fun _ => rfl) (fun _ => rfl) fun _ => rfl) fun actionId =>
      h.bind (h.keeps_modify (fun _ => rfl) (fun _ => rfl) fun _ => rfl) fun _ => h.keeps_pure _

theorem keeps_persistPolicyEvaluation (h : ServiceFrame R) (caller : Caller) (caseId : ℕ)
    (ctx : PolicyContext) {proposed : ProposedAction} (result : PolicyEvaluationResult)
    (hproposed : proposed.actionType ≠ "transition") :
    Session.Keeps R (persistPolicyEvaluation caller caseId ctx proposed result) :=
  h.bind (h.keeps_modify (fun _ => rfl) (fun _ => rfl) fun _ => rfl) fun _ =>
    h.keeps_caseAudit caller caseId ctx.case _ none none hproposed

theorem keeps_evaluateAndPersist (h : ServiceFrame R) (caller : Caller) (caseId : ℕ)
    (ctx : PolicyContext) {proposed : ProposedAction}
    (hproposed : proposed.actionType ≠ "transition") :
    Session.Keeps R (evaluateAndPersist caller caseId ctx proposed) :=
  h.bind (h.keeps_ofExcept _) fun result =>
    h.bind (h.keeps_persistPolicyEvaluation caller caseId ctx result hproposed) fun _ =>
      h.keeps_pure _

theorem keeps_requestPlannedApproval (h : ServiceFrame R) (cfg : Config) (caller : Caller)
    (caseId : ℕ) (actionType : RecoveryActionType) (ctx : PolicyContext)
    (evaluation : PolicyEvaluationResult) :
    Session.Keeps R
      (requestPlannedApproval cfg caller caseId actionType ctx evaluation) :=
  h.bind (h.keeps_readCase _) fun c =>
    h.bind (h.keeps_recordPlannedAction caller caseId c _ _ _ _) fun _ =>
    h.bind (h.keeps_modifyGet (fun _ => rfl) (fun _ => rfl) fun _ => rfl) fun _ =>
    .get_bind fun _ =>
    h.bind (h.keeps_modify (fun _ => rfl) (fun _ => rfl) fun _ => rfl) fun _ =>
    h.bind (h.keeps_modify (fun _ => rfl) (fun _ => rfl) fun _ => rfl) fun _ =>
    h.transition _ _ _

theorem keeps_actOnEvaluation (h : ServiceFrame R) (cfg : Config) (caller : Caller)
    (caseId : ℕ) (actionType : RecoveryActionType) (ctx : PolicyContext)
    (evaluation : PolicyEvaluationResult) :
    Session.Keeps R (actOnEvaluation cfg caller caseId actionType ctx evaluation) := by
  refine h.bind (h.keeps_readCase _) fun c =>
    .ite ?_ (.ite (h.keeps_requestPlannedApproval cfg caller caseId actionType ctx evaluation) ?_)
  · exact h.bind (h.keeps_recordPlannedAction caller caseId c _ _ _ _) fun _ =>
      h.transition _ _ _
  · exact h.bind (h.keeps_recordPlannedAction caller caseId c _ _ _ _) fun _ =>
      h.bind (h.transition _ _ _) fun _ => h.transition _ _ _

theorem keeps_processLockedCase (h : ServiceFrame R) (cfg : Config) (caller : Caller)
    (caseId : ℕ) : Session.Keeps R (processLockedCase cfg caller caseId) := by
  have hdecide : Session.Keeps R (decideAtPolicyCheck cfg caller caseId) :=
    h.bind (h.keeps_readCase _) fun c => .get_bind fun s =>
      h.bind (h.keeps_ofExcept _) fun ctx =>
      h.bind (h.keeps_evaluateAndPersist caller caseId ctx (actionText_ne_transition _))
        fun evaluation => h.keeps_actOnEvaluation cfg caller caseId _ ctx evaluation
  refine h.bind (h.keeps_readCase _) fun c => .ite (h.keeps_pure ()) ?_
  exact h.bind (h.keeps_walkToPolicyCheck caller caseId) fun _ =>
    h.bind (h.keeps_readCase _) fun _ => .ite (h.keeps_pure ()) hdecide

theorem keeps_process (h : ServiceFrame R) (cfg : Config) (caller : Caller) (caseId : ℕ) :
    Session.Keeps R (process cfg caller caseId) :=
  h.bind (h.keeps_lockRecoveryCase _) fun _ => h.keeps_processLockedCase cfg caller caseId

end ServiceFrame

/-! ## Verification -/

/-- Only the columns that verification writes may differ. -/
structure RecoveryCase.CreditOnly (c c' : RecoveryCase) : Prop where
  merchantId : c'.merchantId = c.merchantId
  customerId : c'.customerId = c.customerId
  paymentId : c'.paymentId = c.paymentId
  cartId : c'.cartId = c.cartId
  subscriptionId : c'.subscriptionId = c.subscriptionId
  caseType : c'.caseType = c.caseType
  status : c'.status = c.status
  amountAtRisk : c'.amountAtRisk = c.amountAtRisk
  currency : c'.currency = c.currency
  version : c'.version = c.version
  openedAt : c'.openedAt = c.openedAt
  closedAt : c'.closedAt = c.closedAt

/-- A lifecycle frame that also allows a verification to write its columns. -/
structure VerificationFrame (R : Store → Store → Prop) : Prop extends LifecycleFrame R where
  credit : ∀ (s : Store) (caseId : ℕ) (f : RecoveryCase → RecoveryCase),
    (∀ c : RecoveryCase, c.CreditOnly (f c)) → R s { s with cases := s.cases.modify caseId f }

namespace VerificationFrame

variable {R : Store → Store → Prop}

theorem keeps_modifyCase (h : VerificationFrame R) (caseId : ℕ)
    {f : RecoveryCase → RecoveryCase} (hf : ∀ c : RecoveryCase, c.CreditOnly (f c)) :
    Session.Keeps R (Service.modifyCase caseId f) := .modify fun s => h.credit s caseId f hf

theorem creditOnly_credit (c : RecoveryCase) (amount : Money)
    (paymentId webhookEventId : Option ℕ) (reason : Option MismatchReason) :
    c.CreditOnly (c.credit amount paymentId webhookEventId reason) :=
  ⟨rfl, rfl, rfl, rfl, rfl, rfl, rfl, rfl, rfl, rfl, rfl, rfl⟩

theorem keeps_auditCredit (h : VerificationFrame R) (caller : Caller) (caseId : ℕ)
    (c : RecoveryCase) (credited : Money) :
    Session.Keeps R (auditCredit caller caseId c credited) := by
  have haction : "update_amount_recovered" ≠ "transition" := by decide
  exact .ite (h.keeps_caseAudit caller caseId c _ _ _ haction) (h.keeps_pure ())

theorem keeps_startVerifying (h : VerificationFrame R) (caller : Caller) (caseId : ℕ) :
    Session.Keeps R (startVerifying caller caseId) :=
  h.bind (h.keeps_readCase _) fun _ => .ite (h.transition _ _ _) (h.keeps_pure ())

theorem keeps_ensureVerifying (h : VerificationFrame R) (cfg : Config) (caller : Caller)
    (caseId : ℕ) : Session.Keeps R (ensureVerifying cfg caller caseId) :=
  h.bind (h.keeps_readCase _) fun _ =>
    .ite (h.keeps_pure ()) <| .ite (h.keeps_startVerifying caller caseId) <|
      h.bind (h.keeps_processLockedCase cfg caller caseId) fun _ =>
        h.keeps_startVerifying caller caseId

theorem keeps_persistFailure (h : VerificationFrame R) (caller : Caller) (caseId : ℕ)
    (result : RecoveryMatchResult) (webhookEventId : Option ℕ) :
    Session.Keeps R (persistFailure caller caseId result webhookEventId) := by
  have haction : "verify_failed" ≠ "transition" := by decide
  have hnote : ∀ c : RecoveryCase, c.CreditOnly (c.noteFailure result webhookEventId) :=
    fun _ => ⟨rfl, rfl, rfl, rfl, rfl, rfl, rfl, rfl, rfl, rfl, rfl, rfl⟩
  exact h.bind (h.keeps_modifyCase _ hnote) fun _ =>
    h.bind (h.keeps_readCase _) fun c =>
    h.bind
      (.ite (h.bind (h.keeps_modifyCase _ fun c' => creditOnly_credit c' _ _ _ _)
          fun _ => h.keeps_auditCredit caller caseId c _)
        (h.keeps_pure ())) fun _ =>
    .ite (h.transition _ _ _)
      (.ite (h.keeps_caseAudit caller caseId c _ _ _ haction) (h.keeps_pure ()))

theorem keeps_applySuccess (h : VerificationFrame R) (caller : Caller) (caseId paymentId : ℕ)
    (result : RecoveryMatchResult) (webhookEventId : Option ℕ) :
    Session.Keeps R (applySuccess caller caseId paymentId result webhookEventId) :=
  h.bind (h.keeps_readCase _) fun c =>
    .ite (h.keeps_pure ()) <| .ite (h.keeps_raise _) <|
      h.bind (h.keeps_modifyCase _ fun c' => creditOnly_credit c' _ _ _ _) fun _ =>
      h.bind (h.keeps_auditCredit caller caseId c _) fun _ => h.transition _ _ _

theorem keeps_auditNoCredit (h : VerificationFrame R) (caller : Caller) (caseId : ℕ)
    (result : RecoveryMatchResult) :
    Session.Keeps R (auditNoCredit caller caseId result) := by
  have haction : "verify_idempotent" ≠ "transition" := by decide
  have hreason : ∀ c : RecoveryCase,
      c.CreditOnly { c with lastMismatchReason := result.mismatchReason } :=
    fun _ => ⟨rfl, rfl, rfl, rfl, rfl, rfl, rfl, rfl, rfl, rfl, rfl, rfl⟩
  exact h.bind (h.keeps_modifyCase _ hreason) fun _ =>
    h.bind (h.keeps_readCase _) fun c => h.keeps_caseAudit caller caseId c _ _ _ haction

theorem keeps_verifyCase (h : VerificationFrame R) (cfg : Config) (caller : Caller)
    (args : VerifyArgs) : Session.Keeps R (verifyCase cfg caller args) := by
  refine h.bind (h.keeps_lockRecoveryCase _) fun c => .get_bind fun s => ?_
  refine .ite (h.keeps_pure _) (.get_bind fun s' => ?_)
  cases resolvePayment s' c args.paymentId with
  | none => exact h.bind (h.keeps_persistFailure caller _ _ _) fun _ => h.keeps_pure _
  | some resolved =>
    obtain ⟨paymentId, p⟩ := resolved
    dsimp only
    cases duplicateOrAlreadyCounted args.caseId c paymentId args.webhookEventId
        (s.listThatCountedPayment c.merchantId paymentId) with
    | some result => exact h.bind (h.keeps_auditNoCredit caller _ _) fun _ => h.keeps_pure _
    | none =>
      exact .ite (h.keeps_pure _) <|
        h.bind (h.keeps_ensureVerifying cfg caller _) fun _ =>
        h.bind (.ite (h.keeps_applySuccess caller _ _ _ _)
          (h.keeps_persistFailure caller _ _ _)) fun _ => h.keeps_pure _

end VerificationFrame

/-! ## Frames of rows -/

/-- Every row of a case stays, up to `P`. -/
def CasesKept (P : RecoveryCase → RecoveryCase → Prop) (s s' : Store) : Prop :=
  ∀ j c, s.cases.get? j = some c → ∃ c', s'.cases.get? j = some c' ∧ P c c'

variable {P : RecoveryCase → RecoveryCase → Prop}

theorem CasesKept.of_eq (hrefl : ∀ c, P c c) (h : s'.cases = s.cases) : CasesKept P s s' := by
  intro j c hc
  exact ⟨c, by rw [h, hc], hrefl c⟩

theorem CasesKept.trans (htrans : ∀ a b c, P a b → P b c → P a c) (h : CasesKept P s s')
    (h' : CasesKept P s' s'') : CasesKept P s s'' := by
  intro j c hc
  obtain ⟨c', hc', hkept⟩ := h j c hc
  obtain ⟨c'', hc'', hkept'⟩ := h' j c' hc'
  exact ⟨c'', hc'', htrans _ _ _ hkept hkept'⟩

theorem CasesKept.modify (hrefl : ∀ c, P c c) (s : Store) (caseId : ℕ)
    {f : RecoveryCase → RecoveryCase} (hf : ∀ c, s.cases.get? caseId = some c → P c (f c)) :
    CasesKept P s { s with cases := s.cases.modify caseId f } := by
  intro j c hc
  by_cases hj : caseId = j
  · subst hj
    exact ⟨f c, by rw [Table.get?_modify_self, hc]; rfl, hf c hc⟩
  · exact ⟨c, by rw [Table.get?_modify_ne _ hj, hc], hrefl c⟩

/-- A preorder on rows that every legal transition follows gives a lifecycle frame. -/
theorem LifecycleFrame.of_rows (hrefl : ∀ c, P c c) (htrans : ∀ a b c, P a b → P b c → P a c)
    (hmove : ∀ c target now, canTransition c.status target = true → P c (c.moveTo target now)) :
    LifecycleFrame (CasesKept P) where
  refl s := .of_eq hrefl rfl
  trans _ _ _ := .trans htrans
  elsewhere s s' hcases _ := .of_eq hrefl hcases
  audit s e _ := .of_eq hrefl rfl
  transition caller caseId target s := by
    cases hrow : s.cases.get? caseId with
    | none =>
      have hmissing : (transitionCase caller caseId target).run s =
          (.error (.crash "ObjectDeletedError"), s) := by
        unfold transitionCase readCase
        rw [Session.run_bind, Session.run_get_bind, hrow]
        rfl
      rw [hmissing]
      exact .of_eq hrefl rfl
    | some c =>
      unfold transitionCase
      rw [run_readCase_bind hrow, Session.run_ite]
      split
      · rename_i hlegal
        have hkept := CasesKept.modify (P := P) hrefl s caseId
          (f := fun c => c.moveTo target caller.now) fun c' hc' => by
            obtain rfl := Option.some.inj (hrow.symm.trans hc')
            exact hmove c target caller.now hlegal
        exact hkept
      · exact .of_eq hrefl rfl

/-- It also allows verification when the columns that verification writes do not matter. -/
theorem VerificationFrame.of_rows (hrefl : ∀ c, P c c)
    (htrans : ∀ a b c, P a b → P b c → P a c)
    (hmove : ∀ c target now, canTransition c.status target = true → P c (c.moveTo target now))
    (hcredit : ∀ c c' : RecoveryCase, c.CreditOnly c' → P c c') :
    VerificationFrame (CasesKept P) where
  toLifecycleFrame := .of_rows hrefl htrans hmove
  credit s caseId _ hf := CasesKept.modify hrefl s caseId fun c _ => hcredit c _ (hf c)

end ReviveX
