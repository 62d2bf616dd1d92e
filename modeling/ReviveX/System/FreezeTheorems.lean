import ReviveX.System.ServiceCalls
import ReviveX.Tools.KeyTheorems

/-!
# What no call may change on a case

A case that is `RECOVERED` or `STOPPED` is frozen (`terminal_frozen`), and outside
verification the columns of money and identity of a case never change (`moneyColumns_kept`).
Both follow from one fact about the state machine, or from none: a transition writes
`status`, `version` and `closed_at` only, and no transition leaves a terminal status.
-/

namespace ReviveX

open Lib (Run Session Table)

variable {rt : Runtime} {s s' : Store} {call : ServiceCall} {caseId : ℕ}
  {c c' c'' : RecoveryCase}

/-! ## Terminal cases -/

/-- The columns that a closed case never gives up. -/
structure RecoveryCase.Frozen (c c' : RecoveryCase) : Prop where
  status : c'.status = c.status
  version : c'.version = c.version
  closedAt : c'.closedAt = c.closedAt
  amountRecovered : c'.amountRecovered = c.amountRecovered
  verifiedPaymentId : c'.verifiedPaymentId = c.verifiedPaymentId
  verifiedWebhookEventId : c'.verifiedWebhookEventId = c.verifiedWebhookEventId

namespace RecoveryCase.Frozen

theorem refl (c : RecoveryCase) : c.Frozen c := ⟨rfl, rfl, rfl, rfl, rfl, rfl⟩

theorem trans (h : c.Frozen c') (h' : c'.Frozen c'') : c.Frozen c'' :=
  ⟨h'.status.trans h.status, h'.version.trans h.version, h'.closedAt.trans h.closedAt,
    h'.amountRecovered.trans h.amountRecovered, h'.verifiedPaymentId.trans h.verifiedPaymentId,
    h'.verifiedWebhookEventId.trans h.verifiedWebhookEventId⟩

/-- Noting a failure that is not a repeated event leaves the frozen columns alone. -/
theorem noteFailure (c : RecoveryCase) (result : RecoveryMatchResult)
    (webhookEventId : Option ℕ) (h : result.mismatchReason ≠ some .duplicateEvent) :
    c.Frozen (c.noteFailure result webhookEventId) :=
  ⟨rfl, rfl, rfl, rfl, rfl, if_neg fun hboth => h hboth.2⟩

end RecoveryCase.Frozen

/-- A terminal case stays as it is. -/
def RecoveryCase.FrozenWhenTerminal (c c' : RecoveryCase) : Prop :=
  isTerminal c.status = true → c.Frozen c'

theorem isTerminal_iff {status : RecoveryCaseStatus} :
    isTerminal status = true ↔ status = .recovered ∨ status = .stopped := by
  cases status <;> decide

/-- No transition leaves a terminal status. -/
theorem not_terminal_of_canTransition {source target : RecoveryCaseStatus}
    (h : canTransition source target = true) : isTerminal source = false := by
  revert h
  cases source <;> cases target <;> decide

theorem frozenWhenTerminal_frame : WebhookFrame (CasesKept RecoveryCase.FrozenWhenTerminal) := by
  refine .of_rows (fun c _ => .refl c) (fun a b c hab hbc hterminal => ?_)
    fun c target now hlegal hterminal => ?_
  · have hfrozen := hab hterminal
    exact hfrozen.trans (hbc (by rw [hfrozen.status, hterminal]))
  · rw [not_terminal_of_canTransition hlegal] at hterminal
    exact absurd hterminal (by simp)

/-- A verification of a terminal case leaves the frozen columns alone, whatever payment it
is given. -/
theorem VerifyOutcome.frozen {cfg : Config} {caller : Caller} {args : VerifyArgs}
    {counted : ℕ → ℕ → List ℕ} {r : Except Failure RecoveryMatchResult}
    (h : VerifyOutcome cfg caller s args counted c r c')
    (hterminal : isTerminal c.status = true) : c.Frozen c' := by
  have hopen : ∀ {paymentId p}, Considers s args counted c paymentId p →
      c.status ≠ .recovered → c.Frozen c' := by
    intro paymentId p hconsiders hstatus
    rcases isTerminal_iff.mp hterminal with hrecovered | hstopped
    · exact absurd hrecovered hstatus
    · exact absurd hstopped hconsiders.notStopped
  cases h with
  | stopped hstatus => exact .refl c
  | missing hstatus hpayment =>
    -- the failure path writes before it asks for the status, but not to these columns
    have hnote := RecoveryCase.Frozen.noteFailure c (missingPaymentResult args.caseId c)
      args.webhookEventId (by simp [missingPaymentResult])
    have hidle : c.status ≠ .verifying := by
      intro hverifying
      rw [hverifying] at hterminal
      exact absurd hterminal (by decide)
    unfold failureRow RecoveryCase.creditedPartially
    simpa [hidle, RecoveryMatchResult.isPartial, missingPaymentResult] using hnote
  | duplicate hstatus hpayment hguard => exact ⟨rfl, rfl, rfl, rfl, rfl, rfl⟩
  | alreadyRecovered hconsiders hstatus => exact .refl c
  | raised hconsiders hstatus => exact hopen hconsiders hstatus
  | recovered hconsiders hstatus => exact hopen hconsiders hstatus
  | dropped hconsiders hstatus => exact hopen hconsiders hstatus
  | failed hconsiders hstatus => exact hopen hconsiders hstatus

theorem keeps_verifyCase_frozen (cfg : Config) (caller : Caller) (args : VerifyArgs) :
    Session.Keeps (CasesKept RecoveryCase.FrozenWhenTerminal) (verifyCase cfg caller args) := by
  intro s j c hc
  by_cases hj : j = args.caseId
  · subst hj
    obtain ⟨c', hc', houtcome⟩ := verifyCase_outcome cfg caller args hc
    exact ⟨c', hc', houtcome.frozen⟩
  · have hframe := keeps_verifyCase cfg caller args (ProcessFrame.processorFrame _) s
    exact ⟨c, (hframe.others j hj).trans hc, fun _ => .refl c⟩

/-- Whatever calls follow, in any order, a case that is `RECOVERED` or `STOPPED` keeps its
status, version and closing time and everything that was credited to it. -/
theorem terminal_frozen {calls : List ServiceCall} (hc : s.cases.get? caseId = some c)
    (hterminal : c.status = .recovered ∨ c.status = .stopped)
    (hrun : Run (CallStep rt) s calls s') :
    ∃ c', s'.cases.get? caseId = some c' ∧ c.Frozen c' := by
  have hframe := frozenWhenTerminal_frame
  have hkept := hrun.relates (P := fun _ => True) hframe.refl hframe.trans
    (fun _ _ _ _ hstep => ⟨trivial, hframe.callStep keeps_verifyCase_frozen hstep⟩) trivial
  obtain ⟨c', hc', hfrozen⟩ := hkept caseId c hc
  exact ⟨c', hc', hfrozen (isTerminal_iff.mpr hterminal)⟩

/-- A case that was recovered, without a payment of its merchant behind it. -/
def recoveredCase : RecoveryCase :=
  { policyCheckCase 0 with
    status := .recovered
    amountRecovered := 100000
    closedAt := some 0
    recovered_le_at_risk := le_rfl }

def recoveredStore : Store where
  merchants := ⟨[{}]⟩
  customers := ⟨[{ merchantId := 0 }]⟩
  cases := ⟨[recoveredCase]⟩

/-- A verification that finds no payment notes its failure on a recovered case. -/
def missingVerification : ServiceCall :=
  .verifyCase { py := wholeNumberText } { now := 0 } { caseId := 0 }

theorem terminal_frozen_recovered :
    ∃ c', (missingVerification.after sampleRuntime recoveredStore).cases.get? 0 = some c' ∧
      recoveredCase.Frozen c' :=
  terminal_frozen rfl (.inl rfl) (.single (.inl rfl))

/-! ## Money and identity -/

/-- The columns of money and identity. -/
structure RecoveryCase.SameMoney (c c' : RecoveryCase) : Prop where
  amountRecovered : c'.amountRecovered = c.amountRecovered
  verifiedPaymentId : c'.verifiedPaymentId = c.verifiedPaymentId
  verifiedWebhookEventId : c'.verifiedWebhookEventId = c.verifiedWebhookEventId
  amountAtRisk : c'.amountAtRisk = c.amountAtRisk
  currency : c'.currency = c.currency
  paymentId : c'.paymentId = c.paymentId
  customerId : c'.customerId = c.customerId

namespace RecoveryCase.SameMoney

theorem refl (c : RecoveryCase) : c.SameMoney c := ⟨rfl, rfl, rfl, rfl, rfl, rfl, rfl⟩

theorem trans (h : c.SameMoney c') (h' : c'.SameMoney c'') : c.SameMoney c'' :=
  ⟨h'.amountRecovered.trans h.amountRecovered, h'.verifiedPaymentId.trans h.verifiedPaymentId,
    h'.verifiedWebhookEventId.trans h.verifiedWebhookEventId,
    h'.amountAtRisk.trans h.amountAtRisk, h'.currency.trans h.currency,
    h'.paymentId.trans h.paymentId, h'.customerId.trans h.customerId⟩

/-- A transition writes none of them. -/
theorem moveTo (c : RecoveryCase) (target : RecoveryCaseStatus) (now : Time) :
    c.SameMoney (c.moveTo target now) := ⟨rfl, rfl, rfl, rfl, rfl, rfl, rfl⟩

end RecoveryCase.SameMoney

theorem sameMoney_frame : WebhookFrame (CasesKept RecoveryCase.SameMoney) :=
  .of_rows .refl (fun _ _ _ => .trans) fun c target now _ => .moveTo c target now

/-- No call but a verification moves money or identity, whether it returns or raises. -/
theorem moneyColumns_kept (hcall : call.verifies = false)
    (hc : s.cases.get? caseId = some c) :
    ∃ c', (call.after rt s).cases.get? caseId = some c' ∧ c.SameMoney c' :=
  sameMoney_frame.after hcall s caseId c hc

/-- A payment link for a case that is down with its provider. -/
def linkCall : ServiceCall :=
  .execute sampleService { now := 0 } (underKey "create_payment_link" 0)

theorem moneyColumns_kept_link :
    ∃ c', (linkCall.after sampleRuntime twoCasesStore).cases.get? 0 = some c' ∧
      (policyCheckCase 0).SameMoney c' :=
  moneyColumns_kept rfl rfl

end ReviveX
