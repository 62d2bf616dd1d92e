import ReviveX.Domain.CreditTheorems
import ReviveX.Domain.DenialTheorems
import ReviveX.System.FreezeTheorems
import ReviveX.Tools.ReplayTheorems

/-!
# How long a source mismatch blocks a case

The policy engine denies every automatic action on a case whose last mismatch reason is one of
the merchant, the customer, the order or the payment. Only verifications of the case write that
column. One that credits nothing writes another reason there in two ways: it finds the payment
or the event already counted, or a payment that is the case's own and fails a later guard.
-/

namespace ReviveX

open Lib (Guarded Run Session Table)

variable {rt : Runtime} {cfg : Config} {caller : Caller} {args : VerifyArgs} {s s' : Store}
  {caseId : ℕ} {c c' : RecoveryCase} {call : ServiceCall}

/-! ## The block -/

/-- The last reason that a verification of the case recorded is a mismatch of its source. -/
def Store.SourceBlocked (s : Store) (caseId : ℕ) : Prop :=
  ∃ c, s.cases.get? caseId = some c ∧ isIdentityMismatch c.lastMismatchReason = true

/-- Whatever the merchant and the customer are like, the policy engine denies every automatic
action on the case. -/
def Store.DeniesAutomatic (s : Store) (caseId : ℕ) : Prop :=
  ∀ cfg c now ctx proposed action r, s.cases.get? caseId = some c →
    buildPolicyContext cfg s caseId c now = .ok ctx →
    RecoveryActionType.ofText? proposed.actionType = some action → action ∈ automaticActions →
    evaluateAction ctx proposed = .ok r → r.allowed = false

/-- The context of a blocked case says so. -/
theorem buildPolicyContext_sourceMismatch {now : Time} {ctx : PolicyContext}
    (hblocked : isIdentityMismatch c.lastMismatchReason = true)
    (hbuild : buildPolicyContext cfg s caseId c now = .ok ctx) : ctx.sourceMismatch = true := by
  unfold buildPolicyContext at hbuild
  cases hmerchant : s.merchants.get? c.merchantId with
  | none =>
    rw [hmerchant] at hbuild
    cases hbuild
  | some merchant =>
    rw [hmerchant] at hbuild
    obtain ⟨merged, -, hctx⟩ := Lib.bind_eq_ok.mp hbuild
    rw [← Except.ok.inj hctx]
    show isSourceMismatch cfg.py c _ = true
    unfold isSourceMismatch
    rw [hblocked, Bool.or_true]

theorem Store.SourceBlocked.denies (h : s.SourceBlocked caseId) : s.DeniesAutomatic caseId := by
  intro cfg c now ctx proposed action r hrow hbuild haction hautomatic hjudged
  obtain ⟨c', hrow', hblocked⟩ := h
  obtain rfl := Option.some.inj (hrow.symm.trans hrow')
  have hdenied : Denied ctx proposed action :=
    .suspicious hautomatic (.inr (buildPolicyContext_sourceMismatch hblocked hbuild))
  have hallowed := allowed_iff hjudged haction
  cases hr : r.allowed with
  | false => rfl
  | true => exact absurd hdenied (hallowed.mp hr)

/-! ## Verifications -/

/-- The verification credits a payment. -/
def Credits (cfg : Config) (caller : Caller) (s : Store) (args : VerifyArgs)
    (c : RecoveryCase) : Prop :=
  creditedPayment cfg caller s args s.listThatCountedPayment c ≠ none

/-- The verifications that credit nothing and write a reason of another kind. -/
inductive OverwritesReason (cfg : Config) (caller : Caller) (s : Store) (args : VerifyArgs)
    (c : RecoveryCase) : Prop
  /-- The payment or the event was already counted. -/
  | counted {paymentId : ℕ} {p : Payment} {result : RecoveryMatchResult}
      (hstatus : c.status ≠ .stopped)
      (hpayment : resolvePayment s c args.paymentId = some (paymentId, p))
      (hguard : duplicateOrAlreadyCounted args.caseId c paymentId args.webhookEventId
        (s.listThatCountedPayment c.merchantId paymentId) = some result)
  /-- The payment is of the case, and fails for its currency, its status, its time or its
  amount. -/
  | unfit {paymentId : ℕ} {p : Payment} {reason : MismatchReason} {detail : String}
      (hconsiders : Considers s args s.listThatCountedPayment c paymentId p)
      (hstatus : c.status ≠ .recovered)
      (hraises : processingRaises cfg s args.caseId c caller.now = none)
      (hmismatch : evaluateMismatch cfg.settings s args.caseId c paymentId p =
        some (reason, detail))
      (hother : isIdentityMismatch (some reason) = false)

theorem failureRow_lastMismatchReason (now : Time) (result : RecoveryMatchResult)
    (webhookEventId : Option ℕ) (c : RecoveryCase) :
    (failureRow now result webhookEventId c).lastMismatchReason =
      some (result.mismatchReason.getD .unknown) := by
  unfold failureRow RecoveryCase.creditedPartially
  dsimp only
  split <;> split <;> rfl

/-- The guard against counting twice answers with a reason that is no source mismatch. -/
theorem duplicateOrAlreadyCounted_reason {paymentId : ℕ} {webhookEventId : Option ℕ}
    {counted : List ℕ} {result : RecoveryMatchResult}
    (h : duplicateOrAlreadyCounted caseId c paymentId webhookEventId counted = some result) :
    isIdentityMismatch result.mismatchReason = false := by
  unfold duplicateOrAlreadyCounted at h
  split at h
  · rw [← Option.some.inj h]
    rfl
  · split at h
    · rw [← Option.some.inj h]
      rfl
    · split at h
      · rw [← Option.some.inj h]
        rfl
      · cases h

/-- A payment that was considered is not one that the guard answered. -/
theorem not_counted_of_considers {paymentId paymentId' : ℕ} {p p' : Payment}
    {result : RecoveryMatchResult}
    (h : Considers s args s.listThatCountedPayment c paymentId p)
    (hpayment : resolvePayment s c args.paymentId = some (paymentId', p'))
    (hguard : duplicateOrAlreadyCounted args.caseId c paymentId' args.webhookEventId
      (s.listThatCountedPayment c.merchantId paymentId') = some result) : False := by
  have hsame := Option.some.inj (h.resolved.symm.trans hpayment)
  have hpasses := h.passesGuard
  rw [(Prod.mk.inj hsame).1, hguard] at hpasses
  cases hpasses

/-- A verification of a blocked case that credits nothing leaves it blocked if and only if it
does not overwrite the reason. -/
theorem VerifyOutcome.blocked_iff {x : Except Failure RecoveryMatchResult}
    (h : VerifyOutcome cfg caller s args s.listThatCountedPayment c x c')
    (hblocked : isIdentityMismatch c.lastMismatchReason = true)
    (hcredits : ¬ Credits cfg caller s args c) :
    isIdentityMismatch c'.lastMismatchReason = true ↔ ¬ OverwritesReason cfg caller s args c := by
  have huncredited : creditedPayment cfg caller s args s.listThatCountedPayment c = none :=
    not_not.mp hcredits
  -- the row keeps its reason, and the payment was considered
  have hkept : ∀ {paymentId p}, Considers s args s.listThatCountedPayment c paymentId p →
      c'.lastMismatchReason = c.lastMismatchReason →
      (∀ reason detail, c.status ≠ .recovered →
        processingRaises cfg s args.caseId c caller.now = none →
        evaluateMismatch cfg.settings s args.caseId c paymentId p ≠ some (reason, detail)) →
      (isIdentityMismatch c'.lastMismatchReason = true ↔
        ¬ OverwritesReason cfg caller s args c) := by
    intro paymentId p hconsiders hreason hfits
    rw [hreason]
    refine iff_of_true hblocked fun hover => ?_
    cases hover with
    | counted hstatus hpayment hguard => exact not_counted_of_considers hconsiders hpayment hguard
    | unfit hconsiders' hstatus hraises hmismatch hother =>
      obtain ⟨rfl, rfl⟩ := hconsiders.unique hconsiders'
      exact hfits _ _ hstatus hraises hmismatch
  cases h with
  | stopped hstatus =>
    refine iff_of_true hblocked fun hover => ?_
    cases hover with
    | counted hstatus' hpayment hguard => exact hstatus' hstatus
    | unfit hconsiders hstatus' hraises hmismatch hother => exact hconsiders.notStopped hstatus
  | missing hstatus hpayment =>
    rw [failureRow_lastMismatchReason]
    refine iff_of_true rfl fun hover => ?_
    cases hover with
    | counted hstatus' hpayment' hguard =>
      rw [hpayment] at hpayment'
      cases hpayment'
    | unfit hconsiders hstatus' hraises hmismatch hother =>
      rw [hconsiders.resolved] at hpayment
      cases hpayment
  | duplicate hstatus hpayment hguard =>
    have hreason := duplicateOrAlreadyCounted_reason hguard
    refine iff_of_false ?_ (not_not_intro (.counted hstatus hpayment hguard))
    rw [hreason]
    decide
  | alreadyRecovered hconsiders hstatus =>
    exact hkept hconsiders rfl fun _ _ hopen => absurd hstatus hopen
  | raised hconsiders hstatus hraises hlifecycle hend =>
    refine hkept hconsiders hlifecycle.lastMismatchReason fun _ _ _ hnone => ?_
    rw [hraises] at hnone
    cases hnone
  | recovered hconsiders hstatus hraises hmatched hreaches hlifecycle =>
    have hcredited := creditedPayment_eq_some.mpr
      ⟨hstatus, hconsiders, (evaluate_matched.mp hmatched).1, hraises, .inr hreaches⟩
    rw [huncredited] at hcredited
    cases hcredited
  | dropped hconsiders hstatus hraises hmatched hreaches hlifecycle hend =>
    refine hkept hconsiders hlifecycle.lastMismatchReason fun reason detail _ _ hmismatch => ?_
    rw [(evaluate_matched.mp hmatched).1] at hmismatch
    cases hmismatch
  | @failed paymentId p c₁ hconsiders hstatus hraises hmatched hlifecycle hend hverifying =>
    rw [failureRow_lastMismatchReason]
    cases hmismatch : evaluateMismatch cfg.settings s args.caseId c paymentId p with
    | none =>
      -- a partial capture is credited
      have hpartial : p.amount < c.amountAtRisk := by
        by_contra hfull
        rw [evaluate_matched.mpr ⟨hmismatch, Nat.not_lt.mp hfull⟩] at hmatched
        cases hmatched
      have hcredited := creditedPayment_eq_some.mpr
        ⟨hstatus, hconsiders, hmismatch, hraises, .inl hpartial⟩
      rw [huncredited] at hcredited
      cases hcredited
    | some mismatch =>
      obtain ⟨reason, detail⟩ := mismatch
      rw [evaluate_of_mismatch hmismatch]
      show isIdentityMismatch (some reason) = true ↔ _
      constructor
      · intro hidentity hover
        cases hover with
        | counted hstatus' hpayment hguard =>
          exact not_counted_of_considers hconsiders hpayment hguard
        | unfit hconsiders' hstatus' hraises' hmismatch' hother =>
          obtain ⟨rfl, rfl⟩ := hconsiders.unique hconsiders'
          rw [hmismatch] at hmismatch'
          obtain rfl := (Prod.mk.inj (Option.some.inj hmismatch')).1
          rw [hother] at hidentity
          cases hidentity
      · intro hspares
        by_contra hother
        exact hspares (.unfit hconsiders hstatus hraises hmismatch (by simpa using hother))

/-! ## Runs -/

/-- What happens to the database between two looks at the case. -/
inductive BlockLabel
  | call (call : ServiceCall)
  | other

/-- A call ends and is committed or rolled back; anything else leaves the last mismatch reason
of the case, which only verifications write. -/
def BlockStep (rt : Runtime) (caseId : ℕ) (s : Store) : BlockLabel → Store → Prop
  | .call call, s' => CallStep rt s call s'
  | .other, s' => ∀ c, s.cases.get? caseId = some c →
      ∃ c', s'.cases.get? caseId = some c' ∧ c'.lastMismatchReason = c.lastMismatchReason

/-- A property of the verifications of the case, on the row that they lock. -/
def OfVerifications (P : Config → Caller → Store → VerifyArgs → RecoveryCase → Prop)
    (caseId : ℕ) (s : Store) : BlockLabel → Prop
  | .call (.verifyCase cfg caller args) => args.caseId = caseId →
      ∀ c, s.cases.get? caseId = some c → P cfg caller s args c
  | _ => True

/-- The step is no verification that credits the case. -/
def Uncredited : ℕ → Store → BlockLabel → Prop :=
  OfVerifications fun cfg caller s args c => ¬ Credits cfg caller s args c

/-- The step is no verification that overwrites the last mismatch reason of the case. -/
def SparesReason : ℕ → Store → BlockLabel → Prop :=
  OfVerifications fun cfg caller s args c => ¬ OverwritesReason cfg caller s args c

/-- The last mismatch reason of a row. -/
def RecoveryCase.SameReason (c c' : RecoveryCase) : Prop :=
  c'.lastMismatchReason = c.lastMismatchReason

/-- No service but the verification writes the reason. -/
theorem sameReason_frame : WebhookFrame (CasesKept RecoveryCase.SameReason) := by
  refine .of_rows (fun _ => rfl) (fun a b d hab hbd => ?_) fun _ _ _ _ => rfl
  exact hbd.trans hab

theorem Store.SourceBlocked.of_sameReason (h : s.SourceBlocked caseId)
    (hkept : ∀ c, s.cases.get? caseId = some c →
      ∃ c', s'.cases.get? caseId = some c' ∧ c.SameReason c') : s'.SourceBlocked caseId := by
  obtain ⟨c, hrow, hblocked⟩ := h
  obtain ⟨c', hrow', hreason⟩ := hkept c hrow
  refine ⟨c', hrow', ?_⟩
  rw [hreason]
  exact hblocked

/-- A verification of the case that neither credits it nor overwrites the reason. -/
theorem Store.SourceBlocked.verifyCase (h : s.SourceBlocked args.caseId)
    (huncredited : ∀ c, s.cases.get? args.caseId = some c → ¬ Credits cfg caller s args c)
    (hspares : ∀ c, s.cases.get? args.caseId = some c →
      ¬ OverwritesReason cfg caller s args c) :
    ((verifyCase cfg caller args).run s).2.SourceBlocked args.caseId := by
  obtain ⟨c, hrow, hblocked⟩ := h
  obtain ⟨c', hrow', houtcome⟩ := verifyCase_outcome cfg caller args hrow
  have hiff := houtcome.blocked_iff hblocked (huncredited c hrow)
  exact ⟨c', hrow', hiff.mpr (hspares c hrow)⟩

theorem Store.SourceBlocked.step {label : BlockLabel} (h : s.SourceBlocked caseId)
    (hstep : Guarded (BlockStep rt caseId)
      (fun s label => Uncredited caseId s label ∧ SparesReason caseId s label) s label s') :
    s'.SourceBlocked caseId := by
  obtain ⟨⟨huncredited, hspares⟩, hstep⟩ := hstep
  cases label with
  | other => exact .of_sameReason h hstep
  | call call =>
    rcases hstep with rfl | rfl
    swap
    · exact h
    cases hverifies : call.verifies with
    | false =>
      have hkept : CasesKept RecoveryCase.SameReason s (call.after rt s) :=
        sameReason_frame.after hverifies s
      exact .of_sameReason h (hkept caseId)
    | true =>
      cases call with
      | verifyCase cfg caller args =>
        by_cases hcase : args.caseId = caseId
        · rw [← hcase] at h huncredited hspares ⊢
          exact .verifyCase h (huncredited rfl) (hspares rfl)
        · have hframe := keeps_verifyCase cfg caller args (ProcessFrame.processorFrame _) s
          refine .of_sameReason h fun c hrow => ⟨c, ?_, rfl⟩
          exact (hframe.others caseId (Ne.symm hcase)).trans hrow
      | _ => cases hverifies

/-- Once a verification has recorded a mismatch of the source, the policy engine keeps denying
every automatic action on the case, whatever is called, as long as no verification of the case
credits it and none overwrites the reason with one of another kind. -/
theorem sourceBlock_persists {labels : List BlockLabel} (hblocked : s.SourceBlocked caseId)
    (hrun : Run (Guarded (BlockStep rt caseId)
      (fun s label => Uncredited caseId s label ∧ SparesReason caseId s label)) s labels s') :
    s'.SourceBlocked caseId ∧ s'.DeniesAutomatic caseId := by
  have hend : s'.SourceBlocked caseId :=
    hrun.invariant (P := fun s => s.SourceBlocked caseId)
      (fun _ _ _ h hstep => h.step hstep) hblocked
  exact ⟨hend, hend.denies⟩

/-! ## A block that is lifted -/

/-- A case whose action is completed, its failed payment, and a captured payment of another
customer. -/
def foreignCaptureStore : Store where
  merchants := ⟨[{}]⟩
  customers := ⟨[{ merchantId := 0 }, { merchantId := 0 }]⟩
  payments := ⟨[
    { merchantId := 0, customerId := 0, amount := 100000, status := .failed },
    { merchantId := 0, customerId := 1, amount := 100000, status := .captured,
      capturedAt := some 0 }]⟩
  cases := ⟨[sampleCase 0 100000 .actionCompleted]⟩

/-- A verification of the case with a payment, or with its own. -/
def verificationOf (paymentId : Option ℕ) : ServiceCall :=
  .verifyCase { py := wholeNumberText } noonCaller { caseId := 0, paymentId }

/-- The payment of the other customer was verified. -/
def sourceMismatchStore : Store := (verificationOf (some 1)).after sampleRuntime foreignCaptureStore

/-- Then the case's own payment was, which is not captured. -/
def notCapturedStore : Store := (verificationOf none).after sampleRuntime sourceMismatchStore

theorem sourceMismatchStore_blocked : sourceMismatchStore.SourceBlocked 0 := by
  have hreason : (sourceMismatchStore.cases.get? 0).map
      (fun c => isIdentityMismatch c.lastMismatchReason) = some true := by decide +kernel
  exact Option.map_eq_some_iff.mp hreason

/-- Then the case was processed. -/
def processedMismatchStore : Store :=
  (ServiceCall.process { py := wholeNumberText } noonCaller 0).after sampleRuntime
    sourceMismatchStore

/-- Another verification of the payment of the other customer. -/
theorem repeatedMismatch_spares :
    Uncredited 0 processedMismatchStore (.call (verificationOf (some 1))) ∧
      SparesReason 0 processedMismatchStore (.call (verificationOf (some 1))) := by
  have hverdicts : (processedMismatchStore.cases.get? 0).map (fun c =>
      ((creditedPayment { py := wholeNumberText } noonCaller processedMismatchStore
          { caseId := 0, paymentId := some 1 } processedMismatchStore.listThatCountedPayment
            c).isNone,
        (resolvePayment processedMismatchStore c (some 1)).map fun payment =>
          ((duplicateOrAlreadyCounted 0 c payment.1 none
              (processedMismatchStore.listThatCountedPayment c.merchantId payment.1)).isNone,
            (evaluateMismatch {} processedMismatchStore 0 c payment.1 payment.2).all
              fun mismatch => isIdentityMismatch (some mismatch.1)))) =
      some (true, some (true, true)) := by decide +kernel
  obtain ⟨c, hrow, hverdicts⟩ := Option.map_eq_some_iff.mp hverdicts
  obtain ⟨hnone, hpayment⟩ := Prod.mk.inj hverdicts
  obtain ⟨payment, hresolved, hboth⟩ := Option.map_eq_some_iff.mp hpayment
  obtain ⟨hguard, hmismatch⟩ := Prod.mk.inj hboth
  constructor
  · intro _ c' hrow' hcredits
    obtain rfl := Option.some.inj (hrow.symm.trans hrow')
    exact hcredits (Option.isNone_iff_eq_none.mp hnone)
  · intro _ c' hrow' hover
    obtain rfl := Option.some.inj (hrow.symm.trans hrow')
    cases hover with
    | counted hstatus hresolved' hcounted =>
      obtain rfl := Option.some.inj (hresolved.symm.trans hresolved')
      rw [Option.isNone_iff_eq_none] at hguard
      exact absurd (hguard.symm.trans hcounted) (by simp)
    | unfit hconsiders hstatus hraises hunfit hother =>
      obtain rfl := Option.some.inj (hresolved.symm.trans hconsiders.resolved)
      have hunfit : evaluateMismatch {} processedMismatchStore 0 c _ _ = some (_, _) := hunfit
      rw [hunfit] at hmismatch
      exact absurd (hmismatch.symm.trans hother) (by decide)

/-- The case stays blocked while it is processed, and when the payment of the other customer is
verified once more. -/
theorem sourceBlock_persists_processed :
    ((verificationOf (some 1)).after sampleRuntime processedMismatchStore).SourceBlocked 0 ∧
      ((verificationOf (some 1)).after sampleRuntime
        processedMismatchStore).DeniesAutomatic 0 := by
  have hrun : Run (Guarded (BlockStep sampleRuntime 0)
      (fun s label => Uncredited 0 s label ∧ SparesReason 0 s label)) sourceMismatchStore
      [.call (.process { py := wholeNumberText } noonCaller 0),
        .call (verificationOf (some 1))]
      ((verificationOf (some 1)).after sampleRuntime processedMismatchStore) :=
    Run.snoc (.single ⟨⟨trivial, trivial⟩, .inl rfl⟩) ⟨repeatedMismatch_spares, .inl rfl⟩
  exact sourceBlock_persists sourceMismatchStore_blocked hrun

/-- A verification of the case's own payment, which is not captured, credits nothing and lifts
the block: a retry is allowed. -/
theorem notCaptured_lifts_sourceBlock :
    sourceMismatchStore.SourceBlocked 0 ∧
      Run (Guarded (BlockStep sampleRuntime 0) (Uncredited 0)) sourceMismatchStore
        [.call (verificationOf none)] notCapturedStore ∧
      ¬ notCapturedStore.DeniesAutomatic 0 := by
  have huncredited : Uncredited 0 sourceMismatchStore (.call (verificationOf none)) := by
    intro _ c hrow hcredits
    have hnone : (sourceMismatchStore.cases.get? 0).map (fun c =>
        (creditedPayment { py := wholeNumberText } noonCaller sourceMismatchStore
          { caseId := 0, paymentId := none } sourceMismatchStore.listThatCountedPayment
            c).isNone) = some true := by decide +kernel
    rw [hrow] at hnone
    exact hcredits (Option.isNone_iff_eq_none.mp (Option.some.inj hnone))
  refine ⟨sourceMismatchStore_blocked, .single ⟨huncredited, .inl rfl⟩, fun hdenies => ?_⟩
  have hallowed : ((notCapturedStore.cases.get? 0).bind fun c =>
      (buildPolicyContext { py := wholeNumberText } notCapturedStore 0 c
        noonCaller.now).toOption.bind fun ctx =>
          (evaluateAction ctx { actionType := "RETRY_NOW" }).toOption.map (·.allowed)) =
        some true := by decide +kernel
  obtain ⟨c, hrow, hbuilt⟩ := Option.bind_eq_some_iff.mp hallowed
  obtain ⟨ctx, hctx, hjudged⟩ := Option.bind_eq_some_iff.mp hbuilt
  obtain ⟨r, hr, hr'⟩ := Option.map_eq_some_iff.mp hjudged
  have hdenied := hdenies { py := wholeNumberText } c noonCaller.now ctx
    { actionType := "RETRY_NOW" } .retryNow r hrow (Lib.toOption_eq_some.mp hctx) rfl
    (by decide) (Lib.toOption_eq_some.mp hr)
  rw [hr'] at hdenied
  cases hdenied

end ReviveX
