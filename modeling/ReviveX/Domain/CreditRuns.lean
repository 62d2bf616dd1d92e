import ReviveX.Domain.CreditSoundness
import ReviveX.Lib.Runs

/-!
# Credits over whole runs

A run is any sequence of `verify_case` calls on any cases, between which everything but
the credit columns may change. `creditNeverForgotten` proves that, as long as no call
credits a case that holds an amount already,

- no amount decreases, and
- a payment that has been counted is not counted again, on any case.

The invariant is that a case with an amount names a payment of its own merchant
(`CreditRecorded`); with it, the guard finds every payment that is still recorded.
-/

namespace ReviveX

open Lib (Guarded Run Session Table)

variable {cfg : Config} {caller : Caller} {args : VerifyArgs} {s s' s'' : Store}

/-! ## One call -/

/-- `verify_case` in a transaction that rolls back the failures `keep` does not accept. -/
def verifyTransaction (cfg : Config) (keep : Failure → Bool) (caller : Caller)
    (args : VerifyArgs) : Service RecoveryMatchResult :=
  (verifyCase cfg caller args).transact keep

theorem keeps_verifyTransaction (cfg : Config) (keep : Failure → Bool) (caller : Caller)
    (args : VerifyArgs) :
    Session.Keeps (ProcessFrame args.caseId) (verifyTransaction cfg keep caller args) :=
  .transact (ProcessFrame.refl _)
    (keeps_verifyCase cfg caller args (ProcessFrame.processorFrame _))

theorem run_verifyTransaction_missing (cfg : Config) (keep : Failure → Bool) (caller : Caller)
    (h : s.cases.get? args.caseId = none) :
    ((verifyTransaction cfg keep caller args).run s).2 = s := by
  unfold verifyTransaction
  rcases Session.transact_state keep (verifyCase cfg caller args) s with hstate | ⟨-, hstate⟩
  · rw [hstate, run_verifyCase_missing cfg caller h]
  · exact hstate

/-- A call that raises credits nothing. -/
theorem VerifyOutcome.of_error {listThatCountedPayment : ℕ → ℕ → List ℕ} {c c' : RecoveryCase}
    {f : Failure}
    (h : VerifyOutcome cfg caller s args listThatCountedPayment c (.error f) c') :
    creditedPayment cfg caller s args listThatCountedPayment c = none := by
  cases h with
  | raised hconsiders hstatus hraises hlifecycle hend =>
    exact creditedPayment_eq_none fun _ _ _ => .inr (.inr (.inl (by simp [hraises])))

/-- What a call does to the credit of its case, whichever failures are rolled back. -/
theorem verifyTransaction_row (cfg : Config) (keep : Failure → Bool) (caller : Caller)
    {c : RecoveryCase} (h : s.cases.get? args.caseId = some c) :
    ∃ c', ((verifyTransaction cfg keep caller args).run s).2.cases.get? args.caseId = some c' ∧
      CreditedRow cfg caller s args s.listThatCountedPayment c c' := by
  obtain ⟨c', hafter, houtcome⟩ := verifyCase_outcome cfg caller args h
  unfold verifyTransaction
  rcases Session.transact_state keep (verifyCase cfg caller args) s with
    hstate | ⟨⟨f, hf⟩, hstate⟩
  · rw [hstate]
    exact ⟨c', hafter, houtcome.row⟩
  · rw [hf] at houtcome
    rw [hstate]
    have hnone := houtcome.of_error
    exact ⟨c, h, .refl c, fun hcredited => absurd (hcredited.symm.trans hnone) (by simp),
      fun _ => ⟨rfl, rfl, Iff.rfl⟩⟩

/-! ## The invariant -/

/-- A case with a recovered amount names the payment, which is one of its merchant. -/
def CreditRecorded (s : Store) : Prop :=
  ∀ i c, s.cases.get? i = some c → 0 < c.amountRecovered →
    ∃ paymentId p, c.verifiedPaymentId = some paymentId ∧
      s.payments.get? paymentId = some p ∧ p.merchantId = c.merchantId

/-- Some case holds an amount on account of the payment. -/
def Counted (s : Store) (paymentId : ℕ) : Prop :=
  ∃ i c, s.cases.get? i = some c ∧ c.verifiedPaymentId = some paymentId ∧
    0 < c.amountRecovered

/-- The amounts of the cases of `s` have not decreased in `s'`. -/
def AmountsGrow (s s' : Store) : Prop :=
  ∀ i c, s.cases.get? i = some c →
    ∃ c', s'.cases.get? i = some c' ∧ c.amountRecovered ≤ c'.amountRecovered

theorem AmountsGrow.refl (s : Store) : AmountsGrow s s :=
  fun _ c hcase => ⟨c, hcase, le_rfl⟩

theorem AmountsGrow.trans (h : AmountsGrow s s') (h' : AmountsGrow s' s'') :
    AmountsGrow s s'' := by
  intro i c hcase
  obtain ⟨c', hcase', hle⟩ := h i c hcase
  obtain ⟨c'', hcase'', hle'⟩ := h' i c' hcase'
  exact ⟨c'', hcase'', hle.trans hle'⟩

/-- A step that counts the payment: it becomes the verified payment of a case that holds
an amount. -/
def CountsPayment (s s' : Store) (paymentId : ℕ) : Prop :=
  ∃ i c c', s.cases.get? i = some c ∧ s'.cases.get? i = some c' ∧
    c.verifiedPaymentId ≠ some paymentId ∧ c'.verifiedPaymentId = some paymentId ∧
    0 < c'.amountRecovered

theorem resolvePayment_get? {c : RecoveryCase} {asked : Option ℕ} {paymentId : ℕ} {p : Payment}
    (h : resolvePayment s c asked = some (paymentId, p)) :
    s.payments.get? paymentId = some p := by
  unfold resolvePayment at h
  simp only [Option.bind_eq_some_iff, Option.map_eq_some_iff, Prod.mk.injEq] at h
  obtain ⟨_, -, _, hget, rfl, rfl⟩ := h
  exact hget

/-- The guard finds every counted payment: nothing that is counted can be credited. -/
theorem CreditRecorded.not_credited (hrecorded : CreditRecorded s) {paymentId : ℕ}
    (hcounted : Counted s paymentId) {c : RecoveryCase} {p : Payment}
    (h : s.cases.get? args.caseId = some c) :
    creditedPayment cfg caller s args s.listThatCountedPayment c ≠ some (paymentId, p) := by
  intro hcredited
  obtain ⟨-, hconsiders, hmatch, -, -⟩ := creditedPayment_eq_some.mp hcredited
  have hguards := PassesGuards.of_evaluate hmatch
  obtain ⟨-, hverified, hcountedOn⟩ := passesGuard_iff.mp hconsiders.passesGuard
  obtain ⟨i, d, hd, hdverified, hdamount⟩ := hcounted
  obtain ⟨q, p', hq, hp', hmerchant⟩ := hrecorded i d hd hdamount
  obtain rfl : paymentId = q := Option.some.inj (hdverified.symm.trans hq)
  have hp := resolvePayment_get? hconsiders.resolved
  obtain rfl : p' = p := Option.some.inj (hp'.symm.trans hp)
  have hmember : i ∈ s.listThatCountedPayment c.merchantId paymentId := by
    refine Table.mem_idsWhere.mpr ⟨d, hd, ?_⟩
    simp [hdverified, hdamount, ← hmerchant, hguards.merchantId]
  obtain rfl := hcountedOn i hmember
  obtain rfl : d = c := Option.some.inj (hd.symm.trans h)
  exact hverified hdverified

/-! ## Steps -/

/-- Anything that leaves the credit columns of the cases and the merchants of the payments
alone, and opens cases without a credit. -/
structure LeavesCredits (s s' : Store) : Prop where
  kept : ∀ i c, s.cases.get? i = some c → ∃ c', s'.cases.get? i = some c' ∧
    c'.merchantId = c.merchantId ∧ c'.amountRecovered = c.amountRecovered ∧
    c'.verifiedPaymentId = c.verifiedPaymentId
  opened : ∀ i c', s.cases.get? i = none → s'.cases.get? i = some c' →
    c'.amountRecovered = 0 ∧ c'.verifiedPaymentId = none
  payments : ∀ i p, s.payments.get? i = some p →
    ∃ p', s'.payments.get? i = some p' ∧ p'.merchantId = p.merchantId

/-- A step of a run: a call of `verify_case`, or (unlabelled) anything that leaves the
credits alone. -/
inductive VerificationStep (cfg : Config) (s : Store) :
    Option (Caller × VerifyArgs) → Store → Prop
  | verify (keep : Failure → Bool) (caller : Caller) (args : VerifyArgs) :
      VerificationStep cfg s (some (caller, args))
        ((verifyTransaction cfg keep caller args).run s).2
  | other {s' : Store} (h : LeavesCredits s s') : VerificationStep cfg s none s'

/-- The call credits a case that holds an amount already. -/
def OverwritesCredit (cfg : Config) (s : Store) : Option (Caller × VerifyArgs) → Prop
  | some (caller, args) => ∃ c, s.cases.get? args.caseId = some c ∧ 0 < c.amountRecovered ∧
      (creditedPayment cfg caller s args s.listThatCountedPayment c).isSome
  | none => False

/-- The steps that overwrite no credit. -/
def KeepingStep (cfg : Config) : Store → Option (Caller × VerifyArgs) → Store → Prop :=
  Guarded (VerificationStep cfg) fun s call => ¬ OverwritesCredit cfg s call

variable {call : Option (Caller × VerifyArgs)}

/-- What a step does to the credit of a case: nothing, or it credits a payment that was
not counted to a case that held no amount. -/
inductive CreditStep (s s' : Store) (i : ℕ) (c : RecoveryCase) : RecoveryCase → Prop
  | unchanged {c' : RecoveryCase} (merchantId : c'.merchantId = c.merchantId)
      (amount : c'.amountRecovered = c.amountRecovered)
      (verified : c'.verifiedPaymentId = c.verifiedPaymentId) : CreditStep s s' i c c'
  | credited {c' : RecoveryCase} {paymentId : ℕ} {p : Payment}
      (merchantId : c'.merchantId = c.merchantId) (amount : c.amountRecovered = 0)
      (verified : c'.verifiedPaymentId = some paymentId)
      (payment : s'.payments.get? paymentId = some p) (owned : p.merchantId = c.merchantId)
      (uncounted : ¬ Counted s paymentId) : CreditStep s s' i c c'

/-- Every row survives a step, with one of the two effects on its credit. -/
theorem KeepingStep.credit (hstep : KeepingStep cfg s call s') (hrecorded : CreditRecorded s)
    {i : ℕ} {c : RecoveryCase} (hcase : s.cases.get? i = some c) :
    ∃ c', s'.cases.get? i = some c' ∧ CreditStep s s' i c c' := by
  obtain ⟨hkeeps, hstep⟩ := hstep
  cases hstep with
  | other h =>
    obtain ⟨c', hcase', hmerchant, hamount, hverified⟩ := h.kept i c hcase
    exact ⟨c', hcase', .unchanged hmerchant hamount hverified⟩
  | verify keep caller args =>
    have hframe := keeps_verifyTransaction cfg keep caller args s
    by_cases hid : i = args.caseId
    · subst hid
      obtain ⟨c', hcase', hrow⟩ := verifyTransaction_row cfg keep caller hcase
      refine ⟨c', hcase', ?_⟩
      cases hcredited : creditedPayment cfg caller s args s.listThatCountedPayment c with
      | none =>
        obtain ⟨hamount, hverified, -⟩ := hrow.uncredited hcredited
        exact .unchanged hrow.claim.merchantId hamount hverified
      | some resolved =>
        obtain ⟨paymentId, p⟩ := resolved
        have hfresh : c.amountRecovered = 0 := by
          by_contra hne
          exact hkeeps ⟨c, hcase, Nat.pos_of_ne_zero hne, by rw [hcredited]; rfl⟩
        obtain ⟨-, hconsiders, hmatch, -, -⟩ := creditedPayment_eq_some.mp hcredited
        refine .credited hrow.claim.merchantId hfresh (hrow.credited hcredited).2.1
          (p := p) ?_ (PassesGuards.of_evaluate hmatch).merchantId ?_
        · rw [hframe.payments]
          exact resolvePayment_get? hconsiders.resolved
        · intro hcounted
          exact hrecorded.not_credited hcounted hcase hcredited
    · have hsame := hframe.others i hid
      exact ⟨c, hsame.trans hcase, .unchanged rfl rfl rfl⟩

/-- Rows that a step creates hold no amount. -/
theorem KeepingStep.opened (hstep : KeepingStep cfg s call s') {i : ℕ} {c' : RecoveryCase}
    (hcase : s.cases.get? i = none) (hcase' : s'.cases.get? i = some c') :
    c'.amountRecovered = 0 := by
  obtain ⟨-, hstep⟩ := hstep
  cases hstep with
  | other h => exact (h.opened i c' hcase hcase').1
  | verify keep caller args =>
    by_cases hid : i = args.caseId
    · subst hid
      rw [run_verifyTransaction_missing cfg keep caller hcase, hcase] at hcase'
      cases hcase'
    · rw [(keeps_verifyTransaction cfg keep caller args s).others i hid, hcase] at hcase'
      cases hcase'

theorem KeepingStep.payment (hstep : KeepingStep cfg s call s') {i : ℕ} {p : Payment}
    (hpayment : s.payments.get? i = some p) :
    ∃ p', s'.payments.get? i = some p' ∧ p'.merchantId = p.merchantId := by
  obtain ⟨-, hstep⟩ := hstep
  cases hstep with
  | other h => exact h.payments i p hpayment
  | verify keep caller args =>
    rw [(keeps_verifyTransaction cfg keep caller args s).payments]
    exact ⟨p, hpayment, rfl⟩

/-- A step keeps the invariant. -/
theorem KeepingStep.recorded (hrecorded : CreditRecorded s) (hstep : KeepingStep cfg s call s') :
    CreditRecorded s' := by
  intro i c' hcase' hamount
  cases hcase : s.cases.get? i with
  | none => exact absurd (hstep.opened hcase hcase') hamount.ne'
  | some c =>
    obtain ⟨d, hd, hcredit⟩ := hstep.credit hrecorded hcase
    obtain rfl : d = c' := Option.some.inj (hd.symm.trans hcase')
    cases hcredit with
    | unchanged hmerchant hsame hverified =>
      obtain ⟨paymentId, p, hpayment, hget, howned⟩ := hrecorded i c hcase (by rwa [← hsame])
      obtain ⟨p', hget', hmerchant'⟩ := hstep.payment hget
      exact ⟨paymentId, p', hverified.trans hpayment, hget',
        hmerchant'.trans (howned.trans hmerchant.symm)⟩
    | credited hmerchant hzero hverified hget howned huncounted =>
      exact ⟨_, _, hverified, hget, howned.trans hmerchant.symm⟩

/-- A step decreases no amount. -/
theorem KeepingStep.amountsGrow (hrecorded : CreditRecorded s)
    (hstep : KeepingStep cfg s call s') : AmountsGrow s s' := by
  intro i c hcase
  obtain ⟨c', hcase', hcredit⟩ := hstep.credit hrecorded hcase
  refine ⟨c', hcase', ?_⟩
  cases hcredit with
  | unchanged _ hamount _ => exact hamount.ge
  | credited _ hzero _ _ _ _ => exact hzero ▸ Nat.zero_le _

/-- A step forgets no counted payment. -/
theorem KeepingStep.counted (hrecorded : CreditRecorded s) (hstep : KeepingStep cfg s call s')
    {paymentId : ℕ} (hcounted : Counted s paymentId) : Counted s' paymentId := by
  obtain ⟨i, c, hcase, hverified, hamount⟩ := hcounted
  obtain ⟨c', hcase', hcredit⟩ := hstep.credit hrecorded hcase
  cases hcredit with
  | unchanged _ hsame hverified' =>
    exact ⟨i, c', hcase', hverified'.trans hverified, by rwa [hsame]⟩
  | credited _ hzero _ _ _ _ => exact absurd hzero hamount.ne'

/-- A step counts only payments that were not counted. -/
theorem KeepingStep.counts_uncounted (hrecorded : CreditRecorded s)
    (hstep : KeepingStep cfg s call s') {paymentId : ℕ}
    (hcounts : CountsPayment s s' paymentId) : ¬ Counted s paymentId := by
  obtain ⟨i, c, c', hcase, hcase', hbefore, hafter, hamount⟩ := hcounts
  obtain ⟨d, hd, hcredit⟩ := hstep.credit hrecorded hcase
  obtain rfl : d = c' := Option.some.inj (hd.symm.trans hcase')
  cases hcredit with
  | unchanged _ _ hverified => exact absurd (hverified.symm.trans hafter) hbefore
  | credited _ _ hverified _ _ huncounted =>
    obtain rfl := Option.some.inj (hverified.symm.trans hafter)
    exact huncounted

/-! ## Runs -/

/-- Over every run from `s`, amounts do not decrease, and once a step has counted a
payment, no later step counts it again. -/
structure CreditNeverForgotten
    (step : Store → Option (Caller × VerifyArgs) → Store → Prop) (s : Store) : Prop where
  amountsGrow : ∀ {calls s₁ calls' s₂}, Run step s calls s₁ → Run step s₁ calls' s₂ →
    AmountsGrow s₁ s₂
  countedOnce : ∀ {calls s₁ call s₂ calls' s₃ call' s₄ paymentId},
    Run step s calls s₁ → step s₁ call s₂ → Run step s₂ calls' s₃ → step s₃ call' s₄ →
    CountsPayment s₁ s₂ paymentId → ¬ CountsPayment s₃ s₄ paymentId

/-- Runs keep the invariant. -/
theorem run_recorded {calls : List (Option (Caller × VerifyArgs))}
    (hrun : Run (KeepingStep cfg) s calls s') (hstart : CreditRecorded s) : CreditRecorded s' :=
  hrun.invariant (fun _ _ _ h hstep => hstep.recorded h) hstart

/-- As long as no call credits a case that holds an amount already, credit is monotone and
no payment is counted twice. -/
theorem creditNeverForgotten (cfg : Config) (s : Store) (hstart : CreditRecorded s) :
    CreditNeverForgotten (KeepingStep cfg) s where
  amountsGrow hbefore hrun := by
    have hrecorded := run_recorded hbefore hstart
    exact hrun.relates AmountsGrow.refl (fun _ _ _ => AmountsGrow.trans)
      (fun _ _ _ h hstep => ⟨hstep.recorded h, hstep.amountsGrow h⟩) hrecorded
  countedOnce hbefore hfirst hrun hlast hcounts := by
    have hrecorded₁ := run_recorded hbefore hstart
    have hrecorded₂ := hfirst.recorded hrecorded₁
    obtain ⟨i, _, c', -, hcase', -, hverified, hamount⟩ := hcounts
    -- the payment is counted from the first of the two steps on
    have hstill := hrun.invariant
      (P := fun s => CreditRecorded s ∧ Counted s _)
      (fun _ _ _ h hstep => ⟨hstep.recorded h.1, hstep.counted h.1 h.2⟩)
      ⟨hrecorded₂, i, c', hcase', hverified, hamount⟩
    intro hagain
    exact hlast.counts_uncounted hstill.1 hagain hstill.2

/-- In a store without credits, the invariant holds. -/
theorem CreditRecorded.of_uncredited
    (h : ∀ i c, s.cases.get? i = some c → c.amountRecovered = 0) : CreditRecorded s :=
  fun i c hcase hamount => absurd (h i c hcase) hamount.ne'

theorem creditNeverForgotten_abandonedCart :
    CreditNeverForgotten (KeepingStep defaultConfig) abandonedCartStore := by
  refine creditNeverForgotten _ _ (.of_uncredited fun i c hcase => ?_)
  match i, hcase with
  | 0, hcase => cases hcase; rfl

/-! ### Two partial captures of one order -/

/-- A case of ₹1000 whose order received two captures, of ₹600 and of ₹400. -/
def partialCapturesStore : Store where
  merchants := ⟨[{}]⟩
  customers := ⟨[{ merchantId := 0 }]⟩
  payments := ⟨[
    { merchantId := 0, customerId := 0, providerOrderId := some "order_1", amount := 100000
      status := .failed },
    { merchantId := 0, customerId := 0, providerOrderId := some "order_1", amount := 60000
      status := .captured, capturedAt := some 0 },
    { merchantId := 0, customerId := 0, providerOrderId := some "order_1", amount := 40000
      status := .captured, capturedAt := some 0 }]⟩
  cases := ⟨[sampleCase 0 100000 .detected]⟩

/-- The store after a call for the case `0` and the given payment. -/
def afterCapture (s : Store) (paymentId : ℕ) : Store :=
  ((verifyTransaction defaultConfig Failure.commits { now := 0 }
    { caseId := 0, paymentId := some paymentId }).run s).2

/-- The second capture replaces the credit of the first one, and the amount decreases. -/
theorem partialCaptures_not_creditNeverForgotten :
    ¬ CreditNeverForgotten (VerificationStep defaultConfig) partialCapturesStore := by
  intro hkept
  have hfirst : ((afterCapture partialCapturesStore 1).cases.get? 0).map
      (·.amountRecovered) = some 60000 := by decide +kernel
  have hsecond : ((afterCapture (afterCapture partialCapturesStore 1) 2).cases.get? 0).map
      (·.amountRecovered) = some 40000 := by decide +kernel
  have hcapture : ∀ s paymentId, Run (VerificationStep defaultConfig) s
      [some ({ now := 0 }, { caseId := 0, paymentId := some paymentId })]
      (afterCapture s paymentId) :=
    fun _ _ => .single (.verify Failure.commits _ _)
  have hgrow := hkept.amountsGrow (hcapture partialCapturesStore 1)
    (hcapture (afterCapture partialCapturesStore 1) 2)
  obtain ⟨c, hc, hamount⟩ := Option.map_eq_some_iff.mp hfirst
  obtain ⟨c', hc', hle⟩ := hgrow 0 c hc
  rw [hc', Option.map_some, Option.some.injEq] at hsecond
  rw [hamount, hsecond] at hle
  exact absurd hle (by decide)

end ReviveX
