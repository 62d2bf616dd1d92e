import ReviveX.Domain.VerificationTheorems

/-!
# The credit of a verification

What a call does to the recovered amount, to the verified payment and to the recovered
status of its case is decided by `creditedPayment`, which reads the store before the call
(`VerifyOutcome.row`, `verifyCase_row`).
-/

namespace ReviveX

open Lib (Session Table Decimal)

variable {cfg : Config} {caller : Caller} {s : Store} {args : VerifyArgs}
  {listThatCountedPayment : ℕ → ℕ → List ℕ} {c c' : RecoveryCase} {paymentId : ℕ} {p : Payment}

/-! ## The row after a call -/

theorem creditedPayment_eq_some :
    creditedPayment cfg caller s args listThatCountedPayment c = some (paymentId, p) ↔
      c.status ≠ .recovered ∧ Considers s args listThatCountedPayment c paymentId p ∧
      evaluateMismatch cfg.settings s args.caseId c paymentId p = none ∧
      processingRaises cfg s args.caseId c caller.now = none ∧
      (p.amount < c.amountAtRisk ∨ reachesVerifying cfg s args.caseId c caller.now = true) := by
  unfold creditedPayment
  constructor
  · intro h
    split at h
    · cases h
    rename_i hstatus
    simp only [Option.filter_eq_some_iff, Bool.and_eq_true, Option.isNone_iff_eq_none,
      Bool.or_eq_true, decide_eq_true_eq] at h
    obtain ⟨hresolved, ⟨⟨hguard, hmatch⟩, hraises⟩, hcredit⟩ := h
    exact ⟨mt .inr hstatus, ⟨mt .inl hstatus, hresolved, hguard⟩, hmatch, hraises, hcredit⟩
  · rintro ⟨hstatus, ⟨hstopped, hresolved, hguard⟩, hmatch, hraises, hcredit⟩
    rw [if_neg (by simp [hstopped, hstatus])]
    simp [Option.filter_eq_some_iff, hresolved, hguard, hmatch, hraises, hcredit]

/-- How `creditedPayment` decides the credit columns and the status of the row `c'`. -/
structure CreditedRow (cfg : Config) (caller : Caller) (s : Store) (args : VerifyArgs)
    (listThatCountedPayment : ℕ → ℕ → List ℕ) (c c' : RecoveryCase) : Prop where
  claim : c.SameClaim c'
  credited : ∀ {paymentId p},
    creditedPayment cfg caller s args listThatCountedPayment c = some (paymentId, p) →
      c'.amountRecovered = min p.amount c.amountAtRisk ∧
      c'.verifiedPaymentId = some paymentId ∧
      (c'.status = .recovered ↔ c.amountAtRisk ≤ p.amount)
  uncredited : creditedPayment cfg caller s args listThatCountedPayment c = none →
    c'.amountRecovered = c.amountRecovered ∧ c'.verifiedPaymentId = c.verifiedPaymentId ∧
    (c'.status = .recovered ↔ c.status = .recovered)

/-- A row that keeps the credit of a call that credits nothing. -/
private theorem CreditedRow.of_none (hclaim : c.SameClaim c')
    (hnone : creditedPayment cfg caller s args listThatCountedPayment c = none)
    (hamount : c'.amountRecovered = c.amountRecovered)
    (hverified : c'.verifiedPaymentId = c.verifiedPaymentId)
    (hstatus : c'.status = .recovered ↔ c.status = .recovered) :
    CreditedRow cfg caller s args listThatCountedPayment c c' :=
  ⟨hclaim, fun h => (Option.some_ne_none _ (h.symm.trans hnone)).elim,
    fun _ => ⟨hamount, hverified, hstatus⟩⟩

/-- Nothing but a considered payment is credited. -/
theorem creditedPayment_eq_none
    (h : ∀ paymentId p, Considers s args listThatCountedPayment c paymentId p →
      c.status = .recovered ∨
      evaluateMismatch cfg.settings s args.caseId c paymentId p ≠ none ∨
      processingRaises cfg s args.caseId c caller.now ≠ none ∨
      c.amountAtRisk ≤ p.amount ∧
        reachesVerifying cfg s args.caseId c caller.now = false) :
    creditedPayment cfg caller s args listThatCountedPayment c = none := by
  cases hcredited : creditedPayment cfg caller s args listThatCountedPayment c with
  | none => rfl
  | some resolved =>
    obtain ⟨paymentId, p⟩ := resolved
    obtain ⟨hstatus, hconsiders, hmatch, hraises, hcredit⟩ :=
      creditedPayment_eq_some.mp hcredited
    rcases h paymentId p hconsiders with hrecovered | hmismatch | hraised | ⟨hfull, hreaches⟩
    · exact absurd hrecovered hstatus
    · exact absurd hmatch hmismatch
    · exact absurd hraises hraised
    · rcases hcredit with hpartial | hverifying
      · exact absurd hfull (Nat.not_le.mpr hpartial)
      · rw [hreaches] at hverifying
        cases hverifying

/-- A call considers at most one payment. -/
theorem Considers.unique {paymentId' : ℕ} {p' : Payment}
    (h : Considers s args listThatCountedPayment c paymentId p)
    (h' : Considers s args listThatCountedPayment c paymentId' p') :
    paymentId' = paymentId ∧ p' = p := by
  have heq := h.resolved.symm.trans h'.resolved
  simp only [Option.some.injEq, Prod.mk.injEq] at heq
  exact ⟨heq.1.symm, heq.2.symm⟩

/-- What a call does to the credit of its case. -/
theorem VerifyOutcome.row {r : Except Failure RecoveryMatchResult}
    (h : VerifyOutcome cfg caller s args listThatCountedPayment c r c') :
    CreditedRow cfg caller s args listThatCountedPayment c c' := by
  cases h with
  -- the outcomes without credit leave the claim and the amount; the two with credit are full and
  -- partial
  | stopped hstatus =>
    refine .of_none (.refl c) (creditedPayment_eq_none fun _ _ h => ?_) rfl rfl Iff.rfl
    exact absurd hstatus h.notStopped
  | missing hstatus hpayment =>
    -- nothing matched, so there was no payment to credit
    obtain ⟨hamount, hverified⟩ := failureRow_not_partial caller.now args.webhookEventId c
      (show (missingPaymentResult args.caseId c).isPartial = false from rfl)
    refine .of_none (failureRow_sameClaim _ _ _ c)
      (creditedPayment_eq_none fun _ _ h => ?_) hamount hverified ?_
    · rw [h.resolved] at hpayment
      cases hpayment
    · rw [failureRow_status]
      split <;> simp_all
  | duplicate hstatus hpayment hguard =>
    refine .of_none ⟨rfl, rfl, rfl, rfl, rfl, rfl⟩
      (creditedPayment_eq_none fun _ _ h => ?_) rfl rfl Iff.rfl
    have hresolved := h.resolved
    have hpasses := h.passesGuard
    simp_all
  | alreadyRecovered hconsiders hstatus =>
    exact .of_none (.refl c) (creditedPayment_eq_none fun _ _ _ => .inl hstatus) rfl rfl Iff.rfl
  | raised hconsiders hstatus hraises hlifecycle hend =>
    refine .of_none (.of_lifecycleOnly hlifecycle)
      (creditedPayment_eq_none fun _ _ _ => ?_) hlifecycle.amountRecovered
      hlifecycle.verifiedPaymentId (by simp [hend, hstatus])
    simp [hraises]
  | dropped hconsiders hstatus hraises hmatched hreaches hlifecycle hend =>
    refine .of_none (.of_lifecycleOnly hlifecycle)
      (creditedPayment_eq_none fun _ _ h => ?_) hlifecycle.amountRecovered
      hlifecycle.verifiedPaymentId (by simp [hend, hstatus])
    obtain ⟨rfl, rfl⟩ := hconsiders.unique h
    exact .inr (.inr (.inr ⟨(evaluate_matched.mp hmatched).2, hreaches⟩))
  | @recovered paymentId p c₁ hconsiders hstatus hraises hmatched hreaches hlifecycle =>
    obtain ⟨hmatch, hfull⟩ := evaluate_matched.mp hmatched
    have hcredited := creditedPayment_eq_some.mpr
      ⟨hstatus, hconsiders, hmatch, hraises, .inr hreaches⟩
    have hamount : (evaluate cfg.settings s args.caseId c paymentId p).amountRecovered =
        min p.amount c.amountAtRisk := by
      rw [evaluate_of_match hmatch]
      simp [creditResult, hfull]
    refine ⟨.trans (.of_lifecycleOnly hlifecycle) ⟨rfl, rfl, rfl, rfl, rfl, rfl⟩,
      fun h => ?_, fun h => absurd (h.symm.trans hcredited) (by simp)⟩
    obtain ⟨rfl, rfl⟩ := hconsiders.unique (creditedPayment_eq_some.mp h).2.1
    refine ⟨?_, rfl, by simp [hfull]⟩
    change min _ c₁.amountAtRisk = _
    rw [hamount, hlifecycle.amountAtRisk]
    simp
  | @failed paymentId p c₁ hconsiders hstatus hraises hmatched hlifecycle hend hverifying =>
    have hclaim := RecoveryCase.SameClaim.trans (.of_lifecycleOnly hlifecycle)
      (failureRow_sameClaim caller.now (evaluate cfg.settings s args.caseId c paymentId p)
        args.webhookEventId c₁)
    have hopen : (failureRow caller.now (evaluate cfg.settings s args.caseId c paymentId p)
        args.webhookEventId c₁).status ≠ .recovered := by
      rw [failureRow_status]
      split
      · decide
      · exact hend
    cases hmatch : evaluateMismatch cfg.settings s args.caseId c paymentId p with
    | some mismatch =>
      have hpartial : (evaluate cfg.settings s args.caseId c paymentId p).isPartial = false := by
        rw [evaluate_of_mismatch hmatch]
        rfl
      obtain ⟨hamount, hverified⟩ :=
        failureRow_not_partial caller.now args.webhookEventId c₁ hpartial
      refine .of_none hclaim (creditedPayment_eq_none fun _ _ h => ?_)
        (hamount.trans hlifecycle.amountRecovered)
        (hverified.trans hlifecycle.verifiedPaymentId) (by simp [hopen, hstatus])
      obtain ⟨rfl, rfl⟩ := hconsiders.unique h
      exact .inr (.inl (by rw [hmatch]; exact Option.some_ne_none _))
    | none =>
      -- the payment matched and is not enough: the amount is added and the case stays open
      have hless : p.amount < c.amountAtRisk := by
        by_contra hfull
        have := evaluate_matched.mpr ⟨hmatch, Nat.not_lt.mp hfull⟩
        rw [hmatched] at this
        cases this
      have hpositive := (PassesGuards.of_evaluate hmatch).positive
      have heval := evaluate_of_match hmatch
      have hpartial : (evaluate cfg.settings s args.caseId c paymentId p).isPartial = true := by
        rw [heval]
        simp [creditResult, RecoveryMatchResult.isPartial, Nat.not_le.mpr hless, hpositive]
        omega
      have hcredited := creditedPayment_eq_some.mpr
        ⟨hstatus, hconsiders, hmatch, hraises, .inl hless⟩
      obtain ⟨hamount, hverified⟩ := failureRow_partial caller.now args.webhookEventId c₁
        hpartial (show _ = some paymentId by rw [heval]; rfl)
      refine ⟨hclaim, fun h => ?_, fun h => absurd (h.symm.trans hcredited) (by simp)⟩
      obtain ⟨rfl, rfl⟩ := hconsiders.unique (creditedPayment_eq_some.mp h).2.1
      refine ⟨?_, hverified, by simp [hopen, Nat.not_le.mpr hless]⟩
      rw [hamount, heval, hlifecycle.amountAtRisk]
      simp [creditResult, Nat.not_le.mpr hless]

/-- What a call of `verify_case` does to the credit of its case. -/
theorem verifyCase_row (cfg : Config) (caller : Caller) (h : s.cases.get? args.caseId = some c) :
    ∃ c', ((verifyCase cfg caller args).run s).2.cases.get? args.caseId = some c' ∧
      CreditedRow cfg caller s args s.listThatCountedPayment c c' := by
  obtain ⟨c', hafter, houtcome⟩ := verifyCase_outcome cfg caller args h
  exact ⟨c', hafter, houtcome.row⟩

/-! ## The guard -/

/-- A payment that passes the guard is counted neither on the case nor on another one. -/
theorem passesGuard_iff {caseId : ℕ} {webhookEventId : Option ℕ} {counted : List ℕ} :
    duplicateOrAlreadyCounted caseId c paymentId webhookEventId counted = none ↔
      ¬ (webhookEventId.isSome ∧ c.verifiedWebhookEventId = webhookEventId) ∧
      c.verifiedPaymentId ≠ some paymentId ∧ ∀ i ∈ counted, i = caseId := by
  unfold duplicateOrAlreadyCounted
  constructor
  · intro h
    split at h
    · cases h
    split at h
    · cases h
    split at h
    · cases h
    · refine ⟨‹_›, ‹_›, fun i hi => ?_⟩
      by_contra hne
      exact ‹¬ counted.any _ = true› (List.any_eq_true.mpr ⟨i, hi, by simpa using hne⟩)
  · rintro ⟨hwebhook, hverified, hcounted⟩
    rw [if_neg hwebhook, if_neg hverified, if_neg]
    simpa using hcounted

end ReviveX
