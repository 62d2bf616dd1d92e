import ReviveX.Domain.CreditTheorems

/-!
# Soundness of a credit

- `creditSound_iff`: the payment a call credits satisfies every rule of a recovery, unless
  the case has no payment of its own and nothing ties the payment to it;
- `verificationAgrees_iff`: the result a call returns describes the persisted case, unless a
  match meets a case that cannot be driven to `VERIFYING` or that is recovered already.
-/

namespace ReviveX

open Lib (Decimal Json Session Table)

variable {cfg : Config} {caller : Caller} {s : Store} {args : VerifyArgs}

/-! ## What a credit stands for -/

/-- The payment is the case's own, shares its order, or was created by one of its actions. -/
def TiedToCase (s : Store) (caseId : ℕ) (c : RecoveryCase) (paymentId : ℕ) (p : Payment) :
    Prop :=
  c.paymentId = some paymentId ∨
    (∃ own order, s.casePayment c = some own ∧ own.providerOrderId = some order ∧
      p.providerOrderId = some order) ∨
    linkedViaAction s caseId paymentId p = true

/-- Everything a payment has to satisfy to be recovery revenue of a case. -/
structure IsRecoveryOf (settings : RecoverySettings) (s : Store) (caseId : ℕ)
    (c : RecoveryCase) (paymentId : ℕ) (p : Payment) : Prop where
  merchantId : p.merchantId = c.merchantId
  customerId : p.customerId = c.customerId
  currency : p.currency = c.currency
  captured : p.status = .captured
  insideWindow : ∃ capturedAt, p.capturedAt = some capturedAt ∧
    c.openedAt - settings.recoveryOrderingGraceMinutes * 60000000 ≤ capturedAt ∧
    capturedAt ≤ c.openedAt + settings.recoveryWindowHours * hour
  positive : 0 < p.amount
  tied : TiedToCase s caseId c paymentId p

/-- From `s` to `s'`, the recovered amount of a case changed only on account of a payment
that is a recovery of the case, to the smaller of the captured amount and the amount at
risk. -/
def CreditSound (settings : RecoverySettings) (args : VerifyArgs) (s s' : Store) : Prop :=
  ∀ caseId c c', s.cases.get? caseId = some c → s'.cases.get? caseId = some c' →
    c'.amountRecovered ≤ c'.amountAtRisk ∧
    (c'.amountRecovered ≠ c.amountRecovered →
      caseId = args.caseId ∧ ∃ paymentId p,
        resolvePayment s c args.paymentId = some (paymentId, p) ∧
        IsRecoveryOf settings s caseId c paymentId p ∧
        c'.amountRecovered = min p.amount c.amountAtRisk)

/-- The call changes the recovered amount of a case without a payment of its own, on
account of a payment that no action of the case created. -/
def CreditsUntied (cfg : Config) (caller : Caller) (s : Store) (args : VerifyArgs) : Prop :=
  ∃ c paymentId p, s.cases.get? args.caseId = some c ∧
    creditedPayment cfg caller s args s.listThatCountedPayment c = some (paymentId, p) ∧
    min p.amount c.amountAtRisk ≠ c.amountRecovered ∧
    c.paymentId = none ∧ linkedViaAction s args.caseId paymentId p = false

/-- A payment that passes every guard is a recovery, as soon as it is tied to the case. -/
theorem PassesGuards.isRecoveryOf {settings : RecoverySettings} {caseId paymentId : ℕ}
    {c : RecoveryCase} {p : Payment} (h : PassesGuards settings s caseId c paymentId p)
    (htied : TiedToCase s caseId c paymentId p) :
    IsRecoveryOf settings s caseId c paymentId p := by
  obtain ⟨capturedAt, hcapturedAt, hwindow⟩ := h.insideWindow
  unfold ReviveX.insideWindow at hwindow
  exact ⟨h.merchantId, h.customerId, h.currency, h.captured,
    ⟨capturedAt, hcapturedAt, by simpa using hwindow⟩, h.positive, htied⟩

/-- Two orders that agree are one shared order. -/
theorem tied_of_bothOrders {caseId paymentId : ℕ} {c : RecoveryCase} {p : Payment}
    {o : String × String} (h : bothOrders s c p = some o) (hsame : o.1 = o.2) :
    TiedToCase s caseId c paymentId p := by
  unfold bothOrders at h
  simp only [Option.bind_eq_bind, Option.bind_eq_some_iff, Option.pure_def,
    Option.some.injEq] at h
  obtain ⟨own, ⟨q, hq, hown⟩, other, hother, rfl⟩ := h
  obtain rfl : own = other := hsame
  refine .inr (.inl ⟨q, own, hq, ?_, ?_⟩)
  · exact (Option.filter_eq_some_iff.mp hown).1
  · exact (Option.filter_eq_some_iff.mp hother).1

/-- A payment that passes every guard is tied to a case that has a payment of its own. -/
theorem PassesGuards.tiedToCase {settings : RecoverySettings} {caseId paymentId : ℕ}
    {c : RecoveryCase} {p : Payment} (h : PassesGuards settings s caseId c paymentId p)
    (hpayment : c.paymentId ≠ none ∨ linkedViaAction s caseId paymentId p = true) :
    TiedToCase s caseId c paymentId p := by
  rcases h.tied with hnone | hown | horders | hlinked
  · exact .inr (.inr (hpayment.resolve_left (not_not_intro hnone)))
  · exact .inl hown
  · obtain ⟨o, ho⟩ := Option.isSome_iff_exists.mp horders
    exact tied_of_bothOrders ho (h.sameOrder o ho)
  · exact .inr (.inr hlinked)

/-- Without a payment of its own, only an action ties a payment to a case. -/
theorem linked_of_tied {caseId paymentId : ℕ} {c : RecoveryCase} {p : Payment}
    (htied : TiedToCase s caseId c paymentId p) (hpayment : c.paymentId = none) :
    linkedViaAction s caseId paymentId p = true := by
  rcases htied with hown | ⟨own, order, hcase, -, -⟩ | hlinked
  · rw [hpayment] at hown
    cases hown
  · unfold Store.casePayment at hcase
    rw [hpayment] at hcase
    cases hcase
  · exact hlinked

/-- `verify_case` credits soundly exactly when it does not credit an untied payment to a
case without a payment of its own. -/
theorem creditSound_iff (cfg : Config) (caller : Caller) (s : Store) (args : VerifyArgs) :
    CreditSound cfg.settings args s ((verifyCase cfg caller args).run s).2 ↔
      ¬ CreditsUntied cfg caller s args := by
  constructor
  · rintro hsound ⟨c, paymentId, p, hcase, hcredited, hamount, hpayment, hlinked⟩
    obtain ⟨c', hafter, hrow⟩ := verifyCase_row cfg caller hcase
    have hchange : c'.amountRecovered ≠ c.amountRecovered := by
      rwa [(hrow.credited hcredited).1]
    obtain ⟨-, paymentId', p', hresolved, hrecovery, -⟩ :=
      (hsound args.caseId c c' hcase hafter).2 hchange
    have hconsiders := (creditedPayment_eq_some.mp hcredited).2.1
    obtain ⟨rfl, rfl⟩ : paymentId' = paymentId ∧ p' = p := by
      simpa using hresolved.symm.trans hconsiders.resolved
    have := linked_of_tied hrecovery.tied hpayment
    rw [hlinked] at this
    cases this
  · intro hfree caseId c c' hcase hafter
    refine ⟨c'.recovered_le_at_risk, fun hchange => ?_⟩
    by_cases hid : caseId = args.caseId
    · subst hid
      obtain ⟨c'', hafter', hrow⟩ := verifyCase_row cfg caller hcase
      obtain rfl : c'' = c' := Option.some.inj (hafter'.symm.trans hafter)
      cases hcredited :
          creditedPayment cfg caller s args s.listThatCountedPayment c with
      | none => exact absurd (hrow.uncredited hcredited).1 hchange
      | some resolved =>
        obtain ⟨paymentId, p⟩ := resolved
        obtain ⟨hstatus, hconsiders, hmatch, -, -⟩ := creditedPayment_eq_some.mp hcredited
        have hguards := PassesGuards.of_evaluate hmatch
        have hamount := (hrow.credited hcredited).1
        refine ⟨rfl, paymentId, p, hconsiders.resolved, hguards.isRecoveryOf ?_, hamount⟩
        refine hguards.tiedToCase ?_
        by_contra huntied
        push Not at huntied
        exact hfree ⟨c, paymentId, p, hcase, hcredited, by rwa [← hamount], huntied.1,
          by simpa using huntied.2⟩
    · have hframe := keeps_verifyCase cfg caller args (ProcessFrame.processorFrame _) s
      rw [hframe.others caseId hid, hcase] at hafter
      cases hafter
      exact absurd rfl hchange

/-! ### A cart case credited with an unrelated payment -/

/-- Text conversions that agree with Python's on whole numbers. -/
def wholeNumberText : PyText where
  str
    | .str text => text
    | .int n => toString n
    | .bool b => if b then "True" else "False"
    | _ => "None"
  int text := text.toInt?
  decimal text := text.toInt?.map fun n => .finite n
  isoformat _ := "1970-01-01T01:00:00+00:00"
  fromisoformat _ := none

/-- The default configuration. -/
def defaultConfig : Config where
  py := wholeNumberText

/-- An abandoned cart of ₹1000, and a payment of ₹1500 that its customer made, within the
window, for something else. -/
def abandonedCartStore : Store where
  merchants := ⟨[{}]⟩
  customers := ⟨[{ merchantId := 0 }]⟩
  carts := ⟨[{ merchantId := 0, customerId := 0, status := .abandoned, total := 100000 }]⟩
  payments := ⟨[
    { merchantId := 0, customerId := 0, providerPaymentId := some "pay_other"
      amount := 150000, status := .captured, capturedAt := some 0 }]⟩
  cases := ⟨[
    { merchantId := 0, customerId := 0, cartId := some 0, caseType := .abandonedCheckout
      amountAtRisk := 100000, openedAt := 0 }]⟩

/-- The cart case is credited in full, although nothing ties the payment to it. -/
theorem abandonedCart_not_creditSound :
    ¬ CreditSound defaultConfig.settings { caseId := 0, paymentId := some 0 } abandonedCartStore
      ((verifyCase defaultConfig { now := 0 } { caseId := 0, paymentId := some 0 }).run
        abandonedCartStore).2 := by
  intro hsound
  have hafter : (((verifyCase defaultConfig { now := 0 }
      { caseId := 0, paymentId := some 0 }).run abandonedCartStore).2.cases.get? 0).map
      (·.amountRecovered) = some 100000 := by decide +kernel
  obtain ⟨c', hc', hamount⟩ := Option.map_eq_some_iff.mp hafter
  obtain ⟨-, paymentId, p, hresolved, hrecovery, -⟩ :=
    (hsound 0 _ c' rfl hc').2 (by rw [hamount]; decide)
  obtain ⟨rfl, rfl⟩ := Prod.mk.inj (Option.some.inj hresolved)
  have hlinked := linked_of_tied hrecovery.tied rfl
  exact absurd hlinked (by decide)

/-! ## What a result stands for -/

/-- The result `r` of a call that returned describes the row `c'` it left. -/
structure ResultAgrees (c c' : RecoveryCase) (r : RecoveryMatchResult) : Prop where
  matched : r.matched = true → c'.status = .recovered ∧
    c'.amountRecovered = r.amountRecovered ∧ c'.verifiedPaymentId = r.paymentId
  unmatched : r.matched = false → (c'.status = .recovered → c.status = .recovered) ∧
    (r.amountRecovered = c'.amountRecovered ∨
      r.mismatchReason.isSome ∧ r.amountRecovered = 0 ∧
        c'.amountRecovered = c.amountRecovered)

/-- The call reports a match that it does not credit: the case cannot be driven to
`VERIFYING`, or it is recovered by another payment already. -/
def ReportsUncreditedMatch (cfg : Config) (caller : Caller) (s : Store) (args : VerifyArgs)
    (c : RecoveryCase) : Prop :=
  ∃ paymentId p, Considers s args s.listThatCountedPayment c paymentId p ∧
    (c.status = .recovered ∨
      evaluateMismatch cfg.settings s args.caseId c paymentId p = none ∧
      c.amountAtRisk ≤ p.amount ∧
      processingRaises cfg s args.caseId c caller.now = none ∧
      reachesVerifying cfg s args.caseId c caller.now = false)

/-- A result that the guard returns. -/
theorem duplicate_result {caseId paymentId : ℕ} {c : RecoveryCase} {webhookEventId : Option ℕ}
    {counted : List ℕ} {r : RecoveryMatchResult}
    (h : duplicateOrAlreadyCounted caseId c paymentId webhookEventId counted = some r) :
    r.matched = false ∧ r.amountRecovered = c.amountRecovered := by
  unfold duplicateOrAlreadyCounted at h
  repeat' split at h
  all_goals
    cases h
    try exact ⟨rfl, rfl⟩

/-- What `_evaluate` reports for a payment that passes every guard. -/
theorem evaluate_credit {settings : RecoverySettings} {caseId paymentId : ℕ} {c : RecoveryCase}
    {p : Payment} (hmatch : evaluateMismatch settings s caseId c paymentId p = none) :
    (evaluate settings s caseId c paymentId p).amountRecovered = min p.amount c.amountAtRisk ∧
      (evaluate settings s caseId c paymentId p).paymentId = some paymentId := by
  rw [evaluate_of_match hmatch]
  refine ⟨?_, rfl⟩
  by_cases hfull : c.amountAtRisk ≤ p.amount
  · simp [creditResult, hfull]
  · simp [creditResult, hfull, (Nat.not_le.mp hfull).le]

/-- A result whose payment does not match. -/
theorem evaluate_mismatch_result {settings : RecoverySettings} {caseId paymentId : ℕ}
    {c : RecoveryCase} {p : Payment}
    (hmatch : evaluateMismatch settings s caseId c paymentId p ≠ none) :
    (evaluate settings s caseId c paymentId p).mismatchReason.isSome ∧
      (evaluate settings s caseId c paymentId p).amountRecovered = 0 := by
  obtain ⟨⟨reason, detail⟩, h⟩ := Option.ne_none_iff_exists'.mp hmatch
  rw [evaluate_of_mismatch h]
  exact ⟨rfl, rfl⟩

/-- A credited payment leaves a row that its result describes. -/
theorem CreditedRow.resultAgrees {c c' : RecoveryCase} {paymentId : ℕ} {p : Payment}
    (hrow : CreditedRow cfg caller s args s.listThatCountedPayment c c')
    (hcredited : creditedPayment cfg caller s args s.listThatCountedPayment c =
      some (paymentId, p)) :
    ResultAgrees c c' (evaluate cfg.settings s args.caseId c paymentId p) := by
  obtain ⟨hstatus, -, hmatch, -, -⟩ := creditedPayment_eq_some.mp hcredited
  obtain ⟨hamount, hverified, hend⟩ := hrow.credited hcredited
  obtain ⟨hreported, hpayment⟩ := evaluate_credit hmatch
  refine ⟨fun h => ⟨hend.mpr (evaluate_matched.mp h).2, ?_, ?_⟩,
    fun h => ⟨fun hrecovered => ?_, .inl ?_⟩⟩
  · rw [hamount, hreported]
  · rw [hverified, hpayment]
  · have := evaluate_matched.mpr ⟨hmatch, hend.mp hrecovered⟩
    rw [h] at this
    cases this
  · rw [hamount, hreported]

/-- A call that reports no uncredited match returns a result that describes its row. -/
theorem VerifyOutcome.resultAgrees {c c' : RecoveryCase} {r : RecoveryMatchResult}
    (h : VerifyOutcome cfg caller s args s.listThatCountedPayment c (.ok r) c')
    (hreports : ¬ ReportsUncreditedMatch cfg caller s args c) : ResultAgrees c c' r := by
  have hrow := h.row
  generalize hr : (Except.ok r : Except Failure RecoveryMatchResult) = result at h
  cases h with
  | stopped hstatus =>
    cases hr
    exact ⟨nofun, fun _ => ⟨id, .inl rfl⟩⟩
  | missing hstatus hpayment =>
    cases hr
    obtain ⟨hamount, -, hend⟩ := hrow.uncredited <| creditedPayment_eq_none fun _ _ h =>
      absurd (h.resolved.symm.trans hpayment) (Option.some_ne_none _)
    exact ⟨nofun, fun _ => ⟨hend.mp, .inr ⟨rfl, rfl, hamount⟩⟩⟩
  | duplicate hstatus hpayment hguard =>
    cases hr
    obtain ⟨hmatched, hamount⟩ := duplicate_result hguard
    exact ⟨fun h => absurd (h.symm.trans hmatched) (by decide), fun _ => ⟨id, .inl hamount⟩⟩
  | alreadyRecovered hconsiders hstatus =>
    exact absurd ⟨_, _, hconsiders, .inl hstatus⟩ hreports
  | raised => cases hr
  | dropped hconsiders hstatus hraises hmatched hreaches hlifecycle hend =>
    obtain ⟨hmatch, hfull⟩ := evaluate_matched.mp hmatched
    exact absurd ⟨_, _, hconsiders, .inr ⟨hmatch, hfull, hraises, hreaches⟩⟩ hreports
  | recovered hconsiders hstatus hraises hmatched hreaches hlifecycle =>
    cases hr
    exact hrow.resultAgrees <| creditedPayment_eq_some.mpr
      ⟨hstatus, hconsiders, (evaluate_matched.mp hmatched).1, hraises, .inr hreaches⟩
  | @failed paymentId p c₁ hconsiders hstatus hraises hmatched hlifecycle hend hverifying =>
    cases hr
    -- a failure is a payment that does not match, or a partial one
    by_cases hmatch : evaluateMismatch cfg.settings s args.caseId c paymentId p = none
    · refine hrow.resultAgrees <| creditedPayment_eq_some.mpr
        ⟨hstatus, hconsiders, hmatch, hraises, .inl ?_⟩
      by_contra hfull
      have := evaluate_matched.mpr ⟨hmatch, Nat.not_lt.mp hfull⟩
      rw [hmatched] at this
      cases this
    · have hnone : creditedPayment cfg caller s args s.listThatCountedPayment c = none := by
        refine creditedPayment_eq_none fun _ _ h => .inr (.inl ?_)
        obtain ⟨rfl, rfl⟩ := hconsiders.unique h
        exact hmatch
      obtain ⟨hamount, -, hrecovered⟩ := hrow.uncredited hnone
      obtain ⟨hreason, hzero⟩ := evaluate_mismatch_result hmatch
      exact ⟨fun h => absurd (h.symm.trans hmatched) (by decide),
        fun _ => ⟨hrecovered.mp, .inr ⟨hreason, hzero, hamount⟩⟩⟩

/-- A call that reports an uncredited match returns, and its result does not describe the
row. -/
theorem VerifyOutcome.not_resultAgrees {c c' : RecoveryCase}
    {result : Except Failure RecoveryMatchResult}
    (h : VerifyOutcome cfg caller s args s.listThatCountedPayment c result c')
    (hreports : ReportsUncreditedMatch cfg caller s args c) :
    ∃ r, result = .ok r ∧ ¬ ResultAgrees c c' r := by
  obtain ⟨paymentId, p, hconsiders, hreason⟩ := hreports
  cases h with
  | stopped hstatus => exact absurd hstatus hconsiders.notStopped
  | missing hstatus hpayment =>
    exact absurd (hconsiders.resolved.symm.trans hpayment) (Option.some_ne_none _)
  | @duplicate paymentId' p' result hstatus hpayment hguard =>
    obtain ⟨rfl, rfl⟩ : paymentId = paymentId' ∧ p = p' := by
      simpa using hconsiders.resolved.symm.trans hpayment
    exact absurd (hconsiders.passesGuard.symm.trans hguard) (Option.some_ne_none _).symm
  | @alreadyRecovered paymentId' p' hconsiders' hstatus =>
    refine ⟨_, rfl, fun hagrees => ?_⟩
    exact (passesGuard_iff.mp hconsiders'.passesGuard).2.1 (hagrees.matched rfl).2.2
  | raised hconsiders' hstatus hraises hlifecycle hend =>
    obtain ⟨-, -, hnot, -⟩ := hreason.resolve_left hstatus
    exact absurd (hraises.symm.trans hnot) (Option.some_ne_none _)
  | dropped hconsiders' hstatus hraises hmatched hreaches hlifecycle hend =>
    exact ⟨_, rfl, fun hagrees => hend (hagrees.matched hmatched).1⟩
  | recovered hconsiders' hstatus hraises hmatched hreaches hlifecycle =>
    obtain ⟨-, -, -, hnot⟩ := hreason.resolve_left hstatus
    exact absurd (hreaches.symm.trans hnot) (by decide)
  | failed hconsiders' hstatus hraises hmatched hlifecycle hend hverifying =>
    obtain ⟨hmatch, hfull, -, -⟩ := hreason.resolve_left hstatus
    obtain ⟨rfl, rfl⟩ := hconsiders.unique hconsiders'
    exact absurd (hmatched.symm.trans (evaluate_matched.mpr ⟨hmatch, hfull⟩)) (by decide)

/-- When `verify_case` returns on a case that is not stopped, its result describes the
persisted row. -/
def VerificationAgrees (cfg : Config) (caller : Caller) (s : Store) (args : VerifyArgs) : Prop :=
  ∀ c r s', s.cases.get? args.caseId = some c → c.status ≠ .stopped →
    (verifyCase cfg caller args).run s = (.ok r, s') →
    ∃ c', s'.cases.get? args.caseId = some c' ∧ ResultAgrees c c' r

/-- The result of `verify_case` describes the persisted case exactly when the call does
not report a match that it leaves uncredited. -/
theorem verificationAgrees_iff (cfg : Config) (caller : Caller) (s : Store)
    (args : VerifyArgs) :
    VerificationAgrees cfg caller s args ↔
      ∀ c, s.cases.get? args.caseId = some c →
        ¬ ReportsUncreditedMatch cfg caller s args c := by
  constructor
  · intro hagrees c hcase hreports
    obtain ⟨c', hafter, houtcome⟩ := verifyCase_outcome cfg caller args hcase
    obtain ⟨r, hr, hnot⟩ := houtcome.not_resultAgrees hreports
    obtain ⟨_, _, hconsiders, -⟩ := hreports
    obtain ⟨c'', hafter', hresult⟩ :=
      hagrees c r _ hcase hconsiders.notStopped (Prod.ext hr rfl)
    obtain rfl : c'' = c' := Option.some.inj (hafter'.symm.trans hafter)
    exact hnot hresult
  · intro hfree c r s' hcase _ hrun
    obtain ⟨c', hafter, houtcome⟩ := verifyCase_outcome cfg caller args hcase
    rw [hrun] at hafter houtcome
    exact ⟨c', hafter, houtcome.resultAgrees (hfree c hcase)⟩

/-! ### A match on a case that waits for approval -/

/-- A captured payment of ₹60000, above the high approval threshold, and its untouched
case. -/
def highValueStore : Store where
  merchants := ⟨[{}]⟩
  customers := ⟨[{ merchantId := 0 }]⟩
  payments := ⟨[
    { merchantId := 0, customerId := 0, amount := 6000000, status := .captured
      capturedAt := some 0 }]⟩
  cases := ⟨[
    { merchantId := 0, customerId := 0, paymentId := some 0, caseType := .failedPayment
      amountAtRisk := 6000000, openedAt := 0 }]⟩

/-- The case is parked for approval: nothing is credited, the result says it matched. -/
theorem highValue_not_verificationAgrees :
    ¬ VerificationAgrees defaultConfig { now := 0 } highValueStore { caseId := 0 } := by
  intro hagrees
  have hrun : (match ((verifyCase defaultConfig { now := 0 } { caseId := 0 }).run
      highValueStore).1 with
      | .ok r => r.matched
      | .error _ => false) = true := by decide +kernel
  have hafter : (((verifyCase defaultConfig { now := 0 } { caseId := 0 }).run
      highValueStore).2.cases.get? 0).map (·.status) = some .awaitingApproval := by
    decide +kernel
  split at hrun
  · rename_i r hr
    obtain ⟨c', hc', hresult⟩ := hagrees _ r _ rfl (by decide) (Prod.ext hr rfl)
    change _ = some c' at hc'
    rw [hc'] at hafter
    have := (hresult.matched hrun).1
    simp [this] at hafter
  · cases hrun

end ReviveX
