import ReviveX.Domain.CreditSoundness

/-!
# The recovery window of a merchant

`RecoveryVerificationService` is given the settings of the environment and never merges the
merchant's own into them, which the policy context does. A capture is therefore judged by the
window of the environment. That is the merchant's window exactly for the captures that both put
on the same side.
-/

namespace ReviveX

open Lib (Session Table)

variable {cfg : Config} {caller : Caller} {s : Store} {args : VerifyArgs} {c : RecoveryCase}
  {paymentId : ℕ} {p : Payment} {capturedAt : Time}

/-! ## Guards -/

/-- What the evaluation asks of a payment besides the window. -/
structure MatchesButWindow (s : Store) (caseId : ℕ) (c : RecoveryCase) (paymentId : ℕ)
    (p : Payment) : Prop where
  merchantId : p.merchantId = c.merchantId
  customerId : p.customerId = c.customerId
  sameOrder : ∀ o, bothOrders s c p = some o → o.1 = o.2
  tied : c.paymentId = none ∨ c.paymentId = some paymentId ∨ (bothOrders s c p).isSome ∨
    linkedViaAction s caseId paymentId p = true
  currency : p.currency = c.currency
  captured : p.status = .captured
  positive : 0 < p.amount

/-- The evaluation accepts a payment by these guards and the window. -/
theorem evaluateMismatch_eq_none_iff {settings : RecoverySettings} {caseId : ℕ} :
    evaluateMismatch settings s caseId c paymentId p = none ↔
      MatchesButWindow s caseId c paymentId p ∧ ∃ capturedAt, p.capturedAt = some capturedAt ∧
        insideWindow settings c capturedAt = true := by
  constructor
  · intro h
    have hguards := PassesGuards.of_evaluate h
    exact ⟨⟨hguards.merchantId, hguards.customerId, hguards.sameOrder, hguards.tied,
      hguards.currency, hguards.captured, hguards.positive⟩, hguards.insideWindow⟩
  · rintro ⟨h, capturedAt, hcaptured, hwindow⟩
    have horders : ¬ ((bothOrders s c p).any fun o => o.1 != o.2) = true := by
      cases ho : bothOrders s c p with
      | none => simp
      | some o => simp [h.sameOrder o ho]
    have htied : ¬ (c.paymentId.isSome ∧ c.paymentId ≠ some paymentId ∧
        ¬ ((bothOrders s c p).isSome ∨ linkedViaAction s caseId paymentId p)) := by
      rintro ⟨hown, hother, hloose⟩
      rcases h.tied with hnone | hsame | hlinked
      · rw [hnone] at hown
        cases hown
      · exact hother hsame
      · exact hloose hlinked
    unfold evaluateMismatch
    rw [if_neg (not_not_intro h.merchantId), if_neg (not_not_intro h.customerId),
      if_neg horders, if_neg htied, if_neg (not_not_intro h.currency),
      if_neg (not_not_intro h.captured), hcaptured]
    dsimp only
    rw [hwindow, if_neg (by simp), if_neg h.positive.ne']

/-! ## The window that is enforced -/

/-- The call would credit the payment, captured at this time, but for the window. -/
structure OtherwiseMatching (cfg : Config) (caller : Caller) (s : Store) (args : VerifyArgs)
    (c : RecoveryCase) (paymentId : ℕ) (p : Payment) (capturedAt : Time) : Prop where
  case : s.cases.get? args.caseId = some c
  considers : Considers s args s.listThatCountedPayment c paymentId p
  notRecovered : c.status ≠ .recovered
  processed : processingRaises cfg s args.caseId c caller.now = none
  verifying : p.amount < c.amountAtRisk ∨ reachesVerifying cfg s args.caseId c caller.now = true
  matching : MatchesButWindow s args.caseId c paymentId p
  capturedAt : p.capturedAt = some capturedAt

/-- The case is credited with a payment. -/
def Store.CreditedWith (s : Store) (caseId paymentId : ℕ) (amount : Money) : Prop :=
  ∃ c, s.cases.get? caseId = some c ∧ c.verifiedPaymentId = some paymentId ∧
    c.amountRecovered = min amount c.amountAtRisk

/-- The settings of the environment, with those of the case's merchant merged in. -/
def MergedFor (cfg : Config) (s : Store) (c : RecoveryCase) (merged : RecoverySettings) : Prop :=
  ∃ m, s.merchants.get? c.merchantId = some m ∧
    cfg.settings.mergeMerchant cfg.py m.settings = .ok merged

/-- `verify_case` credits an otherwise matching capture exactly when it is inside the window of
the merged settings. -/
def WindowEnforced (cfg : Config) (caller : Caller) (s : Store) (args : VerifyArgs) : Prop :=
  ∀ c merged paymentId p capturedAt, MergedFor cfg s c merged →
    OtherwiseMatching cfg caller s args c paymentId p capturedAt →
    (((verifyCase cfg caller args).run s).2.CreditedWith args.caseId paymentId p.amount ↔
      insideWindow merged c capturedAt = true)

/-- The window of the environment decides. -/
theorem OtherwiseMatching.credited_iff
    (h : OtherwiseMatching cfg caller s args c paymentId p capturedAt) :
    ((verifyCase cfg caller args).run s).2.CreditedWith args.caseId paymentId p.amount ↔
      insideWindow cfg.settings c capturedAt = true := by
  obtain ⟨c', hafter, hrow⟩ := verifyCase_row cfg caller h.case
  constructor
  · rintro ⟨c'', hafter', hverified, -⟩
    obtain rfl := Option.some.inj (hafter.symm.trans hafter')
    cases hcredited : creditedPayment cfg caller s args s.listThatCountedPayment c with
    | none =>
      -- the guard has ruled out that the case was credited with the payment before
      have hbefore := (hrow.uncredited hcredited).2.1
      rw [hverified] at hbefore
      exact absurd hbefore.symm (passesGuard_iff.mp h.considers.passesGuard).2.1
    | some resolved =>
      obtain ⟨-, hconsiders, hmatch, -⟩ := creditedPayment_eq_some.mp hcredited
      obtain ⟨hid, hpayment⟩ := h.considers.unique hconsiders
      rw [hid, hpayment] at hmatch
      obtain ⟨-, captured, hcaptured, hwindow⟩ := evaluateMismatch_eq_none_iff.mp hmatch
      obtain rfl := Option.some.inj (h.capturedAt.symm.trans hcaptured)
      exact hwindow
  · intro hwindow
    have hmatch := evaluateMismatch_eq_none_iff.mpr ⟨h.matching, capturedAt, h.capturedAt, hwindow⟩
    have hcredited := creditedPayment_eq_some.mpr
      ⟨h.notRecovered, h.considers, hmatch, h.processed, h.verifying⟩
    obtain ⟨hamount, hverified, -⟩ := hrow.credited hcredited
    exact ⟨c', hafter, hverified, by rw [hamount, hrow.claim.amountAtRisk]⟩

/-- The merchant's window is enforced exactly where that of the environment agrees with it. -/
theorem windowEnforced_iff (cfg : Config) (caller : Caller) (s : Store) (args : VerifyArgs) :
    WindowEnforced cfg caller s args ↔
      ∀ c merged paymentId p capturedAt, MergedFor cfg s c merged →
        OtherwiseMatching cfg caller s args c paymentId p capturedAt →
        insideWindow cfg.settings c capturedAt = insideWindow merged c capturedAt := by
  constructor
  · intro henforced c merged paymentId p capturedAt hmerged hmatching
    have hiff := henforced c merged paymentId p capturedAt hmerged hmatching
    rw [hmatching.credited_iff] at hiff
    exact Bool.eq_iff_iff.mpr hiff
  · intro hagree c merged paymentId p capturedAt hmerged hmatching
    rw [hmatching.credited_iff, hagree c merged paymentId p capturedAt hmerged hmatching]

/-! ### A merchant with a window of one hour -/

/-- A case of ₹1000 that is being verified, of a merchant whose policy gives it one hour. Its
payment was captured after two. -/
def shortWindowStore : Store where
  merchants := ⟨[{ settings := [("policy", .obj [("recovery_window_hours", .int 1)])] }]⟩
  customers := ⟨[{ merchantId := 0 }]⟩
  payments := ⟨[
    { merchantId := 0, customerId := 0, amount := 100000, status := .captured
      capturedAt := some (2 * hour) }]⟩
  cases := ⟨[sampleCase 0 100000 .verifying]⟩

/-- The settings of that merchant. -/
def shortWindow : RecoverySettings := { recoveryWindowHours := 1 }

theorem shortWindow_merged :
    MergedFor defaultConfig shortWindowStore (sampleCase 0 100000 .verifying) shortWindow :=
  ⟨_, rfl, rfl⟩

/-- The capture is credited all the same. -/
theorem shortWindow_not_enforced :
    ¬ WindowEnforced defaultConfig { now := 3 * hour } shortWindowStore { caseId := 0 } := by
  intro henforced
  have hmatching : OtherwiseMatching defaultConfig { now := 3 * hour } shortWindowStore
      { caseId := 0 } (sampleCase 0 100000 .verifying) 0
      { merchantId := 0, customerId := 0, amount := 100000, status := .captured
        capturedAt := some (2 * hour) } (2 * hour) :=
    { case := rfl
      considers := ⟨by decide, rfl, by decide +kernel⟩
      notRecovered := by decide
      processed := by decide +kernel
      verifying := by decide +kernel
      matching := ⟨rfl, rfl, nofun, .inr (.inl rfl), rfl, rfl, by decide⟩
      capturedAt := rfl }
  have hcredited := (henforced _ shortWindow 0 _ _ shortWindow_merged hmatching).mp
    (hmatching.credited_iff.mpr (by decide +kernel))
  revert hcredited
  decide +kernel

end ReviveX
