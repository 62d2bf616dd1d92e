import ReviveX.Domain.DenialTheorems

/-!
# Where the policy's conversions fail

A policy context needs every number in the merchant's settings to convert, and a verdict needs
the numbers it compares to be comparable. Both are exact: nothing else makes the policy raise.
-/

namespace ReviveX

open Lib (Decimal Json Yields)

variable {ctx : PolicyContext} {proposed : ProposedAction} {action : RecoveryActionType}

/-! ## Settings -/

/-- The keys of a policy section that `merge_merchant` reads as integers. -/
def integerKeys : List String :=
  ["recovery_window_hours", "recovery_ordering_grace_minutes", "max_retry_attempts",
    "max_communications_per_day", "quiet_hours_start", "quiet_hours_end", "approval_ttl_minutes"]

/-- The keys of a policy section that `merge_merchant` reads as decimals. -/
def decimalKeys : List String :=
  ["high_value_approval_threshold", "medium_value_approval_threshold", "max_discount_percent",
    "max_daily_discount_budget"]

/-- A value that is given under the key reads as an integer. -/
def ReadsInteger (py : PyText) (data : Payload) (key : String) : Prop :=
  ∀ raw, givenValue data key = some raw → (pyInt py raw).isSome = true

/-- A value that is given under the key reads as a decimal. -/
def ReadsDecimal (py : PyText) (data : Payload) (key : String) : Prop :=
  ∀ raw, givenValue data key = some raw → (py.decimal (py.str raw)).isSome = true

/-- Every number in the settings of a merchant converts. -/
def SettingsConvert (py : PyText) (settings : Payload) : Prop :=
  (∀ key ∈ integerKeys, ReadsInteger py (policySection settings) key) ∧
    ∀ key ∈ decimalKeys, ReadsDecimal py (policySection settings) key

theorem yields_intValue {py : PyText} {data : Payload} {key : String} {default : ℤ} :
    Yields (intValue py data key default) ↔ ReadsInteger py data key := by
  unfold intValue ReadsInteger
  cases hgiven : givenValue data key with
  | none => exact iff_of_true (.ok default) nofun
  | some raw => simp [Yields.elim_iff]

theorem yields_decimalValue {py : PyText} {data : Payload} {key : String} {default : Decimal} :
    Yields (decimalValue py data key default) ↔ ReadsDecimal py data key := by
  unfold decimalValue ReadsDecimal
  cases hgiven : givenValue data key with
  | none => exact iff_of_true (.ok default) nofun
  | some raw => simp [Yields.elim_iff]

/-- An empty section gives no value. -/
theorem givenValue_of_isEmpty {data : Payload} (h : data.isEmpty = true) (key : String) :
    givenValue data key = none := by
  obtain rfl := List.isEmpty_iff.mp h
  rfl

theorem yields_mergeMerchant {py : PyText} {base : RecoverySettings} {settings : Payload} :
    Yields (base.mergeMerchant py settings) ↔ SettingsConvert py settings := by
  unfold RecoverySettings.mergeMerchant
  dsimp only
  by_cases hempty : (policySection settings).isEmpty = true
  · rw [if_pos hempty]
    refine iff_of_true (.ok base) ⟨fun key _ raw hraw => ?_, fun key _ raw hraw => ?_⟩
    · rw [givenValue_of_isEmpty hempty] at hraw
      cases hraw
    · rw [givenValue_of_isEmpty hempty] at hraw
      cases hraw
  · rw [if_neg hempty]
    refine Iff.trans (Yields.bind_and yields_intValue fun _ =>
      Yields.bind_and yields_intValue fun _ => Yields.bind_and yields_decimalValue fun _ =>
      Yields.bind_and yields_decimalValue fun _ => Yields.bind_and yields_intValue fun _ =>
      Yields.bind_and yields_decimalValue fun _ => Yields.bind_and yields_decimalValue fun _ =>
      Yields.bind_and yields_intValue fun _ => Yields.bind_and yields_intValue fun _ =>
      Yields.bind_and yields_intValue fun _ => Yields.bind_of yields_intValue fun _ => .ok _) ?_
    unfold SettingsConvert integerKeys decimalKeys
    simp only [List.forall_mem_cons, List.not_mem_nil, false_implies, implies_true, and_true]
    tauto

theorem yields_buildPolicyContext {cfg : Config} {s : Store} {caseId : ℕ} {c : RecoveryCase}
    {now : Time} {merchant : Merchant} (h : s.merchants.get? c.merchantId = some merchant) :
    Yields (buildPolicyContext cfg s caseId c now) ↔ SettingsConvert cfg.py merchant.settings := by
  unfold buildPolicyContext
  rw [h]
  exact Yields.bind_of yields_mergeMerchant fun _ => .ok _

/-! ## Verdicts -/

/-- The thresholds that the amount of an automatic action is compared with are numbers. -/
def ThresholdsCompare (ctx : PolicyContext) (action : RecoveryActionType) : Prop :=
  action ≠ .escalate → action ≠ .doNothing →
    ctx.settings.highValueApprovalThreshold ≠ .nan ∧
      (ctx.case.amountAtRisk.toDecimal.gt? ctx.settings.highValueApprovalThreshold = some false →
        ctx.settings.mediumValueApprovalThreshold ≠ .nan)

/-- The percentage, its cap and the budget are numbers, and so is what would have been spent. -/
def DiscountCompares (ctx : PolicyContext) (proposed : ProposedAction) : Prop :=
  ∀ percent, proposed.discountPercent = some percent →
    percent ≠ .nan ∧ ctx.settings.maxDiscountPercent ≠ .nan ∧
    ctx.settings.maxDailyDiscountBudget ≠ .nan ∧
    ∃ amount projected, offeredAmount ctx proposed percent = some amount ∧
      ctx.discountSpentToday.toDecimal.add? amount = some projected ∧ projected ≠ .nan

/-- What the policy engine compares for an action is comparable. -/
def CanCompare (ctx : PolicyContext) (proposed : ProposedAction) (action : RecoveryActionType) :
    Prop :=
  ThresholdsCompare ctx action ∧ (action = .offerDiscount → DiscountCompares ctx proposed)

theorem yields_exceeds {a b : Decimal} : Yields (exceeds a b) ↔ a ≠ .nan ∧ b ≠ .nan := by
  constructor
  · rintro ⟨r, h⟩
    have hcompared := exceeds_eq_ok.mp h
    constructor
    · rintro rfl
      cases hcompared
    · rintro rfl
      cases a <;> cases hcompared
  · rintro ⟨ha, hb⟩
    exact exceeds_ok ha hb

theorem yields_valueRisk : Yields (valueRisk ctx action) ↔ ThresholdsCompare ctx action := by
  have hmoney : ctx.case.amountAtRisk.toDecimal ≠ .nan := nofun
  unfold valueRisk ThresholdsCompare
  dsimp only
  by_cases hhuman : [RecoveryActionType.escalate, .doNothing].contains action = true
  · rw [if_pos hhuman]
    refine iff_of_true (.ok _) fun hescalate hnothing => ?_
    cases action <;> first | exact absurd rfl hescalate | exact absurd rfl hnothing | cases hhuman
  · have hautomatic : action ≠ .escalate ∧ action ≠ .doNothing := by
      constructor <;> rintro rfl <;> exact hhuman rfl
    rw [if_neg hhuman, Yields.bind_iff]
    constructor
    · rintro ⟨high, hhigh, hrest⟩ - -
      refine ⟨(yields_exceeds.mp ⟨high, hhigh⟩).2, fun hbelow => ?_⟩
      have hfalse : high = false := by
        rw [exceeds_eq_ok, hbelow] at hhigh
        exact (Option.some.inj hhigh).symm
      subst hfalse
      obtain ⟨medium, hmedium, -⟩ := Yields.bind_iff.mp hrest
      exact (yields_exceeds.mp ⟨medium, hmedium⟩).2
    · intro h
      obtain ⟨hhigh, hmedium⟩ := h hautomatic.1 hautomatic.2
      obtain ⟨high, hcompared⟩ := exceeds_ok hmoney hhigh
      refine ⟨high, hcompared, ?_⟩
      cases high with
      | true => exact .ok _
      | false =>
        obtain ⟨medium, hcompared'⟩ := exceeds_ok hmoney (hmedium (exceeds_eq_ok.mp hcompared))
        refine Yields.bind_iff.mpr ⟨medium, hcompared', ?_⟩
        cases medium <;> exact .ok _

theorem yields_discountRules :
    Yields (discountRules ctx proposed) ↔ DiscountCompares ctx proposed := by
  unfold DiscountCompares
  cases hpercent : proposed.discountPercent with
  | none =>
    refine iff_of_true ⟨[.discountRequired], ?_⟩ nofun
    unfold discountRules
    rw [hpercent]
    rfl
  | some percent =>
    rw [discountRules_eq hpercent]
    constructor
    · rintro h _ ⟨⟩
      obtain ⟨tooLarge, htooLarge, h⟩ := Yields.bind_iff.mp h
      obtain ⟨amount, hamount, h⟩ := Yields.bind_iff.mp h
      obtain ⟨projected, hprojected, h⟩ := Yields.bind_iff.mp h
      obtain ⟨overBudget, hover, -⟩ := Yields.bind_iff.mp h
      have hcap := yields_exceeds.mp ⟨tooLarge, htooLarge⟩
      have hbudget := yields_exceeds.mp ⟨overBudget, hover⟩
      exact ⟨hcap.1, hcap.2, hbudget.2, amount, projected, signalling_eq_ok.mp hamount,
        signalling_eq_ok.mp hprojected, hbudget.1⟩
    · intro h
      obtain ⟨hnumber, hcap, hbudget, amount, projected, hamount, hsum, hprojected⟩ := h _ rfl
      obtain ⟨tooLarge, htooLarge⟩ := exceeds_ok hnumber hcap
      obtain ⟨overBudget, hover⟩ := exceeds_ok hprojected hbudget
      obtain ⟨positive, hpositive⟩ := exceeds_ok hnumber (b := .finite 0) nofun
      refine Yields.bind_iff.mpr ⟨tooLarge, htooLarge, Yields.bind_iff.mpr
        ⟨amount, signalling_eq_ok.mpr hamount, Yields.bind_iff.mpr
          ⟨projected, signalling_eq_ok.mpr hsum, Yields.bind_iff.mpr
            ⟨overBudget, hover, Yields.bind_iff.mpr ⟨positive, hpositive, .ok _⟩⟩⟩⟩⟩

/-- There is a verdict on a known action exactly when what it compares is comparable. -/
theorem yields_evaluateAction
    (haction : RecoveryActionType.ofText? proposed.actionType = some action) :
    Yields (evaluateAction ctx proposed) ↔ CanCompare ctx proposed action := by
  have hrestrictions : Yields (restrictionRules ctx action proposed) ↔
      (action = .offerDiscount → DiscountCompares ctx proposed) := by
    rw [restrictionRules_eq]
    by_cases hoffer : action = .offerDiscount
    · rw [if_pos hoffer, Yields.bind_of yields_discountRules fun _ => .ok _]
      exact ⟨fun h _ => h, fun h => h hoffer⟩
    · rw [if_neg hoffer]
      exact iff_of_true (.ok _) fun h => absurd h hoffer
  unfold evaluateAction CanCompare
  rw [haction]
  dsimp only
  exact Yields.bind_and yields_valueRisk fun _ => Yields.bind_of hrestrictions fun _ => .ok _

end ReviveX
