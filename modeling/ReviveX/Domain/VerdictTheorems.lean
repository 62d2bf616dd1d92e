import ReviveX.Domain.PolicyTheorems

/-!
# What an allowed verdict says

An action that the policy engine allows is below every limit that its context counts
against: retries, communications, the discount budget. One that was allowed and has room below
these limits is judged alike again.
-/

namespace ReviveX

open Lib (Decimal Json)

variable {ctx : PolicyContext} {proposed : ProposedAction} {action : RecoveryActionType}
  {evaluation : PolicyEvaluationResult} {hits : List PolicyRule}

/-! ## The context -/

/-- The context of a case, field by field. -/
structure ContextOf (cfg : Config) (s : Store) (caseId : ℕ) (c : RecoveryCase) (now : Time)
    (merchant : Merchant) (ctx : PolicyContext) : Prop where
  merchantRow : s.merchants.get? c.merchantId = some merchant
  merged : cfg.settings.mergeMerchant cfg.py merchant.settings = .ok ctx.settings
  caseRow : ctx.case = c
  clock : ctx.now = now
  retryCount : ctx.retryCount = s.retryCount caseId
  communicationsLast24h : ctx.communicationsLast24h =
    s.communicationsLast24h c.merchantId c.customerId now
  discountSpentToday : ctx.discountSpentToday = s.discountSpentToday c.merchantId now

theorem contextOf_of_build {cfg : Config} {s : Store} {caseId : ℕ} {c : RecoveryCase}
    {now : Time} (h : buildPolicyContext cfg s caseId c now = .ok ctx) :
    ∃ merchant, ContextOf cfg s caseId c now merchant ctx := by
  unfold buildPolicyContext at h
  cases hmerchant : s.merchants.get? c.merchantId with
  | none => simp [hmerchant, throw, throwThe, MonadExceptOf.throw] at h
  | some merchant =>
    simp only [hmerchant] at h
    obtain ⟨merged, hmerged, h⟩ := Lib.bind_eq_ok.mp h
    obtain rfl := Except.ok.inj h
    exact ⟨merchant, hmerchant, hmerged, rfl, rfl, rfl, rfl, rfl⟩

theorem signalling_eq_ok {x : Option Decimal} {a : Decimal} :
    signalling x = .ok a ↔ x = some a := by
  unfold signalling
  cases x <;> simp

theorem exceeds_eq_ok {a b : Decimal} {r : Bool} : exceeds a b = .ok r ↔ a.gt? b = some r := by
  unfold exceeds
  cases a.gt? b <;> simp

/-! ## Hits -/

theorem mem_hitWhen {condition : Bool} {rule : PolicyRule} (h : condition = true) :
    rule ∈ hitWhen condition rule := by
  unfold hitWhen
  rw [if_pos h]
  exact List.mem_singleton_self rule

/-- A verdict on a known action comes from its rules. -/
theorem evaluateAction_ok (h : evaluateAction ctx proposed = .ok evaluation)
    (haction : RecoveryActionType.ofText? proposed.actionType = some action) :
    ∃ value restrictions, valueRisk ctx action = .ok value ∧
      restrictionRules ctx action proposed = .ok restrictions ∧
      evaluation = verdict ctx.settings (value :: restrictions) := by
  unfold evaluateAction at h
  rw [haction] at h
  dsimp only at h
  obtain ⟨value, hvalue, h⟩ := Lib.bind_eq_ok.mp h
  obtain ⟨restrictions, hrestrictions, h⟩ := Lib.bind_eq_ok.mp h
  exact ⟨value, restrictions, hvalue, hrestrictions, (Except.ok.inj h).symm⟩

/-- No rule that an allowed action hits denies it. -/
theorem not_denies_of_allowed {settings : RecoverySettings} (rule : PolicyRule)
    (h : (verdict settings hits).allowed = true) (hmem : rule ∈ hits) :
    rule.denies = false := by
  by_contra hdenies
  rw [Bool.not_eq_false] at hdenies
  have hany : hits.any PolicyRule.denies = true := List.any_eq_true.mpr ⟨rule, hmem, hdenies⟩
  unfold verdict at h
  dsimp only at h
  rw [hany] at h
  cases h

/-- The restrictions of an action: general rules, those of a discount, and those of a
communication. -/
theorem restrictionRules_ok (h : restrictionRules ctx action proposed = .ok hits) :
    ∃ general discount, hits = general ++ discount ++
        (if communicationActions.contains action then communicationRules ctx action else []) ∧
      (action = .offerDiscount → discountRules ctx proposed = .ok discount) ∧
      ∀ rule ∈ hitWhen (retryActions.contains action &&
        decide (ctx.settings.maxRetryAttempts ≤ ctx.retryCount)) .maxRetryAttempts,
        rule ∈ general := by
  unfold restrictionRules at h
  dsimp only at h
  split at h
  · obtain ⟨discount, hdiscount, h⟩ := Lib.bind_eq_ok.mp h
    refine ⟨_, discount, (Except.ok.inj h).symm, fun _ => hdiscount, fun rule hmem => ?_⟩
    exact List.mem_append_right _ hmem
  · rename_i hother
    obtain ⟨discount, -, h⟩ := Lib.bind_eq_ok.mp h
    refine ⟨_, discount, (Except.ok.inj h).symm, fun heq => absurd heq hother,
      fun rule hmem => ?_⟩
    exact List.mem_append_right _ hmem

/-! ## Limits -/

/-- A retry is allowed below the cap. -/
theorem retryCount_lt_of_allowed (h : evaluateAction ctx proposed = .ok evaluation)
    (haction : RecoveryActionType.ofText? proposed.actionType = some action)
    (hretry : retryActions.contains action = true) (hallowed : evaluation.allowed = true) :
    (ctx.retryCount : ℤ) < ctx.settings.maxRetryAttempts := by
  obtain ⟨value, restrictions, -, hrestrictions, rfl⟩ := evaluateAction_ok h haction
  obtain ⟨general, discount, rfl, -, hcapped⟩ := restrictionRules_ok hrestrictions
  by_contra hreached
  have hmem : PolicyRule.maxRetryAttempts ∈ general := by
    refine hcapped _ (mem_hitWhen ?_)
    rw [hretry, Bool.true_and, decide_eq_true_eq]
    omega
  have hnot := not_denies_of_allowed .maxRetryAttempts hallowed (by simp [hmem])
  cases hnot

/-- A communication is allowed below the cap. -/
theorem communications_lt_of_allowed (h : evaluateAction ctx proposed = .ok evaluation)
    (haction : RecoveryActionType.ofText? proposed.actionType = some action)
    (hcommunication : communicationActions.contains action = true)
    (hallowed : evaluation.allowed = true) :
    (ctx.communicationsLast24h : ℤ) < ctx.settings.maxCommunicationsPerDay := by
  obtain ⟨value, restrictions, -, hrestrictions, rfl⟩ := evaluateAction_ok h haction
  obtain ⟨general, discount, rfl, -, -⟩ := restrictionRules_ok hrestrictions
  by_contra hreached
  have hmem : PolicyRule.communicationFrequency ∈ communicationRules ctx action := by
    unfold communicationRules
    refine List.mem_append_left _ (List.mem_append_right _ (mem_hitWhen ?_))
    rw [decide_eq_true_eq]
    omega
  have hnot := not_denies_of_allowed .communicationFrequency hallowed
    (by rw [if_pos hcommunication]; simp [hmem])
  cases hnot

/-- A discount is allowed within the budget of the day. -/
theorem discount_within_of_allowed (h : evaluateAction ctx proposed = .ok evaluation)
    (haction : RecoveryActionType.ofText? proposed.actionType = some .offerDiscount)
    (hamount : proposed.discountAmount = none) (hallowed : evaluation.allowed = true) :
    ∃ percent product amount projected, proposed.discountPercent = some percent ∧
      Decimal.mul? ((ctx.case.amountAtRisk : ℚ) / 100) percent = some product ∧
      product.div? 100 = some amount ∧
      ctx.discountSpentToday.toDecimal.add? amount = some projected ∧
      projected.gt? ctx.settings.maxDailyDiscountBudget = some false := by
  obtain ⟨value, restrictions, -, hrestrictions, rfl⟩ := evaluateAction_ok h haction
  obtain ⟨general, discount, rfl, hdiscount, -⟩ := restrictionRules_ok hrestrictions
  have hrules := hdiscount rfl
  unfold discountRules at hrules
  cases hpercent : proposed.discountPercent with
  | none =>
    rw [hpercent] at hrules
    obtain rfl := Except.ok.inj hrules
    have hnot := not_denies_of_allowed .discountRequired hallowed (by simp)
    cases hnot
  | some percent =>
    rw [hpercent, hamount] at hrules
    dsimp only at hrules
    obtain ⟨tooLarge, -, hrules⟩ := Lib.bind_eq_ok.mp hrules
    obtain ⟨amount, hoffered, hrules⟩ := Lib.bind_eq_ok.mp hrules
    obtain ⟨projected, hprojected, hrules⟩ := Lib.bind_eq_ok.mp hrules
    obtain ⟨overBudget, hover, hrules⟩ := Lib.bind_eq_ok.mp hrules
    obtain ⟨positive, -, hrules⟩ := Lib.bind_eq_ok.mp hrules
    obtain rfl := Except.ok.inj hrules
    have hwithin : overBudget = false := by
      by_contra hexceeded
      rw [Bool.not_eq_false] at hexceeded
      have hnot := not_denies_of_allowed .discountBudget hallowed (by
        simp [mem_hitWhen hexceeded])
      cases hnot
    subst hwithin
    have hquotient := signalling_eq_ok.mp hoffered
    obtain ⟨product, hproduct, hquotient⟩ := Option.bind_eq_some_iff.mp hquotient
    exact ⟨percent, product, amount, projected, rfl, hproduct, hquotient,
      signalling_eq_ok.mp hprojected, exceeds_eq_ok.mp hover⟩

/-! ## Judging again -/

/-- The limits that count actions are not reached, and the clock does not forbid the action. -/
structure HasRoom (ctx : PolicyContext) (action : RecoveryActionType)
    (proposed : ProposedAction) : Prop where
  retries : retryActions.contains action = true →
    (ctx.retryCount : ℤ) < ctx.settings.maxRetryAttempts
  budget : action = .offerDiscount → ∀ percent amount, proposed.discountPercent = some percent →
    (Decimal.mul? ((ctx.case.amountAtRisk : ℚ) / 100) percent).bind (·.div? 100) = some amount →
    ∃ projected, ctx.discountSpentToday.toDecimal.add? amount = some projected ∧
      projected.gt? ctx.settings.maxDailyDiscountBudget = some false
  quiet : action = .sendReminder → inQuietHours ctx = false

/-- Two contexts that differ in the clock and in what it and the actions count. -/
structure AlikeContexts (ctx ctx' : PolicyContext) : Prop where
  settings : ctx'.settings = ctx.settings
  amountAtRisk : ctx'.case.amountAtRisk = ctx.case.amountAtRisk
  blockedActionTypes : ctx'.blockedActionTypes = ctx.blockedActionTypes
  customerOptedOut : ctx'.customerOptedOut = ctx.customerOptedOut
  suspicious : ctx'.suspicious = ctx.suspicious
  sourceMismatch : ctx'.sourceMismatch = ctx.sourceMismatch
  discountEligible : ctx'.discountEligible = ctx.discountEligible
  communications : ctx'.communicationsLast24h ≤ ctx.communicationsLast24h

/-- A rule that denies was not hit. -/
theorem hitWhen_false (rule : PolicyRule) {settings : RecoverySettings} {condition : Bool}
    (hallowed : (verdict settings hits).allowed = true) (hdenies : rule.denies = true)
    (hmem : ∀ r ∈ hitWhen condition rule, r ∈ hits) : condition = false := by
  by_contra hcondition
  rw [Bool.not_eq_false] at hcondition
  have hnot := not_denies_of_allowed rule hallowed (hmem rule (mem_hitWhen hcondition))
  rw [hdenies] at hnot
  cases hnot

/-- A discount with room in the budget hits the same rules. -/
theorem discountRules_again {ctx' : PolicyContext} {settings : RecoverySettings}
    (halike : AlikeContexts ctx ctx') (hroom : HasRoom ctx' .offerDiscount proposed)
    (hamount : proposed.discountAmount = none) {discount : List PolicyRule}
    (h : discountRules ctx proposed = .ok discount)
    (hallowed : (verdict settings hits).allowed = true) (hmem : ∀ r ∈ discount, r ∈ hits) :
    discountRules ctx' proposed = .ok discount := by
  unfold discountRules at h ⊢
  cases hpercent : proposed.discountPercent with
  | none =>
    rw [hpercent] at h
    exact h
  | some percent =>
    rw [hpercent, hamount] at h
    dsimp only at h
    have hbudget := hroom.budget rfl percent
    rw [halike.settings, halike.amountAtRisk] at hbudget
    rw [hamount, halike.settings, halike.amountAtRisk, halike.discountEligible]
    dsimp only
    obtain ⟨tooLarge, htooLarge, h⟩ := Lib.bind_eq_ok.mp h
    obtain ⟨amount, hoffered, h⟩ := Lib.bind_eq_ok.mp h
    obtain ⟨projected, hprojected, h⟩ := Lib.bind_eq_ok.mp h
    obtain ⟨overBudget, hover, h⟩ := Lib.bind_eq_ok.mp h
    obtain ⟨positive, hpositive, h⟩ := Lib.bind_eq_ok.mp h
    obtain rfl := Except.ok.inj h
    have hwithin : overBudget = false := hitWhen_false .discountBudget hallowed rfl
      fun r hr => hmem r (by simp [hr])
    subst hwithin
    obtain ⟨projected', hprojected', hover'⟩ :=
      hbudget amount hpercent (signalling_eq_ok.mp hoffered)
    rw [htooLarge, hoffered]
    dsimp only [bind, Except.bind]
    rw [signalling_eq_ok.mpr hprojected']
    dsimp only
    rw [exceeds_eq_ok.mpr hover']
    dsimp only
    rw [hpositive]
    rfl

/-- The rules that are asked about every action. -/
def generalRules (ctx : PolicyContext) (action : RecoveryActionType) : List PolicyRule :=
  hitWhen (ctx.blockedActionTypes.contains action.text) (.blockedActionType action) ++
    hitWhen (!ctx.settings.automaticRecoveryEnabled && automaticActions.contains action)
      .killSwitch ++
    hitWhen ((ctx.suspicious || ctx.sourceMismatch) && automaticActions.contains action)
      .suspiciousSourceMismatch ++
    hitWhen (retryActions.contains action &&
      decide (ctx.settings.maxRetryAttempts ≤ ctx.retryCount)) .maxRetryAttempts

/-- The rules that are asked about a communication. -/
def outreachRules (ctx : PolicyContext) (action : RecoveryActionType) : List PolicyRule :=
  if communicationActions.contains action then communicationRules ctx action else []

theorem restrictionRules_eq (ctx : PolicyContext) (action : RecoveryActionType)
    (proposed : ProposedAction) :
    restrictionRules ctx action proposed =
      (if action = .offerDiscount then discountRules ctx proposed else .ok []) >>= fun discount =>
        .ok (generalRules ctx action ++ discount ++ outreachRules ctx action) := by
  unfold restrictionRules
  dsimp only
  split <;> rfl

theorem generalRules_again {ctx' : PolicyContext} {settings : RecoverySettings}
    (halike : AlikeContexts ctx ctx') (hroom : HasRoom ctx' action proposed)
    (hallowed : (verdict settings hits).allowed = true)
    (hmem : ∀ r ∈ generalRules ctx action, r ∈ hits) :
    generalRules ctx' action = generalRules ctx action := by
  unfold generalRules at hmem ⊢
  have hcapped : (retryActions.contains action &&
      decide (ctx.settings.maxRetryAttempts ≤ ctx.retryCount)) = false :=
    hitWhen_false .maxRetryAttempts hallowed rfl
      fun r hr => hmem r (List.mem_append_right _ hr)
  have hcapped' : (retryActions.contains action &&
      decide (ctx.settings.maxRetryAttempts ≤ ctx'.retryCount)) = false := by
    cases hretry : retryActions.contains action with
    | false => rfl
    | true =>
      have hbelow := hroom.retries hretry
      rw [halike.settings] at hbelow
      rw [Bool.true_and, decide_eq_false_iff_not]
      omega
  rw [halike.blockedActionTypes, halike.settings, halike.suspicious, halike.sourceMismatch,
    hcapped, hcapped']

theorem outreachRules_again {ctx' : PolicyContext} {settings : RecoverySettings}
    (halike : AlikeContexts ctx ctx') (hroom : HasRoom ctx' action proposed)
    (hallowed : (verdict settings hits).allowed = true)
    (hmem : ∀ r ∈ outreachRules ctx action, r ∈ hits) :
    outreachRules ctx' action = outreachRules ctx action := by
  unfold outreachRules communicationRules at hmem ⊢
  split
  · rename_i hcommunicates
    rw [if_pos hcommunicates] at hmem
    have hfrequent : decide (ctx.settings.maxCommunicationsPerDay ≤
        ctx.communicationsLast24h) = false :=
      hitWhen_false .communicationFrequency hallowed rfl
        fun r hr => hmem r (by simp [hr])
    have hquiet : (decide (action = .sendReminder) && inQuietHours ctx) = false :=
      hitWhen_false .quietHours hallowed rfl fun r hr => hmem r (by simp [hr])
    have hquiet' : (decide (action = .sendReminder) && inQuietHours ctx') = false := by
      cases hreminder : decide (action = .sendReminder) with
      | false => rfl
      | true => exact hroom.quiet (of_decide_eq_true hreminder)
    have hfrequent' : decide (ctx.settings.maxCommunicationsPerDay ≤
        ctx'.communicationsLast24h) = false := by
      have hfewer := halike.communications
      rw [decide_eq_false_iff_not] at hfrequent ⊢
      omega
    rw [halike.customerOptedOut, halike.settings, hfrequent, hfrequent', hquiet, hquiet']
  · rfl

/-- An action that was allowed and has room is judged in the same way again. -/
theorem evaluateAction_again {ctx' : PolicyContext}
    (halike : AlikeContexts ctx ctx') (hroom : HasRoom ctx' action proposed)
    (hamount : proposed.discountAmount = none)
    (h : evaluateAction ctx proposed = .ok evaluation)
    (haction : RecoveryActionType.ofText? proposed.actionType = some action)
    (hallowed : evaluation.allowed = true) : evaluateAction ctx' proposed = .ok evaluation := by
  obtain ⟨value, restrictions, hvalue, hrestrictions, rfl⟩ := evaluateAction_ok h haction
  have hvalue' : valueRisk ctx' action = .ok value := by
    rw [← hvalue]
    unfold valueRisk
    rw [halike.settings, halike.amountAtRisk]
  rw [restrictionRules_eq] at hrestrictions
  obtain ⟨discount, hdiscount, hrestrictions⟩ := Lib.bind_eq_ok.mp hrestrictions
  obtain rfl := Except.ok.inj hrestrictions
  have hgeneral := generalRules_again halike hroom hallowed fun r hr => by simp [hr]
  have houtreach := outreachRules_again halike hroom hallowed fun r hr => by simp [hr]
  have hdiscount' : (if action = .offerDiscount then discountRules ctx' proposed
      else .ok []) = .ok discount := by
    split at hdiscount
    · rename_i hoffer
      subst hoffer
      rw [if_pos rfl]
      exact discountRules_again halike hroom hamount hdiscount hallowed fun r hr => by simp [hr]
    · rename_i hother
      rw [if_neg hother]
      exact hdiscount
  unfold evaluateAction
  rw [haction]
  dsimp only
  rw [hvalue', restrictionRules_eq, hdiscount', hgeneral, houtreach, halike.settings]
  rfl

end ReviveX
