import ReviveX.Domain.DenialTheorems

/-!
# The verdict at a later time

Between two calls with nothing in between only the clock moves on: no more communications are
recent, no more was spent on discounts since midnight, and quiet hours begin or end. The policy
engine returns a later verdict on a candidate wherever it returned an earlier one
(`evaluateAction_later_ok`), and for an action that is no communication it is the same verdict
(`evaluateAction_later_eq`).
-/

namespace ReviveX

open Lib (Decimal Table)

variable {ctx ctx' : PolicyContext} {proposed : ProposedAction} {action : RecoveryActionType}
  {evaluation : PolicyEvaluationResult} {s s' : Store} {caseId : ℕ} {c : RecoveryCase}
  {now now' : Time}

/-! ## The context -/

/-- The context of a case at a later time. -/
structure LaterContext (ctx ctx' : PolicyContext) : Prop extends AlikeContexts ctx ctx' where
  retryCount : ctx'.retryCount = ctx.retryCount
  discountSpentToday : ctx'.discountSpentToday ≤ ctx.discountSpentToday

/-- Midnight comes later and later. -/
theorem startOfDay_mono (hlater : now ≤ now') :
    now - now % (24 * hour) ≤ now' - now' % (24 * hour) := by
  have hstart : ∀ t : Time, t - t % (24 * hour) = 24 * hour * (t / (24 * hour)) := fun t => by
    have hsplit := Int.mul_ediv_add_emod t (24 * hour)
    linarith
  have hday : (0 : Time) < 24 * hour := by decide
  rw [hstart, hstart]
  exact mul_le_mul_of_nonneg_left (Int.ediv_le_ediv hday hlater) hday.le

theorem discountSpentToday_le (s : Store) (merchantId : ℕ) (hlater : now ≤ now') :
    s.discountSpentToday merchantId now' ≤ s.discountSpentToday merchantId now := by
  refine Table.sumWhere_mono _ _ fun a hcounted => ?_
  simp only [Bool.and_eq_true, decide_eq_true_eq] at hcounted ⊢
  exact ⟨hcounted.1, (startOfDay_mono hlater).trans hcounted.2⟩

/-- Later, no more communications are recent. -/
theorem communicationsLast24h_le (m customerId : ℕ) (hlater : now ≤ now')
    (h : s'.notifications = s.notifications) :
    s'.communicationsLast24h m customerId now' ≤ s.communicationsLast24h m customerId now := by
  unfold Store.communicationsLast24h Table.count
  rw [h]
  refine List.countP_mono_left fun n _ hcounted => ?_
  simp only [Bool.and_eq_true, decide_eq_true_eq] at hcounted ⊢
  obtain ⟨⟨hwhose, hrecent⟩, hsent⟩ := hcounted
  exact ⟨⟨hwhose, (sub_le_sub_right hlater _).trans hrecent⟩, hsent⟩

/-- The context of the same store at a later time. -/
theorem laterContext_of_build {cfg : Config} (hlater : now ≤ now')
    (h : buildPolicyContext cfg s caseId c now = .ok ctx)
    (h' : buildPolicyContext cfg s caseId c now' = .ok ctx') :
    LaterContext ctx ctx' ∧ ctx'.case = ctx.case := by
  unfold buildPolicyContext at h h'
  cases hm : s.merchants.get? c.merchantId with
  | none =>
    rw [hm] at h
    cases h
  | some merchant =>
    rw [hm] at h h'
    obtain ⟨merged, hmerged, h⟩ := Lib.bind_eq_ok.mp h
    obtain ⟨merged', hmerged', h'⟩ := Lib.bind_eq_ok.mp h'
    obtain rfl := Except.ok.inj (hmerged.symm.trans hmerged')
    obtain rfl := Except.ok.inj h
    obtain rfl := Except.ok.inj h'
    refine ⟨⟨⟨rfl, rfl, rfl, rfl, rfl, rfl, rfl, ?_⟩, rfl, ?_⟩, rfl⟩
    · exact communicationsLast24h_le _ _ hlater rfl
    · exact discountSpentToday_le s _ hlater

/-! ## The verdict -/

theorem valueRisk_later (h : LaterContext ctx ctx') (action : RecoveryActionType) :
    valueRisk ctx' action = valueRisk ctx action := by
  unfold valueRisk
  rw [h.settings, h.amountAtRisk]

theorem generalRules_later (h : LaterContext ctx ctx') (action : RecoveryActionType) :
    generalRules ctx' action = generalRules ctx action := by
  unfold generalRules
  rw [h.blockedActionTypes, h.settings, h.suspicious, h.sourceMismatch, h.retryCount]

/-- The verdict on an action that is no communication does not depend on the clock. -/
theorem evaluateAction_later_eq (h : LaterContext ctx ctx')
    (haction : RecoveryActionType.ofText? proposed.actionType = some action)
    (hquiet : action ∉ communicationActions) :
    evaluateAction ctx' proposed = evaluateAction ctx proposed := by
  have hoffer : action ≠ .offerDiscount := by
    rintro rfl
    exact hquiet (by decide)
  have houtreach : ∀ ctx, outreachRules ctx action = [] := fun ctx =>
    if_neg (by simpa using hquiet)
  have hrestrictions : restrictionRules ctx' action proposed =
      restrictionRules ctx action proposed := by
    rw [restrictionRules_eq, restrictionRules_eq, if_neg hoffer, if_neg hoffer,
      generalRules_later h, houtreach, houtreach]
  unfold evaluateAction
  rw [haction]
  dsimp only
  rw [valueRisk_later h, hrestrictions, h.settings]

/-- Where the rules of a discount of an amount answered, they answer later on: the sum that is
compared with the budget is not greater, so it does not overflow. -/
theorem discountRules_later_ok (h : LaterContext ctx ctx') {percent : Decimal} {amount : Money}
    (hpercent : proposed.discountPercent = some percent)
    (hamount : proposed.discountAmount = some amount.toDecimal) {discount : List PolicyRule}
    (hdiscount : discountRules ctx proposed = .ok discount) :
    ∃ later, discountRules ctx' proposed = .ok later := by
  have hoffered : ∀ ctx, offeredAmount ctx proposed percent = some amount.toDecimal := by
    intro ctx
    unfold offeredAmount
    rw [hamount]
  rw [discountRules_eq hpercent, hoffered] at hdiscount
  obtain ⟨tooLarge, htooLarge, hdiscount⟩ := Lib.bind_eq_ok.mp hdiscount
  obtain ⟨_, hsame, hdiscount⟩ := Lib.bind_eq_ok.mp hdiscount
  obtain rfl := Except.ok.inj hsame
  obtain ⟨projected, hprojected, hdiscount⟩ := Lib.bind_eq_ok.mp hdiscount
  obtain ⟨exceeded, hover, hdiscount⟩ := Lib.bind_eq_ok.mp hdiscount
  obtain ⟨positive, hpositive, -⟩ := Lib.bind_eq_ok.mp hdiscount
  -- the projected sum of the later day
  have hsum : ctx.discountSpentToday.toDecimal.add? amount.toDecimal = some projected :=
    signalling_eq_ok.mp hprojected
  obtain ⟨a, rfl⟩ := Decimal.ofExact_finite hsum
  have hspent : (ctx'.discountSpentToday : ℚ) ≤ ctx.discountSpentToday := by
    exact_mod_cast h.discountSpentToday
  obtain ⟨b, hb⟩ : ∃ b, ctx'.discountSpentToday.toDecimal.add? amount.toDecimal =
      some (.finite b) := by
    refine Decimal.ofExact_isSome_of_le (by positivity) ?_ (Option.isSome_of_mem hsum)
    linarith
  have hcompared : ∃ exceeded', exceeds (.finite b) ctx'.settings.maxDailyDiscountBudget =
      .ok exceeded' := by
    rw [h.settings]
    cases hbudget : ctx.settings.maxDailyDiscountBudget with
    | nan =>
      rw [hbudget] at hover
      cases hover
    | finite q => exact ⟨_, rfl⟩
    | infinity negative => exact ⟨_, rfl⟩
  obtain ⟨exceeded', hover'⟩ := hcompared
  rw [discountRules_eq hpercent, hoffered, h.settings, htooLarge]
  dsimp only [bind, Except.bind]
  rw [signalling_eq_ok.mpr rfl]
  dsimp only
  rw [signalling_eq_ok.mpr hb]
  dsimp only
  rw [← h.settings, hover']
  dsimp only
  rw [hpositive]
  exact ⟨_, rfl⟩

/-- A verdict that was returned is returned later on, possibly another one. -/
theorem evaluateAction_later_ok (h : LaterContext ctx ctx')
    (haction : RecoveryActionType.ofText? proposed.actionType = some action)
    (hamount : action = .offerDiscount → ∃ percent, ∃ amount : Money,
      proposed.discountPercent = some percent ∧ proposed.discountAmount = some amount.toDecimal)
    (hevaluation : evaluateAction ctx proposed = .ok evaluation) :
    ∃ later, evaluateAction ctx' proposed = .ok later := by
  obtain ⟨value, restrictions, hvalue, hrestrictions, -⟩ := evaluateAction_ok hevaluation haction
  have hlater : ∃ restrictions', restrictionRules ctx' action proposed = .ok restrictions' := by
    rw [restrictionRules_eq] at hrestrictions ⊢
    obtain ⟨discount, hdiscount, -⟩ := Lib.bind_eq_ok.mp hrestrictions
    by_cases hoffer : action = .offerDiscount
    · rw [if_pos hoffer] at hdiscount ⊢
      obtain ⟨percent, amount, hpercent, hpaise⟩ := hamount hoffer
      obtain ⟨discount', hdiscount'⟩ := discountRules_later_ok h hpercent hpaise hdiscount
      rw [hdiscount']
      exact ⟨_, rfl⟩
    · rw [if_neg hoffer]
      exact ⟨_, rfl⟩
  obtain ⟨restrictions', hrestrictions'⟩ := hlater
  unfold evaluateAction
  rw [haction]
  dsimp only
  rw [valueRisk_later h, hvalue, hrestrictions']
  exact ⟨_, rfl⟩

end ReviveX
