import ReviveX.Domain.VerdictTheorems

/-!
# The verdict, by its reasons

`Denied` lists the reasons to deny an action, one constructor each. A verdict allows exactly
the actions that none of them applies to, it asks for an approval exactly above the smaller
threshold, and it does not relent when its context becomes stricter. A NaN among the numbers
that are compared leaves no verdict at all.
-/

namespace ReviveX

open Lib (Decimal)

variable {ctx ctx' : PolicyContext} {proposed : ProposedAction} {action : RecoveryActionType}
  {r r' : PolicyEvaluationResult} {hits : List PolicyRule}

/-! ## Reasons -/

/-- The amount of a discount that the budget is asked for. -/
def offeredAmount (ctx : PolicyContext) (proposed : ProposedAction) (percent : Decimal) :
    Option Decimal :=
  match proposed.discountAmount with
  | some amount => some amount
  | none => (Decimal.mul? ((ctx.case.amountAtRisk : ℚ) / 100) percent).bind (·.div? 100)

/-- The reasons to deny a discount. -/
inductive DiscountDenied (ctx : PolicyContext) (proposed : ProposedAction) : Prop
  | required (hpercent : proposed.discountPercent = none)
  | tooLarge {percent : Decimal} (hpercent : proposed.discountPercent = some percent)
      (hlarge : percent.gt? ctx.settings.maxDiscountPercent = some true)
  | ineligible (heligible : ctx.discountEligible = false)
  | budget {percent amount projected : Decimal} (hpercent : proposed.discountPercent = some percent)
      (hamount : offeredAmount ctx proposed percent = some amount)
      (hprojected : ctx.discountSpentToday.toDecimal.add? amount = some projected)
      (hover : projected.gt? ctx.settings.maxDailyDiscountBudget = some true)

/-- The reasons to deny an action of the closed enumeration. -/
inductive Denied (ctx : PolicyContext) (proposed : ProposedAction) (action : RecoveryActionType) :
    Prop
  | blocked (hblocked : action.text ∈ ctx.blockedActionTypes)
  | killSwitch (hautomatic : action ∈ automaticActions)
      (hdisabled : ctx.settings.automaticRecoveryEnabled = false)
  | suspicious (hautomatic : action ∈ automaticActions)
      (hsuspicious : ctx.suspicious = true ∨ ctx.sourceMismatch = true)
  | retries (hretry : action ∈ retryActions)
      (hreached : ctx.settings.maxRetryAttempts ≤ ctx.retryCount)
  | discount (hoffer : action = .offerDiscount) (hdenied : DiscountDenied ctx proposed)
  | optOut (hcommunicates : action ∈ communicationActions)
      (hopted : ctx.customerOptedOut = true)
  | frequency (hcommunicates : action ∈ communicationActions)
      (hreached : ctx.settings.maxCommunicationsPerDay ≤ ctx.communicationsLast24h)
  | quietHours (hreminder : action = .sendReminder) (hquiet : inQuietHours ctx = true)

/-- The smaller of the two approval thresholds. -/
def RecoverySettings.smallerThreshold (settings : RecoverySettings) : Decimal :=
  if settings.highValueApprovalThreshold.gt? settings.mediumValueApprovalThreshold = some true
  then settings.mediumValueApprovalThreshold
  else settings.highValueApprovalThreshold

/-! ## Rules that deny -/

@[simp] theorem any_hitWhen (p : PolicyRule → Bool) (condition : Bool) (rule : PolicyRule) :
    (hitWhen condition rule).any p = (condition && p rule) := by
  unfold hitWhen
  cases condition <;> simp

theorem any_generalRules : (generalRules ctx action).any PolicyRule.denies = true ↔
    action.text ∈ ctx.blockedActionTypes ∨
    (action ∈ automaticActions ∧ ctx.settings.automaticRecoveryEnabled = false) ∨
    (action ∈ automaticActions ∧ (ctx.suspicious = true ∨ ctx.sourceMismatch = true)) ∨
    (action ∈ retryActions ∧ ctx.settings.maxRetryAttempts ≤ ctx.retryCount) := by
  unfold generalRules
  simp [PolicyRule.denies, and_comm]

theorem any_outreachRules : (outreachRules ctx action).any PolicyRule.denies = true ↔
    action ∈ communicationActions ∧ (ctx.customerOptedOut = true ∨
      ctx.settings.maxCommunicationsPerDay ≤ ctx.communicationsLast24h ∨
      (action = .sendReminder ∧ inQuietHours ctx = true)) := by
  unfold outreachRules communicationRules
  by_cases hcommunicates : action ∈ communicationActions
  · simp [hcommunicates, PolicyRule.denies]
  · simp [hcommunicates]

/-- The rules of a discount of some percent. -/
theorem discountRules_eq {percent : Decimal} (hpercent : proposed.discountPercent = some percent) :
    discountRules ctx proposed = (do
      let tooLarge ← exceeds percent ctx.settings.maxDiscountPercent
      let amount ← signalling (offeredAmount ctx proposed percent)
      let projected ← signalling (ctx.discountSpentToday.toDecimal.add? amount)
      let overBudget ← exceeds projected ctx.settings.maxDailyDiscountBudget
      let positive ← exceeds percent (.finite 0)
      return hitWhen tooLarge .discountTooLarge ++
        hitWhen (!ctx.discountEligible) .discountIneligible ++
        hitWhen overBudget .discountBudget ++ hitWhen positive .discountRecorded) := by
  unfold discountRules offeredAmount
  rw [hpercent]
  cases proposed.discountAmount <;> rfl

theorem any_discountRules {discount : List PolicyRule}
    (h : discountRules ctx proposed = .ok discount) :
    discount.any PolicyRule.denies = true ↔ DiscountDenied ctx proposed := by
  cases hpercent : proposed.discountPercent with
  | none =>
    unfold discountRules at h
    rw [hpercent] at h
    obtain rfl := Except.ok.inj h
    exact iff_of_true rfl (.required hpercent)
  | some percent =>
    rw [discountRules_eq hpercent] at h
    obtain ⟨tooLarge, htooLarge, h⟩ := Lib.bind_eq_ok.mp h
    obtain ⟨amount, hamount, h⟩ := Lib.bind_eq_ok.mp h
    obtain ⟨projected, hprojected, h⟩ := Lib.bind_eq_ok.mp h
    obtain ⟨overBudget, hover, h⟩ := Lib.bind_eq_ok.mp h
    obtain ⟨positive, -, h⟩ := Lib.bind_eq_ok.mp h
    obtain rfl := Except.ok.inj h
    -- the comparisons that the engine made are the ones that the reasons speak of
    have hoffered := signalling_eq_ok.mp hamount
    have hlarge := exceeds_eq_ok.mp htooLarge
    have hsum := signalling_eq_ok.mp hprojected
    have hbudget := exceeds_eq_ok.mp hover
    constructor
    · intro hany
      have hreason : tooLarge = true ∨ ctx.discountEligible = false ∨ overBudget = true := by
        simpa [PolicyRule.denies, or_assoc] using hany
      rcases hreason with rfl | hineligible | rfl
      · exact .tooLarge hpercent hlarge
      · exact .ineligible hineligible
      · exact .budget hpercent hoffered hsum hbudget
    · intro hdenied
      have hreason : tooLarge = true ∨ ctx.discountEligible = false ∨ overBudget = true := by
        cases hdenied with
        | required hnone =>
          rw [hpercent] at hnone
          cases hnone
        | tooLarge hsome hlarge' =>
          obtain rfl := Option.some.inj (hpercent.symm.trans hsome)
          exact .inl (Option.some.inj (hlarge.symm.trans hlarge'))
        | ineligible hineligible => exact .inr (.inl hineligible)
        | budget hsome hamount' hsum' hover' =>
          obtain rfl := Option.some.inj (hpercent.symm.trans hsome)
          obtain rfl := Option.some.inj (hoffered.symm.trans hamount')
          obtain rfl := Option.some.inj (hsum.symm.trans hsum')
          exact .inr (.inr (Option.some.inj (hbudget.symm.trans hover')))
      simpa [PolicyRule.denies, or_assoc] using hreason

/-- A restriction denies exactly where there is a reason to. -/
theorem any_restrictionRules (h : restrictionRules ctx action proposed = .ok hits) :
    hits.any PolicyRule.denies = true ↔ Denied ctx proposed action := by
  rw [restrictionRules_eq] at h
  obtain ⟨discount, hdiscount, h⟩ := Lib.bind_eq_ok.mp h
  obtain rfl := Except.ok.inj h
  have hoffer : discount.any PolicyRule.denies = true ↔
      action = .offerDiscount ∧ DiscountDenied ctx proposed := by
    split at hdiscount
    · rename_i heq
      rw [any_discountRules hdiscount, and_iff_right heq]
    · rename_i hother
      obtain rfl := Except.ok.inj hdiscount
      exact iff_of_false (by simp) fun hboth => hother hboth.1
  rw [List.any_append, List.any_append, Bool.or_eq_true, Bool.or_eq_true, any_generalRules,
    any_outreachRules, hoffer]
  constructor
  · intro hreason
    rcases hreason with ((hblocked | hdisabled | hsuspicious | hretries) | hdiscounted) |
      ⟨hcommunicates, hopted | hfrequent | hquiet⟩
    · exact .blocked hblocked
    · exact .killSwitch hdisabled.1 hdisabled.2
    · exact .suspicious hsuspicious.1 hsuspicious.2
    · exact .retries hretries.1 hretries.2
    · exact .discount hdiscounted.1 hdiscounted.2
    · exact .optOut hcommunicates hopted
    · exact .frequency hcommunicates hfrequent
    · exact .quietHours hquiet.1 hquiet.2
  · intro hdenied
    cases hdenied with
    | blocked hblocked => exact .inl (.inl (.inl hblocked))
    | killSwitch hautomatic hdisabled => exact .inl (.inl (.inr (.inl ⟨hautomatic, hdisabled⟩)))
    | suspicious hautomatic hsuspicious =>
      exact .inl (.inl (.inr (.inr (.inl ⟨hautomatic, hsuspicious⟩))))
    | retries hretry hreached => exact .inl (.inl (.inr (.inr (.inr ⟨hretry, hreached⟩))))
    | discount hoffer hdenied => exact .inl (.inr ⟨hoffer, hdenied⟩)
    | optOut hcommunicates hopted => exact .inr ⟨hcommunicates, .inl hopted⟩
    | frequency hcommunicates hreached => exact .inr ⟨hcommunicates, .inr (.inl hreached)⟩
    | quietHours hreminder hquiet =>
      subst hreminder
      exact .inr ⟨by decide, .inr (.inr ⟨rfl, hquiet⟩)⟩

/-! ## The verdict -/

/-- The value of a case never denies; above the smaller threshold it asks for an approval. -/
theorem valueRisk_ok {value : PolicyRule} (h : valueRisk ctx action = .ok value) :
    value.denies = false ∧ (value.requiresApproval = true ↔
      action ≠ .escalate ∧ action ≠ .doNothing ∧
        ctx.case.amountAtRisk.toDecimal.gt? ctx.settings.smallerThreshold = some true) := by
  unfold valueRisk at h
  dsimp only at h
  split at h
  · rename_i hhuman
    obtain rfl := Except.ok.inj h
    refine ⟨rfl, iff_of_false (by decide) ?_⟩
    rintro ⟨hescalate, hnothing, -⟩
    rcases List.mem_cons.mp (List.contains_iff_mem.mp hhuman) with heq | hmem
    · exact hescalate heq
    · exact hnothing (List.mem_singleton.mp hmem)
  · rename_i hautomatic
    have hneither : action ≠ .escalate ∧ action ≠ .doNothing := by
      constructor <;>
      · rintro rfl
        exact hautomatic rfl
    obtain ⟨high, hhigh, h⟩ := Lib.bind_eq_ok.mp h
    have hhigh' := exceeds_eq_ok.mp hhigh
    unfold RecoverySettings.smallerThreshold
    cases high with
    | true =>
      obtain rfl := Except.ok.inj h
      refine ⟨rfl, iff_of_true rfl ⟨hneither.1, hneither.2, ?_⟩⟩
      split
      · rename_i hsmaller
        -- above the greater threshold, so above the smaller one
        exact Decimal.gt?_trans hhigh' hsmaller
      · exact hhigh'
    | false =>
      rw [if_neg (by decide)] at h
      obtain ⟨medium, hmedium, h⟩ := Lib.bind_eq_ok.mp h
      have hmedium' := exceeds_eq_ok.mp hmedium
      cases medium with
      | true =>
        obtain rfl := Except.ok.inj h
        refine ⟨rfl, iff_of_true rfl ⟨hneither.1, hneither.2, ?_⟩⟩
        rw [if_pos (Decimal.gt?_of_not_gt? hmedium' hhigh')]
        exact hmedium'
      | false =>
        obtain rfl := Except.ok.inj h
        refine ⟨rfl, iff_of_false (by decide) ?_⟩
        rintro ⟨-, -, hover⟩
        split at hover
        · rw [hmedium'] at hover
          cases hover
        · rw [hhigh'] at hover
          cases hover

/-- A known action is allowed unless there is a reason to deny it. -/
theorem allowed_iff (h : evaluateAction ctx proposed = .ok r)
    (haction : RecoveryActionType.ofText? proposed.actionType = some action) :
    r.allowed = true ↔ ¬ Denied ctx proposed action := by
  obtain ⟨value, restrictions, hvalue, hrestrictions, rfl⟩ := evaluateAction_ok h haction
  have hspares := (valueRisk_ok hvalue).1
  rw [← any_restrictionRules hrestrictions]
  show (!(value :: restrictions).any PolicyRule.denies) = true ↔ _
  rw [List.any_cons, hspares, Bool.false_or, Bool.not_eq_true', Bool.not_eq_true]

/-- An unknown action is denied. -/
theorem allowed_of_unknown (h : evaluateAction ctx proposed = .ok r)
    (haction : RecoveryActionType.ofText? proposed.actionType = none) :
    r.allowed = false ∧ r.requiresApproval = false := by
  unfold evaluateAction at h
  rw [haction] at h
  obtain rfl := Except.ok.inj h
  exact ⟨rfl, rfl⟩

theorem restrictionRules_spare_approval (h : restrictionRules ctx action proposed = .ok hits) :
    hits.any PolicyRule.requiresApproval = false := by
  have hdiscount : ∀ {discount : List PolicyRule}, discountRules ctx proposed = .ok discount →
      discount.any PolicyRule.requiresApproval = false := by
    intro discount hrules
    cases hpercent : proposed.discountPercent with
    | none =>
      unfold discountRules at hrules
      rw [hpercent] at hrules
      obtain rfl := Except.ok.inj hrules
      rfl
    | some percent =>
      rw [discountRules_eq hpercent] at hrules
      obtain ⟨tooLarge, -, hrules⟩ := Lib.bind_eq_ok.mp hrules
      obtain ⟨amount, -, hrules⟩ := Lib.bind_eq_ok.mp hrules
      obtain ⟨projected, -, hrules⟩ := Lib.bind_eq_ok.mp hrules
      obtain ⟨overBudget, -, hrules⟩ := Lib.bind_eq_ok.mp hrules
      obtain ⟨positive, -, hrules⟩ := Lib.bind_eq_ok.mp hrules
      obtain rfl := Except.ok.inj hrules
      simp [PolicyRule.requiresApproval]
  rw [restrictionRules_eq] at h
  obtain ⟨discount, hdiscounted, h⟩ := Lib.bind_eq_ok.mp h
  obtain rfl := Except.ok.inj h
  have hspares : discount.any PolicyRule.requiresApproval = false := by
    split at hdiscounted
    · exact hdiscount hdiscounted
    · obtain rfl := Except.ok.inj hdiscounted
      rfl
  rw [List.any_append, List.any_append, hspares]
  unfold generalRules outreachRules communicationRules
  split <;> simp [PolicyRule.requiresApproval]

/-- An approval is required for an allowed automatic action above the smaller threshold. -/
theorem requiresApproval_iff (h : evaluateAction ctx proposed = .ok r)
    (haction : RecoveryActionType.ofText? proposed.actionType = some action) :
    r.requiresApproval = true ↔ r.allowed = true ∧ action ≠ .escalate ∧ action ≠ .doNothing ∧
      ctx.case.amountAtRisk.toDecimal.gt? ctx.settings.smallerThreshold = some true := by
  obtain ⟨value, restrictions, hvalue, hrestrictions, rfl⟩ := evaluateAction_ok h haction
  rw [← (valueRisk_ok hvalue).2, verdict_requiresApproval, List.any_cons,
    restrictionRules_spare_approval hrestrictions, Bool.or_false, Bool.and_eq_true, and_comm]

/-! ## Stricter contexts -/

/-- A number does not exceed another one. -/
def NotAbove (a b : Decimal) : Prop := a.gt? b ≠ some true

/-- Every restriction of the first context is as strong in the second one, or stronger. -/
structure Stricter (ctx ctx' : PolicyContext) : Prop where
  amountAtRisk : ctx'.case.amountAtRisk = ctx.case.amountAtRisk
  retryCount : ctx.retryCount ≤ ctx'.retryCount
  communicationsLast24h : ctx.communicationsLast24h ≤ ctx'.communicationsLast24h
  discountSpentToday : (ctx.discountSpentToday : ℕ) ≤ ctx'.discountSpentToday
  blockedActionTypes : ctx.blockedActionTypes ⊆ ctx'.blockedActionTypes
  customerOptedOut : ctx.customerOptedOut = true → ctx'.customerOptedOut = true
  suspicious : ctx.suspicious = true → ctx'.suspicious = true
  sourceMismatch : ctx.sourceMismatch = true → ctx'.sourceMismatch = true
  discountEligible : ctx.discountEligible = false → ctx'.discountEligible = false
  automaticRecoveryEnabled : ctx.settings.automaticRecoveryEnabled = false →
    ctx'.settings.automaticRecoveryEnabled = false
  maxRetryAttempts : ctx'.settings.maxRetryAttempts ≤ ctx.settings.maxRetryAttempts
  maxCommunicationsPerDay :
    ctx'.settings.maxCommunicationsPerDay ≤ ctx.settings.maxCommunicationsPerDay
  maxDiscountPercent : NotAbove ctx'.settings.maxDiscountPercent ctx.settings.maxDiscountPercent
  maxDailyDiscountBudget :
    NotAbove ctx'.settings.maxDailyDiscountBudget ctx.settings.maxDailyDiscountBudget
  quietHours : inQuietHours ctx = true → inQuietHours ctx' = true

theorem offeredAmount_stricter (h : Stricter ctx ctx') (percent : Decimal) :
    offeredAmount ctx' proposed percent = offeredAmount ctx proposed percent := by
  unfold offeredAmount
  rw [h.amountAtRisk]

/-- A reason to deny a discount stays one, where the stricter context can be judged. -/
theorem DiscountDenied.stricter (hdenied : DiscountDenied ctx proposed) (h : Stricter ctx ctx')
    {discount : List PolicyRule} (hjudged : discountRules ctx' proposed = .ok discount) :
    DiscountDenied ctx' proposed := by
  cases hpercent : proposed.discountPercent with
  | none => exact .required hpercent
  | some percent =>
    rw [discountRules_eq hpercent] at hjudged
    obtain ⟨tooLarge, htooLarge, hjudged⟩ := Lib.bind_eq_ok.mp hjudged
    obtain ⟨amount, hamount, hjudged⟩ := Lib.bind_eq_ok.mp hjudged
    obtain ⟨projected, hprojected, hjudged⟩ := Lib.bind_eq_ok.mp hjudged
    obtain ⟨overBudget, hover, -⟩ := Lib.bind_eq_ok.mp hjudged
    have hlarge' := exceeds_eq_ok.mp htooLarge
    have hamount' := signalling_eq_ok.mp hamount
    have hsum' := signalling_eq_ok.mp hprojected
    have hbudget' := exceeds_eq_ok.mp hover
    cases hdenied with
    | required hnone =>
      rw [hpercent] at hnone
      cases hnone
    | tooLarge hsome hlarge =>
      obtain rfl := Option.some.inj (hpercent.symm.trans hsome)
      cases tooLarge with
      | true => exact .tooLarge hpercent hlarge'
      | false => exact absurd (Decimal.gt?_of_not_gt? hlarge hlarge') h.maxDiscountPercent
    | ineligible hineligible => exact .ineligible (h.discountEligible hineligible)
    | budget hsome hamount₀ hsum hexceeded =>
      obtain rfl := Option.some.inj (hpercent.symm.trans hsome)
      rw [offeredAmount_stricter h, hamount₀] at hamount'
      obtain rfl := Option.some.inj hamount'
      cases overBudget with
      | true =>
        refine .budget hpercent ?_ hsum' hbudget'
        rw [offeredAmount_stricter h]
        exact hamount₀
      | false =>
        -- the greater spending is within the lower budget
        have hspent : (ctx.discountSpentToday : ℚ) / 100 ≤ ctx'.discountSpentToday / 100 := by
          have hcast : (ctx.discountSpentToday : ℚ) ≤ ctx'.discountSpentToday := by
            exact_mod_cast h.discountSpentToday
          linarith
        rcases Decimal.add?_mono hspent hsum hsum' with hnan | hle
        · subst hnan
          cases hexceeded
        · have habove := Decimal.gt?_of_not_gt? hexceeded hle
          exact absurd (Decimal.gt?_of_not_gt? habove hbudget') h.maxDailyDiscountBudget

/-- A reason to deny stays a reason to deny. -/
theorem Denied.stricter (hdenied : Denied ctx proposed action) (h : Stricter ctx ctx')
    (hjudged : restrictionRules ctx' action proposed = .ok hits) :
    Denied ctx' proposed action := by
  cases hdenied with
  | blocked hblocked => exact .blocked (h.blockedActionTypes hblocked)
  | killSwitch hautomatic hdisabled =>
    exact .killSwitch hautomatic (h.automaticRecoveryEnabled hdisabled)
  | suspicious hautomatic hsuspicious =>
    exact .suspicious hautomatic (hsuspicious.imp h.suspicious h.sourceMismatch)
  | retries hretry hreached =>
    have hmore := h.retryCount
    have hcap := h.maxRetryAttempts
    exact .retries hretry (by omega)
  | discount hoffer hdenied =>
    subst hoffer
    rw [restrictionRules_eq, if_pos rfl] at hjudged
    obtain ⟨discount, hdiscount, -⟩ := Lib.bind_eq_ok.mp hjudged
    exact .discount rfl (hdenied.stricter h hdiscount)
  | optOut hcommunicates hopted => exact .optOut hcommunicates (h.customerOptedOut hopted)
  | frequency hcommunicates hreached =>
    have hmore := h.communicationsLast24h
    have hcap := h.maxCommunicationsPerDay
    exact .frequency hcommunicates (by omega)
  | quietHours hreminder hquiet => exact .quietHours hreminder (h.quietHours hquiet)

theorem denied_stricter (h : evaluateAction ctx proposed = .ok r) (hstricter : Stricter ctx ctx')
    (h' : evaluateAction ctx' proposed = .ok r') (hdenied : r.allowed = false) :
    r'.allowed = false := by
  cases haction : RecoveryActionType.ofText? proposed.actionType with
  | none => exact (allowed_of_unknown h' haction).1
  | some action =>
    obtain ⟨value, restrictions, -, hrestrictions, -⟩ := evaluateAction_ok h' haction
    have hreason : Denied ctx proposed action := by
      by_contra hnone
      have hallowed := (allowed_iff h haction).mpr hnone
      rw [hdenied] at hallowed
      cases hallowed
    have hreason' := hreason.stricter hstricter hrestrictions
    rw [← Bool.not_eq_true, allowed_iff h' haction]
    exact fun hnone => hnone hreason'

/-! ## When there is a verdict -/

/-- The numbers that the policy engine compares are comparable. -/
structure Comparable (ctx : PolicyContext) (proposed : ProposedAction) : Prop where
  high : ctx.settings.highValueApprovalThreshold ≠ .nan
  medium : ctx.settings.mediumValueApprovalThreshold ≠ .nan
  discount : RecoveryActionType.ofText? proposed.actionType = some .offerDiscount →
    ∀ percent, proposed.discountPercent = some percent →
      percent ≠ .nan ∧ ctx.settings.maxDiscountPercent ≠ .nan ∧
      ctx.settings.maxDailyDiscountBudget ≠ .nan ∧
      ∃ amount projected, offeredAmount ctx proposed percent = some amount ∧
        ctx.discountSpentToday.toDecimal.add? amount = some projected ∧ projected ≠ .nan

theorem exceeds_ok {a b : Decimal} (ha : a ≠ .nan) (hb : b ≠ .nan) :
    ∃ result, exceeds a b = .ok result := by
  cases a <;> cases b <;> first | exact absurd rfl ha | exact absurd rfl hb | exact ⟨_, rfl⟩

theorem evaluateAction_returns (h : Comparable ctx proposed) :
    ∃ r, evaluateAction ctx proposed = .ok r := by
  have hmoney : ctx.case.amountAtRisk.toDecimal ≠ .nan := nofun
  obtain ⟨high, hhigh⟩ := exceeds_ok hmoney h.high
  obtain ⟨medium, hmedium⟩ := exceeds_ok hmoney h.medium
  unfold evaluateAction
  cases haction : RecoveryActionType.ofText? proposed.actionType with
  | none => exact ⟨_, rfl⟩
  | some action =>
    dsimp only
    -- the thresholds are compared for the risk of the value, the discount rules compare their own
    have hvalue : ∃ value, valueRisk ctx action = .ok value := by
      unfold valueRisk
      dsimp only
      rw [hhigh, hmedium]
      split
      · exact ⟨_, rfl⟩
      · cases high
        · cases medium <;> exact ⟨_, rfl⟩
        · exact ⟨_, rfl⟩
    have hdiscount : ∃ discount, (if action = .offerDiscount then discountRules ctx proposed
        else .ok []) = .ok discount := by
      split
      · rename_i hoffer
        subst hoffer
        cases hpercent : proposed.discountPercent with
        | none =>
          unfold discountRules
          rw [hpercent]
          exact ⟨_, rfl⟩
        | some percent =>
          -- percentage, projected sum and budget are all numbers that can be compared
          obtain ⟨hnumber, hcap, hbudget, amount, projected, hamount, hsum, hprojected⟩ :=
            h.discount haction percent hpercent
          obtain ⟨tooLarge, htooLarge⟩ := exceeds_ok hnumber hcap
          obtain ⟨overBudget, hover⟩ := exceeds_ok hprojected hbudget
          obtain ⟨positive, hpositive⟩ := exceeds_ok hnumber (b := .finite 0) nofun
          rw [discountRules_eq hpercent, htooLarge, signalling_eq_ok.mpr hamount]
          dsimp only [bind, Except.bind]
          rw [signalling_eq_ok.mpr hsum]
          dsimp only
          rw [hover]
          dsimp only
          rw [hpositive]
          exact ⟨_, rfl⟩
      · exact ⟨_, rfl⟩
    obtain ⟨value, hvalue⟩ := hvalue
    obtain ⟨discount, hdiscount⟩ := hdiscount
    rw [hvalue, restrictionRules_eq, hdiscount]
    exact ⟨_, rfl⟩

/-- There is a verdict where the numbers are comparable. A verdict allows exactly the known
actions without a reason to deny them, requires an approval exactly above the smaller
threshold, and a stricter context never allows what it denied. -/
theorem evaluateAction_specification (ctx : PolicyContext) (proposed : ProposedAction) :
    (Comparable ctx proposed → ∃ r, evaluateAction ctx proposed = .ok r) ∧
    ∀ r, evaluateAction ctx proposed = .ok r →
      (r.allowed = true ↔ ∃ action,
        RecoveryActionType.ofText? proposed.actionType = some action ∧
          ¬ Denied ctx proposed action) ∧
      (r.requiresApproval = true ↔ r.allowed = true ∧ ∃ action,
        RecoveryActionType.ofText? proposed.actionType = some action ∧
          action ≠ .escalate ∧ action ≠ .doNothing ∧
          ctx.case.amountAtRisk.toDecimal.gt? ctx.settings.smallerThreshold = some true) ∧
      ∀ ctx' r', Stricter ctx ctx' → evaluateAction ctx' proposed = .ok r' →
        r.allowed = false → r'.allowed = false := by
  refine ⟨evaluateAction_returns, fun r h => ?_⟩
  refine ⟨?_, ?_, fun ctx' r' hstricter h' hdenied => denied_stricter h hstricter h' hdenied⟩
  · cases haction : RecoveryActionType.ofText? proposed.actionType with
    | none => simp [(allowed_of_unknown h haction).1]
    | some action => simp [allowed_iff h haction]
  · cases haction : RecoveryActionType.ofText? proposed.actionType with
    | none => simp [(allowed_of_unknown h haction).2]
    | some action => simp [requiresApproval_iff h haction]

/-! ### A threshold that is no number -/

/-- The context of a case of ₹1,000 that nothing restricts, under given settings. -/
def samplePolicyContext (settings : RecoverySettings) : PolicyContext where
  case := sampleCase 0 100000 .policyCheck
  settings := settings
  now := 12 * hour
  retryCount := 0
  communicationsLast24h := 0
  discountSpentToday := 0
  blockedActionTypes := []
  customerOptedOut := false
  suspicious := false
  sourceMismatch := false
  discountEligible := true

/-- There is no reason to deny a retry there. -/
theorem samplePolicyContext_spares {settings : RecoverySettings}
    (henabled : settings.automaticRecoveryEnabled = true)
    (hretries : 0 < settings.maxRetryAttempts) :
    ¬ Denied (samplePolicyContext settings) { actionType := "RETRY_NOW" } .retryNow := by
  intro hdenied
  cases hdenied with
  | blocked hblocked => cases hblocked
  | killSwitch hautomatic hdisabled => exact absurd (henabled.symm.trans hdisabled) (by simp)
  | suspicious hautomatic hsuspicious => rcases hsuspicious with h | h <;> cases h
  | retries hretry hreached => exact absurd hretries (not_lt.mpr hreached)
  | discount hoffer hdenied => cases hoffer
  | optOut hcommunicates hopted => cases hopted
  | frequency hcommunicates hreached => revert hcommunicates; decide
  | quietHours hreminder hquiet => cases hreminder

/-- There is no reason to deny the retry, and yet it is not allowed. -/
theorem nanThreshold_no_verdict :
    ¬ ((∃ r, evaluateAction (samplePolicyContext { highValueApprovalThreshold := .nan })
          { actionType := "RETRY_NOW" } = .ok r ∧ r.allowed = true) ↔
        ∃ action, RecoveryActionType.ofText? "RETRY_NOW" = some action ∧
          ¬ Denied (samplePolicyContext { highValueApprovalThreshold := .nan })
            { actionType := "RETRY_NOW" } action) := by
  intro hallows
  have hraised : Lib.raised? (evaluateAction
      (samplePolicyContext { highValueApprovalThreshold := .nan })
      { actionType := "RETRY_NOW" }) = some (.crash "InvalidOperation") := by decide +kernel
  obtain ⟨r, hr, -⟩ :=
    hallows.mpr ⟨.retryNow, by decide +kernel, samplePolicyContext_spares rfl (by decide)⟩
  rw [hr] at hraised
  cases hraised

/-! ### An approval, and a denial that stays -/

/-- The context of a case above the smaller threshold. -/
def approvalContext : PolicyContext :=
  samplePolicyContext { mediumValueApprovalThreshold := .finite 500 }

/-- The same context after three retries. -/
def exhaustedContext : PolicyContext := { approvalContext with retryCount := 3 }

/-- The same context of a suspicious case, at night. -/
def strictContext : PolicyContext :=
  { exhaustedContext with suspicious := true, now := 22 * hour }

theorem strictContext_stricter : Stricter exhaustedContext strictContext where
  amountAtRisk := rfl
  retryCount := le_rfl
  communicationsLast24h := le_rfl
  discountSpentToday := le_rfl
  blockedActionTypes := List.Subset.refl _
  customerOptedOut := id
  suspicious := nofun
  sourceMismatch := id
  discountEligible := id
  automaticRecoveryEnabled := id
  maxRetryAttempts := le_rfl
  maxCommunicationsPerDay := le_rfl
  maxDiscountPercent := by unfold NotAbove; decide +kernel
  maxDailyDiscountBudget := by unfold NotAbove; decide +kernel
  quietHours := nofun

/-- A retry needs an approval, is denied after the third one, and stays denied in a stricter
context. -/
theorem evaluateAction_specification_retry :
    (∃ r, evaluateAction approvalContext { actionType := "RETRY_NOW" } = .ok r ∧
      r.allowed = true ∧ r.requiresApproval = true) ∧
    ∃ r, evaluateAction exhaustedContext { actionType := "RETRY_NOW" } = .ok r ∧
      r.allowed = false ∧
      ∃ r', evaluateAction strictContext { actionType := "RETRY_NOW" } = .ok r' ∧
        r'.allowed = false := by
  have hread : RecoveryActionType.ofText? "RETRY_NOW" = some .retryNow := by decide +kernel
  have hcomparable : ∀ ctx : PolicyContext, ctx.settings = approvalContext.settings →
      Comparable ctx { actionType := "RETRY_NOW" } := by
    intro ctx hsettings
    refine ⟨?_, ?_, fun h => absurd h (by decide +kernel)⟩
    · rw [hsettings]
      nofun
    · rw [hsettings]
      nofun
  obtain ⟨hreturns, hverdict⟩ := evaluateAction_specification approvalContext
    { actionType := "RETRY_NOW" }
  obtain ⟨hreturns', hverdict'⟩ := evaluateAction_specification exhaustedContext
    { actionType := "RETRY_NOW" }
  obtain ⟨r, hr⟩ := hreturns (hcomparable _ rfl)
  obtain ⟨r', hr'⟩ := hreturns' (hcomparable _ rfl)
  obtain ⟨r'', hr''⟩ := (evaluateAction_specification strictContext
    { actionType := "RETRY_NOW" }).1 (hcomparable _ rfl)
  have hallowed : r.allowed = true :=
    (hverdict r hr).1.mpr ⟨.retryNow, hread, samplePolicyContext_spares rfl (by decide)⟩
  have hdenied : r'.allowed = false := by
    by_contra hpermitted
    obtain ⟨action, haction, hspared⟩ :=
      (hverdict' r' hr').1.mp (by simpa using hpermitted)
    obtain rfl := Option.some.inj (hread.symm.trans haction)
    exact hspared (.retries (by decide) (by decide))
  refine ⟨⟨r, hr, hallowed, (hverdict r hr).2.1.mpr ⟨hallowed, .retryNow, hread, by decide,
    by decide, by decide +kernel⟩⟩, r', hr', hdenied, r'', hr'', ?_⟩
  exact (hverdict' r' hr').2.2 strictContext r'' strictContext_stricter hr'' hdenied

end ReviveX
