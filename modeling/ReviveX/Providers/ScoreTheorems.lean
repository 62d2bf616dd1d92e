import ReviveX.Providers.CaptureTheorems

/-!
# Factors and scores of an intervention

What the formulas of `intervention_recovery_probability` share, and the score that each action
makes of it. The factors of a context in range are bounded numbers, whatever the penalty on
attempts is, and no score of bounded factors signals.
-/

namespace ReviveX

open Lib (Decimal)
open Lib.Decimal (add? minus? mul? times? div? over? min? max? gt? ofExact Exact Within
  exact_digits exact_units exact_zero exact_one within_ofExact within_minus within_some
  ofExact_finite)

/-! ## Factors -/

/-- A rate is a number from 0 to 1. -/
def IsRate (d : Decimal) : Prop := ∃ q, d = .finite q ∧ 0 ≤ q ∧ q ≤ 1

/-- What `_dec` leaves of a rate that is not a NaN. -/
theorem isRate_dec {d : Decimal} (h : d ≠ .nan) : IsRate (dec (clampRate d)) := by
  have hround : ∀ q : ℚ, 0 ≤ q → q ≤ 1 → IsRate (dec (.finite q)) := fun q hlow hhigh =>
    ⟨_, rfl, roundSix_mem ⟨hlow, hhigh⟩⟩
  cases d with
  | nan => exact absurd rfl h
  | finite q => exact hround _ (le_min (le_max_right _ _) zero_le_one) (min_le_right _ _)
  | infinity negative =>
    cases negative with
    | true => exact hround 0 le_rfl zero_le_one
    | false => exact hround 1 zero_le_one le_rfl

namespace InterventionContext

/-- A context whose numbers are in range: no NaN, a quotient of the amounts that does not signal,
and no number beyond the limit. -/
structure InRange (context : InterventionContext) : Prop where
  success : context.historicalSuccessRate ≠ .nan
  recovery : context.historicalRecoveryRate ≠ .nan
  discount : context.previousDiscountUsage ≠ .nan
  age : ∀ hours, context.cartAgeHours = some hours → hours.number ≠ .nan
  value : context.customerLifetimeValue ≠ .nan
  ratio : gt? context.customerLifetimeValue (.finite 0) = some true →
    ∃ d, over? context.amount context.customerLifetimeValue = some d ∧ d ≠ .nan ∧
      ∀ q, d = .finite q → (-decimalLimit : ℚ) ≤ q
  attempts : context.attemptNumber ≤ decimalLimit
  failures : context.priorFailures ≤ decimalLimit
  communications : context.communicationCount ≤ decimalLimit

variable {context : InterventionContext}

theorem loyalty_within (hsuccess : IsRate context.success)
    (hrecovery : IsRate context.priorRecovery) :
    Within 0 (20 / 100) context.loyalty := by
  obtain ⟨s, hs, hs0, hs1⟩ := hsuccess
  obtain ⟨r, hr, hr0, hr1⟩ := hrecovery
  have hexact : Exact (12 / 100) := exact_digits 12 2 (by norm_num) (by norm_num)
  have hexact' : Exact (8 / 100) := exact_digits 8 2 (by norm_num) (by norm_num)
  have hexact'' : Exact (20 / 100) := exact_digits 20 2 (by norm_num) (by norm_num)
  unfold loyalty
  rw [hs, hr]
  have hbySuccess : Within 0 (12 / 100) (mul? (12 / 100) (.finite s)) :=
    within_ofExact exact_zero hexact (by positivity) (by linarith)
  refine hbySuccess.bind fun x hx0 hx1 => ?_
  have hbyRecovery : Within 0 (8 / 100) (mul? (8 / 100) (.finite r)) :=
    within_ofExact exact_zero hexact' (by positivity) (by linarith)
  refine hbyRecovery.bind fun y hy0 hy1 => ?_
  exact within_ofExact exact_zero hexact'' (by linarith) (by linarith)

/-- The fatigue is a share. -/
theorem fatigue_range {d : Decimal} (h : context.fatigue = some d) :
    ∃ q, d = .finite q ∧ 0 ≤ q ∧ q ≤ 1 := by
  obtain ⟨share, hshare, h⟩ := Option.bind_eq_some_iff.mp h
  obtain ⟨share, rfl⟩ := ofExact_finite hshare
  have hcount : (0 : ℚ) ≤ (max context.communicationCount 0 : ℤ) := by
    exact_mod_cast le_max_right context.communicationCount 0
  have hnonneg : 0 ≤ share := exact_zero.le_ofExact (by positivity) hshare
  rw [Decimal.min?_finite] at h
  exact ⟨_, (Option.some.inj h).symm, le_min zero_le_one hnonneg, min_le_left _ _⟩

theorem fatigue_within (h : context.communicationCount ≤ decimalLimit) :
    Within 0 1 context.fatigue := by
  have hlarge := decimalLimit_ge
  have hlarge' : (100 : ℤ) ≤ decimalLimit := by exact_mod_cast hlarge
  have hcount : (0 : ℚ) ≤ (max context.communicationCount 0 : ℤ) := by
    exact_mod_cast le_max_right context.communicationCount 0
  have hle : max context.communicationCount 0 ≤ decimalLimit := by omega
  have hcount' : ((max context.communicationCount 0 : ℤ) : ℚ) ≤ decimalLimit :=
    Int.cast_le.mpr hle
  have hshare : Within 0 decimalLimit
      (div? (.finite (max context.communicationCount 0 : ℤ)) 8) :=
    within_ofExact exact_zero (exact_limit 10 (by ring) (by norm_num)) (by positivity)
      (by linarith)
  refine hshare.bind fun share hlow _ => ?_
  rw [Decimal.min?_finite]
  exact within_some (le_min zero_le_one hlow) (min_le_left _ _)

/-- The penalty on the age of the cart, where it does not signal. -/
theorem cartPen_range {d : Decimal} (h : context.cartPen = some d) :
    ∃ q, d = .finite q ∧ 0 ≤ q ∧ q ≤ 28 / 100 := by
  unfold cartPen at h
  cases hage : context.cartAgeHours with
  | none =>
    rw [hage] at h
    exact ⟨0, (Option.some.inj h).symm, le_rfl, by norm_num⟩
  | some age =>
    rw [hage] at h
    obtain ⟨months, hmonths, h⟩ := Option.bind_eq_some_iff.mp h
    obtain ⟨scaled, hscaled, h⟩ := Option.bind_eq_some_iff.mp h
    -- a NaN signals when it is compared; an infinite age gives nothing or the cap
    cases hnumber : age.number with
    | nan =>
      rw [hnumber] at hmonths
      obtain rfl := Option.some.inj hmonths
      obtain rfl := Option.some.inj hscaled
      cases h
    | finite q =>
      rw [hnumber] at hmonths
      obtain ⟨months, rfl⟩ := ofExact_finite hmonths
      obtain ⟨scaled, rfl⟩ := ofExact_finite hscaled
      have hage0 : (0 : ℚ) ≤ max q 0 := le_max_right _ _
      have hmonths0 : 0 ≤ months := exact_zero.le_ofExact (by positivity) hmonths
      have hscaled0 : 0 ≤ scaled := exact_zero.le_ofExact (by positivity) hscaled
      rw [Decimal.min?_finite] at h
      exact ⟨_, (Option.some.inj h).symm, le_min (by norm_num) hscaled0, min_le_left _ _⟩
    | infinity negative =>
      rw [hnumber] at hmonths
      cases negative with
      | true =>
        have hzero : months = .finite 0 := by
          have hdiv : ofExact (0 / 720) = some months := hmonths
          rw [zero_div, Decimal.ofExact_zero] at hdiv
          exact (Option.some.inj hdiv).symm
        subst hzero
        have hscaled' : ofExact (28 / 100 * 0) = some scaled := hscaled
        rw [mul_zero, Decimal.ofExact_zero] at hscaled'
        obtain rfl := Option.some.inj hscaled'
        rw [Decimal.min?_finite] at h
        exact ⟨_, (Option.some.inj h).symm, le_min (by norm_num) le_rfl, min_le_left _ _⟩
      | false =>
        have hmonths' : months = .infinity false := by
          have hdiv : some (Decimal.infinity (false ^^ decide ((720 : ℚ) < 0))) = some months :=
            hmonths
          rw [decide_eq_false (by norm_num)] at hdiv
          exact (Option.some.inj hdiv).symm
        subst hmonths'
        have hscaled' : scaled = .infinity false := by
          dsimp only [mul?] at hscaled
          rw [if_neg (by norm_num), decide_eq_false (by norm_num)] at hscaled
          exact (Option.some.inj hscaled).symm
        subst hscaled'
        exact ⟨28 / 100, (Option.some.inj h).symm, by norm_num, le_rfl⟩

theorem cartPen_within (h : ∀ hours, context.cartAgeHours = some hours → hours.number ≠ .nan) :
    Within 0 (28 / 100) context.cartPen := by
  suffices hsome : ∃ d, context.cartPen = some d by
    obtain ⟨d, hd⟩ := hsome
    obtain ⟨q, rfl, hlow, hhigh⟩ := cartPen_range hd
    rw [hd]
    exact within_some hlow hhigh
  unfold cartPen
  cases hage : context.cartAgeHours with
  | none => exact ⟨_, rfl⟩
  | some age =>
    dsimp only
    cases hnumber : age.number with
    | nan => exact absurd hnumber (h age hage)
    | infinity negative =>
      cases negative with
      | true =>
        have hzero : ofExact ((0 : ℚ) / 720) = some (.finite 0) := by
          rw [zero_div, Decimal.ofExact_zero]
        have hzero' : ofExact ((28 / 100 : ℚ) * 0) = some (.finite 0) := by
          rw [mul_zero, Decimal.ofExact_zero]
        exact ⟨_, Option.bind_eq_some_iff.mpr ⟨_, hzero,
          Option.bind_eq_some_iff.mpr ⟨_, hzero', Decimal.min?_finite _ _⟩⟩⟩
      | false =>
        have hscaled : mul? (28 / 100) (.infinity (false ^^ decide ((720 : ℚ) < 0))) =
            some (.infinity false) := by
          dsimp only [mul?]
          rw [if_neg (by norm_num), decide_eq_false (by norm_num), decide_eq_false (by norm_num)]
          rfl
        exact ⟨.finite (28 / 100), Option.bind_eq_some_iff.mpr ⟨_, rfl,
          Option.bind_eq_some_iff.mpr ⟨_, hscaled, rfl⟩⟩⟩
    | finite q =>
      have hbound := age.abs_lt q hnumber
      have hexact : Exact (10 ^ 309) := by
        refine exact_units 1 309 ?_ (by norm_num) (by norm_num)
        norm_num
      have hmax : max q 0 ≤ 10 ^ 309 := max_le ((le_abs_self q).trans hbound.le) (by positivity)
      have hnonneg : (0 : ℚ) ≤ max q 0 := le_max_right _ _
      generalize (10 : ℚ) ^ 309 = largest at hexact hmax
      have hwithin : Within 0 (28 / 100) (do
          let months ← div? (.finite (max q 0)) 720
          let scaled ← mul? (28 / 100) months
          min? (.finite (28 / 100)) scaled) := by
        have hmonths : Within 0 largest (div? (.finite (max q 0)) 720) :=
          within_ofExact exact_zero hexact (by positivity) (by linarith)
        refine hmonths.bind fun months hlow hhigh => ?_
        have hscaled : Within 0 largest (mul? (28 / 100) (.finite months)) :=
          within_ofExact exact_zero hexact (by positivity) (by linarith)
        refine hscaled.bind fun scaled hlow' _ => ?_
        rw [Decimal.min?_finite]
        exact within_some (le_min (by norm_num) hlow') (min_le_left _ _)
      obtain ⟨r, hr, -⟩ := hwithin
      exact ⟨_, hr⟩

theorem attemptPen_range {d : Decimal} (h : context.attemptPen = some d) :
    ∃ q, d = .finite q ∧ 0 ≤ q := by
  obtain ⟨q, rfl⟩ := ofExact_finite h
  have hnonneg : (0 : ℚ) ≤ (max (max context.attemptNumber 1 - 1) 0 : ℤ) := by
    exact_mod_cast le_max_right (max context.attemptNumber 1 - 1) 0
  exact ⟨q, rfl, exact_zero.le_ofExact (by positivity) h⟩

theorem attemptPen_within (h : context.attemptNumber ≤ decimalLimit) :
    Within 0 (decimalLimit / 10) context.attemptPen := by
  have hlarge := decimalLimit_ge
  have hlarge' : (100 : ℤ) ≤ decimalLimit := by exact_mod_cast hlarge
  have hnonneg : (0 : ℚ) ≤ (max (max context.attemptNumber 1 - 1) 0 : ℤ) := by
    exact_mod_cast le_max_right (max context.attemptNumber 1 - 1) 0
  have hle : max (max context.attemptNumber 1 - 1) 0 ≤ decimalLimit := by omega
  have hle' : ((max (max context.attemptNumber 1 - 1) 0 : ℤ) : ℚ) ≤ decimalLimit :=
    Int.cast_le.mpr hle
  exact within_ofExact exact_zero (exact_limit 1 (by push_cast; ring) (by norm_num))
    (by positivity) (by linarith)

/-- The penalty on what exceeds a ratio of 1. -/
theorem excess_within {d : Decimal} (hnan : d ≠ .nan) (hle : gt? d (.finite 5) = some false)
    (hlow : ∀ q, d = .finite q → (-decimalLimit : ℚ) ≤ q) :
    Within 0 (16 / 100) (do
      let excess ← minus? d (.finite 1)
      let excess ← max? excess (.finite 0)
      mul? (4 / 100) excess) := by
  have hlarge := decimalLimit_ge
  cases d with
  | nan => exact absurd rfl hnan
  | infinity negative =>
    cases negative with
    | false => cases hle
    | true =>
      have hzero : ofExact ((4 / 100 : ℚ) * 0) = some (.finite 0) := by
        rw [mul_zero, Decimal.ofExact_zero]
      exact ⟨0, hzero, le_rfl, by norm_num⟩
  | finite q =>
    have hq : q ≤ 5 := not_lt.mp (of_decide_eq_false (Option.some.inj hle))
    have hq' := hlow q rfl
    have hfour : Exact 4 := exact_digits 4 0 (by norm_num) (by norm_num)
    have hexcess : Within (-2 * decimalLimit) 4 (minus? (.finite q) (.finite 1)) := by
      rw [Decimal.minus?_finite]
      exact within_ofExact (exact_limit (-20) (by push_cast; ring) (by norm_num)) hfour
        (by linarith) (by linarith)
    refine hexcess.bind fun excess _ hhigh => ?_
    simp only [Decimal.max?_finite, Option.bind_eq_bind, Option.bind_some]
    have hnonneg : 0 ≤ max excess 0 := le_max_right _ _
    have hmax : max excess 0 ≤ 4 := max_le hhigh (by norm_num)
    exact within_ofExact exact_zero (exact_digits 16 2 (by norm_num) (by norm_num))
      (by positivity) (by linarith)

theorem amountRatio_eq_zero (h : gt? context.customerLifetimeValue (.finite 0) = some false) :
    context.amountRatio = some (.finite 0) := by
  unfold amountRatio
  dsimp only
  rw [h]
  rfl

theorem amountRatio_eq_min {d : Decimal}
    (h : gt? context.customerLifetimeValue (.finite 0) = some true)
    (hd : over? context.amount context.customerLifetimeValue = some d) :
    context.amountRatio = min? d (.finite 5) := by
  unfold amountRatio
  dsimp only
  rw [h, hd]
  rfl

theorem highAmountPen_within (h : context.InRange) :
    Within 0 (16 / 100) context.highAmountPen := by
  suffices hratio : ∃ d, context.amountRatio = some d ∧ d ≠ .nan ∧
      gt? d (.finite 5) = some false ∧ ∀ q, d = .finite q → (-decimalLimit : ℚ) ≤ q by
    obtain ⟨d, hd, hnan, hle, hlow⟩ := hratio
    obtain ⟨q, hq, hbounds⟩ := excess_within hnan hle hlow
    exact ⟨q, Option.bind_eq_some_iff.mpr ⟨d, hd, hq⟩, hbounds⟩
  have hlarge := decimalLimit_ge
  have hfive : gt? (.finite 5) (.finite 5) = some false := by
    rw [Decimal.gt?_finite, decide_eq_false (lt_irrefl _)]
  cases hpositive : gt? context.customerLifetimeValue (.finite 0) with
  | none =>
    cases hvalue : context.customerLifetimeValue with
    | nan => exact absurd hvalue h.value
    | finite q =>
      rw [hvalue] at hpositive
      cases hpositive
    | infinity negative =>
      rw [hvalue] at hpositive
      cases hpositive
  | some positive =>
    cases positive with
    | false =>
      refine ⟨.finite 0, amountRatio_eq_zero hpositive, nofun, ?_, ?_⟩
      · rw [Decimal.gt?_finite, decide_eq_false (by norm_num)]
      · intro q hq
        obtain rfl := Decimal.finite.inj hq
        linarith
    | true =>
      obtain ⟨d, hd, hnan, hlow⟩ := h.ratio hpositive
      rw [amountRatio_eq_min hpositive hd]
      -- the ratio is cut off at 5
      cases d with
      | nan => exact absurd rfl hnan
      | infinity negative =>
        cases negative with
        | false =>
          refine ⟨.finite 5, rfl, nofun, hfive, ?_⟩
          intro q hq
          obtain rfl := Decimal.finite.inj hq
          linarith
        | true => exact ⟨.infinity true, rfl, nofun, rfl, nofun⟩
      | finite q =>
        refine ⟨.finite (min q 5), Decimal.min?_finite q 5, nofun, ?_, ?_⟩
        · rw [Decimal.gt?_finite, decide_eq_false (not_lt.mpr (min_le_right _ _))]
        · intro r hr
          obtain rfl := Decimal.finite.inj hr
          exact le_min (hlow q rfl) (by linarith)

end InterventionContext

/-- Where the factors of a context come from. -/
theorem InterventionContext.factors_eq_some {context : InterventionContext}
    {f : InterventionFactors} (h : context.factors = some f) :
    captureProbability? context.failureReason (max context.attemptNumber 1)
        context.priorFailures = some f.retryBase ∧
      context.loyalty = some f.loyalty ∧ context.fatigue = some f.fatigue ∧
      context.cartPen = some f.cartPen ∧ context.attemptPen = some f.attemptPen ∧
      context.highAmountPen = some f.highAmountPen ∧ context.success = f.success := by
  unfold InterventionContext.factors at h
  obtain ⟨retryBase, hretry, h⟩ := Option.bind_eq_some_iff.mp h
  obtain ⟨loyalty, hloyalty, h⟩ := Option.bind_eq_some_iff.mp h
  obtain ⟨fatigue, hfatigue, h⟩ := Option.bind_eq_some_iff.mp h
  obtain ⟨cartPen, hcart, h⟩ := Option.bind_eq_some_iff.mp h
  obtain ⟨attemptPen, hattempt, h⟩ := Option.bind_eq_some_iff.mp h
  obtain ⟨highAmountPen, hhigh, h⟩ := Option.bind_eq_some_iff.mp h
  obtain rfl := Option.some.inj h
  exact ⟨hretry, hloyalty, hfatigue, hcart, hattempt, hhigh, rfl⟩

/-- Factors that are numbers, each within its bounds. -/
structure InterventionFactors.Bounded (f : InterventionFactors) : Prop where
  retryBase : Within 0 (80 / 100) (some f.retryBase)
  success : Within 0 1 (some f.success)
  loyalty : Within 0 (20 / 100) (some f.loyalty)
  fatigue : Within 0 1 (some f.fatigue)
  discountUsed : Within 0 1 (some f.discountUsed)
  cartPen : Within 0 (28 / 100) (some f.cartPen)
  attemptPen : Within 0 (decimalLimit / 10) (some f.attemptPen)
  highAmountPen : Within 0 (16 / 100) (some f.highAmountPen)

/-- The factors of a context in range. -/
theorem InterventionContext.InRange.factors {context : InterventionContext}
    (h : context.InRange) : ∃ f, context.factors = some f ∧ f.Bounded := by
  have hlarge := decimalLimit_ge
  have hlarge' : (100 : ℤ) ≤ decimalLimit := by exact_mod_cast hlarge
  have hattempt : max context.attemptNumber 1 ≤ decimalLimit := max_le h.attempts (by omega)
  obtain ⟨retryBase, hretry, hretryBounds⟩ :=
    captureProbability?_within context.failureReason hattempt h.failures
  obtain ⟨success, hsuccess, hsuccessBounds⟩ := isRate_dec h.success
  obtain ⟨loyalty, hloyalty, hloyaltyBounds⟩ :=
    loyalty_within (isRate_dec h.success) (isRate_dec h.recovery)
  obtain ⟨fatigue, hfatigue, hfatigueBounds⟩ := fatigue_within h.communications
  obtain ⟨discountUsed, hdiscount, hdiscountBounds⟩ := isRate_dec h.discount
  obtain ⟨cartPen, hcart, hcartBounds⟩ := cartPen_within h.age
  obtain ⟨attemptPen, hattemptPen, hattemptBounds⟩ := attemptPen_within h.attempts
  obtain ⟨highAmountPen, hhigh, hhighBounds⟩ := highAmountPen_within h
  refine ⟨{
    retryBase := .finite retryBase
    success := .finite success
    loyalty := .finite loyalty
    fatigue := .finite fatigue
    discountUsed := .finite discountUsed
    cartPen := .finite cartPen
    attemptPen := .finite attemptPen
    highAmountPen := .finite highAmountPen }, ?_,
    ⟨_, rfl, hretryBounds⟩, ⟨_, rfl, hsuccessBounds⟩, ⟨_, rfl, hloyaltyBounds⟩,
    ⟨_, rfl, hfatigueBounds⟩, ⟨_, rfl, hdiscountBounds⟩, ⟨_, rfl, hcartBounds⟩,
    ⟨_, rfl, hattemptBounds⟩, ⟨_, rfl, hhighBounds⟩⟩
  unfold InterventionContext.factors
  rw [hretry, hloyalty, hfatigue, hcart, hattemptPen, hhigh, hdiscount]
  unfold InterventionContext.success
  rw [hsuccess]
  rfl

/-! ## Scores -/

/-- Bounds that scores are kept in. -/
theorem exact_bounds : Exact (-decimalLimit : ℚ) ∧ Exact (-(decimalLimit / 2) : ℚ) ∧
    Exact (-2) ∧ Exact 2 ∧ Exact 3 :=
  ⟨exact_limit (-10) (by push_cast; ring) (by norm_num),
    exact_limit (-5) (by push_cast; ring) (by norm_num),
    exact_digits (-2) 0 (by norm_num) (by norm_num), exact_digits 2 0 (by norm_num) (by norm_num),
    exact_digits 3 0 (by norm_num) (by norm_num)⟩

namespace InterventionFactors

variable {f : InterventionFactors} (reason : Option FailureReason) (abandoned : Bool)

theorem withBonus_within {lo hi hi' q bonus : ℚ} (applies : Bool) (hlo : Exact lo)
    (hhi : Exact hi') (hle : lo ≤ q) (hge : q ≤ hi) (hbonus : 0 ≤ bonus)
    (hbonus' : hi + bonus ≤ hi') :
    Within lo hi' (withBonus (.finite q) bonus applies) := by
  cases applies with
  | true => exact within_ofExact hlo hhi (by linarith) (by linarith)
  | false => exact within_some hle (by linarith)

theorem retryNowScore_within (h : f.Bounded) :
    Within (-decimalLimit) 3 (f.retryNowScore reason) := by
  obtain ⟨hlimit, hhalf, hneg, htwo, hthree⟩ := exact_bounds
  have hlarge := decimalLimit_ge
  obtain ⟨retryBase, hretry, hretry0, hretry1⟩ := h.retryBase.value
  obtain ⟨loyalty, hloyalty, hloyalty0, hloyalty1⟩ := h.loyalty.value
  obtain ⟨cartPen, hcart, hcart0, hcart1⟩ := h.cartPen.value
  obtain ⟨attemptPen, hattempt, hattempt0, hattempt1⟩ := h.attemptPen.value
  obtain ⟨highAmountPen, hhigh, hhigh0, hhigh1⟩ := h.highAmountPen.value
  unfold retryNowScore
  rw [hretry, hloyalty, hcart, hattempt, hhigh]
  have hbase : Within 0 2 (add? (.finite retryBase) (.finite loyalty)) :=
    within_ofExact exact_zero htwo (by linarith) (by linarith)
  refine hbase.bind fun p hp0 hp1 => ?_
  have hafterCart : Within (-2) 2 (minus? (.finite p) (.finite cartPen)) :=
    within_minus hneg htwo (by linarith) (by linarith)
  refine hafterCart.bind fun p hp0 hp1 => ?_
  have hafterAttempts : Within (-(decimalLimit / 2)) 2
      (minus? (.finite p) (.finite attemptPen)) :=
    within_minus hhalf htwo (by linarith) (by linarith)
  refine hafterAttempts.bind fun p hp0 hp1 => ?_
  have hafterAmount : Within (-decimalLimit) 2
      (minus? (.finite p) (.finite highAmountPen)) :=
    within_minus hlimit htwo (by linarith) (by linarith)
  refine hafterAmount.bind fun p hp0 hp1 => ?_
  have hcapped : ∀ bonus cap : ℚ, 0 ≤ bonus → bonus ≤ 1 → 0 ≤ cap →
      Within (-decimalLimit) 3 (do
        let p ← add? (.finite p) (.finite bonus)
        min? (.finite cap) p) := by
    intro bonus cap hbonus hbonus' hcap
    have hsum : Within (-decimalLimit) 3 (add? (.finite p) (.finite bonus)) :=
      within_ofExact hlimit hthree (by linarith) (by linarith)
    refine hsum.bind fun p hp0 hp1 => ?_
    rw [Decimal.min?_finite]
    exact within_some (le_min (by linarith) hp0) ((min_le_right _ _).trans hp1)
  have hplain : Within (-decimalLimit) 3 (some (.finite p)) := within_some hp0 (by linarith)
  cases reason with
  | none => exact hplain
  | some reason =>
    cases reason with
    | insufficientFunds => exact within_ofExact hlimit hthree (by linarith) (by linarith)
    | temporaryBankError => exact hcapped _ _ (by norm_num) (by norm_num) (by norm_num)
    | networkTimeout => exact hcapped _ _ (by norm_num) (by norm_num) (by norm_num)
    | expiredCard =>
      dsimp only
      rw [Decimal.min?_finite]
      exact within_some (le_min hp0 (by linarith)) ((min_le_left _ _).trans (by linarith))
    | declined => exact hplain
    | mandateFailure => exact hplain
    | customerCancelled => exact hplain
    | unknown => exact hplain

theorem retryLaterScore_within (h : f.Bounded) :
    Within (-decimalLimit) 3 (f.retryLaterScore reason) := by
  obtain ⟨hlimit, hhalf, hneg, htwo, hthree⟩ := exact_bounds
  have hlarge := decimalLimit_ge
  obtain ⟨retryBase, hretry, hretry0, hretry1⟩ := h.retryBase.value
  obtain ⟨loyalty, hloyalty, hloyalty0, hloyalty1⟩ := h.loyalty.value
  obtain ⟨cartPen, hcart, hcart0, hcart1⟩ := h.cartPen.value
  obtain ⟨attemptPen, hattempt, hattempt0, hattempt1⟩ := h.attemptPen.value
  obtain ⟨highAmountPen, hhigh, hhigh0, hhigh1⟩ := h.highAmountPen.value
  unfold retryLaterScore
  rw [hretry, hloyalty, hcart, hattempt, hhigh]
  have hbase : Within 0 2 (add? (.finite retryBase) (.finite loyalty)) :=
    within_ofExact exact_zero htwo (by linarith) (by linarith)
  have hscaled : Within 0 2 (mul? (215 / 100) (.finite retryBase)) :=
    within_ofExact exact_zero htwo (by linarith) (by linarith)
  obtain ⟨base, hbase, hbase0, hbase1⟩ := hbase
  rw [hbase]
  -- cart, attempts and amount are taken off one after the other, each within its own bound
  have hafterCart : Within (-2) 2 (minus? (.finite base) (.finite cartPen)) :=
    within_minus hneg htwo (by linarith) (by linarith)
  refine hafterCart.bind fun p hp0 hp1 => ?_
  have hlight : Within 0 (decimalLimit / 10) (mul? (2 / 100) (.finite attemptPen)) :=
    within_ofExact exact_zero (exact_limit 1 (by push_cast; ring) (by norm_num)) (by linarith)
      (by linarith)
  refine hlight.bind fun light hlight0 hlight1 => ?_
  have hafterAttempts : Within (-(decimalLimit / 2)) 2 (minus? (.finite p) (.finite light)) :=
    within_minus hhalf htwo (by linarith) (by linarith)
  refine hafterAttempts.bind fun p hp0 hp1 => ?_
  have hafterAmount : Within (-decimalLimit) 2 (minus? (.finite p) (.finite highAmountPen)) :=
    within_minus hlimit htwo (by linarith) (by linarith)
  refine hafterAmount.bind fun p hp0 hp1 => ?_
  have hplain : Within (-decimalLimit) 3 (some (.finite p)) := within_some hp0 (by linarith)
  -- three reasons have their own score, the others the plain one
  cases reason with
  | none => exact hplain
  | some reason =>
    cases reason with
    | insufficientFunds =>
      refine hscaled.bind fun p hp0 hp1 => ?_
      have hsum : Within 0 3 (add? (.finite p) (.finite loyalty)) :=
        within_ofExact exact_zero hthree (by linarith) (by linarith)
      refine hsum.bind fun p hp0 hp1 => ?_
      have hafterCart : Within (-2) 3 (minus? (.finite p) (.finite cartPen)) :=
        within_minus hneg hthree (by linarith) (by linarith)
      refine hafterCart.bind fun p hp0 hp1 => ?_
      rw [Decimal.min?_finite]
      exact within_some (le_min (by linarith) (by linarith))
        ((min_le_left _ _).trans (by norm_num))
    | temporaryBankError =>
      have hless : Within (-2) 2 (minus? (.finite base) (.finite (3 / 100))) :=
        within_minus hneg htwo (by linarith) (by linarith)
      exact hless.mono (by linarith) (by norm_num)
    | expiredCard =>
      dsimp only
      rw [Decimal.min?_finite]
      exact within_some (le_min hp0 (by linarith)) ((min_le_left _ _).trans (by linarith))
    | networkTimeout => exact hplain
    | declined => exact hplain
    | mandateFailure => exact hplain
    | customerCancelled => exact hplain
    | unknown => exact hplain

/-- The score of a link before the penalty on attempts is a small number, whatever they are. -/
theorem plainLinkScore_within (h : f.Bounded) : Within (-decimalLimit) 2 f.plainLinkScore := by
  obtain ⟨hlimit, hhalf, hneg, htwo, hthree⟩ := exact_bounds
  have hlarge := decimalLimit_ge
  obtain ⟨success, hsuccess, hsuccess0, hsuccess1⟩ := h.success.value
  obtain ⟨loyalty, hloyalty, hloyalty0, hloyalty1⟩ := h.loyalty.value
  obtain ⟨cartPen, hcart, hcart0, hcart1⟩ := h.cartPen.value
  obtain ⟨attemptPen, hattempt, hattempt0, hattempt1⟩ := h.attemptPen.value
  unfold plainLinkScore
  rw [hsuccess, hloyalty, hcart, hattempt]
  have hbase : Within 0 1 (add? (.finite (18 / 100)) (.finite loyalty)) :=
    within_ofExact exact_zero exact_one (by linarith) (by linarith)
  refine hbase.bind fun p hp0 hp1 => ?_
  have hbySuccess : Within 0 1 (mul? (8 / 100) (.finite success)) :=
    within_ofExact exact_zero exact_one (by linarith) (by linarith)
  refine hbySuccess.bind fun bySuccess hby0 hby1 => ?_
  have hsum : Within 0 2 (add? (.finite p) (.finite bySuccess)) :=
    within_ofExact exact_zero htwo (by linarith) (by linarith)
  refine hsum.bind fun p hp0 hp1 => ?_
  have hafterCart : Within (-2) 2 (minus? (.finite p) (.finite cartPen)) :=
    within_minus hneg htwo (by linarith) (by linarith)
  refine hafterCart.bind fun p hp0 hp1 => ?_
  exact within_minus hlimit htwo (by linarith) (by linarith)

/-- An expired card does not count against a link. -/
theorem expiredLink_within (hsuccess : Within 0 1 (some f.success))
    (hcart : Within 0 (28 / 100) (some f.cartPen)) :
    Within (1 / 10) 2 (do
      let bySuccess ← mul? (22 / 100) f.success
      let p ← add? (.finite (42 / 100)) bySuccess
      minus? p f.cartPen) := by
  obtain ⟨success, hsuccess, hsuccess0, hsuccess1⟩ := hsuccess.value
  obtain ⟨cartPen, hcart, hcart0, hcart1⟩ := hcart.value
  rw [hsuccess, hcart]
  have hbySuccess : Within 0 1 (mul? (22 / 100) (.finite success)) :=
    within_ofExact exact_zero exact_one (by linarith) (by linarith)
  refine hbySuccess.bind fun bySuccess hby0 hby1 => ?_
  have hsum : Within (42 / 100) 2 (add? (.finite (42 / 100)) (.finite bySuccess)) :=
    within_ofExact (exact_digits 42 2 (by norm_num) (by norm_num))
      (exact_digits 2 0 (by norm_num) (by norm_num)) (by linarith) (by linarith)
  refine hsum.bind fun p hp0 hp1 => ?_
  exact within_minus (exact_digits 1 1 (by norm_num) (by norm_num))
    (exact_digits 2 0 (by norm_num) (by norm_num)) (by linarith) (by linarith)

theorem declinedLink_within (hloyalty : Within 0 (20 / 100) (some f.loyalty)) :
    Within (1 / 10) 2 (add? (.finite (22 / 100)) f.loyalty) := by
  obtain ⟨loyalty, hloyalty, hloyalty0, hloyalty1⟩ := hloyalty.value
  rw [hloyalty]
  exact within_ofExact (exact_digits 1 1 (by norm_num) (by norm_num))
    (exact_digits 2 0 (by norm_num) (by norm_num)) (by linarith) (by linarith)

/-- After a bank error, a link shares the chance of a retry, which has a floor. -/
theorem bankLink_within {lo share : ℚ} (hretry : Within lo (80 / 100) (some f.retryBase))
    (hshare : Exact share) (hexact : Exact (share + 8 / 100)) (hle : share ≤ 55 / 100 * lo) :
    Within (share + 8 / 100) 2 (do
      let p ← mul? (55 / 100) f.retryBase
      add? p (.finite (8 / 100))) := by
  obtain ⟨retryBase, hretry, hretry0, hretry1⟩ := hretry.value
  rw [hretry]
  have hscaled : Within share 1 (mul? (55 / 100) (.finite retryBase)) :=
    within_ofExact hshare exact_one (by linarith) (by linarith)
  refine hscaled.bind fun p hp0 hp1 => ?_
  exact within_ofExact hexact (exact_digits 2 0 (by norm_num) (by norm_num)) (by linarith)
    (by linarith)

theorem linkScoreFor_within {p : ℚ} (h : f.Bounded) (hlow : -decimalLimit ≤ p) (hhigh : p ≤ 2) :
    Within (-decimalLimit) 2 (f.linkScoreFor reason (.finite p)) := by
  have hlarge := decimalLimit_ge
  have hplain : Within (-decimalLimit) 2 (some (.finite p)) := within_some hlow hhigh
  have hbank := bankLink_within h.retryBase exact_zero
    (exact_digits 8 2 (by norm_num) (by norm_num)) (by norm_num)
  cases reason with
  | none => exact hplain
  | some reason =>
    cases reason with
    | expiredCard =>
      exact (expiredLink_within h.success h.cartPen).mono (by linarith) le_rfl
    | declined => exact (declinedLink_within h.loyalty).mono (by linarith) le_rfl
    | temporaryBankError => exact hbank.mono (by linarith) le_rfl
    | insufficientFunds => exact hplain
    | networkTimeout => exact hplain
    | mandateFailure => exact hplain
    | customerCancelled => exact hplain
    | unknown => exact hplain

theorem sendPaymentLinkScore_within (h : f.Bounded) :
    Within (-decimalLimit) 3 (f.sendPaymentLinkScore reason abandoned) := by
  obtain ⟨hlimit, hhalf, hneg, htwo, hthree⟩ := exact_bounds
  refine (plainLinkScore_within h).bind fun p hp0 hp1 => ?_
  refine (linkScoreFor_within reason h hp0 hp1).bind fun p hp0 hp1 => ?_
  exact withBonus_within abandoned hlimit hthree hp0 hp1 (by norm_num) (by norm_num)

theorem sendReminderScore_within (quietHour : Bool) (h : f.Bounded) :
    Within (-decimalLimit) 3 (f.sendReminderScore reason abandoned quietHour) := by
  obtain ⟨hlimit, hhalf, hneg, htwo, hthree⟩ := exact_bounds
  have hlarge := decimalLimit_ge
  obtain ⟨success, hsuccess, hsuccess0, hsuccess1⟩ := h.success.value
  obtain ⟨fatigue, hfatigue, hfatigue0, hfatigue1⟩ := h.fatigue.value
  obtain ⟨cartPen, hcart, hcart0, hcart1⟩ := h.cartPen.value
  obtain ⟨attemptPen, hattempt, hattempt0, hattempt1⟩ := h.attemptPen.value
  unfold sendReminderScore
  rw [hsuccess, hfatigue, hcart, hattempt]
  have hbySuccess : Within 0 1 (mul? (20 / 100) (.finite success)) :=
    within_ofExact exact_zero exact_one (by linarith) (by linarith)
  refine hbySuccess.bind fun bySuccess hby0 hby1 => ?_
  have hsum : Within 0 2 (add? (.finite (14 / 100)) (.finite bySuccess)) :=
    within_ofExact exact_zero htwo (by linarith) (by linarith)
  refine hsum.bind fun p hp0 hp1 => ?_
  have hbyFatigue : Within 0 1 (mul? (22 / 100) (.finite fatigue)) :=
    within_ofExact exact_zero exact_one (by linarith) (by linarith)
  refine hbyFatigue.bind fun byFatigue hby0 hby1 => ?_
  have hafterFatigue : Within (-2) 2 (minus? (.finite p) (.finite byFatigue)) :=
    within_minus hneg htwo (by linarith) (by linarith)
  refine hafterFatigue.bind fun p hp0 hp1 => ?_
  have hafterCart : Within (-3) 2 (minus? (.finite p) (.finite cartPen)) :=
    within_minus (exact_digits (-3) 0 (by norm_num) (by norm_num)) htwo (by linarith)
      (by linarith)
  refine hafterCart.bind fun p hp0 hp1 => ?_
  have hafterAttempts : Within (-(decimalLimit / 2)) 2
      (minus? (.finite p) (.finite attemptPen)) :=
    within_minus hhalf htwo (by linarith) (by linarith)
  refine hafterAttempts.bind fun p hp0 hp1 => ?_
  have hquiet : Within (-decimalLimit) 2 (withDeduction (.finite p) (5 / 100) quietHour) := by
    cases quietHour with
    | true => exact within_minus hlimit htwo (by linarith) (by linarith)
    | false => exact within_some (by linarith) hp1
  refine hquiet.bind fun p hp0 hp1 => ?_
  have hbonus : Within (-decimalLimit) 3 (withBonus (.finite p) (4 / 100) abandoned) :=
    withBonus_within abandoned hlimit hthree hp0 hp1 (by norm_num) (by norm_num)
  refine hbonus.bind fun p hp0 hp1 => ?_
  have hplain : Within (-decimalLimit) 3 (some (.finite p)) := within_some hp0 hp1
  cases reason with
  | none => exact hplain
  | some reason =>
    cases reason with
    | expiredCard => exact within_ofExact hlimit hthree (by linarith) (by linarith)
    | temporaryBankError => exact hplain
    | insufficientFunds => exact hplain
    | declined => exact hplain
    | networkTimeout => exact hplain
    | mandateFailure => exact hplain
    | customerCancelled => exact hplain
    | unknown => exact hplain

theorem offerDiscountScore_within (h : f.Bounded) :
    Within (-decimalLimit) 3 (f.offerDiscountScore reason abandoned) := by
  obtain ⟨hlimit, hhalf, hneg, htwo, hthree⟩ := exact_bounds
  have hlarge := decimalLimit_ge
  have htenth : Exact (1 / 10) := exact_digits 1 1 (by norm_num) (by norm_num)
  have hfive : Exact (1 / 2) := exact_digits 5 1 (by norm_num) (by norm_num)
  obtain ⟨success, hsuccess, hsuccess0, hsuccess1⟩ := h.success.value
  obtain ⟨discountUsed, hdiscount, hdiscount0, hdiscount1⟩ := h.discountUsed.value
  obtain ⟨cartPen, hcart, hcart0, hcart1⟩ := h.cartPen.value
  obtain ⟨highAmountPen, hhigh, hhigh0, hhigh1⟩ := h.highAmountPen.value
  unfold offerDiscountScore
  rw [hsuccess, hdiscount, hcart, hhigh]
  have hused : Within 0 1 (mul? (70 / 100) (.finite discountUsed)) :=
    within_ofExact exact_zero exact_one (by linarith) (by linarith)
  refine hused.bind fun used hused0 hused1 => ?_
  have hnovelty : Within 0 1 (minus? (.finite 1) (.finite used)) :=
    within_minus exact_zero exact_one (by linarith) (by linarith)
  refine hnovelty.bind fun novelty hnovelty0 hnovelty1 => ?_
  have hbySuccess : Within 0 (2 / 10) (mul? (16 / 100) (.finite success)) :=
    within_ofExact exact_zero (exact_digits 2 1 (by norm_num) (by norm_num)) (by linarith)
      (by linarith)
  refine hbySuccess.bind fun bySuccess hby0 hby1 => ?_
  have hsum : Within 0 (4 / 10) (add? (.finite (20 / 100)) (.finite bySuccess)) :=
    within_ofExact exact_zero (exact_digits 4 1 (by norm_num) (by norm_num)) (by linarith)
      (by linarith)
  refine hsum.bind fun p hp0 hp1 => ?_
  have hbyNovelty : Within 0 (1 / 10) (mul? (8 / 100) (.finite novelty)) :=
    within_ofExact exact_zero htenth (by linarith) (by linarith)
  refine hbyNovelty.bind fun byNovelty hby0 hby1 => ?_
  have hsum' : Within 0 (1 / 2) (add? (.finite p) (.finite byNovelty)) :=
    within_ofExact exact_zero hfive (by linarith) (by linarith)
  refine hsum'.bind fun p hp0 hp1 => ?_
  have hafterCart : Within (-1) (1 / 2) (minus? (.finite p) (.finite cartPen)) :=
    within_minus (exact_digits (-1) 0 (by norm_num) (by norm_num)) hfive (by linarith)
      (by linarith)
  refine hafterCart.bind fun p hp0 hp1 => ?_
  have hafterAmount : Within (-2) (1 / 2) (minus? (.finite p) (.finite highAmountPen)) :=
    within_minus hneg hfive (by linarith) (by linarith)
  refine hafterAmount.bind fun p hp0 hp1 => ?_
  have hfunds : Within (-2) 1
      (withBonus (.finite p) (6 / 100) (reason = some .insufficientFunds)) :=
    withBonus_within _ hneg exact_one hp0 hp1 (by norm_num) (by norm_num)
  refine hfunds.bind fun p hp0 hp1 => ?_
  have hbonus : Within (-2) 2 (withBonus (.finite p) (5 / 100) abandoned) :=
    withBonus_within abandoned hneg htwo hp0 hp1 (by norm_num) (by norm_num)
  refine hbonus.bind fun p hp0 hp1 => ?_
  have hproduct : Within (-2) 2 (times? (.finite p) (.finite novelty)) := by
    rw [Decimal.times?_finite]
    exact within_ofExact hneg htwo (by nlinarith) (by nlinarith)
  exact hproduct.mono (by linarith) (by norm_num)

/-- The organic score of a case that was not abandoned is between 0.01 and 0.085; what an old cart
takes off an abandoned one can leave less. -/
theorem doNothingScore_bounds (hsuccess : Within 0 1 (some f.success))
    (hfatigue : Within 0 1 (some f.fatigue)) (hcart : Within 0 (28 / 100) (some f.cartPen)) :
    Within (if abandoned then -2 else 1 / 100) (85 / 1000) (f.doNothingScore abandoned) := by
  obtain ⟨hlimit, hhalf, hneg, htwo, hthree⟩ := exact_bounds
  have htop : Exact (85 / 1000) := exact_digits 85 3 (by norm_num) (by norm_num)
  have hbottom : Exact (1 / 100) := exact_digits 1 2 (by norm_num) (by norm_num)
  obtain ⟨success, hsuccess, hsuccess0, hsuccess1⟩ := hsuccess.value
  obtain ⟨fatigue, hfatigue, hfatigue0, hfatigue1⟩ := hfatigue.value
  obtain ⟨cartPen, hcart, hcart0, hcart1⟩ := hcart.value
  unfold doNothingScore
  rw [hsuccess, hfatigue, hcart]
  have hbySuccess : Within 0 (6 / 100) (mul? (6 / 100) (.finite success)) :=
    within_ofExact exact_zero (exact_digits 6 2 (by norm_num) (by norm_num)) (by linarith)
      (by linarith)
  refine hbySuccess.bind fun bySuccess hby0 hby1 => ?_
  have hsum : Within (25 / 1000) (85 / 1000) (add? (.finite (25 / 1000)) (.finite bySuccess)) :=
    within_ofExact (exact_digits 25 3 (by norm_num) (by norm_num)) htop (by linarith)
      (by linarith)
  refine hsum.bind fun organic horganic0 horganic1 => ?_
  have hbyFatigue : Within 0 (15 / 1000) (mul? (15 / 1000) (.finite fatigue)) :=
    within_ofExact exact_zero (exact_digits 15 3 (by norm_num) (by norm_num)) (by linarith)
      (by linarith)
  refine hbyFatigue.bind fun byFatigue hby0 hby1 => ?_
  have hafterFatigue : Within (1 / 100) (85 / 1000)
      (minus? (.finite organic) (.finite byFatigue)) :=
    within_minus hbottom htop (by linarith) (by linarith)
  refine hafterFatigue.bind fun organic horganic0 horganic1 => ?_
  cases abandoned with
  | false => exact within_some horganic0 horganic1
  | true =>
    have hbyAge : Within 0 1 (mul? (5 / 10) (.finite cartPen)) :=
      within_ofExact exact_zero exact_one (by linarith) (by linarith)
    refine hbyAge.bind fun byAge hage0 hage1 => ?_
    rw [if_pos rfl]
    exact within_minus hneg htop (by linarith) (by linarith)

theorem doNothingScore_within (hsuccess : Within 0 1 (some f.success))
    (hfatigue : Within 0 1 (some f.fatigue)) (hcart : Within 0 (28 / 100) (some f.cartPen)) :
    Within (-2) (85 / 1000) (f.doNothingScore abandoned) := by
  refine (doNothingScore_bounds abandoned hsuccess hfatigue hcart).mono ?_ le_rfl
  cases abandoned with
  | true => exact le_rfl
  | false => norm_num

theorem escalateScore_within (h : f.Bounded) : Within (-2) 1 f.escalateScore := by
  obtain ⟨hlimit, hhalf, hneg, htwo, hthree⟩ := exact_bounds
  obtain ⟨success, hsuccess, hsuccess0, hsuccess1⟩ := h.success.value
  obtain ⟨fatigue, hfatigue, hfatigue0, hfatigue1⟩ := h.fatigue.value
  unfold escalateScore
  rw [hsuccess, hfatigue]
  have hbySuccess : Within 0 (1 / 2) (mul? (12 / 100) (.finite success)) :=
    within_ofExact exact_zero (exact_digits 5 1 (by norm_num) (by norm_num)) (by linarith)
      (by linarith)
  refine hbySuccess.bind fun bySuccess hby0 hby1 => ?_
  have hsum : Within 0 1 (add? (.finite (8 / 100)) (.finite bySuccess)) :=
    within_ofExact exact_zero exact_one (by linarith) (by linarith)
  refine hsum.bind fun assisted hassisted0 hassisted1 => ?_
  have hbyFatigue : Within 0 1 (mul? (3 / 100) (.finite fatigue)) :=
    within_ofExact exact_zero exact_one (by linarith) (by linarith)
  refine hbyFatigue.bind fun byFatigue hby0 hby1 => ?_
  exact within_minus hneg exact_one (by linarith) (by linarith)

/-- A hard failure leaves at least its base. -/
theorem hardFailureScore_within {base share : ℚ} (hsuccess : Within 0 1 (some f.success))
    (hexact : Exact base) (hbase : base ≤ 1) (hshare : 0 ≤ share) (hshare' : share ≤ 1) :
    Within base 2 (f.hardFailureScore base share) := by
  obtain ⟨success, hsuccess, hsuccess0, hsuccess1⟩ := hsuccess.value
  unfold hardFailureScore
  rw [hsuccess]
  have hbySuccess : Within 0 1 (mul? share (.finite success)) :=
    within_ofExact exact_zero exact_one (by positivity) (by nlinarith)
  refine hbySuccess.bind fun bySuccess hby0 hby1 => ?_
  exact within_ofExact hexact (exact_digits 2 0 (by norm_num) (by norm_num)) (by linarith)
    (by linarith)

end InterventionFactors

/-- No score of bounded factors signals. -/
theorem InterventionContext.score_within (context : InterventionContext)
    {f : InterventionFactors} (h : f.Bounded) (action : RecoveryActionType) :
    Within (-decimalLimit) 3 (context.score f action) := by
  have hlarge := decimalLimit_ge
  cases action with
  | retryNow => exact InterventionFactors.retryNowScore_within _ h
  | retryLater => exact InterventionFactors.retryLaterScore_within _ h
  | sendPaymentLink => exact InterventionFactors.sendPaymentLinkScore_within _ _ h
  | sendReminder => exact InterventionFactors.sendReminderScore_within _ _ _ h
  | offerDiscount => exact InterventionFactors.offerDiscountScore_within _ _ h
  | doNothing =>
    exact (InterventionFactors.doNothingScore_within _ h.success h.fatigue h.cartPen).mono
      (by linarith) (by norm_num)
  | escalate =>
    exact (InterventionFactors.escalateScore_within h).mono (by linarith) (by norm_num)

end ReviveX
