import ReviveX.Agents.RankingTheorems
import ReviveX.Eval.BatchEvaluation

/-!
# The evaluated strategy against the production's

`_revivex_strategy` has a cost table and an argmax of its own. The costs agree but for the
discount, which it does not round. Both choices are read off arithmetic of the probabilities and
the amount, and the choice is the same as long as no control strategy gains more than the
interventions that the production prefers to it, and no other intervention is preferred for its
friction.
-/

namespace ReviveX

open Lib (Decimal)

/-! ## The production's choice -/

/-- The candidates of a case without a policy: their prices with the default settings. -/
def pricedCandidates (order : List RecoveryActionType) (amount : ℚ)
    (probability : RecoveryActionType → ℚ) : Except Failure (List PricedCandidate) :=
  order.mapM fun action => do
    let costs ← costsForAction action (.finite amount) {} none
    candidateFromQuote
      { action
        probability := some (probability action)
        discountCost := costs.discountCost
        discountPercent := none
        allowed := true
        requiresApproval := false }
      (.finite amount) costs

/-- The price of an action, in paise. -/
def rankedValue (probability amount : ℚ) (action : RecoveryActionType) : Except Failure ℤ := do
  let costs ← costsForAction action (.finite amount) {} none
  expectedNetRecovery probability (.finite amount) costs

/-- The action that is selected from prices: the least friction among the interventions within
a paisa of the best one that does not lose money, or the control strategy when all do. -/
def RankedBest (e : RecoveryActionType → ℤ) (highRisk : Bool) (w : RecoveryActionType) : Prop :=
  (w.isIntervention = true ∧ 0 ≤ e w ∧ (∀ b, b.isIntervention = true → e b ≤ e w + 1) ∧
    ∀ b, b.isIntervention = true → 0 ≤ e b →
      (∀ c, c.isIntervention = true → e c ≤ e b + 1) → w.frictionRank ≤ b.frictionRank) ∨
  (∀ b, b.isIntervention = true → e b < 0) ∧ w = if highRisk then .escalate else .doNothing

/-- The candidates as they are priced. -/
structure Prices (e : RecoveryActionType → ℤ) (candidates : List PricedCandidate) : Prop where
  eligible : ∀ c ∈ candidates,
    c.allowed = true ∧ c.missingProbability = false ∧ c.probability.isSome = true
  complete : ∀ action, ∃ c ∈ candidates, c.action = action
  values : ∀ c ∈ candidates, c.expectedValue = e c.action

theorem tieEpsilon_default : signedMoney ({} : OptimizerSettings).tieEpsilon = .ok 1 := by
  decide +kernel

theorem frictionRank_le_of_tieKey {a b : PricedCandidate} (h : a.tieKey ≤ b.tieKey) :
    a.action.frictionRank ≤ b.action.frictionRank := by
  unfold PricedCandidate.tieKey at h
  rcases Prod.Lex.le_iff.mp h with hlt | ⟨heq, -⟩
  · exact hlt.le
  · exact heq.le

namespace Prices

variable {e : RecoveryActionType → ℤ} {candidates : List PricedCandidate}

theorem eligible_eq (h : Prices e candidates) : eligibleCandidates candidates = candidates := by
  refine List.filter_eq_self.mpr fun c hc => ?_
  obtain ⟨hallowed, hpresent, hprobability⟩ := h.eligible c hc
  rw [hallowed, hpresent, hprobability]
  rfl

theorem mem_profitable (h : Prices e candidates) {c : PricedCandidate} :
    c ∈ profitable candidates ↔
      c ∈ candidates ∧ c.action.isIntervention = true ∧ 0 ≤ e c.action := by
  unfold profitable
  rw [List.mem_filter, Bool.and_eq_true, decide_eq_true_eq]
  constructor
  · rintro ⟨hmem, hkind, hvalue⟩
    exact ⟨hmem, hkind, h.values c hmem ▸ hvalue⟩
  · rintro ⟨hmem, hkind, hvalue⟩
    exact ⟨hmem, hkind, (h.values c hmem).symm ▸ hvalue⟩

/-- An action that may be chosen is the one that the prices say. -/
theorem rankedBest (h : Prices e candidates) {highRisk : Bool} {w : PricedCandidate}
    (hchosen : Chosen candidates 1 highRisk w) : RankedBest e highRisk w.action := by
  cases hchosen with
  | intervention hmem hbest htie =>
    obtain ⟨hw, hkind, hvalue⟩ := h.mem_profitable.mp hmem
    have hle : ∀ b, b.isIntervention = true → e b ≤ e w.action + 1 := by
      intro b hb
      by_cases hloss : e b < 0
      · omega
      · obtain ⟨c, hc, rfl⟩ := h.complete b
        have hdiff := hbest c (h.mem_profitable.mpr ⟨hc, hb, by omega⟩)
        rw [h.values c hc, h.values w hw] at hdiff
        omega
    refine .inl ⟨hkind, hvalue, hle, fun b hb hb0 hbest' => ?_⟩
    obtain ⟨c, hc, rfl⟩ := h.complete b
    refine frictionRank_le_of_tieKey (htie c (h.mem_profitable.mpr ⟨hc, hb, hb0⟩) fun d hd => ?_)
    obtain ⟨hd', hdkind, -⟩ := h.mem_profitable.mp hd
    have hdle := hbest' d.action hdkind
    rw [h.values d hd', h.values c hc]
    omega
  | control hmem hnone hkind hrisk hcalm =>
    refine .inr ⟨fun b hb => ?_, ?_⟩
    · obtain ⟨c, hc, rfl⟩ := h.complete b
      by_contra hvalue
      have hprofit : c ∈ profitable candidates :=
        h.mem_profitable.mpr ⟨hc, hb, by omega⟩
      rw [hnone] at hprofit
      cases hprofit
    · cases highRisk with
      | true => exact hrisk rfl (h.complete .escalate)
      | false => exact hcalm rfl (h.complete .doNothing)

/-- Priced candidates always have a choice. -/
theorem selects (h : Prices e candidates) (suspicious sourceMismatch : Bool) :
    ∃ w reason, Ranking.selectAction candidates {} suspicious sourceMismatch =
      .ok (some w, reason) := by
  obtain ⟨nothing, hnothing, haction⟩ := h.complete .doNothing
  unfold Ranking.selectAction
  rw [h.eligible_eq]
  dsimp only
  rw [if_neg (by
    rw [List.isEmpty_iff]
    exact List.ne_nil_of_mem hnothing)]
  split
  · unfold selectControl
    dsimp only
    split
    · exact ⟨_, _, rfl⟩
    · exact ⟨_, _, rfl⟩
    · exact ⟨_, _, rfl⟩
    · rename_i hnone
      have hall := List.find?_eq_none.mp hnone nothing (by simpa using hnothing)
      exact absurd (by simpa using haction) hall
  · rename_i hsome
    obtain ⟨w, hw⟩ := maxWithTies_ok (fun hnil => hsome (List.isEmpty_iff.mpr hnil))
      tieEpsilon_default zero_le_one
    rw [hw]
    exact ⟨w, _, rfl⟩

end Prices

/-! ### Prices in closed form -/

/-- An amount in whole paise. -/
def wholePaise (amount : ℚ) : ℤ := Decimal.roundHalfEven (amount * 100)

/-- 5 % of whole paise, in whole paise again. -/
def concessionPaise (amount : ℚ) : ℤ :=
  Decimal.roundHalfEven
    (Decimal.rounded (Decimal.rounded ((wholePaise amount : ℚ) / 100 * 5) / 100) * 100)

/-- What an action gains in the production's arithmetic, in whole paise: its share of the amount
less its costs, the share and the concession each rounded to the paisa. -/
def productionGain (p amount : ℚ) (action : RecoveryActionType) : ℤ :=
  Decimal.roundHalfEven (Decimal.rounded (p * ((wholePaise amount : ℚ) / 100)) * 100) -
    ((defaultCosts action).total + if action = .offerDiscount then concessionPaise amount else 0)

theorem wholePaise_eq {amount : ℚ} {m : Money} (hm : asMoney (.finite amount) = some m) :
    (wholePaise amount : ℚ) = m := by
  unfold wholePaise
  rw [(asMoney_finite.mp hm).1, Int.cast_natCast]

/-- Money that is rounded off a number. -/
theorem eq_of_raiseMoney {r : ℚ} {g : Money} (h : raiseMoney (.finite r) = .ok g) :
    (g : ℤ) = Decimal.roundHalfEven (r * 100) :=
  (asMoney_finite.mp (raiseMoney_eq_ok.mp h)).1.symm

theorem expectedRecoveredRevenue_closed {p amount : ℚ} {m g : Money} (hp : 0 ≤ p ∧ p ≤ 1)
    (hm : asMoney (.finite amount) = some m)
    (hg : expectedRecoveredRevenue p (.finite amount) = .ok g) :
    (g : ℤ) = Decimal.roundHalfEven
      (Decimal.rounded (p * ((wholePaise amount : ℚ) / 100)) * 100) := by
  have hlt : (m : ℚ) < 10 ^ 28 := by exact_mod_cast (asMoney_finite.mp hm).2
  have hnonneg : (0 : ℚ) ≤ (m : ℚ) / 100 := by positivity
  have hsmall : |p * ((m : ℚ) / 100)| < 10 ^ 100 := by
    rw [abs_of_nonneg (mul_nonneg hp.1 hnonneg)]
    have hle := mul_le_of_le_one_left hnonneg hp.2
    linarith
  have hmul : Decimal.mul? p m.toDecimal =
      some (.finite (Decimal.rounded (p * ((m : ℚ) / 100)))) := Decimal.ofExact_eq_rounded hsmall
  rw [expectedRecoveredRevenue_eq hp (raiseMoney_eq_ok.mpr hm), hmul] at hg
  rw [wholePaise_eq hm]
  exact eq_of_raiseMoney hg

theorem concessionOn_closed {amount : ℚ} {m c : Money} (hm : asMoney (.finite amount) = some m)
    (hc : concessionOn (.finite amount) (.finite 5) = .ok c) :
    (c : ℤ) = concessionPaise amount := by
  have hlt : (m : ℚ) < 10 ^ 28 := by exact_mod_cast (asMoney_finite.mp hm).2
  have hproduct : |(m : ℚ) / 100 * 5| < 10 ^ 29 := by
    rw [abs_of_nonneg (by positivity)]
    linarith
  have hmul : Decimal.mul? ((m : ℚ) / 100) (.finite 5) =
      some (.finite (Decimal.rounded ((m : ℚ) / 100 * 5))) :=
    Decimal.ofExact_eq_rounded (hproduct.trans (by norm_num))
  have hquotient : |Decimal.rounded ((m : ℚ) / 100 * 5) / 100| < 10 ^ 100 := by
    obtain ⟨r, hr, hclose⟩ := Decimal.ofExact_of_lt (hproduct.trans (by norm_num))
    obtain rfl := Decimal.finite.inj (Option.some.inj (hmul.symm.trans hr))
    have hnear := abs_sub_abs_le_abs_sub (Decimal.rounded ((m : ℚ) / 100 * 5)) (m / 100 * 5)
    rw [abs_div, abs_of_pos (by norm_num : (0 : ℚ) < 100)]
    linarith
  have hdiv : Decimal.div? (.finite (Decimal.rounded ((m : ℚ) / 100 * 5))) 100 =
      some (.finite (Decimal.rounded (Decimal.rounded ((m : ℚ) / 100 * 5) / 100))) :=
    Decimal.ofExact_eq_rounded hquotient
  rw [concessionOn_eq (raiseMoney_eq_ok.mpr hm) (by norm_num), hmul, Option.bind_some, hdiv] at hc
  unfold concessionPaise
  rw [wholePaise_eq hm]
  exact eq_of_raiseMoney hc

/-- The costs of a discount. -/
theorem costsForAction_offerDiscount (amount : Decimal) :
    costsForAction .offerDiscount amount {} none =
      (concessionOn amount (.finite 5)).map fun concession =>
        { defaultCosts .offerDiscount with discountCost := concession } := by
  unfold costsForAction
  rw [costsFor_default]
  show (concessionOn amount (.finite 5) >>= _) = _
  cases concessionOn amount (.finite 5) <;> rfl

/-- The costs of any other action. -/
theorem costsForAction_fixed {action : RecoveryActionType} (h : action ≠ .offerDiscount)
    (amount : Decimal) : costsForAction action amount {} none = .ok (defaultCosts action) := by
  unfold costsForAction
  rw [costsFor_default]
  show (if action = .offerDiscount then _ else _) = _
  rw [if_neg h]
  rfl

/-- The costs of an action for an amount that is money. -/
theorem costsForAction_closed {amount : ℚ} {m : Money} {costs : ActionCosts}
    {action : RecoveryActionType} (hm : asMoney (.finite amount) = some m)
    (h : costsForAction action (.finite amount) {} none = .ok costs) :
    (costs.total : ℤ) = (defaultCosts action).total +
      if action = .offerDiscount then concessionPaise amount else 0 := by
  by_cases hdiscount : action = .offerDiscount
  · subst hdiscount
    rw [costsForAction_offerDiscount] at h
    cases hconcession : concessionOn (.finite amount) (.finite 5) with
    | error f =>
      rw [hconcession] at h
      cases h
    | ok concession =>
      rw [hconcession] at h
      obtain rfl := Except.ok.inj h
      rw [if_pos rfl, ← concessionOn_closed hm hconcession]
      unfold ActionCosts.total defaultCosts
      push_cast
      ring
  · rw [costsForAction_fixed hdiscount] at h
    obtain rfl := Except.ok.inj h
    rw [if_neg hdiscount, add_zero]

/-- An amount that is money is priced under every action. -/
theorem rankedValue_eq {p amount : ℚ} {m : Money} (hp : 0 ≤ p ∧ p ≤ 1)
    (hm : asMoney (.finite amount) = some m) (action : RecoveryActionType) :
    rankedValue p amount action = .ok (productionGain p amount action) := by
  obtain ⟨costs, hcosts, htotal⟩ := costsForAction_ok hm action
  obtain ⟨g, hg, hgm⟩ := expectedRecoveredRevenue_ok hp hm
  unfold rankedValue productionGain
  rw [hcosts, ← costsForAction_closed hm hcosts, ← expectedRecoveredRevenue_closed hp hm hg]
  exact expectedNetRecovery_ok hm hg hgm htotal

/-- The candidates of an amount that is money, in any order. -/
theorem pricedCandidates_ok {amount : ℚ} {m : Money} {p : RecoveryActionType → ℚ}
    {e : RecoveryActionType → ℤ} {order : List RecoveryActionType}
    (horder : order.Perm scorableActions) (hp : ∀ a, 0 ≤ p a ∧ p a ≤ 1)
    (hm : asMoney (.finite amount) = some m)
    (he : ∀ a, rankedValue (p a) amount a = .ok (e a)) :
    ∃ candidates, pricedCandidates order amount p = .ok candidates ∧ Prices e candidates := by
  have hpriced : ∀ action, ∃ c : PricedCandidate,
      (do
        let costs ← costsForAction action (.finite amount) {} none
        candidateFromQuote
          { action
            probability := some (p action)
            discountCost := costs.discountCost
            discountPercent := none
            allowed := true
            requiresApproval := false }
          (.finite amount) costs) = .ok c ∧
        c.action = action ∧
          (c.allowed = true ∧ c.missingProbability = false ∧ c.probability.isSome = true) ∧
          c.expectedValue = e action := by
    intro action
    obtain ⟨costs, hcosts, htotal⟩ := costsForAction_ok hm action
    obtain ⟨g, hg, hgm⟩ := expectedRecoveredRevenue_ok (hp action) hm
    have hnet : expectedNetRecovery (p action) (.finite amount) costs = .ok (e action) := by
      have hvalue := he action
      unfold rankedValue at hvalue
      rw [hcosts] at hvalue
      exact hvalue
    -- the quote keeps what the candidate says of itself
    have hquote : ∀ candidate : CandidateAction, candidate.probability = some (p action) →
        ∃ c : PricedCandidate, candidateFromQuote candidate (.finite amount) costs = .ok c ∧
          c.action = candidate.action ∧ c.allowed = candidate.allowed ∧
            c.missingProbability = false ∧ c.probability = candidate.probability ∧
            c.expectedValue = e action := by
      intro candidate hprobability
      unfold candidateFromQuote
      rw [hprobability]
      dsimp only
      rw [hg, hnet]
      exact ⟨_, rfl, rfl, rfl, rfl, hprobability, rfl⟩
    rw [hcosts]
    obtain ⟨c, hc, haction, hallowed, hpresent, hprobability, hvalue⟩ := hquote
      { action
        probability := some (p action)
        discountCost := costs.discountCost
        discountPercent := none
        allowed := true
        requiresApproval := false } rfl
    exact ⟨c, hc, haction, ⟨hallowed, hpresent, by rw [hprobability]; rfl⟩, hvalue⟩
  -- one candidate for each action, listed in the order of the evaluator
  choose candidate hcandidate using hpriced
  have hall : ∀ action, action ∈ order := by
    intro action
    rw [horder.mem_iff]
    cases action <;> decide
  refine ⟨order.map candidate, Lib.mapM_ok fun action _ => (hcandidate action).1, ?_, ?_, ?_⟩
  · intro c hc
    obtain ⟨action, -, rfl⟩ := List.mem_map.mp hc
    exact (hcandidate action).2.2.1
  · intro action
    exact ⟨candidate action, List.mem_map_of_mem (hall action), (hcandidate action).2.1⟩
  · intro c hc
    obtain ⟨action, -, rfl⟩ := List.mem_map.mp hc
    rw [(hcandidate action).2.1]
    exact (hcandidate action).2.2.2

/-- Only an amount that is money has candidates. -/
theorem asMoney_of_pricedCandidates {amount : ℚ} {p : RecoveryActionType → ℚ}
    {order : List RecoveryActionType} {candidates : List PricedCandidate}
    (horder : order.Perm scorableActions)
    (h : pricedCandidates order amount p = .ok candidates) :
    ∃ m, asMoney (.finite amount) = some m := by
  have hmem : RecoveryActionType.retryNow ∈ order := horder.mem_iff.mpr (by decide)
  obtain ⟨c, hc⟩ := Lib.of_mapM_ok h hmem
  obtain ⟨costs, -, hc⟩ := Lib.bind_eq_ok.mp hc
  obtain ⟨expected, hexpected, -⟩ := Lib.bind_eq_ok.mp hc
  unfold expectedRecoveredRevenue at hexpected
  split at hexpected
  · cases hexpected
  · obtain ⟨m, hm, -⟩ := Lib.bind_eq_ok.mp hexpected
    exact ⟨m, raiseMoney_eq_ok.mp hm⟩

/-! ## The evaluator's choice -/

/-- The costs of an action other than a discount do not depend on the amount. -/
theorem actionCost_fixed {action : RecoveryActionType} (h : action ≠ .offerDiscount) (amount : ℚ) :
    actionCost action amount = .ok (defaultCosts action).total.toDecimal := by
  have hconstant : actionCost action amount = actionCost action 0 := by
    unfold actionCost
    rw [if_neg h, if_neg h]
  rw [hconstant]
  cases action <;> first | exact absurd rfl h | decide +kernel

theorem abs_lt_of_asMoney {amount : ℚ} {m : Money} (hm : asMoney (.finite amount) = some m) :
    -(1 / 100) ≤ amount ∧ amount < 10 ^ 27 := by
  have hclose := asMoney_close hm
  have hlt : (m : ℚ) < 10 ^ 28 := by exact_mod_cast (asMoney_finite.mp hm).2
  have hm0 : (0 : ℚ) ≤ m := by positivity
  rw [abs_le] at hclose
  constructor <;> linarith

/-- A sum of two small terms. -/
theorem ofExact_add {a b : ℚ} {n : ℕ} (ha : |a| < 10 ^ n) (hb : |b| < 10 ^ n) (hn : n ≤ 98) :
    Decimal.ofExact (a + b) = some (.finite (Decimal.rounded (a + b))) ∧
      |Decimal.rounded (a + b)| < 10 ^ (n + 1) := by
  have hsum := abs_add_le a b
  have hpos : (0 : ℚ) < 10 ^ n := by positivity
  have hpow : (10 : ℚ) ^ (n + 1) = 10 * 10 ^ n := pow_succ' 10 n
  have hle : (10 : ℚ) ^ n * 10 ≤ 10 ^ 100 := by
    rw [← pow_succ]
    exact pow_le_pow_right₀ (by norm_num) (by omega)
  have hsmall : |a + b| < 10 ^ 100 := by linarith
  have hexact := Decimal.ofExact_eq_rounded hsmall
  obtain ⟨r, hr, hclose⟩ := Decimal.ofExact_of_lt hsmall
  obtain rfl := Decimal.finite.inj (Option.some.inj (hexact.symm.trans hr))
  have hnear := abs_sub_abs_le_abs_sub (Decimal.rounded (a + b)) (a + b)
  exact ⟨hexact, by linarith⟩

/-- What `_action_cost` adds up for an action, in rupees. -/
def evaluatorCost (action : RecoveryActionType) (amount : ℚ) : ℚ :=
  if action = .offerDiscount then
    Decimal.rounded (Decimal.rounded (Decimal.rounded
      (1 + Decimal.rounded (amount * (1 / 20))) + 3 / 2) + 40)
  else ((defaultCosts action).total : ℚ) / 100

/-- What an action gains in the evaluator's arithmetic, in rupees: its share of the amount less
its costs, without rounding to the paisa. -/
def evaluatorGain (p amount : ℚ) (action : RecoveryActionType) : ℚ :=
  Decimal.rounded (Decimal.rounded (p * amount) - evaluatorCost action amount)

/-- Every cost of an accepted amount is a number. -/
theorem actionCost_eq {amount : ℚ} {m : Money} (hm : asMoney (.finite amount) = some m)
    (action : RecoveryActionType) :
    actionCost action amount = .ok (.finite (evaluatorCost action amount)) ∧
      |evaluatorCost action amount| < 10 ^ 40 := by
  obtain ⟨hlow, hhigh⟩ := abs_lt_of_asMoney hm
  have habs : |amount| < 10 ^ 27 := by
    rw [abs_lt]
    constructor <;> linarith
  unfold evaluatorCost
  by_cases hdiscount : action = .offerDiscount
  · subst hdiscount
    have htwentieth : |amount * (1 / 20)| < 10 ^ 27 := by
      rw [abs_mul]
      norm_num
      linarith
    obtain ⟨hd, hd'⟩ := ofExact_add (a := amount * (1 / 20)) (b := 0) htwentieth (by norm_num)
      (by omega)
    rw [add_zero] at hd hd'
    obtain ⟨hx, hx'⟩ := ofExact_add (a := 1) (by norm_num) hd' (by omega)
    obtain ⟨hy, hy'⟩ := ofExact_add (b := 3 / 2) hx' (by norm_num) (by omega)
    obtain ⟨hz, hz'⟩ := ofExact_add (b := 40) hy' (by norm_num) (by omega)
    rw [if_pos rfl]
    refine ⟨?_, hz'.trans (by norm_num)⟩
    unfold actionCost
    rw [if_pos rfl]
    show (orOverflow (Decimal.ofExact (amount * (1 / 20))) >>= _) = _
    rw [hd]
    show (orOverflow (Decimal.ofExact (1 + _)) >>= _) = _
    rw [hx]
    show (orOverflow (Decimal.ofExact (_ + 3 / 2)) >>= _) = _
    rw [hy]
    show orOverflow (Decimal.ofExact (_ + 40)) = _
    rw [hz]
    rfl
  · rw [if_neg hdiscount]
    refine ⟨actionCost_fixed hdiscount amount, ?_⟩
    cases action <;> first | exact absurd rfl hdiscount | norm_num [defaultCosts, ActionCosts.total]

/-- Every value of an accepted amount is a number. -/
theorem evaluatedValue_eq {p amount : ℚ} {m : Money} (hp : 0 ≤ p ∧ p ≤ 1)
    (hm : asMoney (.finite amount) = some m) (action : RecoveryActionType) :
    evaluatedValue (.finite p) amount action = .ok (.finite (evaluatorGain p amount action)) := by
  obtain ⟨hlow, hhigh⟩ := abs_lt_of_asMoney hm
  obtain ⟨hcost, hsmall⟩ := actionCost_eq hm action
  have habs : |p * amount| < 10 ^ 27 := by
    have hle : |p * amount| ≤ |amount| := by
      rw [abs_mul, abs_of_nonneg hp.1]
      exact mul_le_of_le_one_left (abs_nonneg _) hp.2
    have hlt : |amount| < 10 ^ 27 := by
      rw [abs_lt]
      constructor <;> linarith
    linarith
  obtain ⟨hr, hr'⟩ := ofExact_add (a := p * amount) (b := 0) habs (by norm_num) (by omega)
  rw [add_zero] at hr hr'
  obtain ⟨hv, -⟩ := ofExact_add (b := -evaluatorCost action amount)
    (hr'.trans (by norm_num : (10 : ℚ) ^ (27 + 1) < 10 ^ 40)) (by rwa [abs_neg]) (by omega)
  unfold evaluatedValue evaluatorGain
  rw [hcost]
  show (orOverflow (Decimal.ofExact (p * amount)) >>= _) = _
  rw [hr, sub_eq_add_neg]
  show orOverflow (Decimal.ofExact _) = _
  rw [hv]
  rfl

/-- The first value of the walk is far above the bound that it starts from. -/
theorem evaluatorGain_retryNow {p amount : ℚ} {m : Money} (hp : 0 ≤ p ∧ p ≤ 1)
    (hm : asMoney (.finite amount) = some m) : -999999 < evaluatorGain p amount .retryNow := by
  obtain ⟨hlow, hhigh⟩ := abs_lt_of_asMoney hm
  have hcost : evaluatorCost .retryNow amount = 20 := by
    unfold evaluatorCost
    rw [if_neg (by decide)]
    norm_num [defaultCosts, ActionCosts.total]
  have hproduct : -(1 / 100) ≤ p * amount ∧ |p * amount| < 10 ^ 27 := by
    have hlower : p * (1 / 100) ≤ 1 / 100 := by linarith [hp.2]
    have hscaled := mul_le_mul_of_nonneg_left hlow hp.1
    have hle : |p * amount| ≤ |amount| := by
      rw [abs_mul, abs_of_nonneg hp.1]
      exact mul_le_of_le_one_left (abs_nonneg _) hp.2
    have hlt : |amount| < 10 ^ 27 := by
      rw [abs_lt]
      constructor <;> linarith
    exact ⟨by linarith, by linarith⟩
  -- rounding costs at most half of either number
  have hrounded : ∀ q : ℚ, |q| < 10 ^ 100 → |Decimal.rounded q - q| ≤ |q| / 2 := by
    intro q hq
    obtain ⟨r, hr, hclose⟩ := Decimal.ofExact_of_lt hq
    obtain rfl := Decimal.finite.inj
      (Option.some.inj ((Decimal.ofExact_eq_rounded hq).symm.trans hr))
    exact hclose
  have hshare := abs_le.mp (hrounded (p * amount) (hproduct.2.trans (by norm_num)))
  have hshare0 : -1 ≤ Decimal.rounded (p * amount) := by
    rcases abs_cases (p * amount) with ⟨heq, -⟩ | ⟨heq, -⟩ <;> rw [heq] at hshare <;>
      linarith [hproduct.1]
  have hshare1 : Decimal.rounded (p * amount) < 10 ^ 28 := by
    linarith [abs_lt.mp hproduct.2, le_abs_self (p * amount)]
  have hgain := abs_le.mp (hrounded (Decimal.rounded (p * amount) - 20) (by
    rw [abs_lt]
    constructor <;> linarith))
  unfold evaluatorGain
  rw [hcost]
  rcases abs_cases (Decimal.rounded (p * amount) - 20) with ⟨heq, -⟩ | ⟨heq, -⟩ <;>
    rw [heq] at hgain <;> linarith

/-- The walk over the actions, when their values are numbers. -/
theorem foldlM_keepBest {p : RecoveryActionType → Decimal} {amount : ℚ} {v : RecoveryActionType → ℚ}
    (hv : ∀ a, evaluatedValue (p a) amount a = .ok (.finite (v a)))
    (actions : List RecoveryActionType) (best : Option RecoveryActionType × ℚ) :
    actions.foldlM (keepBest p amount) (best.1, Decimal.finite best.2) =
      .ok ((actions.foldl (Lib.exceed v) best).1,
        Decimal.finite (actions.foldl (Lib.exceed v) best).2) := by
  -- both walks hold the same best action, and its value is a number on either side
  induction actions generalizing best with
  | nil => rfl
  | cons action rest ih =>
    have hround : keepBest p amount (best.1, .finite best.2) action =
        .ok ((Lib.exceed v best action).1, .finite (Lib.exceed v best action).2) := by
      unfold keepBest Lib.exceed
      rw [hv action]
      dsimp only [bind, Except.bind]
      rw [Decimal.gt?_finite]
      by_cases hbetter : best.2 < v action
      · rw [if_pos hbetter]
        simp [hbetter, pure, Except.pure]
      · rw [if_neg hbetter]
        simp [hbetter, pure, Except.pure]
    rw [List.foldlM_cons, hround, List.foldl_cons]
    exact ih (Lib.exceed v best action)

/-- An action gains more, or as much and is looked at before. -/
def Outgains (p : RecoveryActionType → ℚ) (amount : ℚ) (b a : RecoveryActionType) : Prop :=
  evaluatorGain (p a) amount a < evaluatorGain (p b) amount b ∨
    evaluatorGain (p a) amount a = evaluatorGain (p b) amount b ∧
      scorableActions.idxOf b < scorableActions.idxOf a

/-- The strategy chooses the action that no other one outgains. -/
theorem revivexStrategy_eq {model : ProbabilityModel} {mode : String} {amount : ℚ} {m : Money}
    {p : RecoveryActionType → ℚ} (hmodel : ∀ a, (caseProbabilities model mode).1 a = .finite (p a))
    (hp : ∀ a, 0 ≤ p a ∧ p a ≤ 1) (hm : asMoney (.finite amount) = some m) :
    ∃ w, (∀ a, a = w ↔ ∀ b, ¬ Outgains p amount b a) ∧
      revivexStrategy model mode amount = .ok (w, (caseProbabilities model mode).2) := by
  have hv : ∀ a, evaluatedValue ((caseProbabilities model mode).1 a) amount a =
      .ok (.finite (evaluatorGain (p a) amount a)) := by
    intro a
    rw [hmodel]
    exact evaluatedValue_eq (hp a) hm a
  have hwalk := foldlM_keepBest hv scorableActions (none, -999999)
  have hbest : (scorableActions.foldl
      (Lib.exceed fun a => evaluatorGain (p a) amount a) (none, -999999)).1 =
      scorableActions.argmax fun a => evaluatorGain (p a) amount a :=
    Lib.foldl_exceed (evaluatorGain_retryNow (hp .retryNow) hm)
  have hall : ∀ a, a ∈ scorableActions := by
    intro a
    cases a <;> decide
  cases hmax : scorableActions.argmax fun a => evaluatorGain (p a) amount a with
  | none => exact absurd (List.argmax_eq_none.mp hmax) (by decide)
  | some w =>
    refine ⟨w, fun a => ?_, ?_⟩
    · have hfirst : a = w ↔ a ∈ scorableActions.argmax fun a => evaluatorGain (p a) amount a := by
        rw [hmax, Option.mem_some_iff, eq_comm]
      rw [hfirst, List.mem_argmax_iff]
      unfold Outgains
      constructor
      · rintro ⟨-, hgreatest, hearliest⟩ b (hlt | ⟨heq, hbefore⟩)
        · exact absurd hlt (not_lt.mpr (hgreatest b (hall b)))
        · exact absurd hbefore (not_lt.mpr (hearliest b (hall b) heq.le))
      · intro h
        have hgreatest : ∀ b, evaluatorGain (p b) amount b ≤ evaluatorGain (p a) amount a :=
          fun b => not_lt.mp fun hlt => h b (.inl hlt)
        refine ⟨hall a, fun b _ => hgreatest b, fun b _ hle => ?_⟩
        exact not_lt.mp fun hbefore => h b (.inr ⟨le_antisymm hle (hgreatest b), hbefore⟩)
    · unfold revivexStrategy
      dsimp only
      rw [hwalk, hbest, hmax]
      rfl

/-! ## Agreement -/

/-- The strategy and the production's choice over the same probabilities are one action. -/
def SelectsSame (model : ProbabilityModel) (mode : String) (p : RecoveryActionType → ℚ)
    (amount : ℚ) (order : List RecoveryActionType) (suspicious sourceMismatch : Bool) : Prop :=
  ∃ action source w reason, revivexStrategy model mode amount = .ok (action, source) ∧
    (pricedCandidates order amount p >>= fun candidates =>
      Ranking.selectAction candidates {} suspicious sourceMismatch) = .ok (some w, reason) ∧
    w.action = action

/-- An intervention that covers its costs, at most a paisa behind every other one. -/
def WithinPaisa (p : RecoveryActionType → ℚ) (amount : ℚ) (a : RecoveryActionType) : Prop :=
  a.isIntervention = true ∧ 0 ≤ productionGain (p a) amount a ∧
    ∀ b, b.isIntervention = true →
      productionGain (p b) amount b ≤ productionGain (p a) amount a + 1

/-- Where the two ways to choose do not differ. -/
structure ChoosesAlike (p : RecoveryActionType → ℚ) (amount : ℚ) (highRisk : Bool) : Prop where
  isMoney : ∃ m, asMoney (.finite amount) = some m
  /-- While an intervention covers its costs, one of them gains what the control strategies
  gain, which the production does not compare. -/
  controls : (∃ a, a.isIntervention = true ∧ 0 ≤ productionGain (p a) amount a) →
    ∃ a, a.isIntervention = true ∧ ∀ b, b.isIntervention = false →
      evaluatorGain (p b) amount b ≤ evaluatorGain (p a) amount a
  /-- Within the last paisa, where the production looks at the friction, an intervention that
  another one outgains also has more friction than some other. -/
  ties : ∀ a b, WithinPaisa p amount a → b.isIntervention = true → Outgains p amount b a →
    ∃ c, WithinPaisa p amount c ∧ c.frictionRank < a.frictionRank
  /-- While no intervention covers its costs, nothing outgains the control strategy that the risk
  asks for. -/
  losses : (∀ a, a.isIntervention = true → productionGain (p a) amount a < 0) →
    ∀ b, ¬ Outgains p amount b (if highRisk then .escalate else .doNothing)

/-- The production's choice is outgained by nothing exactly where the ways to choose do not
differ. -/
theorem choosesAlike_iff {p : RecoveryActionType → ℚ} {amount : ℚ} {highRisk : Bool}
    {w : RecoveryActionType} (hmoney : ∃ m, asMoney (.finite amount) = some m)
    (hbest : RankedBest (fun a => productionGain (p a) amount a) highRisk w) :
    ChoosesAlike p amount highRisk ↔ ∀ b, ¬ Outgains p amount b w := by
  rcases hbest with ⟨hkind, hcovers, hclose, htie⟩ | ⟨hnone, rfl⟩
  · have hw : WithinPaisa p amount w := ⟨hkind, hcovers, hclose⟩
    constructor
    · intro h
      have hintervention : ∀ b, b.isIntervention = true → ¬ Outgains p amount b w := by
        intro b hb hout
        obtain ⟨c, ⟨hc, hc0, hc1⟩, hless⟩ := h.ties w b hw hb hout
        exact absurd hless (not_lt.mpr (htie c hc hc0 hc1))
      intro b hout
      cases hb : b.isIntervention with
      | true => exact hintervention b hb hout
      | false =>
        obtain ⟨a, ha, hgains⟩ := h.controls ⟨w, hkind, hcovers⟩
        rcases hout with hlt | ⟨-, hbefore⟩
        · exact hintervention a ha (.inl (hlt.trans_le (hgains b hb)))
        · -- the interventions are looked at first
          revert hkind hb hbefore
          cases w <;> cases b <;> decide
    · intro h
      refine ⟨hmoney, fun _ => ⟨w, hkind, fun b _ => not_lt.mp fun hlt => h b (.inl hlt)⟩,
        fun a b ha hb hout => ⟨w, hw, ?_⟩, fun hnone => absurd (hnone w hkind) (not_lt.mpr hcovers)⟩
      obtain ⟨hkind', hcovers', hclose'⟩ := ha
      refine lt_of_le_of_ne (htie a hkind' hcovers' hclose') fun heq => ?_
      rw [frictionRank_injective heq] at h
      exact h b hout
  · constructor
    · intro h
      exact h.losses hnone
    · intro h
      refine ⟨hmoney, ?_, ?_, fun _ => h⟩
      · rintro ⟨a, ha, hcovers⟩
        exact absurd (hnone a ha) (not_lt.mpr hcovers)
      · rintro a b ⟨ha, hcovers, -⟩
        exact absurd (hnone a ha) (not_lt.mpr hcovers)

theorem selectsSame_iff {model : ProbabilityModel} {mode : String} {p : RecoveryActionType → ℚ}
    {amount : ℚ} {order : List RecoveryActionType} (horder : order.Perm scorableActions)
    (hmodel : ∀ a, (caseProbabilities model mode).1 a = .finite (p a))
    (hp : ∀ a, 0 ≤ p a ∧ p a ≤ 1) (suspicious sourceMismatch : Bool) :
    SelectsSame model mode p amount order suspicious sourceMismatch ↔
      ChoosesAlike p amount (suspicious || sourceMismatch) := by
  have hboth : ∀ m, asMoney (.finite amount) = some m →
      (SelectsSame model mode p amount order suspicious sourceMismatch ↔
        ChoosesAlike p amount (suspicious || sourceMismatch)) := by
    intro m hm
    obtain ⟨candidates, hcandidates, hprices⟩ :=
      pricedCandidates_ok horder hp hm fun a => rankedValue_eq (hp a) hm a
    obtain ⟨w, reason, hselected⟩ := hprices.selects suspicious sourceMismatch
    have hchosen := selectAction_chosen tieEpsilon_default hselected
    rw [hprices.eligible_eq] at hchosen
    obtain ⟨w', hw', hstrategy⟩ := revivexStrategy_eq hmodel hp hm
    rw [choosesAlike_iff ⟨m, hm⟩ (hprices.rankedBest hchosen), ← hw']
    constructor
    · rintro ⟨action, source, w₁, reason₁, hstrategy₁, hselected₁, hsame⟩
      rw [hcandidates] at hselected₁
      obtain rfl := Option.some.inj
        (Prod.mk.inj (Except.ok.inj (hselected.symm.trans hselected₁))).1
      obtain rfl := (Prod.mk.inj (Except.ok.inj (hstrategy.symm.trans hstrategy₁))).1
      exact hsame
    · intro hsame
      refine ⟨w', _, w, reason, hstrategy, ?_, hsame⟩
      rw [hcandidates]
      exact hselected
  constructor
  · intro h
    obtain ⟨action, source, w, reason, hstrategy, hselects, hsame⟩ := h
    obtain ⟨candidates, hcandidates, -⟩ := Lib.bind_eq_ok.mp hselects
    obtain ⟨m, hm⟩ := asMoney_of_pricedCandidates horder hcandidates
    exact (hboth m hm).mp ⟨action, source, w, reason, hstrategy, hselects, hsame⟩
  · intro h
    obtain ⟨m, hm⟩ := h.isMoney
    exact (hboth m hm).mpr h

/-- `_action_cost` is the sum of the production's four costs. -/
def SameCost (action : RecoveryActionType) (amount : ℚ) : Prop :=
  ∃ costs, costsForAction action (.finite amount) {} none = .ok costs ∧
    actionCost action amount = .ok costs.total.toDecimal

/-- Of an amount that is money, all of the 5 % is a whole number of paise, as far as the 28 digits
of the context tell. -/
def WholeConcession (amount : ℚ) : Prop :=
  (∃ m, asMoney (.finite amount) = some m) ∧
    evaluatorCost .offerDiscount amount = ((4250 + concessionPaise amount : ℤ) : ℚ) / 100

theorem sameCost_iff (action : RecoveryActionType) (amount : ℚ) :
    SameCost action amount ↔ (action = .offerDiscount → WholeConcession amount) := by
  by_cases hdiscount : action = .offerDiscount
  · subst hdiscount
    have hboth : ∀ {m : Money} {costs : ActionCosts}, asMoney (.finite amount) = some m →
        costsForAction .offerDiscount (.finite amount) {} none = .ok costs →
        (actionCost .offerDiscount amount = .ok costs.total.toDecimal ↔
          evaluatorCost .offerDiscount amount =
            ((4250 + concessionPaise amount : ℤ) : ℚ) / 100) := by
      intro m costs hm hcosts
      have htotal := costsForAction_closed hm hcosts
      rw [if_pos rfl] at htotal
      rw [(actionCost_eq hm .offerDiscount).1, Except.ok.injEq]
      unfold Money.toDecimal
      rw [Decimal.finite.injEq, ← Int.cast_natCast (R := ℚ), htotal]
      rfl
    constructor
    · rintro ⟨costs, hcosts, hsame⟩ -
      obtain ⟨m, hm⟩ : ∃ m, asMoney (.finite amount) = some m := by
        rw [costsForAction_offerDiscount] at hcosts
        cases hconcession : concessionOn (.finite amount) (.finite 5) with
        | error f =>
          rw [hconcession] at hcosts
          cases hcosts
        | ok concession =>
          obtain ⟨m, hm, -⟩ := Lib.bind_eq_ok.mp hconcession
          exact ⟨m, raiseMoney_eq_ok.mp hm⟩
      exact ⟨⟨m, hm⟩, (hboth hm hcosts).mp hsame⟩
    · intro h
      obtain ⟨⟨m, hm⟩, hwhole⟩ := h rfl
      obtain ⟨costs, hcosts, -⟩ := costsForAction_ok hm .offerDiscount
      exact ⟨costs, hcosts, (hboth hm hcosts).mpr hwhole⟩
  · exact ⟨fun _ h => absurd h hdiscount, fun _ => ⟨defaultCosts action,
      costsForAction_fixed hdiscount _, actionCost_fixed hdiscount amount⟩⟩

/-! ## Amounts in whole paise -/

theorem wholePaise_paise (n : ℕ) : wholePaise ((n : ℚ) / 100) = n := by
  unfold wholePaise
  rw [div_mul_cancel₀ _ (by norm_num)]
  exact_mod_cast Decimal.roundHalfEven_intCast n

theorem concessionPaise_paise {n : ℕ} (h : n < 10 ^ 24) :
    concessionPaise ((n : ℚ) / 100) = Decimal.roundHalfEven ((n : ℚ) / 20) := by
  have hproduct : (n : ℚ) / 100 * 5 = ((5 * n : ℤ) : ℚ) / 10 ^ 2 := by
    push_cast
    ring
  have hquotient : ((5 * n : ℤ) : ℚ) / 10 ^ 2 / 100 = ((5 * n : ℤ) : ℚ) / 10 ^ 4 := by
    ring
  have hsmall : |(5 * n : ℤ)| < 10 ^ 28 := by
    rw [abs_lt]
    omega
  unfold concessionPaise
  rw [wholePaise_paise, Int.cast_natCast, hproduct, Decimal.rounded_digits 2 hsmall, hquotient,
    Decimal.rounded_digits 4 hsmall]
  congr 1
  push_cast
  ring

/-- The costs of a discount on whole paise, counted in hundredths of a paisa, are exact. -/
theorem evaluatorCost_paise {n : ℕ} (h : n < 10 ^ 24) :
    evaluatorCost .offerDiscount ((n : ℚ) / 100) = ((425000 + 5 * n : ℤ) : ℚ) / 10 ^ 4 := by
  have hexact : ∀ k : ℤ, 0 ≤ k → k ≤ 425000 →
      Decimal.rounded (((k + 5 * n : ℤ) : ℚ) / 10 ^ 4) = ((k + 5 * n : ℤ) : ℚ) / 10 ^ 4 := by
    intro k hlow hhigh
    refine Decimal.rounded_digits 4 ?_
    rw [abs_lt]
    omega
  have h0 : (n : ℚ) / 100 * (1 / 20) = ((0 + 5 * n : ℤ) : ℚ) / 10 ^ 4 := by
    push_cast
    ring
  have h1 : (1 : ℚ) + ((0 + 5 * n : ℤ) : ℚ) / 10 ^ 4 = ((10000 + 5 * n : ℤ) : ℚ) / 10 ^ 4 := by
    push_cast
    ring
  have h2 : ((10000 + 5 * n : ℤ) : ℚ) / 10 ^ 4 + 3 / 2 =
      ((25000 + 5 * n : ℤ) : ℚ) / 10 ^ 4 := by
    push_cast
    ring
  have h3 : ((25000 + 5 * n : ℤ) : ℚ) / 10 ^ 4 + 40 =
      ((425000 + 5 * n : ℤ) : ℚ) / 10 ^ 4 := by
    push_cast
    ring
  unfold evaluatorCost
  rw [if_pos rfl, h0, hexact 0 le_rfl (by norm_num), h1, hexact 10000 (by norm_num) (by norm_num),
    h2, hexact 25000 (by norm_num) (by norm_num), h3, hexact 425000 (by norm_num) le_rfl]

/-- Of an amount in whole paise all of the 5 % is whole when it is a multiple of 20 paise. -/
theorem wholeConcession_paise {n : ℕ} (h : n < 10 ^ 24) :
    WholeConcession ((n : ℚ) / 100) ↔ 20 ∣ n := by
  have hmoney : ∃ m, asMoney (.finite ((n : ℚ) / 100)) = some m :=
    ⟨n, asMoney_paise (by omega)⟩
  have hequal : ∀ c : ℤ, ((425000 + 5 * n : ℤ) : ℚ) / 10 ^ 4 = ((4250 + c : ℤ) : ℚ) / 100 ↔
      (n : ℤ) = 20 * c := by
    intro c
    rw [div_eq_div_iff (by norm_num) (by norm_num)]
    constructor
    · intro heq
      have heq' : (425000 + 5 * (n : ℤ)) * 100 = (4250 + c) * 10 ^ 4 := by exact_mod_cast heq
      omega
    · intro heq
      push_cast [show (n : ℚ) = 20 * c by exact_mod_cast heq]
      ring
  unfold WholeConcession
  rw [and_iff_right hmoney, evaluatorCost_paise h, hequal, concessionPaise_paise h]
  constructor
  · intro heq
    omega
  · rintro ⟨c, rfl⟩
    have hwhole : ((20 * c : ℕ) : ℚ) / 20 = ((c : ℤ) : ℚ) := by
      push_cast
      ring
    rw [hwhole, Decimal.roundHalfEven_intCast]
    push_cast
    rfl

/-- The full costs of an action, in rupees. -/
def exactCost (action : RecoveryActionType) (amount : ℚ) : ℚ :=
  ((defaultCosts action).total : ℚ) / 100 + if action = .offerDiscount then amount / 20 else 0

/-- For a probability of six digits and an amount in whole paise, the evaluator does not round. -/
theorem evaluatorGain_paise {k n : ℕ} (hk : k ≤ 10 ^ 6) (hn : n < 10 ^ 18)
    (action : RecoveryActionType) :
    evaluatorGain ((k : ℚ) / 10 ^ 6) ((n : ℚ) / 100) action =
      (k : ℚ) / 10 ^ 6 * ((n : ℚ) / 100) - exactCost action ((n : ℚ) / 100) := by
  have hproduct : k * n < 10 ^ 24 := by nlinarith
  have hproduct' : ((k * n : ℕ) : ℤ) < 10 ^ 24 := by exact_mod_cast hproduct
  have hshare : (k : ℚ) / 10 ^ 6 * ((n : ℚ) / 100) = (((k * n : ℕ) : ℤ) : ℚ) / 10 ^ 8 := by
    push_cast
    ring
  have hcost : evaluatorCost action ((n : ℚ) / 100) = exactCost action ((n : ℚ) / 100) := by
    unfold exactCost
    by_cases hdiscount : action = .offerDiscount
    · subst hdiscount
      rw [evaluatorCost_paise (by omega), if_pos rfl]
      norm_num [defaultCosts, ActionCosts.total]
      ring
    · unfold evaluatorCost
      rw [if_neg hdiscount, if_neg hdiscount, add_zero]
  obtain ⟨c, hc, hc0, hc1⟩ : ∃ c : ℤ, exactCost action ((n : ℚ) / 100) = (c : ℚ) / 10 ^ 8 ∧
      0 ≤ c ∧ c < 10 ^ 27 := by
    unfold exactCost
    have htotal : ((defaultCosts action).total : ℤ) ≤ 28000 := by cases action <;> decide
    by_cases hdiscount : action = .offerDiscount
    · refine ⟨10 ^ 6 * (defaultCosts action).total + 5 * 10 ^ 4 * n, ?_, by positivity, ?_⟩
      · rw [if_pos hdiscount]
        push_cast
        ring
      · omega
    · refine ⟨10 ^ 6 * (defaultCosts action).total, ?_, by positivity, ?_⟩
      · rw [if_neg hdiscount]
        push_cast
        ring
      · omega
  have hgain : (((k * n : ℕ) : ℤ) : ℚ) / 10 ^ 8 - (c : ℚ) / 10 ^ 8 =
      (((k * n : ℕ) - c : ℤ) : ℚ) / 10 ^ 8 := by
    push_cast
    ring
  unfold evaluatorGain
  rw [hcost, hc, hshare, Decimal.rounded_digits 8 (by rw [abs_lt]; omega), hgain,
    Decimal.rounded_digits 8 (by rw [abs_lt]; omega)]

/-- For these, the production rounds the share and the concession alone. -/
theorem productionGain_paise {k n : ℕ} (hk : k ≤ 10 ^ 6) (hn : n < 10 ^ 18)
    (action : RecoveryActionType) :
    productionGain ((k : ℚ) / 10 ^ 6) ((n : ℚ) / 100) action =
      Decimal.roundHalfEven ((k : ℚ) / 10 ^ 6 * n) - ((defaultCosts action).total +
        if action = .offerDiscount then Decimal.roundHalfEven ((n : ℚ) / 20) else 0) := by
  have hproduct : k * n < 10 ^ 24 := by nlinarith
  have hproduct' : ((k * n : ℕ) : ℤ) < 10 ^ 24 := by exact_mod_cast hproduct
  have hshare : (k : ℚ) / 10 ^ 6 * (((n : ℤ) : ℚ) / 100) = (((k * n : ℕ) : ℤ) : ℚ) / 10 ^ 8 := by
    push_cast
    ring
  have hpaise : (((k * n : ℕ) : ℤ) : ℚ) / 10 ^ 8 * 100 = (k : ℚ) / 10 ^ 6 * n := by
    push_cast
    ring
  unfold productionGain
  rw [wholePaise_paise, hshare, Decimal.rounded_digits 8 (by rw [abs_lt]; omega), hpaise,
    concessionPaise_paise (by omega)]

/-- The evaluator measures the production's strategy exactly where their ways to choose do not
differ, and prices a discount like it exactly where the concession is a whole number of paise.
For the probabilities of six digits and the amounts of a money column, what the two gains compare
is the exact share less the exact costs, and the share in whole paise less the costs in whole
paise. -/
theorem evaluator_agrees (model : ProbabilityModel) (mode : String) (p : RecoveryActionType → ℚ)
    (amount : ℚ) (order : List RecoveryActionType) (suspicious sourceMismatch : Bool)
    (horder : order.Perm scorableActions)
    (hmodel : ∀ a, (caseProbabilities model mode).1 a = .finite (p a))
    (hp : ∀ a, 0 ≤ p a ∧ p a ≤ 1) :
    (SelectsSame model mode p amount order suspicious sourceMismatch ↔
      ChoosesAlike p amount (suspicious || sourceMismatch)) ∧
    (∀ action, SameCost action amount ↔ (action = .offerDiscount → WholeConcession amount)) ∧
    (∀ n : ℕ, n < 10 ^ 24 → (WholeConcession ((n : ℚ) / 100) ↔ 20 ∣ n)) ∧
    ∀ (k n : ℕ) (action : RecoveryActionType), k ≤ 10 ^ 6 → n < 10 ^ 18 →
      evaluatorGain ((k : ℚ) / 10 ^ 6) ((n : ℚ) / 100) action =
        (k : ℚ) / 10 ^ 6 * ((n : ℚ) / 100) - exactCost action ((n : ℚ) / 100) ∧
      productionGain ((k : ℚ) / 10 ^ 6) ((n : ℚ) / 100) action =
        Decimal.roundHalfEven ((k : ℚ) / 10 ^ 6 * n) - ((defaultCosts action).total +
          if action = .offerDiscount then Decimal.roundHalfEven ((n : ℚ) / 20) else 0) :=
  ⟨selectsSame_iff horder hmodel hp suspicious sourceMismatch,
    fun action => sameCost_iff action amount, fun _ hn => wholeConcession_paise hn,
    fun _ _ action hk hn => ⟨evaluatorGain_paise hk hn action, productionGain_paise hk hn action⟩⟩

/-! ### Two cases -/

/-- A case on which waiting pays, and which hardly recovers on its own. -/
def waitingOdds : RecoveryActionType → ℚ
  | .retryNow => 1 / 2
  | .retryLater => 3 / 5
  | .sendPaymentLink => 3 / 10
  | .sendReminder => 1 / 5
  | .offerDiscount => 2 / 5
  | .escalate => 1 / 10
  | .doNothing => 1 / 40

/-- A case that recovers every other time, whatever is done. -/
def evenOdds (_ : RecoveryActionType) : ℚ := 1 / 2

/-- Probabilities that the simulator's rules give. -/
def heuristicModel (p : RecoveryActionType → ℚ) : ProbabilityModel where
  predict _ := .error (.crash "InferenceError")
  simulated := p

/-- Both choices, evaluated. -/
theorem selectsSame_of_eq {model : ProbabilityModel} {mode : String} {p : RecoveryActionType → ℚ}
    {amount : ℚ} {order : List RecoveryActionType} {suspicious sourceMismatch : Bool}
    {a b : RecoveryActionType}
    (hstrategy : (revivexStrategy model mode amount).map Prod.fst = .ok a)
    (hselects : (pricedCandidates order amount p >>= fun candidates =>
      Ranking.selectAction candidates {} suspicious sourceMismatch).map (·.1.map (·.action)) =
        .ok (some b)) :
    SelectsSame model mode p amount order suspicious sourceMismatch ↔ b = a := by
  obtain ⟨⟨action, source⟩, hchosen, rfl⟩ := Lib.map_eq_ok.mp hstrategy
  obtain ⟨⟨selected, reason⟩, hselected, hb⟩ := Lib.map_eq_ok.mp hselects
  obtain ⟨w, rfl, rfl⟩ := Option.map_eq_some_iff.mp hb
  constructor
  · rintro ⟨action', source', w', reason', hstrategy', hselects', hsame⟩
    obtain rfl := (Prod.mk.inj (Except.ok.inj (hchosen.symm.trans hstrategy'))).1
    obtain rfl := Option.some.inj (Prod.mk.inj (Except.ok.inj (hselected.symm.trans hselects'))).1
    exact hsame
  · intro hsame
    exact ⟨action, source, w, reason, hchosen, hselected, hsame⟩

/-- They choose to wait in the one case, and differ in the other, where doing nothing gains more
than any intervention. -/
theorem evaluator_agrees_waiting :
    ChoosesAlike waitingOdds 2000 (false || false) ∧ (∀ action, SameCost action 2000) ∧
      ¬ ChoosesAlike evenOdds 2000 (false || false) := by
  have hwaiting := evaluator_agrees (heuristicModel waitingOdds) "heuristic" waitingOdds 2000
    scorableActions false false (List.Perm.refl _) (fun _ => rfl)
    fun a => by cases a <;> norm_num [waitingOdds]
  have heven := evaluator_agrees (heuristicModel evenOdds) "heuristic" evenOdds 2000
    scorableActions false false (List.Perm.refl _) (fun _ => rfl)
    fun _ => by norm_num [evenOdds]
  refine ⟨hwaiting.1.mp ?_, fun action => (hwaiting.2.1 action).mpr fun _ => ?_,
    fun h => ?_⟩
  · refine (selectsSame_of_eq (a := .retryLater) (b := .retryLater) ?_ ?_).mpr rfl
    · decide +kernel
    · decide +kernel
  · have hwhole := (hwaiting.2.2.1 200000 (by norm_num)).mpr (by decide)
    norm_num at hwhole
    exact hwhole
  · have hsame := (selectsSame_of_eq (a := .doNothing) (b := .retryLater) ?_ ?_).mp
      (heven.1.mpr h)
    · cases hsame
    · decide +kernel
    · decide +kernel

/-- A case of ₹1000.10: the evaluator leaves it alone, for doing nothing costs nothing, where the
production retries; and 5 % of it is not a whole number of paise. -/
theorem evaluator_disagrees :
    ¬ SelectsSame (heuristicModel evenOdds) "heuristic" evenOdds (100010 / 100) scorableActions
        false false ∧
      ¬ SameCost .offerDiscount (100010 / 100) := by
  constructor
  · intro h
    have hsame := (selectsSame_of_eq (a := .doNothing) (b := .retryLater) ?_ ?_).mp h
    · cases hsame
    · decide +kernel
    · decide +kernel
  · rw [sameCost_iff]
    intro h
    have hwhole := (wholeConcession_paise (n := 100010) (by norm_num)).mp
      (by exact_mod_cast h rfl)
    omega

end ReviveX
