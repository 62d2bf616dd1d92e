import ReviveX.Agents.Ranking
import ReviveX.Lib.Except
import ReviveX.Lib.Sorting

/-!
# The choice among priced candidates

Whatever the candidates are, the choice is an eligible one: an intervention only when it does
not lose money, and then one within the tie epsilon of the best. With the default settings a
price is the expected recovery, rounded to the paisa, less the costs.
-/

namespace ReviveX

open Lib (Decimal)

/-! ## Choice -/

/-- The interventions among the candidates that do not lose money. -/
def profitable (eligible : List PricedCandidate) : List PricedCandidate :=
  eligible.filter fun item => item.action.isIntervention && decide (0 ≤ item.expectedValue)

/-- What `select_action` may choose. -/
inductive Chosen (eligible : List PricedCandidate) (epsilon : ℤ) (highRisk : Bool)
    (w : PricedCandidate) : Prop
  | intervention (hmem : w ∈ profitable eligible)
      (hbest : ∀ b ∈ profitable eligible, b.expectedValue - w.expectedValue ≤ epsilon)
      (htie : ∀ b ∈ profitable eligible,
        (∀ c ∈ profitable eligible, c.expectedValue - b.expectedValue ≤ epsilon) →
          w.tieKey ≤ b.tieKey)
  | control (hmem : w ∈ eligible) (hnone : profitable eligible = [])
      (hkind : w.action.isIntervention = false)
      (hrisk : highRisk = true → (∃ b ∈ eligible, b.action = .escalate) → w.action = .escalate)
      (hcalm : highRisk = false → (∃ b ∈ eligible, b.action = .doNothing) →
        w.action = .doNothing)

theorem frictionRank_injective {a b : RecoveryActionType} (h : a.frictionRank = b.frictionRank) :
    a = b := by
  cases a <;> cases b <;> first | rfl | cases h

theorem mem_eligibleCandidates {candidates : List PricedCandidate} {c : PricedCandidate} :
    c ∈ eligibleCandidates candidates ↔ c ∈ candidates ∧ c.allowed = true ∧
      c.missingProbability = false ∧ c.probability.isSome = true := by
  unfold eligibleCandidates
  rw [List.mem_filter, Bool.and_eq_true, Bool.and_eq_true, Bool.not_eq_true', and_assoc]

theorem firstOf_eq_ok {ranked : List PricedCandidate} {w : PricedCandidate} :
    firstOf ranked = .ok w ↔ ranked.head? = some w := by
  unfold firstOf
  cases ranked.head? <;> simp

/-- The winner of a pool: within the tie epsilon of the best, and first among these. -/
theorem maxWithTies_spec {pool : List PricedCandidate} {settings : OptimizerSettings} {epsilon : ℤ}
    {w : PricedCandidate} (hepsilon : signedMoney settings.tieEpsilon = .ok epsilon)
    (h : maxWithTies pool settings = .ok w) :
    w ∈ pool ∧ (∀ b ∈ pool, b.expectedValue - w.expectedValue ≤ epsilon) ∧
      ∀ b ∈ pool, (∀ c ∈ pool, c.expectedValue - b.expectedValue ≤ epsilon) →
        w.tieKey ≤ b.tieKey := by
  unfold maxWithTies at h
  obtain ⟨best, hbest, h⟩ := Lib.bind_eq_ok.mp h
  rw [hepsilon] at h
  have hwinner := firstOf_eq_ok.mp h
  obtain ⟨hbestMem, hbestMax⟩ := Lib.head?_insertionSort
    (fun c : PricedCandidate => OrderDual.toDual c.expectedValue) (firstOf_eq_ok.mp hbest)
  obtain ⟨hmem, hleast⟩ := Lib.head?_insertionSort PricedCandidate.tieKey hwinner
  have htied : ∀ c, c ∈ (pool.insertionSort fun a b => b.expectedValue ≤ a.expectedValue).filter
      (fun item => best.expectedValue - item.expectedValue ≤ epsilon) ↔
      c ∈ pool ∧ best.expectedValue - c.expectedValue ≤ epsilon := by
    intro c
    rw [List.mem_filter, List.mem_insertionSort, decide_eq_true_eq]
  obtain ⟨hpool, hclose⟩ := (htied w).mp hmem
  refine ⟨hpool, fun b hb => ?_, fun b hb hb' => ?_⟩
  · have hle : b.expectedValue ≤ best.expectedValue := hbestMax b hb
    omega
  · exact hleast b ((htied b).mpr ⟨hb, hb' best hbestMem⟩)

theorem firstOf_ok {ranked : List PricedCandidate} (h : ranked ≠ []) :
    ∃ w ∈ ranked, firstOf ranked = .ok w := by
  obtain ⟨w, rest, rfl⟩ := List.exists_cons_of_ne_nil h
  exact ⟨w, List.mem_cons_self, rfl⟩

/-- A pool has a winner: the best ties with itself. -/
theorem maxWithTies_ok {pool : List PricedCandidate} {settings : OptimizerSettings} {epsilon : ℤ}
    (hpool : pool ≠ []) (hepsilon : signedMoney settings.tieEpsilon = .ok epsilon)
    (hnonneg : 0 ≤ epsilon) : ∃ w, maxWithTies pool settings = .ok w := by
  have hranked : (pool.insertionSort fun a b => b.expectedValue ≤ a.expectedValue) ≠ [] := by
    obtain ⟨c, hc⟩ := List.exists_mem_of_ne_nil pool hpool
    exact List.ne_nil_of_mem (List.mem_insertionSort _ |>.mpr hc)
  obtain ⟨best, hmem, hbest⟩ := firstOf_ok hranked
  have htied : best ∈ ((pool.insertionSort fun a b => b.expectedValue ≤ a.expectedValue).filter
      fun item => best.expectedValue - item.expectedValue ≤ epsilon).insertionSort
        fun a b => a.tieKey ≤ b.tieKey := by
    rw [List.mem_insertionSort, List.mem_filter]
    exact ⟨hmem, by simpa using hnonneg⟩
  obtain ⟨w, -, hw⟩ := firstOf_ok (List.ne_nil_of_mem htied)
  refine ⟨w, ?_⟩
  unfold maxWithTies
  dsimp only
  rw [hbest, hepsilon]
  exact hw

/-- The control strategy: `ESCALATE` for a high risk, else `DO_NOTHING`, where they are
eligible. -/
theorem selectControl_spec {eligible : List PricedCandidate} {highRisk : Bool}
    {w : PricedCandidate} {reason : String}
    (h : selectControl eligible highRisk = (some w, reason)) :
    w ∈ eligible ∧ w.action.isIntervention = false ∧
      (highRisk = true → (∃ b ∈ eligible, b.action = .escalate) → w.action = .escalate) ∧
      (highRisk = false → (∃ b ∈ eligible, b.action = .doNothing) → w.action = .doNothing) := by
  have hfound : ∀ {action : RecoveryActionType} {c : PricedCandidate},
      eligible.reverse.find? (·.action = action) = some c → c ∈ eligible ∧ c.action = action := by
    intro action c hc
    exact ⟨by simpa using List.mem_of_find?_eq_some hc, by simpa using List.find?_some hc⟩
  have hmissing : ∀ {action : RecoveryActionType},
      eligible.reverse.find? (·.action = action) = none → ¬ ∃ b ∈ eligible, b.action = action := by
    intro action hnone
    rintro ⟨b, hb, haction⟩
    have hall := List.find?_eq_none.mp hnone b (by simpa using hb)
    exact hall (by simpa using haction)
  unfold selectControl at h
  dsimp only at h
  split at h
  · rename_i escalate hrisk hescalate
    obtain ⟨rfl, -⟩ := Prod.mk.inj h |>.imp_left Option.some.inj
    obtain ⟨hmem, haction⟩ := hfound hescalate
    exact ⟨hmem, by rw [haction]; rfl, fun _ _ => haction, nofun⟩
  · rename_i nothing hnothing hother
    obtain ⟨rfl, -⟩ := Prod.mk.inj h |>.imp_left Option.some.inj
    obtain ⟨hmem, haction⟩ := hfound hnothing
    refine ⟨hmem, by rw [haction]; rfl, fun hrisk hex => ?_, fun _ _ => haction⟩
    cases hescalate : eligible.reverse.find? (·.action = RecoveryActionType.escalate) with
    | none => exact absurd hex (hmissing hescalate)
    | some escalate => exact (hother escalate hrisk hescalate).elim
  · rename_i escalate hcalm hescalate hnone
    obtain ⟨rfl, -⟩ := Prod.mk.inj h |>.imp_left Option.some.inj
    obtain ⟨hmem, haction⟩ := hfound hescalate
    exact ⟨hmem, by rw [haction]; rfl, fun _ _ => haction, fun _ hex => absurd hex (hmissing hnone)⟩
  · cases (Prod.mk.inj h).1

/-- Whatever `select_action` selects may be chosen. -/
theorem selectAction_chosen {candidates : List PricedCandidate} {settings : OptimizerSettings}
    {suspicious sourceMismatch : Bool} {epsilon : ℤ} {w : PricedCandidate} {reason : String}
    (hepsilon : signedMoney settings.tieEpsilon = .ok epsilon)
    (h : Ranking.selectAction candidates settings suspicious sourceMismatch =
      .ok (some w, reason)) :
    Chosen (eligibleCandidates candidates) epsilon (suspicious || sourceMismatch) w := by
  unfold Ranking.selectAction at h
  dsimp only at h
  split at h
  · cases h
  · split at h
    · rename_i hnone
      obtain ⟨hmem, hkind, hrisk, hcalm⟩ := selectControl_spec (Except.ok.inj h)
      exact .control hmem (List.isEmpty_iff.mp hnone) hkind hrisk hcalm
    · obtain ⟨winner, hwinner, h⟩ := Lib.bind_eq_ok.mp h
      obtain rfl := Option.some.inj (Prod.mk.inj (Except.ok.inj h)).1
      obtain ⟨hmem, hbest, htie⟩ := maxWithTies_spec hepsilon hwinner
      exact .intervention hmem hbest htie

/-! ## Prices -/

theorem raiseMoney_eq_ok {value : Decimal} {m : Money} :
    raiseMoney value = .ok m ↔ asMoney value = some m := by
  unfold raiseMoney
  cases asMoney value <;> simp

/-- The product of a probability and an accepted amount, rounded to paise. -/
theorem expectedRecoveredRevenue_eq {p : ℚ} {amount : Decimal} {m : Money} (hp : 0 ≤ p ∧ p ≤ 1)
    (hm : raiseMoney amount = .ok m) :
    expectedRecoveredRevenue p amount =
      (Decimal.mul? p m.toDecimal).elim (.error (.crash "Overflow")) raiseMoney := by
  unfold expectedRecoveredRevenue
  rw [if_neg (by push Not; exact hp), hm]
  dsimp only [bind, Except.bind]
  cases Decimal.mul? p m.toDecimal <;> rfl

/-- What is expected of an amount is at most the amount. -/
theorem expectedRecoveredRevenue_ok {p amount : ℚ} {m : Money} (hp : 0 ≤ p ∧ p ≤ 1)
    (hm : asMoney (.finite amount) = some m) :
    ∃ g : Money, expectedRecoveredRevenue p (.finite amount) = .ok g ∧ g ≤ m := by
  have hlt := (asMoney_finite.mp hm).2
  have hnonneg : (0 : ℚ) ≤ p * ((m : ℚ) / 100) := mul_nonneg hp.1 (by positivity)
  have hle : p * ((m : ℚ) / 100) ≤ ((m : ℤ) : ℚ) / 100 := by
    push_cast
    exact mul_le_of_le_one_left (by positivity) hp.2
  obtain ⟨r, hr, hr0, hrm⟩ := Decimal.ofExact_le_paise hnonneg hle hlt
  have hround0 : 0 ≤ Decimal.roundHalfEven (r * 100) :=
    Decimal.le_roundHalfEven (by push_cast; positivity)
  have hroundm : Decimal.roundHalfEven (r * 100) ≤ m := by
    refine Decimal.roundHalfEven_le ?_
    linarith
  obtain ⟨g, hg⟩ := Int.eq_ofNat_of_zero_le hround0
  have hgm : g ≤ m := by omega
  refine ⟨g, ?_, hgm⟩
  have hmul : Decimal.mul? p m.toDecimal = some (.finite r) := hr
  rw [expectedRecoveredRevenue_eq hp (raiseMoney_eq_ok.mpr hm), hmul]
  exact raiseMoney_eq_ok.mpr (asMoney_finite.mpr ⟨hg, by omega⟩)

/-- A subtraction of money from whole paise is exact. -/
theorem lessCost_paise {n : ℤ} {cost : Money} (h : |n - cost| < 10 ^ 28) :
    lessCost (.finite ((n : ℚ) / 100)) cost = .ok (.finite (((n - cost : ℤ) : ℚ) / 100)) := by
  have hexact : (n : ℚ) / 100 - (cost : ℚ) / 100 = ((n - cost : ℤ) : ℚ) / 100 := by
    push_cast
    ring
  unfold lessCost
  dsimp only
  unfold Decimal.sub?
  rw [hexact, Decimal.ofExact_paise h]
  rfl

theorem signedMoney_paise {n : ℤ} (h : |n| < 10 ^ 28) :
    signedMoney (.finite ((n : ℚ) / 100)) = .ok n := by
  have hwhole : (n : ℚ) / 100 * 100 = n := by ring
  unfold signedMoney
  dsimp only
  rw [hwhole, Decimal.roundHalfEven_intCast, if_neg (by omega)]

/-- A price is the expected recovery less the costs. -/
theorem expectedNetRecovery_ok {p amount : ℚ} {m g : Money} {costs : ActionCosts}
    (hm : asMoney (.finite amount) = some m)
    (hg : expectedRecoveredRevenue p (.finite amount) = .ok g) (hgm : g ≤ m)
    (hcosts : (costs.total : ℤ) < 10 ^ 28) :
    expectedNetRecovery p (.finite amount) costs = .ok ((g : ℤ) - costs.total) := by
  have hlt := (asMoney_finite.mp hm).2
  have hle : (g : ℤ) ≤ m := by exact_mod_cast hgm
  unfold ActionCosts.total at hcosts ⊢
  have hfirst : g.toDecimal = .finite (((g : ℤ) : ℚ) / 100) := by
    unfold Money.toDecimal
    push_cast
    rfl
  unfold expectedNetRecovery
  rw [hg]
  show (lessCost g.toDecimal costs.interventionCost >>= _) = _
  rw [hfirst, lessCost_paise (by rw [abs_lt]; omega)]
  show (lessCost (.finite _) costs.discountCost >>= _) = _
  rw [lessCost_paise (by rw [abs_lt]; omega)]
  show (lessCost (.finite _) costs.communicationCost >>= _) = _
  rw [lessCost_paise (by rw [abs_lt]; omega)]
  show (lessCost (.finite _) costs.riskPenalty >>= _) = _
  rw [lessCost_paise (by rw [abs_lt]; omega)]
  show signedMoney (.finite _) = _
  rw [signedMoney_paise (by rw [abs_lt]; omega)]
  congr 1
  push_cast
  ring

/-! ### The default settings -/

/-- The default costs in paise, without the discount. -/
def defaultCosts : RecoveryActionType → ActionCosts
  | .retryNow => ⟨500, 0, 0, 1500⟩
  | .retryLater => ⟨200, 0, 0, 400⟩
  | .sendPaymentLink => ⟨300, 0, 150, 800⟩
  | .sendReminder => ⟨50, 0, 150, 1200⟩
  | .offerDiscount => ⟨100, 0, 150, 4000⟩
  | .escalate => ⟨25000, 0, 0, 3000⟩
  | .doNothing => ⟨0, 0, 0, 0⟩

theorem costsFor_default (action : RecoveryActionType) :
    ({} : OptimizerSettings).costsFor action = .ok (defaultCosts action) := by
  cases action <;> decide +kernel

/-- A share of an accepted amount, rounded to paise. -/
theorem concessionOn_eq {amount : Decimal} {percent : ℚ} {m : Money}
    (hm : raiseMoney amount = .ok m) (hpositive : 0 < percent) :
    concessionOn amount (.finite percent) =
      ((Decimal.mul? ((m : ℚ) / 100) (.finite percent)).bind (·.div? 100)).elim
        (.error (.crash "InvalidOperation")) raiseMoney := by
  have hgt : Decimal.gt? (.finite percent) (.finite 0) = some true := by
    show some (decide (0 < percent)) = some true
    rw [decide_eq_true hpositive]
  unfold concessionOn
  rw [hm, hgt]
  dsimp only [bind, Except.bind]
  rw [if_neg (by rintro ⟨h, -⟩; cases h)]
  cases (Decimal.mul? ((m : ℚ) / 100) (.finite percent)).bind (·.div? 100) <;> rfl

/-- The default discount on an accepted amount, at most a fifth of it. -/
theorem concessionOn_ok {amount : ℚ} {m : Money} (hm : asMoney (.finite amount) = some m) :
    ∃ c : Money, concessionOn (.finite amount) (.finite 5) = .ok c ∧ 5 * c ≤ m + 5 := by
  have hlt := (asMoney_finite.mp hm).2
  have hlt' : (m : ℚ) < 10 ^ 28 := by exact_mod_cast hlt
  have hm0 : (0 : ℚ) ≤ m := by positivity
  have habs : |(m : ℚ) / 100 * 5| = m / 100 * 5 := abs_of_nonneg (by positivity)
  obtain ⟨r, hr, hr'⟩ := Decimal.ofExact_of_lt (q := (m : ℚ) / 100 * 5) (by
    rw [habs]
    norm_num
    linarith)
  rw [habs, abs_le] at hr'
  have hr0 : 0 ≤ r := by linarith
  have habs' : |r / 100| = r / 100 := abs_of_nonneg (by positivity)
  obtain ⟨r', hr2, hr2'⟩ := Decimal.ofExact_of_lt (q := r / 100) (by
    rw [habs']
    norm_num
    linarith)
  rw [habs', abs_le] at hr2'
  have hr20 : 0 ≤ r' := by linarith
  -- twice half as much again of 5 %
  have hbound : r' * 100 ≤ m / 5 := by linarith
  have hround0 : 0 ≤ Decimal.roundHalfEven (r' * 100) :=
    Decimal.le_roundHalfEven (by push_cast; positivity)
  obtain ⟨c, hc⟩ := Int.eq_ofNat_of_zero_le hround0
  have hhalf := Decimal.roundHalfEven_le_add_half (r' * 100)
  rw [hc] at hhalf
  push_cast at hhalf
  have hle : 5 * c ≤ m + 5 := by
    have hle' : (5 : ℚ) * c ≤ m + 5 := by linarith
    exact_mod_cast hle'
  refine ⟨c, ?_, hle⟩
  rw [concessionOn_eq (raiseMoney_eq_ok.mpr hm) (by norm_num)]
  have hmul : Decimal.mul? ((m : ℚ) / 100) (.finite 5) = some (.finite r) := hr
  have hdiv : Decimal.div? (.finite r) 100 = some (.finite r') := hr2
  rw [hmul, Option.bind_some, hdiv]
  exact raiseMoney_eq_ok.mpr (asMoney_finite.mpr ⟨hc, by omega⟩)

/-- The default costs of an action for an accepted amount. -/
theorem costsForAction_ok {amount : ℚ} {m : Money} (hm : asMoney (.finite amount) = some m)
    (action : RecoveryActionType) :
    ∃ costs, costsForAction action (.finite amount) {} none = .ok costs ∧
      (costs.total : ℤ) < 10 ^ 28 := by
  have hlt := (asMoney_finite.mp hm).2
  have hfixed : ((defaultCosts action).total : ℤ) ≤ 28000 := by cases action <;> decide
  unfold costsForAction
  rw [costsFor_default]
  dsimp only [bind, Except.bind]
  split
  · obtain ⟨c, hc, hle⟩ := concessionOn_ok hm
    have hpercent : (none : Option Decimal).getD
      ({} : OptimizerSettings).defaultDiscountPercent = .finite 5 := rfl
    rw [hpercent, hc]
    refine ⟨_, rfl, ?_⟩
    have hconcession : (5 : ℤ) * c ≤ m + 5 := by exact_mod_cast hle
    unfold ActionCosts.total at hfixed ⊢
    push_cast at hfixed ⊢
    omega
  · exact ⟨_, rfl, by omega⟩

end ReviveX
