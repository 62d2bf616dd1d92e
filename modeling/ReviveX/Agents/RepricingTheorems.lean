import ReviveX.Agents.PricingTheorems

/-!
# Prices and choices under other probabilities

A price that fits into 28 digits is the expected recovery less the costs, without rounding, so
two probabilities give an action the same price exactly when their products with the amount
round to the same paise (`expectedNetRecovery_inj`). The choice reads the prices of the
candidates and not their probabilities, so that replacing the latter alone changes nothing
(`rankCandidates_requoted`).
-/

namespace ReviveX

open Lib (Decimal)

variable {settings : OptimizerSettings} {p q : ℚ} {amount : Money} {costs : ActionCosts}
  {c : RecoveryCase}

/-! ## A price is exact -/

/-- A value at which a price is refused. -/
def Sunk (d : Decimal) : Prop := ∃ q, d = .finite q ∧ q ≤ -10 ^ 26

theorem ofExact_sunk {q r : ℚ} (h : Decimal.ofExact q = some (.finite r)) (hq : q ≤ -10 ^ 26) :
    r ≤ -10 ^ 26 := by
  have hunit : Decimal.ofExact (((-1 : ℤ) : ℚ) * 10 ^ (26 : ℤ)) =
      some (.finite (((-1 : ℤ) : ℚ) * 10 ^ (26 : ℤ))) :=
    Decimal.ofExact_of_units (by norm_num) (by norm_num)
  have hbound : ((-1 : ℤ) : ℚ) * 10 ^ (26 : ℤ) = -10 ^ 26 := by norm_num
  rw [hbound] at hunit
  exact Decimal.ofExact_mono hq h hunit

theorem lessCost_finite {a : ℚ} {cost : Money} {x : Decimal}
    (h : lessCost (.finite a) cost = .ok x) :
    ∃ b, x = .finite b ∧ Decimal.ofExact (a - (cost : ℚ) / 100) = some (.finite b) := by
  have hsub : (Decimal.ofExact (a - (cost : ℚ) / 100)).elim
      (Except.error (Failure.crash "Overflow")) Except.ok = .ok x := h
  cases hexact : Decimal.ofExact (a - (cost : ℚ) / 100) with
  | none =>
    rw [hexact] at hsub
    cases hsub
  | some d =>
    rw [hexact] at hsub
    obtain rfl : d = x := Except.ok.inj hsub
    obtain ⟨b, rfl⟩ := Decimal.ofExact_finite hexact
    exact ⟨b, rfl, rfl⟩

/-- What is left after some costs: whole paise, or a value that stays refused. -/
def Left (d : Decimal) (n : ℤ) : Prop :=
  (d = .finite ((n : ℚ) / 100) ∧ |n| < 10 ^ 28) ∨ Sunk d

theorem Left.lessCost {d x : Decimal} {n : ℤ} {cost : Money} (h : Left d n)
    (hx : lessCost d cost = .ok x) : Left x (n - cost) := by
  rcases h with ⟨rfl, hn⟩ | ⟨a, rfl, ha⟩
  · by_cases hfits : |n - cost| < 10 ^ 28
    · rw [lessCost_paise hfits] at hx
      exact .inl ⟨(Except.ok.inj hx).symm, hfits⟩
    · -- a cost only lowers a value
      have hlow : n - cost ≤ -10 ^ 28 := by
        rw [abs_lt] at hn hfits
        omega
      obtain ⟨b, rfl, hexact⟩ := lessCost_finite hx
      have hlow' : (n : ℚ) - cost ≤ -10 ^ 28 := by exact_mod_cast hlow
      exact .inr ⟨b, rfl, ofExact_sunk hexact (by linarith)⟩
  · obtain ⟨b, rfl, hexact⟩ := lessCost_finite hx
    have hcost : (0 : ℚ) ≤ cost := by positivity
    exact .inr ⟨b, rfl, ofExact_sunk hexact (by linarith)⟩

theorem Left.signedMoney {d : Decimal} {n v : ℤ} (h : Left d n) (hv : signedMoney d = .ok v) :
    v = n := by
  rcases h with ⟨rfl, hn⟩ | ⟨a, rfl, ha⟩
  · rw [signedMoney_paise hn] at hv
    exact (Except.ok.inj hv).symm
  · have hround : Decimal.roundHalfEven (a * 100) ≤ -10 ^ 28 :=
      Decimal.roundHalfEven_le (by push_cast; linarith)
    have habs : (10 : ℤ) ^ 28 ≤ |Decimal.roundHalfEven (a * 100)| := by
      rw [abs_of_neg (by omega)]
      omega
    unfold ReviveX.signedMoney at hv
    dsimp only at hv
    rw [if_pos habs] at hv
    cases hv

/-- A price is the expected recovery less the costs. -/
theorem expectedNetRecovery_exact {value : Decimal} {v : ℤ}
    (h : expectedNetRecovery p value costs = .ok v) :
    ∃ g : Money, expectedRecoveredRevenue p value = .ok g ∧ v = (g : ℤ) - costs.total := by
  unfold expectedNetRecovery at h
  obtain ⟨g, hg, h⟩ := Lib.bind_eq_ok.mp h
  have hlt : |(g : ℤ)| < 10 ^ 28 := by
    obtain ⟨hp, m, hm⟩ := probability_of_expectedRecoveredRevenue hg
    obtain ⟨g', hg', hle⟩ := expectedRecoveredRevenue_le hp hm
    obtain rfl := Except.ok.inj (hg.symm.trans hg')
    obtain ⟨a, -, hmoney⟩ := finite_of_raiseMoney hm
    have hm28 := (asMoney_finite.mp hmoney).2
    have hle' : (g : ℤ) ≤ m := by exact_mod_cast hle
    rw [abs_lt]
    omega
  have hleft : Left g.toDecimal (g : ℤ) := .inl ⟨rfl, hlt⟩
  -- the four subtractions, one after the other
  obtain ⟨x₁, hx₁, h⟩ := Lib.bind_eq_ok.mp h
  obtain ⟨x₂, hx₂, h⟩ := Lib.bind_eq_ok.mp h
  obtain ⟨x₃, hx₃, h⟩ := Lib.bind_eq_ok.mp h
  obtain ⟨x₄, hx₄, h⟩ := Lib.bind_eq_ok.mp h
  have hend := (((hleft.lessCost hx₁).lessCost hx₂).lessCost hx₃).lessCost hx₄
  refine ⟨g, hg, (hend.signedMoney h).trans ?_⟩
  unfold ActionCosts.total
  push_cast
  ring

/-! ## The same paise -/

/-- The products of an amount with two probabilities are the same money. -/
def SamePaise (amount : Money) (p q : ℚ) : Prop :=
  (Decimal.mul? p amount.toDecimal).bind asMoney = (Decimal.mul? q amount.toDecimal).bind asMoney

theorem expectedRecoveredRevenue_iff {g : Money} (hp : 0 ≤ p ∧ p ≤ 1)
    (ham : (amount : ℤ) < 10 ^ 28) :
    expectedRecoveredRevenue p amount.toDecimal = .ok g ↔
      (Decimal.mul? p amount.toDecimal).bind asMoney = some g := by
  have hm : raiseMoney amount.toDecimal = .ok amount := raiseMoney_eq_ok.mpr (asMoney_paise ham)
  rw [expectedRecoveredRevenue_eq hp hm]
  cases Decimal.mul? p amount.toDecimal with
  | none => simp
  | some d => exact raiseMoney_eq_ok

/-- Of an accepted amount the same is expected exactly when the products are the same money. -/
theorem expectedRecoveredRevenue_eq_iff (hp : 0 ≤ p ∧ p ≤ 1) (hq : 0 ≤ q ∧ q ≤ 1)
    (ham : (amount : ℤ) < 10 ^ 28) :
    expectedRecoveredRevenue q amount.toDecimal = expectedRecoveredRevenue p amount.toDecimal ↔
      SamePaise amount p q := by
  have hm : raiseMoney amount.toDecimal = .ok amount := raiseMoney_eq_ok.mpr (asMoney_paise ham)
  obtain ⟨g, hg, -⟩ := expectedRecoveredRevenue_le hp hm
  obtain ⟨g', hg', -⟩ := expectedRecoveredRevenue_le hq hm
  unfold SamePaise
  rw [hg, hg', (expectedRecoveredRevenue_iff hp ham).mp hg,
    (expectedRecoveredRevenue_iff hq ham).mp hg', Except.ok.injEq, Option.some.injEq]
  exact eq_comm

/-- A price of an amount at all is a price of an accepted one. -/
theorem lt_of_expectedRecoveredRevenue {g : Money}
    (h : expectedRecoveredRevenue p amount.toDecimal = .ok g) : (amount : ℤ) < 10 ^ 28 := by
  obtain ⟨-, m, hm⟩ := probability_of_expectedRecoveredRevenue h
  have hmoney : asMoney amount.toDecimal = some m := raiseMoney_eq_ok.mp hm
  obtain ⟨hround, hlt⟩ := asMoney_finite.mp hmoney
  have hwhole : (amount : ℚ) / 100 * 100 = ((amount : ℤ) : ℚ) := by
    push_cast
    ring
  rw [hwhole, Decimal.roundHalfEven_intCast] at hround
  omega

/-- Two probabilities give an action the same price only when the products are the same
money. -/
theorem samePaise_of_expectedNetRecovery {v : ℤ}
    (hp : expectedNetRecovery p amount.toDecimal costs = .ok v)
    (hq : expectedNetRecovery q amount.toDecimal costs = .ok v) : SamePaise amount p q := by
  obtain ⟨g, hg, hv⟩ := expectedNetRecovery_exact hp
  obtain ⟨g', hg', hv'⟩ := expectedNetRecovery_exact hq
  have hsame : g' = g := by
    have hcast : (g' : ℤ) = g := by linarith
    exact_mod_cast hcast
  refine (expectedRecoveredRevenue_eq_iff (probability_of_expectedRecoveredRevenue hg).1
    (probability_of_expectedRecoveredRevenue hg').1 (lt_of_expectedRecoveredRevenue hg)).mp ?_
  rw [hg, hg', hsame]

theorem expectedNetRecovery_congr
    (h : expectedRecoveredRevenue q amount.toDecimal =
      expectedRecoveredRevenue p amount.toDecimal) :
    expectedNetRecovery q amount.toDecimal costs =
      expectedNetRecovery p amount.toDecimal costs := by
  unfold expectedNetRecovery
  rw [h]

/-! ## Other probabilities -/

/-- The candidate under another probability, if it has one. -/
def CandidateAction.requoted (f : RecoveryActionType → ℚ) (w : CandidateAction) : CandidateAction :=
  { w with probability := w.probability.map fun _ => f w.action }

/-- The priced candidate under another probability, at the same price. -/
def PricedCandidate.requoted (f : RecoveryActionType → ℚ) (w : PricedCandidate) : PricedCandidate :=
  { w with probability := w.probability.map fun _ => f w.action }

variable {f : RecoveryActionType → ℚ}

theorem eligibleCandidates_requoted (candidates : List PricedCandidate) :
    eligibleCandidates (candidates.map (·.requoted f)) =
      (eligibleCandidates candidates).map (·.requoted f) := by
  unfold eligibleCandidates
  rw [List.filter_map]
  congr 1
  refine List.filter_congr fun w _ => ?_
  simp [PricedCandidate.requoted]

theorem firstOf_requoted (ranked : List PricedCandidate) :
    firstOf (ranked.map (·.requoted f)) = (firstOf ranked).map (·.requoted f) := by
  cases ranked <;> rfl

theorem insertionSort_requoted {r : PricedCandidate → PricedCandidate → Prop} [DecidableRel r]
    (hr : ∀ a b, r (a.requoted f) (b.requoted f) ↔ r a b) (l : List PricedCandidate) :
    (l.map (·.requoted f)).insertionSort r = (l.insertionSort r).map (·.requoted f) :=
  (List.map_insertionSort r r _ l fun a _ b _ => (hr a b).symm).symm

theorem maxWithTies_requoted (pool : List PricedCandidate) :
    maxWithTies (pool.map (·.requoted f)) settings =
      (maxWithTies pool settings).map (·.requoted f) := by
  unfold maxWithTies
  dsimp only
  rw [insertionSort_requoted fun _ _ => Iff.rfl, firstOf_requoted]
  cases firstOf (pool.insertionSort fun a b => b.expectedValue ≤ a.expectedValue) with
  | error e => rfl
  | ok best =>
    cases signedMoney settings.tieEpsilon with
    | error e => rfl
    | ok epsilon =>
      show firstOf (List.insertionSort _ (List.filter _ (List.map _ _))) = _
      rw [List.filter_map, insertionSort_requoted fun _ _ => Iff.rfl, firstOf_requoted]
      rfl

theorem profitable_requoted (eligible : List PricedCandidate) :
    profitable (eligible.map (·.requoted f)) = (profitable eligible).map (·.requoted f) := by
  unfold profitable
  rw [List.filter_map]
  rfl

theorem selectControl_requoted (eligible : List PricedCandidate) (suspicious : Bool) :
    selectControl (eligible.map (·.requoted f)) suspicious =
      ((selectControl eligible suspicious).1.map (·.requoted f),
        (selectControl eligible suspicious).2) := by
  have hfind : ∀ action : RecoveryActionType,
      (eligible.map (·.requoted f)).reverse.find? (·.action = action) =
        (eligible.reverse.find? (·.action = action)).map (·.requoted f) := by
    intro action
    rw [← List.map_reverse, List.find?_map]
    rfl
  unfold selectControl
  dsimp only
  rw [hfind, hfind]
  cases suspicious <;>
    cases eligible.reverse.find? (·.action = .escalate) <;>
      cases eligible.reverse.find? (·.action = .doNothing) <;> rfl

theorem selectAction_requoted (candidates : List PricedCandidate)
    (suspicious sourceMismatch : Bool) :
    Ranking.selectAction (candidates.map (·.requoted f)) settings suspicious sourceMismatch =
      (Ranking.selectAction candidates settings suspicious sourceMismatch).map
        (Prod.map (Option.map (·.requoted f)) id) := by
  have hprofitable := profitable_requoted (f := f) (eligibleCandidates candidates)
  unfold profitable at hprofitable
  unfold Ranking.selectAction
  dsimp only
  rw [eligibleCandidates_requoted, hprofitable, List.isEmpty_map, List.isEmpty_map]
  split
  · rfl
  · split
    · exact congrArg Except.ok (selectControl_requoted _ _)
    · rw [maxWithTies_requoted]
      cases maxWithTies ((eligibleCandidates candidates).filter fun item =>
        item.action.isIntervention && decide (0 ≤ item.expectedValue)) settings <;> rfl

/-! ## The ranking -/

/-- The price of a candidate of a case. -/
def OptimizerSettings.price (settings : OptimizerSettings) (c : RecoveryCase)
    (candidate : CandidateAction) : Except Failure PricedCandidate := do
  let costs ← settings.costsFor candidate.action
  candidateFromQuote candidate c.amountAtRisk.toDecimal
    { costs with discountCost := candidate.discountCost }

theorem rankCandidates_eq (scored : List CandidateAction) (highRisk : Bool) :
    settings.rankCandidates c scored highRisk =
      ((scored.insertionSort fun a b => a.action.text ≤ b.action.text).mapM (settings.price c) >>=
        fun priced => (Ranking.selectAction priced settings highRisk false).map
          (Prod.map (Option.map (·.toCandidateAction)) id)) := by
  unfold OptimizerSettings.rankCandidates
  refine congrArg _ (funext fun priced => ?_)
  cases Ranking.selectAction priced settings highRisk false <;> rfl

/-- Another probability of which the same is expected leaves the prices of a candidate. -/
theorem price_requoted {candidate : CandidateAction}
    (h : ∀ p, candidate.probability = some p →
      expectedRecoveredRevenue (f candidate.action) c.amountAtRisk.toDecimal =
        expectedRecoveredRevenue p c.amountAtRisk.toDecimal) :
    settings.price c (candidate.requoted f) =
      (settings.price c candidate).map (·.requoted f) := by
  obtain ⟨action, probability, discountCost, discountPercent, allowed, requiresApproval⟩ :=
    candidate
  unfold OptimizerSettings.price CandidateAction.requoted
  dsimp only
  cases settings.costsFor action with
  | error e => rfl
  | ok costs =>
    cases probability with
    | none => rfl
    | some p =>
      have hsame := h p rfl
      unfold candidateFromQuote
      show (expectedRecoveredRevenue (f action) c.amountAtRisk.toDecimal >>= _) = _
      rw [hsame]
      dsimp only [Option.map, bind, Except.bind]
      cases expectedRecoveredRevenue p c.amountAtRisk.toDecimal with
      | error e => rfl
      | ok g =>
        dsimp only
        rw [expectedNetRecovery_congr hsame]
        cases expectedNetRecovery p c.amountAtRisk.toDecimal
          { costs with discountCost := discountCost } <;> rfl

/-- Candidates at the same prices are ranked alike, whatever their probabilities are. -/
theorem rankCandidates_requoted (settings : OptimizerSettings) {scored : List CandidateAction}
    (highRisk : Bool)
    (h : ∀ candidate ∈ scored, ∀ p, candidate.probability = some p →
      expectedRecoveredRevenue (f candidate.action) c.amountAtRisk.toDecimal =
        expectedRecoveredRevenue p c.amountAtRisk.toDecimal) :
    settings.rankCandidates c (scored.map (·.requoted f)) highRisk =
      (settings.rankCandidates c scored highRisk).map
        (Prod.map (Option.map (·.requoted f)) id) := by
  have hsorted : (scored.map (·.requoted f)).insertionSort
      (fun a b => a.action.text ≤ b.action.text) =
        (scored.insertionSort fun a b => a.action.text ≤ b.action.text).map (·.requoted f) :=
    (List.map_insertionSort (fun a b : CandidateAction => a.action.text ≤ b.action.text)
      (fun a b : CandidateAction => a.action.text ≤ b.action.text) (·.requoted f) scored
        fun _ _ _ _ => Iff.rfl).symm
  have hprices : ((scored.insertionSort fun a b => a.action.text ≤ b.action.text).map
      (·.requoted f)).mapM (settings.price c) =
        ((scored.insertionSort fun a b => a.action.text ≤ b.action.text).mapM
          (settings.price c)).map (List.map (·.requoted f)) :=
    Lib.mapM_map fun candidate hmem =>
      price_requoted (h candidate ((List.mem_insertionSort _).mp hmem))
  rw [rankCandidates_eq, rankCandidates_eq, hsorted, hprices]
  cases (scored.insertionSort fun a b => a.action.text ≤ b.action.text).mapM
      (settings.price c) with
  | error e => rfl
  | ok priced =>
    show (Ranking.selectAction (priced.map (·.requoted f)) settings highRisk false).map _ = _
    rw [selectAction_requoted]
    cases hselected : Ranking.selectAction priced settings highRisk false with
    | error e =>
      show _ = Except.map _ (Except.map _ (Ranking.selectAction priced settings highRisk false))
      rw [hselected]
      rfl
    | ok selected =>
      show _ = Except.map _ (Except.map _ (Ranking.selectAction priced settings highRisk false))
      rw [hselected]
      obtain ⟨w, reason⟩ := selected
      cases w <;> rfl

theorem rankCandidates_requoted_ok {scored : List CandidateAction} {highRisk : Bool}
    {selected : Option CandidateAction} {reason : String}
    (h : ∀ candidate ∈ scored, ∀ p, candidate.probability = some p →
      expectedRecoveredRevenue (f candidate.action) c.amountAtRisk.toDecimal =
        expectedRecoveredRevenue p c.amountAtRisk.toDecimal) :
    settings.rankCandidates c (scored.map (·.requoted f)) highRisk = .ok (selected, reason) ↔
      ∃ chosen, settings.rankCandidates c scored highRisk = .ok (chosen, reason) ∧
        chosen.map (·.requoted f) = selected := by
  rw [rankCandidates_requoted settings highRisk h, Lib.map_eq_ok]
  constructor
  · rintro ⟨⟨chosen, why⟩, hranked, hsame⟩
    obtain ⟨rfl, rfl⟩ := Prod.mk.inj hsame
    exact ⟨chosen, hranked, rfl⟩
  · rintro ⟨chosen, hranked, rfl⟩
    exact ⟨(chosen, reason), hranked, rfl⟩

end ReviveX
