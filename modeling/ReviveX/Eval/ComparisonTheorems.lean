import Mathlib.Algebra.Order.BigOperators.Group.List
import ReviveX.Eval.BatchComparison
import ReviveX.Eval.BatchTheorems
import ReviveX.Providers.InterventionTheorems

/-!
# Accounting of a paired comparison

Each case is settled by one draw, whatever the strategy: `evaluateCase_ok` reads a result off that
draw and the action that was chosen. Since both runs share it, a strategy whose action is no less
likely to recover the case recovers it whenever the baseline does, and the totals over a batch
follow by summing up. The amounts of a batch are whole multiples of a hundredth of a paisa, few
enough for 28 digits, so that no total is rounded. A prediction that is a NaN, which nothing
refuses, is the one thing that keeps the comparison from returning.
-/

namespace ReviveX

open Lib (Decimal)

variable {rt : EvaluationRuntime} {seed : ℤ} {mode : String} {strategy : EvaluationStrategy}
  {c : GeneratedCase}

/-! ## Amounts and costs -/

/-- At most 10,000 rupees, counted in hundredths of a paisa. -/
def CaseAmount (x : ℚ) : Prop := Decimal.InUnits 4 (10 ^ 8) x

theorem caseAmount_zero : CaseAmount 0 := ⟨0, by norm_num, by norm_num⟩

theorem GeneratedCase.amount_nonneg (c : GeneratedCase) : 0 ≤ c.amount := by
  unfold GeneratedCase.amount
  positivity

theorem GeneratedCase.caseAmount (c : GeneratedCase) : CaseAmount c.amount := by
  have hle := c.paise_le
  refine ⟨100 * c.paise, ?_, ?_⟩
  · rw [abs_of_nonneg (by positivity)]
    omega
  · unfold GeneratedCase.amount
    push_cast
    ring

theorem GeneratedCase.asMoney_amount (c : GeneratedCase) :
    asMoney (.finite c.amount) = some c.paise := by
  have hle := c.paise_le
  exact asMoney_paise (by omega)

/-- The cost of an action is a number of this kind. -/
theorem GeneratedCase.actionCost_ok (c : GeneratedCase) (action : RecoveryActionType) :
    ∃ cost, actionCost action c.amount = .ok (.finite cost) ∧ CaseAmount cost := by
  have hle := c.paise_le
  refine ⟨_, (actionCost_eq c.asMoney_amount action).1, ?_⟩
  by_cases hdiscount : action = .offerDiscount
  · subst hdiscount
    refine ⟨_, ?_, evaluatorCost_paise (by omega)⟩
    rw [abs_of_nonneg (by positivity)]
    omega
  · have htotal : ((defaultCosts action).total : ℤ) ≤ 28000 := by
      cases action <;> first | exact absurd rfl hdiscount | decide
    refine ⟨100 * (defaultCosts action).total, ?_, ?_⟩
    · rw [abs_of_nonneg (by positivity)]
      omega
    · unfold evaluatorCost
      rw [if_neg hdiscount]
      push_cast
      ring

/-! ## Probabilities -/

/-- The generator keeps the numbers of a case in range. -/
theorem GeneratedCase.inRange (c : GeneratedCase) : c.interventionContext.InRange := by
  have hlarge : (100 : ℤ) ≤ decimalLimit := by exact_mod_cast decimalLimit_ge
  have hattempt := c.attemptNumber_le
  have hprior := c.priorFailures_le
  have hcount := c.communicationCount_le
  have hvalue := c.le_customerLifetimeValue
  have hratio : 0 ≤ c.amount / c.customerLifetimeValue ∧
      c.amount / c.customerLifetimeValue < 10 ^ 100 := by
    have hamount : c.amount ≤ 7880 := by
      have hle : (c.paise : ℚ) ≤ 788000 := by exact_mod_cast c.paise_le
      unfold GeneratedCase.amount
      linarith
    have hpos : 0 < c.customerLifetimeValue := by linarith
    refine ⟨div_nonneg c.amount_nonneg hpos.le, ?_⟩
    rw [div_lt_iff₀ hpos]
    linarith
  have hlimit : (0 : ℚ) ≤ decimalLimit := by exact_mod_cast (by omega : (0 : ℤ) ≤ decimalLimit)
  have hquotient : Decimal.ofExact (c.amount / c.customerLifetimeValue) =
      some (.finite (Decimal.rounded (c.amount / c.customerLifetimeValue))) := by
    refine Decimal.ofExact_eq_rounded ?_
    rw [abs_of_nonneg hratio.1]
    exact hratio.2
  have hover : Decimal.over? (.finite c.amount) (.finite c.customerLifetimeValue) =
      some (.finite (Decimal.rounded (c.amount / c.customerLifetimeValue))) := by
    show (if c.customerLifetimeValue = 0 then none else
      Decimal.div? (.finite c.amount) c.customerLifetimeValue) = _
    rw [if_neg (by linarith)]
    exact hquotient
  constructor
  case ratio =>
    intro _
    refine ⟨_, hover, nofun, ?_⟩
    rintro _ ⟨⟩
    have hnonneg := Decimal.exact_zero.le_ofExact hratio.1 hquotient
    linarith
  case age =>
    intro hours hhours
    obtain ⟨q, hq, -, rfl⟩ := Option.pmap_eq_some_iff.mp hhours
    exact nofun
  case attempts =>
    show (c.attemptNumber : ℤ) ≤ decimalLimit
    omega
  case failures =>
    show (c.priorFailures : ℤ) ≤ decimalLimit
    omega
  case communications =>
    show (c.communicationCount : ℤ) ≤ decimalLimit
    omega
  all_goals exact nofun

/-- The simulator has a chance for every action on the case. -/
theorem GeneratedCase.chance_eq (c : GeneratedCase) (action : RecoveryActionType) :
    interventionRecoveryProbability c.interventionContext action =
        some (.finite (c.chance action)) ∧
      0 ≤ c.chance action ∧ c.chance action ≤ 1 := by
  obtain ⟨d, hd⟩ := interventionRecoveryProbability_isSome c.inRange action
  obtain ⟨q, rfl, hlow, hhigh⟩ := interventionRecoveryProbability_range hd
  have hchance : c.chance action = q := by
    unfold GeneratedCase.chance
    rw [hd]
    rfl
  rw [hchance]
  exact ⟨hd, hlow, hhigh.trans (by norm_num)⟩

/-- No probability that the strategy reads is a NaN. -/
def GeneratedCase.PredictsNumbers (c : GeneratedCase) (mode : String) : Prop :=
  ∀ action, (caseProbabilities c.model mode).1 action ≠ .nan

/-- What is not outside of [0, 1] is a probability or a NaN. -/
theorem probability_of_not_outside {d : Decimal} (h : outsideUnit d = false) (hnan : d ≠ .nan) :
    ∃ q, d = .finite q ∧ 0 ≤ q ∧ q ≤ 1 := by
  cases d with
  | nan => exact absurd rfl hnan
  | infinity negative => cases negative <;> cases h
  | finite q =>
    simp only [outsideUnit, floatBelow, floatAbove, Bool.or_eq_false_iff, decide_eq_false_iff_not,
      not_lt] at h
    exact ⟨q, rfl, h⟩

theorem GeneratedCase.probability_valid {c : GeneratedCase} {mode : String}
    (h : c.PredictsNumbers mode) (action : RecoveryActionType) :
    ∃ q, (caseProbabilities c.model mode).1 action = .finite q ∧ 0 ≤ q ∧ q ≤ 1 := by
  refine probability_of_not_outside ?_ (h action)
  have hsimulated : outsideUnit (.finite (c.chance action)) = false := by
    obtain ⟨-, hlow, hhigh⟩ := c.chance_eq action
    simp [outsideUnit, floatBelow, floatAbove, hlow, hhigh]
  unfold caseProbabilities
  dsimp only
  by_cases hml : mode = "ml"
  · rw [if_pos hml]
    cases scorableActions.mapM c.model.predict with
    | error f => exact hsimulated
    | ok predictions =>
      dsimp only
      cases hpredict : c.model.predict action with
      | error f => exact hsimulated
      | ok p =>
        dsimp only
        by_cases hsource : p.source = "ml"
        · rw [if_pos hsource]
          exact c.predict_valid action p hpredict
        · rw [if_neg hsource]
          exact hsimulated
  · rw [if_neg hml]
    exact hsimulated

theorem GeneratedCase.revivexStrategy_ok {c : GeneratedCase} {mode : String}
    (h : c.PredictsNumbers mode) :
    ∃ action source, revivexStrategy c.model mode c.amount = .ok (action, source) := by
  choose p hmodel hp using fun a => c.probability_valid h a
  obtain ⟨w, -, hw⟩ := revivexStrategy_eq hmodel hp c.asMoney_amount
  exact ⟨w, _, hw⟩

/-- The comparison with a NaN raises. -/
theorem GeneratedCase.predictsNumbers_of_ok {c : GeneratedCase} {mode : String}
    {choice : RecoveryActionType × String}
    (h : revivexStrategy c.model mode c.amount = .ok choice) : c.PredictsNumbers mode := by
  intro action hnan
  obtain ⟨best, hwalk, -⟩ := Lib.bind_eq_ok.mp h
  have hall : action ∈ scorableActions := by cases action <;> decide
  obtain ⟨before, after, hround⟩ :
      ∃ before after, keepBest (caseProbabilities c.model mode).1 c.amount before action =
        .ok after := Lib.of_foldlM_ok hwalk hall
  have hvalue : evaluatedValue ((caseProbabilities c.model mode).1 action) c.amount action =
      .ok .nan := by
    unfold evaluatedValue
    rw [hnan, (actionCost_eq c.asMoney_amount action).1]
    rfl
  unfold keepBest at hround
  rw [hvalue] at hround
  cases hround

/-! ## One case -/

/-- The draw that settles a case. -/
def caseDraw (rt : EvaluationRuntime) (seed : ℤ) (c : GeneratedCase) : ℚ :=
  (rt.random (toString seed ++ ":" ++ c.caseId)).draws 0

/-- A result of a case, read off the draw and the action. -/
structure SettledBy (draw : ℚ) (c : GeneratedCase) (r : CaseEvaluationResult) : Prop where
  caseId : r.caseId = c.caseId
  amountAtRisk : r.amountAtRisk = c.amount
  recovered : r.recovered = decide (draw < Lib.toBinary64 (c.chance r.action))
  recoveredAmount : r.recoveredAmount = if r.recovered then c.amount else 0
  finalStatus : r.finalStatus = settledStatus r.recovered r.action
  cost : CaseAmount r.cost

/-- The choice of a strategy, which leaves the generator alone. -/
theorem chosenAction_ok (c : GeneratedCase) (strategy : EvaluationStrategy) (mode : String)
    (hpredicts : strategy = .revivex → c.PredictsNumbers mode) :
    ∃ action source, (strategy = .baseline → action = .doNothing) ∧
      ∀ rng : Random, (chosenAction c strategy mode).run rng = (.ok (action, source), rng) := by
  cases strategy with
  | baseline => exact ⟨.doNothing, none, fun _ => rfl, fun _ => rfl⟩
  | revivex =>
    obtain ⟨action, source, hchoice⟩ := c.revivexStrategy_ok (hpredicts rfl)
    refine ⟨action, some source, nofun, fun rng => ?_⟩
    unfold chosenAction
    dsimp only
    rw [Lib.Session.run_ofExcept_bind, hchoice]
    rfl

/-- The result of a case that the draw settles after an action. -/
def settledResult (draw : ℚ) (c : GeneratedCase) (action : RecoveryActionType)
    (source : Option String) (cost : ℚ) : CaseEvaluationResult :=
  let recovered := decide (draw < Lib.toBinary64 (c.chance action))
  { caseId := c.caseId
    amountAtRisk := c.amount
    action
    recovered
    recoveredAmount := if recovered then c.amount else 0
    cost
    finalStatus := settledStatus recovered action
    probabilitySource := source }

/-- A case gets a result unless a prediction is a NaN, and the strategy enters it through the
action alone. -/
theorem evaluateCase_ok (rt : EvaluationRuntime) (seed : ℤ) (mode : String)
    (strategy : EvaluationStrategy) (c : GeneratedCase)
    (hpredicts : strategy = .revivex → c.PredictsNumbers mode) :
    ∃ r, evaluateCase rt seed mode strategy c = .ok r ∧ SettledBy (caseDraw rt seed c) c r ∧
      (strategy = .baseline → r.action = .doNothing) := by
  obtain ⟨action, source, hbaseline, hchoice⟩ := chosenAction_ok c strategy mode hpredicts
  obtain ⟨cost, hcost, hunits⟩ := c.actionCost_ok action
  refine ⟨settledResult (caseDraw rt seed c) c action source cost, ?_,
    ⟨rfl, rfl, rfl, rfl, rfl, hunits⟩, hbaseline⟩
  unfold evaluateCase simulateOutcome
  dsimp only
  rw [Lib.Session.run_bind_ok (hchoice _), hcost, (c.chance_eq action).1]
  rfl

/-- A run of the strategy returns only where no prediction is a NaN. -/
theorem predictsNumbers_of_evaluateCase {r : CaseEvaluationResult}
    (h : evaluateCase rt seed mode .revivex c = .ok r) : c.PredictsNumbers mode := by
  cases hchoice : revivexStrategy c.model mode c.amount with
  | ok choice => exact c.predictsNumbers_of_ok hchoice
  | error f =>
    unfold evaluateCase chosenAction at h
    dsimp only at h
    rw [hchoice] at h
    cases h

/-- Whatever result a case gets is read off its draw. -/
theorem settledBy_of_evaluateCase {r : CaseEvaluationResult}
    (h : evaluateCase rt seed mode strategy c = .ok r) :
    SettledBy (caseDraw rt seed c) c r ∧ (strategy = .baseline → r.action = .doNothing) := by
  have hpredicts : strategy = .revivex → c.PredictsNumbers mode := by
    rintro rfl
    exact predictsNumbers_of_evaluateCase h
  obtain ⟨r', hr', hsettled⟩ := evaluateCase_ok rt seed mode strategy c hpredicts
  obtain rfl := Except.ok.inj (hr'.symm.trans h)
  exact hsettled

namespace SettledBy

variable {draw : ℚ} {b x r : CaseEvaluationResult}

/-- An action that is no less likely to recover the case recovers it with the other. -/
theorem recovered_of_le (hb : SettledBy draw c b) (hx : SettledBy draw c x)
    (hle : c.chance b.action ≤ c.chance x.action) (h : b.recovered = true) :
    x.recovered = true := by
  rw [hb.recovered, decide_eq_true_eq] at h
  rw [hx.recovered, decide_eq_true_eq]
  exact h.trans_le (Lib.toBinary64_mono (c.chance_eq b.action).2.1 hle)

theorem caseAmount_recoveredAmount (h : SettledBy draw c r) : CaseAmount r.recoveredAmount := by
  rw [h.recoveredAmount]
  cases r.recovered with
  | true => exact c.caseAmount
  | false => exact caseAmount_zero

theorem caseAmount_amountAtRisk (h : SettledBy draw c r) : CaseAmount r.amountAtRisk := by
  rw [h.amountAtRisk]
  exact c.caseAmount

theorem recoveredAmount_nonneg (h : SettledBy draw c r) : 0 ≤ r.recoveredAmount := by
  rw [h.recoveredAmount]
  cases r.recovered with
  | true => exact c.amount_nonneg
  | false => exact le_rfl

theorem recoveredAmount_le (h : SettledBy draw c r) : r.recoveredAmount ≤ r.amountAtRisk := by
  rw [h.recoveredAmount, h.amountAtRisk]
  cases r.recovered with
  | true => exact le_rfl
  | false => exact c.amount_nonneg

theorem recoveredAmount_mono (hb : SettledBy draw c b) (hx : SettledBy draw c x)
    (h : b.recovered = true → x.recovered = true) : b.recoveredAmount ≤ x.recoveredAmount := by
  cases hrecovered : b.recovered with
  | true => rw [hb.recoveredAmount, hx.recoveredAmount, hrecovered, h hrecovered]
  | false =>
    rw [hb.recoveredAmount, hrecovered]
    exact hx.recoveredAmount_nonneg

/-- A case counts as recovered by its status. -/
theorem finalStatus_eq_recovered (h : SettledBy draw c r) :
    r.finalStatus = .recovered ↔ r.recovered = true := by
  rw [h.finalStatus]
  unfold settledStatus
  cases r.recovered with
  | true => exact iff_of_true rfl rfl
  | false =>
    refine iff_of_false ?_ nofun
    rw [if_neg Bool.false_ne_true]
    by_cases hescalate : r.action = .escalate
    · rw [if_pos hescalate]
      nofun
    · rw [if_neg hescalate]
      by_cases hnothing : r.action = .doNothing
      · rw [if_pos hnothing]
        nofun
      · rw [if_neg hnothing]
        nofun

end SettledBy

/-! ## The metrics of a run -/

/-- Each aggregate is the exact sum over the case results. -/
structure Accounts (results : List CaseEvaluationResult) (m : BatchEvaluationMetrics) : Prop where
  totalRevenueAtRisk : m.totalRevenueAtRisk = (results.map (·.amountAtRisk)).sum
  totalRecovered : m.totalRecovered = (results.map (·.recoveredAmount)).sum
  totalCost : m.totalCost = (results.map (·.cost)).sum
  netRecovery : m.netRecovery = (results.map fun r => r.recoveredAmount - r.cost).sum
  totalCases : m.totalCases = results.length
  casesRecovered : m.casesRecovered = results.countP (·.finalStatus = .recovered)
  casesEscalated : m.casesEscalated = results.countP (·.finalStatus = .escalated)
  casesStopped : m.casesStopped = results.countP (·.finalStatus = .stopped)
  totalRecovered_le : m.totalRecovered ≤ m.totalRevenueAtRisk

/-- The total of an amount over the results of a batch. -/
theorem sum?_caseAmounts {results : List CaseEvaluationResult} {f : CaseEvaluationResult → ℚ}
    (hf : ∀ r ∈ results, CaseAmount (f r)) (hlength : results.length < 2 ^ 63) :
    Decimal.sum? (results.map f) = some (results.map f).sum ∧
      Decimal.InUnits 4 (results.length * 10 ^ 8) (results.map f).sum := by
  have hexact := Decimal.sum?_exact (List.forall_mem_map.mpr hf)
    (by rw [List.length_map]; omega)
  rwa [List.length_map] at hexact

theorem sum_map_sub {α : Type} (xs : List α) (f g : α → ℚ) :
    (xs.map f).sum - (xs.map g).sum = (xs.map fun x => f x - g x).sum := by
  induction xs with
  | nil => simp
  | cons x xs ih =>
    simp only [List.map_cons, List.sum_cons, ← ih]
    ring

/-- A quotient that is far from an overflow. -/
theorem div?_ok {part whole : ℚ} (h : |part / whole| < 10 ^ 50) :
    ∃ q, Decimal.number? (Decimal.div? (.finite part) whole) = some q ∧ |q| < 10 ^ 51 := by
  obtain ⟨q, hq, hclose⟩ := Decimal.ofExact_of_lt (h.trans (by norm_num))
  refine ⟨q, ?_, ?_⟩
  · show Decimal.number? (Decimal.ofExact (part / whole)) = _
    rw [hq]
    rfl
  · have hnear := abs_sub_abs_le_abs_sub q (part / whole)
    linarith

theorem shareOf_ok {part whole : ℚ} (hpart : 0 ≤ part) (hle : part ≤ whole) :
    ∃ share, shareOf part whole = .ok share := by
  by_cases hwhole : 0 < whole
  · have hratio : |part / whole| ≤ 1 := by
      rw [abs_of_nonneg (by positivity), div_le_one hwhole]
      exact hle
    obtain ⟨share, hshare, -⟩ := div?_ok (hratio.trans_lt (by norm_num))
    refine ⟨share, ?_⟩
    unfold shareOf
    rw [if_pos hwhole, hshare]
    rfl
  · refine ⟨0, ?_⟩
    unfold shareOf
    rw [if_neg hwhole]

theorem computeMetrics_ok {results : List CaseEvaluationResult}
    (hsettled : ∀ r ∈ results, ∃ draw c, SettledBy draw c r) (hlength : results.length < 2 ^ 63) :
    ∃ m, computeMetrics results = .ok m ∧ Accounts results m := by
  have hamounts : ∀ r ∈ results, CaseAmount r.amountAtRisk ∧ CaseAmount r.recoveredAmount ∧
      CaseAmount r.cost ∧ 0 ≤ r.recoveredAmount ∧ r.recoveredAmount ≤ r.amountAtRisk ∧
      (r.finalStatus = .recovered ↔ r.recovered = true) := by
    intro r hr
    obtain ⟨draw, c, h⟩ := hsettled r hr
    exact ⟨h.caseAmount_amountAtRisk, h.caseAmount_recoveredAmount, h.cost,
      h.recoveredAmount_nonneg, h.recoveredAmount_le, h.finalStatus_eq_recovered⟩
  obtain ⟨hrisk, -⟩ := sum?_caseAmounts (fun r hr => (hamounts r hr).1) hlength
  obtain ⟨hrecovered, hrecoveredUnits⟩ := sum?_caseAmounts (fun r hr => (hamounts r hr).2.1) hlength
  obtain ⟨hcost, hcostUnits⟩ := sum?_caseAmounts (fun r hr => (hamounts r hr).2.2.1) hlength
  have hnonneg : 0 ≤ (results.map (·.recoveredAmount)).sum :=
    List.sum_nonneg (List.forall_mem_map.mpr fun r hr => (hamounts r hr).2.2.2.1)
  have hle : (results.map (·.recoveredAmount)).sum ≤ (results.map (·.amountAtRisk)).sum :=
    List.sum_le_sum fun r hr => (hamounts r hr).2.2.2.2.1
  have hnet := hrecoveredUnits.sub? hcostUnits (by omega)
  obtain ⟨rate, hrate⟩ := shareOf_ok hnonneg hle
  have hmetrics : computeMetrics results = .ok {
      totalRevenueAtRisk := (results.map (·.amountAtRisk)).sum
      totalRecovered := (results.map (·.recoveredAmount)).sum
      recoveryRate := rate
      casesRecovered := results.countP (·.recovered)
      totalCases := results.length
      totalCost := (results.map (·.cost)).sum
      netRecovery := (results.map (·.recoveredAmount)).sum - (results.map (·.cost)).sum
      casesEscalated := results.countP (·.finalStatus = .escalated)
      casesStopped := results.countP (·.finalStatus = .stopped) } := by
    unfold computeMetrics
    rw [hrisk, hrecovered, hcost]
    dsimp only [orFailure, bind, Except.bind]
    rw [hrate]
    dsimp only
    rw [hnet]
    rfl
  refine ⟨_, hmetrics, rfl, rfl, rfl, sum_map_sub results _ _, rfl, ?_, rfl, rfl, hle⟩
  refine List.countP_congr fun r hr => ?_
  rw [decide_eq_true_eq, (hamounts r hr).2.2.2.2.2]

/-! ## The comparison of two runs -/

/-- One draw settles a case under either strategy. -/
def OneDraw (rt : EvaluationRuntime) (seed : ℤ) (mode : String) (c : GeneratedCase) : Prop :=
  ∀ strategy r, evaluateCase rt seed mode strategy c = .ok r →
    (r.recovered = true ↔ caseDraw rt seed c < Lib.toBinary64 (c.chance r.action))

/-- By the simulator's true probabilities, the action that ReviveX chose is no worse than doing
nothing. -/
def ChoosesNoWorse (rt : EvaluationRuntime) (seed : ℤ) (mode : String) (c : GeneratedCase) : Prop :=
  ∀ r, evaluateCase rt seed mode .revivex c = .ok r →
    c.chance .doNothing ≤ c.chance r.action

/-- ReviveX recovers the case whenever the baseline does. -/
def RecoversWithBaseline (rt : EvaluationRuntime) (seed : ℤ) (mode : String) (c : GeneratedCase) :
    Prop :=
  ∀ b x, evaluateCase rt seed mode .baseline c = .ok b →
    evaluateCase rt seed mode .revivex c = .ok x → b.recovered = true → x.recovered = true

/-- What the comparison reports beside the metrics, summed over its entries. -/
structure Tallies (r : BatchComparisonResult) : Prop where
  nCases : r.nCases = r.caseResults.length
  totalRevenueAtRisk : r.totalRevenueAtRisk = (r.caseResults.map (·.amountAtRisk)).sum
  baselineRecovered :
    r.baselineMetrics.totalRecovered = (r.caseResults.map (·.baselineRecoveredAmount)).sum
  revivexRecovered :
    r.revivexMetrics.totalRecovered = (r.caseResults.map (·.revivexRecoveredAmount)).sum
  baselineCost : r.baselineMetrics.totalCost = (r.caseResults.map (·.baselineCost)).sum
  revivexCost : r.revivexMetrics.totalCost = (r.caseResults.map (·.revivexCost)).sum
  incrementalRevenue :
    r.incrementalRevenue = (r.caseResults.map (·.incrementalRecoveredAmount)).sum
  mlPredictionCount :
    r.mlPredictionCount = r.caseResults.countP (·.probabilitySource = some "ml")
  heuristicFallbackCount : r.heuristicFallbackCount = r.caseResults.countP fun entry =>
    entry.probabilitySource = some "heuristic" ||
      entry.probabilitySource = some "heuristic_fallback"

theorem oneDraw (rt : EvaluationRuntime) (seed : ℤ) (mode : String) (c : GeneratedCase) :
    OneDraw rt seed mode c := by
  intro strategy r hr
  rw [(settledBy_of_evaluateCase hr).1.recovered, decide_eq_true_eq]

theorem ChoosesNoWorse.recoversWithBaseline (h : ChoosesNoWorse rt seed mode c) :
    RecoversWithBaseline rt seed mode c := by
  intro b x hb hx
  obtain ⟨hbaseline, hnothing⟩ := settledBy_of_evaluateCase hb
  obtain ⟨hrevivex, -⟩ := settledBy_of_evaluateCase hx
  refine hbaseline.recovered_of_le hrevivex ?_
  rw [hnothing rfl]
  exact h x hx

/-- The entry of a case, without rounding. -/
def entryOf (c : GeneratedCase) (b x : CaseEvaluationResult) : CaseComparison where
  caseId := c.caseId
  amountAtRisk := c.amount
  baselineAction := b.action
  revivexAction := x.action
  baselineOutcome := b.finalStatus
  revivexOutcome := x.finalStatus
  baselineRecoveredAmount := b.recoveredAmount
  revivexRecoveredAmount := x.recoveredAmount
  incrementalRecoveredAmount := x.recoveredAmount - b.recoveredAmount
  baselineCost := b.cost
  revivexCost := x.cost
  probabilitySource := x.probabilitySource

theorem compareCase_ok {draw : ℚ} {b x : CaseEvaluationResult} (hb : SettledBy draw c b)
    (hx : SettledBy draw c x) : compareCase (c, b, x) = .ok (entryOf c b x) := by
  have hsub := Decimal.InUnits.sub? hx.caseAmount_recoveredAmount hb.caseAmount_recoveredAmount
    (by norm_num)
  unfold compareCase
  dsimp only
  rw [hsub]
  rfl

/-- The uplift is a number: what the baseline recovered, if anything, is a hundredth of a paisa
at least. -/
theorem upliftPercent_ok {incremental recovered : ℚ} {k l : ℤ} (hk : k < 10 ^ 28)
    (hincremental : Decimal.InUnits 4 k incremental) (hrecovered : Decimal.InUnits 4 l recovered) :
    ∃ uplift, upliftPercent incremental recovered = .ok uplift := by
  obtain ⟨n, hn, rfl⟩ := hincremental
  obtain ⟨m, -, rfl⟩ := hrecovered
  unfold upliftPercent
  by_cases hpos : (0 : ℚ) < m / 10 ^ 4
  · have hm : (0 : ℚ) < m := by
      by_contra hle
      exact hpos.not_ge (div_nonpos_of_nonpos_of_nonneg (not_lt.mp hle) (by norm_num))
    have hm1 : (1 : ℚ) ≤ m := by
      have hm' : (0 : ℤ) < m := by exact_mod_cast hm
      exact_mod_cast hm'
    have hn' : |(n : ℚ)| < 10 ^ 28 := by exact_mod_cast hn.trans_lt hk
    have hratio : |(n : ℚ) / 10 ^ 4 / (m / 10 ^ 4)| < 10 ^ 50 := by
      rw [div_div_div_cancel_right₀ (by norm_num), abs_div, abs_of_pos hm, div_lt_iff₀ hm]
      linarith
    obtain ⟨share, hshare, hsmall⟩ := div?_ok hratio
    have hpercent : |share * 100| < 10 ^ 100 := by
      rw [abs_mul, abs_of_pos (by norm_num : (0 : ℚ) < 100)]
      linarith
    obtain ⟨uplift, huplift, -⟩ := Decimal.ofExact_of_lt hpercent
    refine ⟨uplift, ?_⟩
    rw [if_pos hpos, hshare]
    show orFailure (Decimal.number? (Decimal.ofExact (share * 100))) = _
    rw [huplift]
    rfl
  · exact ⟨0, by rw [if_neg hpos]⟩

/-- What the comparison reports, from the results `b` and `x` of the two runs. -/
structure Reports (batch : GeneratedBatch) (b x : GeneratedCase → CaseEvaluationResult)
    (r : BatchComparisonResult) : Prop where
  baseline : Accounts (batch.cases.map b) r.baselineMetrics
  revivex : Accounts (batch.cases.map x) r.revivexMetrics
  nCases : r.nCases = batch.cases.length
  totalRevenueAtRisk : r.totalRevenueAtRisk = r.baselineMetrics.totalRevenueAtRisk
  incrementalRevenue :
    r.incrementalRevenue = r.revivexMetrics.totalRecovered - r.baselineMetrics.totalRecovered
  mlPredictionCount :
    r.mlPredictionCount = (batch.cases.map x).countP (·.probabilitySource = some "ml")
  heuristicFallbackCount : r.heuristicFallbackCount = (batch.cases.map x).countP fun result =>
    result.probabilitySource = some "heuristic" ||
      result.probabilitySource = some "heuristic_fallback"
  caseResults : r.caseResults = batch.cases.map fun c => entryOf c (b c) (x c)

section Batch

variable {batch : GeneratedBatch} {b x : GeneratedCase → CaseEvaluationResult}
  {r : BatchComparisonResult}

/-- The metrics of a run, and the units of what it recovered. -/
theorem batchMetrics_ok (batch : GeneratedBatch)
    (hb : ∀ c ∈ batch.cases, SettledBy (caseDraw rt seed c) c (b c)) :
    ∃ m, computeMetrics (batch.cases.map b) = .ok m ∧ Accounts (batch.cases.map b) m ∧
      Decimal.InUnits 4 (batch.cases.length * 10 ^ 8) m.totalRecovered := by
  have hlength : (batch.cases.map b).length < 2 ^ 63 := by
    rw [List.length_map]
    exact batch.length_lt
  obtain ⟨m, hm, haccounts⟩ := computeMetrics_ok
    (List.forall_mem_map.mpr fun c hc => ⟨_, c, hb c hc⟩) hlength
  have hunits := (sum?_caseAmounts (List.forall_mem_map.mpr fun c hc =>
    (hb c hc).caseAmount_recoveredAmount) hlength).2
  rw [← haccounts.totalRecovered, List.length_map] at hunits
  exact ⟨m, hm, haccounts, hunits⟩

/-- The entries of all cases. -/
theorem mapM_compareCase {cases : List GeneratedCase}
    (hb : ∀ c ∈ cases, SettledBy (caseDraw rt seed c) c (b c))
    (hx : ∀ c ∈ cases, SettledBy (caseDraw rt seed c) c (x c)) :
    (cases.zip ((cases.map b).zip (cases.map x))).mapM compareCase =
      .ok (cases.map fun c => entryOf c (b c) (x c)) := by
  have hentry : ∀ entry ∈ cases.map fun c => (c, b c, x c),
      compareCase entry = .ok (entryOf entry.1 entry.2.1 entry.2.2) :=
    List.forall_mem_map.mpr fun c hc => compareCase_ok (hb c hc) (hx c hc)
  rw [List.zip_map', ← List.map_prod_left_eq_zip, Lib.mapM_ok hentry, List.map_map]
  rfl

theorem evaluateBatch_ok (batch : GeneratedBatch)
    (hb : ∀ c ∈ batch.cases, evaluateCase rt seed mode .baseline c = .ok (b c))
    (hx : ∀ c ∈ batch.cases, evaluateCase rt seed mode .revivex c = .ok (x c)) :
    ∃ r, evaluateBatch rt batch seed mode = .ok r ∧ Reports batch b x r := by
  have hlength := batch.length_lt
  have hbaseline : batch.cases.mapM (evaluateCase rt seed mode .baseline) =
      .ok (batch.cases.map b) := Lib.mapM_ok hb
  have hrevivex : batch.cases.mapM (evaluateCase rt seed mode .revivex) =
      .ok (batch.cases.map x) := Lib.mapM_ok hx
  have hbSettled := fun c hc => (settledBy_of_evaluateCase (hb c hc)).1
  have hxSettled := fun c hc => (settledBy_of_evaluateCase (hx c hc)).1
  obtain ⟨mb, hmb, hmbAccounts, hmbUnits⟩ := batchMetrics_ok batch hbSettled
  obtain ⟨mx, hmx, hmxAccounts, hmxUnits⟩ := batchMetrics_ok batch hxSettled
  have hincremental := hmxUnits.sub? hmbUnits (by omega)
  obtain ⟨uplift, huplift⟩ := upliftPercent_ok (by omega) (hmxUnits.sub hmbUnits) hmbUnits
  have hreport : evaluateBatch rt batch seed mode = .ok {
      nCases := batch.cases.length
      seed
      totalRevenueAtRisk := mb.totalRevenueAtRisk
      baselineMetrics := mb
      revivexMetrics := mx
      incrementalRevenue := mx.totalRecovered - mb.totalRecovered
      recoveryUpliftPercent := uplift
      revivexMode := mode
      mlPredictionCount := (batch.cases.map x).countP (·.probabilitySource = some "ml")
      heuristicFallbackCount := (batch.cases.map x).countP fun result =>
        result.probabilitySource = some "heuristic" ||
          result.probabilitySource = some "heuristic_fallback"
      caseResults := batch.cases.map fun c => entryOf c (b c) (x c) } := by
    unfold evaluateBatch
    rw [hbaseline, hrevivex]
    dsimp only [bind, Except.bind]
    rw [hmb, hmx]
    dsimp only
    rw [hincremental]
    dsimp only [orFailure]
    rw [huplift]
    dsimp only
    rw [mapM_compareCase hbSettled hxSettled]
    rfl
  exact ⟨_, hreport, hmbAccounts, hmxAccounts, rfl, rfl, rfl, rfl, rfl, rfl⟩

theorem Reports.tallies (h : Reports batch b x r)
    (hb : ∀ c ∈ batch.cases, (b c).amountAtRisk = c.amount) : Tallies r := by
  have hrisk : batch.cases.map (fun c => (b c).amountAtRisk) = batch.cases.map (·.amount) :=
    List.map_congr_left hb
  refine ⟨?_, ?_, ?_, ?_, ?_, ?_, ?_, ?_, ?_⟩
  · rw [h.nCases, h.caseResults, List.length_map]
  · rw [h.totalRevenueAtRisk, h.baseline.totalRevenueAtRisk, h.caseResults, List.map_map,
      List.map_map]
    exact congrArg List.sum hrisk
  · rw [h.baseline.totalRecovered, h.caseResults, List.map_map, List.map_map]
    rfl
  · rw [h.revivex.totalRecovered, h.caseResults, List.map_map, List.map_map]
    rfl
  · rw [h.baseline.totalCost, h.caseResults, List.map_map, List.map_map]
    rfl
  · rw [h.revivex.totalCost, h.caseResults, List.map_map, List.map_map]
    rfl
  · rw [h.incrementalRevenue, h.revivex.totalRecovered, h.baseline.totalRecovered, h.caseResults,
      List.map_map, List.map_map, List.map_map, sum_map_sub]
    rfl
  · rw [h.mlPredictionCount, h.caseResults, List.countP_map, List.countP_map]
    rfl
  · rw [h.heuristicFallbackCount, h.caseResults, List.countP_map, List.countP_map]
    rfl

theorem Reports.incrementalRevenue_nonneg (h : Reports batch b x r)
    (hle : ∀ c ∈ batch.cases, (b c).recoveredAmount ≤ (x c).recoveredAmount) :
    0 ≤ r.incrementalRevenue := by
  rw [h.incrementalRevenue, h.revivex.totalRecovered, h.baseline.totalRecovered, List.map_map,
    List.map_map]
  exact sub_nonneg.mpr (List.sum_le_sum hle)

end Batch

/-- Where no prediction is a NaN, the comparison returns, and every aggregate is the exact sum
over the case results. -/
theorem evaluateBatch_accounts (rt : EvaluationRuntime) (batch : GeneratedBatch) (seed : ℤ)
    (mode : String) (hpredicts : ∀ c ∈ batch.cases, c.PredictsNumbers mode) :
    ∃ baseline revivex r,
      batch.cases.mapM (evaluateCase rt seed mode .baseline) = .ok baseline ∧
      batch.cases.mapM (evaluateCase rt seed mode .revivex) = .ok revivex ∧
      evaluateBatch rt batch seed mode = .ok r ∧
      ((∀ c ∈ batch.cases, ChoosesNoWorse rt seed mode c) → 0 ≤ r.incrementalRevenue) ∧
      Accounts baseline r.baselineMetrics ∧ Accounts revivex r.revivexMetrics ∧ Tallies r := by
  have hbaseline : ∀ c, ∃ b, evaluateCase rt seed mode .baseline c = .ok b := by
    intro c
    obtain ⟨b, hb, -⟩ := evaluateCase_ok rt seed mode .baseline c nofun
    exact ⟨b, hb⟩
  have hrevivex : ∀ c, ∃ x, c ∈ batch.cases → evaluateCase rt seed mode .revivex c = .ok x := by
    intro c
    by_cases hc : c ∈ batch.cases
    · obtain ⟨x, hx, -⟩ := evaluateCase_ok rt seed mode .revivex c fun _ => hpredicts c hc
      exact ⟨x, fun _ => hx⟩
    · obtain ⟨b, -⟩ := hbaseline c
      exact ⟨b, fun h => absurd h hc⟩
  choose b hb using hbaseline
  choose x hx using hrevivex
  obtain ⟨r, hr, hreports⟩ := evaluateBatch_ok batch (fun c _ => hb c) hx
  refine ⟨_, _, r, Lib.mapM_ok fun c _ => hb c, Lib.mapM_ok hx, hr, ?_, hreports.baseline,
    hreports.revivex, hreports.tallies fun c _ => (settledBy_of_evaluateCase (hb c)).1.amountAtRisk⟩
  intro hchoice
  refine hreports.incrementalRevenue_nonneg fun c hc => ?_
  exact (settledBy_of_evaluateCase (hb c)).1.recoveredAmount_mono
    (settledBy_of_evaluateCase (hx c hc)).1
    ((hchoice c hc).recoversWithBaseline _ _ (hb c) (hx c hc))

/-- The comparison returns only where no prediction is a NaN. -/
theorem predictsNumbers_of_evaluateBatch {batch : GeneratedBatch} {r : BatchComparisonResult}
    (h : evaluateBatch rt batch seed mode = .ok r) : ∀ c ∈ batch.cases, c.PredictsNumbers mode := by
  intro c hc
  obtain ⟨baseline, -, h⟩ := Lib.bind_eq_ok.mp h
  obtain ⟨baselineMetrics, -, h⟩ := Lib.bind_eq_ok.mp h
  obtain ⟨revivex, hrevivex, -⟩ := Lib.bind_eq_ok.mp h
  obtain ⟨x, hx⟩ := Lib.of_mapM_ok hrevivex hc
  exact predictsNumbers_of_evaluateCase hx

/-- Paired counterfactual accounting. For every batch of generated cases, every seed and every
sequence of draws: one draw settles a case under both strategies, and where the chosen action is
truly no worse than doing nothing, ReviveX recovers whenever the baseline does. The comparison
returns exactly where no prediction is a NaN; then, where the choice is no worse on every case,
the increment is not negative, and every aggregate is the exact sum over the case results. -/
theorem paired_accounting (rt : EvaluationRuntime) (batch : GeneratedBatch) (seed : ℤ)
    (mode : String) :
    (∀ c ∈ batch.cases, ∀ action, interventionRecoveryProbability c.interventionContext action =
      some (.finite (c.chance action))) ∧
    (∀ c ∈ batch.cases, OneDraw rt seed mode c) ∧
    (∀ c ∈ batch.cases, ChoosesNoWorse rt seed mode c → RecoversWithBaseline rt seed mode c) ∧
    ((∃ r, evaluateBatch rt batch seed mode = .ok r) ↔
      ∀ c ∈ batch.cases, c.PredictsNumbers mode) ∧
    ∀ r, evaluateBatch rt batch seed mode = .ok r → ∃ baseline revivex,
      batch.cases.mapM (evaluateCase rt seed mode .baseline) = .ok baseline ∧
      batch.cases.mapM (evaluateCase rt seed mode .revivex) = .ok revivex ∧
      ((∀ c ∈ batch.cases, ChoosesNoWorse rt seed mode c) → 0 ≤ r.incrementalRevenue) ∧
      Accounts baseline r.baselineMetrics ∧ Accounts revivex r.revivexMetrics ∧ Tallies r := by
  refine ⟨fun c _ action => (c.chance_eq action).1, fun c _ => oneDraw rt seed mode c,
    fun c _ h => h.recoversWithBaseline, ⟨?_, ?_⟩, ?_⟩
  · rintro ⟨r, hr⟩
    exact predictsNumbers_of_evaluateBatch hr
  · intro hpredicts
    obtain ⟨_, _, r, -, -, hr, -⟩ := evaluateBatch_accounts rt batch seed mode hpredicts
    exact ⟨r, hr⟩
  · intro r hr
    obtain ⟨baseline, revivex, r', hbaseline, hrevivex, hr', hrest⟩ :=
      evaluateBatch_accounts rt batch seed mode (predictsNumbers_of_evaluateBatch hr)
    obtain rfl := Except.ok.inj (hr'.symm.trans hr)
    exact ⟨baseline, revivex, hbaseline, hrevivex, hrest⟩

/-! ### Two cases -/

/-- A first failed attempt on an abandoned cart, with the prediction for a later retry. -/
def firstFailure (caseId : String) (paise : ℕ) (hpaise : paise ≤ 788000)
    (failureReason : FailureReason) (later : Decimal) (hlater : outsideUnit later = false) :
    GeneratedCase where
  caseId
  paise
  paise_le := hpaise
  failureReason
  attemptNumber := 1
  attemptNumber_le := by norm_num
  priorFailures := 0
  priorFailures_le := by norm_num
  historicalSuccessRate := 1 / 2
  historicalRecoveryRate := 1 / 4
  communicationCount := 2
  communicationCount_le := by norm_num
  previousDiscountUsage := 0
  cartAgeHours := some 24
  cartAgeHours_le := by
    rintro _ ⟨⟩
    norm_num
  customerLifetimeValue := 5000
  le_customerLifetimeValue := by norm_num
  hourOfDay := 12
  caseType := "ABANDONED_CHECKOUT"
  predict action := .ok ⟨"ml", if action = .retryLater then later else .finite (1 / 10)⟩
  predict_valid := by
    rintro action p ⟨⟩
    by_cases haction : action = .retryLater
    · rw [if_pos haction]
      exact hlater
    · rw [if_neg haction]
      decide +kernel

def bankCase : GeneratedCase :=
  firstFailure "case_7_0" 150000 (by norm_num) .temporaryBankError (.finite (3 / 5))
    (by decide +kernel)

def fundsCase : GeneratedCase :=
  firstFailure "case_7_1" 80000 (by norm_num) .insufficientFunds (.finite (2 / 5))
    (by decide +kernel)

/-- A case whose model answers with a NaN. -/
def unreadableCase : GeneratedCase :=
  firstFailure "case_7_2" 80000 (by norm_num) .declined .nan rfl

/-- The first case recovers on its own, the second one does not. -/
def pairedRuntime : EvaluationRuntime where
  random text := {
    draws := fun _ => if text = "7:case_7_0" then 1 / 50 else 1 / 5
    draws_valid := fun _ => by split <;> norm_num }

def pairedBatch : GeneratedBatch := ⟨[bankCase, fundsCase], by norm_num⟩

def unreadableBatch : GeneratedBatch := ⟨[bankCase, unreadableCase], by norm_num⟩

/-- Waiting is no worse than doing nothing on either case, and gains the second one; the case with
the NaN keeps its batch from being compared. -/
theorem paired_accounting_pair :
    (∃ r, evaluateBatch pairedRuntime pairedBatch 7 "ml" = .ok r ∧ 0 ≤ r.incrementalRevenue ∧
      r.incrementalRevenue = 800 ∧ Tallies r ∧
      r.revivexMetrics.totalRecovered ≤ r.revivexMetrics.totalRevenueAtRisk) ∧
    (∀ c ∈ pairedBatch.cases, RecoversWithBaseline pairedRuntime 7 "ml" c) ∧
    ¬ ∃ r, evaluateBatch pairedRuntime unreadableBatch 7 "ml" = .ok r := by
  obtain ⟨-, -, hpaired, -, haccounts⟩ := paired_accounting pairedRuntime pairedBatch 7 "ml"
  have hwaits : ∀ c ∈ pairedBatch.cases,
      (evaluateCase pairedRuntime 7 "ml" .revivex c).map (·.action) = .ok .retryLater ∧
        c.chance .doNothing ≤ c.chance .retryLater := by
    intro c hc
    rcases List.mem_pair.mp hc with rfl | rfl <;> decide +kernel
  have hnoWorse : ∀ c ∈ pairedBatch.cases, ChoosesNoWorse pairedRuntime 7 "ml" c := by
    intro c hc r hr
    obtain ⟨haction, hle⟩ := hwaits c hc
    rw [hr] at haction
    rw [show r.action = .retryLater from Except.ok.inj haction]
    exact hle
  refine ⟨?_, fun c hc => hpaired c hc (hnoWorse c hc), fun hreturns => ?_⟩
  · obtain ⟨r, hr, hincrement⟩ := Lib.map_eq_ok.mp
      (by decide +kernel : (evaluateBatch pairedRuntime pairedBatch 7 "ml").map
        (·.incrementalRevenue) = .ok 800)
    obtain ⟨_, _, -, -, hincrement', -, hrevivex, htallies⟩ := haccounts r hr
    exact ⟨r, hr, hincrement' hnoWorse, hincrement, htallies, hrevivex.totalRecovered_le⟩
  · obtain ⟨-, -, -, hnumbers, -⟩ := paired_accounting pairedRuntime unreadableBatch 7 "ml"
    have hmem : unreadableCase ∈ unreadableBatch.cases :=
      List.mem_cons_of_mem _ List.mem_cons_self
    exact hnumbers.mp hreturns unreadableCase hmem .retryLater (by decide +kernel)

end ReviveX
