import ReviveX.Agents.ChoiceTheorems
import ReviveX.Agents.PredictionTheorems
import ReviveX.Domain.ClockTheorems

/-!
# The contenders of a run

An intervention contends in a context if the policy engine allows its candidate and the candidate
does not lose money. The selection depends on the contenders and on the control strategies, and
the clock, which changes the verdict on communications only, does not touch the latter. So the
actions, priced at the same numbers, lead to the same selection at two times exactly where the
clock spares the front runners (`rankCandidates_later_iff`).
-/

namespace ReviveX

open Lib (Decimal)

variable {opt : PredictedOptimizer} {ctx ctx' : PolicyContext} {actions : List RecoveryActionType}
  {action : RecoveryActionType} {number : RecoveryActionType → Option ℚ} {c : RecoveryCase}
  {scored scored' : List CandidateAction} {priced priced' : List PricedCandidate}
  {settings : OptimizerSettings} {candidate candidate' : CandidateAction}

/-! ## Contenders -/

/-- The expected value of a candidate, in paise. -/
def OptimizerSettings.expectedValue (settings : OptimizerSettings) (c : RecoveryCase)
    (candidate : CandidateAction) : Except Failure ℤ :=
  (settings.price c candidate).map (·.expectedValue)

/-- At a number, an intervention is allowed in a context and nets so many paise, not below zero. -/
def Contends (opt : PredictedOptimizer) (ctx : PolicyContext) (number : Option ℚ)
    (action : RecoveryActionType) (net : ℤ) : Prop :=
  action.isIntervention = true ∧ 0 ≤ net ∧
    ∃ candidate, opt.candidateOf ctx action number = .ok candidate ∧ candidate.allowed = true ∧
      opt.settings.expectedValue ctx.case candidate = .ok net

/-- A contender to which none is superior by more than the tie epsilon. -/
def FrontRunner (opt : PredictedOptimizer) (ctx : PolicyContext)
    (number : RecoveryActionType → Option ℚ) (actions : List RecoveryActionType)
    (action : RecoveryActionType) : Prop :=
  ∃ epsilon net, signedMoney opt.settings.tieEpsilon = .ok epsilon ∧ action ∈ actions ∧
    Contends opt ctx (number action) action net ∧
    ∀ other ∈ actions, ∀ net', Contends opt ctx (number other) other net' → net' - net ≤ epsilon

/-- What the clock changes between two contexts does not matter: some action contends in both or
none in either, and one that is a front runner in just one of them has more friction than one
that is a front runner in both. -/
structure FrontSpared (opt : PredictedOptimizer) (ctx ctx' : PolicyContext)
    (number : RecoveryActionType → Option ℚ) (actions : List RecoveryActionType) : Prop where
  contended : (∃ action ∈ actions, ∃ net, Contends opt ctx' (number action) action net) ↔
    ∃ action ∈ actions, ∃ net, Contends opt ctx (number action) action net
  dominated : ∀ action, Xor (FrontRunner opt ctx number actions action)
      (FrontRunner opt ctx' number actions action) →
    ∃ best, FrontRunner opt ctx number actions best ∧ FrontRunner opt ctx' number actions best ∧
      best.frictionRank < action.frictionRank

theorem expectedValue_eq_ok {net : ℤ} : settings.expectedValue c candidate = .ok net ↔
    ∃ w, settings.price c candidate = .ok w ∧ w.expectedValue = net :=
  Lib.map_eq_ok

theorem FrontRunner.mem (h : FrontRunner opt ctx number actions action) : action ∈ actions := by
  obtain ⟨epsilon, net, -, hmem, -⟩ := h
  exact hmem

/-- What a contender nets. -/
def contenderNet? (opt : PredictedOptimizer) (ctx : PolicyContext) (number : Option ℚ)
    (action : RecoveryActionType) : Option ℤ :=
  (opt.candidateOf ctx action number).toOption.bind fun candidate =>
    (opt.settings.expectedValue ctx.case candidate).toOption.filter fun net =>
      action.isIntervention && candidate.allowed && decide (0 ≤ net)

theorem contends_iff_net {number : Option ℚ} {net : ℤ} :
    Contends opt ctx number action net ↔ contenderNet? opt ctx number action = some net := by
  unfold Contends contenderNet?
  simp only [Option.bind_eq_some_iff, Option.filter_eq_some_iff, Lib.toOption_eq_some,
    Bool.and_eq_true, decide_eq_true_eq]
  constructor
  · rintro ⟨hkind, hnonneg, candidate, hmade, hallowed, hnet⟩
    exact ⟨candidate, hmade, hnet, ⟨hkind, hallowed⟩, hnonneg⟩
  · rintro ⟨candidate, hmade, hnet, ⟨hkind, hallowed⟩, hnonneg⟩
    exact ⟨hkind, hnonneg, candidate, hmade, hallowed, hnet⟩

instance : Decidable (FrontRunner opt ctx number actions action) :=
  decidable_of_iff (action ∈ actions ∧ ∃ epsilon ∈ (signedMoney opt.settings.tieEpsilon).toOption,
      ∃ net ∈ contenderNet? opt ctx (number action) action, ∀ other ∈ actions,
        ∀ net' ∈ contenderNet? opt ctx (number other) other, net' - net ≤ epsilon) (by
    simp only [FrontRunner, contends_iff_net, Option.mem_def, Lib.toOption_eq_some]
    constructor
    · rintro ⟨hmem, epsilon, hepsilon, net, hnet, hbest⟩
      exact ⟨epsilon, net, hepsilon, hmem, hnet, hbest⟩
    · rintro ⟨epsilon, net, hepsilon, hmem, hnet, hbest⟩
      exact ⟨hmem, epsilon, hepsilon, net, hnet, hbest⟩)

instance : Decidable (FrontSpared opt ctx ctx' number actions) :=
  decidable_of_iff
    (((∃ action ∈ actions, (contenderNet? opt ctx' (number action) action).isSome = true) ↔
        ∃ action ∈ actions, (contenderNet? opt ctx (number action) action).isSome = true) ∧
      ∀ action ∈ actions, Xor (FrontRunner opt ctx number actions action)
          (FrontRunner opt ctx' number actions action) →
        ∃ best ∈ actions, FrontRunner opt ctx number actions best ∧
          FrontRunner opt ctx' number actions best ∧ best.frictionRank < action.frictionRank) (by
    have hcontends : ∀ {ctx : PolicyContext} {action : RecoveryActionType},
        (contenderNet? opt ctx (number action) action).isSome = true ↔
          ∃ net, Contends opt ctx (number action) action net := by
      intro ctx action
      rw [Option.isSome_iff_exists]
      exact exists_congr fun net => contends_iff_net.symm
    simp only [hcontends]
    constructor
    · rintro ⟨hcontended, hdominated⟩
      refine ⟨hcontended, fun action hone => ?_⟩
      have hmem : action ∈ actions := by
        rcases hone with ⟨h, -⟩ | ⟨h, -⟩
        · exact h.mem
        · exact h.mem
      obtain ⟨best, -, hbest⟩ := hdominated action hmem hone
      exact ⟨best, hbest⟩
    · rintro ⟨hcontended, hdominated⟩
      refine ⟨hcontended, fun action _ hone => ?_⟩
      obtain ⟨best, hbest⟩ := hdominated action hone
      exact ⟨best, hbest.1.mem, hbest⟩)

/-- Nothing matters where the same actions contend. -/
theorem FrontSpared.of_contends (h : ∀ action ∈ actions, ∀ net,
    Contends opt ctx' (number action) action net ↔ Contends opt ctx (number action) action net) :
    FrontSpared opt ctx ctx' number actions := by
  have hfront : ∀ action, FrontRunner opt ctx' number actions action ↔
      FrontRunner opt ctx number actions action := by
    intro action
    refine exists₂_congr fun epsilon net => and_congr_right fun _ => and_congr_right fun hmem => ?_
    refine and_congr (h action hmem net) (forall₂_congr fun other hother => ?_)
    exact forall_congr' fun net' => by rw [h other hother net']
  refine ⟨exists_congr fun action => and_congr_right fun hmem => exists_congr (h action hmem), ?_⟩
  rintro action (⟨hone, hnot⟩ | ⟨hone, hnot⟩)
  · exact absurd ((hfront action).mpr hone) hnot
  · exact absurd ((hfront action).mp hone) hnot

/-! ## Priced candidates -/

/-- The candidates of the actions of a run, at their numbers. -/
def ScoredAt (opt : PredictedOptimizer) (ctx : PolicyContext)
    (number : RecoveryActionType → Option ℚ) (actions : List RecoveryActionType)
    (scored : List CandidateAction) : Prop :=
  actions.mapM (fun action => opt.candidateOf ctx action (number action)) = .ok scored

/-- The candidates in the order of their names, with their prices. -/
def PricedAt (settings : OptimizerSettings) (c : RecoveryCase) (scored : List CandidateAction)
    (priced : List PricedCandidate) : Prop :=
  (scored.insertionSort fun a b => a.action.text ≤ b.action.text).mapM (settings.price c) =
    .ok priced

theorem ScoredAt.mem (h : ScoredAt opt ctx number actions scored) : candidate ∈ scored ↔
    candidate.action ∈ actions ∧
      opt.candidateOf ctx candidate.action (number candidate.action) = .ok candidate := by
  rw [Lib.mem_mapM_ok h]
  constructor
  · rintro ⟨action, hmem, hmade⟩
    rw [candidateOf_action hmade]
    exact ⟨hmem, hmade⟩
  · rintro ⟨hmem, hmade⟩
    exact ⟨_, hmem, hmade⟩

theorem ScoredAt.map_action (h : ScoredAt opt ctx number actions scored) :
    scored.map (·.action) = actions := by
  exact (Lib.map_mapM_ok (fun _ _ hmade => candidateOf_action hmade) h).trans (List.map_id _)

theorem PricedAt.mem (h : PricedAt settings c scored priced) {w : PricedCandidate} :
    w ∈ priced ↔ ∃ candidate ∈ scored, settings.price c candidate = .ok w := by
  rw [Lib.mem_mapM_ok h]
  exact exists_congr fun candidate => and_congr_left fun _ => List.mem_insertionSort _

theorem PricedAt.nodup (h : PricedAt settings c scored priced)
    (hnodup : (scored.map (·.action)).Nodup) : (priced.map (·.action)).Nodup := by
  have hactions : priced.map (·.action) =
      (scored.insertionSort fun a b => a.action.text ≤ b.action.text).map (·.action) :=
    Lib.map_mapM_ok (fun candidate w hprice => (pricedFrom_of_ok hprice).action) h
  have hperm := (List.perm_insertionSort
    (fun a b : CandidateAction => a.action.text ≤ b.action.text) scored).map (·.action)
  rw [hactions]
  exact hperm.nodup_iff.mpr hnodup

/-- Ranking is choosing among the priced candidates. -/
theorem PricedAt.rankCandidates_ok (h : PricedAt settings c scored priced)
    {selected : Option CandidateAction} {reason : String} {highRisk : Bool} :
    settings.rankCandidates c scored highRisk = .ok (selected, reason) ↔
      ∃ choice, Ranking.selectAction priced settings highRisk false = .ok (choice, reason) ∧
        choice.map (·.toCandidateAction) = selected := by
  have hwalk : (scored.insertionSort fun a b => a.action.text ≤ b.action.text).mapM
      (settings.price c) = .ok priced := h
  rw [rankCandidates_eq, hwalk]
  refine Lib.map_eq_ok.trans ⟨?_, ?_⟩
  · rintro ⟨⟨choice, why⟩, hchoice, hselected⟩
    obtain ⟨rfl, rfl⟩ := Prod.mk.inj hselected
    exact ⟨choice, hchoice, rfl⟩
  · rintro ⟨choice, hchoice, rfl⟩
    exact ⟨(choice, reason), hchoice, rfl⟩

/-- A price keeps a candidate eligible that is allowed and has a number. -/
theorem eligible_of_price {w : PricedCandidate} (h : settings.price c candidate = .ok w)
    (hallowed : candidate.allowed = true) (hnumber : candidate.probability.isSome = true) :
    w.allowed = true ∧ w.missingProbability = false ∧ w.probability.isSome = true := by
  unfold OptimizerSettings.price at h
  obtain ⟨costs, -, h⟩ := Lib.bind_eq_ok.mp h
  unfold candidateFromQuote at h
  generalize hprobability : candidate.probability = probability at h
  cases probability with
  | none =>
    rw [hprobability] at hnumber
    cases hnumber
  | some p =>
    obtain ⟨recovered, -, h⟩ := Lib.bind_eq_ok.mp h
    obtain ⟨value, -, h⟩ := Lib.bind_eq_ok.mp h
    obtain rfl := Except.ok.inj h
    exact ⟨hallowed, rfl, hnumber⟩

theorem isSome_of_allowed {number : Option ℚ}
    (h : opt.candidateOf ctx action number = .ok candidate) (hallowed : candidate.allowed = true) :
    candidate.probability.isSome = true := by
  obtain ⟨_, _, _, -, -, -, rfl⟩ := candidateOf_ok.mp h
  exact (Bool.and_eq_true_iff.mp hallowed).1

/-- An action has an eligible candidate where its candidate is allowed. -/
theorem exists_eligible_iff (action : RecoveryActionType)
    (hscored : ScoredAt opt ctx number actions scored)
    (hpriced : PricedAt opt.settings ctx.case scored priced) (P : ℤ → Prop) :
    (∃ w ∈ eligibleCandidates priced, w.action = action ∧ P w.expectedValue) ↔
      action ∈ actions ∧ ∃ candidate, opt.candidateOf ctx action (number action) = .ok candidate ∧
        candidate.allowed = true ∧
        ∃ net, opt.settings.expectedValue ctx.case candidate = .ok net ∧ P net := by
  constructor
  · rintro ⟨w, hw, rfl, hvalue⟩
    obtain ⟨hmem, hallowed, -⟩ := mem_eligibleCandidates.mp hw
    obtain ⟨candidate, hcandidate, hprice⟩ := hpriced.mem.mp hmem
    obtain ⟨hin, hmade⟩ := hscored.mem.mp hcandidate
    have hfrom := pricedFrom_of_ok hprice
    rw [hfrom.action]
    exact ⟨hin, candidate, hmade, hfrom.allowed hallowed, w.expectedValue,
      expectedValue_eq_ok.mpr ⟨w, hprice, rfl⟩, hvalue⟩
  · rintro ⟨hin, candidate, hmade, hallowed, net, hnet, hvalue⟩
    have haction := candidateOf_action hmade
    have hmem : candidate ∈ scored := hscored.mem.mpr (by rw [haction]; exact ⟨hin, hmade⟩)
    obtain ⟨w, hprice, rfl⟩ := expectedValue_eq_ok.mp hnet
    refine ⟨w, mem_eligibleCandidates.mpr ⟨hpriced.mem.mpr ⟨candidate, hmem, hprice⟩, ?_⟩,
      (pricedFrom_of_ok hprice).action.trans haction, hvalue⟩
    exact eligible_of_price hprice hallowed (isSome_of_allowed hmade hallowed)

theorem contends_iff (hscored : ScoredAt opt ctx number actions scored)
    (hpriced : PricedAt opt.settings ctx.case scored priced) {net : ℤ} :
    (∃ w ∈ profitable (eligibleCandidates priced), w.action = action ∧ w.expectedValue = net) ↔
      action ∈ actions ∧ Contends opt ctx (number action) action net := by
  have heligible := exists_eligible_iff action hscored hpriced (· = net)
  constructor
  · rintro ⟨w, hw, rfl, hvalue⟩
    obtain ⟨hmem, hkind, hnonneg⟩ := mem_profitable.mp hw
    obtain ⟨hin, candidate, hmade, hallowed, _, hnet, rfl⟩ := heligible.mp ⟨w, hmem, rfl, hvalue⟩
    exact ⟨hin, hkind, hvalue ▸ hnonneg, candidate, hmade, hallowed, hnet⟩
  · rintro ⟨hin, hkind, hnonneg, candidate, hmade, hallowed, hnet⟩
    obtain ⟨w, hmem, rfl, rfl⟩ :=
      heligible.mpr ⟨hin, candidate, hmade, hallowed, net, hnet, rfl⟩
    exact ⟨w, mem_profitable.mpr ⟨hmem, hkind, hnonneg⟩, rfl, rfl⟩

theorem profitable_ne_nil_iff (hscored : ScoredAt opt ctx number actions scored)
    (hpriced : PricedAt opt.settings ctx.case scored priced) :
    profitable (eligibleCandidates priced) ≠ [] ↔
      ∃ action ∈ actions, ∃ net, Contends opt ctx (number action) action net := by
  constructor
  · intro hne
    obtain ⟨w, hw⟩ := List.exists_mem_of_ne_nil _ hne
    obtain ⟨hin, hcontends⟩ := (contends_iff hscored hpriced).mp ⟨w, hw, rfl, rfl⟩
    exact ⟨w.action, hin, w.expectedValue, hcontends⟩
  · rintro ⟨action, hin, net, hcontends⟩
    obtain ⟨w, hw, -⟩ := (contends_iff hscored hpriced).mpr ⟨hin, hcontends⟩
    exact List.ne_nil_of_mem hw

theorem leads_iff (hscored : ScoredAt opt ctx number actions scored)
    (hpriced : PricedAt opt.settings ctx.case scored priced) :
    Leads opt.settings priced action ↔ FrontRunner opt ctx number actions action := by
  constructor
  · rintro ⟨epsilon, w, hepsilon, ⟨hw, hbest⟩, rfl⟩
    obtain ⟨hin, hcontends⟩ := (contends_iff hscored hpriced).mp ⟨w, hw, rfl, rfl⟩
    refine ⟨epsilon, w.expectedValue, hepsilon, hin, hcontends, ?_⟩
    intro other hother net' hcontends'
    obtain ⟨b, hb, -, rfl⟩ := (contends_iff hscored hpriced).mpr ⟨hother, hcontends'⟩
    exact hbest b hb
  · rintro ⟨epsilon, net, hepsilon, hin, hcontends, hbest⟩
    obtain ⟨w, hw, haction, rfl⟩ := (contends_iff hscored hpriced).mpr ⟨hin, hcontends⟩
    refine ⟨epsilon, w, hepsilon, ⟨hw, fun b hb => ?_⟩, haction⟩
    obtain ⟨hother, hcontends'⟩ := (contends_iff hscored hpriced).mp ⟨b, hb, rfl, rfl⟩
    exact hbest b.action hother b.expectedValue hcontends'

/-! ## At a later time -/

/-- A candidate that was made is made later on, possibly with another permission. -/
theorem candidateOf_later (h : LaterContext ctx ctx') (hcase : ctx'.case = ctx.case)
    {number : Option ℚ} (hmade : opt.candidateOf ctx action number = .ok candidate) :
    ∃ candidate', opt.candidateOf ctx' action number = .ok candidate' ∧
      candidate'.probability = candidate.probability ∧
      candidate'.discountCost = candidate.discountCost := by
  obtain ⟨costs, concession, evaluation, hcosts, hconcession, hevaluation, rfl⟩ :=
    candidateOf_ok.mp hmade
  have hpaise : action = .offerDiscount → ∃ percent, ∃ amount : Money,
      (candidateProposal action concession.1 concession.2).discountPercent = some percent ∧
      (candidateProposal action concession.1 concession.2).discountAmount =
        some amount.toDecimal := by
    rintro rfl
    obtain ⟨cost, -, hpair⟩ := Lib.bind_eq_ok.mp hconcession
    obtain rfl := Except.ok.inj hpair
    exact ⟨_, cost, rfl, rfl⟩
  obtain ⟨evaluation', hevaluation'⟩ := evaluateAction_later_ok h
    (RecoveryActionType.ofText?_text action) hpaise hevaluation
  rw [← hcase] at hconcession
  exact ⟨_, candidateOf_ok.mpr ⟨costs, concession, evaluation', hcosts, hconcession,
    hevaluation', rfl⟩, rfl, rfl⟩

/-- The candidate of an action that is no communication does not depend on the clock. -/
theorem candidateOf_later_eq (h : LaterContext ctx ctx') (hcase : ctx'.case = ctx.case)
    (hquiet : action ∉ communicationActions) (number : Option ℚ) :
    opt.candidateOf ctx' action number = opt.candidateOf ctx action number := by
  have hjudged : ∀ concession : Option Decimal × Money,
      evaluateAction ctx' (candidateProposal action concession.1 concession.2) =
        evaluateAction ctx (candidateProposal action concession.1 concession.2) := fun _ =>
    evaluateAction_later_eq h (RecoveryActionType.ofText?_text action) hquiet
  unfold PredictedOptimizer.candidateOf
  rw [hcase]
  refine congrArg _ (funext fun _ => congrArg _ (funext fun concession => ?_))
  exact congrArg (· >>= _) (hjudged concession)

theorem ScoredAt.later (hscored : ScoredAt opt ctx number actions scored)
    (h : LaterContext ctx ctx') (hcase : ctx'.case = ctx.case) :
    ∃ scored', ScoredAt opt ctx' number actions scored' := by
  refine Lib.exists_mapM_ok fun action hmem => ?_
  obtain ⟨candidate, hmade⟩ := Lib.of_mapM_ok hscored hmem
  obtain ⟨candidate', hmade', -⟩ := candidateOf_later h hcase hmade
  exact ⟨candidate', hmade'⟩

/-- A later candidate is one of the earlier ones, with another permission. -/
theorem ScoredAt.earlier (hscored : ScoredAt opt ctx number actions scored)
    (hscored' : ScoredAt opt ctx' number actions scored')
    (h : LaterContext ctx ctx') (hcase : ctx'.case = ctx.case) (hmem : candidate' ∈ scored') :
    ∃ candidate ∈ scored, candidate'.action = candidate.action ∧
      candidate'.probability = candidate.probability ∧
      candidate'.discountCost = candidate.discountCost := by
  obtain ⟨hin, hmade'⟩ := hscored'.mem.mp hmem
  obtain ⟨candidate, hmade⟩ := Lib.of_mapM_ok hscored hin
  obtain ⟨later, hlater, hnumber, hcost⟩ := candidateOf_later h hcase hmade
  obtain rfl := Except.ok.inj (hmade'.symm.trans hlater)
  have haction := candidateOf_action hmade
  rw [← haction] at hin hmade
  exact ⟨candidate, hscored.mem.mpr ⟨hin, hmade⟩, haction.symm, hnumber, hcost⟩

/-- The price of a candidate does not depend on its permission. -/
theorem price_permission (haction : candidate'.action = candidate.action)
    (hnumber : candidate'.probability = candidate.probability)
    (hcost : candidate'.discountCost = candidate.discountCost) {w : PricedCandidate}
    (h : settings.price c candidate = .ok w) :
    ∃ w', settings.price c candidate' = .ok w' ∧ w'.expectedValue = w.expectedValue := by
  unfold OptimizerSettings.price candidateFromQuote at h ⊢
  rw [haction, hnumber, hcost]
  obtain ⟨costs, hcosts, h⟩ := Lib.bind_eq_ok.mp h
  rw [hcosts]
  dsimp only [bind, Except.bind]
  generalize candidate.probability = probability at h ⊢
  cases probability with
  | none =>
    obtain rfl := Except.ok.inj h
    exact ⟨_, rfl, rfl⟩
  | some p =>
    obtain ⟨recovered, hrecovered, h⟩ := Lib.bind_eq_ok.mp h
    obtain ⟨value, hvalue, h⟩ := Lib.bind_eq_ok.mp h
    obtain rfl := Except.ok.inj h
    dsimp only
    rw [hrecovered, hvalue]
    exact ⟨_, rfl, rfl⟩

theorem PricedAt.later (hpriced : PricedAt settings c scored priced)
    (h : ∀ candidate' ∈ scored', ∃ candidate ∈ scored, candidate'.action = candidate.action ∧
      candidate'.probability = candidate.probability ∧
      candidate'.discountCost = candidate.discountCost) :
    ∃ priced', PricedAt settings c scored' priced' := by
  refine Lib.exists_mapM_ok fun candidate' hmem => ?_
  obtain ⟨candidate, hcandidate, haction, hnumber, hcost⟩ :=
    h candidate' ((List.mem_insertionSort _).mp hmem)
  obtain ⟨w, hw⟩ := Lib.of_mapM_ok hpriced ((List.mem_insertionSort _).mpr hcandidate)
  obtain ⟨w', hw', -⟩ := price_permission haction hnumber hcost hw
  exact ⟨w', hw'⟩

/-- The control strategies are the same at both times. -/
theorem controlStrategy_later (hscored : ScoredAt opt ctx number actions scored)
    (hscored' : ScoredAt opt ctx' number actions scored') (h : LaterContext ctx ctx')
    (hcase : ctx'.case = ctx.case) (hpriced : PricedAt opt.settings ctx.case scored priced)
    (hpriced' : PricedAt opt.settings ctx'.case scored' priced') (highRisk : Bool) :
    controlStrategy (eligibleCandidates priced') highRisk =
      controlStrategy (eligibleCandidates priced) highRisk := by
  have hoffers : ∀ action ∉ communicationActions,
      Offers (eligibleCandidates priced') action ↔ Offers (eligibleCandidates priced) action := by
    intro action hquiet
    have hlater := exists_eligible_iff action hscored' hpriced' fun _ => True
    have hearlier := exists_eligible_iff action hscored hpriced fun _ => True
    rw [candidateOf_later_eq h hcase hquiet, hcase] at hlater
    simp only [and_true] at hlater hearlier
    exact hlater.trans hearlier.symm
  unfold controlStrategy
  simp only [hoffers .escalate (by decide), hoffers .doNothing (by decide)]

/-- The ranking of the later candidates selects the action of the earlier ones exactly where the
clock spares the front runners. -/
theorem rankCandidates_later_iff {selected : Option CandidateAction} {reason : String}
    {highRisk : Bool} (hnodup : actions.Nodup)
    (hscored : ScoredAt opt ctx number actions scored)
    (hscored' : ScoredAt opt ctx' number actions scored') (h : LaterContext ctx ctx')
    (hcase : ctx'.case = ctx.case)
    (hranked : opt.settings.rankCandidates ctx.case scored highRisk = .ok (selected, reason)) :
    (∃ selected' reason', opt.settings.rankCandidates ctx'.case scored' highRisk =
        .ok (selected', reason') ∧
      selected'.map (·.action) = selected.map (·.action)) ↔
    FrontSpared opt ctx ctx' number actions := by
  obtain ⟨priced, hpriced⟩ : ∃ priced, PricedAt opt.settings ctx.case scored priced := by
    rw [rankCandidates_eq] at hranked
    obtain ⟨priced, hpriced, -⟩ := Lib.bind_eq_ok.mp hranked
    exact ⟨priced, hpriced⟩
  obtain ⟨priced', hpriced'⟩ : ∃ priced', PricedAt opt.settings ctx.case scored' priced' :=
    hpriced.later fun candidate' hmem => hscored.earlier hscored' h hcase hmem
  rw [← hcase] at hpriced'
  obtain ⟨choice, hchoice, rfl⟩ := hpriced.rankCandidates_ok.mp hranked
  have hdistinct : (priced'.map (·.action)).Nodup :=
    hpriced'.nodup (hscored'.map_action ▸ hnodup)
  have hsame := sameChoice_iff hdistinct (controlStrategy_later hscored hscored' h hcase hpriced
    hpriced' (highRisk || false)) hchoice
  -- profitable and leading candidates, said of the actions that contend
  have houtranked : Outranked opt.settings priced priced' ↔
      FrontSpared opt ctx ctx' number actions := by
    have hcontended : (profitable (eligibleCandidates priced') = [] ↔
        profitable (eligibleCandidates priced) = []) ↔
        ((∃ action ∈ actions, ∃ net, Contends opt ctx' (number action) action net) ↔
          ∃ action ∈ actions, ∃ net, Contends opt ctx (number action) action net) := by
      rw [← profitable_ne_nil_iff hscored' hpriced', ← profitable_ne_nil_iff hscored hpriced]
      exact not_iff_not.symm
    constructor
    · rintro ⟨hfirst, hsecond⟩
      refine ⟨hcontended.mp hfirst, ?_⟩
      simpa only [leads_iff hscored hpriced, leads_iff hscored' hpriced'] using hsecond
    · rintro ⟨hfirst, hsecond⟩
      refine ⟨hcontended.mpr hfirst, ?_⟩
      simpa only [leads_iff hscored hpriced, leads_iff hscored' hpriced'] using hsecond
  rw [← houtranked, ← hsame]
  -- the ranking is the selection among the priced candidates
  simp only [hpriced'.rankCandidates_ok]
  constructor
  · rintro ⟨_, reason', ⟨choice', hselect, rfl⟩, haction⟩
    rw [Option.map_map, Option.map_map] at haction
    exact ⟨choice', reason', hselect, haction⟩
  · rintro ⟨choice', reason', hselect, haction⟩
    refine ⟨_, reason', ⟨choice', hselect, rfl⟩, ?_⟩
    rw [Option.map_map, Option.map_map]
    exact haction

end ReviveX
