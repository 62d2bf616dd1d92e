import ReviveX.Agents.ContenderTheorems

/-!
# The second run of the optimizer

The first of two runs prices an action with what the model answers, the second one with the
answer as it was stored, rounded to six decimals. Meanwhile the clock moves on, and with it the
verdict on the communications. The second run has the outcome of the first one exactly where both
probabilities give the same paise, for every action that was predicted in the first run, and the
clock spares the front runners (`secondRun_agrees`).
-/

namespace ReviveX

open Lib (Decimal Session)

variable {rows rows' : List ModelPrediction} {caseId merchantId : ℕ} {action : RecoveryActionType}
  {source : PredictionSource} {now now' : Time} {opt : PredictedOptimizer}
  {caller caller' : Caller} {s s' : Store} {ctx ctx' : PolicyContext}
  {actions : List RecoveryActionType} {scored scored' : List CandidateAction} {py : PyText}
  {c : RecoveryCase} {r : OptimizationResult} {candidates : Option (List String)}

/-! ## The numbers of the two runs -/

/-- The number that an action is priced with in a run on a store and a table. -/
def PredictedOptimizer.firstNumber (opt : PredictedOptimizer) (now : Time) (caseId : ℕ)
    (c : RecoveryCase) (s : Store) (rows : List ModelPrediction) (action : RecoveryActionType) :
    Option ℚ :=
  quotedAt opt.source (opt.source.predictor s caseId action) now c.merchantId caseId rows action

/-- The number that an action is settled at. -/
def settledNumber (source : PredictionSource) (now : Time) (merchantId caseId : ℕ)
    (rows : List ModelPrediction) (action : RecoveryActionType) : Option ℚ :=
  quotedAt source (.error ("", "")) now merchantId caseId rows action

theorem Settles.settledNumber_eq {number : Option ℚ}
    (h : Settles source now merchantId caseId action rows number) :
    settledNumber source now merchantId caseId rows action = number := by
  obtain ⟨quote, hrun, hnumber⟩ := h (.error ("", ""))
  exact (quotedAt_eq hrun).trans hnumber

theorem Settles.mem {q : ℚ} (h : Settles source now merchantId caseId action rows (some q)) :
    0 ≤ q ∧ q ≤ 1 := by
  obtain ⟨quote, -, hnumber⟩ := h (.error ("", ""))
  obtain ⟨quoted, -, rfl⟩ := Option.map_eq_some_iff.mp hnumber
  exact quoted.probability.property

/-! ## The outcomes -/

/-- Two results price every candidate alike and select the same action. -/
structure SameOutcome (settings : OptimizerSettings) (c : RecoveryCase)
    (r r' : OptimizationResult) : Prop where
  actions : r'.candidateActions.map (·.action) = r.candidateActions.map (·.action)
  values : ∀ candidate ∈ r.candidateActions, ∀ candidate' ∈ r'.candidateActions,
    candidate'.action = candidate.action →
      settings.expectedValue c candidate' = settings.expectedValue c candidate
  selected : r'.selectedAction = r.selectedAction

/-- A second run returns, with the outcome of the first one. -/
def SecondAgrees (opt : PredictedOptimizer) (py : PyText) (caller : Caller) (caseId : ℕ)
    (candidates : Option (List String)) (c : RecoveryCase) (r : OptimizationResult)
    (after : Store × List ModelPrediction) : Prop :=
  ∃ r' last, (optimizePredicted opt py caller caseId candidates).run after = (.ok r', last) ∧
    SameOutcome opt.settings c r r'

/-- What the model answers for an action without a fresh prediction, and what is stored of the
answer, give the same paise. -/
def KeepsPaise (opt : PredictedOptimizer) (now : Time) (caseId : ℕ) (c : RecoveryCase)
    (s : Store) (rows : List ModelPrediction) (actions : List RecoveryActionType) : Prop :=
  opt.source.probabilities = none → ∀ action ∈ actions,
    (∀ row, ¬ StoredFresh opt.source rows caseId action now row) →
      ∀ scored, opt.source.predictor s caseId action = .ok scored →
        SamePaise c.amountAtRisk scored.probability.text (roundSix scored.probability.value)

/-- The clock, moving from one time to another, spares the front runners among the actions. -/
def ClockSpares (opt : PredictedOptimizer) (py : PyText) (now now' : Time) (caseId : ℕ)
    (c : RecoveryCase) (s : Store) (rows : List ModelPrediction)
    (actions : List RecoveryActionType) : Prop :=
  ∀ ctx ctx', buildPolicyContext { settings := opt.recovery, py } s caseId c now = .ok ctx →
    buildPolicyContext { settings := opt.recovery, py } s caseId c now' = .ok ctx' →
      FrontSpared opt ctx ctx' (opt.firstNumber now caseId c s rows) actions

/-- Actions that are no communications are spared. -/
theorem clockSpares_of_quiet (hlater : now ≤ now')
    (hquiet : ∀ action ∈ actions, action ∉ communicationActions) :
    ClockSpares opt py now now' caseId c s rows actions := by
  intro ctx ctx' hctx hctx'
  obtain ⟨h, hcase⟩ := laterContext_of_build hlater hctx hctx'
  refine .of_contends fun action hmem net => ?_
  unfold Contends
  rw [candidateOf_later_eq h hcase (hquiet action hmem), hcase]

/-! ## The runs -/

/-- The context of another time: only what happened lately depends on the clock. -/
theorem buildPolicyContext_clock {cfg : Config} (now' : Time)
    (h : buildPolicyContext cfg s caseId c now = .ok ctx) :
    ∃ ctx', buildPolicyContext cfg s caseId c now' = .ok ctx' ∧ ctx'.case = ctx.case ∧
      (ctx'.suspicious || ctx'.sourceMismatch) = (ctx.suspicious || ctx.sourceMismatch) := by
  unfold buildPolicyContext at h ⊢
  cases hm : s.merchants.get? c.merchantId with
  | none =>
    rw [hm] at h
    cases h
  | some merchant =>
    rw [hm] at h
    obtain ⟨merged, hmerged, h⟩ := Lib.bind_eq_ok.mp h
    dsimp only
    rw [hmerged]
    obtain rfl := Except.ok.inj h
    exact ⟨_, rfl, rfl, rfl⟩

/-- A candidate at another number. -/
theorem candidateOf_requoted {number number' : Option ℚ} {candidate : CandidateAction}
    (hsome : number'.isSome = number.isSome)
    (h : opt.candidateOf ctx action number = .ok candidate) :
    opt.candidateOf ctx action number' = .ok { candidate with probability := number' } := by
  obtain ⟨costs, concession, evaluation, hcosts, hconcession, hevaluation, rfl⟩ :=
    candidateOf_ok.mp h
  exact candidateOf_ok.mpr ⟨costs, concession, evaluation, hcosts, hconcession, hevaluation,
    by rw [hsome]⟩

/-- Candidates of one action are made of the same concession. -/
theorem candidateOf_same {ctx' : PolicyContext} {action' : RecoveryActionType}
    {number number' : Option ℚ} {candidate candidate' : CandidateAction}
    (hcase : ctx'.case = ctx.case) (h : opt.candidateOf ctx action number = .ok candidate)
    (h' : opt.candidateOf ctx' action' number' = .ok candidate')
    (hsame : candidate'.action = action) :
    action' = action ∧ candidate'.probability = number' ∧
      candidate'.discountCost = candidate.discountCost := by
  obtain ⟨costs, concession, evaluation, -, hconcession, -, rfl⟩ := candidateOf_ok.mp h
  obtain ⟨costs', concession', evaluation', -, hconcession', -, rfl⟩ := candidateOf_ok.mp h'
  obtain rfl : action' = action := hsame
  rw [hcase] at hconcession'
  obtain rfl := Except.ok.inj (hconcession.symm.trans hconcession')
  exact ⟨rfl, rfl, rfl⟩

/-- Every candidate of a run that returned has a price. -/
theorem OptimizedAs.priced
    (h : OptimizedAs opt py caller caseId candidates s s' rows rows' c ctx actions r)
    {candidate : CandidateAction} (hmem : candidate ∈ r.candidateActions) :
    ∃ w, opt.settings.price c candidate = .ok w := by
  have hranked := h.ranked
  rw [rankCandidates_eq] at hranked
  obtain ⟨priced, hpriced, -⟩ := Lib.bind_eq_ok.mp hranked
  exact Lib.of_mapM_ok hpriced ((List.mem_insertionSort _).mpr hmem)

/-- The number of a candidate with a price has a bounded probability and an accepted amount. -/
theorem expected_of_price {candidate : CandidateAction} {w : PricedCandidate} {p : ℚ}
    (h : opt.settings.price c candidate = .ok w) (hp : candidate.probability = some p) :
    ∃ costs, opt.settings.costsFor candidate.action = .ok costs ∧
      expectedNetRecovery p c.amountAtRisk.toDecimal
        { costs with discountCost := candidate.discountCost } = .ok w.expectedValue :=
  (pricedFrom_of_ok h).value p hp

/-- The parts of the first run, and what they leave for the second one. -/
structure Twice (opt : PredictedOptimizer) (caller caller' : Caller) (caseId : ℕ) (s : Store)
    (rows rows' : List ModelPrediction) (c : RecoveryCase) (ctx : PolicyContext)
    (actions : List RecoveryActionType) (r : OptimizationResult) : Prop where
  case_eq : ctx.case = c
  nodup : actions.Nodup
  actions_eq : r.candidateActions.map (·.action) = actions
  scored : ∀ candidate ∈ r.candidateActions,
    ScoredTwice opt caller.now caller'.now caseId s ctx rows rows' candidate

theorem OptimizedAs.twice
    (h : OptimizedAs opt py caller caseId candidates s s' rows rows' c ctx actions r)
    (httl : InsideTtl opt.source rows caseId caller.now caller'.now) :
    Twice opt caller caller' caseId s rows rows' c ctx actions r := by
  obtain ⟨s₁, hscored⟩ := h.scored
  have hnodup := normalizeCandidates_nodup h.normalized
  obtain ⟨hactions, htwice, -⟩ := run_scorePredictions_ok httl hnodup hscored
  exact ⟨buildPolicyContext_case h.context, hnodup, hactions, htwice⟩

/-- The second run scores the actions at the numbers that they are settled at. -/
theorem Twice.run {ctx' : PolicyContext}
    (h : Twice opt caller caller' caseId s rows rows' c ctx actions r) (hcase : ctx'.case = c)
    (start t : Store) :
    ∃ t', (scorePredictions opt caller' caseId start ctx' actions).run (t, rows') =
      (actions.mapM fun action => opt.candidateOf ctx' action
        (settledNumber opt.source caller'.now c.merchantId caseId rows' action), (t', rows')) := by
  refine run_scorePredictions_settled t fun action hmem => ?_
  rw [← h.actions_eq] at hmem
  obtain ⟨candidate, hcandidate, rfl⟩ := List.mem_map.mp hmem
  obtain ⟨-, -, number', hsettled, -⟩ := h.scored candidate hcandidate
  rw [h.case_eq] at hsettled
  rw [hsettled.settles.settledNumber_eq, hcase]
  exact hsettled.settles

/-- The second run agrees with the first one only where the paise are kept. -/
theorem keepsPaise_of_agrees {r' : OptimizationResult} {t : Store}
    {rows'' : List ModelPrediction}
    (h : OptimizedAs opt py caller caseId candidates s s' rows rows' c ctx actions r)
    (httl : InsideTtl opt.source rows caseId caller.now caller'.now)
    (hrun : (optimizePredicted opt py caller' caseId candidates).run (s', rows') =
      (.ok r', (t, rows'')))
    (hsame : SameOutcome opt.settings c r r') :
    KeepsPaise opt caller.now caseId c s rows actions := by
  have htwice := h.twice httl
  obtain ⟨c', ctx', actions', h'⟩ := optimizePredicted_ok hrun
  have hrow' := h'.row
  rw [h.advised.cases] at hrow'
  obtain rfl := Option.some.inj (h.row.symm.trans hrow')
  obtain rfl := Except.ok.inj (h.normalized.symm.trans h'.normalized)
  have hcase' := buildPolicyContext_case h'.context
  intro hsource action haction hnone scored hanswer
  -- the candidates of the action in the two runs
  rw [← htwice.actions_eq] at haction
  obtain ⟨candidate, hcandidate, rfl⟩ := List.mem_map.mp haction
  obtain ⟨hmade, -, number', hsettled, hrequotes⟩ := htwice.scored candidate hcandidate
  rcases hrequotes with ⟨-, hfresh⟩ | ⟨-, -, scored', hanswer', hnumber, hnumber'⟩
  · obtain ⟨row, hrow⟩ := hfresh hsource
    exact absurd hrow (hnone row)
  · obtain rfl := Except.ok.inj (hanswer.symm.trans hanswer')
    have haction' : candidate.action ∈ r'.candidateActions.map (·.action) := by
      rw [hsame.actions]
      exact haction
    obtain ⟨candidate', hcandidate', haction'⟩ := List.mem_map.mp haction'
    obtain ⟨s₂, hscored'⟩ := h'.scored
    obtain ⟨s₃, hsettles⟩ := htwice.run hcase' s' s'
    have hwalk := (Prod.mk.inj (hsettles.symm.trans hscored')).1
    obtain ⟨other, -, hmade'⟩ := (Lib.mem_mapM_ok hwalk).mp hcandidate'
    obtain ⟨hother, hprobability', hcost⟩ :=
      candidateOf_same (hcase'.trans htwice.case_eq.symm) hmade hmade' haction'
    rw [htwice.case_eq] at hsettled
    rw [hother, hsettled.settles.settledNumber_eq, hnumber'] at hprobability'
    -- both have the same price
    obtain ⟨w, hw⟩ := h.priced hcandidate
    obtain ⟨w', hw'⟩ := h'.priced hcandidate'
    have hvalues := hsame.values candidate hcandidate candidate' hcandidate' haction'
    rw [expectedValue_eq_ok.mpr ⟨w, hw, rfl⟩, expectedValue_eq_ok.mpr ⟨w', hw', rfl⟩] at hvalues
    have hvalue := Except.ok.inj hvalues
    obtain ⟨costs, hcosts, hnet⟩ := expected_of_price hw hnumber
    obtain ⟨costs', hcosts', hnet'⟩ := expected_of_price hw' hprobability'
    rw [haction'] at hcosts'
    obtain rfl := Except.ok.inj (hcosts.symm.trans hcosts')
    rw [hvalue, hcost] at hnet'
    exact samePaise_of_expectedNetRecovery hnet hnet'

/-- The number that an action of a case has in the second run. -/
def secondNumber (opt : PredictedOptimizer) (caller' : Caller) (caseId : ℕ) (c : RecoveryCase)
    (rows' : List ModelPrediction) (action : RecoveryActionType) : ℚ :=
  (settledNumber opt.source caller'.now c.merchantId caseId rows' action).getD 0

/-- Where the paise are kept, the same is expected of an action in both runs. -/
theorem Twice.number (h : Twice opt caller caller' caseId s rows rows' c ctx actions r)
    (hkeeps : KeepsPaise opt caller.now caseId c s rows actions) {candidate : CandidateAction}
    {w : PricedCandidate} (hmem : candidate ∈ r.candidateActions)
    (hprice : opt.settings.price c candidate = .ok w) :
    settledNumber opt.source caller'.now c.merchantId caseId rows' candidate.action =
      candidate.probability.map
        (fun _ => secondNumber opt caller' caseId c rows' candidate.action) ∧
    ∀ p, candidate.probability = some p →
      expectedRecoveredRevenue (secondNumber opt caller' caseId c rows' candidate.action)
          c.amountAtRisk.toDecimal =
        expectedRecoveredRevenue p c.amountAtRisk.toDecimal := by
  obtain ⟨-, -, number', hsettled, hrequotes⟩ := h.scored candidate hmem
  rw [h.case_eq] at hsettled
  have hnumber := hsettled.settles.settledNumber_eq
  unfold secondNumber
  rw [hnumber]
  constructor
  · cases hp : candidate.probability with
    | none =>
      have hsome := hrequotes.isSome
      rw [hp] at hsome
      exact Option.isSome_eq_false_iff.mp hsome |> Option.isNone_iff_eq_none.mp
    | some p =>
      have hsome := hrequotes.isSome
      rw [hp] at hsome
      obtain ⟨q, rfl⟩ := Option.isSome_iff_exists.mp hsome
      rfl
  · intro p hp
    rcases hrequotes with ⟨heq, -⟩ | ⟨hsource, hnone, scored, hanswer, hnumber₁, hnumber₂⟩
    · rw [heq, hp]
      rfl
    · have hin : candidate.action ∈ actions := h.actions_eq ▸ List.mem_map_of_mem hmem
      have hpaise := hkeeps hsource candidate.action hin hnone scored hanswer
      obtain ⟨costs, -, hnet⟩ := expected_of_price hprice hnumber₁
      obtain ⟨g, hg, -⟩ := expectedNetRecovery_exact hnet
      rw [hnumber₂] at hsettled ⊢
      obtain rfl := Option.some.inj (hp.symm.trans hnumber₁)
      exact (expectedRecoveredRevenue_eq_iff (probability_of_expectedRecoveredRevenue hg).1
        hsettled.settles.mem (lt_of_expectedRecoveredRevenue hg)).mpr hpaise

/-- The first run scores the actions at their first numbers. -/
theorem Twice.scoredAt (h : Twice opt caller caller' caseId s rows rows' c ctx actions r) :
    ScoredAt opt ctx (opt.firstNumber caller.now caseId c s rows) actions r.candidateActions := by
  unfold ScoredAt
  rw [← h.actions_eq, List.mapM_map]
  refine (Lib.mapM_ok (g := id) fun candidate hmem => ?_).trans (by rw [List.map_id])
  obtain ⟨hmade, hquoted, -⟩ := h.scored candidate hmem
  rw [h.case_eq] at hquoted
  show opt.candidateOf ctx candidate.action
    (opt.firstNumber caller.now caseId c s rows candidate.action) = .ok candidate
  unfold PredictedOptimizer.firstNumber
  rw [hquoted]
  exact hmade

/-- Where the paise are kept, the second run scores what the first numbers lead to at its time,
requoted. -/
theorem Twice.requoted (h : Twice opt caller caller' caseId s rows rows' c ctx actions r)
    (hnumber : ∀ candidate ∈ r.candidateActions,
      settledNumber opt.source caller'.now c.merchantId caseId rows' candidate.action =
        candidate.probability.map
          fun _ => secondNumber opt caller' caseId c rows' candidate.action)
    (hscored' : ScoredAt opt ctx' (opt.firstNumber caller.now caseId c s rows) actions scored') :
    (actions.mapM fun action => opt.candidateOf ctx' action
      (settledNumber opt.source caller'.now c.merchantId caseId rows' action)) =
        .ok (scored'.map (·.requoted (secondNumber opt caller' caseId c rows'))) := by
  have hstep : ∀ action ∈ actions, opt.candidateOf ctx' action
      (settledNumber opt.source caller'.now c.merchantId caseId rows' action) =
        (opt.candidateOf ctx' action (opt.firstNumber caller.now caseId c s rows action)).map
          (·.requoted (secondNumber opt caller' caseId c rows')) := by
    intro action hmem
    obtain ⟨candidate', hmade'⟩ := Lib.of_mapM_ok hscored' hmem
    have hin := hmem
    rw [← h.actions_eq] at hin
    obtain ⟨candidate, hcandidate, rfl⟩ := List.mem_map.mp hin
    have hfirst := (h.scored candidate hcandidate).quoted
    rw [h.case_eq] at hfirst
    have hfirst : opt.firstNumber caller.now caseId c s rows candidate.action =
        candidate.probability := hfirst
    rw [hfirst] at hmade' ⊢
    have hsecond := hnumber candidate hcandidate
    rw [hsecond, candidateOf_requoted (by simp) hmade', hmade']
    obtain ⟨_, _, _, -, -, -, rfl⟩ := candidateOf_ok.mp hmade'
    rfl
  have hwalk : ((actions.map id).mapM fun action => opt.candidateOf ctx' action
      (settledNumber opt.source caller'.now c.merchantId caseId rows' action)) =
        (actions.mapM fun action => opt.candidateOf ctx' action
          (opt.firstNumber caller.now caseId c s rows action)).map
            (List.map (·.requoted (secondNumber opt caller' caseId c rows'))) :=
    Lib.mapM_map hstep
  unfold ScoredAt at hscored'
  rw [List.map_id, hscored'] at hwalk
  exact hwalk

/-- Candidates of which the same is expected have the expected values of the earlier ones. -/
theorem expectedValue_requoted {scored : List CandidateAction} {f : RecoveryActionType → ℚ}
    (hnodup : (scored.map (·.action)).Nodup)
    (hpriced : ∀ candidate ∈ scored, ∃ w, opt.settings.price c candidate = .ok w)
    (hearlier : ∀ candidate' ∈ scored', ∃ candidate ∈ scored,
      candidate'.action = candidate.action ∧ candidate'.probability = candidate.probability ∧
        candidate'.discountCost = candidate.discountCost)
    (hpaise : ∀ candidate' ∈ scored', ∀ p, candidate'.probability = some p →
      expectedRecoveredRevenue (f candidate'.action) c.amountAtRisk.toDecimal =
        expectedRecoveredRevenue p c.amountAtRisk.toDecimal)
    {candidate candidate' : CandidateAction} (hmem : candidate ∈ scored)
    (hmem' : candidate' ∈ scored'.map (·.requoted f))
    (hsame : candidate'.action = candidate.action) :
    opt.settings.expectedValue c candidate' = opt.settings.expectedValue c candidate := by
  obtain ⟨other', hother', rfl⟩ := List.mem_map.mp hmem'
  obtain ⟨other, hother, haction, hprobability, hcost⟩ := hearlier other' hother'
  obtain rfl : other = candidate :=
    List.inj_on_of_nodup_map hnodup hother hmem (haction.symm.trans hsame)
  obtain ⟨w, hw⟩ := hpriced other hother
  obtain ⟨w', hw', hvalue⟩ := price_permission haction hprobability hcost hw
  have hrequoted : opt.settings.price c (other'.requoted f) = _ :=
    price_requoted (hpaise other' hother')
  rw [hw'] at hrequoted
  rw [expectedValue_eq_ok.mpr ⟨_, hrequoted, hvalue⟩, expectedValue_eq_ok.mpr ⟨w, hw, rfl⟩]

/-- Where the paise are kept, the second run has the outcome of the first one exactly where the
clock spares the front runners. -/
theorem agrees_iff_of_keepsPaise
    (h : OptimizedAs opt py caller caseId candidates s s' rows rows' c ctx actions r)
    (httl : InsideTtl opt.source rows caseId caller.now caller'.now)
    (hctx' : buildPolicyContext { settings := opt.recovery, py } s caseId c caller'.now = .ok ctx')
    (hkeeps : KeepsPaise opt caller.now caseId c s rows actions) :
    SecondAgrees opt py caller' caseId candidates c r (s', rows') ↔
      FrontSpared opt ctx ctx' (opt.firstNumber caller.now caseId c s rows) actions := by
  have htwice := h.twice httl
  obtain ⟨hlater, hcase⟩ := laterContext_of_build httl.later h.context hctx'
  have hcase' : ctx'.case = c := hcase.trans htwice.case_eq
  have hrisk : (ctx'.suspicious || ctx'.sourceMismatch) =
      (ctx.suspicious || ctx.sourceMismatch) := by
    rw [hlater.suspicious, hlater.sourceMismatch]
  have hcontext := (h.advised.buildPolicyContext { settings := opt.recovery, py } caseId c
    caller'.now).trans hctx'
  have hrow' : s'.cases.get? caseId = some c := by
    rw [h.advised.cases]
    exact h.row
  have hnumber : ∀ candidate ∈ r.candidateActions, _ := fun candidate hmem =>
    htwice.number hkeeps hmem (h.priced hmem).choose_spec
  -- what the first numbers lead to at the later time
  obtain ⟨scored', hscored'⟩ := htwice.scoredAt.later hlater hcase
  have hearlier : ∀ candidate' ∈ scored', ∃ candidate ∈ r.candidateActions, _ :=
    fun candidate' hmem => htwice.scoredAt.earlier hscored' hlater hcase hmem
  have hwalk := htwice.requoted (fun candidate hmem => (hnumber candidate hmem).1) hscored'
  have hpaise : ∀ candidate' ∈ scored', ∀ p, candidate'.probability = some p →
      expectedRecoveredRevenue (secondNumber opt caller' caseId c rows' candidate'.action)
          c.amountAtRisk.toDecimal =
        expectedRecoveredRevenue p c.amountAtRisk.toDecimal := by
    intro candidate' hmem' p hp
    obtain ⟨candidate, hmem, haction, hsame, -⟩ := hearlier candidate' hmem'
    rw [haction]
    exact (hnumber candidate hmem).2 p (hsame.symm.trans hp)
  have hfirst : opt.settings.rankCandidates ctx.case r.candidateActions
      (ctx.suspicious || ctx.sourceMismatch) = .ok (r.selected, r.selectionReason) := by
    rw [htwice.case_eq]
    exact h.ranked
  rw [← rankCandidates_later_iff htwice.nodup htwice.scoredAt hscored' hlater hcase hfirst, hcase']
  constructor
  · rintro ⟨r', ⟨t, rows''⟩, hrun', hsame⟩
    obtain ⟨c', ctx'', actions', h'⟩ := optimizePredicted_ok hrun'
    obtain rfl := Option.some.inj (hrow'.symm.trans h'.row)
    obtain rfl := Except.ok.inj (h.normalized.symm.trans h'.normalized)
    obtain rfl := Except.ok.inj (hcontext.symm.trans h'.context)
    obtain ⟨s₂, hscores⟩ := h'.scored
    obtain ⟨s₃, hsettles⟩ := htwice.run hcase' s' s'
    have hscored₂ := (Prod.mk.inj (hsettles.symm.trans hscores)).1
    rw [hwalk] at hscored₂
    have hranked' := h'.ranked
    rw [← Except.ok.inj hscored₂, hrisk] at hranked'
    obtain ⟨chosen, hrank, hselected⟩ := (rankCandidates_requoted_ok hpaise).mp hranked'
    have hactions : r'.selected.map (·.action) = r.selected.map (·.action) := hsame.selected
    refine ⟨chosen, r'.selectionReason, hrank, ?_⟩
    rw [← hactions, ← hselected, Option.map_map]
    rfl
  · rintro ⟨selected', reason', hrank, haction⟩
    obtain ⟨s₂, hscores⟩ := htwice.run hcase' s' s'
    rw [hwalk] at hscores
    have hranked' : opt.settings.rankCandidates c
        (scored'.map (·.requoted (secondNumber opt caller' caseId c rows')))
          (ctx'.suspicious || ctx'.sourceMismatch) =
        .ok (selected'.map (·.requoted (secondNumber opt caller' caseId c rows')), reason') := by
      rw [hrisk]
      exact (rankCandidates_requoted_ok hpaise).mpr ⟨selected', hrank, rfl⟩
    obtain ⟨last, hrun'⟩ := run_optimizePredicted hrow' hcontext h.normalized hscores hranked'
    refine ⟨_, _, hrun', ?_, fun candidate hmem candidate' hmem' hsame => ?_, ?_⟩
    · have hactions : (scored'.map (·.requoted (secondNumber opt caller' caseId c rows'))).map
          (·.action) = scored'.map (·.action) := by
        rw [List.map_map]
        rfl
      exact hactions.trans (hscored'.map_action.trans htwice.actions_eq.symm)
    · exact expectedValue_requoted (htwice.actions_eq ▸ htwice.nodup) (fun _ => h.priced) hearlier
        hpaise hmem hmem' hsame
    · unfold OptimizationResult.selectedAction
      rw [Option.map_map]
      exact haction

/-- Of two runs with nothing in between, the second one inside the time to live of the
predictions, the outcomes are the same exactly where, for every action that the first run asked
the model about, the answer and what is stored of it give the same paise, and the clock spares
the front runners. -/
theorem secondRun_agrees
    (hrun : (optimizePredicted opt py caller caseId candidates).run (s, rows) =
      (.ok r, (s', rows')))
    (httl : InsideTtl opt.source rows caseId caller.now caller'.now)
    (hrow : s.cases.get? caseId = some c)
    (hactions : normalizeCandidates candidates = .ok actions) :
    SecondAgrees opt py caller' caseId candidates c r (s', rows') ↔
      KeepsPaise opt caller.now caseId c s rows actions ∧
        ClockSpares opt py caller.now caller'.now caseId c s rows actions := by
  obtain ⟨c₁, ctx, actions₁, h⟩ := optimizePredicted_ok hrun
  obtain rfl := Option.some.inj (h.row.symm.trans hrow)
  obtain rfl := Except.ok.inj (h.normalized.symm.trans hactions)
  constructor
  · intro hagrees
    obtain ⟨r', ⟨t, rows''⟩, hrun', hsame⟩ := hagrees
    have hkeeps := keepsPaise_of_agrees h httl hrun' hsame
    refine ⟨hkeeps, fun ctx₁ ctx' hctx hctx' => ?_⟩
    obtain rfl := Except.ok.inj (h.context.symm.trans hctx)
    exact (agrees_iff_of_keepsPaise h httl hctx' hkeeps).mp ⟨r', _, hrun', hsame⟩
  · rintro ⟨hkeeps, hspares⟩
    obtain ⟨ctx', hctx', -⟩ := buildPolicyContext_clock caller'.now h.context
    exact (agrees_iff_of_keepsPaise h httl hctx' hkeeps).mpr
      (hspares ctx ctx' h.context hctx')

/-! ### A third of a million -/

/-- The answer of a trained model. -/
def modelAnswer (number : PyFloat) : RecoveryProbability where
  probability := number
  modelVersion := "recovery-v1"
  featureVersion := "features-v1"
  source := "ml"

/-- The optimizer whose model answers every question with one number. -/
def constantOptimizer (number : PyFloat) : PredictedOptimizer where
  source := { predictor := fun _ _ _ => .ok (modelAnswer number) }

/-- The float next to a third. -/
def floatThird : PyFloat where
  value := 6004799503160661 / 18014398509481984
  text := 3333333333333333 / 10000000000000000

/-- The float of a half. -/
def floatHalf : PyFloat where
  value := 1 / 2
  text := 1 / 2

/-- A case of a million rupees. -/
def millionStore : Store where
  merchants := ⟨[{}]⟩
  customers := ⟨[{ merchantId := 0 }]⟩
  payments := ⟨[{ merchantId := 0, customerId := 0, amount := 100000000, status := .failed }]⟩
  cases := ⟨[sampleCase 0 100000000 .policyCheck]⟩

/-- A run that asks for one retry, on a store and a table of predictions. -/
def retryRun (number : PyFloat) (now : Time) (before : Store × List ModelPrediction) :
    Except Failure OptimizationResult × Store × List ModelPrediction :=
  (optimizePredicted (constantOptimizer number) wholeNumberText (agentCaller now) 0
    (some ["RETRY_LATER"])).run before

theorem insideTtl_empty (number : PyFloat) (hlater : now ≤ now')
    (hwithin : now' ≤ now + 60 * 60000000) :
    InsideTtl (constantOptimizer number).source [] 0 now now' :=
  ⟨hlater, hwithin, fun action row hfresh => by cases hfresh.1⟩

/-- The expected values of the candidates of a result. -/
def valuesOf (r : OptimizationResult) : List (Option ℤ) :=
  r.candidateActions.map fun candidate =>
    (({} : OptimizerSettings).expectedValue (sampleCase 0 100000000 .policyCheck)
      candidate).toOption

/-- Of single candidates with different values the outcomes are not the same. -/
theorem not_sameOutcome {r' : OptimizationResult} {v v' : ℤ} (hne : v' ≠ v)
    (hr : valuesOf r = [some v]) (hr' : valuesOf r' = [some v']) :
    ¬ SameOutcome {} (sampleCase 0 100000000 .policyCheck) r r' := by
  rintro ⟨hactions, hvalues, -⟩
  obtain ⟨candidate, hcandidate, hv⟩ := List.map_eq_singleton_iff.mp hr
  obtain ⟨candidate', hcandidate', hv'⟩ := List.map_eq_singleton_iff.mp hr'
  rw [hcandidate, hcandidate'] at hactions hvalues
  have haction : candidate'.action = candidate.action := by simpa using hactions
  have hsame := hvalues candidate (List.mem_singleton_self _) candidate'
    (List.mem_singleton_self _) haction
  rw [hsame, hv] at hv'
  exact hne (Option.some.inj hv').symm

/-- A third of a million rupees is priced at ₹333,333.33, and a minute later at ₹333,333.00. -/
theorem secondRun_disagrees :
    ∃ r after, retryRun floatThird 0 (millionStore, []) = (.ok r, after) ∧
      InsideTtl (constantOptimizer floatThird).source [] 0 0 60000000 ∧
      valuesOf r = [some 33332733] ∧
      (retryRun floatThird 60000000 after).1.toOption.map valuesOf = some [some 33332700] ∧
      ¬ SecondAgrees (constantOptimizer floatThird) wholeNumberText (agentCaller 60000000) 0
        (some ["RETRY_LATER"]) (sampleCase 0 100000000 .policyCheck) r after := by
  have hfirst : (retryRun floatThird 0 (millionStore, [])).1.toOption.map valuesOf =
      some [some 33332733] := by decide +kernel
  have hsecond : (retryRun floatThird 60000000
      (retryRun floatThird 0 (millionStore, [])).2).1.toOption.map valuesOf =
        some [some 33332700] := by decide +kernel
  obtain ⟨r, hr, hvalues⟩ := Option.map_eq_some_iff.mp hfirst
  refine ⟨r, _, Prod.ext (Lib.toOption_eq_some.mp hr) rfl,
    insideTtl_empty _ (by decide) (by decide), hvalues, hsecond, ?_⟩
  rintro ⟨r', last, hrun, hsame⟩
  have hagain : (retryRun floatThird 60000000
      (retryRun floatThird 0 (millionStore, [])).2).1 = .ok r' := congrArg Prod.fst hrun
  rw [hagain] at hsecond
  have hvalues' : valuesOf r' = [some 33332700] := Option.some.inj hsecond
  exact not_sameOutcome (by decide) hvalues hvalues' hsame

/-- A run at a time among a retry, a reminder and an escalation. -/
def eveningRun (now : Time) (before : Store × List ModelPrediction) :
    Except Failure OptimizationResult × Store × List ModelPrediction :=
  (optimizePredicted (constantOptimizer floatHalf) wholeNumberText (agentCaller now) 0
    (some ["RETRY_LATER", "SEND_REMINDER", "ESCALATE"])).run before

theorem eveningRun_spared :
    ClockSpares (constantOptimizer floatHalf) wholeNumberText 73800000000 76500000000 0
      (sampleCase 0 100000000 .policyCheck) millionStore []
      [.retryLater, .sendReminder, .escalate] := by
  have hspared : ∀ ctx ∈ (buildPolicyContext { py := wholeNumberText } millionStore 0
        (sampleCase 0 100000000 .policyCheck) 73800000000).toOption,
      ∀ ctx' ∈ (buildPolicyContext { py := wholeNumberText } millionStore 0
        (sampleCase 0 100000000 .policyCheck) 76500000000).toOption,
      FrontSpared (constantOptimizer floatHalf) ctx ctx'
        ((constantOptimizer floatHalf).firstNumber 73800000000 0
          (sampleCase 0 100000000 .policyCheck) millionStore [])
        [.retryLater, .sendReminder, .escalate] := by decide +kernel
  exact fun ctx ctx' hctx hctx' =>
    hspared ctx (Lib.toOption_eq_some.mpr hctx) ctx' (Lib.toOption_eq_some.mpr hctx')

/-- A half of a million rupees is stored as it is. The quiet hours begin between the two runs, so
the reminder is denied in the second one, but the retry was the better choice before. -/
theorem secondRun_agrees_half :
    ∃ r after, eveningRun 73800000000 (millionStore, []) = (.ok r, after) ∧
      r.selectedAction = some .retryLater ∧
      r.candidateActions.map (·.allowed) = [true, true, true] ∧
      (eveningRun 76500000000 after).1.toOption.map (·.candidateActions.map (·.allowed)) =
        some [true, false, true] ∧
      SecondAgrees (constantOptimizer floatHalf) wholeNumberText (agentCaller 76500000000) 0
        (some ["RETRY_LATER", "SEND_REMINDER", "ESCALATE"])
        (sampleCase 0 100000000 .policyCheck) r after := by
  have hresult : (eveningRun 73800000000 (millionStore, [])).1.toOption.map (fun r =>
      (r.selectedAction, r.candidateActions.map (·.allowed))) =
        some (some .retryLater, [true, true, true]) := by decide +kernel
  have hlater : (eveningRun 76500000000 (eveningRun 73800000000
      (millionStore, [])).2).1.toOption.map (·.candidateActions.map (·.allowed)) =
        some [true, false, true] := by decide +kernel
  obtain ⟨r, hr, hselected⟩ := Option.map_eq_some_iff.mp hresult
  obtain ⟨haction, hallowed⟩ := Prod.mk.inj hselected
  have hrun : eveningRun 73800000000 (millionStore, []) =
      (.ok r, (eveningRun 73800000000 (millionStore, [])).2) :=
    Prod.ext (Lib.toOption_eq_some.mp hr) rfl
  have hstored : roundSix (1 / 2) = 1 / 2 := by decide +kernel
  have hkeeps : KeepsPaise (constantOptimizer floatHalf) 73800000000 0
      (sampleCase 0 100000000 .policyCheck) millionStore []
      [.retryLater, .sendReminder, .escalate] := by
    intro _ action _ _ scored hanswer
    obtain rfl := Except.ok.inj hanswer
    show SamePaise 100000000 (1 / 2) (roundSix (1 / 2))
    rw [hstored]
    rfl
  exact ⟨r, _, hrun, haction, hallowed, hlater,
    (secondRun_agrees hrun (insideTtl_empty _ (by decide) (by decide)) rfl rfl).mpr
      ⟨hkeeps, eveningRun_spared⟩⟩

end ReviveX
