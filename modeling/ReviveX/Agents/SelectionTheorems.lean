import ReviveX.Agents.RankingTheorems
import ReviveX.Domain.ProcessorTheorems

/-!
# What the optimizer selects

Whatever candidates it is given, the optimizer selects one of them that the policy engine
allowed in the context of the case, and an intervention only when its expected net recovery
is not negative.
-/

namespace ReviveX

open Lib (Decimal Session Table)

variable {settings : OptimizerSettings} {recovery : RecoverySettings} {percentText : String}
  {resolve : Store → ℕ → RecoveryActionType → Except Failure (Option ℚ)} {py : PyText}
  {caller : Caller} {caseId : ℕ} {s s' : Store}

/-- What is made sure of before a candidate is selected. -/
structure SelectedProperly (settings : OptimizerSettings) (ctx : PolicyContext)
    (actions : List RecoveryActionType) (w : CandidateAction) : Prop where
  proposed : w.action ∈ actions
  permitted : ∃ evaluation, evaluateAction ctx
      (candidateProposal w.action w.discountPercent w.discountCost) = .ok evaluation ∧
    evaluation.allowed = true
  profitable : w.action.isIntervention = true → ∃ probability costs value,
    w.probability = some probability ∧ settings.costsFor w.action = .ok costs ∧
      expectedNetRecovery probability ctx.case.amountAtRisk.toDecimal
        { costs with discountCost := w.discountCost } = .ok value ∧ 0 ≤ value

/-! ## Scoring -/

/-- A candidate that is allowed was allowed by the policy engine. -/
structure ScoredBy (ctx : PolicyContext) (actions : List RecoveryActionType)
    (candidate : CandidateAction) : Prop where
  proposed : candidate.action ∈ actions
  permitted : candidate.allowed = true → ∃ evaluation, evaluateAction ctx
      (candidateProposal candidate.action candidate.discountPercent candidate.discountCost) =
        .ok evaluation ∧ evaluation.allowed = true

theorem returns_evaluateAndPersist (caller : Caller) (caseId : ℕ) (ctx : PolicyContext)
    (proposed : ProposedAction) :
    Session.Returns (fun evaluation => evaluateAction ctx proposed = .ok evaluation)
      (evaluateAndPersist caller caseId ctx proposed) := by
  intro s evaluation s' hrun
  obtain ⟨s₁, hrun₁, -⟩ := run_evaluateAndPersist caller caseId ctx proposed s
  rw [hrun] at hrun₁
  exact (Prod.mk.inj hrun₁).1.symm

theorem returns_scoreCandidate (opt : RecoveryOptimizer) (caller : Caller) (caseId : ℕ)
    (ctx : PolicyContext) (action : RecoveryActionType) :
    Session.Returns (ScoredBy ctx [action]) (scoreCandidate opt caller caseId ctx action) := by
  refine .bind fun s => .bind fun probability => .bind fun concession => ?_
  refine (returns_evaluateAndPersist _ caseId ctx _).bind_of fun evaluation hevaluation => .pure ?_
  refine ⟨List.mem_singleton_self action, fun hallowed => ⟨evaluation, hevaluation, ?_⟩⟩
  have hboth : (probability.isSome && evaluation.allowed) = true := hallowed
  exact (Bool.and_eq_true_iff.mp hboth).2

theorem ScoredBy.mono {ctx : PolicyContext} {actions actions' : List RecoveryActionType}
    {candidate : CandidateAction} (h : ScoredBy ctx actions candidate)
    (hsub : ∀ action ∈ actions, action ∈ actions') : ScoredBy ctx actions' candidate :=
  ⟨hsub _ h.proposed, h.permitted⟩

theorem returns_scoreCandidates (opt : RecoveryOptimizer) (caller : Caller) (caseId : ℕ)
    (ctx : PolicyContext) (actions : List RecoveryActionType) :
    Session.Returns (fun scored => ∀ candidate ∈ scored, ScoredBy ctx actions candidate)
      (scoreCandidates opt caller caseId ctx actions) := by
  induction actions with
  | nil => exact .pure fun _ h => absurd h List.not_mem_nil
  | cons action rest ih =>
    refine (returns_scoreCandidate opt caller caseId ctx action).bind_of fun first hfirst => ?_
    refine ih.bind_of fun others hothers => .pure ?_
    intro candidate hmem
    rcases List.mem_cons.mp hmem with rfl | hrest
    · exact hfirst.mono fun a ha => by simpa using Or.inl (List.mem_singleton.mp ha)
    · exact (hothers candidate hrest).mono fun a ha => List.mem_cons_of_mem action ha

/-! ## Ranking -/

/-- The prices of a candidate are about the candidate. -/
structure PricedFrom (settings : OptimizerSettings) (amount : Decimal)
    (candidate : CandidateAction) (priced : PricedCandidate) : Prop where
  action : priced.action = candidate.action
  discountPercent : priced.discountPercent = candidate.discountPercent
  discountCost : priced.discountCost = candidate.discountCost
  probability : priced.probability = candidate.probability
  allowed : priced.allowed = true → candidate.allowed = true
  value : ∀ probability, candidate.probability = some probability →
    ∃ costs, settings.costsFor candidate.action = .ok costs ∧
      expectedNetRecovery probability amount
        { costs with discountCost := candidate.discountCost } = .ok priced.expectedValue

theorem pricedFrom_of_ok {candidate : CandidateAction} {amount : Decimal}
    {priced : PricedCandidate}
    (h : (do
      let costs ← settings.costsFor candidate.action
      candidateFromQuote candidate amount
        { costs with discountCost := candidate.discountCost }) = Except.ok priced) :
    PricedFrom settings amount candidate priced := by
  obtain ⟨costs, hcosts, h⟩ := Lib.bind_eq_ok.mp h
  unfold candidateFromQuote at h
  generalize hprobability : candidate.probability = probability at h
  cases probability with
  | none =>
    obtain rfl := Except.ok.inj h
    refine ⟨rfl, rfl, rfl, rfl, nofun, fun probability hsome => ?_⟩
    exact absurd (hprobability.symm.trans hsome) nofun
  | some probability =>
    obtain ⟨recovered, hrecovered, h⟩ := Lib.bind_eq_ok.mp h
    obtain ⟨value, hvalue, h⟩ := Lib.bind_eq_ok.mp h
    obtain rfl := Except.ok.inj h
    refine ⟨rfl, rfl, rfl, rfl, id, fun probability' hsame => ?_⟩
    obtain rfl := Option.some.inj (hprobability.symm.trans hsame)
    exact ⟨costs, hcosts, hvalue⟩

/-- The selected candidate was eligible, and no intervention that loses money. -/
theorem selectAction_eligible {candidates : List PricedCandidate} {highRisk : Bool}
    {w : PricedCandidate} {reason : String}
    (h : Ranking.selectAction candidates settings highRisk false = .ok (some w, reason)) :
    w ∈ candidates ∧ w.allowed = true ∧
      (w.action.isIntervention = true → w.probability.isSome = true ∧ 0 ≤ w.expectedValue) := by
  have heligible : ∀ c ∈ eligibleCandidates candidates,
      c ∈ candidates ∧ c.allowed = true ∧ c.probability.isSome = true := by
    intro c hc
    obtain ⟨hmem, hallowed, -, hprobability⟩ := mem_eligibleCandidates.mp hc
    exact ⟨hmem, hallowed, hprobability⟩
  cases hepsilon : signedMoney settings.tieEpsilon with
  | ok epsilon =>
    cases selectAction_chosen hepsilon h with
    | intervention hmem hbest htie =>
      obtain ⟨hin, hboth⟩ := List.mem_filter.mp hmem
      obtain ⟨hcandidate, hallowed, hprobability⟩ := heligible w hin
      have hvalue := (Bool.and_eq_true_iff.mp hboth).2
      exact ⟨hcandidate, hallowed, fun _ => ⟨hprobability, by simpa using hvalue⟩⟩
    | control hmem hnone hkind hrisk hcalm =>
      obtain ⟨hcandidate, hallowed, -⟩ := heligible w hmem
      exact ⟨hcandidate, hallowed, fun hintervention => absurd hintervention (by simp [hkind])⟩
  | error f =>
    -- without an epsilon only a control strategy is selected
    unfold Ranking.selectAction at h
    dsimp only at h
    split at h
    · cases h
    · split at h
      · obtain ⟨hmem, hkind, -⟩ := selectControl_spec (Except.ok.inj h)
        obtain ⟨hcandidate, hallowed, -⟩ := heligible w hmem
        exact ⟨hcandidate, hallowed, fun hintervention => absurd hintervention (by simp [hkind])⟩
      · obtain ⟨winner, hwinner, -⟩ := Lib.bind_eq_ok.mp h
        unfold maxWithTies at hwinner
        obtain ⟨best, -, hwinner⟩ := Lib.bind_eq_ok.mp hwinner
        rw [hepsilon] at hwinner
        cases hwinner

/-- The ranking selects among the candidates that were scored. -/
theorem rankCandidates_selects {c : RecoveryCase} {scored : List CandidateAction}
    {highRisk : Bool} {w : CandidateAction} {reason : String} {ctx : PolicyContext}
    {actions : List RecoveryActionType} (hcase : ctx.case = c)
    (hscored : ∀ candidate ∈ scored, ScoredBy ctx actions candidate)
    (h : settings.rankCandidates c scored highRisk = .ok (some w, reason)) :
    SelectedProperly settings ctx actions w := by
  unfold OptimizerSettings.rankCandidates at h
  obtain ⟨priced, hpriced, h⟩ := Lib.bind_eq_ok.mp h
  obtain ⟨⟨selected, reason'⟩, hselected, h⟩ := Lib.bind_eq_ok.mp h
  have hresult := (Prod.mk.inj (Except.ok.inj h)).1
  obtain ⟨winner, rfl, rfl⟩ := Option.map_eq_some_iff.mp hresult
  obtain ⟨hmem, hallowed, hprofit⟩ := selectAction_eligible hselected
  obtain ⟨candidate, hcandidate, hprice⟩ := (Lib.mem_mapM_ok hpriced).mp hmem
  have hfrom := pricedFrom_of_ok hprice
  have hscore := hscored candidate ((List.mem_insertionSort _).mp hcandidate)
  refine ⟨?_, ?_, fun hintervention => ?_⟩
  · rw [hfrom.action]
    exact hscore.proposed
  · obtain ⟨evaluation, hevaluation, hpermits⟩ := hscore.permitted (hfrom.allowed hallowed)
    refine ⟨evaluation, ?_, hpermits⟩
    rw [hfrom.action, hfrom.discountPercent, hfrom.discountCost]
    exact hevaluation
  · obtain ⟨hprobability, hvalue⟩ := hprofit hintervention
    obtain ⟨probability, hsome⟩ := Option.isSome_iff_exists.mp hprobability
    obtain ⟨costs, hcosts, hnet⟩ := hfrom.value probability (hfrom.probability.symm.trans hsome)
    refine ⟨probability, costs, winner.expectedValue, hsome, ?_, ?_, hvalue⟩
    · rw [hfrom.action]
      exact hcosts
    · rw [hfrom.discountCost, hcase]
      exact hnet

/-! ## The optimizer -/

/-- The optimizer returns the candidates that it scored in the context of the case, and the
one that the ranking selected. -/
theorem optimizeCase_ok {opt : RecoveryOptimizer} {candidates : Option (List String)}
    {r : OptimizationResult}
    (h : (optimizeCase opt py caller caseId candidates).run s = (.ok r, s')) :
    ∃ c ctx actions s₁, s.cases.get? caseId = some c ∧
      buildPolicyContext { settings := opt.settings, py } s caseId c caller.now = .ok ctx ∧
      normalizeCandidates candidates = .ok actions ∧
      (scoreCandidates opt caller caseId ctx actions).run s = (.ok r.candidateActions, s₁) ∧
      opt.selectAction c r.candidateActions (ctx.suspicious || ctx.sourceMismatch) =
        .ok (r.selected, r.selectionReason) := by
  unfold optimizeCase at h
  rw [Session.run_get_bind] at h
  cases hc : s.cases.get? caseId with
  | none =>
    rw [hc] at h
    cases (Prod.mk.inj h).1
  | some c =>
    rw [hc] at h
    dsimp only at h
    rw [Session.run_ofExcept_bind] at h
    cases hctx : buildPolicyContext { settings := opt.settings, py } s caseId c caller.now with
    | error f =>
      rw [hctx] at h
      cases (Prod.mk.inj h).1
    | ok ctx =>
      rw [hctx] at h
      dsimp only at h
      rw [Session.run_ofExcept_bind] at h
      cases hactions : normalizeCandidates candidates with
      | error f =>
        rw [hactions] at h
        cases (Prod.mk.inj h).1
      | ok actions =>
        rw [hactions] at h
        dsimp only at h
        obtain ⟨scored, s₁, hscored, h⟩ := Session.run_bind_eq_ok.mp h
        rw [Session.run_ofExcept_bind] at h
        cases hselect : opt.selectAction c scored (ctx.suspicious || ctx.sourceMismatch) with
        | error f =>
          rw [hselect] at h
          cases (Prod.mk.inj h).1
        | ok chosen =>
          rw [hselect] at h
          -- recording the decision comes last and changes nothing of the answer
          obtain ⟨-, s₂, -, h⟩ := Session.run_bind_eq_ok.mp h
          obtain rfl := Except.ok.inj (Prod.mk.inj h).1
          exact ⟨c, ctx, actions, s₁, rfl, hctx, rfl, hscored, hselect⟩

/-- Whatever the optimizer selects for a case, it selects properly. -/
theorem optimizeCase_selects {candidates : Option (List String)} {r : OptimizationResult}
    {w : CandidateAction}
    (h : (optimizeCase (settings.optimizer recovery percentText resolve) py caller caseId
      candidates).run s = (.ok r, s'))
    (hw : r.selected = some w) :
    ∃ c ctx actions, s.cases.get? caseId = some c ∧
      buildPolicyContext { settings := recovery, py } s caseId c caller.now = .ok ctx ∧
      normalizeCandidates candidates = .ok actions ∧
      SelectedProperly settings ctx actions w := by
  obtain ⟨c, ctx, actions, s₁, hrow, hctx, hactions, hscored, hselect⟩ := optimizeCase_ok h
  have hproper := returns_scoreCandidates _ caller caseId ctx actions s _ s₁ hscored
  rw [hw] at hselect
  exact ⟨c, ctx, actions, hrow, hctx, hactions,
    rankCandidates_selects (buildPolicyContext_case hctx) hproper hselect⟩

/-- Walking over the texts of further actions keeps them all, in their order. -/
private theorem foldlM_text {before actions : List RecoveryActionType}
    (hnodup : (before ++ actions).Nodup) :
    (actions.map (·.text)).foldlM (fun unique raw =>
      match RecoveryActionType.ofText? raw with
      | none => Except.error (optimizerError "INVALID_ACTION" s!"Unknown recovery action: {raw}")
      | some action => .ok (if unique.contains action then unique else unique ++ [action]))
      before = .ok (before ++ actions) := by
  -- `before` are the actions that the walk has kept so far
  induction actions generalizing before with
  | nil =>
    rw [List.append_nil]
    rfl
  | cons action rest ih =>
    have hread : RecoveryActionType.ofText? action.text = some action := by
      cases action <;> rfl
    have hnew : action ∉ before := fun hmem =>
      List.disjoint_of_nodup_append hnodup hmem List.mem_cons_self
    rw [List.map_cons, List.foldlM_cons, hread]
    have hnot : before.contains action = false := by simpa using hnew
    dsimp only
    rw [hnot]
    have happend : before ++ action :: rest = (before ++ [action]) ++ rest := by simp
    rw [happend] at hnodup ⊢
    exact ih hnodup

/-- A list of different actions is normalized to itself. -/
theorem normalizeCandidates_text {actions : List RecoveryActionType} (h : actions.Nodup) :
    normalizeCandidates (some (actions.map (·.text))) = .ok actions := by
  have hnodup : ([] ++ actions).Nodup := h
  exact foldlM_text hnodup

/-- Walking over further texts keeps the actions different. -/
private theorem foldlM_nodup {before actions : List RecoveryActionType} {texts : List String}
    (hbefore : before.Nodup)
    (h : texts.foldlM (fun unique raw =>
      match RecoveryActionType.ofText? raw with
      | none => Except.error (optimizerError "INVALID_ACTION" s!"Unknown recovery action: {raw}")
      | some action => .ok (if unique.contains action then unique else unique ++ [action]))
      before = .ok actions) : actions.Nodup := by
  -- an action that is already kept is not appended again
  induction texts generalizing before with
  | nil =>
    obtain rfl := Except.ok.inj h
    exact hbefore
  | cons raw rest ih =>
    rw [List.foldlM_cons] at h
    obtain ⟨unique, hunique, h⟩ := Lib.bind_eq_ok.mp h
    refine ih ?_ h
    cases hraw : RecoveryActionType.ofText? raw with
    | none =>
      rw [hraw] at hunique
      cases hunique
    | some action =>
      rw [hraw] at hunique
      obtain rfl := Except.ok.inj hunique
      split
      · exact hbefore
      · rename_i hnew
        have hnot : action ∉ before := by simpa using hnew
        refine List.nodup_append.mpr ⟨hbefore, List.nodup_singleton action, ?_⟩
        intro a ha b hb
        obtain rfl := List.mem_singleton.mp hb
        exact fun heq => hnot (heq ▸ ha)

/-- The candidates that are scored are different actions. -/
theorem normalizeCandidates_nodup {candidates : Option (List String)}
    {actions : List RecoveryActionType} (h : normalizeCandidates candidates = .ok actions) :
    actions.Nodup := by
  cases candidates with
  | none =>
    obtain rfl := Except.ok.inj h
    decide
  | some texts => exact foldlM_nodup List.nodup_nil h

/-! ## What the optimizer writes -/

/-- The optimizer writes evaluations, a decision and audit rows. -/
def OptimizerRows (s s' : Store) : Prop :=
  s' = { s with
    policyEvaluations := s'.policyEvaluations
    decisions := s'.decisions
    auditEvents := s'.auditEvents }

namespace OptimizerRows

theorem refl (s : Store) : OptimizerRows s s := rfl

theorem trans (a b c : Store) (h : OptimizerRows a b) (h' : OptimizerRows b c) :
    OptimizerRows a c := by
  unfold OptimizerRows at *
  rw [h', h]

variable {α β : Type} {m : Service α} {f : α → Service β}

theorem bind (hm : Session.Keeps OptimizerRows m)
    (hf : ∀ a, Session.Keeps OptimizerRows (f a)) : Session.Keeps OptimizerRows (m >>= f) :=
  Session.Keeps.bind (R := OptimizerRows) trans hm hf

theorem keeps_pure (a : α) : Session.Keeps OptimizerRows (pure a : Service α) := .pure refl a

theorem keeps_ofExcept (x : Except Failure α) :
    Session.Keeps OptimizerRows (Session.ofExcept x : Service α) := .ofExcept refl x

theorem keeps_recordAudit (e : AuditEvent) :
    Session.Keeps OptimizerRows (Service.recordAudit e) := .modify fun _ => rfl

theorem keeps_scoreCandidates (opt : RecoveryOptimizer) (caller : Caller) (caseId : ℕ)
    (ctx : PolicyContext) (actions : List RecoveryActionType) :
    Session.Keeps OptimizerRows (scoreCandidates opt caller caseId ctx actions) := by
  have hevaluate : ∀ caller proposed,
      Session.Keeps OptimizerRows (evaluateAndPersist caller caseId ctx proposed) :=
    fun caller proposed => bind (keeps_ofExcept _) fun _ =>
      bind (bind (.modify fun _ => rfl) fun _ => keeps_recordAudit _) fun _ => keeps_pure _
  induction actions with
  | nil => exact keeps_pure _
  | cons action rest ih =>
    refine bind (.get_bind fun s => ?_) fun first => bind ih fun others => keeps_pure _
    exact bind (keeps_ofExcept _) fun _ => bind (keeps_ofExcept _) fun _ =>
      bind (hevaluate _ _) fun _ => keeps_pure _

theorem keeps_optimizeCase (opt : RecoveryOptimizer) (py : PyText) (caller : Caller)
    (caseId : ℕ) (candidates : Option (List String)) :
    Session.Keeps OptimizerRows (optimizeCase opt py caller caseId candidates) := by
  have hpersist : ∀ c result,
      Session.Keeps OptimizerRows (persistOptimizationDecision caller caseId c result) :=
    fun c result => bind (.modify fun _ => rfl) fun _ => keeps_recordAudit _
  refine .get_bind fun s => ?_
  split
  · exact .raise refl _
  · exact bind (keeps_ofExcept _) fun ctx => bind (keeps_ofExcept _) fun actions =>
      bind (keeps_scoreCandidates opt caller caseId ctx actions) fun _ =>
      bind (keeps_ofExcept _) fun _ => bind (hpersist _ _) fun _ => keeps_pure _

end OptimizerRows

end ReviveX
