import ReviveX.Agents.ContainmentTheorems
import ReviveX.Tools.DiscountTheorems

/-!
# What was priced and what is executed

The optimizer asks the policy engine about a discount with its amount rounded to paise, the
tool service about its percentage alone, so that the engine computes the exact amount. The
orchestrator passes the percentage on, but reads a percentage of zero as a missing one, and the
two services read the clock one after the other. The two verdicts on a selected action are the
same but for these differences (`judgedAsPriced_iff`).
-/

namespace ReviveX

open Lib (Decimal Json Session)

variable {rt : Runtime} {opt : RecoveryOptimizer} {settings : OptimizerSettings}
  {recovery : RecoverySettings} {percentText : String}
  {resolve : Store → ℕ → RecoveryActionType → Except Failure (Option ℚ)}
  {svc : ToolExecutionService} {caller : Caller} {caseId runId : ℕ} {c : RecoveryCase}
  {ctx ctx' : PolicyContext} {s s' s'' : Store} {r : OptimizationResult} {w : CandidateAction}
  {request : ToolRequest} {percent : Decimal}

/-! ## The prices -/

/-- A candidate carries the concession of its action, and the verdict on its proposal. -/
structure PricedBy (opt : RecoveryOptimizer) (ctx : PolicyContext) (candidate : CandidateAction) :
    Prop where
  concession : opt.concession ctx.case candidate.action =
    .ok (candidate.discountPercent, candidate.discountCost)
  judged : ∃ evaluation, evaluateAction ctx
      (candidateProposal candidate.action candidate.discountPercent candidate.discountCost) =
        .ok evaluation ∧
    candidate.allowed = (candidate.probability.isSome && evaluation.allowed) ∧
    candidate.requiresApproval = (candidate.probability.isSome &&
      evaluation.requiresApproval && evaluation.allowed)

theorem returns_priced_scoreCandidate (opt : RecoveryOptimizer) (caller : Caller) (caseId : ℕ)
    (ctx : PolicyContext) (action : RecoveryActionType) :
    Session.Returns (PricedBy opt ctx) (scoreCandidate opt caller caseId ctx action) := by
  refine .bind fun s => .bind fun probability => ?_
  refine (Session.Returns.ofExcept _).bind_of fun concession hconcession => ?_
  refine (returns_evaluateAndPersist _ caseId ctx _).bind_of fun evaluation hevaluation => ?_
  exact .pure ⟨hconcession, evaluation, hevaluation, rfl, rfl⟩

theorem returns_priced_scoreCandidates (opt : RecoveryOptimizer) (caller : Caller) (caseId : ℕ)
    (ctx : PolicyContext) (actions : List RecoveryActionType) :
    Session.Returns (fun scored => ∀ candidate ∈ scored, PricedBy opt ctx candidate)
      (scoreCandidates opt caller caseId ctx actions) := by
  induction actions with
  | nil => exact .pure fun _ h => absurd h List.not_mem_nil
  | cons action rest ih =>
    have hfirst := returns_priced_scoreCandidate opt caller caseId ctx action
    refine hfirst.bind_of fun first hpriced => ih.bind_of fun others hothers => .pure ?_
    intro candidate hmem
    rcases List.mem_cons.mp hmem with rfl | hrest
    · exact hpriced
    · exact hothers candidate hrest

/-- A priced candidate that is allowed is the candidate it was made of. -/
theorem toCandidateAction_of_quote {candidate : CandidateAction} {amount : Decimal}
    {costs : ActionCosts} {priced : PricedCandidate}
    (h : candidateFromQuote candidate amount costs = .ok priced)
    (hallowed : priced.allowed = true) :
    candidate.allowed = true ∧ priced.toCandidateAction =
      { candidate with requiresApproval := candidate.requiresApproval && candidate.allowed } := by
  unfold candidateFromQuote at h
  dsimp only at h
  split at h
  · obtain rfl := Except.ok.inj h
    cases hallowed
  · obtain ⟨recovered, -, h⟩ := Lib.bind_eq_ok.mp h
    obtain ⟨value, -, h⟩ := Lib.bind_eq_ok.mp h
    obtain rfl := Except.ok.inj h
    exact ⟨hallowed, rfl⟩

/-- The ranking selects one of the scored candidates that were allowed. -/
theorem rankCandidates_mem {scored : List CandidateAction} {highRisk : Bool} {reason : String}
    (h : settings.rankCandidates c scored highRisk = .ok (some w, reason)) :
    ∃ candidate ∈ scored, candidate.allowed = true ∧ w =
      { candidate with requiresApproval := candidate.requiresApproval && candidate.allowed } := by
  unfold OptimizerSettings.rankCandidates at h
  obtain ⟨priced, hpriced, h⟩ := Lib.bind_eq_ok.mp h
  obtain ⟨⟨selected, reason'⟩, hselected, h⟩ := Lib.bind_eq_ok.mp h
  obtain ⟨winner, rfl, rfl⟩ := Option.map_eq_some_iff.mp (Prod.mk.inj (Except.ok.inj h)).1
  obtain ⟨hmem, hallowed, -⟩ := selectAction_eligible hselected
  obtain ⟨candidate, hcandidate, hprice⟩ := (Lib.mem_mapM_ok hpriced).mp hmem
  obtain ⟨costs, -, hquote⟩ := Lib.bind_eq_ok.mp hprice
  obtain ⟨hpermitted, hwinner⟩ := toCandidateAction_of_quote hquote hallowed
  exact ⟨candidate, (List.mem_insertionSort _).mp hcandidate, hpermitted, hwinner⟩

/-- What the optimizer knows of a selected candidate. -/
structure SelectedAs (opt : RecoveryOptimizer) (ctx : PolicyContext) (w : CandidateAction) :
    Prop where
  allowed : w.allowed = true
  concession : opt.concession ctx.case w.action = .ok (w.discountPercent, w.discountCost)
  judged : ∃ evaluation, evaluateAction ctx
      (candidateProposal w.action w.discountPercent w.discountCost) = .ok evaluation ∧
    evaluation.allowed = true ∧ evaluation.requiresApproval = w.requiresApproval

theorem PricedBy.selectedAs {candidate : CandidateAction} (h : PricedBy opt ctx candidate)
    (hallowed : candidate.allowed = true) :
    SelectedAs opt ctx
      { candidate with requiresApproval := candidate.requiresApproval && candidate.allowed } := by
  obtain ⟨evaluation, hevaluation, hpermits, happroves⟩ := h.judged
  rw [hallowed] at hpermits
  obtain ⟨hprobability, hpermitted⟩ := Bool.and_eq_true_iff.mp hpermits.symm
  refine ⟨hallowed, h.concession, evaluation, hevaluation, hpermitted, ?_⟩
  dsimp only
  rw [happroves, hprobability, hpermitted, hallowed, Bool.true_and, Bool.and_true, Bool.and_true]

/-- The candidates of a discount have the percentage of the optimizer. -/
theorem PricedBy.discountPercent {candidate : CandidateAction} (h : PricedBy opt ctx candidate)
    (hoffer : candidate.action = .offerDiscount) :
    candidate.discountPercent = some opt.defaultDiscountPercent := by
  have hconcession := h.concession
  rw [hoffer] at hconcession
  obtain ⟨cost, -, hpair⟩ := Lib.bind_eq_ok.mp hconcession
  exact (Prod.mk.inj (Except.ok.inj hpair)).1.symm

/-! ## The tool call -/

/-- The percentage that the orchestrator passes on is the one of the optimizer, unless that
is zero. -/
theorem selectedPercent_eq
    (hpriced : ∀ candidate ∈ r.candidateActions, PricedBy opt ctx candidate)
    (hmem : ∃ candidate ∈ r.candidateActions, candidate.action = .offerDiscount) :
    selectedPercent opt r =
      if opt.defaultDiscountPercent = .finite 0 then "5" else opt.discountPercentText := by
  obtain ⟨candidate, hcandidate, hoffer⟩ := hmem
  have hfound : (r.candidateActions.find? fun item => item.action = .offerDiscount).isSome =
      true := List.find?_isSome.mpr ⟨candidate, hcandidate, by simpa using hoffer⟩
  obtain ⟨found, hfound⟩ := Option.isSome_iff_exists.mp hfound
  have hoffers : found.action = .offerDiscount := by simpa using List.find?_some hfound
  have hpercent := (hpriced found (List.mem_of_find?_eq_some hfound)).discountPercent hoffers
  unfold selectedPercent
  rw [hfound, Option.bind_some, hpercent]
  by_cases hzero : opt.defaultDiscountPercent = .finite 0
  · rw [hzero, if_pos rfl]
    rfl
  · rw [if_neg hzero]
    split
    · rename_i hnone
      cases hnone
    · rename_i hsome
      exact absurd (Option.some.inj hsome) hzero
    · rfl

/-- Only a discount is proposed with a percentage. -/
theorem proposedFromPayload_other {action : RecoveryActionType} {payload input : Payload}
    (hother : action ≠ .offerDiscount)
    (h : validateInput rt (toolByAction action) payload = .ok input) :
    proposedFromPayload rt action input = .ok { actionType := action.text } := by
  have hnames := names_of_validateInput h
  have habsent : "discount_percent" ∉ input.map Prod.fst := by
    rw [hnames]
    cases action with
    | offerDiscount => exact absurd rfl hother
    | _ => decide
  have hmissing : Json.get? input "discount_percent" = none := by
    unfold Json.get?
    rw [Option.map_eq_none_iff, List.find?_eq_none]
    intro entry hentry hname
    have hkey : entry.1 = "discount_percent" := by simpa using hname
    exact habsent (hkey ▸ List.mem_map_of_mem hentry)
  unfold proposedFromPayload
  rw [hmissing]

/-! ## The verdict -/

/-- The exact amount of the discount, on top of what was spent today, does not exceed the
budget of the day. -/
def ExactWithinBudget (ctx : PolicyContext) (percent : Decimal) : Prop :=
  ∃ amount projected, offeredAmount ctx (discountProposal percent) percent = some amount ∧
    ctx.discountSpentToday.toDecimal.add? amount = some projected ∧
    projected.gt? ctx.settings.maxDailyDiscountBudget = some false

/-- Where the rounded discount was judged, the exact one is judged later on, if its amount and what
it adds up to can be compared with the budget. -/
theorem evaluateAction_exact_ok (halike : AlikeContexts ctx ctx') {cost : Money}
    {evaluation : PolicyEvaluationResult}
    (h : evaluateAction ctx (candidateProposal .offerDiscount (some percent) cost) =
      .ok evaluation) {amount projected : Decimal} {exceeded : Bool}
    (hamount : offeredAmount ctx' (discountProposal percent) percent = some amount)
    (hprojected : ctx'.discountSpentToday.toDecimal.add? amount = some projected)
    (hcompared : projected.gt? ctx'.settings.maxDailyDiscountBudget = some exceeded) :
    ∃ exact, evaluateAction ctx' (discountProposal percent) = .ok exact := by
  obtain ⟨value, restrictions, hvalue, hrestrictions, -⟩ := evaluateAction_ok h
    (RecoveryActionType.ofText?_text .offerDiscount)
  -- the rules but that of the budget answer as they did
  rw [restrictionRules_eq, if_pos rfl, discountRules_eq rfl] at hrestrictions
  obtain ⟨discount, hdiscount, -⟩ := Lib.bind_eq_ok.mp hrestrictions
  obtain ⟨tooLarge, htooLarge, hdiscount⟩ := Lib.bind_eq_ok.mp hdiscount
  obtain ⟨amount₀, -, hdiscount⟩ := Lib.bind_eq_ok.mp hdiscount
  obtain ⟨projected₀, -, hdiscount⟩ := Lib.bind_eq_ok.mp hdiscount
  obtain ⟨over₀, -, hdiscount⟩ := Lib.bind_eq_ok.mp hdiscount
  obtain ⟨positive, hpositive, -⟩ := Lib.bind_eq_ok.mp hdiscount
  obtain ⟨rules, hrules⟩ : ∃ rules, discountRules ctx' (discountProposal percent) = .ok rules := by
    rw [discountRules_eq rfl, signalling_eq_ok.mpr hamount, halike.settings, htooLarge]
    dsimp only [bind, Except.bind]
    rw [signalling_eq_ok.mpr hprojected]
    dsimp only
    rw [← halike.settings, exceeds_eq_ok.mpr hcompared]
    dsimp only
    rw [hpositive]
    exact ⟨_, rfl⟩
  have hvalue' : valueRisk ctx' .offerDiscount = .ok value := by
    rw [← hvalue]
    unfold valueRisk
    rw [halike.settings, halike.amountAtRisk]
  have haction : RecoveryActionType.ofText? (discountProposal percent).actionType =
      some .offerDiscount := RecoveryActionType.ofText?_text .offerDiscount
  unfold evaluateAction
  rw [haction]
  dsimp only
  rw [hvalue', restrictionRules_eq, if_pos rfl, hrules]
  exact ⟨_, rfl⟩

/-- A reason to deny the exact discount, within the budget, is one to deny the rounded one. -/
theorem Denied.of_exact (halike : AlikeContexts ctx ctx')
    (hretries : ctx'.retryCount = ctx.retryCount) {amount projected : Decimal} (cost : Money)
    (hamount : offeredAmount ctx' (discountProposal percent) percent = some amount)
    (hprojected : ctx'.discountSpentToday.toDecimal.add? amount = some projected)
    (hwithin : projected.gt? ctx'.settings.maxDailyDiscountBudget = some false)
    (hdenied : Denied ctx' (discountProposal percent) .offerDiscount) :
    Denied ctx (candidateProposal .offerDiscount (some percent) cost) .offerDiscount := by
  cases hdenied with
  | blocked hblocked => exact .blocked (halike.blockedActionTypes ▸ hblocked)
  | killSwitch hautomatic hdisabled => exact .killSwitch hautomatic (halike.settings ▸ hdisabled)
  | suspicious hautomatic hsuspicious =>
    rw [halike.suspicious, halike.sourceMismatch] at hsuspicious
    exact .suspicious hautomatic hsuspicious
  | retries hretry hreached =>
    rw [halike.settings, hretries] at hreached
    exact .retries hretry hreached
  | optOut hcommunicates hopted =>
    exact .optOut hcommunicates (halike.customerOptedOut ▸ hopted)
  | frequency hcommunicates hreached =>
    have hfewer := halike.communications
    rw [halike.settings] at hreached
    exact .frequency hcommunicates (by omega)
  | quietHours hreminder hquiet => cases hreminder
  | discount hoffer hdenied =>
    refine .discount hoffer ?_
    cases hdenied with
    | required hnone => cases hnone
    | tooLarge hpercent hlarge => exact .tooLarge hpercent (halike.settings ▸ hlarge)
    | ineligible heligible => exact .ineligible (halike.discountEligible ▸ heligible)
    | budget hpercent hamount' hprojected' hover =>
      obtain rfl := Option.some.inj hpercent
      obtain rfl := Option.some.inj (hamount.symm.trans hamount')
      obtain rfl := Option.some.inj (hprojected.symm.trans hprojected')
      cases hwithin.symm.trans hover

/-- Where a rounded discount is allowed, the exact one is allowed alike later on if it is within
the budget by then, and not otherwise. -/
theorem evaluateAction_exact (halike : AlikeContexts ctx ctx')
    (hretries : ctx'.retryCount = ctx.retryCount) {cost : Money}
    {evaluation : PolicyEvaluationResult}
    (h : evaluateAction ctx (candidateProposal .offerDiscount (some percent) cost) =
      .ok evaluation) (hallowed : evaluation.allowed = true) :
    (∃ exact, evaluateAction ctx' (discountProposal percent) = .ok exact ∧
      exact.allowed = true ∧ exact.requiresApproval = evaluation.requiresApproval) ↔
    ExactWithinBudget ctx' percent := by
  have haction : RecoveryActionType.ofText? (candidateProposal .offerDiscount (some percent)
      cost).actionType = some .offerDiscount := RecoveryActionType.ofText?_text .offerDiscount
  have haction' : RecoveryActionType.ofText? (discountProposal percent).actionType =
      some .offerDiscount := RecoveryActionType.ofText?_text .offerDiscount
  constructor
  · rintro ⟨exact, hexact, hpermitted, -⟩
    obtain ⟨percent', product, amount, projected, hpercent, hproduct, hamount, hprojected,
      hwithin⟩ := discount_within_of_allowed hexact haction' rfl hpermitted
    obtain rfl := Option.some.inj hpercent
    refine ⟨amount, projected, ?_, hprojected, hwithin⟩
    unfold offeredAmount discountProposal
    dsimp only
    rw [hproduct]
    exact hamount
  · rintro ⟨amount, projected, hamount, hprojected, hwithin⟩
    have hspared := (allowed_iff h haction).mp hallowed
    obtain ⟨exact, hexact⟩ := evaluateAction_exact_ok halike h hamount hprojected hwithin
    have hpermitted : exact.allowed = true := (allowed_iff hexact haction').mpr fun hdenied =>
      hspared (hdenied.of_exact halike hretries cost hamount hprojected hwithin)
    refine ⟨exact, hexact, hpermitted, ?_⟩
    have happroves := requiresApproval_iff hexact haction'
    have happroves₀ := requiresApproval_iff h haction
    rw [hpermitted, halike.settings, halike.amountAtRisk] at happroves
    rw [hallowed] at happroves₀
    exact Bool.eq_iff_iff.mpr (happroves.trans happroves₀.symm)

/-- An action without a discount that was allowed is judged alike later on, unless it is a
reminder and the quiet hours have begun. -/
theorem evaluateAction_later_iff {action : RecoveryActionType} (halike : AlikeContexts ctx ctx')
    (hretries : ctx'.retryCount = ctx.retryCount) {evaluation : PolicyEvaluationResult}
    (hother : action ≠ .offerDiscount)
    (h : evaluateAction ctx { actionType := action.text } = .ok evaluation)
    (hallowed : evaluation.allowed = true) :
    (∃ later, evaluateAction ctx' { actionType := action.text } = .ok later ∧
      later.allowed = true ∧ later.requiresApproval = evaluation.requiresApproval) ↔
    (action = .sendReminder → inQuietHours ctx' = false) := by
  have haction : RecoveryActionType.ofText? action.text = some action :=
    RecoveryActionType.ofText?_text action
  constructor
  · rintro ⟨later, hlater, hpermitted, -⟩ hreminder
    by_contra hquiet
    rw [Bool.not_eq_false] at hquiet
    exact (allowed_iff hlater haction).mp hpermitted (.quietHours hreminder hquiet)
  · intro hquiet
    have hroom : HasRoom ctx' action { actionType := action.text } := by
      refine ⟨fun hretry => ?_, fun hoffer => absurd hoffer hother, hquiet⟩
      rw [hretries, halike.settings]
      exact retryCount_lt_of_allowed h haction hretry hallowed
    exact ⟨evaluation, evaluateAction_again halike hroom rfl h haction hallowed, hallowed, rfl⟩

/-- The verdict of the tool service on the tool of an action. -/
theorem judgeTool_eq {action : RecoveryActionType} {now : Time}
    (haction : actionForTool request.tool = some action)
    (hctx : buildPolicyContext { settings := svc.settings, py := rt.py } s request.args.caseId
      request.case now = .ok ctx) {proposed : ProposedAction}
    (hproposed : proposedFromPayload rt action request.input = .ok proposed) :
    judgeTool rt svc now s request =
      (evaluateAction ctx proposed).map fun evaluation => { ctx, evaluation } := by
  unfold judgeTool
  rw [haction]
  dsimp only
  rw [hproposed, hctx]
  dsimp only [bind, Except.bind]
  cases evaluateAction ctx proposed <;> rfl

/-- The preparations of an execution do not change the context of the case. -/
theorem Prepared.policyAgrees {c₂ : RecoveryCase} (h : Prepared s s')
    (hlife : c.LifecycleOnly c₂) : PolicyAgrees caseId s s' c c₂ := by
  have hactions : s'.actions = s.actions := by rw [h.store]
  refine ⟨by rw [h.store], by rw [h.store], by rw [h.store], by rw [h.store], ?_, ?_,
    hlife.merchantId, hlife.customerId, hlife.paymentId, hlife.amountAtRisk, ?_⟩
  · unfold Store.retryCount
    rw [hactions]
  · intro m t
    unfold Store.discountSpentToday
    rw [hactions]
  · rw [hlife.lastMismatchReason]

/-! ## The selected action -/

/-- The verdict allows the action, and asks for an approval, as the ranking was told. -/
def AgreesWith (x : Except Failure ToolVerdict) (w : CandidateAction) : Prop :=
  ∃ verdict, x = .ok verdict ∧ verdict.evaluation.allowed = w.allowed ∧
    verdict.evaluation.requiresApproval = w.requiresApproval

/-- A discount has the percentage that was priced, and the verdict is that of the ranking. -/
structure JudgedAsPriced (rt : Runtime) (svc : ToolExecutionService) (now : Time) (s : Store)
    (request : ToolRequest) (w : CandidateAction) : Prop where
  percent : w.action = .offerDiscount →
    rt.py.decimal ((textField request.input "discount_percent").getD "") = w.discountPercent
  verdict : AgreesWith (judgeTool rt svc now s request) w

/-- A request for the tool of a selected candidate, judged in a later context than the one of the
ranking. -/
structure RequestFor (rt : Runtime) (svc : ToolExecutionService) (now : Time) (s : Store)
    (ctx ctx' : PolicyContext) (payload : Payload) (action : RecoveryActionType)
    (request : ToolRequest) : Prop where
  tool : request.tool = toolByAction action
  input : validateInput rt (toolByAction action) payload = .ok request.input
  context : buildPolicyContext { settings := svc.settings, py := rt.py } s request.args.caseId
    request.case now = .ok { ctx' with case := request.case }
  amountAtRisk : request.case.amountAtRisk = ctx'.case.amountAtRisk
  alike : AlikeContexts ctx ctx'
  retries : ctx'.retryCount = ctx.retryCount

namespace RequestFor

variable {now : Time} {payload : Payload} {action : RecoveryActionType}

theorem judge (h : RequestFor rt svc now s ctx ctx' payload action request)
    {proposed : ProposedAction}
    (hproposed : proposedFromPayload rt action request.input = .ok proposed) :
    judgeTool rt svc now s request = (evaluateAction ctx' proposed).map fun evaluation =>
      { ctx := { ctx' with case := request.case }, evaluation } := by
  have haction : actionForTool request.tool = some action := by
    rw [h.tool, actionForTool_toolByAction]
  rw [judgeTool_eq haction h.context hproposed, evaluateAction_case _ _ _ h.amountAtRisk]

/-- The verdict on a proposal agrees with the ranking exactly where the policy engine allows it
and asks for an approval as it did. -/
theorem agrees_iff (h : RequestFor rt svc now s ctx ctx' payload action request)
    {proposed : ProposedAction}
    (hproposed : proposedFromPayload rt action request.input = .ok proposed)
    {evaluation : PolicyEvaluationResult} (hallowed : w.allowed = true)
    (happroves : evaluation.requiresApproval = w.requiresApproval) :
    AgreesWith (judgeTool rt svc now s request) w ↔
      ∃ later, evaluateAction ctx' proposed = .ok later ∧ later.allowed = true ∧
        later.requiresApproval = evaluation.requiresApproval := by
  rw [h.judge hproposed, happroves]
  constructor
  · rintro ⟨verdict, hverdict, hpermitted, hrequires⟩
    cases hlater : evaluateAction ctx' proposed with
    | error f =>
      rw [hlater] at hverdict
      cases hverdict
    | ok later =>
      rw [hlater] at hverdict
      obtain rfl := Except.ok.inj hverdict
      exact ⟨later, rfl, hpermitted.trans hallowed, hrequires⟩
  · rintro ⟨later, hlater, hpermitted, hrequires⟩
    rw [hlater]
    exact ⟨_, rfl, hpermitted.trans hallowed.symm, hrequires⟩

/-- An action without a discount is judged as it was ranked, but for a reminder in the quiet
hours. -/
theorem agrees_other_iff (h : RequestFor rt svc now s ctx ctx' payload w.action request)
    (hselected : SelectedAs opt ctx w) (hother : w.action ≠ .offerDiscount) :
    AgreesWith (judgeTool rt svc now s request) w ↔
      (w.action = .sendReminder → inQuietHours ctx' = false) := by
  have hnothing : w.discountPercent = none ∧ w.discountCost = 0 := by
    have hconcession := hselected.concession
    unfold RecoveryOptimizer.concession at hconcession
    split at hconcession
    · rename_i hoffer
      exact absurd hoffer hother
    · have hpair := Prod.mk.inj (Except.ok.inj hconcession)
      exact ⟨hpair.1.symm, hpair.2.symm⟩
  obtain ⟨evaluation, hevaluation, hpermitted, happroves⟩ := hselected.judged
  rw [hnothing.1, hnothing.2] at hevaluation
  rw [h.agrees_iff (proposedFromPayload_other hother h.input) hselected.allowed happroves]
  exact evaluateAction_later_iff h.alike h.retries hother hevaluation hpermitted

/-- A discount of the priced percentage is judged as it was ranked where its exact amount is
within the budget. -/
theorem agrees_discount_iff (h : RequestFor rt svc now s ctx ctx' payload .offerDiscount request)
    (hselected : SelectedAs opt ctx w) (hoffer : w.action = .offerDiscount)
    (hpercent : w.discountPercent = some percent)
    (hproposed : proposedFromPayload rt .offerDiscount request.input =
      .ok (discountProposal percent)) :
    AgreesWith (judgeTool rt svc now s request) w ↔ ExactWithinBudget ctx' percent := by
  obtain ⟨evaluation, hevaluation, hpermitted, happroves⟩ := hselected.judged
  rw [hoffer, hpercent] at hevaluation
  rw [h.agrees_iff hproposed hselected.allowed happroves]
  exact evaluateAction_exact h.alike h.retries hevaluation hpermitted

end RequestFor

theorem proposedFromPayload_offer (hstr : ∀ text, rt.py.str (.str text) = text) {text : String}
    {percent : Decimal} (htext : rt.py.decimal text = some percent) :
    proposedFromPayload rt .offerDiscount [("discount_percent", .str text)] =
      .ok (discountProposal percent) := by
  rw [proposedFromPayload_text, hstr, htext]
  rfl

/-- What the ranking says of the candidate that it selected. -/
theorem optimizeCase_selectedAs {candidates : Option (List String)}
    (hrun : (optimizeCase (settings.optimizer recovery percentText resolve) rt.py caller caseId
      candidates).run s = (.ok r, s'))
    (hw : r.selected = some w) (hrow : s.cases.get? caseId = some c) :
    ∃ ctx, buildPolicyContext { settings := recovery, py := rt.py } s caseId c caller.now =
        .ok ctx ∧
      SelectedAs (settings.optimizer recovery percentText resolve) ctx w ∧
      (w.action = .offerDiscount → w.discountPercent = some settings.defaultDiscountPercent ∧
        selectedPercent (settings.optimizer recovery percentText resolve) r =
          if settings.defaultDiscountPercent = .finite 0 then "5" else percentText) := by
  obtain ⟨c₁, ctx, actions, s₁, hrow₁, hctx, -, hscored, hselect⟩ := optimizeCase_ok hrun
  obtain rfl := Option.some.inj (hrow₁.symm.trans hrow)
  rw [hw] at hselect
  have hpriced := returns_priced_scoreCandidates _ caller caseId ctx actions s _ s₁ hscored
  obtain ⟨candidate, hmem, hallowed, rfl⟩ := rankCandidates_mem hselect
  refine ⟨ctx, hctx, (hpriced candidate hmem).selectedAs hallowed, fun hoffer => ?_⟩
  exact ⟨(hpriced candidate hmem).discountPercent hoffer,
    selectedPercent_eq hpriced ⟨candidate, hmem, hoffer⟩⟩

/-- The request of the orchestrator meets the context of the ranking, at a later time. -/
theorem requestFor_selected {payload : Payload} {action : RecoveryActionType} {args : ExecuteArgs}
    {ranked now : Time} (hlater : ranked ≤ now)
    (hctx : buildPolicyContext { settings := svc.settings, py := rt.py } s caseId c ranked =
      .ok ctx)
    (hprepared : Prepared s s'') (hrow : s.cases.get? caseId = some c)
    (hcase : args.caseId = caseId) (htool : args.toolName = some (toolByAction action).text)
    (haction : args.action = some action.text) (hpayload : args.payload = payload)
    (hadmits : admitRequest rt s'' args = .ok request) :
    ∃ ctx', buildPolicyContext { settings := svc.settings, py := rt.py } s caseId c now =
        .ok ctx' ∧
      RequestFor rt svc now s'' ctx ctx' payload action request := by
  have hadmitted := admitted_of_ok hadmits
  have hresolved := hadmitted.resolved
  have hvalidated := hadmitted.validated
  have hfound := hadmitted.row
  rw [htool, haction, resolveTool_text] at hresolved
  rw [hpayload, ← Except.ok.inj hresolved] at hvalidated
  rw [hcase] at hfound
  obtain ⟨c₂, hrow₂, hlife⟩ := hprepared.cases caseId c hrow
  have hsame : request.case = c₂ := Option.some.inj (hfound.symm.trans hrow₂)
  obtain ⟨ctx', hctx', halike⟩ := buildPolicyContext_later hlater rfl rfl rfl (.refl c) hctx
  refine ⟨ctx', hctx', (Except.ok.inj hresolved).symm, hvalidated, ?_, ?_, halike, ?_⟩
  · rw [hadmitted.args_eq, hcase, hsame]
    refine (buildPolicyContext_agrees (hprepared.policyAgrees hlife)).trans ?_
    rw [hctx']
    rfl
  · rw [hsame, hlife.amountAtRisk, buildPolicyContext_case hctx']
  · obtain ⟨merchant, hof⟩ := contextOf_of_build hctx
    obtain ⟨merchant', hof'⟩ := contextOf_of_build hctx'
    rw [hof.retryCount, hof'.retryCount]

/-- The call that the orchestrator makes for the selected candidate is judged as the candidate
was priced, exactly when it is no reminder in the quiet hours and no discount, or a discount of a
percentage that is not zero and whose exact amount is within the budget. The payload and the
verdict read the clock again. -/
theorem judgedAsPriced_iff {candidates : Option (List String)} {called now : Time}
    (hrun : (optimizeCase (settings.optimizer recovery percentText resolve) rt.py caller caseId
      candidates).run s = (.ok r, s'))
    (hw : r.selected = some w) (hprepared : Prepared s' s'')
    (hrow : s.cases.get? caseId = some c) (hlater : caller.now ≤ now)
    (hadmits : admitRequest rt s'' (selectedExecution rt.py
      (settings.optimizer recovery percentText resolve) r caseId c runId called w.action) =
        .ok request)
    (hsettings : svc.settings = recovery) (hstr : ∀ text, rt.py.str (.str text) = text)
    (htext : rt.py.decimal percentText = some settings.defaultDiscountPercent)
    (hfive : rt.py.decimal "5" = some (.finite 5)) :
    JudgedAsPriced rt svc now s'' request w ↔
      ∀ ctx, buildPolicyContext { settings := recovery, py := rt.py } s caseId c now = .ok ctx →
        (w.action = .sendReminder → inQuietHours ctx = false) ∧
        (w.action = .offerDiscount → settings.defaultDiscountPercent ≠ .finite 0 ∧
          ExactWithinBudget ctx settings.defaultDiscountPercent) := by
  obtain ⟨ctx, hctx, hselected, htold⟩ := optimizeCase_selectedAs hrun hw hrow
  have hoptimized := Prepared.of_run (Prepared.keeps_optimizeCase _ _ _ _ _) hrun
  rw [← hsettings] at hctx
  obtain ⟨ctx', hctx', hrequest⟩ := requestFor_selected hlater hctx (hoptimized.trans hprepared)
    hrow rfl rfl rfl rfl hadmits
  rw [hsettings] at hctx'
  -- the context at the time of the execution is the only one
  have hforall : ∀ P : PolicyContext → Prop,
      (∀ ctx, buildPolicyContext { settings := recovery, py := rt.py } s caseId c now =
        .ok ctx → P ctx) ↔ P ctx' := fun P => by
    rw [hctx']
    exact ⟨fun h => h ctx' rfl, fun h ctx heq => Except.ok.inj heq ▸ h⟩
  rw [hforall]
  by_cases hoffer : w.action = .offerDiscount
  · obtain ⟨hpercent, hpassed⟩ := htold hoffer
    have hreminder : w.action ≠ .sendReminder := by
      rw [hoffer]
      decide
    rw [hoffer] at hrequest
    have hinput : request.input = [("discount_percent", .str (selectedPercent
        (settings.optimizer recovery percentText resolve) r))] :=
      (Except.ok.inj hrequest.input).symm
    rw [hpassed] at hinput
    by_cases hzero : settings.defaultDiscountPercent = .finite 0
    · -- the tool is told five percent
      rw [if_pos hzero] at hinput
      refine iff_of_false (fun hjudged => ?_) fun h => (h.2 hoffer).1 hzero
      have hread := hjudged.percent hoffer
      rw [hinput, hpercent, hzero] at hread
      have hsame : some (Decimal.finite 5) = some (.finite 0) := hfive.symm.trans hread
      simp at hsame
    · rw [if_neg hzero] at hinput
      have hproposed : proposedFromPayload rt .offerDiscount request.input =
          .ok (discountProposal settings.defaultDiscountPercent) := by
        rw [hinput]
        exact proposedFromPayload_offer hstr htext
      have hiff := hrequest.agrees_discount_iff hselected hoffer hpercent hproposed
      constructor
      · exact fun hjudged => ⟨fun h => absurd h hreminder, fun _ =>
          ⟨hzero, hiff.mp hjudged.verdict⟩⟩
      · intro hexact
        refine ⟨fun _ => ?_, hiff.mpr (hexact.2 hoffer).2⟩
        rw [hinput, hpercent]
        exact htext
  · have hiff := hrequest.agrees_other_iff hselected hoffer
    exact ⟨fun hjudged => ⟨hiff.mp hjudged.verdict, fun h => absurd h hoffer⟩,
      fun hquiet => ⟨fun h => absurd h hoffer, hiff.mpr hquiet.1⟩⟩

/-! ### Nothing and half a percent of a paisa -/

/-- A runtime that reads two percentages. -/
def offerRuntime : Runtime :=
  { sampleRuntime with
    py :=
      { wholeNumberText with
        decimal := fun text =>
          if text = "5" then some (.finite 5)
          else if text = "0" then some (.finite 0)
          else none } }

/-- A case of ₹100.06 at the policy check. -/
def offerStore : Store where
  merchants := ⟨[{}]⟩
  customers := ⟨[{ merchantId := 0 }]⟩
  payments := ⟨[{ merchantId := 0, customerId := 0, amount := 10006, status := .failed }]⟩
  cases := ⟨[sampleCase 0 10006 .policyCheck]⟩

/-- The settings with a daily budget for discounts. -/
def budgetSettings (budget : ℚ) : RecoverySettings := { maxDailyDiscountBudget := .finite budget }

/-- The tool service on these settings. -/
def budgetService (budget : ℚ) : ToolExecutionService :=
  { sampleService with settings := budgetSettings budget }

/-- The optimizer that offers a percentage by default. -/
def offerOptimizer (percent : ℚ) (text : String) (budget : ℚ) : RecoveryOptimizer :=
  ({ defaultDiscountPercent := .finite percent } : OptimizerSettings).optimizer
    (budgetSettings budget) text evenResolve

/-- The decision about the case, with the discount as its only candidate. -/
def offerDecision (percent : ℚ) (text : String) (budget : ℚ) :
    Except Failure OptimizationResult × Store :=
  (optimizeCase (offerOptimizer percent text budget) offerRuntime.py (agentCaller 0) 0
    (some ["OFFER_DISCOUNT"])).run offerStore

/-- The decision, the candidate that was selected and the request of its tool. -/
def offerRequest (percent : ℚ) (text : String) (budget : ℚ) :
    Option (OptimizationResult × CandidateAction × ToolRequest) := do
  let r ← (offerDecision percent text budget).1.toOption
  let w ← r.selected
  let request ← (admitRequest offerRuntime (offerDecision percent text budget).2
    (selectedExecution offerRuntime.py (offerOptimizer percent text budget) r 0
      (sampleCase 0 10006 .policyCheck) 0 0 w.action)).toOption
  return (r, w, request)

theorem offerRequest_eq_some {percent budget : ℚ} {text : String}
    (h : offerRequest percent text budget = some (r, w, request)) :
    (offerDecision percent text budget).1 = .ok r ∧ r.selected = some w ∧
      admitRequest offerRuntime (offerDecision percent text budget).2
        (selectedExecution offerRuntime.py (offerOptimizer percent text budget) r 0
          (sampleCase 0 10006 .policyCheck) 0 0 w.action) = .ok request := by
  obtain ⟨r', hr, h⟩ := Option.bind_eq_some_iff.mp h
  obtain ⟨w', hw, h⟩ := Option.bind_eq_some_iff.mp h
  obtain ⟨request', hadmits, h⟩ := Option.bind_eq_some_iff.mp h
  obtain ⟨rfl, hpair⟩ := Prod.mk.inj (Option.some.inj h)
  obtain ⟨rfl, rfl⟩ := Prod.mk.inj hpair
  exact ⟨Lib.toOption_eq_some.mp hr, hw, Lib.toOption_eq_some.mp hadmits⟩

/-- The request is judged as its candidate was priced. -/
def OfferKept (percent : ℚ) (text : String) (budget : ℚ) (w : CandidateAction)
    (request : ToolRequest) : Prop :=
  JudgedAsPriced offerRuntime (budgetService budget) 0 (offerDecision percent text budget).2
    request w

/-- A priced percentage of zero becomes five percent; five percent of ₹100.06 are priced as
₹5.00, within the budget of ₹5, and then denied. -/
theorem offers_not_judgedAsPriced :
    (∃ r w request, offerRequest 0 "0" 5000 = some (r, w, request) ∧
      w.discountPercent = some (.finite 0) ∧
      offerRuntime.py.decimal ((textField request.input "discount_percent").getD "") =
        some (.finite 5) ∧ ¬ OfferKept 0 "0" 5000 w request) ∧
    ∃ r w request, offerRequest 5 "5" 5 = some (r, w, request) ∧
      w.discountPercent = some (.finite 5) ∧ w.allowed = true ∧
      (judgeTool offerRuntime (budgetService 5) 0 (offerDecision 5 "5" 5).2 request).toOption.map
        (·.evaluation.allowed) = some false ∧ ¬ OfferKept 5 "5" 5 w request := by
  constructor
  · have hfacts : (offerRequest 0 "0" 5000).map (fun offered => (offered.2.1.action,
        offered.2.1.discountPercent, offerRuntime.py.decimal
          ((textField offered.2.2.input "discount_percent").getD ""))) =
        some (.offerDiscount, some (.finite 0), some (.finite 5)) := by decide +kernel
    obtain ⟨⟨r, w, request⟩, hoffered, hfields⟩ := Option.map_eq_some_iff.mp hfacts
    obtain ⟨haction, hrest⟩ := Prod.mk.inj hfields
    obtain ⟨hpercent, hread⟩ := Prod.mk.inj hrest
    refine ⟨r, w, request, hoffered, hpercent, hread, fun hkept => ?_⟩
    have hsame := hread.symm.trans ((hkept.percent haction).trans hpercent)
    revert hsame
    decide
  · have hfacts : (offerRequest 5 "5" 5).map (fun offered => (offered.2.1.discountPercent,
        offered.2.1.allowed, (judgeTool offerRuntime (budgetService 5) 0
          (offerDecision 5 "5" 5).2 offered.2.2).toOption.map (·.evaluation.allowed))) =
        some (some (.finite 5), true, some false) := by decide +kernel
    obtain ⟨⟨r, w, request⟩, hoffered, hfields⟩ := Option.map_eq_some_iff.mp hfacts
    obtain ⟨hpercent, hrest⟩ := Prod.mk.inj hfields
    obtain ⟨hallowed, hjudged⟩ := Prod.mk.inj hrest
    refine ⟨r, w, request, hoffered, hpercent, hallowed, hjudged, fun hkept => ?_⟩
    obtain ⟨verdict, hverdict, hsame, -⟩ := hkept.verdict
    obtain ⟨verdict', hverdict', hdenied⟩ := Option.map_eq_some_iff.mp hjudged
    obtain rfl := Except.ok.inj (hverdict.symm.trans (Lib.toOption_eq_some.mp hverdict'))
    have hboth := hdenied.symm.trans (hsame.trans hallowed)
    cases hboth

/-- An hour later five percent of ₹100.06 are within a budget of ₹5000. -/
theorem exactWithinBudget_hour {ctx : PolicyContext}
    (hctx : buildPolicyContext { settings := budgetSettings 5000, py := offerRuntime.py }
      offerStore 0 (sampleCase 0 10006 .policyCheck) hour = .ok ctx) :
    ExactWithinBudget ctx (.finite 5) := by
  have hfacts : (buildPolicyContext { settings := budgetSettings 5000, py := offerRuntime.py }
      offerStore 0 (sampleCase 0 10006 .policyCheck) hour).toOption.map (fun ctx =>
        (offeredAmount ctx (discountProposal (.finite 5)) (.finite 5),
          ctx.discountSpentToday, ctx.settings.maxDailyDiscountBudget)) =
      some (some (.finite (5003 / 1000)), 0, .finite 5000) := by decide +kernel
  rw [hctx] at hfacts
  obtain ⟨hamount, hrest⟩ := Prod.mk.inj (Option.some.inj hfacts)
  obtain ⟨hspent, hbudget⟩ := Prod.mk.inj hrest
  refine ⟨.finite (5003 / 1000), .finite (5003 / 1000), hamount, ?_, ?_⟩
  · rw [hspent]
    decide +kernel
  · rw [hbudget]
    decide +kernel

/-- Five percent are judged an hour later as they were priced where the budget is ₹5000. -/
theorem judgedAsPriced_offer :
    ∃ r w request, offerRequest 5 "5" 5000 = some (r, w, request) ∧ w.action = .offerDiscount ∧
      JudgedAsPriced offerRuntime (budgetService 5000) hour (offerDecision 5 "5" 5000).2
        request w := by
  have hfacts : (offerRequest 5 "5" 5000).map (·.2.1.action) = some .offerDiscount := by
    decide +kernel
  obtain ⟨⟨r, w, request⟩, hoffered, haction⟩ := Option.map_eq_some_iff.mp hfacts
  have haction : w.action = .offerDiscount := haction
  obtain ⟨hdecided, hselected, hadmits⟩ := offerRequest_eq_some hoffered
  refine ⟨r, w, request, hoffered, haction, ?_⟩
  refine (judgedAsPriced_iff (Session.run_of_result hdecided) hselected (.refl _) rfl (by decide)
    hadmits rfl (fun _ => rfl) (by decide +kernel) (by decide +kernel)).mpr fun ctx hctx => ?_
  refine ⟨fun hreminder => ?_, fun _ => ⟨by decide, exactWithinBudget_hour hctx⟩⟩
  rw [haction] at hreminder
  cases hreminder

end ReviveX
