import ReviveX.Agents.LlmAgents
import ReviveX.Lib.Agree

/-!
# What the decision does not depend on

Two runs of the stages that are given the same candidates come to the same decision, from
stores that differ in the records of the agent runs: nothing before the execution reads
these records, nor what the other stages answered.
-/

namespace ReviveX

open Lib (Decimal Session Table)
open Lib.Session (Agree Answers)

variable {E : Prop} {caller : Caller} {caseId : ℕ}

/-- The stores differ at most in the records of the agent runs. -/
def SameButRuns (s t : Store) : Prop := t = { s with agentRuns := t.agentRuns }

theorem SameButRuns.refl (s : Store) : SameButRuns s s := rfl

/-- The probability of an action is no matter of the agent runs. -/
def IgnoresRuns (resolve : Store → ℕ → RecoveryActionType → Except Failure (Option ℚ)) : Prop :=
  ∀ s t caseId action, SameButRuns s t → resolve t caseId action = resolve s caseId action

/-- A write that does not look at the records of the agent runs. -/
theorem agree_modify {f : Store → Store}
    (h : ∀ s runs, f { s with agentRuns := runs } =
      { f s with agentRuns := (f { s with agentRuns := runs }).agentRuns }) :
    Agree SameButRuns (fun _ _ => True) E (Session.modify f : Service Unit)
      (Session.modify f) := by
  refine .modify fun s t hsame => ?_
  rw [hsame]
  exact h s t.agentRuns

theorem agree_recordAudit (e : AuditEvent) :
    Agree SameButRuns (fun _ _ => True) E (Service.recordAudit e) (Service.recordAudit e) :=
  agree_modify fun _ _ => rfl

theorem agree_readCase (i : ℕ) : Agree SameButRuns Eq E (readCase i) (readCase i) := by
  refine .get_bind fun s t hsame => ?_
  have hcases : t.cases = s.cases := by rw [hsame]
  rw [hcases]
  cases s.cases.get? i with
  | none => exact .raise _ _
  | some c => exact .pure rfl

theorem agree_transitionCase (caller : Caller) (caseId : ℕ) (target : RecoveryCaseStatus) :
    Agree SameButRuns (fun _ _ => True) E (transitionCase caller caseId target)
      (transitionCase caller caseId target) := by
  refine (agree_readCase caseId).bind fun c c' hc => ?_
  obtain rfl := hc
  exact .ite ((agree_modify fun _ _ => rfl).bind fun _ _ _ => agree_recordAudit _)
    ((agree_recordAudit _).bind fun _ _ _ => .raise _ _)

theorem agree_advance (caller : Caller) (caseId : ℕ) (target : RecoveryCaseStatus) :
    Agree SameButRuns (fun _ _ => True) E (advance caller caseId target)
      (advance caller caseId target) := by
  refine (agree_readCase caseId).bind fun c c' hc => ?_
  obtain rfl := hc
  exact .ite (.pure trivial) (.ite (.pure trivial) (agree_transitionCase caller caseId target))

/-! ## The optimizer -/

theorem agree_evaluateAndPersist (caller : Caller) (caseId : ℕ) (ctx : PolicyContext)
    (proposed : ProposedAction) :
    Agree SameButRuns Eq E (evaluateAndPersist caller caseId ctx proposed)
      (evaluateAndPersist caller caseId ctx proposed) := by
  have hpersist : ∀ result, Agree SameButRuns (fun _ _ => True) E
      (persistPolicyEvaluation caller caseId ctx proposed result)
      (persistPolicyEvaluation caller caseId ctx proposed result) := fun result =>
    (agree_modify fun _ _ => rfl).bind fun _ _ _ => agree_recordAudit _
  refine Agree.bind (V := Eq) (.ofExcept (.refl (fun _ => rfl) _)) fun result result' heq => ?_
  obtain rfl := heq
  exact (hpersist result).bind fun _ _ _ => .pure rfl

variable {opt : RecoveryOptimizer}

theorem agree_scoreCandidate (hopt : IgnoresRuns opt.resolveProbability) (caller : Caller)
    (caseId : ℕ)
    (ctx : PolicyContext) (action : RecoveryActionType) :
    Agree SameButRuns Eq E (scoreCandidate opt caller caseId ctx action)
      (scoreCandidate opt caller caseId ctx action) := by
  refine .get_bind fun s t hsame => ?_
  rw [hopt s t caseId action hsame]
  refine Agree.bind (V := Eq) (.ofExcept (.refl (fun _ => rfl) _)) fun probability _ heq => ?_
  obtain rfl := heq
  refine Agree.bind (V := Eq) (.ofExcept (.refl (fun _ => rfl) _)) fun concession _ heq => ?_
  obtain rfl := heq
  refine (agree_evaluateAndPersist _ caseId ctx _).bind fun evaluation _ heq => ?_
  obtain rfl := heq
  exact .pure rfl

theorem agree_scoreCandidates (hopt : IgnoresRuns opt.resolveProbability) (caller : Caller)
    (caseId : ℕ)
    (ctx : PolicyContext) (actions : List RecoveryActionType) :
    Agree SameButRuns Eq E (scoreCandidates opt caller caseId ctx actions)
      (scoreCandidates opt caller caseId ctx actions) := by
  -- after each candidate the two stores still agree on all but the agent runs
  induction actions with
  | nil => exact .pure rfl
  | cons action rest ih =>
    refine (agree_scoreCandidate hopt caller caseId ctx action).bind fun first _ heq => ?_
    obtain rfl := heq
    refine ih.bind fun others _ heq => ?_
    obtain rfl := heq
    exact .pure rfl

theorem agree_optimizeCase (hopt : IgnoresRuns opt.resolveProbability) (py : PyText)
    (caller : Caller)
    (caseId : ℕ) (candidates : Option (List String)) :
    Agree SameButRuns Eq E (optimizeCase opt py caller caseId candidates)
      (optimizeCase opt py caller caseId candidates) := by
  refine .get_bind fun s t hsame => ?_
  have hcases : t.cases = s.cases := by rw [hsame]
  rw [hcases]
  cases s.cases.get? caseId with
  | none => exact .raise _ _
  | some c =>
    have hctx : buildPolicyContext { settings := opt.settings, py } t caseId c caller.now =
        buildPolicyContext { settings := opt.settings, py } s caseId c caller.now := by
      rw [hsame]
      rfl
    dsimp only
    rw [hctx]
    refine Agree.bind (V := Eq) (.ofExcept (.refl (fun _ => rfl) _)) fun ctx _ heq => ?_
    obtain rfl := heq
    refine Agree.bind (V := Eq) (.ofExcept (.refl (fun _ => rfl) _)) fun actions _ heq => ?_
    obtain rfl := heq
    refine (agree_scoreCandidates hopt caller caseId ctx actions).bind fun scored _ heq => ?_
    obtain rfl := heq
    refine Agree.bind (V := Eq) (.ofExcept (.refl (fun _ => rfl) _)) fun chosen _ heq => ?_
    obtain rfl := heq
    have hpersist : ∀ result, Agree SameButRuns (fun _ _ => True) E
        (persistOptimizationDecision caller caseId c result)
        (persistOptimizationDecision caller caseId c result) := fun result =>
      (agree_modify fun _ _ => rfl).bind fun _ _ _ => agree_recordAudit _
    exact (hpersist _).bind fun _ _ _ => .pure rfl

/-! ## The stages -/

theorem agree_startAgentRun (now : Time) (merchantId caseId : ℕ) (agent : AgentName) :
    Agree SameButRuns (fun _ _ => True) E (startAgentRun now merchantId caseId agent)
      (startAgentRun now merchantId caseId agent) := by
  refine Agree.bind (V := fun _ _ => True) (.modifyGet fun s t hsame => ⟨trivial, ?_⟩)
    fun _ _ _ => (agree_recordAudit _).bind fun _ _ _ => .pure trivial
  rw [hsame]
  rfl

theorem agree_completeAgentRun (now : Time) (merchantId caseId runId runId' : ℕ)
    (agent : AgentName) (source source' : String) :
    Agree SameButRuns (fun _ _ => True) E
      (completeAgentRun now merchantId caseId runId agent source)
      (completeAgentRun now merchantId caseId runId' agent source') := by
  refine Agree.bind (V := fun _ _ => True) (.modify fun s t hsame => ?_)
    fun _ _ _ => agree_recordAudit _
  rw [hsame]
  rfl

/-- What a stage answers decides only what it returns. -/
theorem agree_persistStage {α β : Type} {V : α → β → Prop} (now : Time)
    (merchantId caseId : ℕ) (agent : AgentName) {source : α → AgentSource}
    {source' : β → AgentSource} {stage : Except Failure α} {stage' : Except Failure β}
    (h : Answers V E stage stage') :
    Agree SameButRuns V E (persistStage now merchantId caseId agent source stage)
      (persistStage now merchantId caseId agent source' stage') := by
  refine (agree_startAgentRun now merchantId caseId agent).bind fun runId runId' _ => ?_
  refine (Agree.ofExcept h).bind fun output output' houtput => ?_
  exact (agree_completeAgentRun now merchantId caseId _ _ agent _ _).bind fun _ _ _ =>
    .pure houtput

theorem agree_addStep (settings : AgentSettings) (n : ℕ) (name : String) :
    Agree SameButRuns (fun _ _ => True) E (addStep settings n name)
      (addStep settings n name) :=
  .ite (.raise _ _) (.pure trivial)

/-- The answers of the stages on the same store: the candidates are the same, and where the
excuse is not given all of the stages return. -/
structure SameCandidates (E : Prop) (a a' : Agents) (context : Store) (caseId : ℕ) : Prop where
  buildContext : a'.buildContext context caseId = a.buildContext context caseId
  triage : Answers (fun _ _ => True) E (a.triage context caseId) (a'.triage context caseId)
  diagnosis : Answers (fun _ _ => True) E (a.diagnosis context caseId)
    (a'.diagnosis context caseId)
  strategy : Answers (fun r r' => r'.2 = r.2) E (a.strategy context caseId)
    (a'.strategy context caseId)
  explain : ∀ optimization,
    Answers (fun r r' => r.2 = optimization.selectedAction ∧
      r'.2 = optimization.selectedAction) E
      (a.explain context caseId optimization 0) (a'.explain context caseId optimization 0)

/-- The same candidates lead to the same decision. -/
theorem decideStages_outcomes (rt : Runtime) (settings : AgentSettings)
    (tools : ToolExecutionService) {a a' : Agents} (elapsed : Time)
    (hopt : IgnoresRuns opt.resolveProbability) (caller : Caller) (caseId : ℕ)
    (c : RecoveryCase) {s : Store}
    (h : SameCandidates E a a' s caseId) :
    Session.Outcomes SameButRuns (fun d d' => d'.1 = d.1) E
      ((decideStages rt ⟨settings, a, opt, tools, elapsed⟩ caller caseId c).run s)
      ((decideStages rt ⟨settings, a', opt, tools, elapsed⟩ caller caseId c).run s) := by
  unfold decideStages
  rw [Session.run_get_bind, Session.run_get_bind]
  dsimp only
  rw [h.buildContext]
  -- from here on the answers are fixed, and the stores drift apart
  refine Agree.bind (V := fun _ _ => True) (.ofExcept (.refl (fun _ => trivial) _))
    (fun _ _ _ => ?_) s s (.refl s)
  refine (agree_addStep settings 1 "triage").bind fun _ _ _ => ?_
  refine (agree_persistStage _ _ caseId .triage h.triage).bind fun triage triage' _ => ?_
  refine (agree_advance caller caseId .triaged).bind fun _ _ _ => ?_
  refine (agree_addStep settings 2 "diagnosis").bind fun _ _ _ => ?_
  refine (agree_persistStage _ _ caseId .diagnosis h.diagnosis).bind fun diagnosis _ _ => ?_
  refine (agree_advance caller caseId .investigating).bind fun _ _ _ => ?_
  refine (agree_advance caller caseId .diagnosed).bind fun _ _ _ => ?_
  refine (agree_addStep settings 3 "strategy").bind fun _ _ _ => ?_
  refine (agree_persistStage _ _ caseId .strategy h.strategy).bind fun strategy strategy' hr => ?_
  obtain ⟨source, candidates⟩ := strategy
  obtain ⟨source', candidates'⟩ := strategy'
  obtain rfl : candidates' = candidates := hr
  refine (agree_addStep settings 4 "optimize").bind fun _ _ _ => ?_
  refine (agree_optimizeCase hopt rt.py caller caseId _).bind fun optimization _ heq => ?_
  obtain rfl := heq
  refine (agree_advance caller caseId .scoring).bind fun _ _ _ => ?_
  refine (agree_advance caller caseId .strategySelected).bind fun _ _ _ => ?_
  refine (agree_advance caller caseId .policyCheck).bind fun _ _ _ => ?_
  refine (agree_addStep settings 5 "explain").bind fun _ _ _ => ?_
  refine (Agree.ofExcept (h.explain optimization)).bind fun first first' hfirst => ?_
  rw [if_pos hfirst.1, if_pos hfirst.2]
  refine Agree.bind (V := fun _ _ => True) (.ofExcept trivial) fun explainer explainer' _ => ?_
  refine Agree.bind (V := fun _ _ => True) ?_ fun _ _ _ => .pure rfl
  exact agree_persistStage _ _ caseId .decisionExplainer (V := fun _ _ => True) trivial

end ReviveX
