import ReviveX.Agents.IndifferenceTheorems
import ReviveX.Agents.SelectionTheorems
import ReviveX.System.FreezeTheorems
import ReviveX.Tools.ReplayTheorems

/-!
# What a language model can do

Whatever the client of the agents answers, `run_case` calls at most one handler, the one of
the action that the optimizer selected, and no recovered amount moves. A model has a say in
the candidates only.
-/

namespace ReviveX

open Lib (Json Session Table)
open Lib.Session (Answers)

variable {rt : Runtime} {orch : RecoveryAgentOrchestrator} {caller : Caller} {now : Time}
  {executes : Bool} {caseId : ℕ} {merchantId : Option ℕ} {c : RecoveryCase} {s s' s'' : Store}

/-! ## Before the execution -/

/-- Before it executes an action a run writes its records and the lifecycle of its case. -/
structure Prepared (s s' : Store) : Prop where
  store : s' = { s with
    cases := s'.cases
    policyEvaluations := s'.policyEvaluations
    decisions := s'.decisions
    agentRuns := s'.agentRuns
    auditEvents := s'.auditEvents }
  cases : CasesKept RecoveryCase.LifecycleOnly s s'

namespace Prepared

theorem of_cases (h : s' = { s with
    policyEvaluations := s'.policyEvaluations
    decisions := s'.decisions
    agentRuns := s'.agentRuns
    auditEvents := s'.auditEvents }) : Prepared s s' where
  store := by rw [h]
  cases := .of_eq .refl (by rw [h])

theorem refl (s : Store) : Prepared s s := .of_cases rfl

theorem trans (h : Prepared s s') (h' : Prepared s' s'') : Prepared s s'' where
  store := by rw [h'.store, h.store]
  cases := h.cases.trans (fun _ _ _ => .trans) h'.cases

theorem handlerCalls (h : Prepared s s') : s'.handlerCalls = s.handlerCalls := by
  rw [h.store]
  rfl

theorem of_run {α : Type} {m : Service α} {x : Except Failure α} (hm : Session.Keeps Prepared m)
    (h : m.run s = (x, s')) : Prepared s s' := by
  have hs := hm s
  rw [h] at hs
  exact hs

variable {α β : Type} {m : Service α} {f : α → Service β}

/-- The first half of a session that returned. -/
theorem through {b : β} (hm : Session.Keeps Prepared m) (h : (m >>= f).run s = (.ok b, s')) :
    ∃ a s₁, m.run s = (.ok a, s₁) ∧ Prepared s s₁ ∧ (f a).run s₁ = (.ok b, s') := by
  obtain ⟨a, s₁, hrun, hrest⟩ := Session.run_bind_eq_ok.mp h
  exact ⟨a, s₁, hrun, of_run hm hrun, hrest⟩

theorem bind (hm : Session.Keeps Prepared m) (hf : ∀ a, Session.Keeps Prepared (f a)) :
    Session.Keeps Prepared (m >>= f) := .bind (fun _ _ _ => .trans) hm hf

theorem keeps_pure (a : α) : Session.Keeps Prepared (pure a : Service α) := .pure .refl a

theorem keeps_raise (e : Failure) : Session.Keeps Prepared (Session.raise e : Service α) :=
  .raise .refl e

theorem keeps_ofExcept (x : Except Failure α) :
    Session.Keeps Prepared (Session.ofExcept x : Service α) := .ofExcept .refl x

theorem keeps_readCase (i : ℕ) : Session.Keeps Prepared (readCase i) :=
  .get_bind fun s => by cases s.cases.get? i <;> exact .of_state_eq .refl fun _ => rfl

theorem keeps_recordAudit (e : AuditEvent) : Session.Keeps Prepared (Service.recordAudit e) :=
  .modify fun _ => .of_cases rfl

theorem keeps_transitionCase (caller : Caller) (caseId : ℕ) (target : RecoveryCaseStatus) :
    Session.Keeps Prepared (transitionCase caller caseId target) := by
  have hframe : CaseFrame caseId fun s s' : Store =>
      s' = { s with cases := s'.cases, auditEvents := s'.auditEvents } := by
    refine ⟨fun _ => rfl, fun a b c hab hbc => ?_, fun _ _ => rfl, fun _ _ => rfl⟩
    rw [hbc, hab]
  have hrows : LifecycleFrame (CasesKept RecoveryCase.LifecycleOnly) :=
    .of_rows .refl (fun _ _ _ => .trans) fun c target now _ => .moveTo c target now
  intro s
  have hstore := hframe.keeps_transitionCase caller target s
  refine ⟨?_, hrows.transition caller caseId target s⟩
  rw [hstore]

/-! ### The pieces of a run -/

theorem keeps_optimizeCase (opt : RecoveryOptimizer) (py : PyText) (caller : Caller)
    (caseId : ℕ) (candidates : Option (List String)) :
    Session.Keeps Prepared (optimizeCase opt py caller caseId candidates) := by
  intro s
  have hrows := OptimizerRows.keeps_optimizeCase opt py caller caseId candidates s
  refine .of_cases ?_
  rw [hrows]

theorem keeps_startAgentRun (now : Time) (merchantId caseId : ℕ) (agent : AgentName) :
    Session.Keeps Prepared (startAgentRun now merchantId caseId agent) :=
  bind (.modifyGet fun _ => .of_cases rfl) fun _ => bind (keeps_recordAudit _) fun _ =>
    keeps_pure _

theorem keeps_completeAgentRun (now : Time) (merchantId caseId runId : ℕ) (agent : AgentName)
    (source : String) (status : AgentRunStatus) (errorMessage : Option String) :
    Session.Keeps Prepared
      (completeAgentRun now merchantId caseId runId agent source status errorMessage) :=
  bind (.modify fun _ => .of_cases rfl) fun _ => keeps_recordAudit _

theorem keeps_persistStage {α : Type} (now : Time) (merchantId caseId : ℕ) (agent : AgentName)
    (source : α → AgentSource) (stage : Except Failure α) :
    Session.Keeps Prepared (persistStage now merchantId caseId agent source stage) :=
  bind (keeps_startAgentRun now _ _ agent) fun _ => bind (keeps_ofExcept _) fun _ =>
    bind (keeps_completeAgentRun now _ _ _ agent _ _ _) fun _ => keeps_pure _

theorem keeps_addStep (settings : AgentSettings) (n : ℕ) (name : String) :
    Session.Keeps Prepared (addStep settings n name) :=
  .ite (keeps_raise _) (keeps_pure ())

theorem keeps_addTool (settings : AgentSettings) (toolName : String) :
    Session.Keeps Prepared (addTool settings toolName) :=
  .ite (keeps_raise _) (.ite (keeps_raise _) (keeps_pure ()))

theorem keeps_advance (caller : Caller) (caseId : ℕ) (target : RecoveryCaseStatus) :
    Session.Keeps Prepared (advance caller caseId target) :=
  bind (keeps_readCase _) fun _ =>
    .ite (keeps_pure ()) (.ite (keeps_pure ()) (keeps_transitionCase _ _ _))

theorem keeps_decideStages (rt : Runtime) (orch : RecoveryAgentOrchestrator) (caller : Caller)
    (caseId : ℕ) (c : RecoveryCase) :
    Session.Keeps Prepared (decideStages rt orch caller caseId c) :=
  .get_bind fun _ => bind (keeps_ofExcept _) fun _ =>
    bind (keeps_addStep _ _ _) fun _ => bind (keeps_persistStage _ _ _ _ _ _) fun _ =>
    bind (keeps_advance _ _ _) fun _ =>
    bind (keeps_addStep _ _ _) fun _ => bind (keeps_persistStage _ _ _ _ _ _) fun _ =>
    bind (keeps_advance _ _ _) fun _ => bind (keeps_advance _ _ _) fun _ =>
    bind (keeps_addStep _ _ _) fun _ => bind (keeps_persistStage _ _ _ _ _ _) fun _ =>
    bind (keeps_addStep _ _ _) fun _ => bind (keeps_optimizeCase _ _ _ _ _) fun _ =>
    bind (keeps_advance _ _ _) fun _ => bind (keeps_advance _ _ _) fun _ =>
    bind (keeps_advance _ _ _) fun _ =>
    bind (keeps_addStep _ _ _) fun _ => bind (keeps_ofExcept _) fun _ =>
    bind (keeps_ofExcept _) fun _ => bind (keeps_persistStage _ _ _ _ _ _) fun _ =>
    keeps_pure _

theorem keeps_recordAgentError (caller : Caller) (caseId : ℕ) (c : RecoveryCase) (runId : ℕ)
    (f : Failure) : Session.Keeps Prepared (recordAgentError caller caseId c runId f) := by
  have hfail : Session.Keeps Prepared (failClosed caller caseId) :=
    bind (keeps_readCase _) fun _ => .ite (keeps_transitionCase _ _ _) (keeps_pure ())
  cases f with
  | crash exception => exact keeps_pure ()
  | domain e =>
    exact .ite
      (bind (keeps_completeAgentRun _ _ _ _ _ _ _ _) fun _ =>
        .ite (bind (keeps_recordAudit _) fun _ => hfail) (keeps_pure ()))
      (keeps_pure ())

end Prepared

/-! ## The decision -/

/-- `run_case` up to its decision. -/
def decideCase (rt : Runtime) (orch : RecoveryAgentOrchestrator) (now : Time) (caseId : ℕ)
    (merchantId : Option ℕ) : Service OptimizationResult := do
  let c ← lockRecoveryCase caseId
  if merchantId.isSome ∧ merchantId ≠ some c.merchantId then
    Session.raise <| .domain
      { code := "MERCHANT_MISMATCH", message := "Case does not belong to this merchant" }
  else if isTerminal c.status then
    Session.raise (agentError "CASE_TERMINAL" "Terminal cases are not orchestrated")
  else
    let _ ← startAgentRun now c.merchantId caseId .orchestrator
    let (optimization, _) ← decideStages rt orch (agentCaller now) caseId c
    pure optimization

/-- The candidate that a run selects. -/
def selectedCandidate (rt : Runtime) (orch : RecoveryAgentOrchestrator) (now : Time)
    (caseId : ℕ) (merchantId : Option ℕ) (s : Store) : Option CandidateAction :=
  match ((decideCase rt orch now caseId merchantId).run s).1 with
  | .ok optimization => optimization.selected
  | .error _ => none

/-- The action that a run is to execute. -/
def executedAction (rt : Runtime) (orch : RecoveryAgentOrchestrator) (now : Time)
    (executes : Bool) (caseId : ℕ) (merchantId : Option ℕ) (s : Store) :
    Option RecoveryActionType :=
  if executes then (selectedCandidate rt orch now caseId merchantId s).map (·.action) else none

/-- A run of the orchestrator on the case was started: its record is written. -/
structure RunStarted (now : Time) (caseId : ℕ) (merchantId : Option ℕ) (s : Store)
    (c : RecoveryCase) (runId : ℕ) (s₀ : Store) : Prop where
  row : s.cases.get? caseId = some c
  prepared : Prepared s s₀
  runs : ∀ rt orch executes, (runCase rt orch now executes caseId merchantId).run s =
    ((runStages rt orch (agentCaller now) executes caseId c runId).onError
      (recordAgentError (agentCaller now) caseId c runId)).run s₀
  decides : ∀ rt orch, (decideCase rt orch now caseId merchantId).run s =
    (decideStages rt orch (agentCaller now) caseId c >>= fun d => pure d.1).run s₀

/-- A run is refused before it does anything, or it is started. -/
theorem runStarted_cases (now : Time) (caseId : ℕ) (merchantId : Option ℕ) (s : Store) :
    (∃ f, ∀ rt orch executes,
      (runCase rt orch now executes caseId merchantId).run s = (.error f, s) ∧
        (decideCase rt orch now caseId merchantId).run s = (.error f, s)) ∨
      ∃ c runId s₀, RunStarted now caseId merchantId s c runId s₀ := by
  cases hrow : s.cases.get? caseId with
  | none =>
    obtain ⟨f, hlock⟩ : ∃ f, (lockRecoveryCase caseId).run s = (.error f, s) := by
      unfold lockRecoveryCase
      rw [Session.run_get_bind, hrow]
      exact ⟨_, rfl⟩
    exact .inl ⟨f, fun rt orch executes =>
      ⟨Session.run_bind_error hlock _, Session.run_bind_error hlock _⟩⟩
  | some c =>
    have hlock := run_lockRecoveryCase hrow
    -- both entry points make the same checks in the same order
    by_cases hmerchant : merchantId.isSome ∧ merchantId ≠ some c.merchantId
    · let mismatch : DomainError :=
        { code := "MERCHANT_MISMATCH", message := "Case does not belong to this merchant" }
      refine .inl ⟨.domain mismatch, fun rt orch executes => ⟨?_, ?_⟩⟩
      · unfold runCase
        rw [Session.run_bind_ok hlock, if_pos hmerchant]
        rfl
      · unfold decideCase
        rw [Session.run_bind_ok hlock, if_pos hmerchant]
        rfl
    · by_cases hterminal : isTerminal c.status = true
      · refine .inl ⟨agentError "CASE_TERMINAL" "Terminal cases are not orchestrated",
          fun rt orch executes => ⟨?_, ?_⟩⟩
        · unfold runCase
          rw [Session.run_bind_ok hlock, if_neg hmerchant, if_pos hterminal]
          rfl
        · unfold decideCase
          rw [Session.run_bind_ok hlock, if_neg hmerchant, if_pos hterminal]
          rfl
      · have hstarts := Prepared.keeps_startAgentRun now c.merchantId caseId .orchestrator s
        refine .inr ⟨c, s.agentRuns.nextId, _, hrow, hstarts, fun rt orch executes => ?_,
          fun rt orch => ?_⟩
        · unfold runCase
          rw [Session.run_bind_ok hlock, if_neg hmerchant, if_neg hterminal]
          rfl
        · unfold decideCase
          rw [Session.run_bind_ok hlock, if_neg hmerchant, if_neg hterminal]
          rfl

/-! ## The execution -/

/-- At most one handler was called, the one of the action. -/
def CallsToolOf (action : Option RecoveryActionType) (caseId : ℕ) (s s' : Store) : Prop :=
  s'.handlerCalls = s.handlerCalls ∨ ∃ a call, action = some a ∧
    s'.handlerCalls = s.handlerCalls ++ [call] ∧ call.caseId = caseId ∧
      call.toolName = toolByAction a

theorem CallsToolOf.around {action : Option RecoveryActionType} {s₁ s₂ : Store}
    (h : CallsToolOf action caseId s₁ s₂) (hbefore : Prepared s s₁) (hafter : Prepared s₂ s') :
    CallsToolOf action caseId s s' := by
  unfold CallsToolOf at h ⊢
  rw [hafter.handlerCalls, ← hbefore.handlerCalls]
  exact h

theorem resolveTool_text (action : RecoveryActionType) :
    resolveTool (some (toolByAction action).text) (some action.text) =
      .ok (toolByAction action) := by
  cases action <;> rfl

/-- An execution that is not rolled back. -/
theorem executed_of_run {svc : ToolExecutionService} {args : ExecuteArgs}
    {x : Except Failure ToolExecutionResult} (h : (execute rt svc caller args).run s = (x, s'))
    (hcommits : ∀ f, x = .error f → f.commits = true) :
    Executed rt svc caller args s s' := by
  have hexecuted := execute_executed rt svc caller args s
  cases x with
  | ok r => rwa [committed_ok h] at hexecuted
  | error f => rwa [committed_error h, if_pos (hcommits f rfl)] at hexecuted

variable {runId : ℕ} {optimization : OptimizationResult} {action : RecoveryActionType}

theorem executeSelected_calls {x : Except Failure ToolExecutionResult}
    (h : (executeSelected rt orch caller caseId c runId optimization action).run s = (x, s'))
    (hcommits : ∀ f, x = .error f → f.commits = true) :
    CallsToolOf (some action) caseId s s' := by
  have hadd := Prepared.keeps_addTool orch.settings (toolByAction action).text
  rcases Session.run_bind_cases h with ⟨f, hraised, rfl⟩ | ⟨_, s₁, hadded, h⟩
  · exact .inl (Prepared.of_run hadd hraised).handlerCalls
  · have hprepared := Prepared.of_run hadd hadded
    rcases (executed_of_run h hcommits).calls with hsame | ⟨call, hcalls, hcase, htool⟩
    · exact .inl (hsame.trans hprepared.handlerCalls)
    · refine .inr ⟨action, call, rfl, ?_, hcase, ?_⟩
      · rw [hcalls, hprepared.handlerCalls]
      · exact (Except.ok.inj ((resolveTool_text action).symm.trans htool)).symm

theorem executeStage_calls {x : Except Failure (Option ToolExecutionResult)}
    (h : (executeStage rt orch caller executes caseId c runId optimization).run s = (x, s'))
    (hcommits : ∀ f, x = .error f → f.commits = true) :
    CallsToolOf (if executes then optimization.selectedAction else none) caseId s s' := by
  unfold executeStage at h
  cases hselected : optimization.selectedAction with
  | none =>
    rw [hselected] at h
    obtain ⟨-, rfl⟩ := Prod.mk.inj h
    exact .inl rfl
  | some action =>
    rw [hselected] at h
    dsimp only at h
    cases executes with
    | false =>
      obtain ⟨-, rfl⟩ := Prod.mk.inj h
      exact .inl rfl
    | true =>
      rw [if_pos rfl] at h ⊢
      have hadd := Prepared.keeps_addStep orch.settings 6 "execute"
      rcases Session.run_bind_cases h with ⟨f, hraised, rfl⟩ | ⟨_, s₁, hadded, h⟩
      · exact .inl (Prepared.of_run hadd hraised).handlerCalls
      · have hprepared := Prepared.of_run hadd hadded
        rcases Session.run_bind_cases h with ⟨f, hraised, rfl⟩ | ⟨r, s₂, hexecuted, h⟩
        · have hcalls := executeSelected_calls hraised fun f' hf' =>
            hcommits f' (by rw [Except.error.inj hf'])
          exact hcalls.around hprepared (.refl _)
        · obtain ⟨-, rfl⟩ := Prod.mk.inj h
          exact (executeSelected_calls hexecuted nofun).around hprepared (.refl _)

/-- The stages of a run that is not rolled back. -/
theorem runStages_calls {x : Except Failure OrchestrationResult}
    (h : (runStages rt orch caller executes caseId c runId).run s = (x, s'))
    (hcommits : ∀ f, x = .error f → f.commits = true) :
    Prepared s s' ∨ ∃ d s₁, (decideStages rt orch caller caseId c).run s = (.ok d, s₁) ∧
      CallsToolOf (if executes then d.1.selectedAction else none) caseId s s' := by
  have hdecide := Prepared.keeps_decideStages rt orch caller caseId c
  rcases Session.run_bind_cases h with ⟨f, hraised, rfl⟩ | ⟨d, s₁, hdecided, h⟩
  · exact .inl (Prepared.of_run hdecide hraised)
  · have hprepared := Prepared.of_run hdecide hdecided
    refine .inr ⟨d, s₁, hdecided, ?_⟩
    rcases Session.run_bind_cases h with ⟨f, hraised, rfl⟩ | ⟨r, s₂, hexecuted, h⟩
    · have hcalls := executeStage_calls hraised fun f' hf' =>
        hcommits f' (by rw [Except.error.inj hf'])
      exact hcalls.around hprepared (.refl _)
    · -- what is left writes records only
      have hrest : Prepared s₂ s' := by
        refine Prepared.of_run (Prepared.bind (Prepared.keeps_readCase _) fun after => ?_) h
        exact .ite (Prepared.keeps_raise _) <|
          Prepared.bind (Prepared.keeps_completeAgentRun _ _ _ _ _ _ _ _) fun _ =>
            Prepared.keeps_pure _
      exact (executeStage_calls hexecuted nofun).around hprepared hrest

/-- A run of the orchestrator calls at most the handler of the action it decided on. -/
theorem runCase_calls (rt : Runtime) (orch : RecoveryAgentOrchestrator) (now : Time)
    (executes : Bool) (caseId : ℕ) (merchantId : Option ℕ) (s : Store) :
    CallsToolOf (executedAction rt orch now executes caseId merchantId s) caseId s
      (committed (runCase rt orch now executes caseId merchantId) s) := by
  rcases hrun : (runCase rt orch now executes caseId merchantId).run s with ⟨x, s'⟩
  have hcommit : (∀ f, x = .error f → f.commits = true) ∨
      committed (runCase rt orch now executes caseId merchantId) s = s := by
    cases x with
    | ok r => exact .inl nofun
    | error f =>
      cases hf : f.commits with
      | true => exact .inl fun f' hf' => by rw [← Except.error.inj hf', hf]
      | false => exact .inr (by rw [committed_error hrun, hf]; rfl)
  rcases hcommit with hcommits | hback
  · have hstays : committed (runCase rt orch now executes caseId merchantId) s = s' := by
      cases x with
      | ok r => exact committed_ok hrun
      | error f => rw [committed_error hrun, if_pos (hcommits f rfl)]
    rw [hstays]
    rcases runStarted_cases now caseId merchantId s with ⟨f, hrefused⟩ | ⟨c, runId, s₀, hstarted⟩
    · rw [(hrefused rt orch executes).1] at hrun
      obtain ⟨-, rfl⟩ := Prod.mk.inj hrun
      exact .inl rfl
    · rw [hstarted.runs] at hrun
      have hstages : ∃ y s₁, (runStages rt orch (agentCaller now) executes caseId c runId).run s₀ =
          (y, s₁) ∧ (∀ f, y = .error f → f.commits = true) ∧ Prepared s₁ s' := by
        rcases Session.run_onError_cases hrun with
          ⟨r, hreturned, -⟩ | ⟨f, f', s₁, hraised, rfl, hrecorded, hsame⟩
        · exact ⟨_, s', hreturned, nofun, .refl s'⟩
        · refine ⟨_, s₁, hraised, fun f'' hf'' => ?_, ?_⟩
          · obtain rfl := Except.error.inj hf''
            cases f with
            | domain e => rfl
            | crash exception =>
              -- a crash is raised again as it is, and would be rolled back
              rw [hsame rfl] at hcommits
              exact hcommits _ rfl
          · rw [← hrecorded]
            exact Prepared.keeps_recordAgentError (agentCaller now) caseId c runId f s₁
      obtain ⟨y, s₁, hstages, hcommits₁, hafter⟩ := hstages
      rcases runStages_calls hstages hcommits₁ with hprepared | ⟨d, s₂, hdecided, hcalls⟩
      · exact .inl ((hstarted.prepared.trans hprepared).trans hafter).handlerCalls
      · have hdecision : executedAction rt orch now executes caseId merchantId s =
            if executes then d.1.selectedAction else none := by
          unfold executedAction selectedCandidate
          rw [hstarted.decides, Session.run_bind_ok hdecided]
          rfl
        rw [hdecision]
        exact hcalls.around hstarted.prepared hafter
  · rw [hback]
    exact .inl rfl

/-! ## The selection -/

/-- A stage returns what its agent answered. -/
theorem answer_of_stage {α : Type} {merchantId : ℕ} {agent : AgentName} {source : α → AgentSource}
    {stage : Except Failure α} {a : α}
    (h : (persistStage now merchantId caseId agent source stage).run s = (.ok a, s')) :
    stage = .ok a := by
  obtain ⟨runId, s₁, -, h⟩ := Session.run_bind_eq_ok.mp h
  rw [Session.run_ofExcept_bind] at h
  cases stage with
  | error f => cases (Prod.mk.inj h).1
  | ok b =>
    obtain ⟨_, s₂, -, h⟩ := Session.run_bind_eq_ok.mp h
    exact congrArg Except.ok (Except.ok.inj (Prod.mk.inj h).1)

/-- The decision is the optimizer's, on the candidates of the strategy. -/
theorem decideStages_ok {d : OptimizationResult × List String}
    (h : (decideStages rt orch caller caseId c).run s = (.ok d, s')) :
    ∃ source candidates s₁ s₂, orch.agents.strategy s caseId = .ok (source, candidates) ∧
      Prepared s s₁ ∧
      (optimizeCase orch.optimizer rt.py caller caseId (some candidates)).run s₁ =
        (.ok d.1, s₂) := by
  unfold decideStages at h
  rw [Session.run_get_bind] at h
  obtain ⟨_, s₁, -, h₁, h⟩ := Prepared.through (Prepared.keeps_ofExcept _) h
  obtain ⟨_, s₂, -, h₂, h⟩ := Prepared.through (Prepared.keeps_addStep _ _ _) h
  obtain ⟨triage, s₃, -, h₃, h⟩ := Prepared.through (Prepared.keeps_persistStage _ _ _ _ _ _) h
  obtain ⟨_, s₄, -, h₄, h⟩ := Prepared.through (Prepared.keeps_advance _ _ _) h
  obtain ⟨_, s₅, -, h₅, h⟩ := Prepared.through (Prepared.keeps_addStep _ _ _) h
  obtain ⟨diagnosis, s₆, -, h₆, h⟩ := Prepared.through (Prepared.keeps_persistStage _ _ _ _ _ _) h
  obtain ⟨_, s₇, -, h₇, h⟩ := Prepared.through (Prepared.keeps_advance _ _ _) h
  obtain ⟨_, s₈, -, h₈, h⟩ := Prepared.through (Prepared.keeps_advance _ _ _) h
  obtain ⟨_, s₉, -, h₉, h⟩ := Prepared.through (Prepared.keeps_addStep _ _ _) h
  obtain ⟨⟨source, candidates⟩, s₁₀, hstrategy, h₁₀, h⟩ :=
    Prepared.through (Prepared.keeps_persistStage _ _ _ _ _ _) h
  obtain ⟨_, s₁₁, -, h₁₁, h⟩ := Prepared.through (Prepared.keeps_addStep _ _ _) h
  obtain ⟨optimization, s₁₂, hoptimize, h⟩ := Session.run_bind_eq_ok.mp h
  have htriaged : Prepared s s₄ := ((h₁.trans h₂).trans h₃).trans h₄
  have hdiagnosed : Prepared s₄ s₈ := ((h₅.trans h₆).trans h₇).trans h₈
  have hproposed : Prepared s₈ s₁₁ := (h₉.trans h₁₀).trans h₁₁
  refine ⟨source, candidates, s₁₁, s₁₂, answer_of_stage hstrategy,
    (htriaged.trans hdiagnosed).trans hproposed, ?_⟩
  -- the rest of the stages returns this decision
  obtain ⟨_, _, -, h⟩ := Session.run_bind_eq_ok.mp h
  obtain ⟨_, _, -, h⟩ := Session.run_bind_eq_ok.mp h
  obtain ⟨_, _, -, h⟩ := Session.run_bind_eq_ok.mp h
  obtain ⟨_, _, -, h⟩ := Session.run_bind_eq_ok.mp h
  obtain ⟨first, _, -, h⟩ := Session.run_bind_eq_ok.mp h
  obtain ⟨explainer, _, -, h⟩ := Session.run_bind_eq_ok.mp h
  obtain ⟨_, _, -, h⟩ := Session.run_bind_eq_ok.mp h
  obtain rfl := Except.ok.inj (Prod.mk.inj h).1
  exact hoptimize

/-! ## Language models -/

/-- The store that the agents see is about the same payment failure. -/
theorem Prepared.contextFailure (h : Prepared s s') (hrow : s.cases.get? caseId = some c) :
    s'.contextFailure caseId = s.contextFailure caseId := by
  obtain ⟨c', hrow', hlifecycle⟩ := h.cases caseId c hrow
  have hpayments : s'.payments = s.payments := by rw [h.store]
  unfold Store.contextFailure Store.getPayment
  rw [hrow, hrow', hpayments]
  show (c'.paymentId.bind _) = (c.paymentId.bind _)
  rw [hlifecycle.paymentId, hlifecycle.merchantId]

namespace LlmSetup

variable {llm : LlmSetup} {client' : LlmClient} {buildContext : Store → ℕ → Except Failure Unit}

/-- The orchestrator whose agents ask the model. -/
def orchestrator (llm : LlmSetup) (buildContext : Store → ℕ → Except Failure Unit)
    (opt : RecoveryOptimizer) (tools : ToolExecutionService) : RecoveryAgentOrchestrator :=
  ⟨llm.settings, llm.agents buildContext, opt, tools, llm.elapsed⟩

/-- The candidates of a run, whether the model or a fallback names them. -/
def proposal (llm : LlmSetup) (failure : Option String) : Except Failure StrategyResult := do
  llm.strategy failure (← llm.diagnosis failure)

/-- No exception escapes from the requests. -/
def Quiet (llm : LlmSetup) : Prop :=
  ∀ agent n f, llm.client.complete agent n >>= parseJsonObject llm.reader ≠ .error (.escapes f)

/-- None of the answers to the strategy stage passes its validation. -/
def StrategyFallsBack (llm : LlmSetup) : Prop :=
  llm.ask .strategy 0 (attachSource "strategy-v1") validateStrategy = .ok none

theorem ask_quiet {α : Type} (h : llm.Quiet) (agent : AgentName) (n : ℕ)
    (merge : Payload → Payload) (validate : Payload → Option α) :
    ∃ result, llm.ask agent n merge validate = .ok result := by
  have hwalk : ∀ attempts n, ∃ result, tryLlmModel llm.reader (llm.client.complete agent) merge
      validate n attempts = .ok result := by
    intro attempts
    -- on the attempts that are left, whatever the number of the next request is
    induction attempts with
    | zero => exact fun n => ⟨none, rfl⟩
    | succ attempts ih =>
      intro n
      unfold tryLlmModel
      cases hanswer : llm.client.complete agent n >>= parseJsonObject llm.reader with
      | error e =>
        cases e with
        | caught => exact ih (n + 1)
        | escapes f => exact absurd hanswer (h agent n f)
      | ok payload =>
        dsimp only
        cases validate (merge payload) with
        | none => exact ih (n + 1)
        | some output => exact ⟨some output, rfl⟩
  exact hwalk _ n

/-- A stage does not see the answers to the others. -/
theorem ask_congr {α : Type} {agent : AgentName}
    (h : client'.complete agent = llm.client.complete agent) (n : ℕ)
    (merge : Payload → Payload) (validate : Payload → Option α) :
    { llm with client := client' }.ask agent n merge validate =
      llm.ask agent n merge validate := by
  unfold ask
  dsimp only
  rw [h]

/-- Where an escape is an excuse, two stages whose values do not matter agree. -/
theorem answers_of_quiet (llm llm' : LlmSetup) {α β : Type} {x : Except Failure α}
    {y : Except Failure β} (hx : llm.Quiet → ∃ a, x = .ok a) (hy : llm'.Quiet → ∃ b, y = .ok b) :
    Answers (fun _ _ => True) (¬ (llm.Quiet ∧ llm'.Quiet)) x y := by
  cases x with
  | ok a =>
    cases y with
    | ok b => exact trivial
    | error f => exact fun hquiet => absurd (hy hquiet.2) (by simp)
  | error e =>
    cases y with
    | ok b => exact fun hquiet => absurd (hx hquiet.1) (by simp)
    | error f => exact trivial

theorem triage_quiet (h : llm.Quiet) : ∃ source, llm.triage = .ok source := by
  obtain ⟨result, hresult⟩ := ask_quiet h .triage 0 (attachSource "triage-v1")
    (validateTriage llm.reader)
  unfold triage
  rw [hresult]
  exact ⟨_, rfl⟩

theorem diagnosis_quiet (h : llm.Quiet) (failure : Option String) :
    ∃ result, llm.diagnosis failure = .ok result := by
  unfold diagnosis
  dsimp only
  split
  · exact ⟨_, rfl⟩
  · obtain ⟨result, hresult⟩ := ask_quiet h .diagnosis 0 (attachSource "diagnosis-v1")
      (validateDiagnosis llm.reader)
    rw [hresult]
    exact ⟨_, rfl⟩

theorem explain_quiet (h : llm.Quiet) (optimization : OptimizationResult) (n : ℕ) :
    ∃ result, llm.explain optimization n = .ok result := by
  obtain ⟨result, hresult⟩ := ask_quiet h .decisionExplainer (n * llm.settings.llmAttempts)
    (mergeDecision optimization) validateExplanation
  unfold explain
  rw [hresult]
  exact ⟨_, rfl⟩

/-- Whatever it answers, an explanation is about the selected action. -/
theorem explain_selected {optimization : OptimizationResult} {n : ℕ}
    {r : AgentSource × Option RecoveryActionType} (h : llm.explain optimization n = .ok r) :
    r.2 = optimization.selectedAction := by
  obtain ⟨result, -, h⟩ := Lib.bind_eq_ok.mp h
  rw [← Except.ok.inj h]

/-- Where the model may have a say in the diagnosis: the payment failed for no known reason,
and the strategy starts from the diagnosis because no answer of the model passes. -/
def DiagnosisCounts (llm : LlmSetup) (failure : Option String) : Prop :=
  failureOrUnknown failure = "UNKNOWN" ∧ llm.StrategyFallsBack

/-- With the same answers to the strategy stage, and to the diagnosis where it counts, the
candidates are the same. -/
theorem proposal_answers (hstrategy : client'.complete .strategy = llm.client.complete .strategy)
    (failure : Option String) (hdiagnosis : llm.DiagnosisCounts failure →
      client'.complete .diagnosis = llm.client.complete .diagnosis) :
    Answers Eq (¬ (llm.Quiet ∧ { llm with client := client' }.Quiet)) (llm.proposal failure)
      ({ llm with client := client' }.proposal failure) := by
  have hsame := ask_congr hstrategy 0 (attachSource "strategy-v1") validateStrategy
  by_cases hequal : { llm with client := client' }.diagnosis failure = llm.diagnosis failure
  · have hproposals : { llm with client := client' }.proposal failure = llm.proposal failure := by
      unfold proposal strategy
      rw [hequal, hsame]
    rw [hproposals]
    exact .refl (fun _ => rfl) _
  · -- the diagnoses differ, so that the strategy must not depend on them
    have hunknown : failureOrUnknown failure = "UNKNOWN" := by
      by_contra hknown
      refine hequal ?_
      unfold diagnosis
      rw [if_pos hknown, if_pos hknown]
    have hmodel : ¬ llm.StrategyFallsBack := by
      intro hfalls
      refine hequal ?_
      unfold diagnosis
      rw [ask_congr (hdiagnosis ⟨hunknown, hfalls⟩)]
    unfold proposal strategy
    rw [hsame]
    cases hask : llm.ask .strategy 0 (attachSource "strategy-v1") validateStrategy with
    | error f =>
      cases llm.diagnosis failure <;> cases { llm with client := client' }.diagnosis failure <;>
        exact trivial
    | ok result =>
      cases result with
      | none => exact absurd hask hmodel
      | some r =>
        -- the strategy is the same, and each diagnosis is quiet or the clients are not
        have hboth := answers_of_quiet llm { llm with client := client' }
          (fun h => diagnosis_quiet h failure) (fun h => diagnosis_quiet h failure)
        cases hd : llm.diagnosis failure <;>
          cases hd' : { llm with client := client' }.diagnosis failure <;>
          rw [hd, hd'] at hboth
        · exact trivial
        · exact hboth
        · exact hboth
        · exact rfl

theorem agents_strategy (llm : LlmSetup) (s : Store) (caseId : ℕ) :
    (llm.agents buildContext).strategy s caseId =
      llm.proposal (s.contextFailure caseId) >>= fun r =>
        .ok (r.source, r.candidateActions.map (·.text)) := by
  unfold agents proposal
  dsimp only
  cases llm.diagnosis (s.contextFailure caseId) <;> rfl

theorem sameCandidates (buildContext : Store → ℕ → Except Failure Unit) {llm' : LlmSetup}
    (h : Answers Eq (¬ (llm.Quiet ∧ llm'.Quiet)) (llm.proposal (s.contextFailure caseId))
      (llm'.proposal (s.contextFailure caseId))) :
    SameCandidates (¬ (llm.Quiet ∧ llm'.Quiet)) (llm.agents buildContext)
      (llm'.agents buildContext) s caseId where
  buildContext := rfl
  triage := answers_of_quiet llm llm' triage_quiet triage_quiet
  diagnosis := by
    have hsource : ∀ {llm : LlmSetup}, llm.Quiet →
        ∃ source, (llm.agents buildContext).diagnosis s caseId = .ok source := by
      intro llm hquiet
      obtain ⟨result, hresult⟩ := diagnosis_quiet hquiet (s.contextFailure caseId)
      unfold agents
      dsimp only
      rw [hresult]
      exact ⟨_, rfl⟩
    exact answers_of_quiet llm llm' hsource hsource
  strategy := by
    rw [agents_strategy, agents_strategy]
    revert h
    cases llm.proposal (s.contextFailure caseId) <;>
      cases llm'.proposal (s.contextFailure caseId)
    · exact id
    · exact id
    · exact id
    · intro hsame
      obtain rfl : _ = _ := hsame
      exact rfl
  explain optimization := by
    have hboth := answers_of_quiet llm llm'
      (fun hquiet => explain_quiet hquiet optimization 0)
      (fun hquiet => explain_quiet hquiet optimization 0)
    show Answers _ _ (llm.explain optimization 0) (llm'.explain optimization 0)
    cases hx : llm.explain optimization 0 <;> cases hy : llm'.explain optimization 0 <;>
      rw [hx, hy] at hboth
    · exact trivial
    · exact hboth
    · exact hboth
    · exact ⟨explain_selected hx, explain_selected hy⟩

end LlmSetup

/-! ## Containment -/

variable {settings : OptimizerSettings} {recovery : RecoverySettings} {percentText : String}
  {resolve : Store → ℕ → RecoveryActionType → Except Failure (Option ℚ)}
  {tools : ToolExecutionService} {buildContext : Store → ℕ → Except Failure Unit}
  {llm : LlmSetup} {action : RecoveryActionType}

theorem ignoresRuns_optimizer (settings : OptimizerSettings) (recovery : RecoverySettings)
    (percentText : String) (h : IgnoresRuns resolve) :
    IgnoresRuns (settings.optimizer recovery percentText resolve).resolveProbability := by
  intro s t caseId action hsame
  unfold OptimizerSettings.optimizer
  dsimp only
  rw [h s t caseId action hsame]

/-- An action of the closed set that the policy engine and the optimizer let pass, out of
candidates for a case. -/
def SelectedFor (settings : OptimizerSettings) (cfg : Config) (s : Store) (caseId : ℕ)
    (now : Time) (candidates : List RecoveryActionType) (action : RecoveryActionType) : Prop :=
  action ∈ legalActions ∧ ∃ w c c₁ ctx, w.action = action ∧ s.cases.get? caseId = some c ∧
    c.LifecycleOnly c₁ ∧ buildPolicyContext cfg s caseId c₁ now = .ok ctx ∧
      SelectedProperly settings ctx candidates w

/-- What a run executes was selected properly among the candidates of its strategy. -/
theorem executedAction_selected
    (h : executedAction rt (llm.orchestrator buildContext
      (settings.optimizer recovery percentText resolve) tools) now executes caseId merchantId s =
        some action) :
    ∃ r, llm.proposal (s.contextFailure caseId) = .ok r ∧
      SelectedFor settings { settings := recovery, py := rt.py } s caseId now
        r.candidateActions action := by
  unfold executedAction at h
  split at h
  · obtain ⟨w, hw, rfl⟩ := Option.map_eq_some_iff.mp h
    unfold selectedCandidate at hw
    rcases runStarted_cases now caseId merchantId s with ⟨f, hrefused⟩ | ⟨c, runId, s₀, hstarted⟩
    · rw [(hrefused rt _ true).2] at hw
      cases hw
    · rw [hstarted.decides] at hw
      rcases hdecide : (decideStages rt (llm.orchestrator buildContext
        (settings.optimizer recovery percentText resolve) tools) (agentCaller now) caseId c).run s₀
        with ⟨f | d, s'⟩
      · rw [Session.run_bind_error hdecide] at hw
        cases hw
      · rw [Session.run_bind_ok hdecide] at hw
        obtain ⟨source, candidates, s₁, s₂, hstrategy, hprepared, hoptimize⟩ :=
          decideStages_ok hdecide
        obtain ⟨c₁, ctx, actions, hrow₁, hctx, hactions, hproper⟩ :=
          optimizeCase_selects hoptimize hw
        have hstore := hstarted.prepared.trans hprepared
        obtain ⟨c₂, hrow₂, hlifecycle⟩ := hstore.cases caseId c hstarted.row
        obtain rfl := Option.some.inj (hrow₂.symm.trans hrow₁)
        have hstrategy' : (llm.agents buildContext).strategy s₀ caseId =
            .ok (source, candidates) := hstrategy
        rw [LlmSetup.agents_strategy] at hstrategy'
        obtain ⟨r, hproposal, hcandidates⟩ := Lib.bind_eq_ok.mp hstrategy'
        rw [hstarted.prepared.contextFailure hstarted.row] at hproposal
        obtain ⟨-, rfl⟩ := Prod.mk.inj (Except.ok.inj hcandidates)
        rw [normalizeCandidates_text r.nodup] at hactions
        obtain rfl := Except.ok.inj hactions
        refine ⟨r, hproposal, ?_, w, c, c₂, ctx, rfl, hstarted.row, hlifecycle, ?_, hproper⟩
        · cases w.action <;> decide
        · rw [hstore.store] at hctx
          exact hctx
  · cases h

/-- The same candidates lead to the execution of the same action. -/
theorem executedAction_same (rt : Runtime) (settings : OptimizerSettings)
    (recovery : RecoverySettings) (percentText : String) (tools : ToolExecutionService)
    (buildContext : Store → ℕ → Except Failure Unit) (now : Time) (merchantId : Option ℕ)
    {client' : LlmClient} (hresolve : IgnoresRuns resolve)
    (h : Answers Eq (¬ (llm.Quiet ∧ { llm with client := client' }.Quiet))
      (llm.proposal (s.contextFailure caseId))
      ({ llm with client := client' }.proposal (s.contextFailure caseId))) :
    Answers Eq (¬ (llm.Quiet ∧ { llm with client := client' }.Quiet))
      ((decideCase rt (llm.orchestrator buildContext
        (settings.optimizer recovery percentText resolve) tools) now caseId merchantId).run s).1
      ((decideCase rt ({ llm with client := client' }.orchestrator buildContext
        (settings.optimizer recovery percentText resolve) tools) now caseId merchantId).run
          s).1 := by
  rcases runStarted_cases now caseId merchantId s with ⟨f, hrefused⟩ | ⟨c, runId, s₀, hstarted⟩
  · rw [(hrefused rt _ true).2, (hrefused rt _ true).2]
    exact trivial
  · rw [hstarted.decides, hstarted.decides]
    rw [← hstarted.prepared.contextFailure hstarted.row] at h
    have hdecisions := decideStages_outcomes rt llm.settings tools llm.elapsed
      (ignoresRuns_optimizer settings recovery percentText hresolve) (agentCaller now) caseId c
      (LlmSetup.sameCandidates buildContext h)
    exact hdecisions.answers fun _ _ hsame => hsame.symm

/-- Two decisions that agree select the same action. -/
theorem executedAction_of_answers (executes : Bool) {E : Prop}
    {orch' : RecoveryAgentOrchestrator}
    (h : Answers Eq E ((decideCase rt orch now caseId merchantId).run s).1
      ((decideCase rt orch' now caseId merchantId).run s).1) :
    (∀ a a', executedAction rt orch now executes caseId merchantId s = some a →
        executedAction rt orch' now executes caseId merchantId s = some a' → a' = a) ∧
      (¬ E → executedAction rt orch' now executes caseId merchantId s =
        executedAction rt orch now executes caseId merchantId s) := by
  unfold executedAction selectedCandidate
  cases executes with
  | false =>
    rw [if_neg Bool.false_ne_true, if_neg Bool.false_ne_true]
    exact ⟨nofun, fun _ => rfl⟩
  | true =>
    rw [if_pos rfl, if_pos rfl]
    rcases hx : ((decideCase rt orch now caseId merchantId).run s).1 with f | d <;>
      rcases hy : ((decideCase rt orch' now caseId merchantId).run s).1 with f' | d' <;>
      rw [hx, hy] at h
    · exact ⟨nofun, fun _ => rfl⟩
    · exact ⟨nofun, fun hnone => absurd h hnone⟩
    · exact ⟨fun _ _ _ h' => absurd h' nofun, fun hnone => absurd h hnone⟩
    · obtain rfl : d = d' := h
      exact ⟨fun a a' ha ha' => Option.some.inj (ha'.symm.trans ha), fun _ => rfl⟩

/-- Whatever a language model answers: at most one handler is called, that of the action the
optimizer selected; the action was selected properly; no recovered amount moves. Triage and
explanations have no say in the action, and the diagnosis has one only where it counts. -/
theorem llm_contained (rt : Runtime) (settings : OptimizerSettings)
    (recovery : RecoverySettings) (percentText : String)
    (resolve : Store → ℕ → RecoveryActionType → Except Failure (Option ℚ))
    (tools : ToolExecutionService) (buildContext : Store → ℕ → Except Failure Unit)
    (llm : LlmSetup) (now : Time) (executes : Bool) (caseId : ℕ) (merchantId : Option ℕ)
    (s : Store) :
    let orch (llm : LlmSetup) := llm.orchestrator buildContext
      (settings.optimizer recovery percentText resolve) tools
    let action (llm : LlmSetup) := executedAction rt (orch llm) now executes caseId merchantId s
    let s' := committed (runCase rt (orch llm) now executes caseId merchantId) s
    CallsToolOf (action llm) caseId s s' ∧
    (∀ i c, s.cases.get? i = some c →
      ∃ c', s'.cases.get? i = some c' ∧ c'.amountRecovered = c.amountRecovered) ∧
    (∀ a, action llm = some a → ∃ r, llm.proposal (s.contextFailure caseId) = .ok r ∧
      SelectedFor settings { settings := recovery, py := rt.py } s caseId now
        r.candidateActions a) ∧
    ∀ client', IgnoresRuns resolve →
      client'.complete .strategy = llm.client.complete .strategy →
      (llm.DiagnosisCounts (s.contextFailure caseId) →
        client'.complete .diagnosis = llm.client.complete .diagnosis) →
      (∀ a a', action llm = some a → action { llm with client := client' } = some a' →
        a' = a) ∧
      (llm.Quiet → { llm with client := client' }.Quiet →
        action { llm with client := client' } = action llm) := by
  intro orch action s'
  refine ⟨runCase_calls rt _ now executes caseId merchantId s, fun i c hc => ?_,
    fun a ha => executedAction_selected ha, fun client' hresolve hstrategy hdiagnosis => ?_⟩
  · have hkept : CasesKept RecoveryCase.SameMoney s s' :=
      sameMoney_frame.keeps_runCase rt (orch llm) now executes caseId merchantId |>.transact
        (fun s => sameMoney_frame.refl s) s
    obtain ⟨c', hc', hsame⟩ := hkept i c hc
    exact ⟨c', hc', hsame.amountRecovered⟩
  · have hproposals := LlmSetup.proposal_answers hstrategy (s.contextFailure caseId) hdiagnosis
    have hsame := executedAction_of_answers executes
      (executedAction_same rt settings recovery percentText tools buildContext now merchantId
        hresolve hproposals)
    exact ⟨hsame.1, fun hquiet hquiet' => hsame.2 fun hnot => hnot ⟨hquiet, hquiet'⟩⟩

/-- What a model writes about a failure. -/
def diagnosisText (recoverability : String) : String :=
  "\x7b\"root_cause\": \"card\", \"confidence\": 1, \"recoverability\": \"" ++
    recoverability ++ "\"\x7d"

/-- Reads the diagnoses and nothing else. -/
def diagnosisReader : OutputReader where
  loads text :=
    match ["HIGH", "UNRECOVERABLE"].find? fun r => diagnosisText r = text with
    | some r =>
      .ok (.obj [("root_cause", .str "card"), ("confidence", .int 1),
        ("recoverability", .str r)])
    | none => .error .caught
  bool? _ := none
  float?
    | .int n => some n
    | _ => none

/-- A model that answers one stage only. -/
def diagnosing (recoverability : String) : LlmSetup where
  client :=
    { complete := fun
        | .diagnosis, _ => .ok (diagnosisText recoverability)
        | _, _ => .error .caught }
  reader := diagnosisReader

/-- A model that has an opinion everywhere. -/
def talkativeClient : LlmClient where
  complete
    | .diagnosis, _ => .ok (diagnosisText "HIGH")
    | .strategy, _ => .error .caught
    | _, _ => .ok "RETRY_NOW"

/-- Every action is as likely to work as not. -/
def evenResolve (_ : Store) (_ : ℕ) (_ : RecoveryActionType) : Except Failure (Option ℚ) :=
  .ok (some (1 / 2))

/-- The action of a run for a payment that failed for no known reason. -/
def actionWith (llm : LlmSetup) : Option RecoveryActionType :=
  executedAction sampleRuntime
    (llm.orchestrator (fun _ _ => .ok ())
      (({} : OptimizerSettings).optimizer {} "5" evenResolve) sampleService)
    0 true 0 none twoCasesStore

theorem llm_contained_talkative :
    ∀ a a', actionWith (diagnosing "HIGH") = some a →
      actionWith { diagnosing "HIGH" with client := talkativeClient } = some a' → a' = a := by
  unfold actionWith
  have hcontained := (llm_contained sampleRuntime {} {} "5" evenResolve sampleService
    (fun _ _ => .ok ()) (diagnosing "HIGH") 0 true 0 none twoCasesStore).2.2.2 talkativeClient
      (fun _ _ _ _ _ => rfl) rfl fun _ => rfl
  exact hcontained.1

/-- The diagnosis alone makes a run give up on a case. -/
theorem diagnosis_decides :
    (∀ agent n, agent ≠ .diagnosis → (diagnosing "HIGH").client.complete agent n =
      (diagnosing "UNRECOVERABLE").client.complete agent n) ∧
    actionWith (diagnosing "HIGH") = some .retryLater ∧
    actionWith (diagnosing "UNRECOVERABLE") = some .doNothing := by
  refine ⟨fun agent n hagent => ?_, by decide +kernel, by decide +kernel⟩
  cases agent with
  | diagnosis => exact absurd rfl hagent
  | _ => rfl

end ReviveX
