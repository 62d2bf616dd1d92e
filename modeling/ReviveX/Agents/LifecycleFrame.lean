import ReviveX.Agents.Orchestrator
import ReviveX.Tools.LifecycleFrame

/-!
# The agents keep every lifecycle frame

Whatever an agent or its LLM answers, a run of the orchestrator reaches a case row only
through the state machine and through the tool it executes.
-/

namespace ReviveX

open Lib (Session Table)

namespace ServiceFrame

variable {R : Store → Store → Prop}

/-! ## The optimizer -/

theorem keeps_scoreCandidate (h : ServiceFrame R) (opt : RecoveryOptimizer) (caller : Caller)
    (caseId : ℕ) (ctx : PolicyContext) (action : RecoveryActionType) :
    Session.Keeps R (scoreCandidate opt caller caseId ctx action) :=
  .get_bind fun _ => h.bind (h.keeps_ofExcept _) fun _ => h.bind (h.keeps_ofExcept _) fun _ =>
    h.bind (h.keeps_evaluateAndPersist _ caseId ctx (actionText_ne_transition action)) fun _ =>
      h.keeps_pure _

theorem keeps_scoreCandidates (h : ServiceFrame R) (opt : RecoveryOptimizer) (caller : Caller)
    (caseId : ℕ) (ctx : PolicyContext) (actions : List RecoveryActionType) :
    Session.Keeps R (scoreCandidates opt caller caseId ctx actions) := by
  induction actions with
  | nil => exact h.keeps_pure _
  | cons action rest ih =>
    exact h.bind (h.keeps_scoreCandidate opt caller caseId ctx action) fun _ =>
      h.bind ih fun _ => h.keeps_pure _

theorem keeps_persistOptimizationDecision (h : ServiceFrame R) (caller : Caller) (caseId : ℕ)
    (c : RecoveryCase) (result : OptimizationResult) :
    Session.Keeps R (persistOptimizationDecision caller caseId c result) := by
  refine h.bind (h.keeps_modify (fun _ => rfl) (fun _ => rfl) fun _ => rfl) fun _ => ?_
  refine h.keeps_recordAudit ?_
  cases hselected : result.selectedAction with
  | none => simp
  | some action => simpa using actionText_ne_transition action

theorem keeps_optimizeCase (h : ServiceFrame R) (opt : RecoveryOptimizer) (py : PyText)
    (caller : Caller) (caseId : ℕ) (candidates : Option (List String)) :
    Session.Keeps R (optimizeCase opt py caller caseId candidates) := by
  refine .get_bind fun s => ?_
  split
  · exact h.keeps_raise _
  · exact h.bind (h.keeps_ofExcept _) fun ctx => h.bind (h.keeps_ofExcept _) fun actions =>
      h.bind (h.keeps_scoreCandidates opt caller caseId ctx actions) fun _ =>
      h.bind (h.keeps_ofExcept _) fun _ =>
      h.bind (h.keeps_persistOptimizationDecision caller caseId _ _) fun _ => h.keeps_pure _

/-! ## Steps -/

theorem keeps_addStep (h : ServiceFrame R) (settings : AgentSettings) (n : ℕ)
    (name : String) : Session.Keeps R (addStep settings n name) :=
  .ite (h.keeps_raise _) (h.keeps_pure ())

theorem keeps_addTool (h : ServiceFrame R) (settings : AgentSettings) (toolName : String) :
    Session.Keeps R (addTool settings toolName) :=
  .ite (h.keeps_raise _) (.ite (h.keeps_raise _) (h.keeps_pure ()))

theorem keeps_advance (h : ServiceFrame R) (caller : Caller) (caseId : ℕ)
    (target : RecoveryCaseStatus) : Session.Keeps R (advance caller caseId target) :=
  h.bind (h.keeps_readCase _) fun _ =>
    .ite (h.keeps_pure ()) (.ite (h.keeps_pure ()) (h.transition _ _ _))

theorem keeps_failClosed (h : ServiceFrame R) (caller : Caller) (caseId : ℕ) :
    Session.Keeps R (failClosed caller caseId) :=
  h.bind (h.keeps_readCase _) fun _ => .ite (h.transition _ _ _) (h.keeps_pure ())

theorem keeps_executeSelected (h : ServiceFrame R) (rt : Runtime)
    (orch : RecoveryAgentOrchestrator) (caller : Caller) (caseId : ℕ) (c : RecoveryCase)
    (runId : ℕ) (optimization : OptimizationResult) (action : RecoveryActionType) :
    Session.Keeps R (executeSelected rt orch caller caseId c runId optimization action) :=
  h.bind (h.keeps_addTool _ _) fun _ => h.keeps_execute rt _ (orch.executor caller) _

theorem keeps_executeStage (h : ServiceFrame R) (rt : Runtime)
    (orch : RecoveryAgentOrchestrator) (caller : Caller) (execute : Bool) (caseId : ℕ)
    (c : RecoveryCase) (runId : ℕ) (optimization : OptimizationResult) :
    Session.Keeps R (executeStage rt orch caller execute caseId c runId optimization) := by
  unfold executeStage
  split
  · exact .ite
      (h.bind (h.keeps_addStep _ _ _) fun _ =>
        h.bind (h.keeps_executeSelected rt orch caller _ _ _ _ _) fun _ => h.keeps_pure _)
      (h.keeps_pure _)
  · exact h.keeps_pure _

end ServiceFrame

namespace LifecycleFrame

variable {R : Store → Store → Prop}

/-! ## Records of the runs -/

theorem agentName_ne_transition (agent : AgentName) : agent.text ≠ "transition" := by
  cases agent <;> decide

theorem keeps_agentRunAudit (h : LifecycleFrame R) (now : Time) (merchantId caseId : ℕ)
    (agent : AgentName) :
    Session.Keeps R (Service.recordAudit
      (agentAudit now merchantId caseId .agentRunRecorded (some agent.text))) :=
  h.keeps_recordAudit fun heq => agentName_ne_transition agent (Option.some.inj heq)

theorem keeps_startAgentRun (h : LifecycleFrame R) (now : Time) (merchantId caseId : ℕ)
    (agent : AgentName) : Session.Keeps R (startAgentRun now merchantId caseId agent) :=
  h.bind (h.keeps_modifyGet (fun _ => rfl) fun _ => rfl) fun _ =>
    h.bind (h.keeps_agentRunAudit now _ _ agent) fun _ => h.keeps_pure _

theorem keeps_completeAgentRun (h : LifecycleFrame R) (now : Time) (merchantId caseId runId : ℕ)
    (agent : AgentName) (source : String) (status : AgentRunStatus)
    (errorMessage : Option String) :
    Session.Keeps R
      (completeAgentRun now merchantId caseId runId agent source status errorMessage) :=
  h.bind (h.keeps_modify (fun _ => rfl) fun _ => rfl) fun _ =>
    h.keeps_agentRunAudit now _ _ agent

theorem keeps_persistStage {α : Type} (h : LifecycleFrame R) (now : Time)
    (merchantId caseId : ℕ) (agent : AgentName) (source : α → AgentSource)
    (stage : Except Failure α) :
    Session.Keeps R (persistStage now merchantId caseId agent source stage) :=
  h.bind (h.keeps_startAgentRun now _ _ agent) fun _ => h.bind (h.keeps_ofExcept _) fun _ =>
    h.bind (h.keeps_completeAgentRun now _ _ _ agent _ _ _) fun _ => h.keeps_pure _

/-! ## The orchestrator -/

theorem keeps_decideStages (h : LifecycleFrame R) (rt : Runtime)
    (orch : RecoveryAgentOrchestrator) (caller : Caller) (caseId : ℕ) (c : RecoveryCase) :
    Session.Keeps R (decideStages rt orch caller caseId c) :=
  .get_bind fun _ => h.bind (h.keeps_ofExcept _) fun _ =>
    h.bind (h.keeps_addStep _ _ _) fun _ =>
    h.bind (h.keeps_persistStage _ _ _ _ _ _) fun _ =>
    h.bind (h.keeps_advance _ _ _) fun _ =>
    h.bind (h.keeps_addStep _ _ _) fun _ =>
    h.bind (h.keeps_persistStage _ _ _ _ _ _) fun _ =>
    h.bind (h.keeps_advance _ _ _) fun _ =>
    h.bind (h.keeps_advance _ _ _) fun _ =>
    h.bind (h.keeps_addStep _ _ _) fun _ =>
    h.bind (h.keeps_persistStage _ _ _ _ _ _) fun _ =>
    h.bind (h.keeps_addStep _ _ _) fun _ =>
    h.bind (h.keeps_optimizeCase _ _ _ _ _) fun _ =>
    h.bind (h.keeps_advance _ _ _) fun _ =>
    h.bind (h.keeps_advance _ _ _) fun _ =>
    h.bind (h.keeps_advance _ _ _) fun _ =>
    h.bind (h.keeps_addStep _ _ _) fun _ =>
    h.bind (h.keeps_ofExcept _) fun _ =>
    h.bind (h.keeps_ofExcept _) fun _ =>
    h.bind (h.keeps_persistStage _ _ _ _ _ _) fun _ => h.keeps_pure _

theorem keeps_runStages (h : LifecycleFrame R) (rt : Runtime)
    (orch : RecoveryAgentOrchestrator) (caller : Caller) (execute : Bool) (caseId : ℕ)
    (c : RecoveryCase) (runId : ℕ) :
    Session.Keeps R (runStages rt orch caller execute caseId c runId) :=
  h.bind (h.keeps_decideStages rt orch caller caseId c) fun _ =>
    h.bind (h.keeps_executeStage rt orch caller execute caseId c runId _) fun _ =>
    h.bind (h.keeps_readCase _) fun _ => .ite (h.keeps_raise _) <|
      h.bind (h.keeps_completeAgentRun _ _ _ _ _ _ _ _) fun _ => h.keeps_pure _

theorem keeps_recordAgentError (h : LifecycleFrame R) (caller : Caller) (caseId : ℕ)
    (c : RecoveryCase) (runId : ℕ) (f : Failure) :
    Session.Keeps R (recordAgentError caller caseId c runId f) := by
  cases f with
  | crash exception => exact h.keeps_pure ()
  | domain e =>
    have hlimit : Session.Keeps R (Service.recordAudit
        (agentAudit caller.now c.merchantId caseId .agentLimitExceeded)) :=
      h.keeps_recordAudit (by simp [agentAudit])
    exact .ite
      (h.bind (h.keeps_completeAgentRun _ _ _ _ _ _ _ _) fun _ =>
        .ite (h.bind hlimit fun _ => h.keeps_failClosed caller caseId) (h.keeps_pure ()))
      (h.keeps_pure ())

theorem keeps_runCase (h : LifecycleFrame R) (rt : Runtime) (orch : RecoveryAgentOrchestrator)
    (now : Time) (execute : Bool) (caseId : ℕ) (merchantId : Option ℕ) :
    Session.Keeps R (runCase rt orch now execute caseId merchantId) :=
  h.bind (h.keeps_lockRecoveryCase _) fun c => .ite (h.keeps_raise _) <| .ite (h.keeps_raise _) <|
    h.bind (h.keeps_startAgentRun now _ _ _) fun runId =>
      .onError h.trans (h.keeps_runStages rt orch _ execute caseId c runId) fun f =>
        h.keeps_recordAgentError _ caseId c runId f

end LifecycleFrame

end ReviveX
