import ReviveX.Agents.LifecycleFrame
import ReviveX.Domain.ProcessingTheorems
import ReviveX.Lib.Runs

/-!
# Every call on a case

`ServiceCall` lists the entry points that lead to a case row: ingestion, the worker's jobs,
the tool service with its approvals, and the agents. A call ends in the state it leaves,
whether it returned or raised, or is rolled back; a relation that all of the services keep
is kept by every step.
-/

namespace ReviveX

open Lib (Session)

/-- A call, with everything it is given. -/
inductive ServiceCall
  | ingest (env : EventText) (now : Time) (enqueue : Bool) (event : ProviderEvent)
      (merchantId : ℕ)
  | processWebhookEvent (env : EventText) (now : Time) (webhookEventId : ℕ)
  | markDeadLetter (now : Time) (webhookEventId : ℕ) (error : String)
  | process (cfg : Config) (caller : Caller) (caseId : ℕ)
  | walkToPolicyCheck (caller : Caller) (caseId : ℕ)
  | optimizeCase (opt : RecoveryOptimizer) (caller : Caller) (caseId : ℕ)
      (candidates : Option (List String))
  | execute (svc : ToolExecutionService) (caller : Caller) (args : ExecuteArgs)
  | approveAction (svc : ToolExecutionService) (caller : Caller) (args : DecisionArgs)
  | rejectAction (caller : Caller) (args : DecisionArgs)
  | cancelAction (caller : Caller) (args : DecisionArgs)
  | runCase (orch : RecoveryAgentOrchestrator) (now : Time) (executes : Bool) (caseId : ℕ)
      (merchantId : Option ℕ)
  | verifyCase (cfg : Config) (caller : Caller) (args : VerifyArgs)

/-- The call verifies a case. -/
def ServiceCall.verifies : ServiceCall → Bool
  | .verifyCase .. => true
  | _ => false

/-- The state at the end of a call, whether it returned or raised. -/
def ServiceCall.after (rt : Runtime) (s : Store) : ServiceCall → Store
  | .ingest env now enqueue event merchantId =>
    ((ReviveX.ingest env now enqueue event merchantId).run s).2
  | .processWebhookEvent env now webhookEventId =>
    ((ReviveX.processWebhookEvent env now webhookEventId).run s).2
  | .markDeadLetter now webhookEventId error =>
    ((ReviveX.markDeadLetter now webhookEventId error).run s).2
  | .process cfg caller caseId => ((ReviveX.process cfg caller caseId).run s).2
  | .walkToPolicyCheck caller caseId => ((ReviveX.walkToPolicyCheck caller caseId).run s).2
  | .optimizeCase opt caller caseId candidates =>
    ((ReviveX.optimizeCase opt rt.py caller caseId candidates).run s).2
  | .execute svc caller args => ((ReviveX.execute rt svc caller args).run s).2
  | .approveAction svc caller args => ((ReviveX.approveAction rt svc caller args).run s).2
  | .rejectAction caller args => ((ReviveX.rejectAction caller args).run s).2
  | .cancelAction caller args => ((ReviveX.cancelAction caller args).run s).2
  | .runCase orch now executes caseId merchantId =>
    ((ReviveX.runCase rt orch now executes caseId merchantId).run s).2
  | .verifyCase cfg caller args => ((ReviveX.verifyCase cfg caller args).run s).2

/-- The state a call leaves is committed, or the transaction is rolled back. -/
def CallStep (rt : Runtime) (s : Store) (call : ServiceCall) (s' : Store) : Prop :=
  s' = call.after rt s ∨ s' = s

variable {R : Store → Store → Prop} {rt : Runtime} {s s' : Store} {call : ServiceCall}

/-- What every service but the verification keeps, those calls keep. -/
theorem WebhookFrame.after (h : WebhookFrame R) (hcall : call.verifies = false) (s : Store) :
    R s (call.after rt s) := by
  have hframe := h.toLifecycleFrame
  cases call with
  | ingest env now enqueue event merchantId => exact h.keeps_ingest env now enqueue event _ s
  | processWebhookEvent env now webhookEventId => exact h.keeps_processWebhookEvent env now _ s
  | markDeadLetter now webhookEventId error => exact h.keeps_markDeadLetter now _ error s
  | process cfg caller caseId => exact hframe.keeps_process cfg caller caseId s
  | walkToPolicyCheck caller caseId => exact hframe.keeps_walkToPolicyCheck caller caseId s
  | optimizeCase opt caller caseId candidates =>
    exact hframe.keeps_optimizeCase opt rt.py caller caseId candidates s
  | execute svc caller args => exact hframe.keeps_execute rt svc caller args s
  | approveAction svc caller args => exact hframe.keeps_approveAction rt svc caller args s
  | rejectAction caller args => exact hframe.keeps_rejectAction caller args s
  | cancelAction caller args => exact hframe.keeps_rejectAction caller _ s
  | runCase orch now executes caseId merchantId =>
    exact hframe.keeps_runCase rt orch now executes caseId merchantId s
  | verifyCase cfg caller args => exact absurd hcall (by simp [ServiceCall.verifies])

/-- What the verification keeps as well, every step keeps. -/
theorem WebhookFrame.callStep (h : WebhookFrame R)
    (hverify : ∀ cfg caller args, Session.Keeps R (verifyCase cfg caller args))
    (hstep : CallStep rt s call s') : R s s' := by
  rcases hstep with rfl | rfl
  · cases hcall : call.verifies with
    | false => exact h.after hcall s
    | true =>
      cases call with
      | verifyCase cfg caller args => exact hverify cfg caller args s
      | _ => exact absurd hcall (by simp [ServiceCall.verifies])
  · exact h.refl s'

end ReviveX
