import ReviveX.Domain.LifecycleTheorems
import ReviveX.Tools.CommitTheorems

/-!
# The tool layer keeps every service frame

No tool, and no decision about one, writes a case row except through a transition: neither
the money columns nor the identity of a case are within reach of a handler, whatever its
payload and whatever the provider answers.
-/

namespace ReviveX

open Lib (Session Table)

namespace ServiceFrame

variable {R : Store → Store → Prop} {α : Type}

theorem keeps_auditRequest (h : ServiceFrame R) (caller : Caller) (request : ToolRequest)
    (eventType : AuditEventType) {action : String} (haction : action ≠ "transition") :
    Session.Keeps R (auditRequest caller request eventType action) :=
  h.keeps_caseAudit caller _ _ eventType none none haction

theorem auditName_ne_transition (tool : ToolName) : auditName tool ≠ "transition" := by
  cases tool <;> decide

theorem keeps_persistVerdict (h : ServiceFrame R) (caller : Caller) (request : ToolRequest)
    (verdict : ToolVerdict) : Session.Keeps R (persistVerdict caller request verdict) := by
  unfold persistVerdict
  split
  · exact h.keeps_persistPolicyEvaluation caller _ _ _ (actionText_ne_transition _)
  · exact h.keeps_pure ()

theorem keeps_upsertAction (h : ServiceFrame R) (caller : Caller) (request : ToolRequest)
    (actionType : RecoveryActionType) (w : ActionWrite) :
    Session.Keeps R (upsertAction caller request actionType w) := by
  refine .get_bind fun s => ?_
  split
  · exact h.bind (h.keeps_modify (fun _ => rfl) (fun _ => rfl) fun _ => rfl) fun _ => h.keeps_pure _
  · exact h.bind (h.keeps_modifyGet (fun _ => rfl) (fun _ => rfl) fun _ => rfl) fun _ =>
      h.bind (h.keeps_auditRequest _ request _ (actionText_ne_transition _)) fun _ =>
        h.keeps_pure _

theorem keeps_blockAction (h : ServiceFrame R) (caller : Caller) (request : ToolRequest)
    (action : RecoveryActionType) (evaluation : PolicyEvaluationResult) :
    Session.Keeps R (blockAction caller request action evaluation) :=
  h.bind (h.keeps_upsertAction caller request action _) fun _ =>
    h.bind (h.keeps_auditRequest caller request _ (actionText_ne_transition _)) fun _ =>
      h.keeps_pure _

theorem keeps_requestApproval (h : ServiceFrame R) (caller : Caller) (request : ToolRequest)
    (action : RecoveryActionType) (verdict : ToolVerdict) :
    Session.Keeps R (requestApproval caller request action verdict) := by
  have hawait : Session.Keeps R (awaitApproval caller request) :=
    .ite (h.transition _ _ _) (h.keeps_pure ())
  refine h.bind (h.keeps_upsertAction caller request action _) fun actionId =>
    h.bind ?_ fun _ => h.bind hawait fun _ =>
      h.bind (h.keeps_auditRequest caller request _ (actionText_ne_transition _)) fun _ =>
        h.keeps_pure _
  exact h.bind (h.keeps_modifyGet (fun _ => rfl) (fun _ => rfl) fun _ => rfl) fun _ =>
    h.bind (h.keeps_modify (fun _ => rfl) (fun _ => rfl) fun _ => rfl) fun _ =>
      h.bind (h.keeps_modify (fun _ => rfl) (fun _ => rfl) fun _ => rfl) fun _ => h.keeps_pure _

theorem keeps_checkApproval (h : ServiceFrame R) (now : Time) (request : ToolRequest) :
    Session.Keeps R (checkApproval now request) := by
  refine .ite (.get_bind fun s => ?_) (h.keeps_pure ())
  split
  · exact h.keeps_raise _
  · split
    · exact h.keeps_raise _
    · exact .ite (h.keeps_raise _) <|
        .ite (h.bind (h.keeps_modify (fun _ => rfl) (fun _ => rfl) fun _ => rfl) fun _ =>
          h.keeps_raise _) <|
          .ite (h.keeps_raise _) (h.keeps_pure ())

theorem keeps_startAction (h : ServiceFrame R) (caller : Caller) (request : ToolRequest)
    (riskLevel : RiskLevel) : Session.Keeps R (startAction caller request riskLevel) := by
  unfold startAction
  split
  · exact h.keeps_pure _
  · exact h.bind (h.keeps_upsertAction caller request _ _) fun _ =>
      h.bind (.ite (h.transition _ _ _) (h.keeps_pure ())) fun _ =>
        h.bind (h.keeps_auditRequest caller request _ (actionText_ne_transition _)) fun _ =>
          h.keeps_pure _

/-- No handler writes a case, an audit row or an agent run. -/
theorem keeps_handlers (h : ServiceFrame R) (rt : Runtime) (svc : ToolExecutionService)
    (now : Time) (ctx : HandlerContext) (tool : ToolName) :
    Session.Keeps R (handlers rt svc now ctx tool) := by
  intro s
  have heffects := handlers_effects rt svc now ctx tool s
  refine h.outside _ _ heffects.cases ?_ ?_
  · rw [heffects]
  · rw [heffects]

theorem keeps_callHandler (h : ServiceFrame R) (rt : Runtime) (svc : ToolExecutionService)
    (caller : Caller) (request : ToolRequest) (policy : PolicyContext) (actionId : Option ℕ) :
    Session.Keeps R (callHandler rt svc caller request policy actionId) :=
  h.bind (h.keeps_readCase _) fun _ => .get_bind fun _ =>
    h.bind (h.keeps_modify (fun _ => rfl) (fun _ => rfl) fun _ => rfl) fun _ =>
    h.bind (h.keeps_handlers rt svc _ _ _) fun _ =>
    h.bind (.ite (h.keeps_modify (fun _ => rfl) (fun _ => rfl) fun _ => rfl)
      (h.keeps_pure ())) fun _ =>
    h.keeps_pure _

theorem keeps_recordAction (h : ServiceFrame R) (now : Time) (actionId : Option ℕ)
    (handled : HandlerResult) : Session.Keeps R (recordAction now actionId handled) := by
  unfold recordAction
  split
  · exact h.keeps_pure ()
  · exact h.keeps_modify (fun _ => rfl) (fun _ => rfl) fun _ => rfl

theorem keeps_applyCaseOutcome (h : ServiceFrame R) (caller : Caller) (caseId : ℕ)
    (target : Option RecoveryCaseStatus) :
    Session.Keeps R (applyCaseOutcome caller caseId target) := by
  refine h.bind (h.keeps_readCase _) fun c => .ite (h.keeps_pure ()) ?_
  split
  · exact .ite (h.bind (h.transition _ _ _) fun _ => h.transition _ _ _)
      (.ite (h.transition _ _ _) (h.keeps_pure ()))
  · exact .ite (h.transition _ _ _) (h.keeps_pure ())
  · exact .ite (h.transition _ _ _) (h.keeps_pure ())
  · exact .ite (h.transition _ _ _) (h.keeps_pure ())
  · exact h.keeps_pure ()

theorem keeps_reportSuccess (h : ServiceFrame R) (caller : Caller) (request : ToolRequest)
    (evaluation : PolicyEvaluationResult) (actionId : Option ℕ) (handled : HandlerResult) :
    Session.Keeps R (reportSuccess caller request evaluation actionId handled) := by
  refine h.bind (h.keeps_applyCaseOutcome caller _ _) fun _ => ?_
  split
  · exact h.bind (h.keeps_auditRequest caller request _ (auditName_ne_transition _)) fun _ =>
      h.keeps_pure _
  · exact h.keeps_pure _

theorem keeps_reportFailure (h : ServiceFrame R) (caller : Caller) (request : ToolRequest)
    (evaluation : PolicyEvaluationResult) (actionId : Option ℕ) (handled : HandlerResult) :
    Session.Keeps R (reportFailure caller request evaluation actionId handled) := by
  have hfail : Session.Keeps R (failCase caller request) :=
    h.bind (h.keeps_readCase _) fun _ => .ite (h.transition _ _ _) (h.keeps_pure ())
  exact h.bind hfail fun _ =>
    h.bind (h.keeps_auditRequest caller request _ (auditName_ne_transition _)) fun _ =>
      h.keeps_pure _

theorem keeps_runAfterIdempotency (h : ServiceFrame R) (rt : Runtime)
    (svc : ToolExecutionService) (caller : Caller) (request : ToolRequest) :
    Session.Keeps R (runAfterIdempotency rt svc caller request) := by
  refine .get_bind fun s => h.bind (h.keeps_ofExcept _) fun verdict =>
    h.bind (h.keeps_persistVerdict caller request verdict) fun _ => ?_
  split
  · exact h.keeps_raise _
  · exact h.keeps_blockAction caller request _ _
  · exact h.keeps_requestApproval caller request _ _
  · exact h.bind (h.keeps_checkApproval _ request) fun _ =>
      h.bind (h.keeps_startAction caller request _) fun actionId =>
      h.bind (h.keeps_callHandler rt svc caller request _ actionId) fun handled =>
      h.bind (h.keeps_recordAction _ actionId handled) fun _ =>
      .ite (h.keeps_reportSuccess caller request _ actionId handled)
        (h.keeps_reportFailure caller request _ actionId handled)

theorem keeps_modifyKey (h : ServiceFrame R) (merchantId : ℕ) (key : String)
    (f : IdempotencyKey → IdempotencyKey) :
    Session.Keeps R (Service.modifyKey merchantId key f) := by
  refine h.keeps_modify (fun s => ?_) (fun s => ?_) fun s => ?_
  · cases s.idempotencyKeys.lookup (merchantId, key) <;> rfl
  · cases s.idempotencyKeys.lookup (merchantId, key) <;> rfl
  · cases s.idempotencyKeys.lookup (merchantId, key) <;> rfl

theorem keeps_executeRequest (h : ServiceFrame R) (rt : Runtime)
    (svc : ToolExecutionService) (caller : Caller) (request : ToolRequest) :
    Session.Keeps R (executeRequest rt svc caller request) := by
  have hfailure : ∀ toolCallId f,
      Session.Keeps R (recordFailure caller request toolCallId f) := by
    intro toolCallId f
    cases f with
    | crash exception => exact h.keeps_pure ()
    | domain e =>
      exact .ite (h.keeps_pure ()) <| h.bind (h.keeps_modifyKey _ _ _) fun _ =>
        h.keeps_modify (fun _ => rfl) (fun _ => rfl) fun _ => rfl
  exact h.bind (h.keeps_modifyGet (fun _ => rfl) (fun _ => rfl) fun _ => rfl) fun toolCallId =>
    h.bind (.onError h.trans (h.keeps_runAfterIdempotency rt svc caller request)
      (hfailure toolCallId)) fun _ =>
    h.bind (h.keeps_modifyKey _ _ _) fun _ =>
    h.bind (h.keeps_modify (fun _ => rfl) (fun _ => rfl) fun _ => rfl) fun _ => h.keeps_pure _

theorem keeps_execute (h : ServiceFrame R) (rt : Runtime) (svc : ToolExecutionService)
    (caller : Caller) (args : ExecuteArgs) :
    Session.Keeps R (execute rt svc caller args) := by
  refine .get_bind fun s => h.bind (h.keeps_ofExcept _) fun request => h.bind ?_ fun idem => ?_
  · refine .get_bind fun s => ?_
    split
    · exact .ite (h.keeps_raise _) (h.keeps_pure _)
    · exact h.bind (h.keeps_modify (fun _ => rfl) (fun _ => rfl) fun _ => rfl) fun _ =>
        h.keeps_pure _
  · refine .ite ?_ (h.keeps_executeRequest rt svc caller request)
    split
    · exact h.keeps_pure _
    · exact h.keeps_raise _
    · exact h.keeps_executeRequest rt svc caller request

/-! ## Decisions -/

theorem keeps_auditDecision (h : ServiceFrame R) (caller : Caller) (d : Decision)
    (eventType : AuditEventType) : Session.Keeps R (auditDecision caller d eventType) :=
  h.keeps_caseAudit caller _ _ eventType none none (actionText_ne_transition _)

theorem keeps_approveAction (h : ServiceFrame R) (rt : Runtime)
    (svc : ToolExecutionService) (caller : Caller) (args : DecisionArgs) :
    Session.Keeps R (approveAction rt svc caller args) := by
  refine .get_bind fun s => h.bind (h.keeps_ofExcept _) fun d => h.bind ?_ fun _ =>
    h.bind (.ite (h.keeps_pure ()) (h.keeps_raise _)) fun _ => h.bind ?_ fun _ =>
      h.keeps_execute rt svc caller (approvedExecution d)
  · exact .ite (h.bind (h.keeps_modify (fun _ => rfl) (fun _ => rfl) fun _ => rfl)
      fun _ => h.keeps_raise _)
      (.ite (h.keeps_raise _) (.ite (h.keeps_raise _) (h.keeps_pure ())))
  · exact h.bind (h.keeps_modify (fun _ => rfl) (fun _ => rfl) fun _ => rfl) fun _ =>
      h.bind (h.keeps_modify (fun _ => rfl) (fun _ => rfl) fun _ => rfl) fun _ =>
      h.bind (h.keeps_modify (fun _ => rfl) (fun _ => rfl) fun _ => rfl) fun _ =>
      h.keeps_auditDecision caller d _

theorem keeps_rejectAction (h : ServiceFrame R) (caller : Caller) (args : DecisionArgs) :
    Session.Keeps R (rejectAction caller args) := by
  refine .get_bind fun s => h.bind (h.keeps_ofExcept _) fun d => h.bind ?_ fun _ =>
    h.bind (h.keeps_modifyKey _ _ _) fun _ =>
    h.bind (h.keeps_auditDecision caller d _) fun _ =>
    h.bind (h.keeps_auditDecision caller d _) fun _ =>
    h.bind (.ite (h.transition _ _ _) (h.keeps_pure ())) fun _ => h.keeps_pure _
  exact h.bind (h.keeps_modify (fun _ => rfl) (fun _ => rfl) fun _ => rfl) fun _ =>
    h.bind (h.keeps_modify (fun _ => rfl) (fun _ => rfl) fun _ => rfl) fun _ =>
    h.keeps_modify (fun _ => rfl) (fun _ => rfl) fun _ => rfl

/-! ## Steps -/

/-- What a session keeps, its transaction keeps. -/
theorem keeps_committed (h : ServiceFrame R) {m : Service α} (hm : Session.Keeps R m)
    (s : Store) : R s (committed m s) :=
  Session.Keeps.transact h.refl hm s

end ServiceFrame

variable {R : Store → Store → Prop} {rt : Runtime} {s s' : Store}

/-- Every step keeps a relation that allows what the tool layer and verification do. -/
theorem VerificationFrame.step (h : VerificationFrame R) {Other : Store → Store → Prop}
    (hother : ∀ s s', Other s s' → R s s') {op : Operation} (hstep : Step rt Other s op s') :
    R s s' := by
  have hframe := h.toLifecycleFrame
  cases op with
  | execute svc caller args =>
    obtain rfl := hstep
    exact hframe.keeps_committed (hframe.keeps_execute rt svc caller args) s
  | approve svc caller args =>
    obtain rfl := hstep
    exact hframe.keeps_committed (hframe.keeps_approveAction rt svc caller args) s
  | reject caller args =>
    obtain rfl := hstep
    exact hframe.keeps_committed (hframe.keeps_rejectAction caller args) s
  | cancel caller args =>
    obtain rfl := hstep
    exact hframe.keeps_committed (hframe.keeps_rejectAction caller _) s
  | process cfg caller caseId =>
    obtain rfl := hstep
    exact hframe.keeps_committed (hframe.keeps_process cfg caller caseId) s
  | verify cfg caller args =>
    obtain rfl := hstep
    exact hframe.keeps_committed (h.keeps_verifyCase cfg caller args) s
  | other => exact hother _ _ hstep

end ReviveX
