import ReviveX.Agents.ContainmentTheorems
import ReviveX.Domain.DispatchTheorems
import ReviveX.Domain.IngestionTheorems
import ReviveX.System.ServiceCalls
import ReviveX.Tools.GrantTheorems

/-!
# What a call adds to the history

No service writes the merchants or the customers, and only `execute` calls handlers and asks
providers. A call that does not get to an execution is quiet: it requests and decides
approvals. Every other call is one execution with quiet parts around it.
-/

namespace ReviveX

open Lib (Grows Session Table)

variable {rt : Runtime} {svc : ToolExecutionService} {caller : Caller} {s s' s'' : Store}

/-! ## Merchants and customers -/

/-- The merchants and the customers are the same. -/
structure SameParties (s s' : Store) : Prop where
  merchants : s'.merchants = s.merchants
  customers : s'.customers = s.customers

namespace SameParties

theorem refl (s : Store) : SameParties s s := ⟨rfl, rfl⟩

theorem trans (h : SameParties s s') (h' : SameParties s' s'') : SameParties s s'' :=
  ⟨h'.merchants.trans h.merchants, h'.customers.trans h.customers⟩

theorem of_recorded (h : Recorded s s') : SameParties s s' := by
  rw [h]
  exact ⟨rfl, rfl⟩

theorem of_bookkept {caseId : ℕ} (h : Bookkept caseId s s') : SameParties s s' := by
  rw [h.store]
  exact ⟨rfl, rfl⟩

theorem symm (h : SameParties s s') : SameParties s' s := ⟨h.merchants.symm, h.customers.symm⟩

theorem keyTaken (s : Store) (request : ToolRequest) (now : Time) :
    SameParties s (s.keyTaken request now) := by
  rw [keyTaken_eq]
  exact ⟨rfl, rfl⟩

end SameParties

/-- A handler leaves both tables alone. -/
theorem HandlerReached.parties {request : ToolRequest} {verdict : ToolVerdict} {s₁ s₂ : Store}
    {c : RecoveryCase} {x : Except Failure HandlerResult}
    (h : HandlerReached caller request s verdict s₁ c)
    (hran : (handlers rt svc caller.now (handlerContext request c (s.startedId request) s₁)
      request.tool).run (s₁.entered (requestCall caller request verdict s s₁ c)) = (x, s₂)) :
    SameParties s s₂ := by
  have heffects := handlers_effects rt svc caller.now
    (handlerContext request c (s.startedId request) s₁) request.tool
    (s₁.entered (requestCall caller request verdict s s₁ c))
  rw [hran] at heffects
  have hstarted := SameParties.of_bookkept h.started
  have hcustomers : s₂.customers = s₁.customers := by
    dsimp only at heffects
    rw [heffects]
    rfl
  exact ⟨heffects.merchants.trans hstarted.merchants, hcustomers.trans hstarted.customers⟩

theorem RunOutcome.parties {request : ToolRequest} {x : Except Failure ToolExecutionResult}
    (h : RunOutcome rt svc caller request s x s') : SameParties s s' := by
  cases h with
  | refused hrefusal happrovals hkept => exact ⟨hkept.merchants, (SameParties.of_bookkept hkept).2⟩
  | blocked hjudged hbranch hstatus hkept =>
    exact ⟨hkept.merchants, (SameParties.of_bookkept hkept).2⟩
  | parked hjudged hbranch hstatus hkept =>
    exact ⟨hkept.merchants, (SameParties.of_bookkept hkept).2⟩
  | handled hentered hran hstatus hkept =>
    have hreported := SameParties.of_bookkept hkept
    have hhandler := hentered.reached.parties hran
    exact ⟨hreported.merchants.trans hhandler.merchants,
      hreported.customers.trans hhandler.customers⟩
  | crashed hentered hran hrollsBack => exact hentered.reached.parties hran

theorem Finished.parties {request : ToolRequest} {row : IdempotencyKey} {now : Time} {s₁ : Store}
    {x x' : Except Failure ToolExecutionResult} (h : Finished request row now s₁ x x' s') :
    SameParties s₁ s' := by
  cases h with
  | returned hrecorded =>
    have hsame := SameParties.of_recorded hrecorded
    exact ⟨hsame.merchants, hsame.customers⟩
  | failed hclass hrecorded =>
    have hsame := SameParties.of_recorded hrecorded
    exact ⟨hsame.merchants, hsame.customers⟩
  | crashed => exact .refl _

theorem ExecuteOutcome.parties {args : ExecuteArgs} {x : Except Failure ToolExecutionResult}
    (h : ExecuteOutcome rt svc caller args s x s') : SameParties s s' := by
  cases h with
  | rejected hadmits => exact .refl s
  | conflict hadmits hkey hhash => exact .refl s
  | replayed hadmits hkey hhash hdecision => exact .refl s
  | busy hadmits hkey hhash hdecision => exact .refl s
  | ran hadmits hholds hrun hfinished =>
    exact ((SameParties.keyTaken s _ _).trans hrun.parties).trans hfinished.parties

/-! ## Quiet calls -/

/-- No handler was called, the merchants and customers are the same, and an approval that was
granted was noted. -/
structure Quiet (s s' : Store) : Prop extends SameParties s s' where
  history : Grows TraceEvent.IsApproval s.trace s'.trace
  decided : ApprovalsDecided s → ApprovalsDecided s'

namespace Quiet

/-- Nothing was granted. -/
theorem of_history (h : SameParties s s') (hhistory : Grows TraceEvent.IsApproval s.trace s'.trace)
    (hgranted : NothingGranted s.approvals s'.approvals) : Quiet s s' :=
  ⟨h, hhistory, fun hdecided => hdecided.mono hgranted fun _ he => hhistory.mem he⟩

theorem of_trace (h : SameParties s s') (htrace : s'.trace = s.trace)
    (hgranted : NothingGranted s.approvals s'.approvals) : Quiet s s' :=
  of_history h (.of_eq htrace) hgranted

theorem refl (s : Store) : Quiet s s := of_trace (.refl s) rfl (.of_eq rfl)

theorem trans (h : Quiet s s') (h' : Quiet s' s'') : Quiet s s'' :=
  ⟨h.toSameParties.trans h'.toSameParties, h.history.trans h'.history,
    fun hdecided => h'.decided (h.decided hdecided)⟩

theorem of_prepared (h : Prepared s s') : Quiet s s' := by
  refine of_trace ⟨?_, ?_⟩ ?_ (.of_eq ?_) <;> rw [h.store]

theorem of_plans {py : PyText} {caseId : ℕ} (hcustomers : s'.customers = s.customers)
    (h : Plans py caller caseId s s') : Quiet s s' := by
  cases h with
  | nothing hsame =>
    exact of_trace ⟨hsame.merchants, hcustomers⟩ hsame.trace (.of_eq hsame.approvals)
  | recorded c actionType status riskLevel hrow htype hstatus hsame =>
    exact of_trace ⟨hsame.merchants, hcustomers⟩ hsame.trace (.of_eq hsame.approvals)
  | parked c actionType riskLevel ttlMinutes hrow htype hsame =>
    refine of_history ⟨hsame.merchants, hcustomers⟩ ?_ ?_
    · rw [hsame.trace]
      exact .snoc trivial
    · rw [hsame.approvals]
      exact .insert nofun

theorem process (cfg : Config) (caller : Caller) (caseId : ℕ) (s : Store) :
    Quiet s ((ReviveX.process cfg caller caseId).run s).2 := by
  have hlock : Session.Keeps (ProcessFrame caseId) (lockRecoveryCase caseId) := by
    refine .get_bind fun s => ?_
    split
    · exact .pure (ProcessFrame.refl caseId) _
    · exact .raise (ProcessFrame.refl caseId) _
  have hframe : Session.Keeps (ProcessFrame caseId) (ReviveX.process cfg caller caseId) :=
    (ProcessFrame.processorFrame caseId).bind hlock fun _ =>
      keeps_processLockedCase (ProcessFrame.processorFrame caseId) cfg
  exact of_plans (hframe s).customers (process_plans cfg caller caseId s)

theorem verifyCase (cfg : Config) (caller : Caller) (args : VerifyArgs) (s : Store) :
    Quiet s ((ReviveX.verifyCase cfg caller args).run s).2 :=
  of_plans (keeps_verifyCase cfg caller args (ProcessFrame.processorFrame _) s).customers
    (verifyCase_plans cfg caller args s)

theorem walkToPolicyCheck (caller : Caller) (caseId : ℕ) (s : Store) :
    Quiet s ((ReviveX.walkToPolicyCheck caller caseId).run s).2 := by
  have hframe : CaseFrame caseId Quiet :=
    ⟨refl, fun _ _ _ => trans, fun _ _ => of_trace ⟨rfl, rfl⟩ rfl (.of_eq rfl),
      fun _ _ => of_trace ⟨rfl, rfl⟩ rfl (.of_eq rfl)⟩
  have hwalk : ∀ steps, Session.Keeps Quiet (walkSteps caller caseId steps) := by
    intro steps
    induction steps with
    | nil => exact hframe.keeps_pure ()
    | cons target rest ih =>
      exact hframe.bind (hframe.keeps_readCase _) fun _ =>
        .ite ih (.ite (hframe.keeps_pure ())
          (hframe.bind (hframe.keeps_transitionCase caller _) fun _ => ih))
  exact hwalk processSteps s

theorem rejectAction (caller : Caller) (args : DecisionArgs) (s : Store) :
    Quiet s ((ReviveX.rejectAction caller args).run s).2 := by
  have hend : ∀ {x s'}, RejectOutcome caller args s x s' → Quiet s s' := by
    intro x s' houtcome
    cases houtcome with
    | refused hload => exact refl s
    | rejected hload hkept =>
      have hparties := SameParties.of_bookkept hkept
      refine of_history ⟨hparties.merchants, hparties.customers⟩ ?_ ?_
      · rw [hkept.trace]
        exact .snoc trivial
      · rw [hkept.approvals]
        exact .modify nofun
  exact hend (rejectAction_outcome caller args s)

end Quiet

/-! ### Webhooks -/

/-- Nothing happened, as far as the history, the approvals, the merchants and the customers
go. -/
structure Silent (s s' : Store) : Prop extends SameParties s s' where
  trace : s'.trace = s.trace
  approvals : s'.approvals = s.approvals

namespace Silent

theorem quiet (h : Silent s s') : Quiet s s' :=
  .of_trace h.toSameParties h.trace (.of_eq h.approvals)

theorem refl (s : Store) : Silent s s := ⟨.refl s, rfl, rfl⟩

theorem trans (h : Silent s s') (h' : Silent s' s'') : Silent s s'' :=
  ⟨h.toSameParties.trans h'.toSameParties, h'.trace.trans h.trace,
    h'.approvals.trans h.approvals⟩

theorem bind {α β : Type} {m : Service α} {f : α → Service β}
    (hm : Session.Keeps Silent m) (hf : ∀ a, Session.Keeps Silent (f a)) :
    Session.Keeps Silent (m >>= f) := .bind (fun _ _ _ => .trans) hm hf

theorem modify {g : Store → Store} (h : ∀ s, Silent s (g s)) :
    Session.Keeps Silent (Session.modify g : Service Unit) := .modify h

theorem keeps_ingest (env : EventText) (now : Time) (enqueue : Bool) (event : ProviderEvent)
    (merchantId : ℕ) : Session.Keeps Silent (ingest env now enqueue event merchantId) := by
  intro s
  have hend : ∀ {x s'}, Ingested env now enqueue event merchantId s x s' → Silent s s' := by
    intro x s' houtcome
    cases houtcome with
    | refused f hrefused => exact refl s
    | duplicate hadmitted hfound hrow => exact ⟨⟨rfl, rfl⟩, rfl, rfl⟩
    | stored hadmitted hvalid hmerchant hnew hunique => exact ⟨⟨rfl, rfl⟩, rfl, rfl⟩
  exact hend (ingest_outcome env now enqueue event merchantId s)

theorem keeps_dispatch (now : Time) (webhookEventId merchantId : ℕ) (event : NormalizedEvent) :
    Session.Keeps Silent (dispatch now webhookEventId merchantId event) := by
  intro s
  cases event with
  | unknown event => exact ⟨⟨rfl, rfl⟩, rfl, rfl⟩
  | payment e =>
    obtain ⟨audits, hrun⟩ := run_dispatch now webhookEventId merchantId e s
    cases heffect : e.effect s with
    | error f =>
      rw [heffect] at hrun
      rw [hrun]
      exact refl s
    | ok effect =>
      rw [heffect] at hrun
      rw [hrun]
      exact ⟨⟨rfl, rfl⟩, rfl, rfl⟩

theorem keeps_processRow (env : EventText) (now : Time) (webhookEventId : ℕ)
    (row : WebhookEvent) : Session.Keeps Silent (processRow env now webhookEventId row) :=
  .get_bind fun _ => .ite (.raise refl _) <|
    bind (.ofExcept refl _) fun event =>
    bind (keeps_dispatch now webhookEventId _ event) fun _ =>
    bind (modify fun _ => ⟨⟨rfl, rfl⟩, rfl, rfl⟩) fun _ =>
    bind (modify fun _ => ⟨⟨rfl, rfl⟩, rfl, rfl⟩) fun _ => .pure refl _

theorem keeps_recordRowFailure (now : Time) (webhookEventId : ℕ) (row : WebhookEvent)
    (f : Failure) : Session.Keeps Silent (recordRowFailure now webhookEventId row f) := by
  have hmark : ∀ e status action,
      Session.Keeps Silent (markFailure now webhookEventId row e status action) :=
    fun _ _ _ => bind (modify fun _ => ⟨⟨rfl, rfl⟩, rfl, rfl⟩) fun _ =>
      modify fun _ => ⟨⟨rfl, rfl⟩, rfl, rfl⟩
  cases f with
  | crash exception => exact .raise refl _
  | domain e =>
    exact .ite (bind (hmark _ _ _) fun _ => .raise refl _)
      (bind (hmark _ _ _) fun _ => .pure refl _)

theorem keeps_processWebhookEvent (env : EventText) (now : Time) (webhookEventId : ℕ) :
    Session.Keeps Silent (processWebhookEvent env now webhookEventId) := by
  refine .get_bind fun s => ?_
  split
  · exact .raise refl _
  · exact .ite (.pure refl _) <| .ite (.pure refl _) <|
      bind (modify fun _ => ⟨⟨rfl, rfl⟩, rfl, rfl⟩) fun _ =>
        .recover (fun _ _ _ => .trans) (keeps_processRow env now webhookEventId _) fun f =>
          keeps_recordRowFailure now webhookEventId _ f

theorem keeps_markDeadLetter (now : Time) (webhookEventId : ℕ) (error : String) :
    Session.Keeps Silent (markDeadLetter now webhookEventId error) := by
  refine .get_bind fun s => ?_
  split
  · exact .pure refl ()
  · exact .ite (.pure refl ()) <|
      bind (modify fun _ => ⟨⟨rfl, rfl⟩, rfl, rfl⟩) fun _ => modify fun _ => ⟨⟨rfl, rfl⟩, rfl, rfl⟩

end Silent

/-! ## The execution of an agent run -/

/-- The tool call of a run for what its optimizer selected, if there is one. -/
def selectedCall (rt : Runtime) (orch : RecoveryAgentOrchestrator) (caller : Caller)
    (executes : Bool) (caseId : ℕ) (c : RecoveryCase) (runId : ℕ)
    (optimization : OptimizationResult) : Service (Option ExecuteArgs) :=
  match optimization.selectedAction with
  | some action =>
    if executes then do
      addStep orch.settings 6 "execute"
      addTool orch.settings (toolByAction action).text
      pure <| some <|
        selectedExecution rt.py orch.optimizer optimization caseId c runId
          (orch.executor caller).now action
    else pure none
  | none => pure none

/-- `run_case` up to its tool call. -/
def caseExecution (rt : Runtime) (orch : RecoveryAgentOrchestrator) (now : Time)
    (executes : Bool) (caseId : ℕ) (merchantId : Option ℕ) : Service (Option ExecuteArgs) := do
  let c ← lockRecoveryCase caseId
  if merchantId.isSome ∧ merchantId ≠ some c.merchantId then
    Session.raise <| .domain
      { code := "MERCHANT_MISMATCH", message := "Case does not belong to this merchant" }
  else if isTerminal c.status then
    Session.raise (agentError "CASE_TERMINAL" "Terminal cases are not orchestrated")
  else
    let runId ← startAgentRun now c.merchantId caseId .orchestrator
    let (optimization, _) ← decideStages rt orch (agentCaller now) caseId c
    selectedCall rt orch (agentCaller now) executes caseId c runId optimization

/-- A session either ends without the tool call that `execution` looks for, or makes it in
between; the rest of it only prepares and records. -/
def CallsWithin {α : Type} (rt : Runtime) (svc : ToolExecutionService) (caller : Caller)
    (execution : Service (Option ExecuteArgs)) (m : Service α) (s : Store) : Prop :=
  ((∀ args, (execution.run s).1 ≠ .ok (some args)) ∧ Prepared s (m.run s).2) ∨
  ∃ args s₁, execution.run s = (.ok (some args), s₁) ∧ Prepared s s₁ ∧
    Prepared ((execute rt svc caller args).run s₁).2 (m.run s).2

namespace CallsWithin

variable {α β : Type} {m : Service α} {f : α → Service β} {execution : Service (Option ExecuteArgs)}

theorem ended (hm : Session.Keeps Prepared m)
    (h : ∀ args, (execution.run s).1 ≠ .ok (some args)) :
    CallsWithin rt svc caller execution m s := .inl ⟨h, hm s⟩

/-- What a session does after a call of another one. -/
theorem prepared_bind (hf : ∀ a, Session.Keeps Prepared (f a)) (s : Store) :
    Prepared (m.run s).2 ((m >>= f).run s).2 := by
  rcases hm : m.run s with ⟨e | a, s₁⟩
  · rw [Session.run_bind_error hm]
    exact .refl s₁
  · rw [Session.run_bind_ok hm]
    exact hf a s₁

theorem and_then (h : CallsWithin rt svc caller execution m s)
    (hf : ∀ a, Session.Keeps Prepared (f a)) :
    CallsWithin rt svc caller execution (m >>= f) s := by
  rcases h with ⟨hnone, hprepared⟩ | ⟨args, s₁, hexecution, hbefore, hafter⟩
  · exact .inl ⟨hnone, hprepared.trans (prepared_bind hf s)⟩
  · exact .inr ⟨args, s₁, hexecution, hbefore, hafter.trans (prepared_bind hf s)⟩

theorem onError {g : Failure → Service Unit} (h : CallsWithin rt svc caller execution m s)
    (hg : ∀ e, Session.Keeps Prepared (g e)) :
    CallsWithin rt svc caller execution (m.onError g) s := by
  have hrest : Prepared (m.run s).2 ((m.onError g).run s).2 := by
    rcases hrun : (m.onError g).run s with ⟨x, s'⟩
    rcases Session.run_onError_cases hrun with ⟨a, hm, -⟩ | ⟨e, e', s₁, hm, -, hstate, -⟩
    · rw [hm]
      exact .refl s'
    · rw [hm, ← hstate]
      exact hg e s₁
  rcases h with ⟨hnone, hprepared⟩ | ⟨args, s₁, hexecution, hbefore, hafter⟩
  · exact .inl ⟨hnone, hprepared.trans hrest⟩
  · exact .inr ⟨args, s₁, hexecution, hbefore, hafter.trans hrest⟩

/-- Behind a common first half. -/
theorem behind {execution : α → Service (Option ExecuteArgs)} (hm : Session.Keeps Prepared m)
    (h : ∀ a s₁, m.run s = (.ok a, s₁) → CallsWithin rt svc caller (execution a) (f a) s₁) :
    CallsWithin rt svc caller (m >>= execution) (m >>= f) s := by
  have hprepared := hm s
  rcases hrun : m.run s with ⟨e | a, s₁⟩
  · rw [hrun] at hprepared
    refine .inl ⟨fun args => ?_, ?_⟩
    · rw [Session.run_bind_error hrun]
      nofun
    · rw [Session.run_bind_error hrun]
      exact hprepared
  · rw [hrun] at hprepared
    unfold CallsWithin
    rw [Session.run_bind_ok hrun, Session.run_bind_ok hrun]
    rcases h a s₁ hrun with ⟨hnone, hrest⟩ | ⟨args, s₂, hexecution, hbefore, hafter⟩
    · exact .inl ⟨hnone, hprepared.trans hrest⟩
    · exact .inr ⟨args, s₂, hexecution, hprepared.trans hbefore, hafter⟩

end CallsWithin

variable {orch : RecoveryAgentOrchestrator} {executes : Bool} {caseId : ℕ} {c : RecoveryCase}

theorem executeStage_callsWithin (rt : Runtime) (orch : RecoveryAgentOrchestrator)
    (caller : Caller) (executes : Bool) (caseId : ℕ) (c : RecoveryCase) (runId : ℕ)
    (optimization : OptimizationResult) (s : Store) :
    CallsWithin rt orch.tools (orch.executor caller)
      (selectedCall rt orch caller executes caseId c runId optimization)
      (executeStage rt orch caller executes caseId c runId optimization) s := by
  unfold selectedCall executeStage
  cases optimization.selectedAction with
  | none => exact .ended (Prepared.keeps_pure _) nofun
  | some action =>
    cases executes with
    | false => exact .ended (Prepared.keeps_pure _) nofun
    | true =>
      refine .behind (Prepared.keeps_addStep _ _ _) fun _ s₁ _ => ?_
      refine CallsWithin.and_then ?_ fun _ => Prepared.keeps_pure _
      refine .behind (Prepared.keeps_addTool _ _) fun _ s₂ _ => ?_
      exact .inr ⟨_, s₂, rfl, .refl s₂, .refl _⟩

/-- A run of the agents gets to its tool call, or ends before. -/
theorem runCase_callsWithin (rt : Runtime) (orch : RecoveryAgentOrchestrator) (now : Time)
    (executes : Bool) (caseId : ℕ) (merchantId : Option ℕ) (s : Store) :
    CallsWithin rt orch.tools (orch.executor (agentCaller now))
      (caseExecution rt orch now executes caseId merchantId)
      (runCase rt orch now executes caseId merchantId) s := by
  have hlock : Session.Keeps Prepared (lockRecoveryCase caseId) := by
    refine .get_bind fun s => ?_
    split
    · exact Prepared.keeps_pure _
    · exact Prepared.keeps_raise _
  refine .behind hlock fun c s₁ _ => ?_
  split
  · exact .ended (Prepared.keeps_raise _) nofun
  · split
    · exact .ended (Prepared.keeps_raise _) nofun
    · refine .behind (Prepared.keeps_startAgentRun _ _ _ _) fun runId s₂ _ => ?_
      refine CallsWithin.onError ?_ fun f => Prepared.keeps_recordAgentError _ caseId c runId f
      refine .behind (Prepared.keeps_decideStages rt orch _ caseId c) fun d s₃ _ => ?_
      refine CallsWithin.and_then (executeStage_callsWithin rt orch _ executes caseId c runId
        d.1 s₃) fun executed => ?_
      exact Prepared.bind (Prepared.keeps_readCase _) fun _ =>
        .ite (Prepared.keeps_raise _) <|
          Prepared.bind (Prepared.keeps_completeAgentRun _ _ _ _ _ _ _ _) fun _ =>
            Prepared.keeps_pure _

/-! ## Every call -/

/-- The service whose tools a call may execute. -/
def ServiceCall.tools : ServiceCall → Option ToolExecutionService
  | .execute svc .. => some svc
  | .approveAction svc .. => some svc
  | .runCase orch .. => some orch.tools
  | _ => none

/-- What a call does to the history: quiet work, around one execution at most. -/
inductive CallEffect (rt : Runtime) (tools : Option ToolExecutionService) (s : Store) :
    Store → Prop
  | quiet {s' : Store} (h : Quiet s s') : CallEffect rt tools s s'
  | executed {svc : ToolExecutionService} {caller : Caller} {args : ExecuteArgs}
      {x : Except Failure ToolExecutionResult} {s₁ s₂ s' : Store} (htools : tools = some svc)
      (hbefore : Quiet s s₁) (hexecute : ExecuteOutcome rt svc caller args s₁ x s₂)
      (hafter : Quiet s₂ s') : CallEffect rt tools s s'

theorem approveAction_effect (rt : Runtime) (svc : ToolExecutionService) (caller : Caller)
    (args : DecisionArgs) (s : Store) :
    CallEffect rt (some svc) s ((approveAction rt svc caller args).run s).2 := by
  have hend : ∀ {x s'}, ApproveOutcome rt svc caller args s x s' →
      CallEffect rt (some svc) s s' := by
    intro x s' houtcome
    cases houtcome with
    | refused hload => exact .quiet (.refl s)
    | expired hload hpending hexpired =>
      exact .quiet (.of_trace ⟨rfl, rfl⟩ rfl (.modify nofun))
    | decided hload hdecided => exact .quiet (.refl s)
    | granted hload hgrantable hrecorded hexecute =>
      have hparties := SameParties.of_recorded hrecorded
      refine .executed rfl ⟨⟨hparties.merchants, hparties.customers⟩, ?_, ?_⟩ hexecute (.refl _)
      · rw [hrecorded.trace]
        exact .snoc trivial
      · exact fun hdecided => hdecided.granted.of_same hrecorded.approvals hrecorded.trace
  exact hend (approveAction_outcome rt svc caller args s)

/-- Whatever is called, at most one tool is executed. -/
theorem callEffect (rt : Runtime) (s : Store) (call : ServiceCall) :
    CallEffect rt call.tools s (call.after rt s) := by
  cases call with
  | ingest env now enqueue event merchantId =>
    exact .quiet (Silent.keeps_ingest env now enqueue event merchantId s).quiet
  | processWebhookEvent env now webhookEventId =>
    exact .quiet (Silent.keeps_processWebhookEvent env now webhookEventId s).quiet
  | markDeadLetter now webhookEventId error =>
    exact .quiet (Silent.keeps_markDeadLetter now webhookEventId error s).quiet
  | process cfg caller caseId => exact .quiet (Quiet.process cfg caller caseId s)
  | walkToPolicyCheck caller caseId => exact .quiet (Quiet.walkToPolicyCheck caller caseId s)
  | optimizeCase opt caller caseId candidates =>
    exact .quiet (.of_prepared (Prepared.keeps_optimizeCase opt rt.py caller caseId candidates s))
  | execute svc caller args =>
    exact .executed rfl (.refl s) (execute_outcome rt svc caller args s) (.refl _)
  | approveAction svc caller args => exact approveAction_effect rt svc caller args s
  | rejectAction caller args => exact .quiet (Quiet.rejectAction caller args s)
  | cancelAction caller args => exact .quiet (Quiet.rejectAction caller _ s)
  | runCase orch now executes caseId merchantId =>
    rcases runCase_callsWithin rt orch now executes caseId merchantId s with
      ⟨-, hprepared⟩ | ⟨args, s₁, -, hbefore, hafter⟩
    · exact .quiet (.of_prepared hprepared)
    · exact .executed rfl (.of_prepared hbefore) (execute_outcome rt orch.tools _ args s₁)
        (.of_prepared hafter)
  | verifyCase cfg caller args => exact .quiet (Quiet.verifyCase cfg caller args s)

theorem CallEffect.parties {tools : Option ToolExecutionService}
    (h : CallEffect rt tools s s') : SameParties s s' := by
  cases h with
  | quiet h => exact h.toSameParties
  | executed htools hbefore hexecute hafter =>
    exact hbefore.toSameParties.trans (hexecute.parties.trans hafter.toSameParties)

theorem CallEffect.approvalsDecided {tools : Option ToolExecutionService}
    (h : CallEffect rt tools s s') (hdecided : ApprovalsDecided s) : ApprovalsDecided s' := by
  cases h with
  | quiet h => exact h.decided hdecided
  | executed htools hbefore hexecute hafter =>
    exact hafter.decided (hexecute.approvalsDecided (hbefore.decided hdecided))

end ReviveX
