import ReviveX.Domain.DenialTheorems
import ReviveX.Lib.Runs
import ReviveX.System.CallEffects
import ReviveX.Tools.RowTheorems

/-!
# The approval gate over whole runs

A case above a threshold of its merchant is left to a human. Whatever is called in whatever
order, a handler of an automatic action is entered for such a case only under an approval of
that case, in time, that was decided before: by an operator, as no other call grants one.
-/

namespace ReviveX

open Lib (Decimal Grows GrowsBy Run Session Table)

variable {rt : Runtime} {svc : ToolExecutionService} {caller : Caller} {request : ToolRequest}
  {s s' : Store} {args : ExecuteArgs} {c : RecoveryCase}

/-- The smaller threshold of the merchant, as the handler found it. -/
def HandlerCall.smallerThreshold (call : HandlerCall) : Decimal :=
  RecoverySettings.smallerThreshold
    { highValueApprovalThreshold := call.highValueApprovalThreshold
      mediumValueApprovalThreshold := call.mediumValueApprovalThreshold }

/-- The handler runs an automatic action, for a case above a threshold. -/
structure HandlerCall.AboveThreshold (call : HandlerCall) : Prop where
  automatic : ∃ action, actionForTool call.toolName = some action ∧
    action ≠ .escalate ∧ action ≠ .doNothing
  above : call.case.amountAtRisk.toDecimal.gt? call.smallerThreshold = some true

/-- The handler runs under an approval of its case, in time and decided before. -/
def HandlerCall.ApprovedIn (call : HandlerCall) (log : List TraceEvent) : Prop :=
  ∃ approvalId a, call.approvalId = some approvalId ∧
    call.approvals.get? approvalId = some a ∧ a.recoveryCaseId = call.caseId ∧
    a.status = .approved ∧ a.isExpired call.now = false ∧
    .approvalDecided approvalId .approved ∈ log

/-- A handler above a threshold is approved, as far as the history goes. -/
def TraceEvent.Gated (log : List TraceEvent) : TraceEvent → Prop
  | .handlerCalled call => call.AboveThreshold → call.ApprovedIn log
  | _ => True

theorem TraceEvent.gated_of_quiet {e : TraceEvent} (h : e.IsApproval ∨ e.IsAsk ∨ e.IsSuccess)
    (log : List TraceEvent) : e.Gated log := by
  cases e with
  | handlerCalled call => exact absurd h (by simp [IsApproval, IsAsk, IsSuccess])
  | _ => trivial

/-- What the policy engine lets through above a threshold is an approved execution. -/
theorem HandlerEntered.approved {verdict : ToolVerdict} {s₁ : Store}
    (h : HandlerEntered rt svc caller request s verdict s₁ c)
    (habove : (s.handlerCall caller request verdict c).AboveThreshold) :
    request.args.approvedExecution = true := by
  obtain ⟨action, haction, hescalate, hnothing⟩ := habove.automatic
  have htool : actionForTool request.tool = some action := haction
  obtain ⟨proposed, hproposed, hbuild, hevaluated⟩ := judgeTool_ok htool h.judged
  obtain ⟨hallowed, hneeded⟩ := toolBranch_run h.branch htool
  have hofText : RecoveryActionType.ofText? proposed.actionType = some action := by
    rw [(proposedFromPayload_ok hproposed).1]
    exact RecoveryActionType.ofText?_text action
  have hcase : verdict.ctx.case = request.case := buildPolicyContext_case hbuild
  refine hneeded ((requiresApproval_iff hevaluated hofText).mpr
    ⟨hallowed, hescalate, hnothing, ?_⟩)
  have hamount : verdict.ctx.case.amountAtRisk = c.amountAtRisk := by
    rw [hcase, h.lifecycle.amountAtRisk]
  rw [hamount]
  exact habove.above

/-- A handler is entered as the gate wants it. -/
theorem HandlerEntered.gated {verdict : ToolVerdict} {s₁ : Store}
    (h : HandlerEntered rt svc caller request s verdict s₁ c) (hdecided : ApprovalsDecided s) :
    (TraceEvent.handlerCalled (s.handlerCall caller request verdict c)).Gated s.trace := by
  intro habove
  have happroved := h.approved habove
  obtain ⟨approvalId, a, hid, hrow, hcase, hstatus, hintime⟩ := (h.usable happroved).approval
  refine ⟨approvalId, a, ?_, hrow, hcase, hstatus, hintime, hdecided approvalId a hrow hstatus⟩
  exact (if_pos happroved).trans hid

theorem RunEvents.gated {events : List TraceEvent}
    (h : RunEvents rt svc caller request s events) (hdecided : ApprovalsDecided s) :
    GrowsBy TraceEvent.Gated s.trace (s.trace ++ events) := by
  cases h with
  | none =>
    rw [List.append_nil]
    exact .refl
  | requested happroval =>
    exact .snoc .refl (TraceEvent.gated_of_quiet (.inl happroval) _)
  | @called verdict s₁ c after hentered hafter =>
    have hcalled : GrowsBy TraceEvent.Gated s.trace
        (s.trace ++ [.handlerCalled (s.handlerCall caller request verdict c)]) :=
      .snoc .refl (hentered.gated hdecided)
    have hrest : ∀ e ∈ s.asks caller request verdict c ++ after, e.IsAsk ∨ e.IsSuccess := by
      intro e he
      rcases List.mem_append.mp he with he | he
      · exact .inl (asks_isAsk _ _ _ _ _ e he)
      · exact .inr (hafter e he)
    rw [List.append_cons]
    exact hcalled.trans
      (.of_grows (Grows.append hrest) fun log e he => e.gated_of_quiet (.inr he) log)

theorem ExecuteOutcome.gated {x : Except Failure ToolExecutionResult}
    (h : ExecuteOutcome rt svc caller args s x s') (hdecided : ApprovalsDecided s) :
    GrowsBy TraceEvent.Gated s.trace s'.trace := by
  obtain ⟨events, htrace, hevents⟩ := h.events
  rw [htrace]
  cases hevents with
  | none =>
    rw [List.append_nil]
    exact .refl
  | @ran request row _ hadmits hholds hran =>
    have hkey := trace_keyTaken s request caller.now
    have hsame : ApprovalsDecided (s.keyTaken request caller.now) :=
      hdecided.of_same (by rw [keyTaken_eq]) hkey
    have hgated := hran.gated hsame
    rwa [hkey] at hgated

theorem CallEffect.gated {tools : Option ToolExecutionService}
    (h : CallEffect rt tools s s') (hdecided : ApprovalsDecided s) :
    GrowsBy TraceEvent.Gated s.trace s'.trace := by
  have hquiet : ∀ {s₁ s₂}, Quiet s₁ s₂ → GrowsBy TraceEvent.Gated s₁.trace s₂.trace :=
    fun h => .of_grows h.history fun log e he => e.gated_of_quiet (.inl he) log
  cases h with
  | quiet h => exact hquiet h
  | executed htools hbefore hexecute hafter =>
    exact (hquiet hbefore).trans
      ((hexecute.gated (hbefore.decided hdecided)).trans (hquiet hafter))

/-- Over every run, an approval that is APPROVED was decided so, and a handler above a
threshold was entered under an approval of its case that was in time and decided before. -/
theorem approvalGate_holds (rt : Runtime) (s s' : Store) (calls : List ServiceCall)
    (hstart : ApprovalsDecided s) (hrun : Run (CallStep rt) s calls s') :
    ApprovalsDecided s' ∧ GrowsBy TraceEvent.Gated s.trace s'.trace := by
  -- a call enters its handlers under approvals that were decided when it began
  induction hrun with
  | nil => exact ⟨hstart, .refl⟩
  | @snoc _ s₁ s₂ call before last ih =>
    obtain ⟨hdecided, hgrows⟩ := ih
    rcases last with rfl | rfl
    · have heffect := callEffect rt s₁ call
      exact ⟨heffect.approvalsDecided hdecided, hgrows.trans (heffect.gated hdecided)⟩
    · exact ⟨hdecided, hgrows⟩

/-! ### A reminder above the threshold -/

/-- The reminder is asked for, and then approved. -/
theorem approvalGate_holds_reminder :
    ApprovalsDecided remindedStore ∧
      GrowsBy TraceEvent.Gated mediumValueStore.trace remindedStore.trace := by
  have hstart : ApprovalsDecided mediumValueStore := by
    intro i a hrow
    exact absurd hrow (by rw [show mediumValueStore.approvals.get? i = none from rfl]; nofun)
  have hparked : Run (CallStep sampleRuntime) mediumValueStore
      [.execute sampleService noonCaller (reminderUnder "first" none)] parkedStore :=
    .single (committed_or_rolledBack _ _)
  have hreminded : CallStep sampleRuntime parkedStore
      (.approveAction sampleService noonCaller firstAction) remindedStore :=
    committed_or_rolledBack _ _
  exact approvalGate_holds sampleRuntime _ _ _ hstart (hparked.snoc hreminded)

end ReviveX
