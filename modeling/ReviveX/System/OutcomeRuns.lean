import ReviveX.System.FreezeTheorems
import ReviveX.Tools.OutcomeTheorems

/-!
# After a case was escalated or stopped

Whatever calls follow, an escalated case is escalated or stopped, and a stopped one is
stopped. `execute` refuses every tool for the one and every side effect for the other, so no
provider is asked for anything but the status of a payment.
-/

namespace ReviveX

open Lib (Run Session Table)

variable {rt : Runtime} {svc : ToolExecutionService} {caller : Caller} {request : ToolRequest}
  {s s' s'' : Store} {args : ExecuteArgs} {caseId : ℕ} {c : RecoveryCase}

/-! ## Later calls -/

/-- The case was taken out of automatic recovery. -/
def RecoveryCase.TakenOut (c : RecoveryCase) : Prop :=
  c.status = .escalated ∨ c.status = .stopped

/-- No transition brings it back. -/
theorem takenOut_of_canTransition {source target : RecoveryCaseStatus}
    (h : canTransition source target = true) (hsource : source = .escalated ∨ source = .stopped) :
    target = .escalated ∨ target = .stopped := by
  revert h
  rcases hsource with rfl | rfl <;> cases target <;> decide

/-- A case that was taken out stays out. -/
def RecoveryCase.StaysOut (c c' : RecoveryCase) : Prop := c.TakenOut → c'.TakenOut

theorem staysOut_moveTo (c : RecoveryCase) (target : RecoveryCaseStatus) (now : Time)
    (hlegal : canTransition c.status target = true) : c.StaysOut (c.moveTo target now) := by
  intro hout
  unfold RecoveryCase.TakenOut
  rw [moveTo_status]
  exact takenOut_of_canTransition hlegal hout

theorem staysOut_webhookFrame : WebhookFrame (CasesKept RecoveryCase.StaysOut) :=
  .of_rows (fun _ => id) (fun _ _ _ hab hbc hout => hbc (hab hout)) staysOut_moveTo

theorem staysOut_verificationFrame : VerificationFrame (CasesKept RecoveryCase.StaysOut) := by
  refine .of_rows (fun _ => id) (fun _ _ _ hab hbc hout => hbc (hab hout)) staysOut_moveTo
    fun c c' hcredit hout => ?_
  unfold RecoveryCase.TakenOut
  rw [hcredit.status]
  exact hout

/-- Whatever calls follow, a case that was taken out stays out. -/
theorem takenOut_run {calls : List ServiceCall} (hc : s.cases.get? caseId = some c)
    (hout : c.TakenOut) (hrun : Run (CallStep rt) s calls s') :
    ∃ c', s'.cases.get? caseId = some c' ∧ c'.TakenOut := by
  have hframe := staysOut_webhookFrame
  have hkept := hrun.relates (P := fun _ => True) hframe.refl hframe.trans
    (fun _ _ _ _ hstep =>
      ⟨trivial, hframe.callStep staysOut_verificationFrame.keeps_verifyCase hstep⟩) trivial
  obtain ⟨c', hc', hstays⟩ := hkept caseId c hc
  exact ⟨c', hc', hstays hout⟩

/-! ## Questions to a provider -/

/-- The payload names a payment of the provider. -/
def namesPayment (payload : Payload) : Bool :=
  (givenText (textField payload "provider_payment_id")).isSome

/-- A provider is asked: to create a payment or a link, or for the status of a payment. -/
def TraceEvent.asksProvider : TraceEvent → Bool
  | .createPaymentAsked _ | .createPaymentLinkAsked _ => true
  | .handlerCalled call => call.toolName = .checkPaymentStatus && namesPayment call.payload
  | _ => false

/-- The request asks the provider for the status of a payment. -/
def ChecksPayment (rt : Runtime) (args : ExecuteArgs) : Prop :=
  resolveTool args.toolName args.action = .ok .checkPaymentStatus ∧
    ∃ input, validateInput rt .checkPaymentStatus args.payload = .ok input ∧
      namesPayment input = true

/-- Whether it returns or raises, the call asks no provider. -/
def AsksNoProvider {α : Type} (m : Service α) (s : Store) : Prop :=
  ∃ events, (m.run s).2.trace = s.trace ++ events ∧ ∀ e ∈ events, e.asksProvider = false

/-- What a call added to the history. -/
theorem AsksNoProvider.of_trace {α : Type} {m : Service α} {events : List TraceEvent}
    (h : (m.run s).2.trace = s.trace ++ events) (hevents : events.all (!·.asksProvider) = true) :
    AsksNoProvider m s := by
  refine ⟨events, h, fun e he => ?_⟩
  have hquiet := List.all_eq_true.mp hevents e he
  simpa using hquiet

/-- The handler of a tool without a side effect asks only for the status of a payment. -/
theorem handlingEvents_quiet {ctx : HandlerContext} {s₁ : Store} {call : HandlerCall}
    (hreads : (actionForTool request.tool).isSome = false)
    (hcall : (TraceEvent.handlerCalled call).asksProvider = false) :
    (.handlerCalled call :: handlerAsks ctx s₁ request.tool).all (!·.asksProvider) = true := by
  have hasks : handlerAsks ctx s₁ request.tool = [] := by
    revert hreads
    cases request.tool <;> first | exact fun _ => rfl | exact fun h => nomatch h
  rw [hasks]
  simp [hcall]

/-- Between two stores, the history grew by events that ask no provider. -/
def QuietBetween (s s' : Store) : Prop :=
  ∃ events, s'.trace = s.trace ++ events ∧ events.all (!·.asksProvider) = true

theorem QuietBetween.of_eq (h : s'.trace = s.trace) : QuietBetween s s' :=
  ⟨[], by rw [h, List.append_nil], rfl⟩

theorem QuietBetween.trans (h : QuietBetween s s') (h' : QuietBetween s' s'') :
    QuietBetween s s'' := by
  obtain ⟨events, htrace, hquiet⟩ := h
  obtain ⟨events', htrace', hquiet'⟩ := h'
  refine ⟨events ++ events', ?_, ?_⟩
  · rw [htrace', htrace, List.append_assoc]
  · rw [List.all_append, hquiet, hquiet']
    rfl

/-- The handler of a tool that only reads. -/
theorem handler_quiet {s₁ s₂ : Store} {verdict : ToolVerdict} {x : Except Failure HandlerResult}
    (hreached : HandlerReached caller request s verdict s₁ c)
    (hreads : (actionForTool request.tool).isSome = false)
    (hchecks : request.tool = .checkPaymentStatus → namesPayment request.input = false)
    (hran : (handlers rt svc caller.now (handlerContext request c (s.startedId request) s₁)
      request.tool).run (s₁.entered (requestCall caller request verdict s s₁ c)) = (x, s₂)) :
    QuietBetween s s₂ := by
  have heffects := handlers_effects rt svc caller.now
    (handlerContext request c (s.startedId request) s₁) request.tool
    (s₁.entered (requestCall caller request verdict s s₁ c))
  rw [hran] at heffects
  have hstarted : s₁.trace = s.trace := hreached.started.trace
  refine ⟨.handlerCalled (requestCall caller request verdict s s₁ c) ::
    handlerAsks (handlerContext request c (s.startedId request) s₁)
      (s₁.entered (requestCall caller request verdict s s₁ c)) request.tool, ?_,
    handlingEvents_quiet hreads ?_⟩
  · rw [heffects.trace]
    unfold Store.entered
    dsimp only
    rw [hstarted, List.append_assoc]
    rfl
  · show (decide (request.tool = .checkPaymentStatus) && namesPayment request.input) = false
    rw [Bool.and_eq_false_imp]
    intro htool
    exact hchecks (of_decide_eq_true htool)

/-- On an escalated case, a run asks no provider unless it checks a payment. -/
theorem RunOutcome.quiet {x : Except Failure ToolExecutionResult}
    (h : RunOutcome rt svc caller request s x s') (hescalated : request.case.status = .escalated)
    (hchecks : request.tool = .checkPaymentStatus → namesPayment request.input = false) :
    QuietBetween s s' := by
  -- a tool with a side effect is refused in this status
  have hreads : ∀ {verdict : ToolVerdict}, toolBranch request verdict.evaluation = .run →
      (actionForTool request.tool).isSome = false := by
    intro verdict hbranch
    rw [← spec_sideEffect]
    cases hsideEffect : request.tool.spec.sideEffect with
    | false => rfl
    | true =>
      unfold toolBranch at hbranch
      rw [hescalated, hsideEffect, if_pos (by decide)] at hbranch
      cases hbranch
  cases h with
  | refused hrefusal happrovals hkept => exact .of_eq hkept.trace
  | blocked hjudged hbranch hstatus hkept => exact .of_eq hkept.trace
  | parked hjudged hbranch hstatus hkept => exact ⟨_, hkept.trace, rfl⟩
  | handled hentered hran hstatus hkept =>
    have hquiet := handler_quiet hentered.reached (hreads hentered.branch) hchecks hran
    refine hquiet.trans ⟨_, hkept.trace, ?_⟩
    unfold successEvents
    split <;> rfl
  | crashed hentered hran hrollsBack =>
    exact handler_quiet hentered.reached (hreads hentered.branch) hchecks hran

/-- For a case that was taken out, `execute` asks no provider, unless it checks a payment of an
escalated case. -/
theorem execute_quiet (hc : s.cases.get? args.caseId = some c) (hout : c.TakenOut)
    (hchecks : c.status = .escalated → ¬ ChecksPayment rt args) :
    AsksNoProvider (execute rt svc caller args) s := by
  have hquiet : ∀ {x s'}, ExecuteOutcome rt svc caller args s x s' → QuietBetween s s' := by
    intro x s' houtcome
    cases houtcome with
    | rejected hadmits => exact .of_eq rfl
    | conflict hadmits hkey hhash => exact .of_eq rfl
    | replayed hadmits hkey hhash hdecision => exact .of_eq rfl
    | busy hadmits hkey hhash hdecision => exact .of_eq rfl
    | @ran request row s₁ _ _ _ hadmits hholds hrun hfinished =>
      have hadmitted := admitted_of_ok hadmits
      have hcase : request.case = c := Option.some.inj (hadmitted.row.symm.trans hc)
      have hescalated : request.case.status = .escalated := by
        rcases hout with hescalated | hstopped
        · rw [hcase]
          exact hescalated
        · have hopen := hadmitted.isOpen
          rw [hcase, hstopped] at hopen
          cases hopen
      have hnames : request.tool = .checkPaymentStatus →
          namesPayment request.input = false := by
        intro htool
        rw [← Bool.not_eq_true]
        intro hnames
        refine hchecks (hcase ▸ hescalated) ⟨?_, request.input, ?_, hnames⟩
        · rw [← htool]
          exact hadmitted.resolved
        · rw [← htool]
          exact hadmitted.validated
      have htaken : (s.keyTaken request caller.now).trace = s.trace := by
        rw [keyTaken_eq]
      have hran := hrun.quiet hescalated hnames
      obtain ⟨events, htrace, hevents⟩ := hran
      exact ⟨events, by rw [hfinished.trace, htrace, htaken], hevents⟩
  obtain ⟨events, htrace, hevents⟩ := hquiet (execute_outcome rt svc caller args s)
  exact .of_trace htrace hevents

/-! ## The declared effect -/

/-- Whatever calls follow, `execute` asks no provider for the case, unless it checks a payment
while the case is escalated. -/
def StaysQuiet (rt : Runtime) (caseId : ℕ) (s : Store) : Prop :=
  ∀ calls s', Run (CallStep rt) s calls s' → ∀ svc caller args, args.caseId = caseId →
    (s'.StandsIn caseId .escalated → ¬ ChecksPayment rt args) →
    AsksNoProvider (execute rt svc caller args) s'

/-- The case is in the status that the tool declares; one that was escalated or stopped is left
alone from then on. -/
def DeclaredEffect (rt : Runtime) (caseId : ℕ) (target : RecoveryCaseStatus) (s : Store) : Prop :=
  s.StandsIn caseId target ∧
    (target = .escalated ∨ target = .stopped → StaysQuiet rt caseId s)

theorem staysQuiet_of_takenOut (hc : s.cases.get? caseId = some c) (hout : c.TakenOut) :
    StaysQuiet rt caseId s := by
  rintro calls s' hrun svc caller args rfl hchecks
  obtain ⟨c', hc', hout'⟩ := takenOut_run hc hout hrun
  exact execute_quiet hc' hout' fun hescalated => hchecks ⟨c', hc', hescalated⟩

theorem declaredEffect_iff_standsIn {target : RecoveryCaseStatus} :
    DeclaredEffect rt caseId target s ↔ s.StandsIn caseId target := by
  refine ⟨And.left, fun hstands => ⟨hstands, fun htarget => ?_⟩⟩
  obtain ⟨c, hc, rfl⟩ := hstands
  exact staysQuiet_of_takenOut hc htarget

/-- A call that reports `SUCCEEDED` for a tool with a side effect has the declared effect
exactly where the outcome of the tool applies to the case before the call. -/
theorem declaredEffect_iff (rt : Runtime) (svc : ToolExecutionService) (caller : Caller)
    (s : Store) :
    (∀ args r s' tool target, (execute rt svc caller args).run s = (.ok r, s') →
      r.status = .succeeded → resolveTool args.toolName args.action = .ok tool →
      declaredOutcome tool = some target →
      (DeclaredEffect rt args.caseId target s' ↔ OutcomeApplies rt s args tool target)) ∧
    ∀ args r s', (approveAction rt svc caller args).run s = (.ok r, s') →
      r.status = .succeeded → ∃ d, loadDecision s args = .ok d ∧
        (approvedExecution d).caseId = args.caseId ∧ ∀ tool target,
          resolveTool (approvedExecution d).toolName (approvedExecution d).action = .ok tool →
          declaredOutcome tool = some target →
          (DeclaredEffect rt args.caseId target s' ↔
            OutcomeApplies rt s (approvedExecution d) tool target) := by
  constructor
  · intro args r s' tool target hrun hsucceeded htool hdeclared
    rw [declaredEffect_iff_standsIn]
    exact execute_standsIn htool hdeclared hrun hsucceeded
  · intro args r s' hrun hsucceeded
    obtain ⟨d, hload, hcase, hiff⟩ := approve_standsIn hrun hsucceeded
    refine ⟨d, hload, hcase, fun tool target htool hdeclared => ?_⟩
    rw [declaredEffect_iff_standsIn]
    exact hiff tool target htool hdeclared

/-! ### A pause that is skipped -/

/-- An action of the case has completed. -/
def completedStore : Store :=
  { twoCasesStore with
    cases := twoCasesStore.cases.modify 0 fun c => c.moveTo .actionCompleted 0 }

/-- Pausing the case. -/
def pauseCompleted : Service ToolExecutionResult :=
  execute sampleRuntime sampleService noonCaller (underKey "pause_recovery" 0)

/-- A payment link for the case, under another key. -/
def linkAfterwards : Service ToolExecutionResult :=
  execute sampleRuntime sampleService noonCaller
    { underKey "create_payment_link" 0 with idempotencyKey := "link" }

theorem not_asksNoProvider {m : Service ToolExecutionResult}
    (h : (((m.run s).2.trace).drop s.trace.length).any (·.asksProvider) = true) :
    ¬ AsksNoProvider m s := by
  rintro ⟨events, htrace, hquiet⟩
  rw [htrace, List.drop_left] at h
  obtain ⟨e, he, hasks⟩ := List.any_eq_true.mp h
  rw [hquiet e he] at hasks
  cases hasks

/-- A pause after a completed action succeeds, the case stays where it is, and a payment link
is asked for afterwards. -/
theorem skippedPause_asksProvider :
    (pauseCompleted.run completedStore).1.toOption.map (·.status) = some .succeeded ∧
      ¬ (pauseCompleted.run completedStore).2.StandsIn 0 .stopped ∧
      ¬ AsksNoProvider linkAfterwards (pauseCompleted.run completedStore).2 := by
  refine ⟨by decide +kernel, ?_, not_asksNoProvider (by decide +kernel)⟩
  rintro ⟨c, hc, hstopped⟩
  have hstatus : ((pauseCompleted.run completedStore).2.cases.get? 0).map (·.status) =
      some .actionCompleted := by decide +kernel
  rw [hc, Option.map_some, hstopped] at hstatus
  cases hstatus

theorem declaredEffect_iff_pause :
    ∃ r s', (execute sampleRuntime sampleService noonCaller (underKey "pause_recovery" 0)).run
        twoCasesStore = (.ok r, s') ∧
      (DeclaredEffect sampleRuntime 0 .stopped s' ↔
        OutcomeApplies sampleRuntime twoCasesStore (underKey "pause_recovery" 0) .pauseRecovery
          .stopped) := by
  have hstatus : ((execute sampleRuntime sampleService noonCaller
      (underKey "pause_recovery" 0)).run twoCasesStore).1.toOption.map (·.status) =
        some .succeeded := by decide +kernel
  obtain ⟨r, hr, hsucceeded⟩ := Option.map_eq_some_iff.mp hstatus
  have hrun := Session.run_of_result (Lib.toOption_eq_some.mp hr)
  exact ⟨r, _, hrun, (declaredEffect_iff sampleRuntime sampleService noonCaller
    twoCasesStore).1 (underKey "pause_recovery" 0) r _ .pauseRecovery .stopped hrun hsucceeded
    (by decide +kernel) rfl⟩

end ReviveX
