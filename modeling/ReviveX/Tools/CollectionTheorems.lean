import ReviveX.Tools.RunHistory

/-!
# What a provider is asked to collect

Two handlers ask a provider for money: a retry asks for the amount of the case's payment, a
payment link for the amount at risk. Neither they nor the checks before them look at what was
captured or recovered meanwhile, so a question is safe exactly where the store before the call
happens to say so (`execute_collectsSafely_iff`).
-/

namespace ReviveX

open Lib (Grows Session Table)

variable {rt : Runtime} {svc : ToolExecutionService} {caller : Caller} {request : ToolRequest}
  {s s' s'' : Store} {args : ExecuteArgs} {c : RecoveryCase} {verdict : ToolVerdict}
  {created : List (ℕ × ℕ)}

/-! ## Safe questions -/

/-- Neither the payment of the case nor one that an earlier retry created for it is `CAPTURED`;
`created` has the payments that retries created, each with its case. -/
def Uncaptured (created : List (ℕ × ℕ)) (payments : Table Payment) (caseId : ℕ)
    (c : RecoveryCase) : Prop :=
  ∀ e ∈ payments.entries, c.paymentId = some e.1 ∨ (caseId, e.1) ∈ created →
    e.2.status ≠ .captured

/-- The amount is at most `amount_at_risk - amount_recovered`. -/
def RecoveryCase.StillOwes (c : RecoveryCase) (amount : Money) : Prop :=
  amount + c.amountRecovered ≤ c.amountAtRisk

/-- A provider is asked for no more than what is still owed, and only where no payment of the
case was captured. -/
def TraceEvent.CollectsSafely (created : List (ℕ × ℕ)) : TraceEvent → Prop
  | .createPaymentAsked ask | .createPaymentLinkAsked ask =>
    Uncaptured created ask.payments ask.caseId ask.case ∧ ask.case.StillOwes ask.amount
  | _ => True

instance (created : List (ℕ × ℕ)) (payments : Table Payment) (caseId : ℕ) (c : RecoveryCase) :
    Decidable (Uncaptured created payments caseId c) :=
  inferInstanceAs (Decidable (∀ e ∈ payments.entries, _ → _))

instance (c : RecoveryCase) (amount : Money) : Decidable (c.StillOwes amount) :=
  inferInstanceAs (Decidable (_ ≤ _))

instance (created : List (ℕ × ℕ)) : DecidablePred (TraceEvent.CollectsSafely created)
  | .createPaymentAsked _ => inferInstanceAs (Decidable (_ ∧ _))
  | .createPaymentLinkAsked _ => inferInstanceAs (Decidable (_ ∧ _))
  | .approvalRequested .. => .isTrue trivial
  | .approvalDecided .. => .isTrue trivial
  | .handlerCalled _ => .isTrue trivial
  | .handlerSucceeded .. => .isTrue trivial

/-- From the one store to the other, every question to a provider was safe. -/
def CollectsSafely (created : List (ℕ × ℕ)) (s s' : Store) : Prop :=
  Grows (TraceEvent.CollectsSafely created) s.trace s'.trace

/-! ## The condition on a request -/

/-- What the store says about a request before it is executed: neither a retry nor a payment link
finds a captured payment of the case; a retry finds a payment of at most what is still owed, a
link finds nothing recovered. -/
structure Collectable (created : List (ℕ × ℕ)) (s : Store) (request : ToolRequest) : Prop where
  retry : request.tool = .retryPayment → ∀ i original, request.payment = some (i, original) →
    Uncaptured created s.payments request.args.caseId request.case ∧
      request.case.StillOwes original.amount
  link : request.tool = .createPaymentLink →
    Uncaptured created s.payments request.args.caseId request.case ∧
      request.case.amountRecovered = 0

theorem uncaptured_lifecycle (hlife : request.case.LifecycleOnly c) :
    Uncaptured created s.payments request.args.caseId c ↔
      Uncaptured created s.payments request.args.caseId request.case := by
  unfold Uncaptured
  rw [hlife.paymentId]

theorem stillOwes_lifecycle {c' : RecoveryCase} (hlife : c.LifecycleOnly c') (amount : Money) :
    c'.StillOwes amount ↔ c.StillOwes amount := by
  unfold RecoveryCase.StillOwes
  rw [hlife.amountRecovered, hlife.amountAtRisk]

/-- The question of a handler is safe exactly where the store before the call allows it. -/
theorem asks_safe_iff (created : List (ℕ × ℕ)) (s : Store) (caller : Caller) (verdict : ToolVerdict)
    (hlife : request.case.LifecycleOnly c) :
    (∀ e ∈ s.asks caller request verdict c, e.CollectsSafely created) ↔
      Collectable created s request := by
  unfold Store.asks handlerAsks
  constructor
  · intro hsafe
    refine ⟨fun htool i original hpayment => ?_, fun htool => ?_⟩
    · rw [htool] at hsafe
      have hctx : ∀ actionId s₀, (handlerContext request c actionId s₀).payment =
          some (i, original) := fun _ _ => hpayment
      dsimp only at hsafe
      rw [hctx] at hsafe
      obtain ⟨huncaptured, howes⟩ := hsafe _ (List.mem_singleton.mpr rfl)
      exact ⟨(uncaptured_lifecycle hlife).mp huncaptured,
        (stillOwes_lifecycle hlife _).mp howes⟩
    · rw [htool] at hsafe
      obtain ⟨huncaptured, howes⟩ := hsafe _ (List.mem_singleton.mpr rfl)
      have howes : c.StillOwes c.amountAtRisk := howes
      refine ⟨(uncaptured_lifecycle hlife).mp huncaptured, ?_⟩
      rw [← hlife.amountRecovered]
      exact Nat.le_zero.mp (Nat.le_of_add_le_add_left (a := c.amountAtRisk) howes)
  · intro h e he
    dsimp only at he
    split at he
    · rename_i htool
      split at he
      · exact absurd he List.not_mem_nil
      · rename_i i original hpayment
        obtain ⟨huncaptured, howes⟩ := h.retry htool i original hpayment
        rw [List.mem_singleton.mp he]
        exact ⟨(uncaptured_lifecycle hlife).mpr huncaptured,
          (stillOwes_lifecycle hlife _).mpr howes⟩
    · rename_i htool
      obtain ⟨huncaptured, hnothing⟩ := h.link htool
      rw [List.mem_singleton.mp he]
      refine ⟨(uncaptured_lifecycle hlife).mpr huncaptured, ?_⟩
      show c.StillOwes c.amountAtRisk
      unfold RecoveryCase.StillOwes
      rw [hlife.amountRecovered, hnothing, Nat.add_zero]
    · exact absurd he List.not_mem_nil

/-! ## One call -/

/-- The request gets as far as its handler. -/
def LetThrough (rt : Runtime) (svc : ToolExecutionService) (caller : Caller) (s : Store)
    (request : ToolRequest) : Prop :=
  ∃ row verdict, HoldsKey s request caller.now row ∧
    judgeTool rt svc caller.now s request = .ok verdict ∧
    toolBranch request verdict.evaluation = .run ∧
    (request.args.approvedExecution = true → UsableApproval s request caller.now)

/-- A call is collectable where its request, once it gets to its handler, is. -/
def ExecuteArgs.Collectable (created : List (ℕ × ℕ)) (rt : Runtime)
    (svc : ToolExecutionService) (caller : Caller) (s : Store) (args : ExecuteArgs) : Prop :=
  ∀ request, admitRequest rt s args = .ok request → LetThrough rt svc caller s request →
    ReviveX.Collectable created s request

/-- The question of a handler that was reached. -/
theorem HandlerReached.safe_iff {s₁ s₂ : Store} {x : Except Failure HandlerResult}
    (h : HandlerReached caller request s verdict s₁ c)
    (hran : (handlers rt svc caller.now (handlerContext request c (s.startedId request) s₁)
      request.tool).run (s₁.entered (requestCall caller request verdict s s₁ c)) = (x, s₂)) :
    CollectsSafely created s s₂ ↔ ReviveX.Collectable created s request := by
  have htrace := h.asked hran
  rw [← asks_safe_iff created s caller verdict h.lifecycle]
  constructor
  · intro hsafe e he
    unfold CollectsSafely at hsafe
    rw [htrace] at hsafe
    exact hsafe.added e (List.mem_cons_of_mem _ he)
  · intro hsafe
    refine ⟨_, htrace, fun e he => ?_⟩
    rcases List.mem_cons.mp he with rfl | he
    · trivial
    · exact hsafe e he

/-- What a request reads, and the history, is the same. -/
structure ReadsAlike (s₀ s : Store) : Prop where
  payments : s₀.payments = s.payments
  actions : s₀.actions = s.actions
  approvals : s₀.approvals = s.approvals
  trace : s₀.trace = s.trace
  judges : ∀ rt svc now request,
    judgeTool rt svc now s₀ request = judgeTool rt svc now s request

namespace ReadsAlike

variable {s₀ : Store}

theorem of_recorded (h : Recorded s s₀) : ReadsAlike s₀ s where
  payments := h.payments
  actions := h.actions
  approvals := h.approvals
  trace := h.trace
  judges rt svc now request := by
    rw [h]
    rfl

/-- Once the key is taken and the tool call is written. -/
theorem pending (s : Store) (request : ToolRequest) (now : Time) :
    ReadsAlike ((s.keyTaken request now).pending request) s := by
  rw [keyTaken_eq]
  exact ⟨rfl, rfl, rfl, rfl, fun _ _ _ _ => rfl⟩

theorem keyTaken (s : Store) (request : ToolRequest) (now : Time) :
    ReadsAlike (s.keyTaken request now) s := by
  rw [keyTaken_eq]
  exact ⟨rfl, rfl, rfl, rfl, fun _ _ _ _ => rfl⟩

theorem usable (h : ReadsAlike s₀ s) {now : Time} :
    UsableApproval s₀ request now ↔ UsableApproval s request now :=
  usableApproval_congr h.approvals h.actions

theorem collectable (h : ReadsAlike s₀ s) :
    ReviveX.Collectable created s₀ request ↔ ReviveX.Collectable created s request := by
  constructor
  · rintro ⟨hretry, hlink⟩
    rw [h.payments] at hretry hlink
    exact ⟨hretry, hlink⟩
  · rintro ⟨hretry, hlink⟩
    rw [← h.payments] at hretry hlink
    exact ⟨hretry, hlink⟩

theorem collectsSafely (h : ReadsAlike s₀ s) :
    CollectsSafely created s₀ s' ↔ CollectsSafely created s s' := by
  unfold CollectsSafely
  rw [h.trace]

end ReadsAlike

/-- Only questions can be unsafe. -/
theorem TraceEvent.collectsSafely_of_not_isAsk {e : TraceEvent} (h : ¬ e.IsAsk) :
    e.CollectsSafely created := by
  cases e with
  | createPaymentAsked ask => exact absurd trivial h
  | createPaymentLinkAsked ask => exact absurd trivial h
  | _ => trivial

theorem TraceEvent.IsApproval.not_isAsk {e : TraceEvent} (h : e.IsApproval) : ¬ e.IsAsk := by
  cases e with
  | createPaymentAsked => exact absurd h id
  | createPaymentLinkAsked => exact absurd h id
  | _ => exact id

theorem TraceEvent.IsSuccess.not_isAsk {e : TraceEvent} (h : e.IsSuccess) : ¬ e.IsAsk := by
  cases e with
  | createPaymentAsked => exact absurd h id
  | createPaymentLinkAsked => exact absurd h id
  | _ => exact id

/-- A request that is not let through asks nothing; one that is let through asks safely where
it is collectable. -/
theorem RunEvents.safe {events : List TraceEvent}
    (h : RunEvents rt svc caller request s events)
    (hcollectable : ∀ verdict, judgeTool rt svc caller.now s request = .ok verdict →
      toolBranch request verdict.evaluation = .run →
      (request.args.approvedExecution = true → UsableApproval s request caller.now) →
      ReviveX.Collectable created s request) :
    ∀ e ∈ events, e.CollectsSafely created := by
  intro e he
  cases h with
  | none => exact absurd he List.not_mem_nil
  | requested happroval =>
    rw [List.mem_singleton.mp he]
    exact TraceEvent.collectsSafely_of_not_isAsk happroval.not_isAsk
  | called hentered hafter =>
    have hrequest := hcollectable _ hentered.judged hentered.branch hentered.usable
    rcases List.mem_cons.mp he with rfl | he
    · trivial
    · rcases List.mem_append.mp he with he | he
      · exact (asks_safe_iff created s caller _ hentered.lifecycle).mpr hrequest e he
      · exact TraceEvent.collectsSafely_of_not_isAsk (hafter e he).not_isAsk

/-- A run that is let through asks what its handler asks. -/
theorem runAfterIdempotency_collectable {verdict : ToolVerdict}
    (hrow : s.cases.get? request.args.caseId = some request.case)
    (hjudged : judgeTool rt svc caller.now s request = .ok verdict)
    (hbranch : toolBranch request verdict.evaluation = .run)
    (husable : request.args.approvedExecution = true → UsableApproval s request caller.now)
    (hsafe : CollectsSafely created s ((runAfterIdempotency rt svc caller request).run s).2) :
    ReviveX.Collectable created s request := by
  obtain ⟨s₀, hrecorded, hrow₀, husable₀, hrun₀⟩ :=
    run_letThrough svc hrow hjudged hbranch husable
  rw [hrun₀] at hsafe
  have halike := ReadsAlike.of_recorded hrecorded
  rw [← halike.collectable]
  obtain ⟨s₁, c, s₂, hreached, ⟨handled, r, s₃, hran, hrun, -, hkept⟩ | ⟨f, hran, hrun, -⟩⟩ :=
    runTool_reached rt svc hrow₀ hbranch (checkApproval_run husable₀) husable₀
  · rw [hrun] at hsafe
    refine (asks_safe_iff created s₀ caller verdict hreached.lifecycle).mp fun e he => ?_
    have htrace : s₃.trace = s.trace ++ s₀.handlingEvents caller request verdict c handled := by
      rw [← hrecorded.trace]
      exact hkept.trace.trans (hreached.reported hran).trace
    unfold CollectsSafely at hsafe
    rw [htrace] at hsafe
    exact hsafe.added e (List.mem_cons_of_mem _ (List.mem_append_left _ he))
  · rw [hrun] at hsafe
    refine (hreached.safe_iff hran).mp ?_
    obtain ⟨events, htrace, hevents⟩ := hsafe
    exact ⟨events, by rw [htrace, hrecorded.trace], hevents⟩

/-- `execute` asks safely exactly where its request, once it gets to its handler, is
collectable. -/
theorem execute_collectsSafely_iff (created : List (ℕ × ℕ)) (rt : Runtime)
    (svc : ToolExecutionService) (caller : Caller) (args : ExecuteArgs) (s : Store) :
    CollectsSafely created s ((execute rt svc caller args).run s).2 ↔
      args.Collectable created rt svc caller s := by
  constructor
  · intro hsafe request hadmits ⟨row, verdict, hholds, hjudged, hbranch, husable⟩
    have hadmitted := admitted_of_ok hadmits
    have hrow : (s.keyTaken request caller.now).cases.get? request.args.caseId =
        some request.case := by
      rw [cases_keyTaken, hadmitted.args_eq]
      exact hadmitted.row
    obtain ⟨x, s₁, hran, -, hfinished⟩ := executeRequest_finished rt svc caller hrow
      (keyOf_keyTaken hholds)
    rw [execute_run_of_holds rt svc caller hadmits hholds] at hsafe
    have halike := ReadsAlike.pending s request caller.now
    refine halike.collectable.mp (runAfterIdempotency_collectable hrow
      ((halike.judges _ _ _ _).trans hjudged) hbranch
      (fun happroved => halike.usable.mpr (husable happroved)) ?_)
    rw [hran, halike.collectsSafely]
    obtain ⟨events, hadded, hevents⟩ := hsafe
    exact ⟨events, by rw [← hfinished.trace, hadded], hevents⟩
  · intro h
    obtain ⟨events, htrace, hevents⟩ := (execute_outcome rt svc caller args s).events
    refine ⟨events, htrace, ?_⟩
    cases hevents with
    | none => exact fun _ he => absurd he List.not_mem_nil
    | @ran request row _ hadmits hholds hran =>
      have halike := ReadsAlike.keyTaken s request caller.now
      refine hran.safe fun verdict hjudged hbranch husable => ?_
      exact halike.collectable.mpr (h request hadmits ⟨row, verdict, hholds,
        (halike.judges _ _ _ _).symm.trans hjudged, hbranch,
        fun happroved => halike.usable.mp (husable happroved)⟩)

/-! ## An approval -/

/-- A decision is collectable where the execution that it leads to is, once it is granted. -/
def DecisionArgs.Collectable (created : List (ℕ × ℕ)) (rt : Runtime)
    (svc : ToolExecutionService) (caller : Caller) (s : Store) (args : DecisionArgs) : Prop :=
  ∀ d, loadDecision s args = .ok d → Grantable caller d →
    (approvedExecution d).Collectable created rt svc caller (s.granted caller d)

theorem executeArgs_collectable_congr {s₀ : Store} (h : Recorded s s₀) :
    args.Collectable created rt svc caller s₀ ↔ args.Collectable created rt svc caller s := by
  have halike := ReadsAlike.of_recorded h
  have hadmits : admitRequest rt s₀ args = admitRequest rt s args :=
    admitRequest_congr h.cases (by rw [h]) (by rw [h]) h.payments
  have hkey : ∀ request, s₀.keyOf request = s.keyOf request := by
    intro request
    rw [h]
    rfl
  unfold ExecuteArgs.Collectable LetThrough HoldsKey
  simp only [hadmits, hkey, halike.judges, halike.usable, halike.collectable]

/-- A call only adds to the history. -/
theorem ExecuteOutcome.grows {x : Except Failure ToolExecutionResult}
    (h : ExecuteOutcome rt svc caller args s x s') :
    Grows (fun _ => True) s.trace s'.trace := by
  obtain ⟨events, htrace, -⟩ := h.events
  exact ⟨events, htrace, fun _ _ => trivial⟩

/-- Granting an approval is no question. -/
theorem collectsSafely_granted {d : Decision} {s₀ : Store}
    (hrecorded : Recorded (s.granted caller d) s₀)
    (hgrows : Grows (fun _ => True) s₀.trace s'.trace) :
    CollectsSafely created s s' ↔ CollectsSafely created s₀ s' := by
  have htrace : s₀.trace = s.trace ++ [.approvalDecided d.approvalId .approved] :=
    hrecorded.trace
  have hdecided : CollectsSafely created s s₀ := by
    unfold CollectsSafely
    rw [htrace]
    exact .snoc trivial
  exact Grows.around_iff hdecided hgrows (.refl _ _) fun _ _ => trivial

/-- `approve_action` asks safely exactly where it is collectable. -/
theorem approveAction_collectsSafely_iff (created : List (ℕ × ℕ)) (rt : Runtime)
    (svc : ToolExecutionService) (caller : Caller) (args : DecisionArgs) (s : Store) :
    CollectsSafely created s ((approveAction rt svc caller args).run s).2 ↔
      args.Collectable created rt svc caller s := by
  -- what follows a decision that may be granted
  have hgranted : ∀ {d}, loadDecision s args = .ok d → Grantable caller d →
      (CollectsSafely created s ((approveAction rt svc caller args).run s).2 ↔
        (approvedExecution d).Collectable created rt svc caller (s.granted caller d)) := by
    intro d hload hgrantable
    obtain ⟨s₀, hmark, hrecorded⟩ := markApproved_run caller d s
    have houtcome := execute_outcome rt svc caller (approvedExecution d) s₀
    rw [run_approveAction rt svc hload hgrantable hmark,
      collectsSafely_granted hrecorded houtcome.grows, execute_collectsSafely_iff,
      executeArgs_collectable_congr hrecorded]
  constructor
  · intro hsafe d hload hgrantable
    exact (hgranted hload hgrantable).mp hsafe
  · intro h
    have houtcome := approveAction_outcome rt svc caller args s
    by_cases hmay : ∃ d, loadDecision s args = .ok d ∧ Grantable caller d
    · obtain ⟨d, hload, hgrantable⟩ := hmay
      exact (hgranted hload hgrantable).mpr (h d hload hgrantable)
    · generalize (approveAction rt svc caller args).run s = run at houtcome ⊢
      obtain ⟨x, s'⟩ := run
      cases houtcome with
      | refused hload => exact .of_eq rfl
      | expired hload hpending hexpired => exact .of_eq rfl
      | decided hload hdecided => exact .of_eq rfl
      | granted hload hgrantable hrecorded hexecute =>
        exact absurd ⟨_, hload, hgrantable⟩ hmay

end ReviveX
