import ReviveX.Lib.Runs
import ReviveX.System.CallEffects
import ReviveX.Tools.CollectionTheorems
import ReviveX.Tools.RetryCapTheorems

/-!
# Collections over whole runs

A history is safe where every question to a provider was: no payment of the case was captured,
the ones that earlier retries created for it included, and it was not for more than was still
owed. No service checks any of it: a call keeps the history safe exactly where the store
it meets happens to be collectable.
-/

namespace ReviveX

open Lib (Grows Guarded Run Session Table)

variable {rt : Runtime} {svc : ToolExecutionService} {caller : Caller} {request : ToolRequest}
  {s s' : Store} {args : ExecuteArgs} {earlier : List (ℕ × ℕ)}

/-! ## Safe histories -/

/-- The payment that a retry created, with the case of the retry. -/
def TraceEvent.created : TraceEvent → List (ℕ × ℕ)
  | .handlerSucceeded call _ (some paymentId) => [(call.caseId, paymentId)]
  | _ => []

/-- Each question is safe after what was created before it. -/
def SafeFrom (created : List (ℕ × ℕ)) : List TraceEvent → Prop
  | [] => True
  | e :: rest => e.CollectsSafely created ∧ SafeFrom (created ++ e.created) rest

instance decidableSafeFrom : ∀ (created : List (ℕ × ℕ)) (trace : List TraceEvent),
    Decidable (SafeFrom created trace)
  | _, [] => .isTrue trivial
  | created, e :: rest =>
    have := decidableSafeFrom (created ++ e.created) rest
    inferInstanceAs (Decidable (e.CollectsSafely created ∧ SafeFrom _ rest))

/-- Every question of the history was safe when it was asked. -/
def SafeHistory (trace : List TraceEvent) : Prop := SafeFrom [] trace

instance (trace : List TraceEvent) : Decidable (SafeHistory trace) := decidableSafeFrom [] trace

/-- The payments that the retries of a history created. -/
def createdPayments (trace : List TraceEvent) : List (ℕ × ℕ) := trace.flatMap (·.created)

theorem safeFrom_append (created : List (ℕ × ℕ)) (events events' : List TraceEvent) :
    SafeFrom created (events ++ events') ↔
      SafeFrom created events ∧ SafeFrom (created ++ createdPayments events) events' := by
  -- the payments that the first events create are carried over to the others
  induction events generalizing created with
  | nil => simp [SafeFrom, createdPayments]
  | cons e rest ih =>
    simp only [List.cons_append, SafeFrom, ih, createdPayments, List.flatMap_cons,
      List.append_assoc, and_assoc]

/-- Nothing is asked any more once a payment was created. -/
inductive AsksFirst : List TraceEvent → Prop
  | asks {e : TraceEvent} {rest : List TraceEvent} (hcreated : e.created = [])
      (hrest : AsksFirst rest) : AsksFirst (e :: rest)
  | quiet {events : List TraceEvent} (h : ∀ e ∈ events, ¬ e.IsAsk) : AsksFirst events

theorem safeFrom_of_quiet {events : List TraceEvent} (h : ∀ e ∈ events, ¬ e.IsAsk)
    (created : List (ℕ × ℕ)) : SafeFrom created events := by
  induction events generalizing created with
  | nil => trivial
  | cons e rest ih =>
    exact ⟨e.collectsSafely_of_not_isAsk (h e List.mem_cons_self),
      ih (fun e he => h e (List.mem_cons_of_mem _ he)) _⟩

/-- The questions of one call are asked before it creates anything. -/
theorem AsksFirst.safeFrom_iff {events : List TraceEvent} (h : AsksFirst events)
    (created : List (ℕ × ℕ)) :
    SafeFrom created events ↔ ∀ e ∈ events, e.CollectsSafely created := by
  induction h with
  | asks hcreated hrest ih =>
    simp only [SafeFrom, hcreated, List.append_nil, ih, List.forall_mem_cons]
  | quiet h =>
    exact iff_of_true (safeFrom_of_quiet h created)
      fun e he => e.collectsSafely_of_not_isAsk (h e he)

theorem AsksFirst.append {events events' : List TraceEvent}
    (h : ∀ e ∈ events, e.created = []) (h' : AsksFirst events') :
    AsksFirst (events ++ events') := by
  induction events with
  | nil => exact h'
  | cons e rest ih =>
    exact .asks (h e List.mem_cons_self) (ih fun e he => h e (List.mem_cons_of_mem _ he))

theorem TraceEvent.IsApproval.created {e : TraceEvent} (h : e.IsApproval) : e.created = [] := by
  cases e with
  | approvalRequested => rfl
  | approvalDecided => rfl
  | _ => exact absurd h id

theorem TraceEvent.IsAsk.created {e : TraceEvent} (h : e.IsAsk) : e.created = [] := by
  cases e with
  | createPaymentAsked => rfl
  | createPaymentLinkAsked => rfl
  | _ => exact absurd h id

/-! ## What a call appends -/

/-- A run asks before it creates, and so it does when quiet entries follow. -/
theorem RunEvents.asksFirst {events after : List TraceEvent}
    (h : RunEvents rt svc caller request s events) (hafter : ∀ e ∈ after, ¬ e.IsAsk) :
    AsksFirst (events ++ after) := by
  cases h with
  | none => exact .quiet hafter
  | requested happroval => exact .asks happroval.created (.quiet hafter)
  | @called verdict _ c success hentered hsuccess =>
    refine .asks rfl ?_
    change AsksFirst (_ ++ success ++ after)
    rw [List.append_assoc]
    refine AsksFirst.append (fun e he => (asks_isAsk _ _ _ _ _ e he).created) (.quiet ?_)
    intro e he
    rcases List.mem_append.mp he with he | he
    · exact (hsuccess e he).not_isAsk
    · exact hafter e he

theorem CallEffect.asksFirst {tools : Option ToolExecutionService}
    (h : CallEffect rt tools s s') :
    ∃ events, s'.trace = s.trace ++ events ∧ AsksFirst events := by
  cases h with
  | quiet h =>
    obtain ⟨events, htrace, hevents⟩ := h.history
    exact ⟨events, htrace, .quiet fun e he => (hevents e he).not_isAsk⟩
  | executed htools hbefore hexecute hafter =>
    obtain ⟨before, htrace₁, hbefore⟩ := hbefore.history
    obtain ⟨events, htrace₂, hevents⟩ := hexecute.events
    obtain ⟨after, htrace₃, hafter⟩ := hafter.history
    have hquiet : ∀ e ∈ after, ¬ e.IsAsk := fun e he => (hafter e he).not_isAsk
    refine ⟨before ++ (events ++ after), ?_,
      AsksFirst.append (fun e he => (hbefore e he).created) ?_⟩
    · rw [htrace₃, htrace₂, htrace₁, List.append_assoc, List.append_assoc]
    · cases hevents with
      | none => exact .quiet hquiet
      | ran hadmits hholds hran => exact hran.asksFirst hquiet

/-- A call keeps a history safe exactly where it asks safely after what was created before. -/
theorem CallEffect.safeHistory_iff {tools : Option ToolExecutionService}
    (h : CallEffect rt tools s s') (hsafe : SafeHistory s.trace) :
    SafeHistory s'.trace ↔ CollectsSafely (createdPayments s.trace) s s' := by
  obtain ⟨events, htrace, hfirst⟩ := h.asksFirst
  unfold SafeHistory CollectsSafely at *
  rw [htrace, safeFrom_append, List.nil_append, hfirst.safeFrom_iff]
  constructor
  · rintro ⟨-, hevents⟩
    exact .append hevents
  · intro hgrows
    exact ⟨hsafe, hgrows.added⟩

/-! ## Calls that are collectable -/

/-- What the store must say for the questions of a call to be safe. -/
def ServiceCall.Collectable (rt : Runtime) (s : Store) : ServiceCall → Prop
  | .execute svc caller args => args.Collectable (createdPayments s.trace) rt svc caller s
  | .approveAction svc caller args => args.Collectable (createdPayments s.trace) rt svc caller s
  | .runCase orch now executes caseId merchantId =>
    ∀ args s₁,
      (caseExecution rt orch now executes caseId merchantId).run s = (.ok (some args), s₁) →
        args.Collectable (createdPayments s.trace) rt orch.tools
          (orch.executor (agentCaller now)) s₁
  | _ => True

theorem Quiet.collectsSafely (h : Quiet s s') : CollectsSafely earlier s s' :=
  h.history.mono fun _ he => TraceEvent.collectsSafely_of_not_isAsk he.not_isAsk

theorem collectsSafely_iff (rt : Runtime) (s : Store) (call : ServiceCall) :
    CollectsSafely (createdPayments s.trace) s (call.after rt s) ↔ call.Collectable rt s := by
  -- a call that runs no tool asks nothing
  have hquiet : Quiet s (call.after rt s) → call.Collectable rt s →
      (CollectsSafely (createdPayments s.trace) s (call.after rt s) ↔ call.Collectable rt s) :=
    fun hquiet hcollectable => iff_of_true hquiet.collectsSafely hcollectable
  cases call with
  | execute svc caller args => exact execute_collectsSafely_iff _ rt svc caller args s
  | approveAction svc caller args => exact approveAction_collectsSafely_iff _ rt svc caller args s
  | runCase orch now executes caseId merchantId =>
    rcases runCase_callsWithin rt orch now executes caseId merchantId s with
      ⟨hnone, hprepared⟩ | ⟨args, s₁, hexecution, hbefore, hafter⟩
    · refine hquiet (.of_prepared hprepared) fun args s₁ hexecution => ?_
      exact absurd (congrArg Prod.fst hexecution) (hnone args)
    · have hgrows :=
        (execute_outcome rt orch.tools (orch.executor (agentCaller now)) args s₁).grows
      have hquiet₁ : CollectsSafely (createdPayments s.trace) s s₁ :=
        (Quiet.of_prepared hbefore).collectsSafely
      have haround := Grows.around_iff hquiet₁ hgrows (Quiet.of_prepared hafter).collectsSafely
        fun _ _ => trivial
      refine haround.trans ((execute_collectsSafely_iff _ rt orch.tools _ args s₁).trans ?_)
      constructor
      · intro hcollectable args' s₁' hexecution'
        obtain ⟨hargs, rfl⟩ := Prod.mk.inj (hexecution.symm.trans hexecution')
        obtain rfl := Option.some.inj (Except.ok.inj hargs)
        exact hcollectable
      · intro hcollectable
        exact hcollectable args s₁ hexecution
  | ingest env now enqueue event merchantId =>
    exact hquiet (Silent.keeps_ingest env now enqueue event merchantId s).quiet trivial
  | processWebhookEvent env now webhookEventId =>
    exact hquiet (Silent.keeps_processWebhookEvent env now webhookEventId s).quiet trivial
  | markDeadLetter now webhookEventId error =>
    exact hquiet (Silent.keeps_markDeadLetter now webhookEventId error s).quiet trivial
  | process cfg caller caseId => exact hquiet (Quiet.process cfg caller caseId s) trivial
  | walkToPolicyCheck caller caseId =>
    exact hquiet (Quiet.walkToPolicyCheck caller caseId s) trivial
  | optimizeCase opt caller caseId candidates =>
    exact hquiet (.of_prepared (Prepared.keeps_optimizeCase opt rt.py caller caseId candidates s))
      trivial
  | rejectAction caller args => exact hquiet (Quiet.rejectAction caller args s) trivial
  | cancelAction caller args => exact hquiet (Quiet.rejectAction caller _ s) trivial
  | verifyCase cfg caller args => exact hquiet (Quiet.verifyCase cfg caller args s) trivial

/-- Every question to a provider is safe over a run exactly as long as the calls are
collectable: a call that is keeps a safe history safe, a call that is not spoils it. -/
theorem safeHistory_runs (rt : Runtime) :
    (∀ (s : Store) (call : ServiceCall), SafeHistory s.trace →
      (SafeHistory (call.after rt s).trace ↔ call.Collectable rt s)) ∧
    ∀ (s : Store) (calls : List ServiceCall) (s' : Store), SafeHistory s.trace →
      Run (Guarded (CallStep rt) (ServiceCall.Collectable rt)) s calls s' →
        SafeHistory s'.trace := by
  have hcall : ∀ (s : Store) (call : ServiceCall), SafeHistory s.trace →
      (SafeHistory (call.after rt s).trace ↔ call.Collectable rt s) := fun s call hsafe =>
    ((callEffect rt s call).safeHistory_iff hsafe).trans (collectsSafely_iff rt s call)
  refine ⟨hcall, fun s calls s' hsafe hrun => ?_⟩
  refine hrun.invariant (P := fun s => SafeHistory s.trace) (fun s₁ call s₂ hsafe₁ hstep => ?_)
    hsafe
  rcases hstep with ⟨hcollectable, rfl | rfl⟩
  · exact (hcall s₁ call hsafe₁).mpr hcollectable
  · exact hsafe₁

/-! ### A payment that was captured meanwhile -/

/-- The first retry of the case. -/
def firstRetry : ServiceCall := .execute refusedService noonCaller (retryUnder "first" none)

/-- A payment link for the case. -/
def firstLink : ServiceCall :=
  .execute refusedService noonCaller
    { retryUnder "link" none with toolName := some "create_payment_link" }

/-- The case of the retry, whose payment was captured. -/
def capturedStore : Store :=
  { oneRetryStore with
    payments := oneRetryStore.payments.modify 0 fun p => { p with status := .captured } }

/-- The case after the retry. -/
def retriedCase : Store := firstRetry.after sampleRuntime oneRetryStore

/-- The payment that the retry created was captured. -/
def capturedRetry : Store :=
  { retriedCase with
    payments := retriedCase.payments.modify 1 fun p => { p with status := .captured } }

/-- A retry is safe after a failure, and a link after it. Either asks for the money again after a
capture, of the case's own payment or of the one that the retry created. -/
theorem safeHistory_runs_retry :
    SafeHistory (firstLink.after sampleRuntime retriedCase).trace ∧
      ¬ firstRetry.Collectable sampleRuntime capturedStore ∧
      ¬ firstLink.Collectable sampleRuntime capturedRetry := by
  obtain ⟨hcall, hruns⟩ := safeHistory_runs sampleRuntime
  have hretried : SafeHistory retriedCase.trace := by decide +kernel
  have hretry : firstRetry.Collectable sampleRuntime oneRetryStore :=
    (hcall oneRetryStore firstRetry trivial).mp hretried
  have hlink : firstLink.Collectable sampleRuntime retriedCase :=
    (hcall retriedCase firstLink hretried).mp (by decide +kernel)
  have hrun : Run (Guarded (CallStep sampleRuntime) (ServiceCall.Collectable sampleRuntime))
      oneRetryStore [firstRetry, firstLink] (firstLink.after sampleRuntime retriedCase) :=
    Run.snoc (.single ⟨hretry, .inl rfl⟩) ⟨hlink, .inl rfl⟩
  refine ⟨hruns oneRetryStore [firstRetry, firstLink] _ trivial hrun, fun hagain => ?_,
    fun hagain => ?_⟩
  · have hsafe := (hcall capturedStore firstRetry trivial).mpr hagain
    revert hsafe
    decide +kernel
  · have hsafe := (hcall capturedRetry firstLink hretried).mpr hagain
    revert hsafe
    decide +kernel

end ReviveX
