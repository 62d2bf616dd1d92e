import ReviveX.Lib.Runs
import ReviveX.Providers.SimulationTheorems
import ReviveX.Tools.RetryCapTheorems

/-!
# The payments of successive retries

Every execution through a service without a provider of its own asks a new simulator, whose
counter starts at 0: all retries of a case are given the same payment id. Retries of different
cases are given different ones, so as long as no case is retried twice the ids are distinct and
each payment row can be inserted.
-/

namespace ReviveX

open Lib (Guarded Run Session Table)

/-- A question for a payment. -/
def TraceEvent.paymentAsk? : TraceEvent → Option ProviderAsk
  | .createPaymentAsked ask => some ask
  | _ => none

/-- The questions for payments so far. -/
def Store.paymentAsks (s : Store) : List ProviderAsk := s.trace.filterMap TraceEvent.paymentAsk?

variable {rt : Runtime} {svc : ToolExecutionService} {caller : Caller} {request : ToolRequest}
  {s s' s'' : Store} {args : ExecuteArgs} {caseId : ℕ} {ask : ProviderAsk}

/-! ## One execution -/

/-- No payment was written and none asked for. -/
structure PaymentsUntouched (s s' : Store) : Prop where
  payments : s'.payments = s.payments
  asks : s'.paymentAsks = s.paymentAsks

namespace PaymentsUntouched

theorem refl (s : Store) : PaymentsUntouched s s := ⟨rfl, rfl⟩

theorem trans (h : PaymentsUntouched s s') (h' : PaymentsUntouched s' s'') :
    PaymentsUntouched s s'' :=
  ⟨h'.payments.trans h.payments, h'.asks.trans h.asks⟩

theorem of_trace (hpayments : s'.payments = s.payments) (htrace : s'.trace = s.trace) :
    PaymentsUntouched s s' := by
  refine ⟨hpayments, ?_⟩
  unfold Store.paymentAsks
  rw [htrace]

theorem of_bookkept (h : Bookkept caseId s s') : PaymentsUntouched s s' :=
  .of_trace h.payments h.trace

/-- Events that are no questions. -/
theorem of_append {events : List TraceEvent} (hpayments : s'.payments = s.payments)
    (htrace : s'.trace = s.trace ++ events)
    (hevents : events.filterMap TraceEvent.paymentAsk? = []) : PaymentsUntouched s s' := by
  refine ⟨hpayments, ?_⟩
  unfold Store.paymentAsks
  rw [htrace, List.filterMap_append, hevents, List.append_nil]

end PaymentsUntouched

/-- A retry asked the provider for one payment, and inserted its row or none. -/
structure RetryAsked (svc : ToolExecutionService) (caseId : ℕ) (s s' : Store)
    (ask : ProviderAsk) : Prop where
  asks : s'.paymentAsks = s.paymentAsks ++ [ask]
  ofCase : ask.caseId = caseId
  payments : ask.payments = s.payments
  inserted : s'.payments = s.payments ∨ ∃ ctx original attemptNumber snapshot,
    ctx.caseId = caseId ∧
    svc.provider.createPayment (retryRequest ctx original attemptNumber) = .ok snapshot ∧
    s'.payments = s.payments.insert (retriedPayment ctx original snapshot)

theorem RetryAsked.of_same {s₀ s₁ : Store} (h : RetryAsked svc caseId s s' ask)
    (hbefore : PaymentsUntouched s₀ s) (hafter : PaymentsUntouched s' s₁) :
    RetryAsked svc caseId s₀ s₁ ask where
  asks := by rw [hafter.asks, h.asks, hbefore.asks]
  ofCase := h.ofCase
  payments := h.payments.trans hbefore.payments
  inserted := by
    rw [hafter.payments, ← hbefore.payments]
    exact h.inserted

/-- What an execution of a retry does to the payments. -/
def RetryEffect (svc : ToolExecutionService) (caseId : ℕ) (s s' : Store) : Prop :=
  PaymentsUntouched s s' ∨ ∃ ask, RetryAsked svc caseId s s' ask

theorem RetryEffect.of_same {s₀ s₁ : Store} (h : RetryEffect svc caseId s s')
    (hbefore : PaymentsUntouched s₀ s) (hafter : PaymentsUntouched s' s₁) :
    RetryEffect svc caseId s₀ s₁ := by
  rcases h with hsame | ⟨ask, hasked⟩
  · exact .inl ((hbefore.trans hsame).trans hafter)
  · exact .inr ⟨ask, hasked.of_same hbefore hafter⟩

theorem insertRetry_payments (originalId : ℕ) (attemptNumber : ℤ) (p : Payment)
    (snapshot : PaymentSnapshot) (s : Store) :
    ((insertRetry originalId attemptNumber p snapshot).run s).2.payments = s.payments ∨
      ((insertRetry originalId attemptNumber p snapshot).run s).2.payments =
        s.payments.insert p := by
  unfold insertRetry
  rcases run_insertRetryPayment p snapshot s with ⟨-, -, hpayment⟩ | ⟨-, exception, hpayment⟩
  · rw [Session.run_bind_ok hpayment]
    rcases run_insertRetryAttempt originalId attemptNumber snapshot
      { s with payments := s.payments.insert p } with ⟨-, -, hattempt⟩ | ⟨-, exception, hattempt⟩
    · rw [Session.run_bind_ok hattempt]
      exact .inr rfl
    · rw [Session.run_bind_error hattempt]
      exact .inr rfl
  · rw [Session.run_bind_error hpayment]
    exact .inl rfl

theorem handleRetryPayment_effect (svc : ToolExecutionService) (ctx : HandlerContext)
    (s : Store) : RetryEffect svc ctx.caseId s ((handleRetryPayment svc ctx).run s).2 := by
  have heffects := handleRetryPayment_effects svc ctx s
  have htrace : ((handleRetryPayment svc ctx).run s).2.trace =
      s.trace ++ handlerAsks ctx s .retryPayment := by
    rw [heffects]
  cases hpayment : ctx.payment with
  | none =>
    refine .inl (.of_trace ?_ ?_)
    · unfold handleRetryPayment
      rw [hpayment]
      rfl
    · rw [htrace]
      unfold handlerAsks
      rw [hpayment]
      exact List.append_nil _
  | some found =>
    obtain ⟨originalId, original⟩ := found
    have hasks : handlerAsks ctx s .retryPayment =
        [.createPaymentAsked (providerAsk ctx original.amount s)] := by
      unfold handlerAsks
      rw [hpayment]
    refine .inr ⟨providerAsk ctx original.amount s, ?_, rfl, rfl, ?_⟩
    · unfold Store.paymentAsks
      rw [htrace, hasks, List.filterMap_append]
      rfl
    · let n := retryAttemptNumber s ctx.payload originalId
      let asked : Store :=
        { s with trace := s.trace ++ [.createPaymentAsked (providerAsk ctx original.amount s)] }
      have hrun : (handleRetryPayment svc ctx).run s =
          (finishRetry svc ctx originalId original n
            (svc.provider.createPayment (retryRequest ctx original n))).run asked := by
        unfold handleRetryPayment
        rw [hpayment]
        rfl
      rw [hrun]
      cases hanswer : svc.provider.createPayment (retryRequest ctx original n) with
      | error e => exact .inl rfl
      | ok snapshot =>
        have hinsert := insertRetry_payments originalId n (retriedPayment ctx original snapshot)
          snapshot asked
        -- what comes after the insert answers the call and writes nothing
        have hfinish : ((finishRetry svc ctx originalId original n (.ok snapshot)).run
            asked).2 = ((insertRetry originalId n (retriedPayment ctx original snapshot)
              snapshot).run asked).2 := by
          dsimp only [finishRetry]
          rw [Session.run_bind]
          rcases (insertRetry originalId n (retriedPayment ctx original snapshot)
            snapshot).run asked with ⟨f | newPaymentId, s₁⟩ <;> rfl
        rw [hfinish]
        rcases hinsert with hsame | hrow
        · exact .inl hsame
        · exact .inr ⟨ctx, original, n, snapshot, rfl, hanswer, hrow⟩

/-- A run of a retry, up to the handler's call. -/
theorem HandlerEntered.paymentsUntouched {verdict : ToolVerdict} {s₁ : Store} {c : RecoveryCase}
    (h : HandlerEntered rt svc caller request s verdict s₁ c) :
    PaymentsUntouched s (s₁.entered (requestCall caller request verdict s s₁ c)) := by
  have hstarted : PaymentsUntouched s s₁ := .of_trace h.started.payments h.started.trace
  have hentered : PaymentsUntouched s₁ (s₁.entered (requestCall caller request verdict s s₁ c)) :=
    .of_append rfl rfl rfl
  exact hstarted.trans hentered

theorem paymentsUntouched_reported (s : Store) (call : HandlerCall) (handled : HandlerResult) :
    PaymentsUntouched s (s.reported call handled) := by
  refine .of_append rfl rfl ?_
  unfold successEvents
  split <;> rfl

theorem RunOutcome.retryEffect {x : Except Failure ToolExecutionResult}
    (htool : request.tool = .retryPayment) (h : RunOutcome rt svc caller request s x s') :
    RetryEffect svc request.args.caseId s s' := by
  cases h with
  | refused hrefusal happrovals hkept => exact .inl (.of_trace hkept.payments hkept.trace)
  | blocked hjudged hbranch hstatus hkept => exact .inl (.of_trace hkept.payments hkept.trace)
  | parked hjudged hbranch hstatus hkept => exact .inl (.of_append hkept.payments hkept.trace rfl)
  | @handled verdict s₁ s₂ _ c handled r hentered hran hstatus hkept =>
    have heffect := handleRetryPayment_effect svc
      (handlerContext request c (s.startedId request) s₁)
      (s₁.entered (requestCall caller request verdict s s₁ c))
    rw [htool] at hran
    rw [show (handleRetryPayment svc _).run _ = (.ok handled, s₂) from hran] at heffect
    exact heffect.of_same hentered.paymentsUntouched
      ((paymentsUntouched_reported s₂ _ handled).trans (.of_bookkept hkept))
  | @crashed verdict s₁ _ c f hentered hran hrollsBack =>
    have heffect := handleRetryPayment_effect svc
      (handlerContext request c (s.startedId request) s₁)
      (s₁.entered (requestCall caller request verdict s s₁ c))
    rw [htool] at hran
    rw [show (handleRetryPayment svc _).run _ = (.error f, s') from hran] at heffect
    exact heffect.of_same hentered.paymentsUntouched (.refl s')

theorem Finished.paymentsUntouched {row : IdempotencyKey} {now : Time} {s₁ : Store}
    {x x' : Except Failure ToolExecutionResult} (h : Finished request row now s₁ x x' s') :
    PaymentsUntouched s₁ s' := by
  cases h with
  | returned hrecorded => exact .of_trace hrecorded.payments hrecorded.trace
  | failed hclass hrecorded => exact .of_trace hrecorded.payments hrecorded.trace
  | crashed => exact .refl _

/-- An execution of a retry asks for at most one payment, of its case. -/
theorem execute_retryEffect (htool : resolveTool args.toolName args.action = .ok .retryPayment)
    (rt : Runtime) (svc : ToolExecutionService) (caller : Caller) (s : Store) :
    RetryEffect svc args.caseId s ((execute rt svc caller args).run s).2 := by
  have houtcome := execute_outcome rt svc caller args s
  rcases hran : (execute rt svc caller args).run s with ⟨x, s'⟩
  rw [hran] at houtcome
  cases houtcome with
  | rejected | conflict | replayed | busy => exact .inl (.refl _)
  | @ran request row s₁ _ _ _ hadmits hholds hrun hfinished =>
    have hadmitted := admitted_of_ok hadmits
    have hretry : request.tool = .retryPayment :=
      Except.ok.inj (hadmitted.resolved.symm.trans htool)
    have htaken : PaymentsUntouched s (s.keyTaken request caller.now) := by
      refine .of_trace ?_ ?_ <;> (unfold Store.keyTaken; split <;> rfl)
    have heffect := (hrun.retryEffect hretry).of_same htaken hfinished.paymentsUntouched
    rw [hadmitted.args_eq] at heffect
    exact heffect

/-! ## Sequences of executions -/

/-- An execution of `retry_payment` through a new service without a provider of its own. -/
structure RetryExecution where
  settings : RecoverySettings := {}
  predict : Store → ℕ → String → ℕ → Except String (Except (String × String) Payload)
  caller : Caller
  args : ExecuteArgs
  /-- What the simulator reads on its clock. -/
  simulatedAt : Time := caller.now

/-- The service of an execution. -/
def RetryExecution.service (env : SimulatorRuntime) (e : RetryExecution) :
    ToolExecutionService :=
  .default { env with now := e.simulatedAt } e.settings e.predict

/-- The execution. -/
def RetryExecution.call (rt : Runtime) (env : SimulatorRuntime) (e : RetryExecution) :
    Service ToolExecutionResult :=
  execute rt (e.service env) e.caller e.args

/-- A payment id that a provider gave, with the question. -/
structure GivenId where
  ask : ProviderAsk
  providerPaymentId : String

/-- The id is what the provider of the service answers a retry with. -/
def GivenId.By (svc : ToolExecutionService) (g : GivenId) : Prop :=
  ∃ ctx original attemptNumber s snapshot, g.ask = providerAsk ctx original.amount s ∧
    svc.provider.createPayment (retryRequest ctx original attemptNumber) = .ok snapshot ∧
    snapshot.providerPaymentId = g.providerPaymentId

/-- The database, and the payment ids that executions were given so far. -/
structure RetryState where
  store : Store
  given : List GivenId

/-- What happens in a sequence of executions. -/
inductive RetryLabel
  | retry (e : RetryExecution)
  | other

/-- The payment stands in the way of one that the simulator made for the merchant under the id:
it has its key at the provider, or its primary key. -/
def Payment.StandsUnder (p : Payment) (merchantId : ℕ) (providerPaymentId : String) : Prop :=
  (p.merchantId = merchantId ∧ p.provider = simulatorName ∧
    p.providerPaymentId = some providerPaymentId) ∨
  p.internalName = some (internalPaymentName merchantId simulatorName providerPaymentId)

/-- A payment under an id that a new simulator gives belongs to a case that was given it. -/
def OnlyGiven (env : SimulatorRuntime) (s : Store) (given : List GivenId) : Prop :=
  ∀ i p merchantId caseId, s.payments.get? i = some p →
    p.StandsUnder merchantId (deterministicPaymentId env 42 caseId 1) →
      ∃ g ∈ given, g.ask.caseId = caseId

/-- A retry is executed and committed; the rest of the system does what it wants with the
database, but reports no payment under an id of the simulator that was not given. -/
def RetryStep (rt : Runtime) (env : SimulatorRuntime) (σ : RetryState) :
    RetryLabel → RetryState → Prop
  | .retry e, σ' =>
    resolveTool e.args.toolName e.args.action = .ok .retryPayment ∧
      σ'.store = committed (e.call rt env) σ.store ∧
      ∃ answers : List GivenId,
        answers.map (·.ask) =
          ((e.call rt env).run σ.store).2.paymentAsks.drop σ.store.paymentAsks.length ∧
        (∀ g ∈ answers, g.By (e.service env)) ∧ σ'.given = σ.given ++ answers
  | .other, σ' => σ'.given = σ.given ∧ OnlyGiven env σ'.store σ.given

/-- The case of the retry was not given a payment id before. -/
def FirstRetry (σ : RetryState) : RetryLabel → Prop
  | .retry e => ∀ g ∈ σ.given, g.ask.caseId ≠ e.args.caseId
  | .other => True

/-- The executions were given different ids, external and internal, and no row stood in the
way of a payment when it was asked for. -/
structure DistinctPayments (env : SimulatorRuntime) (σ : RetryState) : Prop where
  ids : (σ.given.map (·.providerPaymentId)).Nodup
  internalIds : (σ.given.map fun g =>
    internalPaymentUuid env g.ask.case.merchantId simulatorName g.providerPaymentId).Nodup
  insertable : ∀ g ∈ σ.given, ∀ i p, g.ask.payments.get? i = some p →
    ¬ p.StandsUnder g.ask.case.merchantId g.providerPaymentId

variable {env : SimulatorRuntime} {σ σ' : RetryState} {e : RetryExecution} {label : RetryLabel}
  {g : GivenId}

/-- A new service gives every retry of a case the same id. -/
theorem GivenId.By.eq (h : g.By (e.service env)) :
    g.providerPaymentId = deterministicPaymentId env 42 g.ask.caseId 1 := by
  obtain ⟨ctx, original, n, s, snapshot, hask, hanswer, hid⟩ := h
  obtain ⟨snapshot', hanswer', -, hid'⟩ := default_createPayment _ e.settings e.predict
    (retryRequest ctx original n)
  have hsame : snapshot = snapshot' := Except.ok.inj (hanswer.symm.trans hanswer')
  rw [← hid, hsame, hid', hask]
  rfl

/-- What is known of the ids and of the rows under them. -/
structure Tracked (env : SimulatorRuntime) (σ : RetryState) : Prop where
  ids : ∀ g ∈ σ.given, g.providerPaymentId = deterministicPaymentId env 42 g.ask.caseId 1
  rows : OnlyGiven env σ.store σ.given

/-- Ids that are given stay given. -/
theorem OnlyGiven.append {given : List GivenId} (h : OnlyGiven env s given)
    (answers : List GivenId) : OnlyGiven env s (given ++ answers) := by
  intro i p merchantId caseId hp hstands
  obtain ⟨g, hg, hcase⟩ := h i p merchantId caseId hp hstands
  exact ⟨g, List.mem_append_left _ hg, hcase⟩

theorem OnlyGiven.of_payments {given : List GivenId} (h : OnlyGiven env s given)
    (hpayments : s'.payments = s.payments) : OnlyGiven env s' given := by
  unfold OnlyGiven
  rw [hpayments]
  exact h

/-- A committed execution leaves the payments of its run, or those before it. -/
theorem committed_payments {α : Type} (m : Service α) (s : Store) :
    (committed m s).payments = s.payments ∨ (committed m s).payments = (m.run s).2.payments := by
  rcases hrun : m.run s with ⟨f | a, s'⟩
  · rw [committed_error hrun]
    split
    · exact .inr rfl
    · exact .inl rfl
  · rw [committed_ok hrun]
    exact .inr rfl

/-- The answers to the questions of one execution. -/
theorem retry_answers (hstep : RetryStep rt env σ (.retry e) σ') :
    (σ'.given = σ.given ∧ σ'.store.payments = σ.store.payments) ∨
      ∃ g, RetryAsked (e.service env) e.args.caseId σ.store
          ((e.call rt env).run σ.store).2 g.ask ∧
        g.By (e.service env) ∧ σ'.given = σ.given ++ [g] := by
  obtain ⟨htool, hstore, answers, hasks, hby, hgiven⟩ := hstep
  have heffect := execute_retryEffect htool rt (e.service env) e.caller σ.store
  rcases heffect with hsame | ⟨ask, hasked⟩
  · have hnone : answers = [] := by
      have hdropped : ((e.call rt env).run σ.store).2.paymentAsks.drop
          σ.store.paymentAsks.length = [] := by
        rw [show ((e.call rt env).run σ.store).2.paymentAsks = σ.store.paymentAsks from
          hsame.asks]
        exact List.drop_length
      rw [hdropped] at hasks
      exact List.map_eq_nil_iff.mp hasks
    have hpayments : σ'.store.payments = σ.store.payments := by
      rw [hstore]
      rcases committed_payments (e.call rt env) σ.store with h | h
      · exact h
      · exact h.trans hsame.payments
    rw [hnone, List.append_nil] at hgiven
    exact .inl ⟨hgiven, hpayments⟩
  · have hdropped : ((e.call rt env).run σ.store).2.paymentAsks.drop
        σ.store.paymentAsks.length = [ask] := by
      rw [show ((e.call rt env).run σ.store).2.paymentAsks = σ.store.paymentAsks ++ [ask] from
        hasked.asks]
      exact List.drop_left
    rw [hdropped] at hasks
    obtain ⟨g, hanswers, hask⟩ := List.map_eq_singleton_iff.mp hasks
    rw [hanswers] at hgiven hby
    rw [← hask] at hasked
    exact .inr ⟨g, hasked, hby g List.mem_cons_self, hgiven⟩

/-- A step keeps track of the ids. -/
theorem Tracked.step (hdigest : Function.Injective env.digest) (h : Tracked env σ)
    (hstep : RetryStep rt env σ label σ') : Tracked env σ' := by
  cases label with
  | other =>
    obtain ⟨hgiven, hrows⟩ := hstep
    rw [← hgiven] at hrows
    refine ⟨?_, hrows⟩
    rw [hgiven]
    exact h.ids
  | retry e =>
    rcases retry_answers hstep with ⟨hgiven, hpayments⟩ | ⟨g, hasked, hby, hgiven⟩
    · refine ⟨?_, ?_⟩
      · rw [hgiven]
        exact h.ids
      · rw [hgiven]
        exact h.rows.of_payments hpayments
    · refine ⟨?_, ?_⟩
      · rw [hgiven]
        intro g' hg'
        rcases List.mem_append.mp hg' with hold | hnew
        · exact h.ids g' hold
        · rw [List.mem_singleton.mp hnew]
          exact hby.eq
      · rw [hgiven]
        have hold := h.rows.append [g]
        have hkept : σ'.store.payments = σ.store.payments →
            OnlyGiven env σ'.store (σ.given ++ [g]) := hold.of_payments
        rcases committed_payments (e.call rt env) σ.store with hsame | hwritten
        · exact hkept ((congrArg Store.payments hstep.2.1).trans hsame)
        · have hpayments := (congrArg Store.payments hstep.2.1).trans hwritten
          -- a new row stands for the payment that was asked for, or no row was inserted
          rcases hasked.inserted with hnone | ⟨ctx, original, n, snapshot, hcase, hanswer, hrow⟩
          · exact hkept (hpayments.trans hnone)
          · intro i p m k hp hstands
            rw [hpayments, hrow, Table.get?_insert] at hp
            split at hp
            · -- the new row carries the id that its case was given
              obtain rfl := Option.some.inj hp
              obtain ⟨snapshot', hanswer', hprovider, hid'⟩ := default_createPayment _ e.settings
                e.predict (retryRequest ctx original n)
              have hsame : snapshot = snapshot' := Except.ok.inj (hanswer.symm.trans hanswer')
              have htext : snapshot.providerPaymentId = deterministicPaymentId env 42 k 1 := by
                rw [hsame]
                rcases hstands with ⟨-, -, hid⟩ | hname
                · rw [← hsame]
                  exact Option.some.inj hid
                · have hnames := Option.some.inj hname
                  rw [hsame, hprovider] at hnames
                  exact internalPaymentName_inj hnames
              rw [hsame, hid'] at htext
              have hk : ctx.caseId = k := (deterministicPaymentId_inj hdigest htext).1
              refine ⟨g, List.mem_append_right _ List.mem_cons_self, ?_⟩
              rw [hasked.ofCase, ← hk, hcase]
            · exact hold i p m k hp hstands

/-- Different external ids have different internal ids. -/
theorem internalIds_nodup (huuid : Function.Injective env.uuid5) {given : List GivenId}
    (h : (given.map (·.providerPaymentId)).Nodup) :
    (given.map fun g =>
      internalPaymentUuid env g.ask.case.merchantId simulatorName g.providerPaymentId).Nodup := by
  refine List.pairwise_map.mpr ((List.pairwise_map.mp h).imp ?_)
  intro g g' hne heq
  exact hne (internalPaymentUuid_inj huuid heq)

/-- A retry that was given an id leaves distinct payments if and only if its case was not given
one before. -/
theorem distinctPayments_retry (hdigest : Function.Injective env.digest)
    (huuid : Function.Injective env.uuid5) (htracked : Tracked env σ)
    (hdistinct : DistinctPayments env σ) (hstep : RetryStep rt env σ (.retry e) σ')
    (hgiven : σ'.given ≠ σ.given) :
    DistinctPayments env σ' ↔ FirstRetry σ (.retry e) := by
  rcases retry_answers hstep with ⟨hnone, -⟩ | ⟨g, hasked, hby, hnew⟩
  · exact absurd hnone hgiven
  have hids : ∀ g' ∈ σ.given, g'.providerPaymentId = g.providerPaymentId ↔
      g'.ask.caseId = e.args.caseId := by
    intro g' hg'
    rw [htracked.ids g' hg', hby.eq, hasked.ofCase]
    constructor
    · intro heq
      exact (deterministicPaymentId_inj hdigest heq).1
    · intro heq
      rw [heq]
  constructor
  · intro hafter g' hg' hcase
    have hnodup := hafter.ids
    rw [hnew, List.map_append, List.nodup_append] at hnodup
    exact hnodup.2.2 _ (List.mem_map_of_mem hg') _ (List.mem_singleton_self _)
      ((hids g' hg').mpr hcase)
  · intro hfirst
    have hnodup : (σ'.given.map (·.providerPaymentId)).Nodup := by
      rw [hnew, List.map_append, List.nodup_append]
      refine ⟨hdistinct.ids, List.nodup_singleton _, ?_⟩
      intro a ha b hb heq
      obtain ⟨g', hg', rfl⟩ := List.mem_map.mp ha
      rw [List.mem_singleton.mp hb] at heq
      exact hfirst g' hg' ((hids g' hg').mp heq)
    refine ⟨hnodup, internalIds_nodup huuid hnodup, ?_⟩
    intro g' hg' i p hp hclash
    rw [hnew] at hg'
    rcases List.mem_append.mp hg' with hold | hlast
    · exact hdistinct.insertable g' hold i p hp hclash
    · obtain rfl := List.mem_singleton.mp hlast
      rw [hasked.payments] at hp
      rw [hby.eq, hasked.ofCase] at hclash
      obtain ⟨g', hg', hcase⟩ := htracked.rows i p _ _ hp hclash
      exact hfirst g' hg' hcase

/-- A step at which no case is retried again keeps the payments distinct. -/
theorem DistinctPayments.step (hdigest : Function.Injective env.digest)
    (huuid : Function.Injective env.uuid5) (htracked : Tracked env σ)
    (h : DistinctPayments env σ) (hstep : Guarded (RetryStep rt env) FirstRetry σ label σ') :
    DistinctPayments env σ' := by
  have hkept : σ'.given = σ.given → DistinctPayments env σ' := by
    intro hgiven
    refine ⟨?_, ?_, ?_⟩
    · rw [hgiven]
      exact h.ids
    · rw [hgiven]
      exact h.internalIds
    · rw [hgiven]
      exact h.insertable
  cases label with
  | other => exact hkept hstep.2.1
  | retry e =>
    by_cases hgiven : σ'.given = σ.given
    · exact hkept hgiven
    · exact (distinctPayments_retry hdigest huuid htracked h hstep.2 hgiven).mpr hstep.1

/-- In every run in which no case is retried again after it was given a payment id, the ids
that executions were given are distinct and every payment could be inserted; a retry of a case
that was given one before breaks this. -/
theorem payments_distinct (hdigest : Function.Injective env.digest)
    (huuid : Function.Injective env.uuid5) {start : Store} {labels : List RetryLabel}
    (hstart : OnlyGiven env start [])
    (hrun : Run (Guarded (RetryStep rt env) FirstRetry) ⟨start, []⟩ labels σ) :
    DistinctPayments env σ ∧
      ∀ e σ', RetryStep rt env σ (.retry e) σ' → σ'.given ≠ σ.given →
        (DistinctPayments env σ' ↔ FirstRetry σ (.retry e)) := by
  have hinit : Tracked env ⟨start, []⟩ ∧ DistinctPayments env ⟨start, []⟩ := by
    refine ⟨⟨fun g hg => ?_, hstart⟩, ⟨List.nodup_nil, List.nodup_nil, fun g hg => ?_⟩⟩
    · exact absurd hg List.not_mem_nil
    · exact absurd hg List.not_mem_nil
  have hstep : ∀ σ label σ', Tracked env σ ∧ DistinctPayments env σ →
      Guarded (RetryStep rt env) FirstRetry σ label σ' →
        Tracked env σ' ∧ DistinctPayments env σ' := by
    intro σ label σ' h hlast
    exact ⟨h.1.step hdigest hlast.2, h.2.step hdigest huuid h.1 hlast⟩
  have hend : Tracked env σ ∧ DistinctPayments env σ :=
    hrun.invariant (P := fun σ => Tracked env σ ∧ DistinctPayments env σ) hstep hinit
  refine ⟨hend.2, fun e σ' hlast hgiven => ?_⟩
  exact distinctPayments_retry hdigest huuid hend.1 hend.2 hlast hgiven

/-- The state after an execution, with the answers of its provider. -/
def RetryExecution.next (rt : Runtime) (env : SimulatorRuntime) (e : RetryExecution)
    (σ : RetryState) : RetryState where
  store := committed (e.call rt env) σ.store
  given := σ.given ++
    (((e.call rt env).run σ.store).2.paymentAsks.drop σ.store.paymentAsks.length).map fun ask =>
      { ask, providerPaymentId := deterministicPaymentId env 42 ask.caseId 1 }

/-- Every execution of a retry is a step. -/
theorem retryStep_next (rt : Runtime) (env : SimulatorRuntime) (σ : RetryState)
    (htool : resolveTool e.args.toolName e.args.action = .ok .retryPayment) :
    RetryStep rt env σ (.retry e) (e.next rt env σ) := by
  refine ⟨htool, rfl, _, ?_, fun g hg => ?_, rfl⟩
  · rw [List.map_map]
    exact List.map_id _
  · obtain ⟨ask, -, rfl⟩ := List.mem_map.mp hg
    let ctx : HandlerContext :=
      { caseId := ask.caseId, case := ask.case, customer := none, payment := none
        payload := [], attemptNumber := 1, idempotencyKey := "" }
    let original : Payment :=
      { merchantId := 0, customerId := 0, amount := ask.amount, status := .failed }
    obtain ⟨snapshot, hanswer, -, hid⟩ := default_createPayment _ e.settings e.predict
      (retryRequest ctx original 1)
    exact ⟨ctx, original, 1, { payments := ask.payments, actions := ask.actions }, snapshot, rfl,
      hanswer, hid⟩

/-- A simulator whose digests are the texts themselves, and whose draws fail. -/
def plainSimulation : SimulatorRuntime where
  digest := id
  uuid5 := id
  draw := fun _ => 1
  float := id
  now := 0
  jsonTime := fun _ => ""

/-- A retry of a case under a key. -/
def retryExecution (caseId : ℕ) (key : String) : RetryExecution where
  predict := fun _ _ _ _ => .ok (.ok [])
  caller := noonCaller
  args := { retryUnder key none with caseId := caseId }

/-- The state after a retry of the first case. -/
def retriedOnce : RetryState :=
  (retryExecution 0 "first").next sampleRuntime plainSimulation ⟨twoCasesStore, []⟩

/-- The state after a retry of either case. -/
def retriedBoth : RetryState :=
  (retryExecution 1 "second").next sampleRuntime plainSimulation retriedOnce

/-- Retries of two cases are given an id each, and another retry of the second case breaks the
distinctness. -/
theorem payments_distinct_retriedBoth :
    retriedBoth.given.map (·.ask.caseId) = [0, 1] ∧ DistinctPayments plainSimulation retriedBoth ∧
      ¬ DistinctPayments plainSimulation
        ((retryExecution 1 "third").next sampleRuntime plainSimulation retriedBoth) := by
  have hstart : OnlyGiven plainSimulation twoCasesStore [] := by
    intro i p merchantId caseId hp hstands
    have hrows : ∀ q ∈ twoCasesStore.payments.rows,
        q.providerPaymentId = none ∧ q.internalName = none := by decide +kernel
    obtain ⟨hid, hname⟩ := hrows p (List.mem_of_getElem? hp)
    rcases hstands with ⟨-, -, hid'⟩ | hname'
    · rw [hid] at hid'
      cases hid'
    · rw [hname] at hname'
      cases hname'
  have hgivenOnce : retriedOnce.given.map (·.ask.caseId) = [0] := by decide +kernel
  have hgivenBoth : retriedBoth.given.map (·.ask.caseId) = [0, 1] := by decide +kernel
  have hfirst : FirstRetry ⟨twoCasesStore, []⟩ (.retry (retryExecution 0 "first")) :=
    fun g hg => absurd hg List.not_mem_nil
  have hsecond : FirstRetry retriedOnce (.retry (retryExecution 1 "second")) := by
    intro g hg hcase
    have hmem := List.mem_map_of_mem (f := fun g : GivenId => g.ask.caseId) hg
    rw [hgivenOnce, List.mem_singleton] at hmem
    rw [hmem] at hcase
    cases hcase
  have hrun : Run (Guarded (RetryStep sampleRuntime plainSimulation) FirstRetry)
      ⟨twoCasesStore, []⟩ [.retry (retryExecution 0 "first"), .retry (retryExecution 1 "second")]
      retriedBoth :=
    Run.snoc (.single ⟨hfirst, retryStep_next _ _ _ rfl⟩) ⟨hsecond, retryStep_next _ _ _ rfl⟩
  obtain ⟨hdistinct, hnext⟩ :=
    payments_distinct Function.injective_id Function.injective_id hstart hrun
  refine ⟨hgivenBoth, hdistinct, fun hafter => ?_⟩
  have hthird : ((retryExecution 1 "third").next sampleRuntime plainSimulation
      retriedBoth).given.length = 3 := by decide +kernel
  have hagain : FirstRetry retriedBoth (.retry (retryExecution 1 "third")) := by
    refine (hnext (retryExecution 1 "third") _ (retryStep_next _ _ _ rfl) ?_).mp hafter
    intro hsame
    rw [hsame] at hthird
    have hlength := congrArg List.length hgivenBoth
    rw [List.length_map, hthird] at hlength
    cases hlength
  have hmem : 1 ∈ retriedBoth.given.map (·.ask.caseId) := by
    rw [hgivenBoth]
    decide
  obtain ⟨g, hg, hcase⟩ := List.mem_map.mp hmem
  exact hagain g hg hcase

/-- A second retry of the case, under another key and at a new service, is given the payment id
of the first one: its row cannot be inserted. -/
theorem secondRetry_repeats_paymentId :
    ∃ σ, Run (RetryStep sampleRuntime plainSimulation) ⟨twoCasesStore, []⟩
        [.retry (retryExecution 0 "first"), .retry (retryExecution 0 "second")] σ ∧
      ((retryExecution 0 "second").call sampleRuntime plainSimulation).run retriedOnce.store =
        (.error (.crash "IntegrityError"),
          (((retryExecution 0 "second").call sampleRuntime plainSimulation).run
            retriedOnce.store).2) ∧
      ¬ DistinctPayments plainSimulation σ := by
  let twice := (retryExecution 0 "second").next sampleRuntime plainSimulation retriedOnce
  have hfirst : RetryStep sampleRuntime plainSimulation ⟨twoCasesStore, []⟩
      (.retry (retryExecution 0 "first")) retriedOnce := retryStep_next _ _ _ rfl
  have hsecond : RetryStep sampleRuntime plainSimulation retriedOnce
      (.retry (retryExecution 0 "second")) twice := retryStep_next _ _ _ rfl
  have hraised : Lib.raised? (((retryExecution 0 "second").call sampleRuntime
      plainSimulation).run retriedOnce.store).1 = some (.crash "IntegrityError") := by
    decide +kernel
  have hrepeated : ¬ (twice.given.map (·.providerPaymentId)).Nodup := by decide +kernel
  refine ⟨twice, (Run.single hfirst).snoc hsecond, ?_, fun h => hrepeated h.ids⟩
  exact Prod.ext (Lib.raised?_eq_some.mp hraised) rfl

end ReviveX
