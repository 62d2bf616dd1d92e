import ReviveX.Tools.RowTheorems

/-!
# Whose rows an execution writes

A call of `execute` is about one case of one merchant. `MerchantKept` says that the rows of
every other merchant are the same, and every function of the tool service keeps it, as long
as the payment and the cart of the case are the merchant's own (`OwnSubjects`). What happens
to actions and approvals is known exactly (`RunOutcome`).
-/

namespace ReviveX

open Lib (Session Table)

variable {rt : Runtime} {svc : ToolExecutionService} {caller : Caller} {now : Time}
  {request : ToolRequest} {s s' s'' : Store} {args : ExecuteArgs} {M C : ℕ}

/-! ## Frames -/

/-- The rows of other merchants are the same, outside the tables of the tool layer. -/
structure MerchantKept (M : ℕ) (s s' : Store) : Prop where
  merchants : s'.merchants = s.merchants
  customers : s'.customers = s.customers
  subscriptions : s'.subscriptions = s.subscriptions
  webhookEvents : s'.webhookEvents = s.webhookEvents
  decisions : s'.decisions = s.decisions
  agentRuns : s'.agentRuns = s.agentRuns
  payments : s.payments.KeptWhere (fun p => p.merchantId ≠ M) s'.payments
  paymentAttempts : s.paymentAttempts.KeptWhere
    (fun a => ∃ p, s.payments.get? a.paymentId = some p ∧ p.merchantId ≠ M) s'.paymentAttempts
  carts : s.carts.KeptWhere (fun c => c.merchantId ≠ M) s'.carts
  cases : s.cases.KeptWhere (fun c => c.merchantId ≠ M) s'.cases
  notifications : s.notifications.KeptWhere (fun n => n.merchantId ≠ M) s'.notifications
  policyEvaluations :
    s.policyEvaluations.KeptWhere (fun e => e.merchantId ≠ M) s'.policyEvaluations
  auditEvents : s.auditEvents.KeptWhere (fun e => e.merchantId ≠ M) s'.auditEvents

namespace MerchantKept

theorem refl (M : ℕ) (s : Store) : MerchantKept M s s :=
  ⟨rfl, rfl, rfl, rfl, rfl, rfl, .refl _ _, .refl _ _, .refl _ _, .refl _ _, .refl _ _,
    .refl _ _, .refl _ _⟩

theorem trans (h : MerchantKept M s s') (h' : MerchantKept M s' s'') :
    MerchantKept M s s'' where
  merchants := h'.merchants.trans h.merchants
  customers := h'.customers.trans h.customers
  subscriptions := h'.subscriptions.trans h.subscriptions
  webhookEvents := h'.webhookEvents.trans h.webhookEvents
  decisions := h'.decisions.trans h.decisions
  agentRuns := h'.agentRuns.trans h.agentRuns
  payments := h.payments.trans h'.payments
  paymentAttempts := by
    -- the payment of a foreign attempt is foreign, and still there
    refine h.paymentAttempts.trans (h'.paymentAttempts.mono ?_)
    rintro a ⟨p, hp, hforeign⟩
    exact ⟨p, (h.payments _ p hforeign).mpr hp, hforeign⟩
  carts := h.carts.trans h'.carts
  cases := h.cases.trans h'.cases
  notifications := h.notifications.trans h'.notifications
  policyEvaluations := h.policyEvaluations.trans h'.policyEvaluations
  auditEvents := h.auditEvents.trans h'.auditEvents

/-- A store that differs in the tables of the tool layer alone. -/
theorem of_tools
    (h : s' = { s with
      actions := s'.actions
      approvals := s'.approvals
      idempotencyKeys := s'.idempotencyKeys
      toolCalls := s'.toolCalls
      trace := s'.trace }) : MerchantKept M s s' := by
  rw [h]
  exact ⟨rfl, rfl, rfl, rfl, rfl, rfl, .refl _ _, .refl _ _, .refl _ _, .refl _ _, .refl _ _,
    .refl _ _, .refl _ _⟩

end MerchantKept

/-! ## The rows of a request -/

/-- The case of the request is the one that was locked, and its payment and its cart belong
to its merchant. -/
structure OwnSubjects (request : ToolRequest) (s : Store) : Prop where
  case : ∀ c, s.cases.get? request.args.caseId = some c →
    c.merchantId = request.case.merchantId ∧ c.cartId = request.case.cartId
  payment : ∀ i p q, request.payment = some (i, p) → s.payments.get? i = some q →
    q.merchantId = request.case.merchantId
  cart : ∀ i cart, request.case.cartId = some i → s.carts.get? i = some cart →
    cart.merchantId = request.case.merchantId

/-- From a store with the merchant's own subjects, a session writes rows of the merchant. -/
def OwnWrites (request : ToolRequest) (s s' : Store) : Prop :=
  OwnSubjects request s →
    OwnSubjects request s' ∧ s'.toolCalls = s.toolCalls ∧
      MerchantKept request.case.merchantId s s'

namespace OwnWrites

variable {α β : Type} {m : Service α} {f : α → Service β}

theorem refl (request : ToolRequest) (s : Store) : OwnWrites request s s :=
  fun hown => ⟨hown, rfl, .refl _ s⟩

theorem trans (request : ToolRequest) (s s' s'' : Store) (h : OwnWrites request s s')
    (h' : OwnWrites request s' s'') : OwnWrites request s s'' := by
  intro hown
  obtain ⟨hown', hcalls, hkept⟩ := h hown
  obtain ⟨hown'', hcalls', hkept'⟩ := h' hown'
  exact ⟨hown'', hcalls'.trans hcalls, hkept.trans hkept'⟩

theorem bind (hm : Session.Keeps (OwnWrites request) m)
    (hf : ∀ a, Session.Keeps (OwnWrites request) (f a)) :
    Session.Keeps (OwnWrites request) (m >>= f) :=
  Session.Keeps.bind (R := OwnWrites request) (trans request) hm hf

theorem keeps_pure (a : α) : Session.Keeps (OwnWrites request) (pure a : Service α) :=
  .pure (refl request) a

theorem keeps_raise (e : Failure) :
    Session.Keeps (OwnWrites request) (Session.raise e : Service α) := .raise (refl request) e

theorem keeps_orCrash (exception : String) (x : Option α) :
    Session.Keeps (OwnWrites request) (orCrash exception x) := by
  cases x with
  | none => exact keeps_raise _
  | some a => exact keeps_pure a

/-- Actions, approvals and the history may be written freely. -/
theorem of_tools
    (h : s' = { s with
      actions := s'.actions, approvals := s'.approvals, trace := s'.trace }) :
    OwnWrites request s s' := by
  intro hown
  rw [h]
  exact ⟨⟨hown.case, hown.payment, hown.cart⟩, rfl, .of_tools rfl⟩

theorem keeps_recordAudit {e : AuditEvent} (he : e.merchantId = request.case.merchantId) :
    Session.Keeps (OwnWrites request) (Service.recordAudit e) := by
  refine .modify fun s hown => ⟨⟨hown.case, hown.payment, hown.cart⟩, rfl, ?_⟩
  have hforeign : ¬ e.merchantId ≠ request.case.merchantId := not_not.mpr he
  exact { MerchantKept.refl _ s with auditEvents := .insert _ hforeign }

theorem keeps_insertPolicyEvaluation {e : PolicyEvaluation}
    (he : e.merchantId = request.case.merchantId) :
    Session.Keeps (OwnWrites request) (Service.insertPolicyEvaluation e) := by
  refine .modify fun s hown => ⟨⟨hown.case, hown.payment, hown.cart⟩, rfl, ?_⟩
  have hforeign : ¬ e.merchantId ≠ request.case.merchantId := not_not.mpr he
  exact { MerchantKept.refl _ s with policyEvaluations := .insert _ hforeign }

/-- What follows the reading of the case may use whose it is. -/
theorem keeps_readCase_bind {f : RecoveryCase → Service β}
    (hf : ∀ c, c.merchantId = request.case.merchantId → c.cartId = request.case.cartId →
      Session.Keeps (OwnWrites request) (f c)) :
    Session.Keeps (OwnWrites request) (readCase request.args.caseId >>= f) := by
  intro s hown
  cases hrow : s.cases.get? request.args.caseId with
  | none =>
    have hmissing : (readCase request.args.caseId).run s =
        (.error (.crash "ObjectDeletedError"), s) := by
      unfold readCase
      rw [Session.run_get_bind, hrow]
      rfl
    rw [Session.run_bind_error hmissing]
    exact refl request s hown
  | some c =>
    obtain ⟨hmerchant, hcart⟩ := hown.case c hrow
    rw [run_readCase_bind hrow]
    exact hf c hmerchant hcart s hown

/-- A transition keeps the merchant and the cart of the case. -/
theorem keeps_moveTo (target : RecoveryCaseStatus) (now : Time) :
    Session.Keeps (OwnWrites request)
      (Service.modifyCase request.args.caseId fun c => c.moveTo target now) := by
  refine .modify fun s hown => ⟨⟨?_, hown.payment, hown.cart⟩, rfl, ?_⟩
  · intro c' hc'
    dsimp only at hc'
    rw [Table.get?_modify_self] at hc'
    obtain ⟨c, hc, rfl⟩ := Option.map_eq_some_iff.mp hc'
    exact hown.case c hc
  · refine { MerchantKept.refl _ s with cases := .modify ?_ }
    intro c hc
    have howner := (hown.case c hc).1
    exact ⟨not_not.mpr howner, not_not.mpr howner⟩

theorem keeps_transitionCase (caller : Caller) (target : RecoveryCaseStatus) :
    Session.Keeps (OwnWrites request) (transitionCase caller request.args.caseId target) := by
  refine keeps_readCase_bind fun c hmerchant _ => .ite ?_ ?_
  · exact bind (keeps_moveTo target caller.now) fun _ => keeps_recordAudit hmerchant
  · exact bind (keeps_recordAudit hmerchant) fun _ => keeps_raise _

/-! ## Handlers -/

variable {ctx : HandlerContext}

/-- A handler that is called for the request, on a row of its case. -/
structure CalledFor (request : ToolRequest) (ctx : HandlerContext) : Prop where
  merchant : ctx.case.merchantId = request.case.merchantId
  cart : ctx.case.cartId = request.case.cartId
  payment : ctx.payment = request.payment

theorem keeps_handleGetCustomerHistory (ctx : HandlerContext) :
    Session.Keeps (OwnWrites request) (handleGetCustomerHistory ctx) := by
  unfold handleGetCustomerHistory
  split
  · exact keeps_pure _
  · exact .get_bind fun _ => keeps_pure _

theorem keeps_handleGetPaymentDetails (ctx : HandlerContext) :
    Session.Keeps (OwnWrites request) (handleGetPaymentDetails ctx) := by
  unfold handleGetPaymentDetails
  split <;> exact keeps_pure _

theorem keeps_handleGetCartDetails (ctx : HandlerContext) :
    Session.Keeps (OwnWrites request) (handleGetCartDetails ctx) := by
  refine .get_bind fun s => ?_
  split <;> exact keeps_pure _

theorem keeps_handleGetSubscriptionDetails (ctx : HandlerContext) :
    Session.Keeps (OwnWrites request) (handleGetSubscriptionDetails ctx) := by
  refine .get_bind fun s => ?_
  split <;> exact keeps_pure _

theorem keeps_handleCalculateRecoveryProbability (svc : ToolExecutionService)
    (ctx : HandlerContext) :
    Session.Keeps (OwnWrites request) (handleCalculateRecoveryProbability svc ctx) := by
  refine .get_bind fun s => ?_
  dsimp only
  split
  · exact keeps_raise _
  · exact keeps_pure _
  · exact keeps_pure _

theorem keeps_handleCheckPaymentStatus (svc : ToolExecutionService) (ctx : HandlerContext) :
    Session.Keeps (OwnWrites request) (handleCheckPaymentStatus svc ctx) := by
  unfold handleCheckPaymentStatus
  split
  · exact keeps_pure _
  · split <;> exact keeps_pure _

/-- A retry adds a payment of the merchant. -/
theorem keeps_insertRetryPayment {p : Payment} (hp : p.merchantId = request.case.merchantId)
    (snapshot : PaymentSnapshot) :
    Session.Keeps (OwnWrites request) (insertRetryPayment p snapshot) := by
  refine .get_bind fun _ => .ite (keeps_raise _) <|
    .ite (keeps_raise _) (.modifyGet fun s hown => ?_)
  refine ⟨⟨hown.case, ?_, hown.cart⟩, rfl, ?_⟩
  · intro i p' q hi hq
    dsimp only at hq
    rw [Table.get?_insert] at hq
    split at hq
    · obtain rfl := Option.some.inj hq
      exact hp
    · exact hown.payment i p' q hi hq
  · have hforeign : ¬ p.merchantId ≠ request.case.merchantId := not_not.mpr hp
    exact { MerchantKept.refl _ s with payments := .insert _ hforeign }

/-- A retry adds an attempt on the payment of its case. -/
theorem keeps_insertRetryAttempt {originalId : ℕ} {original : Payment}
    (horiginal : request.payment = some (originalId, original)) (attemptNumber : ℤ)
    (snapshot : PaymentSnapshot) :
    Session.Keeps (OwnWrites request) (insertRetryAttempt originalId attemptNumber snapshot) := by
  refine .get_bind fun _ => .ite (keeps_raise _) <|
    .ite (keeps_raise _) (.modify fun s hown => ?_)
  refine ⟨⟨hown.case, hown.payment, hown.cart⟩, rfl, ?_⟩
  refine { MerchantKept.refl _ s with paymentAttempts := .insert _ ?_ }
  rintro ⟨q, hq, hother⟩
  exact hother (hown.payment originalId original q horiginal hq)

theorem keeps_insertRetry {originalId : ℕ} {original : Payment}
    (horiginal : request.payment = some (originalId, original)) (attemptNumber : ℤ)
    {p : Payment} (hp : p.merchantId = request.case.merchantId) (snapshot : PaymentSnapshot) :
    Session.Keeps (OwnWrites request) (insertRetry originalId attemptNumber p snapshot) :=
  bind (keeps_insertRetryPayment hp snapshot) fun _ =>
    bind (keeps_insertRetryAttempt horiginal attemptNumber snapshot) fun _ => keeps_pure _

theorem keeps_handleRetryPayment (svc : ToolExecutionService) (h : CalledFor request ctx) :
    Session.Keeps (OwnWrites request) (handleRetryPayment svc ctx) := by
  unfold handleRetryPayment
  cases hpayment : ctx.payment with
  | none => exact keeps_pure _
  | some found =>
    obtain ⟨originalId, original⟩ := found
    have horiginal : request.payment = some (originalId, original) := by
      rw [← h.payment]
      exact hpayment
    refine .get_bind fun s => bind (.modify fun _ => of_tools rfl) fun _ => ?_
    unfold finishRetry
    split
    · exact keeps_pure _
    · exact bind (keeps_insertRetry horiginal _ h.merchant _) fun _ => keeps_pure _

/-- A payment link is written on the payment of the case. -/
theorem keeps_recordPaymentLink (linkId : String) :
    Session.Keeps (OwnWrites request) (recordPaymentLink request.payment linkId) := by
  unfold recordPaymentLink
  cases hpayment : request.payment with
  | none => exact keeps_pure ()
  | some found =>
    obtain ⟨paymentId, p⟩ := found
    refine .modify fun s hown => ⟨⟨hown.case, ?_, hown.cart⟩, rfl, ?_⟩
    · intro i p' q hi hq
      dsimp only at hq
      rw [Table.get?_modify] at hq
      split at hq
      · obtain ⟨q₀, hq₀, rfl⟩ := Option.map_eq_some_iff.mp hq
        exact hown.payment i p' q₀ hi hq₀
      · exact hown.payment i p' q hi hq
    · refine { MerchantKept.refl _ s with payments := .modify ?_ }
      intro q hq
      have howner := hown.payment paymentId p q hpayment hq
      exact ⟨not_not.mpr howner, not_not.mpr howner⟩

theorem keeps_handleCreatePaymentLink (svc : ToolExecutionService)
    (h : CalledFor request ctx) :
    Session.Keeps (OwnWrites request) (handleCreatePaymentLink svc ctx) := by
  refine .get_bind fun s => bind (.modify fun _ => of_tools rfl) fun _ => ?_
  unfold finishPaymentLink
  split
  · exact keeps_pure _
  · rw [h.payment]
    exact .ite (keeps_raise _) (bind (keeps_recordPaymentLink _) fun _ => keeps_pure _)

/-- A discount is written on the cart of the case. -/
theorem keeps_discountCart (amount : Money) :
    Session.Keeps (OwnWrites request) (discountCart request.case.cartId amount) := by
  refine .get_bind fun s₀ => ?_
  split
  · exact keeps_pure ()
  · rename_i i cart hfound
    obtain ⟨cartId, hcart, hrow⟩ := Option.bind_eq_some_iff.mp hfound
    obtain ⟨_, -, heq⟩ := Option.map_eq_some_iff.mp hrow
    obtain rfl : cartId = i := congrArg Prod.fst heq
    refine bind (keeps_orCrash _ _) fun discount => .modify fun s hown => ?_
    refine ⟨⟨hown.case, hown.payment, ?_⟩, rfl, ?_⟩
    · intro j cart' hj hcart'
      dsimp only at hcart'
      rw [Table.get?_modify] at hcart'
      split at hcart'
      · obtain ⟨cart₀, hcart₀, rfl⟩ := Option.map_eq_some_iff.mp hcart'
        exact hown.cart j cart₀ hj hcart₀
      · exact hown.cart j cart' hj hcart'
    · refine { MerchantKept.refl _ s with carts := .modify ?_ }
      intro cart' hcart'
      have howner := hown.cart cartId cart' hcart hcart'
      exact ⟨not_not.mpr howner, not_not.mpr howner⟩

theorem keeps_handleOfferDiscount (rt : Runtime) (h : CalledFor request ctx) :
    Session.Keeps (OwnWrites request) (handleOfferDiscount rt ctx) := by
  refine bind (keeps_orCrash _ _) fun _ => bind (keeps_orCrash _ _) fun _ => ?_
  rw [h.cart]
  exact bind (keeps_discountCart _) fun _ => keeps_pure _

/-- A reminder is a row of the merchant. -/
theorem keeps_handleSendNotification (now : Time) (h : CalledFor request ctx) :
    Session.Keeps (OwnWrites request) (handleSendNotification now ctx) := by
  unfold handleSendNotification
  split
  · exact keeps_pure _
  · refine bind (.modifyGet fun s hown => ?_) fun _ => keeps_pure _
    refine ⟨⟨hown.case, hown.payment, hown.cart⟩, rfl, ?_⟩
    have hforeign : ∀ customerId,
        ¬ (reminder ctx customerId now).merchantId ≠ request.case.merchantId :=
      fun _ => not_not.mpr h.merchant
    exact { MerchantKept.refl _ s with notifications := .insert _ (hforeign _) }

theorem keeps_handlers (rt : Runtime) (svc : ToolExecutionService) (now : Time)
    (h : CalledFor request ctx) (tool : ToolName) :
    Session.Keeps (OwnWrites request) (handlers rt svc now ctx tool) := by
  cases tool with
  | getCustomerHistory => exact keeps_handleGetCustomerHistory ctx
  | getPaymentDetails => exact keeps_handleGetPaymentDetails ctx
  | getCartDetails => exact keeps_handleGetCartDetails ctx
  | getSubscriptionDetails => exact keeps_handleGetSubscriptionDetails ctx
  | getRecoveryCase => exact keeps_pure _
  | calculateRecoveryProbability => exact keeps_handleCalculateRecoveryProbability svc ctx
  | retryPayment => exact keeps_handleRetryPayment svc h
  | scheduleRetry => exact bind (keeps_orCrash _ _) fun _ => keeps_pure _
  | createPaymentLink => exact keeps_handleCreatePaymentLink svc h
  | sendNotification => exact keeps_handleSendNotification now h
  | offerDiscount => exact keeps_handleOfferDiscount rt h
  | checkPaymentStatus => exact keeps_handleCheckPaymentStatus svc ctx
  | checkSubscriptionStatus => exact keeps_handleGetSubscriptionDetails ctx
  | escalateToHuman => exact keeps_pure _
  | pauseRecovery => exact keeps_pure _

/-! ## A run -/

theorem keeps_auditRequest (caller : Caller) (eventType : AuditEventType) (action : String) :
    Session.Keeps (OwnWrites request) (auditRequest caller request eventType action) :=
  keeps_recordAudit rfl

theorem keeps_persistVerdict (caller : Caller) {verdict : ToolVerdict}
    (hcase : verdict.ctx.case = request.case) :
    Session.Keeps (OwnWrites request) (persistVerdict caller request verdict) := by
  unfold persistVerdict
  split
  · have howner : verdict.ctx.case.merchantId = request.case.merchantId := by rw [hcase]
    exact bind (keeps_insertPolicyEvaluation howner) fun _ => keeps_recordAudit howner
  · exact keeps_pure ()

theorem keeps_upsertAction (caller : Caller) (actionType : RecoveryActionType)
    (w : ActionWrite) :
    Session.Keeps (OwnWrites request) (upsertAction caller request actionType w) := by
  refine .get_bind fun s => ?_
  split
  · exact bind (.modify fun _ => of_tools rfl) fun _ => keeps_pure _
  · exact bind (.modifyGet fun _ => of_tools rfl) fun _ =>
      bind (keeps_auditRequest _ _ _) fun _ => keeps_pure _

theorem keeps_blockAction (caller : Caller) (action : RecoveryActionType)
    (evaluation : PolicyEvaluationResult) :
    Session.Keeps (OwnWrites request) (blockAction caller request action evaluation) :=
  bind (keeps_upsertAction caller action _) fun _ =>
    bind (keeps_auditRequest caller _ _) fun _ => keeps_pure _

theorem keeps_requestApproval (caller : Caller) (action : RecoveryActionType)
    (verdict : ToolVerdict) :
    Session.Keeps (OwnWrites request) (requestApproval caller request action verdict) := by
  have hcreate : ∀ actionId ttlMinutes,
      Session.Keeps (OwnWrites request) (createApproval caller request actionId ttlMinutes) :=
    fun _ _ => bind (.modifyGet fun _ => of_tools rfl) fun _ =>
      bind (.modify fun _ => of_tools rfl) fun _ =>
      bind (.modify fun _ => of_tools rfl) fun _ => keeps_pure _
  have hawait : Session.Keeps (OwnWrites request) (awaitApproval caller request) :=
    .ite (keeps_transitionCase caller _) (keeps_pure ())
  exact bind (keeps_upsertAction caller action _) fun actionId =>
    bind (hcreate actionId _) fun _ => bind hawait fun _ =>
      bind (keeps_auditRequest caller _ _) fun _ => keeps_pure _

theorem keeps_checkApproval (now : Time) :
    Session.Keeps (OwnWrites request) (checkApproval now request) := by
  refine .ite (.get_bind fun s => ?_) (keeps_pure ())
  split
  · exact keeps_raise _
  · split
    · exact keeps_raise _
    · exact .ite (keeps_raise _) <|
        .ite (bind (.modify fun _ => of_tools rfl) fun _ => keeps_raise _) <|
          .ite (keeps_raise _) (keeps_pure ())

theorem keeps_startAction (caller : Caller) (riskLevel : RiskLevel) :
    Session.Keeps (OwnWrites request) (startAction caller request riskLevel) := by
  unfold startAction
  split
  · exact keeps_pure _
  · exact bind (keeps_upsertAction caller _ _) fun _ =>
      bind (.ite (keeps_transitionCase caller _) (keeps_pure ())) fun _ =>
        bind (keeps_auditRequest caller _ _) fun _ => keeps_pure _

theorem keeps_callHandler (rt : Runtime) (svc : ToolExecutionService) (caller : Caller)
    (policy : PolicyContext) (actionId : Option ℕ) :
    Session.Keeps (OwnWrites request)
      (callHandler rt svc caller request policy actionId) := by
  refine keeps_readCase_bind fun c hmerchant hcart => .get_bind fun s => ?_
  exact bind (.modify fun _ => of_tools rfl) fun _ =>
    bind (keeps_handlers rt svc _ ⟨hmerchant, hcart, rfl⟩ _) fun _ =>
    bind (.ite (.modify fun _ => of_tools rfl) (keeps_pure ())) fun _ => keeps_pure _

theorem keeps_recordAction (now : Time) (actionId : Option ℕ) (handled : HandlerResult) :
    Session.Keeps (OwnWrites request) (recordAction now actionId handled) := by
  unfold recordAction
  split
  · exact keeps_pure ()
  · exact .modify fun _ => of_tools rfl

theorem keeps_applyCaseOutcome (caller : Caller) (target : Option RecoveryCaseStatus) :
    Session.Keeps (OwnWrites request)
      (applyCaseOutcome caller request.args.caseId target) := by
  have hmove : ∀ target, Session.Keeps (OwnWrites request)
      (transitionCase caller request.args.caseId target) := keeps_transitionCase caller
  refine keeps_readCase_bind fun c _ _ => .ite (keeps_pure ()) ?_
  split
  · exact .ite (bind (hmove _) fun _ => hmove _) (.ite (hmove _) (keeps_pure ()))
  · exact .ite (hmove _) (keeps_pure ())
  · exact .ite (hmove _) (keeps_pure ())
  · exact .ite (hmove _) (keeps_pure ())
  · exact keeps_pure ()

theorem keeps_reportSuccess (caller : Caller) (evaluation : PolicyEvaluationResult)
    (actionId : Option ℕ) (handled : HandlerResult) :
    Session.Keeps (OwnWrites request)
      (reportSuccess caller request evaluation actionId handled) := by
  refine bind (keeps_applyCaseOutcome caller _) fun _ => ?_
  split
  · exact bind (keeps_auditRequest caller _ _) fun _ => keeps_pure _
  · exact keeps_pure _

theorem keeps_reportFailure (caller : Caller) (evaluation : PolicyEvaluationResult)
    (actionId : Option ℕ) (handled : HandlerResult) :
    Session.Keeps (OwnWrites request)
      (reportFailure caller request evaluation actionId handled) := by
  have hfail : Session.Keeps (OwnWrites request) (failCase caller request) :=
    keeps_readCase_bind fun _ _ _ => .ite (keeps_transitionCase caller _) (keeps_pure ())
  exact bind hfail fun _ => bind (keeps_auditRequest caller _ _) fun _ => keeps_pure _

/-- A verdict was given on the row that was locked. -/
theorem judgeTool_case {verdict : ToolVerdict}
    (h : judgeTool rt svc now s request = .ok verdict) : verdict.ctx.case = request.case := by
  unfold judgeTool at h
  dsimp only at h
  split at h
  · obtain ⟨_, -, h⟩ := Lib.bind_eq_ok.mp h
    obtain ⟨ctx, hctx, h⟩ := Lib.bind_eq_ok.mp h
    obtain ⟨_, -, h⟩ := Lib.bind_eq_ok.mp h
    obtain rfl := Except.ok.inj h
    exact buildPolicyContext_case hctx
  · obtain ⟨ctx, hctx, h⟩ := Lib.bind_eq_ok.mp h
    obtain rfl := Except.ok.inj h
    exact buildPolicyContext_case hctx

theorem keeps_runAfterIdempotency (rt : Runtime) (svc : ToolExecutionService)
    (caller : Caller) :
    Session.Keeps (OwnWrites request) (runAfterIdempotency rt svc caller request) := by
  refine .get_bind fun s => .ofExcept_bind (refl request) fun verdict hjudged => ?_
  refine bind (keeps_persistVerdict caller (judgeTool_case hjudged)) fun _ => ?_
  split
  · exact keeps_raise _
  · exact keeps_blockAction caller _ _
  · exact keeps_requestApproval caller _ _
  · exact bind (keeps_checkApproval _) fun _ =>
      bind (keeps_startAction caller _) fun actionId =>
      bind (keeps_callHandler rt svc caller _ actionId) fun handled =>
      bind (keeps_recordAction _ actionId handled) fun _ =>
      .ite (keeps_reportSuccess caller _ actionId handled)
        (keeps_reportFailure caller _ actionId handled)

end OwnWrites

/-! ## A call -/

/-- The row belongs to another merchant or to another case. -/
def IsForeign (M C merchantId caseId : ℕ) : Prop := merchantId ≠ M ∨ caseId ≠ C

theorem not_isForeign {m c : ℕ} : ¬ IsForeign M C m c ↔ m = M ∧ c = C := by
  unfold IsForeign
  rw [not_or, not_not, not_not]

/-- The tool calls of other merchants and of other cases are the same. -/
def ToolCallsKept (M C : ℕ) (s s' : Store) : Prop :=
  s.toolCalls.KeptWhere (fun call => IsForeign M C call.merchantId call.recoveryCaseId)
    s'.toolCalls

/-- The identifier names a tool call of the request, if any. -/
def IsOwnCall (request : ToolRequest) (toolCallId : ℕ) (s : Store) : Prop :=
  ∀ call, s.toolCalls.get? toolCallId = some call →
    call.merchantId = request.case.merchantId ∧ call.recoveryCaseId = request.args.caseId

/-- As `OwnWrites`, for a session that may also write on the request's tool call. -/
def OwnCallWrites (request : ToolRequest) (toolCallId : ℕ) (s s' : Store) : Prop :=
  OwnSubjects request s → IsOwnCall request toolCallId s →
    OwnSubjects request s' ∧ IsOwnCall request toolCallId s' ∧
      MerchantKept request.case.merchantId s s' ∧
      ToolCallsKept request.case.merchantId request.args.caseId s s'

namespace OwnCallWrites

variable {toolCallId : ℕ} {α β : Type} {m : Service α} {f : α → Service β}

theorem refl (request : ToolRequest) (toolCallId : ℕ) (s : Store) :
    OwnCallWrites request toolCallId s s :=
  fun hown hcall => ⟨hown, hcall, .refl _ s, .refl _ _⟩

theorem trans (request : ToolRequest) (toolCallId : ℕ) (s s' s'' : Store)
    (h : OwnCallWrites request toolCallId s s')
    (h' : OwnCallWrites request toolCallId s' s'') :
    OwnCallWrites request toolCallId s s'' := by
  intro hown hcall
  obtain ⟨hown', hcall', hkept, hcalls⟩ := h hown hcall
  obtain ⟨hown'', hcall'', hkept', hcalls'⟩ := h' hown' hcall'
  exact ⟨hown'', hcall'', hkept.trans hkept', Table.KeptWhere.trans hcalls hcalls'⟩

theorem of_ownWrites (h : OwnWrites request s s') : OwnCallWrites request toolCallId s s' := by
  intro hown hcall
  obtain ⟨hown', hcalls, hkept⟩ := h hown
  refine ⟨hown', ?_, hkept, .of_eq hcalls⟩
  intro call
  rw [hcalls]
  exact hcall call

theorem bind (hm : Session.Keeps (OwnCallWrites request toolCallId) m)
    (hf : ∀ a, Session.Keeps (OwnCallWrites request toolCallId) (f a)) :
    Session.Keeps (OwnCallWrites request toolCallId) (m >>= f) :=
  Session.Keeps.bind (R := OwnCallWrites request toolCallId) (trans request toolCallId) hm hf

theorem keeps_pure (a : α) :
    Session.Keeps (OwnCallWrites request toolCallId) (pure a : Service α) :=
  .pure (refl request toolCallId) a

theorem keeps_modifyKey (merchantId : ℕ) (key : String)
    (g : IdempotencyKey → IdempotencyKey) :
    Session.Keeps (OwnCallWrites request toolCallId) (Service.modifyKey merchantId key g) := by
  refine .modify fun s hown hcall => ?_
  split
  · exact ⟨⟨hown.case, hown.payment, hown.cart⟩, hcall, .of_tools rfl, .refl _ _⟩
  · exact ⟨hown, hcall, .refl _ s, .refl _ _⟩

/-- A tool call stays with its case. -/
theorem keeps_modifyToolCall {g : ToolCall → ToolCall}
    (hmerchant : ∀ call, (g call).merchantId = call.merchantId)
    (hcase : ∀ call, (g call).recoveryCaseId = call.recoveryCaseId) :
    Session.Keeps (OwnCallWrites request toolCallId) (Service.modifyToolCall toolCallId g) := by
  refine .modify fun s hown hcall => ?_
  refine ⟨⟨hown.case, hown.payment, hown.cart⟩, ?_, .of_tools rfl, .modify ?_⟩
  · intro call' hcall'
    dsimp only at hcall'
    rw [Table.get?_modify_self] at hcall'
    obtain ⟨call, hrow, rfl⟩ := Option.map_eq_some_iff.mp hcall'
    rw [hmerchant, hcase]
    exact hcall call hrow
  · intro call hrow
    have howner := hcall call hrow
    exact ⟨not_isForeign.mpr howner, not_isForeign.mpr (by rw [hmerchant, hcase]; exact howner)⟩

theorem keeps_recordFailure (caller : Caller) (f : Failure) :
    Session.Keeps (OwnCallWrites request toolCallId)
      (recordFailure caller request toolCallId f) := by
  cases f with
  | crash exception => exact keeps_pure ()
  | domain e =>
    exact .ite (keeps_pure ()) <| bind (keeps_modifyKey _ _ _) fun _ =>
      keeps_modifyToolCall (fun _ => rfl) fun _ => rfl

/-- A run that keeps the frame is recorded within it. -/
theorem keeps_recordRun (caller : Caller) {run : Service ToolExecutionResult}
    (hrun : Session.Keeps (OwnWrites request) run) :
    Session.Keeps (OwnCallWrites request toolCallId) (recordRun caller request toolCallId run) := by
  refine bind (.onError (trans request _) ?_ (keeps_recordFailure caller)) fun result => ?_
  · intro s
    exact of_ownWrites (hrun s)
  · exact bind (keeps_modifyKey _ _ _) fun _ =>
      bind (keeps_modifyToolCall (fun _ => rfl) fun _ => rfl) fun _ => keeps_pure _

end OwnCallWrites

theorem executeRequest_merchantKept (rt : Runtime) (svc : ToolExecutionService)
    (caller : Caller) (hown : OwnSubjects request s) :
    MerchantKept request.case.merchantId s
        ((executeRequest rt svc caller request).run s).2 ∧
      ToolCallsKept request.case.merchantId request.args.caseId s
        ((executeRequest rt svc caller request).run s).2 := by
  have hown' : OwnSubjects request (s.pending request) := ⟨hown.case, hown.payment, hown.cart⟩
  -- the tool call that is inserted belongs to the request
  have hcall : IsOwnCall request s.toolCalls.nextId (s.pending request) := by
    intro inserted hinserted
    unfold Store.pending at hinserted
    dsimp only at hinserted
    rw [Table.get?_insert_nextId] at hinserted
    obtain rfl := Option.some.inj hinserted
    exact ⟨rfl, rfl⟩
  rw [run_executeRequest]
  obtain ⟨-, -, hkept, hcalls⟩ := OwnCallWrites.keeps_recordRun caller
    (OwnWrites.keeps_runAfterIdempotency rt svc caller) (s.pending request) hown' hcall
  refine ⟨MerchantKept.trans (.of_tools rfl) hkept, Table.KeptWhere.trans ?_ hcalls⟩
  exact .insert _ (not_isForeign.mpr ⟨rfl, rfl⟩)

/-- A call whose case has the merchant's own payment and cart writes rows of the merchant. -/
theorem execute_merchantKept (rt : Runtime) (svc : ToolExecutionService) (caller : Caller)
    (args : ExecuteArgs) (s : Store)
    (hown : ∀ request, admitRequest rt s args = .ok request →
      request.case.merchantId = M ∧ OwnSubjects request s) :
    MerchantKept M s ((execute rt svc caller args).run s).2 ∧
      ToolCallsKept M args.caseId s ((execute rt svc caller args).run s).2 := by
  have houtcome := execute_outcome rt svc caller args s
  rcases hrun : (execute rt svc caller args).run s with ⟨x, s'⟩
  rw [hrun] at houtcome
  cases houtcome with
  | rejected | conflict | replayed | busy => exact ⟨.refl M _, .refl _ _⟩
  | @ran request row s₁ _ _ _ hadmits hholds hran hfinished =>
    obtain ⟨rfl, hsubjects⟩ := hown request hadmits
    have hargs := (admitted_of_ok hadmits).args_eq
    have htaken := keyTaken_eq s request caller.now
    have hsubjects' : OwnSubjects request (s.keyTaken request caller.now) := by
      rw [htaken]
      exact ⟨hsubjects.case, hsubjects.payment, hsubjects.cart⟩
    obtain ⟨hkept, hcalls⟩ := executeRequest_merchantKept rt svc caller hsubjects'
    rw [← execute_run_of_holds rt svc caller hadmits hholds, hrun, hargs] at hcalls
    rw [← execute_run_of_holds rt svc caller hadmits hholds, hrun] at hkept
    refine ⟨MerchantKept.trans (.of_tools ?_) hkept, Table.KeptWhere.trans (.of_eq ?_) hcalls⟩
    · rw [htaken]
    · rw [htaken]

end ReviveX
