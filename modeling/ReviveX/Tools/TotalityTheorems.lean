import ReviveX.Domain.ConversionTheorems
import ReviveX.Tools.DiscountTheorems
import ReviveX.Tools.RetryCapTheorems
import ReviveX.Tools.RetryEvents

/-!
# When an execution raises something else than a `DomainError`

`execute` checks the shape of its input and refuses the rest, but the texts and numbers of an
accepted input are converted later: in the policy engine, in the handlers, and by the database
when rows are inserted. `Converts` lists these conversions. An execution returns a result or
raises a `DomainError` exactly when every conversion that it reaches succeeds.
-/

namespace ReviveX

open Lib (Decimal Json RaisesOnly Session Yields)

variable {rt : Runtime} {svc : ToolExecutionService} {caller : Caller} {now : Time}
  {request : ToolRequest} {s s' : Store} {c : RecoveryCase} {args : ExecuteArgs}

/-- A `DomainError`. -/
def Failure.IsDomain (f : Failure) : Prop := f.commits = true

theorem Failure.not_isDomain {f : Failure} : ¬ f.IsDomain ↔ f.RollsBack := by
  unfold IsDomain RollsBack
  rw [Bool.not_eq_true]

/-- The predictor answers or raises an `InferenceError`. -/
def ToolExecutionService.PredictorAnswers (svc : ToolExecutionService) : Prop :=
  ∀ s caseId action attemptNumber exception,
    svc.predict s caseId action attemptNumber ≠ .error exception

/-- The sequence returns: its first half does, and the second on what the first left. -/
theorem yields_bind {α β : Type} {m : Service α} {f : α → Service β} :
    Yields ((m >>= f).run s).1 ↔ ∃ a s₁, m.run s = (.ok a, s₁) ∧ Yields ((f a).run s₁).1 := by
  rw [Session.run_bind]
  rcases m.run s with ⟨e | a, s₁⟩
  · simp [Yields]
  · simp

/-- A session that converts a value goes on exactly when the value converts. -/
theorem yields_orCrash_bind {α β : Type} {exception : String} {x : Option α} {f : α → Service β} :
    Yields ((orCrash exception x >>= f).run s).1 ↔
      ∃ a, x = some a ∧ Yields ((f a).run s).1 := by
  rw [yields_bind]
  constructor
  · rintro ⟨a, s₁, hread, h⟩
    obtain ⟨hx, rfl⟩ := orCrash_eq_ok.mp hread
    exact ⟨a, hx, h⟩
  · rintro ⟨a, hx, h⟩
    exact ⟨a, s, orCrash_eq_ok.mpr ⟨hx, rfl⟩, h⟩

/-! ## The handlers -/

/-- Another payment of the merchant bears the identifier that the provider gave, or a payment
has the primary key that is made of it. -/
def Store.paymentTaken (s : Store) (merchantId : ℕ) (snapshot : PaymentSnapshot) : Bool :=
  s.payments.any fun q =>
    (q.merchantId = merchantId && q.provider = snapshot.provider &&
      q.providerPaymentId = some snapshot.providerPaymentId) ||
    q.internalName = some
      (internalPaymentName merchantId snapshot.provider snapshot.providerPaymentId)

/-- The payment has an attempt of this number. -/
def Store.attemptTaken (s : Store) (paymentId : ℕ) (n : ℤ) : Bool :=
  s.paymentAttempts.any fun a => a.paymentId = paymentId && a.attemptNumber = n

/-- The rows of a retry meet the constraints of their tables. -/
structure RetryFits (s : Store) (merchantId paymentId : ℕ) (n : ℤ) (snapshot : PaymentSnapshot) :
    Prop where
  amount : fitsMoneyColumn snapshot.amount = true
  payment : s.paymentTaken merchantId snapshot = false
  attempt : s.attemptTaken paymentId n = false
  range : fitsInteger n = true

/-- If the provider makes a payment for a retry, its rows can be inserted. -/
def RetryInserts (svc : ToolExecutionService) (s : Store) (ctx : HandlerContext) : Prop :=
  ∀ paymentId original snapshot, ctx.payment = some (paymentId, original) →
    svc.provider.createPayment
      (retryRequest ctx original (retryAttemptNumber s ctx.payload paymentId)) = .ok snapshot →
    RetryFits s ctx.case.merchantId paymentId (retryAttemptNumber s ctx.payload paymentId) snapshot

/-- If the provider makes a payment link, its amount can be written on the action. -/
def LinkFits (svc : ToolExecutionService) (ctx : HandlerContext) : Prop :=
  ∀ snapshot, svc.provider.createPaymentLink (linkRequest ctx) = .ok snapshot →
    fitsMoneyColumn snapshot.amount = true

/-- The time of a scheduled retry reads as an instant. -/
def ScheduleReads (rt : Runtime) (ctx : HandlerContext) : Prop :=
  (rt.py.fromisoformat
    (replaceZulu ((textField ctx.payload "scheduled_for").getD ""))).isSome = true

/-- The discount of the case's cart is still money when it has grown by the amount. -/
def CartGrows (s : Store) (cartId : Option ℕ) (amount : Money) : Prop :=
  ∀ i cart, cartId = some i → s.carts.get? i = some cart →
    ((cart.discount.toDecimal.add? amount.toDecimal).bind asMoney).isSome = true

/-- The percentage of a discount reads as a decimal, and its amount is money that the cart takes. -/
def DiscountConverts (rt : Runtime) (s : Store) (ctx : HandlerContext) : Prop :=
  ∃ percent amount,
    rt.py.decimal ((textField ctx.payload "discount_percent").getD "") = some percent ∧
    discountAmount ctx.case percent = some amount ∧ CartGrows s ctx.case.cartId amount

/-- The conversions of a tool's handler succeed. -/
structure HandlerConverts (rt : Runtime) (svc : ToolExecutionService) (s : Store)
    (ctx : HandlerContext) (tool : ToolName) : Prop where
  retry : tool = .retryPayment → RetryInserts svc s ctx
  link : tool = .createPaymentLink → LinkFits svc ctx
  schedule : tool = .scheduleRetry → ScheduleReads rt ctx
  discount : tool = .offerDiscount → DiscountConverts rt s ctx

theorem yields_insertRetry {originalId : ℕ} {n : ℤ} {original : Payment}
    {snapshot : PaymentSnapshot} {ctx : HandlerContext} :
    Yields ((insertRetry originalId n (retriedPayment ctx original snapshot) snapshot).run s).1 ↔
      RetryFits s ctx.case.merchantId originalId n snapshot := by
  have hpayment : s.payments.any (retriedPayment ctx original snapshot).clashes =
      s.paymentTaken ctx.case.merchantId snapshot := rfl
  have hattempt : s.paymentAttempts.any (fun a =>
      a.paymentId = originalId && a.attemptNumber = n) = s.attemptTaken originalId n := rfl
  unfold insertRetry
  rcases run_insertRetryPayment (retriedPayment ctx original snapshot) snapshot s with
    ⟨hamount, hfree, hrun⟩ | ⟨hunfit, exception, hrun⟩
  · rw [Session.run_bind_ok hrun]
    rcases run_insertRetryAttempt originalId n snapshot { s with
        payments := s.payments.insert (retriedPayment ctx original snapshot) } with
      ⟨hnew, hrange, hrun'⟩ | ⟨hunfit, exception, hrun'⟩
    · rw [Session.run_bind_ok hrun']
      exact iff_of_true ⟨_, rfl⟩ ⟨hamount, hpayment ▸ hfree, hattempt ▸ hnew, hrange⟩
    · rw [Session.run_bind_error hrun']
      exact iff_of_false (Yields.not_iff.mpr ⟨_, rfl⟩) fun h => hunfit ⟨h.attempt, h.range⟩
  · rw [Session.run_bind_error hrun]
    exact iff_of_false (Yields.not_iff.mpr ⟨_, rfl⟩) fun h =>
      hunfit ⟨h.amount, hpayment.trans h.payment⟩

theorem yields_discountCart {cartId : Option ℕ} {amount : Money} :
    Yields ((discountCart cartId amount).run s).1 ↔ CartGrows s cartId amount := by
  unfold discountCart CartGrows
  rw [Session.run_get_bind]
  cases cartId with
  | none => exact iff_of_true (.ok _) nofun
  | some i =>
    dsimp only [Option.bind_some]
    cases hcart : s.carts.get? i with
    | none =>
      refine iff_of_true (.ok _) ?_
      rintro _ cart ⟨⟩ hfound
      rw [hcart] at hfound
      cases hfound
    | some cart =>
      dsimp only [Option.map_some]
      rw [yields_orCrash_bind]
      constructor
      · rintro ⟨total, htotal, -⟩ _ _ ⟨⟩ hfound
        obtain rfl := Option.some.inj (hcart.symm.trans hfound)
        rw [htotal]
        rfl
      · intro h
        obtain ⟨total, htotal⟩ := Option.isSome_iff_exists.mp (h i cart rfl hcart)
        exact ⟨total, htotal, .ok _⟩

/-- A retry returns exactly when the rows of a payment that the provider made fit. -/
theorem yields_finishRetry {ctx : HandlerContext} {paymentId : ℕ} {original : Payment} {n : ℤ}
    {answer : Except ProviderError PaymentSnapshot} :
    Yields ((finishRetry svc ctx paymentId original n answer).run s).1 ↔
      ∀ snapshot, answer = .ok snapshot → RetryFits s ctx.case.merchantId paymentId n snapshot := by
  cases answer with
  | error e => exact iff_of_true ⟨_, rfl⟩ fun _ h => nomatch h
  | ok snapshot =>
    have hrows : Yields ((insertRetry paymentId n (retriedPayment ctx original snapshot)
        snapshot).run s).1 ↔ RetryFits s ctx.case.merchantId paymentId n snapshot :=
      yields_insertRetry
    unfold finishRetry
    rw [yields_bind]
    constructor
    · rintro ⟨a, s₁, hinserted, -⟩ _ ⟨⟩
      refine hrows.mp ⟨a, ?_⟩
      rw [hinserted]
    · intro h
      obtain ⟨a, ha⟩ := hrows.mpr (h snapshot rfl)
      exact ⟨a, _, Session.run_of_result ha, ⟨_, rfl⟩⟩

theorem yields_handleRetryPayment {ctx : HandlerContext} :
    Yields ((handleRetryPayment svc ctx).run s).1 ↔ RetryInserts svc s ctx := by
  unfold handleRetryPayment RetryInserts
  rcases ctx.payment with _ | ⟨paymentId, original⟩
  · refine iff_of_true ⟨_, rfl⟩ ?_
    rintro paymentId original snapshot ⟨⟩
  · dsimp only
    rw [Session.run_get_bind]
    -- the note of the question changes none of the tables that are read
    refine Iff.trans yields_finishRetry ⟨fun h i p snapshot hpayment hmade => ?_, fun h => ?_⟩
    · obtain ⟨rfl, rfl⟩ := Prod.mk.inj (Option.some.inj hpayment)
      have hfits := h snapshot hmade
      exact ⟨hfits.amount, hfits.payment, hfits.attempt, hfits.range⟩
    · intro snapshot hmade
      have hfits := h paymentId original snapshot rfl hmade
      exact ⟨hfits.amount, hfits.payment, hfits.attempt, hfits.range⟩

theorem yields_handleScheduleRetry {ctx : HandlerContext} :
    Yields ((handleScheduleRetry rt ctx).run s).1 ↔ ScheduleReads rt ctx := by
  unfold handleScheduleRetry ScheduleReads
  dsimp only
  rw [yields_orCrash_bind, Option.isSome_iff_exists]
  exact exists_congr fun time => and_iff_left ⟨_, rfl⟩

theorem yields_handleOfferDiscount {ctx : HandlerContext} :
    Yields ((handleOfferDiscount rt ctx).run s).1 ↔ DiscountConverts rt s ctx := by
  unfold handleOfferDiscount DiscountConverts
  dsimp only
  rw [yields_orCrash_bind]
  constructor
  · rintro ⟨percent, hpercent, h⟩
    obtain ⟨amount, hamount, h⟩ := yields_orCrash_bind.mp h
    obtain ⟨done, s₁, hcart, -⟩ := yields_bind.mp h
    refine ⟨percent, amount, hpercent, hamount, yields_discountCart.mp ⟨done, ?_⟩⟩
    rw [hcart]
  · rintro ⟨percent, amount, hpercent, hamount, hgrows⟩
    obtain ⟨done, hcart⟩ := yields_discountCart.mpr hgrows
    exact ⟨percent, hpercent, yields_orCrash_bind.mpr
      ⟨amount, hamount, yields_bind.mpr ⟨done, _, Session.run_of_result hcart, ⟨_, rfl⟩⟩⟩⟩

/-- A payment link returns exactly when the amount of one that the provider made fits. -/
theorem yields_handleCreatePaymentLink {ctx : HandlerContext} :
    Yields ((handleCreatePaymentLink svc ctx).run s).1 ↔ LinkFits svc ctx := by
  unfold handleCreatePaymentLink LinkFits
  rw [Session.run_get_bind]
  rcases svc.provider.createPaymentLink (linkRequest ctx) with e | snapshot
  · exact iff_of_true ⟨_, rfl⟩ nofun
  · unfold finishPaymentLink recordPaymentLink
    cases hamount : fitsMoneyColumn snapshot.amount with
    | false =>
      refine iff_of_false (Yields.not_iff.mpr ⟨_, by simp [hamount]; rfl⟩) fun h => ?_
      exact absurd (hamount.symm.trans (h snapshot rfl)) (by decide)
    | true =>
      refine iff_of_true ?_ ?_
      · cases ctx.payment <;> exact ⟨_, by simp [hamount]; rfl⟩
      · rintro _ ⟨⟩
        exact hamount

/-- A handler returns exactly when its conversions succeed. -/
theorem yields_handlers (hanswers : svc.PredictorAnswers) (ctx : HandlerContext)
    (tool : ToolName) :
    Yields ((handlers rt svc now ctx tool).run s).1 ↔ HandlerConverts rt svc s ctx tool := by
  -- the handlers that convert nothing
  have hplain : tool ≠ .retryPayment → tool ≠ .createPaymentLink → tool ≠ .scheduleRetry →
      tool ≠ .offerDiscount → HandlerConverts rt svc s ctx tool :=
    fun hretry hlink hschedule hdiscount =>
      ⟨fun h => absurd h hretry, fun h => absurd h hlink, fun h => absurd h hschedule,
        fun h => absurd h hdiscount⟩
  cases tool with
  | retryPayment =>
    refine Iff.trans yields_handleRetryPayment ⟨fun h => ?_, fun h => h.retry rfl⟩
    exact ⟨fun _ => h, nofun, nofun, nofun⟩
  | scheduleRetry =>
    refine Iff.trans yields_handleScheduleRetry ⟨fun h => ?_, fun h => h.schedule rfl⟩
    exact ⟨nofun, nofun, fun _ => h, nofun⟩
  | offerDiscount =>
    refine Iff.trans yields_handleOfferDiscount ⟨fun h => ?_, fun h => h.discount rfl⟩
    exact ⟨nofun, nofun, nofun, fun _ => h⟩
  | getCustomerHistory =>
    refine iff_of_true ?_ (hplain nofun nofun nofun nofun)
    change Yields ((handleGetCustomerHistory ctx).run s).1
    unfold handleGetCustomerHistory
    cases ctx.customer <;> exact ⟨_, rfl⟩
  | getPaymentDetails =>
    refine iff_of_true ?_ (hplain nofun nofun nofun nofun)
    change Yields ((handleGetPaymentDetails ctx).run s).1
    unfold handleGetPaymentDetails
    cases ctx.payment <;> exact ⟨_, rfl⟩
  | getCartDetails =>
    refine iff_of_true ?_ (hplain nofun nofun nofun nofun)
    change Yields ((handleGetCartDetails ctx).run s).1
    unfold handleGetCartDetails
    rw [Session.run_get_bind]
    cases ctx.case.cartId.bind fun cartId => (s.carts.get? cartId).map (cartId, ·) <;>
      exact ⟨_, rfl⟩
  | getSubscriptionDetails | checkSubscriptionStatus =>
    refine iff_of_true ?_ (hplain nofun nofun nofun nofun)
    change Yields ((handleGetSubscriptionDetails ctx).run s).1
    unfold handleGetSubscriptionDetails
    rw [Session.run_get_bind]
    cases ctx.case.subscriptionId.bind fun i => (s.subscriptions.get? i).map (i, ·) <;>
      exact ⟨_, rfl⟩
  | getRecoveryCase => exact iff_of_true ⟨_, rfl⟩ (hplain nofun nofun nofun nofun)
  | calculateRecoveryProbability =>
    refine iff_of_true ?_ (hplain nofun nofun nofun nofun)
    change Yields ((handleCalculateRecoveryProbability svc ctx).run s).1
    unfold handleCalculateRecoveryProbability
    rw [Session.run_get_bind]
    dsimp only
    rcases hpredicted : svc.predict s ctx.caseId
      (textOr ctx.payload "action" RecoveryActionType.retryNow.text) ctx.attemptNumber with
      exception | ⟨code, message⟩ | output
    · exact absurd hpredicted (hanswers _ _ _ _ _)
    · exact ⟨_, rfl⟩
    · exact ⟨_, rfl⟩
  | createPaymentLink =>
    refine Iff.trans yields_handleCreatePaymentLink ⟨fun h => ?_, fun h => h.link rfl⟩
    exact ⟨nofun, fun _ => h, nofun, nofun⟩
  | sendNotification =>
    refine iff_of_true ?_ (hplain nofun nofun nofun nofun)
    change Yields ((handleSendNotification now ctx).run s).1
    unfold handleSendNotification
    cases ctx.customer <;> exact ⟨_, rfl⟩
  | checkPaymentStatus =>
    refine iff_of_true ?_ (hplain nofun nofun nofun nofun)
    change Yields ((handleCheckPaymentStatus svc ctx).run s).1
    unfold handleCheckPaymentStatus
    rcases givenText (textField ctx.payload "provider_payment_id") with _ | providerPaymentId
    · exact ⟨_, rfl⟩
    · dsimp only
      cases svc.provider.fetchPayment providerPaymentId <;> exact ⟨_, rfl⟩
  | escalateToHuman => exact iff_of_true ⟨_, rfl⟩ (hplain nofun nofun nofun nofun)
  | pauseRecovery => exact iff_of_true ⟨_, rfl⟩ (hplain nofun nofun nofun nofun)

/-! ## The run -/

/-- What the handlers convert does not change while a run goes on. -/
theorem handlerConverts_congr {s₀ s₁ : Store} {actionId : Option ℕ} {tool : ToolName}
    (hpayments : s₁.payments = s.payments) (hattempts : s₁.paymentAttempts = s.paymentAttempts)
    (hcarts : s₁.carts = s.carts) (hlife : request.case.LifecycleOnly c) :
    HandlerConverts rt svc s₁ (handlerContext request c actionId s₀) tool ↔
      HandlerConverts rt svc s (handlerContext request request.case none s) tool := by
  unfold RecoveryCase.LifecycleOnly at hlife
  have hnumber : retryAttemptNumber s₁ = retryAttemptNumber s := by
    unfold retryAttemptNumber Store.nextAttemptNumber
    rw [hattempts]
  have hfits : ∀ merchantId paymentId n snapshot,
      RetryFits s₁ merchantId paymentId n snapshot ↔
        RetryFits s merchantId paymentId n snapshot := by
    intro merchantId paymentId n snapshot
    constructor <;> rintro ⟨hamount, hpayment, hattempt, hrange⟩
    · unfold Store.paymentTaken at hpayment
      unfold Store.attemptTaken at hattempt
      rw [hpayments] at hpayment
      rw [hattempts] at hattempt
      exact ⟨hamount, hpayment, hattempt, hrange⟩
    · unfold Store.paymentTaken at hpayment
      unfold Store.attemptTaken at hattempt
      rw [← hpayments] at hpayment
      rw [← hattempts] at hattempt
      exact ⟨hamount, hpayment, hattempt, hrange⟩
  have hretry : RetryInserts svc s₁ (handlerContext request c actionId s₀) ↔
      RetryInserts svc s (handlerContext request request.case none s) := by
    unfold RetryInserts
    simp only [hnumber, hfits]
    rw [hlife]
    exact Iff.rfl
  have hdiscount : DiscountConverts rt s₁ (handlerContext request c actionId s₀) ↔
      DiscountConverts rt s (handlerContext request request.case none s) := by
    unfold DiscountConverts CartGrows
    rw [hcarts, hlife]
    exact Iff.rfl
  have hlink : LinkFits svc (handlerContext request c actionId s₀) ↔
      LinkFits svc (handlerContext request request.case none s) := by
    unfold LinkFits
    rw [hlife]
    exact Iff.rfl
  constructor
  · intro h
    exact ⟨fun ht => hretry.mp (h.retry ht), fun ht => hlink.mp (h.link ht), h.schedule,
      fun ht => hdiscount.mp (h.discount ht)⟩
  · intro h
    exact ⟨fun ht => hretry.mpr (h.retry ht), fun ht => hlink.mpr (h.link ht), h.schedule,
      fun ht => hdiscount.mpr (h.discount ht)⟩

/-- The check of an approval refuses with a `DomainError`. -/
theorem raises_checkApproval (now : Time) (request : ToolRequest) :
    Session.Raises Failure.IsDomain (checkApproval now request) := by
  unfold checkApproval
  refine .ite (.get_bind fun s => ?_) (.pure _)
  split
  · exact .raise rfl
  · split
    · exact .raise rfl
    · exact .ite (.raise rfl) (.ite (.bind (.modify _) fun _ => .raise rfl)
        (.ite (.raise rfl) (.pure _)))

/-- What a request converts in its handler, on the rows it was admitted with. -/
def RequestConverts (rt : Runtime) (svc : ToolExecutionService) (s : Store)
    (request : ToolRequest) : Prop :=
  HandlerConverts rt svc s (handlerContext request request.case none s) request.tool

/-- A verdict that lets the tool run, with an approval where one is needed, finds the handler's
conversions to succeed. -/
def HandlerSafe (rt : Runtime) (svc : ToolExecutionService) (now : Time) (s : Store)
    (request : ToolRequest) (verdict : ToolVerdict) : Prop :=
  toolBranch request verdict.evaluation = .run →
    (request.args.approvedExecution = true → UsableApproval s request now) →
      RequestConverts rt svc s request

theorem runTool_total_iff (hanswers : svc.PredictorAnswers) {verdict : ToolVerdict}
    (hrow : s.cases.get? request.args.caseId = some request.case)
    (hbranch : toolBranch request verdict.evaluation = .run) :
    RaisesOnly Failure.IsDomain ((runTool rt svc caller request verdict).run s).1 ↔
      HandlerSafe rt svc caller.now s request verdict := by
  unfold HandlerSafe
  rw [forall_prop_of_true hbranch]
  rcases checkApproval_outcome caller.now request s with
    ⟨hcheck, husable⟩ | ⟨f, s', hcheck, -, -, -⟩
  · obtain ⟨s₁, c, s₂, hreached, hran⟩ := runTool_reached rt svc hrow hbranch hcheck husable
    have hyields : Yields ((handlers rt svc caller.now
        (handlerContext request c (s.startedId request) s₁) request.tool).run
          (s₁.entered (requestCall caller request verdict s s₁ c))).1 ↔
        RequestConverts rt svc s request := by
      rw [yields_handlers hanswers]
      refine handlerConverts_congr ?_ ?_ ?_ hreached.lifecycle
      all_goals
        unfold Store.entered
        rw [hreached.started.store]
    rw [forall_prop_of_true husable, ← hyields]
    rcases hran with ⟨handled, r, s₃, hran, hrun, -, -⟩ | ⟨f, hran, hrun, hrollsBack⟩
    · rw [hrun, hran]
      exact iff_of_true (.ok r) (.ok handled)
    · rw [hrun, hran]
      refine iff_of_false (fun h => ?_) (Yields.not_iff.mpr ⟨f, rfl⟩)
      exact Failure.not_isDomain.mpr hrollsBack (h f rfl)
  · have hrun : (runTool rt svc caller request verdict).run s = (.error f, s') := by
      unfold runTool
      rw [Session.run_bind_error hcheck]
    rw [hrun]
    refine iff_of_true (.error (raises_checkApproval _ _ _ _ _ hcheck)) fun husable => ?_
    rw [checkApproval_run husable] at hcheck
    cases hcheck

/-- The handler reads neither the keys nor the records. -/
theorem handlerSafe_congr {s₀ : Store} {verdict : ToolVerdict}
    (h : s₀ = { s with
      idempotencyKeys := s₀.idempotencyKeys
      policyEvaluations := s₀.policyEvaluations
      toolCalls := s₀.toolCalls
      auditEvents := s₀.auditEvents }) :
    HandlerSafe rt svc now s₀ request verdict ↔ HandlerSafe rt svc now s request verdict := by
  have husable : UsableApproval s₀ request now ↔ UsableApproval s request now :=
    usableApproval_congr (by rw [h]) (by rw [h])
  have hconverts : RequestConverts rt svc s₀ request ↔ RequestConverts rt svc s request := by
    refine handlerConverts_congr ?_ ?_ ?_ (.refl request.case)
    all_goals rw [h]
  unfold HandlerSafe
  rw [husable, hconverts]

/-- A verdict is acted on without other failures exactly when the handler is safe. -/
theorem actOnVerdict_total_iff (hanswers : svc.PredictorAnswers) {verdict : ToolVerdict}
    (hrow : s.cases.get? request.args.caseId = some request.case) :
    RaisesOnly Failure.IsDomain ((actOnVerdict rt svc caller request verdict).run s).1 ↔
      HandlerSafe rt svc caller.now s request verdict := by
  obtain ⟨s₀, hrun₀, hrecorded⟩ := persistVerdict_run caller request verdict s
  have hrow₀ : s₀.cases.get? request.args.caseId = some request.case := by
    rw [hrecorded.cases]
    exact hrow
  unfold actOnVerdict
  rw [Session.run_bind_ok hrun₀]
  -- only the last branch calls the handler, and the others return or refuse
  cases hbranch : toolBranch request verdict.evaluation with
  | invalidState =>
    exact iff_of_true (.error rfl) fun hrun => absurd (hbranch.symm.trans hrun) nofun
  | blocked action =>
    obtain ⟨r, s₁, hrun₁, -, -⟩ := blockAction_run caller request action verdict.evaluation s₀
    dsimp only
    rw [hrun₁]
    exact iff_of_true (.ok r) fun hrun => absurd (hbranch.symm.trans hrun) nofun
  | approval action =>
    obtain ⟨r, s₁, _, hrun₁, -, -, -⟩ := requestApproval_run caller action verdict hrow₀
    dsimp only
    rw [hrun₁]
    exact iff_of_true (.ok r) fun hrun => absurd (hbranch.symm.trans hrun) nofun
  | run =>
    dsimp only
    rw [runTool_total_iff hanswers hrow₀ hbranch]
    refine handlerSafe_congr ?_
    rw [hrecorded]

/-- The verdict is given, and it can be acted on. -/
def RunSafe (rt : Runtime) (svc : ToolExecutionService) (now : Time) (s : Store)
    (request : ToolRequest) : Prop :=
  ∃ verdict, judgeTool rt svc now s request = .ok verdict ∧
    HandlerSafe rt svc now s request verdict

theorem runAfterIdempotency_total_iff (hanswers : svc.PredictorAnswers)
    (hrow : s.cases.get? request.args.caseId = some request.case) :
    RaisesOnly Failure.IsDomain ((runAfterIdempotency rt svc caller request).run s).1 ↔
      RunSafe rt svc caller.now s request := by
  rw [run_runAfterIdempotency, Session.run_ofExcept_bind]
  unfold RunSafe
  cases hjudged : judgeTool rt svc caller.now s request with
  | error f =>
    refine iff_of_false (fun h => ?_) (by simp)
    exact Failure.not_isDomain.mpr (raises_judgeTool _ _ _ _ _ f hjudged) (h f rfl)
  | ok verdict =>
    refine Iff.trans (actOnVerdict_total_iff hanswers hrow) ⟨fun h => ⟨verdict, rfl, h⟩, ?_⟩
    rintro ⟨_, ⟨⟩, h⟩
    exact h

/-! ## The call -/

/-- No check of `admitRequest` raises anything but a `DomainError`. -/
theorem raises_admitRequest (rt : Runtime) (s : Store) (args : ExecuteArgs) :
    RaisesOnly Failure.IsDomain (admitRequest rt s args) := by
  unfold admitRequest
  refine .bind ?_ fun tool => .bind ?_ fun input => .bind ?_ fun c =>
    .bind ?_ fun _ => .bind ?_ fun _ => .bind ?_ fun _ => .ok _
  · unfold resolveTool
    split
    · exact .elim rfl fun _ => .ok _
    · split
      · exact .ok _
      · exact .error rfl
    · exact .error rfl
  · exact .ite (.elim rfl fun _ => .ok _) (.error rfl)
  · unfold lockedCase lockRecoveryCase
    rw [Session.run_get_bind]
    split
    · exact .ok _
    · exact .error rfl
  · refine .bind (.ite (.error rfl) (.ok _)) fun _ => ?_
    split
    · exact .error rfl
    · exact .ok _
  · unfold assertPermission
    dsimp only
    split
    · exact .ok _
    · exact .ite (.ok _) (.error rfl)
  · exact .ite (.error rfl) (.ok _)

/-- A finished request raises what its run raised. -/
theorem Finished.raisesOnly {row : IdempotencyKey} {s₁ : Store}
    {x x' : Except Failure ToolExecutionResult} (h : Finished request row now s₁ x x' s') :
    RaisesOnly Failure.IsDomain x' ↔ RaisesOnly Failure.IsDomain x := by
  cases h with
  | returned hrecorded => exact iff_of_true (.ok _) (.ok _)
  | failed hclass hrecorded => exact Iff.rfl
  | crashed => exact Iff.rfl

/-- A request that holds its key is total exactly when its run is. -/
theorem execute_run_total_iff (hanswers : svc.PredictorAnswers) {row : IdempotencyKey}
    (hadmits : admitRequest rt s args = .ok request)
    (hholds : HoldsKey s request caller.now row) :
    RaisesOnly Failure.IsDomain ((execute rt svc caller args).run s).1 ↔
      RunSafe rt svc caller.now s request := by
  have hadmitted := admitted_of_ok hadmits
  have hrow : (s.keyTaken request caller.now).cases.get? request.args.caseId =
      some request.case := by
    rw [cases_keyTaken, hadmitted.args_eq]
    exact hadmitted.row
  obtain ⟨x, s₁, hran, -, hfinished⟩ := executeRequest_finished rt svc caller hrow
    (keyOf_keyTaken hholds)
  have hpending : ((s.keyTaken request caller.now).pending request).cases.get?
      request.args.caseId = some request.case := hrow
  have hrun : RaisesOnly Failure.IsDomain x ↔
      RunSafe rt svc caller.now ((s.keyTaken request caller.now).pending request) request := by
    rw [← runAfterIdempotency_total_iff hanswers hpending, hran]
  rw [execute_run_of_holds rt svc caller hadmits hholds, hfinished.raisesOnly, hrun]
  -- neither the key nor the tool call is read
  unfold Store.pending
  rw [keyTaken_eq]
  exact exists_congr fun verdict => and_congr Iff.rfl (handlerSafe_congr rfl)

/-! ## The conversions of a request -/

/-- The percentage of an input, where there is one, reads as a decimal. -/
def PercentReads (rt : Runtime) (input : Payload) : Prop :=
  ∀ raw, Json.get? input "discount_percent" = some raw → raw ≠ .null →
    (rt.py.decimal (rt.py.str raw)).isSome = true

theorem yields_proposedFromPayload {action : RecoveryActionType} {input : Payload} :
    Yields (proposedFromPayload rt action input) ↔ PercentReads rt input := by
  unfold proposedFromPayload PercentReads
  rcases Json.get? input "discount_percent" with _ | raw
  · exact iff_of_true (.ok _) nofun
  · cases raw with
    | null =>
      refine iff_of_true (.ok _) ?_
      rintro _ ⟨⟩ hnull
      exact absurd rfl hnull
    | _ =>
      simp only [Option.some.injEq, forall_eq', ne_eq, reduceCtorEq, not_false_eq_true,
        forall_const]
      generalize rt.py.decimal _ = read
      cases read <;> simp [Yields]

/-- Every conversion that a request reaches succeeds. -/
structure Converts (rt : Runtime) (svc : ToolExecutionService) (now : Time) (s : Store)
    (request : ToolRequest) : Prop where
  /-- The numbers in the merchant's settings. -/
  settings : ∀ merchant, s.merchants.get? request.case.merchantId = some merchant →
    SettingsConvert rt.py merchant.settings
  /-- The percentage that is proposed to the policy engine. -/
  percent : ∀ action, actionForTool request.tool = some action → PercentReads rt request.input
  /-- The numbers that the policy engine compares. -/
  compares : ∀ action ctx proposed, actionForTool request.tool = some action →
    buildPolicyContext { settings := svc.settings, py := rt.py } s request.args.caseId
      request.case now = .ok ctx →
    proposedFromPayload rt action request.input = .ok proposed → CanCompare ctx proposed action
  /-- The values that the handler converts and inserts. -/
  handler : ∀ verdict, judgeTool rt svc now s request = .ok verdict →
    HandlerSafe rt svc now s request verdict

/-- A verdict is given exactly when everything that the policy engine reads converts. -/
theorem yields_judgeTool {merchant : Merchant}
    (hmerchant : s.merchants.get? request.case.merchantId = some merchant) :
    Yields (judgeTool rt svc now s request) ↔
      SettingsConvert rt.py merchant.settings ∧
      ∀ action, actionForTool request.tool = some action →
        PercentReads rt request.input ∧
        ∀ ctx proposed,
          buildPolicyContext { settings := svc.settings, py := rt.py } s request.args.caseId
            request.case now = .ok ctx →
          proposedFromPayload rt action request.input = .ok proposed →
            CanCompare ctx proposed action := by
  have hsettings : Yields (buildPolicyContext { settings := svc.settings, py := rt.py } s
      request.args.caseId request.case now) ↔ SettingsConvert rt.py merchant.settings :=
    yields_buildPolicyContext hmerchant
  unfold judgeTool
  dsimp only
  cases haction : actionForTool request.tool with
  | none =>
    refine Iff.trans (Yields.bind_of hsettings fun _ => .ok _) ⟨fun h => ⟨h, nofun⟩, fun h => h.1⟩
  | some action =>
    dsimp only
    -- what is proposed is the action itself, so its verdict turns on the comparisons
    have hcompared : ∀ ctx proposed, proposedFromPayload rt action request.input = .ok proposed →
        (Yields (evaluateAction ctx proposed) ↔ CanCompare ctx proposed action) := by
      intro ctx proposed hproposed
      refine yields_evaluateAction ?_
      rw [(proposedFromPayload_ok hproposed).1]
      exact RecoveryActionType.ofText?_text action
    constructor
    · intro h
      obtain ⟨proposed, hproposed, h⟩ := Yields.bind_iff.mp h
      obtain ⟨ctx, hctx, h⟩ := Yields.bind_iff.mp h
      obtain ⟨evaluation, hevaluation, -⟩ := Yields.bind_iff.mp h
      refine ⟨hsettings.mp ⟨ctx, hctx⟩, ?_⟩
      rintro _ ⟨⟩
      refine ⟨yields_proposedFromPayload.mp ⟨proposed, hproposed⟩, ?_⟩
      intro ctx' proposed' hctx' hproposed'
      obtain rfl := Except.ok.inj (hctx.symm.trans hctx')
      obtain rfl := Except.ok.inj (hproposed.symm.trans hproposed')
      exact (hcompared ctx proposed hproposed).mp ⟨evaluation, hevaluation⟩
    · rintro ⟨hconverts, h⟩
      obtain ⟨hpercent, hcompares⟩ := h action rfl
      obtain ⟨proposed, hproposed⟩ := yields_proposedFromPayload.mpr hpercent
      obtain ⟨ctx, hctx⟩ := hsettings.mpr hconverts
      obtain ⟨evaluation, hevaluation⟩ :=
        (hcompared ctx proposed hproposed).mpr (hcompares ctx proposed hctx hproposed)
      exact Yields.bind_iff.mpr ⟨proposed, hproposed, Yields.bind_iff.mpr
        ⟨ctx, hctx, Yields.bind_iff.mpr ⟨evaluation, hevaluation, .ok _⟩⟩⟩

theorem runSafe_iff {merchant : Merchant}
    (hmerchant : s.merchants.get? request.case.merchantId = some merchant) :
    RunSafe rt svc now s request ↔ Converts rt svc now s request := by
  constructor
  · rintro ⟨verdict, hjudged, hsafe⟩
    obtain ⟨hsettings, hactions⟩ := (yields_judgeTool hmerchant).mp ⟨verdict, hjudged⟩
    refine ⟨?_, fun action haction => (hactions action haction).1,
      fun action ctx proposed haction => (hactions action haction).2 ctx proposed, ?_⟩
    · intro merchant' hfound
      obtain rfl := Option.some.inj (hmerchant.symm.trans hfound)
      exact hsettings
    · intro verdict' hjudged'
      obtain rfl := Except.ok.inj (hjudged.symm.trans hjudged')
      exact hsafe
  · intro h
    obtain ⟨verdict, hjudged⟩ := (yields_judgeTool hmerchant).mpr ⟨h.settings merchant hmerchant,
      fun action haction => ⟨h.percent action haction,
        fun ctx proposed => h.compares action ctx proposed haction⟩⟩
    exact ⟨verdict, hjudged, h.handler verdict hjudged⟩

/-- An admitted request belongs to a merchant. -/
theorem Admitted.merchantRow (h : Admitted rt s args request) :
    ∃ merchant, s.merchants.get? request.case.merchantId = some merchant := by
  have hassert := h.merchant
  unfold assertMerchant at hassert
  obtain ⟨_, -, hassert⟩ := Lib.bind_eq_ok.mp hassert
  cases hmerchant : s.merchants.get? request.case.merchantId with
  | none =>
    rw [hmerchant] at hassert
    cases hassert
  | some merchant => exact ⟨merchant, rfl⟩

/-- Reporting the payment of a retry to a queue lets nothing out but a `DomainError`. -/
theorem handleRetryQueued_total {queue : EventQueue} {ctx : HandlerContext}
    (h : RaisesOnly Failure.IsDomain ((handleRetryPayment svc ctx).run s).1) :
    RaisesOnly Failure.IsDomain ((handleRetryQueued svc queue ctx).run s).1 := by
  rcases run_handleRetryQueued svc queue ctx s with ⟨hsame, -⟩ | ⟨⟨code, message, hraised⟩, -⟩
  · rw [hsame]
    exact h
  · rw [hraised]
    exact .error rfl

/-- A call of `execute` returns or raises a `DomainError` exactly when its request, if it is
admitted and holds its key, reaches no conversion that fails. -/
theorem execute_total (hanswers : svc.PredictorAnswers) :
    RaisesOnly Failure.IsDomain ((execute rt svc caller args).run s).1 ↔
      ∀ request row, admitRequest rt s args = .ok request → HoldsKey s request caller.now row →
        Converts rt svc caller.now s request := by
  constructor
  · intro h request row hadmits hholds
    obtain ⟨merchant, hmerchant⟩ := (admitted_of_ok hadmits).merchantRow
    exact (runSafe_iff hmerchant).mp ((execute_run_total_iff hanswers hadmits hholds).mp h)
  · intro h
    have houtcome := execute_outcome rt svc caller args s
    rcases hran : (execute rt svc caller args).run s with ⟨x, s'⟩
    rw [hran] at houtcome
    cases houtcome with
    | rejected hadmits => exact .error (raises_admitRequest _ _ _ _ hadmits)
    | conflict hadmits hkey hhash => exact .error rfl
    | replayed hadmits hkey hhash hdecision => exact .ok _
    | busy hadmits hkey hhash hdecision => exact .error rfl
    | ran hadmits hholds hrun hfinished =>
      obtain ⟨merchant, hmerchant⟩ := (admitted_of_ok hadmits).merchantRow
      have htotal := (execute_run_total_iff hanswers hadmits hholds).mpr
        ((runSafe_iff hmerchant).mpr (h _ _ hadmits hholds))
      rw [hran] at htotal
      exact htotal

/-- A case of ₹1000 at the policy check, whose payment has a first attempt. -/
def attemptedStore : Store where
  merchants := ⟨[{}]⟩
  customers := ⟨[{ merchantId := 0 }]⟩
  payments := ⟨[{ merchantId := 0, customerId := 0, amount := 100000, status := .failed }]⟩
  paymentAttempts := ⟨[
    { paymentId := 0, attemptNumber := 1, status := .failed, amount := 100000, currency := "INR"
      failureCode := none, attemptedAt := 0 }]⟩
  cases := ⟨[policyCheckCase 0]⟩

/-- A request with one field for the case. -/
def withField (toolName key : String) (value : Json) : ExecuteArgs where
  caseId := 0
  toolName := some toolName
  payload := [(key, value)]
  idempotencyKey := "first"

/-- A provider is asked for a payment. -/
def TraceEvent.asksPayment : TraceEvent → Bool
  | .createPaymentAsked _ => true
  | _ => false

/-- The call of the handler for a retry of the payment under a number. -/
def attemptContext (attemptNumber : ℤ) : HandlerContext where
  caseId := 0
  case := policyCheckCase 0
  customer := none
  payment := (attemptedStore.payments.get? 0).map (0, ·)
  payload := [("attempt_number", .int attemptNumber)]
  attemptNumber := 1
  idempotencyKey := "first"

end ReviveX
