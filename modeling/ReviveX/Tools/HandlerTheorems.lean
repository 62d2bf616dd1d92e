import ReviveX.Domain.StateMachineTheorems
import ReviveX.Tools.Handlers

/-!
# What the handlers do

- A handler asks the provider at most one question (`handlerAsks`) and otherwise writes
  only the tables of `SideEffects`: payments, attempts, carts and notifications.
- It raises no `DomainError`, and neither does `applyCaseOutcome`, which only moves the
  case along legal transitions.
-/

namespace ReviveX

open Lib (Session Table)

/-! ## Tables -/

/-- The tables a handler may write besides the history. -/
def SideEffects (s s' : Store) : Prop :=
  s' = { s with
    payments := s'.payments
    paymentAttempts := s'.paymentAttempts
    carts := s'.carts
    notifications := s'.notifications }

namespace SideEffects

variable {s s' s'' : Store}

theorem actions (h : SideEffects s s') : s'.actions = s.actions := by rw [h]

theorem approvals (h : SideEffects s s') : s'.approvals = s.approvals := by rw [h]

theorem cases (h : SideEffects s s') : s'.cases = s.cases := by rw [h]

theorem idempotencyKeys (h : SideEffects s s') : s'.idempotencyKeys = s.idempotencyKeys := by
  rw [h]

theorem merchants (h : SideEffects s s') : s'.merchants = s.merchants := by rw [h]

theorem trace (h : SideEffects s s') : s'.trace = s.trace := by rw [h]

end SideEffects

/-- The tables that a handler other than a reminder may write. -/
def QuietEffects (s s' : Store) : Prop :=
  s' = { s with
    payments := s'.payments
    paymentAttempts := s'.paymentAttempts
    carts := s'.carts }

namespace QuietEffects

variable {s s' s'' : Store}

theorem refl (s : Store) : QuietEffects s s := rfl

theorem trans (h : QuietEffects s s') (h' : QuietEffects s' s'') : QuietEffects s s'' := by
  unfold QuietEffects at *
  rw [h', h]

theorem notifications (h : QuietEffects s s') : s'.notifications = s.notifications := by
  rw [h]

theorem sideEffects (h : QuietEffects s s') : SideEffects s s' := by
  rw [h]
  rfl

end QuietEffects

variable {rt : Runtime} {svc : ToolExecutionService} {caller : Caller} {now : Time}
  {ctx : HandlerContext} {tool : ToolName} {s s' : Store}

/-- The question a handler asks the provider. -/
def handlerAsks (ctx : HandlerContext) (s : Store) : ToolName → List TraceEvent
  | .retryPayment =>
    match ctx.payment with
    | none => []
    | some (_, original) => [.createPaymentAsked (providerAsk ctx original.amount s)]
  | .createPaymentLink => [.createPaymentLinkAsked (providerAsk ctx ctx.case.amountAtRisk s)]
  | _ => []

theorem keeps_orCrash {α : Type} (exception : String) (x : Option α) :
    Session.Keeps QuietEffects (orCrash exception x) := by
  cases x with
  | none => exact .raise QuietEffects.refl _
  | some a => exact .pure QuietEffects.refl a

private theorem keeps_bind {α β : Type} {m : Service α} {f : α → Service β}
    (hm : Session.Keeps QuietEffects m) (hf : ∀ a, Session.Keeps QuietEffects (f a)) :
    Session.Keeps QuietEffects (m >>= f) :=
  Session.Keeps.bind (R := QuietEffects) (fun _ _ _ h h' => h.trans h') hm hf

private theorem keeps_pure {α : Type} (a : α) :
    Session.Keeps QuietEffects (pure a : Service α) := .pure QuietEffects.refl a

theorem keeps_handleGetCustomerHistory (ctx : HandlerContext) :
    Session.Keeps QuietEffects (handleGetCustomerHistory ctx) := by
  unfold handleGetCustomerHistory
  split
  · exact keeps_pure _
  · exact .get_bind fun _ => keeps_pure _

theorem keeps_handleGetPaymentDetails (ctx : HandlerContext) :
    Session.Keeps QuietEffects (handleGetPaymentDetails ctx) := by
  unfold handleGetPaymentDetails
  split <;> exact keeps_pure _

theorem keeps_handleGetCartDetails (ctx : HandlerContext) :
    Session.Keeps QuietEffects (handleGetCartDetails ctx) := by
  refine .get_bind fun s => ?_
  split <;> exact keeps_pure _

theorem keeps_handleGetSubscriptionDetails (ctx : HandlerContext) :
    Session.Keeps QuietEffects (handleGetSubscriptionDetails ctx) := by
  refine .get_bind fun s => ?_
  split <;> exact keeps_pure _

theorem keeps_handleCalculateRecoveryProbability (svc : ToolExecutionService)
    (ctx : HandlerContext) :
    Session.Keeps QuietEffects (handleCalculateRecoveryProbability svc ctx) := by
  refine .get_bind fun s => ?_
  dsimp only
  split
  · exact .raise QuietEffects.refl _
  · exact keeps_pure _
  · exact keeps_pure _

theorem keeps_handleCheckPaymentStatus (svc : ToolExecutionService) (ctx : HandlerContext) :
    Session.Keeps QuietEffects (handleCheckPaymentStatus svc ctx) := by
  unfold handleCheckPaymentStatus
  split
  · exact keeps_pure _
  · split <;> exact keeps_pure _

theorem keeps_handleScheduleRetry (rt : Runtime) (ctx : HandlerContext) :
    Session.Keeps QuietEffects (handleScheduleRetry rt ctx) :=
  keeps_bind (keeps_orCrash _ _) fun _ => keeps_pure _

theorem keeps_discountCart (cartId : Option ℕ) (amount : Money) :
    Session.Keeps QuietEffects (discountCart cartId amount) := by
  refine .get_bind fun s => ?_
  split
  · exact keeps_pure _
  · exact keeps_bind (keeps_orCrash _ _) fun _ => .modify fun _ => rfl

theorem keeps_handleOfferDiscount (rt : Runtime) (ctx : HandlerContext) :
    Session.Keeps QuietEffects (handleOfferDiscount rt ctx) :=
  keeps_bind (keeps_orCrash _ _) fun _ =>
    keeps_bind (keeps_orCrash _ _) fun _ =>
      keeps_bind (keeps_discountCart _ _) fun _ => keeps_pure _

theorem keeps_insertRetry (originalId : ℕ) (attemptNumber : ℤ) (p : Payment)
    (snapshot : PaymentSnapshot) :
    Session.Keeps QuietEffects (insertRetry originalId attemptNumber p snapshot) :=
  keeps_bind
    (.get_bind fun _ => .ite (.raise QuietEffects.refl _) <|
      .ite (.raise QuietEffects.refl _) (.modifyGet fun _ => rfl))
    fun _ => keeps_bind
      (.get_bind fun _ => .ite (.raise QuietEffects.refl _) <|
        .ite (.raise QuietEffects.refl _) (.modify fun _ => rfl))
      fun _ => keeps_pure _

/-- The payment of a retry is inserted exactly when it fits its table. -/
theorem run_insertRetryPayment (p : Payment) (snapshot : PaymentSnapshot) (s : Store) :
    (fitsMoneyColumn snapshot.amount = true ∧ s.payments.any p.clashes = false ∧
      (insertRetryPayment p snapshot).run s =
        (.ok s.payments.nextId, { s with payments := s.payments.insert p })) ∨
    (¬ (fitsMoneyColumn snapshot.amount = true ∧ s.payments.any p.clashes = false) ∧
      ∃ exception, (insertRetryPayment p snapshot).run s = (.error (.crash exception), s)) := by
  unfold insertRetryPayment
  rw [Session.run_get_bind]
  cases hamount : fitsMoneyColumn snapshot.amount with
  | false => exact .inr ⟨by simp, _, rfl⟩
  | true =>
    cases hclash : s.payments.any p.clashes with
    | true => exact .inr ⟨by simp, _, rfl⟩
    | false => exact .inl ⟨rfl, rfl, rfl⟩

/-- The attempt of a retry is inserted exactly when it fits its table. -/
theorem run_insertRetryAttempt (originalId : ℕ) (n : ℤ) (snapshot : PaymentSnapshot)
    (s : Store) :
    (s.paymentAttempts.any (fun a => a.paymentId = originalId && a.attemptNumber = n) = false ∧
      fitsInteger n = true ∧
      (insertRetryAttempt originalId n snapshot).run s =
        (.ok (), { s with
          paymentAttempts := s.paymentAttempts.insert (retriedAttempt originalId n snapshot) })) ∨
    (¬ (s.paymentAttempts.any (fun a => a.paymentId = originalId && a.attemptNumber = n) =
        false ∧ fitsInteger n = true) ∧
      ∃ exception, (insertRetryAttempt originalId n snapshot).run s =
        (.error (.crash exception), s)) := by
  unfold insertRetryAttempt
  rw [Session.run_get_bind]
  cases hclash : s.paymentAttempts.any
    (fun a => a.paymentId = originalId && a.attemptNumber = n) with
  | true => exact .inr ⟨by simp, _, rfl⟩
  | false =>
    cases hrange : fitsInteger n with
    | false => exact .inr ⟨by simp, _, rfl⟩
    | true => exact .inl ⟨rfl, rfl, rfl⟩

theorem keeps_recordPaymentLink (payment : Option (ℕ × Payment)) (linkId : String) :
    Session.Keeps QuietEffects (recordPaymentLink payment linkId) := by
  unfold recordPaymentLink
  split
  · exact keeps_pure _
  · exact .modify fun _ => rfl

theorem keeps_finishRetry (svc : ToolExecutionService) (ctx : HandlerContext) (originalId : ℕ)
    (original : Payment) (attemptNumber : ℤ) (answer : Except ProviderError PaymentSnapshot) :
    Session.Keeps QuietEffects
      (finishRetry svc ctx originalId original attemptNumber answer) := by
  cases answer with
  | error e => exact keeps_pure _
  | ok snapshot => exact keeps_bind (keeps_insertRetry _ _ _ _) fun _ => keeps_pure _

theorem keeps_finishPaymentLink (svc : ToolExecutionService) (ctx : HandlerContext)
    (answer : Except ProviderError PaymentLinkSnapshot) :
    Session.Keeps QuietEffects (finishPaymentLink svc ctx answer) := by
  cases answer with
  | error e => exact keeps_pure _
  | ok snapshot =>
    exact .ite (.raise QuietEffects.refl _)
      (keeps_bind (keeps_recordPaymentLink _ _) fun _ => keeps_pure _)

/-- The question is in the history before its answer is used. -/
theorem handleRetryPayment_effects (svc : ToolExecutionService) (ctx : HandlerContext)
    (s : Store) :
    QuietEffects { s with trace := s.trace ++ handlerAsks ctx s .retryPayment }
      ((handleRetryPayment svc ctx).run s).2 := by
  unfold handleRetryPayment handlerAsks
  cases hpayment : ctx.payment with
  | none => simp [QuietEffects]
  | some found =>
    obtain ⟨originalId, original⟩ := found
    exact keeps_finishRetry svc ctx originalId original _ _
      { s with trace := s.trace ++ [.createPaymentAsked (providerAsk ctx original.amount s)] }

theorem handleCreatePaymentLink_effects (svc : ToolExecutionService) (ctx : HandlerContext)
    (s : Store) :
    QuietEffects { s with trace := s.trace ++ handlerAsks ctx s .createPaymentLink }
      ((handleCreatePaymentLink svc ctx).run s).2 :=
  keeps_finishPaymentLink svc ctx _ { s with
    trace := s.trace ++ [.createPaymentLinkAsked (providerAsk ctx ctx.case.amountAtRisk s)] }

/-- A handler that asks nothing. -/
private theorem effects_of_keeps {m : Service HandlerResult} (h : Session.Keeps QuietEffects m)
    (s : Store) : QuietEffects { s with trace := s.trace ++ [] } (m.run s).2 := by
  rw [List.append_nil]
  exact h s

/-- A handler other than a reminder has asked its question and written its tables. -/
theorem handlers_quiet (rt : Runtime) (svc : ToolExecutionService) (now : Time)
    (ctx : HandlerContext) (s : Store) (h : tool ≠ .sendNotification) :
    QuietEffects { s with trace := s.trace ++ handlerAsks ctx s tool }
      ((handlers rt svc now ctx tool).run s).2 := by
  cases tool with
  | getCustomerHistory => exact effects_of_keeps (keeps_handleGetCustomerHistory ctx) s
  | getPaymentDetails => exact effects_of_keeps (keeps_handleGetPaymentDetails ctx) s
  | getCartDetails => exact effects_of_keeps (keeps_handleGetCartDetails ctx) s
  | getSubscriptionDetails => exact effects_of_keeps (keeps_handleGetSubscriptionDetails ctx) s
  | getRecoveryCase => exact effects_of_keeps (keeps_pure _) s
  | calculateRecoveryProbability =>
    exact effects_of_keeps (keeps_handleCalculateRecoveryProbability svc ctx) s
  | retryPayment => exact handleRetryPayment_effects svc ctx s
  | scheduleRetry => exact effects_of_keeps (keeps_handleScheduleRetry rt ctx) s
  | createPaymentLink => exact handleCreatePaymentLink_effects svc ctx s
  | sendNotification => exact absurd rfl h
  | offerDiscount => exact effects_of_keeps (keeps_handleOfferDiscount rt ctx) s
  | checkPaymentStatus => exact effects_of_keeps (keeps_handleCheckPaymentStatus svc ctx) s
  | checkSubscriptionStatus => exact effects_of_keeps (keeps_handleGetSubscriptionDetails ctx) s
  | escalateToHuman => exact effects_of_keeps (keeps_pure _) s
  | pauseRecovery => exact effects_of_keeps (keeps_pure _) s

/-- A reminder fails without a customer, and leaves a notification otherwise. -/
theorem run_handleSendNotification (now : Time) (ctx : HandlerContext) (s : Store) :
    (ctx.customer = none ∧ ∃ r, (handleSendNotification now ctx).run s = (.ok r, s) ∧
        r.success = false) ∨
      ∃ customerId customer r, ctx.customer = some (customerId, customer) ∧
        (handleSendNotification now ctx).run s = (.ok r, { s with
          notifications := s.notifications.insert (reminder ctx customerId now) }) ∧
        r.success = true := by
  unfold handleSendNotification
  cases hcustomer : ctx.customer with
  | none => exact .inl ⟨rfl, _, rfl, rfl⟩
  | some found =>
    obtain ⟨customerId, customer⟩ := found
    exact .inr ⟨customerId, customer, _, rfl, rfl, rfl⟩

/-- Whatever the outcome, a handler has asked its question and written its tables. -/
theorem handlers_effects (rt : Runtime) (svc : ToolExecutionService) (now : Time)
    (ctx : HandlerContext) (tool : ToolName) (s : Store) :
    SideEffects { s with trace := s.trace ++ handlerAsks ctx s tool }
      ((handlers rt svc now ctx tool).run s).2 := by
  by_cases hreminder : tool = .sendNotification
  · subst hreminder
    have hasks : s.trace ++ handlerAsks ctx s .sendNotification = s.trace := List.append_nil _
    change SideEffects _ ((handleSendNotification now ctx).run s).2
    rw [hasks]
    rcases run_handleSendNotification now ctx s with ⟨-, r, hrun, -⟩ |
      ⟨customerId, customer, r, -, hrun, -⟩
    · rw [hrun]
      rfl
    · rw [hrun]
      rfl
  · exact (handlers_quiet rt svc now ctx s hreminder).sideEffects

/-! ## Exceptions -/

theorem raises_orCrash {α : Type} (exception : String) (x : Option α) :
    Session.Raises Failure.RollsBack (orCrash exception x) := by
  cases x with
  | none => exact .raise rfl
  | some a => exact .pure a

theorem raises_discountCart (cartId : Option ℕ) (amount : Money) :
    Session.Raises Failure.RollsBack (discountCart cartId amount) := by
  refine .get_bind fun s => ?_
  split
  · exact .pure _
  · exact .bind (raises_orCrash _ _) fun _ => .modify _

theorem raises_finishRetry (svc : ToolExecutionService) (ctx : HandlerContext) (originalId : ℕ)
    (original : Payment) (attemptNumber : ℤ) (answer : Except ProviderError PaymentSnapshot) :
    Session.Raises Failure.RollsBack
      (finishRetry svc ctx originalId original attemptNumber answer) := by
  cases answer with
  | error e => exact .pure _
  | ok snapshot =>
    refine .bind (.bind (.get_bind fun s => ?_) fun _ => .bind (.get_bind fun s => ?_)
      fun _ => .pure _) fun _ => .pure _
    · exact .ite (.raise rfl) (.ite (.raise rfl) (.modifyGet _))
    · exact .ite (.raise rfl) (.ite (.raise rfl) (.modify _))

theorem raises_finishPaymentLink (svc : ToolExecutionService) (ctx : HandlerContext)
    (answer : Except ProviderError PaymentLinkSnapshot) :
    Session.Raises Failure.RollsBack (finishPaymentLink svc ctx answer) := by
  cases answer with
  | error e => exact .pure _
  | ok snapshot =>
    refine .ite (.raise rfl) (.bind ?_ fun _ => .pure _)
    unfold recordPaymentLink
    split
    · exact .pure _
    · exact .modify _

/-- No handler raises a `DomainError`. -/
theorem handlers_raises (rt : Runtime) (svc : ToolExecutionService) (now : Time)
    (ctx : HandlerContext) (tool : ToolName) :
    Session.Raises Failure.RollsBack (handlers rt svc now ctx tool) := by
  cases tool with
  | getCustomerHistory =>
    change Session.Raises _ (handleGetCustomerHistory ctx)
    unfold handleGetCustomerHistory
    split
    · exact .pure _
    · exact .get_bind fun _ => .pure _
  | getPaymentDetails =>
    change Session.Raises _ (handleGetPaymentDetails ctx)
    unfold handleGetPaymentDetails
    split <;> exact .pure _
  | getCartDetails =>
    refine .get_bind fun s => ?_
    split <;> exact .pure _
  | getSubscriptionDetails | checkSubscriptionStatus =>
    refine .get_bind fun s => ?_
    split <;> exact .pure _
  | getRecoveryCase => exact .pure _
  | calculateRecoveryProbability =>
    refine .get_bind fun s => ?_
    dsimp only
    split
    · exact .raise rfl
    · exact .pure _
    · exact .pure _
  | retryPayment =>
    change Session.Raises _ (handleRetryPayment svc ctx)
    unfold handleRetryPayment
    split
    · exact .pure _
    · exact .get_bind fun s => .bind (.modify _) fun _ => raises_finishRetry _ _ _ _ _ _
  | scheduleRetry => exact .bind (raises_orCrash _ _) fun _ => .pure _
  | createPaymentLink =>
    exact .get_bind fun s => .bind (.modify _) fun _ => raises_finishPaymentLink _ _ _
  | sendNotification =>
    change Session.Raises _ (handleSendNotification now ctx)
    unfold handleSendNotification
    split
    · exact .pure _
    · exact .bind (.modifyGet _) fun _ => .pure _
  | offerDiscount =>
    exact .bind (raises_orCrash _ _) fun _ => .bind (raises_orCrash _ _) fun _ =>
      .bind (raises_discountCart _ _) fun _ => .pure _
  | checkPaymentStatus =>
    change Session.Raises _ (handleCheckPaymentStatus svc ctx)
    unfold handleCheckPaymentStatus
    split
    · exact .pure _
    · split <;> exact .pure _
  | escalateToHuman => exact .pure _
  | pauseRecovery => exact .pure _

end ReviveX
