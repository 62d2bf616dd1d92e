import ReviveX.Domain.IngestionTheorems
import ReviveX.Events.Webhooks
import ReviveX.Tools.HandlerTheorems

/-!
# The event of a retry

A service with an event queue reports the payment of a retry to its own ingestion, between the
rows of the payment and of the attempt. The report writes the webhook table and the audit trail
alone (`run_announceRetry`), so that the handler with a queue does what the one without does
(`run_handleRetryQueued`), unless the report is refused: a payment without an identifier.
-/

namespace ReviveX

open Lib (Json Session)

/-- The event queue of a service, and what building an event reads. -/
structure EventQueue where
  env : EventText
  /-- The first twenty digits of the SHA-256 digest of a text. -/
  digest : String → String
  /-- `int(datetime.now(UTC).timestamp())`. -/
  seed : ℤ
  clock : ClockReadings
  /-- When the event is received. -/
  now : Time
  /-- How the amount of a snapshot prints. -/
  sent : ℤ → SentAmount env.py
  /-- Whether the queue takes a job; where it fails to, that is logged. -/
  takes : Bool

/-- The snapshot as `build_provider_event` reads it. -/
def PaymentSnapshot.reported (queue : EventQueue) (snapshot : PaymentSnapshot) :
    ProviderSnapshot queue.env.py where
  providerPaymentId := snapshot.providerPaymentId
  providerOrderId := snapshot.providerOrderId
  merchantReference := snapshot.merchantReference
  amount := queue.sent snapshot.amount
  currency := snapshot.currency
  status := snapshot.status.text
  attemptNumber := snapshot.attemptNumber
  failureReason := snapshot.failureReason.bind FailureReason.ofText?
  paymentMethod := snapshot.paymentMethod

/-- `build_provider_event` with the payload of a retry. -/
def retryEvent (queue : EventQueue) (snapshot : PaymentSnapshot) : ProviderEvent :=
  buildProviderEvent queue.env queue.clock queue.digest queue.seed
    [("source", .str "retry_payment")] none (snapshot.reported queue)

/-- The branch of `handle_retry_payment` for a service with a queue. -/
def announceRetry (queue : EventQueue) (ctx : HandlerContext) (snapshot : PaymentSnapshot) :
    Service Unit :=
  if snapshot.provider = simulatorName then do
    let _ ← ingest queue.env queue.now queue.takes (retryEvent queue snapshot)
      ctx.case.merchantId
    pure ()
  else
    pure ()

/-- `handle_retry_payment` of a service with a queue, from the provider's answer on. -/
def finishRetryQueued (svc : ToolExecutionService) (queue : EventQueue) (ctx : HandlerContext)
    (originalId : ℕ) (original : Payment) (attemptNumber : ℤ) :
    Except ProviderError PaymentSnapshot → Service HandlerResult
  | .error e => pure (e.result svc.provider)
  | .ok snapshot => do
    let newPaymentId ← insertRetryPayment (retriedPayment ctx original snapshot) snapshot
    announceRetry queue ctx snapshot
    insertRetryAttempt originalId attemptNumber snapshot
    pure (retryResult original attemptNumber snapshot newPaymentId)

/-- `handle_retry_payment` of a service with a queue. -/
def handleRetryQueued (svc : ToolExecutionService) (queue : EventQueue) (ctx : HandlerContext) :
    Service HandlerResult := do
  match ctx.payment with
  | none => pure (.failure "MISSING_PAYMENT" "Retry requires a case payment")
  | some (originalId, original) =>
    let s ← Session.get
    let attemptNumber := retryAttemptNumber s ctx.payload originalId
    Service.note (.createPaymentAsked (providerAsk ctx original.amount s))
    finishRetryQueued svc queue ctx originalId original attemptNumber
      (svc.provider.createPayment (retryRequest ctx original attemptNumber))

/-! ## What the report leaves alone -/

/-- Only the webhook table and the audit trail differ. -/
def Announced (s s' : Store) : Prop :=
  s' = { s with webhookEvents := s'.webhookEvents, auditEvents := s'.auditEvents }

variable {queue : EventQueue} {ctx : HandlerContext} {snapshot : PaymentSnapshot}
  {svc : ToolExecutionService} {s s' : Store}

/-- A payment that is reported has an identifier. -/
def PaymentSnapshot.IsNamed (snapshot : PaymentSnapshot) : Prop :=
  snapshot.provider ≠ simulatorName ∨ snapshot.providerPaymentId ≠ ""

theorem isBlank_append {prefixed text : String} (h : isBlank prefixed = false) :
    isBlank (prefixed ++ text) = false := by
  unfold isBlank at h ⊢
  rw [String.toList_append, List.all_append, h, Bool.false_and]

/-- The identifier and the type of a report have a text. -/
theorem retryEvent_texts (queue : EventQueue) (snapshot : PaymentSnapshot) :
    isBlank (retryEvent queue snapshot).eventId = false ∧
      isBlank (retryEvent queue snapshot).eventType = false := by
  refine ⟨isBlank_append (by decide), ?_⟩
  show isBlank (eventTypeForStatus queue.env snapshot.status.text) = false
  unfold eventTypeForStatus
  split
  case h_7 => exact isBlank_append (by decide)
  all_goals decide

/-- A report is refused only for a payment without an identifier. -/
theorem validateEvent_retryEvent (hnamed : snapshot.IsNamed)
    (hprovider : snapshot.provider = simulatorName) :
    validateEvent (retryEvent queue snapshot) = .ok () := by
  unfold validateEvent
  rw [(retryEvent_texts queue snapshot).1, (retryEvent_texts queue snapshot).2,
    if_neg Bool.false_ne_true, if_neg Bool.false_ne_true]
  refine if_neg ?_
  rintro ⟨hid, -⟩
  exact (hnamed.resolve_left (not_not.mpr hprovider)) hid

/-- The simulator has a name, so the row of its event is looked up as the event is. -/
theorem admission_retryEvent (queue : EventQueue) (snapshot : PaymentSnapshot)
    (merchantId : ℕ) (s : Store) :
    (retryEvent queue snapshot).admission merchantId s =
      (validateEvent (retryEvent queue snapshot)).bind fun _ =>
        if (s.merchants.get? merchantId).isNone then
          .error (ingestionError "MISSING_MERCHANT" "Merchant was not found")
        else .ok () := by
  have hname : (if (retryEvent queue snapshot).provider = "" then "SIMULATOR"
      else (retryEvent queue snapshot).provider) =
      (retryEvent queue snapshot).provider := rfl
  unfold ProviderEvent.admission
  rw [hname]
  cases validateEvent (retryEvent queue snapshot) with
  | error f => rfl
  | ok =>
    have hfree : ¬ ((s.webhookOfProvider (retryEvent queue snapshot).provider
        (retryEvent queue snapshot).eventId).isNone = true ∧
        (s.webhookOfProvider (retryEvent queue snapshot).provider
          (retryEvent queue snapshot).eventId).isSome = true) := by
      rintro ⟨hnone, hsome⟩
      rw [Option.isNone_iff_eq_none] at hnone
      rw [hnone] at hsome
      cases hsome
    dsimp only [Except.bind]
    rw [if_neg hfree]

theorem validateEvent_error {event : ProviderEvent} {f : Failure}
    (h : validateEvent event = .error f) : ∃ code message, f = ingestionError code message := by
  unfold validateEvent at h
  split at h
  · exact ⟨_, _, (Except.error.inj h).symm⟩
  · split at h
    · exact ⟨_, _, (Except.error.inj h).symm⟩
    · split at h
      · exact ⟨_, _, (Except.error.inj h).symm⟩
      · cases h

/-- A report writes webhook and audit rows, or is refused with an `IngestionError`. -/
theorem run_announceRetry (queue : EventQueue) (ctx : HandlerContext)
    (snapshot : PaymentSnapshot) (s : Store) :
    (∃ s', (announceRetry queue ctx snapshot).run s = (.ok (), s') ∧ Announced s s') ∨
    (∃ code message, (announceRetry queue ctx snapshot).run s =
      (.error (ingestionError code message), s)) ∧
      ¬ (snapshot.IsNamed ∧ (s.merchants.get? ctx.case.merchantId).isSome = true) := by
  unfold announceRetry
  by_cases hprovider : snapshot.provider = simulatorName
  · rw [if_pos hprovider]
    have houtcome := ingest_outcome queue.env queue.now queue.takes
      (retryEvent queue snapshot) ctx.case.merchantId s
    rcases hran : (ingest queue.env queue.now queue.takes (retryEvent queue snapshot)
      ctx.case.merchantId).run s with ⟨x, s'⟩
    rw [hran] at houtcome
    cases houtcome with
    | refused f hrefused =>
      rw [admission_retryEvent] at hrefused
      refine .inr ?_
      rw [Session.run_bind_error hran]
      -- an announcement is refused for its event or for the merchant, never for its key
      cases hvalid : validateEvent (retryEvent queue snapshot) with
      | error f' =>
        rw [hvalid] at hrefused
        obtain rfl : f' = f := Except.error.inj hrefused
        obtain ⟨code, message, rfl⟩ := validateEvent_error hvalid
        refine ⟨⟨code, message, rfl⟩, fun hboth => ?_⟩
        rw [validateEvent_retryEvent hboth.1 hprovider] at hvalid
        cases hvalid
      | ok =>
        rw [hvalid] at hrefused
        dsimp only [Except.bind] at hrefused
        split at hrefused
        · rename_i hmissing
          refine ⟨⟨_, _, by rw [Except.error.inj hrefused]⟩, fun hboth => ?_⟩
          rw [Option.isNone_iff_eq_none.mp hmissing] at hboth
          cases hboth.2
        · cases hrefused
    | duplicate hadmitted hfound hrow =>
      exact .inl ⟨_, Session.run_bind_ok hran _, rfl⟩
    | stored hadmitted hvalid hmerchant hnew hunique =>
      exact .inl ⟨_, Session.run_bind_ok hran _, rfl⟩
  · rw [if_neg hprovider]
    exact .inl ⟨s, rfl, rfl⟩

theorem finishRetry_ok (svc : ToolExecutionService) (ctx : HandlerContext) (originalId : ℕ)
    (original : Payment) (n : ℤ) (snapshot : PaymentSnapshot) :
    finishRetry svc ctx originalId original n (.ok snapshot) = (do
      let newPaymentId ← insertRetryPayment (retriedPayment ctx original snapshot) snapshot
      insertRetryAttempt originalId n snapshot
      pure (retryResult original n snapshot newPaymentId)) := by
  unfold finishRetry insertRetry
  dsimp only
  rw [Session.bind_assoc]
  refine congrArg _ (funext fun newPaymentId => ?_)
  rw [Session.bind_assoc]
  rfl

/-- The attempt of a retry is inserted whatever the other tables hold. -/
theorem run_insertRetryAttempt_congr {s₁ : Store} (originalId : ℕ) (n : ℤ)
    (snapshot : PaymentSnapshot) (h : s₁.paymentAttempts = s.paymentAttempts) :
    (insertRetryAttempt originalId n snapshot).run s₁ =
      (((insertRetryAttempt originalId n snapshot).run s).1,
        { s₁ with
          paymentAttempts :=
            ((insertRetryAttempt originalId n snapshot).run s).2.paymentAttempts }) := by
  cases s₁
  dsimp only at h
  subst h
  unfold insertRetryAttempt
  rw [Session.run_get_bind, Session.run_get_bind]
  dsimp only
  split
  · rfl
  · split <;> rfl

/-- After an accepted report the handler with a queue ends as the one without, but for the rows
of the report; after a refused one it raises an `IngestionError`. -/
theorem run_finishRetryQueued (svc : ToolExecutionService) (queue : EventQueue)
    (ctx : HandlerContext) (originalId : ℕ) (original : Payment) (n : ℤ)
    (answer : Except ProviderError PaymentSnapshot) (s : Store) :
    (((finishRetryQueued svc queue ctx originalId original n answer).run s).1 =
        ((finishRetry svc ctx originalId original n answer).run s).1 ∧
      Announced ((finishRetry svc ctx originalId original n answer).run s).2
        ((finishRetryQueued svc queue ctx originalId original n answer).run s).2) ∨
    (∃ code message, ((finishRetryQueued svc queue ctx originalId original n answer).run s).1 =
      .error (ingestionError code message)) ∧
      ∃ snapshot, answer = .ok snapshot ∧
        ¬ (snapshot.IsNamed ∧ (s.merchants.get? ctx.case.merchantId).isSome = true) := by
  cases answer with
  | error e => exact .inl ⟨rfl, rfl⟩
  | ok snapshot =>
    rw [finishRetry_ok]
    unfold finishRetryQueued
    dsimp only
    rcases run_insertRetryPayment (retriedPayment ctx original snapshot) snapshot s with
      ⟨-, -, hpayment⟩ | ⟨-, exception, hpayment⟩
    · rw [Session.run_bind_ok hpayment, Session.run_bind_ok hpayment]
      rcases run_announceRetry queue ctx snapshot
          { s with payments := s.payments.insert (retriedPayment ctx original snapshot) } with
        ⟨s₁, hannounce, hkept⟩ | ⟨⟨code, message, hannounce⟩, hunnamed⟩
      · rw [Session.run_bind_ok hannounce]
        refine .inl ?_
        -- the report leaves the attempts as they are
        let paid : Store :=
          { s with payments := s.payments.insert (retriedPayment ctx original snapshot) }
        have hattempts : s₁.paymentAttempts = paid.paymentAttempts := by rw [hkept]
        rw [Session.run_bind, Session.run_bind,
          run_insertRetryAttempt_congr originalId n snapshot hattempts]
        rcases run_insertRetryAttempt originalId n snapshot paid with
          ⟨-, -, hrun⟩ | ⟨-, exception, hrun⟩
        all_goals
          rw [hrun]
          refine ⟨rfl, ?_⟩
          rw [hkept]
          rfl
      · rw [Session.run_bind_error hannounce]
        exact .inr ⟨⟨code, message, rfl⟩, snapshot, rfl, hunnamed⟩
    · rw [Session.run_bind_error hpayment, Session.run_bind_error hpayment]
      exact .inl ⟨rfl, rfl⟩

/-- The provider gives every payment that has to be named an identifier. -/
def ToolExecutionService.NamesPayments (svc : ToolExecutionService) : Prop :=
  ∀ request snapshot, svc.provider.createPayment request = .ok snapshot → snapshot.IsNamed

/-- The handler of a retry with a queue ends as the one without, but for the rows of the report,
or it raises an `IngestionError`, for a payment without an identifier or no merchant. -/
theorem run_handleRetryQueued (svc : ToolExecutionService) (queue : EventQueue)
    (ctx : HandlerContext) (s : Store) :
    (((handleRetryQueued svc queue ctx).run s).1 = ((handleRetryPayment svc ctx).run s).1 ∧
      Announced ((handleRetryPayment svc ctx).run s).2
        ((handleRetryQueued svc queue ctx).run s).2) ∨
    (∃ code message, ((handleRetryQueued svc queue ctx).run s).1 =
      .error (ingestionError code message)) ∧
      ¬ (svc.NamesPayments ∧ (s.merchants.get? ctx.case.merchantId).isSome = true) := by
  unfold handleRetryQueued handleRetryPayment
  rcases ctx.payment with _ | ⟨originalId, original⟩
  · exact .inl ⟨rfl, rfl⟩
  · dsimp only
    rw [Session.run_get_bind, Session.run_get_bind]
    rcases run_finishRetryQueued svc queue ctx originalId original
        (retryAttemptNumber s ctx.payload originalId)
        (svc.provider.createPayment
          (retryRequest ctx original (retryAttemptNumber s ctx.payload originalId)))
        { s with trace := s.trace ++ [.createPaymentAsked (providerAsk ctx original.amount s)] }
      with hsame | ⟨hraised, snapshot, hanswer, hunnamed⟩
    · exact .inl hsame
    · exact .inr ⟨hraised, fun h => hunnamed ⟨h.1 _ _ hanswer, h.2⟩⟩

end ReviveX
