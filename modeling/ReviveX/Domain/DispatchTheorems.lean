import ReviveX.Domain.PaymentTheorems
import ReviveX.Lib.Except

/-!
# What one event does to the store

`run_dispatch` gives the result of `_dispatch` and the store after it as functions of the
store before: the payment of the event is written, an attempt is added, and a failure with no
open case opens one. An event that is refused writes nothing. `WebhookOutcome` lists the five
ways `process_webhook_event` can go.
-/

namespace ReviveX

open Lib (Session Table)

/-! ## The effect of an event -/

/-- The payment of a key, with its row. -/
def Store.foundPayment (s : Store) (key : ProviderKey) : Option (ℕ × Payment) :=
  (s.paymentOfKey key).bind fun i => (s.payments.get? i).map (i, ·)

/-- What an event makes of its payment. -/
structure EventEffect where
  paymentId : ℕ
  /-- The row after the event. -/
  payment : Payment
  amount : Money

namespace DomainPaymentEvent

/-- The effect of an event, or why it is refused. -/
def effect (e : DomainPaymentEvent) (s : Store) : Except Failure EventEffect :=
  match s.foundPayment e.key with
  | some (paymentId, p) => do
    let amount ← storeAmount e.amount
    return { paymentId, payment := p.receive e e.status amount, amount }
  | none => do
    let customerId ← resolveCustomer s e
    let amount ← storeAmount e.amount
    let payment := e.newPayment customerId e.status amount
    return { paymentId := s.payments.nextId, payment, amount }

/-- The attempt that is added. -/
def addedAttempt (e : DomainPaymentEvent) (s : Store) (effect : EventEffect) : PaymentAttempt :=
  e.attempt effect.paymentId (s.nextAttemptNumber effect.paymentId) e.status effect.amount

/-- A failure opens a case, unless one is open. -/
def opensCase (e : DomainPaymentEvent) (s : Store) (effect : EventEffect) : Bool :=
  e.eventType = .paymentFailed && (s.listOpenForPayment e.merchantId effect.paymentId).isEmpty

/-- The cases after an event. -/
def casesAfter (e : DomainPaymentEvent) (s : Store) (now : Time) (effect : EventEffect) :
    Table RecoveryCase :=
  if e.opensCase s effect then
    s.cases.insert (effect.payment.openedCase e.merchantId effect.paymentId now)
  else s.cases

/-- The jobs that an event queues. -/
def followups (e : DomainPaymentEvent) (s : Store) (webhookEventId : ℕ) (effect : EventEffect) :
    List FollowUpJob :=
  match e.eventType with
  | .paymentFailed =>
    match s.listOpenForPayment e.merchantId effect.paymentId with
    | caseId :: _ => queueVerify effect.payment caseId effect.paymentId webhookEventId
    | [] =>
      .processRecoveryCase s.cases.nextId webhookEventId ::
        queueVerify effect.payment s.cases.nextId effect.paymentId webhookEventId
  | .paymentCaptured =>
    (s.candidateCases effect.payment effect.paymentId).map fun caseId =>
      .verifyRecoveryCase caseId effect.paymentId webhookEventId
  | _ => []

/-- The store after an event; `audits` is the audit trail after it. -/
def storeAfter (e : DomainPaymentEvent) (s : Store) (now : Time) (effect : EventEffect)
    (audits : Table AuditEvent) : Store :=
  { s with
    payments := s.payments.put effect.paymentId effect.payment
    paymentAttempts := s.paymentAttempts.insert (e.addedAttempt s effect)
    cases := e.casesAfter s now effect
    auditEvents := audits }

end DomainPaymentEvent

variable {env : EventText} {s s' : Store} {e : DomainPaymentEvent} {effect : EventEffect}

theorem foundPayment_eq_some {key : ProviderKey} {i : ℕ} {p : Payment} :
    s.foundPayment key = some (i, p) ↔
      s.paymentOfKey key = some i ∧ s.payments.get? i = some p := by
  unfold Store.foundPayment
  constructor
  · intro h
    obtain ⟨j, hj, hp⟩ := Option.bind_eq_some_iff.mp h
    obtain ⟨q, hq, heq⟩ := Option.map_eq_some_iff.mp hp
    obtain ⟨rfl, rfl⟩ := Prod.mk.inj heq
    exact ⟨hj, hq⟩
  · rintro ⟨hi, hp⟩
    rw [hi, Option.bind_some, hp]
    rfl

theorem foundPayment_eq_none {key : ProviderKey} :
    s.foundPayment key = none ↔ s.paymentOfKey key = none := by
  unfold Store.foundPayment
  cases hfound : s.paymentOfKey key with
  | none => simp
  | some i =>
    obtain ⟨p, hp, -⟩ := paymentRow_of_paymentOfKey hfound
    simp [hp]

/-- The payment of an effect is there, or is the next one. -/
theorem effect_paymentId_le (h : e.effect s = .ok effect) :
    effect.paymentId ≤ s.payments.nextId := by
  unfold DomainPaymentEvent.effect at h
  split at h
  · rename_i i p hfound
    obtain ⟨amount, -, heq⟩ := Lib.bind_eq_ok.mp h
    obtain rfl := Except.ok.inj heq
    exact (Table.lt_nextId (foundPayment_eq_some.mp hfound).2).le
  · obtain ⟨customerId, -, h⟩ := Lib.bind_eq_ok.mp h
    obtain ⟨amount, -, heq⟩ := Lib.bind_eq_ok.mp h
    obtain rfl := Except.ok.inj heq
    exact le_rfl

/-! ## Running an event -/

/-- The payment is written with its attempt, or the event is refused and nothing is. -/
theorem run_findOrCreatePayment (e : DomainPaymentEvent) (s : Store) :
    (findOrCreatePayment e e.status).run s = match e.effect s with
      | .error f => (.error f, s)
      | .ok effect =>
        (.ok (effect.paymentId, (s.foundPayment e.key).map (·.2.status)),
          { s with
            payments := s.payments.put effect.paymentId effect.payment
            paymentAttempts := s.paymentAttempts.insert (e.addedAttempt s effect) }) := by
  unfold findOrCreatePayment DomainPaymentEvent.effect
  have hread : s.paymentOfProvider e.merchantId e.provider e.providerPaymentId =
      s.paymentOfKey e.key := rfl
  rw [Session.run_get_bind]
  dsimp only
  rw [hread]
  -- a found payment receives the event; a new one also needs its customer
  cases hkey : s.paymentOfKey e.key with
  | some i =>
    obtain ⟨p, hp, -⟩ := paymentRow_of_paymentOfKey hkey
    rw [foundPayment_eq_some.mpr ⟨hkey, hp⟩]
    dsimp only
    rw [Session.run_ofExcept_bind]
    cases hamount : storeAmount e.amount with
    | error f => rfl
    | ok amount =>
      have hput : s.payments.put i (p.receive e e.status amount) =
          s.payments.modify i (·.receive e e.status amount) := Table.put_of_some hp rfl
      show _ = (Except.ok (_, _), { s with
        payments := s.payments.put i (p.receive e e.status amount)
        paymentAttempts := s.paymentAttempts.insert _ })
      rw [hput, hp]
      rfl
  | none =>
    rw [foundPayment_eq_none.mpr hkey]
    dsimp only
    rw [Session.run_ofExcept_bind]
    cases hcustomer : resolveCustomer s e with
    | error f => rfl
    | ok customerId =>
      dsimp only
      rw [Session.run_ofExcept_bind]
      cases hamount : storeAmount e.amount with
      | error f => rfl
      | ok amount =>
        have hput := Table.put_nextId s.payments (e.newPayment customerId e.status amount)
        show _ = (Except.ok (_, _), { s with
          payments := s.payments.put s.payments.nextId (e.newPayment customerId e.status amount)
          paymentAttempts := s.paymentAttempts.insert _ })
        rw [hput]
        rfl

theorem run_readPayment {paymentId : ℕ} {p : Payment} (h : s.payments.get? paymentId = some p) :
    (readPayment paymentId).run s = (.ok p, s) := by
  unfold readPayment
  rw [Session.run_get_bind, h]
  rfl

theorem run_auditPayment (now : Time) (e : DomainPaymentEvent) (status : PaymentStatus)
    (previous : Option PaymentStatus) (caseId : Option ℕ) (s : Store) :
    ∃ audits, (auditPayment now e status previous caseId).run s =
      (.ok (), { s with auditEvents := audits }) := ⟨_, rfl⟩

/-- A case is opened or attached; only the cases and the audit trail are written. -/
theorem run_createOrAttach (now : Time) (webhookEventId : ℕ) {paymentId : ℕ} {p : Payment}
    (h : s.payments.get? paymentId = some p) :
    ∃ audits, (createOrAttachRecoveryCase now webhookEventId e paymentId).run s =
      match s.listOpenForPayment e.merchantId paymentId with
      | caseId :: _ =>
        (.ok (queueVerify p caseId paymentId webhookEventId), { s with auditEvents := audits })
      | [] =>
        (.ok (.processRecoveryCase s.cases.nextId webhookEventId ::
            queueVerify p s.cases.nextId paymentId webhookEventId),
          { s with
            cases := s.cases.insert (p.openedCase e.merchantId paymentId now)
            auditEvents := audits }) := by
  unfold createOrAttachRecoveryCase
  rw [Session.run_bind_ok (run_readPayment h), Session.run_get_bind]
  cases s.listOpenForPayment e.merchantId paymentId with
  | nil => exact ⟨_, rfl⟩
  | cons caseId rest => exact ⟨_, rfl⟩

/-- What an event that is not refused writes, and what it queues. -/
private theorem run_dispatch_ok (now : Time) (webhookEventId merchantId : ℕ)
    (heffect : e.effect s = .ok effect) :
    ∃ audits, (dispatch now webhookEventId merchantId (.payment e)).run s =
      (.ok (e.followups s webhookEventId effect), e.storeAfter s now effect audits) := by
  have hfound := run_findOrCreatePayment e s
  rw [heffect] at hfound
  dsimp only at hfound
  have hrow : (s.payments.put effect.paymentId effect.payment).get? effect.paymentId =
      some effect.payment := by
    rw [Table.get?_put (effect_paymentId_le heffect), if_pos rfl]
  -- the events that only write their payment
  have hquiet : ∀ status, status = e.status → e.eventType ≠ .paymentFailed →
      e.eventType ≠ .paymentCaptured → ∃ audits, (handlePaymentStatus now e status).run s =
        (.ok (e.followups s webhookEventId effect), e.storeAfter s now effect audits) := by
    intro status hstatus hfailed hcaptured
    subst hstatus
    have hnone : e.followups s webhookEventId effect = [] := by
      unfold DomainPaymentEvent.followups
      revert hfailed hcaptured
      cases e.eventType <;> simp
    have hcases : e.casesAfter s now effect = s.cases := by
      unfold DomainPaymentEvent.casesAfter DomainPaymentEvent.opensCase
      simp [hfailed]
    unfold handlePaymentStatus DomainPaymentEvent.storeAfter
    rw [Session.run_bind_ok hfound, hnone, hcases]
    exact ⟨_, rfl⟩
  unfold dispatch
  dsimp only
  cases htype : e.eventType with
  | paymentFailed =>
    have hstatus : e.status = .failed := by
      unfold DomainPaymentEvent.status
      rw [htype]
      rfl
    rw [hstatus] at hfound
    dsimp only
    unfold handlePaymentFailed
    rw [Session.run_bind_ok hfound]
    dsimp only
    obtain ⟨noted, hnoted⟩ := run_auditPayment now e .failed
      ((s.foundPayment e.key).map (·.2.status)) none
      { s with
        payments := s.payments.put effect.paymentId effect.payment
        paymentAttempts := s.paymentAttempts.insert (e.addedAttempt s effect) }
    obtain ⟨audits, hopened⟩ := run_createOrAttach (e := e)
      (s :=
        { s with
          payments := s.payments.put effect.paymentId effect.payment
          paymentAttempts := s.paymentAttempts.insert (e.addedAttempt s effect)
          auditEvents := noted }) now webhookEventId hrow
    refine ⟨audits, ?_⟩
    rw [Session.run_bind_ok hnoted, hopened]
    unfold DomainPaymentEvent.followups DomainPaymentEvent.storeAfter DomainPaymentEvent.casesAfter
      DomainPaymentEvent.opensCase
    rw [htype]
    -- the open cases are read after the payment is written, which leaves them alone
    change (match s.listOpenForPayment e.merchantId effect.paymentId with
      | _ :: _ => _
      | [] => _) = _
    cases s.listOpenForPayment e.merchantId effect.paymentId with
    | nil => rfl
    | cons caseId rest => rfl
  | paymentCaptured =>
    have hstatus : e.status = .captured := by
      unfold DomainPaymentEvent.status
      rw [htype]
      rfl
    rw [hstatus] at hfound
    have hcases : e.casesAfter s now effect = s.cases := by
      unfold DomainPaymentEvent.casesAfter DomainPaymentEvent.opensCase
      simp [htype]
    dsimp only
    unfold handlePaymentCaptured DomainPaymentEvent.followups DomainPaymentEvent.storeAfter
    rw [Session.run_bind_ok hfound, htype, hcases]
    dsimp only
    rw [Session.run_bind_ok (run_readPayment hrow)]
    exact ⟨_, rfl⟩
  | paymentRefunded =>
    exact hquiet .refunded (by simp [DomainPaymentEvent.status, htype, DomainEventType.status])
      (by simp [htype]) (by simp [htype])
  | paymentCancelled =>
    exact hquiet .cancelled (by simp [DomainPaymentEvent.status, htype, DomainEventType.status])
      (by simp [htype]) (by simp [htype])
  | paymentAuthorized =>
    exact hquiet .authorized (by simp [DomainPaymentEvent.status, htype, DomainEventType.status])
      (by simp [htype]) (by simp [htype])
  | paymentCreated =>
    exact hquiet .created (by simp [DomainPaymentEvent.status, htype, DomainEventType.status])
      (by simp [htype]) (by simp [htype])

/-- What `_dispatch` does with a payment event. -/
theorem run_dispatch (now : Time) (webhookEventId merchantId : ℕ) (e : DomainPaymentEvent)
    (s : Store) :
    ∃ audits, (dispatch now webhookEventId merchantId (.payment e)).run s =
      match e.effect s with
      | .error f => (.error f, s)
      | .ok effect =>
        (.ok (e.followups s webhookEventId effect), e.storeAfter s now effect audits) := by
  cases heffect : e.effect s with
  | ok effect => exact run_dispatch_ok now webhookEventId merchantId heffect
  | error f =>
    have hrefused := run_findOrCreatePayment e s
    rw [heffect] at hrefused
    obtain ⟨rest, hsplit, -⟩ := dispatch_payment now webhookEventId merchantId e
    rw [hsplit, Session.run_bind_error hrefused]
    exact ⟨s.auditEvents, rfl⟩

/-- Every event: one that is no payment event writes an audit row, an event that is refused
nothing. -/
theorem dispatch_error {now : Time} {webhookEventId merchantId : ℕ} {event : NormalizedEvent}
    {f : Failure} (h : (dispatch now webhookEventId merchantId event).run s = (.error f, s')) :
    s' = s := by
  cases event with
  | unknown event => cases h
  | payment e =>
    obtain ⟨audits, hrun⟩ := run_dispatch now webhookEventId merchantId e s
    rw [h] at hrun
    split at hrun
    · exact (Prod.mk.inj hrun).2
    · cases (Prod.mk.inj hrun).1

/-- The tables that a dispatch leaves alone. -/
theorem dispatch_webhookEvents (now : Time) (webhookEventId merchantId : ℕ)
    (event : NormalizedEvent) (s : Store) :
    ((dispatch now webhookEventId merchantId event).run s).2.webhookEvents = s.webhookEvents := by
  cases event with
  | unknown event => rfl
  | payment e =>
    obtain ⟨audits, hrun⟩ := run_dispatch now webhookEventId merchantId e s
    rw [hrun]
    split <;> rfl

/-- The tables that no event reads. -/
def Store.withTrail (s : Store) (webhookEvents : Table WebhookEvent)
    (auditEvents : Table AuditEvent) : Store :=
  { s with webhookEvents, auditEvents }

/-- An event does the same whatever the webhook rows and the audit trail are. -/
theorem dispatch_withTrail (now : Time) (webhookEventId merchantId : ℕ)
    (event : NormalizedEvent) (s : Store) (webhookEvents : Table WebhookEvent)
    (auditEvents : Table AuditEvent) :
    ∃ audits, (dispatch now webhookEventId merchantId event).run
        (s.withTrail webhookEvents auditEvents) =
      (((dispatch now webhookEventId merchantId event).run s).1,
        ((dispatch now webhookEventId merchantId event).run s).2.withTrail webhookEvents
          audits) := by
  cases event with
  | unknown event => exact ⟨_, rfl⟩
  | payment e =>
    obtain ⟨audits, hrun⟩ := run_dispatch now webhookEventId merchantId e s
    obtain ⟨audits', hrun'⟩ := run_dispatch now webhookEventId merchantId e
      (s.withTrail webhookEvents auditEvents)
    have heffect : e.effect (s.withTrail webhookEvents auditEvents) = e.effect s := rfl
    rw [heffect] at hrun'
    rw [hrun, hrun']
    cases e.effect s with
    | error f => exact ⟨auditEvents, rfl⟩
    | ok effect => exact ⟨audits', rfl⟩

/-! ## The outcomes of an event -/

/-- What a stored row is read as. -/
def WebhookEvent.read (env : EventText) (row : WebhookEvent) : Except Failure NormalizedEvent :=
  normalizeProviderEvent env row.merchantId (providerEventFromRow env row)

/-- A row whose event has been processed. -/
def WebhookEvent.settle (row : WebhookEvent) (now : Time) : WebhookEvent :=
  { row with
    status := .processed, processedAt := some now, errorCode := none, errorMessage := none }

/-- A row whose event was refused. -/
def WebhookEvent.refuse (row : WebhookEvent) (e : DomainError) : WebhookEvent :=
  { row with
    status := .deadLetter
    errorCode := some (String.ofList (e.code.toList.take 64))
    errorMessage := some (String.ofList (e.message.toList.take 500)) }

/-- `mark_dead_letter` on its row. -/
def WebhookEvent.giveUp (row : WebhookEvent) (error : String) : WebhookEvent :=
  { row with
    status := .deadLetter
    errorMessage := some (String.ofList (error.toList.take 500)) }

/-- Rows that are done with. -/
def WebhookEventStatus.isSettled (status : WebhookEventStatus) : Bool :=
  status = .processed || status = .deadLetter

/-- The same delivery, whatever has been made of it. -/
structure WebhookEvent.SameDelivery (row row' : WebhookEvent) : Prop where
  merchantId : row'.merchantId = row.merchantId
  provider : row'.provider = row.provider
  eventId : row'.eventId = row.eventId
  eventType : row'.eventType = row.eventType
  payload : row'.payload = row.payload
  receivedAt : row'.receivedAt = row.receivedAt

/-- The event that a row is processed as, or the error that it raises. -/
def WebhookEvent.verdict (env : EventText) (s : Store) (row : WebhookEvent) :
    Except Failure NormalizedEvent :=
  if (s.merchants.get? row.merchantId).isNone then
    .error <| .domain
      { code := "MISSING_MERCHANT", message := "Merchant was not found for provider event" }
  else do
    match ← row.read env with
    | .unknown event => return .unknown event
    | .payment e =>
      let _ ← e.effect s
      return .payment e

/-- The error is recorded on the row; any other is raised again. -/
def Failure.isPermanent : Failure → Bool
  | .domain e => !e.retryable
  | .crash _ => false

/-- What `process_webhook_event` may answer, and the store after it. -/
inductive WebhookOutcome (env : EventText) (now : Time) (webhookEventId : ℕ) (s : Store) :
    Except Failure ProcessingResult → Store → Prop
  /-- No row is visible. -/
  | missing (hrow : s.webhookEvents.get? webhookEventId = none) (f : Failure) :
      WebhookOutcome env now webhookEventId s (.error f) s
  /-- The row is done with. -/
  | settled {row : WebhookEvent} (status : ProcessingStatus)
      (hrow : s.webhookEvents.get? webhookEventId = some row)
      (hsettled : row.status.isSettled = true) :
      WebhookOutcome env now webhookEventId s (.ok { status, webhookEventId }) s
  /-- The exception is raised again, and the caller rolls back. -/
  | raised {row : WebhookEvent} (f : Failure) (s' : Store)
      (hrow : s.webhookEvents.get? webhookEventId = some row)
      (heligible : row.status.isSettled = false)
      (hverdict : row.verdict env s = .error f) (hpermanent : f.isPermanent = false) :
      WebhookOutcome env now webhookEventId s (.error f) s'
  /-- An error that no retry helps. -/
  | deadLettered {row : WebhookEvent} (e : DomainError) (audits : Table AuditEvent)
      (hrow : s.webhookEvents.get? webhookEventId = some row)
      (heligible : row.status.isSettled = false)
      (hverdict : row.verdict env s = .error (.domain e)) (hpermanent : e.retryable = false) :
      WebhookOutcome env now webhookEventId s
        (.ok { status := .deadLetter, webhookEventId })
        (s.withTrail (s.webhookEvents.modify webhookEventId fun _ => row.refuse e) audits)
  /-- The event is dispatched. -/
  | processed {row : WebhookEvent} {event : NormalizedEvent} {followups : List FollowUpJob}
      {s' : Store} (audits : Table AuditEvent)
      (hrow : s.webhookEvents.get? webhookEventId = some row)
      (heligible : row.status.isSettled = false)
      (hmerchant : (s.merchants.get? row.merchantId).isSome = true)
      (hread : row.read env = .ok event)
      (hdispatch : (dispatch now webhookEventId row.merchantId event).run s =
        (.ok followups, s')) :
      WebhookOutcome env now webhookEventId s
        (.ok { status := .processed, webhookEventId, followups })
        (s'.withTrail (s.webhookEvents.modify webhookEventId fun _ => row.settle now) audits)

theorem WebhookEvent.SameDelivery.read {row row' : WebhookEvent} (h : row.SameDelivery row')
    (env : EventText) : row'.read env = row.read env := by
  unfold WebhookEvent.read providerEventFromRow
  rw [h.merchantId, h.provider, h.eventId, h.eventType, h.payload, h.receivedAt]

theorem isSettled_eq_false {status : WebhookEventStatus} :
    status.isSettled = false ↔ status ≠ .processed ∧ status ≠ .deadLetter := by
  simp [WebhookEventStatus.isSettled]

/-- What `_mark_failure` writes on a row whose error no retry helps. -/
theorem run_markFailure (now : Time) (webhookEventId : ℕ) (row : WebhookEvent) (e : DomainError)
    (action : String) {stored : WebhookEvent}
    (hrow : s.webhookEvents.get? webhookEventId = some stored) :
    ∃ audits, (markFailure now webhookEventId row e .deadLetter action).run s =
      (.ok (), s.withTrail (s.webhookEvents.modify webhookEventId fun _ => stored.refuse e)
        audits) := by
  have hwrite : s.webhookEvents.modify webhookEventId (·.refuse e) =
      s.webhookEvents.modify webhookEventId fun _ => stored.refuse e :=
    Table.modify_congr hrow rfl
  rw [← hwrite]
  exact ⟨_, rfl⟩

/-- The verdict on an event is that of its dispatch. -/
theorem verdict_eq_dispatch (now : Time) (webhookEventId : ℕ) {row : WebhookEvent}
    {event : NormalizedEvent} (hmerchant : ¬ (s.merchants.get? row.merchantId).isNone = true)
    (hread : row.read env = .ok event) :
    row.verdict env s =
      ((dispatch now webhookEventId row.merchantId event).run s).1.map fun _ => event := by
  unfold WebhookEvent.verdict
  rw [if_neg hmerchant, hread]
  cases event with
  | unknown event => rfl
  | payment e =>
    obtain ⟨audits, hrun⟩ := run_dispatch now webhookEventId row.merchantId e s
    rw [hrun]
    show (e.effect s >>= fun _ => pure (NormalizedEvent.payment e)) = _
    cases e.effect s <;> rfl

/-- The part of the call whose errors are recorded: it refuses the event and writes nothing,
or dispatches it and settles the row. -/
theorem run_processRow (env : EventText) (now : Time) (webhookEventId : ℕ) (row : WebhookEvent)
    {stored : WebhookEvent} (hrow : s.webhookEvents.get? webhookEventId = some stored) :
    (∃ f, row.verdict env s = .error f ∧
        (processRow env now webhookEventId row).run s = (.error f, s)) ∨
      ∃ event followups s' audits, (s.merchants.get? row.merchantId).isSome = true ∧
        row.read env = .ok event ∧
        (dispatch now webhookEventId row.merchantId event).run s = (.ok followups, s') ∧
        (processRow env now webhookEventId row).run s =
          (.ok { status := .processed, webhookEventId, followups },
            s'.withTrail (s.webhookEvents.modify webhookEventId fun _ => stored.settle now)
              audits) := by
  by_cases hmerchant : (s.merchants.get? row.merchantId).isNone = true
  · unfold processRow
    rw [Session.run_get_bind, Session.run_ite, if_pos hmerchant]
    exact .inl ⟨_, if_pos hmerchant, rfl⟩
  cases hread : row.read env with
  | error f =>
    have hverdict : row.verdict env s = .error f := by
      unfold WebhookEvent.verdict
      rw [if_neg hmerchant, hread]
      rfl
    unfold WebhookEvent.read at hread
    unfold processRow
    rw [Session.run_get_bind, Session.run_ite, if_neg hmerchant, Session.run_ofExcept_bind,
      hread]
    exact .inl ⟨f, hverdict, rfl⟩
  | ok event =>
    rcases hdispatch : (dispatch now webhookEventId row.merchantId event).run s with
      ⟨f | followups, s'⟩
    · have hverdict := verdict_eq_dispatch now webhookEventId hmerchant hread
      rw [hdispatch] at hverdict
      unfold WebhookEvent.read at hread
      unfold processRow
      rw [Session.run_get_bind, Session.run_ite, if_neg hmerchant, Session.run_ofExcept_bind,
        hread]
      dsimp only
      rw [Session.run_bind_error hdispatch, dispatch_error hdispatch]
      exact .inl ⟨f, hverdict, rfl⟩
    · -- the dispatch writes payments and cases, so the row it settles is still the one that was
      -- read
      have hkept := dispatch_webhookEvents now webhookEventId row.merchantId event s
      rw [hdispatch] at hkept
      dsimp only at hkept
      have hwrite : s.webhookEvents.modify webhookEventId (·.settle now) =
          s.webhookEvents.modify webhookEventId fun _ => stored.settle now :=
        Table.modify_congr hrow rfl
      have hsettled : ∃ audits, (processRow env now webhookEventId row).run s =
          (.ok { status := .processed, webhookEventId, followups },
            s'.withTrail (s.webhookEvents.modify webhookEventId fun _ => stored.settle now)
              audits) := by
        unfold WebhookEvent.read at hread
        unfold processRow
        rw [Session.run_get_bind, Session.run_ite, if_neg hmerchant, Session.run_ofExcept_bind,
          hread]
        dsimp only
        rw [Session.run_bind_ok hdispatch, ← hwrite, ← hkept]
        exact ⟨_, rfl⟩
      obtain ⟨audits, hrun⟩ := hsettled
      have hthere : (s.merchants.get? row.merchantId).isSome = true := by
        simpa [Option.isSome_iff_ne_none] using hmerchant
      exact .inr ⟨event, followups, s', audits, hthere, rfl, hdispatch, hrun⟩

/-- Every call of `process_webhook_event` has one of the outcomes. -/
theorem webhookOutcome (env : EventText) (now : Time) (webhookEventId : ℕ) (s : Store) :
    WebhookOutcome env now webhookEventId s ((processWebhookEvent env now webhookEventId).run s).1
      ((processWebhookEvent env now webhookEventId).run s).2 := by
  unfold processWebhookEvent
  rw [Session.run_get_bind]
  cases hrow : s.webhookEvents.get? webhookEventId with
  | none => exact .missing hrow _
  | some row =>
    dsimp only
    rw [Session.run_ite, Session.run_ite]
    by_cases hprocessed : row.status = .processed
    · rw [if_pos hprocessed]
      exact .settled _ hrow (by rw [hprocessed]; rfl)
    rw [if_neg hprocessed]
    by_cases hdead : row.status = .deadLetter
    · rw [if_pos hdead]
      exact .settled _ hrow (by rw [hdead]; rfl)
    rw [if_neg hdead]
    have heligible := isSettled_eq_false.mpr ⟨hprocessed, hdead⟩
    -- from here on the row is marked PROCESSING, which the final write overwrites
    let marked := s.withTrail
      (s.webhookEvents.modify webhookEventId fun row => { row with status := .processing })
      s.auditEvents
    have hmarked : marked.webhookEvents.get? webhookEventId =
        some { row with status := .processing } := by
      show (s.webhookEvents.modify webhookEventId _).get? webhookEventId = _
      rw [Table.get?_modify_self, hrow]
      rfl
    show WebhookOutcome env now webhookEventId s
      (((processRow env now webhookEventId row).recover
        (recordRowFailure now webhookEventId row)).run marked).1
      (((processRow env now webhookEventId row).recover
        (recordRowFailure now webhookEventId row)).run marked).2
    rcases run_processRow env now webhookEventId row hmarked with
      ⟨f, hverdict, hrefused⟩ |
      ⟨event, followups, s', audits, hmerchant, hread, hdispatch, hprocessed⟩
    · rw [Session.run_recover_error hrefused]
      have hverdict : row.verdict env s = .error f := hverdict
      unfold recordRowFailure
      cases f with
      | crash exception => exact .raised _ _ hrow heligible hverdict rfl
      | domain e =>
        dsimp only
        rw [Session.run_ite]
        split
        · rename_i hretryable
          exact .raised _ _ hrow heligible hverdict (by simp [Failure.isPermanent, hretryable])
        · rename_i hpermanent
          have hpermanent : e.retryable = false := by simpa using hpermanent
          obtain ⟨audits, hrun⟩ :=
            run_markFailure now webhookEventId row e "dead_letter" hmarked
          rw [Session.run_bind_ok hrun]
          -- two writes of one row are the last one
          have htable := Table.modify_modify s.webhookEvents webhookEventId
            (fun row => { row with status := .processing }) fun _ => row.refuse e
          have hout : WebhookOutcome env now webhookEventId s _ _ :=
            .deadLettered e audits hrow heligible hverdict hpermanent
          rw [← htable] at hout
          exact hout
    · rw [Session.run_recover_ok hprocessed]
      have htable := Table.modify_modify s.webhookEvents webhookEventId
        (fun row => { row with status := .processing }) fun _ => row.settle now
      obtain ⟨trail, hunmarked⟩ := dispatch_withTrail now webhookEventId row.merchantId event
        marked s.webhookEvents s.auditEvents
      rw [hdispatch] at hunmarked
      have hout : WebhookOutcome env now webhookEventId s _ _ :=
        .processed audits hrow heligible hmerchant hread hunmarked
      rw [← htable] at hout
      exact hout

end ReviveX
