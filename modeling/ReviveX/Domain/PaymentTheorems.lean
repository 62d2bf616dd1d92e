import ReviveX.Domain.Processing

/-!
# What a provider event does to its payment

A payment is found by the key that the provider gives it. An event that is processed writes
the row of its own payment, or inserts it, and adds one attempt (`EventApplied`); nothing else
of payments and attempts changes, and an event that is not processed changes nothing of them.
-/

namespace ReviveX

open Lib (Session Table)

/-! ## Payments by their provider's key -/

/-- What identifies a payment to its provider. -/
structure ProviderKey where
  merchantId : ℕ
  provider : String
  providerPaymentId : String
deriving DecidableEq, Repr

/-- The payment that an event names. -/
def DomainPaymentEvent.key (e : DomainPaymentEvent) : ProviderKey :=
  ⟨e.merchantId, e.provider, e.providerPaymentId⟩

/-- The row has the key. -/
def Payment.hasKey (key : ProviderKey) (p : Payment) : Bool :=
  p.merchantId = key.merchantId && p.provider = key.provider &&
    p.providerPaymentId = some key.providerPaymentId

/-- The identifier of the payment of a key. -/
def Store.paymentOfKey (s : Store) (key : ProviderKey) : Option ℕ :=
  s.paymentOfProvider key.merchantId key.provider key.providerPaymentId

/-- The row of the payment of a key. -/
def Store.paymentRow (s : Store) (key : ProviderKey) : Option Payment :=
  (s.paymentOfKey key).bind s.payments.get?

/-- The status of the payment of a key. -/
def Store.paymentStatus (s : Store) (key : ProviderKey) : Option PaymentStatus :=
  (s.paymentRow key).map (·.status)

theorem paymentOfKey_eq (s : Store) (key : ProviderKey) :
    s.paymentOfKey key = s.payments.findId? (Payment.hasKey key) := rfl

/-- The row of a found payment has the key. -/
theorem paymentRow_of_paymentOfKey {s : Store} {key : ProviderKey} {i : ℕ}
    (h : s.paymentOfKey key = some i) :
    ∃ p, s.payments.get? i = some p ∧ s.paymentRow key = some p ∧ p.hasKey key = true := by
  obtain ⟨p, hp, hkey⟩ := Table.get?_of_findId? (paymentOfKey_eq s key ▸ h)
  refine ⟨p, hp, ?_, hkey⟩
  unfold Store.paymentRow
  rw [h]
  exact hp

@[simp] theorem hasKey_receive (p : Payment) (e : DomainPaymentEvent) (status : PaymentStatus)
    (amount : Money) (key : ProviderKey) :
    (p.receive e status amount).hasKey key = p.hasKey key := rfl

theorem hasKey_newPayment (e : DomainPaymentEvent) (customerId : ℕ) (status : PaymentStatus)
    (amount : Money) (key : ProviderKey) :
    (e.newPayment customerId status amount).hasKey key = decide (e.key = key) := by
  obtain ⟨merchantId, provider, providerPaymentId⟩ := key
  simp [Payment.hasKey, DomainPaymentEvent.newPayment, DomainPaymentEvent.key]
  grind

/-! ## Applying an event -/

/-- The status that an event of a type reports. -/
def DomainEventType.status : DomainEventType → PaymentStatus
  | .paymentFailed => .failed
  | .paymentCaptured => .captured
  | .paymentRefunded => .refunded
  | .paymentCancelled => .cancelled
  | .paymentAuthorized => .authorized
  | .paymentCreated => .created

/-- The status that an event reports. -/
def DomainPaymentEvent.status (e : DomainPaymentEvent) : PaymentStatus := e.eventType.status

/-- The tables of customers, payments and attempts are the same. -/
structure SamePayments (s s' : Store) : Prop where
  customers : s'.customers = s.customers
  payments : s'.payments = s.payments
  paymentAttempts : s'.paymentAttempts = s.paymentAttempts

/-- The event wrote its payment and added an attempt. -/
structure EventApplied (e : DomainPaymentEvent) (s s' : Store) : Prop where
  written : ∃ amount, storeAmount e.amount = .ok amount ∧ ∃ i,
    s'.paymentAttempts =
      s.paymentAttempts.insert (e.attempt i (s.nextAttemptNumber i) e.status amount) ∧
    ((s.paymentOfKey e.key = some i ∧
        s'.payments = s.payments.modify i (·.receive e e.status amount)) ∨
      (s.paymentOfKey e.key = none ∧ i = s.payments.nextId ∧ ∃ customerId,
        resolveCustomer s e = .ok customerId ∧
        s'.payments = s.payments.insert (e.newPayment customerId e.status amount)))

namespace SamePayments

variable {s s' s'' : Store}

theorem refl (s : Store) : SamePayments s s := ⟨rfl, rfl, rfl⟩

theorem trans (h : SamePayments s s') (h' : SamePayments s' s'') : SamePayments s s'' :=
  ⟨h'.customers.trans h.customers, h'.payments.trans h.payments,
    h'.paymentAttempts.trans h.paymentAttempts⟩

theorem paymentOfKey (h : SamePayments s s') (key : ProviderKey) :
    s'.paymentOfKey key = s.paymentOfKey key := by
  rw [paymentOfKey_eq, paymentOfKey_eq, h.payments]

theorem resolveCustomer (h : SamePayments s s') (e : DomainPaymentEvent) :
    ReviveX.resolveCustomer s' e = ReviveX.resolveCustomer s e := by
  unfold ReviveX.resolveCustomer Store.getCustomer
  rw [h.customers]

theorem nextAttemptNumber (h : SamePayments s s') (i : ℕ) :
    s'.nextAttemptNumber i = s.nextAttemptNumber i := by
  unfold Store.nextAttemptNumber
  rw [h.paymentAttempts]

end SamePayments

namespace EventApplied

variable {e : DomainPaymentEvent} {s₀ s s' s'' : Store}

/-- What surrounds the event does not matter. -/
theorem around (h : EventApplied e s s') (hbefore : SamePayments s₀ s)
    (hafter : SamePayments s' s'') : EventApplied e s₀ s'' := by
  obtain ⟨amount, hamount, i, hattempts, hwritten⟩ := h.written
  refine ⟨amount, hamount, i, ?_, ?_⟩
  · rw [hafter.paymentAttempts, hattempts, hbefore.paymentAttempts, hbefore.nextAttemptNumber]
  · rw [hafter.payments, ← hbefore.paymentOfKey, ← hbefore.payments, ← hbefore.resolveCustomer]
    exact hwritten

/-- The row of a payment after an event: only the payment that the event names is written. -/
theorem paymentRow (h : EventApplied e s s') (key : ProviderKey) :
    (e.key ≠ key → s'.paymentRow key = s.paymentRow key) ∧
      (e.key = key → ∃ amount customerId, storeAmount e.amount = .ok amount ∧
        s'.paymentRow key = some ((s.paymentRow key).elim
          (e.newPayment customerId e.status amount) (·.receive e e.status amount))) := by
  obtain ⟨amount, hamount, i, -, ⟨hfound, hpayments⟩ | ⟨hnone, -, customerId, -, hpayments⟩⟩ :=
    h.written
  · have hids : s'.paymentOfKey key = s.paymentOfKey key := by
      rw [paymentOfKey_eq, paymentOfKey_eq, hpayments,
        Table.findId?_modify _ _ fun p => hasKey_receive p e e.status amount key]
    obtain ⟨p, hp, hrow, hkey⟩ := paymentRow_of_paymentOfKey hfound
    constructor
    · intro hne
      unfold Store.paymentRow
      rw [hids, hpayments]
      cases hother : s.paymentOfKey key with
      | none => rfl
      | some j =>
        obtain ⟨q, hq, -, hqkey⟩ := paymentRow_of_paymentOfKey hother
        -- two ids of one row would have one key
        have hij : i ≠ j := by
          intro hij
          subst hij
          obtain rfl := Option.some.inj (hp.symm.trans hq)
          simp [Payment.hasKey] at hkey hqkey
          exact hne (by
            obtain ⟨m, provider, providerPaymentId⟩ := key
            simp [DomainPaymentEvent.key] at hkey hqkey ⊢
            grind)
        exact Table.get?_modify_ne _ hij _
    · rintro rfl
      refine ⟨amount, 0, hamount, ?_⟩
      rw [hrow]
      unfold Store.paymentRow
      rw [hids, hfound, hpayments]
      simp [hp]
  · have hids : s'.paymentOfKey key =
        (s.paymentOfKey key).or (if e.key = key then some s.payments.nextId else none) := by
      rw [paymentOfKey_eq, paymentOfKey_eq, hpayments, Table.findId?_insert, hasKey_newPayment]
      simp
    constructor
    · intro hne
      unfold Store.paymentRow
      rw [hids, if_neg hne, Option.or_none, hpayments]
      cases hother : s.paymentOfKey key with
      | none => rfl
      | some j =>
        obtain ⟨q, hq, -, -⟩ := paymentRow_of_paymentOfKey hother
        exact (Table.get?_insert_of_some hq _).trans hq.symm
    · rintro rfl
      refine ⟨amount, customerId, hamount, ?_⟩
      unfold Store.paymentRow
      rw [hids, hnone, hpayments]
      simp

/-- The status of its payment after an event. -/
theorem paymentStatus (h : EventApplied e s s') :
    s'.paymentStatus e.key =
      some ((s.paymentStatus e.key).elim e.status (·.receive e.status)) := by
  obtain ⟨amount, customerId, -, hrow⟩ := (h.paymentRow e.key).2 rfl
  unfold Store.paymentStatus
  rw [hrow]
  cases s.paymentRow e.key <;> rfl

end EventApplied

/-! ## Running -/

variable {s s' : Store} {e : DomainPaymentEvent}

theorem findOrCreatePayment_ok {status : PaymentStatus} {r : ℕ × Option PaymentStatus}
    (hstatus : status = e.status)
    (h : (findOrCreatePayment e status).run s = (.ok r, s')) : EventApplied e s s' := by
  subst hstatus
  unfold findOrCreatePayment at h
  rw [Session.run_get_bind] at h
  cases hfound : s.paymentOfProvider e.merchantId e.provider e.providerPaymentId with
  | some i =>
    rw [hfound] at h
    dsimp only at h
    rw [Session.run_ofExcept_bind] at h
    cases hamount : storeAmount e.amount with
    | error f =>
      rw [hamount] at h
      cases h
    | ok amount =>
      rw [hamount] at h
      obtain ⟨-, rfl⟩ := Prod.mk.inj h
      exact ⟨amount, hamount, i, rfl, .inl ⟨hfound, rfl⟩⟩
  | none =>
    rw [hfound] at h
    dsimp only at h
    rw [Session.run_ofExcept_bind] at h
    cases hcustomer : resolveCustomer s e with
    | error f =>
      rw [hcustomer] at h
      cases h
    | ok customerId =>
      rw [hcustomer] at h
      dsimp only at h
      rw [Session.run_ofExcept_bind] at h
      cases hamount : storeAmount e.amount with
      | error f =>
        rw [hamount] at h
        cases h
      | ok amount =>
        rw [hamount] at h
        obtain ⟨-, rfl⟩ := Prod.mk.inj h
        exact ⟨amount, hamount, s.payments.nextId, rfl,
          .inr ⟨hfound, rfl, customerId, hcustomer, rfl⟩⟩

/-! ### What comes after -/

section Rest

variable (now : Time) (webhookEventId : ℕ)

private theorem samePayments_bind {α β : Type} {m : Service α} {f : α → Service β}
    (hm : Session.Keeps SamePayments m) (hf : ∀ a, Session.Keeps SamePayments (f a)) :
    Session.Keeps SamePayments (m >>= f) :=
  Session.Keeps.bind (R := SamePayments) (fun _ _ _ => SamePayments.trans) hm hf

private theorem samePayments_modify {g : Store → Store}
    (hcustomers : ∀ s, (g s).customers = s.customers)
    (hpayments : ∀ s, (g s).payments = s.payments)
    (hattempts : ∀ s, (g s).paymentAttempts = s.paymentAttempts) :
    Session.Keeps SamePayments (Session.modify g : Service Unit) :=
  .modify fun s => ⟨hcustomers s, hpayments s, hattempts s⟩

theorem samePayments_readPayment (paymentId : ℕ) :
    Session.Keeps SamePayments (readPayment paymentId) := by
  refine .get_bind fun s => ?_
  split
  · exact .pure SamePayments.refl _
  · exact .raise SamePayments.refl _

theorem samePayments_createOrAttach (paymentId : ℕ) :
    Session.Keeps SamePayments (createOrAttachRecoveryCase now webhookEventId e paymentId) := by
  have haudit : ∀ a, Session.Keeps SamePayments (Service.recordAudit a) :=
    fun _ => samePayments_modify (fun _ => rfl) (fun _ => rfl) fun _ => rfl
  refine samePayments_bind (samePayments_readPayment paymentId) fun p => .get_bind fun s => ?_
  split
  · exact samePayments_bind (haudit _) fun _ => .pure SamePayments.refl _
  · have hopen : Session.Keeps SamePayments
        (Service.insertCase (p.openedCase e.merchantId paymentId now)) :=
      .modifyGet fun _ => ⟨rfl, rfl, rfl⟩
    exact samePayments_bind hopen fun _ => samePayments_bind (haudit _) fun _ =>
      .pure SamePayments.refl _

/-- Every handler writes the payment first, and then neither payments nor attempts. -/
theorem dispatch_payment (merchantId : ℕ) (e : DomainPaymentEvent) :
    ∃ rest : ℕ × Option PaymentStatus → Service (List FollowUpJob),
      dispatch now webhookEventId merchantId (.payment e) =
        (findOrCreatePayment e e.status >>= rest) ∧
      ∀ r, Session.Keeps SamePayments (rest r) := by
  have haudit : ∀ status previous caseId,
      Session.Keeps SamePayments (auditPayment now e status previous caseId) :=
    fun _ _ _ => samePayments_modify (fun _ => rfl) (fun _ => rfl) fun _ => rfl
  have hstatus : ∀ status, ∃ rest : ℕ × Option PaymentStatus → Service (List FollowUpJob),
      handlePaymentStatus now e status = (findOrCreatePayment e status >>= rest) ∧
        ∀ r, Session.Keeps SamePayments (rest r) := fun status =>
    ⟨_, rfl, fun _ => samePayments_bind (haudit _ _ _) fun _ => .pure SamePayments.refl _⟩
  unfold dispatch DomainPaymentEvent.status
  dsimp only
  cases e.eventType with
  | paymentFailed =>
    exact ⟨_, rfl, fun _ => samePayments_bind (haudit _ _ _) fun _ =>
      samePayments_createOrAttach now webhookEventId _⟩
  | paymentCaptured =>
    exact ⟨_, rfl, fun _ => samePayments_bind (samePayments_readPayment _) fun _ =>
      .get_bind fun _ => samePayments_bind (haudit _ _ _) fun _ => .pure SamePayments.refl _⟩
  | paymentRefunded => exact hstatus .refunded
  | paymentCancelled => exact hstatus .cancelled
  | paymentAuthorized => exact hstatus .authorized
  | paymentCreated => exact hstatus .created

end Rest

/-! ### Events -/

/-- The payment event that a stored row is read as. -/
def Store.eventOf (s : Store) (env : EventText) (webhookEventId : ℕ) :
    Option DomainPaymentEvent :=
  (s.webhookEvents.get? webhookEventId).bind fun row =>
    match normalizeProviderEvent env row.merchantId (providerEventFromRow env row) with
    | .ok (.payment e) => some e
    | _ => none

theorem eventOf_eq_some {env : EventText} {webhookEventId : ℕ}
    (h : s.eventOf env webhookEventId = some e) :
    ∃ row, s.webhookEvents.get? webhookEventId = some row ∧
      normalizeProviderEvent env row.merchantId (providerEventFromRow env row) =
        .ok (.payment e) := by
  obtain ⟨row, hrow, hread⟩ := Option.bind_eq_some_iff.mp h
  refine ⟨row, hrow, ?_⟩
  split at hread
  · rename_i hnormal
    rw [hnormal, Option.some.inj hread]
  · cases hread

/-- A stored event that is read as a payment event is processed, and the call returns. -/
structure Processes (env : EventText) (s : Store) (e : DomainPaymentEvent) (s' : Store) :
    Prop where
  processed : ∃ now webhookEventId r, s.eventOf env webhookEventId = some e ∧
    (processWebhookEvent env now webhookEventId).run s = (.ok r, s') ∧ r.status = .processed

/-- A call that returns `processed` processes the event that its row is read as. -/
theorem Processes.of_run {env : EventText} {now : Time} {webhookEventId : ℕ}
    (hevent : s.eventOf env webhookEventId = some e)
    (hprocessed : (match ((processWebhookEvent env now webhookEventId).run s).1 with
      | .ok r => decide (r.status = .processed)
      | .error _ => false) = true) :
    Processes env s e ((processWebhookEvent env now webhookEventId).run s).2 := by
  rcases hrun : (processWebhookEvent env now webhookEventId).run s with ⟨f | r, s'⟩
  · rw [hrun] at hprocessed
    cases hprocessed
  · rw [hrun] at hprocessed
    exact ⟨now, webhookEventId, r, hevent, hrun, by simpa using hprocessed⟩

/-- A failure that is recorded does not count as processed. -/
theorem recordRowFailure_status (now : Time) (webhookEventId : ℕ) (row : WebhookEvent)
    (f : Failure) :
    Session.Returns (fun r => r.status = .deadLetter)
      (recordRowFailure now webhookEventId row f) := by
  cases f with
  | crash exception => exact .raise _
  | domain e =>
    unfold recordRowFailure
    dsimp only
    split
    · exact .bind fun _ => .raise _
    · exact .bind fun _ => .pure rfl

/-- An event that is processed is applied to its payment. -/
theorem Processes.applied {env : EventText} (h : Processes env s e s') : EventApplied e s s' := by
  obtain ⟨now, webhookEventId, r, hevent, hrun, hprocessed⟩ := h.processed
  obtain ⟨row, hrow, hnormal⟩ := eventOf_eq_some hevent
  unfold processWebhookEvent at hrun
  rw [Session.run_get_bind, hrow] at hrun
  dsimp only at hrun
  rw [Session.run_ite, Session.run_ite] at hrun
  -- a row that is done with is not processed again
  split at hrun
  · obtain ⟨hr, -⟩ := Prod.mk.inj hrun
    rw [← Except.ok.inj hr] at hprocessed
    cases hprocessed
  split at hrun
  · obtain ⟨hr, -⟩ := Prod.mk.inj hrun
    rw [← Except.ok.inj hr] at hprocessed
    cases hprocessed
  obtain ⟨_, s₁, hmark, hrun⟩ := Session.run_bind_eq_ok.mp hrun
  have hbefore : SamePayments s s₁ := by
    rw [← (Prod.mk.inj hmark).2]
    exact ⟨rfl, rfl, rfl⟩
  rcases hinner : (processRow env now webhookEventId row).run s₁ with ⟨f | r', s₂⟩
  · rw [Session.run_recover_error hinner] at hrun
    have hdead := recordRowFailure_status now webhookEventId row f _ _ _ hrun
    rw [hdead] at hprocessed
    cases hprocessed
  · rw [Session.run_recover_ok hinner] at hrun
    obtain ⟨-, rfl⟩ := Prod.mk.inj hrun
    unfold processRow at hinner
    rw [Session.run_get_bind, Session.run_ite] at hinner
    split at hinner
    · cases hinner
    rw [hnormal] at hinner
    obtain ⟨event, s₃, hevent, hinner⟩ := Session.run_bind_eq_ok.mp hinner
    rw [Session.run_ofExcept] at hevent
    obtain ⟨hok, rfl⟩ := Prod.mk.inj hevent
    obtain rfl := Except.ok.inj hok
    obtain ⟨followups, s₄, hdispatch, hinner⟩ := Session.run_bind_eq_ok.mp hinner
    have hafter : SamePayments s₄ s₂ := by
      rw [← (Prod.mk.inj hinner).2]
      exact ⟨rfl, rfl, rfl⟩
    -- the dispatch applies the event first, and what follows writes no payment
    obtain ⟨rest, hsplit, hrest⟩ := dispatch_payment now webhookEventId row.merchantId e
    rw [hsplit] at hdispatch
    obtain ⟨found, s₅, hfound, hdispatch⟩ := Session.run_bind_eq_ok.mp hdispatch
    have hsame : SamePayments s₅ s₄ := by
      have hkept := hrest found s₅
      rw [hdispatch] at hkept
      exact hkept
    exact (findOrCreatePayment_ok rfl hfound).around hbefore (hsame.trans hafter)

end ReviveX
