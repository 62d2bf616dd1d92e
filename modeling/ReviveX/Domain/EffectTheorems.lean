import ReviveX.Domain.DispatchTheorems

/-!
# What the effect of an event depends on

The effect of an event is a function of four tables: customers, payments, attempts and cases.
It finds its own payment afterwards, and leaves the payments of other keys and their attempt
numbers alone.
-/

namespace ReviveX

open Lib (Session Table)

variable {s s' : Store} {e : DomainPaymentEvent} {effect : EventEffect}

/-! ## Stores with the same effects -/

/-- The tables that events read and write are the same. -/
structure SameEffects (s s' : Store) : Prop extends SamePayments s s' where
  cases : s'.cases = s.cases

namespace SameEffects

theorem refl (s : Store) : SameEffects s s := ⟨.refl s, rfl⟩

theorem trans {s'' : Store} (h : SameEffects s s') (h' : SameEffects s' s'') : SameEffects s s'' :=
  ⟨h.toSamePayments.trans h'.toSamePayments, h'.cases.trans h.cases⟩

end SameEffects

theorem SamePayments.foundPayment (h : SamePayments s s') (key : ProviderKey) :
    s'.foundPayment key = s.foundPayment key := by
  unfold Store.foundPayment
  rw [h.paymentOfKey, h.payments]

theorem SamePayments.effect_eq (h : SamePayments s s') (e : DomainPaymentEvent) :
    e.effect s' = e.effect s := by
  unfold DomainPaymentEvent.effect
  rw [h.foundPayment, h.resolveCustomer, h.payments]

theorem SameEffects.listOpenForPayment (h : SameEffects s s') (merchantId paymentId : ℕ) :
    s'.listOpenForPayment merchantId paymentId = s.listOpenForPayment merchantId paymentId := by
  unfold Store.listOpenForPayment
  rw [h.cases]

/-- The same event on the same tables. -/
theorem SameEffects.storeAfter (h : SameEffects s s') (e : DomainPaymentEvent) (now : Time)
    (effect : EventEffect) (audits audits' : Table AuditEvent) :
    SameEffects (e.storeAfter s now effect audits) (e.storeAfter s' now effect audits') where
  customers := h.customers
  payments := by
    show s'.payments.put _ _ = s.payments.put _ _
    rw [h.payments]
  paymentAttempts := by
    show s'.paymentAttempts.insert _ = s.paymentAttempts.insert _
    unfold DomainPaymentEvent.addedAttempt
    rw [h.paymentAttempts, h.nextAttemptNumber]
  cases := by
    show e.casesAfter s' now effect = e.casesAfter s now effect
    unfold DomainPaymentEvent.casesAfter DomainPaymentEvent.opensCase
    rw [h.cases, h.listOpenForPayment]

/-- A dispatch on the same tables leaves the same tables. -/
theorem SameEffects.dispatch (h : SameEffects s s') (now : Time) (webhookEventId merchantId : ℕ)
    (event : NormalizedEvent) :
    SameEffects ((dispatch now webhookEventId merchantId event).run s).2
      ((ReviveX.dispatch now webhookEventId merchantId event).run s').2 := by
  cases event with
  | unknown event => exact ⟨⟨h.customers, h.payments, h.paymentAttempts⟩, h.cases⟩
  | payment e =>
    obtain ⟨audits, hrun⟩ := run_dispatch now webhookEventId merchantId e s
    obtain ⟨audits', hrun'⟩ := run_dispatch now webhookEventId merchantId e s'
    rw [h.effect_eq] at hrun'
    rw [hrun, hrun']
    cases e.effect s with
    | error f => exact h
    | ok effect => exact h.storeAfter e now effect audits audits'

/-! ## The payment of an event afterwards -/

/-- A row has one key. -/
theorem hasKey_unique {p : Payment} {key key' : ProviderKey} (h : p.hasKey key = true)
    (h' : p.hasKey key' = true) : key = key' := by
  obtain ⟨merchantId, provider, providerPaymentId⟩ := key
  obtain ⟨merchantId', provider', providerPaymentId'⟩ := key'
  simp [Payment.hasKey] at h h'
  grind

/-- The payment of an event is found, or it is the next one. -/
theorem effect_cases (h : e.effect s = .ok effect) :
    (∃ p, s.foundPayment e.key = some (effect.paymentId, p) ∧
        effect.payment = p.receive e e.status effect.amount) ∨
      (s.foundPayment e.key = none ∧ effect.paymentId = s.payments.nextId ∧
        ∃ customerId, resolveCustomer s e = .ok customerId ∧
          effect.payment = e.newPayment customerId e.status effect.amount) := by
  unfold DomainPaymentEvent.effect at h
  split at h
  · rename_i i p hfound
    obtain ⟨amount, -, heq⟩ := Lib.bind_eq_ok.mp h
    obtain rfl := Except.ok.inj heq
    exact .inl ⟨p, hfound, rfl⟩
  · rename_i hfound
    obtain ⟨customerId, hcustomer, h⟩ := Lib.bind_eq_ok.mp h
    obtain ⟨amount, -, heq⟩ := Lib.bind_eq_ok.mp h
    obtain rfl := Except.ok.inj heq
    exact .inr ⟨hfound, rfl, customerId, hcustomer, rfl⟩

/-- The amount of an effect is the event's, as it is stored. -/
theorem effect_amount (h : e.effect s = .ok effect) : storeAmount e.amount = .ok effect.amount := by
  unfold DomainPaymentEvent.effect at h
  split at h
  · obtain ⟨amount, hamount, heq⟩ := Lib.bind_eq_ok.mp h
    obtain rfl := Except.ok.inj heq
    exact hamount
  · obtain ⟨customerId, -, h⟩ := Lib.bind_eq_ok.mp h
    obtain ⟨amount, hamount, heq⟩ := Lib.bind_eq_ok.mp h
    obtain rfl := Except.ok.inj heq
    exact hamount

/-- The row that is written has the key of the event. -/
theorem effect_hasKey (h : e.effect s = .ok effect) : effect.payment.hasKey e.key = true := by
  rcases effect_cases h with ⟨p, hfound, heq⟩ | ⟨-, -, customerId, -, heq⟩
  · obtain ⟨hid, hp⟩ := foundPayment_eq_some.mp hfound
    obtain ⟨q, hq, -, hkey⟩ := paymentRow_of_paymentOfKey hid
    obtain rfl := Option.some.inj (hp.symm.trans hq)
    rw [heq, hasKey_receive]
    exact hkey
  · rw [heq, hasKey_newPayment]
    exact decide_eq_true rfl

/-- The payment of another key has another row. -/
theorem effect_paymentId_ne {key : ProviderKey} {i : ℕ} {p : Payment}
    (h : e.effect s = .ok effect) (hkey : e.key ≠ key)
    (hfound : s.foundPayment key = some (i, p)) : i ≠ effect.paymentId := by
  rintro rfl
  obtain ⟨hid, hp⟩ := foundPayment_eq_some.mp hfound
  obtain ⟨q, hq, -, hqkey⟩ := paymentRow_of_paymentOfKey hid
  rcases effect_cases h with ⟨p', hown, -⟩ | ⟨-, hnext, -⟩
  · obtain ⟨hownId, hp'⟩ := foundPayment_eq_some.mp hown
    obtain ⟨q', hq', -, hpkey⟩ := paymentRow_of_paymentOfKey hownId
    obtain rfl := Option.some.inj (hq.symm.trans hq')
    exact hkey (hasKey_unique hpkey hqkey)
  · rw [hnext, Table.get?_nextId] at hq
    cases hq

/-- The payment of a key after an event. -/
theorem foundPayment_put (h : e.effect s = .ok effect) (key : ProviderKey)
    (hpayments : s'.payments = s.payments.put effect.paymentId effect.payment) :
    s'.foundPayment key =
      if e.key = key then some (effect.paymentId, effect.payment) else s.foundPayment key := by
  have hrow := Table.get?_put (effect_paymentId_le h) effect.payment
  have hid : s'.paymentOfKey key =
      if e.key = key then some effect.paymentId else s.paymentOfKey key := by
    rw [paymentOfKey_eq, paymentOfKey_eq, hpayments]
    rcases effect_cases h with ⟨p, hfound, heq⟩ | ⟨hnone, hnext, customerId, -, heq⟩
    · obtain ⟨hfoundId, hp⟩ := foundPayment_eq_some.mp hfound
      have hput : s.payments.put effect.paymentId effect.payment =
          s.payments.modify effect.paymentId (·.receive e e.status effect.amount) :=
        Table.put_of_some hp heq.symm
      rw [hput,
        Table.findId?_modify _ _ fun q => hasKey_receive q e e.status effect.amount key]
      by_cases hkey : e.key = key
      · rw [if_pos hkey, ← hkey, ← paymentOfKey_eq, hfoundId]
      · rw [if_neg hkey]
    · rw [hnext, Table.put_nextId, Table.findId?_insert, heq, hasKey_newPayment]
      by_cases hkey : e.key = key
      · rw [if_pos hkey, ← hkey, ← paymentOfKey_eq, foundPayment_eq_none.mp hnone]
        simp
      · simp [hkey]
  unfold Store.foundPayment
  rw [hid, hpayments]
  split
  · rw [Option.bind_some, hrow, if_pos rfl]
    rfl
  · rename_i hkey
    cases hother : s.paymentOfKey key with
    | none => rfl
    | some j =>
      obtain ⟨q, hq, -⟩ := paymentRow_of_paymentOfKey hother
      have hne := effect_paymentId_ne h hkey (foundPayment_eq_some.mpr ⟨hother, hq⟩)
      rw [Option.bind_some, Option.bind_some, hrow, if_neg hne]

theorem foundPayment_storeAfter (h : e.effect s = .ok effect) (now : Time)
    (audits : Table AuditEvent) (key : ProviderKey) :
    (e.storeAfter s now effect audits).foundPayment key =
      if e.key = key then some (effect.paymentId, effect.payment) else s.foundPayment key :=
  foundPayment_put h key rfl

/-! ## Attempts -/

/-- The next attempt number is a new one. -/
theorem attemptNumber_lt_next {a : PaymentAttempt} (h : a ∈ s.paymentAttempts.rows) :
    a.attemptNumber < s.nextAttemptNumber a.paymentId := by
  unfold Store.nextAttemptNumber
  dsimp only
  have hmem : a.attemptNumber ∈
      (s.paymentAttempts.rows.filter fun b => b.paymentId = a.paymentId).map (·.attemptNumber) :=
    List.mem_map_of_mem (List.mem_filter.mpr ⟨h, by simp⟩)
  cases hmax : ((s.paymentAttempts.rows.filter fun b => b.paymentId = a.paymentId).map
      (·.attemptNumber)).max? with
  | none =>
    rw [List.max?_eq_none_iff.mp hmax] at hmem
    cases hmem
  | some m =>
    have hle := (List.max?_le_iff hmax).mp le_rfl a.attemptNumber hmem
    show _ < m + 1
    omega

/-- Every attempt is of a payment that is there. -/
def AttemptsLinked (s : Store) : Prop :=
  ∀ a ∈ s.paymentAttempts.rows, a.paymentId < s.payments.nextId

theorem AttemptsLinked.nextAttemptNumber (h : AttemptsLinked s) {i : ℕ}
    (hi : s.payments.nextId ≤ i) : s.nextAttemptNumber i = 1 := by
  have hnone : s.paymentAttempts.rows.filter (fun a => a.paymentId = i) = [] := by
    rw [List.filter_eq_nil_iff]
    intro a ha
    have hlt := h a ha
    simp only [decide_eq_true_eq]
    omega
  unfold Store.nextAttemptNumber
  rw [hnone]
  rfl

/-- The attempts of other payments keep their numbers. -/
theorem nextAttemptNumber_insert {a : PaymentAttempt} {i : ℕ}
    (hattempts : s'.paymentAttempts = s.paymentAttempts.insert a) (hne : a.paymentId ≠ i) :
    s'.nextAttemptNumber i = s.nextAttemptNumber i := by
  unfold Store.nextAttemptNumber
  rw [hattempts]
  unfold Table.insert
  rw [List.filter_append, List.filter_singleton]
  simp [hne]

theorem AttemptsLinked.storeAfter (hlinked : AttemptsLinked s) (h : e.effect s = .ok effect)
    (now : Time) (audits : Table AuditEvent) :
    AttemptsLinked (e.storeAfter s now effect audits) := by
  intro a ha
  have hgrows := Table.nextId_put_le s.payments effect.paymentId effect.payment
  have hthere : effect.paymentId < (s.payments.put effect.paymentId effect.payment).nextId := by
    have hrow := Table.get?_put (effect_paymentId_le h) effect.payment effect.paymentId
    rw [if_pos rfl] at hrow
    exact Table.lt_nextId hrow
  show a.paymentId < (s.payments.put effect.paymentId effect.payment).nextId
  rcases List.mem_append.mp ha with hold | hnew
  · have hlt := hlinked a hold
    omega
  · rw [List.mem_singleton.mp hnew]
    exact hthere

end ReviveX
