import ReviveX.Domain.EffectTheorems
import ReviveX.Domain.IngestionTheorems
import ReviveX.Domain.PaymentConcurrency

/-!
# Webhook transactions

The statements of `ingest`, `process_provider_event` and `mark_dead_letter` that other
transactions can come between. A worker locks the row of its event, reads the payment, reads
the next attempt number and commits; a duplicate of its job waits for the lock. Writes take
effect with the commit: until then the unique indexes and the row locks keep the others from
writing what they touch.

`mark_dead_letter` runs in a transaction of its own and reads its row without a lock. Its
write waits for the lock of the row, and does not look at the status again.
-/

namespace ReviveX

open Lib (Run Session Table)

/-! ## The database and the workers -/

/-- How far the worker that holds the lock of a row has come. -/
inductive WorkerStage
  | idle
  | started
  /-- It has read the payment of its event, or that there is none. -/
  | read (found : Option (ℕ × Payment))
  /-- It has read the next attempt number. -/
  | numbered (found : Option (ℕ × Payment)) (number : ℤ)

/-- What is committed, the workers by the rows they hold, and the rows that
`mark_dead_letter` has read and not written yet. -/
structure WebhookDatabase where
  store : Store
  stage : ℕ → WorkerStage := fun _ => .idle
  marking : List ℕ := []

def WebhookDatabase.setStage (db : WebhookDatabase) (i : ℕ) (stage : WorkerStage) :
    WebhookDatabase :=
  { db with stage := Function.update db.stage i stage }

@[simp] theorem setStage_stage (db : WebhookDatabase) (i : ℕ) (stage : WorkerStage) :
    (db.setStage i stage).stage = Function.update db.stage i stage := rfl

/-- `next_attempt_number`, of the payment that was found; a payment that is not there has no
attempts. -/
def Store.attemptNumberOf (s : Store) : Option (ℕ × Payment) → ℤ
  | some (paymentId, _) => s.nextAttemptNumber paymentId
  | none => 1

/-- Payments are unique by their key, attempts by payment and number. -/
def Store.Conflicts (s : Store) (e : DomainPaymentEvent) (found : Option (ℕ × Payment))
    (number : ℤ) : Prop :=
  match found with
  | none => s.paymentOfKey e.key ≠ none
  | some (paymentId, _) =>
    ∃ a ∈ s.paymentAttempts.rows, a.paymentId = paymentId ∧ a.attemptNumber = number

/-- The effect of a transaction on the payment it found. -/
def EventTransaction.effect (t : EventTransaction) (s : Store) (found : Option (ℕ × Payment)) :
    EventEffect where
  paymentId := found.elim s.payments.nextId (·.1)
  payment := found.elim t.inserted (t.computed ·.2)
  amount := t.amount

/-- The rows that a commit writes: the payment, its attempt, and a case when a failure finds
none open. -/
def Store.writeEvent (s : Store) (now : Time) (t : EventTransaction)
    (found : Option (ℕ × Payment)) (number : ℤ) : Store :=
  { s with
    payments :=
      match found with
      | none => s.payments.insert t.inserted
      | some (paymentId, read) => s.payments.modify paymentId (t.update read)
    paymentAttempts :=
      s.paymentAttempts.insert (t.attempt (t.effect s found).paymentId number)
    cases := t.event.casesAfter s now (t.effect s found) }

/-- The statements, with the row they are about. -/
inductive WebhookStatement
  | ingest
  | begin (i : ℕ)
  | readPayment (i : ℕ)
  | readNumber (i : ℕ)
  | commit (i : ℕ) (now : Time)
  | refuse (i : ℕ)
  | rollback (i : ℕ)
  | markRead (i : ℕ)
  | markWrite (i : ℕ)

/-- The event that a statement commits, and when. -/
def WebhookStatement.committed : WebhookStatement → Option (ℕ × Time)
  | .commit i now => some (i, now)
  | _ => none

/-- One statement of one transaction; reads see what is committed. Any exception or crash
before the commit rolls a worker back; a `DomainError` that no retry helps is committed on the
row. A worker that finds its row settled, or does not find it, writes nothing and is left
out. -/
inductive WebhookStep (env : EventText) :
    WebhookDatabase → WebhookStatement → WebhookDatabase → Prop
  | ingest {db : WebhookDatabase} (now : Time) (enqueue : Bool) (event : ProviderEvent)
      (merchantId : ℕ) :
      WebhookStep env db .ingest
        { db with store := ((ingest env now enqueue event merchantId).run db.store).2 }
  | begin {db : WebhookDatabase} {i : ℕ} {row : WebhookEvent} (hstage : db.stage i = .idle)
      (hrow : db.store.webhookEvents.get? i = some row)
      (heligible : row.status.isSettled = false) :
      WebhookStep env db (.begin i) (db.setStage i .started)
  | readPayment {db : WebhookDatabase} {i : ℕ} {row : WebhookEvent} {e : DomainPaymentEvent}
      (hstage : db.stage i = .started) (hrow : db.store.webhookEvents.get? i = some row)
      (hmerchant : (db.store.merchants.get? row.merchantId).isSome = true)
      (hread : row.read env = .ok (.payment e)) :
      WebhookStep env db (.readPayment i) (db.setStage i (.read (db.store.foundPayment e.key)))
  | readNumber {db : WebhookDatabase} {i : ℕ} {found : Option (ℕ × Payment)}
      (hstage : db.stage i = .read found) :
      WebhookStep env db (.readNumber i)
        (db.setStage i (.numbered found (db.store.attemptNumberOf found)))
  | commit {db : WebhookDatabase} {i : ℕ} {row : WebhookEvent}
      {found : Option (ℕ × Payment)} {number : ℤ} (now : Time) (t : EventTransaction)
      (audits : Table AuditEvent) (hstage : db.stage i = .numbered found number)
      (hrow : db.store.webhookEvents.get? i = some row)
      (hread : row.read env = .ok (.payment t.event))
      (hcustomer : found = none → resolveCustomer db.store t.event = .ok t.customerId)
      (hunique : ¬ db.store.Conflicts t.event found number) :
      WebhookStep env db (.commit i now)
        { db.setStage i .idle with
          store := (db.store.writeEvent now t found number).withTrail
            (db.store.webhookEvents.modify i fun _ => row.settle now) audits }
  | commitUnknown {db : WebhookDatabase} {i : ℕ} {row : WebhookEvent}
      {event : UnknownDomainEvent} (now : Time) (audits : Table AuditEvent)
      (hstage : db.stage i = .started) (hrow : db.store.webhookEvents.get? i = some row)
      (hread : row.read env = .ok (.unknown event))
      (hmerchant : (db.store.merchants.get? row.merchantId).isSome = true) :
      WebhookStep env db (.commit i now)
        { db.setStage i .idle with
          store := db.store.withTrail
            (db.store.webhookEvents.modify i fun _ => row.settle now) audits }
  | refuse {db : WebhookDatabase} {i : ℕ} {row : WebhookEvent} (e : DomainError)
      (audits : Table AuditEvent) (hstage : db.stage i ≠ .idle)
      (hrow : db.store.webhookEvents.get? i = some row) (hpermanent : e.retryable = false) :
      WebhookStep env db (.refuse i)
        { db.setStage i .idle with
          store := db.store.withTrail
            (db.store.webhookEvents.modify i fun _ => row.refuse e) audits }
  | rollback {db : WebhookDatabase} {i : ℕ} (hstage : db.stage i ≠ .idle) :
      WebhookStep env db (.rollback i) (db.setStage i .idle)
  | markRead {db : WebhookDatabase} {i : ℕ} {row : WebhookEvent}
      (hrow : db.store.webhookEvents.get? i = some row)
      (heligible : row.status.isSettled = false) :
      WebhookStep env db (.markRead i) { db with marking := i :: db.marking }
  | markWrite {db : WebhookDatabase} {i : ℕ} {row : WebhookEvent} (error : String)
      (audits : Table AuditEvent) (hmarking : i ∈ db.marking) (hunlocked : db.stage i = .idle)
      (hrow : db.store.webhookEvents.get? i = some row) :
      WebhookStep env db (.markWrite i)
        { db with
          store := db.store.withTrail
            (db.store.webhookEvents.modify i fun _ => row.giveUp error) audits
          marking := db.marking.erase i }

/-! ## What a transaction stands on -/

/-- What a worker has read is what is committed. -/
def Store.StandsOn (s : Store) (e : DomainPaymentEvent) (found : Option (ℕ × Payment))
    (number : ℤ) : Prop :=
  s.foundPayment e.key = found ∧ number = s.attemptNumberOf found

variable {s : Store} {e : DomainPaymentEvent} {t : EventTransaction}
  {found : Option (ℕ × Payment)} {number : ℤ} {now : Time}

/-- An event that is not refused is a transaction. -/
theorem transaction_of_effect {effect : EventEffect} (h : e.effect s = .ok effect) :
    ∃ t : EventTransaction, t.event = e ∧
      (s.foundPayment e.key = none → resolveCustomer s e = .ok t.customerId) := by
  have hamount := effect_amount h
  rcases effect_cases h with ⟨p, hfound, -⟩ | ⟨-, -, customerId, hcustomer, -⟩
  · refine ⟨⟨e, effect.amount, 0, hamount⟩, rfl, fun hnone => ?_⟩
    rw [hnone] at hfound
    cases hfound
  · exact ⟨⟨e, effect.amount, customerId, hamount⟩, rfl, fun _ => hcustomer⟩

/-- A transaction that stands on what is committed has the effect of its event run alone. -/
theorem StandsOn.effect (hfound : s.foundPayment t.event.key = found)
    (hcustomer : found = none → resolveCustomer s t.event = .ok t.customerId) :
    t.event.effect s = .ok (t.effect s found) := by
  unfold DomainPaymentEvent.effect
  rw [hfound]
  cases found with
  | none =>
    dsimp only
    rw [hcustomer rfl, t.stored]
    rfl
  | some f =>
    obtain ⟨i, p⟩ := f
    dsimp only
    rw [t.stored]
    rfl

/-- It writes what its event writes alone. -/
theorem writeEvent_eq_storeAfter (hlinked : AttemptsLinked s)
    (hstands : s.StandsOn t.event found number) :
    s.writeEvent now t found number =
      t.event.storeAfter s now (t.effect s found) s.auditEvents := by
  obtain ⟨hfound, hnumber⟩ := hstands
  have hpayments : (s.writeEvent now t found number).payments =
      s.payments.put (t.effect s found).paymentId (t.effect s found).payment := by
    cases found with
    | none => exact (Table.put_nextId s.payments t.inserted).symm
    | some f =>
      obtain ⟨i, p⟩ := f
      exact (Table.put_of_some (foundPayment_eq_some.mp hfound).2 (t.update_self p)).symm
  have hnext : number = s.nextAttemptNumber (t.effect s found).paymentId := by
    cases found with
    | none => exact hnumber.trans (hlinked.nextAttemptNumber le_rfl).symm
    | some f => exact hnumber
  unfold DomainPaymentEvent.storeAfter DomainPaymentEvent.addedAttempt
  rw [← hpayments, ← hnext]
  rfl

/-- Who stands on what is committed does not conflict. -/
theorem StandsOn.not_conflicts (h : s.StandsOn e found number) :
    ¬ s.Conflicts e found number := by
  obtain ⟨hfound, hnumber⟩ := h
  unfold Store.Conflicts
  cases found with
  | none => exact fun hkey => hkey (foundPayment_eq_none.mp hfound)
  | some f =>
    rintro ⟨a, hmem, hid, ha⟩
    have hlt := attemptNumber_lt_next hmem
    rw [hid, ha, hnumber] at hlt
    exact lt_irrefl _ hlt

/-- Whoever conflicts goes on to. -/
theorem Conflicts.storeAfter {effect : EventEffect} {e' : DomainPaymentEvent}
    (heffect : e.effect s = .ok effect) (audits : Table AuditEvent)
    (h : s.Conflicts e' found number) :
    (e.storeAfter s now effect audits).Conflicts e' found number := by
  unfold Store.Conflicts at h ⊢
  cases found with
  | none =>
    have hthere : (e.storeAfter s now effect audits).foundPayment e'.key ≠ none := by
      rw [foundPayment_storeAfter heffect]
      split
      · exact nofun
      · exact fun hnone => h (foundPayment_eq_none.mp hnone)
    exact fun hnone => hthere (foundPayment_eq_none.mpr hnone)
  | some f =>
    obtain ⟨a, hmem, ha⟩ := h
    exact ⟨a, List.mem_append_left _ hmem, ha⟩

/-- Whoever stood on what is committed conflicts with an event of the same payment, and stands
on what an event of another one leaves. -/
theorem StandsOn.storeAfter {effect : EventEffect} {e' : DomainPaymentEvent}
    (heffect : e.effect s = .ok effect) (audits : Table AuditEvent)
    (h : s.StandsOn e' found number ∨ s.Conflicts e' found number) :
    (e.storeAfter s now effect audits).StandsOn e' found number ∨
      (e.storeAfter s now effect audits).Conflicts e' found number := by
  rcases h with ⟨hfound, hnumber⟩ | h
  · have hafter := foundPayment_storeAfter heffect now audits e'.key
    by_cases hkey : e.key = e'.key
    · rw [if_pos hkey] at hafter
      refine .inr ?_
      unfold Store.Conflicts
      cases found with
      | none =>
        intro hnone
        rw [foundPayment_eq_none.mpr hnone] at hafter
        cases hafter
      | some f =>
        obtain ⟨i, p⟩ := f
        -- both are the next attempt of the payment
        have hid : effect.paymentId = i := by
          rcases effect_cases heffect with ⟨q, hq, -⟩ | ⟨hnone, -⟩
          · rw [hkey, hfound] at hq
            exact (Prod.mk.inj (Option.some.inj hq)).1.symm
          · rw [hkey, hfound] at hnone
            cases hnone
        subst hid
        exact ⟨e.addedAttempt s effect, List.mem_append_right _ (List.mem_singleton_self _), rfl,
          hnumber.symm⟩
    · rw [if_neg hkey, hfound] at hafter
      refine .inl ⟨hafter, ?_⟩
      cases found with
      | none => exact hnumber
      | some f =>
        obtain ⟨i, p⟩ := f
        have hne : (e.addedAttempt s effect).paymentId ≠ i :=
          (effect_paymentId_ne heffect hkey hfound).symm
        exact hnumber.trans (nextAttemptNumber_insert rfl hne).symm
  · exact .inr (Conflicts.storeAfter heffect audits h)

end ReviveX
