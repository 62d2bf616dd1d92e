import ReviveX.Domain.AttemptTheorems
import ReviveX.Domain.DispatchTheorems
import ReviveX.Domain.OrderTheorems

/-!
# From a capture to a recovered case

What the whole pipeline is for: the provider reports that the payment of an open case was
captured, the worker processes the report, and the verification job that it queues credits the
case. The report alone decides most of it: the payment of the case is its own, so it cannot
mismatch in merchant or order, and it has just been captured.
-/

namespace ReviveX

open Lib (Session Table)

variable {env : EventText} {cfg : Config} {caller : Caller} {now : Time} {s s' : Store}
  {e : DomainPaymentEvent} {effect : EventEffect} {caseId webhookEventId : ℕ} {c : RecoveryCase}
  {p : Payment} {paymentId : ℕ} {settings : RecoverySettings}

/-! ## The report of a capture -/

/-- What a capture makes of its payment. -/
structure EventEffect.Captures (effect : EventEffect) (e : DomainPaymentEvent) : Prop where
  merchantId : effect.payment.merchantId = e.merchantId
  status : effect.payment.status = .captured
  capturedAt : effect.payment.capturedAt = some e.occurredAt
  amount : effect.payment.amount = effect.amount

theorem captures_of_effect (hcaptured : e.eventType = .paymentCaptured)
    (h : e.effect s = .ok effect) : effect.Captures e := by
  have hstatus : e.status = .captured := by
    unfold DomainPaymentEvent.status
    rw [hcaptured]
    rfl
  unfold DomainPaymentEvent.effect at h
  rw [hstatus] at h
  split at h
  · rename_i i p hfound
    obtain ⟨amount, -, heq⟩ := Lib.bind_eq_ok.mp h
    obtain rfl := Except.ok.inj heq
    obtain ⟨q, hq, -, hkey⟩ := paymentRow_of_paymentOfKey (foundPayment_eq_some.mp hfound).1
    obtain rfl := Option.some.inj (hq.symm.trans (foundPayment_eq_some.mp hfound).2)
    have hmerchant : q.merchantId = e.merchantId := by
      simp only [Payment.hasKey, Bool.and_eq_true, decide_eq_true_eq] at hkey
      exact hkey.1.1
    exact ⟨hmerchant, rfl, rfl, rfl⟩
  · obtain ⟨customerId, -, h⟩ := Lib.bind_eq_ok.mp h
    obtain ⟨amount, -, heq⟩ := Lib.bind_eq_ok.mp h
    obtain rfl := Except.ok.inj heq
    exact ⟨rfl, rfl, rfl, rfl⟩

/-- A capture writes its payment and leaves the cases alone. -/
structure CaptureProcessed (s : Store) (effect : EventEffect) (s' : Store) : Prop where
  cases : s'.cases = s.cases
  payment : s'.payments.get? effect.paymentId = some effect.payment

/-- The worker processes a capture: the verification of every open case of the payment is
queued. -/
theorem run_processWebhookEvent_captured {row : WebhookEvent}
    (hrow : s.webhookEvents.get? webhookEventId = some row)
    (hpending : row.status.isSettled = false)
    (hmerchant : (s.merchants.get? row.merchantId).isSome = true)
    (hread : row.read env = .ok (.payment e)) (hcaptured : e.eventType = .paymentCaptured)
    (heffect : e.effect s = .ok effect) :
    ∃ s', (processWebhookEvent env now webhookEventId).run s =
        (.ok
          { status := .processed
            webhookEventId
            followups := (s.candidateCases effect.payment effect.paymentId).map fun caseId =>
              .verifyRecoveryCase caseId effect.paymentId webhookEventId }, s') ∧
      CaptureProcessed s effect s' := by
  have hverdict : row.verdict env s = .ok (.payment e) := by
    unfold WebhookEvent.verdict
    rw [if_neg (by simpa using Option.isSome_iff_ne_none.mp hmerchant), hread]
    change (e.effect s >>= fun _ => pure (NormalizedEvent.payment e)) = _
    rw [heffect]
    rfl
  have houtcome := webhookOutcome env now webhookEventId s
  rcases hrun : (processWebhookEvent env now webhookEventId).run s with ⟨x, s'⟩
  rw [hrun] at houtcome
  refine ⟨s', ?_⟩
  -- the row is pending and its event dispatches, which leaves one outcome
  cases houtcome with
  | missing hnone f => exact absurd (hrow.symm.trans hnone) (by simp)
  | settled status hsome hsettled =>
    obtain rfl := Option.some.inj (hrow.symm.trans hsome)
    exact absurd (hpending.symm.trans hsettled) (by simp)
  | raised f s' hsome heligible hraised hpermanent =>
    obtain rfl := Option.some.inj (hrow.symm.trans hsome)
    exact absurd (hverdict.symm.trans hraised) (by simp)
  | deadLettered f audits hsome heligible hraised hpermanent =>
    obtain rfl := Option.some.inj (hrow.symm.trans hsome)
    exact absurd (hverdict.symm.trans hraised) (by simp)
  | @processed row' event followups s₁ audits hsome heligible hthere hevent hdispatch =>
    obtain rfl := Option.some.inj (hrow.symm.trans hsome)
    obtain rfl := Except.ok.inj (hread.symm.trans hevent)
    obtain ⟨trail, hdispatched⟩ := run_dispatch now webhookEventId row.merchantId e s
    rw [hdispatch, heffect] at hdispatched
    obtain ⟨hfollowups, rfl⟩ := Prod.mk.inj hdispatched
    obtain rfl := Except.ok.inj hfollowups
    refine ⟨?_, ?_, ?_⟩
    · unfold DomainPaymentEvent.followups
      rw [hcaptured]
    · change e.casesAfter s now effect = s.cases
      unfold DomainPaymentEvent.casesAfter DomainPaymentEvent.opensCase
      rw [hcaptured]
      rfl
    · change (s.payments.put effect.paymentId effect.payment).get? effect.paymentId = _
      rw [Table.get?_put (effect_paymentId_le heffect), if_pos rfl]

/-! ## The verification of a case by its own payment -/

/-- What a captured payment of the case itself still has to meet. -/
theorem evaluateMismatch_own {capturedAt : Time} (hrow : s.payments.get? paymentId = some p)
    (hown : c.paymentId = some paymentId) (hmerchant : p.merchantId = c.merchantId)
    (hstatus : p.status = .captured) (hcapturedAt : p.capturedAt = some capturedAt) :
    evaluateMismatch settings s caseId c paymentId p = none ↔
      p.customerId = c.customerId ∧ p.currency = c.currency ∧
        insideWindow settings c capturedAt = true ∧ 0 < p.amount := by
  have horders : (bothOrders s c p).any (fun o => o.1 != o.2) = false := by
    have hcase : s.casePayment c = some p := by
      unfold Store.casePayment Store.getPayment
      rw [hown, Option.bind_some, hrow]
      simp [hmerchant]
    unfold bothOrders
    rw [hcase]
    cases horder : givenText p.providerOrderId <;> simp [horder]
  constructor
  · intro hpasses
    have hguards := PassesGuards.of_evaluate hpasses
    obtain ⟨at', hat, hwindow⟩ := hguards.insideWindow
    obtain rfl := Option.some.inj (hcapturedAt.symm.trans hat)
    exact ⟨hguards.customerId, hguards.currency, hwindow, hguards.positive⟩
  · rintro ⟨hcustomer, hcurrency, hwindow, hpositive⟩
    unfold evaluateMismatch
    rw [if_neg (not_not.mpr hmerchant), if_neg (not_not.mpr hcustomer), horders,
      if_neg Bool.false_ne_true, if_neg fun hother => hother.2.1 hown,
      if_neg (not_not.mpr hcurrency), if_neg (not_not.mpr hstatus), hcapturedAt]
    dsimp only
    rw [hwindow, if_neg (by decide), if_neg hpositive.ne']

/-- What the case and the store still have to meet for a capture to recover the case. -/
structure RecoveredBy (cfg : Config) (caller : Caller) (s : Store) (e : DomainPaymentEvent)
    (effect : EventEffect) (webhookEventId caseId : ℕ) (c : RecoveryCase) : Prop where
  customer : effect.payment.customerId = c.customerId
  currency : effect.payment.currency = c.currency
  inWindow : insideWindow cfg.settings c e.occurredAt = true
  positive : 0 < effect.amount
  covers : c.amountAtRisk ≤ effect.amount
  uncounted : c.verifiedPaymentId ≠ some effect.paymentId
  unseen : c.verifiedWebhookEventId ≠ some webhookEventId
  countedAlone : ∀ i ∈ s.listThatCountedPayment c.merchantId effect.paymentId, i = caseId
  returns : processingRaises cfg s caseId c caller.now = none
  reaches : reachesVerifying cfg s caseId c caller.now = true

/-- The case is credited in full with the payment. -/
structure RecoveryCase.RecoveredWith (c c' : RecoveryCase) (paymentId : ℕ) : Prop where
  status : c'.status = .recovered
  amountRecovered : c'.amountRecovered = c.amountAtRisk
  verifiedPaymentId : c'.verifiedPaymentId = some paymentId

/-- The verification that a capture queued recovers its case under exactly these conditions. -/
theorem verifyJob_captured_iff (cfg : Config) (caller : Caller)
    (hcase : s.cases.get? caseId = some c) (hown : c.paymentId = some effect.paymentId)
    (hmerchant : c.merchantId = e.merchantId) (hopen : c.status ≠ .recovered ∧ c.status ≠ .stopped)
    (hcaptures : effect.Captures e)
    (hpayment : s.payments.get? effect.paymentId = some effect.payment) :
    (∃ c', ((verifyJob cfg caller
        { caseId, paymentId := some effect.paymentId, webhookEventId := some webhookEventId }).run
          s).2.cases.get? caseId = some c' ∧ c.RecoveredWith c' effect.paymentId) ↔
      RecoveredBy cfg caller s e effect webhookEventId caseId c := by
  let args : VerifyArgs :=
    { caseId, paymentId := some effect.paymentId, webhookEventId := some webhookEventId }
  obtain ⟨c', hafter, hcredit⟩ := @verifyTransaction_row args s cfg (fun _ => false) caller c hcase
  -- the payment of the event is the one of the case, so source and status agree
  have hmismatch : evaluateMismatch cfg.settings s caseId c effect.paymentId effect.payment = none ↔
      effect.payment.customerId = c.customerId ∧ effect.payment.currency = c.currency ∧
        insideWindow cfg.settings c e.occurredAt = true ∧ 0 < effect.payment.amount :=
    evaluateMismatch_own hpayment hown (hcaptures.merchantId.trans hmerchant.symm)
      hcaptures.status hcaptures.capturedAt
  have hresolved : resolvePayment s c args.paymentId = some (effect.paymentId, effect.payment) := by
    change (s.payments.get? effect.paymentId).map (effect.paymentId, ·) = _
    rw [hpayment]
    rfl
  have hamount := hcaptures.amount
  constructor
  · rintro ⟨c₂, hsame, hrecovered⟩
    obtain rfl := Option.some.inj (hafter.symm.trans hsame)
    -- a case is recovered only by the payment that this call credits
    cases hcredited : creditedPayment cfg caller s args s.listThatCountedPayment c with
    | none => exact absurd ((hcredit.uncredited hcredited).2.2.mp hrecovered.status) hopen.1
    | some resolved =>
      obtain ⟨paymentId, p⟩ := resolved
      obtain ⟨-, hconsiders, hpasses, hreturns, hreaches⟩ := creditedPayment_eq_some.mp hcredited
      obtain ⟨rfl, rfl⟩ := Prod.mk.inj (Option.some.inj (hresolved.symm.trans hconsiders.resolved))
      obtain ⟨-, -, hstatus⟩ := hcredit.credited hcredited
      have hcovers := hstatus.mp hrecovered.status
      obtain ⟨hcustomer, hcurrency, hwindow, hpositive⟩ := hmismatch.mp hpasses
      obtain ⟨hunseen, huncounted, halone⟩ := passesGuard_iff.mp hconsiders.passesGuard
      rw [hamount] at hcovers hpositive
      refine ⟨hcustomer, hcurrency, hwindow, hpositive, hcovers, huncounted, ?_, halone, hreturns,
        ?_⟩
      · exact fun hseen => hunseen ⟨rfl, hseen⟩
      · rw [← hamount] at hcovers
        exact hreaches.resolve_left (Nat.not_lt.mpr hcovers)
  · intro h
    have hconsiders : Considers s args s.listThatCountedPayment c effect.paymentId
        effect.payment :=
      ⟨hopen.2, hresolved, passesGuard_iff.mpr
        ⟨fun hseen => h.unseen hseen.2, h.uncounted, h.countedAlone⟩⟩
    have hpasses := hmismatch.mpr
      ⟨h.customer, h.currency, h.inWindow, by rw [hamount]; exact h.positive⟩
    have hcredited := creditedPayment_eq_some.mpr
      ⟨hopen.1, hconsiders, hpasses, h.returns, .inr h.reaches⟩
    obtain ⟨hrecovered, hverified, hstatus⟩ := hcredit.credited hcredited
    rw [hamount] at hrecovered hstatus
    exact ⟨c', hafter, hstatus.mpr h.covers,
      hrecovered.trans (Nat.min_eq_right h.covers), hverified⟩

/-! ## From the report to the case -/

/-- An open case of the captured payment is a candidate. -/
theorem mem_candidateCases (hcaptures : effect.Captures e) (hcase : s.cases.get? caseId = some c)
    (hown : c.paymentId = some effect.paymentId) (hmerchant : c.merchantId = e.merchantId)
    (hclosed : c.closedAt = none) :
    caseId ∈ s.candidateCases effect.payment effect.paymentId := by
  unfold Store.candidateCases
  refine List.mem_append_left _ (Table.mem_idsWhere.mpr ⟨c, hcase, ?_⟩)
  simp [hown, hclosed, hmerchant, hcaptures.merchantId]

/-- A failed payment of ₹100. -/
def failedPayment : Payment where
  merchantId := 0
  customerId := 0
  provider := "SIMULATOR"
  providerPaymentId := some "pay_1"
  amount := 10000
  status := .failed
  failureCode := some "PAYMENT_TIMEOUT"

/-- The payment with its open case, and the report that it was captured. -/
def reportedCaptureStore : Store where
  merchants := ⟨[{}]⟩
  customers := ⟨[{ merchantId := 0 }]⟩
  payments := ⟨[failedPayment]⟩
  cases := ⟨[sampleCase 0 10000 .detected]⟩
  webhookEvents := ⟨[paymentReport "evt_1" "payment.captured"]⟩

end ReviveX
