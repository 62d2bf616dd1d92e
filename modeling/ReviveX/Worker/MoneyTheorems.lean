import ReviveX.Worker.WebhookRuns

/-!
# The money of a payment

A payment has three money columns: `amount`, `currency` and `provider_amount_minor`. The event
that is the first to name a payment writes all of them; a capture that finds the payment writes
its own `amount` next to the `currency` and the minor units that are there. The columns agree in
every run in which captures repeat the amount of their payment, and in which no amount loses
paise to `int(amount * 100)` that the column keeps.
-/

namespace ReviveX

open Lib (Guarded Run Session Table)

/-! ## Transactions -/

/-- A call of the ingestion API or of a worker. -/
inductive EventCall
  | ingest (now : Time) (enqueue : Bool) (event : ProviderEvent) (merchantId : ℕ)
  | process (now : Time) (webhookEventId : ℕ)
  | markDeadLetter (now : Time) (webhookEventId : ℕ) (error : String)

/-- The store after the transaction of a call; one that raises is rolled back. -/
def EventCall.after (env : EventText) (s : Store) : EventCall → Store
  | .ingest now enqueue event merchantId =>
    (((ReviveX.ingest env now enqueue event merchantId).transact fun _ => false).run s).2
  | .process now webhookEventId =>
    (((processWebhookEvent env now webhookEventId).transact fun _ => false).run s).2
  | .markDeadLetter now webhookEventId error =>
    (((ReviveX.markDeadLetter now webhookEventId error).transact fun _ => false).run s).2

/-- A call, or one whose commit fails. -/
def EventCallStep (env : EventText) (s : Store) (call : EventCall) (s' : Store) : Prop :=
  s' = call.after env s ∨ s' = s

/-! ## Agreement -/

/-- The amount and the currency are those of one event that was processed, and the minor units
are those of the amount. -/
structure MoneyIntact (env : EventText) (s : Store) (p : Payment) : Prop where
  accepted : ∃ i row e, s.webhookEvents.get? i = some row ∧ row.status = .processed ∧
    row.read env = .ok (.payment e) ∧ p.hasKey e.key = true ∧
      storeAmount e.amount = .ok p.amount ∧ p.currency = e.currency
  minor : p.providerAmountMinor = some (p.amount : ℤ)

/-- Every payment that was not there at the start. -/
def MoneyIntactSince (env : EventText) (start s : Store) : Prop :=
  ∀ i p, start.payments.nextId ≤ i → s.payments.get? i = some p → MoneyIntact env s p

/-- An event creates a payment whose amount has no fraction of a paisa to lose, or finds one
and, if it captures a payment that was not there at the start, repeats its amount. -/
def DomainPaymentEvent.KeepsMoney (e : DomainPaymentEvent) (start s : Store) : Prop :=
  match s.foundPayment e.key with
  | none => ∀ customerId amount, resolveCustomer s e = .ok customerId →
      storeAmount e.amount = .ok amount → minorUnits e.amount = amount
  | some (i, p) => start.payments.nextId ≤ i → e.status = .captured →
      ∀ amount, storeAmount e.amount = .ok amount → amount = p.amount

/-- The event of a row that is about to be processed, of a merchant that is there. -/
def KeepsMoney (env : EventText) (start s : Store) : EventCall → Prop
  | .process _ i => ∀ row e, s.webhookEvents.get? i = some row → row.status.isSettled = false →
      (s.merchants.get? row.merchantId).isSome = true → row.read env = .ok (.payment e) →
        e.KeepsMoney start s
  | _ => True

variable {env : EventText} {start s s' : Store} {p : Payment} {e : DomainPaymentEvent}
  {effect : EventEffect}

/-! ## Steps -/

/-- Rows that are processed are not touched again. -/
def AcceptedKept (s s' : Store) : Prop :=
  ∀ i row, s.webhookEvents.get? i = some row → row.status = .processed →
    s'.webhookEvents.get? i = some row

theorem AcceptedKept.withTrail {i : ℕ} {row : WebhookEvent} {f : WebhookEvent → WebhookEvent}
    (hrow : s.webhookEvents.get? i = some row) (hopen : row.status.isSettled = false)
    (written : Store) (audits : Table AuditEvent) :
    AcceptedKept s (written.withTrail (s.webhookEvents.modify i f) audits) := by
  intro j old hold hprocessed
  have hne : i ≠ j := by
    intro hij
    subst hij
    obtain rfl := Option.some.inj (hrow.symm.trans hold)
    exact (isSettled_eq_false.mp hopen).1 hprocessed
  exact (Table.get?_modify_ne _ hne _).trans hold

/-- What a payment is made of stays in the webhook rows. -/
theorem MoneyIntact.kept (h : MoneyIntact env s p) (hkept : AcceptedKept s s') :
    MoneyIntact env s' p := by
  obtain ⟨i, row, e, hrow, hprocessed, hread⟩ := h.accepted
  exact ⟨⟨i, row, e, hkept i row hrow hprocessed, hprocessed, hread⟩, h.minor⟩

/-- A step that writes no payment. -/
theorem MoneyIntactSince.kept (h : MoneyIntactSince env start s) (hkept : AcceptedKept s s')
    (hpayments : s'.payments = s.payments) : MoneyIntactSince env start s' := by
  intro i p hi hp
  rw [hpayments] at hp
  exact (h i p hi hp).kept hkept

/-- The payment that an accepted event has written. -/
theorem moneyIntact_effect (hintact : MoneyIntactSince env start s)
    (heffect : e.effect s = .ok effect)
    (hkeeps : e.KeepsMoney start s) (hsince : start.payments.nextId ≤ effect.paymentId)
    (hkept : AcceptedKept s s') {i : ℕ} {row : WebhookEvent}
    (hrow : s'.webhookEvents.get? i = some row) (hprocessed : row.status = .processed)
    (hread : row.read env = .ok (.payment e)) : MoneyIntact env s' effect.payment := by
  have hamount := effect_amount heffect
  have hkey := effect_hasKey heffect
  unfold DomainPaymentEvent.KeepsMoney at hkeeps
  rcases effect_cases heffect with ⟨p, hfound, heq⟩ | ⟨hnone, -, customerId, hcustomer, heq⟩
  · rw [hfound] at hkeeps
    have hbefore := hintact effect.paymentId p hsince (foundPayment_eq_some.mp hfound).2
    -- a capture rewrites the amount with the one that is there
    have hsame : effect.payment.amount = p.amount := by
      rw [heq]
      show (if e.status = .captured then effect.amount else p.amount) = p.amount
      split
      · rename_i hcaptured
        exact hkeeps hsince hcaptured effect.amount hamount
      · rfl
    have hrest : effect.payment.currency = p.currency ∧
        effect.payment.providerAmountMinor = p.providerAmountMinor := by
      rw [heq]
      exact ⟨rfl, rfl⟩
    obtain ⟨⟨j, source, first, hsource, hdone, hfirst, hfirstKey, hstored, hcurrency⟩, hminor⟩ :=
      hbefore
    have hown : p.hasKey e.key = true := by
      rw [heq, hasKey_receive] at hkey
      exact hkey
    have hfirstOwn : effect.payment.hasKey first.key = true := by
      rw [hasKey_unique hfirstKey hown]
      exact hkey
    refine ⟨⟨j, source, first, hkept j source hsource hdone, hdone, hfirst, hfirstOwn, ?_, ?_⟩, ?_⟩
    · rw [hsame]
      exact hstored
    · rw [hrest.1]
      exact hcurrency
    · rw [hrest.2, hsame]
      exact hminor
  · rw [hnone] at hkeeps
    have hminor := hkeeps customerId effect.amount hcustomer hamount
    refine ⟨⟨i, row, e, hrow, hprocessed, hread, hkey, ?_, ?_⟩, ?_⟩
    · rw [heq]
      exact hamount
    · rw [heq]
      rfl
    · rw [heq]
      exact congrArg some hminor

/-- A row that is processed, and the payment of its event. -/
theorem MoneyIntactSince.process (hintact : MoneyIntactSince env start s)
    (hgrows : start.payments.nextId ≤ s.payments.nextId) {now : Time} {i : ℕ}
    (hkeeps : KeepsMoney env start s (.process now i)) {r : ProcessingResult}
    (hrun : (processWebhookEvent env now i).run s = (.ok r, s')) :
    MoneyIntactSince env start s' ∧ start.payments.nextId ≤ s'.payments.nextId := by
  have hout := webhookOutcome env now i s
  rw [hrun] at hout
  cases hout with
  | settled status hrow hsettled => exact ⟨hintact, hgrows⟩
  | deadLettered refusal audits hrow heligible hverdict hpermanent =>
    exact ⟨hintact.kept (.withTrail hrow heligible s audits) rfl, hgrows⟩
  | processed audits hrow heligible hmerchant hread hdispatch =>
    rename_i row event followups written
    have hkept : AcceptedKept s
        (written.withTrail (s.webhookEvents.modify i fun _ => row.settle now) audits) :=
      .withTrail hrow heligible written audits
    cases event with
    | unknown event =>
      obtain ⟨-, rfl⟩ := Prod.mk.inj hdispatch
      exact ⟨hintact.kept hkept rfl, hgrows⟩
    | payment e =>
      obtain ⟨trail, hwritten⟩ := run_dispatch now i row.merchantId e s
      rw [hdispatch] at hwritten
      cases heffect : e.effect s with
      | error f =>
        rw [heffect] at hwritten
        cases (Prod.mk.inj hwritten).1
      | ok effect =>
        rw [heffect] at hwritten
        obtain ⟨-, rfl⟩ := Prod.mk.inj hwritten
        have hsettled : (s.webhookEvents.modify i fun _ => row.settle now).get? i =
            some (row.settle now) := by
          rw [Table.get?_modify_self, hrow]
          rfl
        -- settling a row changes nothing of what is read from it
        have hreadAgain : (row.settle now).read env = .ok (.payment e) := by
          rw [← hread]
          have hsame : row.SameDelivery (row.settle now) := ⟨rfl, rfl, rfl, rfl, rfl, rfl⟩
          exact hsame.read env
        have hpayments := Table.get?_put (effect_paymentId_le heffect) effect.payment
        refine ⟨fun j p hj hp => ?_, hgrows.trans (Table.nextId_put_le _ _ _)⟩
        have hp : (s.payments.put effect.paymentId effect.payment).get? j = some p := hp
        rw [hpayments] at hp
        split at hp
        · rename_i hji
          obtain rfl := Option.some.inj hp
          rw [hji] at hj
          exact moneyIntact_effect hintact heffect
            (hkeeps row e hrow heligible hmerchant hread) hj hkept hsettled rfl hreadAgain
        · exact (hintact j p hj hp).kept hkept

/-- `mark_dead_letter` writes no payment, and no row that is processed. -/
theorem run_markDeadLetter_kept (now : Time) (i : ℕ) (error : String) (s : Store) :
    ((markDeadLetter now i error).run s).2.payments = s.payments ∧
      AcceptedKept s ((markDeadLetter now i error).run s).2 := by
  unfold markDeadLetter
  rw [Session.run_get_bind]
  cases hrow : s.webhookEvents.get? i with
  | none => exact ⟨rfl, fun _ _ h _ => h⟩
  | some row =>
    dsimp only
    rw [Session.run_ite]
    split
    · exact ⟨rfl, fun _ _ h _ => h⟩
    · rename_i hopen
      exact ⟨rfl, .withTrail hrow (isSettled_eq_false.mpr (not_or.mp hopen)) s _⟩

/-- A call that keeps the condition. -/
theorem MoneyIntactSince.step (hintact : MoneyIntactSince env start s)
    (hgrows : start.payments.nextId ≤ s.payments.nextId) {call : EventCall}
    (hkeeps : KeepsMoney env start s call) (hstep : EventCallStep env s call s') :
    MoneyIntactSince env start s' ∧ start.payments.nextId ≤ s'.payments.nextId := by
  rcases hstep with rfl | rfl
  · cases call with
    | ingest now enqueue event merchantId =>
      have hout := ingest_outcome env now enqueue event merchantId s
      rcases Session.transact_state (fun _ => false) (ingest env now enqueue event merchantId) s
        with hstate | ⟨-, hstate⟩
      · obtain ⟨hsame, hrows, -⟩ := hout.kept
        dsimp only [EventCall.after]
        rw [hstate, hsame.payments]
        exact ⟨hintact.kept (fun j row hrow _ => hrows j row hrow) hsame.payments, hgrows⟩
      · dsimp only [EventCall.after]
        rw [hstate]
        exact ⟨hintact, hgrows⟩
    | process now i =>
      dsimp only [EventCall.after]
      rcases hresult : (processWebhookEvent env now i).run s with ⟨f | r, written⟩
      · rw [Session.run_transact_error hresult]
        exact ⟨hintact, hgrows⟩
      · rw [Session.run_transact_ok hresult]
        exact hintact.process hgrows hkeeps hresult
    | markDeadLetter now i error =>
      obtain ⟨hpayments, hkept⟩ := run_markDeadLetter_kept now i error s
      rcases Session.transact_state (fun _ => false) (markDeadLetter now i error) s
        with hstate | ⟨-, hstate⟩
      · dsimp only [EventCall.after]
        rw [hstate, hpayments]
        exact ⟨hintact.kept hkept hpayments, hgrows⟩
      · dsimp only [EventCall.after]
        rw [hstate]
        exact ⟨hintact, hgrows⟩
  · exact ⟨hintact, hgrows⟩

/-! ## Runs -/

/-- In every state of every run, the payments created since the start have their money from
one event. -/
def MoneyIntactRuns (step : Store → EventCall → Store → Prop) (env : EventText)
    (start : Store) : Prop :=
  ∀ calls s, Run step start calls s → MoneyIntactSince env start s

theorem paymentMoney_intact (env : EventText) (start : Store) :
    MoneyIntactRuns (Guarded (EventCallStep env) (KeepsMoney env start)) env start := by
  intro calls s hrun
  have hstart : MoneyIntactSince env start start := by
    intro i p hi hp
    have hlt := Table.lt_nextId hp
    omega
  -- the payments of the start stay, so those since the start keep their positions
  have hkeep : MoneyIntactSince env start s ∧ start.payments.nextId ≤ s.payments.nextId := by
    refine hrun.invariant (P := fun s => MoneyIntactSince env start s ∧
      start.payments.nextId ≤ s.payments.nextId) ?_ ⟨hstart, le_rfl⟩
    intro s call s' hbefore hstep
    exact hbefore.1.step hbefore.2 hstep.1 hstep.2
  exact hkeep.1

/-! ### A capture of another amount -/

/-- The amounts are "100" and "50". -/
def twoAmountsText : EventText :=
  { sampleEventText with
    py :=
      { sampleEventText.py with
        decimal := fun text =>
          if text = "50" then some (.finite 50) else sampleEventText.py.decimal text } }

/-- The provider reports a capture of 50 dollars. -/
def dollarReport : WebhookEvent :=
  { paymentReport "evt_2" "payment.captured" with
    payload := [("provider_payment_id", .str "pay_1"), ("amount", .str "50"),
      ("currency", .str "USD"), ("customer_id", .str "0")] }

/-- A payment of ₹100 failed, and a capture of it in dollars is reported. -/
def repaidStore : Store where
  merchants := ⟨[{}]⟩
  customers := ⟨[{ merchantId := 0 }]⟩
  webhookEvents := ⟨[paymentReport "evt_1" "payment.failed", dollarReport]⟩

/-- Both events have been processed. -/
def afterDollars : Store :=
  (EventCall.process 0 1).after twoAmountsText
    ((EventCall.process 0 0).after twoAmountsText repaidStore)

/-- The payment is left with ₹50, of which 10000 paise are recorded. -/
theorem paymentMoney_mixed :
    ¬ MoneyIntactRuns (EventCallStep twoAmountsText) twoAmountsText repaidStore := by
  intro hruns
  have hfailed : EventCallStep twoAmountsText repaidStore (.process 0 0) _ := .inl rfl
  have hcaptured : EventCallStep twoAmountsText _ (.process 0 1) afterDollars := .inl rfl
  have hintact := hruns _ _ ((Run.single hfailed).snoc hcaptured)
  have hmoney : (afterDollars.payments.get? 0).map
      (fun p => (p.amount, p.currency, p.providerAmountMinor)) =
        some (5000, "INR", some 10000) := by decide +kernel
  obtain ⟨p, hp, heq⟩ := Option.map_eq_some_iff.mp hmoney
  obtain ⟨hamount, hrest⟩ := Prod.mk.inj heq
  have hminor := (hintact 0 p (Nat.le_refl 0) hp).minor
  rw [hamount, (Prod.mk.inj hrest).2] at hminor
  exact absurd hminor (by decide)

end ReviveX
