import ReviveX.Domain.EffectTheorems
import ReviveX.Domain.IngestionTheorems
import ReviveX.Domain.OrderTheorems
import ReviveX.Lib.Unwinding

/-!
# Merchants that share the event table

A history is a sequence of deliveries and of the processing of delivered events, each of one
merchant. What another merchant can see of it are the answers to its own deliveries, its
webhook rows, and its payments with their attempts and cases; identifiers of rows are left out
of all of them, for they are generated.

Deliveries are unique by provider and event identifier over all merchants, so a merchant that
delivers a key first takes it from the others. Without a shared key, the history of one
merchant does nothing to the others.
-/

namespace ReviveX

open Lib (Session Table Unwinding)

/-! ## Histories -/

/-- What a delivery is stored under. -/
structure EventKey where
  provider : String
  eventId : String
deriving DecidableEq

/-- The key of an event; an event without a provider is stored as the simulator's. -/
def ProviderEvent.storedKey (event : ProviderEvent) : EventKey :=
  ⟨if event.provider = "" then "SIMULATOR" else event.provider, event.eventId⟩

/-- One call of a history. -/
inductive HistoryCall
  | ingest (now : Time) (enqueue : Bool) (event : ProviderEvent) (merchantId : ℕ)
  /-- The job of an event that was delivered. -/
  | process (now : Time) (event : ProviderEvent) (merchantId : ℕ)

namespace HistoryCall

/-- The merchant that the call is for. -/
def merchantId : HistoryCall → ℕ
  | .ingest _ _ _ merchantId | .process _ _ merchantId => merchantId

def key : HistoryCall → EventKey
  | .ingest _ _ event _ | .process _ event _ => event.storedKey

end HistoryCall

/-- The answer to a delivery, but for the identifier of its row. -/
def IngestResult.answer (r : IngestResult) : IngestResult := { r with webhookEventId := 0 }

/-- The identifier of the row of a key. -/
def Store.webhookOfKey (s : Store) (key : EventKey) : Option ℕ :=
  s.webhookOfProvider key.provider key.eventId

/-- The row of a key. -/
def Store.webhookRow (s : Store) (key : EventKey) : Option WebhookEvent :=
  (s.webhookOfKey key).bind s.webhookEvents.get?

/-- One call: a delivery is answered, and a job that raises is rolled back. -/
def Store.call (env : EventText) (s : Store) :
    HistoryCall → Option (Except Failure IngestResult) × Store
  | .ingest now enqueue event merchantId =>
    let (result, s') := (ingest env now enqueue event merchantId).run s
    (some (result.map IngestResult.answer), s')
  | .process now event _ =>
    match s.webhookOfKey event.storedKey with
    | none => (none, s)
    | some i => (none, (((processWebhookEvent env now i).transact fun _ => false).run s).2)

/-! ## What others see -/

/-- An attempt without the identifier of its payment. -/
def PaymentAttempt.unlinked (a : PaymentAttempt) : PaymentAttempt := { a with paymentId := 0 }

/-- A case without the identifier of its payment. -/
def RecoveryCase.unlinked (c : RecoveryCase) : RecoveryCase :=
  { c with paymentId := some 0, has_subject := .inl rfl }

/-- A payment with its attempts and its cases. -/
structure PaymentFacts where
  row : Option Payment := none
  attempts : List PaymentAttempt := []
  cases : List RecoveryCase := []

/-- What is stored of the payment of a key. -/
def Store.paymentFacts (s : Store) (key : ProviderKey) : PaymentFacts :=
  match s.foundPayment key with
  | none => {}
  | some (i, p) =>
    { row := some p
      attempts := (s.paymentAttempts.rows.filter (·.paymentId = i)).map (·.unlinked)
      cases := (s.cases.rows.filter (·.paymentId = some i)).map (·.unlinked) }

/-- Every case of a payment is of one that is there. -/
def CasesLinked (s : Store) : Prop :=
  ∀ c ∈ s.cases.rows, ∀ i, c.paymentId = some i → i < s.payments.nextId

/-- What an event makes of its payment. -/
def PaymentFacts.receive (facts : PaymentFacts) (now : Time) (e : DomainPaymentEvent) (p : Payment)
    (amount : Money) : PaymentFacts where
  row := some p
  attempts := facts.attempts ++
    [e.attempt 0 ((facts.attempts.map (·.attemptNumber)).max?.getD 0 + 1) e.status amount]
  cases :=
    if e.eventType = .paymentFailed &&
        (facts.cases.filter fun c => c.merchantId = e.merchantId && c.closedAt.isNone).isEmpty then
      facts.cases ++ [p.openedCase e.merchantId 0 now]
    else facts.cases

variable {env : EventText} {s t s' : Store} {e : DomainPaymentEvent} {effect : EventEffect}

theorem facts_of_found {key : ProviderKey} {i : ℕ} {p : Payment}
    (h : s.foundPayment key = some (i, p)) :
    s.paymentFacts key =
      { row := some p
        attempts := (s.paymentAttempts.rows.filter (·.paymentId = i)).map (·.unlinked)
        cases := (s.cases.rows.filter (·.paymentId = some i)).map (·.unlinked) } := by
  unfold Store.paymentFacts
  rw [h]

theorem facts_of_none {key : ProviderKey} (h : s.foundPayment key = none) :
    s.paymentFacts key = {} := by
  unfold Store.paymentFacts
  rw [h]

/-- The facts of the payment that an effect writes, with the rows that refer to it. -/
theorem facts_of_effect (h : e.effect s = .ok effect) (hattempts : AttemptsLinked s)
    (hcases : CasesLinked s) :
    (s.paymentFacts e.key).attempts =
        (s.paymentAttempts.rows.filter (·.paymentId = effect.paymentId)).map (·.unlinked) ∧
      (s.paymentFacts e.key).cases =
        (s.cases.rows.filter (·.paymentId = some effect.paymentId)).map (·.unlinked) := by
  rcases effect_cases h with ⟨p, hfound, -⟩ | ⟨hnone, hnext, -⟩
  · rw [facts_of_found hfound]
    exact ⟨rfl, rfl⟩
  · -- nothing refers to a payment that is not there
    have hnoAttempts : s.paymentAttempts.rows.filter (·.paymentId = effect.paymentId) = [] := by
      rw [List.filter_eq_nil_iff]
      intro a ha
      have hlt := hattempts a ha
      simp only [decide_eq_true_eq]
      omega
    have hnoCases : s.cases.rows.filter (·.paymentId = some effect.paymentId) = [] := by
      rw [List.filter_eq_nil_iff]
      intro c hc
      simp only [decide_eq_true_eq]
      intro hid
      have hlt := hcases c hc _ hid
      omega
    rw [facts_of_none hnone, hnoAttempts, hnoCases]
    exact ⟨rfl, rfl⟩

/-- An event makes of its own payment what `receive` says, and nothing of the others. -/
theorem paymentFacts_storeAfter (h : e.effect s = .ok effect) (hattempts : AttemptsLinked s)
    (hcases : CasesLinked s) (now : Time) (audits : Table AuditEvent) (key : ProviderKey) :
    (e.storeAfter s now effect audits).paymentFacts key =
      if e.key = key then (s.paymentFacts key).receive now e effect.payment effect.amount
      else s.paymentFacts key := by
  have hfound := foundPayment_storeAfter h now audits key
  by_cases hkey : e.key = key
  · subst hkey
    rw [if_pos rfl] at hfound ⊢
    obtain ⟨hsameAttempts, hsameCases⟩ := facts_of_effect h hattempts hcases
    rw [facts_of_found hfound]
    unfold PaymentFacts.receive
    rw [hsameAttempts, hsameCases]
    have hnumber : s.nextAttemptNumber effect.paymentId =
        (((s.paymentAttempts.rows.filter (·.paymentId = effect.paymentId)).map
          (·.unlinked)).map (·.attemptNumber)).max?.getD 0 + 1 := by
      rw [List.map_map]
      rfl
    have hopen : (s.listOpenForPayment e.merchantId effect.paymentId).isEmpty =
        (((s.cases.rows.filter (·.paymentId = some effect.paymentId)).map (·.unlinked)).filter
          fun c => c.merchantId = e.merchantId && c.closedAt.isNone).isEmpty := by
      unfold Store.listOpenForPayment
      rw [Table.isEmpty_idsWhere, List.filter_map, List.isEmpty_map, List.filter_filter]
      refine congrArg List.isEmpty (List.filter_congr fun c _ => ?_)
      show _ = (decide (c.merchantId = e.merchantId) && c.closedAt.isNone &&
        decide (c.paymentId = some effect.paymentId))
      cases decide (c.merchantId = e.merchantId) <;> cases c.closedAt.isNone <;> simp
    rw [← hnumber, ← hopen]
    have hself : (e.addedAttempt s effect).paymentId = effect.paymentId := rfl
    have hwritten : (e.storeAfter s now effect audits).paymentAttempts.rows =
        s.paymentAttempts.rows ++ [e.addedAttempt s effect] := rfl
    have hcasesAfter : (e.storeAfter s now effect audits).cases = e.casesAfter s now effect := rfl
    rw [hwritten, hcasesAfter, List.filter_append, List.map_append, List.filter_singleton, hself]
    have hattempt : (e.addedAttempt s effect).unlinked =
        e.attempt 0 (s.nextAttemptNumber effect.paymentId) e.status effect.amount := rfl
    have hpaid : (effect.payment.openedCase e.merchantId effect.paymentId now).paymentId =
        some effect.paymentId := rfl
    have hcase : (effect.payment.openedCase e.merchantId effect.paymentId now).unlinked =
        effect.payment.openedCase e.merchantId 0 now := rfl
    unfold DomainPaymentEvent.casesAfter DomainPaymentEvent.opensCase
    by_cases hopens : (decide (e.eventType = .paymentFailed) &&
        (s.listOpenForPayment e.merchantId effect.paymentId).isEmpty) = true
    · rw [if_pos hopens, if_pos hopens]
      unfold Table.insert
      dsimp only
      rw [List.filter_append, List.map_append, List.filter_singleton]
      simp [hpaid, hattempt, hcase]
    · rw [if_neg hopens, if_neg hopens]
      simp [hattempt]
  · rw [if_neg hkey] at hfound ⊢
    cases hother : s.foundPayment key with
    | none => rw [facts_of_none (hfound.trans hother), facts_of_none hother]
    | some found =>
      obtain ⟨i, p⟩ := found
      rw [facts_of_found (hfound.trans hother), facts_of_found hother]
      -- the attempt and the case are of another payment
      have hne : effect.paymentId ≠ i := (effect_paymentId_ne h hkey hother).symm
      have hsameAttempts : (e.storeAfter s now effect audits).paymentAttempts.rows.filter
          (·.paymentId = i) = s.paymentAttempts.rows.filter (·.paymentId = i) := by
        have hself : (e.addedAttempt s effect).paymentId = effect.paymentId := rfl
        show (s.paymentAttempts.rows ++ [e.addedAttempt s effect]).filter _ = _
        rw [List.filter_append, List.filter_singleton, hself]
        simp [hne]
      have hsameCases : (e.storeAfter s now effect audits).cases.rows.filter
          (·.paymentId = some i) = s.cases.rows.filter (·.paymentId = some i) := by
        show (e.casesAfter s now effect).rows.filter _ = _
        unfold DomainPaymentEvent.casesAfter
        split
        · unfold Table.insert
          rw [List.filter_append, List.filter_singleton]
          simp [Payment.openedCase, hne]
        · rfl
      rw [hsameAttempts, hsameCases]

theorem CasesLinked.storeAfter (hlinked : CasesLinked s) (h : e.effect s = .ok effect)
    (now : Time) (audits : Table AuditEvent) :
    CasesLinked (e.storeAfter s now effect audits) := by
  have hgrows := Table.nextId_put_le s.payments effect.paymentId effect.payment
  have hthere : effect.paymentId < (s.payments.put effect.paymentId effect.payment).nextId := by
    have hrow := Table.get?_put (effect_paymentId_le h) effect.payment effect.paymentId
    rw [if_pos rfl] at hrow
    exact Table.lt_nextId hrow
  intro c hc i hi
  show i < (s.payments.put effect.paymentId effect.payment).nextId
  have hc : c ∈ (e.casesAfter s now effect).rows := hc
  unfold DomainPaymentEvent.casesAfter at hc
  split at hc
  · rcases List.mem_append.mp hc with hold | hnew
    · have hlt := hlinked c hold i hi
      omega
    · rw [List.mem_singleton.mp hnew] at hi
      obtain rfl := Option.some.inj hi
      exact hthere
  · have hlt := hlinked c hc i hi
    omega

/-! ## Webhook rows by their keys -/

theorem webhookRow_of_key {key : EventKey} {i : ℕ} (h : s.webhookOfKey key = some i) :
    ∃ row, s.webhookEvents.get? i = some row ∧ s.webhookRow key = some row ∧
      row.provider = key.provider ∧ row.eventId = key.eventId := by
  obtain ⟨row, hrow, hprovider, heventId⟩ := webhookOfProvider_row h
  refine ⟨row, hrow, ?_, hprovider, heventId⟩
  unfold Store.webhookRow
  rw [h]
  exact hrow

theorem webhookRow_eq_none {key : EventKey} :
    s.webhookRow key = none ↔ s.webhookOfKey key = none := by
  cases h : s.webhookOfKey key with
  | none =>
    unfold Store.webhookRow
    rw [h]
    simp
  | some i =>
    obtain ⟨row, -, hrow, -⟩ := webhookRow_of_key h
    simp [hrow]

/-- The row of a key after a new row. -/
theorem webhookRow_insert {row : WebhookEvent}
    (htable : s'.webhookEvents = s.webhookEvents.insert row) (key : EventKey) :
    s'.webhookRow key = (s.webhookRow key).or
      (if row.provider = key.provider ∧ row.eventId = key.eventId then some row else none) := by
  have hid : s'.webhookOfKey key = (s.webhookOfKey key).or
      (if row.provider = key.provider ∧ row.eventId = key.eventId then
        some s.webhookEvents.nextId else none) := by
    unfold Store.webhookOfKey Store.webhookOfProvider
    rw [htable, Table.findId?_insert]
    simp
  unfold Store.webhookRow
  rw [hid, htable]
  cases h : s.webhookOfKey key with
  | none =>
    split
    · simp
    · simp
  | some i =>
    obtain ⟨old, hold, -⟩ := webhookRow_of_key h
    simp only [Option.some_or, Option.bind_some]
    rw [Table.get?_insert_of_some hold, hold]
    rfl

theorem row_key (event : ProviderEvent) (merchantId : ℕ) (now : Time) (key : EventKey) :
    ((event.row env merchantId now).provider = key.provider ∧
      (event.row env merchantId now).eventId = key.eventId) ↔ event.storedKey = key := by
  obtain ⟨provider, eventId⟩ := key
  exact EventKey.mk.injEq _ _ _ _ ▸ Iff.rfl

/-- The row of a key after the row of `key₀` has been rewritten, as the same delivery. -/
theorem webhookRow_modify {i : ℕ} {row row' : WebhookEvent} {key₀ : EventKey}
    (hid : s.webhookOfKey key₀ = some i) (hrow : s.webhookEvents.get? i = some row)
    (hsame : row.SameDelivery row')
    (htable : s'.webhookEvents = s.webhookEvents.modify i fun _ => row') (key : EventKey) :
    s'.webhookRow key = if key = key₀ then some row' else s.webhookRow key := by
  have hids : s'.webhookOfKey key = s.webhookOfKey key := by
    unfold Store.webhookOfKey Store.webhookOfProvider
    rw [htable]
    refine Table.findId?_modify_const hrow ?_
    rw [hsame.provider, hsame.eventId]
  unfold Store.webhookRow
  rw [hids, htable]
  by_cases hkey : key = key₀
  · subst hkey
    rw [if_pos rfl, hid, Option.bind_some, Table.get?_modify_self, hrow]
    rfl
  · rw [if_neg hkey]
    cases h : s.webhookOfKey key with
    | none => rfl
    | some j =>
      have hij : i ≠ j := by
        rintro rfl
        obtain ⟨old, hold, -, hprovider, heventId⟩ := webhookRow_of_key h
        obtain ⟨old₀, hold₀, -, hprovider₀, heventId₀⟩ := webhookRow_of_key hid
        obtain rfl := Option.some.inj (hold.symm.trans hold₀)
        exact hkey (by
          obtain ⟨provider, eventId⟩ := key
          obtain ⟨provider₀, eventId₀⟩ := key₀
          simp only at hprovider heventId hprovider₀ heventId₀
          rw [← hprovider, ← heventId, ← hprovider₀, ← heventId₀])
      rw [Option.bind_some, Option.bind_some, Table.get?_modify_ne _ hij]

/-! ## One job -/

/-- What an event writes on its payment, and the amount of its attempt. -/
def DomainPaymentEvent.written (e : DomainPaymentEvent) (s : Store) :
    Except Failure (Payment × Money) :=
  (e.effect s).map fun effect => (effect.payment, effect.amount)

/-- The row after the job of an event. -/
def WebhookEvent.afterJob (row : WebhookEvent) (env : EventText) (s : Store) (now : Time) :
    WebhookEvent :=
  if row.status.isSettled then row
  else match row.verdict env s with
    | .ok _ => row.settle now
    | .error (.domain e) => if e.retryable then row else row.refuse e
    | .error (.crash _) => row

/-- The facts of a payment after the job of an event. -/
def WebhookEvent.factsAfterJob (row : WebhookEvent) (env : EventText) (s : Store) (now : Time)
    (key : ProviderKey) : PaymentFacts :=
  if row.status.isSettled then s.paymentFacts key
  else match row.verdict env s with
    | .ok (.payment e) =>
      match e.written s with
      | .ok (p, amount) =>
        if e.key = key then (s.paymentFacts key).receive now e p amount else s.paymentFacts key
      | .error _ => s.paymentFacts key
    | _ => s.paymentFacts key

theorem SameDelivery.afterJob (row : WebhookEvent) (env : EventText) (s : Store) (now : Time) :
    row.SameDelivery (row.afterJob env s now) := by
  unfold WebhookEvent.afterJob
  split
  · exact ⟨rfl, rfl, rfl, rfl, rfl, rfl⟩
  · split
    · exact ⟨rfl, rfl, rfl, rfl, rfl, rfl⟩
    · split <;> exact ⟨rfl, rfl, rfl, rfl, rfl, rfl⟩
    · exact ⟨rfl, rfl, rfl, rfl, rfl, rfl⟩

/-- What a job does to the rows of all keys. -/
structure JobDone (env : EventText) (now : Time) (i : ℕ) (row : WebhookEvent) (s s' : Store) :
    Prop where
  merchants : s'.merchants = s.merchants
  customers : s'.customers = s.customers
  rows : s'.webhookEvents = s.webhookEvents.modify i fun _ => row.afterJob env s now
  facts : ∀ key, s'.paymentFacts key = row.factsAfterJob env s now key
  attempts : AttemptsLinked s'
  cases : CasesLinked s'

/-- A job that leaves everything as it is. -/
theorem JobDone.unchanged {now : Time} {i : ℕ} {row : WebhookEvent}
    (hrow : s.webhookEvents.get? i = some row) (hattempts : AttemptsLinked s)
    (hcases : CasesLinked s) (hafter : row.afterJob env s now = row)
    (hfacts : ∀ key, row.factsAfterJob env s now key = s.paymentFacts key) :
    JobDone env now i row s s where
  merchants := rfl
  customers := rfl
  rows := by
    rw [hafter]
    exact (Table.modify_eq_self hrow rfl).symm
  facts key := (hfacts key).symm
  attempts := hattempts
  cases := hcases

/-- The job of an event. -/
theorem jobDone (env : EventText) (now : Time) {i : ℕ} {row : WebhookEvent}
    (hrow : s.webhookEvents.get? i = some row) (hattempts : AttemptsLinked s)
    (hcases : CasesLinked s) :
    JobDone env now i row s
      (((processWebhookEvent env now i).transact fun _ => false).run s).2 := by
  have hout := webhookOutcome env now i s
  rcases hrun : (processWebhookEvent env now i).run s with ⟨f | r, s'⟩
  · rw [hrun] at hout
    rw [Session.run_transact_error hrun]
    dsimp only
    cases hout with
    | missing hnone f =>
      rw [hrow] at hnone
      cases hnone
    | raised f s' hrow' heligible hverdict hpermanent =>
      obtain rfl := Option.some.inj (hrow.symm.trans hrow')
      refine .unchanged hrow hattempts hcases ?_ fun key => ?_
      · unfold WebhookEvent.afterJob
        rw [heligible, hverdict]
        cases f with
        | domain e =>
          have hretryable : e.retryable = true := by simpa [Failure.isPermanent] using hpermanent
          simp [hretryable]
        | crash exception => rfl
      · unfold WebhookEvent.factsAfterJob
        rw [heligible, hverdict]
        rfl
  · rw [hrun] at hout
    rw [Session.run_transact_ok hrun]
    dsimp only
    cases hout with
    | settled status hrow' hsettled =>
      obtain rfl := Option.some.inj (hrow.symm.trans hrow')
      refine .unchanged hrow hattempts hcases (if_pos hsettled) fun key => if_pos hsettled
    | deadLettered e audits hrow' heligible hverdict hpermanent =>
      obtain rfl := Option.some.inj (hrow.symm.trans hrow')
      have hafter : row.afterJob env s now = row.refuse e := by
        unfold WebhookEvent.afterJob
        rw [heligible, hverdict]
        simp [hpermanent]
      have hfacts : ∀ key, row.factsAfterJob env s now key = s.paymentFacts key := by
        intro key
        unfold WebhookEvent.factsAfterJob
        rw [heligible, hverdict]
        rfl
      exact ⟨rfl, rfl, by rw [hafter], fun key => (hfacts key).symm, hattempts, hcases⟩
    | processed audits hrow' heligible hmerchant hread hdispatch =>
      rename_i row' event followups s'
      obtain rfl := Option.some.inj (hrow.symm.trans hrow')
      have hthere : ¬ (s.merchants.get? row.merchantId).isNone = true := by
        simpa [Option.isSome_iff_ne_none] using hmerchant
      have hverdict := verdict_eq_dispatch now i hthere hread
      rw [hdispatch] at hverdict
      have hok : row.verdict env s = .ok event := hverdict
      have hafter : row.afterJob env s now = row.settle now := by
        unfold WebhookEvent.afterJob
        rw [heligible, hok]
        rfl
      -- an unknown event settles its row; a payment also writes what its dispatch wrote
      cases event with
      | unknown event =>
        have hfacts : ∀ key, row.factsAfterJob env s now key = s.paymentFacts key := by
          intro key
          unfold WebhookEvent.factsAfterJob
          rw [heligible, hok]
          rfl
        obtain ⟨-, rfl⟩ := Prod.mk.inj hdispatch
        exact ⟨rfl, rfl, by rw [hafter], fun key => (hfacts key).symm, hattempts, hcases⟩
      | payment e =>
        obtain ⟨trail, hwritten⟩ := run_dispatch now i row.merchantId e s
        rw [hdispatch] at hwritten
        cases heffect : e.effect s with
        | error f =>
          rw [heffect] at hwritten
          cases (Prod.mk.inj hwritten).1
        | ok effect =>
          rw [heffect] at hwritten
          obtain ⟨-, rfl⟩ := Prod.mk.inj hwritten
          have hfacts : ∀ key, row.factsAfterJob env s now key =
              (e.storeAfter s now effect trail).paymentFacts key := by
            intro key
            rw [paymentFacts_storeAfter heffect hattempts hcases now trail key]
            have hwrittenBy : e.written s = .ok (effect.payment, effect.amount) := by
              unfold DomainPaymentEvent.written
              rw [heffect]
              rfl
            unfold WebhookEvent.factsAfterJob
            rw [heligible, hok]
            dsimp only
            rw [hwrittenBy]
            rfl
          exact ⟨rfl, rfl, by rw [hafter], fun key => (hfacts key).symm,
            hattempts.storeAfter heffect now trail, hcases.storeAfter heffect now trail⟩

/-! ## The relation -/

/-- The merchants but `hidden` cannot tell the stores: the first may hold rows of the keys of
`hidden`, which are all its own, and the second holds none of them. -/
structure SameForOthers (hidden : ℕ) (keys : EventKey → Prop) (s t : Store) : Prop where
  merchants : s.merchants = t.merchants
  customers : s.customers = t.customers
  rows : ∀ key, ¬ keys key → s.webhookRow key = t.webhookRow key
  visible : ∀ key row, t.webhookRow key = some row → row.merchantId ≠ hidden
  own : ∀ key row, keys key → s.webhookRow key = some row → row.merchantId = hidden
  absent : ∀ key, keys key → t.webhookRow key = none
  facts : ∀ key, key.merchantId ≠ hidden → s.paymentFacts key = t.paymentFacts key
  attempts : AttemptsLinked s ∧ AttemptsLinked t
  cases : CasesLinked s ∧ CasesLinked t

variable {hidden : ℕ} {keys : EventKey → Prop}

namespace SameForOthers

/-- A step of the first store alone. -/
theorem left (h : SameForOthers hidden keys s t) (hmerchants : s'.merchants = s.merchants)
    (hcustomers : s'.customers = s.customers)
    (hrows : ∀ key, ¬ keys key → s'.webhookRow key = s.webhookRow key)
    (hown : ∀ key row, keys key → s'.webhookRow key = some row → row.merchantId = hidden)
    (hfacts : ∀ key, key.merchantId ≠ hidden → s'.paymentFacts key = s.paymentFacts key)
    (hattempts : AttemptsLinked s') (hcases : CasesLinked s') :
    SameForOthers hidden keys s' t where
  merchants := hmerchants.trans h.merchants
  customers := hcustomers.trans h.customers
  rows key hkey := (hrows key hkey).trans (h.rows key hkey)
  visible := h.visible
  own := hown
  absent := h.absent
  facts key hkey := (hfacts key hkey).trans (h.facts key hkey)
  attempts := ⟨hattempts, h.attempts.2⟩
  cases := ⟨hcases, h.cases.2⟩

/-- The delivery of an event of another merchant is admitted by both or by none. -/
theorem admission (h : SameForOthers hidden keys s t) (event : ProviderEvent) (merchantId : ℕ)
    (hraw : ¬ keys ⟨event.provider, event.eventId⟩) (hstored : ¬ keys event.storedKey) :
    event.admission merchantId s = event.admission merchantId t := by
  have hisSome : ∀ key, ¬ keys key →
      (s.webhookOfKey key).isSome = (t.webhookOfKey key).isSome := by
    intro key hkey
    have hsame := h.rows key hkey
    cases hs : s.webhookOfKey key with
    | none =>
      have hnone := webhookRow_eq_none.mp (hsame.symm.trans (webhookRow_eq_none.mpr hs))
      rw [hnone]
    | some i =>
      obtain ⟨row, -, hrow, -⟩ := webhookRow_of_key hs
      cases ht : t.webhookOfKey key with
      | none =>
        rw [hrow, webhookRow_eq_none.mpr ht] at hsame
        cases hsame
      | some j => rfl
  have hfirst := hisSome _ hraw
  have hsecond := hisSome _ hstored
  unfold Store.webhookOfKey at hfirst hsecond
  unfold ProviderEvent.storedKey at hsecond
  dsimp only at hfirst hsecond
  have hfirst' : (s.webhookOfProvider event.provider event.eventId).isNone =
      (t.webhookOfProvider event.provider event.eventId).isNone := by
    rw [← Option.not_isSome, ← Option.not_isSome, hfirst]
  unfold ProviderEvent.admission
  rw [hfirst', hsecond, h.merchants]

end SameForOthers

/-- The payment event that a row is read as is its merchant's. -/
theorem read_merchantId {row : WebhookEvent} (h : row.read env = .ok (.payment e)) :
    e.merchantId = row.merchantId := by
  unfold WebhookEvent.read normalizeProviderEvent at h
  split at h
  · cases h
  · dsimp only at h
    split at h
    · cases h
    · obtain ⟨_, -, h⟩ := Lib.bind_eq_ok.mp h
      obtain ⟨_, -, h⟩ := Lib.bind_eq_ok.mp h
      obtain ⟨_, -, h⟩ := Lib.bind_eq_ok.mp h
      obtain ⟨_, -, h⟩ := Lib.bind_eq_ok.mp h
      obtain rfl := NormalizedEvent.payment.inj (Except.ok.inj h)
      rfl

theorem verdict_read {row : WebhookEvent} (h : row.verdict env s = .ok (.payment e)) :
    row.read env = .ok (.payment e) := by
  unfold WebhookEvent.verdict at h
  split at h
  · cases h
  · obtain ⟨event, hread, h⟩ := Lib.bind_eq_ok.mp h
    cases event with
    | unknown event => cases h
    | payment e' =>
      obtain ⟨_, -, h⟩ := Lib.bind_eq_ok.mp h
      obtain rfl := NormalizedEvent.payment.inj (Except.ok.inj h)
      exact hread

theorem verdict_merchantId {row : WebhookEvent} (h : row.verdict env s = .ok (.payment e)) :
    e.merchantId = row.merchantId := read_merchantId (verdict_read h)

/-- The row that an event leaves, from what the store says about its payment. -/
private theorem written_eq (u : Store) :
    e.written u = match (u.paymentFacts e.key).row with
      | some p => do
        let amount ← storeAmount e.amount
        return (p.receive e e.status amount, amount)
      | none => do
        let customerId ← resolveCustomer u e
        let amount ← storeAmount e.amount
        return (e.newPayment customerId e.status amount, amount) := by
  unfold DomainPaymentEvent.written DomainPaymentEvent.effect
  cases hfound : u.foundPayment e.key with
  | none =>
    rw [facts_of_none hfound]
    dsimp only
    cases resolveCustomer u e with
    | error f => rfl
    | ok customerId => cases storeAmount e.amount <;> rfl
  | some found =>
    obtain ⟨i, p⟩ := found
    rw [facts_of_found hfound]
    dsimp only
    cases storeAmount e.amount <;> rfl

/-- What an event writes depends on the row of its payment and on the customers. -/
theorem written_congr (hrow : (s.paymentFacts e.key).row = (t.paymentFacts e.key).row)
    (hcustomers : s.customers = t.customers) : e.written s = e.written t := by
  have hcustomer : resolveCustomer s e = resolveCustomer t e := by
    unfold resolveCustomer Store.getCustomer
    rw [hcustomers]
  rw [written_eq s, written_eq t, hrow, hcustomer]

theorem verdict_congr {row : WebhookEvent} (hmerchants : s.merchants = t.merchants)
    (hwritten : ∀ e, row.read env = .ok (.payment e) → e.written s = e.written t) :
    row.verdict env s = row.verdict env t := by
  unfold WebhookEvent.verdict
  rw [hmerchants]
  cases hread : row.read env with
  | error f => rfl
  | ok event =>
    cases event with
    | unknown event => rfl
    | payment e =>
      have hbind : ∀ u : Store, (e.effect u >>= fun _ => pure (NormalizedEvent.payment e)) =
          (e.written u).map fun _ => NormalizedEvent.payment e := by
        intro u
        unfold DomainPaymentEvent.written
        cases e.effect u <;> rfl
      show (if _ then _ else (e.effect s >>= fun _ => pure (NormalizedEvent.payment e))) =
        (if _ then _ else (e.effect t >>= fun _ => pure (NormalizedEvent.payment e)))
      rw [hbind s, hbind t, hwritten e hread]

/-! ## The calls -/

namespace SameForOthers

/-- A call of the hidden merchant. -/
theorem hiddenCall (h : SameForOthers hidden keys s t) {call : HistoryCall}
    (hmerchant : call.merchantId = hidden) (hkey : keys call.key) :
    SameForOthers hidden keys (s.call env call).2 t := by
  cases call with
  | ingest now enqueue event merchantId =>
    have hkey : keys event.storedKey := hkey
    have hmerchant : merchantId = hidden := hmerchant
    have hout := ingest_outcome env now enqueue event merchantId s
    show SameForOthers hidden keys ((ReviveX.ingest env now enqueue event merchantId).run s).2 t
    generalize ((ReviveX.ingest env now enqueue event merchantId).run s).2 = s' at hout ⊢
    generalize ((ReviveX.ingest env now enqueue event merchantId).run s).1 = r at hout
    cases hout with
    | refused f hrefused => exact h
    | duplicate hadmitted hfound hrow =>
      -- a duplicate writes only its audit row
      exact h.left rfl rfl (fun _ _ => rfl) h.own (fun _ _ => rfl) h.attempts.1 h.cases.1
    | stored hadmitted hvalid hmerchant' hnew hunique =>
      refine h.left rfl rfl (fun key hother => ?_) (fun key row hown hrow => ?_) (fun _ _ => rfl)
        h.attempts.1 h.cases.1
      · rw [webhookRow_insert (s := s) rfl key]
        have hne : event.storedKey ≠ key := by
          rintro rfl
          exact hother hkey
        rw [if_neg (fun hsame => hne ((row_key event merchantId now key).mp hsame)), Option.or_none]
      · rw [webhookRow_insert (s := s) rfl key] at hrow
        cases hbefore : s.webhookRow key with
        | some old =>
          rw [hbefore] at hrow
          obtain rfl := Option.some.inj hrow
          exact h.own key _ hown hbefore
        | none =>
          rw [hbefore, Option.none_or] at hrow
          split at hrow
          · obtain rfl := Option.some.inj hrow
            exact hmerchant
          · cases hrow
  | process now event merchantId =>
    have hkey : keys event.storedKey := hkey
    unfold Store.call
    dsimp only
    cases hid : s.webhookOfKey event.storedKey with
    | none => exact h
    | some i =>
      obtain ⟨row, hrow, hrowKey, -⟩ := webhookRow_of_key hid
      have howner := h.own _ row hkey hrowKey
      have hdone := jobDone env now hrow h.attempts.1 h.cases.1
      have hrows := webhookRow_modify hid hrow (SameDelivery.afterJob row env s now) hdone.rows
      refine h.left hdone.merchants hdone.customers (fun key hother => ?_)
        (fun key row' hown hrow' => ?_) (fun key hvisible => ?_) hdone.attempts hdone.cases
      · have hne : key ≠ event.storedKey := by
          rintro rfl
          exact hother hkey
        rw [hrows key, if_neg hne]
      · rw [hrows key] at hrow'
        split at hrow'
        · obtain rfl := Option.some.inj hrow'
          exact (SameDelivery.afterJob row env s now).merchantId.trans howner
        · exact h.own key row' hown hrow'
      · -- the payment of the event is its merchant's
        rw [hdone.facts key]
        unfold WebhookEvent.factsAfterJob
        split
        · rfl
        · split
          · rename_i e hverdict
            have hne : e.key ≠ key := by
              rintro rfl
              exact hvisible ((verdict_merchantId hverdict).trans howner)
            split
            · rw [if_neg hne]
            · rfl
          · rfl

/-- A delivery for another merchant: both answer the same, and store the same. -/
theorem visibleIngest (h : SameForOthers hidden keys s t) (now : Time) (enqueue : Bool)
    {event : ProviderEvent} {merchantId : ℕ} (hmerchant : merchantId ≠ hidden)
    (hraw : ¬ keys ⟨event.provider, event.eventId⟩) (hstored : ¬ keys event.storedKey) :
    (s.call env (.ingest now enqueue event merchantId)).1 =
        (t.call env (.ingest now enqueue event merchantId)).1 ∧
      SameForOthers hidden keys (s.call env (.ingest now enqueue event merchantId)).2
        (t.call env (.ingest now enqueue event merchantId)).2 := by
  have hadmission := h.admission event merchantId hraw hstored
  have hsameRow := h.rows _ hraw
  have hs := ingest_outcome env now enqueue event merchantId s
  have ht := ingest_outcome env now enqueue event merchantId t
  show some (Except.map _ ((ReviveX.ingest env now enqueue event merchantId).run s).1) =
      some (Except.map _ ((ReviveX.ingest env now enqueue event merchantId).run t).1) ∧
    SameForOthers hidden keys ((ReviveX.ingest env now enqueue event merchantId).run s).2
      ((ReviveX.ingest env now enqueue event merchantId).run t).2
  generalize ((ReviveX.ingest env now enqueue event merchantId).run s).2 = s' at hs ⊢
  generalize ((ReviveX.ingest env now enqueue event merchantId).run s).1 = r at hs ⊢
  generalize ((ReviveX.ingest env now enqueue event merchantId).run t).2 = t' at ht ⊢
  generalize ((ReviveX.ingest env now enqueue event merchantId).run t).1 = r' at ht ⊢
  -- the two stores admit the event alike and hold the same row under its key, so of the nine pairs
  -- of outcomes only the three equal ones remain
  cases hs with
  | refused f hrefused =>
    cases ht with
    | refused f' hrefused' =>
      rw [hrefused, hrefused'] at hadmission
      obtain rfl := Except.error.inj hadmission
      exact ⟨rfl, h⟩
    | duplicate hadmitted' =>
      rw [hrefused, hadmitted'] at hadmission
      cases hadmission
    | stored hadmitted' =>
      rw [hrefused, hadmitted'] at hadmission
      cases hadmission
  | duplicate hadmitted hfound hrow =>
    rename_i i row
    have hkey : s.webhookRow ⟨event.provider, event.eventId⟩ = some row := by
      unfold Store.webhookRow Store.webhookOfKey
      dsimp only
      rw [hfound]
      exact hrow
    cases ht with
    | refused f' hrefused' =>
      rw [hadmitted, hrefused'] at hadmission
      cases hadmission
    | duplicate hadmitted' hfound' hrow' =>
      rename_i j row'
      have hkey' : t.webhookRow ⟨event.provider, event.eventId⟩ = some row' := by
        unfold Store.webhookRow Store.webhookOfKey
        dsimp only
        rw [hfound']
        exact hrow'
      -- both answer with the one row, whose merchant is not the hidden one
      obtain rfl := Option.some.inj (hkey.symm.trans (hsameRow.trans hkey'))
      exact ⟨rfl, h.merchants, h.customers, h.rows, h.visible, h.own, h.absent, h.facts,
        h.attempts, h.cases⟩
    | stored hadmitted' hvalid' hmerchant' hnew' =>
      have hnone : t.webhookRow ⟨event.provider, event.eventId⟩ = none :=
        webhookRow_eq_none.mpr hnew'
      rw [hkey, hnone] at hsameRow
      cases hsameRow
  | stored hadmitted hvalid hmerchant' hnew hunique =>
    have hnone : s.webhookRow ⟨event.provider, event.eventId⟩ = none :=
      webhookRow_eq_none.mpr hnew
    cases ht with
    | refused f' hrefused' =>
      rw [hadmitted, hrefused'] at hadmission
      cases hadmission
    | duplicate hadmitted' hfound' hrow' =>
      have hid : t.webhookOfKey ⟨event.provider, event.eventId⟩ = some _ := hfound'
      obtain ⟨row', -, hkey', -⟩ := webhookRow_of_key hid
      rw [hnone, hkey'] at hsameRow
      cases hsameRow
    | stored hadmitted' hvalid' hmerchant'' hnew' hunique' =>
      -- both insert the same row, under the key of the event and no other
      refine ⟨rfl, h.merchants, h.customers, fun key hkey => ?_, fun key row hrow => ?_,
        fun key row hkey hrow => ?_, fun key hkey => ?_, h.facts, h.attempts, h.cases⟩
      · refine (webhookRow_insert (s := s) rfl key).trans ?_
        rw [h.rows key hkey]
        exact (webhookRow_insert (s := t) rfl key).symm
      · rw [webhookRow_insert (s := t) rfl key] at hrow
        cases hbefore : t.webhookRow key with
        | some old =>
          rw [hbefore] at hrow
          obtain rfl := Option.some.inj hrow
          exact h.visible key _ hbefore
        | none =>
          rw [hbefore, Option.none_or] at hrow
          split at hrow
          · obtain rfl := Option.some.inj hrow
            exact hmerchant
          · cases hrow
      · have hne : event.storedKey ≠ key := by
          rintro rfl
          exact hstored hkey
        rw [webhookRow_insert (s := s) rfl key,
          if_neg (fun hsame => hne ((row_key event merchantId now key).mp hsame)),
          Option.or_none] at hrow
        exact h.own key row hkey hrow
      · have hne : event.storedKey ≠ key := by
          rintro rfl
          exact hstored hkey
        rw [webhookRow_insert (s := t) rfl key, h.absent key hkey,
          if_neg (fun hsame => hne ((row_key event merchantId now key).mp hsame))]
        rfl

/-- The job of an event of another merchant. -/
theorem visibleProcess (h : SameForOthers hidden keys s t) (now : Time) {event : ProviderEvent}
    (merchantId : ℕ) (hstored : ¬ keys event.storedKey) :
    (s.call env (.process now event merchantId)).1 =
        (t.call env (.process now event merchantId)).1 ∧
      SameForOthers hidden keys (s.call env (.process now event merchantId)).2
        (t.call env (.process now event merchantId)).2 := by
  have hsameRow := h.rows _ hstored
  unfold Store.call
  dsimp only
  cases hids : s.webhookOfKey event.storedKey with
  | none =>
    have hidt := webhookRow_eq_none.mp (hsameRow.symm.trans (webhookRow_eq_none.mpr hids))
    rw [hidt]
    exact ⟨rfl, h⟩
  | some i =>
    obtain ⟨row, hrow, hrowKey, -⟩ := webhookRow_of_key hids
    cases hidt : t.webhookOfKey event.storedKey with
    | none =>
      rw [hrowKey, webhookRow_eq_none.mpr hidt] at hsameRow
      cases hsameRow
    | some j =>
      obtain ⟨row', hrow', hrowKey', -⟩ := webhookRow_of_key hidt
      obtain rfl := Option.some.inj (hrowKey.symm.trans (hsameRow.trans hrowKey'))
      have howner := h.visible _ row hrowKey'
      -- the event was read from a row of its own merchant, of whose payments the stores say the
      -- same
      have hwritten : ∀ e, row.read env = .ok (.payment e) → e.written s = e.written t := by
        intro e hread
        have hfacts := h.facts e.key (by
          show e.merchantId ≠ hidden
          rw [read_merchantId hread]
          exact howner)
        exact written_congr (congrArg PaymentFacts.row hfacts) h.customers
      have hverdict := verdict_congr h.merchants hwritten
      have hdone := jobDone env now hrow h.attempts.1 h.cases.1
      have hdone' := jobDone env now hrow' h.attempts.2 h.cases.2
      -- what becomes of the row depends on the verdict, and that only on what the stores share
      have hafter : row.afterJob env s now = row.afterJob env t now := by
        unfold WebhookEvent.afterJob
        rw [hverdict]
      have hrows := webhookRow_modify hids hrow (SameDelivery.afterJob row env s now) hdone.rows
      have hrows' := webhookRow_modify hidt hrow' (SameDelivery.afterJob row env t now) hdone'.rows
      refine ⟨rfl, ?_, ?_, fun key hkey => ?_, fun key old hold => ?_, fun key old hkey hold => ?_,
        fun key hkey => ?_, fun key hkey => ?_, ⟨hdone.attempts, hdone'.attempts⟩,
        ⟨hdone.cases, hdone'.cases⟩⟩
      · rw [hdone.merchants, hdone'.merchants, h.merchants]
      · rw [hdone.customers, hdone'.customers, h.customers]
      · rw [hrows key, hrows' key, hafter, h.rows key hkey]
      · rw [hrows' key] at hold
        split at hold
        · obtain rfl := Option.some.inj hold
          rw [(SameDelivery.afterJob row env t now).merchantId]
          exact howner
        · exact h.visible key old hold
      · have hne : key ≠ event.storedKey := by
          rintro rfl
          exact hstored hkey
        rw [hrows key, if_neg hne] at hold
        exact h.own key old hkey hold
      · have hne : key ≠ event.storedKey := by
          rintro rfl
          exact hstored hkey
        rw [hrows' key, if_neg hne]
        exact h.absent key hkey
      · rw [hdone.facts key, hdone'.facts key]
        unfold WebhookEvent.factsAfterJob
        rw [hverdict, h.facts key hkey]
        split
        · rfl
        · split
          · rename_i e hok
            have hread := verdict_read hok
            rw [hwritten e hread]
          · rfl

end SameForOthers

/-! ## Histories of several merchants -/

/-- The start holds no event of `hidden`, and none under a key of its calls. -/
def FreshFor (hidden : ℕ) (calls : List HistoryCall) (start : Store) : Prop :=
  ∀ key row, start.webhookRow key = some row → row.merchantId ≠ hidden ∧
    ∀ call ∈ calls, call.merchantId = hidden → call.key ≠ key

/-- The calls of other merchants are answered as if `hidden` had made none, and leave the same
webhook rows, payments, attempts and cases. -/
def Unaffected (env : EventText) (hidden : ℕ) (calls : List HistoryCall) (start : Store) : Prop :=
  let isHidden (call : HistoryCall) : Bool := call.merchantId = hidden
  let shared := Lib.outputs (Store.call env) start calls
  let alone := Lib.outputs (Store.call env) start (calls.filter fun call => !isHidden call)
  shared.1.filter (fun answer => !isHidden answer.1) = alone.1 ∧
    (∀ key row, row.merchantId ≠ hidden →
      (shared.2.webhookRow key = some row ↔ alone.2.webhookRow key = some row)) ∧
    ∀ key, key.merchantId ≠ hidden → shared.2.paymentFacts key = alone.2.paymentFacts key

/-- No event of `hidden` shares its provider and event identifier with one of the others. -/
def SeparateKeys (hidden : ℕ) (calls : List HistoryCall) : Prop :=
  ∀ call ∈ calls, ∀ other ∈ calls, call.merchantId = hidden → other.merchantId ≠ hidden →
    call.key ≠ other.key

/-- The keys of the calls of a merchant. -/
def keysOf (hidden : ℕ) (calls : List HistoryCall) (key : EventKey) : Prop :=
  ∃ call ∈ calls, call.merchantId = hidden ∧ call.key = key

theorem storedKey_provider (event : ProviderEvent) : event.storedKey.provider ≠ "" := by
  unfold ProviderEvent.storedKey
  dsimp only
  split
  · decide
  · assumption

/-- The event as it came is not under a key of the hidden calls either. -/
theorem not_keysOf_raw {calls : List HistoryCall} {event : ProviderEvent}
    (h : ¬ keysOf hidden calls event.storedKey) :
    ¬ keysOf hidden calls ⟨event.provider, event.eventId⟩ := by
  by_cases hprovider : event.provider = ""
  · rintro ⟨call, -, -, hkey⟩
    have hempty : call.key.provider = "" := by
      rw [hkey]
      exact hprovider
    cases call with
    | ingest now enqueue event' merchantId => exact storedKey_provider event' hempty
    | process now event' merchantId => exact storedKey_provider event' hempty
  · have hsame : event.storedKey = ⟨event.provider, event.eventId⟩ := by
      unfold ProviderEvent.storedKey
      rw [if_neg hprovider]
    rw [← hsame]
    exact h

/-- Merchants whose events have keys of their own do not interfere at ingestion. -/
theorem merchants_unaffected (env : EventText) (hidden : ℕ) (calls : List HistoryCall)
    (start : Store) (hattempts : AttemptsLinked start) (hcases : CasesLinked start)
    (hfresh : FreshFor hidden calls start) (hkeys : SeparateKeys hidden calls) :
    Unaffected env hidden calls start := by
  have hstart : SameForOthers hidden (keysOf hidden calls) start start := by
    refine ⟨rfl, rfl, fun _ _ => rfl, fun key row hrow => (hfresh key row hrow).1,
      fun key row hkey hrow => ?_, fun key hkey => ?_, fun _ _ => rfl, ⟨hattempts, hattempts⟩,
      ⟨hcases, hcases⟩⟩
    · obtain ⟨call, hcall, hmerchant, hkey⟩ := hkey
      exact absurd hkey ((hfresh key row hrow).2 call hcall hmerchant)
    · obtain ⟨call, hcall, hmerchant, hkey⟩ := hkey
      by_contra hsome
      obtain ⟨row, hrow⟩ := Option.ne_none_iff_exists'.mp hsome
      exact (hfresh key row hrow).2 call hcall hmerchant hkey
  have hunwinding : Unwinding (Store.call env) (fun call => call.merchantId = hidden)
      (fun call => call ∈ calls) (SameForOthers hidden (keysOf hidden calls)) := by
    refine ⟨fun s t call hcall hhidden h => ?_, fun s t call hcall hhidden h => ?_⟩
    · have hmerchant : call.merchantId = hidden := by simpa using hhidden
      exact h.hiddenCall hmerchant ⟨call, hcall, hmerchant, rfl⟩
    · have hmerchant : call.merchantId ≠ hidden := by simpa using hhidden
      have hkey : ¬ keysOf hidden calls call.key := by
        rintro ⟨other, hother, hmerchant', hkey⟩
        exact hkeys other hother call hcall hmerchant' hmerchant hkey
      cases call with
      | ingest now enqueue event merchantId =>
        exact h.visibleIngest now enqueue hmerchant (not_keysOf_raw hkey) hkey
      | process now event merchantId => exact h.visibleProcess now merchantId hkey
  obtain ⟨hanswers, hend⟩ := hunwinding.outputs hstart fun _ h => h
  refine ⟨hanswers, fun key row hmerchant => ?_, hend.facts⟩
  by_cases hkey : keysOf hidden calls key
  · constructor
    · intro hrow
      exact absurd (hend.own key row hkey hrow) hmerchant
    · intro hrow
      rw [hend.absent key hkey] at hrow
      cases hrow
  · rw [hend.rows key hkey]

/-! ### A key that two merchants share -/

/-- Two merchants, of whom nothing has been delivered. -/
def twoMerchants : Store where
  merchants := ⟨[{}, {}]⟩
  customers := ⟨[{ merchantId := 0 }]⟩

/-- A failure of a payment of ₹100. -/
def deliveredFailure (eventId : String) : ProviderEvent where
  provider := "SIMULATOR"
  eventId := eventId
  eventType := "payment.failed"
  occurredAt := 0
  providerResourceId := "pay_1"
  payload := [("provider_payment_id", .str "pay_1"), ("amount", .str "100"),
    ("customer_id", .str "0")]
  merchantReference := "0"

theorem twoMerchants_linked : AttemptsLinked twoMerchants ∧ CasesLinked twoMerchants :=
  ⟨fun _ ha => absurd ha List.not_mem_nil, fun _ hc => absurd hc List.not_mem_nil⟩

theorem twoMerchants_fresh (hidden : ℕ) (calls : List HistoryCall) :
    FreshFor hidden calls twoMerchants := by
  intro key row hrow
  have hnone : twoMerchants.webhookRow key = none := rfl
  rw [hnone] at hrow
  cases hrow

/-- An event of each merchant under keys of their own: the failure of merchant 0 is stored and
opens its case as if merchant 1 had delivered nothing. -/
theorem merchants_unaffected_twoKeys :
    Unaffected sampleEventText 1
      [.ingest 0 true (deliveredFailure "evt_1") 1, .ingest 0 true (deliveredFailure "evt_2") 0,
        .process 0 (deliveredFailure "evt_1") 1, .process 0 (deliveredFailure "evt_2") 0]
      twoMerchants := by
  refine merchants_unaffected sampleEventText 1 _ twoMerchants twoMerchants_linked.1
    twoMerchants_linked.2 (twoMerchants_fresh 1 _) ?_
  unfold SeparateKeys
  decide

/-- Whatever the merchants deliver, they do not interfere. -/
def NeverInterfere (env : EventText) : Prop :=
  ∀ hidden calls start, AttemptsLinked start → CasesLinked start →
    FreshFor hidden calls start → Unaffected env hidden calls start

/-- The answer says that the event was there already. -/
def saysDuplicate : Option (Except Failure IngestResult) → Bool
  | some (.ok r) => r.duplicate
  | _ => false

/-- Merchant 1 delivers a key first; the event that merchant 0 delivers under it is answered as
a duplicate. -/
theorem sharedKey_interferes : ¬ NeverInterfere sampleEventText := by
  intro hnever
  have hunaffected := hnever 1
    [.ingest 0 true (deliveredFailure "evt_1") 1, .ingest 0 true (deliveredFailure "evt_1") 0]
    twoMerchants twoMerchants_linked.1 twoMerchants_linked.2 (twoMerchants_fresh 1 _)
  have hanswers := congrArg (List.map fun answer => saysDuplicate answer.2) hunaffected.1
  revert hanswers
  decide +kernel

end ReviveX
