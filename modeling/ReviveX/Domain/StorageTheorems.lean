import ReviveX.Domain.IngestionTheorems
import ReviveX.Lib.Except

/-!
# What a stored event is read as

`ingest` validates an event by its own fields and stores its payload; the worker rebuilds the
event from the payload. `KeepsEvent` says when the fields that have two sources agree, and
`storedEvent_outcome` that the worker reads the event that was delivered exactly then.
-/

namespace ReviveX

open Lib (Json RaisesOnly Session Table)

/-! ## What Python's text functions do -/

/-- A name in lower-case letters and underscores. -/
def isLowerName (name : String) : Bool := name.toList.all fun c => c.isLower || c = '_'

/-- The documented behaviour of `str.lower`, `datetime.isoformat` and
`datetime.fromisoformat`. -/
structure EventText.Documented (env : EventText) : Prop where
  lower : ∀ name, isLowerName name = true → env.lower name = name
  fromisoformat : ∀ t, env.py.fromisoformat (replaceZulu (env.py.isoformat t)) = some t
  isoformat : ∀ t, isBlank (env.py.isoformat t) = false

/-! ## The stored payload -/

/-- The keys that the worker reads, but for the instant. -/
def payloadNames : List String :=
  ["provider_payment_id", "payment_id", "provider_resource_id", "merchant_reference", "amount",
    "attempt_number", "customer_id", "provider_order_id", "order_id", "currency",
    "failure_reason", "failure_code", "customer_external_id", "payment_method"]

theorem payloadNames_stored : ∀ key ∈ payloadNames,
    isLowerName key = true ∧ blockedPayloadKeys.contains key = false ∧ "occurred_at" ≠ key := by
  decide +kernel

variable {env : EventText} {now : Time} {enqueue : Bool} {event : ProviderEvent}
  {merchantId : ℕ} {s s' : Store}

/-- The filter keeps every lower-case key that is not blocked. -/
theorem get?_safePayload (henv : env.Documented) (payload : Payload) (key : String)
    (hlower : isLowerName key = true) (hkept : blockedPayloadKeys.contains key = false) :
    Json.get? (safePayload env payload) key = Json.get? payload key := by
  have hkeep : (fun name => !blockedPayloadKeys.contains (env.lower name)) key = true := by
    dsimp only
    rw [henv.lower key hlower, hkept]
    rfl
  exact Json.get?_filter (fun name => !blockedPayloadKeys.contains (env.lower name)) hkeep payload

/-- What the worker reads of the stored payload it would read of the event's own. -/
theorem get?_storedPayload (henv : env.Documented) (event : ProviderEvent) {key : String}
    (hkey : key ∈ payloadNames) :
    Json.get? (storedPayload env event) key = Json.get? event.payload key := by
  obtain ⟨hlower, hkept, hne⟩ := payloadNames_stored key hkey
  have hsafe := get?_safePayload henv event.payload key hlower hkept
  unfold storedPayload
  dsimp only
  split
  · exact hsafe
  · rw [Json.get?_append, Json.get?_singleton, if_neg hne, Option.or_none, hsafe]

/-- The instant the worker reads: the one the payload names, else the event's own. -/
theorem occurredAt_storedPayload (henv : env.Documented) (event : ProviderEvent)
    (receivedAt : Time) :
    occurredAt env.py (storedPayload env event) receivedAt =
      if (Json.get? event.payload "occurred_at").isSome then
        occurredAt env.py event.payload receivedAt
      else event.occurredAt := by
  have hsafe := get?_safePayload henv event.payload "occurred_at" (by decide +kernel)
    (by decide +kernel)
  have hcongr : ∀ payload, Json.get? payload "occurred_at" =
      Json.get? event.payload "occurred_at" →
      occurredAt env.py payload receivedAt = occurredAt env.py event.payload receivedAt := by
    intro payload hget
    unfold occurredAt
    rw [hget]
  unfold storedPayload
  dsimp only
  rw [hsafe]
  split
  · exact hcongr _ hsafe
  · rename_i hmissing
    have hnone : Json.get? event.payload "occurred_at" = none :=
      Option.not_isSome_iff_eq_none.mp hmissing
    unfold occurredAt
    rw [Json.get?_append, hsafe, hnone, Json.get?_singleton, if_pos rfl, Option.none_or]
    dsimp only
    rw [henv.isoformat, henv.fromisoformat]
    simp

/-! ## Normalizing -/

/-- The payment that a payload names; `fallback` when it names none. -/
def namedPayment (env : EventText) (payload : Payload) (fallback : String) : String :=
  (payloadStr env.py payload ["provider_payment_id", "payment_id"]).getD fallback

/-- The reference that the worker takes from a payload for want of the event's own. -/
def payloadReference (env : EventText) (payload : Payload) : String :=
  firstTruthyStr env.py payload ["provider_payment_id", "provider_resource_id", "payment_id"]

/-- The amount and the customer of a payment event, each of which a payload may fail to
name. -/
def readPayload (env : EventText) (payload : Payload) : Except Failure (ℚ × Option ℕ) := do
  let amount ← requireDecimal env.py payload
  let _ ← requireAttemptNumber env.py payload
  let customerId ← optionalUuid env payload
  let amount ← finiteAmount amount
  return (amount, customerId)

/-! ### Reading is by key -/

private theorem findSome?_congr {f g : String → Option String} {keys : List String}
    (h : ∀ key ∈ keys, f key = g key) : keys.findSome? f = keys.findSome? g := by
  induction keys with
  | nil => rfl
  | cons key rest ih =>
    rw [List.findSome?_cons, List.findSome?_cons, h key List.mem_cons_self,
      ih fun other hother => h other (List.mem_cons_of_mem key hother)]

section Congr

variable {payload payload' : Payload} (hsame : ∀ key ∈ payloadNames,
  Json.get? payload' key = Json.get? payload key)
include hsame

theorem payloadStr_congr (py : PyText) {keys : List String} (hkeys : keys ⊆ payloadNames) :
    payloadStr py payload' keys = payloadStr py payload keys := by
  unfold payloadStr
  refine findSome?_congr fun key hkey => ?_
  rw [hsame key (hkeys hkey)]

theorem payloadReference_congr (env : EventText) :
    payloadReference env payload' = payloadReference env payload := by
  unfold payloadReference firstTruthyStr
  simp only [List.findSome?_cons, List.findSome?_nil]
  rw [hsame "provider_payment_id" (by decide +kernel),
    hsame "provider_resource_id" (by decide +kernel), hsame "payment_id" (by decide +kernel)]

theorem merchantReference_congr (env : EventText) (merchantId : ℕ) :
    merchantReference env payload' merchantId = merchantReference env payload merchantId := by
  unfold merchantReference
  rw [hsame _ (by decide +kernel)]

theorem namedPayment_congr (env : EventText) (fallback : String) :
    namedPayment env payload' fallback = namedPayment env payload fallback := by
  unfold namedPayment
  rw [payloadStr_congr hsame env.py (by decide +kernel)]

theorem readPayload_congr (env : EventText) :
    readPayload env payload' = readPayload env payload := by
  unfold readPayload requireDecimal requireAttemptNumber optionalUuid
  rw [hsame "amount" (by decide +kernel), hsame "attempt_number" (by decide +kernel),
    hsame "customer_id" (by decide +kernel)]

end Congr

/-- The payment event that an event is read as, once its payment, amount and customer are. -/
def ProviderEvent.domainEvent (env : EventText) (merchantId : ℕ) (event : ProviderEvent)
    (eventType : DomainEventType) (providerPaymentId : String) (read : ℚ × Option ℕ) :
    DomainPaymentEvent where
  eventType := eventType
  provider := event.provider
  merchantId := merchantId
  occurredAt := event.occurredAt
  providerPaymentId := providerPaymentId
  providerOrderId := payloadStr env.py event.payload ["provider_order_id", "order_id"]
  merchantReference := event.merchantReference
  amount := read.1
  currency := (payloadStr env.py event.payload ["currency"]).getD "INR"
  failureCode := payloadStr env.py event.payload ["failure_reason", "failure_code"]
  customerId := read.2
  customerExternalId := payloadStr env.py event.payload ["customer_external_id"]
  paymentMethod := payloadStr env.py event.payload ["payment_method"]

theorem normalize_known {eventType : DomainEventType}
    (htype : DomainEventType.ofText? event.eventType = some eventType) :
    normalizeProviderEvent env merchantId event =
      let named := namedPayment env event.payload event.providerResourceId
      if named = "" then
        .error (ingestionError "INVALID_PAYMENT_REFERENCE" "provider payment id is required")
      else (readPayload env event.payload).map fun read =>
        .payment (event.domainEvent env merchantId eventType named read) := by
  unfold normalizeProviderEvent readPayload namedPayment
  rw [htype]
  dsimp only
  split
  · rfl
  · cases requireDecimal env.py event.payload with
    | error f => rfl
    | ok amount =>
      cases requireAttemptNumber env.py event.payload with
      | error f => rfl
      | ok number =>
        cases optionalUuid env event.payload with
        | error f => rfl
        | ok customerId =>
          cases amount with
          | _ => rfl

/-! ## Outcomes -/

/-- What an event reports. -/
structure EventReport where
  eventType : DomainEventType
  providerPaymentId : String
  providerOrderId : Option String
  amount : ℚ
  currency : String
  customerId : Option ℕ
  customerExternalId : Option String
  occurredAt : Time
  merchantReference : String
deriving DecidableEq

def DomainPaymentEvent.report (e : DomainPaymentEvent) : EventReport where
  eventType := e.eventType
  providerPaymentId := e.providerPaymentId
  providerOrderId := e.providerOrderId
  amount := e.amount
  currency := e.currency
  customerId := e.customerId
  customerExternalId := e.customerExternalId
  occurredAt := e.occurredAt
  merchantReference := e.merchantReference

/-- How the normalization of an event ends. -/
inductive NormalizationOutcome
  | unknown (event : UnknownDomainEvent)
  | payment (report : EventReport)
  /-- A `DomainError`, by its code. -/
  | refused (code : String)
  | crashed (exception : String)
deriving DecidableEq

def normalizationOutcome : Except Failure NormalizedEvent → NormalizationOutcome
  | .ok (.unknown event) => .unknown event
  | .ok (.payment event) => .payment event.report
  | .error (.domain e) => .refused e.code
  | .error (.crash exception) => .crashed exception

/-- The event names its instant where the worker looks for it. -/
def KeepsInstant (env : EventText) (receivedAt : Time) (event : ProviderEvent) : Prop :=
  (Json.get? event.payload "occurred_at").isSome = true →
    occurredAt env.py event.payload receivedAt = event.occurredAt

/-- The fields of an event that have two sources agree, as far as the event is read: the
payload names the payment, the instant and the reference that the event names itself. -/
def KeepsEvent (env : EventText) (receivedAt : Time) (merchantId : ℕ) (event : ProviderEvent) :
    Prop :=
  match DomainEventType.ofText? event.eventType with
  | none => KeepsInstant env receivedAt event
  | some _ =>
    let named := namedPayment env event.payload event.providerResourceId
    let stored := namedPayment env event.payload (payloadReference env event.payload)
    (stored = "" ↔ named = "") ∧
      (named ≠ "" → ∀ read, readPayload env event.payload = .ok read →
        stored = named ∧ KeepsInstant env receivedAt event ∧
          merchantReference env event.payload merchantId = event.merchantReference)

/-- A payload that does not say what a payment event needs is refused under another code than
one that does not name its payment. -/
theorem readPayload_code (env : EventText) (payload : Payload) :
    RaisesOnly (fun f => normalizationOutcome (.error f) ≠ .refused "INVALID_PAYMENT_REFERENCE")
      (readPayload env payload) := by
  have hinvalid : ∀ message, normalizationOutcome
      (.error (ingestionError "INVALID_PROVIDER_EVENT" message)) ≠
        .refused "INVALID_PAYMENT_REFERENCE" := by
    intro message h
    have hcode : "INVALID_PROVIDER_EVENT" = "INVALID_PAYMENT_REFERENCE" :=
      NormalizationOutcome.refused.inj h
    revert hcode
    decide +kernel
  unfold readPayload
  refine .bind ?_ fun amount => .bind ?_ fun number => .bind ?_ fun customerId => .bind ?_
    fun q => .ok _
  · unfold requireDecimal
    split
    · exact .error (hinvalid _)
    · exact .error (hinvalid _)
    · exact .elim (hinvalid _) fun _ => .ok _
  · exact .elim (hinvalid _) fun _ => .ok _
  · unfold optionalUuid
    split
    · exact .ok _
    · exact .ok _
    · exact .ok _
    · exact .elim (hinvalid _) fun _ => .ok _
  · unfold finiteAmount
    split
    · exact .ok _
    · exact .error nofun

/-- The event that the worker rebuilds. -/
def ProviderEvent.rebuilt (env : EventText) (event : ProviderEvent) (merchantId : ℕ)
    (receivedAt : Time) : ProviderEvent :=
  providerEventFromRow env (event.row env merchantId receivedAt)

/-- The instant of the rebuilt event. -/
theorem rebuilt_occurredAt (henv : env.Documented) (merchantId : ℕ) :
    (event.rebuilt env merchantId now).occurredAt = event.occurredAt ↔
      KeepsInstant env now event := by
  show occurredAt env.py (storedPayload env event) now = event.occurredAt ↔ _
  rw [occurredAt_storedPayload henv]
  unfold KeepsInstant
  by_cases hnamed : (Json.get? event.payload "occurred_at").isSome = true
  · simp [hnamed]
  · simp [hnamed]

/-- The rebuilt event is read as the delivered one exactly when no field with two sources
differs. -/
theorem rebuilt_outcome (henv : env.Documented) :
    normalizationOutcome
        (normalizeProviderEvent env merchantId (event.rebuilt env merchantId now)) =
      normalizationOutcome (normalizeProviderEvent env merchantId event) ↔
      KeepsEvent env now merchantId event := by
  have hsame : ∀ key ∈ payloadNames,
      Json.get? (event.rebuilt env merchantId now).payload key = Json.get? event.payload key :=
    fun key hkey => get?_storedPayload henv event hkey
  unfold KeepsEvent
  cases htype : DomainEventType.ofText? event.eventType with
  | none =>
    have htype' : DomainEventType.ofText? (event.rebuilt env merchantId now).eventType = none :=
      htype
    unfold normalizeProviderEvent
    rw [htype, htype']
    show NormalizationOutcome.unknown _ = .unknown _ ↔ _
    rw [← rebuilt_occurredAt henv merchantId]
    simp only [NormalizationOutcome.unknown.injEq, UnknownDomainEvent.mk.injEq]
    exact and_iff_left rfl
  | some eventType =>
    have htype' : DomainEventType.ofText? (event.rebuilt env merchantId now).eventType =
        some eventType := htype
    -- the two events read the same payload; they differ in the payment, instant and reference
    rw [normalize_known htype, normalize_known htype']
    dsimp only
    have hresource : (event.rebuilt env merchantId now).providerResourceId =
        payloadReference env event.payload :=
      payloadReference_congr hsame env
    rw [namedPayment_congr hsame, readPayload_congr hsame, hresource]
    generalize hnamed : namedPayment env event.payload event.providerResourceId = named
    generalize hstored : namedPayment env event.payload (payloadReference env event.payload) =
      stored
    have hreference : (event.rebuilt env merchantId now).merchantReference =
        merchantReference env event.payload merchantId := merchantReference_congr hsame env _
    have hrefused : normalizationOutcome (.error (ingestionError "INVALID_PAYMENT_REFERENCE"
        "provider payment id is required")) = .refused "INVALID_PAYMENT_REFERENCE" := rfl
    have hpayment : ∀ e, normalizationOutcome (.ok (.payment e)) = .payment e.report :=
      fun _ => rfl
    cases hread : readPayload env event.payload with
    | error f =>
      have hcode := readPayload_code env event.payload f hread
      by_cases hn : named = "" <;> by_cases hs : stored = ""
      · simp [hn, hs]
      · simpa [hn, hs, hrefused, Except.map] using hcode
      · simpa [hn, hs, hrefused, Except.map] using hcode.symm
      · simp [hn, hs, Except.map]
    | ok read =>
      by_cases hn : named = "" <;> by_cases hs : stored = ""
      · simp [hn, hs]
      · simp [hn, hs, hrefused, hpayment, Except.map]
      · simp [hn, hs, hrefused, hpayment, Except.map]
      · have hreport : normalizationOutcome (.ok (.payment ((event.rebuilt env merchantId
            now).domainEvent env merchantId eventType stored read))) =
            normalizationOutcome (.ok (.payment (event.domainEvent env merchantId eventType
              named read))) ↔
            stored = named ∧ KeepsInstant env now event ∧
              merchantReference env event.payload merchantId = event.merchantReference := by
          rw [← rebuilt_occurredAt henv merchantId, ← hreference]
          simp only [normalizationOutcome, NormalizationOutcome.payment.injEq,
            DomainPaymentEvent.report, ProviderEvent.domainEvent, EventReport.mk.injEq]
          rw [payloadStr_congr hsame env.py (by decide +kernel),
            payloadStr_congr hsame env.py (by decide +kernel),
            payloadStr_congr hsame env.py (by decide +kernel)]
          tauto
        simpa [hn, hs, Except.map] using hreport

/-! ## Ingestion -/

/-- The row that was stored for an event that was accepted as new. -/
theorem ingest_stored {r : IngestResult}
    (hrun : (ingest env now enqueue event merchantId).run s = (.ok r, s'))
    (hnew : r.duplicate = false) :
    s'.webhookEvents.get? r.webhookEventId = some (event.row env merchantId now) := by
  have houtcome := ingest_outcome env now enqueue event merchantId s
  rw [hrun] at houtcome
  cases houtcome with
  | duplicate => cases hnew
  | stored => exact Table.get?_insert_nextId _ _

/-- The worker reads the event as it was delivered. -/
def ReadAsDelivered (env : EventText) (merchantId : ℕ) (event : ProviderEvent) (s' : Store)
    (webhookEventId : ℕ) : Prop :=
  ∃ row, s'.webhookEvents.get? webhookEventId = some row ∧
    normalizationOutcome
        (normalizeProviderEvent env row.merchantId (providerEventFromRow env row)) =
      normalizationOutcome (normalizeProviderEvent env merchantId event)

/-- An event that is accepted as new is read as it was delivered exactly when its payload
names the payment, the instant and the reference that the event names itself, or is refused
for the same reason. -/
theorem storedEvent_outcome {r : IngestResult} (henv : env.Documented)
    (hrun : (ingest env now enqueue event merchantId).run s = (.ok r, s'))
    (hnew : r.duplicate = false) :
    ReadAsDelivered env merchantId event s' r.webhookEventId ↔
      KeepsEvent env now merchantId event := by
  rw [← rebuilt_outcome henv]
  have hrow := ingest_stored hrun hnew
  constructor
  · rintro ⟨row, hget, houtcome⟩
    obtain rfl := Option.some.inj (hrow.symm.trans hget)
    exact houtcome
  · intro houtcome
    exact ⟨_, hrow, houtcome⟩

/-- Every event that is accepted as new is read as it was delivered. -/
def StoresFaithfully (env : EventText) : Prop :=
  ∀ now enqueue event merchantId s r s',
    (ingest env now enqueue event merchantId).run s = (.ok r, s') → r.duplicate = false →
    ReadAsDelivered env merchantId event s' r.webhookEventId

/-! ### A failure whose payload does not name its payment -/

/-- The epoch as Python prints it; other instants in unary. -/
def printInstant : Time → List Char
  | .ofNat 0 => "1970-01-01T00:00:00+00:00".toList
  | .ofNat (n + 1) => 'p' :: List.replicate n 'i'
  | .negSucc n => 'n' :: List.replicate n 'i'

def readInstant (chars : List Char) : Option Time :=
  if chars = "1970-01-01T00:00:00+00:00".toList then some 0
  else if chars.head? = some 'p' then some (.ofNat chars.length)
  else if chars.head? = some 'n' then some (.negSucc (chars.length - 1))
  else none

theorem printInstant_pos (n : ℕ) :
    printInstant (.ofNat (n + 1)) = 'p' :: List.replicate n 'i' := rfl
theorem printInstant_neg (n : ℕ) : printInstant (.negSucc n) = 'n' :: List.replicate n 'i' := rfl

theorem cons_ne_epoch {c : Char} (hc : c ≠ '1') (rest : List Char) :
    c :: rest ≠ "1970-01-01T00:00:00+00:00".toList := by
  intro h
  have hhead := congrArg List.head? h
  have hone : "1970-01-01T00:00:00+00:00".toList.head? = some '1' := by decide +kernel
  rw [hone] at hhead
  exact hc (Option.some.inj hhead)

theorem readInstant_printInstant (t : Time) : readInstant (printInstant t) = some t := by
  rcases t with n | n
  · cases n with
    | zero => decide +kernel
    | succ n =>
      rw [printInstant_pos]
      unfold readInstant
      rw [if_neg (cons_ne_epoch (by decide) _)]
      simp
  · rw [printInstant_neg]
    unfold readInstant
    rw [if_neg (cons_ne_epoch (by decide) _)]
    simp

theorem printInstant_chars (t : Time) :
    'Z' ∉ printInstant t ∧ (printInstant t).all isSpace = false := by
  rcases t with n | n
  · cases n with
    | zero => decide +kernel
    | succ n =>
      rw [printInstant_pos, List.all_cons]
      exact ⟨by simp [List.mem_replicate], by rw [show isSpace 'p' = false from rfl]; rfl⟩
  · rw [printInstant_neg, List.all_cons]
    exact ⟨by simp [List.mem_replicate], by rw [show isSpace 'n' = false from rfl]; rfl⟩

/-- The texts of the samples below. -/
def epochText : PyText where
  str
    | .str text => text
    | _ => "None"
  int := fun text => if text = "1" then some 1 else none
  decimal := fun text => if text = "499.00" then some (.finite 499) else none
  isoformat := fun t => String.ofList (printInstant t)
  fromisoformat := fun text => readInstant text.toList

def epochEventText : EventText where
  py := epochText
  lower := id
  uuid := fun text => if text = "0" then some 0 else none
  uuidText := fun _ => "0"

theorem replaceZulu_ofList {chars : List Char} (h : 'Z' ∉ chars) :
    replaceZulu (String.ofList chars) = String.ofList chars := by
  have hchars : ∀ l : List Char, 'Z' ∉ l →
      (l.flatMap fun c => if c = 'Z' then "+00:00".toList else [c]) = l := by
    intro l hl
    induction l with
    | nil => rfl
    | cons c rest ih =>
      have hne : c ≠ 'Z' := fun hc => hl (hc ▸ List.mem_cons_self)
      rw [List.flatMap_cons, if_neg hne, ih fun hmem => hl (List.mem_cons_of_mem c hmem)]
      rfl
  have htext : (String.ofList chars).toList = chars := String.toList_ofList
  unfold replaceZulu
  rw [htext, hchars chars h]

theorem epochEventText_documented : epochEventText.Documented where
  lower _ _ := rfl
  fromisoformat t := by
    have htext : (String.ofList (printInstant t)).toList = printInstant t := String.toList_ofList
    have hprint : epochEventText.py.isoformat t = String.ofList (printInstant t) := rfl
    have hread : ∀ text, epochEventText.py.fromisoformat text = readInstant text.toList :=
      fun _ => rfl
    rw [hprint, hread, replaceZulu_ofList (printInstant_chars t).1, htext,
      readInstant_printInstant]
  isoformat t := by
    have htext : (String.ofList (printInstant t)).toList = printInstant t := String.toList_ofList
    have hprint : epochEventText.py.isoformat t = String.ofList (printInstant t) := rfl
    unfold isBlank
    rw [hprint, htext]
    exact (printInstant_chars t).2

/-- A failed payment of ₹499, with what its payload says of it. -/
def reportedFailure (payload : Payload) : ProviderEvent where
  provider := "SIMULATOR"
  eventId := "evt_1"
  eventType := "payment.failed"
  occurredAt := 0
  providerResourceId := "pay_1"
  merchantReference := "0"
  payload := payload

/-- The payload says nothing of the payment. -/
def unnamedPayload : Payload := [("amount", .str "499.00"), ("customer_id", .str "0")]

/-- One merchant, and no events. -/
def quietStore : Store where
  merchants := ⟨[{}]⟩
  customers := ⟨[{ merchantId := 0 }]⟩

/-- An event that names its payment only itself is accepted, and then refused by the worker. -/
theorem unnamedFailure_not_storesFaithfully : ¬ StoresFaithfully epochEventText := by
  intro hfaithful
  obtain ⟨row, hrow, houtcome⟩ := hfaithful 0 true (reportedFailure unnamedPayload) 0 quietStore
    _ _ rfl rfl
  have hstored : row = (reportedFailure unnamedPayload).row epochEventText 0 0 :=
    (Option.some.inj hrow).symm
  rw [hstored] at houtcome
  revert houtcome
  decide +kernel

/-- The payload names the payment. -/
def namedPayload : Payload := ("provider_payment_id", .str "pay_1") :: unnamedPayload

theorem storedEvent_outcome_named :
    ReadAsDelivered epochEventText 0 (reportedFailure namedPayload)
      ((ingest epochEventText 0 true (reportedFailure namedPayload) 0).run quietStore).2 0 := by
  have hrun : (ingest epochEventText 0 true (reportedFailure namedPayload) 0).run quietStore =
      (.ok (storedResult true 0 (reportedFailure namedPayload) 0),
        ((ingest epochEventText 0 true (reportedFailure namedPayload) 0).run quietStore).2) := rfl
  refine (storedEvent_outcome epochEventText_documented hrun rfl).mpr ?_
  refine ⟨by decide +kernel, fun _ read _ => ⟨by decide +kernel, ?_, by decide +kernel⟩⟩
  unfold KeepsInstant
  decide +kernel

end ReviveX
