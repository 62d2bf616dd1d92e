import ReviveX.Domain.StorageTheorems
import ReviveX.Events.Webhooks
import ReviveX.Worker.WebhookRuns

/-!
# What the worker reads of a produced event

An announcement is what a producer says of a payment. A payload announces it when every reading of
the worker finds what was said; both producers build such payloads, whatever else they put into
them. Rows keep their payload for good, so that every worker reads the announcement.
-/

namespace ReviveX

open Lib (Json Run Session Table)

/-- The documented behaviour of `str` of a text and of `UUID(str(uuid))`. -/
structure EventText.Prints (env : EventText) : Prop extends env.Documented where
  str : ∀ text, env.py.str (.str text) = text
  uuid : ∀ i, env.uuid (env.uuidText i) = some i
  uuidText : ∀ i, isBlank (env.uuidText i) = false

/-! ## Announcements -/

/-- What is said of a payment. -/
structure Announcement where
  providerPaymentId : String
  providerOrderId : Option String
  merchantReference : String
  /-- The amount, or why there is none. -/
  amount : Except Failure ℚ
  currency : String
  failureCode : Option String
  customerId : Option ℕ
  customerExternalId : Option String
  paymentMethod : Option String
  occurredAt : Time

/-- What an event of a type is read as that announces a payment. -/
def Announcement.reading (a : Announcement) (merchantId : ℕ) (eventType : String) :
    Except Failure NormalizedEvent :=
  match DomainEventType.ofText? eventType with
  | none => .ok (.unknown { occurredAt := a.occurredAt, rawEventType := eventType })
  | some domainType =>
    a.amount.map fun amount => .payment
      { eventType := domainType
        provider := simulatorName
        merchantId
        occurredAt := a.occurredAt
        providerPaymentId := a.providerPaymentId
        providerOrderId := a.providerOrderId
        merchantReference := a.merchantReference
        amount
        currency := a.currency
        failureCode := a.failureCode
        customerId := a.customerId
        customerExternalId := a.customerExternalId
        paymentMethod := a.paymentMethod }

/-- The worker finds in a payload what an announcement says. -/
structure Announces (env : EventText) (merchantId : ℕ) (payload : Payload) (a : Announcement) :
    Prop where
  providerPaymentId : payloadStr env.py payload ["provider_payment_id", "payment_id"] =
    some a.providerPaymentId
  named : a.providerPaymentId ≠ ""
  providerOrderId : payloadStr env.py payload ["provider_order_id", "order_id"] =
    a.providerOrderId
  merchantReference : merchantReference env payload merchantId = a.merchantReference
  read : readPayload env payload = a.amount.map fun amount => (amount, a.customerId)
  currency : (payloadStr env.py payload ["currency"]).getD "INR" = a.currency
  failureCode : payloadStr env.py payload ["failure_reason", "failure_code"] = a.failureCode
  customerExternalId : payloadStr env.py payload ["customer_external_id"] = a.customerExternalId
  paymentMethod : payloadStr env.py payload ["payment_method"] = a.paymentMethod
  occurredAt : Json.get? payload "occurred_at" = some (.str (env.py.isoformat a.occurredAt))

variable {env : EventText} {merchantId : ℕ} {payload : Payload} {a : Announcement}
  {event : ProviderEvent} {now : Time} {clock : ClockReadings} {key : String}

/-- The row of an event that announces a payment is read as the announcement. -/
theorem row_read_of_announces (henv : env.Documented) (h : Announces env merchantId event.payload a)
    (hprovider : event.provider = simulatorName) (now : Time) :
    (event.row env merchantId now).read env = a.reading merchantId event.eventType := by
  let rebuilt := event.rebuilt env merchantId now
  show normalizeProviderEvent env merchantId rebuilt = _
  have hsame : ∀ key ∈ payloadNames, Json.get? rebuilt.payload key = Json.get? event.payload key :=
    fun key hkey => get?_storedPayload henv event hkey
  have hinstant : rebuilt.occurredAt = a.occurredAt := by
    show occurredAt env.py (storedPayload env event) now = _
    rw [occurredAt_storedPayload henv, h.occurredAt]
    unfold occurredAt
    rw [h.occurredAt]
    simp only [Option.isSome_some, if_true, henv.isoformat, henv.fromisoformat, Option.getD_some,
      Bool.false_eq_true, if_false]
  have hrow : rebuilt.provider = simulatorName := by
    show (if event.provider = "" then "SIMULATOR" else event.provider) = _
    rw [hprovider]
    split <;> rfl
  unfold Announcement.reading
  cases htype : DomainEventType.ofText? event.eventType with
  | none =>
    have htype' : DomainEventType.ofText? rebuilt.eventType = none := htype
    unfold normalizeProviderEvent
    rw [htype']
    dsimp only
    rw [hinstant]
    rfl
  | some domainType =>
    have htype' : DomainEventType.ofText? rebuilt.eventType = some domainType := htype
    have hreference : rebuilt.merchantReference = a.merchantReference := by
      rw [← h.merchantReference]
      exact merchantReference_congr hsame env merchantId
    have hnamed : namedPayment env rebuilt.payload rebuilt.providerResourceId =
        a.providerPaymentId := by
      rw [namedPayment_congr hsame]
      unfold namedPayment
      rw [h.providerPaymentId]
      rfl
    rw [normalize_known htype']
    dsimp only
    rw [hnamed, if_neg h.named, readPayload_congr hsame, h.read]
    -- the fields of the event that the row is read as
    cases a.amount with
    | error f => rfl
    | ok amount =>
      show Except.ok (NormalizedEvent.payment (rebuilt.domainEvent env merchantId domainType
        a.providerPaymentId (amount, a.customerId))) = _
      unfold ProviderEvent.domainEvent
      rw [hinstant, hrow, hreference, payloadStr_congr hsame env.py (by decide +kernel),
        payloadStr_congr hsame env.py (by decide +kernel),
        payloadStr_congr hsame env.py (by decide +kernel),
        payloadStr_congr hsame env.py (by decide +kernel),
        payloadStr_congr hsame env.py (by decide +kernel), h.providerOrderId, h.currency,
        h.failureCode, h.customerExternalId, h.paymentMethod]
      rfl

/-! ## Readings of a payload -/

/-- A text that says something. -/
def saidText (text : Option String) : Option String := text.filter fun text => !isBlank text

/-- What a payload says under one key; `None` says nothing. -/
def givenUnder (payload : Payload) (key : String) : Option Json :=
  (Json.get? payload key).filter isGiven

theorem payloadStr_cons (py : PyText) (payload : Payload) (key : String) (keys : List String) :
    payloadStr py payload (key :: keys) =
      (payloadStr py payload [key]).or (payloadStr py payload keys) := by
  unfold payloadStr
  rw [List.findSome?_cons, List.findSome?_cons, List.findSome?_nil]
  split <;> rfl

theorem payloadStr_singleton (py : PyText) (payload : Payload) (key : String) :
    payloadStr py payload [key] =
      (givenUnder payload key).bind fun value => saidText (some (py.str value)) := by
  unfold payloadStr givenUnder saidText
  rw [List.findSome?_cons, List.findSome?_nil]
  rcases Json.get? payload key with _ | value
  · rfl
  · by_cases hblank : isBlank (py.str value) = true
    · cases value with
      | null => rfl
      | _ => simp [isGiven, hblank, Option.filter_some]
    · cases value with
      | null => rfl
      | _ => simp [isGiven, hblank, Option.filter_some]

/-- A text that is put under a key is what the payload says there. -/
theorem payloadStr_given (henv : env.Prints) {text : Option String}
    (h : givenUnder payload key = text.map .str) :
    payloadStr env.py payload [key] = saidText text := by
  rw [payloadStr_singleton, h]
  cases text with
  | none => rfl
  | some text =>
    show saidText (some (env.py.str (.str text))) = _
    rw [henv.str]

theorem requireDecimal_congr {py : PyText} {payload' : Payload}
    (h : givenUnder payload' "amount" = givenUnder payload "amount") :
    requireDecimal py payload' = requireDecimal py payload := by
  have hgiven : ∀ p : Payload, requireDecimal py p = (givenUnder p "amount").elim
      (.error (ingestionError "INVALID_PROVIDER_EVENT"
        "amount is required to normalize this event"))
      fun raw => (py.decimal (py.str raw)).elim
        (.error (ingestionError "INVALID_PROVIDER_EVENT" "amount must be a decimal value"))
        .ok := by
    intro p
    unfold requireDecimal givenUnder
    rcases Json.get? p "amount" with _ | value
    · rfl
    · cases value with
      | _ => rfl
  rw [hgiven, hgiven, h]

theorem get?_of_givenUnder {value : Json} (h : givenUnder payload key = some value) :
    Json.get? payload key = some value := (Option.filter_eq_some_iff.mp h).1

theorem givenUnder_ofOption {text : Option String}
    (h : Json.get? payload key = some (.ofOption text)) :
    givenUnder payload key = text.map .str := by
  unfold givenUnder
  rw [h]
  cases text with
  | _ => rfl

/-- The customer that a producer names. -/
theorem optionalUuid_given (henv : env.Prints) {customerId : Option ℕ}
    (h : givenUnder payload "customer_id" = customerId.map fun i => .str (env.uuidText i)) :
    optionalUuid env payload = .ok customerId := by
  unfold givenUnder at h
  unfold optionalUuid
  cases customerId with
  | none =>
    rcases hget : Json.get? payload "customer_id" with _ | value
    · rfl
    · rw [hget] at h
      cases value with
      | null => rfl
      | _ => cases h
  | some i =>
    obtain ⟨hget, -⟩ := Option.filter_eq_some_iff.mp h
    have hne : env.uuidText i ≠ "" := by
      intro hempty
      have hblank := henv.uuidText i
      rw [hempty] at hblank
      cases hblank
    rw [hget]
    split
    · rename_i hnone
      cases hnone
    · rename_i hnull
      cases hnull
    · rename_i hempty
      exact absurd (Json.str.inj (Option.some.inj hempty)) hne
    · rename_i value _ _ hvalue
      obtain rfl := Option.some.inj hvalue
      rw [henv.str, henv.uuid]
      rfl

/-- The amount and the customer, when the producer counts the attempt and names the customer. -/
theorem readPayload_given (henv : env.Prints) {number : ℤ} {customerId : Option ℕ}
    {amount : Except Failure ℚ} (hamount : requireDecimal env.py payload >>= finiteAmount = amount)
    (hnumber : Json.get? payload "attempt_number" = some (.int number))
    (hcustomer : givenUnder payload "customer_id" =
      customerId.map fun i => .str (env.uuidText i)) :
    readPayload env payload = amount.map fun amount => (amount, customerId) := by
  have hattempt : requireAttemptNumber env.py payload = .ok number := by
    unfold requireAttemptNumber
    rw [hnumber]
    rfl
  unfold readPayload
  rw [hattempt, optionalUuid_given henv hcustomer, ← hamount]
  cases requireDecimal env.py payload with
  | error f => rfl
  | ok d =>
    show (finiteAmount d >>= fun amount => Except.ok (amount, customerId)) = _
    cases hfinite : finiteAmount d with
    | error f =>
      show _ = Except.map _ (finiteAmount d)
      rw [hfinite]
      rfl
    | ok q =>
      show _ = Except.map _ (finiteAmount d)
      rw [hfinite]
      rfl

/-! ## Webhook bodies -/

namespace SimulatorWebhookRequest

variable {body : SimulatorWebhookRequest env.py}

/-- The amount of a body, else the one in its payload. -/
def sentAmount (env : EventText) (body : SimulatorWebhookRequest env.py) : Except Failure ℚ :=
  match body.amount with
  | some amount => .ok amount.value
  | none => requireDecimal env.py body.payload >>= finiteAmount

/-- What a body says of the payment it names. The fields of the body count, also where they are
left empty: of the payload there is no more to see than other names for the order and the failure,
and an amount where the body has none. -/
def announcement (env : EventText) (clock : ClockReadings) (merchantId : ℕ)
    (body : SimulatorWebhookRequest env.py) (providerPaymentId : String) : Announcement where
  providerPaymentId
  providerOrderId := (saidText body.providerOrderId).or
    (payloadStr env.py body.payload ["order_id"])
  merchantReference := body.reference env merchantId
  amount := body.sentAmount env
  currency := (saidText (some body.currency)).getD "INR"
  failureCode := (saidText body.failureReason).or
    (payloadStr env.py body.payload ["failure_code"])
  customerId := body.customerId
  customerExternalId := saidText body.customerExternalId
  paymentMethod := saidText body.paymentMethod
  occurredAt := body.occurredAt.getD clock.payload

theorem changes_nodup : ((body.changes env clock merchantId).map Prod.fst).Nodup := by
  show (["provider_payment_id", "provider_order_id", "amount", "currency", "status",
    "failure_reason", "attempt_number", "payment_method", "customer_id", "customer_external_id",
    "merchant_id", "merchant_reference", "occurred_at"] : List String).Nodup
  decide +kernel

/-- What the cleaned payload says under a key: what was written there, else what the body's own
payload says. -/
theorem givenUnder_cleaned (key : String) :
    givenUnder (body.cleaned env clock merchantId) key =
      ((Json.get? (body.changes env clock merchantId) key).or
        (Json.get? body.payload key)).filter isGiven := by
  have hnodup := Json.nodup_update body.payload_nodup (body.changes env clock merchantId)
  unfold givenUnder cleaned
  rw [Json.get?_filter_value isGiven hnodup, Json.get?_update _ changes_nodup, Option.filter_filter]
  simp

theorem givenUnder_change {value : Json} (h : (key, value) ∈ body.changes env clock merchantId)
    (hgiven : isGiven value = true) :
    givenUnder (body.cleaned env clock merchantId) key = some value := by
  rw [givenUnder_cleaned, Json.get?_of_mem changes_nodup h, Option.some_or,
    Option.filter_some_pos hgiven]

theorem givenUnder_text {text : Option String}
    (h : (key, Json.ofOption text) ∈ body.changes env clock merchantId) :
    givenUnder (body.cleaned env clock merchantId) key = text.map .str := by
  rw [givenUnder_cleaned, Json.get?_of_mem changes_nodup h, Option.some_or]
  cases text with
  | _ => rfl

theorem givenUnder_other (h : key ∉ (body.changes env clock merchantId).map Prod.fst) :
    givenUnder (body.cleaned env clock merchantId) key = givenUnder body.payload key := by
  rw [givenUnder_cleaned, Json.get?_of_notMem h, Option.none_or]
  rfl

theorem payloadStr_other (h : key ∉ (body.changes env clock merchantId).map Prod.fst) :
    payloadStr env.py (body.cleaned env clock merchantId) [key] =
      payloadStr env.py body.payload [key] := by
  rw [payloadStr_singleton, payloadStr_singleton, givenUnder_other h]

/-- The amount that the worker finds. -/
theorem requireDecimal_cleaned (henv : env.Prints) :
    requireDecimal env.py (body.cleaned env clock merchantId) >>= finiteAmount =
      body.sentAmount env := by
  unfold sentAmount
  cases hamount : body.amount with
  | some amount =>
    have hgiven : givenUnder (body.cleaned env clock merchantId) "amount" =
        some (.str amount.text) := by
      apply givenUnder_change _ rfl
      unfold changes
      simp [hamount]
    unfold requireDecimal
    rw [get?_of_givenUnder hgiven]
    dsimp only
    rw [henv.str, amount.reads]
    rfl
  | none =>
    have hgiven : givenUnder (body.cleaned env clock merchantId) "amount" =
        givenUnder body.payload "amount" := by
      have hchange : ("amount", (Json.get? body.payload "amount").getD .null) ∈
          body.changes env clock merchantId := by
        unfold changes
        simp [hamount]
      rw [givenUnder_cleaned, Json.get?_of_mem changes_nodup hchange]
      unfold givenUnder
      rcases Json.get? body.payload "amount" with _ | value
      · rfl
      · rfl
    rw [requireDecimal_congr hgiven]

theorem reference_ne_empty (henv : env.Prints) : body.reference env merchantId ≠ "" := by
  unfold reference givenText
  cases hreference : body.merchantReference.filter (· != "") with
  | some text =>
    have hgiven := (Option.filter_eq_some_iff.mp hreference).2
    simpa using hgiven
  | none =>
    intro hempty
    have hblank := henv.uuidText merchantId
    have htext : env.uuidText merchantId = "" := hempty
    rw [htext] at hblank
    cases hblank

/-- The cleaned payload announces what the body says. -/
theorem announces (henv : env.Prints) {providerPaymentId : String}
    (hnamed : body.resourceId env = some providerPaymentId)
    (hsaid : isBlank providerPaymentId = false) :
    Announces env merchantId (body.cleaned env clock merchantId)
      (body.announcement env clock merchantId providerPaymentId) where
  providerPaymentId := by
    have hgiven : givenUnder (body.cleaned env clock merchantId) "provider_payment_id" =
        (body.resourceId env).map .str := by
      apply givenUnder_text
      simp [changes]
    rw [payloadStr_cons, payloadStr_given henv hgiven, hnamed]
    simp [saidText, hsaid, announcement, Option.filter_some]
  named := by
    rintro rfl
    cases hsaid
  providerOrderId := by
    have hgiven : givenUnder (body.cleaned env clock merchantId) "provider_order_id" =
        body.providerOrderId.map .str := by
      apply givenUnder_text
      simp [changes]
    have hother : "order_id" ∉ (body.changes env clock merchantId).map Prod.fst := by
      simp [changes]
    rw [payloadStr_cons, payloadStr_given henv hgiven, payloadStr_other hother]
    rfl
  merchantReference := by
    have hgiven : givenUnder (body.cleaned env clock merchantId) "merchant_reference" =
        some (.str (body.reference env merchantId)) := by
      apply givenUnder_change _ rfl
      simp [changes]
    have htruthy : isTruthy (.str (body.reference env merchantId)) = true := by
      simpa [isTruthy] using reference_ne_empty henv
    unfold ReviveX.merchantReference
    rw [get?_of_givenUnder hgiven, Option.filter_some_pos htruthy]
    exact henv.str _
  read := by
    have hnumber : givenUnder (body.cleaned env clock merchantId) "attempt_number" =
        some (.int body.attemptNumber) := by
      apply givenUnder_change _ rfl
      simp [changes]
    have hcustomer : givenUnder (body.cleaned env clock merchantId) "customer_id" =
        (body.customerId.map env.uuidText).map .str := by
      apply givenUnder_text
      simp [changes]
    rw [Option.map_map] at hcustomer
    exact readPayload_given henv (requireDecimal_cleaned henv) (get?_of_givenUnder hnumber)
      hcustomer
  currency := by
    have hgiven : givenUnder (body.cleaned env clock merchantId) "currency" =
        (some body.currency).map .str := by
      apply givenUnder_change _ rfl
      simp [changes]
    rw [payloadStr_given henv hgiven]
    rfl
  failureCode := by
    have hgiven : givenUnder (body.cleaned env clock merchantId) "failure_reason" =
        body.failureReason.map .str := by
      apply givenUnder_text
      simp [changes]
    have hother : "failure_code" ∉ (body.changes env clock merchantId).map Prod.fst := by
      simp [changes]
    rw [payloadStr_cons, payloadStr_given henv hgiven, payloadStr_other hother]
    rfl
  customerExternalId := by
    have hgiven : givenUnder (body.cleaned env clock merchantId) "customer_external_id" =
        body.customerExternalId.map .str := by
      apply givenUnder_text
      simp [changes]
    rw [payloadStr_given henv hgiven]
    rfl
  paymentMethod := by
    have hgiven : givenUnder (body.cleaned env clock merchantId) "payment_method" =
        body.paymentMethod.map .str := by
      apply givenUnder_text
      simp [changes]
    rw [payloadStr_given henv hgiven]
    rfl
  occurredAt := by
    have hgiven : givenUnder (body.cleaned env clock merchantId) "occurred_at" =
        some (.str (env.py.isoformat (body.occurredAt.getD clock.payload))) := by
      apply givenUnder_change _ rfl
      simp [changes]
    exact get?_of_givenUnder hgiven

end SimulatorWebhookRequest

/-! ## Simulated payments -/

namespace ProviderSnapshot

variable {p : ProviderSnapshot env.py} {request : SimulatedPaymentRequest}

/-- What a snapshot and the request for it say of the payment. -/
def announcement (env : EventText) (clock : ClockReadings) (request : SimulatedPaymentRequest)
    (p : ProviderSnapshot env.py) : Announcement where
  providerPaymentId := p.providerPaymentId
  providerOrderId := saidText p.providerOrderId
  merchantReference := p.merchantReference
  amount := .ok p.amount.value
  currency := (saidText (some p.currency)).getD "INR"
  failureCode := p.failureReason.map FailureReason.text
  customerId := request.customerId
  customerExternalId := saidText (givenText request.customerExternalId)
  paymentMethod := saidText p.paymentMethod
  occurredAt := clock.payload

/-- The payload of the event that is built. -/
def built (env : EventText) (clock : ClockReadings) (request : SimulatedPaymentRequest)
    (p : ProviderSnapshot env.py) : Payload :=
  Json.update (p.payload env clock) (request.extra env)

/-- A field that is there when its value is. -/
theorem get?_optional {α : Type} (name : String) (f : α → Json) (value : Option α) (key : String) :
    Json.get? (value.map fun a => (name, f a)).toList key =
      if name = key then value.map f else none := by
  cases value with
  | none => simp [Json.get?]
  | some a => exact Json.get?_singleton name (f a) key

/-- The parties, under their names. -/
theorem get?_extra (key : String) :
    Json.get? (request.extra env) key =
      ((if "merchant_id" = key then some (.str (env.uuidText request.merchantId)) else none).or
        (if "customer_id" = key then request.customerId.map fun i => .str (env.uuidText i)
          else none)).or
        (if "customer_external_id" = key then (givenText request.customerExternalId).map .str
          else none) := by
  unfold SimulatedPaymentRequest.extra
  rw [Json.get?_append, Json.get?_append, Json.get?_singleton, get?_optional, get?_optional]

theorem extra_nodup : ((request.extra env).map Prod.fst).Nodup := by
  unfold SimulatedPaymentRequest.extra
  cases request.customerId with
  | none =>
    cases givenText request.customerExternalId with
    | none => simp
    | some text => simp
  | some i =>
    cases givenText request.customerExternalId with
    | none => simp
    | some text => simp

/-- What the payload says under a name that is not a party's. -/
theorem get?_built (h : key ≠ "merchant_id" ∧ key ≠ "customer_id" ∧ key ≠ "customer_external_id") :
    Json.get? (p.built env clock request) key = Json.get? (p.payload env clock) key := by
  obtain ⟨hmerchant, hcustomer, hexternal⟩ := h
  unfold built
  rw [Json.get?_update _ extra_nodup, get?_extra, if_neg hmerchant.symm, if_neg hcustomer.symm,
    if_neg hexternal.symm]
  rfl

theorem payloadStr_built (henv : env.Prints) {text : Option String}
    (h : key ≠ "merchant_id" ∧ key ≠ "customer_id" ∧ key ≠ "customer_external_id")
    (hget : Json.get? (p.payload env clock) key = some (.ofOption text)) :
    payloadStr env.py (p.built env clock request) [key] = saidText text := by
  apply payloadStr_given henv
  apply givenUnder_ofOption
  rw [get?_built h, hget]

theorem payloadStr_unbuilt
    (h : key ≠ "merchant_id" ∧ key ≠ "customer_id" ∧ key ≠ "customer_external_id")
    (hget : Json.get? (p.payload env clock) key = none) :
    payloadStr env.py (p.built env clock request) [key] = none := by
  rw [payloadStr_singleton]
  unfold givenUnder
  rw [get?_built h, hget]
  rfl

/-- No reason of a failure is blank. -/
theorem saidText_failureReason (reason : Option FailureReason) :
    saidText (reason.map FailureReason.text) = reason.map FailureReason.text := by
  rcases reason with _ | reason
  · rfl
  · cases reason with
    | _ => decide +kernel

/-- The built payload announces what the snapshot and the request say. -/
theorem announces (henv : env.Prints) (hsaid : isBlank p.providerPaymentId = false)
    (hreference : p.merchantReference ≠ "") :
    Announces env merchantId (p.built env clock request) (p.announcement env clock request) where
  providerPaymentId := by
    have hid : payloadStr env.py (p.built env clock request) ["provider_payment_id"] =
        saidText (some p.providerPaymentId) := by
      apply payloadStr_built henv (by decide +kernel)
      simp [payload, Json.get?, Json.ofOption]
    rw [payloadStr_cons, hid]
    simp [saidText, hsaid, announcement, Option.filter_some]
  named := by
    intro hempty
    have hid : p.providerPaymentId = "" := hempty
    rw [hid] at hsaid
    cases hsaid
  providerOrderId := by
    have horder : payloadStr env.py (p.built env clock request) ["provider_order_id"] =
        saidText p.providerOrderId := by
      apply payloadStr_built henv (by decide +kernel)
      simp [payload, Json.get?]
    have hother : payloadStr env.py (p.built env clock request) ["order_id"] = none := by
      apply payloadStr_unbuilt (by decide +kernel)
      simp [payload, Json.get?]
    rw [payloadStr_cons, horder, hother, Option.or_none]
    rfl
  merchantReference := by
    have hget : Json.get? (p.built env clock request) "merchant_reference" =
        some (.str p.merchantReference) := by
      rw [get?_built (by decide +kernel)]
      simp [payload, Json.get?]
    have htruthy : isTruthy (.str p.merchantReference) = true := by
      simpa [isTruthy] using hreference
    unfold ReviveX.merchantReference
    rw [hget, Option.filter_some_pos htruthy]
    exact henv.str _
  read := by
    have hamount : requireDecimal env.py (p.built env clock request) =
        .ok (.finite p.amount.value) := by
      have hget : Json.get? (p.built env clock request) "amount" = some (.str p.amount.text) := by
        rw [get?_built (by decide +kernel)]
        simp [payload, Json.get?]
      unfold requireDecimal
      rw [hget]
      dsimp only
      rw [henv.str, p.amount.reads]
      rfl
    have hnumber : Json.get? (p.built env clock request) "attempt_number" =
        some (.int p.attemptNumber) := by
      rw [get?_built (by decide +kernel)]
      simp [payload, Json.get?]
    have hcustomer : givenUnder (p.built env clock request) "customer_id" =
        request.customerId.map fun i => .str (env.uuidText i) := by
      unfold givenUnder built
      rw [Json.get?_update _ extra_nodup, get?_extra]
      cases request.customerId with
      | none => simp [payload, Json.get?]
      | some i => simp [isGiven, Option.filter_some]
    apply readPayload_given henv _ hnumber hcustomer
    rw [hamount]
    rfl
  currency := by
    have hcurrency : payloadStr env.py (p.built env clock request) ["currency"] =
        saidText (some p.currency) := by
      apply payloadStr_built henv (by decide +kernel)
      simp [payload, Json.get?, Json.ofOption]
    rw [hcurrency]
    rfl
  failureCode := by
    have hreason : payloadStr env.py (p.built env clock request) ["failure_reason"] =
        saidText (p.failureReason.map FailureReason.text) := by
      apply payloadStr_built henv (by decide +kernel)
      simp [payload, Json.get?]
    have hother : payloadStr env.py (p.built env clock request) ["failure_code"] = none := by
      apply payloadStr_unbuilt (by decide +kernel)
      simp [payload, Json.get?]
    rw [payloadStr_cons, hreason, hother, Option.or_none, saidText_failureReason]
    rfl
  customerExternalId := by
    have hgiven : givenUnder (p.built env clock request) "customer_external_id" =
        (givenText request.customerExternalId).map .str := by
      unfold givenUnder built
      rw [Json.get?_update _ extra_nodup, get?_extra]
      cases givenText request.customerExternalId with
      | none => simp [payload, Json.get?]
      | some text => simp [isGiven, Option.filter_some]
    rw [payloadStr_given henv hgiven]
    rfl
  paymentMethod := by
    have hmethod : payloadStr env.py (p.built env clock request) ["payment_method"] =
        saidText p.paymentMethod := by
      apply payloadStr_built henv (by decide +kernel)
      simp [payload, Json.get?]
    rw [hmethod]
    rfl
  occurredAt := by
    rw [get?_built (by decide +kernel)]
    simp [payload, Json.get?, announcement]

end ProviderSnapshot

/-! ## Runs -/

theorem WebhookEvent.SameDelivery.trans {row row' row'' : WebhookEvent}
    (h : row.SameDelivery row') (h' : row'.SameDelivery row'') : row.SameDelivery row'' :=
  ⟨h'.merchantId.trans h.merchantId, h'.provider.trans h.provider, h'.eventId.trans h.eventId,
    h'.eventType.trans h.eventType, h'.payload.trans h.payload, h'.receivedAt.trans h.receivedAt⟩

variable {db db' : WebhookDatabase} {statement : WebhookStatement} {i : ℕ}

/-- No statement changes what was delivered. -/
theorem rowsKept_step (h : WebhookStep env db statement db') :
    RowsKept db.store.webhookEvents db'.store.webhookEvents := by
  cases h with
  | ingest now enqueue event merchantId =>
    obtain ⟨-, hrows, -⟩ := (ingest_outcome env now enqueue event merchantId db.store).kept
    exact .of_get? hrows
  | begin => exact .refl _
  | readPayment => exact .refl _
  | readNumber => exact .refl _
  | commit now t audits hstage hrow => exact .modify hrow ⟨rfl, rfl, rfl, rfl, rfl, rfl⟩
  | commitUnknown now audits hstage hrow => exact .modify hrow ⟨rfl, rfl, rfl, rfl, rfl, rfl⟩
  | refuse e audits hstage hrow => exact .modify hrow ⟨rfl, rfl, rfl, rfl, rfl, rfl⟩
  | rollback => exact .refl _
  | markRead => exact .refl _
  | markWrite error audits hmarking hunlocked hrow =>
    exact .modify hrow ⟨rfl, rfl, rfl, rfl, rfl, rfl⟩

/-- A row is read the same in every state of a run. -/
theorem read_run {statements : List WebhookStatement} {row : WebhookEvent}
    (hrun : Run (WebhookStep env) db statements db')
    (hrow : db.store.webhookEvents.get? i = some row) :
    ∃ row', db'.store.webhookEvents.get? i = some row' ∧ row'.read env = row.read env := by
  have hkept : ∃ row', db'.store.webhookEvents.get? i = some row' ∧ row.SameDelivery row' := by
    refine hrun.invariant (P := fun db => ∃ row', db.store.webhookEvents.get? i = some row' ∧
      row.SameDelivery row') ?_ ⟨row, hrow, .refl row⟩
    rintro w statement w' ⟨row', hrow', hsame⟩ hstep
    obtain ⟨row'', hrow'', hsame'⟩ := rowsKept_step hstep i row' hrow'
    exact ⟨row'', hrow'', hsame.trans hsame'⟩
  obtain ⟨row', hrow', hsame⟩ := hkept
  exact ⟨row', hrow', hsame.read env⟩

/-- The workers read of a row what was announced, in every state of every run. -/
def ReadAs (env : EventText) (db : WebhookDatabase) (webhookEventId : ℕ)
    (reading : Except Failure NormalizedEvent) : Prop :=
  ∀ statements db', Run (WebhookStep env) db statements db' →
    ∃ row, db'.store.webhookEvents.get? webhookEventId = some row ∧ row.read env = reading

/-- An event that announces a payment and is stored as new is read as the announcement for good. -/
theorem readAs_of_announces (henv : env.Documented)
    (h : Announces env merchantId event.payload a) (hprovider : event.provider = simulatorName)
    {enqueue : Bool} {s s' : Store} {r : IngestResult}
    (hstored : (ingest env now enqueue event merchantId).run s = (.ok r, s'))
    (hnew : r.duplicate = false) (hstore : db.store = s') :
    ReadAs env db r.webhookEventId (a.reading merchantId event.eventType) := by
  intro statements db' hrun
  have hrow := ingest_stored hstored hnew
  rw [← hstore] at hrow
  obtain ⟨row', hrow', hread⟩ := read_run hrun hrow
  exact ⟨row', hrow', hread.trans (row_read_of_announces henv h hprovider now)⟩

theorem webhookToProviderEvent_ok {body : SimulatorWebhookRequest env.py}
    (h : webhookToProviderEvent env clock merchantId body = .ok event) :
    event.provider = simulatorName ∧ event.eventType = stripText body.eventType ∧
      event.payload = body.cleaned env clock merchantId := by
  unfold webhookToProviderEvent at h
  dsimp only at h
  split at h
  · cases h
  · split at h
    · cases h
    · cases h
    · split at h
      · cases h
      · split at h
        · cases h
        · obtain rfl := Except.ok.inj h
          exact ⟨rfl, rfl, rfl⟩

/-- Identifiers in unary. -/
def unaryEventText : EventText :=
  { epochEventText with
    uuid := fun text => if text.toList.head? = some 'u' then some (text.toList.length - 1) else none
    uuidText := fun i => String.ofList ('u' :: List.replicate i 'i') }

theorem unaryEventText_prints : unaryEventText.Prints where
  lower := epochEventText_documented.lower
  fromisoformat := epochEventText_documented.fromisoformat
  isoformat := epochEventText_documented.isoformat
  str _ := rfl
  uuid i := by
    have htext : (unaryEventText.uuidText i).toList = 'u' :: List.replicate i 'i' :=
      String.toList_ofList
    show (if (unaryEventText.uuidText i).toList.head? = some 'u' then
      some ((unaryEventText.uuidText i).toList.length - 1) else none) = _
    rw [htext]
    simp
  uuidText i := by
    show (String.ofList _).toList.all isSpace = false
    rw [String.toList_ofList, List.all_cons, show isSpace 'u' = false from rfl, Bool.false_and]

/-- A capture of ₹499 for the first customer, with other parties in its payload. -/
def postedCapture : SimulatorWebhookRequest unaryEventText.py where
  eventId := some " evt_1 "
  eventType := "payment.captured"
  occurredAt := some 0
  providerResourceId := some "pay_1"
  customerId := some 0
  amount := some ⟨499, "499.00", rfl⟩
  payload := [("customer_id", .str "uii"), ("currency", .str "USD"), ("order_id", .str "order_1")]

/-- What the worker is to read of it. -/
def readCapture : DomainPaymentEvent where
  eventType := .paymentCaptured
  provider := "SIMULATOR"
  merchantId := 0
  occurredAt := 0
  providerPaymentId := "pay_1"
  providerOrderId := some "order_1"
  merchantReference := "u"
  amount := 499
  customerId := some 0
  paymentMethod := some "card"

def postCapture : Except Failure IngestResult × Store :=
  (ingestSimulatorWebhook unaryEventText ⟨1, 2⟩ 3 true 0 postedCapture).run quietStore

/-- The failure that a simulator makes. -/
def simulatedFailure (failure : Option FailureReason) : ProviderSnapshot unaryEventText.py where
  providerPaymentId := "pay_sim_1"
  providerOrderId := some "order_sim_1"
  merchantReference := "u"
  amount := ⟨499, "499.00", rfl⟩
  currency := "INR"
  status := "FAILED"
  failureReason := failure

def failureRequest : SimulatedPaymentRequest where
  merchantId := 0
  customerId := some 0
  seed := 42
  eventType := "payment.failed"
  failureReason := some "TEMPORARY_BANK_ERROR"

def readFailure : DomainPaymentEvent where
  eventType := .paymentFailed
  provider := "SIMULATOR"
  merchantId := 0
  occurredAt := 1
  providerPaymentId := "pay_sim_1"
  providerOrderId := some "order_sim_1"
  merchantReference := "u"
  amount := 499
  failureCode := some "TEMPORARY_BANK_ERROR"
  customerId := some 0
  paymentMethod := some "card"

def ingestFailure : Except Failure IngestResult × Store :=
  (ingestSimulatedPayment unaryEventText ⟨1, 2⟩ id 3 true simulatedFailure failureRequest).run
    quietStore

end ReviveX
