import ReviveX.Domain.Ingestion

/-!
# What one ingestion does

`Ingested` lists the three ways `ingest` can go: it refuses the event, finds it stored
already, or stores it. Nothing else is needed of the code to reason about deliveries.
-/

namespace ReviveX

open Lib (Session Table)

variable {env : EventText} {now : Time} {enqueue : Bool} {event : ProviderEvent}
  {merchantId : ℕ} {s : Store}

/-- The answer to a delivery of an event that is stored already. -/
def duplicateResult (enqueue : Bool) (webhookEventId : ℕ) (row : WebhookEvent) : IngestResult where
  webhookEventId := webhookEventId
  eventId := row.eventId
  status := row.status
  duplicate := true
  queued := enqueue && [WebhookEventStatus.received, .processing, .failed].contains row.status
  merchantId := row.merchantId

/-- The answer to the first delivery of an event. -/
def storedResult (enqueue : Bool) (webhookEventId : ℕ) (event : ProviderEvent)
    (merchantId : ℕ) : IngestResult where
  webhookEventId := webhookEventId
  eventId := event.eventId
  status := .received
  duplicate := false
  queued := enqueue
  merchantId := merchantId

/-- The audit row of an ingestion. -/
def ingestAudit (now : Time) (merchantId : ℕ) (eventType : AuditEventType) (action : String)
    (status : WebhookEventStatus) : AuditEvent where
  merchantId := merchantId
  caseId := none
  actorType := .system
  eventType := eventType
  action := action
  newState := some (.webhook status)
  createdAt := now

/-- A delivery that is refused, and why. -/
def ProviderEvent.admission (event : ProviderEvent) (merchantId : ℕ) (s : Store) :
    Except Failure Unit :=
  match validateEvent event with
  | .error f => .error f
  | .ok () =>
    if (s.merchants.get? merchantId).isNone then
      .error (ingestionError "MISSING_MERCHANT" "Merchant was not found")
    else if (s.webhookOfProvider event.provider event.eventId).isNone ∧
        (s.webhookOfProvider (if event.provider = "" then "SIMULATOR" else event.provider)
          event.eventId).isSome then
      .error (.crash "IntegrityError")
    else .ok ()

/-- The answer to a delivery and the store after it. -/
inductive Ingested (env : EventText) (now : Time) (enqueue : Bool) (event : ProviderEvent)
    (merchantId : ℕ) (s : Store) : Except Failure IngestResult → Store → Prop
  | refused (f : Failure) (hrefused : event.admission merchantId s = .error f) :
      Ingested env now enqueue event merchantId s (.error f) s
  | duplicate {webhookEventId : ℕ} {row : WebhookEvent}
      (hadmitted : event.admission merchantId s = .ok ())
      (hfound : s.webhookOfProvider event.provider event.eventId = some webhookEventId)
      (hrow : s.webhookEvents.get? webhookEventId = some row) :
      Ingested env now enqueue event merchantId s
        (.ok (duplicateResult enqueue webhookEventId row))
        { s with
          auditEvents := s.auditEvents.insert
            (ingestAudit now row.merchantId .duplicateEventIgnored "ingest_duplicate"
              row.status) }
  | stored (hadmitted : event.admission merchantId s = .ok ())
      (hvalid : validateEvent event = .ok ())
      (hmerchant : (s.merchants.get? merchantId).isSome = true)
      (hnew : s.webhookOfProvider event.provider event.eventId = none)
      (hunique : s.webhookOfProvider (event.row env merchantId now).provider event.eventId = none) :
      Ingested env now enqueue event merchantId s
        (.ok (storedResult enqueue s.webhookEvents.nextId event merchantId))
        { s with
          webhookEvents := s.webhookEvents.insert (event.row env merchantId now)
          auditEvents := s.auditEvents.insert
            (ingestAudit now merchantId .providerEventReceived "ingest" .received) }

theorem webhookOfProvider_row {s : Store} {provider eventId : String} {i : ℕ}
    (h : s.webhookOfProvider provider eventId = some i) :
    ∃ row, s.webhookEvents.get? i = some row ∧ row.provider = provider ∧
      row.eventId = eventId := by
  obtain ⟨row, hrow, hkey⟩ := Table.get?_of_findId? h
  exact ⟨row, hrow, by simpa using hkey⟩

/-- Every ingestion ends in one of the three ways. -/
theorem ingest_outcome (env : EventText) (now : Time) (enqueue : Bool) (event : ProviderEvent)
    (merchantId : ℕ) (s : Store) :
    Ingested env now enqueue event merchantId s
      ((ingest env now enqueue event merchantId).run s).1
      ((ingest env now enqueue event merchantId).run s).2 := by
  unfold ingest
  rw [Session.run_ofExcept_bind]
  cases hvalid : validateEvent event with
  | error f =>
    have hrefused : event.admission merchantId s = .error f := by
      unfold ProviderEvent.admission
      rw [hvalid]
    exact .refused f hrefused
  | ok =>
    dsimp only
    rw [Session.run_get_bind, Session.run_ite]
    -- what is left of the admission of a valid event
    have hadmission : event.admission merchantId s =
        if (s.merchants.get? merchantId).isNone then
          .error (ingestionError "MISSING_MERCHANT" "Merchant was not found")
        else if (s.webhookOfProvider event.provider event.eventId).isNone ∧
            (s.webhookOfProvider (event.row env merchantId now).provider event.eventId).isSome then
          .error (.crash "IntegrityError")
        else .ok () := by
      unfold ProviderEvent.admission
      rw [hvalid]
      rfl
    by_cases hmissing : (s.merchants.get? merchantId).isNone = true
    · rw [if_pos hmissing] at hadmission ⊢
      exact .refused _ hadmission
    rw [if_neg hmissing] at hadmission ⊢
    have hmerchant : (s.merchants.get? merchantId).isSome = true := by
      simpa [Option.isSome_iff_ne_none] using hmissing
    cases hfound : s.webhookOfProvider event.provider event.eventId with
    | some i =>
      obtain ⟨row, hrow, -⟩ := webhookOfProvider_row hfound
      rw [hfound, if_neg (by simp)] at hadmission
      rw [Option.bind_some, hrow]
      exact .duplicate hadmission hfound hrow
    | none =>
      rw [hfound] at hadmission
      show Ingested env now enqueue event merchantId s
        ((storeEvent env now enqueue event merchantId).run s).1
        ((storeEvent env now enqueue event merchantId).run s).2
      unfold storeEvent
      rw [Session.run_get_bind]
      dsimp only
      rw [Session.run_ite]
      -- the lookup uses the raw name of the provider, the unique index the stored one
      by_cases hconflict : (s.webhookOfProvider (event.row env merchantId now).provider
          (event.row env merchantId now).eventId).isSome = true
      · rw [if_pos hconflict]
        rw [if_pos ⟨rfl, hconflict⟩] at hadmission
        exact .refused _ hadmission
      · rw [if_neg hconflict]
        rw [if_neg (fun h => hconflict h.2)] at hadmission
        have hfresh := Option.not_isSome_iff_eq_none.mp hconflict
        exact .stored hadmission hvalid hmerchant hfound hfresh

end ReviveX
