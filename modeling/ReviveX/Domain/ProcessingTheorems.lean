import ReviveX.Domain.Ingestion
import ReviveX.Domain.LifecycleTheorems

/-!
# What webhook processing may do to a case

The services that store and process provider events never rewrite a case: they open new ones,
in `DETECTED`, with nothing recovered. A lifecycle frame that also allows a case to be opened
is a `WebhookFrame`, and all of them keep it.
-/

namespace ReviveX

open Lib (Session Table)

/-- A lifecycle frame that also allows a failed payment to open a case. -/
structure WebhookFrame (R : Store → Store → Prop) : Prop extends LifecycleFrame R where
  opened : ∀ (s : Store) (p : Payment) (merchantId paymentId : ℕ) (now : Time),
    R s { s with cases := s.cases.insert (p.openedCase merchantId paymentId now) }

/-- New rows do not matter to the rows that are there. -/
theorem WebhookFrame.of_rows {P : RecoveryCase → RecoveryCase → Prop} (hrefl : ∀ c, P c c)
    (htrans : ∀ a b c, P a b → P b c → P a c)
    (hmove : ∀ c target now, canTransition c.status target = true → P c (c.moveTo target now)) :
    WebhookFrame (CasesKept P) where
  toLifecycleFrame := .of_rows hrefl htrans hmove
  opened s p merchantId paymentId now := by
    intro j c hc
    exact ⟨c, Table.get?_insert_of_some hc _, hrefl c⟩

namespace WebhookFrame

variable {R : Store → Store → Prop}

theorem keeps_workerAudit (h : WebhookFrame R) (now : Time) (merchantId : ℕ)
    (eventType : AuditEventType) {action : String} (caseId : Option ℕ)
    (previousState newState : Option AuditState) (haction : action ≠ "transition") :
    Session.Keeps R (Service.recordAudit
      (workerAudit now merchantId eventType action caseId previousState newState)) :=
  h.keeps_recordAudit fun heq => haction (Option.some.inj heq)

theorem keeps_modifyWebhookEvent (h : WebhookFrame R) (webhookEventId : ℕ)
    (f : WebhookEvent → WebhookEvent) :
    Session.Keeps R (Service.modifyWebhookEvent webhookEventId f) :=
  h.keeps_modify (fun _ => rfl) fun _ => rfl

/-! ## Payments -/

theorem keeps_addAttempt (h : WebhookFrame R) (paymentId : ℕ) (e : DomainPaymentEvent)
    (status : PaymentStatus) (amount : Money) :
    Session.Keeps R (addAttempt paymentId e status amount) :=
  .get_bind fun _ => h.keeps_modify (fun _ => rfl) fun _ => rfl

theorem keeps_findOrCreatePayment (h : WebhookFrame R) (e : DomainPaymentEvent)
    (status : PaymentStatus) : Session.Keeps R (findOrCreatePayment e status) := by
  refine .get_bind fun s => ?_
  split
  · exact h.bind (h.keeps_ofExcept _) fun amount =>
      h.bind (h.keeps_modify (fun _ => rfl) fun _ => rfl) fun _ =>
      h.bind (h.keeps_addAttempt _ e status amount) fun _ => h.keeps_pure _
  · exact h.bind (h.keeps_ofExcept _) fun _ => h.bind (h.keeps_ofExcept _) fun amount =>
      h.bind (h.keeps_modifyGet (fun _ => rfl) fun _ => rfl) fun paymentId =>
      h.bind (h.keeps_addAttempt paymentId e status amount) fun _ => h.keeps_pure _

theorem keeps_auditPayment (h : WebhookFrame R) (now : Time) (e : DomainPaymentEvent)
    (status : PaymentStatus) (previous : Option PaymentStatus) (caseId : Option ℕ) :
    Session.Keeps R (auditPayment now e status previous caseId) :=
  h.keeps_workerAudit now _ _ caseId _ _ (by decide)

theorem keeps_readPayment (h : WebhookFrame R) (paymentId : ℕ) :
    Session.Keeps R (readPayment paymentId) := by
  refine .get_bind fun s => ?_
  split
  · exact h.keeps_pure _
  · exact h.keeps_raise _

/-! ## Cases -/

theorem keeps_createOrAttachRecoveryCase (h : WebhookFrame R) (now : Time)
    (webhookEventId : ℕ) (e : DomainPaymentEvent) (paymentId : ℕ) :
    Session.Keeps R (createOrAttachRecoveryCase now webhookEventId e paymentId) := by
  refine h.bind (h.keeps_readPayment paymentId) fun p => .get_bind fun s => ?_
  split
  · exact h.bind (h.keeps_workerAudit now _ _ _ _ _ (by decide)) fun _ => h.keeps_pure _
  · have hopen : Session.Keeps R (Service.insertCase (p.openedCase e.merchantId paymentId now)) :=
      .modifyGet fun s => h.opened s p e.merchantId paymentId now
    exact h.bind hopen fun caseId =>
      h.bind (h.keeps_workerAudit now _ _ _ _ _ (by decide)) fun _ => h.keeps_pure _

theorem keeps_handlePaymentFailed (h : WebhookFrame R) (now : Time) (webhookEventId : ℕ)
    (e : DomainPaymentEvent) : Session.Keeps R (handlePaymentFailed now webhookEventId e) :=
  h.bind (h.keeps_findOrCreatePayment e _) fun _ =>
    h.bind (h.keeps_auditPayment now e _ _ _) fun _ =>
      h.keeps_createOrAttachRecoveryCase now webhookEventId e _

theorem keeps_handlePaymentCaptured (h : WebhookFrame R) (now : Time) (webhookEventId : ℕ)
    (e : DomainPaymentEvent) : Session.Keeps R (handlePaymentCaptured now webhookEventId e) :=
  h.bind (h.keeps_findOrCreatePayment e _) fun _ =>
    h.bind (h.keeps_readPayment _) fun _ => .get_bind fun _ =>
      h.bind (h.keeps_auditPayment now e _ _ _) fun _ => h.keeps_pure _

theorem keeps_handlePaymentStatus (h : WebhookFrame R) (now : Time) (e : DomainPaymentEvent)
    (status : PaymentStatus) : Session.Keeps R (handlePaymentStatus now e status) :=
  h.bind (h.keeps_findOrCreatePayment e _) fun _ =>
    h.bind (h.keeps_auditPayment now e _ _ _) fun _ => h.keeps_pure _

/-! ## Events -/

theorem keeps_dispatch (h : WebhookFrame R) (now : Time) (webhookEventId merchantId : ℕ)
    (event : NormalizedEvent) :
    Session.Keeps R (dispatch now webhookEventId merchantId event) := by
  cases event with
  | unknown _ =>
    exact h.bind (h.keeps_workerAudit now _ _ _ _ _ (by decide)) fun _ => h.keeps_pure _
  | payment e =>
    unfold dispatch
    dsimp only
    split
    · exact h.keeps_handlePaymentFailed now webhookEventId e
    · exact h.keeps_handlePaymentCaptured now webhookEventId e
    all_goals exact h.keeps_handlePaymentStatus now e _

theorem keeps_processRow (h : WebhookFrame R) (env : EventText) (now : Time)
    (webhookEventId : ℕ) (row : WebhookEvent) :
    Session.Keeps R (processRow env now webhookEventId row) :=
  .get_bind fun _ => .ite (h.keeps_raise _) <|
    h.bind (h.keeps_ofExcept _) fun event =>
    h.bind (h.keeps_dispatch now webhookEventId _ event) fun _ =>
    h.bind (h.keeps_modifyWebhookEvent _ _) fun _ =>
    h.bind (h.keeps_workerAudit now _ _ _ _ _ (by decide)) fun _ => h.keeps_pure _

theorem keeps_markFailure (h : WebhookFrame R) (now : Time) (webhookEventId : ℕ)
    (row : WebhookEvent) (e : DomainError) (status : WebhookEventStatus) {action : String}
    (haction : action ≠ "transition") :
    Session.Keeps R (markFailure now webhookEventId row e status action) :=
  h.bind (h.keeps_modifyWebhookEvent _ _) fun _ =>
    h.keeps_workerAudit now _ _ _ _ _ haction

theorem keeps_recordRowFailure (h : WebhookFrame R) (now : Time) (webhookEventId : ℕ)
    (row : WebhookEvent) (f : Failure) :
    Session.Keeps R (recordRowFailure now webhookEventId row f) := by
  cases f with
  | crash exception => exact h.keeps_raise _
  | domain e =>
    exact .ite
      (h.bind (h.keeps_markFailure now _ row e _ (by decide)) fun _ => h.keeps_raise _)
      (h.bind (h.keeps_markFailure now _ row e _ (by decide)) fun _ => h.keeps_pure _)

theorem keeps_processWebhookEvent (h : WebhookFrame R) (env : EventText) (now : Time)
    (webhookEventId : ℕ) : Session.Keeps R (processWebhookEvent env now webhookEventId) := by
  refine .get_bind fun s => ?_
  split
  · exact h.keeps_raise _
  · exact .ite (h.keeps_pure _) <| .ite (h.keeps_pure _) <|
      h.bind (h.keeps_modifyWebhookEvent _ _) fun _ =>
        .recover h.trans (h.keeps_processRow env now _ _) fun f =>
          h.keeps_recordRowFailure now _ _ f

theorem keeps_markDeadLetter (h : WebhookFrame R) (now : Time) (webhookEventId : ℕ)
    (error : String) : Session.Keeps R (markDeadLetter now webhookEventId error) := by
  refine .get_bind fun s => ?_
  split
  · exact h.keeps_pure ()
  · exact .ite (h.keeps_pure ()) <| h.bind (h.keeps_modifyWebhookEvent _ _) fun _ =>
      h.keeps_workerAudit now _ _ _ _ _ (by decide)

/-! ## Ingestion -/

theorem keeps_auditIngest (h : WebhookFrame R) (now : Time) (merchantId : ℕ)
    (eventType : AuditEventType) {action : String} (status : WebhookEventStatus)
    (haction : action ≠ "transition") :
    Session.Keeps R (auditIngest now merchantId eventType action status) :=
  h.keeps_recordAudit fun heq => haction (Option.some.inj heq)

theorem keeps_storeEvent (h : WebhookFrame R) (env : EventText) (now : Time) (enqueue : Bool)
    (event : ProviderEvent) (merchantId : ℕ) :
    Session.Keeps R (storeEvent env now enqueue event merchantId) :=
  .get_bind fun _ => .ite (h.keeps_raise _) <|
    h.bind (h.keeps_modifyGet (fun _ => rfl) fun _ => rfl) fun _ =>
    h.bind (h.keeps_auditIngest now _ _ _ (by decide)) fun _ => h.keeps_pure _

theorem keeps_ingest (h : WebhookFrame R) (env : EventText) (now : Time) (enqueue : Bool)
    (event : ProviderEvent) (merchantId : ℕ) :
    Session.Keeps R (ingest env now enqueue event merchantId) := by
  refine h.bind (h.keeps_ofExcept _) fun _ => .get_bind fun s => .ite (h.keeps_raise _) ?_
  split
  · exact h.bind (h.keeps_auditIngest now _ _ _ (by decide)) fun _ => h.keeps_pure _
  · exact h.keeps_storeEvent env now enqueue event merchantId

end WebhookFrame

end ReviveX
