import ReviveX.Domain.DispatchTheorems
import ReviveX.Domain.OrderTheorems
import ReviveX.Domain.ProcessingTheorems

/-!
# Dead letters

An event that is refused for good ends as a dead letter, and that is all: its row gets the
status and the error, and the audit trail grows. Nothing rolls back on this path, so it rests
on every refusal coming before the first write of its event.
-/

namespace ReviveX

open Lib (Session Table)

/-! ## The audit trail -/

/-- Audit rows are added and never changed. -/
def AuditsGrow (s s' : Store) : Prop := s.auditEvents.rows <+: s'.auditEvents.rows

theorem auditsGrow_caseFrame (caseId : ℕ) : CaseFrame caseId AuditsGrow where
  refl _ := List.prefix_refl _
  trans _ _ _ h h' := List.IsPrefix.trans h h'
  modifyCase _ _ := List.prefix_refl _
  recordAudit _ _ := List.prefix_append _ _

/-- The services of a case and of its events only add to the audit trail. -/
theorem auditsGrow_webhookFrame : WebhookFrame AuditsGrow where
  refl _ := List.prefix_refl _
  trans _ _ _ h h' := List.IsPrefix.trans h h'
  elsewhere s s' _ h := by
    unfold AuditsGrow
    rw [h]
  audit _ _ _ := List.prefix_append _ _
  transition caller caseId target :=
    (auditsGrow_caseFrame caseId).keeps_transitionCase caller target
  opened _ _ _ _ _ := List.prefix_refl _

/-! ## What a dead letter changes -/

variable {env : EventText} {now : Time} {webhookEventId : ℕ} {s s' : Store}
  {row : WebhookEvent} {r : ProcessingResult}

/-- The row has become a dead letter, or was one; the rest is as before, but for new audit
rows. -/
structure OnlyDeadLettered (webhookEventId : ℕ) (s s' : Store) : Prop where
  row : ∃ (row : WebhookEvent) (errorCode errorMessage : Option String),
    s.webhookEvents.get? webhookEventId = some row ∧
      s'.webhookEvents = s.webhookEvents.modify webhookEventId fun _ =>
        { row with status := .deadLetter, errorCode, errorMessage }
  audits : AuditsGrow s s'
  elsewhere : s' = s.withTrail s'.webhookEvents s'.auditEvents

/-- A row that is done with is answered for what it is, and nothing is written. -/
theorem run_processWebhookEvent_settled
    (hrow : s.webhookEvents.get? webhookEventId = some row)
    (hsettled : row.status.isSettled = true) :
    (processWebhookEvent env now webhookEventId).run s =
      (.ok
        { status := if row.status = .processed then .alreadyProcessed else .deadLetter
          webhookEventId }, s) := by
  unfold processWebhookEvent
  rw [Session.run_get_bind, hrow]
  dsimp only
  rw [Session.run_ite, Session.run_ite]
  by_cases hprocessed : row.status = .processed
  · rw [if_pos hprocessed, if_pos hprocessed]
    rfl
  · have hdead : row.status = .deadLetter := by
      simpa [WebhookEventStatus.isSettled, hprocessed] using hsettled
    rw [if_neg hprocessed, if_neg hprocessed, if_pos hdead]
    rfl

/-- When `process_webhook_event` answers with a dead letter, nothing of the event has been
written. -/
theorem processWebhookEvent_deadLetter
    (hrun : (processWebhookEvent env now webhookEventId).run s = (.ok r, s'))
    (hstatus : r.status = .deadLetter) :
    r.followups = [] ∧ OnlyDeadLettered webhookEventId s s' := by
  have haudits : AuditsGrow s s' := by
    have hgrow := auditsGrow_webhookFrame.keeps_processWebhookEvent env now webhookEventId s
    rw [hrun] at hgrow
    exact hgrow
  have hout := webhookOutcome env now webhookEventId s
  rw [hrun] at hout
  cases hout with
  | settled status hrow hsettled =>
    rename_i row
    rw [run_processWebhookEvent_settled hrow hsettled] at hrun
    obtain ⟨hanswer, -⟩ := Prod.mk.inj hrun
    obtain rfl : (if row.status = .processed then ProcessingStatus.alreadyProcessed
        else .deadLetter) = status := congrArg ProcessingResult.status (Except.ok.inj hanswer)
    have hdead : row.status = .deadLetter := by
      have hnot : row.status ≠ .processed := by
        intro hprocessed
        rw [hprocessed] at hstatus
        cases hstatus
      simpa [WebhookEventStatus.isSettled, hnot] using hsettled
    have hsame : { row with
        status := .deadLetter, errorCode := row.errorCode, errorMessage := row.errorMessage } =
          row := by
      rw [← hdead]
    refine ⟨rfl, ⟨row, row.errorCode, row.errorMessage, hrow, ?_⟩, haudits, rfl⟩
    exact (Table.modify_eq_self hrow hsame).symm
  | deadLettered e audits hrow heligible hverdict hpermanent =>
    exact ⟨rfl, ⟨_, _, _, hrow, rfl⟩, haudits, rfl⟩
  | processed audits hrow heligible hmerchant hread hdispatch => cases hstatus

/-- The events of a customer that the merchant does not have. -/
def strangerStore : Store := { lateFailureStore with customers := .empty }

theorem processWebhookEvent_deadLetter_stranger :
    OnlyDeadLettered 0 strangerStore (afterReport strangerStore 0) := by
  have hresult : ((processWebhookEvent sampleEventText 0 0).run strangerStore).1 =
      .ok { status := .deadLetter, webhookEventId := 0 } := by decide +kernel
  exact (processWebhookEvent_deadLetter (Session.run_of_result hresult) rfl).2

end ReviveX
