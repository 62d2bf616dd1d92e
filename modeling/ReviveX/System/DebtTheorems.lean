import ReviveX.Domain.DispatchTheorems
import ReviveX.System.FreezeTheorems
import ReviveX.System.HistoryTheorems

/-!
# The open cases of a payment

Only a failed payment opens a case, and only when no case of the payment is open: a payment
has at most one open case, whatever calls come in whatever order. Nothing asks whether the
payment was captured and credited, so a failure that is reported late opens another case for
money that was recovered. Without such a report no payment that was credited to a recovered
case gets another case.
-/

namespace ReviveX

open Lib (Guarded Run Session Table)

variable {rt : Runtime} {s s' s'' : Store} {call : ServiceCall} {c c' : RecoveryCase}
  {paymentId : ℕ}

/-! ## Rows -/

/-- The store has the same cases. -/
def SameCases (s s' : Store) : Prop := s'.cases = s.cases

namespace SameCases

theorem refl (s : Store) : SameCases s s := rfl

theorem trans (h : SameCases s s') (h' : SameCases s' s'') : SameCases s s'' := Eq.trans h' h

theorem bind {α β : Type} {m : Service α} {f : α → Service β} (hm : Session.Keeps SameCases m)
    (hf : ∀ a, Session.Keeps SameCases (f a)) : Session.Keeps SameCases (m >>= f) :=
  Session.Keeps.bind (R := SameCases) (fun _ _ _ => trans) hm hf

theorem modify {g : Store → Store} (h : ∀ s, (g s).cases = s.cases) :
    Session.Keeps SameCases (Session.modify g : Service Unit) := .modify h

end SameCases

theorem sameCases_markFailure (now : Time) (webhookEventId : ℕ) (row : WebhookEvent)
    (e : DomainError) (status : WebhookEventStatus) (action : String) :
    Session.Keeps SameCases (markFailure now webhookEventId row e status action) :=
  SameCases.bind (SameCases.modify fun _ => rfl) fun _ => SameCases.modify fun _ => rfl

theorem sameCases_recordRowFailure (now : Time) (webhookEventId : ℕ) (row : WebhookEvent)
    (f : Failure) : Session.Keeps SameCases (recordRowFailure now webhookEventId row f) := by
  cases f with
  | crash exception => exact .raise SameCases.refl _
  | domain e =>
    exact .ite
      (SameCases.bind (sameCases_markFailure _ _ _ _ _ _) fun _ => .raise SameCases.refl _)
      (SameCases.bind (sameCases_markFailure _ _ _ _ _ _) fun _ => .pure SameCases.refl _)

theorem sameCases_markDeadLetter (now : Time) (webhookEventId : ℕ) (error : String) :
    Session.Keeps SameCases (markDeadLetter now webhookEventId error) := by
  refine .get_bind fun s => ?_
  split
  · exact .pure SameCases.refl ()
  · exact .ite (.pure SameCases.refl ()) <|
      SameCases.bind (SameCases.modify fun _ => rfl) fun _ => SameCases.modify fun _ => rfl

theorem sameCases_ingest (env : EventText) (now : Time) (enqueue : Bool) (event : ProviderEvent)
    (merchantId : ℕ) : Session.Keeps SameCases (ingest env now enqueue event merchantId) := by
  have haudit : ∀ merchantId eventType action status, Session.Keeps SameCases
      (auditIngest now merchantId eventType action status) :=
    fun _ _ _ _ => SameCases.modify fun _ => rfl
  refine SameCases.bind (.ofExcept SameCases.refl _) fun _ => .get_bind fun s =>
    .ite (.raise SameCases.refl _) ?_
  split
  · exact SameCases.bind (haudit _ _ _ _) fun _ => .pure SameCases.refl _
  · exact .get_bind fun _ => .ite (.raise SameCases.refl _) <|
      SameCases.bind (.modifyGet fun _ => rfl) fun _ =>
      SameCases.bind (haudit _ _ _ _) fun _ => .pure SameCases.refl _

/-- The stored event is a failure of a payment that has no open case. -/
structure OpensFor (env : EventText) (s : Store) (webhookEventId : ℕ) (e : DomainPaymentEvent)
    (effect : EventEffect) : Prop where
  stored : ∃ row, s.webhookEvents.get? webhookEventId = some row ∧
    row.status.isSettled = false ∧ row.read env = .ok (.payment e)
  accepted : e.effect s = .ok effect
  opens : e.opensCase s effect = true

/-- Dispatching an event leaves the cases alone, or opens one for a failure. -/
theorem cases_dispatch {now : Time} {webhookEventId merchantId : ℕ} {event : NormalizedEvent}
    {followups : List FollowUpJob}
    (h : (dispatch now webhookEventId merchantId event).run s = (.ok followups, s')) :
    s'.cases = s.cases ∨
      ∃ e effect, event = .payment e ∧ e.effect s = .ok effect ∧ e.opensCase s effect = true ∧
        s'.cases =
          s.cases.insert (effect.payment.openedCase e.merchantId effect.paymentId now) := by
  cases event with
  | unknown event =>
    obtain rfl := (Prod.mk.inj h).2
    exact .inl rfl
  | payment e =>
    obtain ⟨audits, hrun⟩ := run_dispatch now webhookEventId merchantId e s
    rw [h] at hrun
    cases heffect : e.effect s with
    | error f =>
      rw [heffect] at hrun
      cases (Prod.mk.inj hrun).1
    | ok effect =>
      rw [heffect] at hrun
      obtain rfl := (Prod.mk.inj hrun).2
      unfold DomainPaymentEvent.storeAfter DomainPaymentEvent.casesAfter
      cases hopens : e.opensCase s effect with
      | false => exact .inl rfl
      | true => exact .inr ⟨e, effect, rfl, heffect, hopens, rfl⟩

/-- Processing an event leaves the cases alone, or opens one. -/
theorem cases_processWebhookEvent (env : EventText) (now : Time) (webhookEventId : ℕ)
    (s : Store) :
    ((processWebhookEvent env now webhookEventId).run s).2.cases = s.cases ∨
      ∃ e effect, OpensFor env s webhookEventId e effect ∧
        ((processWebhookEvent env now webhookEventId).run s).2.cases =
          s.cases.insert (effect.payment.openedCase e.merchantId effect.paymentId now) := by
  unfold processWebhookEvent
  rw [Session.run_get_bind]
  cases hrow : s.webhookEvents.get? webhookEventId with
  | none => exact .inl rfl
  | some row =>
    dsimp only
    rw [Session.run_ite, Session.run_ite]
    by_cases hprocessed : row.status = .processed
    · rw [if_pos hprocessed]
      exact .inl rfl
    rw [if_neg hprocessed]
    by_cases hdead : row.status = .deadLetter
    · rw [if_pos hdead]
      exact .inl rfl
    rw [if_neg hdead]
    -- marking the row and recording a failure write no case
    let marked := s.withTrail
      (s.webhookEvents.modify webhookEventId fun row => { row with status := .processing })
      s.auditEvents
    have hmarked : marked.webhookEvents.get? webhookEventId =
        some { row with status := .processing } := by
      show (s.webhookEvents.modify webhookEventId _).get? webhookEventId = _
      rw [Table.get?_modify_self, hrow]
      rfl
    show (((processRow env now webhookEventId row).recover
        (recordRowFailure now webhookEventId row)).run marked).2.cases = marked.cases ∨ _
    rcases run_processRow env now webhookEventId row hmarked with
      ⟨f, -, hrefused⟩ | ⟨event, followups, s₁, audits, -, hread, hdispatch, hrun⟩
    · rw [Session.run_recover_error hrefused]
      exact .inl (sameCases_recordRowFailure now webhookEventId row f marked)
    · have hstate : (((processRow env now webhookEventId row).recover
          (recordRowFailure now webhookEventId row)).run marked).2.cases = s₁.cases := by
        rw [Session.run_recover_ok hrun]
        rfl
      rcases cases_dispatch hdispatch with hsame | ⟨e, effect, rfl, heffect, hopens, hcases⟩
      · exact .inl (hstate.trans hsame)
      · refine .inr ⟨e, effect, ⟨⟨row, hrow, ?_, hread⟩, heffect, hopens⟩, hstate.trans hcases⟩
        exact isSettled_eq_false.mpr ⟨hprocessed, hdead⟩

/-! ## Calls -/

/-- A case keeps its payment, and once it is closed it stays closed. -/
structure RecoveryCase.StaysClosed (c c' : RecoveryCase) : Prop where
  merchantId : c'.merchantId = c.merchantId
  paymentId : c'.paymentId = c.paymentId
  agrees : c.ClosedAgrees → c'.ClosedAgrees
  closed : c.ClosedAgrees → c.closedAt.isSome = true → c'.closedAt.isSome = true

namespace RecoveryCase.StaysClosed

theorem refl (c : RecoveryCase) : c.StaysClosed c := ⟨rfl, rfl, id, fun _ => id⟩

theorem trans {c'' : RecoveryCase} (h : c.StaysClosed c') (h' : c'.StaysClosed c'') :
    c.StaysClosed c'' :=
  ⟨h'.merchantId.trans h.merchantId, h'.paymentId.trans h.paymentId,
    fun hagrees => h'.agrees (h.agrees hagrees),
    fun hagrees hclosed => h'.closed (h.agrees hagrees) (h.closed hagrees hclosed)⟩

/-- No transition leaves a status that closes the case. -/
theorem moveTo {target : RecoveryCaseStatus} (c : RecoveryCase) (now : Time)
    (hlegal : canTransition c.status target = true) : c.StaysClosed (c.moveTo target now) where
  merchantId := rfl
  paymentId := rfl
  agrees _ := moveTo_closedAgrees c target now
  closed hagrees hclosed := by
    have hterminal := isTerminal_iff.mpr (hagrees.mp hclosed)
    rw [not_terminal_of_canTransition hlegal] at hterminal
    cases hterminal

theorem of_creditOnly (h : c.CreditOnly c') : c.StaysClosed c' where
  merchantId := h.merchantId
  paymentId := h.paymentId
  agrees hagrees := by
    unfold RecoveryCase.ClosedAgrees at hagrees ⊢
    rw [h.closedAt, h.status]
    exact hagrees
  closed _ hclosed := by
    rw [h.closedAt]
    exact hclosed

end RecoveryCase.StaysClosed

/-- No case was opened, and none was reopened. -/
structure NoneOpened (s s' : Store) : Prop where
  kept : CasesKept RecoveryCase.StaysClosed s s'
  nextId : s'.cases.nextId = s.cases.nextId

namespace NoneOpened

theorem of_sameCases (h : SameCases s s') : NoneOpened s s' where
  kept := .of_eq .refl h
  nextId := by rw [h]

theorem trans (h : NoneOpened s s') (h' : NoneOpened s' s'') : NoneOpened s s'' where
  kept := .trans (fun _ _ _ => .trans) h.kept h'.kept
  nextId := h'.nextId.trans h.nextId

end NoneOpened

theorem staysClosed_frame : VerificationFrame (CasesKept RecoveryCase.StaysClosed) :=
  .of_rows .refl (fun _ _ _ => .trans) (fun c _ now hlegal => .moveTo c now hlegal)
    fun _ _ => .of_creditOnly

/-- Transitions and verifications open no case. -/
theorem noneOpened_frame : VerificationFrame NoneOpened where
  refl s := .of_sameCases (.refl s)
  trans _ _ _ := .trans
  elsewhere s s' hcases _ := .of_sameCases hcases
  audit s e _ := .of_sameCases rfl
  transition caller caseId target s := by
    refine ⟨staysClosed_frame.transition caller caseId target s, ?_⟩
    cases hc : s.cases.get? caseId with
    | none =>
      rw [run_transitionCase_missing caller target hc]
    | some c =>
      cases hlegal : canTransition c.status target with
      | true =>
        rw [run_transitionCase_legal caller hc hlegal]
        exact Table.nextId_modify _ _ _
      | false => rw [run_transitionCase_illegal caller hc hlegal]
  credit s caseId f hf := ⟨staysClosed_frame.credit s caseId f hf, Table.nextId_modify _ _ _⟩

/-- The event that a step opens a case for. -/
def Opened (s : Store) (call : ServiceCall) (s' : Store) : Prop :=
  ∃ env now webhookEventId e effect, call = .processWebhookEvent env now webhookEventId ∧
    OpensFor env s webhookEventId e effect ∧
    s'.cases = s.cases.insert (effect.payment.openedCase e.merchantId effect.paymentId now)

/-- Only the processing of an event opens a case. -/
theorem noneOpened_or_opened (rt : Runtime) (s : Store) (call : ServiceCall) :
    NoneOpened s (call.after rt s) ∨ Opened s call (call.after rt s) := by
  have hframe := noneOpened_frame.toLifecycleFrame
  cases call with
  | ingest env now enqueue event merchantId =>
    exact .inl (.of_sameCases (sameCases_ingest env now enqueue event merchantId s))
  | processWebhookEvent env now webhookEventId =>
    rcases cases_processWebhookEvent env now webhookEventId s with
      hsame | ⟨e, effect, hopens, hcases⟩
    · exact .inl (.of_sameCases hsame)
    · exact .inr ⟨env, now, webhookEventId, e, effect, rfl, hopens, hcases⟩
  | markDeadLetter now webhookEventId error =>
    exact .inl (.of_sameCases (sameCases_markDeadLetter now webhookEventId error s))
  | process cfg caller caseId => exact .inl (hframe.keeps_process cfg caller caseId s)
  | walkToPolicyCheck caller caseId => exact .inl (hframe.keeps_walkToPolicyCheck caller caseId s)
  | optimizeCase opt caller caseId candidates =>
    exact .inl (hframe.keeps_optimizeCase opt rt.py caller caseId candidates s)
  | execute svc caller args => exact .inl (hframe.keeps_execute rt svc caller args s)
  | approveAction svc caller args => exact .inl (hframe.keeps_approveAction rt svc caller args s)
  | rejectAction caller args => exact .inl (hframe.keeps_rejectAction caller args s)
  | cancelAction caller args => exact .inl (hframe.keeps_rejectAction caller _ s)
  | runCase orch now executes caseId merchantId =>
    exact .inl (hframe.keeps_runCase rt orch now executes caseId merchantId s)
  | verifyCase cfg caller args => exact .inl (noneOpened_frame.keeps_verifyCase cfg caller args s)

/-- A call, in a transaction of its own or next to others. -/
inductive OpeningStep (rt : Runtime) (s : Store) : ServiceCall → Store → Prop
  | call {call : ServiceCall} {s' : Store} (h : CallStep rt s call s') : OpeningStep rt s call s'
  /-- An event's transaction looked for open cases before another one opened or closed some: its
  insert meets the unique index, and the event is attached. Whatever else it writes, it leaves
  the cases alone. -/
  | attached {env : EventText} {now : Time} {webhookEventId : ℕ} {s' : Store}
      (h : SameCases s s') : OpeningStep rt s (.processWebhookEvent env now webhookEventId) s'

theorem OpeningStep.cases (h : OpeningStep rt s call s') : NoneOpened s s' ∨ Opened s call s' := by
  cases h with
  | call h =>
    rcases h with rfl | rfl
    · exact noneOpened_or_opened rt s call
    · exact .inl (.of_sameCases (.refl s'))
  | attached h => exact .inl (.of_sameCases h)

/-! ## At most one open case -/

/-- Closing times agree with statuses, and no two open cases have the same payment. -/
structure OneOpen (s : Store) : Prop where
  agrees : ∀ i c, s.cases.get? i = some c → c.ClosedAgrees
  unique : ∀ i j c c', s.cases.get? i = some c → s.cases.get? j = some c' →
    c.closedAt = none → c'.closedAt = none → c.merchantId = c'.merchantId →
    c.paymentId.isSome = true → c.paymentId = c'.paymentId → i = j

theorem NoneOpened.row (h : NoneOpened s s') {i : ℕ} (hc' : s'.cases.get? i = some c') :
    ∃ c, s.cases.get? i = some c ∧ c.StaysClosed c' := by
  have hlt := Table.lt_nextId hc'
  rw [h.nextId] at hlt
  cases hc : s.cases.get? i with
  | none =>
    unfold Table.get? at hc
    exact absurd hlt (Nat.not_lt.mpr (List.getElem?_eq_none_iff.mp hc))
  | some c =>
    obtain ⟨c'', hc'', hstays⟩ := h.kept i c hc
    obtain rfl := Option.some.inj (hc'.symm.trans hc'')
    exact ⟨c, rfl, hstays⟩

theorem RecoveryCase.StaysClosed.wasOpen (h : c.StaysClosed c') (hagrees : c.ClosedAgrees)
    (hopen : c'.closedAt = none) : c.closedAt = none := by
  cases hclosed : c.closedAt with
  | none => rfl
  | some time =>
    have hstill := h.closed hagrees (by rw [hclosed]; rfl)
    rw [hopen] at hstill
    cases hstill

theorem NoneOpened.oneOpen (h : NoneOpened s s') (hone : OneOpen s) : OneOpen s' where
  agrees i c' hc' := by
    obtain ⟨c, hc, hstays⟩ := h.row hc'
    exact hstays.agrees (hone.agrees i c hc)
  unique i j c₁' c₂' h₁ h₂ hopen₁ hopen₂ hmerchant hpayment hsame := by
    obtain ⟨c₁, hc₁, hstays₁⟩ := h.row h₁
    obtain ⟨c₂, hc₂, hstays₂⟩ := h.row h₂
    rw [hstays₁.merchantId, hstays₂.merchantId] at hmerchant
    rw [hstays₁.paymentId] at hpayment
    rw [hstays₁.paymentId, hstays₂.paymentId] at hsame
    exact hone.unique i j c₁ c₂ hc₁ hc₂ (hstays₁.wasOpen (hone.agrees i c₁ hc₁) hopen₁)
      (hstays₂.wasOpen (hone.agrees j c₂ hc₂) hopen₂) hmerchant hpayment hsame

/-- A case is opened for a payment that has none. -/
theorem Opened.oneOpen (h : Opened s call s') (hone : OneOpen s) : OneOpen s' := by
  obtain ⟨env, now, webhookEventId, e, effect, -, hopens, hcases⟩ := h
  have hfree : s.listOpenForPayment e.merchantId effect.paymentId = [] := by
    have hboth := hopens.opens
    unfold DomainPaymentEvent.opensCase at hboth
    simpa using (Bool.and_eq_true_iff.mp hboth).2
  -- no row of the store is an open case of the payment
  have hclosed : ∀ i c, s.cases.get? i = some c → c.merchantId = e.merchantId →
      c.paymentId = some effect.paymentId → c.closedAt ≠ none := by
    intro i c hc hmerchant hpayment hopen
    have hlisted : i ∈ s.listOpenForPayment e.merchantId effect.paymentId := by
      unfold Store.listOpenForPayment
      rw [Table.mem_idsWhere]
      exact ⟨c, hc, by simp [hmerchant, hpayment, hopen]⟩
    rw [hfree] at hlisted
    cases hlisted
  constructor
  · intro i c hc
    rw [hcases, Table.get?_insert] at hc
    split at hc
    · obtain rfl := Option.some.inj hc
      unfold RecoveryCase.ClosedAgrees
      simp [Payment.openedCase]
    · exact hone.agrees i c hc
  · intro i j c c' hc hc' hopen hopen' hmerchant hpayment hsame
    rw [hcases, Table.get?_insert] at hc hc'
    by_cases hi : i = s.cases.nextId <;> by_cases hj : j = s.cases.nextId
    · rw [hi, hj]
    · rw [if_pos hi] at hc
      rw [if_neg hj] at hc'
      obtain rfl := Option.some.inj hc
      exact absurd hopen' (hclosed j c' hc' hmerchant.symm hsame.symm)
    · rw [if_neg hi] at hc
      rw [if_pos hj] at hc'
      obtain rfl := Option.some.inj hc'
      exact absurd hopen (hclosed i c hc hmerchant hsame)
    · rw [if_neg hi] at hc
      rw [if_neg hj] at hc'
      exact hone.unique i j c c' hc hc' hopen hopen' hmerchant hpayment hsame

theorem OpeningStep.oneOpen (h : OpeningStep rt s call s') (hone : OneOpen s) : OneOpen s' := by
  rcases h.cases with hnone | hopened
  · exact hnone.oneOpen hone
  · exact hopened.oneOpen hone

/-- The list of a payment's open cases has one entry at most. -/
theorem OneOpen.length_le (h : OneOpen s) (merchantId paymentId : ℕ) :
    (s.listOpenForPayment merchantId paymentId).length ≤ 1 := by
  have hnodup : (s.listOpenForPayment merchantId paymentId).Nodup := Table.idsWhere_nodup _ _
  have hlisted : ∀ i ∈ s.listOpenForPayment merchantId paymentId, ∃ c,
      s.cases.get? i = some c ∧ c.merchantId = merchantId ∧ c.paymentId = some paymentId ∧
        c.closedAt = none := by
    intro i hi
    unfold Store.listOpenForPayment at hi
    obtain ⟨c, hc, hopen⟩ := Table.mem_idsWhere.mp hi
    simp only [Bool.and_eq_true, decide_eq_true_eq, Option.isNone_iff_eq_none] at hopen
    exact ⟨c, hc, hopen.1.1, hopen.1.2, hopen.2⟩
  revert hnodup hlisted
  cases s.listOpenForPayment merchantId paymentId with
  | nil => simp
  | cons i rest =>
    cases rest with
    | nil => simp
    | cons j rest =>
      intro hnodup hlisted
      obtain ⟨c, hc, hmerchant, hpayment, hopen⟩ := hlisted i (by simp)
      obtain ⟨c', hc', hmerchant', hpayment', hopen'⟩ := hlisted j (by simp)
      have hij := h.unique i j c c' hc hc' hopen hopen' (hmerchant.trans hmerchant'.symm)
        (by rw [hpayment]; rfl) (hpayment.trans hpayment'.symm)
      subst hij
      simp at hnodup

/-! ## Credited payments -/

/-- The capture of the payment was credited to a recovered case. -/
def Store.Credited (s : Store) (paymentId : ℕ) : Prop :=
  ∃ i c, s.cases.get? i = some c ∧ c.status = .recovered ∧ c.verifiedPaymentId = some paymentId

/-- The call processes a stored event that reports the failure of a credited payment. -/
def LateFailure (s : Store) (call : ServiceCall) : Prop :=
  ∃ env now webhookEventId row e effect,
    call = .processWebhookEvent env now webhookEventId ∧
      s.webhookEvents.get? webhookEventId = some row ∧ row.status.isSettled = false ∧
      row.read env = .ok (.payment e) ∧ e.eventType = .paymentFailed ∧
      e.effect s = .ok effect ∧ s.Credited effect.paymentId

theorem OpeningStep.frozen (h : OpeningStep rt s call s') :
    CasesKept RecoveryCase.FrozenWhenTerminal s s' := by
  cases h with
  | call h => exact frozenWhenTerminal_frame.callStep keeps_verifyCase_frozen h
  | attached h => exact .of_eq (fun c _ => .refl c) h

/-- A recovered case keeps the payment it was credited with. -/
theorem OpeningStep.credited (h : OpeningStep rt s call s') (hcredited : s.Credited paymentId) :
    s'.Credited paymentId := by
  obtain ⟨i, c, hc, hstatus, hpayment⟩ := hcredited
  obtain ⟨c', hc', hfrozen⟩ := h.frozen i c hc
  have hkept := hfrozen (isTerminal_iff.mpr (.inl hstatus))
  exact ⟨i, c', hc', hkept.status.trans hstatus, hkept.verifiedPaymentId.trans hpayment⟩

/-- The payment is credited, and no case from `limit` on is one of its cases. -/
structure SettledSince (limit paymentId : ℕ) (s : Store) : Prop where
  credited : s.Credited paymentId
  none : ∀ i c, s.cases.get? i = some c → c.paymentId = some paymentId → i < limit

/-- Only the failure of a credited payment opens another case for it. -/
theorem SettledSince.step {limit : ℕ} (hlate : ¬ LateFailure s call)
    (h : OpeningStep rt s call s') (hsettled : SettledSince limit paymentId s) :
    SettledSince limit paymentId s' := by
  refine ⟨h.credited hsettled.credited, ?_⟩
  intro i c' hc' hpayment
  rcases h.cases with hnone | hopened
  · obtain ⟨c, hc, hstays⟩ := hnone.row hc'
    exact hsettled.none i c hc (hstays.paymentId.symm.trans hpayment)
  · obtain ⟨env, now, webhookEventId, e, effect, hcall, hopens, hcases⟩ := hopened
    rw [hcases, Table.get?_insert] at hc'
    by_cases hi : i = s.cases.nextId
    · rw [if_pos hi] at hc'
      obtain rfl := Option.some.inj hc'
      obtain ⟨row, hrow, hunsettled, hread⟩ := hopens.stored
      have hfailed : e.eventType = .paymentFailed := by
        have hboth := hopens.opens
        unfold DomainPaymentEvent.opensCase at hboth
        simpa using (Bool.and_eq_true_iff.mp hboth).1
      -- the new row is a case of the payment of the event
      have hsame : effect.paymentId = paymentId := Option.some.inj hpayment
      exact absurd ⟨env, now, webhookEventId, row, e, effect, hcall, hrow, hunsettled, hread,
        hfailed, hopens.accepted, hsame ▸ hsettled.credited⟩ hlate
    · rw [if_neg hi] at hc'
      exact hsettled.none i c' hc' hpayment

/-- From a store without cases, a payment has at most one open case after any run; and while no
failure of a credited payment is processed, a credited payment gets no further case. -/
theorem noNewDebt {calls laterCalls : List ServiceCall} (hstart : s.cases = .empty)
    (hrun : Run (OpeningStep rt) s calls s')
    (hlater : Run (Guarded (OpeningStep rt) fun s call => ¬ LateFailure s call) s' laterCalls s'') :
    (∀ merchantId paymentId, (s'.listOpenForPayment merchantId paymentId).length ≤ 1) ∧
      ∀ paymentId, s'.Credited paymentId →
        ∀ i c, s''.cases.get? i = some c → c.paymentId = some paymentId →
          i < s'.cases.nextId := by
  have hempty : OneOpen s := by
    have hnone : ∀ i c, s.cases.get? i ≠ some c := by
      intro i c hc
      rw [hstart] at hc
      cases hc
    exact ⟨fun i c hc => absurd hc (hnone i c), fun i _ c _ hc => absurd hc (hnone i c)⟩
  have hone : OneOpen s' :=
    hrun.invariant (fun _ _ _ hone hstep => OpeningStep.oneOpen hstep hone) hempty
  refine ⟨hone.length_le, ?_⟩
  intro paymentId hcredited
  have hsettled : SettledSince s'.cases.nextId paymentId s'' :=
    hlater.invariant (P := SettledSince s'.cases.nextId paymentId)
      (fun _ _ _ hsettled hstep => hsettled.step hstep.1 hstep.2)
      ⟨hcredited, fun i c hc _ => Table.lt_nextId hc⟩
  exact hsettled.none

/-! ## A failure that is reported late -/

/-- A failure of a payment, its capture, and the failure reported once more. -/
def reportedAgainStore : Store where
  merchants := ⟨[{}]⟩
  customers := ⟨[{ merchantId := 0 }]⟩
  webhookEvents := ⟨[paymentReport "evt_1" "payment.failed",
    paymentReport "evt_2" "payment.captured", paymentReport "evt_3" "payment.failed"]⟩

/-- The failure opens a case, and the capture is credited to it. -/
def creditingCalls : List ServiceCall :=
  [.processWebhookEvent sampleEventText 0 0, .processWebhookEvent sampleEventText 0 1,
    .verifyCase { py := wholeNumberText } { now := 0 }
      { caseId := 0, paymentId := some 0, webhookEventId := some 1 }]

def creditedStore : Store :=
  creditingCalls.foldl (ServiceCall.after sampleRuntime) reportedAgainStore

/-- The second report of the failure. -/
def lateFailureCall : ServiceCall := .processWebhookEvent sampleEventText 0 2

theorem creditingRun :
    Run (OpeningStep sampleRuntime) reportedAgainStore creditingCalls creditedStore :=
  ((Run.nil.snoc (.call (.inl rfl))).snoc (.call (.inl rfl))).snoc (.call (.inl rfl))

theorem creditedStore_credited : creditedStore.Credited 0 := by
  have hrow : (creditedStore.cases.get? 0).any fun c =>
      c.status = .recovered && c.verifiedPaymentId = some 0 := by decide +kernel
  obtain ⟨c, hc, hboth⟩ := (Option.any_eq_true _ _).mp hrow
  rw [Bool.and_eq_true, decide_eq_true_eq, decide_eq_true_eq] at hboth
  exact ⟨0, c, hc, hboth⟩

/-- A redelivered capture opens nothing. -/
theorem noNewDebt_redelivered :
    (creditedStore.listOpenForPayment 0 0).length ≤ 1 ∧
      ∃ c, ((ServiceCall.processWebhookEvent sampleEventText 0 1).after sampleRuntime
          creditedStore).cases.get? 0 = some c ∧
        c.paymentId = some 0 ∧ 0 < creditedStore.cases.nextId := by
  have hsettled : (creditedStore.webhookEvents.get? 1).any (·.status.isSettled) = true := by
    decide +kernel
  have hlate : ¬ LateFailure creditedStore (.processWebhookEvent sampleEventText 0 1) := by
    intro h
    obtain ⟨env, now, webhookEventId, row, e, effect, hcall, hrow, hunsettled, -⟩ := h
    obtain ⟨-, -, rfl⟩ := ServiceCall.processWebhookEvent.inj hcall
    rw [hrow, Option.any_some, hunsettled] at hsettled
    cases hsettled
  have hlater : Run (Guarded (OpeningStep sampleRuntime) fun s call => ¬ LateFailure s call)
      creditedStore [.processWebhookEvent sampleEventText 0 1]
      ((ServiceCall.processWebhookEvent sampleEventText 0 1).after sampleRuntime creditedStore) :=
    .single ⟨hlate, .call (.inl rfl)⟩
  have hrow : (((ServiceCall.processWebhookEvent sampleEventText 0 1).after sampleRuntime
      creditedStore).cases.get? 0).any fun c => c.paymentId = some 0 := by decide +kernel
  obtain ⟨c, hc, hpayment⟩ := (Option.any_eq_true _ _).mp hrow
  obtain ⟨hone, hnone⟩ := noNewDebt rfl creditingRun hlater
  exact ⟨hone 0 0, c, hc, of_decide_eq_true hpayment,
    hnone 0 creditedStore_credited 0 c hc (of_decide_eq_true hpayment)⟩

/-- The late report opens a second case for the money that was recovered. -/
theorem lateFailure_opens :
    Run (OpeningStep sampleRuntime) reportedAgainStore creditingCalls creditedStore ∧
      creditedStore.Credited 0 ∧
      OpeningStep sampleRuntime creditedStore lateFailureCall
        (lateFailureCall.after sampleRuntime creditedStore) ∧
      (lateFailureCall.after sampleRuntime creditedStore).listOpenForPayment 0 0 = [1] ∧
      creditedStore.cases.nextId = 1 :=
  ⟨creditingRun, creditedStore_credited, .call (.inl rfl), by decide +kernel, by decide +kernel⟩

end ReviveX
