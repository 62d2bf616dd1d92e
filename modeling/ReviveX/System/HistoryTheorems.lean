import ReviveX.Domain.OrderTheorems
import ReviveX.System.ServiceCalls
import ReviveX.Tools.KeyTheorems

/-!
# The lifecycle of a case and its audit trail

Every transition writes an audit row named "transition", and nothing else does. The rows of a
case, in the order they were written, therefore spell a path of legal moves from `DETECTED`,
version 1, to the status and version that the case has now. `Continues` says this of any two
states of the store, one after the other.
-/

namespace ReviveX

open Lib (Run Session Table)

variable {rt : Runtime} {s s' s'' : Store} {caseId : ℕ} {c c' : RecoveryCase}
  {caller : Caller} {target : RecoveryCaseStatus} {e : AuditEvent}

/-! ## Paths of moves -/

/-- Where a case stands: its status and its version. -/
structure Standing where
  status : RecoveryCaseStatus
  version : ℕ
deriving DecidableEq, Repr

/-- The row records a legal move, to the next version. -/
structure AuditedMove (a : Standing) (e : AuditEvent) (b : Standing) : Prop where
  legal : canTransition a.status b.status = true
  previousState : e.previousState = some (.status a.status)
  newState : e.newState = some (.status b.status)
  version : e.version = some b.version
  next : b.version = a.version + 1

/-- A path has one row for each version. -/
theorem version_of_path {a b : Standing} {rows : List AuditEvent}
    (h : Run AuditedMove a rows b) : b.version = a.version + rows.length := by
  induction h with
  | nil => rfl
  | snoc before last ih =>
    rw [last.next, ih, List.length_append, List.length_singleton]
    omega

/-- The rows carry the versions one after the other. -/
theorem versions_of_path {a b : Standing} {rows : List AuditEvent}
    (h : Run AuditedMove a rows b) :
    rows.map (·.version) =
      (List.range rows.length).map fun k => some (a.version + 1 + k) := by
  -- the last row carries the version that follows those of the path before it
  induction h with
  | nil => rfl
  | snoc before last ih =>
    have hversion := version_of_path before
    rw [List.map_append, ih, List.length_append, List.length_singleton, List.range_succ,
      List.map_append, List.map_singleton, List.map_singleton, last.version, last.next, hversion]
    congr 3
    omega

/-! ## The trail of a case -/

/-- The rows named "transition" of a case, in the order they were written. -/
def Store.transitionsOf (s : Store) (caseId : ℕ) : List AuditEvent :=
  s.auditEvents.rows.filter fun e => e.caseId = some caseId && e.action = some "transition"

/-- Where a row stands. -/
def RecoveryCase.standing (c : RecoveryCase) : Standing := ⟨c.status, c.version⟩

/-- Where a case stands; a case that is not there yet will start in `DETECTED`. -/
def Store.standing (s : Store) (caseId : ℕ) : Standing :=
  (s.cases.get? caseId).elim ⟨.detected, 1⟩ RecoveryCase.standing

theorem standing_of_some (h : s.cases.get? caseId = some c) :
    s.standing caseId = c.standing := by
  unfold Store.standing
  rw [h]
  rfl

theorem standing_of_none (h : s.cases.get? caseId = none) :
    s.standing caseId = ⟨.detected, 1⟩ := by
  unfold Store.standing
  rw [h]
  rfl

/-- The closing time is set exactly when the status is terminal. -/
def RecoveryCase.ClosedAgrees (c : RecoveryCase) : Prop :=
  c.closedAt.isSome = true ↔ c.status = .recovered ∨ c.status = .stopped

theorem transitionsOf_insert (s : Store) (e : AuditEvent) (caseId : ℕ) :
    { s with auditEvents := s.auditEvents.insert e }.transitionsOf caseId =
      s.transitionsOf caseId ++
        if e.caseId = some caseId ∧ e.action = some "transition" then [e] else [] := by
  unfold Store.transitionsOf Table.insert
  rw [List.filter_append, List.filter_singleton, cond_eq_ite]
  simp

/-! ## Continuing the trail -/

/-- The trail of every case was continued by the path to where it stands now. -/
structure Continues (s s' : Store) : Prop where
  moved : ∀ j, ∃ rows, s'.transitionsOf j = s.transitionsOf j ++ rows ∧
    Run AuditedMove (s.standing j) rows (s'.standing j)
  closed : ∀ j, (∀ c, s.cases.get? j = some c → c.ClosedAgrees) →
    ∀ c, s'.cases.get? j = some c → c.ClosedAgrees

namespace Continues

/-- Nothing that the trail is about has changed. -/
theorem of_same (htransitions : ∀ j, s'.transitionsOf j = s.transitionsOf j)
    (hstanding : ∀ j, s'.standing j = s.standing j)
    (hclosed : ∀ j, (∀ c, s.cases.get? j = some c → c.ClosedAgrees) →
      ∀ c, s'.cases.get? j = some c → c.ClosedAgrees) : Continues s s' where
  moved j := by
    refine ⟨[], ?_, ?_⟩
    · rw [htransitions, List.append_nil]
    · rw [hstanding]
      exact .nil
  closed := hclosed

theorem refl (s : Store) : Continues s s :=
  of_same (fun _ => rfl) (fun _ => rfl) fun _ h => h

theorem trans (h : Continues s s') (h' : Continues s' s'') : Continues s s'' where
  moved j := by
    obtain ⟨rows, hrows, hpath⟩ := h.moved j
    obtain ⟨rows', hrows', hpath'⟩ := h'.moved j
    exact ⟨rows ++ rows', by rw [hrows', hrows, List.append_assoc], hpath.trans hpath'⟩
  closed j hj := h'.closed j (h.closed j hj)

/-- A row of anything but a transition. -/
theorem of_audit (s : Store) (haction : e.action ≠ some "transition") :
    Continues s { s with auditEvents := s.auditEvents.insert e } := by
  refine of_same (fun j => ?_) (fun _ => rfl) fun _ h => h
  rw [transitionsOf_insert, if_neg fun h => haction h.2, List.append_nil]

/-- A rewrite of a row that leaves where it stands and its closing time alone. -/
theorem of_modifyCase (s : Store) (caseId : ℕ) {f : RecoveryCase → RecoveryCase}
    (hf : ∀ c : RecoveryCase, c.CreditOnly (f c)) :
    Continues s { s with cases := s.cases.modify caseId f } := by
  refine of_same (fun _ => rfl) (fun j => ?_) fun j hclosed c hc => ?_
  · unfold Store.standing
    rw [Table.get?_modify]
    split
    · cases s.cases.get? j with
      | none => rfl
      | some c =>
        have hcredit := hf c
        simp [RecoveryCase.standing, hcredit.status, hcredit.version]
    · rfl
  · rw [Table.get?_modify] at hc
    split at hc
    · obtain ⟨c₀, hc₀, rfl⟩ := Option.map_eq_some_iff.mp hc
      have hcredit := hf c₀
      have hagrees := hclosed c₀ hc₀
      unfold RecoveryCase.ClosedAgrees at hagrees ⊢
      rw [hcredit.closedAt, hcredit.status]
      exact hagrees
    · exact hclosed c hc

/-- A new case starts its trail. -/
theorem of_opened (s : Store) (p : Payment) (merchantId paymentId : ℕ) (now : Time) :
    Continues s { s with cases := s.cases.insert (p.openedCase merchantId paymentId now) } := by
  refine of_same (fun _ => rfl) (fun j => ?_) fun j hclosed c hc => ?_
  · unfold Store.standing
    rw [Table.get?_insert]
    by_cases hj : j = s.cases.nextId
    · rw [if_pos hj, hj, Table.get?_nextId]
      rfl
    · rw [if_neg hj]
  · rw [Table.get?_insert] at hc
    split at hc
    · obtain rfl := Option.some.inj hc
      unfold RecoveryCase.ClosedAgrees
      simp [Payment.openedCase]
    · exact hclosed c hc

end Continues

/-! ## Transitions -/

/-- The audit row of a transition. -/
def transitionAudit (caller : Caller) (caseId : ℕ) (c : RecoveryCase)
    (target : RecoveryCaseStatus) : AuditEvent :=
  { caseAudit caller caseId c (auditTypeForTarget target) "transition"
      (some (.status c.status)) (some (.status target)) with
    version := some (c.version + 1) }

/-- The audit row of a transition that was refused. -/
def rejectionAudit (caller : Caller) (caseId : ℕ) (c : RecoveryCase)
    (target : RecoveryCaseStatus) : AuditEvent :=
  caseAudit caller caseId c .stateTransitionRejected "reject_transition"
    (some (.status c.status)) (some (.status target))

theorem run_transitionCase_legal (caller : Caller) (hc : s.cases.get? caseId = some c)
    (hlegal : canTransition c.status target = true) :
    (transitionCase caller caseId target).run s =
      (.ok (),
        { s with
          cases := s.cases.modify caseId fun c => c.moveTo target caller.now
          auditEvents := s.auditEvents.insert (transitionAudit caller caseId c target) }) := by
  unfold transitionCase
  rw [run_readCase_bind hc, Session.run_ite, if_pos hlegal]
  rfl

/-- An illegal transition raises, writes nothing to the case and records its refusal. -/
theorem run_transitionCase_illegal (caller : Caller) (hc : s.cases.get? caseId = some c)
    (hillegal : canTransition c.status target = false) :
    (transitionCase caller caseId target).run s =
      (.error (invalidTransitionError c.status target),
        { s with
          auditEvents := s.auditEvents.insert (rejectionAudit caller caseId c target) }) := by
  unfold transitionCase
  rw [run_readCase_bind hc, Session.run_ite, if_neg (by simp [hillegal])]
  rfl

theorem run_transitionCase_missing (caller : Caller) (target : RecoveryCaseStatus)
    (hc : s.cases.get? caseId = none) :
    (transitionCase caller caseId target).run s = (.error (.crash "ObjectDeletedError"), s) := by
  unfold transitionCase readCase
  rw [Session.run_bind, Session.run_get_bind, hc]
  rfl

theorem moveTo_closedAgrees (c : RecoveryCase) (target : RecoveryCaseStatus) (now : Time) :
    (c.moveTo target now).ClosedAgrees := by
  unfold RecoveryCase.ClosedAgrees RecoveryCase.moveTo
  cases target <;> simp [isTerminal, terminalRecoveryStatuses]

/-- A legal transition continues the trail of its case by one row. -/
theorem Continues.of_move (caller : Caller) (hc : s.cases.get? caseId = some c)
    (hlegal : canTransition c.status target = true) :
    Continues s
      { s with
        cases := s.cases.modify caseId fun c => c.moveTo target caller.now
        auditEvents := s.auditEvents.insert (transitionAudit caller caseId c target) } where
  moved j := by
    have htransitions := transitionsOf_insert s (transitionAudit caller caseId c target) j
    by_cases hj : caseId = j
    · subst hj
      have hmove : AuditedMove c.standing (transitionAudit caller caseId c target)
          (c.moveTo target caller.now).standing := ⟨hlegal, rfl, rfl, rfl, rfl⟩
      refine ⟨[transitionAudit caller caseId c target], ?_, ?_⟩
      · rw [if_pos ⟨rfl, rfl⟩] at htransitions
        exact htransitions
      · rw [standing_of_some hc, standing_of_some
          (c := c.moveTo target caller.now) (by simp [hc])]
        exact .single hmove
    · have hother : ¬ ((transitionAudit caller caseId c target).caseId = some j ∧
          (transitionAudit caller caseId c target).action = some "transition") := by
        intro h
        exact hj (Option.some.inj h.1)
      refine ⟨[], ?_, ?_⟩
      · rw [if_neg hother] at htransitions
        exact htransitions
      · unfold Store.standing
        rw [Table.get?_modify_ne _ hj]
        exact .nil
  closed j hclosed c' hc' := by
    rw [Table.get?_modify] at hc'
    split at hc'
    · obtain ⟨c₀, -, rfl⟩ := Option.map_eq_some_iff.mp hc'
      exact moveTo_closedAgrees c₀ target caller.now
    · exact hclosed c' hc'

theorem continues_transitionCase (caller : Caller) (caseId : ℕ) (target : RecoveryCaseStatus) :
    Session.Keeps Continues (transitionCase caller caseId target) := by
  intro s
  cases hc : s.cases.get? caseId with
  | none =>
    rw [run_transitionCase_missing caller target hc]
    exact .refl s
  | some c =>
    cases hlegal : canTransition c.status target with
    | true =>
      rw [run_transitionCase_legal caller hc hlegal]
      exact .of_move caller hc hlegal
    | false =>
      rw [run_transitionCase_illegal caller hc hlegal]
      exact .of_audit s (by simp [rejectionAudit, caseAudit])

/-- Webhook processing, the tools and the agents continue every trail. -/
theorem continues_webhookFrame : WebhookFrame Continues where
  refl := .refl
  trans _ _ _ := .trans
  elsewhere s s' hcases haudits := by
    refine .of_same (fun j => ?_) (fun j => ?_) fun j hclosed => ?_
    · unfold Store.transitionsOf
      rw [haudits]
    · unfold Store.standing
      rw [hcases]
    · rw [hcases]
      exact hclosed
  audit s e haction := .of_audit s haction
  transition := continues_transitionCase
  opened := .of_opened

/-- So does verification. -/
theorem continues_verificationFrame : VerificationFrame Continues where
  toLifecycleFrame := continues_webhookFrame.toLifecycleFrame
  credit s caseId _ hf := .of_modifyCase s caseId hf

theorem CallStep.continues {call : ServiceCall} (h : CallStep rt s call s') : Continues s s' :=
  continues_webhookFrame.callStep continues_verificationFrame.keeps_verifyCase h

theorem continues_run {calls : List ServiceCall} (h : Run (CallStep rt) s calls s') :
    Continues s s' :=
  h.relates (P := fun _ => True) .refl (fun _ _ _ => .trans)
    (fun _ _ _ _ hstep => ⟨trivial, hstep.continues⟩) trivial

/-! ## The lifecycle of a case -/

/-- What the case and its trail have in common. -/
structure LifecycleAgrees (s : Store) (caseId : ℕ) (c : RecoveryCase) : Prop where
  /-- The trail is a contiguous path of legal moves, one row for each version. -/
  path : Run AuditedMove ⟨.detected, 1⟩ (s.transitionsOf caseId) ⟨c.status, c.version⟩
  version : c.version = 1 + (s.transitionsOf caseId).length
  versions : (s.transitionsOf caseId).map (·.version) =
    (List.range (s.transitionsOf caseId).length).map fun k => some (2 + k)
  closedAt : c.closedAt.isSome = true ↔ c.status = .recovered ∨ c.status = .stopped

/-- In every state of every run, the trail of a case that was opened in the run agrees with
the case; from one state to a later one every change of its status is a path of legal moves
that the new rows of the trail record; and a transition that is not legal changes no case and
leaves nothing but the record of its refusal. -/
theorem lifecycle_agrees {calls : List ServiceCall} (hrun : Run (CallStep rt) s calls s')
    (hnew : s.cases.get? caseId = none) (htrail : s.transitionsOf caseId = [])
    (hc : s'.cases.get? caseId = some c) :
    LifecycleAgrees s' caseId c ∧
      (∀ later s'' c', Run (CallStep rt) s' later s'' → s''.cases.get? caseId = some c' →
        ∃ rows, s''.transitionsOf caseId = s'.transitionsOf caseId ++ rows ∧
          Run AuditedMove ⟨c.status, c.version⟩ rows ⟨c'.status, c'.version⟩) ∧
      ∀ caller target, canTransition c.status target = false →
        (transitionCase caller caseId target).run s' =
          (.error (invalidTransitionError c.status target),
            { s' with
              auditEvents := s'.auditEvents.insert (rejectionAudit caller caseId c target) }) := by
  have hcontinues := continues_run hrun
  obtain ⟨rows, hrows, hpath⟩ := hcontinues.moved caseId
  rw [htrail, List.nil_append] at hrows
  rw [standing_of_none hnew, standing_of_some hc, ← hrows] at hpath
  have hclosed := hcontinues.closed caseId (fun c hc => by rw [hnew] at hc; cases hc) c hc
  refine ⟨⟨hpath, version_of_path hpath, ?_, hclosed⟩, ?_, ?_⟩
  · rw [versions_of_path hpath]
  · intro later s'' c' hlater hc'
    obtain ⟨rows', hrows', hpath'⟩ := (continues_run hlater).moved caseId
    rw [standing_of_some hc, standing_of_some hc'] at hpath'
    exact ⟨rows', hrows', hpath'⟩
  · intro caller target hillegal
    exact run_transitionCase_illegal caller hc hillegal

/-! ### A case opened by a failed payment -/

/-- A failed payment of ₹100 has been reported. -/
def reportedStore : Store where
  merchants := ⟨[{}]⟩
  customers := ⟨[{ merchantId := 0 }]⟩
  webhookEvents := ⟨[paymentReport "evt_1" "payment.failed"]⟩

/-- The event opens a case, the worker processes it. -/
def openedCalls : List ServiceCall :=
  [.processWebhookEvent sampleEventText 0 0, .process { py := wholeNumberText } { now := 0 } 0]

/-- The store after the calls. -/
def openedStore : Store := openedCalls.foldl (ServiceCall.after sampleRuntime) reportedStore

theorem lifecycle_agrees_opened :
    ∃ c, openedStore.cases.get? 0 = some c ∧ LifecycleAgrees openedStore 0 c := by
  have hrun : Run (CallStep sampleRuntime) reportedStore openedCalls openedStore :=
    (Run.nil.snoc (.inl rfl)).snoc (.inl rfl)
  have hopened : (openedStore.cases.get? 0).isSome = true := by decide +kernel
  obtain ⟨c, hc⟩ := Option.isSome_iff_exists.mp hopened
  exact ⟨c, hc, (lifecycle_agrees hrun rfl rfl hc).1⟩

end ReviveX
