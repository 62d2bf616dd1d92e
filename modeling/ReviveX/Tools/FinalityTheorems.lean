import ReviveX.Tools.ReplayTheorems
import ReviveX.Tools.RowTheorems

/-!
# Decisions and executed actions

What is final is never changed by approving, processing or verifying. Executing changes it
by writing on the row of a succeeded action, rejecting and cancelling by deciding an
approval, an action or a key a second time. In runs without such calls (`SparesFinals`)
everything final stays (`finalsKept_run`).
-/

namespace ReviveX

open Lib (Guarded Run Session Table)

variable {rt : Runtime} {svc : ToolExecutionService} {caller : Caller} {now : Time}
  {request : ToolRequest} {s s' s'' : Store} {args : ExecuteArgs}

/-- A human, or time, has decided the approval. -/
def Approval.IsDecided (a : Approval) : Prop :=
  a.status = .approved ∨ a.status = .rejected ∨ a.status = .expired

theorem Approval.IsDecided.ne_pending {a : Approval} (h : a.IsDecided) :
    a.status ≠ .pending := by
  rcases h with h | h | h <;> rw [h] <;> decide

/-- What is final in the first store is so in the second. -/
structure FinalsKept (s s' : Store) : Prop where
  approvals : ∀ i a, s.approvals.get? i = some a → a.IsDecided →
    ∃ a', s'.approvals.get? i = some a' ∧ a'.status = a.status ∧
      a'.decidedBy = a.decidedBy ∧ a'.decidedAt = a.decidedAt
  actions : ∀ i a, s.actions.get? i = some a → a.status = .succeeded →
    ∃ a', s'.actions.get? i = some a' ∧ a'.status = .succeeded ∧
      a'.actionType = a.actionType ∧ a'.amount = a.amount ∧ a'.executedAt = a.executedAt
  keys : ∀ m key row, s.idempotencyKey? m key = some row → row.status = .completed →
    ∃ row', s'.idempotencyKey? m key = some row' ∧ row'.status = .completed

namespace FinalsKept

theorem of_eq (happrovals : s'.approvals = s.approvals) (hactions : s'.actions = s.actions)
    (hkeys : s'.idempotencyKeys = s.idempotencyKeys) : FinalsKept s s' where
  approvals i a ha _ := ⟨a, by rw [happrovals, ha], rfl, rfl, rfl⟩
  actions i a ha hstatus := ⟨a, by rw [hactions, ha], hstatus, rfl, rfl, rfl⟩
  keys m key row hrow hstatus := by
    unfold Store.idempotencyKey? at hrow ⊢
    rw [hkeys]
    exact ⟨row, hrow, hstatus⟩

theorem refl (s : Store) : FinalsKept s s := of_eq rfl rfl rfl

theorem trans (h : FinalsKept s s') (h' : FinalsKept s' s'') : FinalsKept s s'' where
  approvals i a ha hdecided := by
    obtain ⟨a', ha', hstatus, hby, hat⟩ := h.approvals i a ha hdecided
    have hdecided' : a'.IsDecided := by
      unfold Approval.IsDecided
      rw [hstatus]
      exact hdecided
    obtain ⟨a'', ha'', hstatus', hby', hat'⟩ := h'.approvals i a' ha' hdecided'
    exact ⟨a'', ha'', hstatus'.trans hstatus, hby'.trans hby, hat'.trans hat⟩
  actions i a ha hstatus := by
    obtain ⟨a', ha', hstatus', htype, hamount, hat⟩ := h.actions i a ha hstatus
    obtain ⟨a'', ha'', hstatus'', htype', hamount', hat'⟩ := h'.actions i a' ha' hstatus'
    exact ⟨a'', ha'', hstatus'', htype'.trans htype, hamount'.trans hamount, hat'.trans hat⟩
  keys m key row hrow hstatus := by
    obtain ⟨row', hrow', hstatus'⟩ := h.keys m key row hrow hstatus
    exact h'.keys m key row' hrow' hstatus'

end FinalsKept

/-! ## Keys -/

/-- A completed key stores its result. -/
def CompletedStored (s : Store) : Prop :=
  ∀ m key row, s.idempotencyKey? m key = some row → row.status = .completed →
    row.result.isSome = true

theorem CompletedStored.of_eq (h : CompletedStored s)
    (hkeys : s'.idempotencyKeys = s.idempotencyKeys) : CompletedStored s' := by
  intro m key row hrow
  unfold Store.idempotencyKey? at hrow
  rw [hkeys] at hrow
  exact h m key row hrow

/-- A request that may run does not hold a completed key. -/
theorem HoldsKey.not_completed {row : IdempotencyKey} (hstored : CompletedStored s)
    (h : HoldsKey s request now row) : row.status ≠ .completed := by
  intro hcompleted
  rcases h with ⟨-, rfl⟩ | ⟨hsome, hhash, hproceed⟩
  · exact absurd hcompleted (by unfold newKey; simp)
  · have hsettled : row.Settled :=
      ⟨hstored _ _ row hsome hcompleted, by rw [hcompleted]; decide⟩
    have hholds : HoldsKey s request now row := .inr ⟨hsome, hhash, hproceed⟩
    exact hholds.not_settled hsettled

/-- The key that an execution writes was held, and stores its result once completed. -/
theorem Executed.keyWritten (h : Executed rt svc caller args s s') :
    s'.idempotencyKeys = s.idempotencyKeys ∨
      ∃ request row row', HoldsKey s request caller.now row ∧
        s'.idempotencyKeys = s.keysWith request row' ∧
        (row'.status = .completed → row'.result.isSome = true) := by
  have hfinish : ∀ (row : IdempotencyKey) (r : ToolExecutionResult) (toolCallId : ℕ),
      (row.finish caller.now r toolCallId).result.isSome = true := by
    intro row r toolCallId
    unfold IdempotencyKey.finish
    split <;> rfl
  cases h with
  | idle => exact .inl rfl
  | refused hadmits hholds happrovals hsame =>
    exact .inr ⟨_, _, _, hholds, hsame.idempotencyKeys, fun hcompleted => nomatch hcompleted⟩
  | blocked hadmits hholds hjudged hbranch hstatus hsame =>
    exact .inr ⟨_, _, _, hholds, hsame.idempotencyKeys, fun _ => hfinish _ _ _⟩
  | parked hadmits hholds hjudged hbranch hstatus hsame =>
    exact .inr ⟨_, _, _, hholds, hsame.idempotencyKeys, fun _ => hfinish _ _ _⟩
  | handled hadmits hholds hhandling hstatus hsame =>
    exact .inr ⟨_, _, _, hholds, hsame.idempotencyKeys, fun _ => hfinish _ _ _⟩

theorem Executed.completedStored (hstored : CompletedStored s)
    (h : Executed rt svc caller args s s') : CompletedStored s' := by
  rcases h.keyWritten with hkeys | ⟨request, row, row', -, hkeys, hresult⟩
  · exact hstored.of_eq hkeys
  · intro m key found hfound
    rw [idempotencyKey?_keysWith row' hkeys] at hfound
    split at hfound
    · obtain rfl := Option.some.inj hfound
      exact hresult
    · exact hstored m key found hfound

theorem Executed.keys_kept (hstored : CompletedStored s)
    (h : Executed rt svc caller args s s') {m : ℕ} {key : String} {row : IdempotencyKey}
    (hrow : s.idempotencyKey? m key = some row) (hcompleted : row.status = .completed) :
    s'.idempotencyKey? m key = some row := by
  rcases h.keyWritten with hkeys | ⟨request, held, row', hholds, hkeys, -⟩
  · unfold Store.idempotencyKey? at hrow ⊢
    rw [hkeys]
    exact hrow
  · rw [idempotencyKey?_keysWith row' hkeys]
    split
    · rename_i heq
      obtain ⟨rfl, rfl⟩ := Prod.mk.inj heq
      obtain rfl := hholds.of_found hrow
      exact absurd hcompleted (hholds.not_completed hstored)
    · exact hrow

/-- The keys after a rejection: one of them failed. -/
theorem idempotencyKey?_failedKeys {d : Decision} {m : ℕ} {key : String}
    (h : s'.idempotencyKeys = s.failedKeys caller d) :
    s'.idempotencyKey? m key = s.idempotencyKey? m key ∨
      (m, key) = (d.case.merchantId, d.action.idempotencyKey) ∧
        ∃ row, s.idempotencyKey? m key = some row ∧
          s'.idempotencyKey? m key = some (row.fail caller.now "APPROVAL_REJECTED") := by
  unfold Store.idempotencyKey?
  rw [h]
  unfold Store.failedKeys
  by_cases hsame : (m, key) = (d.case.merchantId, d.action.idempotencyKey)
  · rw [hsame]
    cases hrow : s.idempotencyKeys.lookup (d.case.merchantId, d.action.idempotencyKey) with
    | none => exact .inl hrow
    | some row => exact .inr ⟨rfl, row, rfl, AList.lookup_insert _⟩
  · split
    · exact .inl (AList.lookup_insert_ne hsame)
    · exact .inl rfl

/-! ## Calls that spare what is final -/

/-- The decision is about nothing that is final. -/
structure Decision.SparesFinals (s : Store) (d : Decision) : Prop where
  approval : d.approval.status = .pending
  action : d.action.status ≠ .succeeded
  key : ∀ row, s.idempotencyKey? d.case.merchantId d.action.idempotencyKey = some row →
    row.status ≠ .completed

/-- The call writes on no succeeded action, and is not made with an approval that was
granted and has expired since. -/
structure ExecuteArgs.SparesFinals (rt : Runtime) (svc : ToolExecutionService)
    (caller : Caller) (s : Store) (args : ExecuteArgs) : Prop where
  action : ∀ i a, Rewrites rt svc caller args s i → s.actions.get? i = some a →
    a.status ≠ .succeeded
  approval : args.approvedExecution = true → ∀ approvalId a,
    args.approvalId = some approvalId → s.approvals.get? approvalId = some a →
      a.status = .approved → a.isExpired caller.now = false

/-- The calls that change nothing final. -/
def SparesFinals (rt : Runtime) (s : Store) : Operation → Prop
  | .execute svc caller args => args.SparesFinals rt svc caller s
  | .reject _ args | .cancel _ args => ∀ d, loadDecision s args = .ok d → d.SparesFinals s
  | _ => True

theorem Executed.finalsKept (hstored : CompletedStored s)
    (hspares : args.SparesFinals rt svc caller s) (h : Executed rt svc caller args s s') :
    FinalsKept s s' where
  approvals i a ha hdecided := by
    have hkept : s'.approvals.get? i = some a → ∃ a', s'.approvals.get? i = some a' ∧
        a'.status = a.status ∧ a'.decidedBy = a.decidedBy ∧ a'.decidedAt = a.decidedAt :=
      fun ha' => ⟨a, ha', rfl, rfl, rfl⟩
    cases h with
    | idle => exact hkept ha
    | refused hadmits hholds happrovals hsame =>
      obtain rfl := (admitted_of_ok hadmits).args_eq
      rcases happrovals with hsame' | ⟨approvalId, a₀, happroved, hid, hrow, -, hstatus,
        hexpired, -⟩
      · exact hkept (by rw [hsame', ha])
      · have hintime := hspares.approval happroved approvalId a₀ hid hrow hstatus
        exact absurd (hintime.symm.trans hexpired) (by simp)
    | blocked hadmits hholds hjudged hbranch hstatus hsame =>
      exact hkept (by rw [hsame.approvals, ha])
    | parked hadmits hholds hjudged hbranch hstatus hsame =>
      refine hkept ?_
      rw [hsame.approvals]
      exact Table.get?_insert_of_some ha _
    | handled hadmits hholds hhandling hstatus hsame =>
      exact hkept (by rw [hsame.approvals, ha])
  actions i a ha hsucceeded := by
    have hother : ¬ Rewrites rt svc caller args s i :=
      fun hrewrites => hspares.action i a hrewrites ha hsucceeded
    exact ⟨a, h.action_kept ha hother, hsucceeded, rfl, rfl, rfl⟩
  keys m key row hrow hcompleted := ⟨row, h.keys_kept hstored hrow hcompleted, hcompleted⟩

/-- An approval that is no longer pending stays as it is when another row is rewritten. -/
theorem approval_kept {d : Decision} {dargs : DecisionArgs} (hload : Loaded s dargs d)
    (hpending : d.approval.status = .pending) {i : ℕ} {a : Approval}
    (ha : s.approvals.get? i = some a) (hdecided : a.IsDecided) (f : Approval → Approval) :
    (s.approvals.modify d.approvalId f).get? i = some a := by
  have hne : d.approvalId ≠ i := by
    rintro rfl
    obtain rfl := Option.some.inj (hload.approval.symm.trans ha)
    exact hdecided.ne_pending hpending
  rw [Table.get?_modify_ne _ hne, ha]

/-- An action that is not the decided one stays as it is. -/
theorem succeeded_kept {d : Decision} {dargs : DecisionArgs} (hload : Loaded s dargs d)
    (hopen : d.action.status ≠ .succeeded) {i : ℕ} {a : RecoveryAction}
    (ha : s.actions.get? i = some a) (hsucceeded : a.status = .succeeded)
    (f : RecoveryAction → RecoveryAction) :
    (s.actions.modify d.args.actionId f).get? i = some a := by
  have hne : d.args.actionId ≠ i := by
    rintro rfl
    rw [hload.args_eq] at ha
    obtain rfl := Option.some.inj (hload.action.symm.trans ha)
    exact hopen hsucceeded
  rw [Table.get?_modify_ne _ hne, ha]

theorem approvable_ne_succeeded {status : RecoveryActionStatus}
    (h : approvableStatuses.contains status = true) : status ≠ .succeeded := by
  rintro rfl
  revert h
  decide

/-- Granting an approval changes nothing final. -/
theorem granted_finalsKept {d : Decision} {dargs : DecisionArgs} {s₀ : Store}
    (hload : Loaded s dargs d) (hgrantable : Grantable caller d)
    (hrecorded : Recorded (s.granted caller d) s₀) : FinalsKept s s₀ where
  approvals i a ha hdecided := by
    refine ⟨a, ?_, rfl, rfl, rfl⟩
    rw [hrecorded.approvals]
    exact approval_kept hload hgrantable.pending ha hdecided _
  actions i a ha hsucceeded := by
    refine ⟨a, ?_, hsucceeded, rfl, rfl, rfl⟩
    rw [hrecorded.actions]
    have hopen := approvable_ne_succeeded hgrantable.approvable
    exact succeeded_kept hload hopen ha hsucceeded _
  keys m key row hrow hcompleted := by
    refine ⟨row, ?_, hcompleted⟩
    unfold Store.idempotencyKey? at hrow ⊢
    rw [hrecorded.idempotencyKeys]
    exact hrow

/-- The row of an approved action, once the approval was granted. -/
theorem granted_action {d : Decision} {dargs : DecisionArgs} {s₀ : Store}
    (hload : Loaded s dargs d) (hrecorded : Recorded (s.granted caller d) s₀) :
    s₀.actions.get? dargs.actionId = some { d.action with status := .approved } := by
  rw [hrecorded.actions]
  unfold Store.granted
  dsimp only
  rw [hload.args_eq, Table.get?_modify_self, hload.action]
  rfl

/-- An approved execution finds the row of its action. -/
theorem existingAction_approvedExecution {d : Decision} {dargs : DecisionArgs} {s₀ : Store}
    (hload : Loaded s dargs d) (hrecorded : Recorded (s.granted caller d) s₀)
    (hadmits : admitRequest rt s₀ (approvedExecution d) = .ok request) :
    s₀.existingAction request.case.merchantId request.args.idempotencyKey
      request.args.existingActionId = some dargs.actionId := by
  have hargs := (admitted_of_ok hadmits).args_eq
  have hrow := granted_action hload hrecorded
  have hgiven : request.args.existingActionId = some dargs.actionId := by
    rw [hargs, ← hload.args_eq]
    rfl
  unfold Store.existingAction
  rw [hgiven, Option.filter_some, hrow]
  rfl

/-- The execution of an action whose approval was just granted. -/
theorem approvedExecution_sparesFinals (rt : Runtime) (svc : ToolExecutionService)
    {d : Decision} {dargs : DecisionArgs} {s₀ : Store}
    (hload : Loaded s dargs d) (hgrantable : Grantable caller d)
    (hrecorded : Recorded (s.granted caller d) s₀) :
    (approvedExecution d).SparesFinals rt svc caller s₀ where
  action := by
    rintro i a ⟨request, row, verdict, hadmits, -, -, -, -, -, hfound⟩ ha
    have hfound' := existingAction_approvedExecution hload hrecorded hadmits
    obtain rfl := Option.some.inj (hfound.symm.trans hfound')
    have hrow := granted_action hload hrecorded
    obtain rfl := Option.some.inj (ha.symm.trans hrow)
    simp
  approval := by
    intro _ approvalId a hid ha _
    obtain rfl := Option.some.inj hid
    rw [hrecorded.approvals] at ha
    unfold Store.granted at ha
    dsimp only at ha
    rw [Table.get?_modify_self, hload.approval] at ha
    obtain rfl := Option.some.inj ha
    exact hgrantable.inTime

theorem Approved.finalsKept {args : DecisionArgs} (hstored : CompletedStored s)
    (h : Approved rt svc caller args s s') : FinalsKept s s' := by
  cases h with
  | idle => exact .refl s
  | @expired d hload hpending hexpired =>
    have hloaded := loaded_of_loadDecision hload
    refine { FinalsKept.refl s with approvals := ?_ }
    intro i a ha hdecided
    exact ⟨a, approval_kept hloaded hpending ha hdecided _, rfl, rfl, rfl⟩
  | granted hload hgrantable hrecorded hexecuted =>
    have hloaded := loaded_of_loadDecision hload
    have hgranted := granted_finalsKept hloaded hgrantable hrecorded
    have hstored₀ := hstored.of_eq hrecorded.idempotencyKeys
    have hspares := approvedExecution_sparesFinals rt svc hloaded hgrantable
      hrecorded
    exact hgranted.trans (hexecuted.finalsKept hstored₀ hspares)

theorem Approved.completedStored {args : DecisionArgs} (hstored : CompletedStored s)
    (h : Approved rt svc caller args s s') : CompletedStored s' := by
  cases h with
  | idle => exact hstored
  | expired hload hpending hexpired => exact hstored
  | granted hload hgrantable hrecorded hexecuted =>
    exact hexecuted.completedStored (hstored.of_eq hrecorded.idempotencyKeys)

theorem Rejected.finalsKept {args : DecisionArgs}
    (hspares : ∀ d, loadDecision s args = .ok d → d.SparesFinals s)
    (h : Rejected caller args s s') : FinalsKept s s' := by
  cases h with
  | idle => exact .refl s
  | @rejected d _ hload hsame =>
    have hloaded := loaded_of_loadDecision hload
    have hspared := hspares d hload
    refine ⟨?_, ?_, ?_⟩
    · intro i a ha hdecided
      refine ⟨a, ?_, rfl, rfl, rfl⟩
      rw [hsame.approvals]
      exact approval_kept hloaded hspared.approval ha hdecided _
    · intro i a ha hsucceeded
      refine ⟨a, ?_, hsucceeded, rfl, rfl, rfl⟩
      rw [hsame.actions]
      exact succeeded_kept hloaded hspared.action ha hsucceeded _
    · intro m key row hrow hcompleted
      have hkeys : s'.idempotencyKeys = s.failedKeys caller d := hsame.idempotencyKeys
      rcases idempotencyKey?_failedKeys hkeys with hkept | ⟨hsamekey, -⟩
      · exact ⟨row, by rw [hkept, hrow], hcompleted⟩
      · obtain ⟨rfl, rfl⟩ := Prod.mk.inj hsamekey
        exact absurd hcompleted (hspared.key row hrow)

theorem Rejected.completedStored {args : DecisionArgs} (hstored : CompletedStored s)
    (h : Rejected caller args s s') : CompletedStored s' := by
  cases h with
  | idle => exact hstored
  | @rejected d _ hload hsame =>
    intro m key row hrow
    have hkeys : s'.idempotencyKeys = s.failedKeys caller d := hsame.idempotencyKeys
    rcases idempotencyKey?_failedKeys hkeys with hkept | ⟨-, row₀, -, hfailed⟩
    · exact hstored m key row (hkept ▸ hrow)
    · obtain rfl := Option.some.inj (hfailed.symm.trans hrow)
      exact fun hcompleted => nomatch hcompleted

theorem plannedActions_get? {row a : RecoveryAction} {i : ℕ}
    (ha : s.actions.get? i = some a) : (s.plannedActions row).get? i = some a := by
  unfold Store.plannedActions
  split
  · exact ha
  · exact Table.get?_insert_of_some ha _

theorem Plans.finalsKept {py : PyText} {caseId : ℕ} (h : Plans py caller caseId s s') :
    FinalsKept s s' := by
  cases h with
  | nothing hsame => exact .of_eq hsame.approvals hsame.actions hsame.idempotencyKeys
  | recorded c actionType status riskLevel hrow htype hstatus hsame =>
    have hsame₀ : FinalsKept s s := .refl s
    refine ⟨?_, ?_, ?_⟩
    · rw [hsame.approvals]
      exact hsame₀.approvals
    · intro i a ha hsucceeded
      refine ⟨a, ?_, hsucceeded, rfl, rfl, rfl⟩
      rw [hsame.actions]
      exact plannedActions_get? ha
    · unfold Store.idempotencyKey?
      rw [hsame.idempotencyKeys]
      exact hsame₀.keys
  | parked c actionType riskLevel ttlMinutes hrow htype hsame =>
    have hsame₀ : FinalsKept s s := .refl s
    refine ⟨?_, ?_, ?_⟩
    · intro i a ha hdecided
      refine ⟨a, ?_, rfl, rfl, rfl⟩
      rw [hsame.approvals]
      exact Table.get?_insert_of_some ha _
    · intro i a ha hsucceeded
      rw [hsame.actions]
      unfold Store.planParked
      dsimp only
      rw [Table.get?_modify, plannedActions_get? ha]
      split
      · exact ⟨_, rfl, hsucceeded, rfl, rfl, rfl⟩
      · exact ⟨a, rfl, hsucceeded, rfl, rfl, rfl⟩
    · unfold Store.idempotencyKey?
      rw [hsame.idempotencyKeys]
      exact hsame₀.keys

/-! ## Runs -/

/-- What happens between calls: approvals, actions and keys stay. -/
structure LeavesRecords (s s' : Store) : Prop where
  approvals : s'.approvals = s.approvals
  actions : s'.actions = s.actions
  idempotencyKeys : s'.idempotencyKeys = s.idempotencyKeys

/-- The reason of a decision does not matter for what it is about. -/
theorem loadDecision_reason {args : DecisionArgs} {d : Decision} {reason : Option String}
    (h : loadDecision s { args with reason := reason } = .ok d) :
    loadDecision s args = .ok { d with args := args } := by
  unfold loadDecision at h ⊢
  obtain ⟨c, hc, h⟩ := Lib.bind_eq_ok.mp h
  obtain ⟨u, hmerchant, h⟩ := Lib.bind_eq_ok.mp h
  obtain ⟨action, haction, h⟩ := Lib.bind_eq_ok.mp h
  obtain ⟨pending, hpending, h⟩ := Lib.bind_eq_ok.mp h
  obtain rfl := Except.ok.inj h
  refine Lib.bind_eq_ok.mpr ⟨c, hc, Lib.bind_eq_ok.mpr ⟨u, hmerchant, ?_⟩⟩
  exact Lib.bind_eq_ok.mpr ⟨action, haction, Lib.bind_eq_ok.mpr ⟨pending, hpending, rfl⟩⟩

theorem Step.completedStored {op : Operation} (hstored : CompletedStored s)
    (h : Step rt LeavesRecords s op s') : CompletedStored s' := by
  cases op with
  | execute svc caller args =>
    obtain rfl := h
    exact (execute_executed rt svc caller args s).completedStored hstored
  | approve svc caller args =>
    obtain rfl := h
    exact (approveAction_approved rt svc caller args s).completedStored hstored
  | reject caller args =>
    obtain rfl := h
    exact (rejectAction_rejected caller args s).completedStored hstored
  | cancel caller args =>
    obtain rfl := h
    exact (rejectAction_rejected caller _ s).completedStored hstored
  | process cfg caller caseId =>
    obtain rfl := h
    exact hstored.of_eq (process_plans cfg caller caseId s).committed.idempotencyKeys
  | verify cfg caller args =>
    obtain rfl := h
    exact hstored.of_eq (verifyCase_plans cfg caller args s).committed.idempotencyKeys
  | other => exact hstored.of_eq (LeavesRecords.idempotencyKeys h)

/-- A call that spares what is final keeps it. -/
theorem Step.finalsKept {op : Operation} (hstored : CompletedStored s)
    (hspares : SparesFinals rt s op) (h : Step rt LeavesRecords s op s') : FinalsKept s s' := by
  cases op with
  | execute svc caller args =>
    obtain rfl := h
    exact (execute_executed rt svc caller args s).finalsKept hstored hspares
  | approve svc caller args =>
    obtain rfl := h
    exact (approveAction_approved rt svc caller args s).finalsKept hstored
  | reject caller args =>
    obtain rfl := h
    exact (rejectAction_rejected caller args s).finalsKept hspares
  | cancel caller args =>
    obtain rfl := h
    refine (rejectAction_rejected caller _ s).finalsKept fun d hload => ?_
    have hspared := hspares _ (loadDecision_reason hload)
    exact ⟨hspared.approval, hspared.action, hspared.key⟩
  | process cfg caller caseId =>
    obtain rfl := h
    exact (process_plans cfg caller caseId s).committed.finalsKept
  | verify cfg caller args =>
    obtain rfl := h
    exact (verifyCase_plans cfg caller args s).committed.finalsKept
  | other => exact .of_eq h.approvals h.actions h.idempotencyKeys

/-- Approving what was decided before raises and changes nothing. -/
theorem approve_decided (rt : Runtime) (svc : ToolExecutionService) {args : DecisionArgs}
    {d : Decision} (hload : loadDecision s args = .ok d)
    (hdecided : d.approval.status ≠ .pending) :
    ∃ code message, (approveAction rt svc caller args).run s =
      (.error (toolValidationError code message), s) := by
  have houtcome := approveAction_outcome rt svc caller args s
  rcases hran : (approveAction rt svc caller args).run s with ⟨x, s'⟩
  rw [hran] at houtcome
  cases houtcome with
  | refused hrefused => exact absurd (hrefused.symm.trans hload) (by simp)
  | expired hload' hpending hexpired =>
    obtain rfl := Except.ok.inj (hload'.symm.trans hload)
    exact absurd hpending hdecided
  | decided hload' hdecided' => exact ⟨_, _, rfl⟩
  | granted hload' hgrantable hrecorded hexecute =>
    obtain rfl := Except.ok.inj (hload'.symm.trans hload)
    exact absurd hgrantable.pending hdecided

/-- From every reachable store on, calls that spare what is final keep it, and approving
what was decided before raises and changes nothing. -/
theorem finalsKept_run {labels labels' : List Operation} (hstart : s.idempotencyKeys = ∅)
    (hreached : Run (Step rt LeavesRecords) s labels s')
    (hrun : Run (Guarded (Step rt LeavesRecords) (SparesFinals rt)) s' labels' s'') :
    FinalsKept s' s'' ∧
      ∀ svc caller args d, loadDecision s'' args = .ok d → d.approval.status ≠ .pending →
        ∃ code message, (approveAction rt svc caller args).run s'' =
          (.error (toolValidationError code message), s'') := by
  have hempty : CompletedStored s := by
    intro m key row hrow
    unfold Store.idempotencyKey? at hrow
    rw [hstart] at hrow
    cases hrow
  have hstored : CompletedStored s' :=
    hreached.invariant (fun _ _ _ h hstep => hstep.completedStored h) hempty
  refine ⟨?_, fun svc caller args d hload hdecided => approve_decided rt svc hload hdecided⟩
  refine hrun.relates (R := FinalsKept) .refl (fun _ _ _ => .trans) ?_ hstored
  rintro s₁ op s₂ hstored₁ ⟨hspares, hstep⟩
  exact ⟨hstep.completedStored hstored₁, hstep.finalsKept hstored₁ hspares⟩

/-! ### Rejecting what was executed -/

/-- Rejecting the reminder that was approved and sent changes its approval, its action and
its key. -/
theorem rejected_not_finalsKept :
    Run (Step sampleRuntime LeavesRecords) mediumValueStore
        [.execute sampleService noonCaller (reminderUnder "first" none),
          .approve sampleService noonCaller firstAction] remindedStore ∧
      ¬ FinalsKept remindedStore (committed (rejectAction noonCaller firstAction)
        remindedStore) := by
  have hparked : Run (Step sampleRuntime LeavesRecords) mediumValueStore
      [.execute sampleService noonCaller (reminderUnder "first" none)] parkedStore :=
    .single rfl
  refine ⟨hparked.snoc rfl, fun hkept => ?_⟩
  have hsucceeded : (remindedStore.actions.get? 0).map (·.status) = some .succeeded := by
    decide +kernel
  have hcancelled : ((committed (rejectAction noonCaller firstAction)
      remindedStore).actions.get? 0).map (·.status) = some .cancelled := by decide +kernel
  obtain ⟨a, ha, hstatus⟩ := Option.map_eq_some_iff.mp hsucceeded
  obtain ⟨a', ha', hstatus', -⟩ := hkept.actions 0 a ha hstatus
  rw [ha', Option.map_some, hstatus'] at hcancelled
  cases hcancelled

/-! ### Another reminder, and its rejection -/

/-- An execution under a key that no row has, and on no row given, writes on none. -/
theorem not_rewrites_of_newKey (hgiven : args.existingActionId = none)
    (hnew : ∀ a ∈ s.actions.rows, a.idempotencyKey ≠ args.idempotencyKey) (i : ℕ) :
    ¬ Rewrites rt svc caller args s i := by
  rintro ⟨request, row, verdict, hadmits, -, -, -, -, -, hfound⟩
  rw [(admitted_of_ok hadmits).args_eq] at hfound
  unfold Store.existingAction Store.actionIdOfKey at hfound
  rw [hgiven, Option.filter_none, Option.none_or] at hfound
  obtain ⟨a, ha, hkey⟩ := Table.get?_of_findId? hfound
  have hsame : a.idempotencyKey = args.idempotencyKey := by
    simp only [Bool.and_eq_true, decide_eq_true_eq] at hkey
    exact hkey.2
  exact hnew a (List.mem_of_getElem? ha) hsame

/-- The decision about the second action row. -/
def secondAction : DecisionArgs where
  caseId := 0
  actionId := 1

/-- A second reminder waits for its approval, on a row of its own. -/
def secondReminderStore : Store :=
  committed (execute sampleRuntime sampleService noonCaller (reminderUnder "second" none))
    remindedStore

/-- The second reminder was rejected. -/
def secondRejectedStore : Store :=
  committed (rejectAction noonCaller secondAction) secondReminderStore

theorem Loaded.approval_status {dargs : DecisionArgs} {d : Decision} {status : ApprovalStatus}
    (h : Loaded s dargs d)
    (hstatus : ((s.newestApproval dargs.caseId dargs.actionId).bind s.approvals.get?).map
      (·.status) = some status) : d.approval.status = status := by
  rw [h.newest, Option.bind_some, h.approval] at hstatus
  exact Option.some.inj hstatus

/-- The decision about the second reminder is about nothing that is final. -/
theorem secondAction_sparesFinals {d : Decision}
    (hload : loadDecision secondReminderStore secondAction = .ok d) :
    d.SparesFinals secondReminderStore := by
  have hloaded := loaded_of_loadDecision hload
  have haction : (secondReminderStore.actions.get? 1).map (fun a =>
      (a.status, a.idempotencyKey)) = some (.approvalRequired, "second") := by decide +kernel
  have hcase : (secondReminderStore.cases.get? 0).map (·.merchantId) = some 0 := by
    decide +kernel
  have hkey : (secondReminderStore.idempotencyKey? 0 "second").map (·.status) =
      some .inProgress := by decide +kernel
  rw [show secondReminderStore.actions.get? 1 = some d.action from hloaded.action,
    Option.map_some, Option.some.injEq, Prod.mk.injEq] at haction
  rw [show secondReminderStore.cases.get? 0 = some d.case from hloaded.row, Option.map_some,
    Option.some.injEq] at hcase
  refine ⟨hloaded.approval_status (by decide +kernel), by rw [haction.1]; decide, ?_⟩
  intro row hfound
  rw [hcase, haction.2] at hfound
  rw [hfound, Option.map_some, Option.some.injEq] at hkey
  rw [hkey]
  decide

/-- A second reminder and its rejection keep the approval, the action and the key of the
first, which are final; approving the first again raises. -/
theorem finalsKept_reminded :
    ((remindedStore.approvals.get? 0).map (·.status) = some .approved ∧
      (remindedStore.actions.get? 0).map (·.status) = some .succeeded ∧
      (remindedStore.idempotencyKey? 0 "first").map (·.status) = some .completed) ∧
    FinalsKept remindedStore secondRejectedStore ∧
      ∃ code message, (approveAction sampleRuntime sampleService noonCaller firstAction).run
        secondRejectedStore = (.error (toolValidationError code message),
          secondRejectedStore) := by
  have hreached : Run (Step sampleRuntime LeavesRecords) mediumValueStore
      [.execute sampleService noonCaller (reminderUnder "first" none),
        .approve sampleService noonCaller firstAction] remindedStore :=
    Run.snoc (.single rfl) rfl
  have hexecute : SparesFinals sampleRuntime remindedStore
      (.execute sampleService noonCaller (reminderUnder "second" none)) := by
    refine ⟨fun i a hrewrites => ?_, fun happroved => nomatch happroved⟩
    have hnew : ∀ a ∈ remindedStore.actions.rows, a.idempotencyKey ≠ "second" := by
      decide +kernel
    exact absurd hrewrites (not_rewrites_of_newKey rfl hnew i)
  have hrun : Run (Guarded (Step sampleRuntime LeavesRecords) (SparesFinals sampleRuntime))
      remindedStore [.execute sampleService noonCaller (reminderUnder "second" none),
        .reject noonCaller secondAction] secondRejectedStore :=
    Run.snoc (.single ⟨hexecute, rfl⟩) ⟨fun _ => secondAction_sparesFinals, rfl⟩
  obtain ⟨hkept, hraises⟩ := finalsKept_run rfl hreached hrun
  refine ⟨by decide +kernel, hkept, ?_⟩
  have hloads : (loadDecision secondRejectedStore firstAction).isOk = true := by decide +kernel
  cases hload : loadDecision secondRejectedStore firstAction with
  | error f =>
    rw [hload] at hloads
    cases hloads
  | ok d =>
    have hstatus : d.approval.status = .approved :=
      (loaded_of_loadDecision hload).approval_status (by decide +kernel)
    exact hraises sampleService noonCaller firstAction d hload (by rw [hstatus]; decide)

end ReviveX
