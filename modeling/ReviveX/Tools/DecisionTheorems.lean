import ReviveX.Tools.ReplayTheorems

/-!
# Decisions that fail

The operator routes turn a `DomainError` into a response, so the session commits what the
call wrote before it raised. A call of `approve_action` that fails before the approval is
granted leaves every decision open; one that fails after it leaves an approval that says
`APPROVED` for an action that never ran.
-/

namespace ReviveX

open Lib (Session Table)

variable {rt : Runtime} {svc : ToolExecutionService} {caller : Caller} {now : Time}
  {s s' : Store} {args : DecisionArgs} {d : Decision}

/-- What a human's decision writes on an approval. -/
def Approval.answer (a : Approval) :
    ApprovalStatus × Option String × Option Time × Option String :=
  (a.status, a.decidedBy, a.decidedAt, a.decisionReason)

/-- The decisions of the store `s` are as open in `s'`: nothing was decided, but overdue
approvals may have expired. -/
structure DecisionsOpen (now : Time) (s s' : Store) : Prop where
  approvals : ∀ i,
    (s'.approvals.get? i).map Approval.answer = (s.approvals.get? i).map Approval.answer ∨
    ∃ a, s.approvals.get? i = some a ∧ a.status = .pending ∧ a.isExpired now = true ∧
      s'.approvals.get? i = some a.expire
  actions : ∀ i, (s'.actions.get? i).map (·.status) = (s.actions.get? i).map (·.status)
  keys : ∀ m key, s'.idempotencyKey? m key = s.idempotencyKey? m key

namespace DecisionsOpen

theorem refl (now : Time) (s : Store) : DecisionsOpen now s s :=
  ⟨fun _ => .inl rfl, fun _ => rfl, fun _ _ => rfl⟩

/-- An approval that expired, being overdue. -/
theorem of_expired {approvalId : ℕ} {a : Approval} (ha : s.approvals.get? approvalId = some a)
    (hpending : a.status = .pending) (hexpired : a.isExpired now = true) :
    DecisionsOpen now s
      { s with approvals := s.approvals.modify approvalId Approval.expire } := by
  refine ⟨fun i => ?_, fun _ => rfl, fun _ _ => rfl⟩
  by_cases hi : approvalId = i
  · subst hi
    right
    refine ⟨a, ha, hpending, hexpired, ?_⟩
    show (s.approvals.modify approvalId Approval.expire).get? approvalId = _
    rw [Table.get?_modify_self, ha]
    rfl
  · left
    show ((s.approvals.modify approvalId Approval.expire).get? i).map _ = _
    rw [Table.get?_modify_ne _ hi]

/-- A pending approval that is in time is still pending. -/
theorem pending {i : ℕ} {a a' : Approval} (h : DecisionsOpen now s s')
    (ha : s.approvals.get? i = some a) (hpending : a.status = .pending)
    (hintime : a.isExpired now = false) (ha' : s'.approvals.get? i = some a') :
    a'.status = .pending := by
  rcases h.approvals i with hsame | ⟨b, hb, -, hexpired, -⟩
  · rw [ha, ha'] at hsame
    have hanswer : a'.answer = a.answer := Option.some.inj hsame
    have hstatus : a'.status = a.status := congrArg Prod.fst hanswer
    rw [hstatus, hpending]
  · obtain rfl := Option.some.inj (ha.symm.trans hb)
    exact absurd (hintime.symm.trans hexpired) (by simp)

end DecisionsOpen

/-- A call of `execute` never reopens an approval. -/
theorem Executed.approval_decided {args : ExecuteArgs} (h : Executed rt svc caller args s s')
    {i : ℕ} {a : Approval} (ha : s.approvals.get? i = some a) (hdecided : a.status ≠ .pending) :
    ∃ a', s'.approvals.get? i = some a' ∧ a'.status ≠ .pending := by
  have hkept : s'.approvals = s.approvals →
      ∃ a', s'.approvals.get? i = some a' ∧ a'.status ≠ .pending := by
    intro hsame
    refine ⟨a, ?_, hdecided⟩
    rw [hsame]
    exact ha
  cases h with
  | idle => exact hkept rfl
  | refused hadmits hholds happrovals hsame =>
    rcases happrovals with hsame' | ⟨approvalId, b, -, -, hb, -, -, -, hexpire⟩
    · exact hkept hsame'
    · -- the approval that the call relied on has expired
      by_cases hi : approvalId = i
      · subst hi
        refine ⟨b.expire, ?_, by simp [Approval.expire]⟩
        rw [hexpire, Table.get?_modify_self, hb]
        rfl
      · refine ⟨a, ?_, hdecided⟩
        rw [hexpire, Table.get?_modify_ne _ hi]
        exact ha
  | blocked hadmits hholds hjudged hbranch hstatus hsame => exact hkept hsame.approvals
  | parked hadmits hholds hjudged hbranch hstatus hsame =>
    refine ⟨a, ?_, hdecided⟩
    rw [hsame.approvals]
    exact Table.get?_insert_of_some ha _
  | handled hadmits hholds hhandling hstatus hsame => exact hkept hsame.approvals

/-- A call of `approve_action` that raised a `DomainError` left every decision open exactly
where it was refused before the approval was granted. -/
theorem failedApproval_open_iff (rt : Runtime) (svc : ToolExecutionService) (caller : Caller)
    (args : DecisionArgs) (s : Store) {e : DomainError}
    (hraised : ((approveAction rt svc caller args).run s).1 = .error (.domain e)) :
    DecisionsOpen caller.now s (committed (approveAction rt svc caller args) s) ↔
      ∀ d, loadDecision s args = .ok d → ¬ Grantable caller d := by
  have houtcome := approveAction_outcome rt svc caller args s
  rcases hran : (approveAction rt svc caller args).run s with ⟨x, s'⟩
  rw [hran] at hraised houtcome
  obtain rfl : x = .error (.domain e) := hraised
  have hcommitted : committed (approveAction rt svc caller args) s = s' := committed_error hran
  rw [hcommitted]
  cases houtcome with
  | refused hload =>
    refine iff_of_true (.refl caller.now _) fun d hd => ?_
    exact absurd (hload.symm.trans hd) (by simp)
  | @expired d₀ code message hload hpending hexpired =>
    have hloaded := loaded_of_loadDecision hload
    refine iff_of_true (.of_expired hloaded.approval hpending hexpired) fun d hd hgrantable => ?_
    obtain rfl := Except.ok.inj (hload.symm.trans hd)
    exact absurd (hgrantable.inTime.symm.trans hexpired) (by simp)
  | @decided d₀ code message hload hdecided =>
    refine iff_of_true (.refl caller.now _) fun d hd hgrantable => ?_
    obtain rfl := Except.ok.inj (hload.symm.trans hd)
    rcases hdecided with hanswered | hstatus
    · exact hanswered hgrantable.pending
    · exact absurd (hgrantable.approvable.symm.trans hstatus) (by simp)
  | @granted d₀ s₀ _ _ hload hgrantable hrecorded hexecute =>
    have hloaded := loaded_of_loadDecision hload
    have hrow : s₀.approvals.get? d₀.approvalId = some (d₀.approval.grant caller) := by
      rw [hrecorded.approvals]
      show (s.approvals.modify d₀.approvalId (·.grant caller)).get? d₀.approvalId = _
      rw [Table.get?_modify_self, hloaded.approval]
      rfl
    -- the error is raised by the execution, after the approval row was written
    have hexecuted : Executed rt svc caller (approvedExecution d₀) s₀ s' := by
      refine .of_outcome hexecute fun f hf => ?_
      obtain rfl := Except.error.inj hf
      rfl
    obtain ⟨a', ha', hanswered⟩ := hexecuted.approval_decided hrow (by simp [Approval.grant])
    refine iff_of_false (fun hopen => ?_) fun hnone => hnone d₀ hload hgrantable
    have hpending := hopen.pending hloaded.approval hgrantable.pending hgrantable.inTime ha'
    exact hanswered hpending

/-! ### Approving after recovery was paused -/

/-- The store in which a parked reminder waits, after recovery was paused for its case. -/
def pausedParkedStore : Store :=
  committed (execute sampleRuntime sampleService noonCaller (underKey "pause_recovery" 0))
    parkedStore

/-- What the approval of the reminder raises. -/
def caseTerminalError : DomainError where
  cls := .toolValidation
  code := "CASE_TERMINAL"
  message := "Tools cannot run on a terminal recovery case and cannot bypass verification"

/-- The case of the parked reminder is over, and the call fails; yet its approval is
committed as approved. -/
theorem pausedApproval_not_open :
    ((approveAction sampleRuntime sampleService noonCaller firstAction).run
        pausedParkedStore).1 = .error (.domain caseTerminalError) ∧
    ¬ DecisionsOpen noonCaller.now pausedParkedStore
      (committed (approveAction sampleRuntime sampleService noonCaller firstAction)
        pausedParkedStore) := by
  refine ⟨Lib.raised?_eq_some.mp (by decide +kernel), fun hopen => ?_⟩
  have hbefore : ((pausedParkedStore.approvals.get? 0).map fun a =>
      (a.status, a.isExpired noonCaller.now)) = some (.pending, false) := by decide +kernel
  have hafter : (((committed (approveAction sampleRuntime sampleService noonCaller firstAction)
      pausedParkedStore).approvals.get? 0).map (·.status)) = some .approved := by decide +kernel
  obtain ⟨a, ha, hpair⟩ := Option.map_eq_some_iff.mp hbefore
  obtain ⟨a', ha', hstatus⟩ := Option.map_eq_some_iff.mp hafter
  obtain ⟨hpending, hintime⟩ := Prod.mk.inj hpair
  have hstill := hopen.pending ha hpending hintime ha'
  rw [hstill] at hstatus
  cases hstatus

theorem failedApproval_open_iff_paused :
    DecisionsOpen noonCaller.now pausedParkedStore
        (committed (approveAction sampleRuntime sampleService noonCaller firstAction)
          pausedParkedStore) ↔
      ∀ d, loadDecision pausedParkedStore firstAction = .ok d → ¬ Grantable noonCaller d :=
  failedApproval_open_iff sampleRuntime sampleService noonCaller firstAction pausedParkedStore
    (e := caseTerminalError) (Lib.raised?_eq_some.mp (by decide +kernel))

end ReviveX
