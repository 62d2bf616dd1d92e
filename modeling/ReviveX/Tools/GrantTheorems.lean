import ReviveX.Tools.FrameTheorems
import ReviveX.Tools.RunHistory

/-!
# Approvals that were granted

Only `approve_action` makes an approval APPROVED, and it notes the decision. Every other write
to the approvals inserts a pending row or closes one, so an approval that is APPROVED was
decided by a human, whatever happened before and since.
-/

namespace ReviveX

open Lib (Session Table)

variable {rt : Runtime} {svc : ToolExecutionService} {caller : Caller} {request : ToolRequest}
  {s s' : Store} {args : ExecuteArgs} {d : Decision}

/-- Every approval that is APPROVED was decided so. -/
def ApprovalsDecided (s : Store) : Prop :=
  ∀ i a, s.approvals.get? i = some a → a.status = .approved →
    .approvalDecided i .approved ∈ s.trace

/-- No approval was granted: what is APPROVED was there before. -/
def NothingGranted (approvals approvals' : Table Approval) : Prop :=
  ∀ i a, approvals'.get? i = some a → a.status = .approved → approvals.get? i = some a

namespace NothingGranted

variable {approvals approvals' : Table Approval} {approvalId : ℕ} {a : Approval}

theorem of_eq (h : approvals' = approvals) : NothingGranted approvals approvals' :=
  fun _ _ hrow _ => h ▸ hrow

theorem insert (h : a.status ≠ .approved) : NothingGranted approvals (approvals.insert a) := by
  intro i b hrow hstatus
  rw [Table.get?_insert] at hrow
  split at hrow
  · obtain rfl := Option.some.inj hrow
    exact absurd hstatus h
  · exact hrow

theorem modify {f : Approval → Approval} (hf : ∀ a, (f a).status ≠ .approved) :
    NothingGranted approvals (approvals.modify approvalId f) := by
  intro i b hrow hstatus
  rw [Table.get?_modify] at hrow
  split at hrow
  · obtain ⟨a, -, rfl⟩ := Option.map_eq_some_iff.mp hrow
    exact absurd hstatus (hf a)
  · exact hrow

end NothingGranted

theorem RefusedApprovals.nothingGranted {now : Time} (h : RefusedApprovals s s' request now) :
    NothingGranted s.approvals s'.approvals := by
  rcases h with hsame | ⟨approvalId, a, -, -, -, -, -, -, hexpired⟩
  · exact .of_eq hsame
  · rw [hexpired]
    exact .modify nofun

namespace ApprovalsDecided

/-- The history may grow, and nothing is granted. -/
theorem mono (h : ApprovalsDecided s) (hgranted : NothingGranted s.approvals s'.approvals)
    (htrace : ∀ e ∈ s.trace, e ∈ s'.trace) : ApprovalsDecided s' :=
  fun i a hrow hstatus => htrace _ (h i a (hgranted i a hrow hstatus) hstatus)

theorem of_same (h : ApprovalsDecided s) (happrovals : s'.approvals = s.approvals)
    (htrace : s'.trace = s.trace) : ApprovalsDecided s' :=
  h.mono (.of_eq happrovals) fun _ he => htrace ▸ he

/-- An approval that is granted is noted. -/
theorem granted (h : ApprovalsDecided s) : ApprovalsDecided (s.granted caller d) := by
  intro i a hrow hstatus
  change (s.approvals.modify d.approvalId (·.grant caller)).get? i = some a at hrow
  rw [Table.get?_modify] at hrow
  split at hrow
  · rename_i hsame
    rw [← hsame]
    exact List.mem_append_right _ List.mem_cons_self
  · exact List.mem_append_left _ (h i a hrow hstatus)

end ApprovalsDecided

theorem RunOutcome.nothingGranted {x : Except Failure ToolExecutionResult}
    (h : RunOutcome rt svc caller request s x s') :
    NothingGranted s.approvals s'.approvals := by
  cases h with
  | refused hrefusal happrovals hkept => exact happrovals.nothingGranted
  | blocked hjudged hbranch hstatus hkept => exact .of_eq hkept.approvals
  | parked hjudged hbranch hstatus hkept =>
    rw [hkept.approvals]
    exact .insert nofun
  | handled hentered hran hstatus hkept =>
    have hhandler := (hentered.reached.reported hran).approvals
    exact .of_eq (hkept.approvals.trans hhandler)
  | @crashed verdict s₁ s₂ c f hentered hran hrollsBack =>
    have heffects := handlers_effects rt svc caller.now
      (handlerContext request c (s.startedId request) s₁) request.tool
      (s₁.entered (requestCall caller request verdict s s₁ c))
    rw [hran] at heffects
    exact .of_eq (heffects.approvals.trans hentered.started.approvals)

/-- An execution grants nothing. -/
theorem ExecuteOutcome.approvalsDecided {x : Except Failure ToolExecutionResult}
    (h : ExecuteOutcome rt svc caller args s x s') (hdecided : ApprovalsDecided s) :
    ApprovalsDecided s' := by
  have htrace : ∀ e ∈ s.trace, e ∈ s'.trace := by
    obtain ⟨events, htrace, -⟩ := h.events
    rw [htrace]
    exact fun e he => List.mem_append_left _ he
  refine hdecided.mono ?_ htrace
  cases h with
  | rejected hadmits => exact .of_eq rfl
  | conflict hadmits hkey hhash => exact .of_eq rfl
  | replayed hadmits hkey hhash hdecision => exact .of_eq rfl
  | busy hadmits hkey hhash hdecision => exact .of_eq rfl
  | @ran request row s₁ s' x x' hadmits hholds hrun hfinished =>
    have hkey : (s.keyTaken request caller.now).approvals = s.approvals := by rw [keyTaken_eq]
    have hgranted := hrun.nothingGranted
    rw [hkey] at hgranted
    rw [hfinished.tables.2.1]
    exact hgranted

end ReviveX
