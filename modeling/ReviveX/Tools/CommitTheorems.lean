import Mathlib.Data.List.AList
import ReviveX.Domain.PlanTheorems
import ReviveX.Tools.ApprovalTheorems

/-!
# What a call leaves in the tables of the tool layer

Every route commits when its call returns or raises a `DomainError`, and rolls back on
another exception (`committed`). The outcomes of the calls are restated here for the store
after the commit, up to the tables outside the tool layer (`SameTools`): this is all that
statements about runs of calls look at.
-/

namespace ReviveX

open Lib (Session Table)

variable {rt : Runtime} {svc : ToolExecutionService} {caller : Caller} {now : Time}
  {request : ToolRequest} {s s' : Store} {args : ExecuteArgs}

/-- The store after a call and the end of its transaction. -/
def committed {α : Type} (m : Service α) (s : Store) : Store :=
  ((m.transact Failure.commits).run s).2

theorem committed_ok {α : Type} {m : Service α} {a : α} (h : m.run s = (.ok a, s')) :
    committed m s = s' := by
  unfold committed
  rw [Session.run_transact_ok h]

theorem committed_error {α : Type} {m : Service α} {f : Failure} (h : m.run s = (.error f, s')) :
    committed m s = if f.commits then s' else s := by
  unfold committed
  rw [Session.run_transact_error h]

theorem committed_congr {α : Type} {m m' : Service α} (h : m.run s = m'.run s) :
    committed m s = committed m' s := by
  rcases hrun : m'.run s with ⟨f | a, s'⟩
  · rw [committed_error hrun, committed_error (h.trans hrun)]
  · rw [committed_ok hrun, committed_ok (h.trans hrun)]

/-- The transaction of a call is committed or rolled back. -/
theorem committed_or_rolledBack {α : Type} (m : Service α) (s : Store) :
    committed m s = (m.run s).2 ∨ committed m s = s := by
  rcases hrun : m.run s with ⟨f | a, s'⟩
  · rw [committed_error hrun]
    split
    · exact .inl rfl
    · exact .inr rfl
  · exact .inl (committed_ok hrun)

theorem SameTools.of_recorded (h : Recorded s s') : SameTools s s' := by
  rw [h]
  exact ⟨rfl, rfl, rfl, rfl, rfl, rfl⟩

theorem SameTools.of_bookkept {caseId : ℕ} (h : Bookkept caseId s s') : SameTools s s' := by
  rw [h.store]
  exact ⟨rfl, rfl, rfl, rfl, rfl, rfl⟩

/-! ## Executions -/

/-- The actions after a handler returned. -/
def Store.handledActions (s : Store) (request : ToolRequest) (riskLevel : RiskLevel)
    (handled : HandlerResult) (now : Time) : Table RecoveryAction :=
  match s.startedId request with
  | none => s.startedActions request riskLevel now
  | some actionId =>
    (s.startedActions request riskLevel now).modify actionId (·.record handled now)

/-- A handler entered from the store `s`, on the row `c` of the case, which returned and
left the notifications of `s'`. -/
structure Handling (rt : Runtime) (svc : ToolExecutionService) (caller : Caller)
    (request : ToolRequest) (s : Store) (verdict : ToolVerdict) (c : RecoveryCase)
    (handled : HandlerResult) (s' : Store) : Prop where
  judged : judgeTool rt svc caller.now s request = .ok verdict
  branch : toolBranch request verdict.evaluation = .run
  usable : request.args.approvedExecution = true → UsableApproval s request caller.now
  lifecycle : request.case.LifecycleOnly c
  returned : ∃ s₁ s₂,
    (handlers rt svc caller.now (handlerContext request c (s.startedId request) s₁)
      request.tool).run s₁ = (.ok handled, s₂) ∧
    s₁.notifications = s.notifications ∧ s'.notifications = s₂.notifications

/-- A handler reached from the store `s` under a verdict, on the row `c` of the case, which
returned and left the notifications of `s'`. -/
structure HandlerReturned (rt : Runtime) (svc : ToolExecutionService) (caller : Caller)
    (request : ToolRequest) (s : Store) (verdict : ToolVerdict) (c : RecoveryCase)
    (handled : HandlerResult) (s' : Store) : Prop where
  branch : toolBranch request verdict.evaluation = .run
  usable : request.args.approvedExecution = true → UsableApproval s request caller.now
  lifecycle : request.case.LifecycleOnly c
  returned : ∃ s₁ s₂,
    (handlers rt svc caller.now (handlerContext request c (s.startedId request) s₁)
      request.tool).run s₁ = (.ok handled, s₂) ∧
    s₁.notifications = s.notifications ∧ s'.notifications = s₂.notifications

theorem HandlerReturned.handling {verdict : ToolVerdict} {c : RecoveryCase}
    {handled : HandlerResult} (h : HandlerReturned rt svc caller request s verdict c handled s')
    (hjudged : judgeTool rt svc caller.now s request = .ok verdict) :
    Handling rt svc caller request s verdict c handled s' :=
  ⟨hjudged, h.branch, h.usable, h.lifecycle, h.returned⟩

/-- The call of its handler that a request makes from the store `s`. -/
def Store.handlerCall (s : Store) (caller : Caller) (request : ToolRequest)
    (verdict : ToolVerdict) (c : RecoveryCase) : HandlerCall :=
  ReviveX.handlerCall request verdict.ctx (s.startedId request) s c caller.now

/-- What the handler asks the provider, from the store `s`. -/
def Store.asks (s : Store) (caller : Caller) (request : ToolRequest) (verdict : ToolVerdict)
    (c : RecoveryCase) : List TraceEvent :=
  let started : Store := { s with
    actions := s.startedActions request verdict.evaluation.riskLevel caller.now }
  handlerAsks (handlerContext request c (s.startedId request) started) started request.tool

/-- The history of a handler that returned. -/
def Store.handlingEvents (s : Store) (caller : Caller) (request : ToolRequest)
    (verdict : ToolVerdict) (c : RecoveryCase) (handled : HandlerResult) : List TraceEvent :=
  .handlerCalled (s.handlerCall caller request verdict c) ::
    (s.asks caller request verdict c ++
      successEvents (s.handlerCall caller request verdict c) handled)

/-- The keys once the row of the request's key was written. -/
def Store.keysWith (s : Store) (request : ToolRequest) (row : IdempotencyKey) :
    AList (fun _ : ℕ × String => IdempotencyKey) :=
  s.idempotencyKeys.insert (request.case.merchantId, request.args.idempotencyKey) row

/-- What a verdict led to, on the store `s` in which the request holds its key under the row,
up to the commit. -/
inductive Written (rt : Runtime) (svc : ToolExecutionService) (caller : Caller)
    (request : ToolRequest) (verdict : ToolVerdict) (row : IdempotencyKey) (s : Store) :
    Store → Prop
  | refused {code : String} {s' : Store} (happrovals : RefusedApprovals s s' request caller.now)
      (hsame : SameTools
        { s with
          approvals := s'.approvals
          idempotencyKeys := s.keysWith request (row.fail caller.now code) } s') :
      Written rt svc caller request verdict row s s'
  | blocked {action : RecoveryActionType} {r : ToolExecutionResult} {toolCallId : ℕ} {s' : Store}
      (hbranch : toolBranch request verdict.evaluation = .blocked action)
      (hstatus : r.status = .blocked)
      (hsame : SameTools
        { s with
          actions := s.upserted request action (blockingWrite verdict.evaluation) caller.now
          idempotencyKeys := s.keysWith request (row.finish caller.now r toolCallId) } s') :
      Written rt svc caller request verdict row s s'
  | parked {action : RecoveryActionType} {r : ToolExecutionResult} {toolCallId : ℕ} {s' : Store}
      (hbranch : toolBranch request verdict.evaluation = .approval action)
      (hstatus : r.status = .approvalRequired)
      (hsame : SameTools
        { s.parked caller request action verdict with
          idempotencyKeys := s.keysWith request (row.finish caller.now r toolCallId) } s') :
      Written rt svc caller request verdict row s s'
  | handled {c : RecoveryCase} {handled : HandlerResult} {r : ToolExecutionResult}
      {toolCallId : ℕ} {s' : Store}
      (hreturned : HandlerReturned rt svc caller request s verdict c handled s')
      (hstatus : r.status = if handled.success then .succeeded else .failed)
      (hsame : SameTools
        { s with
          actions := s.handledActions request verdict.evaluation.riskLevel handled caller.now
          idempotencyKeys := s.keysWith request (row.finish caller.now r toolCallId)
          notifications := s'.notifications
          trace := s.trace ++ s.handlingEvents caller request verdict c handled } s') :
      Written rt svc caller request verdict row s s'

/-- What a committed call of `execute` did. -/
inductive Executed (rt : Runtime) (svc : ToolExecutionService) (caller : Caller)
    (args : ExecuteArgs) (s : Store) : Store → Prop
  /-- Refused early, replayed, or rolled back. -/
  | idle : Executed rt svc caller args s s
  | refused {request : ToolRequest} {row : IdempotencyKey} {code : String} {s' : Store}
      (hadmits : admitRequest rt s args = .ok request) (hholds : HoldsKey s request caller.now row)
      (happrovals : RefusedApprovals s s' request caller.now)
      (hsame : SameTools
        { s with
          approvals := s'.approvals
          idempotencyKeys := s.keysWith request (row.fail caller.now code) } s') :
      Executed rt svc caller args s s'
  | blocked {request : ToolRequest} {row : IdempotencyKey} {verdict : ToolVerdict}
      {action : RecoveryActionType} {r : ToolExecutionResult} {toolCallId : ℕ} {s' : Store}
      (hadmits : admitRequest rt s args = .ok request) (hholds : HoldsKey s request caller.now row)
      (hjudged : judgeTool rt svc caller.now s request = .ok verdict)
      (hbranch : toolBranch request verdict.evaluation = .blocked action)
      (hstatus : r.status = .blocked)
      (hsame : SameTools
        { s with
          actions := s.upserted request action (blockingWrite verdict.evaluation) caller.now
          idempotencyKeys := s.keysWith request (row.finish caller.now r toolCallId) } s') :
      Executed rt svc caller args s s'
  | parked {request : ToolRequest} {row : IdempotencyKey} {verdict : ToolVerdict}
      {action : RecoveryActionType} {r : ToolExecutionResult} {toolCallId : ℕ} {s' : Store}
      (hadmits : admitRequest rt s args = .ok request) (hholds : HoldsKey s request caller.now row)
      (hjudged : judgeTool rt svc caller.now s request = .ok verdict)
      (hbranch : toolBranch request verdict.evaluation = .approval action)
      (hstatus : r.status = .approvalRequired)
      (hsame : SameTools
        { s.parked caller request action verdict with
          idempotencyKeys := s.keysWith request (row.finish caller.now r toolCallId) } s') :
      Executed rt svc caller args s s'
  | handled {request : ToolRequest} {row : IdempotencyKey} {verdict : ToolVerdict}
      {c : RecoveryCase} {handled : HandlerResult} {r : ToolExecutionResult} {toolCallId : ℕ}
      {s' : Store}
      (hadmits : admitRequest rt s args = .ok request) (hholds : HoldsKey s request caller.now row)
      (hhandling : Handling rt svc caller request s verdict c handled s')
      (hstatus : r.status = if handled.success then .succeeded else .failed)
      (hsame : SameTools
        { s with
          actions := s.handledActions request verdict.evaluation.riskLevel handled caller.now
          idempotencyKeys := s.keysWith request (row.finish caller.now r toolCallId)
          notifications := s'.notifications
          trace := s.trace ++ s.handlingEvents caller request verdict c handled } s') :
      Executed rt svc caller args s s'

/-- Taking the key changes nothing that a run looks at. -/
theorem keyTaken_eq (s : Store) (request : ToolRequest) (now : Time) :
    s.keyTaken request now =
      { s with idempotencyKeys := (s.keyTaken request now).idempotencyKeys } := by
  unfold Store.keyTaken
  split <;> rfl

/-- The last row written under the request's key is the one that stays. -/
theorem keysWith_keyTaken (s : Store) (request : ToolRequest) (now : Time)
    (row : IdempotencyKey) :
    (s.keyTaken request now).keysWith request row = s.keysWith request row := by
  unfold Store.keyTaken
  cases s.keyOf request with
  | none => exact AList.insert_insert _
  | some row' => rfl

/-- A finished request differs from its run in the row of its key. -/
theorem SameTools.finish {s₀ s₁ : Store} {row : IdempotencyKey}
    {keys : AList (fun _ : ℕ × String => IdempotencyKey)} (h : SameTools s₀ s₁)
    (hrecorded : Recorded (s₁.withKey request row) s') (hkeys : s'.idempotencyKeys = keys) :
    SameTools { s₀ with idempotencyKeys := keys } s' where
  merchants := (SameTools.of_recorded hrecorded).merchants.trans h.merchants
  actions := (SameTools.of_recorded hrecorded).actions.trans h.actions
  approvals := (SameTools.of_recorded hrecorded).approvals.trans h.approvals
  idempotencyKeys := hkeys
  notifications := (SameTools.of_recorded hrecorded).notifications.trans h.notifications
  trace := (SameTools.of_recorded hrecorded).trace.trans h.trace

/-- What a handler asks depends on its request and on the payments and actions it sees. -/
theorem handlerAsks_congr {s₀ : Store} (s₁ : Store) {c : RecoveryCase} {actionId : Option ℕ}
    (hpayments : s₁.payments = s₀.payments) (hactions : s₁.actions = s₀.actions) :
    handlerAsks (handlerContext request c actionId s₁) s₁ request.tool =
      handlerAsks (handlerContext request c actionId s₀) s₀ request.tool := by
  unfold handlerAsks providerAsk handlerContext
  rw [hpayments, hactions]

theorem HandlerReached.handlerCall_eq {verdict : ToolVerdict} {s₁ : Store} {c : RecoveryCase}
    (h : HandlerReached caller request s verdict s₁ c) :
    requestCall caller request verdict s s₁ c = s.handlerCall caller request verdict c := by
  unfold requestCall Store.handlerCall handlerCall
  rw [h.started.approvals]

/-- The history of a handler that was entered, whatever came of it. -/
theorem HandlerReached.asked {verdict : ToolVerdict} {s₁ s₂ : Store} {c : RecoveryCase}
    {x : Except Failure HandlerResult} (h : HandlerReached caller request s verdict s₁ c)
    (hran : (handlers rt svc caller.now (handlerContext request c (s.startedId request) s₁)
      request.tool).run (s₁.entered (requestCall caller request verdict s s₁ c)) = (x, s₂)) :
    s₂.trace = s.trace ++
      .handlerCalled (s.handlerCall caller request verdict c) ::
        s.asks caller request verdict c := by
  have heffects := handlers_effects rt svc caller.now
    (handlerContext request c (s.startedId request) s₁) request.tool
    (s₁.entered (requestCall caller request verdict s s₁ c))
  rw [hran] at heffects
  have hasks : handlerAsks (handlerContext request c (s.startedId request) s₁)
      (s₁.entered (requestCall caller request verdict s s₁ c)) request.tool =
        s.asks caller request verdict c :=
    handlerAsks_congr s₁ h.started.payments h.started.actions
  have hentered : (s₁.entered (requestCall caller request verdict s s₁ c)).trace =
      s.trace ++ [.handlerCalled (s.handlerCall caller request verdict c)] := by
    unfold Store.entered
    rw [h.handlerCall_eq, h.started.trace]
  rw [heffects.trace]
  dsimp only
  rw [hasks, hentered, List.append_assoc]
  rfl

/-- The store at the end of a handler that returned. -/
theorem HandlerReached.reported {verdict : ToolVerdict} {s₁ s₂ : Store} {c : RecoveryCase}
    {handled : HandlerResult} (h : HandlerReached caller request s verdict s₁ c)
    (hran : (handlers rt svc caller.now (handlerContext request c (s.startedId request) s₁)
      request.tool).run (s₁.entered (requestCall caller request verdict s s₁ c)) =
        (.ok handled, s₂)) :
    SameTools
      { s with
        actions := s.handledActions request verdict.evaluation.riskLevel handled caller.now
        notifications := s₂.notifications
        trace := s.trace ++ s.handlingEvents caller request verdict c handled }
      (s₂.reported (requestCall caller request verdict s s₁ c) handled) := by
  have heffects := handlers_effects rt svc caller.now
    (handlerContext request c (s.startedId request) s₁) request.tool
    (s₁.entered (requestCall caller request verdict s s₁ c))
  rw [hran] at heffects
  have htrace := h.asked hran
  have hactions₂ : s₂.actions = s.startedActions request verdict.evaluation.riskLevel
      caller.now := heffects.actions.trans h.started.actions
  refine ⟨heffects.merchants.trans h.started.merchants, ?_,
    heffects.approvals.trans h.started.approvals,
    heffects.idempotencyKeys.trans h.started.idempotencyKeys, rfl, ?_⟩
  · unfold Store.reported Store.handledActions
    rw [hactions₂]
    rfl
  · unfold Store.reported Store.handlingEvents
    dsimp only
    rw [htrace, h.handlerCall_eq, List.append_assoc]
    rfl

theorem HandlerReached.returned {verdict : ToolVerdict} {s₁ s₂ : Store} {c : RecoveryCase}
    {handled : HandlerResult} (h : HandlerReached caller request s verdict s₁ c)
    (hran : (handlers rt svc caller.now (handlerContext request c (s.startedId request) s₁)
      request.tool).run (s₁.entered (requestCall caller request verdict s s₁ c)) =
        (.ok handled, s₂))
    (hnotifications : s'.notifications = s₂.notifications) :
    HandlerReturned rt svc caller request s verdict c handled s' where
  branch := h.branch
  usable := h.usable
  lifecycle := h.lifecycle
  returned := ⟨s₁.entered (requestCall caller request verdict s s₁ c), s₂, hran,
    (SameTools.of_bookkept h.started).notifications, hnotifications⟩

/-- The keys at the end, whatever row was written last. -/
theorem keys_of_recorded {s₁ : Store} {row : IdempotencyKey}
    (hkeys : s₁.idempotencyKeys = (s.keyTaken request now).idempotencyKeys)
    (hrecorded : Recorded (s₁.withKey request row) s') :
    s'.idempotencyKeys = s.keysWith request row := by
  rw [hrecorded.idempotencyKeys, ← keysWith_keyTaken s request now]
  unfold Store.keysWith Store.withKey
  rw [hkeys]

/-- A refusal that commits fails the key, next to what the refused run has done. -/
theorem Finished.refusal {row : IdempotencyKey} {s₁ : Store} {caseId : ℕ} {f : Failure}
    {x' : Except Failure ToolExecutionResult}
    {keys : AList (fun _ : ℕ × String => IdempotencyKey)}
    (h : Finished request row now s₁ (.error f) x' s')
    (hkept : Bookkept caseId { s with idempotencyKeys := keys, approvals := s₁.approvals } s₁)
    (hkeys : s₁.idempotencyKeys = (s.keyTaken request now).idempotencyKeys)
    (hcommits : ∀ f, x' = .error f → f.commits = true) :
    ∃ code, SameTools
      { s with
        approvals := s₁.approvals
        idempotencyKeys := s.keysWith request (row.fail now code) } s' := by
  cases h with
  | @failed e _ hclass hrecorded =>
    exact ⟨e.code, (SameTools.of_bookkept hkept).finish hrecorded
      (keys_of_recorded hkeys hrecorded)⟩
  | crashed => exact absurd (hcommits _ rfl) (by simp [Failure.commits])

/-- What a verdict led to that finished without a crash, as a committed call. -/
theorem Written.of_verdict {row : IdempotencyKey} {verdict : ToolVerdict} {s₁ : Store}
    {x x' : Except Failure ToolExecutionResult}
    (houtcome : VerdictOutcome rt svc caller request verdict (s.keyTaken request caller.now) x s₁)
    (hfinished : Finished request row caller.now s₁ x x' s')
    (hcommits : ∀ f, x' = .error f → f.commits = true) :
    Written rt svc caller request verdict row s s' := by
  have hkeys₁ := houtcome.idempotencyKeys
  have hkeys : ∀ {row' : IdempotencyKey}, Recorded (s₁.withKey request row') s' →
      s'.idempotencyKeys = s.keysWith request row' := keys_of_recorded hkeys₁
  -- the key is the only thing that was written before the verdict
  have htaken := keyTaken_eq s request caller.now
  generalize (s.keyTaken request caller.now).idempotencyKeys = keys at htaken
  rw [htaken] at houtcome
  cases houtcome with
  | refused hrefusal happrovals hkept =>
    obtain ⟨code, hsame⟩ := hfinished.refusal (s := s) hkept hkeys₁ hcommits
    refine .refused ?_ { hsame with approvals := rfl }
    unfold RefusedApprovals
    rw [hsame.approvals]
    exact happrovals
  | blocked hbranch hstatus hkept =>
    cases hfinished with
    | returned hrecorded =>
      exact .blocked hbranch hstatus
        ((SameTools.of_bookkept hkept).finish hrecorded (hkeys hrecorded))
  | parked hbranch hstatus hkept =>
    cases hfinished with
    | returned hrecorded =>
      exact .parked hbranch hstatus
        ((SameTools.of_bookkept hkept).finish hrecorded (hkeys hrecorded))
  | handled hreached hran hstatus hkept =>
    cases hfinished with
    | returned hrecorded =>
      have hreported := (hreached.reported hran).trans (.of_bookkept hkept)
      have hnotifications : s'.notifications = _ :=
        (SameTools.of_recorded hrecorded).notifications.trans hreported.notifications
      have hsame := hreported.finish hrecorded (hkeys hrecorded)
      have hreturned := hreached.returned hran hnotifications
      refine .handled ⟨hreturned.branch, ?_, hreturned.lifecycle, hreturned.returned⟩ hstatus
        { hsame with notifications := rfl }
      exact fun happroved => ⟨(hreturned.usable happroved).1, (hreturned.usable happroved).2⟩
  | crashed hreached hran hrollsBack =>
    cases hfinished with
    | failed hclass hrecorded =>
      -- a failure that is recorded commits, and this one rolls back
      exact absurd hrollsBack (by simp [Failure.RollsBack, Failure.commits])
    | crashed => exact absurd (hcommits _ rfl) (by simp [Failure.commits])

/-- A call wrote what its own verdict led to. -/
theorem Written.executed {row : IdempotencyKey} {verdict : ToolVerdict}
    (hadmits : admitRequest rt s args = .ok request) (hholds : HoldsKey s request caller.now row)
    (hjudged : judgeTool rt svc caller.now s request = .ok verdict)
    (h : Written rt svc caller request verdict row s s') :
    Executed rt svc caller args s s' := by
  cases h with
  | refused happrovals hsame => exact .refused hadmits hholds happrovals hsame
  | blocked hbranch hstatus hsame => exact .blocked hadmits hholds hjudged hbranch hstatus hsame
  | parked hbranch hstatus hsame => exact .parked hadmits hholds hjudged hbranch hstatus hsame
  | handled hreturned hstatus hsame =>
    exact .handled hadmits hholds (hreturned.handling hjudged) hstatus hsame

/-- A run that finished without a crash, as a committed call. -/
theorem Executed.of_run {row : IdempotencyKey} {s₁ : Store}
    {x x' : Except Failure ToolExecutionResult} (hadmits : admitRequest rt s args = .ok request)
    (hholds : HoldsKey s request caller.now row)
    (hrun : RunOutcome rt svc caller request (s.keyTaken request caller.now) x s₁)
    (hfinished : Finished request row caller.now s₁ x x' s')
    (hcommits : ∀ f, x' = .error f → f.commits = true) :
    Executed rt svc caller args s s' := by
  have hkeys := hrun.idempotencyKeys
  rcases hrun.verdict with ⟨f, rfl, hrefusal, happrovals, hkept⟩ | ⟨verdict, hjudged, houtcome⟩
  · rw [keyTaken_eq] at happrovals hkept
    obtain ⟨code, hsame⟩ := hfinished.refusal (s := s) hkept hkeys hcommits
    refine .refused hadmits hholds ?_ { hsame with approvals := rfl }
    unfold RefusedApprovals
    rw [hsame.approvals]
    exact happrovals
  · have hjudged₀ : judgeTool rt svc caller.now s request = .ok verdict := by
      rw [← hjudged, keyTaken_eq]
      rfl
    exact (Written.of_verdict houtcome hfinished hcommits).executed hadmits hholds hjudged₀

/-- A call that did not crash, as a committed call. -/
theorem Executed.of_outcome {x : Except Failure ToolExecutionResult}
    (h : ExecuteOutcome rt svc caller args s x s')
    (hcommits : ∀ f, x = .error f → f.commits = true) :
    Executed rt svc caller args s s' := by
  cases h with
  | rejected hadmits => exact .idle
  | conflict hadmits hkey hhash => exact .idle
  | replayed hadmits hkey hhash hdecision => exact .idle
  | busy hadmits hkey hhash hdecision => exact .idle
  | ran hadmits hholds hrun hfinished => exact .of_run hadmits hholds hrun hfinished hcommits

theorem execute_executed (rt : Runtime) (svc : ToolExecutionService) (caller : Caller)
    (args : ExecuteArgs) (s : Store) :
    Executed rt svc caller args s (committed (execute rt svc caller args) s) := by
  have houtcome := execute_outcome rt svc caller args s
  rcases hran : (execute rt svc caller args).run s with ⟨f | r, s'⟩
  · rw [hran] at houtcome
    rw [committed_error hran]
    split
    · rename_i hcommits
      refine .of_outcome houtcome fun f' hf' => ?_
      obtain rfl := Except.error.inj hf'
      exact hcommits
    · exact .idle
  · rw [hran] at houtcome
    rw [committed_ok hran]
    exact .of_outcome houtcome fun f hf => nomatch hf

/-! ## Decisions -/

/-- What a committed call of `approve_action` did. -/
inductive Approved (rt : Runtime) (svc : ToolExecutionService) (caller : Caller)
    (args : DecisionArgs) (s : Store) : Store → Prop
  /-- Refused, or rolled back. -/
  | idle : Approved rt svc caller args s s
  | expired {d : Decision} (hload : loadDecision s args = .ok d)
      (hpending : d.approval.status = .pending)
      (hexpired : d.approval.isExpired caller.now = true) :
      Approved rt svc caller args s
        { s with approvals := s.approvals.modify d.approvalId Approval.expire }
  | granted {d : Decision} {s₀ s' : Store} (hload : loadDecision s args = .ok d)
      (hgrantable : Grantable caller d) (hrecorded : Recorded (s.granted caller d) s₀)
      (hexecuted : Executed rt svc caller (approvedExecution d) s₀ s') :
      Approved rt svc caller args s s'

theorem Approved.of_outcome {args : DecisionArgs} {x : Except Failure ToolExecutionResult}
    (h : ApproveOutcome rt svc caller args s x s')
    (hcommits : ∀ f, x = .error f → f.commits = true) :
    Approved rt svc caller args s s' := by
  cases h with
  | refused hload => exact .idle
  | expired hload hpending hexpired => exact .expired hload hpending hexpired
  | decided hload hdecided => exact .idle
  | granted hload hgrantable hrecorded hexecute =>
    exact .granted hload hgrantable hrecorded (.of_outcome hexecute hcommits)

theorem approveAction_approved (rt : Runtime) (svc : ToolExecutionService) (caller : Caller)
    (args : DecisionArgs) (s : Store) :
    Approved rt svc caller args s (committed (approveAction rt svc caller args) s) := by
  have houtcome := approveAction_outcome rt svc caller args s
  rcases hran : (approveAction rt svc caller args).run s with ⟨f | r, s'⟩
  · rw [hran] at houtcome
    rw [committed_error hran]
    split
    · rename_i hcommits
      refine .of_outcome houtcome fun f' hf' => ?_
      obtain rfl := Except.error.inj hf'
      exact hcommits
    · exact .idle
  · rw [hran] at houtcome
    rw [committed_ok hran]
    exact .of_outcome houtcome fun f hf => nomatch hf

/-- What a committed call of `reject_action` did. -/
inductive Rejected (caller : Caller) (args : DecisionArgs) (s : Store) : Store → Prop
  | idle : Rejected caller args s s
  | rejected {d : Decision} {s' : Store} (hload : loadDecision s args = .ok d)
      (hsame : SameTools (s.rejected caller d) s') : Rejected caller args s s'

theorem rejectAction_rejected (caller : Caller) (args : DecisionArgs) (s : Store) :
    Rejected caller args s (committed (rejectAction caller args) s) := by
  have houtcome := rejectAction_outcome caller args s
  rcases hran : (rejectAction caller args).run s with ⟨f | approvalId, s'⟩
  · rw [hran] at houtcome
    obtain rfl : s' = s := by
      cases houtcome
      rfl
    rw [committed_error hran, ite_self]
    exact .idle
  · rw [hran] at houtcome
    rw [committed_ok hran]
    cases houtcome with
    | rejected hload hkept => exact .rejected hload (.of_bookkept hkept)

/-! ## Plans -/

theorem Plans.committed {α : Type} {m : Service α} {py : PyText} {caseId : ℕ}
    (h : Plans py caller caseId s (m.run s).2) :
    Plans py caller caseId s (ReviveX.committed m s) := by
  rcases Session.transact_state Failure.commits m s with hstate | ⟨-, hstate⟩
  · unfold ReviveX.committed
    rw [hstate]
    exact h
  · unfold ReviveX.committed
    rw [hstate]
    exact .nothing (.refl s)

/-! ## Operations -/

/-- A call that commits, with the settings, the provider and the clock it sees; or anything
else that happens to the store between two calls. -/
inductive Operation
  | execute (svc : ToolExecutionService) (caller : Caller) (args : ExecuteArgs)
  | approve (svc : ToolExecutionService) (caller : Caller) (args : DecisionArgs)
  | reject (caller : Caller) (args : DecisionArgs)
  | cancel (caller : Caller) (args : DecisionArgs)
  | process (cfg : Config) (caller : Caller) (caseId : ℕ)
  | verify (cfg : Config) (caller : Caller) (args : VerifyArgs)
  | other

/-- One step of a run: `Other` says what may happen between the calls. -/
def Step (rt : Runtime) (Other : Store → Store → Prop) (s : Store) :
    Operation → Store → Prop
  | .execute svc caller args, s' => s' = committed (ReviveX.execute rt svc caller args) s
  | .approve svc caller args, s' => s' = committed (approveAction rt svc caller args) s
  | .reject caller args, s' => s' = committed (rejectAction caller args) s
  | .cancel caller args, s' => s' = committed (cancelAction caller args) s
  | .process cfg caller caseId, s' => s' = committed (ReviveX.process cfg caller caseId) s
  | .verify cfg caller args, s' => s' = committed (verifyCase cfg caller args) s
  | .other, s' => Other s s'

end ReviveX
