import ReviveX.Tools.CommitTheorems
import ReviveX.Lib.Runs
import Mathlib.Logic.Function.Basic

/-!
# Transactions of different cases

`execute` and `approve_action` lock the row of their case and no other: between the policy
evaluation of such a call and its writes the calls on other cases may commit. A `ToolTransaction`
is a call with the verdict it was given; a `Schedule` is the committed store with the
transactions that are running. A transaction that is written at once is the call as it is
(`committed_write_execute`, `committed_write_approve`).
-/

namespace ReviveX

open Lib (Guarded Run Session Table)

/-! ## One transaction -/

/-- `execute` of a request that holds its key, once its verdict is given. -/
def executeJudged (rt : Runtime) (svc : ToolExecutionService) (caller : Caller)
    (request : ToolRequest) (verdict : ToolVerdict) : Service ToolExecutionResult := do
  let toolCallId ← Service.insertToolCall
    { merchantId := request.case.merchantId
      recoveryCaseId := request.args.caseId
      toolName := request.tool
      status := .pending
      idempotencyKey := request.args.idempotencyKey }
  recordRun caller request toolCallId (actOnVerdict rt svc caller request verdict)

/-- A call of `execute`, or of `approve_action` with its decision, that has evaluated its
policy on the store it read and has not written yet. -/
structure ToolTransaction where
  svc : ToolExecutionService
  caller : Caller
  request : ToolRequest
  decision : Option Decision := none
  verdict : ToolVerdict
  read : Store

namespace ToolTransaction

/-- The case whose row the transaction locks. -/
def caseId (t : ToolTransaction) : ℕ := t.request.args.caseId

/-- The decision of a transaction is marked before its action executes. -/
def mark (t : ToolTransaction) : Service Unit :=
  match t.decision with
  | none => pure ()
  | some d => markApproved t.caller d

/-- The writes of a transaction. -/
def write (rt : Runtime) (t : ToolTransaction) : Service ToolExecutionResult := do
  t.mark
  Session.modify (·.keyTaken t.request t.caller.now)
  executeJudged rt t.svc t.caller t.request t.verdict

/-- The store that `execute` sees, up to records. -/
def base (t : ToolTransaction) (s : Store) : Store :=
  match t.decision with
  | none => s
  | some d => s.granted t.caller d

/-- The transaction has evaluated its policy on the store. -/
structure Begins (rt : Runtime) (t : ToolTransaction) (s : Store) : Prop where
  read : t.read = s
  decided : ∀ d, t.decision = some d →
    loadDecision s d.args = .ok d ∧ Grantable t.caller d ∧ t.request.args = approvedExecution d
  admitted : admitRequest rt (t.base s) t.request.args = .ok t.request
  holds : ∃ row, HoldsKey (t.base s) t.request t.caller.now row
  judged : judgeTool rt t.svc t.caller.now (t.base s) t.request = .ok t.verdict

end ToolTransaction

variable {rt : Runtime} {svc : ToolExecutionService} {caller : Caller} {now : Time}
  {request : ToolRequest} {s s' : Store} {t : ToolTransaction}

theorem mark_run (t : ToolTransaction) (s : Store) :
    ∃ s₀, t.mark.run s = (.ok (), s₀) ∧ Recorded (t.base s) s₀ := by
  unfold ToolTransaction.mark ToolTransaction.base
  cases t.decision with
  | none => exact ⟨s, rfl, .refl s⟩
  | some d => exact markApproved_run t.caller d s

theorem run_write (rt : Runtime) (t : ToolTransaction) {s₀ : Store}
    (hmark : t.mark.run s = (.ok (), s₀)) :
    (t.write rt).run s =
      (executeJudged rt t.svc t.caller t.request t.verdict).run
        (s₀.keyTaken t.request t.caller.now) := by
  unfold ToolTransaction.write
  rw [Session.run_bind_ok hmark, Session.run_modify_bind]

theorem run_executeJudged (rt : Runtime) (svc : ToolExecutionService) (caller : Caller)
    (request : ToolRequest) (verdict : ToolVerdict) (s : Store) :
    (executeJudged rt svc caller request verdict).run s =
      (recordRun caller request s.toolCalls.nextId
        (actOnVerdict rt svc caller request verdict)).run (s.pending request) := rfl

/-- A request whose verdict is the one of its own store is executed as it is. -/
theorem executeJudged_eq {verdict : ToolVerdict}
    (hjudged : judgeTool rt svc caller.now s request = .ok verdict) :
    (executeJudged rt svc caller request verdict).run s =
      (executeRequest rt svc caller request).run s := by
  rw [run_executeJudged, run_executeRequest]
  refine recordRun_congr caller request _ ?_
  have hpending : judgeTool rt svc caller.now (s.pending request) request = .ok verdict := by
    rw [← hjudged]
    rfl
  rw [run_runAfterIdempotency, Session.run_ofExcept_bind, hpending]

/-! ## Alone -/

/-- What a request needs for its execution does not depend on records. -/
theorem admitRequest_recorded (h : Recorded s s') (args : ExecuteArgs) :
    admitRequest rt s' args = admitRequest rt s args := by
  refine admitRequest_congr h.cases ?_ ?_ h.payments
  · rw [h]
  · rw [h]

theorem judgeTool_recorded (h : Recorded s s') :
    judgeTool rt svc now s' request = judgeTool rt svc now s request := by
  rw [h]
  rfl

theorem holdsKey_recorded {row : IdempotencyKey} (h : Recorded s s') :
    HoldsKey s' request now row ↔ HoldsKey s request now row := by
  rw [h]
  exact Iff.rfl

theorem judgeTool_keyTaken :
    judgeTool rt svc now (s.keyTaken request now) request =
      judgeTool rt svc now s request := by
  rw [keyTaken_eq]
  rfl

/-- A transaction that is written on the store it read executes its request there. -/
theorem ToolTransaction.Begins.write_run {s₀ : Store} (h : t.Begins rt s)
    (hmark : t.mark.run s = (.ok (), s₀)) (hrecorded : Recorded (t.base s) s₀) :
    (t.write rt).run s = (execute rt t.svc t.caller t.request.args).run s₀ := by
  obtain ⟨row, hholds⟩ := h.holds
  have hadmits : admitRequest rt s₀ t.request.args = .ok t.request := by
    rw [admitRequest_recorded hrecorded]
    exact h.admitted
  have hjudged : judgeTool rt t.svc t.caller.now (s₀.keyTaken t.request t.caller.now)
      t.request = .ok t.verdict := by
    rw [judgeTool_keyTaken, judgeTool_recorded hrecorded]
    exact h.judged
  rw [run_write rt t hmark, executeJudged_eq hjudged,
    execute_run_of_holds rt t.svc t.caller hadmits ((holdsKey_recorded hrecorded).mpr hholds)]

/-- A transaction that is alone between its evaluation and its writes is the call. -/
theorem committed_write_execute (h : t.Begins rt s) (hdecision : t.decision = none) :
    committed (t.write rt) s = committed (execute rt t.svc t.caller t.request.args) s := by
  have hmark : t.mark.run s = (.ok (), s) := by
    unfold ToolTransaction.mark
    rw [hdecision]
    rfl
  have hbase : t.base s = s := by
    unfold ToolTransaction.base
    rw [hdecision]
  refine committed_congr (h.write_run hmark ?_)
  rw [hbase]
  exact .refl s

theorem committed_write_approve {d : Decision} (h : t.Begins rt s)
    (hdecision : t.decision = some d) :
    committed (t.write rt) s = committed (approveAction rt t.svc t.caller d.args) s := by
  obtain ⟨hload, hgrantable, hargs⟩ := h.decided d hdecision
  obtain ⟨s₀, hmark, hrecorded⟩ := markApproved_run t.caller d s
  have hmarked : t.mark.run s = (.ok (), s₀) := by
    unfold ToolTransaction.mark
    rw [hdecision]
    exact hmark
  have hbase : t.base s = s.granted t.caller d := by
    unfold ToolTransaction.base
    rw [hdecision]
  refine committed_congr ?_
  rw [h.write_run hmarked (by rw [hbase]; exact hrecorded),
    run_approveAction rt t.svc hload hgrantable hmark, hargs]

/-- A call whose verdict cannot be given crashes. -/
theorem execute_crashes {args : ExecuteArgs} {row : IdempotencyKey} {f : Failure}
    (hadmits : admitRequest rt s args = .ok request) (hholds : HoldsKey s request caller.now row)
    (hjudged : judgeTool rt svc caller.now s request = .error f) :
    ∃ exception s', (execute rt svc caller args).run s = (.error (.crash exception), s') := by
  have hrollsBack : f.commits = false := raises_judgeTool _ _ _ _ _ f hjudged
  obtain ⟨exception, rfl⟩ : ∃ exception, f = .crash exception := by
    cases f with
    | crash exception => exact ⟨exception, rfl⟩
    | domain e => cases hrollsBack
  have hjudged' : judgeTool rt svc caller.now ((s.keyTaken request caller.now).pending request)
      request = .error (.crash exception) := by
    rw [← hjudged, ← judgeTool_keyTaken (s := s)]
    rfl
  have hran : (runAfterIdempotency rt svc caller request).run
      ((s.keyTaken request caller.now).pending request) =
        (.error (.crash exception), (s.keyTaken request caller.now).pending request) := by
    rw [run_runAfterIdempotency, Session.run_ofExcept_bind, hjudged']
  have hfinished := recordRun_finished caller (s.keyTaken request caller.now).toolCalls.nextId
    hran (fun f hf => by obtain rfl := Except.error.inj hf; exact .inl rfl)
    (keyOf_keyTaken hholds)
  rw [← run_executeRequest, ← execute_run_of_holds rt svc caller hadmits hholds] at hfinished
  rcases hrun : (execute rt svc caller args).run s with ⟨x, s'⟩
  rw [hrun] at hfinished
  cases hfinished with
  | crashed => exact ⟨exception, _, rfl⟩

/-- Every call of `execute` that changes something is a transaction. -/
theorem execute_transaction (rt : Runtime) (svc : ToolExecutionService) (caller : Caller)
    (args : ExecuteArgs) (s : Store) :
    committed (execute rt svc caller args) s = s ∨
      ∃ t : ToolTransaction, t.Begins rt s ∧ t.decision = none ∧ t.svc = svc ∧ t.caller = caller ∧
        t.request.args = args := by
  have houtcome := execute_outcome rt svc caller args s
  rcases hrun : (execute rt svc caller args).run s with ⟨x, s'⟩
  rw [hrun] at houtcome
  have hidle : s' = s → committed (execute rt svc caller args) s = s := by
    rintro rfl
    cases x with
    | error f => rw [committed_error hrun, ite_self]
    | ok r => exact committed_ok hrun
  cases houtcome with
  | rejected | conflict | replayed | busy => exact .inl (hidle rfl)
  | @ran request row _ _ _ _ hadmits hholds hran hfinished =>
    cases hjudged : judgeTool rt svc caller.now s request with
    | error f =>
      obtain ⟨exception, s'', hcrash⟩ := execute_crashes hadmits hholds hjudged
      refine .inl ?_
      rw [committed_error hcrash]
      rfl
    | ok verdict =>
      have hargs := (admitted_of_ok hadmits).args_eq
      refine .inr ⟨{ svc, caller, request, verdict, read := s }, ?_, rfl, rfl, rfl, hargs⟩
      have hadmits' : admitRequest rt s request.args = .ok request := by
        rw [hargs]
        exact hadmits
      exact ⟨rfl, fun d hd => (nomatch hd), hadmits', ⟨row, hholds⟩, hjudged⟩

/-- The transaction that a call of `execute` begins under a new key. -/
def ToolTransaction.ofExecute? (rt : Runtime) (svc : ToolExecutionService) (caller : Caller)
    (args : ExecuteArgs) (s : Store) : Option ToolTransaction := do
  let request ← (admitRequest rt s args).toOption
  let verdict ← (judgeTool rt svc caller.now s request).toOption
  if (s.keyOf request).isNone then some { svc, caller, request, verdict, read := s } else none

theorem begins_of_ofExecute? {args : ExecuteArgs}
    (h : ToolTransaction.ofExecute? rt svc caller args s = some t) :
    t.Begins rt s ∧ t.svc = svc := by
  unfold ToolTransaction.ofExecute? at h
  obtain ⟨request, hadmits, h⟩ := Option.bind_eq_some_iff.mp h
  obtain ⟨verdict, hjudged, h⟩ := Option.bind_eq_some_iff.mp h
  have hadmits' := Lib.toOption_eq_some.mp hadmits
  have hjudged' := Lib.toOption_eq_some.mp hjudged
  have hargs := (admitted_of_ok hadmits').args_eq
  split at h
  · rename_i hkey
    obtain rfl := Option.some.inj h
    rw [← hargs] at hadmits'
    refine ⟨⟨rfl, fun d hd => (nomatch hd), hadmits', ⟨_, .inl ⟨?_, rfl⟩⟩, hjudged'⟩, rfl⟩
    exact Option.isNone_iff_eq_none.mp hkey
  · cases h

/-- Written at once, it is the call. -/
theorem committed_of_ofExecute? {args : ExecuteArgs}
    (h : ToolTransaction.ofExecute? rt svc caller args s = some t) :
    committed (t.write rt) s = committed (execute rt svc caller args) s := by
  have hbegins := (begins_of_ofExecute? h).1
  unfold ToolTransaction.ofExecute? at h
  obtain ⟨request, hadmits, h⟩ := Option.bind_eq_some_iff.mp h
  obtain ⟨verdict, -, h⟩ := Option.bind_eq_some_iff.mp h
  have hargs := (admitted_of_ok (Lib.toOption_eq_some.mp hadmits)).args_eq
  split at h
  · obtain rfl := Option.some.inj h
    rw [committed_write_execute hbegins rfl]
    dsimp only
    rw [hargs]
  · cases h

/-! ## Its writes -/

theorem recorded_keyTaken (h : Recorded s s') (request : ToolRequest) (now : Time) :
    Recorded (s.keyTaken request now) (s'.keyTaken request now) := by
  unfold Store.keyTaken Store.keyOf Store.idempotencyKey?
  rw [h.idempotencyKeys]
  cases s.idempotencyKeys.lookup (request.case.merchantId, request.args.idempotencyKey) with
  | none =>
    unfold Store.withKey
    rw [h]
    rfl
  | some row => exact h

/-- The request has its key in the end. -/
theorem exists_keyOf_keyTaken (s : Store) (request : ToolRequest) (now : Time) :
    ∃ row, (s.keyTaken request now).keyOf request = some row := by
  unfold Store.keyTaken
  cases hkey : s.keyOf request with
  | none => exact ⟨_, keyOf_withKey s request _⟩
  | some row => exact ⟨row, hkey⟩

/-- What a verdict raises is a refusal, or nothing at all is kept. -/
theorem VerdictOutcome.isRefusal {verdict : ToolVerdict} {f : Failure}
    (h : VerdictOutcome rt svc caller request verdict s (.error f) s') : f.IsRefusal := by
  cases h with
  | refused hrefusal _ _ => exact hrefusal
  | crashed _ _ hrollsBack => exact .inl hrollsBack

/-- A transaction that locks the row of its case is rolled back, or writes what its verdict
leads to on the store it finds. -/
theorem write_written (rt : Runtime) (t : ToolTransaction)
    (hrow : s.cases.get? t.caseId = some t.request.case) :
    committed (t.write rt) s = s ∨
      ∃ row, Written rt t.svc t.caller t.request t.verdict row (t.base s)
        (committed (t.write rt) s) := by
  obtain ⟨s₀, hmark, hrecorded⟩ := mark_run t s
  have hcases : (t.base s).cases = s.cases := by
    unfold ToolTransaction.base
    cases t.decision <;> rfl
  -- the store on which the verdict acts
  have hrecorded₂ : Recorded ((t.base s).keyTaken t.request t.caller.now)
      ((s₀.keyTaken t.request t.caller.now).pending t.request) :=
    (recorded_keyTaken hrecorded t.request t.caller.now).trans rfl
  have hrow₂ : ((s₀.keyTaken t.request t.caller.now).pending t.request).cases.get?
      t.request.args.caseId = some t.request.case := by
    rw [hrecorded₂.cases, cases_keyTaken, hcases]
    exact hrow
  have houtcome := VerdictOutcome.of_recorded hrecorded₂
    (actOnVerdict_outcome rt t.svc t.caller t.verdict hrow₂)
  rcases hran : (actOnVerdict rt t.svc t.caller t.request t.verdict).run
    ((s₀.keyTaken t.request t.caller.now).pending t.request) with ⟨x, s₁⟩
  rw [hran] at houtcome
  obtain ⟨row, hkey⟩ := exists_keyOf_keyTaken (t.base s) t.request t.caller.now
  have hkey₁ : s₁.keyOf t.request = some row := by
    unfold Store.keyOf Store.idempotencyKey?
    rw [houtcome.idempotencyKeys]
    exact hkey
  have hfinished := recordRun_finished t.caller
    (s₀.keyTaken t.request t.caller.now).toolCalls.nextId hran
    (fun f hf => by subst hf; exact houtcome.isRefusal) hkey₁
  rw [← run_executeJudged, ← run_write rt t hmark] at hfinished
  rcases hwrite : (t.write rt).run s with ⟨f | r, s'⟩
  · rw [hwrite] at hfinished
    rw [committed_error hwrite]
    split
    · rename_i hcommits
      refine .inr ⟨row, .of_verdict houtcome hfinished fun f' hf' => ?_⟩
      obtain rfl := Except.error.inj hf'
      exact hcommits
    · exact .inl rfl
  · rw [hwrite] at hfinished
    rw [committed_ok hwrite]
    exact .inr ⟨row, .of_verdict houtcome hfinished fun f hf => nomatch hf⟩

/-! ## Schedules -/

/-- The committed store, and the running transactions by the case whose row they lock. -/
structure Schedule where
  store : Store
  running : ℕ → Option ToolTransaction

/-- What happens next. Calls that evaluate no policy are one step. -/
inductive ScheduleEvent
  | begin (t : ToolTransaction)
  | write (caseId : ℕ)
  | abandon (caseId : ℕ)
  | call (op : Operation)

/-- The call ends before it evaluates a policy. -/
def Operation.EndsEarly (rt : Runtime) (s : Store) : Operation → Prop
  | .execute _ caller args => ∀ request row, admitRequest rt s args = .ok request →
      ¬ HoldsKey s request caller.now row
  | .approve _ caller args => ∀ d request row, loadDecision s args = .ok d →
      Grantable caller d →
      admitRequest rt (s.granted caller d) (approvedExecution d) = .ok request →
      ¬ HoldsKey (s.granted caller d) request caller.now row
  | _ => True

/-- Every other approval that changes something is a transaction. -/
theorem approve_transaction (rt : Runtime) (svc : ToolExecutionService) (caller : Caller)
    (args : DecisionArgs) (s : Store) :
    (Operation.approve svc caller args).EndsEarly rt s ∨
      committed (approveAction rt svc caller args) s = s ∨
      ∃ (t : ToolTransaction) (d : Decision), t.Begins rt s ∧ t.decision = some d ∧ t.svc = svc ∧
        t.caller = caller ∧ d.args = args := by
  by_cases hearly : (Operation.approve svc caller args).EndsEarly rt s
  · exact .inl hearly
  · refine .inr ?_
    unfold Operation.EndsEarly at hearly
    push Not at hearly
    obtain ⟨d, request, row, hload, hgrantable, hadmits, hholds⟩ := hearly
    have hargs := (admitted_of_ok hadmits).args_eq
    have hdargs := (loaded_of_loadDecision hload).args_eq
    cases hjudged : judgeTool rt svc caller.now (s.granted caller d) request with
    | error f =>
      obtain ⟨s₀, hmark, hrecorded⟩ := markApproved_run caller d s
      have hadmits₀ : admitRequest rt s₀ (approvedExecution d) = .ok request := by
        rw [admitRequest_recorded hrecorded]
        exact hadmits
      have hjudged₀ : judgeTool rt svc caller.now s₀ request = .error f := by
        rw [judgeTool_recorded hrecorded]
        exact hjudged
      have hcrash := execute_crashes hadmits₀ ((holdsKey_recorded hrecorded).mpr hholds) hjudged₀
      obtain ⟨exception, s', hrun⟩ := hcrash
      rw [← run_approveAction rt svc hload hgrantable hmark] at hrun
      refine .inl ?_
      rw [committed_error hrun]
      rfl
    | ok verdict =>
      refine .inr ⟨{ svc, caller, request, decision := some d, verdict, read := s }, d, ?_, rfl,
        rfl, rfl, hdargs⟩
      refine ⟨rfl, fun d' hd' => ?_, ?_, ⟨row, hholds⟩, hjudged⟩
      · obtain rfl := Option.some.inj hd'
        exact ⟨by rw [hdargs]; exact hload, hgrantable, hargs⟩
      · rw [hargs]
        exact hadmits

namespace Schedule

/-- A transaction has ended. -/
def ended (σ : Schedule) (caseId : ℕ) : ℕ → Option ToolTransaction :=
  Function.update σ.running caseId none

/-- Nobody has written the rows that are locked. -/
def LocksKept (σ σ' : Schedule) : Prop :=
  ∀ caseId t, σ'.running caseId = some t →
    σ'.store.cases.get? caseId = σ.store.cases.get? caseId

/-- One step: `Other` says what may happen outside the calls. -/
def Step (rt : Runtime) (Other : Store → Store → Prop) (σ : Schedule) :
    ScheduleEvent → Schedule → Prop
  | .begin t, σ' => σ.running t.caseId = none ∧ t.Begins rt σ.store ∧
      σ' = { σ with running := Function.update σ.running t.caseId (some t) }
  | .write caseId, σ' => ∃ t, σ.running caseId = some t ∧
      σ' = { store := committed (t.write rt) σ.store, running := σ.ended caseId } ∧
      σ.LocksKept σ'
  | .abandon caseId, σ' => σ' = { σ with running := σ.ended caseId }
  | .call op, σ' => op.EndsEarly rt σ.store ∧ ReviveX.Step rt Other σ.store op σ'.store ∧
      σ'.running = σ.running ∧ σ.LocksKept σ'

/-- Every running transaction began on the store it read, and holds the row of its case. -/
structure Locked (rt : Runtime) (σ : Schedule) : Prop where
  began : ∀ caseId t, σ.running caseId = some t → t.Begins rt t.read
  row : ∀ caseId t, σ.running caseId = some t → t.caseId = caseId ∧
    σ.store.cases.get? caseId = some t.request.case

variable {Other : Store → Store → Prop} {σ σ' : Schedule} {e : ScheduleEvent}

theorem running_of_ended {caseId j : ℕ} (h : σ.ended caseId j = some t) :
    σ.running j = some t := by
  unfold ended at h
  rw [Function.update_apply] at h
  split at h
  · cases h
  · exact h

theorem Locked.of_idle (h : ∀ caseId, σ.running caseId = none) : σ.Locked rt where
  began caseId t ht := by
    rw [h caseId] at ht
    cases ht
  row caseId t ht := by
    rw [h caseId] at ht
    cases ht

/-- Transactions that were running before stay locked. -/
theorem Locked.of_running (h : σ.Locked rt)
    (hrunning : ∀ caseId t, σ'.running caseId = some t → σ.running caseId = some t)
    (hkept : σ.LocksKept σ') : σ'.Locked rt where
  began caseId t ht := h.began caseId t (hrunning caseId t ht)
  row caseId t ht := by
    rw [hkept caseId t ht]
    exact h.row caseId t (hrunning caseId t ht)

theorem Locked.step (h : σ.Locked rt) (hstep : Step rt Other σ e σ') : σ'.Locked rt := by
  cases e with
  | begin t =>
    obtain ⟨-, hbegins, rfl⟩ := hstep
    have hrow : σ.store.cases.get? t.caseId = some t.request.case := by
      have hadmitted := (admitted_of_ok hbegins.admitted).row
      unfold ToolTransaction.base at hadmitted
      cases hdecision : t.decision with
      | none =>
        rw [hdecision] at hadmitted
        exact hadmitted
      | some d =>
        rw [hdecision] at hadmitted
        exact hadmitted
    -- only the transaction that begins is new
    have hnew : ∀ caseId t',
        Function.update σ.running t.caseId (some t) caseId = some t' →
        caseId = t.caseId ∧ t' = t ∨ σ.running caseId = some t' := by
      intro caseId t' ht'
      rw [Function.update_apply] at ht'
      split at ht'
      · rename_i hcase
        exact .inl ⟨hcase, (Option.some.inj ht').symm⟩
      · exact .inr ht'
    refine ⟨fun caseId t' ht' => ?_, fun caseId t' ht' => ?_⟩
    · rcases hnew caseId t' ht' with ⟨-, rfl⟩ | hrunning
      · have hread := hbegins.read
        rw [hread]
        exact hbegins
      · exact h.began caseId t' hrunning
    · rcases hnew caseId t' ht' with ⟨rfl, rfl⟩ | hrunning
      · exact ⟨rfl, hrow⟩
      · exact h.row caseId t' hrunning
  | write caseId =>
    obtain ⟨t, -, rfl, hkept⟩ := hstep
    exact h.of_running (fun _ _ => running_of_ended) hkept
  | abandon caseId =>
    subst hstep
    exact h.of_running (fun _ _ => running_of_ended) fun _ _ _ => rfl
  | call op =>
    obtain ⟨-, -, hrunning, hkept⟩ := hstep
    refine h.of_running (fun caseId t ht => ?_) hkept
    rw [← hrunning]
    exact ht

/-- The schedule in which the transaction runs, too. -/
def begun (σ : Schedule) (t : ToolTransaction) : Schedule :=
  { σ with running := Function.update σ.running t.caseId (some t) }

theorem step_begin (h : t.Begins rt σ.store) (hfree : σ.running t.caseId = none) :
    Step rt Other σ (.begin t) (σ.begun t) := ⟨hfree, h, rfl⟩

theorem step_write_alone (t : ToolTransaction) (hidle : ∀ caseId, σ.running caseId = none) :
    Step rt Other (σ.begun t) (.write t.caseId)
      { σ with store := committed (t.write rt) σ.store } := by
  have hended : (σ.begun t).ended t.caseId = σ.running := by
    have hnone := hidle t.caseId
    unfold ended begun
    rw [Function.update_idem, ← hnone, Function.update_eq_self]
  refine ⟨t, Function.update_self _ _ _, ?_, fun caseId t' ht' => ?_⟩
  · rw [hended]
    rfl
  · have hnone := hidle caseId
    exact absurd (hnone.symm.trans ht') (by simp)

/-- A transaction without company is the call that it stands for. -/
theorem alone (h : t.Begins rt σ.store) (hidle : ∀ caseId, σ.running caseId = none) :
    Run (Step rt Other) σ [.begin t, .write t.caseId]
      { σ with store := committed (t.write rt) σ.store } :=
  (Run.single (step_begin h (hidle t.caseId))).snoc (step_write_alone t hidle)

/-- Transactions of two cases may both begin before either of them writes. -/
theorem overlap {t' : ToolTransaction} (h : t.Begins rt σ.store) (h' : t'.Begins rt σ.store)
    (hidle : ∀ caseId, σ.running caseId = none) (hcases : t'.caseId ≠ t.caseId)
    (hrow : (committed (t.write rt) σ.store).cases.get? t'.caseId =
      σ.store.cases.get? t'.caseId) :
    Run (Step rt Other) σ [.begin t, .begin t', .write t.caseId, .write t'.caseId]
      { σ with store := committed (t'.write rt) (committed (t.write rt) σ.store) } := by
  have hbegin : Step rt Other σ (.begin t) (σ.begun t) := step_begin h (hidle t.caseId)
  have hbegin' : Step rt Other (σ.begun t) (.begin t') ((σ.begun t).begun t') := by
    refine step_begin h' ?_
    unfold begun
    dsimp only
    rw [Function.update_of_ne hcases, hidle]
  -- the first transaction ends, and the second one holds the only lock
  let σ₁ : Schedule := { σ with store := committed (t.write rt) σ.store }
  have hended : ((σ.begun t).begun t').ended t.caseId = (σ₁.begun t').running := by
    have hnone := hidle t.caseId
    unfold ended begun
    dsimp only
    rw [Function.update_comm hcases, Function.update_idem, ← hnone, Function.update_eq_self]
  have hwrite : Step rt Other ((σ.begun t).begun t') (.write t.caseId) (σ₁.begun t') := by
    refine ⟨t, ?_, ?_, fun caseId t₂ ht₂ => ?_⟩
    · unfold begun
      dsimp only
      rw [Function.update_of_ne hcases.symm, Function.update_self]
    · rw [hended]
      rfl
    · by_cases hcase : caseId = t'.caseId
      · subst hcase
        exact hrow
      · unfold begun at ht₂
        dsimp only at ht₂
        rw [Function.update_of_ne hcase] at ht₂
        have hnone := hidle caseId
        exact absurd (hnone.symm.trans ht₂) (by simp)
  have hwrite' : Step rt Other (σ₁.begun t') (.write t'.caseId)
      { σ₁ with store := committed (t'.write rt) σ₁.store } := step_write_alone t' hidle
  exact (((Run.single hbegin).snoc hbegin').snoc hwrite).snoc hwrite'

end Schedule

end ReviveX
