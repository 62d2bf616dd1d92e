import ReviveX.Tools.FinalityTheorems

/-!
# What a replay returns

`execute` stores its result before it stamps it with its tool call and its key. Over every
run, a key stores the last result that was returned under it, unstamped (`StoresAnswers`).
A replay reads both stamps back from what was stored, so it never equals the result that it
repeats (`replay_unfaithful`); and a rejection leaves behind the result of the parked action.
-/

namespace ReviveX

open Lib (Run Session Table)

variable {rt : Runtime} {svc : ToolExecutionService} {caller : Caller} {now : Time}
  {request : ToolRequest} {s s' s'' : Store} {args : ExecuteArgs}

/-! ## Answers -/

/-- `to_public_dict`, but for `replayed`. -/
def ToolExecutionResult.publicFields (r : ToolExecutionResult) : ToolExecutionResult :=
  { r with output := some (r.output.getD []), replayed := false }

/-- The result as it is when it is stored. -/
def ToolExecutionResult.unstamped (r : ToolExecutionResult) : ToolExecutionResult :=
  { r with toolCallId := none, idempotencyKey := none }

/-- A result, with the merchant and the key under which it was returned. -/
abbrev Answer := (ℕ × String) × ToolExecutionResult

/-- The answer of a call that ended under a key: not of one that raised or replayed. -/
def answerUnder (key : Option (ℕ × String)) (x : Except Failure ToolExecutionResult) :
    Option Answer :=
  key.bind fun k => (x.toOption.filter (!·.replayed)).map (k, ·)

/-- The key of a call of `execute`. -/
def keyOfArgs (s : Store) (args : ExecuteArgs) : Option (ℕ × String) :=
  (s.cases.get? args.caseId).map fun c => (c.merchantId, args.idempotencyKey)

/-- The key of a call of `approve_action`. -/
def keyOfDecision (s : Store) (args : DecisionArgs) : Option (ℕ × String) :=
  (loadDecision s args).toOption.map fun d => (d.case.merchantId, d.action.idempotencyKey)

/-- The answer of an execution, asked for or approved. -/
def answerOf (rt : Runtime) (s : Store) : Operation → Option Answer
  | .execute svc caller args =>
    answerUnder (keyOfArgs s args) ((execute rt svc caller args).run s).1
  | .approve svc caller args =>
    answerUnder (keyOfDecision s args) ((approveAction rt svc caller args).run s).1
  | _ => none

/-- A step that notes its answer, the newest first. -/
def AnsweredStep (rt : Runtime) (a : Store × List Answer) (op : Operation)
    (b : Store × List Answer) : Prop :=
  Step rt SameKeys a.1 op b.1 ∧ b.2 = (answerOf rt a.1 op).toList ++ a.2

/-- The last answer under a key. -/
def lastAnswer (answers : List Answer) (k : ℕ × String) : Option ToolExecutionResult :=
  (answers.find? (·.1 = k)).map (·.2)

/-- The result that a key stores. -/
def Store.storedResult (s : Store) (k : ℕ × String) : Option ToolExecutionResult :=
  (s.idempotencyKey? k.1 k.2).bind (·.result)

/-! ## One step -/

/-- The answer is what its key stores now; every other key stores what it did. -/
def Stores (s s' : Store) (answer : Option Answer) : Prop :=
  ∀ k, s'.storedResult k =
    ((answer.filter (·.1 = k)).map (·.2.unstamped)).or (s.storedResult k)

theorem Stores.nothing (h : ∀ k, s'.storedResult k = s.storedResult k) : Stores s s' none := h

theorem Stores.of_keys (h : s'.idempotencyKeys = s.idempotencyKeys) : Stores s s' none := by
  refine .nothing fun k => ?_
  unfold Store.storedResult Store.idempotencyKey?
  rw [h]

/-- A call that stores nothing in between is followed by what stores its answer. -/
theorem Stores.after {s₀ : Store} {answer : Option Answer}
    (h₀ : ∀ k, s₀.storedResult k = s.storedResult k) (h : Stores s₀ s' answer) :
    Stores s s' answer := by
  intro k
  rw [h k, h₀ k]

theorem answerUnder_error (key : Option (ℕ × String)) (f : Failure) :
    answerUnder key (.error f) = none := by
  cases key <;> rfl

theorem answerUnder_replayed (key : Option (ℕ × String)) {r : ToolExecutionResult}
    (h : r.replayed = true) : answerUnder key (.ok r) = none := by
  unfold answerUnder
  cases key <;> simp [Except.toOption, h]

theorem answerUnder_fresh (k : ℕ × String) {r : ToolExecutionResult}
    (h : r.replayed = false) : answerUnder (some k) (.ok r) = some (k, r) := by
  unfold answerUnder
  simp [Except.toOption, h]

/-- A key that now stores the result, before it was stamped, stores the answer. -/
theorem Stores.fresh {k₀ : ℕ × String} {r r' : ToolExecutionResult}
    (hstamped : r'.unstamped = r) (hlive : r'.replayed = false)
    (h : ∀ k, s'.storedResult k = if k = k₀ then some r else s.storedResult k) :
    Stores s s' (answerUnder (some k₀) (.ok r')) := by
  intro k
  rw [h k, answerUnder_fresh k₀ hlive, Option.filter_some]
  by_cases hkey : k = k₀
  · obtain rfl := hkey
    simp [hstamped]
  · have hother : ¬ k₀ = k := fun heq => hkey heq.symm
    simp [hkey, hother]

/-- A committed call stores its answer when its own store does. -/
theorem Stores.committed {m : Service ToolExecutionResult} {key : Option (ℕ × String)}
    (h : Stores s (m.run s).2 (answerUnder key (m.run s).1)) :
    Stores s (committed m s) (answerUnder key (m.run s).1) := by
  rcases hran : m.run s with ⟨f | r, s'⟩
  · rw [hran, answerUnder_error] at h
    rw [answerUnder_error, committed_error hran]
    split
    · exact h
    · exact .of_keys rfl
  · rw [hran] at h
    rw [committed_ok hran]
    exact h

theorem storedResult_insert {k : ℕ × String} (row : IdempotencyKey)
    (h : s'.idempotencyKeys = s.keysWith request row) :
    s'.storedResult k =
      if k = (request.case.merchantId, request.args.idempotencyKey) then row.result
      else s.storedResult k := by
  unfold Store.storedResult
  rw [idempotencyKey?_keysWith row h]
  split <;> rfl

theorem IdempotencyKey.finish_result (row : IdempotencyKey) (now : Time)
    (r : ToolExecutionResult) (toolCallId : ℕ) :
    (row.finish now r toolCallId).result = some r := by
  unfold IdempotencyKey.finish
  split <;> rfl

/-- Taking a key stores no result. -/
theorem storedResult_keyTaken (s : Store) (request : ToolRequest) (now : Time)
    (k : ℕ × String) : (s.keyTaken request now).storedResult k = s.storedResult k := by
  unfold Store.keyTaken
  split
  · rfl
  · rename_i hnone
    have hkeys : (s.withKey request (newKey request now)).idempotencyKeys =
        s.keysWith request (newKey request now) := rfl
    rw [storedResult_insert _ hkeys]
    split
    · rename_i hkey
      have hmissing : s.idempotencyKey? k.1 k.2 = none := by
        rw [hkey]
        exact hnone
      unfold Store.storedResult
      rw [hmissing]
      rfl
    · rfl

/-- A request that ran under its key stores its result there, unstamped; a refused one
leaves what was stored. -/
theorem executeRequest_stores (rt : Runtime) (svc : ToolExecutionService) (caller : Caller)
    {row : IdempotencyKey} (hrow : s.cases.get? request.args.caseId = some request.case)
    (hkey : s.keyOf request = some row) :
    Stores s ((executeRequest rt svc caller request).run s).2
      (answerUnder (some (request.case.merchantId, request.args.idempotencyKey))
        ((executeRequest rt svc caller request).run s).1) := by
  obtain ⟨x, s₁, hran, houtcome, hfinished⟩ :=
    executeRequest_finished rt svc caller hrow hkey
  have hkeys := houtcome.idempotencyKeys
  -- the rows once the row of the request was rewritten
  have hwritten : ∀ {row' : IdempotencyKey} {s₂ : Store},
      Recorded (s₁.withKey request row') s₂ →
        s₂.idempotencyKeys = s.keysWith request row' := by
    intro row' s₂ hrecorded
    rw [hrecorded.idempotencyKeys]
    unfold Store.withKey Store.keysWith
    dsimp only
    rw [hkeys]
  rcases hexecuted : (executeRequest rt svc caller request).run s with ⟨x', s₂⟩
  rw [hexecuted] at hfinished
  cases hfinished with
  | @returned r toolCallId _ hrecorded =>
    have hfresh := returns_fresh_runAfterIdempotency rt svc caller request _ r s₁ hran
    refine .fresh (r := r) ?_ hfresh.replayed fun k => ?_
    · have hcall := hfresh.toolCallId
      have hstamp := hfresh.idempotencyKey
      unfold ToolExecutionResult.unstamped
      dsimp only
      rw [← hcall, ← hstamp]
    · rw [storedResult_insert _ (hwritten hrecorded), IdempotencyKey.finish_result]
  | @failed e _ hclass hrecorded =>
    rw [answerUnder_error]
    refine .nothing fun k => ?_
    rw [storedResult_insert _ (hwritten hrecorded)]
    split
    · rename_i hsame
      rw [hsame]
      unfold Store.storedResult
      exact (congrArg (·.bind IdempotencyKey.result) hkey).symm
    · rfl
  | crashed =>
    rw [answerUnder_error]
    exact .of_keys hkeys

/-- A call of `execute` ends where it found its key, or runs its request. -/
theorem execute_run_cases (rt : Runtime) (svc : ToolExecutionService) (caller : Caller)
    (args : ExecuteArgs) (s : Store) :
    (∃ x, (execute rt svc caller args).run s = (x, s) ∧ ∀ r, x = .ok r → r.replayed = true) ∨
      ∃ request row, admitRequest rt s args = .ok request ∧
        HoldsKey s request caller.now row ∧
        (execute rt svc caller args).run s =
          (executeRequest rt svc caller request).run (s.keyTaken request caller.now) := by
  have houtcome := execute_outcome rt svc caller args s
  rcases hran : (execute rt svc caller args).run s with ⟨x, s'⟩
  rw [hran] at houtcome
  cases houtcome with
  | rejected hadmits => exact .inl ⟨_, rfl, fun r hr => nomatch hr⟩
  | conflict hadmits hkey hhash => exact .inl ⟨_, rfl, fun r hr => nomatch hr⟩
  | busy hadmits hkey hhash hdecision => exact .inl ⟨_, rfl, fun r hr => nomatch hr⟩
  | @replayed request row result hadmits hkey hhash hdecision =>
    refine .inl ⟨_, rfl, fun r hr => ?_⟩
    obtain rfl := Except.ok.inj hr
    exact replayed_of_replayDecision hdecision
  | @ran request row s₁ _ x₁ _ hadmits hholds hrun hfinished =>
    have hexecutes := execute_run_of_holds rt svc caller hadmits hholds
    exact .inr ⟨request, row, hadmits, hholds, hran.symm.trans hexecutes⟩

/-- A call of `execute` stores its answer. -/
theorem execute_stores (rt : Runtime) (svc : ToolExecutionService) (caller : Caller)
    (args : ExecuteArgs) (s : Store) :
    Stores s ((execute rt svc caller args).run s).2
      (answerUnder (keyOfArgs s args) ((execute rt svc caller args).run s).1) := by
  rcases execute_run_cases rt svc caller args s with ⟨x, hran, hreplayed⟩ |
    ⟨request, row, hadmits, hholds, hran⟩
  · rw [hran]
    cases x with
    | error f =>
      rw [answerUnder_error]
      exact .of_keys rfl
    | ok r =>
      rw [answerUnder_replayed _ (hreplayed r rfl)]
      exact .of_keys rfl
  · have hadmitted := admitted_of_ok hadmits
    have hargs := hadmitted.args_eq
    have hrow : (s.keyTaken request caller.now).cases.get? request.args.caseId =
        some request.case := by
      rw [cases_keyTaken, hargs]
      exact hadmitted.row
    have hkey : keyOfArgs s args =
        some (request.case.merchantId, request.args.idempotencyKey) := by
      unfold keyOfArgs
      rw [hadmitted.row, hargs]
      rfl
    rw [hran, hkey]
    have hstores := executeRequest_stores rt svc caller hrow (keyOf_keyTaken hholds)
    exact hstores.after (storedResult_keyTaken s request caller.now)

/-- An approval stores the answer of its execution. -/
theorem approveAction_stores (rt : Runtime) (svc : ToolExecutionService) (caller : Caller)
    (args : DecisionArgs) (s : Store) :
    Stores s ((approveAction rt svc caller args).run s).2
      (answerUnder (keyOfDecision s args) ((approveAction rt svc caller args).run s).1) := by
  have houtcome := approveAction_outcome rt svc caller args s
  rcases hran : (approveAction rt svc caller args).run s with ⟨x, s'⟩
  rw [hran] at houtcome
  cases houtcome with
  | refused hload | decided hload hdecided =>
    rw [answerUnder_error]
    exact .of_keys rfl
  | expired hload hpending hexpired =>
    rw [answerUnder_error]
    exact .of_keys rfl
  | @granted d _ _ _ hload hgrantable _ _ =>
    obtain ⟨s₀, hmark, hrecorded⟩ := markApproved_run caller d s
    rw [run_approveAction rt svc hload hgrantable hmark] at hran
    have hloaded := loaded_of_loadDecision hload
    have hcases : s₀.cases = s.cases := hrecorded.cases
    have hkey : keyOfDecision s args = keyOfArgs s₀ (approvedExecution d) := by
      have hrow : s₀.cases.get? d.args.caseId = some d.case := by
        rw [hcases, hloaded.args_eq]
        exact hloaded.row
      unfold keyOfDecision keyOfArgs
      rw [hload]
      change _ = (s₀.cases.get? d.args.caseId).map _
      rw [hrow]
      rfl
    have hstores := execute_stores rt svc caller (approvedExecution d) s₀
    rw [hran] at hstores
    rw [hkey]
    refine hstores.after fun k => ?_
    unfold Store.storedResult Store.idempotencyKey?
    rw [hrecorded.idempotencyKeys]
    rfl

/-- A rejection fails its key and leaves the result there. -/
theorem Rejected.storedResult {args : DecisionArgs} (h : Rejected caller args s s')
    (k : ℕ × String) : s'.storedResult k = s.storedResult k := by
  cases h with
  | idle => rfl
  | @rejected d _ hload hsame =>
    have hkeys : s'.idempotencyKeys = s.failedKeys caller d := hsame.idempotencyKeys
    unfold Store.storedResult
    rcases idempotencyKey?_failedKeys hkeys with hkept | ⟨-, row, hrow, hfailed⟩
    · rw [hkept]
    · rw [hfailed, hrow]
      rfl

/-- Every step stores its answer. -/
theorem Step.stores {op : Operation} (h : Step rt SameKeys s op s') :
    Stores s s' (answerOf rt s op) := by
  cases op with
  | execute svc caller args =>
    obtain rfl := h
    exact (execute_stores rt svc caller args s).committed
  | approve svc caller args =>
    obtain rfl := h
    exact (approveAction_stores rt svc caller args s).committed
  | reject caller args =>
    obtain rfl := h
    exact .nothing (rejectAction_rejected caller args s).storedResult
  | cancel caller args =>
    obtain rfl := h
    exact .nothing (rejectAction_rejected caller _ s).storedResult
  | process cfg caller caseId =>
    obtain rfl := h
    exact .of_keys (process_plans cfg caller caseId s).committed.idempotencyKeys
  | verify cfg caller args =>
    obtain rfl := h
    exact .of_keys (verifyCase_plans cfg caller args s).committed.idempotencyKeys
  | other => exact .of_keys h

/-! ## Runs -/

/-- Every key stores the last answer under it, as it was before it was stamped. -/
def StoresAnswers (a : Store × List Answer) : Prop :=
  ∀ k, a.1.storedResult k = (lastAnswer a.2 k).map (·.unstamped)

theorem StoresAnswers.of_empty (h : s.idempotencyKeys = ∅) : StoresAnswers (s, []) := by
  intro k
  unfold Store.storedResult Store.idempotencyKey?
  rw [h]
  rfl

theorem lastAnswer_append (answer : Option Answer) (answers : List Answer)
    (k : ℕ × String) :
    lastAnswer (answer.toList ++ answers) k =
      ((answer.filter (·.1 = k)).map (·.2)).or (lastAnswer answers k) := by
  unfold lastAnswer
  cases answer with
  | none => rfl
  | some found =>
    rw [Option.filter_some, Option.toList_some, List.singleton_append, List.find?_cons]
    by_cases hkey : found.1 = k <;> simp [hkey]

/-- The answers stay stored over a step. -/
theorem StoresAnswers.step {op : Operation} {a b : Store × List Answer}
    (hstores : StoresAnswers a) (h : AnsweredStep rt a op b) : StoresAnswers b := by
  obtain ⟨hstep, hanswers⟩ := h
  intro k
  rw [hanswers, lastAnswer_append, hstep.stores k, hstores k]
  cases (answerOf rt a.1 op).filter (·.1 = k) <;> rfl

/-- What is replayed is what the row stores. -/
theorem IdempotencyKey.stored_of_replayDecision {row : IdempotencyKey}
    {approvedExecution : Bool} {r : ToolExecutionResult}
    (h : row.replayDecision approvedExecution = .replay r) :
    ∃ stored, row.result = some stored ∧ r = resultFromStored stored := by
  unfold IdempotencyKey.replayDecision at h
  split at h
  · rename_i stored hstatus hresult
    exact ⟨stored, hresult, (ReplayDecision.replay.inj h).symm⟩
  · cases h
  · split at h
    · cases h
    · split at h
      · rename_i stored _ _ hresult
        exact ⟨_, hresult, (ReplayDecision.replay.inj h).symm⟩
      · cases h
  · rename_i stored hstatus hresult
    exact ⟨stored, hresult, (ReplayDecision.replay.inj h).symm⟩
  · cases h

/-- A replayed call finds its key storing a result, and returns it. -/
theorem storedResult_of_replayed {r : ToolExecutionResult}
    (hran : ((execute rt svc caller args).run s).1 = .ok r) (hreplayed : r.replayed = true) :
    ∃ k stored, keyOfArgs s args = some k ∧ s.storedResult k = some stored ∧
      r = resultFromStored stored := by
  obtain ⟨request, row, hadmits, hkey, -, hdecision⟩ := replays_of_replayed hran hreplayed
  have hadmitted := admitted_of_ok hadmits
  have hargs := hadmitted.args_eq
  obtain ⟨stored, hstored, hresult⟩ := row.stored_of_replayDecision hdecision
  refine ⟨(request.case.merchantId, request.args.idempotencyKey), stored, ?_, ?_, hresult⟩
  · unfold keyOfArgs
    rw [hadmitted.row, hargs]
    rfl
  · unfold Store.storedResult
    exact (congrArg (·.bind IdempotencyKey.result) hkey).trans hstored

/-! ## Stamps -/

/-- A result with its tool call and the key it was returned under. -/
structure ToolExecutionResult.IsStamped (r : ToolExecutionResult) (key : String) : Prop where
  toolCallId : r.toolCallId.isSome = true
  idempotencyKey : r.idempotencyKey = some key

theorem returns_stamped_executeRequest (rt : Runtime) (svc : ToolExecutionService)
    (caller : Caller) (request : ToolRequest) :
    Session.Returns (·.IsStamped request.args.idempotencyKey)
      (executeRequest rt svc caller request) :=
  .bind fun _ => .bind fun _ => .bind fun _ => .bind fun _ => .pure ⟨rfl, rfl⟩

/-- An answer is a result of its call that was no replay. -/
theorem answerUnder_eq_some {key : Option (ℕ × String)}
    {x : Except Failure ToolExecutionResult} {answer : Answer}
    (h : answerUnder key x = some answer) :
    key = some answer.1 ∧ x = .ok answer.2 ∧ answer.2.replayed = false := by
  unfold answerUnder at h
  obtain ⟨k, hk, h⟩ := Option.bind_eq_some_iff.mp h
  obtain ⟨r, hr, rfl⟩ := Option.map_eq_some_iff.mp h
  obtain ⟨hok, hlive⟩ := Option.filter_eq_some_iff.mp hr
  refine ⟨hk, Lib.toOption_eq_some.mp hok, ?_⟩
  simpa using hlive

/-- A result of `execute` that is no replay is stamped with the key of the call. -/
theorem stamped_of_execute {r : ToolExecutionResult}
    (hran : ((execute rt svc caller args).run s).1 = .ok r) (hlive : r.replayed = false) :
    r.IsStamped args.idempotencyKey := by
  rcases execute_run_cases rt svc caller args s with ⟨x, hrun, hreplayed⟩ |
    ⟨request, row, hadmits, hholds, hrun⟩
  · rw [hrun] at hran
    have hcontra := hreplayed r hran
    rw [hlive] at hcontra
    cases hcontra
  · rw [hrun] at hran
    have hstamped := returns_stamped_executeRequest rt svc caller request _ r _
      (Prod.ext hran rfl)
    have hargs := (admitted_of_ok hadmits).args_eq
    rw [hargs] at hstamped
    exact hstamped

/-- Every answer is stamped with its key. -/
theorem stamped_of_answerOf {op : Operation} {answer : Answer}
    (h : answerOf rt s op = some answer) : answer.2.IsStamped answer.1.2 := by
  cases op with
  | execute svc caller args =>
    obtain ⟨hkey, hran, hlive⟩ := answerUnder_eq_some h
    unfold keyOfArgs at hkey
    obtain ⟨c, -, hc⟩ := Option.map_eq_some_iff.mp hkey
    rw [← hc]
    exact stamped_of_execute hran hlive
  | approve svc caller args =>
    obtain ⟨hkey, hran, hlive⟩ := answerUnder_eq_some h
    obtain ⟨d, hload, hgrantable⟩ := granted_of_approveAction_ok hran
    obtain ⟨s₀, hmark, -⟩ := markApproved_run caller d s
    rw [run_approveAction rt svc hload hgrantable hmark] at hran
    have hstamped := stamped_of_execute hran hlive
    unfold keyOfDecision at hkey
    rw [hload] at hkey
    obtain hk := Option.some.inj hkey
    rw [← hk]
    exact hstamped
  | reject | cancel | process | verify | other => cases h

/-- The answers of a run are stored, and stamped with their keys. -/
structure AnswersKept (a : Store × List Answer) : Prop where
  stores : StoresAnswers a
  stamped : ∀ answer ∈ a.2, answer.2.IsStamped answer.1.2

theorem AnswersKept.step {op : Operation} {a b : Store × List Answer} (hkept : AnswersKept a)
    (h : AnsweredStep rt a op b) : AnswersKept b := by
  refine ⟨hkept.stores.step h, fun answer hmem => ?_⟩
  rw [h.2, List.mem_append] at hmem
  rcases hmem with hnew | hold
  · exact stamped_of_answerOf (Option.mem_toList.mp hnew)
  · exact hkept.stamped answer hold

theorem AnswersKept.of_run {labels : List Operation} {answers : List Answer}
    (hstart : s.idempotencyKeys = ∅)
    (hrun : Run (AnsweredStep rt) (s, []) labels (s', answers)) : AnswersKept (s', answers) := by
  have hempty : AnswersKept (s, []) := ⟨.of_empty hstart, fun _ hmem => nomatch hmem⟩
  exact hrun.invariant (fun _ _ _ hkept hstep => hkept.step hstep) hempty

/-! ## Replays -/

/-- The replay says what the result said, and asks for no approval that was decided. -/
structure Faithful (s : Store) (live replay : ToolExecutionResult) : Prop where
  fields : replay.publicFields = live.publicFields
  pending : replay.status = .approvalRequired → ∃ approvalId approval,
    replay.approvalId = some approvalId ∧ s.approvals.get? approvalId = some approval ∧
      approval.status = .pending

theorem publicFields_resultFromStored (r : ToolExecutionResult) :
    (resultFromStored r).publicFields = r.publicFields := rfl

/-- In every run, a call that replays returns the last result under its key but for the two
stamps, which it has lost: no replay is faithful. -/
theorem replay_unfaithful {labels : List Operation} {answers : List Answer}
    {r : ToolExecutionResult} (hstart : s.idempotencyKeys = ∅)
    (hrun : Run (AnsweredStep rt) (s, []) labels (s', answers))
    (hran : ((execute rt svc caller args).run s').1 = .ok r) (hreplayed : r.replayed = true) :
    ∃ k live, keyOfArgs s' args = some k ∧ lastAnswer answers k = some live ∧
      r.publicFields = live.unstamped.publicFields ∧ ¬ Faithful s' live r := by
  obtain ⟨hstores, hstamped⟩ := AnswersKept.of_run hstart hrun
  obtain ⟨k, stored, hkey, hstored, rfl⟩ := storedResult_of_replayed hran hreplayed
  obtain ⟨live, hlast, rfl⟩ := Option.map_eq_some_iff.mp ((hstores k).symm.trans hstored)
  refine ⟨k, live, hkey, hlast, publicFields_resultFromStored _, fun hfaithful => ?_⟩
  -- the last answer is one of the answers, and so it is stamped
  unfold lastAnswer at hlast
  obtain ⟨answer, hfound, rfl⟩ := Option.map_eq_some_iff.mp hlast
  have hcall := (hstamped answer (List.mem_of_find?_eq_some hfound)).toolCallId
  have hlost := congrArg ToolExecutionResult.toolCallId hfaithful.fields
  have hmissing : answer.2.toolCallId = none := hlost.symm
  rw [hmissing] at hcall
  cases hcall

/-! ### A rejected action -/

/-- The reminder that waited for its approval was rejected. -/
def rejectedStore : Store := committed (rejectAction noonCaller firstAction) parkedStore

/-- The answer of the call that parked the reminder. -/
def parkedAnswers : List Answer :=
  (answerOf sampleRuntime mediumValueStore
    (.execute sampleService noonCaller (reminderUnder "first" none))).toList

theorem run_rejectedStore :
    Run (AnsweredStep sampleRuntime) (mediumValueStore, [])
      [.execute sampleService noonCaller (reminderUnder "first" none),
        .reject noonCaller firstAction] (rejectedStore, parkedAnswers) := by
  have hparked : AnsweredStep sampleRuntime (mediumValueStore, [])
      (.execute sampleService noonCaller (reminderUnder "first" none))
      (parkedStore, parkedAnswers) := ⟨rfl, (List.append_nil _).symm⟩
  have hrejected : AnsweredStep sampleRuntime (parkedStore, parkedAnswers)
      (.reject noonCaller firstAction) (rejectedStore, parkedAnswers) := ⟨rfl, rfl⟩
  exact (Run.single hparked).snoc hrejected

/-- The call that parked the reminder, repeated after the rejection. -/
def repeatedReminder : Except Failure ToolExecutionResult :=
  ((execute sampleRuntime sampleService noonCaller (reminderUnder "first" none)).run
    rejectedStore).1

/-- The reminder still asks for the approval that was rejected, and has lost the tool call of
the answer that it repeats. -/
theorem rejected_not_faithful :
    Run (AnsweredStep sampleRuntime) (mediumValueStore, [])
        [.execute sampleService noonCaller (reminderUnder "first" none),
          .reject noonCaller firstAction] (rejectedStore, parkedAnswers) ∧
      (rejectedStore.approvals.get? 0).map (·.status) = some .rejected ∧
      ∃ live r, lastAnswer parkedAnswers (0, "first") = some live ∧
        repeatedReminder = .ok r ∧ r.replayed = true ∧
        (live.toolCallId, live.idempotencyKey) = (some 0, some "first") ∧
        (r.toolCallId, r.idempotencyKey) = (none, none) ∧
        (r.status, r.approvalId) = (.approvalRequired, some 0) ∧
        ¬ Faithful rejectedStore live r := by
  refine ⟨run_rejectedStore, by decide +kernel, ?_⟩
  have hlive : (lastAnswer parkedAnswers (0, "first")).map
      (fun live => (live.toolCallId, live.idempotencyKey)) = some (some 0, some "first") := by
    decide +kernel
  have hrepeated : repeatedReminder.toOption.map (fun r => (r.replayed,
      (r.toolCallId, r.idempotencyKey), (r.status, r.approvalId))) =
        some (true, (none, none), (.approvalRequired, some 0)) := by
    decide +kernel
  obtain ⟨live, hlast, hstamps⟩ := Option.map_eq_some_iff.mp hlive
  obtain ⟨r, hran, hfields⟩ := Option.map_eq_some_iff.mp hrepeated
  obtain ⟨hreplayed, hlost, hwaiting⟩ := by
    simpa only [Prod.mk.injEq] using hfields
  refine ⟨live, r, hlast, Lib.toOption_eq_some.mp hran, hreplayed, hstamps, ?_, ?_, ?_⟩
  · exact Prod.ext hlost.1 hlost.2
  · exact Prod.ext hwaiting.1 hwaiting.2
  · intro hfaithful
    have hcall := congrArg ToolExecutionResult.toolCallId hfaithful.fields
    have hkept : r.toolCallId = live.toolCallId := hcall
    rw [hlost.1, (Prod.mk.inj hstamps).1] at hkept
    cases hkept

/-- The repeated reminder returns its last answer without the stamps. -/
theorem replay_unfaithful_rejected :
    ∃ r k live, repeatedReminder = .ok r ∧
      keyOfArgs rejectedStore (reminderUnder "first" none) = some k ∧
      lastAnswer parkedAnswers k = some live ∧
      r.publicFields = live.unstamped.publicFields ∧ ¬ Faithful rejectedStore live r := by
  have hrepeated : repeatedReminder.toOption.map (·.replayed) = some true := by
    decide +kernel
  obtain ⟨r, hran, hreplayed⟩ := Option.map_eq_some_iff.mp hrepeated
  have hok : repeatedReminder = .ok r := Lib.toOption_eq_some.mp hran
  obtain ⟨k, live, hunfaithful⟩ := replay_unfaithful rfl run_rejectedStore hok hreplayed
  exact ⟨r, k, live, hok, hunfaithful⟩

end ReviveX
