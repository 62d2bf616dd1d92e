import ReviveX.Tools.RunTheorems

/-!
# What an execution does

`ExecuteOutcome` adds to `RunOutcome` what `execute` does around a run: reject the request,
find the key in the way, or replay a stored result.
-/

namespace ReviveX

open Lib (RaisesOnly Session Table)

variable {rt : Runtime} {svc : ToolExecutionService} {caller : Caller} {now : Time}
  {request : ToolRequest} {s s' : Store} {c : RecoveryCase} {caseId : ℕ}

/-! ## Admission -/

variable {args : ExecuteArgs}

/-- What an admitted request has been checked for. -/
structure Admitted (rt : Runtime) (s : Store) (args : ExecuteArgs) (request : ToolRequest) :
    Prop where
  args_eq : request.args = args
  resolved : resolveTool args.toolName args.action = .ok request.tool
  validated : validateInput rt request.tool args.payload = .ok request.input
  row : s.cases.get? args.caseId = some request.case
  merchant : assertMerchant s request.case args.merchantId = .ok ()
  isOpen : isTerminal request.case.status = false
  payment : request.payment =
    request.case.paymentId.bind fun i => (s.payments.get? i).map (i, ·)
  customer : request.customer =
    (s.customers.get? request.case.customerId).map (request.case.customerId, ·)
  hash : request.requestHash =
    canonicalRequestHash rt (hashPayload request.tool args.action request.input)

theorem lockedCase_eq_ok : lockedCase s caseId = .ok c ↔ s.cases.get? caseId = some c := by
  unfold lockedCase lockRecoveryCase
  rw [Session.run_get_bind]
  cases s.cases.get? caseId <;> simp

theorem admitted_of_ok (h : admitRequest rt s args = .ok request) : Admitted rt s args request := by
  unfold admitRequest at h
  obtain ⟨tool, htool, h⟩ := Lib.bind_eq_ok.mp h
  obtain ⟨input, hinput, h⟩ := Lib.bind_eq_ok.mp h
  obtain ⟨c, hc, h⟩ := Lib.bind_eq_ok.mp h
  obtain ⟨_, hmerchant, h⟩ := Lib.bind_eq_ok.mp h
  obtain ⟨_, -, h⟩ := Lib.bind_eq_ok.mp h
  obtain ⟨_, hopen, h⟩ := Lib.bind_eq_ok.mp h
  obtain rfl := Except.ok.inj h
  refine ⟨rfl, htool, hinput, lockedCase_eq_ok.mp hc, hmerchant, ?_, rfl, rfl, rfl⟩
  unfold assertOpen at hopen
  by_contra hterminal
  rw [if_pos (by simpa using hterminal)] at hopen
  exact absurd hopen (by simp)

/-- Admission does not look at actions, approvals or records. -/
theorem admitRequest_congr (hcases : s'.cases = s.cases) (hmerchants : s'.merchants = s.merchants)
    (hcustomers : s'.customers = s.customers) (hpayments : s'.payments = s.payments) :
    admitRequest rt s' args = admitRequest rt s args := by
  have hlocked : lockedCase s' args.caseId = lockedCase s args.caseId := by
    unfold lockedCase lockRecoveryCase
    rw [Session.run_get_bind, Session.run_get_bind, hcases]
    cases s.cases.get? args.caseId <;> rfl
  unfold admitRequest assertMerchant
  rw [hlocked]
  simp only [hmerchants, hcustomers, hpayments]

/-! ## The whole call -/

/-- The row under which a request takes its key. -/
def newKey (request : ToolRequest) (now : Time) : IdempotencyKey where
  operation := request.tool
  requestHash := request.requestHash
  expiresAt := some (now + idempotencyTtlHours * hour)

/-- The row of the request's key. -/
def Store.keyOf (s : Store) (request : ToolRequest) : Option IdempotencyKey :=
  s.idempotencyKey? request.case.merchantId request.args.idempotencyKey

/-- The store with the row of the request's key. -/
def Store.withKey (s : Store) (request : ToolRequest) (row : IdempotencyKey) : Store :=
  { s with
    idempotencyKeys := s.idempotencyKeys.insert
      (request.case.merchantId, request.args.idempotencyKey) row }

/-- The store once the request holds its key. -/
def Store.keyTaken (s : Store) (request : ToolRequest) (now : Time) : Store :=
  match s.keyOf request with
  | some _ => s
  | none => s.withKey request (newKey request now)

/-- The request may run, holding its key under the row. -/
def HoldsKey (s : Store) (request : ToolRequest) (now : Time) (row : IdempotencyKey) : Prop :=
  s.keyOf request = none ∧ row = newKey request now ∨
    s.keyOf request = some row ∧ row.requestHash = request.requestHash ∧
      row.replayDecision request.args.approvedExecution = .proceed

/-- How `execute` finishes a run that left the store `s₁`. -/
inductive Finished (request : ToolRequest) (row : IdempotencyKey) (now : Time) (s₁ : Store) :
    Except Failure ToolExecutionResult → Except Failure ToolExecutionResult → Store → Prop
  | returned {r : ToolExecutionResult} {toolCallId : ℕ} {s' : Store}
      (hrecorded : Recorded (s₁.withKey request (row.finish now r toolCallId)) s') :
      Finished request row now s₁ (.ok r)
        (.ok { r with
          toolCallId := some toolCallId
          idempotencyKey := some request.args.idempotencyKey }) s'
  | failed {e : DomainError} {s' : Store} (hclass : e.cls = .toolValidation)
      (hrecorded : Recorded (s₁.withKey request (row.fail now e.code)) s') :
      Finished request row now s₁ (.error (.domain e)) (.error (.domain e)) s'
  | crashed {exception : String} :
      Finished request row now s₁ (.error (.crash exception)) (.error (.crash exception)) s₁

/-- What a call of `execute` can do. -/
inductive ExecuteOutcome (rt : Runtime) (svc : ToolExecutionService) (caller : Caller)
    (args : ExecuteArgs) (s : Store) : Except Failure ToolExecutionResult → Store → Prop
  | rejected {f : Failure} (hadmits : admitRequest rt s args = .error f) :
      ExecuteOutcome rt svc caller args s (.error f) s
  | conflict {request : ToolRequest} {row : IdempotencyKey}
      (hadmits : admitRequest rt s args = .ok request) (hkey : s.keyOf request = some row)
      (hhash : row.requestHash ≠ request.requestHash) :
      ExecuteOutcome rt svc caller args s
        (.error (idempotencyConflictError args.idempotencyKey)) s
  | replayed {request : ToolRequest} {row : IdempotencyKey} {result : ToolExecutionResult}
      (hadmits : admitRequest rt s args = .ok request) (hkey : s.keyOf request = some row)
      (hhash : row.requestHash = request.requestHash)
      (hdecision : row.replayDecision args.approvedExecution = .replay result) :
      ExecuteOutcome rt svc caller args s (.ok result) s
  | busy {request : ToolRequest} {row : IdempotencyKey}
      (hadmits : admitRequest rt s args = .ok request) (hkey : s.keyOf request = some row)
      (hhash : row.requestHash = request.requestHash)
      (hdecision : row.replayDecision args.approvedExecution = .busy) :
      ExecuteOutcome rt svc caller args s (.error idempotencyInProgressError) s
  | ran {request : ToolRequest} {row : IdempotencyKey} {s₁ s' : Store}
      {x x' : Except Failure ToolExecutionResult} (hadmits : admitRequest rt s args = .ok request)
      (hholds : HoldsKey s request caller.now row)
      (hrun : RunOutcome rt svc caller request (s.keyTaken request caller.now) x s₁)
      (hfinished : Finished request row caller.now s₁ x x' s') :
      ExecuteOutcome rt svc caller args s x' s'

/-- What is recorded at the end leaves the history alone. -/
theorem Finished.trace {row : IdempotencyKey} {now : Time} {s₁ : Store}
    {x x' : Except Failure ToolExecutionResult} (h : Finished request row now s₁ x x' s') :
    s'.trace = s₁.trace := by
  cases h with
  | returned hrecorded => exact hrecorded.trace
  | failed hclass hrecorded => exact hrecorded.trace
  | crashed => rfl

theorem keyOf_withKey (s : Store) (request : ToolRequest) (row : IdempotencyKey) :
    (s.withKey request row).keyOf request = some row := AList.lookup_insert _

theorem keyOf_keyTaken {row : IdempotencyKey} (h : HoldsKey s request now row) :
    (s.keyTaken request now).keyOf request = some row := by
  unfold Store.keyTaken
  rcases h with ⟨hnone, rfl⟩ | ⟨hsome, -, -⟩
  · rw [hnone]
    exact keyOf_withKey s request _
  · rw [hsome]
    exact hsome

theorem cases_keyTaken (s : Store) (request : ToolRequest) (now : Time) :
    (s.keyTaken request now).cases = s.cases := by
  unfold Store.keyTaken
  split <;> rfl

/-- A run raises a refusal, or nothing at all is kept. -/
theorem RunOutcome.isRefusal {f : Failure}
    (h : RunOutcome rt svc caller request s (.error f) s') : f.IsRefusal := by
  cases h with
  | refused hrefusal _ _ => exact hrefusal
  | crashed _ _ hrollsBack => exact .inl hrollsBack

theorem run_modifyKey {f : IdempotencyKey → IdempotencyKey} {row : IdempotencyKey}
    (h : s.keyOf request = some row) :
    (Service.modifyKey request.case.merchantId request.args.idempotencyKey f).run s =
      (.ok (), s.withKey request (f row)) := by
  have hlookup : s.idempotencyKeys.lookup
      (request.case.merchantId, request.args.idempotencyKey) = some row := h
  unfold Service.modifyKey
  rw [Session.run_modify, hlookup]
  rfl

theorem recordFailure_run (caller : Caller) (toolCallId : ℕ) {e : DomainError}
    {row : IdempotencyKey} (hclass : e.cls = .toolValidation) (h : s.keyOf request = some row) :
    ∃ s', (recordFailure caller request toolCallId (.domain e)).run s = (.ok (), s') ∧
      Recorded (s.withKey request (row.fail caller.now e.code)) s' := by
  have hother : ¬e.cls = .idempotencyConflict := by
    rw [hclass]
    decide
  unfold recordFailure
  dsimp only
  rw [if_neg hother, Session.run_bind_ok (run_modifyKey h)]
  exact ⟨_, rfl, rfl⟩

/-- The store once the tool call of the request was inserted. -/
def Store.pending (s : Store) (request : ToolRequest) : Store :=
  { s with
    toolCalls := s.toolCalls.insert
      { merchantId := request.case.merchantId
        recoveryCaseId := request.args.caseId
        toolName := request.tool
        status := .pending
        idempotencyKey := request.args.idempotencyKey } }

/-- `execute` around a run: its result, or its failure, is written on the key and on the tool
call of the request. -/
def recordRun (caller : Caller) (request : ToolRequest) (toolCallId : ℕ)
    (run : Service ToolExecutionResult) : Service ToolExecutionResult := do
  let result ← run.onError (recordFailure caller request toolCallId)
  Service.modifyKey request.case.merchantId request.args.idempotencyKey
    (·.finish caller.now result toolCallId)
  Service.modifyToolCall toolCallId (·.finish result)
  pure
    { result with
      toolCallId := some toolCallId, idempotencyKey := some request.args.idempotencyKey }

theorem run_executeRequest (rt : Runtime) (svc : ToolExecutionService) (caller : Caller)
    (request : ToolRequest) (s : Store) :
    (executeRequest rt svc caller request).run s =
      (recordRun caller request s.toolCalls.nextId
        (runAfterIdempotency rt svc caller request)).run (s.pending request) := rfl

/-- A run that held its key until its end is recorded. -/
theorem recordRun_finished {run : Service ToolExecutionResult} {row : IdempotencyKey}
    {x : Except Failure ToolExecutionResult} {s₁ : Store} (caller : Caller) (toolCallId : ℕ)
    (hran : run.run s = (x, s₁)) (hrefusal : ∀ f, x = .error f → f.IsRefusal)
    (hkey : s₁.keyOf request = some row) :
    Finished request row caller.now s₁ x
      ((recordRun caller request toolCallId run).run s).1
      ((recordRun caller request toolCallId run).run s).2 := by
  unfold recordRun
  cases x with
  | ok r =>
    rw [Session.run_bind_ok (Session.run_onError_ok hran _),
      Session.run_bind_ok (run_modifyKey hkey)]
    exact .returned rfl
  | error f =>
    cases f with
    | crash exception =>
      rw [Session.run_bind_error (Session.run_onError_error hran rfl)]
      exact .crashed
    | domain e =>
      have hclass : e.cls = .toolValidation := by
        rcases hrefusal _ rfl with hrollsBack | ⟨code, message, he⟩
        · exact absurd hrollsBack (by simp [Failure.RollsBack, Failure.commits])
        · obtain rfl := Failure.domain.inj he
          rfl
      obtain ⟨s₂, hnote, hrecorded⟩ := recordFailure_run caller toolCallId hclass hkey
      rw [Session.run_bind_error (Session.run_onError_error hran hnote)]
      exact .failed hclass hrecorded

/-- Two runs that do the same are recorded in the same way. -/
theorem recordRun_congr {run run' : Service ToolExecutionResult} (caller : Caller)
    (request : ToolRequest) (toolCallId : ℕ) (h : run.run s = run'.run s) :
    (recordRun caller request toolCallId run).run s =
      (recordRun caller request toolCallId run').run s := by
  have hrun : (run.onError (recordFailure caller request toolCallId)).run s =
      (run'.onError (recordFailure caller request toolCallId)).run s := by
    unfold Session.run at h
    unfold Session.onError Session.run
    dsimp only
    rw [h]
  unfold recordRun
  rw [Session.run_bind, Session.run_bind, hrun]

/-- A request that holds its key is run, and its key and tool call are finished. -/
theorem executeRequest_finished (rt : Runtime) (svc : ToolExecutionService) (caller : Caller)
    {row : IdempotencyKey} (hrow : s.cases.get? request.args.caseId = some request.case)
    (hkey : s.keyOf request = some row) :
    ∃ x s₁, (runAfterIdempotency rt svc caller request).run (s.pending request) = (x, s₁) ∧
      RunOutcome rt svc caller request s x s₁ ∧
      Finished request row caller.now s₁ x ((executeRequest rt svc caller request).run s).1
        ((executeRequest rt svc caller request).run s).2 := by
  have hpending : Recorded s (s.pending request) := rfl
  have houtcome := RunOutcome.of_recorded hpending
    (runAfterIdempotency_outcome rt svc caller hrow)
  rcases hran : (runAfterIdempotency rt svc caller request).run (s.pending request) with ⟨x, s₁⟩
  rw [hran] at houtcome
  have hkey₁ : s₁.keyOf request = some row := by
    unfold Store.keyOf Store.idempotencyKey?
    rw [houtcome.idempotencyKeys]
    exact hkey
  refine ⟨x, s₁, rfl, houtcome, ?_⟩
  rw [run_executeRequest]
  refine recordRun_finished caller s.toolCalls.nextId hran (fun f hf => ?_) hkey₁
  subst hf
  exact houtcome.isRefusal

theorem executeRequest_outcome (rt : Runtime) (svc : ToolExecutionService) (caller : Caller)
    {row : IdempotencyKey} (hrow : s.cases.get? request.args.caseId = some request.case)
    (hkey : s.keyOf request = some row) :
    ∃ x s₁, RunOutcome rt svc caller request s x s₁ ∧
      Finished request row caller.now s₁ x ((executeRequest rt svc caller request).run s).1
        ((executeRequest rt svc caller request).run s).2 := by
  obtain ⟨x, s₁, -, houtcome, hfinished⟩ := executeRequest_finished rt svc caller hrow hkey
  exact ⟨x, s₁, houtcome, hfinished⟩

/-- A request whose key is taken. -/
theorem execute_run_of_key (rt : Runtime) (svc : ToolExecutionService) (caller : Caller)
    {row : IdempotencyKey} (hadmits : admitRequest rt s args = .ok request)
    (hkey : s.keyOf request = some row) :
    (execute rt svc caller args).run s =
      if row.requestHash ≠ request.requestHash then
        (.error (idempotencyConflictError args.idempotencyKey), s)
      else match row.replayDecision args.approvedExecution with
        | .replay result => (.ok result, s)
        | .busy => (.error idempotencyInProgressError, s)
        | .proceed => (executeRequest rt svc caller request).run s := by
  obtain rfl := (admitted_of_ok hadmits).args_eq
  have hfound := hkey
  unfold Store.keyOf at hfound
  unfold execute beginIdempotentOperation
  rw [Session.run_get_bind, Session.run_ofExcept_bind, hadmits]
  dsimp only
  rw [Session.run_bind, Session.run_get_bind, hfound]
  dsimp only
  by_cases hhash : row.requestHash ≠ request.requestHash
  · rw [if_pos hhash, if_pos hhash]
    rfl
  · rw [if_neg hhash, if_neg hhash]
    dsimp only [Session.run_pure]
    unfold resumeRequest
    rw [if_pos rfl]
    cases row.replayDecision request.args.approvedExecution <;> rfl

/-- A request that holds its key runs. -/
theorem execute_run_of_holds (rt : Runtime) (svc : ToolExecutionService) (caller : Caller)
    {row : IdempotencyKey} (hadmits : admitRequest rt s args = .ok request)
    (hholds : HoldsKey s request caller.now row) :
    (execute rt svc caller args).run s =
      (executeRequest rt svc caller request).run (s.keyTaken request caller.now) := by
  have hargs := (admitted_of_ok hadmits).args_eq
  unfold Store.keyTaken
  rcases hholds with ⟨hnone, -⟩ | ⟨hsome, hhash, hdecision⟩
  · obtain rfl := hargs
    have hmissing := hnone
    unfold Store.keyOf at hmissing
    unfold execute beginIdempotentOperation
    rw [hnone, Session.run_get_bind, Session.run_ofExcept_bind, hadmits]
    dsimp only
    rw [Session.run_bind, Session.run_get_bind, hmissing]
    rfl
  · rw [hargs] at hdecision
    rw [execute_run_of_key rt svc caller hadmits hsome, if_neg (not_not.mpr hhash), hdecision,
      hsome]

theorem execute_outcome (rt : Runtime) (svc : ToolExecutionService) (caller : Caller)
    (args : ExecuteArgs) (s : Store) :
    ExecuteOutcome rt svc caller args s ((execute rt svc caller args).run s).1
      ((execute rt svc caller args).run s).2 := by
  cases hadmits : admitRequest rt s args with
  | error f =>
    unfold execute
    rw [Session.run_get_bind, Session.run_ofExcept_bind, hadmits]
    exact .rejected hadmits
  | ok request =>
    have hadmitted := admitted_of_ok hadmits
    -- the rest of the call, once the key is held
    have hran : ∀ {row : IdempotencyKey}, HoldsKey s request caller.now row →
        ExecuteOutcome rt svc caller args s ((execute rt svc caller args).run s).1
          ((execute rt svc caller args).run s).2 := by
      intro row hholds
      have hrow : (s.keyTaken request caller.now).cases.get? request.args.caseId =
          some request.case := by
        rw [cases_keyTaken, hadmitted.args_eq]
        exact hadmitted.row
      obtain ⟨x, s₁, houtcome, hfinished⟩ := executeRequest_outcome rt svc caller hrow
        (keyOf_keyTaken hholds)
      rw [execute_run_of_holds rt svc caller hadmits hholds]
      exact .ran hadmits hholds houtcome hfinished
    cases hkey : s.keyOf request with
    | none => exact hran (.inl ⟨hkey, rfl⟩)
    | some row =>
      by_cases hhash : row.requestHash ≠ request.requestHash
      · rw [execute_run_of_key rt svc caller hadmits hkey, if_pos hhash]
        exact .conflict hadmits hkey hhash
      · have hmatch : row.requestHash = request.requestHash := not_not.mp hhash
        cases hdecision : row.replayDecision args.approvedExecution with
        | proceed =>
          refine hran (.inr ⟨hkey, hmatch, ?_⟩)
          rw [hadmitted.args_eq]
          exact hdecision
        | replay result =>
          rw [execute_run_of_key rt svc caller hadmits hkey, if_neg hhash, hdecision]
          exact .replayed hadmits hkey hmatch hdecision
        | busy =>
          rw [execute_run_of_key rt svc caller hadmits hkey, if_neg hhash, hdecision]
          exact .busy hadmits hkey hmatch hdecision

end ReviveX
