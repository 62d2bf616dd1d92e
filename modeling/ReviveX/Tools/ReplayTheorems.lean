import ReviveX.Tools.KeyTheorems

/-!
# At most one success for a key

The history of the handlers and the rows of the keys agree over every run (`KeyLedger`):
a handler that was called left a row with its hash, and one that succeeded left a settled
row, under which no handler runs again.

A replay of `execute` writes nothing. A replay of `approve_action` has already marked the
action approved: it leaves the rows alone exactly when the action was approved before.
-/

namespace ReviveX

open Lib (Run Session Table)

variable {rt : Runtime} {svc : ToolExecutionService} {caller : Caller} {now : Time}
  {request : ToolRequest} {s s' s'' : Store} {args : ExecuteArgs} {m : ℕ} {key : String}

/-! ## Handlers in the history -/

/-- The call that an entry notes. -/
def TraceEvent.call? : TraceEvent → Option HandlerCall
  | .handlerCalled call => some call
  | _ => none

/-- The call whose success an entry notes. -/
def TraceEvent.success? : TraceEvent → Option HandlerCall
  | .handlerSucceeded call _ _ => some call
  | _ => none

/-- The handlers that were entered, oldest first. -/
def Store.handlerCalls (s : Store) : List HandlerCall := s.trace.filterMap TraceEvent.call?

/-- The handlers that reported success, oldest first. -/
def Store.handlerSuccesses (s : Store) : List HandlerCall :=
  s.trace.filterMap TraceEvent.success?

/-- The call was made under the key. -/
def HandlerCall.isUnder (m : ℕ) (key : String) (call : HandlerCall) : Bool :=
  call.merchantId = m && call.idempotencyKey = key

/-- The same handlers were entered and succeeded. -/
structure SameHandlers (s s' : Store) : Prop where
  calls : s'.handlerCalls = s.handlerCalls
  successes : s'.handlerSuccesses = s.handlerSuccesses

theorem SameHandlers.of_trace {events : List TraceEvent} (h : s'.trace = s.trace ++ events)
    (hcalls : events.filterMap TraceEvent.call? = [])
    (hsuccesses : events.filterMap TraceEvent.success? = []) : SameHandlers s s' where
  calls := by
    unfold Store.handlerCalls
    rw [h, List.filterMap_append, hcalls, List.append_nil]
  successes := by
    unfold Store.handlerSuccesses
    rw [h, List.filterMap_append, hsuccesses, List.append_nil]

theorem SameHandlers.of_eq (h : s'.trace = s.trace) : SameHandlers s s' := by
  have htrace : s'.trace = s.trace ++ [] := by rw [h, List.append_nil]
  exact .of_trace htrace rfl rfl

/-- Asking the provider is no call of a handler. -/
theorem asks_filterMap (s : Store) (caller : Caller) (request : ToolRequest)
    (verdict : ToolVerdict) (c : RecoveryCase) :
    (s.asks caller request verdict c).filterMap TraceEvent.call? = [] ∧
      (s.asks caller request verdict c).filterMap TraceEvent.success? = [] := by
  unfold Store.asks handlerAsks
  dsimp only
  split
  · split <;> exact ⟨rfl, rfl⟩
  · exact ⟨rfl, rfl⟩
  · exact ⟨rfl, rfl⟩

/-- A handler that returned was entered once. -/
theorem calls_of_handling {verdict : ToolVerdict} {c : RecoveryCase} {handled : HandlerResult}
    (h : s'.trace = s.trace ++ s.handlingEvents caller request verdict c handled) :
    s'.handlerCalls = s.handlerCalls ++ [s.handlerCall caller request verdict c] := by
  have hasked := (asks_filterMap s caller request verdict c).1
  have hcall : TraceEvent.call? (.handlerCalled (s.handlerCall caller request verdict c)) =
      some (s.handlerCall caller request verdict c) := rfl
  unfold Store.handlerCalls
  rw [h]
  unfold Store.handlingEvents successEvents
  rw [List.filterMap_append, List.filterMap_cons_some hcall, List.filterMap_append, hasked]
  split <;> rfl

/-- A handler that returned succeeded or did not. -/
theorem successes_of_handling {verdict : ToolVerdict} {c : RecoveryCase}
    {handled : HandlerResult}
    (h : s'.trace = s.trace ++ s.handlingEvents caller request verdict c handled) :
    s'.handlerSuccesses = s.handlerSuccesses ++
      if handled.success then [s.handlerCall caller request verdict c] else [] := by
  have hasked := (asks_filterMap s caller request verdict c).2
  unfold Store.handlerSuccesses
  rw [h]
  unfold Store.handlingEvents successEvents
  rw [List.filterMap_append, List.filterMap_cons_none rfl, List.filterMap_append, hasked]
  split <;> rfl

/-- A handler was entered and returned between the two stores; it ran under a key that was
not settled, and settled it. -/
structure HandlerRan (s s' : Store) (call : HandlerCall) : Prop where
  calls : s'.handlerCalls = s.handlerCalls ++ [call]
  successes : s'.handlerSuccesses = s.handlerSuccesses ∨
    s'.handlerSuccesses = s.handlerSuccesses ++ [call]
  held : ∀ row, s.idempotencyKey? call.merchantId call.idempotencyKey = some row →
    row.requestHash = call.requestHash ∧ ¬ row.Settled
  settled : ∃ row, s'.idempotencyKey? call.merchantId call.idempotencyKey = some row ∧
    row.requestHash = call.requestHash ∧ row.Settled

theorem HoldsKey.of_found {row row' : IdempotencyKey} (h : HoldsKey s request now row)
    (hfound : s.keyOf request = some row') : row' = row := by
  rcases h with ⟨hnone, -⟩ | ⟨hsome, -, -⟩
  · exact absurd (hnone.symm.trans hfound) (by simp)
  · exact Option.some.inj (hfound.symm.trans hsome)

/-- An execution calls no handler, or one. -/
theorem Executed.handlers (h : Executed rt svc caller args s s') :
    SameHandlers s s' ∨ ∃ call, HandlerRan s s' call := by
  cases h with
  | idle => exact .inl (.of_eq rfl)
  | refused hadmits hholds happrovals hsame => exact .inl (.of_eq hsame.trace)
  | blocked hadmits hholds hjudged hbranch hstatus hsame => exact .inl (.of_eq hsame.trace)
  | parked hadmits hholds hjudged hbranch hstatus hsame =>
    exact .inl (.of_trace hsame.trace rfl rfl)
  | @handled request row verdict c handled r toolCallId _ hadmits hholds hhandling hstatus
      hsame =>
    have htrace : s'.trace = s.trace ++ s.handlingEvents caller request verdict c handled :=
      hsame.trace
    have hkeys : s'.idempotencyKeys = s.keysWith request (row.finish caller.now r toolCallId) :=
      hsame.idempotencyKeys
    let call := s.handlerCall caller request verdict c
    have hfinished : r.status ≠ .approvalRequired := by
      rw [hstatus]
      split <;> decide
    have hsuccesses : s'.handlerSuccesses = s.handlerSuccesses ++
        if handled.success then [call] else [] := successes_of_handling htrace
    refine .inr ⟨call, ⟨?_, ?_, ?_, ?_⟩⟩
    · exact calls_of_handling htrace
    · rw [hsuccesses]
      split
      · exact .inr rfl
      · exact .inl (List.append_nil _)
    · intro row' hrow'
      have hfound : s.keyOf request = some row' := hrow'
      obtain rfl := hholds.of_found hfound
      exact ⟨hholds.requestHash, hholds.not_settled⟩
    · refine ⟨row.finish caller.now r toolCallId, ?_, ?_,
        IdempotencyKey.finish_settled row caller.now toolCallId hfinished⟩
      · rw [idempotencyKey?_keysWith _ hkeys]
        exact if_pos rfl
      · rw [IdempotencyKey.finish_requestHash]
        exact hholds.requestHash

/-- A call that stores nothing in between leaves its handlers to be found. -/
theorem HandlerRan.of_same {s₀ : Store} {call : HandlerCall} (hsame : SameHandlers s s₀)
    (hkeys : s₀.idempotencyKeys = s.idempotencyKeys) (h : HandlerRan s₀ s' call) :
    HandlerRan s s' call where
  calls := by rw [h.calls, hsame.calls]
  successes := by
    rw [← hsame.successes]
    exact h.successes
  held := by
    intro row hrow
    refine h.held row ?_
    unfold Store.idempotencyKey?
    rw [hkeys]
    exact hrow
  settled := h.settled

/-- A handler that an execution calls is the one of the tool that was asked for. -/
theorem Executed.calls (h : Executed rt svc caller args s s') :
    s'.handlerCalls = s.handlerCalls ∨ ∃ call,
      s'.handlerCalls = s.handlerCalls ++ [call] ∧ call.caseId = args.caseId ∧
        resolveTool args.toolName args.action = .ok call.toolName := by
  cases h with
  | idle => exact .inl rfl
  | refused hadmits hholds happrovals hsame => exact .inl (SameHandlers.of_eq hsame.trace).calls
  | blocked hadmits hholds hjudged hbranch hstatus hsame =>
    exact .inl (SameHandlers.of_eq hsame.trace).calls
  | parked hadmits hholds hjudged hbranch hstatus hsame =>
    exact .inl (SameHandlers.of_trace hsame.trace rfl rfl).calls
  | @handled request row verdict c handled r toolCallId _ hadmits hholds hhandling hstatus
      hsame =>
    have hadmitted := admitted_of_ok hadmits
    exact .inr ⟨_, calls_of_handling hsame.trace,
      congrArg ExecuteArgs.caseId hadmitted.args_eq, hadmitted.resolved⟩

/-- What happens between calls: the keys and the history stay. -/
structure LeavesKeys (s s' : Store) : Prop where
  idempotencyKeys : s'.idempotencyKeys = s.idempotencyKeys
  trace : s'.trace = s.trace

theorem Plans.sameHandlers {py : PyText} {caseId : ℕ} (h : Plans py caller caseId s s') :
    SameHandlers s s' := by
  cases h with
  | nothing hsame => exact .of_eq hsame.trace
  | recorded c actionType status riskLevel hrow htype hstatus hsame => exact .of_eq hsame.trace
  | parked c actionType riskLevel ttlMinutes hrow htype hsame =>
    exact .of_trace hsame.trace rfl rfl

theorem Rejected.sameHandlers {args : DecisionArgs} (h : Rejected caller args s s') :
    SameHandlers s s' := by
  cases h with
  | idle => exact .of_eq rfl
  | rejected hload hsame => exact .of_trace hsame.trace rfl rfl

theorem Approved.handlers {args : DecisionArgs} (h : Approved rt svc caller args s s') :
    SameHandlers s s' ∨ ∃ call, HandlerRan s s' call := by
  cases h with
  | idle => exact .inl (.of_eq rfl)
  | expired hload hpending hexpired => exact .inl (.of_eq rfl)
  | @granted d s₀ _ hload hgrantable hrecorded hexecuted =>
    have hgranted : SameHandlers s s₀ := .of_trace hrecorded.trace rfl rfl
    rcases hexecuted.handlers with hsame | ⟨call, hran⟩
    · exact .inl ⟨hsame.calls.trans hgranted.calls, hsame.successes.trans hgranted.successes⟩
    · exact .inr ⟨call, hran.of_same hgranted hrecorded.idempotencyKeys⟩

/-- A step calls no handler, or one. -/
theorem Step.handlers {Other : Store → Store → Prop} {op : Operation}
    (hother : ∀ s s', Other s s' → LeavesKeys s s') (h : Step rt Other s op s') :
    SameHandlers s s' ∨ ∃ call, HandlerRan s s' call := by
  cases op with
  | execute svc caller args =>
    obtain rfl := h
    exact (execute_executed rt svc caller args s).handlers
  | approve svc caller args =>
    obtain rfl := h
    exact (approveAction_approved rt svc caller args s).handlers
  | reject caller args =>
    obtain rfl := h
    exact .inl (rejectAction_rejected caller args s).sameHandlers
  | cancel caller args =>
    obtain rfl := h
    exact .inl (rejectAction_rejected caller _ s).sameHandlers
  | process cfg caller caseId =>
    obtain rfl := h
    exact .inl (process_plans cfg caller caseId s).committed.sameHandlers
  | verify cfg caller args =>
    obtain rfl := h
    exact .inl (verifyCase_plans cfg caller args s).committed.sameHandlers
  | other => exact .inl (.of_eq (hother _ _ h).trace)

/-! ## The ledger of the keys -/

/-- The rows of the keys account for the handlers that ran. -/
structure KeyLedger (s : Store) : Prop where
  called : ∀ call ∈ s.handlerCalls, ∃ row,
    s.idempotencyKey? call.merchantId call.idempotencyKey = some row ∧
      row.requestHash = call.requestHash
  succeeded : ∀ call ∈ s.handlerSuccesses, ∃ row,
    s.idempotencyKey? call.merchantId call.idempotencyKey = some row ∧ row.Settled
  once : ∀ m key, (s.handlerSuccesses.countP (·.isUnder m key)) ≤ 1

theorem KeyLedger.of_empty (h : s.trace = []) : KeyLedger s := by
  have hcalls : s.handlerCalls = [] := by
    unfold Store.handlerCalls
    rw [h]
    rfl
  have hsuccesses : s.handlerSuccesses = [] := by
    unfold Store.handlerSuccesses
    rw [h]
    rfl
  refine ⟨?_, ?_, ?_⟩
  · rw [hcalls]
    exact fun call hmem => absurd hmem List.not_mem_nil
  · rw [hsuccesses]
    exact fun call hmem => absurd hmem List.not_mem_nil
  · rw [hsuccesses]
    exact fun _ _ => Nat.zero_le _

/-- No handler has succeeded under a key that is not settled. -/
theorem KeyLedger.not_succeeded (hledger : KeyLedger s) {call : HandlerCall}
    (h : HandlerRan s s' call) :
    s.handlerSuccesses.countP (·.isUnder call.merchantId call.idempotencyKey) = 0 := by
  rw [List.countP_eq_zero]
  intro earlier hmem hunder
  obtain ⟨row, hrow, hsettled⟩ := hledger.succeeded earlier hmem
  have hsame : earlier.merchantId = call.merchantId ∧
      earlier.idempotencyKey = call.idempotencyKey := by
    simpa [HandlerCall.isUnder] using hunder
  rw [hsame.1, hsame.2] at hrow
  exact (h.held row hrow).2 hsettled

theorem KeyLedger.step (hledger : KeyLedger s) (hgrow : KeysGrow s s')
    (h : SameHandlers s s' ∨ ∃ call, HandlerRan s s' call) : KeyLedger s' := by
  -- what the ledger said of earlier handlers
  have hcalled : ∀ call ∈ s.handlerCalls, ∃ row,
      s'.idempotencyKey? call.merchantId call.idempotencyKey = some row ∧
        row.requestHash = call.requestHash := by
    intro call hmem
    obtain ⟨row, hrow, hhash⟩ := hledger.called call hmem
    obtain ⟨row', hrow', hkept⟩ := hgrow _ _ row hrow
    exact ⟨row', hrow', hkept.requestHash.trans hhash⟩
  have hsucceeded : ∀ call ∈ s.handlerSuccesses, ∃ row,
      s'.idempotencyKey? call.merchantId call.idempotencyKey = some row ∧ row.Settled := by
    intro call hmem
    obtain ⟨row, hrow, hsettled⟩ := hledger.succeeded call hmem
    obtain ⟨row', hrow', hkept⟩ := hgrow _ _ row hrow
    exact ⟨row', hrow', hkept.settled hsettled⟩
  rcases h with hsame | ⟨call, hran⟩
  · refine ⟨?_, ?_, ?_⟩
    · rw [hsame.calls]
      exact hcalled
    · rw [hsame.successes]
      exact hsucceeded
    · rw [hsame.successes]
      exact hledger.once
  · obtain ⟨row, hrow, hhash, hsettled⟩ := hran.settled
    refine ⟨?_, ?_, ?_⟩
    · intro earlier hmem
      rw [hran.calls, List.mem_append, List.mem_singleton] at hmem
      rcases hmem with hmem | rfl
      · exact hcalled earlier hmem
      · exact ⟨row, hrow, hhash⟩
    · intro earlier hmem
      rcases hran.successes with hnone | hone
      · rw [hnone] at hmem
        exact hsucceeded earlier hmem
      · rw [hone, List.mem_append, List.mem_singleton] at hmem
        rcases hmem with hmem | rfl
        · exact hsucceeded earlier hmem
        · exact ⟨row, hrow, hsettled⟩
    · intro m key
      rcases hran.successes with hnone | hone
      · rw [hnone]
        exact hledger.once m key
      · rw [hone, List.countP_append, List.countP_singleton]
        split
        · rename_i hunder
          have hkey : call.merchantId = m ∧ call.idempotencyKey = key := by
            simpa [HandlerCall.isUnder] using hunder
          have hzero := hledger.not_succeeded hran
          rw [hkey.1, hkey.2] at hzero
          omega
        · exact hledger.once m key

theorem KeyLedger.of_run {labels : List Operation} (hrun : Run (Step rt LeavesKeys) s labels s')
    (h : KeyLedger s) : KeyLedger s' := by
  refine Run.invariant ?_ hrun h
  intro s₁ op s₂ hledger hstep
  exact hledger.step (hstep.keysGrow fun _ _ hleaves => hleaves.idempotencyKeys)
    (hstep.handlers fun _ _ hleaves => hleaves)

/-! ## Replays of `execute` -/

/-- The call finds its key settled for its own hash. -/
def Replays (rt : Runtime) (args : ExecuteArgs) (s : Store) (r : ToolExecutionResult) : Prop :=
  ∃ request row, admitRequest rt s args = .ok request ∧ s.keyOf request = some row ∧
    row.requestHash = request.requestHash ∧
    row.replayDecision args.approvedExecution = .replay r

/-- A replayed result says so. -/
theorem replayed_of_replayDecision {row : IdempotencyKey} {approvedExecution : Bool}
    {r : ToolExecutionResult} (h : row.replayDecision approvedExecution = .replay r) :
    r.replayed = true := by
  unfold IdempotencyKey.replayDecision at h
  split at h
  · obtain rfl := ReplayDecision.replay.inj h
    rfl
  · cases h
  · split at h
    · cases h
    · split at h
      · obtain rfl := ReplayDecision.replay.inj h
        rfl
      · cases h
  · obtain rfl := ReplayDecision.replay.inj h
    rfl
  · cases h

/-- A replay returns what is stored and writes nothing. -/
theorem run_execute_of_replays (svc : ToolExecutionService) (caller : Caller)
    {r : ToolExecutionResult} (h : Replays rt args s r) :
    (execute rt svc caller args).run s = (.ok r, s) := by
  obtain ⟨request, row, hadmits, hkey, hhash, hdecision⟩ := h
  have hadmitted := admitted_of_ok hadmits
  obtain rfl := hadmitted.args_eq
  unfold execute
  rw [Session.run_get_bind, Session.run_ofExcept_bind, hadmits]
  dsimp only
  unfold Store.keyOf at hkey
  unfold beginIdempotentOperation
  rw [Session.run_bind, Session.run_get_bind, hkey]
  dsimp only
  rw [if_neg (not_not.mpr hhash)]
  unfold resumeRequest
  dsimp only [Session.run_pure]
  rw [if_pos rfl, hdecision]
  rfl

/-- A result that `execute` has not stamped with its tool call and its key yet. -/
structure ToolExecutionResult.IsFresh (r : ToolExecutionResult) : Prop where
  replayed : r.replayed = false
  toolCallId : r.toolCallId = none
  idempotencyKey : r.idempotencyKey = none

/-- What a run returns is no replay, and carries neither its tool call nor its key. -/
theorem returns_fresh_runAfterIdempotency (rt : Runtime) (svc : ToolExecutionService)
    (caller : Caller) (request : ToolRequest) :
    Session.Returns ToolExecutionResult.IsFresh
      (runAfterIdempotency rt svc caller request) := by
  refine .bind fun s => .bind fun verdict => .bind fun _ => ?_
  split
  · exact .raise _
  · exact .bind fun _ => .bind fun _ => .pure ⟨rfl, rfl, rfl⟩
  · exact .bind fun _ => .bind fun _ => .bind fun _ => .bind fun _ => .pure ⟨rfl, rfl, rfl⟩
  · refine .bind fun _ => .bind fun actionId => .bind fun handled => .bind fun _ => ?_
    split
    · unfold reportSuccess
      refine .bind fun _ => ?_
      split
      · exact .bind fun _ => .pure ⟨rfl, rfl, rfl⟩
      · exact .pure ⟨rfl, rfl, rfl⟩
    · exact .bind fun _ => .bind fun _ => .pure ⟨rfl, rfl, rfl⟩

theorem returns_runAfterIdempotency (rt : Runtime) (svc : ToolExecutionService)
    (caller : Caller) (request : ToolRequest) :
    Session.Returns (·.replayed = false) (runAfterIdempotency rt svc caller request) :=
  fun s r s' hran =>
    (returns_fresh_runAfterIdempotency rt svc caller request s r s' hran).replayed

theorem returns_executeRequest (rt : Runtime) (svc : ToolExecutionService)
    (caller : Caller) (request : ToolRequest) :
    Session.Returns (·.replayed = false) (executeRequest rt svc caller request) := by
  have hrun := returns_runAfterIdempotency rt svc caller request
  exact .bind fun toolCallId => .bind_of (hrun.onError _) fun result hresult =>
    .bind fun _ => .bind fun _ => .pure hresult

/-- A result that says it was replayed was. -/
theorem replays_of_replayed {r : ToolExecutionResult}
    (h : ((execute rt svc caller args).run s).1 = .ok r) (hr : r.replayed = true) :
    Replays rt args s r := by
  -- a request that ran returned no replay
  have hfresh : ∀ {request s₀}, ((executeRequest rt svc caller request).run s₀).1 ≠ .ok r := by
    intro request s₀ hran
    have hreturns := returns_executeRequest rt svc caller request
    have hnot := hreturns s₀ r ((executeRequest rt svc caller request).run s₀).2
      (Prod.ext hran rfl)
    rw [hnot] at hr
    cases hr
  unfold execute at h
  rw [Session.run_get_bind, Session.run_ofExcept_bind] at h
  cases hadmits : admitRequest rt s args with
  | error f =>
    rw [hadmits] at h
    cases h
  | ok request =>
    have hadmitted := admitted_of_ok hadmits
    obtain rfl := hadmitted.args_eq
    rw [hadmits] at h
    dsimp only at h
    unfold beginIdempotentOperation at h
    rw [Session.run_bind, Session.run_get_bind] at h
    cases hkey : s.keyOf request with
    | none =>
      unfold Store.keyOf at hkey
      rw [hkey] at h
      exact absurd h hfresh
    | some row =>
      have hfound := hkey
      unfold Store.keyOf at hfound
      rw [hfound] at h
      dsimp only at h
      by_cases hhash : row.requestHash ≠ request.requestHash
      · rw [if_pos hhash] at h
        cases h
      · rw [if_neg hhash] at h
        have hmatch : row.requestHash = request.requestHash := not_not.mp hhash
        unfold resumeRequest at h
        dsimp only [Session.run_pure] at h
        rw [if_pos rfl] at h
        cases hdecision : row.replayDecision request.args.approvedExecution with
        | replay result =>
          rw [hdecision] at h
          obtain rfl := Except.ok.inj h
          exact ⟨request, row, hadmits, hkey, hmatch, hdecision⟩
        | busy =>
          rw [hdecision] at h
          cases h
        | proceed =>
          rw [hdecision] at h
          exact absurd h hfresh

/-! ## What a replay leaves alone -/

/-- The rows that a side effect would change are the same, and no handler was entered. -/
structure SameRows (s s' : Store) : Prop where
  actions : s'.actions = s.actions
  payments : s'.payments = s.payments
  notifications : s'.notifications = s.notifications
  carts : s'.carts = s.carts
  cases : s'.cases = s.cases
  calls : s'.handlerCalls = s.handlerCalls

/-- When the call replays, it changes no row and reaches no handler. -/
def ReplayKeepsRows (m : Service ToolExecutionResult) (s : Store) : Prop :=
  ∀ r, (m.run s).1 = .ok r → r.replayed = true → SameRows s (committed m s)

theorem execute_replayKeepsRows (rt : Runtime) (svc : ToolExecutionService) (caller : Caller)
    (args : ExecuteArgs) (s : Store) : ReplayKeepsRows (execute rt svc caller args) s := by
  intro r hran hreplayed
  have hrun := run_execute_of_replays svc caller (replays_of_replayed hran hreplayed)
  rw [committed_ok hrun]
  exact ⟨rfl, rfl, rfl, rfl, rfl, rfl⟩

/-- The request of an approved action replays, and the action was not approved before. -/
def ReplaysUnapproved (rt : Runtime) (caller : Caller) (args : DecisionArgs) (s : Store) :
    Prop :=
  ∃ d r, loadDecision s args = .ok d ∧ Grantable caller d ∧
    Replays rt (approvedExecution d) s r ∧ d.action.status ≠ .approved

/-- Granting an approval does not change what its request is told. -/
theorem replays_granted {d : Decision} {s₀ : Store} (h : Recorded (s.granted caller d) s₀)
    {args : ExecuteArgs} {r : ToolExecutionResult} :
    Replays rt args s₀ r ↔ Replays rt args s r := by
  have hadmits : admitRequest rt s₀ args = admitRequest rt s args := by
    refine admitRequest_congr h.cases ?_ ?_ h.payments
    · rw [h]
      rfl
    · rw [h]
      rfl
  have hkey : ∀ request, s₀.keyOf request = s.keyOf request := by
    intro request
    unfold Store.keyOf Store.idempotencyKey?
    rw [h.idempotencyKeys]
    rfl
  unfold Replays
  simp only [hadmits, hkey]

/-- The end of a replayed approval: granted, and nothing else. -/
theorem approve_of_replays (svc : ToolExecutionService) {args : DecisionArgs} {d : Decision}
    {r : ToolExecutionResult}
    (hload : loadDecision s args = .ok d) (hgrantable : Grantable caller d)
    (hreplays : Replays rt (approvedExecution d) s r) :
    ∃ s₀, Recorded (s.granted caller d) s₀ ∧
      (approveAction rt svc caller args).run s = (.ok r, s₀) := by
  obtain ⟨s₀, hmark, hrecorded⟩ := markApproved_run caller d s
  refine ⟨s₀, hrecorded, ?_⟩
  rw [run_approveAction rt svc hload hgrantable hmark]
  exact run_execute_of_replays svc caller ((replays_granted hrecorded).mpr hreplays)

/-- A replay of `approve_action` leaves the rows alone exactly when the action it marks was
approved before. -/
theorem approve_replayKeepsRows_iff (rt : Runtime) (svc : ToolExecutionService)
    (caller : Caller) (args : DecisionArgs) (s : Store) :
    ReplayKeepsRows (approveAction rt svc caller args) s ↔
      ¬ ReplaysUnapproved rt caller args s := by
  constructor
  · rintro hkeeps ⟨d, r, hload, hgrantable, hreplays, hunapproved⟩
    obtain ⟨s₀, hrecorded, hrun⟩ :=
      approve_of_replays svc hload hgrantable hreplays
    have hreplayed : r.replayed = true := by
      obtain ⟨request, row, -, -, -, hdecision⟩ := hreplays
      exact replayed_of_replayDecision hdecision
    have hsame := hkeeps r (by rw [hrun]) hreplayed
    rw [committed_ok hrun] at hsame
    -- the row of the action tells the two stores apart
    have hbefore := (loaded_of_loadDecision hload).action
    have hafter : s₀.actions.get? args.actionId =
        some { d.action with status := .approved } := by
      have hargs := (loaded_of_loadDecision hload).args_eq
      rw [hrecorded.actions]
      unfold Store.granted
      dsimp only
      rw [hargs, Table.get?_modify_self, hbefore]
      rfl
    rw [hsame.actions, hbefore] at hafter
    have hstatus := congrArg RecoveryAction.status (Option.some.inj hafter)
    exact hunapproved hstatus
  · intro happroved r hran hreplayed
    obtain ⟨d, hload, hgrantable⟩ := granted_of_approveAction_ok hran
    obtain ⟨s₁, hmark₁, hrecorded₁⟩ := markApproved_run caller d s
    rw [run_approveAction rt svc hload hgrantable hmark₁] at hran
    have hreplays := (replays_granted hrecorded₁).mp (replays_of_replayed hran hreplayed)
    obtain ⟨s₀, hrecorded, hrun⟩ :=
      approve_of_replays svc hload hgrantable hreplays
    have hstatus : d.action.status = .approved := by
      by_contra hunapproved
      exact happroved ⟨d, r, hload, hgrantable, hreplays, hunapproved⟩
    have hactions : s₀.actions = s.actions := by
      have hargs := (loaded_of_loadDecision hload).args_eq
      rw [hrecorded.actions]
      unfold Store.granted
      dsimp only
      rw [hargs]
      refine Table.modify_eq_self (loaded_of_loadDecision hload).action ?_
      rw [← hstatus]
    rw [committed_ok hrun]
    refine ⟨hactions, hrecorded.payments, ?_, ?_, hrecorded.cases, ?_⟩
    · rw [hrecorded]
      rfl
    · rw [hrecorded]
      rfl
    · have hgranted : SameHandlers s s₀ := .of_trace hrecorded.trace rfl rfl
      exact hgranted.calls

/-- Over every run from an empty history: at most one success for a key, one request for a
key, and no replay that leaves a trace in the rows, but for the approvals that replay for
an action that was not approved before. -/
theorem atMostOnce_run {labels : List Operation} (hstart : s.trace = [])
    (hrun : Run (Step rt LeavesKeys) s labels s') :
    (∀ m key, s'.handlerSuccesses.countP (·.isUnder m key) ≤ 1) ∧
    (∀ m key, ∀ call₁ ∈ s'.handlerCalls, ∀ call₂ ∈ s'.handlerCalls,
      call₁.isUnder m key = true → call₂.isUnder m key = true →
        call₁.requestHash = call₂.requestHash) ∧
    (∀ svc caller args, ReplayKeepsRows (execute rt svc caller args) s') ∧
    (∀ svc caller args, ReplayKeepsRows (approveAction rt svc caller args) s' ↔
      ¬ ReplaysUnapproved rt caller args s') := by
  have hledger : KeyLedger s' := .of_run hrun (.of_empty hstart)
  refine ⟨hledger.once, ?_, ?_, ?_⟩
  · intro m key call₁ hmem₁ call₂ hmem₂ hunder₁ hunder₂
    obtain ⟨row₁, hrow₁, hhash₁⟩ := hledger.called call₁ hmem₁
    obtain ⟨row₂, hrow₂, hhash₂⟩ := hledger.called call₂ hmem₂
    have hkey₁ : call₁.merchantId = m ∧ call₁.idempotencyKey = key := by
      simpa [HandlerCall.isUnder] using hunder₁
    have hkey₂ : call₂.merchantId = m ∧ call₂.idempotencyKey = key := by
      simpa [HandlerCall.isUnder] using hunder₂
    rw [hkey₁.1, hkey₁.2] at hrow₁
    rw [hkey₂.1, hkey₂.2] at hrow₂
    obtain rfl := Option.some.inj (hrow₁.symm.trans hrow₂)
    rw [← hhash₁, ← hhash₂]
  · exact fun svc caller args => execute_replayKeepsRows rt svc caller args s'
  · exact fun svc caller args => approve_replayKeepsRows_iff rt svc caller args s'

/-! ### An action row under two keys -/

/-- An operator at noon, outside the quiet hours. -/
def noonCaller : Caller where
  now := 12 * hour

/-- A case of ₹6000 at the policy check: its automatic actions need an approval. -/
def mediumValueStore : Store where
  merchants := ⟨[{}]⟩
  customers := ⟨[{ merchantId := 0 }]⟩
  payments := ⟨[{ merchantId := 0, customerId := 0, amount := 600000, status := .failed }]⟩
  cases := ⟨[sampleCase 0 600000 .policyCheck]⟩

/-- A reminder for the case under a key, on an action row. -/
def reminderUnder (key : String) (existingActionId : Option ℕ) : ExecuteArgs where
  caseId := 0
  toolName := some "send_notification"
  idempotencyKey := key
  existingActionId := existingActionId

/-- The decision about the action row. -/
def firstAction : DecisionArgs where
  caseId := 0
  actionId := 0

/-- The reminder waits for its approval. -/
def parkedStore : Store :=
  committed (execute sampleRuntime sampleService noonCaller (reminderUnder "first" none))
    mediumValueStore

/-- The reminder was approved and sent. -/
def remindedStore : Store :=
  committed (approveAction sampleRuntime sampleService noonCaller firstAction) parkedStore

/-- Its row waits for an approval again, under another key. -/
def reparkedStore : Store :=
  committed (execute sampleRuntime sampleService noonCaller (reminderUnder "second" (some 0)))
    remindedStore

/-- The three calls. -/
def reparkingCalls : List Operation :=
  [.execute sampleService noonCaller (reminderUnder "first" none),
    .approve sampleService noonCaller firstAction,
    .execute sampleService noonCaller (reminderUnder "second" (some 0))]

theorem run_reparkedStore :
    Run (Step sampleRuntime LeavesKeys) mediumValueStore reparkingCalls reparkedStore := by
  have hparked : Run (Step sampleRuntime LeavesKeys) mediumValueStore
      [.execute sampleService noonCaller (reminderUnder "first" none)] parkedStore :=
    .single rfl
  have hreminded : Step sampleRuntime LeavesKeys parkedStore
      (.approve sampleService noonCaller firstAction) remindedStore := rfl
  have hreparked : Step sampleRuntime LeavesKeys remindedStore
      (.execute sampleService noonCaller (reminderUnder "second" (some 0))) reparkedStore := rfl
  exact (hparked.snoc hreminded).snoc hreparked

/-- Approving the row again replays the first key, and the row says that it is approved. -/
theorem reparked_not_replayKeepsRows :
    Run (Step sampleRuntime LeavesKeys) mediumValueStore reparkingCalls reparkedStore ∧
      ¬ ReplayKeepsRows (approveAction sampleRuntime sampleService noonCaller firstAction)
        reparkedStore := by
  refine ⟨run_reparkedStore, ?_⟩
  intro hkeeps
  have hreplayed : (match ((approveAction sampleRuntime sampleService noonCaller
        firstAction).run reparkedStore).1 with
      | .ok r => r.replayed
      | .error _ => false) = true := by decide +kernel
  have hmoved : ((committed (approveAction sampleRuntime sampleService noonCaller firstAction)
        reparkedStore).actions.get? 0).map (·.status) ≠
      (reparkedStore.actions.get? 0).map (·.status) := by decide +kernel
  cases hran : ((approveAction sampleRuntime sampleService noonCaller firstAction).run
      reparkedStore).1 with
  | error f =>
    rw [hran] at hreplayed
    cases hreplayed
  | ok r =>
    rw [hran] at hreplayed
    have hsame := hkeeps r hran hreplayed
    exact hmoved (by rw [hsame.actions])

/-- The reminder was sent once. -/
theorem atMostOnce_reminded :
    reparkedStore.handlerSuccesses.countP (·.isUnder 0 "first") ≤ 1 :=
  (atMostOnce_run rfl run_reparkedStore).1 0 "first"

end ReviveX
