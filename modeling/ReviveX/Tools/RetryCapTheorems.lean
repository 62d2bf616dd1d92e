import ReviveX.Domain.VerdictTheorems
import ReviveX.Tools.FinalityTheorems
import ReviveX.Tools.LifecycleFrame

/-!
# The retry cap over runs

The cap counts action rows, the successful retries are in the history. The two agree as
long as every successful retry keeps an action row of its own (`RetryLedger`): of its case,
of a retry type, and `SUCCEEDED`. `RetriesOnOwnRows` names the calls that respect this.
-/

namespace ReviveX

open Lib (Guarded Run Session Table)

variable {rt : Runtime} {svc : ToolExecutionService} {caller : Caller} {now : Time}
  {request : ToolRequest} {s s' s'' : Store} {args : ExecuteArgs} {caseId : ℕ}

/-! ## Retries in the history -/

/-- The call retried a payment for the case. -/
def HandlerCall.isRetryOf (caseId : ℕ) (call : HandlerCall) : Bool :=
  call.caseId = caseId && call.toolName = .retryPayment

/-- The successful retries of a case. -/
def Store.retriesOf (s : Store) (caseId : ℕ) : List HandlerCall :=
  s.handlerSuccesses.filter (·.isRetryOf caseId)

/-- A retry has succeeded on the action row. -/
def Store.RetriedRow (s : Store) (i : ℕ) : Prop :=
  ∃ call ∈ s.handlerSuccesses, call.toolName = .retryPayment ∧ call.actionId = some i

theorem retriesOf_append (caseId : ℕ) {call : HandlerCall}
    (h : s'.handlerSuccesses = s.handlerSuccesses ++ [call]) :
    s'.retriesOf caseId =
      s.retriesOf caseId ++ if call.isRetryOf caseId then [call] else [] := by
  unfold Store.retriesOf
  rw [h, List.filter_append, List.filter_singleton, cond_eq_ite]

theorem retriesOf_eq (h : s'.handlerSuccesses = s.handlerSuccesses) :
    s'.retriesOf caseId = s.retriesOf caseId := by
  unfold Store.retriesOf
  rw [h]

/-- The row accounts for a successful retry of the case. -/
def RecoveryAction.AccountsFor (a : RecoveryAction) (caseId : ℕ) : Prop :=
  a.recoveryCaseId = caseId ∧ retryActions.contains a.actionType = true ∧ a.status = .succeeded

/-- Every successful retry has an action row of its own. -/
structure RetryLedger (s : Store) : Prop where
  rows : ∀ call ∈ s.handlerSuccesses, call.toolName = .retryPayment →
    ∃ i a, call.actionId = some i ∧ s.actions.get? i = some a ∧ a.AccountsFor call.caseId
  distinct : ∀ caseId, ((s.retriesOf caseId).map (·.actionId)).Nodup

/-- The policy engine counts at least the successful retries. -/
theorem RetryLedger.length_le (h : RetryLedger s) (caseId : ℕ) :
    (s.retriesOf caseId).length ≤ s.retryCount caseId := by
  have hrow : ∀ call ∈ s.retriesOf caseId, ∃ i a, call.actionId = some i ∧
      s.actions.get? i = some a ∧ a.AccountsFor caseId := by
    intro call hmem
    obtain ⟨hsuccess, hretry⟩ := List.mem_filter.mp hmem
    have hcall : call.caseId = caseId ∧ call.toolName = .retryPayment := by
      simpa [HandlerCall.isRetryOf] using hretry
    obtain ⟨i, a, hid, ha, haccounts⟩ := h.rows call hsuccess hcall.2
    exact ⟨i, a, hid, ha, hcall.1 ▸ haccounts⟩
  -- the identifiers of the rows, without the option
  have hids : ((s.retriesOf caseId).map fun call => call.actionId.getD 0).Nodup := by
    have hmap := h.distinct caseId
    rw [List.Nodup, List.pairwise_map] at hmap ⊢
    refine hmap.imp_of_mem fun hmem hmem' hne heq => ?_
    obtain ⟨i, -, hid, -⟩ := hrow _ hmem
    obtain ⟨i', -, hid', -⟩ := hrow _ hmem'
    rw [hid, hid', Option.getD_some, Option.getD_some] at heq
    exact hne (by rw [hid, hid', heq])
  have hcounted : ∀ i ∈ (s.retriesOf caseId).map fun call => call.actionId.getD 0,
      ∃ a, s.actions.get? i = some a ∧
        (a.recoveryCaseId = caseId &&
          [RecoveryActionType.retryNow, .retryLater].contains a.actionType &&
          [RecoveryActionStatus.pending, .planned, .approvalRequired, .approved, .executing,
            .succeeded, .completed].contains a.status) = true := by
    intro i hmem
    obtain ⟨call, hcall, rfl⟩ := List.mem_map.mp hmem
    obtain ⟨i, a, hid, ha, hcase, htype, hstatus⟩ := hrow call hcall
    rw [hid]
    refine ⟨a, ha, ?_⟩
    rw [hstatus, hcase]
    have htype' : [RecoveryActionType.retryNow, .retryLater].contains a.actionType = true := htype
    rw [htype']
    simp
  have hle := Table.length_le_count hids hcounted
  rw [List.length_map] at hle
  exact hle

/-! ## The cap -/

/-- The successful retries of the case stay below the cap that its merchant is evaluated
with. -/
structure RetryBound (cfg : Config) (s : Store) (caseId : ℕ) : Prop where
  capped : ∀ c merchant merged, s.cases.get? caseId = some c →
    s.merchants.get? c.merchantId = some merchant →
    cfg.settings.mergeMerchant cfg.py merchant.settings = .ok merged →
      (s.retriesOf caseId).length ≤ merged.maxRetryAttempts.toNat
  absent : s.cases.get? caseId = none → s.retriesOf caseId = []

/-- The case keeps its merchant. -/
def RecoveryCase.SameMerchant (c c' : RecoveryCase) : Prop := c'.merchantId = c.merchantId

theorem sameMerchant_frame : VerificationFrame (CasesKept RecoveryCase.SameMerchant) :=
  .of_rows (fun _ => rfl) (fun _ _ _ h h' => h'.trans h) (fun _ _ _ _ => rfl)
    fun _ _ h => h.merchantId

/-- A bound carries over to a store with the same retries. -/
theorem RetryBound.of_same {cfg : Config} (h : RetryBound cfg s caseId)
    (hmerchants : s'.merchants = s.merchants)
    (hcases : CasesKept RecoveryCase.SameMerchant s s')
    (hretries : s'.retriesOf caseId = s.retriesOf caseId) : RetryBound cfg s' caseId := by
  cases hrow : s.cases.get? caseId with
  | none =>
    have hnone := h.absent hrow
    refine ⟨fun c merchant merged _ _ _ => ?_, fun _ => ?_⟩
    · rw [hretries, hnone]
      exact Nat.zero_le _
    · rw [hretries, hnone]
  | some c₀ =>
    obtain ⟨c₁, hc₁, hsame⟩ := hcases caseId c₀ hrow
    refine ⟨fun c merchant merged hc hmerchant hmerged => ?_, fun hnone => ?_⟩
    · obtain rfl := Option.some.inj (hc₁.symm.trans hc)
      rw [hmerchants, hsame] at hmerchant
      rw [hretries]
      exact h.capped c₀ merchant merged hrow hmerchant hmerged
    · exact absurd (hc₁.symm.trans hnone) (by simp)

/-! ## Calls that keep the ledger -/

/-- The tool that the arguments name. -/
def ExecuteArgs.tool (args : ExecuteArgs) : Except Failure ToolName :=
  resolveTool args.toolName args.action

/-- The call leaves the rows of earlier retries alone, and a retry that writes on an
existing row finds a retry of its own case there. -/
structure ExecuteArgs.RetriesOnOwnRow (rt : Runtime) (svc : ToolExecutionService)
    (caller : Caller) (s : Store) (args : ExecuteArgs) : Prop where
  spares : ∀ i, Rewrites rt svc caller args s i → ¬ s.RetriedRow i
  own : args.tool = .ok .retryPayment → ∀ i a, Rewrites rt svc caller args s i →
    s.actions.get? i = some a →
      a.recoveryCaseId = args.caseId ∧ retryActions.contains a.actionType = true

/-- The calls under settings that keep the ledger. -/
def RetriesOnOwnRows (rt : Runtime) (settings : RecoverySettings) (s : Store) :
    Operation → Prop
  | .execute svc caller args =>
    svc.settings = settings ∧ args.RetriesOnOwnRow rt svc caller s
  | .approve svc _ args =>
    svc.settings = settings ∧ ∀ d, loadDecision s args = .ok d →
      (approvedExecution d).tool = .ok .retryPayment →
        d.action.recoveryCaseId = args.caseId ∧
          retryActions.contains d.action.actionType = true
  | .reject _ args | .cancel _ args =>
    ∀ d, loadDecision s args = .ok d → ¬ s.RetriedRow args.actionId
  | _ => True

/-- The ledger when the history stays and the rows of its retries do. -/
theorem RetryLedger.of_kept (h : RetryLedger s)
    (hsuccesses : s'.handlerSuccesses = s.handlerSuccesses)
    (hrows : ∀ i a, s.RetriedRow i → s.actions.get? i = some a → a.status = .succeeded →
      ∃ a', s'.actions.get? i = some a' ∧ a'.recoveryCaseId = a.recoveryCaseId ∧
        a'.actionType = a.actionType ∧ a'.status = .succeeded) : RetryLedger s' where
  rows call hmem hretry := by
    rw [hsuccesses] at hmem
    obtain ⟨i, a, hid, ha, hcase, htype, hstatus⟩ := h.rows call hmem hretry
    obtain ⟨a', ha', hcase', htype', hstatus'⟩ := hrows i a ⟨call, hmem, hretry, hid⟩ ha hstatus
    refine ⟨i, a', hid, ha', hcase'.trans hcase, ?_, hstatus'⟩
    rw [htype']
    exact htype
  distinct caseId := by
    rw [retriesOf_eq hsuccesses]
    exact h.distinct caseId

/-- The row that an execution of an action has written when its handler returned. -/
theorem handledActions_get? (s : Store) {action : RecoveryActionType} (riskLevel : RiskLevel)
    (handled : HandlerResult) (now : Time) (haction : actionForTool request.tool = some action) :
    ∃ a, (s.handledActions request riskLevel handled now).get? (s.upsertId request) = some a ∧
      a.status = (if handled.success then .succeeded else .failed) ∧
      ((∃ a₀, s.actions.get? (s.upsertId request) = some a₀ ∧
        s.existingAction request.case.merchantId request.args.idempotencyKey
          request.args.existingActionId = some (s.upsertId request) ∧
        a.recoveryCaseId = a₀.recoveryCaseId ∧ a.actionType = a₀.actionType) ∨
      (s.upsertId request = s.actions.nextId ∧
        a.recoveryCaseId = request.args.caseId ∧ a.actionType = action)) := by
  obtain ⟨a, ha, hrow⟩ := handledActions_row s riskLevel handled now haction
  refine ⟨_, ha, rfl, ?_⟩
  rcases hrow with ⟨a₀, ha₀, hfound, rfl⟩ | ⟨hnew, rfl⟩
  · exact .inl ⟨a₀, ha₀, hfound, rfl, rfl⟩
  · exact .inr ⟨hnew, rfl, rfl⟩

/-- What a request that was admitted runs. -/
theorem Admitted.tool_eq (h : Admitted rt s args request) : args.tool = .ok request.tool :=
  h.resolved

/-- A retry runs below the cap. -/
theorem retries_lt_cap {row : RecoveryCase} {verdict : ToolVerdict} {merchant : Merchant}
    {merged : RecoverySettings} (hledger : RetryLedger s)
    (hadmits : admitRequest rt s args = .ok request) (hrow : s.cases.get? args.caseId = some row)
    (hmerchant : s.merchants.get? row.merchantId = some merchant)
    (hmerged : svc.settings.mergeMerchant rt.py merchant.settings = .ok merged)
    (hjudged : judgeTool rt svc now s request = .ok verdict)
    (hbranch : toolBranch request verdict.evaluation = .run)
    (htool : request.tool = .retryPayment) :
    (s.retriesOf args.caseId).length + 1 ≤ merged.maxRetryAttempts.toNat := by
  have hadmitted := admitted_of_ok hadmits
  have haction : actionForTool request.tool = some .retryNow := by
    rw [htool]
    rfl
  have hallowed := (toolBranch_run hbranch haction).1
  obtain rfl := Option.some.inj (hadmitted.row.symm.trans hrow)
  obtain ⟨merchant', proposed, hverdict⟩ := judged_of_judgeTool haction hjudged
  have hcontext := hverdict.context
  have hmerchant' := hcontext.merchantRow
  obtain rfl := Option.some.inj (hmerchant'.symm.trans hmerchant)
  obtain rfl := Except.ok.inj (hcontext.merged.symm.trans hmerged)
  have hbelow := retryCount_lt_of_allowed hverdict.evaluated hverdict.action_eq (by decide)
    hallowed
  have hcounted := hledger.length_le args.caseId
  rw [hcontext.retryCount, hadmitted.args_eq] at hbelow
  omega

/-- The history after an execution: what it was, or one more success. -/
theorem Executed.successes (h : Executed rt svc caller args s s') :
    s'.handlerSuccesses = s.handlerSuccesses ∨
      ∃ request row verdict c handled r toolCallId, admitRequest rt s args = .ok request ∧
        HoldsKey s request caller.now row ∧
        Handling rt svc caller request s verdict c handled s' ∧ handled.success = true ∧
        SameTools
          { s with
            actions := s.handledActions request verdict.evaluation.riskLevel handled caller.now
            idempotencyKeys := s.keysWith request (row.finish caller.now r toolCallId)
            notifications := s'.notifications
            trace := s.trace ++ s.handlingEvents caller request verdict c handled } s' ∧
        s'.handlerSuccesses =
          s.handlerSuccesses ++ [s.handlerCall caller request verdict c] := by
  cases h with
  | idle => exact .inl rfl
  | refused hadmits hholds happrovals hsame =>
    exact .inl (SameHandlers.of_eq hsame.trace).successes
  | blocked hadmits hholds hjudged hbranch hstatus hsame =>
    exact .inl (SameHandlers.of_eq hsame.trace).successes
  | parked hadmits hholds hjudged hbranch hstatus hsame =>
    exact .inl (SameHandlers.of_trace hsame.trace rfl rfl).successes
  | @handled request row verdict c handled r toolCallId _ hadmits hholds hhandling hstatus
      hsame =>
    have hsuccesses := successes_of_handling hsame.trace
    cases hsuccess : handled.success with
    | false =>
      rw [hsuccess] at hsuccesses
      exact .inl (hsuccesses.trans (List.append_nil _))
    | true =>
      rw [hsuccess] at hsuccesses
      exact .inr ⟨request, row, verdict, c, handled, r, toolCallId, hadmits, hholds, hhandling,
        hsuccess, hsame, hsuccesses⟩

theorem Executed.merchants (h : Executed rt svc caller args s s') :
    s'.merchants = s.merchants := by
  cases h with
  | idle => rfl
  | refused hadmits hholds happrovals hsame => exact hsame.merchants
  | blocked hadmits hholds hjudged hbranch hstatus hsame => exact hsame.merchants
  | parked hadmits hholds hjudged hbranch hstatus hsame => exact hsame.merchants
  | handled hadmits hholds hhandling hstatus hsame => exact hsame.merchants

/-- The rows of earlier retries are not the row of this one. -/
theorem upsertId_not_retried (hledger : RetryLedger s)
    (hspares : ∀ i, Rewrites rt svc caller args s i → ¬ s.RetriedRow i)
    {row : IdempotencyKey} {verdict : ToolVerdict} {c : RecoveryCase} {handled : HandlerResult}
    (hadmits : admitRequest rt s args = .ok request) (hholds : HoldsKey s request caller.now row)
    (hhandling : Handling rt svc caller request s verdict c handled s')
    (haction : (actionForTool request.tool).isSome = true) :
    ¬ s.RetriedRow (s.upsertId request) := by
  intro hretried
  obtain ⟨call, hmem, hretry, hid⟩ := hretried
  obtain ⟨i, a, hid', ha, -⟩ := hledger.rows call hmem hretry
  obtain rfl := Option.some.inj (hid.symm.trans hid')
  by_cases hfound : s.existingAction request.case.merchantId request.args.idempotencyKey
      request.args.existingActionId = some (s.upsertId request)
  · refine hspares _ ⟨request, row, verdict, hadmits, hholds, hhandling.judged, haction, ?_,
      fun _ => hhandling.usable, hfound⟩ ⟨call, hmem, hretry, hid⟩
    rw [hhandling.branch]
    simp
  · have hkept := upserted_get?_of_some ha hfound .retryNow (startingWrite request .green)
      caller.now
    exact hkept.1 rfl

/-- The row of a successful retry accounts for it. -/
theorem handled_accountsFor (hown : args.RetriesOnOwnRow rt svc caller s)
    {row : IdempotencyKey} {verdict : ToolVerdict} {c : RecoveryCase} {handled : HandlerResult}
    (hadmits : admitRequest rt s args = .ok request) (hholds : HoldsKey s request caller.now row)
    (hhandling : Handling rt svc caller request s verdict c handled s')
    (htool : request.tool = .retryPayment) (hsuccess : handled.success = true) :
    ∃ a, (s.handledActions request verdict.evaluation.riskLevel handled caller.now).get?
        (s.upsertId request) = some a ∧ a.AccountsFor request.args.caseId := by
  have hadmitted := admitted_of_ok hadmits
  have haction : actionForTool request.tool = some .retryNow := by
    rw [htool]
    rfl
  obtain ⟨a, ha, hstatus, hrow⟩ := handledActions_get? s verdict.evaluation.riskLevel handled
    caller.now haction
  rw [hsuccess, if_pos rfl] at hstatus
  refine ⟨a, ha, ?_⟩
  rcases hrow with ⟨a₀, ha₀, hfound, hcase, htype⟩ | ⟨-, hcase, htype⟩
  · have hrewrites : Rewrites rt svc caller args s (s.upsertId request) := by
      refine ⟨request, row, verdict, hadmits, hholds, hhandling.judged, ?_, ?_,
        fun _ => hhandling.usable, hfound⟩
      · rw [haction]
        rfl
      · rw [hhandling.branch]
        simp
    have hretry : args.tool = .ok .retryPayment := by
      rw [hadmitted.tool_eq, htool]
    obtain ⟨hcase₀, htype₀⟩ := hown.own hretry _ a₀ hrewrites ha₀
    exact ⟨by rw [hcase, hcase₀, hadmitted.args_eq], by rw [htype, htype₀], hstatus⟩
  · exact ⟨hcase, by rw [htype]; decide, hstatus⟩

theorem Executed.retryLedger (hledger : RetryLedger s)
    (hown : args.RetriesOnOwnRow rt svc caller s) (h : Executed rt svc caller args s s') :
    RetryLedger s' := by
  -- the call spares the rows that carry retries
  have hkept : ∀ i a, s.RetriedRow i → s.actions.get? i = some a →
      s'.actions.get? i = some a := by
    intro i a hretried ha
    exact h.action_kept ha fun hrewrites => hown.spares i hrewrites hretried
  rcases h.successes with hsame | ⟨request, row, verdict, c, handled, r, toolCallId, hadmits,
    hholds, hhandling, hsuccess, hsame, hsuccesses⟩
  · exact hledger.of_kept hsame fun i a hretried ha hstatus =>
      ⟨a, hkept i a hretried ha, rfl, rfl, hstatus⟩
  · have hactions : s'.actions = s.handledActions request verdict.evaluation.riskLevel handled
        caller.now := hsame.actions
    have hid : request.tool = .retryPayment →
        (s.handlerCall caller request verdict c).actionId = some (s.upsertId request) := by
      intro htool
      unfold Store.handlerCall handlerCall Store.startedId
      dsimp only
      rw [htool]
      rfl
    refine ⟨fun call hmem hretry => ?_, fun caseId => ?_⟩
    · rw [hsuccesses, List.mem_append, List.mem_singleton] at hmem
      rcases hmem with hmem | rfl
      · obtain ⟨i, a, hcall, ha, haccounts⟩ := hledger.rows call hmem hretry
        exact ⟨i, a, hcall, hkept i a ⟨call, hmem, hretry, hcall⟩ ha, haccounts⟩
      · obtain ⟨a, ha, haccounts⟩ :=
          handled_accountsFor hown hadmits hholds hhandling hretry hsuccess
        exact ⟨_, a, hid hretry, by rw [hactions, ha], haccounts⟩
    · have hdistinct := hledger.distinct caseId
      rw [retriesOf_append caseId hsuccesses]
      split
      · rename_i hretry
        have htool : request.tool = .retryPayment := by
          have hboth : (s.handlerCall caller request verdict c).caseId = caseId ∧
              (s.handlerCall caller request verdict c).toolName = .retryPayment := by
            simpa [HandlerCall.isRetryOf] using hretry
          exact hboth.2
        rw [List.map_append, List.map_singleton, hid htool]
        refine List.nodup_append.mpr ⟨hdistinct, List.nodup_singleton _, ?_⟩
        rintro _ hmem _ hlast rfl
        rw [List.mem_singleton] at hlast
        obtain ⟨call, hcall, hsame⟩ := List.mem_map.mp hmem
        obtain ⟨hcall, hearlier⟩ := List.mem_filter.mp hcall
        have hboth : call.caseId = caseId ∧ call.toolName = .retryPayment := by
          simpa [HandlerCall.isRetryOf] using hearlier
        -- the row of the new retry had none before
        refine upsertId_not_retried hledger hown.spares hadmits hholds hhandling ?_
          ⟨call, hcall, hboth.2, hsame.trans hlast⟩
        rw [htool]
        rfl
      · rw [List.append_nil]
        exact hdistinct

/-- One more retry succeeded only below the cap. -/
theorem Executed.retryBound {settings : RecoverySettings} (hsettings : svc.settings = settings)
    (hledger : RetryLedger s) (hcases : CasesKept RecoveryCase.SameMerchant s s')
    (hbound : RetryBound { settings, py := rt.py } s caseId)
    (h : Executed rt svc caller args s s') :
    RetryBound { settings, py := rt.py } s' caseId := by
  rcases h.successes with hsame | ⟨request, row, verdict, c, handled, r, toolCallId, hadmits,
    hholds, hhandling, hsuccess, hsame, hsuccesses⟩
  · exact hbound.of_same h.merchants hcases (retriesOf_eq hsame)
  · have hadmitted := admitted_of_ok hadmits
    have hretries := retriesOf_append caseId hsuccesses
    by_cases hretry : (s.handlerCall caller request verdict c).isRetryOf caseId = true
    · have hcall : (s.handlerCall caller request verdict c).caseId = caseId ∧
          (s.handlerCall caller request verdict c).toolName = .retryPayment := by
        simpa [HandlerCall.isRetryOf] using hretry
      have hboth : request.args.caseId = caseId ∧ request.tool = .retryPayment := hcall
      have hrow : s.cases.get? caseId = some request.case := by
        rw [← hboth.1, hadmitted.args_eq]
        exact hadmitted.row
      obtain ⟨c', hc', hmerchant'⟩ := hcases caseId request.case hrow
      refine ⟨fun c₁ merchant merged hc₁ hmerchant hmerged => ?_, fun hnone => ?_⟩
      · obtain rfl := Option.some.inj (hc'.symm.trans hc₁)
        rw [h.merchants, hmerchant'] at hmerchant
        subst hsettings
        have hcap := retries_lt_cap hledger hadmits hadmitted.row hmerchant hmerged
          hhandling.judged hhandling.branch hboth.2
        rw [← hadmitted.args_eq, hboth.1] at hcap
        rw [hretries, if_pos hretry, List.length_append]
        exact hcap
      · exact absurd (hc'.symm.trans hnone) (by simp)
    · refine hbound.of_same h.merchants hcases ?_
      rw [hretries, if_neg hretry, List.append_nil]

/-! ## Decisions -/

/-- An action that can be approved has not been retried on. -/
theorem approvable_not_retried (hledger : RetryLedger s) {i : ℕ} {a : RecoveryAction}
    (ha : s.actions.get? i = some a) (hopen : a.status ≠ .succeeded) : ¬ s.RetriedRow i := by
  rintro ⟨call, hmem, hretry, hid⟩
  obtain ⟨i', a', hid', ha', -, -, hstatus⟩ := hledger.rows call hmem hretry
  obtain rfl := Option.some.inj (hid.symm.trans hid')
  obtain rfl := Option.some.inj (ha.symm.trans ha')
  exact hopen hstatus

/-- Granting an approval keeps the ledger. -/
theorem granted_retryLedger {d : Decision} {dargs : DecisionArgs} {s₀ : Store}
    (hledger : RetryLedger s) (hload : Loaded s dargs d) (hgrantable : Grantable caller d)
    (hrecorded : Recorded (s.granted caller d) s₀) : RetryLedger s₀ := by
  have hgranted : SameHandlers s s₀ := .of_trace hrecorded.trace rfl rfl
  refine hledger.of_kept hgranted.successes fun i a _ ha hstatus => ?_
  refine ⟨a, ?_, rfl, rfl, hstatus⟩
  rw [hrecorded.actions]
  exact succeeded_kept hload (approvable_ne_succeeded hgrantable.approvable) ha hstatus _

/-- The execution of a granted approval retries on its own row. -/
theorem approvedExecution_retriesOnOwnRow (rt : Runtime) (svc : ToolExecutionService)
    {d : Decision} {dargs : DecisionArgs} {s₀ : Store} (hledger : RetryLedger s₀)
    (hload : Loaded s dargs d) (hrecorded : Recorded (s.granted caller d) s₀)
    (hown : (approvedExecution d).tool = .ok .retryPayment →
      d.action.recoveryCaseId = dargs.caseId ∧
        retryActions.contains d.action.actionType = true) :
    (approvedExecution d).RetriesOnOwnRow rt svc caller s₀ := by
  have hrow := granted_action hload hrecorded
  have hfound : ∀ i, Rewrites rt svc caller (approvedExecution d) s₀ i → i = dargs.actionId := by
    rintro i ⟨request, row, verdict, hadmits, -, -, -, -, -, hexisting⟩
    exact Option.some.inj
      (hexisting.symm.trans (existingAction_approvedExecution hload hrecorded hadmits))
  refine ⟨fun i hrewrites => ?_, fun hretry i a hrewrites ha => ?_⟩
  · obtain rfl := hfound i hrewrites
    exact approvable_not_retried hledger hrow (by simp)
  · obtain rfl := hfound i hrewrites
    obtain rfl := Option.some.inj (hrow.symm.trans ha)
    obtain ⟨hcase, htype⟩ := hown hretry
    refine ⟨?_, htype⟩
    have hargs := hload.args_eq
    unfold approvedExecution
    dsimp only
    rw [hargs]
    exact hcase

theorem Approved.retryLedger {args : DecisionArgs} (hledger : RetryLedger s)
    (hown : ∀ d, loadDecision s args = .ok d →
      (approvedExecution d).tool = .ok .retryPayment →
        d.action.recoveryCaseId = args.caseId ∧
          retryActions.contains d.action.actionType = true)
    (h : Approved rt svc caller args s s') : RetryLedger s' := by
  cases h with
  | idle => exact hledger
  | expired hload hpending hexpired =>
    exact hledger.of_kept rfl fun i a _ ha hstatus => ⟨a, ha, rfl, rfl, hstatus⟩
  | granted hload hgrantable hrecorded hexecuted =>
    have hloaded := loaded_of_loadDecision hload
    have hledger₀ := granted_retryLedger hledger hloaded hgrantable hrecorded
    exact hexecuted.retryLedger hledger₀
      (approvedExecution_retriesOnOwnRow rt svc hledger₀ hloaded hrecorded (hown _ hload))

theorem Approved.retryBound {args : DecisionArgs} {settings : RecoverySettings}
    (hsettings : svc.settings = settings) (hledger : RetryLedger s)
    (hcases : CasesKept RecoveryCase.SameMerchant s s')
    (hbound : RetryBound { settings, py := rt.py } s caseId)
    (h : Approved rt svc caller args s s') :
    RetryBound { settings, py := rt.py } s' caseId := by
  cases h with
  | idle => exact hbound
  | expired hload hpending hexpired => exact hbound.of_same rfl hcases rfl
  | @granted d s₀ _ hload hgrantable hrecorded hexecuted =>
    have hloaded := loaded_of_loadDecision hload
    have hgranted : SameHandlers s s₀ := .of_trace hrecorded.trace rfl rfl
    have hcases₀ : s₀.cases = s.cases := hrecorded.cases
    have hmerchants₀ : s₀.merchants = s.merchants := by
      rw [hrecorded]
      rfl
    have hbound₀ := hbound.of_same hmerchants₀ (.of_eq (fun _ => rfl) hcases₀)
      (retriesOf_eq hgranted.successes)
    refine hexecuted.retryBound hsettings
      (granted_retryLedger hledger hloaded hgrantable hrecorded) ?_ hbound₀
    unfold CasesKept
    rw [hcases₀]
    exact hcases

theorem Rejected.retryLedger {args : DecisionArgs} (hledger : RetryLedger s)
    (hspares : ∀ d, loadDecision s args = .ok d → ¬ s.RetriedRow args.actionId)
    (h : Rejected caller args s s') : RetryLedger s' := by
  cases h with
  | idle => exact hledger
  | @rejected d _ hload hsame =>
    have hloaded := loaded_of_loadDecision hload
    have hhandlers : SameHandlers s s' := .of_trace hsame.trace rfl rfl
    refine hledger.of_kept hhandlers.successes fun i a hretried ha hstatus => ?_
    refine ⟨a, ?_, rfl, rfl, hstatus⟩
    have hne : d.args.actionId ≠ i := by
      rintro rfl
      rw [hloaded.args_eq] at hretried
      exact hspares d hload hretried
    rw [hsame.actions]
    unfold Store.rejected
    dsimp only
    rw [Table.get?_modify_ne _ hne, ha]

theorem Rejected.merchants {args : DecisionArgs} (h : Rejected caller args s s') :
    s'.merchants = s.merchants := by
  cases h with
  | idle => rfl
  | rejected hload hsame => exact hsame.merchants

theorem Plans.retryLedger {py : PyText} (hledger : RetryLedger s)
    (h : Plans py caller caseId s s') : RetryLedger s' := by
  refine hledger.of_kept h.sameHandlers.successes fun i a _ ha hstatus => ?_
  cases h with
  | nothing hsame => exact ⟨a, by rw [hsame.actions, ha], rfl, rfl, hstatus⟩
  | recorded c actionType status riskLevel hrow htype hplanned hsame =>
    refine ⟨a, ?_, rfl, rfl, hstatus⟩
    rw [hsame.actions]
    exact plannedActions_get? ha
  | parked c actionType riskLevel ttlMinutes hrow htype hsame =>
    rw [hsame.actions]
    unfold Store.planParked
    dsimp only
    rw [Table.get?_modify, plannedActions_get? ha]
    split
    · exact ⟨_, rfl, rfl, rfl, hstatus⟩
    · exact ⟨a, rfl, rfl, rfl, hstatus⟩

theorem Plans.merchants {py : PyText} (h : Plans py caller caseId s s') :
    s'.merchants = s.merchants := by
  cases h with
  | nothing hsame => exact hsame.merchants
  | recorded c actionType status riskLevel hrow htype hplanned hsame => exact hsame.merchants
  | parked c actionType riskLevel ttlMinutes hrow htype hsame => exact hsame.merchants

/-! ## Runs -/

/-- What happens between calls: settings, actions and the history stay, and cases keep their
merchants. -/
structure LeavesActions (s s' : Store) : Prop where
  merchants : s'.merchants = s.merchants
  actions : s'.actions = s.actions
  trace : s'.trace = s.trace
  cases : CasesKept RecoveryCase.SameMerchant s s'

/-- A call that keeps the ledger keeps every case below its cap. -/
theorem Step.retryCap {settings : RecoverySettings} {op : Operation}
    (hledger : RetryLedger s) (hbound : RetryBound { settings, py := rt.py } s caseId)
    (hown : RetriesOnOwnRows rt settings s op) (h : Step rt LeavesActions s op s') :
    RetryLedger s' ∧ RetryBound { settings, py := rt.py } s' caseId := by
  have hcases : CasesKept RecoveryCase.SameMerchant s s' :=
    sameMerchant_frame.step (fun _ _ hleaves => hleaves.cases) h
  -- execute and approve may retry; the other calls enter no handler
  cases op with
  | execute svc caller args =>
    obtain rfl := h
    have hexecuted := execute_executed rt svc caller args s
    exact ⟨hexecuted.retryLedger hledger hown.2,
      hexecuted.retryBound hown.1 hledger hcases hbound⟩
  | approve svc caller args =>
    obtain rfl := h
    have happroved := approveAction_approved rt svc caller args s
    exact ⟨happroved.retryLedger hledger hown.2,
      happroved.retryBound hown.1 hledger hcases hbound⟩
  | reject caller args =>
    obtain rfl := h
    have hrejected := rejectAction_rejected caller args s
    exact ⟨hrejected.retryLedger hledger hown,
      hbound.of_same hrejected.merchants hcases
        (retriesOf_eq hrejected.sameHandlers.successes)⟩
  | cancel caller args =>
    obtain rfl := h
    have hrejected := rejectAction_rejected caller
      { args with
        reason := some ((givenText args.reason).getD "Cancelled by merchant operator") } s
    refine ⟨hrejected.retryLedger hledger fun d hload => ?_,
      hbound.of_same hrejected.merchants hcases
        (retriesOf_eq hrejected.sameHandlers.successes)⟩
    exact hown _ (loadDecision_reason hload)
  | process cfg caller caseId =>
    obtain rfl := h
    have hplans := (process_plans cfg caller caseId s).committed
    exact ⟨hplans.retryLedger hledger,
      hbound.of_same hplans.merchants hcases (retriesOf_eq hplans.sameHandlers.successes)⟩
  | verify cfg caller args =>
    obtain rfl := h
    have hplans := (verifyCase_plans cfg caller args s).committed
    exact ⟨hplans.retryLedger hledger,
      hbound.of_same hplans.merchants hcases (retriesOf_eq hplans.sameHandlers.successes)⟩
  | other =>
    have hsuccesses := (SameHandlers.of_eq h.trace).successes
    refine ⟨hledger.of_kept hsuccesses fun i a _ ha hstatus => ⟨a, ?_, rfl, rfl, hstatus⟩,
      hbound.of_same h.merchants hcases (retriesOf_eq hsuccesses)⟩
    rw [h.actions, ha]

/-- In every run of calls that keep the ledger, the successful retries of a case never
exceed the cap of its merchant. -/
theorem retryCap_run {settings merged : RecoverySettings} {labels : List Operation}
    {c : RecoveryCase} {merchant : Merchant} (hstart : s.trace = [])
    (hrun : Run (Guarded (Step rt LeavesActions) (RetriesOnOwnRows rt settings)) s labels s')
    (hrow : s'.cases.get? caseId = some c)
    (hmerchant : s'.merchants.get? c.merchantId = some merchant)
    (hmerged : settings.mergeMerchant rt.py merchant.settings = .ok merged) :
    (s'.retriesOf caseId).length ≤ merged.maxRetryAttempts.toNat := by
  have hnone : s.handlerSuccesses = [] := by
    unfold Store.handlerSuccesses
    rw [hstart]
    rfl
  have hnone' : s.retriesOf caseId = [] := by
    unfold Store.retriesOf
    rw [hnone]
    rfl
  have hledger : RetryLedger s := by
    refine ⟨?_, fun caseId => ?_⟩
    · rw [hnone]
      exact fun call hmem => absurd hmem List.not_mem_nil
    · unfold Store.retriesOf
      rw [hnone]
      exact List.nodup_nil
  have hbound : RetryBound { settings, py := rt.py } s caseId := by
    refine ⟨fun _ _ _ _ _ _ => ?_, fun _ => hnone'⟩
    rw [hnone']
    exact Nat.zero_le _
  have hend := hrun.invariant
    (P := fun s => RetryLedger s ∧ RetryBound { settings, py := rt.py } s caseId)
    (fun _ _ _ hinv hstep => hstep.2.retryCap hinv.1 hinv.2 hstep.1) ⟨hledger, hbound⟩
  exact hend.2.capped c merchant merged hrow hmerchant hmerged

/-! ### A retry whose row was blocked -/

/-- A provider that takes every payment and never collects it. -/
def refusingProvider : PaymentProvider where
  name := simulatorName
  createPayment := fun request => .ok
    { provider := simulatorName
      providerPaymentId := "pay_" ++ request.idempotencyKey
      amount := request.amount
      currency := request.currency
      status := .failed
      occurredAt := 0 }
  createPaymentLink := fun _ => .error { code := "PROVIDER_DOWN", message := "down" }
  fetchPayment := fun _ => .error { code := "PROVIDER_DOWN", message := "down" }

/-- The tool service with that provider. -/
def refusedService : ToolExecutionService where
  provider := refusingProvider
  predict := fun _ _ _ _ => .ok (.ok [])

/-- A case of ₹1000 of a merchant who allows one retry. -/
def oneRetryStore : Store where
  merchants := ⟨[{ settings := [("max_retry_attempts", .int 1)] }]⟩
  customers := ⟨[{ merchantId := 0 }]⟩
  payments := ⟨[{ merchantId := 0, customerId := 0, amount := 100000, status := .failed }]⟩
  cases := ⟨[policyCheckCase 0]⟩

/-- A retry under a key, on an action row. -/
def retryUnder (key : String) (existingActionId : Option ℕ) : ExecuteArgs where
  caseId := 0
  toolName := some "retry_payment"
  idempotencyKey := key
  existingActionId := existingActionId

/-- The first retry succeeded. -/
def retriedStore : Store :=
  committed (execute sampleRuntime refusedService noonCaller (retryUnder "first" none))
    oneRetryStore

/-- A second retry was refused at the cap, on the row of the first one. -/
def blockedRetryStore : Store :=
  committed (execute sampleRuntime refusedService noonCaller (retryUnder "second" (some 0)))
    retriedStore

/-- No row counts any more, and a third retry succeeded. -/
def retriedTwiceStore : Store :=
  committed (execute sampleRuntime refusedService noonCaller (retryUnder "third" none))
    blockedRetryStore

/-- Two retries succeed where the merchant allows one. -/
theorem blockedRow_exceeds_retryCap :
    Run (Step sampleRuntime LeavesActions) oneRetryStore
        [.execute refusedService noonCaller (retryUnder "first" none),
          .execute refusedService noonCaller (retryUnder "second" (some 0)),
          .execute refusedService noonCaller (retryUnder "third" none)] retriedTwiceStore ∧
      (∃ merged, refusedService.settings.mergeMerchant sampleRuntime.py
          [("max_retry_attempts", .int 1)] = .ok merged ∧ merged.maxRetryAttempts = 1) ∧
      (retriedTwiceStore.retriesOf 0).length = 2 := by
  have hfirst : Run (Step sampleRuntime LeavesActions) oneRetryStore
      [.execute refusedService noonCaller (retryUnder "first" none)] retriedStore :=
    .single rfl
  have hsecond : Step sampleRuntime LeavesActions retriedStore
      (.execute refusedService noonCaller (retryUnder "second" (some 0))) blockedRetryStore := rfl
  have hthird : Step sampleRuntime LeavesActions blockedRetryStore
      (.execute refusedService noonCaller (retryUnder "third" none)) retriedTwiceStore := rfl
  refine ⟨(hfirst.snoc hsecond).snoc hthird, ⟨_, rfl, rfl⟩, ?_⟩
  decide +kernel

/-- A second retry, on a row of its own. -/
def refusedRetryStore : Store :=
  committed (execute sampleRuntime refusedService noonCaller (retryUnder "second" none))
    retriedStore

/-- The first retry succeeds, the cap refuses the second one, and the provider is asked once. -/
theorem retryCap_retried :
    (refusedRetryStore.retriesOf 0).length ≤ 1 ∧
      refusedRetryStore.actions.rows.map (·.status) = [.succeeded, .blocked] ∧
      (refusedRetryStore.retriesOf 0).length = (retriedStore.retriesOf 0).length := by
  have hown : RetriesOnOwnRows sampleRuntime refusedService.settings oneRetryStore
      (.execute refusedService noonCaller (retryUnder "first" none)) := by
    refine ⟨rfl, fun i hrewrites hretried => ?_, fun htool i a hrewrites ha => ?_⟩
    · obtain ⟨call, hmem, -⟩ := hretried
      exact absurd hmem List.not_mem_nil
    · have hnone : oneRetryStore.actions.get? i = none := Table.get?_empty i
      exact absurd (hnone.symm.trans ha) (by simp)
  have hnew : ∀ a ∈ retriedStore.actions.rows, a.idempotencyKey ≠ "second" := by decide +kernel
  have hown' : RetriesOnOwnRows sampleRuntime refusedService.settings retriedStore
      (.execute refusedService noonCaller (retryUnder "second" none)) :=
    ⟨rfl, fun i hrewrites => absurd hrewrites (not_rewrites_of_newKey rfl hnew i),
      fun _ i _ hrewrites => absurd hrewrites (not_rewrites_of_newKey rfl hnew i)⟩
  have hrun : Run (Guarded (Step sampleRuntime LeavesActions)
      (RetriesOnOwnRows sampleRuntime refusedService.settings)) oneRetryStore
      [.execute refusedService noonCaller (retryUnder "first" none),
        .execute refusedService noonCaller (retryUnder "second" none)] refusedRetryStore :=
    Run.snoc (.single ⟨hown, rfl⟩) ⟨hown', rfl⟩
  have hrow : (refusedRetryStore.cases.get? 0).map (·.merchantId) = some 0 := by decide +kernel
  obtain ⟨c, hc, hmerchantId⟩ := Option.map_eq_some_iff.mp hrow
  have hmerchants : refusedRetryStore.merchants = oneRetryStore.merchants :=
    (execute_executed sampleRuntime refusedService noonCaller _ retriedStore).merchants.trans
      (execute_executed sampleRuntime refusedService noonCaller _ oneRetryStore).merchants
  have hmerchant : refusedRetryStore.merchants.get? c.merchantId =
      some { settings := [("max_retry_attempts", .int 1)] } := by
    rw [hmerchants, hmerchantId]
    rfl
  have hmerged : refusedService.settings.mergeMerchant sampleRuntime.py
      [("max_retry_attempts", .int 1)] = .ok { maxRetryAttempts := 1 } := rfl
  exact ⟨retryCap_run rfl hrun hc hmerchant hmerged, by decide +kernel, by decide +kernel⟩

end ReviveX
