import ReviveX.Tools.ReplayTheorems
import ReviveX.Tools.Transactions

/-!
# What a step of a schedule commits

A step commits the success of one handler, under the verdict that its transaction was given
when it began (`HandlerSucceeded`), or no success at all (`NothingSucceeded`). The limits of
the policy engine are about these successes.
-/

namespace ReviveX

open Lib (Guarded Run Session Table)

variable {rt : Runtime} {svc : ToolExecutionService} {caller : Caller}
  {request : ToolRequest} {s s' s'' : Store} {t : ToolTransaction}

/-! ## Successes with their amounts -/

/-- The call whose success an entry notes, with the amount it reports. -/
def TraceEvent.reported? : TraceEvent → Option (HandlerCall × Option Money)
  | .handlerSucceeded call amount _ => some (call, amount)
  | _ => none

/-- The handlers that reported success and their amounts, oldest first. -/
def Store.successes (s : Store) : List (HandlerCall × Option Money) :=
  s.trace.filterMap TraceEvent.reported?

theorem handlerSuccesses_eq_map (s : Store) : s.handlerSuccesses = s.successes.map Prod.fst := by
  unfold Store.handlerSuccesses Store.successes
  rw [List.map_filterMap]
  congr 1
  funext e
  cases e <;> rfl

/-- Nothing that a limit counts has happened. -/
structure NothingSucceeded (s s' : Store) : Prop where
  merchants : s'.merchants = s.merchants
  notifications : s'.notifications = s.notifications
  successes : s'.successes = s.successes

namespace NothingSucceeded

theorem refl (s : Store) : NothingSucceeded s s := ⟨rfl, rfl, rfl⟩

theorem of_trace {events : List TraceEvent} (hmerchants : s'.merchants = s.merchants)
    (hnotifications : s'.notifications = s.notifications) (htrace : s'.trace = s.trace ++ events)
    (hevents : events.filterMap TraceEvent.reported? = []) : NothingSucceeded s s' where
  merchants := hmerchants
  notifications := hnotifications
  successes := by
    unfold Store.successes
    rw [htrace, List.filterMap_append, hevents, List.append_nil]

theorem of_sameTools (h : SameTools s s') : NothingSucceeded s s' where
  merchants := h.merchants
  notifications := h.notifications
  successes := by
    unfold Store.successes
    rw [h.trace]

theorem trans (h : NothingSucceeded s s') (h' : NothingSucceeded s' s'') :
    NothingSucceeded s s'' where
  merchants := h'.merchants.trans h.merchants
  notifications := h'.notifications.trans h.notifications
  successes := h'.successes.trans h.successes

theorem handlerSuccesses (h : NothingSucceeded s s') :
    s'.handlerSuccesses = s.handlerSuccesses := by
  rw [handlerSuccesses_eq_map, handlerSuccesses_eq_map, h.successes]

end NothingSucceeded

/-- The handler succeeded that a verdict led to. -/
structure HandlerSucceeded (rt : Runtime) (svc : ToolExecutionService) (caller : Caller)
    (request : ToolRequest) (verdict : ToolVerdict) (s : Store) (c : RecoveryCase)
    (handled : HandlerResult) (s' : Store) : Prop where
  returned : HandlerReturned rt svc caller request s verdict c handled s'
  success : handled.success = true
  merchants : s'.merchants = s.merchants
  actions : s'.actions =
    s.handledActions request verdict.evaluation.riskLevel handled caller.now
  successes : s'.successes =
    s.successes ++ [(s.handlerCall caller request verdict c, handled.amount)]

/-- Asking the provider is no success. -/
theorem asks_reported (s : Store) (caller : Caller) (request : ToolRequest)
    (verdict : ToolVerdict) (c : RecoveryCase) :
    (s.asks caller request verdict c).filterMap TraceEvent.reported? = [] := by
  unfold Store.asks handlerAsks
  dsimp only
  split
  · split <;> rfl
  · rfl
  · rfl

/-- What was written is a success, or nothing that a limit counts but reminders. -/
theorem Written.succeeded {verdict : ToolVerdict} {row : IdempotencyKey}
    (h : Written rt svc caller request verdict row s s') :
    (s'.merchants = s.merchants ∧ s'.successes = s.successes) ∨
      ∃ c handled, HandlerSucceeded rt svc caller request verdict s c handled s' := by
  cases h with
  | refused happrovals hsame =>
    have hquiet := NothingSucceeded.of_sameTools hsame
    exact .inl ⟨hquiet.merchants, hquiet.successes⟩
  | blocked hbranch hstatus hsame =>
    have hquiet := NothingSucceeded.of_sameTools hsame
    exact .inl ⟨hquiet.merchants, hquiet.successes⟩
  | parked hbranch hstatus hsame =>
    have hquiet : NothingSucceeded s s' :=
      .of_trace hsame.merchants hsame.notifications hsame.trace rfl
    exact .inl ⟨hquiet.merchants, hquiet.successes⟩
  | @handled c handled r toolCallId _ hreturned hstatus hsame =>
    have hsuccesses : s'.successes = s.successes ++
        (successEvents (s.handlerCall caller request verdict c) handled).filterMap
          TraceEvent.reported? := by
      have hasked := asks_reported s caller request verdict c
      unfold Store.successes
      rw [hsame.trace]
      unfold Store.handlingEvents
      dsimp only
      rw [List.filterMap_append, List.filterMap_cons_none rfl, List.filterMap_append, hasked,
        List.nil_append]
    unfold successEvents at hsuccesses
    cases hsuccess : handled.success with
    | false =>
      rw [hsuccess] at hsuccesses
      exact .inl ⟨hsame.merchants, hsuccesses.trans (List.append_nil _)⟩
    | true =>
      rw [hsuccess] at hsuccesses
      exact .inr ⟨c, handled, hreturned, hsuccess, hsame.merchants, hsame.actions, hsuccesses⟩

/-! ## Calls that evaluate no policy -/

theorem Executed.of_early {args : ExecuteArgs}
    (hearly : ∀ request row, admitRequest rt s args = .ok request →
      ¬ HoldsKey s request caller.now row)
    (h : Executed rt svc caller args s s') : s' = s := by
  cases h with
  | idle => rfl
  | refused hadmits hholds | blocked hadmits hholds | parked hadmits hholds
  | handled hadmits hholds => exact absurd hholds (hearly _ _ hadmits)

/-- An approval that ends early was refused, or expired, or was only granted. -/
theorem Approved.of_early {args : DecisionArgs}
    (hearly : (Operation.approve svc caller args).EndsEarly rt s)
    (h : Approved rt svc caller args s s') :
    s' = s ∨
      (∃ d : Decision,
        s' = { s with approvals := s.approvals.modify d.approvalId Approval.expire }) ∨
      ∃ d, loadDecision s args = .ok d ∧ Grantable caller d ∧
        Recorded (s.granted caller d) s' := by
  cases h with
  | idle => exact .inl rfl
  | @expired d hload hpending hexpired => exact .inr (.inl ⟨d, rfl⟩)
  | @granted d s₀ _ hload hgrantable hrecorded hexecuted =>
    have hsame : s' = s₀ := by
      refine hexecuted.of_early fun request row hadmits hholds => ?_
      rw [admitRequest_recorded hrecorded] at hadmits
      rw [holdsKey_recorded hrecorded] at hholds
      exact hearly d request row hload hgrantable hadmits hholds
    subst hsame
    exact .inr (.inr ⟨d, hload, hgrantable, hrecorded⟩)

theorem granted_nothingSucceeded {d : Decision} {s₀ : Store}
    (hrecorded : Recorded (s.granted caller d) s₀) : NothingSucceeded s s₀ := by
  refine NothingSucceeded.trans ?_ (.of_sameTools (.of_recorded hrecorded))
  exact .of_trace rfl rfl rfl rfl

theorem Rejected.nothingSucceeded {args : DecisionArgs} (h : Rejected caller args s s') :
    NothingSucceeded s s' := by
  cases h with
  | idle => exact .refl s
  | rejected hload hsame => exact .of_trace hsame.merchants hsame.notifications hsame.trace rfl

theorem Plans.nothingSucceeded {py : PyText} {caseId : ℕ} (h : Plans py caller caseId s s') :
    NothingSucceeded s s' := by
  cases h with
  | nothing hsame => exact .of_sameTools hsame
  | recorded c actionType status riskLevel hrow htype hstatus hsame =>
    have hquiet := NothingSucceeded.of_sameTools hsame
    exact ⟨hquiet.merchants, hquiet.notifications, hquiet.successes⟩
  | parked c actionType riskLevel ttlMinutes hrow htype hsame =>
    exact .of_trace hsame.merchants hsame.notifications hsame.trace rfl

theorem call_nothingSucceeded {Other : Store → Store → Prop} {op : Operation}
    (hother : ∀ s s', Other s s' → NothingSucceeded s s') (hearly : op.EndsEarly rt s)
    (h : Step rt Other s op s') : NothingSucceeded s s' := by
  cases op with
  | execute svc caller args =>
    obtain rfl := h
    rw [(execute_executed rt svc caller args s).of_early hearly]
    exact .refl s
  | approve svc caller args =>
    obtain rfl := h
    rcases (approveAction_approved rt svc caller args s).of_early hearly with
      hsame | ⟨d, hexpired⟩ | ⟨d, -, -, hrecorded⟩
    · rw [hsame]
      exact .refl s
    · rw [hexpired]
      exact ⟨rfl, rfl, rfl⟩
    · exact granted_nothingSucceeded hrecorded
  | reject caller args =>
    obtain rfl := h
    exact (rejectAction_rejected caller args s).nothingSucceeded
  | cancel caller args =>
    obtain rfl := h
    exact (rejectAction_rejected caller _ s).nothingSucceeded
  | process cfg caller caseId =>
    obtain rfl := h
    exact (process_plans cfg caller caseId s).committed.nothingSucceeded
  | verify cfg caller args =>
    obtain rfl := h
    exact (verifyCase_plans cfg caller args s).committed.nothingSucceeded
  | other => exact hother s s' h

/-! ## Transactions -/

/-- Marking the decision of a transaction is no success. -/
theorem base_nothingSucceeded (t : ToolTransaction) (s : Store) :
    NothingSucceeded s (t.base s) := by
  unfold ToolTransaction.base
  cases t.decision with
  | none => exact .refl s
  | some d => exact granted_nothingSucceeded (.refl _)

namespace Schedule

variable {Other : Store → Store → Prop} {σ σ' : Schedule} {e : ScheduleEvent}

/-- The merchants are the same at the end of every step. -/
theorem Step.merchants (hlocked : σ.Locked rt)
    (hother : ∀ s s', Other s s' → NothingSucceeded s s') (h : Step rt Other σ e σ') :
    σ'.store.merchants = σ.store.merchants := by
  cases e with
  | begin t =>
    obtain ⟨-, -, rfl⟩ := h
    rfl
  | write caseId =>
    obtain ⟨t, ht, rfl, -⟩ := h
    obtain ⟨hcase, hrow⟩ := hlocked.row caseId t ht
    have hbase := base_nothingSucceeded t σ.store
    rcases write_written rt t (by rw [hcase]; exact hrow) with hsame | ⟨row, hwritten⟩
    · exact congrArg Store.merchants hsame
    · rcases hwritten.succeeded with ⟨hmerchants, -⟩ | ⟨c, handled, hsucceeded⟩
      · exact hmerchants.trans hbase.merchants
      · exact hsucceeded.merchants.trans hbase.merchants
  | abandon caseId =>
    subst h
    rfl
  | call op => exact (call_nothingSucceeded hother h.1 h.2.1).merchants

theorem run_merchants {events : List ScheduleEvent}
    (hother : ∀ s s', Other s s' → NothingSucceeded s s')
    (hidle : ∀ caseId, σ.running caseId = none) (hrun : Run (Step rt Other) σ events σ') :
    σ'.store.merchants = σ.store.merchants := by
  have hend := hrun.invariant
    (P := fun τ => τ.Locked rt ∧ τ.store.merchants = σ.store.merchants)
    (fun _ _ _ hinv hstep => ⟨hinv.1.step hstep, (hstep.merchants hinv.1 hother).trans hinv.2⟩)
    ⟨Locked.of_idle hidle, rfl⟩
  exact hend.2

end Schedule

end ReviveX
