import ReviveX.Domain.DenialTheorems
import ReviveX.Lib.Runs
import ReviveX.System.CallEffects
import ReviveX.Tools.RetryCapTheorems
import ReviveX.Tools.RowTheorems

/-!
# What never happens to a merchant's customers

The kill switch, the blocked actions, the largest discount, the quiet hours and the marks of a
customer are columns that no service writes. Whatever is called in whatever order, no handler
is entered for an action that one of them rules out: not by the agents, not on an approval,
and not under an old key.
-/

namespace ReviveX

open Lib (Decimal Grows Guarded Run Session Table)

variable {rt : Runtime} {svc : ToolExecutionService} {caller : Caller} {settings : RecoverySettings}
  {request : ToolRequest} {s s' : Store} {args : ExecuteArgs} {c : RecoveryCase}
  {action : RecoveryActionType}

/-! ## Standing reasons -/

/-- `metadata_json` of the customer of a case. -/
def Store.customerMeta (s : Store) (c : RecoveryCase) : Payload :=
  ((s.getCustomer c.merchantId c.customerId).map (·.metadata)).getD []

/-- The reasons to deny an action that depend on the merchant, the customer, the payload and
the clock alone, and on the mismatch that a verification has left on the case. -/
inductive StandingDenied (rt : Runtime) (settings : RecoverySettings) (s : Store)
    (call : HandlerCall) (action : RecoveryActionType) : Prop
  | blocked {merchant : Merchant} (hrow : s.merchants.get? call.case.merchantId = some merchant)
      (hblocked : action.text ∈ blockedActions rt.py (policySection merchant.settings))
  | killSwitch {merchant : Merchant} {merged : RecoverySettings}
      (hrow : s.merchants.get? call.case.merchantId = some merchant)
      (hmerged : settings.mergeMerchant rt.py merchant.settings = .ok merged)
      (hautomatic : action ∈ automaticActions) (hdisabled : merged.automaticRecoveryEnabled = false)
  | suspicious (hautomatic : action ∈ automaticActions)
      (hmarked : metaSaysYes rt.py (s.customerMeta call.case) "suspicious" = true ∨
        metaSaysYes rt.py (s.customerMeta call.case) "source_mismatch" = true ∨
        isIdentityMismatch call.case.lastMismatchReason = true)
  | optedOut (hcommunicates : action ∈ communicationActions)
      (hopted : metaSaysYes rt.py (s.customerMeta call.case) "communication_opt_out" = true)
  | ineligible (hoffer : action = .offerDiscount)
      (hineligible : metaSaysYes rt.py (s.customerMeta call.case) "discount_ineligible" = true)
  | tooLarge {merchant : Merchant} {merged : RecoverySettings} {proposed : ProposedAction}
      {percent : Decimal} (hrow : s.merchants.get? call.case.merchantId = some merchant)
      (hmerged : settings.mergeMerchant rt.py merchant.settings = .ok merged)
      (hoffer : action = .offerDiscount)
      (hproposed : proposedFromPayload rt action call.payload = .ok proposed)
      (hpercent : proposed.discountPercent = some percent)
      (hlarge : percent.gt? merged.maxDiscountPercent = some true)
  | quietHours {merchant : Merchant} {merged : RecoverySettings}
      (hrow : s.merchants.get? call.case.merchantId = some merchant)
      (hmerged : settings.mergeMerchant rt.py merchant.settings = .ok merged)
      (hreminder : action = .sendReminder)
      (hquiet : ∀ ctx : PolicyContext, ctx.settings = merged → ctx.now = call.now →
        inQuietHours ctx = true)

/-- The handler was entered for nothing that the merchant or the customer rules out. -/
def TraceEvent.Permitted (rt : Runtime) (settings : RecoverySettings) (s : Store) :
    TraceEvent → Prop
  | .handlerCalled call => ∀ action, actionForTool call.toolName = some action →
      ¬ StandingDenied rt settings s call action
  | _ => True

/-- The standing reasons are read from two tables. -/
theorem StandingDenied.of_parties {call : HandlerCall} (hparties : SameParties s s')
    (h : StandingDenied rt settings s call action) : StandingDenied rt settings s' call action := by
  have hmeta : ∀ c, s'.customerMeta c = s.customerMeta c := by
    intro c
    unfold Store.customerMeta Store.getCustomer
    rw [hparties.customers]
  have hrows : s'.merchants = s.merchants := hparties.merchants
  cases h with
  | blocked hrow hblocked => exact .blocked (hrows ▸ hrow) hblocked
  | killSwitch hrow hmerged hautomatic hdisabled =>
    exact .killSwitch (hrows ▸ hrow) hmerged hautomatic hdisabled
  | suspicious hautomatic hmarked => exact .suspicious hautomatic (by rwa [hmeta])
  | optedOut hcommunicates hopted => exact .optedOut hcommunicates (by rwa [hmeta])
  | ineligible hoffer hineligible => exact .ineligible hoffer (by rwa [hmeta])
  | tooLarge hrow hmerged hoffer hproposed hpercent hlarge =>
    exact .tooLarge (hrows ▸ hrow) hmerged hoffer hproposed hpercent hlarge
  | quietHours hrow hmerged hreminder hquiet =>
    exact .quietHours (hrows ▸ hrow) hmerged hreminder hquiet

theorem TraceEvent.Permitted.of_parties {e : TraceEvent} (hparties : SameParties s s')
    (h : e.Permitted rt settings s) : e.Permitted rt settings s' := by
  cases e with
  | handlerCalled call =>
    exact fun action haction hdenied => h action haction (hdenied.of_parties hparties.symm)
  | _ => trivial

/-! ## The verdict that lets a handler run -/

/-- What the policy engine is told about the merchant and the customer. -/
theorem standing_of_build {cfg : Config} {caseId : ℕ} {now : Time} {ctx : PolicyContext}
    (h : buildPolicyContext cfg s caseId c now = .ok ctx) :
    ∃ merchant, s.merchants.get? c.merchantId = some merchant ∧
      cfg.settings.mergeMerchant cfg.py merchant.settings = .ok ctx.settings ∧
      ctx.now = now ∧
      ctx.blockedActionTypes = blockedActions cfg.py (policySection merchant.settings) ∧
      ctx.customerOptedOut = metaSaysYes cfg.py (s.customerMeta c) "communication_opt_out" ∧
      ctx.suspicious = isSuspicious cfg.py c (s.customerMeta c) ∧
      ctx.sourceMismatch = isSourceMismatch cfg.py c (s.customerMeta c) ∧
      ctx.discountEligible = !metaSaysYes cfg.py (s.customerMeta c) "discount_ineligible" := by
  unfold buildPolicyContext at h
  cases hmerchant : s.merchants.get? c.merchantId with
  | none =>
    rw [hmerchant] at h
    cases h
  | some merchant =>
    rw [hmerchant] at h
    obtain ⟨merged, hmerged, h⟩ := Lib.bind_eq_ok.mp h
    obtain rfl := Except.ok.inj h
    exact ⟨merchant, rfl, hmerged, rfl, rfl, rfl, rfl, rfl, rfl⟩

/-- A standing reason is a reason for the policy engine. -/
theorem StandingDenied.denied {call : HandlerCall} {proposed : ProposedAction} {caseId : ℕ}
    {ctx : PolicyContext} (h : StandingDenied rt settings s call action)
    (hlife : c.LifecycleOnly call.case)
    (hbuild : buildPolicyContext { settings, py := rt.py } s caseId c call.now = .ok ctx)
    (hproposed : proposedFromPayload rt action call.payload = .ok proposed) :
    Denied ctx proposed action := by
  obtain ⟨merchant, hrow, hmerged, hnow, hblockedTypes, hoptedOut, hsuspicious, hmismatch,
    heligible⟩ := standing_of_build hbuild
  have hmeta : s.customerMeta call.case = s.customerMeta c := by
    unfold Store.customerMeta
    rw [hlife.merchantId, hlife.customerId]
  have hsame : ∀ {m}, s.merchants.get? call.case.merchantId = some m → m = merchant := by
    intro m hm
    rw [hlife.merchantId] at hm
    exact Option.some.inj (hm.symm.trans hrow)
  have hsettings : ∀ {m merged}, s.merchants.get? call.case.merchantId = some m →
      settings.mergeMerchant rt.py m.settings = .ok merged → merged = ctx.settings := by
    intro m merged hm hok
    rw [hsame hm] at hok
    exact Except.ok.inj (hok.symm.trans hmerged)
  -- each standing reason names the rule of the engine that it makes fire
  cases h with
  | blocked hm hblocked =>
    rw [hsame hm, ← hblockedTypes] at hblocked
    exact .blocked hblocked
  | killSwitch hm hok hautomatic hdisabled =>
    rw [hsettings hm hok] at hdisabled
    exact .killSwitch hautomatic hdisabled
  | suspicious hautomatic hmarked =>
    rw [hmeta, hlife.lastMismatchReason] at hmarked
    refine .suspicious hautomatic ?_
    rw [hsuspicious, hmismatch]
    unfold isSuspicious isSourceMismatch
    rw [Bool.or_eq_true, Bool.or_eq_true]
    rcases hmarked with hmarked | hmarked | hmarked
    · exact .inl (.inl hmarked)
    · exact .inr (.inl hmarked)
    · exact .inl (.inr hmarked)
  | optedOut hcommunicates hopted =>
    rw [hmeta, ← hoptedOut] at hopted
    exact .optOut hcommunicates hopted
  | ineligible hoffer hineligible =>
    rw [hmeta] at hineligible
    refine .discount hoffer (.ineligible ?_)
    rw [heligible]
    exact congrArg not hineligible
  | tooLarge hm hok hoffer hsame' hpercent hlarge =>
    rw [hsettings hm hok] at hlarge
    obtain rfl := Except.ok.inj (hproposed.symm.trans hsame')
    exact .discount hoffer (.tooLarge hpercent hlarge)
  | quietHours hm hok hreminder hquiet =>
    exact .quietHours hreminder (hquiet ctx (hsettings hm hok).symm hnow)

/-- A handler is entered for what the policy engine allows. -/
theorem HandlerEntered.permitted {verdict : ToolVerdict} {s₁ : Store}
    (h : HandlerEntered rt svc caller request s verdict s₁ c) :
    (TraceEvent.handlerCalled (s.handlerCall caller request verdict c)).Permitted rt
      svc.settings s := by
  intro action haction hdenied
  have htool : actionForTool request.tool = some action := haction
  obtain ⟨proposed, hproposed, hbuild, hevaluated⟩ := judgeTool_ok htool h.judged
  have hallowed := (toolBranch_run h.branch htool).1
  have hofText : RecoveryActionType.ofText? proposed.actionType = some action := by
    rw [(proposedFromPayload_ok hproposed).1]
    exact RecoveryActionType.ofText?_text action
  exact (allowed_iff hevaluated hofText).mp hallowed
    (hdenied.denied h.lifecycle hbuild hproposed)

theorem TraceEvent.permitted_of_quiet {e : TraceEvent}
    (h : e.IsApproval ∨ e.IsAsk ∨ e.IsSuccess) : e.Permitted rt settings s := by
  cases e with
  | handlerCalled call => exact absurd h (by simp [IsApproval, IsAsk, IsSuccess])
  | _ => trivial

theorem RunEvents.permitted {events : List TraceEvent}
    (h : RunEvents rt svc caller request s events) :
    ∀ e ∈ events, e.Permitted rt svc.settings s := by
  intro e he
  cases h with
  | none => exact absurd he List.not_mem_nil
  | requested happroval =>
    rw [List.mem_singleton.mp he]
    exact TraceEvent.permitted_of_quiet (.inl happroval)
  | called hentered hafter =>
    rcases List.mem_cons.mp he with rfl | he
    · exact hentered.permitted
    · rcases List.mem_append.mp he with he | he
      · exact TraceEvent.permitted_of_quiet (.inr (.inl (asks_isAsk _ _ _ _ _ e he)))
      · exact TraceEvent.permitted_of_quiet (.inr (.inr (hafter e he)))

theorem ExecuteOutcome.permitted {x : Except Failure ToolExecutionResult}
    (h : ExecuteOutcome rt svc caller args s x s') :
    Grows (TraceEvent.Permitted rt svc.settings s) s.trace s'.trace := by
  obtain ⟨events, htrace, hevents⟩ := h.events
  refine ⟨events, htrace, ?_⟩
  cases hevents with
  | none => exact fun _ he => absurd he List.not_mem_nil
  | @ran request _ _ hadmits hholds hran =>
    exact fun e he => (hran.permitted e he).of_parties
      (SameParties.keyTaken s request caller.now).symm

/-! ## Runs -/

/-- A call under given settings of the environment. -/
def ServiceCall.Under (settings : RecoverySettings) (call : ServiceCall) : Prop :=
  ∀ svc, call.tools = some svc → svc.settings = settings

theorem CallEffect.permitted {tools : Option ToolExecutionService}
    (hsettings : ∀ svc, tools = some svc → svc.settings = settings)
    (h : CallEffect rt tools s s') :
    Grows (TraceEvent.Permitted rt settings s) s.trace s'.trace := by
  have hquiet : ∀ {s₁ s₂}, Quiet s₁ s₂ →
      Grows (TraceEvent.Permitted rt settings s) s₁.trace s₂.trace :=
    fun h => h.history.mono fun _ he => TraceEvent.permitted_of_quiet (.inl he)
  cases h with
  | quiet h => exact hquiet h
  | executed htools hbefore hexecute hafter =>
    have hran := hexecute.permitted
    rw [hsettings _ htools] at hran
    have hran' := hran.mono fun e he => he.of_parties hbefore.toSameParties.symm
    exact (hquiet hbefore).trans (hran'.trans (hquiet hafter))

/-- Over every run, the merchants and the customers stay as they are, and no handler is
entered for an action that one of them rules out. -/
theorem standingRules_hold (rt : Runtime) (settings : RecoverySettings) (s s' : Store)
    (calls : List ServiceCall)
    (hrun : Run (Guarded (CallStep rt) fun _ call => call.Under settings) s calls s') :
    SameParties s s' ∧ Grows (TraceEvent.Permitted rt settings s) s.trace s'.trace := by
  -- a later call reads the parties that the store had at the start
  induction hrun with
  | nil => exact ⟨.refl s, .refl _ _⟩
  | @snoc _ s₁ s₂ call before last ih =>
    obtain ⟨hparties, hgrows⟩ := ih
    have hstep : SameParties s₁ s₂ ∧
        Grows (TraceEvent.Permitted rt settings s₁) s₁.trace s₂.trace := by
      rcases last with ⟨hunder, rfl | rfl⟩
      · exact ⟨(callEffect rt s₁ call).parties, (callEffect rt s₁ call).permitted hunder⟩
      · exact ⟨.refl _, .refl _ _⟩
    exact ⟨hparties.trans hstep.1,
      hgrows.trans (hstep.2.mono fun e he => he.of_parties hparties.symm)⟩

/-- A merchant who has switched automatic recovery off. -/
def switchedOffStore : Store :=
  { oneRetryStore with
    merchants := ⟨[{ settings := [("automatic_recovery_enabled", .bool false)] }]⟩ }

/-- The retry of the case. -/
def switchedOffRetry : ServiceCall := .execute refusedService noonCaller (retryUnder "first" none)

theorem standingRules_hold_retry :
    SameParties switchedOffStore (switchedOffRetry.after sampleRuntime switchedOffStore) ∧
      Grows (TraceEvent.Permitted sampleRuntime refusedService.settings switchedOffStore)
        switchedOffStore.trace (switchedOffRetry.after sampleRuntime switchedOffStore).trace := by
  refine standingRules_hold sampleRuntime refusedService.settings switchedOffStore _
    [switchedOffRetry] (.single ⟨fun svc hsvc => ?_, .inl rfl⟩)
  obtain rfl := Option.some.inj hsvc
  rfl

end ReviveX
