import ReviveX.Domain.CreditSoundness
import ReviveX.Lib.Except
import ReviveX.Operator.PolicySettings

/-!
# Updating the policy settings

What `update_policy` writes is what the policy engine then reads, and what `get_policy` shows.
The settings that a request does not have are another matter: the reader takes them from the
document itself when the document has no nested policy, and the update gives it one, which
hides them.
-/

namespace ReviveX

open Lib (Decimal Json Session Table)

variable {cfg : Config} {py : PyText} {base merged : RecoverySettings} {settings : Payload}
  {data data' : Payload} {key : String}

/-! ## Reading a key -/

theorem givenValue_congr (h : Json.get? data' key = Json.get? data key) :
    givenValue data' key = givenValue data key := by
  unfold givenValue
  rw [h]

theorem intValue_congr (h : Json.get? data' key = Json.get? data key) (default : ℤ) :
    intValue py data' key default = intValue py data key default := by
  unfold intValue
  rw [givenValue_congr h]

theorem intValue_of_get? {n : ℤ} (h : Json.get? data key = some (.int n)) (default : ℤ) :
    intValue py data key default = .ok n := by
  unfold intValue givenValue
  rw [h]
  rfl

theorem boolValue_of_get? {b : Bool} (h : Json.get? data key = some (.bool b)) (default : Bool) :
    boolValue py data key default = b := by
  unfold boolValue givenValue
  rw [h]

theorem givenValue_of_text {text : String} (h : Json.get? data key = some (.str text))
    (hnonempty : text ≠ "") : givenValue data key = some (.str text) := by
  unfold givenValue
  rw [h]
  split <;> simp_all

/-- A text that was sent is read back as its amount. -/
theorem decimalValue_of_get? (hstr : ∀ text, py.str (.str text) = text) (d : SentDecimal py)
    (h : Json.get? data key = some (.str d.text)) (default : Decimal) :
    decimalValue py data key default = .ok (.finite d.value) := by
  unfold decimalValue
  rw [givenValue_of_text h d.nonempty]
  dsimp only
  rw [hstr, d.reads]
  rfl

/-- The policy version that a section names. -/
def policyVersionOf (py : PyText) (policy : Payload) (default : String) : String :=
  match Json.get? policy "policy_version" with
  | some raw => if isTruthy raw then py.str raw else default
  | none => default

theorem policyVersionOf_congr
    (h : Json.get? data' "policy_version" = Json.get? data "policy_version") (default : String) :
    policyVersionOf py data' default = policyVersionOf py data default := by
  unfold policyVersionOf
  rw [h]

/-- The settings that no request has. -/
structure SameBeside (a b : RecoverySettings) : Prop where
  recoveryWindowHours : b.recoveryWindowHours = a.recoveryWindowHours
  recoveryOrderingGraceMinutes : b.recoveryOrderingGraceMinutes = a.recoveryOrderingGraceMinutes
  policyVersion : b.policyVersion = a.policyVersion

/-- What the merge makes of those settings, whichever section they are read from. -/
theorem mergeMerchant_beside (h : base.mergeMerchant py settings = .ok merged) :
    intValue py (policySection settings) "recovery_window_hours" base.recoveryWindowHours =
        .ok merged.recoveryWindowHours ∧
      intValue py (policySection settings) "recovery_ordering_grace_minutes"
          base.recoveryOrderingGraceMinutes = .ok merged.recoveryOrderingGraceMinutes ∧
      policyVersionOf py (policySection settings) base.policyVersion = merged.policyVersion := by
  unfold RecoverySettings.mergeMerchant at h
  dsimp only at h
  split at h
  · rename_i hempty
    rw [List.isEmpty_iff.mp hempty]
    obtain rfl := Except.ok.inj h
    exact ⟨rfl, rfl, rfl⟩
  · obtain ⟨window, hwindow, h⟩ := Lib.bind_eq_ok.mp h
    obtain ⟨grace, hgrace, h⟩ := Lib.bind_eq_ok.mp h
    obtain ⟨high, -, h⟩ := Lib.bind_eq_ok.mp h
    obtain ⟨medium, -, h⟩ := Lib.bind_eq_ok.mp h
    obtain ⟨retries, -, h⟩ := Lib.bind_eq_ok.mp h
    obtain ⟨discount, -, h⟩ := Lib.bind_eq_ok.mp h
    obtain ⟨budget, -, h⟩ := Lib.bind_eq_ok.mp h
    obtain ⟨communications, -, h⟩ := Lib.bind_eq_ok.mp h
    obtain ⟨quietStart, -, h⟩ := Lib.bind_eq_ok.mp h
    obtain ⟨quietEnd, -, h⟩ := Lib.bind_eq_ok.mp h
    obtain ⟨ttl, -, h⟩ := Lib.bind_eq_ok.mp h
    obtain rfl := Except.ok.inj h
    exact ⟨hwindow, hgrace, rfl⟩

/-! ## The section that is written -/

/-- The settings that a request makes, next to those it does not have. -/
def PolicySettingsBody.besides (body : PolicySettingsBody py) (window grace : ℤ)
    (policyVersion : String) : RecoverySettings where
  recoveryWindowHours := window
  recoveryOrderingGraceMinutes := grace
  highValueApprovalThreshold := .finite body.highValueApprovalThreshold.value
  mediumValueApprovalThreshold := .finite body.mediumValueApprovalThreshold.value
  maxRetryAttempts := body.maxRetryAttempts
  maxDiscountPercent := .finite body.maxDiscountPercent.value
  maxDailyDiscountBudget := .finite body.maxDailyDiscountBudget.value
  maxCommunicationsPerDay := body.maxCommunicationsPerDay
  quietHoursStart := body.quietHoursStart
  quietHoursEnd := body.quietHoursEnd
  automaticRecoveryEnabled := body.automaticRecoveryEnabled
  approvalTtlMinutes := body.approvalTtlMinutes
  policyVersion := policyVersion

section Write

variable (body : PolicySettingsBody py)

theorem changes_nodup : (body.changes.map Prod.fst).Nodup := by
  unfold PolicySettingsBody.changes
  simp only [List.map_cons, List.map_nil]
  decide

theorem nestedPolicy_write : nestedPolicy (body.write settings) =
    some (Json.update ((nestedPolicy settings).getD []) body.changes) := by
  unfold PolicySettingsBody.write
  rw [nestedPolicy, Json.get?_set, if_pos rfl]

/-- A document without a nested policy is a section itself. -/
theorem policySection_eq (settings : Payload) :
    policySection settings = (nestedPolicy settings).getD settings := by
  unfold policySection nestedPolicy
  cases Json.get? settings "policy" with
  | none => rfl
  | some value => cases value <;> rfl

theorem policySection_of_nested {nested : Payload} (h : nestedPolicy settings = some nested) :
    policySection settings = nested := by
  rw [policySection_eq, h]
  rfl

theorem policySection_of_flat (h : nestedPolicy settings = none) :
    policySection settings = settings := by
  rw [policySection_eq, h]
  rfl

theorem policySection_write : policySection (body.write settings) =
    Json.update ((nestedPolicy settings).getD []) body.changes :=
  policySection_of_nested (nestedPolicy_write body)

/-- A key of the request has the value of the request. -/
theorem get?_written {value : Json} (h : (key, value) ∈ body.changes) :
    Json.get? (policySection (body.write settings)) key = some value := by
  rw [policySection_write]
  exact Json.get?_update_of_mem _ (changes_nodup body) h

/-- Another key is read from the nested policy that was there. -/
theorem get?_kept (h : key ∉ body.changes.map Prod.fst) :
    Json.get? (policySection (body.write settings)) key =
      Json.get? ((nestedPolicy settings).getD []) key := by
  rw [policySection_write]
  exact Json.get?_update_of_notMem _ h

/-- The merge after an update. -/
theorem mergeMerchant_write (hstr : ∀ text, py.str (.str text) = text) :
    base.mergeMerchant py (body.write settings) = do
      let window ← intValue py ((nestedPolicy settings).getD []) "recovery_window_hours"
        base.recoveryWindowHours
      let grace ← intValue py ((nestedPolicy settings).getD []) "recovery_ordering_grace_minutes"
        base.recoveryOrderingGraceMinutes
      return body.besides window grace
        (policyVersionOf py ((nestedPolicy settings).getD []) base.policyVersion) := by
  have hwritten : ∀ (key : String) (value : Json), (key, value) ∈ body.changes →
      Json.get? (policySection (body.write settings)) key = some value :=
    fun _ _ h => get?_written body h
  have hkept : ∀ key : String, key ∉ body.changes.map Prod.fst →
      Json.get? (policySection (body.write settings)) key =
        Json.get? ((nestedPolicy settings).getD []) key :=
    fun _ h => get?_kept body h
  have hbesides : "recovery_window_hours" ∉ body.changes.map Prod.fst ∧
      "recovery_ordering_grace_minutes" ∉ body.changes.map Prod.fst ∧
      "policy_version" ∉ body.changes.map Prod.fst := by
    unfold PolicySettingsBody.changes
    simp
  have hnonempty : ¬ (policySection (body.write settings)).isEmpty = true := by
    intro hempty
    have hget := hwritten "max_retry_attempts" _ List.mem_cons_self
    rw [List.isEmpty_iff.mp hempty] at hget
    cases hget
  have hwindow : intValue py (policySection (body.write settings)) "recovery_window_hours"
      base.recoveryWindowHours = _ :=
    intValue_congr (hkept _ hbesides.1) _
  have hgrace : intValue py (policySection (body.write settings))
      "recovery_ordering_grace_minutes" base.recoveryOrderingGraceMinutes = _ :=
    intValue_congr (hkept _ hbesides.2.1) _
  have hversion : policyVersionOf py (policySection (body.write settings)) base.policyVersion = _ :=
    policyVersionOf_congr (hkept _ hbesides.2.2) _
  have hmember : ∀ entry ∈ body.changes, Json.get? (policySection (body.write settings)) entry.1 =
      some entry.2 := fun entry h => hwritten entry.1 entry.2 h
  unfold PolicySettingsBody.changes at hmember
  simp only [List.forall_mem_cons] at hmember
  obtain ⟨hretries, hdiscount, hbudget, hhigh, hmedium, hcommunications, hstart, hend, hautomatic,
    httl, -⟩ := hmember
  unfold RecoverySettings.mergeMerchant
  dsimp only
  rw [if_neg hnonempty, hwindow, hgrace, decimalValue_of_get? hstr _ hhigh,
    decimalValue_of_get? hstr _ hmedium, intValue_of_get? hretries,
    decimalValue_of_get? hstr _ hdiscount, decimalValue_of_get? hstr _ hbudget,
    intValue_of_get? hcommunications, intValue_of_get? hstart, intValue_of_get? hend,
    boolValue_of_get? hautomatic, intValue_of_get? httl, ← hversion]
  rfl

theorem blockedActions_of_get? (hstr : ∀ text, py.str (.str text) = text) {items : List String}
    (h : Json.get? data "blocked_action_types" = some (.arr (items.map .str))) :
    blockedActions py data = items := by
  unfold blockedActions
  rw [h]
  dsimp only
  rw [List.map_map]
  exact (List.map_congr_left fun text _ => hstr text).trans (List.map_id items)

theorem blocked_mem_changes :
    ("blocked_action_types", .arr (body.blockedActionTypes.map .str)) ∈ body.changes := by
  unfold PolicySettingsBody.changes
  simp

theorem blockedActions_write (hstr : ∀ text, py.str (.str text) = text) :
    blockedActions py (policySection (body.write settings)) = body.blockedActionTypes :=
  blockedActions_of_get? hstr (get?_written body (blocked_mem_changes body))

theorem shownBlockedActions_write (hstr : ∀ text, py.str (.str text) = text) :
    shownBlockedActions py (body.write settings) = body.blockedActionTypes := by
  have hlist : Json.get? (policySection (body.write settings)) "blocked_action_types" = _ :=
    get?_written body (blocked_mem_changes body)
  rw [policySection_write] at hlist
  unfold shownBlockedActions
  rw [nestedPolicy_write, Option.bind_some, hlist]
  dsimp only
  rw [List.map_map]
  exact (List.map_congr_left fun text _ => hstr text).trans (List.map_id _)

end Write

/-! ## The law of the update -/

/-- The settings and the blocked actions that the policy engine is given for a merchant. -/
def effectivePolicy (cfg : Config) (settings : Payload) :
    Except Failure (RecoverySettings × List String) := do
  let merged ← cfg.settings.mergeMerchant cfg.py settings
  return (merged, blockedActions cfg.py (policySection settings))

theorem buildPolicyContext_effective {s : Store} {caseId : ℕ} {c : RecoveryCase} {now : Time}
    {ctx : PolicyContext} (h : buildPolicyContext cfg s caseId c now = .ok ctx) :
    ∃ m, s.merchants.get? c.merchantId = some m ∧
      effectivePolicy cfg m.settings = .ok (ctx.settings, ctx.blockedActionTypes) := by
  unfold buildPolicyContext at h
  split at h
  · cases h
  · rename_i m hm
    obtain ⟨merged, hmerged, h⟩ := Lib.bind_eq_ok.mp h
    obtain rfl := Except.ok.inj h
    refine ⟨m, hm, ?_⟩
    unfold effectivePolicy
    rw [hmerged]
    rfl

/-- The view has the value of the request wherever the request has one. -/
structure PolicyView.Shows (view : PolicyView) (body : PolicySettingsBody py) : Prop where
  maxRetryAttempts : view.maxRetryAttempts = body.maxRetryAttempts
  maxDiscountPercent : view.maxDiscountPercent = .finite body.maxDiscountPercent.value
  maxDailyDiscountBudget : view.maxDailyDiscountBudget = .finite body.maxDailyDiscountBudget.value
  highValueApprovalThreshold :
    view.highValueApprovalThreshold = .finite body.highValueApprovalThreshold.value
  mediumValueApprovalThreshold :
    view.mediumValueApprovalThreshold = .finite body.mediumValueApprovalThreshold.value
  maxCommunicationsPerDay : view.maxCommunicationsPerDay = body.maxCommunicationsPerDay
  quietHoursStart : view.quietHoursStart = body.quietHoursStart
  quietHoursEnd : view.quietHoursEnd = body.quietHoursEnd
  automaticRecoveryEnabled : view.automaticRecoveryEnabled = body.automaticRecoveryEnabled
  approvalTtlMinutes : view.approvalTtlMinutes = body.approvalTtlMinutes
  blockedActionTypes : view.blockedActionTypes = body.blockedActionTypes

theorem besides_shows (body : PolicySettingsBody py) (window grace : ℤ) (policyVersion : String) :
    ((body.besides window grace policyVersion).view body.blockedActionTypes).Shows body :=
  ⟨rfl, rfl, rfl, rfl, rfl, rfl, rfl, rfl, rfl, rfl, rfl⟩

/-- After an update that returns, the policy engine works with the request and `get_policy`
shows it. After one of a document that could be read before, it returns, and the settings that
the request does not have are as they were. -/
def PolicyUpdateLaw (cfg : Config) (s : Store) (merchantId : ℕ) (body : PolicySettingsBody cfg.py) :
    Prop :=
  ∀ m, s.merchants.get? merchantId = some m → body.check = .ok () →
    (∀ view s', (updatePolicy cfg merchantId body).run s = (.ok view, s') →
      ∃ m' merged blocked, s'.merchants.get? merchantId = some m' ∧
        effectivePolicy cfg m'.settings = .ok (merged, blocked) ∧
        (merged.view blocked).Shows body ∧ getPolicy cfg m' = .ok view ∧ view.Shows body) ∧
    ∀ before blocked, effectivePolicy cfg m.settings = .ok (before, blocked) →
      ∃ view s' m' after blocked', (updatePolicy cfg merchantId body).run s = (.ok view, s') ∧
        s'.merchants.get? merchantId = some m' ∧
        effectivePolicy cfg m'.settings = .ok (after, blocked') ∧ SameBeside before after

/-- The document has a nested policy, or what it says of the settings that a request does not
have is what the environment says. -/
def KeepsBeside (cfg : Config) (settings : Payload) : Prop :=
  (nestedPolicy settings).isSome = true ∨
    (intValue cfg.py settings "recovery_window_hours" cfg.settings.recoveryWindowHours =
        .ok cfg.settings.recoveryWindowHours ∧
      intValue cfg.py settings "recovery_ordering_grace_minutes"
          cfg.settings.recoveryOrderingGraceMinutes =
        .ok cfg.settings.recoveryOrderingGraceMinutes ∧
      policyVersionOf cfg.py settings cfg.settings.policyVersion = cfg.settings.policyVersion)

variable {s : Store} {merchantId : ℕ} {m : Merchant}

/-- The merchant's row after an update. -/
def Merchant.withPolicy (m : Merchant) (body : PolicySettingsBody py) : Merchant :=
  { m with settings := body.write m.settings }

theorem run_updatePolicy (body : PolicySettingsBody cfg.py)
    (h : s.merchants.get? merchantId = some m) (hcheck : body.check = .ok ()) :
    (updatePolicy cfg merchantId body).run s = (getPolicy cfg (m.withPolicy body),
      { s with merchants := s.merchants.modify merchantId (·.withPolicy body) }) := by
  have hwritten : (s.merchants.modify merchantId (·.withPolicy body)).get? merchantId =
      some (m.withPolicy body) := by
    rw [Table.get?_modify_self, h]
    rfl
  have hread : (readMerchant merchantId).run
      { s with merchants := s.merchants.modify merchantId (·.withPolicy body) } =
        (.ok (m.withPolicy body),
          { s with merchants := s.merchants.modify merchantId (·.withPolicy body) }) := by
    unfold readMerchant
    rw [Session.run_get_bind]
    dsimp only
    rw [hwritten]
    rfl
  have hmodify : (Service.modifyMerchant merchantId
      fun m => { m with settings := body.write m.settings }).run s =
        (.ok (), { s with merchants := s.merchants.modify merchantId (·.withPolicy body) }) := rfl
  unfold updatePolicy
  rw [Session.run_ofExcept_bind, hcheck]
  dsimp only
  rw [Session.run_bind_ok hmodify, Session.run_bind_ok hread]
  rfl

/-- Every update of a document that can be read afterwards shows the request. -/
theorem getPolicy_withPolicy (hstr : ∀ text, cfg.py.str (.str text) = text)
    (body : PolicySettingsBody cfg.py) :
    getPolicy cfg (m.withPolicy body) =
      (cfg.settings.mergeMerchant cfg.py (body.write m.settings)).map fun merged =>
        merged.view body.blockedActionTypes := by
  unfold getPolicy Merchant.withPolicy
  dsimp only
  rw [shownBlockedActions_write body hstr]
  cases cfg.settings.mergeMerchant cfg.py (body.write m.settings) <;> rfl

theorem effectivePolicy_withPolicy (hstr : ∀ text, cfg.py.str (.str text) = text)
    (body : PolicySettingsBody cfg.py) :
    effectivePolicy cfg (m.withPolicy body).settings =
      (cfg.settings.mergeMerchant cfg.py (body.write m.settings)).map fun merged =>
        (merged, body.blockedActionTypes) := by
  unfold effectivePolicy Merchant.withPolicy
  dsimp only
  rw [blockedActions_write body hstr]
  cases cfg.settings.mergeMerchant cfg.py (body.write m.settings) <;> rfl

/-- The merge after an update: the request, next to the settings of the nested policy that was
there. -/
theorem mergeMerchant_write_ok (hstr : ∀ text, py.str (.str text) = text)
    (body : PolicySettingsBody py) (h : base.mergeMerchant py (body.write settings) = .ok merged) :
    ∃ window grace policyVersion, merged = body.besides window grace policyVersion := by
  rw [mergeMerchant_write body hstr] at h
  obtain ⟨window, -, h⟩ := Lib.bind_eq_ok.mp h
  obtain ⟨grace, -, h⟩ := Lib.bind_eq_ok.mp h
  exact ⟨window, grace, _, (Except.ok.inj h).symm⟩

/-- Which settings an update puts beside the request. -/
theorem mergeMerchant_write_beside (hstr : ∀ text, py.str (.str text) = text)
    (body : PolicySettingsBody py) {before : RecoverySettings}
    (h : base.mergeMerchant py settings = .ok before) :
    ∃ after, base.mergeMerchant py (body.write settings) = .ok after ∧
      SameBeside (if (nestedPolicy settings).isSome then before else base) after := by
  rw [mergeMerchant_write body hstr]
  obtain ⟨hwindow, hgrace, hversion⟩ := mergeMerchant_beside h
  cases hnested : nestedPolicy settings with
  | some nested =>
    rw [policySection_of_nested hnested] at hwindow hgrace hversion
    rw [Option.getD_some, hwindow, hgrace, hversion]
    exact ⟨_, rfl, rfl, rfl, rfl⟩
  | none => exact ⟨_, rfl, rfl, rfl, rfl⟩

/-- What an update puts beside the request is what was there, or the document kept it. -/
theorem keepsBeside_iff {before after : RecoverySettings}
    (h : cfg.settings.mergeMerchant cfg.py settings = .ok before)
    (hafter : SameBeside (if (nestedPolicy settings).isSome then before else cfg.settings) after) :
    SameBeside before after ↔ KeepsBeside cfg settings := by
  unfold KeepsBeside
  cases hnested : nestedPolicy settings with
  | some nested =>
    rw [hnested] at hafter
    exact ⟨fun _ => .inl rfl, fun _ => hafter⟩
  | none =>
    rw [hnested] at hafter
    obtain ⟨hwindow, hgrace, hversion⟩ := mergeMerchant_beside h
    rw [policySection_of_flat hnested] at hwindow hgrace hversion
    have hsame : SameBeside cfg.settings after := hafter
    constructor
    · intro hkept
      right
      rw [hwindow, hgrace, hversion, ← hkept.recoveryWindowHours,
        ← hkept.recoveryOrderingGraceMinutes, ← hkept.policyVersion, hsame.recoveryWindowHours,
        hsame.recoveryOrderingGraceMinutes, hsame.policyVersion]
      exact ⟨rfl, rfl, rfl⟩
    · intro hkeeps
      obtain ⟨hwindow', hgrace', hversion'⟩ := hkeeps.resolve_left (by simp)
      have hw := Except.ok.inj (hwindow.symm.trans hwindow')
      have hg := Except.ok.inj (hgrace.symm.trans hgrace')
      have hv := hversion.symm.trans hversion'
      exact ⟨hsame.recoveryWindowHours.trans hw.symm,
        hsame.recoveryOrderingGraceMinutes.trans hg.symm, hsame.policyVersion.trans hv.symm⟩

/-- After an update that returns, every decision about a case of the merchant is made with the
request. -/
theorem updatedPolicy_governs (hstr : ∀ text, cfg.py.str (.str text) = text)
    (body : PolicySettingsBody cfg.py) (hm : s.merchants.get? merchantId = some m)
    (hcheck : body.check = .ok ()) {view : PolicyView} {s' : Store}
    (hrun : (updatePolicy cfg merchantId body).run s = (.ok view, s')) {c : RecoveryCase}
    (hc : c.merchantId = merchantId) {caseId : ℕ} {now : Time} {ctx : PolicyContext}
    (hctx : buildPolicyContext cfg s' caseId c now = .ok ctx) :
    (ctx.settings.view ctx.blockedActionTypes).Shows body := by
  rw [run_updatePolicy body hm hcheck] at hrun
  obtain ⟨-, rfl⟩ := Prod.mk.inj hrun
  obtain ⟨m', hm', heffective⟩ := buildPolicyContext_effective hctx
  have hrow : m' = m.withPolicy body := by
    rw [hc, Table.get?_modify_self, hm] at hm'
    exact (Option.some.inj hm').symm
  rw [hrow, effectivePolicy_withPolicy hstr] at heffective
  cases hmerged : cfg.settings.mergeMerchant cfg.py (body.write m.settings) with
  | error f =>
    rw [hmerged] at heffective
    cases heffective
  | ok merged =>
    rw [hmerged] at heffective
    obtain ⟨window, grace, policyVersion, rfl⟩ := mergeMerchant_write_ok hstr body hmerged
    obtain ⟨hsettings, hblocked⟩ := Prod.mk.inj (Except.ok.inj heffective)
    rw [← hsettings, ← hblocked]
    exact besides_shows body window grace policyVersion

/-- `update_policy` obeys the law exactly when it hides nothing of a flat document. -/
theorem policyUpdateLaw_iff (hstr : ∀ text, cfg.py.str (.str text) = text)
    (body : PolicySettingsBody cfg.py) :
    PolicyUpdateLaw cfg s merchantId body ↔
      ∀ m effective, s.merchants.get? merchantId = some m → body.check = .ok () →
        effectivePolicy cfg m.settings = .ok effective → KeepsBeside cfg m.settings := by
  constructor
  · intro hlaw m effective hm hcheck heffective
    obtain ⟨before, blocked⟩ := effective
    obtain ⟨view, s', m', after, blocked', hrun, hm', hafter, hsame⟩ :=
      (hlaw m hm hcheck).2 before blocked heffective
    obtain ⟨merged, hbefore, heq⟩ := Lib.bind_eq_ok.mp heffective
    obtain ⟨rfl, -⟩ := Prod.mk.inj (Except.ok.inj heq)
    obtain ⟨written, hwritten, hbeside⟩ := mergeMerchant_write_beside hstr body hbefore
    rw [run_updatePolicy body hm hcheck] at hrun
    obtain ⟨-, rfl⟩ := Prod.mk.inj hrun
    -- the write is the document of the merchant with the body beside it
    have hrow : m' = m.withPolicy body := by
      have hget : (s.merchants.modify merchantId (·.withPolicy body)).get? merchantId = some m' :=
        hm'
      rw [Table.get?_modify_self, hm] at hget
      exact (Option.some.inj hget).symm
    rw [hrow, effectivePolicy_withPolicy hstr, hwritten] at hafter
    obtain ⟨rfl, -⟩ := Prod.mk.inj (Except.ok.inj hafter)
    exact (keepsBeside_iff hbefore hbeside).mp hsame
  · intro hkeeps m hm hcheck
    have hrun := run_updatePolicy body hm hcheck
    have hrow : (s.merchants.modify merchantId (·.withPolicy body)).get? merchantId =
        some (m.withPolicy body) := by
      rw [Table.get?_modify_self, hm]
      rfl
    refine ⟨fun view s' hreturns => ?_, fun before blocked heffective => ?_⟩
    · rw [hrun] at hreturns
      obtain ⟨hview, rfl⟩ := Prod.mk.inj hreturns
      have hshown := hview
      rw [getPolicy_withPolicy hstr] at hshown
      cases hmerged : cfg.settings.mergeMerchant cfg.py (body.write m.settings) with
      | error f =>
        rw [hmerged] at hshown
        cases hshown
      | ok merged =>
        rw [hmerged] at hshown
        -- the merge takes every field of the body, and from the document only what the body does
        -- not have
        obtain ⟨window, grace, policyVersion, rfl⟩ := mergeMerchant_write_ok hstr body hmerged
        have hshows := besides_shows body window grace policyVersion
        refine ⟨_, _, _, hrow, ?_, hshows, hview, ?_⟩
        · rw [effectivePolicy_withPolicy hstr, hmerged]
          rfl
        · rw [← Except.ok.inj hshown]
          exact hshows
    · obtain ⟨merged, hbefore, heq⟩ := Lib.bind_eq_ok.mp heffective
      obtain ⟨rfl, -⟩ := Prod.mk.inj (Except.ok.inj heq)
      obtain ⟨after, hafter, hbeside⟩ := mergeMerchant_write_beside hstr body hbefore
      have hview : getPolicy cfg (m.withPolicy body) =
          .ok (after.view body.blockedActionTypes) := by
        rw [getPolicy_withPolicy hstr, hafter]
        rfl
      have heffective' : effectivePolicy cfg (m.withPolicy body).settings =
          .ok (after, body.blockedActionTypes) := by
        rw [effectivePolicy_withPolicy hstr, hafter]
        rfl
      rw [hview] at hrun
      exact ⟨_, _, _, after, _, hrun, hrow, heffective',
        (keepsBeside_iff hbefore hbeside).mpr (hkeeps m _ hm hcheck heffective)⟩

/-! ### A flat document -/

/-- The only amount is "10". -/
def tenText : PyText :=
  { wholeNumberText with decimal := fun text => if text = "10" then some (.finite 10) else none }

def tenConfig : Config where
  py := tenText

def tenRupees : SentDecimal tenText where
  value := 10
  text := "10"
  nonempty := by decide
  reads := rfl

/-- A request in which every amount is 10. -/
def tenBody : PolicySettingsBody tenConfig.py where
  maxRetryAttempts := 3
  maxDiscountPercent := tenRupees
  maxDailyDiscountBudget := tenRupees
  highValueApprovalThreshold := tenRupees
  mediumValueApprovalThreshold := tenRupees
  maxCommunicationsPerDay := 3
  quietHoursStart := 21
  quietHoursEnd := 8
  automaticRecoveryEnabled := true
  approvalTtlMinutes := 60
  retryAttempts_mem := by decide
  discountPercent_mem := by decide +kernel
  budget_nonneg := by decide +kernel
  highThreshold_nonneg := by decide +kernel
  mediumThreshold_nonneg := by decide +kernel
  communications_mem := by decide
  quietStart_mem := by decide
  quietEnd_mem := by decide
  approvalTtl_mem := by decide

/-- A merchant who has shortened the recovery window to a day. -/
def oneDayWindow : Payload := [("recovery_window_hours", .int 24)]

/-- The window is part of a nested policy. -/
def nestedStore : Store where
  merchants := ⟨[{ settings := [("policy", .obj oneDayWindow)] }]⟩

theorem policyUpdateLaw_nested : PolicyUpdateLaw tenConfig nestedStore 0 tenBody := by
  refine (policyUpdateLaw_iff (fun _ => rfl) tenBody).mpr ?_
  intro m effective hm hcheck heffective
  obtain rfl := Option.some.inj hm
  exact .inl rfl

/-- The window is part of the document itself. -/
def flatStore : Store where
  merchants := ⟨[{ settings := oneDayWindow }]⟩

/-- After the update, the window is that of the environment again. -/
theorem policyUpdateLaw_flat : ¬ PolicyUpdateLaw tenConfig flatStore 0 tenBody := by
  intro hlaw
  have hm : flatStore.merchants.get? 0 = some { settings := oneDayWindow } := rfl
  have hcheck : tenBody.check = .ok () := by
    unfold PolicySettingsBody.check
    rw [if_neg (by decide), if_neg (by decide +kernel)]
  have hbefore : tenConfig.settings.mergeMerchant tenConfig.py oneDayWindow =
      .ok { recoveryWindowHours := 24 } := rfl
  obtain ⟨view, s', m', after, blocked, hrun, hm', hafter, hsame⟩ :=
    (hlaw _ hm hcheck).2 { recoveryWindowHours := 24 } [] rfl
  obtain ⟨written, hwritten, hbeside⟩ := mergeMerchant_write_beside (fun _ => rfl) tenBody hbefore
  rw [run_updatePolicy tenBody hm hcheck] at hrun
  obtain ⟨-, rfl⟩ := Prod.mk.inj hrun
  obtain rfl : Merchant.withPolicy { settings := oneDayWindow } tenBody = m' :=
    Option.some.inj hm'
  rw [effectivePolicy_withPolicy fun _ => rfl, hwritten] at hafter
  obtain ⟨rfl, -⟩ := Prod.mk.inj (Except.ok.inj hafter)
  have hwindow : (24 : ℤ) = 72 :=
    hsame.recoveryWindowHours.symm.trans hbeside.recoveryWindowHours
  exact absurd hwindow (by decide)

end ReviveX
