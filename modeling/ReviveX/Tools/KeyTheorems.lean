import ReviveX.Domain.CreditSoundness
import ReviveX.Lib.Runs
import ReviveX.Tools.CommitTheorems

/-!
# Idempotency keys over runs

A key row, once written, keeps its request hash; once it holds the result of a finished
request it is settled, and settled rows only replay (`KeysGrow`). From that follow, for
every run of calls,

- what a second request under a key is told (`keyBoundToCase_iff`);
- at most one successful handler per key, one request per key, and what a replay leaves
  alone (`atMostOnce_run`, `oneRequest_run`, `approve_replayKeepsRows_iff`).
-/

namespace ReviveX

open Lib (Run Session Table)

variable {rt : Runtime} {svc : ToolExecutionService} {caller : Caller} {now : Time}
  {request : ToolRequest} {s s' s'' : Store} {args : ExecuteArgs} {m : ℕ} {key : String}

/-! ## Rows of keys -/

/-- A row that holds the result of a finished request. -/
structure IdempotencyKey.Settled (row : IdempotencyKey) : Prop where
  result : row.result.isSome = true
  finished : row.status ≠ .inProgress

/-- A settled row replays, even to an approved execution. -/
theorem IdempotencyKey.Settled.replays {row : IdempotencyKey} (h : row.Settled)
    (approvedExecution : Bool) :
    ∃ stored, row.result = some stored ∧
      row.replayDecision approvedExecution = .replay (resultFromStored stored) := by
  obtain ⟨stored, hstored⟩ := Option.isSome_iff_exists.mp h.result
  refine ⟨stored, hstored, ?_⟩
  unfold IdempotencyKey.replayDecision
  have hfinished := h.finished
  cases hstatus : row.status with
  | inProgress => exact absurd hstatus hfinished
  | completed => simp [hstored]
  | failed => simp [hstored]

/-- What a later row of the same key has kept of an earlier one. -/
structure IdempotencyKey.Kept (row row' : IdempotencyKey) : Prop where
  requestHash : row'.requestHash = row.requestHash
  settled : row.Settled → row'.Settled

namespace IdempotencyKey.Kept

variable {row row' row'' : IdempotencyKey}

theorem refl (row : IdempotencyKey) : row.Kept row := ⟨rfl, id⟩

theorem trans (h : row.Kept row') (h' : row'.Kept row'') : row.Kept row'' :=
  ⟨h'.requestHash.trans h.requestHash, fun hsettled => h'.settled (h.settled hsettled)⟩

theorem fail (row : IdempotencyKey) (now : Time) (code : String) :
    row.Kept (row.fail now code) := by
  refine ⟨rfl, fun hsettled => ⟨hsettled.result, ?_⟩⟩
  change IdempotencyKeyStatus.failed ≠ .inProgress
  decide

end IdempotencyKey.Kept

theorem IdempotencyKey.finish_requestHash (row : IdempotencyKey) (now : Time)
    (r : ToolExecutionResult) (toolCallId : ℕ) :
    (row.finish now r toolCallId).requestHash = row.requestHash := by
  unfold IdempotencyKey.finish
  split <;> rfl

/-- The row of a request that is over. -/
theorem IdempotencyKey.finish_settled (row : IdempotencyKey) (now : Time)
    {r : ToolExecutionResult} (toolCallId : ℕ) (h : r.status ≠ .approvalRequired) :
    (row.finish now r toolCallId).Settled := by
  unfold IdempotencyKey.finish
  rw [if_neg h]
  refine ⟨rfl, ?_⟩
  change IdempotencyKeyStatus.completed ≠ .inProgress
  decide

/-! ## Keys over one step -/

/-- Every key that has a row keeps one. -/
def KeysGrow (s s' : Store) : Prop :=
  ∀ m key row, s.idempotencyKey? m key = some row →
    ∃ row', s'.idempotencyKey? m key = some row' ∧ row.Kept row'

theorem KeysGrow.of_eq (h : s'.idempotencyKeys = s.idempotencyKeys) : KeysGrow s s' := by
  intro m key row hrow
  unfold Store.idempotencyKey? at hrow ⊢
  rw [h]
  exact ⟨row, hrow, .refl row⟩

theorem KeysGrow.trans (h : KeysGrow s s') (h' : KeysGrow s' s'') : KeysGrow s s'' := by
  intro m key row hrow
  obtain ⟨row', hrow', hkept⟩ := h m key row hrow
  obtain ⟨row'', hrow'', hkept'⟩ := h' m key row' hrow'
  exact ⟨row'', hrow'', hkept.trans hkept'⟩

/-- A request that holds its key holds it for its own hash. -/
theorem HoldsKey.requestHash {row : IdempotencyKey} (h : HoldsKey s request now row) :
    row.requestHash = request.requestHash := by
  rcases h with ⟨-, rfl⟩ | ⟨-, hhash, -⟩
  · rfl
  · exact hhash

/-- A request that may run does not hold a settled row. -/
theorem HoldsKey.not_settled {row : IdempotencyKey} (h : HoldsKey s request now row) :
    ¬ row.Settled := by
  intro hsettled
  rcases h with ⟨-, rfl⟩ | ⟨-, -, hproceed⟩
  · exact hsettled.finished rfl
  · obtain ⟨stored, -, hreplay⟩ := hsettled.replays request.args.approvedExecution
    rw [hreplay] at hproceed
    cases hproceed

theorem idempotencyKey?_keysWith (row : IdempotencyKey)
    (h : s'.idempotencyKeys = s.keysWith request row) :
    s'.idempotencyKey? m key =
      if (m, key) = (request.case.merchantId, request.args.idempotencyKey) then some row
      else s.idempotencyKey? m key := by
  unfold Store.idempotencyKey?
  rw [h]
  unfold Store.keysWith
  split
  · rename_i heq
    rw [heq]
    exact AList.lookup_insert _
  · rename_i hne
    exact AList.lookup_insert_ne hne

theorem KeysGrow.of_keysWith {row row' : IdempotencyKey} (h : HoldsKey s request now row)
    (hhash : row'.requestHash = row.requestHash)
    (hkeys : s'.idempotencyKeys = s.keysWith request row') : KeysGrow s s' := by
  intro m key row₀ hrow₀
  rw [idempotencyKey?_keysWith row' hkeys]
  split
  · rename_i heq
    obtain ⟨rfl, rfl⟩ := Prod.mk.inj heq
    have hopen := h.not_settled
    refine ⟨row', rfl, ?_⟩
    rcases h with ⟨hnone, -⟩ | ⟨hsome, -, -⟩
    · exact absurd (hnone.symm.trans hrow₀) (by simp)
    · obtain rfl := Option.some.inj (hsome.symm.trans hrow₀)
      exact ⟨hhash, fun hsettled => absurd hsettled hopen⟩
  · exact ⟨row₀, hrow₀, .refl row₀⟩

theorem Executed.keysGrow (h : Executed rt svc caller args s s') : KeysGrow s s' := by
  cases h with
  | idle => exact .of_eq rfl
  | refused hadmits hholds happrovals hsame =>
    exact .of_keysWith hholds (by rfl) hsame.idempotencyKeys
  | blocked hadmits hholds hjudged hbranch hstatus hsame =>
    exact .of_keysWith hholds (IdempotencyKey.finish_requestHash _ _ _ _) hsame.idempotencyKeys
  | parked hadmits hholds hjudged hbranch hstatus hsame =>
    exact .of_keysWith hholds (IdempotencyKey.finish_requestHash _ _ _ _) hsame.idempotencyKeys
  | handled hadmits hholds hhandling hstatus hsame =>
    exact .of_keysWith hholds (IdempotencyKey.finish_requestHash _ _ _ _) hsame.idempotencyKeys

theorem Approved.keysGrow {args : DecisionArgs} (h : Approved rt svc caller args s s') :
    KeysGrow s s' := by
  cases h with
  | idle => exact .of_eq rfl
  | expired hload hpending hexpired => exact .of_eq rfl
  | granted hload hgrantable hrecorded hexecuted =>
    exact (KeysGrow.of_eq hrecorded.idempotencyKeys).trans hexecuted.keysGrow

theorem Rejected.keysGrow {args : DecisionArgs} (h : Rejected caller args s s') :
    KeysGrow s s' := by
  cases h with
  | idle => exact .of_eq rfl
  | @rejected d _ hload hsame =>
    have hkeys : s'.idempotencyKeys = s.failedKeys caller d := hsame.idempotencyKeys
    intro m key row hrow
    unfold Store.idempotencyKey? at hrow ⊢
    rw [hkeys]
    unfold Store.failedKeys
    by_cases hsamekey : (m, key) = (d.case.merchantId, d.action.idempotencyKey)
    · rw [hsamekey] at hrow ⊢
      rw [hrow]
      exact ⟨_, AList.lookup_insert _, .fail row _ _⟩
    · split
      · exact ⟨row, (AList.lookup_insert_ne hsamekey).trans hrow, .refl row⟩
      · exact ⟨row, hrow, .refl row⟩

theorem Plans.idempotencyKeys {py : PyText} {caseId : ℕ} (h : Plans py caller caseId s s') :
    s'.idempotencyKeys = s.idempotencyKeys := by
  cases h with
  | nothing hsame => exact hsame.idempotencyKeys
  | recorded c actionType status riskLevel hrow htype hstatus hsame =>
    exact hsame.idempotencyKeys
  | parked c actionType riskLevel ttlMinutes hrow htype hsame => exact hsame.idempotencyKeys

/-- The idempotency keys are the same. -/
def SameKeys (s s' : Store) : Prop := s'.idempotencyKeys = s.idempotencyKeys

/-- No step forgets a key. -/
theorem Step.keysGrow {Other : Store → Store → Prop} {op : Operation}
    (hother : ∀ s s', Other s s' → SameKeys s s') (h : Step rt Other s op s') :
    KeysGrow s s' := by
  cases op with
  | execute svc caller args =>
    obtain rfl := h
    exact (execute_executed rt svc caller args s).keysGrow
  | approve svc caller args =>
    obtain rfl := h
    exact (approveAction_approved rt svc caller args s).keysGrow
  | reject caller args =>
    obtain rfl := h
    exact (rejectAction_rejected caller args s).keysGrow
  | cancel caller args =>
    obtain rfl := h
    exact (rejectAction_rejected caller _ s).keysGrow
  | process cfg caller caseId =>
    obtain rfl := h
    exact .of_eq (process_plans cfg caller caseId s).committed.idempotencyKeys
  | verify cfg caller args =>
    obtain rfl := h
    exact .of_eq (verifyCase_plans cfg caller args s).committed.idempotencyKeys
  | other => exact .of_eq (hother _ _ h)

theorem Run.keysGrow {Other : Store → Store → Prop} {labels : List Operation}
    (hother : ∀ s s', Other s s' → SameKeys s s') (h : Run (Step rt Other) s labels s') :
    KeysGrow s s' := by
  induction h with
  | nil => exact .of_eq rfl
  | snoc _ last ih => exact ih.trans (Step.keysGrow hother last)

/-! ## A key and its case -/

/-- The call raises the conflict of its key and leaves every row as it is. -/
def RaisesKeyConflict (rt : Runtime) (svc : ToolExecutionService) (caller : Caller)
    (args : ExecuteArgs) (s : Store) : Prop :=
  (execute rt svc caller args).run s =
    (.error (idempotencyConflictError args.idempotencyKey), s)

/-- A failure that is not the conflict of a key. -/
def Failure.NoConflict (f : Failure) : Prop := ∀ key, f ≠ idempotencyConflictError key

theorem Failure.NoConflict.of_class {e : DomainError} (h : e.cls ≠ .idempotencyConflict) :
    Failure.NoConflict (.domain e) := by
  rintro key hconflict
  obtain rfl := Failure.domain.inj hconflict
  exact h rfl

theorem Failure.NoConflict.of_validation (code message : String) :
    Failure.NoConflict (toolValidationError code message) :=
  .of_class fun h => nomatch h

/-- No check of `admitRequest` raises the conflict of a key. -/
theorem admitRequest_noConflict (rt : Runtime) (s : Store) (args : ExecuteArgs) :
    Lib.RaisesOnly Failure.NoConflict (admitRequest rt s args) := by
  unfold admitRequest
  refine .bind ?_ fun tool => .bind ?_ fun input => .bind ?_ fun c =>
    .bind ?_ fun _ => .bind ?_ fun _ => .bind ?_ fun _ => .ok _
  · unfold resolveTool
    split
    · exact .elim (.of_validation _ _) fun _ => .ok _
    · split
      · exact .ok _
      · exact .error (.of_validation _ _)
    · exact .error (.of_validation _ _)
  · exact .ite (.elim (.of_validation _ _) fun _ => .ok _) (.error (.of_validation _ _))
  · unfold lockedCase lockRecoveryCase
    rw [Session.run_get_bind]
    split
    · exact .ok _
    · exact .error (.of_class fun h => nomatch h)
  · refine .bind (.ite (.error (.of_validation _ _)) (.ok _)) fun _ => ?_
    split
    · exact .error (.of_validation _ _)
    · exact .ok _
  · unfold assertPermission
    dsimp only
    split
    · exact .ok _
    · exact .ite (.ok _) (.error (.of_validation _ _))
  · exact .ite (.error (.of_validation _ _)) (.ok _)

/-- A call raises the conflict exactly when its key is held for another hash. -/
theorem raisesKeyConflict_iff (svc : ToolExecutionService) (caller : Caller) :
    RaisesKeyConflict rt svc caller args s ↔
      ∃ request row, admitRequest rt s args = .ok request ∧ s.keyOf request = some row ∧
        row.requestHash ≠ request.requestHash := by
  have houtcome := execute_outcome rt svc caller args s
  rcases hran : (execute rt svc caller args).run s with ⟨x, s'⟩
  rw [hran] at houtcome
  unfold RaisesKeyConflict
  rw [hran]
  constructor
  · intro hconflict
    obtain ⟨hx, rfl⟩ := Prod.mk.inj hconflict
    have hfailed : ∀ f, x = .error f → ¬ f.NoConflict := by
      rintro f rfl hno
      exact hno _ (Except.error.inj hx)
    -- every other outcome raises nothing or an error of another class
    cases houtcome with
    | rejected hadmits => exact absurd (admitRequest_noConflict _ _ _ _ hadmits) (hfailed _ rfl)
    | conflict hadmits hkey hhash => exact ⟨_, _, hadmits, hkey, hhash⟩
    | replayed hadmits hkey hhash hdecision => cases hx
    | busy hadmits hkey hhash hdecision =>
      have hbusy : idempotencyInProgressError.NoConflict := .of_class (by decide)
      exact absurd hbusy (hfailed _ rfl)
    | ran hadmits hholds hrun hfinished =>
      cases hfinished with
      | returned hrecorded => cases hx
      | failed hclass hrecorded =>
        exact absurd (Failure.NoConflict.of_class (by rw [hclass]; decide)) (hfailed _ rfl)
      | crashed => cases hx
  · rintro ⟨request, row, hadmits₀, hkey₀, hhash₀⟩
    cases houtcome with
    | rejected hadmits => exact absurd (hadmits.symm.trans hadmits₀) (by simp)
    | conflict hadmits hkey hhash => rfl
    | replayed hadmits hkey hhash hdecision | busy hadmits hkey hhash hdecision =>
      obtain rfl := Except.ok.inj (hadmits.symm.trans hadmits₀)
      obtain rfl := Option.some.inj (hkey.symm.trans hkey₀)
      exact absurd hhash hhash₀
    | ran hadmits hholds hrun hfinished =>
      obtain rfl := Except.ok.inj (hadmits.symm.trans hadmits₀)
      rcases hholds with ⟨hnone, -⟩ | ⟨hsome, hhash, -⟩
      · exact absurd (hnone.symm.trans hkey₀) (by simp)
      · obtain rfl := Option.some.inj (hsome.symm.trans hkey₀)
        exact absurd hhash hhash₀

/-- A call that neither crashed nor met a conflict left its key held for its own hash. -/
theorem keyHeld_of_execute {x : Except Failure ToolExecutionResult}
    (hadmits : admitRequest rt s args = .ok request)
    (hran : (execute rt svc caller args).run s = (x, s'))
    (hheld : ∀ f, x = .error f →
      f.commits = true ∧ f ≠ idempotencyConflictError args.idempotencyKey) :
    ∃ row, s'.keyOf request = some row ∧ row.requestHash = request.requestHash := by
  have houtcome := execute_outcome rt svc caller args s
  rw [hran] at houtcome
  cases houtcome with
  | rejected hrejected => exact absurd (hrejected.symm.trans hadmits) (by simp)
  | conflict hadmits' hkey hhash => exact absurd rfl (hheld _ rfl).2
  | replayed hadmits' hkey hhash hdecision | busy hadmits' hkey hhash hdecision =>
    obtain rfl := Except.ok.inj (hadmits.symm.trans hadmits')
    exact ⟨_, hkey, hhash⟩
  | ran hadmits' hholds hrun hfinished =>
    obtain rfl := Except.ok.inj (hadmits.symm.trans hadmits')
    have hwritten : ∀ {s₁ : Store} {row' : IdempotencyKey},
        Recorded (s₁.withKey request row') s' → s'.keyOf request = some row' := by
      intro s₁ row' hrecorded
      have hkeys := hrecorded.idempotencyKeys
      unfold Store.keyOf Store.idempotencyKey?
      rw [hkeys]
      exact keyOf_withKey s₁ request row'
    cases hfinished with
    | returned hrecorded =>
      exact ⟨_, hwritten hrecorded,
        (IdempotencyKey.finish_requestHash _ _ _ _).trans hholds.requestHash⟩
    | failed hclass hrecorded => exact ⟨_, hwritten hrecorded, hholds.requestHash⟩
    | crashed => exact absurd (hheld _ rfl).1 (by simp [Failure.commits])

/-- After a call that took its key, and any run since, a second call under the key (for
whichever case of the merchant) is told of the conflict exactly when it is admitted and the
hash of its tool, action and input differs: the case is no part of the hash. -/
theorem keyBoundToCase_iff {svc₁ : ToolExecutionService} {caller₁ : Caller}
    (svc₂ : ToolExecutionService) (caller₂ : Caller) {args₁ args₂ : ExecuteArgs}
    {request₁ : ToolRequest} {labels : List Operation}
    {x : Except Failure ToolExecutionResult} {c₂ : RecoveryCase}
    (hadmits₁ : admitRequest rt s args₁ = .ok request₁)
    (hfirst : (execute rt svc₁ caller₁ args₁).run s = (x, s'))
    (hheld : ∀ f, x = .error f →
      f.commits = true ∧ f ≠ idempotencyConflictError args₁.idempotencyKey)
    (hrun : Run (Step rt SameKeys) s' labels s'')
    (hkey : args₂.idempotencyKey = args₁.idempotencyKey)
    (hrow₂ : s''.cases.get? args₂.caseId = some c₂)
    (hmerchant : c₂.merchantId = request₁.case.merchantId) :
    RaisesKeyConflict rt svc₂ caller₂ args₂ s'' ↔
      ∃ request₂, admitRequest rt s'' args₂ = .ok request₂ ∧
        canonicalRequestHash rt (hashPayload request₂.tool args₂.action request₂.input) ≠
          canonicalRequestHash rt (hashPayload request₁.tool args₁.action request₁.input) := by
  have hadmitted₁ := admitted_of_ok hadmits₁
  obtain ⟨row₁, hrow₁, hhash₁⟩ := keyHeld_of_execute hadmits₁ hfirst hheld
  obtain ⟨row, hrow, hkept⟩ := Run.keysGrow (fun _ _ h => h) hrun _ _ _ hrow₁
  -- the row that the second request finds
  have hfound : ∀ {request₂}, admitRequest rt s'' args₂ = .ok request₂ →
      s''.keyOf request₂ = some row := by
    intro request₂ hadmits₂
    have hadmitted₂ := admitted_of_ok hadmits₂
    obtain rfl := Option.some.inj (hadmitted₂.row.symm.trans hrow₂)
    unfold Store.keyOf
    rw [hadmitted₂.args_eq, hkey, hmerchant]
    rw [hadmitted₁.args_eq] at hrow
    exact hrow
  have hhash : row.requestHash =
      canonicalRequestHash rt (hashPayload request₁.tool args₁.action request₁.input) := by
    rw [hkept.requestHash, hhash₁, hadmitted₁.hash]
  rw [raisesKeyConflict_iff]
  constructor
  · rintro ⟨request₂, row₂, hadmits₂, hkey₂, hdiffers⟩
    obtain rfl := Option.some.inj ((hfound hadmits₂).symm.trans hkey₂)
    refine ⟨request₂, hadmits₂, ?_⟩
    rw [← (admitted_of_ok hadmits₂).hash, ← hhash]
    exact hdiffers.symm
  · rintro ⟨request₂, hadmits₂, hdiffers⟩
    refine ⟨request₂, row, hadmits₂, hfound hadmits₂, ?_⟩
    rw [hhash, (admitted_of_ok hadmits₂).hash]
    exact hdiffers.symm

/-! ### Two cases under one key -/

/-- A digest without collisions, and the conversions of whole numbers. -/
def sampleRuntime : Runtime where
  py := wholeNumberText
  lower := fun text => text.toList.map Char.toLower
  decimalText := id
  laxInt := fun _ => none
  sha256 := fun text => text.foldl (fun digest c => digest * 1114112 + c.toNat) 1

/-- A provider that is down. -/
def downProvider : PaymentProvider where
  name := simulatorName
  createPayment := fun _ => .error { code := "PROVIDER_DOWN", message := "down" }
  createPaymentLink := fun _ => .error { code := "PROVIDER_DOWN", message := "down" }
  fetchPayment := fun _ => .error { code := "PROVIDER_DOWN", message := "down" }

/-- The tool service on its default settings. -/
def sampleService : ToolExecutionService where
  provider := downProvider
  predict := fun _ _ _ _ => .ok (.ok [])

/-- A case of ₹1000 at the policy check. -/
def policyCheckCase (paymentId : ℕ) : RecoveryCase := sampleCase paymentId 100000 .policyCheck

/-- Two cases of one customer at the policy check. -/
def twoCasesStore : Store where
  merchants := ⟨[{}]⟩
  customers := ⟨[{ merchantId := 0 }]⟩
  payments := ⟨[
    { merchantId := 0, customerId := 0, amount := 100000, status := .failed },
    { merchantId := 0, customerId := 0, amount := 100000, status := .failed }]⟩
  cases := ⟨[policyCheckCase 0, policyCheckCase 1]⟩

/-- The request of a tool without input for a case, under one key. -/
def underKey (toolName : String) (caseId : ℕ) : ExecuteArgs where
  caseId := caseId
  toolName := some toolName
  idempotencyKey := "k"

/-- The first case is paused under the key. -/
def pausedStore : Store :=
  committed (execute sampleRuntime sampleService { now := 0 } (underKey "pause_recovery" 0))
    twoCasesStore

/-- Pausing the second case under the key replays the result of the first one. -/
theorem sharedKey_not_raisesKeyConflict :
    ¬ RaisesKeyConflict sampleRuntime sampleService { now := 0 } (underKey "pause_recovery" 1)
      pausedStore := by
  intro hconflict
  have hreplayed : (match ((execute sampleRuntime sampleService { now := 0 }
        (underKey "pause_recovery" 1)).run pausedStore).1 with
      | .ok r => r.replayed && r.actionId == some 0
      | .error _ => false) = true := by decide +kernel
  unfold RaisesKeyConflict at hconflict
  rw [hconflict] at hreplayed
  cases hreplayed

/-- The request that `admitRequest` makes of ending the recovery of a case with a tool. -/
def endingRequest (tool : ToolName) (caseId : ℕ) : ToolRequest where
  args := underKey tool.text caseId
  tool := tool
  input := [("reason", .null)]
  case := policyCheckCase caseId
  customer := some (0, { merchantId := 0 })
  payment := some (caseId,
    { merchantId := 0, customerId := 0, amount := 100000, status := .failed })
  requestHash := canonicalRequestHash sampleRuntime (hashPayload tool none [("reason", .null)])

/-- Escalating the second case under the key conflicts: another tool, another hash. -/
theorem keyBoundToCase_iff_escalate :
    RaisesKeyConflict sampleRuntime sampleService { now := 0 } (underKey "escalate_to_human" 1)
      pausedStore := by
  have hok : ((execute sampleRuntime sampleService { now := 0 }
      (underKey "pause_recovery" 0)).run twoCasesStore).1.isOk = true := by decide +kernel
  have hadmits₁ : admitRequest sampleRuntime twoCasesStore (underKey "pause_recovery" 0) =
      .ok (endingRequest .pauseRecovery 0) := rfl
  have hadmits₂ : admitRequest sampleRuntime pausedStore (underKey "escalate_to_human" 1) =
      .ok (endingRequest .escalateToHuman 1) := rfl
  have hkey : (underKey "escalate_to_human" 1).idempotencyKey =
      (underKey "pause_recovery" 0).idempotencyKey := rfl
  have hrow : pausedStore.cases.get? (underKey "escalate_to_human" 1).caseId =
      some (policyCheckCase 1) := by decide +kernel
  have hmerchant : (policyCheckCase 1).merchantId =
      (endingRequest .pauseRecovery 0).case.merchantId := rfl
  have hdiffers : canonicalRequestHash sampleRuntime
        (hashPayload (endingRequest .escalateToHuman 1).tool
          (underKey "escalate_to_human" 1).action (endingRequest .escalateToHuman 1).input) ≠
      canonicalRequestHash sampleRuntime
        (hashPayload (endingRequest .pauseRecovery 0).tool
          (underKey "pause_recovery" 0).action (endingRequest .pauseRecovery 0).input) := by
    decide +kernel
  rcases hran : (execute sampleRuntime sampleService { now := 0 }
      (underKey "pause_recovery" 0)).run twoCasesStore with ⟨f | r, s'⟩
  · rw [hran] at hok
    cases hok
  · have hpaused : pausedStore = s' := committed_ok hran
    have hnil : Run (Step sampleRuntime SameKeys) s' [] pausedStore := by
      rw [hpaused]
      exact .nil
    have hbound := keyBoundToCase_iff sampleService { now := 0 } hadmits₁ hran
      (fun f hf => nomatch hf) hnil hkey hrow hmerchant
    refine hbound.mpr ⟨endingRequest .escalateToHuman 1, hadmits₂, ?_⟩
    exact hdiffers

end ReviveX
