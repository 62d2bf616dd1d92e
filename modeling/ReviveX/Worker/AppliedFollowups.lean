import ReviveX.Events.WireTheorems
import ReviveX.System.ServiceCalls
import ReviveX.Tools.KeyTheorems
import ReviveX.Worker.FollowupJobs

/-!
# Follow-ups without a queue

When the queue cannot be reached, the job of a webhook event applies its follow-ups itself:
`apply_followups` reads the documents that `as_dict` wrote, and makes the calls they name. This
is the step of `FollowupSystem` in which all of them are delivered.
-/

namespace ReviveX

open Lib (Guarded Json Run Session)

/-! ## The documents -/

/-- `FollowUpJob.as_dict`. -/
def FollowUpJob.asDict (env : EventText) : FollowUpJob → Payload
  | .processRecoveryCase caseId webhookEventId =>
    [("name", .str "process_recovery_case"), ("case_id", .str (env.uuidText caseId)),
      ("webhook_event_id", .str (env.uuidText webhookEventId))]
  | .verifyRecoveryCase caseId paymentId webhookEventId =>
    [("name", .str "verify_recovery_case"), ("case_id", .str (env.uuidText caseId)),
      ("payment_id", .str (env.uuidText paymentId)),
      ("webhook_event_id", .str (env.uuidText webhookEventId))]

/-- `UUID(raw) if isinstance(raw, str) else None`. -/
def uuidField (env : EventText) (item : Payload) (key : String) : Except Failure (Option ℕ) :=
  match Json.get? item key with
  | some (.str raw) => (env.uuid raw).elim (.error (.crash "ValueError")) fun i => .ok (some i)
  | _ => .ok none

/-! ## The calls -/

/-- What a follow-up leaves in the list of results. -/
inductive FollowupResult
  | processed (status : RecoveryCaseStatus) (caseId version : ℕ)
  | verified (result : RecoveryMatchResult)

section Calls

variable (env : EventText) (cfg : Config) (caller : Caller)

/-- `process_recovery_case`. -/
def processRecoveryCase (caseId : ℕ) : Service FollowupResult := do
  process cfg caller caseId
  let c ← readCase caseId
  return .processed c.status caseId c.version

/-- `verify_recovery_case`. -/
def verifyRecoveryCase (args : VerifyArgs) : Service FollowupResult := do
  let result ← verifyCase cfg caller args
  return .verified result

/-- The call with a name; any other name is skipped. -/
def followupNamed (name : Option Json) (args : VerifyArgs) : Service (List FollowupResult) :=
  match name with
  | some (.str "process_recovery_case") => do
    let result ← processRecoveryCase cfg caller args.caseId
    return [result]
  | some (.str "verify_recovery_case") => do
    let result ← verifyRecoveryCase cfg caller args
    return [result]
  | _ => return []

/-- One round of the loop of `apply_followups`. -/
def applyFollowup (item : Json) : Service (List FollowupResult) :=
  match item with
  | .obj fields => do
    let caseId ← Session.ofExcept (uuidField env fields "case_id")
    match caseId with
    | none => return []
    | some caseId => do
      let paymentId ← Session.ofExcept (uuidField env fields "payment_id")
      let webhookEventId ← Session.ofExcept (uuidField env fields "webhook_event_id")
      followupNamed cfg caller (Json.get? fields "name") { caseId, paymentId, webhookEventId }
  | _ => return []

/-- `apply_followups`; every round reads the clock for itself. -/
def applyFollowups : (ℕ → Caller) → List Json → Service (List FollowupResult)
  | _, [] => return []
  | callers, item :: rest => do
    let results ← applyFollowup env cfg (callers 0) item
    let others ← applyFollowups (fun n => callers (n + 1)) rest
    return results ++ others

/-- `_apply_followups_now`: every exception rolls the transaction back and is raised again. -/
def applyFollowupsNow (callers : ℕ → Caller) (followups : List Json) : Service Unit :=
  Session.transact (fun _ => false) do
    let _ ← applyFollowups env cfg callers followups
    return ()

end Calls

/-- The call that a follow-up stands for. -/
def FollowUpJob.call (cfg : Config) (caller : Caller) : FollowUpJob → ServiceCall
  | .processRecoveryCase caseId _ => .process cfg caller caseId
  | .verifyRecoveryCase caseId paymentId webhookEventId =>
    .verifyCase cfg caller { caseId, paymentId, webhookEventId }

/-- The calls that follow-ups stand for, each at the time of its round. -/
def followupCalls (cfg : Config) : (ℕ → Caller) → List FollowUpJob → List ServiceCall
  | _, [] => []
  | callers, job :: rest =>
    job.call cfg (callers 0) :: followupCalls cfg (fun n => callers (n + 1)) rest

/-- The call with its result. -/
def FollowUpJob.run (cfg : Config) (caller : Caller) : FollowUpJob → Service FollowupResult
  | .processRecoveryCase caseId _ => ReviveX.processRecoveryCase cfg caller caseId
  | .verifyRecoveryCase caseId paymentId webhookEventId =>
    ReviveX.verifyRecoveryCase cfg caller { caseId, paymentId, webhookEventId }

/-! ## What a document says -/

section Documents

variable {env : EventText} {cfg : Config} {caller : Caller} {s s' : Store}

theorem uuidField_of_text (huuid : ∀ i, env.uuid (env.uuidText i) = some i) {fields : Payload}
    {key : String} {i : ℕ} (h : Json.get? fields key = some (.str (env.uuidText i))) :
    uuidField env fields key = .ok (some i) := by
  unfold uuidField
  rw [h]
  simp [huuid]

theorem uuidField_of_none {fields : Payload} {key : String} (h : Json.get? fields key = none) :
    uuidField env fields key = .ok none := by
  unfold uuidField
  rw [h]

/-- The document of a follow-up is read as the call that it stands for. -/
theorem applyFollowup_asDict (huuid : ∀ i, env.uuid (env.uuidText i) = some i)
    (job : FollowUpJob) :
    applyFollowup env cfg caller (.obj (job.asDict env)) = do
      let result ← job.run cfg caller
      return [result] := by
  cases job with
  | processRecoveryCase caseId webhookEventId =>
    unfold applyFollowup
    dsimp only
    rw [uuidField_of_text huuid (i := caseId) rfl, uuidField_of_none rfl,
      uuidField_of_text huuid (i := webhookEventId) rfl]
    rfl
  | verifyRecoveryCase caseId paymentId webhookEventId =>
    unfold applyFollowup
    dsimp only
    rw [uuidField_of_text huuid (i := caseId) rfl, uuidField_of_text huuid (i := paymentId) rfl,
      uuidField_of_text huuid (i := webhookEventId) rfl]
    rfl

end Documents

/-! ## What the calls do -/

section Effects

variable {env : EventText} {cfg : Config} {caller : Caller} {s s' : Store}

theorem webhookEvents_processorFrame (caseId : ℕ) :
    ProcessorFrame caseId fun s s' => s'.webhookEvents = s.webhookEvents where
  refl _ := rfl
  trans _ _ _ h h' := h'.trans h
  modifyCase _ _ := rfl
  recordAudit _ _ := rfl
  insertPlanned _ _ _ _ _ _ := rfl
  insertDecision _ _ := rfl
  insertPolicyEvaluation _ _ := rfl
  insertApproval _ _ := rfl
  modifyMetadata _ _ _ _ := rfl
  note _ _ := rfl

theorem process_webhookEvents (cfg : Config) (caller : Caller) (caseId : ℕ) (s : Store) :
    ((process cfg caller caseId).run s).2.webhookEvents = s.webhookEvents := by
  have hframe := webhookEvents_processorFrame caseId
  exact hframe.bind (hframe.keeps_lockRecoveryCase caseId)
    (fun _ => keeps_processLockedCase hframe cfg) s

theorem verifyCase_webhookEvents (cfg : Config) (caller : Caller) (args : VerifyArgs)
    (s : Store) : ((verifyCase cfg caller args).run s).2.webhookEvents = s.webhookEvents :=
  keeps_verifyCase cfg caller args (webhookEvents_processorFrame args.caseId) s

theorem readCase_ok {caseId : ℕ} {c : RecoveryCase} (h : (readCase caseId).run s = (.ok c, s')) :
    s' = s := by
  unfold readCase at h
  rw [Session.run_get_bind] at h
  cases hcase : s.cases.get? caseId with
  | none =>
    rw [hcase] at h
    cases h
  | some row =>
    rw [hcase] at h
    exact (Prod.mk.inj h).2.symm

/-- A follow-up that returned has done what its call does, and nothing to the webhook rows. -/
theorem FollowUpJob.run_ok {job : FollowUpJob} {result : FollowupResult}
    (h : (job.run cfg caller).run s = (.ok result, s')) :
    (∀ rt, s' = (job.call cfg caller).after rt s) ∧ s'.webhookEvents = s.webhookEvents := by
  cases job with
  | processRecoveryCase caseId webhookEventId =>
    obtain ⟨_, s₁, hprocess, hrest⟩ := Session.run_bind_eq_ok.mp h
    obtain ⟨c, s₂, hread, hreturn⟩ := Session.run_bind_eq_ok.mp hrest
    obtain rfl := readCase_ok hread
    obtain rfl := (Prod.mk.inj hreturn).2
    have hwebhooks := process_webhookEvents cfg caller caseId s
    rw [hprocess] at hwebhooks
    refine ⟨fun rt => ?_, hwebhooks⟩
    show s₂ = ((process cfg caller caseId).run s).2
    rw [hprocess]
  | verifyRecoveryCase caseId paymentId webhookEventId =>
    obtain ⟨r, s₁, hverify, hreturn⟩ := Session.run_bind_eq_ok.mp h
    obtain rfl := (Prod.mk.inj hreturn).2
    have hwebhooks := verifyCase_webhookEvents cfg caller { caseId, paymentId, webhookEventId } s
    rw [hverify] at hwebhooks
    refine ⟨fun rt => ?_, hwebhooks⟩
    show s₁ = ((verifyCase cfg caller { caseId, paymentId, webhookEventId }).run s).2
    rw [hverify]

/-- Follow-ups that all returned are their calls, one after the other. -/
theorem applyFollowups_ok (huuid : ∀ i, env.uuid (env.uuidText i) = some i)
    {callers : ℕ → Caller} {jobs : List FollowUpJob} {results : List FollowupResult}
    (h : (applyFollowups env cfg callers (jobs.map fun job => .obj (job.asDict env))).run s =
      (.ok results, s')) :
    results.length = jobs.length ∧
      (∀ rt, s' = (followupCalls cfg callers jobs).foldl (ServiceCall.after rt) s) ∧
      s'.webhookEvents = s.webhookEvents := by
  -- on the follow-ups that are left, each from the state that the one before it left
  induction jobs generalizing callers s results with
  | nil =>
    obtain ⟨hresults, rfl⟩ := Prod.mk.inj h
    obtain rfl := Except.ok.inj hresults
    exact ⟨rfl, fun _ => rfl, rfl⟩
  | cons job rest ih =>
    obtain ⟨first, s₁, hfirst, hrest⟩ := Session.run_bind_eq_ok.mp h
    obtain ⟨others, s₂, hothers, hreturn⟩ := Session.run_bind_eq_ok.mp hrest
    obtain ⟨hresults, rfl⟩ := Prod.mk.inj hreturn
    obtain rfl := Except.ok.inj hresults
    rw [applyFollowup_asDict huuid] at hfirst
    obtain ⟨result, s₃, hrun, hsingle⟩ := Session.run_bind_eq_ok.mp hfirst
    obtain ⟨hvalue, rfl⟩ := Prod.mk.inj hsingle
    obtain rfl := Except.ok.inj hvalue
    obtain ⟨hstate, hwebhooks⟩ := job.run_ok hrun
    obtain ⟨hlength, hafter, hkept⟩ := ih hothers
    refine ⟨?_, fun rt => ?_, hkept.trans hwebhooks⟩
    · rw [List.length_append, hlength, List.length_singleton, List.length_cons, Nat.add_comm]
    · rw [hafter rt, hstate rt]
      rfl

/-- The transaction is committed when all follow-ups returned, and rolled back when one raised. -/
theorem run_applyFollowupsNow (env : EventText) (cfg : Config) (callers : ℕ → Caller)
    (items : List Json) (s : Store) :
    (∃ results s', (applyFollowups env cfg callers items).run s = (.ok results, s') ∧
      (applyFollowupsNow env cfg callers items).run s = (.ok (), s')) ∨
    ∃ e, (applyFollowupsNow env cfg callers items).run s = (.error e, s) := by
  obtain ⟨outcome, s', hrun⟩ : ∃ outcome s',
      (applyFollowups env cfg callers items).run s = (outcome, s') := ⟨_, _, rfl⟩
  cases outcome with
  | ok results =>
    exact .inl ⟨results, s', hrun, Session.run_transact_ok (Session.run_bind_ok hrun _)⟩
  | error e => exact .inr ⟨e, Session.run_transact_error (Session.run_bind_error hrun _)⟩

/-- The transaction of follow-ups that all returned is the step that delivers them. -/
theorem FollowupStep.of_applied (huuid : ∀ i, env.uuid (env.uuidText i) = some i)
    {callers : ℕ → Caller} {rowOf : ℕ → ℕ} {w : FollowupSystem} {j : ℕ} {all : List FollowUpJob}
    {results : List FollowupResult} (hphase : w.phase j = .applying all)
    (h : (applyFollowups env cfg callers (all.map fun job => .obj (job.asDict env))).run w.store =
      (.ok results, s')) :
    FollowupStep env rowOf w (.apply j)
      { w.setPhase j .finished with store := s', delivered := w.delivered ++ all } := by
  obtain ⟨-, -, hwebhooks⟩ := applyFollowups_ok huuid h
  refine .apply s' hphase ?_
  -- no webhook row was written, so none was completed
  rintro i ⟨row, hrow, hstatus⟩
  rw [hwebhooks] at hrow
  exact ⟨row, hrow, hstatus⟩

theorem FollowupStep.of_raised {rowOf : ℕ → ℕ} {w : FollowupSystem} {j : ℕ}
    {all : List FollowUpJob} (hphase : w.phase j = .applying all) (again : Bool) :
    FollowupStep env rowOf w (.fail j)
      (w.setPhase j (if again then .waiting else .finished)) := by
  refine .fail again ?_
  rw [hphase]
  trivial

end Effects

/-! ## The step -/

/-- The job of a row whose follow-ups are applied without a queue: either each of them was called
once, in order and at its own time, no webhook row was written, and the step delivers them all; or
one of them raised, and the job fails with the database as it was. -/
theorem appliedFollowups_follow (env : EventText)
    (huuid : ∀ i, env.uuid (env.uuidText i) = some i) (rt : Runtime) (cfg : Config)
    (callers : ℕ → Caller) (rowOf : ℕ → ℕ) (w : FollowupSystem) (j : ℕ) (all : List FollowUpJob)
    (hphase : w.phase j = .applying all) :
    (∃ results s',
      (applyFollowups env cfg callers (all.map fun job => .obj (job.asDict env))).run w.store =
        (.ok results, s') ∧
      (applyFollowupsNow env cfg callers (all.map fun job => .obj (job.asDict env))).run w.store =
        (.ok (), s') ∧
      results.length = all.length ∧
      s' = (followupCalls cfg callers all).foldl (ServiceCall.after rt) w.store ∧
      s'.webhookEvents = w.store.webhookEvents ∧
      FollowupStep env rowOf w (.apply j)
        { w.setPhase j .finished with store := s', delivered := w.delivered ++ all }) ∨
    ∃ e,
      (applyFollowupsNow env cfg callers (all.map fun job => .obj (job.asDict env))).run w.store =
        (.error e, w.store) ∧
      ∀ again : Bool, FollowupStep env rowOf w (.fail j)
        (w.setPhase j (if again then .waiting else .finished)) := by
  rcases run_applyFollowupsNow env cfg callers (all.map fun job => .obj (job.asDict env)) w.store
    with ⟨results, s', hrun, hnow⟩ | ⟨e, hnow⟩
  · obtain ⟨hlength, hafter, hwebhooks⟩ := applyFollowups_ok huuid hrun
    exact .inl ⟨results, s', hrun, hnow, hlength, hafter rt, hwebhooks,
      .of_applied huuid hphase hrun⟩
  · exact .inr ⟨e, hnow, fun again => .of_raised hphase again⟩

/-! ## Runs -/

/-- The steps of the jobs, where follow-ups without a queue are applied by the code. -/
inductive AppliedStep (env : EventText) (cfg : Config) (rowOf : ℕ → ℕ) :
    FollowupSystem → FollowupLabel → FollowupSystem → Prop
  | applies {w : FollowupSystem} {j : ℕ} {all : List FollowUpJob} {s' : Store}
      (callers : ℕ → Caller) (hphase : w.phase j = .applying all)
      (hrun : (applyFollowupsNow env cfg callers
        (all.map fun job => .obj (job.asDict env))).run w.store = (.ok (), s')) :
      AppliedStep env cfg rowOf w (.apply j)
        { w.setPhase j .finished with store := s', delivered := w.delivered ++ all }
  | raises {w : FollowupSystem} {j : ℕ} {all : List FollowUpJob} {e : Failure} {s' : Store}
      (callers : ℕ → Caller) (again : Bool) (hphase : w.phase j = .applying all)
      (hrun : (applyFollowupsNow env cfg callers
        (all.map fun job => .obj (job.asDict env))).run w.store = (.error e, s')) :
      AppliedStep env cfg rowOf w (.fail j)
        { w.setPhase j (if again then .waiting else .finished) with store := s' }
  | other {w w' : FollowupSystem} {label : FollowupLabel} (hother : ∀ j, label ≠ .apply j)
      (hstep : FollowupStep env rowOf w label w') : AppliedStep env cfg rowOf w label w'

section Runs

variable {env : EventText} {cfg : Config} {rowOf : ℕ → ℕ}

/-- The code takes the steps of the abstract system. -/
theorem AppliedStep.follows (huuid : ∀ i, env.uuid (env.uuidText i) = some i)
    {w w' : FollowupSystem} {label : FollowupLabel} (h : AppliedStep env cfg rowOf w label w') :
    FollowupStep env rowOf w label w' := by
  cases h with
  | other hother hstep => exact hstep
  | applies callers hphase hrun =>
    rcases run_applyFollowupsNow env cfg callers _ w.store with
      ⟨results, s', hresults, hnow⟩ | ⟨e, hnow⟩
    · obtain rfl := (Prod.mk.inj (hrun.symm.trans hnow)).2
      exact .of_applied huuid hphase hresults
    · cases hrun.symm.trans hnow
  | raises callers again hphase hrun =>
    rcases run_applyFollowupsNow env cfg callers _ w.store with ⟨results, s', -, hnow⟩ | ⟨e, hnow⟩
    · cases hrun.symm.trans hnow
    · obtain rfl := (Prod.mk.inj (hrun.symm.trans hnow)).2
      exact .of_raised hphase again

/-- In every run in which the code applies the follow-ups, and no job ends in an exception or a
crash with something undelivered, no follow-up is lost. -/
theorem appliedFollowups_not_lost (huuid : ∀ i, env.uuid (env.uuidText i) = some i)
    (start : Store) :
    NeverLosesFollowups (Guarded (AppliedStep env cfg rowOf) NothingUndelivered) rowOf start := by
  intro labels w hrun
  have hfollows : Run (Guarded (FollowupStep env rowOf) NothingUndelivered) _ labels w :=
    hrun.mono fun _ _ _ hstep => ⟨hstep.1, hstep.2.follows huuid⟩
  have hstart : Accounted rowOf { store := start } := fun _ _ hf => nomatch hf
  exact (hfollows.invariant (fun _ _ _ h hstep => h.step hstep) hstart).delivered

end Runs

/-! ### A failure that is reported late -/

/-- A failed payment opened a case and was captured meanwhile; the queue is down when the case is
to be processed, and then verified. -/
def lateFollowups : FollowupSystem where
  store := afterReport (afterReport lateFailureStore 1) 0
  phase _ := .applying [.processRecoveryCase 0 1, .verifyRecoveryCase 0 0 0]

/-- A second passes from one follow-up to the next. -/
def laterCallers (n : ℕ) : Caller where
  now := (n + 1 : ℕ) * 1000000

/-- The case is processed, and then found to be paid. -/
theorem appliedFollowups_follow_late : ∃ s',
    (applyFollowupsNow unaryEventText defaultConfig laterCallers
      ([.processRecoveryCase 0 1, .verifyRecoveryCase 0 0 0].map fun job =>
        .obj (FollowUpJob.asDict unaryEventText job))).run lateFollowups.store = (.ok (), s') ∧
      s' = ServiceCall.after sampleRuntime
        (ServiceCall.after sampleRuntime lateFollowups.store
          (.process defaultConfig { now := 1000000 } 0))
        (.verifyCase defaultConfig { now := 2000000 }
          { caseId := 0, paymentId := some 0, webhookEventId := some 0 }) ∧
      (s'.cases.get? 0).map (·.status) = some .recovered ∧
      FollowupStep unaryEventText id lateFollowups (.apply 0)
        { lateFollowups.setPhase 0 .finished with
          store := s'
          delivered := [.processRecoveryCase 0 1, .verifyRecoveryCase 0 0 0] } := by
  have hreturns : ((applyFollowupsNow unaryEventText defaultConfig laterCallers
      ([.processRecoveryCase 0 1, .verifyRecoveryCase 0 0 0].map fun job =>
        .obj (FollowUpJob.asDict unaryEventText job))).run lateFollowups.store).1 = .ok () := by
    decide +kernel
  rcases appliedFollowups_follow unaryEventText unaryEventText_prints.uuid sampleRuntime
      defaultConfig laterCallers id lateFollowups 0 _ rfl with
    ⟨results, s', -, hnow, -, hcalls, -, hstep⟩ | ⟨e, hnow, -⟩
  · refine ⟨s', hnow, hcalls, ?_, hstep⟩
    rw [hcalls]
    decide +kernel
  · rw [hnow] at hreturns
    cases hreturns

end ReviveX
