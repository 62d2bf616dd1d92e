import ReviveX.Domain.CreditSoundness
import ReviveX.Domain.ProcessorTheorems

/-!
# Processing a case again

The processor stops where it has nothing left to do: whichever way a run goes that returns, it
leaves the case in a status from which the next run returns at once. So a job that is delivered
twice, or a second worker that waited for the row, changes nothing.
-/

namespace ReviveX

open Lib (Session Table)

variable {cfg : Config} {caller : Caller} {caseId : ℕ} {s s' : Store} {c : RecoveryCase}

/-- The verdict takes the case away from the statuses that are processed. -/
theorem isWalkable_plannedStatus (evaluation : PolicyEvaluationResult) :
    isWalkable (plannedStatus evaluation) = false := by
  unfold plannedStatus
  split
  · split
    · decide
    · decide
  · split
    · decide
    · decide

/-- Processing locks the case first. -/
theorem run_process (cfg : Config) (caller : Caller) (h : s.cases.get? caseId = some c) :
    (process cfg caller caseId).run s = (processLockedCase cfg caller caseId).run s :=
  Session.run_bind_ok (run_lockRecoveryCase h) _

/-- The processor has nothing to do for the case. -/
def Store.Settled (s : Store) (caseId : ℕ) : Prop :=
  ∃ c, s.cases.get? caseId = some c ∧ isWalkable c.status = false

/-- A run that returns leaves a case that is settled. -/
theorem process_settles (hrun : (process cfg caller caseId).run s = (.ok (), s')) :
    s'.Settled caseId := by
  obtain ⟨c, s₁, hlock, hlocked⟩ := Session.run_bind_eq_ok.mp hrun
  have hrow : s.cases.get? caseId = some c ∧ s₁ = s := by
    unfold lockRecoveryCase at hlock
    rw [Session.run_get_bind] at hlock
    cases hfound : s.cases.get? caseId with
    | none =>
      rw [hfound] at hlock
      cases hlock
    | some found =>
      rw [hfound] at hlock
      obtain ⟨hvalue, hstate⟩ := Prod.mk.inj hlock
      exact ⟨congrArg some (Except.ok.inj hvalue), hstate.symm⟩
  obtain ⟨h, rfl⟩ := hrow
  by_cases hwalk : isWalkable c.status = true
  · obtain ⟨s₂, c', hafter, -, hend⟩ := run_processLockedCase cfg caller h hwalk
    cases hplan : plannedEvaluation cfg s₁ caseId c caller.now with
    | error f =>
      rw [hplan] at hend
      have hraised := hlocked.symm.trans hend.1
      cases (Prod.mk.inj hraised).1
    | ok evaluation =>
      rw [hplan] at hend
      obtain ⟨hreturned, hstatus⟩ := hend
      obtain ⟨-, rfl⟩ := Prod.mk.inj (hlocked.symm.trans hreturned)
      refine ⟨c', hafter, ?_⟩
      rw [hstatus]
      exact isWalkable_plannedStatus evaluation
  · have hwalk : isWalkable c.status = false := by simpa using hwalk
    rw [run_processLockedCase_idle cfg caller h hwalk] at hlocked
    obtain ⟨-, rfl⟩ := Prod.mk.inj hlocked
    exact ⟨c, h, hwalk⟩

/-- A settled case is not processed, whoever asks and under whatever settings. -/
theorem Store.Settled.run_process (h : s.Settled caseId) (cfg : Config) (caller : Caller) :
    (process cfg caller caseId).run s = (.ok (), s) := by
  obtain ⟨c, hrow, hwalk⟩ := h
  rw [ReviveX.run_process cfg caller hrow]
  exact run_processLockedCase_idle cfg caller hrow hwalk

/-- Processing is idempotent: the second run returns and changes nothing. -/
theorem process_idempotent (hrun : (process cfg caller caseId).run s = (.ok (), s'))
    (cfg' : Config) (caller' : Caller) :
    (process cfg' caller' caseId).run s' = (.ok (), s') :=
  (process_settles hrun).run_process cfg' caller'

/-- A case of ₹1000 whose payment failed has been detected. -/
def detectedStore : Store where
  merchants := ⟨[{}]⟩
  customers := ⟨[{ merchantId := 0 }]⟩
  payments := ⟨[{ merchantId := 0, customerId := 0, amount := 100000, status := .failed }]⟩
  cases := ⟨[sampleCase 0 100000 .detected]⟩

theorem process_idempotent_detected :
    (process defaultConfig { now := hour } 0).run
        ((process defaultConfig { now := 0 } 0).run detectedStore).2 =
      (.ok (), ((process defaultConfig { now := 0 } 0).run detectedStore).2) := by
  have hresult : ((process defaultConfig { now := 0 } 0).run detectedStore).1 = .ok () := by
    decide +kernel
  exact process_idempotent (Session.run_of_result hresult) defaultConfig { now := hour }

end ReviveX
