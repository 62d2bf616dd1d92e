import ReviveX.Domain.DispatchTheorems
import ReviveX.Domain.OrderTheorems
import ReviveX.Lib.Runs
import Mathlib.Logic.Function.Basic

/-!
# Delivering follow-ups

`process_provider_event` commits its transaction, then enqueues the follow-ups one by one, and
applies all of them itself when that fails. The database and the queue share no transaction,
and a rerun of a processed row reports no follow-ups: a job that ends in an exception or a
crash after its commit loses what it has not delivered yet. In every run without such an end
nothing is lost.
-/

namespace ReviveX

open Lib (Guarded Run Session Table)

/-! ## The jobs -/

/-- How far a job has come. -/
inductive FollowupPhase
  | absent
  /-- In the queue, for the first time or again. -/
  | waiting
  /-- Its transaction is committed; these follow-ups are enqueued, and these are still to be. -/
  | enqueueing (sent rest : List FollowUpJob)
  /-- The queue failed, and all follow-ups are applied here. -/
  | applying (all : List FollowUpJob)
  | finished

/-- What the job still has to deliver. -/
def FollowupPhase.undelivered : FollowupPhase → List FollowUpJob
  | .enqueueing _ rest => rest
  | .applying all => all
  | _ => []

/-- The job has not ended. -/
def FollowupPhase.Remains : FollowupPhase → Prop
  | .absent | .finished => False
  | _ => True

/-- The database, the jobs by number, and what was produced and delivered, which no step
reads. -/
structure FollowupSystem where
  store : Store
  phase : ℕ → FollowupPhase := fun _ => .absent
  /-- What the dispatch of each row produced. -/
  produced : ℕ → List FollowUpJob := fun _ => []
  /-- What was enqueued or applied. -/
  delivered : List FollowUpJob := []

def FollowupSystem.setPhase (w : FollowupSystem) (j : ℕ) (phase : FollowupPhase) :
    FollowupSystem :=
  { w with phase := Function.update w.phase j phase }

@[simp] theorem setPhase_phase (w : FollowupSystem) (j : ℕ) (phase : FollowupPhase) :
    (w.setPhase j phase).phase = Function.update w.phase j phase := rfl

/-- The row is processed. -/
def Store.IsProcessed (s : Store) (i : ℕ) : Prop :=
  ∃ row, s.webhookEvents.get? i = some row ∧ row.status = .processed

/-- The steps of the jobs, and of everyone else. -/
inductive FollowupLabel
  | submit (j : ℕ)
  | process (j : ℕ)
  | enqueue (j : ℕ)
  | enqueued (j : ℕ)
  | enqueueFails (j : ℕ)
  | apply (j : ℕ)
  | fail (j : ℕ)
  | others

/-- One step; job `j` is about row `rowOf j`. A job fails at any point by an exception or a
crash, and the queue runs it again or not. Other transactions, the follow-ups themselves among
them, write what they like, but `PROCESSED` on no row. -/
inductive FollowupStep (env : EventText) (rowOf : ℕ → ℕ) :
    FollowupSystem → FollowupLabel → FollowupSystem → Prop
  | submit {w : FollowupSystem} {j : ℕ} (hphase : w.phase j = .absent) :
      FollowupStep env rowOf w (.submit j) (w.setPhase j .waiting)
  /-- `process_webhook_event` returns, and its transaction commits. -/
  | process {w : FollowupSystem} {j : ℕ} {r : ProcessingResult} {s' : Store} (now : Time)
      (hphase : w.phase j = .waiting)
      (hrun : (processWebhookEvent env now (rowOf j)).run w.store = (.ok r, s')) :
      FollowupStep env rowOf w (.process j)
        { w.setPhase j (.enqueueing [] r.followups) with
          store := s'
          produced := Function.update w.produced (rowOf j) (w.produced (rowOf j) ++ r.followups) }
  | enqueue {w : FollowupSystem} {j : ℕ} {f : FollowUpJob} {sent rest : List FollowUpJob}
      (hphase : w.phase j = .enqueueing sent (f :: rest)) :
      FollowupStep env rowOf w (.enqueue j)
        { w.setPhase j (.enqueueing (sent ++ [f]) rest) with delivered := w.delivered ++ [f] }
  /-- `_enqueue_followups` returns `True`. -/
  | enqueued {w : FollowupSystem} {j : ℕ} {sent : List FollowUpJob}
      (hphase : w.phase j = .enqueueing sent []) :
      FollowupStep env rowOf w (.enqueued j) (w.setPhase j .finished)
  /-- `_enqueue_followups` returns `False`. -/
  | enqueueFails {w : FollowupSystem} {j : ℕ} {sent rest : List FollowUpJob}
      (hphase : w.phase j = .enqueueing sent rest) (hsome : sent ++ rest ≠ []) :
      FollowupStep env rowOf w (.enqueueFails j) (w.setPhase j (.applying (sent ++ rest)))
  /-- `_apply_followups_now` commits. -/
  | apply {w : FollowupSystem} {j : ℕ} {all : List FollowUpJob} (s' : Store)
      (hphase : w.phase j = .applying all)
      (hprocessed : ∀ i, s'.IsProcessed i → w.store.IsProcessed i) :
      FollowupStep env rowOf w (.apply j)
        { w.setPhase j .finished with store := s', delivered := w.delivered ++ all }
  | fail {w : FollowupSystem} {j : ℕ} (again : Bool) (hphase : (w.phase j).Remains) :
      FollowupStep env rowOf w (.fail j) (w.setPhase j (if again then .waiting else .finished))
  | others {w : FollowupSystem} (s' : Store)
      (hprocessed : ∀ i, s'.IsProcessed i → w.store.IsProcessed i) :
      FollowupStep env rowOf w .others { w with store := s' }

/-- A processed row without a job has all its follow-ups delivered. -/
def FollowupsDelivered (rowOf : ℕ → ℕ) (w : FollowupSystem) : Prop :=
  ∀ i, w.store.IsProcessed i → (∀ j, rowOf j = i → ¬ (w.phase j).Remains) →
    ∀ f ∈ w.produced i, f ∈ w.delivered

/-- In every run, no follow-up is lost. -/
def NeverLosesFollowups (step : FollowupSystem → FollowupLabel → FollowupSystem → Prop)
    (rowOf : ℕ → ℕ) (start : Store) : Prop :=
  ∀ labels w, Run step { store := start } labels w → FollowupsDelivered rowOf w

/-- When a job ends in an exception or a crash, it has delivered what its dispatch produced. -/
def NothingUndelivered (w : FollowupSystem) : FollowupLabel → Prop
  | .fail j => ∀ f ∈ (w.phase j).undelivered, f ∈ w.delivered
  | _ => True

/-! ## The invariant -/

/-- Whatever was produced is delivered, or a job of its row still has it to deliver. -/
def Accounted (rowOf : ℕ → ℕ) (w : FollowupSystem) : Prop :=
  ∀ i, ∀ f ∈ w.produced i, f ∈ w.delivered ∨ ∃ j, rowOf j = i ∧ f ∈ (w.phase j).undelivered

variable {env : EventText} {rowOf : ℕ → ℕ} {w w' : FollowupSystem} {label : FollowupLabel}

namespace Accounted

/-- A step of job `j` that produces nothing, and keeps or delivers what `j` has to. -/
theorem move (j : ℕ) (h : Accounted rowOf w) (hproduced : w'.produced = w.produced)
    (hdelivered : ∀ f ∈ w.delivered, f ∈ w'.delivered)
    (hother : ∀ k, k ≠ j → w'.phase k = w.phase k)
    (hself : ∀ f ∈ (w.phase j).undelivered, f ∈ w'.delivered ∨ f ∈ (w'.phase j).undelivered) :
    Accounted rowOf w' := by
  intro i f hf
  rw [hproduced] at hf
  rcases h i f hf with hdone | ⟨k, hk, hpending⟩
  · exact .inl (hdelivered f hdone)
  · by_cases hkj : k = j
    · subst hkj
      rcases hself f hpending with hdone | hstill
      · exact .inl hdone
      · exact .inr ⟨k, hk, hstill⟩
    · refine .inr ⟨k, hk, ?_⟩
      rw [hother k hkj]
      exact hpending

/-- The special case in which only the phase of `j` changes. -/
theorem setPhase {j : ℕ} {phase : FollowupPhase} (h : Accounted rowOf w)
    (hself : ∀ f ∈ (w.phase j).undelivered, f ∈ w.delivered ∨ f ∈ phase.undelivered) :
    Accounted rowOf (w.setPhase j phase) := by
  refine h.move j rfl (fun _ hf => hf) (fun k hk => ?_) fun f hf => ?_
  · rw [setPhase_phase, Function.update_of_ne hk]
  · rw [setPhase_phase, Function.update_self]
    exact hself f hf

/-- Every step that leaves nothing undelivered keeps account. -/
theorem step (h : Accounted rowOf w)
    (hstep : Guarded (FollowupStep env rowOf) NothingUndelivered w label w') :
    Accounted rowOf w' := by
  obtain ⟨hguard, hstep⟩ := hstep
  cases hstep with
  | submit hphase =>
    refine h.setPhase fun f hf => ?_
    rw [hphase] at hf
    cases hf
  | process now hphase hrun =>
    rename_i j r s'
    intro i f hf
    have hf : f ∈ Function.update w.produced (rowOf j) (w.produced (rowOf j) ++ r.followups) i :=
      hf
    show f ∈ w.delivered ∨ ∃ k, rowOf k = i ∧
      f ∈ (Function.update w.phase j (.enqueueing [] r.followups) k).undelivered
    -- what is still to be sent of another job is untouched
    have hold : f ∈ w.produced i → f ∈ w.delivered ∨ ∃ k, rowOf k = i ∧
        f ∈ (Function.update w.phase j (.enqueueing [] r.followups) k).undelivered := by
      intro hf
      rcases h i f hf with hdone | ⟨k, hk, hpending⟩
      · exact .inl hdone
      · have hkj : k ≠ j := by
          rintro rfl
          rw [hphase] at hpending
          cases hpending
        refine .inr ⟨k, hk, ?_⟩
        rw [Function.update_of_ne hkj]
        exact hpending
    by_cases hi : i = rowOf j
    · subst hi
      rw [Function.update_self] at hf
      rcases List.mem_append.mp hf with hbefore | hnew
      · exact hold hbefore
      · refine .inr ⟨j, rfl, ?_⟩
        rw [Function.update_self]
        exact hnew
    · rw [Function.update_of_ne hi] at hf
      exact hold hf
  | enqueue hphase =>
    rename_i j f sent rest
    refine h.move j rfl (fun g hg => List.mem_append_left _ hg)
      (fun k hk => by rw [setPhase_phase, Function.update_of_ne hk]) fun g hg => ?_
    rw [hphase] at hg
    rw [setPhase_phase, Function.update_self]
    rcases List.mem_cons.mp hg with rfl | hrest
    · exact .inl (by simp)
    · exact .inr hrest
  | enqueued hphase =>
    refine h.setPhase fun f hf => ?_
    rw [hphase] at hf
    cases hf
  | enqueueFails hphase hsome =>
    -- the followup that was not sent is still among those to apply
    refine h.setPhase fun f hf => .inr ?_
    rw [hphase] at hf
    exact List.mem_append_right _ hf
  | apply s' hphase hprocessed =>
    rename_i j all
    refine h.move j rfl (fun g hg => List.mem_append_left _ hg)
      (fun k hk => by rw [setPhase_phase, Function.update_of_ne hk]) fun g hg => .inl ?_
    rw [hphase] at hg
    exact List.mem_append_right _ hg
  | fail again hphase =>
    exact h.setPhase fun f hf => .inl (hguard f hf)
  | others s' hprocessed => exact h

end Accounted

/-- What is accounted for is delivered once no job remains. -/
theorem Accounted.delivered (h : Accounted rowOf w) : FollowupsDelivered rowOf w := by
  intro i _ hnone f hf
  rcases h i f hf with hdone | ⟨j, hj, hpending⟩
  · exact hdone
  · have hended := hnone j hj
    cases hphase : w.phase j with
    | enqueueing sent rest =>
      rw [hphase] at hended
      exact absurd trivial hended
    | applying all =>
      rw [hphase] at hended
      exact absurd trivial hended
    | _ =>
      rw [hphase] at hpending
      cases hpending

/-- In every run in which no job ends in an exception or a crash with something undelivered, no
follow-up is lost. -/
theorem followups_never_lost (env : EventText) (rowOf : ℕ → ℕ) (start : Store) :
    NeverLosesFollowups (Guarded (FollowupStep env rowOf) NothingUndelivered) rowOf start := by
  intro labels w hrun
  have hstart : Accounted rowOf { store := start } := fun _ _ hf => nomatch hf
  exact (hrun.invariant (fun _ _ _ h hstep => h.step hstep) hstart).delivered

/-! ### A local application that fails -/

/-- The failure is processed; the queue is down, and so is the database when the job applies
the follow-up itself. The job is run again, and reports no follow-ups. -/
theorem failedApplication_loses : ∃ labels w,
    Run (FollowupStep sampleEventText fun _ => 1) { store := lateFailureStore } labels w ∧
      w.store.IsProcessed 1 ∧ (∀ j, ¬ (w.phase j).Remains) ∧
      w.produced 1 = [.processRecoveryCase 0 1] ∧ w.delivered = [] := by
  let processed := afterReport lateFailureStore 1
  have hfirst : (processWebhookEvent sampleEventText 0 1).run lateFailureStore =
      (.ok { status := .processed, webhookEventId := 1, followups := [.processRecoveryCase 0 1] },
        processed) := Session.run_of_result (by decide +kernel)
  have hagain : (processWebhookEvent sampleEventText 0 1).run processed =
      (.ok { status := .alreadyProcessed, webhookEventId := 1 }, afterReport processed 1) :=
    Session.run_of_result (by decide +kernel)
  have hsubmitted : Run (FollowupStep sampleEventText fun _ => 1) { store := lateFailureStore }
      [.submit 0] _ := .single (.submit rfl)
  have hcommitted := hsubmitted.snoc (i := .process 0) (.process 0 rfl hfirst)
  have hqueueDown := hcommitted.snoc (i := .enqueueFails 0) (.enqueueFails rfl (by decide))
  have hfailed := hqueueDown.snoc (i := .fail 0) (.fail true (by trivial))
  have hrerun := hfailed.snoc (i := .process 0) (.process 0 rfl hagain)
  have hended := hrerun.snoc (i := .enqueued 0) (.enqueued rfl)
  refine ⟨_, _, hended, ?_, ?_, ?_, ?_⟩
  · have hstatus : ((afterReport processed 1).webhookEvents.get? 1).map (·.status) =
        some .processed := by decide +kernel
    obtain ⟨row, hrow, hprocessed⟩ := Option.map_eq_some_iff.mp hstatus
    exact ⟨row, hrow, hprocessed⟩
  · intro j
    by_cases hj : j = 0
    · subst hj
      exact id
    · simp [hj, FollowupPhase.Remains]
  · rfl
  · rfl

theorem failedApplication_not_delivered :
    ¬ NeverLosesFollowups (FollowupStep sampleEventText fun _ => 1) (fun _ => 1)
      lateFailureStore := by
  intro hnever
  obtain ⟨labels, w, hrun, hprocessed, hended, hproduced, hdelivered⟩ := failedApplication_loses
  have hlost := hnever labels w hrun 1 hprocessed (fun j _ => hended j) (.processRecoveryCase 0 1)
  rw [hproduced, hdelivered] at hlost
  exact absurd (hlost (List.mem_singleton_self _)) List.not_mem_nil

end ReviveX
