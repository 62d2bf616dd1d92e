import ReviveX.Agents.ContainmentTheorems

/-!
# What a run leaves in its records

The orchestrator and its stages record themselves as agent runs: a stage that returned has
completed its record, and `run_case` completes its own when it returns or when an `AgentError`
leaves it. Another `DomainError` is committed all the same, and so is whatever a stage raises
before its record is completed.
-/

namespace ReviveX

open Lib (Passes Session Table)

variable {rt : Runtime} {orch : RecoveryAgentOrchestrator} {caller : Caller} {now : Time}
  {executes : Bool} {caseId : ℕ} {merchantId : Option ℕ} {c c' : RecoveryCase} {s s' : Store}
  {n : ℕ} {α β : Type}

/-! ## Records -/

/-- A final status, with the fields of the completion. -/
structure AgentRun.Final (run : AgentRun) : Prop where
  status : run.status = .completed ∨ run.status = .failed
  completedAt : run.completedAt.isSome
  source : run.source.isSome

/-- The record is there, and it is not final. -/
def Store.OpenRun (s : Store) (i : ℕ) : Prop := ∃ run, s.agentRuns.get? i = some run ∧ ¬ run.Final

/-- From `n` on every record is final. -/
def NoneOpen (n : ℕ) (s : Store) : Prop := ∀ i, n ≤ i → ¬ s.OpenRun i

/-- From `n` on every record but `n` itself is final. -/
def OnlyOpen (n : ℕ) (s : Store) : Prop := ∀ i, n ≤ i → (s.OpenRun i ↔ i = n)

theorem Store.OpenRun.congr (h : s'.agentRuns = s.agentRuns) (i : ℕ) :
    s'.OpenRun i ↔ s.OpenRun i := by
  unfold Store.OpenRun
  rw [h]

theorem OnlyOpen.congr (h : OnlyOpen n s) (hruns : s'.agentRuns = s.agentRuns) : OnlyOpen n s' :=
  fun i hi => (Store.OpenRun.congr hruns i).trans (h i hi)

theorem OnlyOpen.lt_nextId (h : OnlyOpen n s) : n < s.agentRuns.nextId := by
  obtain ⟨run, hrun, -⟩ := (h n le_rfl).mpr rfl
  exact Table.lt_nextId hrun

/-- The store once a record is added. -/
def Store.startRun (s : Store) (now : Time) (merchantId caseId : ℕ) (agent : AgentName) : Store :=
  ((startAgentRun now merchantId caseId agent).run s).2

theorem run_startAgentRun (now : Time) (merchantId caseId : ℕ) (agent : AgentName) (s : Store) :
    (startAgentRun now merchantId caseId agent).run s =
      (.ok s.agentRuns.nextId, s.startRun now merchantId caseId agent) := rfl

theorem startRun_cases (s : Store) (now : Time) (merchantId caseId : ℕ) (agent : AgentName) :
    (s.startRun now merchantId caseId agent).cases = s.cases := rfl

/-- A new record is open, and the others are as they were. -/
theorem openRun_startRun (s : Store) (now : Time) (merchantId caseId : ℕ) (agent : AgentName)
    (i : ℕ) : (s.startRun now merchantId caseId agent).OpenRun i ↔
      i = s.agentRuns.nextId ∨ s.OpenRun i := by
  have hget : (s.startRun now merchantId caseId agent).agentRuns.get? i =
      if i = s.agentRuns.nextId then some
        { merchantId, recoveryCaseId := caseId, agentName := agent.text, startedAt := now }
      else s.agentRuns.get? i := Table.get?_insert _ _ i
  unfold Store.OpenRun
  rw [hget]
  split
  · rename_i hi
    refine ⟨fun _ => .inl hi, fun _ => ⟨_, rfl, fun hfinal => ?_⟩⟩
    exact absurd hfinal.completedAt (by simp)
  · rename_i hi
    exact ⟨.inr, fun h => h.resolve_left hi⟩

/-- The store once a record is completed. -/
def Store.completeRun (s : Store) (now : Time) (merchantId caseId runId : ℕ) (agent : AgentName)
    (source : String) (status : AgentRunStatus) (errorMessage : Option String) : Store :=
  ((completeAgentRun now merchantId caseId runId agent source status errorMessage).run s).2

/-- A completed record is final, and the others are as they were. -/
theorem openRun_completeRun {status : AgentRunStatus}
    (hstatus : status = .completed ∨ status = .failed) (s : Store) (now : Time)
    (merchantId caseId runId : ℕ) (agent : AgentName) (source : String)
    (errorMessage : Option String) (i : ℕ) :
    (s.completeRun now merchantId caseId runId agent source status errorMessage).OpenRun i ↔
      i ≠ runId ∧ s.OpenRun i := by
  have hget : (s.completeRun now merchantId caseId runId agent source status
      errorMessage).agentRuns.get? i = if runId = i then (s.agentRuns.get? i).map fun run =>
        { run with status, errorMessage, source := some source, completedAt := some now }
      else s.agentRuns.get? i := Table.get?_modify _ _ _ _
  unfold Store.OpenRun
  rw [hget]
  split
  · rename_i hi
    subst hi
    refine ⟨fun ⟨run, hrun, hopen⟩ => ?_, fun h => absurd rfl h.1⟩
    obtain ⟨row, -, rfl⟩ := Option.map_eq_some_iff.mp hrun
    exact absurd ⟨hstatus, rfl, rfl⟩ hopen
  · rename_i hi
    exact ⟨fun h => ⟨Ne.symm hi, h⟩, fun h => h.2⟩

/-- The run's own record is completed last. -/
theorem OnlyOpen.complete (h : OnlyOpen n s) (now : Time) (merchantId caseId : ℕ)
    (agent : AgentName) (source : String) {status : AgentRunStatus}
    (hstatus : status = .completed ∨ status = .failed) (errorMessage : Option String) :
    NoneOpen n (s.completeRun now merchantId caseId n agent source status errorMessage) := by
  intro i hi hopen
  obtain ⟨hne, hopen⟩ := (openRun_completeRun hstatus ..).mp hopen
  exact hne ((h i hi).mp hopen)

/-! ## Stages -/

/-- Leaves the agent runs alone. -/
def RunsKept (s s' : Store) : Prop := s'.agentRuns = s.agentRuns

theorem runsKept_frame : ServiceFrame RunsKept where
  refl _ := rfl
  trans _ _ _ h h' := h'.trans h
  outside _ _ _ _ hruns := hruns
  audit _ _ _ := rfl
  transition caller caseId target := by
    have hframe : CaseFrame caseId RunsKept :=
      ⟨fun _ => rfl, fun _ _ _ h h' => h'.trans h, fun _ _ => rfl, fun _ _ => rfl⟩
    exact hframe.keeps_transitionCase caller target

theorem RunsKept.of_run {m : Service α} {x : Except Failure α} (hm : Session.Keeps RunsKept m)
    (h : m.run s = (x, s')) : s'.agentRuns = s.agentRuns := by
  have hs : RunsKept s (m.run s).2 := hm s
  rw [h] at hs
  exact hs

/-- `run_case` completes its record, or the transaction is rolled back. -/
def Failure.Handled (f : Failure) : Prop := ∀ e, f = .domain e → e.cls = .agent

/-- The transaction is rolled back. -/
def Failure.RolledBack (f : Failure) : Prop := f.commits = false

/-- Of the records from `n` on only `n` is open, and the status of the case satisfies `p`. -/
structure AtStage (n caseId : ℕ) (p : RecoveryCaseStatus → Prop) (s : Store) : Prop where
  onlyOpen : OnlyOpen n s
  standing : ∃ row, s.cases.get? caseId = some row ∧ p row.status

/-- The case is there, and a record after `n` is open. -/
structure StageOpen (n caseId : ℕ) (s : Store) : Prop where
  case : (s.cases.get? caseId).isSome
  stage : ∃ i, n < i ∧ s.OpenRun i

/-- After a failure, `P` says whether the records will be final once it is committed. -/
def Breaks (n caseId : ℕ) (P : Prop) (f : Failure) (s : Store) : Prop :=
  (OnlyOpen n s ∧ (P ↔ f.Handled)) ∨ (StageOpen n caseId s ∧ (P ↔ f.RolledBack))

/-- `P` says before the session whether the records of the run will be final, and `next` says
so when it has returned. -/
def Carries (n caseId : ℕ) (P : Prop) (m : Service α) (s : Store) (I : Store → Prop)
    (next : α → Prop) : Prop :=
  Session.Spec m s (fun a s' => I s' ∧ (P ↔ next a)) (Breaks n caseId P)

namespace Carries

variable {P : Prop} {m : Service α} {f : α → Service β} {I J : Store → Prop} {next : α → Prop}
  {next' : β → Prop} {p : RecoveryCaseStatus → Prop}

theorem bind (h : Carries n caseId P m s I next)
    (hf : ∀ a s', m.run s = (.ok a, s') → I s' → Carries n caseId (next a) (f a) s' J next') :
    Carries n caseId P (m >>= f) s J next' := by
  refine Session.Spec.bind ?_
  unfold Carries Session.Spec at h
  unfold Session.Spec
  rcases hrun : m.run s with ⟨e | a, s₁⟩
  · rw [hrun] at h
    exact h
  · rw [hrun] at h
    obtain ⟨hI, hP⟩ := h
    rw [hP]
    exact hf a s₁ hrun hI

theorem pure {a : α} (hI : I s) (hP : P ↔ next a) :
    Carries n caseId P (Pure.pure a : Service α) s I next := ⟨hI, hP⟩

/-- A session that leaves the records alone: a failure that is not handled leaves one open. -/
theorem of_kept (hm : Session.Keeps RunsKept m) (h : OnlyOpen n s)
    (hI : ∀ a s', m.run s = (.ok a, s') → I s') :
    Carries n caseId (Passes Failure.Handled next (m.run s).1) m s I next := by
  unfold Carries Session.Spec
  rcases hrun : m.run s with ⟨e | a, s₁⟩
  · exact .inl ⟨h.congr (RunsKept.of_run hm hrun), Iff.rfl⟩
  · exact ⟨hI a s₁ hrun, Iff.rfl⟩

theorem ofExcept (h : AtStage n caseId p s) (x : Except Failure α) :
    Carries n caseId (Passes Failure.Handled next x) (Session.ofExcept x) s (AtStage n caseId p)
      next := by
  refine of_kept (.ofExcept runsKept_frame.refl x) h.onlyOpen fun a s' hrun => ?_
  obtain ⟨-, rfl⟩ := Prod.mk.inj hrun
  exact h

theorem addStep (hI : I s) (h : OnlyOpen n s) (settings : AgentSettings) (k : ℕ) (name : String) :
    Carries n caseId (k ≤ settings.maxAgentSteps → P) (ReviveX.addStep settings k name) s I
      fun _ => P := by
  unfold ReviveX.addStep Carries
  split
  · rename_i hlimit
    have hvacuous : (k ≤ settings.maxAgentSteps → P) := fun hk => absurd hk (not_le.mpr hlimit)
    refine .inl ⟨h, fun _ e he => ?_, fun _ => hvacuous⟩
    obtain rfl := Failure.domain.inj he
    rfl
  · rename_i hlimit
    have hwithin : (k : ℤ) ≤ settings.maxAgentSteps := not_lt.mp hlimit
    exact ⟨hI, fun hP => hP hwithin, fun hP _ => hP⟩

/-- A stage completes its record when its agent answers. -/
theorem persistStage (h : AtStage n caseId p s) (now : Time) (merchantId : ℕ) (agent : AgentName)
    (source : α → AgentSource) (stage : Except Failure α) :
    Carries n caseId (Passes Failure.RolledBack next stage)
      (ReviveX.persistStage now merchantId caseId agent source stage) s (AtStage n caseId p)
      next := by
  have hlt := h.onlyOpen.lt_nextId
  obtain ⟨row, hrow, hp⟩ := h.standing
  unfold ReviveX.persistStage Carries Session.Spec
  rw [Session.run_bind_ok (run_startAgentRun ..), Session.run_ofExcept_bind]
  cases stage with
  | error f =>
    refine .inr ⟨⟨by rw [startRun_cases, hrow]; rfl, s.agentRuns.nextId, hlt, ?_⟩, Iff.rfl⟩
    exact (openRun_startRun ..).mpr (.inl rfl)
  | ok a =>
    refine ⟨⟨fun i hi => ?_, row, hrow, hp⟩, Iff.rfl⟩
    -- the record that was added is the one that was completed
    refine (openRun_completeRun (.inl rfl) ..).trans ?_
    rw [openRun_startRun, h.onlyOpen i hi]
    omega

end Carries

/-! ## The path of a case -/

/-- `_advance` leaves the case at this status. -/
def staysAt (status target : RecoveryCaseStatus) : Bool :=
  status = target || stageAlreadyPast status target ||
    [RecoveryCaseStatus.policyCheck, .awaitingApproval, .executing,
      .actionCompleted].contains status

/-- The stage, a later one, or a status after the policy check that `_advance` leaves alone. -/
def hasReached (stage status : RecoveryCaseStatus) : Bool :=
  [RecoveryCaseStatus.awaitingApproval, .executing, .actionCompleted].contains status ||
    stageOrder.contains status && decide (stageOrder.idxOf stage ≤ stageOrder.idxOf status)

/-- One stage follows the other. -/
def Follows (stage target : RecoveryCaseStatus) : Prop :=
  (stage, target) ∈ stageOrder.zip stageOrder.tail

/-- From one stage `_advance` goes on to the next, or leaves the case where it is. -/
theorem advances {stage target status : RecoveryCaseStatus} (hfollows : Follows stage target)
    (hreached : hasReached stage status = true) :
    (staysAt status target = true ∨ canTransition status target = true) ∧
      (staysAt status target = true → hasReached target status = true) ∧
      hasReached target target = true := by
  unfold Follows stageOrder at hfollows
  simp only [List.tail_cons, List.zip_cons_cons, List.zip_nil_right, List.mem_cons, Prod.mk.injEq,
    List.not_mem_nil, or_false] at hfollows
  revert hreached
  rcases hfollows with ⟨rfl, rfl⟩ | ⟨rfl, rfl⟩ | ⟨rfl, rfl⟩ | ⟨rfl, rfl⟩ | ⟨rfl, rfl⟩ |
    ⟨rfl, rfl⟩ <;> cases status <;> decide

/-- From elsewhere it cannot go to the first stage. -/
theorem not_canTransition {status : RecoveryCaseStatus}
    (h : hasReached .detected status = false) :
    staysAt status .triaged = false ∧ canTransition status .triaged = false := by
  revert h
  cases status <;> decide

theorem run_advance {target : RecoveryCaseStatus} (hrow : s.cases.get? caseId = some c) :
    (advance caller caseId target).run s =
      if staysAt c.status target then (.ok (), s)
      else (transitionCase caller caseId target).run s := by
  unfold advance staysAt
  rw [run_readCase_bind hrow, Session.run_ite]
  by_cases hthere : c.status = target ∨ stageAlreadyPast c.status target = true
  · rw [if_pos hthere, if_pos (by rcases hthere with h | h <;> simp [h])]
    rfl
  · rw [if_neg hthere, Session.run_ite]
    rw [not_or] at hthere
    simp only [hthere.1, hthere.2, decide_false, Bool.false_or]
    rfl

namespace Carries

variable {P : Prop} {p : RecoveryCaseStatus → Prop} {stage target : RecoveryCaseStatus}

/-- From one stage to the next. -/
theorem advance (h : AtStage n caseId p s) (caller : Caller) (hfollows : Follows stage target)
    (hreached : ∀ status, p status → hasReached stage status = true) :
    Carries n caseId P (ReviveX.advance caller caseId target) s
      (AtStage n caseId (hasReached target · = true)) fun _ => P := by
  obtain ⟨row, hrow, hp⟩ := h.standing
  obtain ⟨hlegal, hstays, hmoves⟩ := advances hfollows (hreached _ hp)
  unfold Carries Session.Spec
  rw [run_advance hrow]
  by_cases hstay : staysAt row.status target = true
  · rw [if_pos hstay]
    exact ⟨⟨h.onlyOpen, row, hrow, hstays hstay⟩, Iff.rfl⟩
  · rw [if_neg hstay]
    obtain ⟨s', hmoved, hcase⟩ := transitionCase_run caller hrow (hlegal.resolve_left hstay)
    have hruns : s'.agentRuns = s.agentRuns :=
      RunsKept.of_run (runsKept_frame.transition caller caseId target) hmoved
    rw [hmoved]
    exact ⟨⟨h.onlyOpen.congr hruns, _, hcase.after, hmoves⟩, Iff.rfl⟩

/-- The first transition tells whether the case can be led to the policy check. -/
theorem advance_first (h : AtStage n caseId (· = c.status) s) (caller : Caller) :
    Carries n caseId (hasReached .detected c.status = true ∧ P)
      (ReviveX.advance caller caseId .triaged) s
      (AtStage n caseId (hasReached .triaged · = true)) fun _ => P := by
  cases hpath : hasReached .detected c.status with
  | true =>
    have hpaths : ∀ status, status = c.status → hasReached .detected status = true := by
      rintro _ rfl
      exact hpath
    have hnext : Carries n caseId P (ReviveX.advance caller caseId .triaged) s
        (AtStage n caseId (hasReached .triaged · = true)) fun _ => P :=
      advance h caller (by unfold Follows; decide) hpaths
    unfold Carries at hnext ⊢
    simpa using hnext
  | false =>
    obtain ⟨row, hrow, hstatus⟩ := h.standing
    obtain ⟨hmoves, hillegal⟩ := not_canTransition hpath
    have hrun : (transitionCase caller caseId .triaged).run s =
        (.error (invalidTransitionError c.status .triaged),
          ((transitionCase caller caseId .triaged).run s).2) := by
      unfold transitionCase
      rw [run_readCase_bind hrow, hstatus, hillegal]
      rfl
    have hruns := RunsKept.of_run (runsKept_frame.transition caller caseId .triaged) hrun
    have hunhandled : ¬ (invalidTransitionError c.status .triaged).Handled := by
      intro hhandled
      cases hhandled _ rfl
    unfold Carries Session.Spec
    rw [run_advance hrow, hstatus, hmoves, if_neg (by decide), hrun]
    exact .inl ⟨h.onlyOpen.congr hruns, fun hfalse => absurd hfalse.1 (by decide),
      fun hhandled => absurd hhandled hunhandled⟩

end Carries

/-! ## The stages -/

/-- What the stages before the optimizer answer. -/
structure Proposal where
  triage : AgentSource
  diagnosis : AgentSource
  strategy : AgentSource
  candidates : List String

/-- The stages before the optimizer, in a context. -/
def proposeStages (orch : RecoveryAgentOrchestrator) (caller : Caller) (caseId : ℕ)
    (c : RecoveryCase) (context : Store) : Service Proposal := do
  Session.ofExcept (orch.agents.buildContext context caseId)
  addStep orch.settings 1 "triage"
  let triage ← persistStage caller.now c.merchantId caseId .triage id
    (orch.agents.triage context caseId)
  advance caller caseId .triaged
  addStep orch.settings 2 "diagnosis"
  let diagnosis ← persistStage caller.now c.merchantId caseId .diagnosis id
    (orch.agents.diagnosis context caseId)
  advance caller caseId .investigating
  advance caller caseId .diagnosed
  addStep orch.settings 3 "strategy"
  let strategy ← persistStage caller.now c.merchantId caseId .strategy Prod.fst
    (orch.agents.strategy context caseId)
  addStep orch.settings 4 "optimize"
  pure { triage, diagnosis, strategy := strategy.1, candidates := strategy.2 }

/-- The stages from the optimizer to the explanation. -/
def decideOn (rt : Runtime) (orch : RecoveryAgentOrchestrator) (caller : Caller) (caseId : ℕ)
    (c : RecoveryCase) (context : Store) (proposal : Proposal) :
    Service (OptimizationResult × List String) := do
  let optimization ← optimizeCase orch.optimizer rt.py caller caseId (some proposal.candidates)
  advance caller caseId .scoring
  advance caller caseId .strategySelected
  advance caller caseId .policyCheck
  addStep orch.settings 5 "explain"
  let first ← Session.ofExcept (orch.agents.explain context caseId optimization 0)
  let second ← Session.ofExcept <|
    if first.2 = optimization.selectedAction then .ok first
    else orch.agents.explain context caseId optimization 1
  let _ ← persistStage caller.now c.merchantId caseId .decisionExplainer id (.ok second.1)
  pure (optimization,
    fallbackOf proposal.triage "triage" ++ fallbackOf proposal.diagnosis "diagnosis" ++
      fallbackOf proposal.strategy "strategy" ++ fallbackOf second.1 "explainer")

theorem decideStages_eq (rt : Runtime) (orch : RecoveryAgentOrchestrator) (caller : Caller)
    (caseId : ℕ) (c : RecoveryCase) :
    decideStages rt orch caller caseId c = Session.get >>= fun context =>
      proposeStages orch caller caseId c context >>= decideOn rt orch caller caseId c context := by
  unfold proposeStages
  simp only [Session.bind_assoc]
  rfl

/-- The calls of the agents that propose candidates for a case with this status, each of which
is reached when the one before has passed. -/
def ProposalPasses (orch : RecoveryAgentOrchestrator) (caseId : ℕ) (status : RecoveryCaseStatus)
    (context : Store) (next : List String → Prop) : Prop :=
  Passes Failure.Handled
    (fun _ => 1 ≤ orch.settings.maxAgentSteps →
      Passes Failure.RolledBack
        (fun _ => hasReached .detected status = true ∧ (2 ≤ orch.settings.maxAgentSteps →
          Passes Failure.RolledBack
            (fun _ => 3 ≤ orch.settings.maxAgentSteps →
              Passes Failure.RolledBack
                (fun strategy => 4 ≤ orch.settings.maxAgentSteps → next strategy.2)
                (orch.agents.strategy context caseId))
            (orch.agents.diagnosis context caseId)))
        (orch.agents.triage context caseId))
    (orch.agents.buildContext context caseId)

/-- The call of the optimizer on the candidates, from the store that the proposal left, and
those of the explainer. -/
def DecisionPasses (rt : Runtime) (orch : RecoveryAgentOrchestrator) (caller : Caller)
    (caseId : ℕ) (context before : Store) (next : OptimizationResult → Prop)
    (candidates : List String) : Prop :=
  Passes Failure.Handled
    (fun optimization => 5 ≤ orch.settings.maxAgentSteps →
      Passes Failure.Handled
        (fun first =>
          Passes Failure.Handled (fun _ => next optimization)
            (if first.2 = optimization.selectedAction then .ok first
              else orch.agents.explain context caseId optimization 1))
        (orch.agents.explain context caseId optimization 0))
    ((optimizeCase orch.optimizer rt.py caller caseId (some candidates)).run before).1

/-- The call of the tool service for the selected action, from the store that the decision
left. -/
def ExecutionPasses (rt : Runtime) (orch : RecoveryAgentOrchestrator) (caller : Caller)
    (executes : Bool) (caseId : ℕ) (c : RecoveryCase) (runId : ℕ) (before : Store)
    (optimization : OptimizationResult) : Prop :=
  ∀ action, optimization.selectedAction = some action → executes = true →
    6 ≤ orch.settings.maxAgentSteps → 1 ≤ orch.settings.maxToolCalls →
      1 ≤ orch.settings.maxRepeatedToolCalls →
        Passes Failure.Handled (fun _ => True)
          ((execute rt orch.tools (orch.executor caller) (selectedExecution rt.py orch.optimizer
            optimization caseId c runId (orch.executor caller).now action)).run before).1

/-- None of the calls that the stages make fails with a `DomainError` that leaves a record
open: the agents with none at all while their records are open, the others with agent errors
only; and the case can be led to the policy check. -/
def StagesPass (rt : Runtime) (orch : RecoveryAgentOrchestrator) (caller : Caller)
    (executes : Bool) (caseId : ℕ) (c : RecoveryCase) (runId : ℕ) (s : Store) : Prop :=
  ProposalPasses orch caseId c.status s <|
    DecisionPasses rt orch caller caseId s ((proposeStages orch caller caseId c s).run s).2 <|
      ExecutionPasses rt orch caller executes caseId c runId
        ((decideStages rt orch caller caseId c).run s).2

namespace Carries

theorem proposeStages {context : Store} (h : AtStage n caseId (· = c.status) s)
    (orch : RecoveryAgentOrchestrator) (caller : Caller) (next : List String → Prop) :
    Carries n caseId (ProposalPasses orch caseId c.status context next)
      (ReviveX.proposeStages orch caller caseId c context) s
      (AtStage n caseId (hasReached .diagnosed · = true)) fun proposal =>
        next proposal.candidates := by
  refine bind (ofExcept h _) fun _ s₁ _ h₁ => ?_
  refine bind (addStep h₁ h₁.onlyOpen orch.settings 1 "triage") fun _ s₂ _ h₂ => ?_
  refine bind (persistStage h₂ _ _ .triage id _) fun triage s₃ _ h₃ => ?_
  refine bind (advance_first h₃ caller) fun _ s₄ _ h₄ => ?_
  refine bind (addStep h₄ h₄.onlyOpen orch.settings 2 "diagnosis") fun _ s₅ _ h₅ => ?_
  refine bind (persistStage h₅ _ _ .diagnosis id _) fun diagnosis s₆ _ h₆ => ?_
  refine bind (advance h₆ caller (by unfold Follows; decide) fun _ => id) fun _ s₇ _ h₇ => ?_
  refine bind (advance h₇ caller (by unfold Follows; decide) fun _ => id) fun _ s₈ _ h₈ => ?_
  refine bind (addStep h₈ h₈.onlyOpen orch.settings 3 "strategy") fun _ s₉ _ h₉ => ?_
  refine bind (persistStage h₉ _ _ .strategy Prod.fst _) fun strategy s₁₀ _ h₁₀ => ?_
  refine bind (addStep h₁₀ h₁₀.onlyOpen orch.settings 4 "optimize") fun _ s₁₁ _ h₁₁ => ?_
  exact pure h₁₁ Iff.rfl

/-- The optimizer leaves the records and the case alone. -/
theorem optimizeCase {p : RecoveryCaseStatus → Prop} (h : AtStage n caseId p s)
    (opt : RecoveryOptimizer) (py : PyText) (caller : Caller)
    (candidates : Option (List String)) (next : OptimizationResult → Prop) :
    Carries n caseId
      (Passes Failure.Handled next
        ((ReviveX.optimizeCase opt py caller caseId candidates).run s).1)
      (ReviveX.optimizeCase opt py caller caseId candidates) s (AtStage n caseId p) next := by
  have hrows := OptimizerRows.keeps_optimizeCase opt py caller caseId candidates
  have hkept : Session.Keeps RunsKept (ReviveX.optimizeCase opt py caller caseId candidates) := by
    intro s
    unfold RunsKept
    rw [hrows s]
  refine of_kept hkept h.onlyOpen fun optimization s' hrun => ?_
  have hwritten : OptimizerRows s s' := by
    have hs := hrows s
    rw [hrun] at hs
    exact hs
  rw [hwritten]
  exact ⟨h.onlyOpen, h.standing⟩

theorem decideOn (h : AtStage n caseId (hasReached .diagnosed · = true) s) (rt : Runtime)
    (orch : RecoveryAgentOrchestrator) (caller : Caller) (context : Store) (proposal : Proposal)
    (next : OptimizationResult → Prop) :
    Carries n caseId
      (DecisionPasses rt orch caller caseId context s next proposal.candidates)
      (ReviveX.decideOn rt orch caller caseId c context proposal) s
      (AtStage n caseId (hasReached .policyCheck · = true)) fun d => next d.1 := by
  refine bind (optimizeCase h _ _ caller _ _) fun optimization s₁ _ h₁ => ?_
  refine bind (advance h₁ caller (by unfold Follows; decide) fun _ => id) fun _ s₂ _ h₂ => ?_
  refine bind (advance h₂ caller (by unfold Follows; decide) fun _ => id) fun _ s₃ _ h₃ => ?_
  refine bind (advance h₃ caller (by unfold Follows; decide) fun _ => id) fun _ s₄ _ h₄ => ?_
  refine bind (addStep h₄ h₄.onlyOpen orch.settings 5 "explain") fun _ s₅ _ h₅ => ?_
  refine bind (ofExcept h₅ _) fun first s₆ _ h₆ => ?_
  refine bind (ofExcept h₆ _) fun second s₇ _ h₇ => ?_
  -- the explanation is there before its record is
  have hrecorded : Carries n caseId (Passes Failure.RolledBack (fun _ => next optimization)
      (.ok second.1)) _ s₇ _ _ :=
    persistStage h₇ caller.now c.merchantId .decisionExplainer id (.ok second.1)
  refine bind hrecorded fun _ s₈ _ h₈ => ?_
  exact pure h₈ Iff.rfl

theorem get_bind {P : Prop} {f : Store → Service α} {I : Store → Prop} {next : α → Prop}
    (h : Carries n caseId P (f s) s I next) : Carries n caseId P (Session.get >>= f) s I next := h

/-- The decision; the last stage that it reaches is the policy check. -/
theorem decideStages (h : AtStage n caseId (· = c.status) s) (rt : Runtime)
    (orch : RecoveryAgentOrchestrator) (caller : Caller) (next : OptimizationResult → Prop) :
    Carries n caseId
      (ProposalPasses orch caseId c.status s <|
        DecisionPasses rt orch caller caseId s
          ((ReviveX.proposeStages orch caller caseId c s).run s).2 next)
      (ReviveX.decideStages rt orch caller caseId c) s
      (AtStage n caseId (hasReached .policyCheck · = true)) fun d => next d.1 := by
  rw [decideStages_eq]
  refine get_bind (bind (proposeStages h orch caller _) fun proposal s₁ hrun₁ h₁ => ?_)
  rw [hrun₁]
  exact decideOn h₁ rt orch caller s proposal next

theorem addTool {P : Prop} (h : OnlyOpen n s) (settings : AgentSettings) (toolName : String) :
    Carries n caseId (1 ≤ settings.maxToolCalls → 1 ≤ settings.maxRepeatedToolCalls → P)
      (ReviveX.addTool settings toolName) s (fun s' => s' = s) fun _ => P := by
  unfold ReviveX.addTool Carries
  by_cases hcalls : settings.maxToolCalls < 1
  · rw [if_pos hcalls]
    refine .inl ⟨h, fun _ e he => ?_, fun _ hlimit => absurd hlimit (not_le.mpr hcalls)⟩
    obtain rfl := Failure.domain.inj he
    rfl
  · rw [if_neg hcalls]
    by_cases hrepeated : settings.maxRepeatedToolCalls < 1
    · rw [if_pos hrepeated]
      refine .inl ⟨h, fun _ e he => ?_, fun _ _ hlimit => absurd hlimit (not_le.mpr hrepeated)⟩
      obtain rfl := Failure.domain.inj he
      rfl
    · rw [if_neg hrepeated]
      exact ⟨rfl, fun hP => hP (not_lt.mp hcalls) (not_lt.mp hrepeated), fun hP _ _ => hP⟩

theorem executeStage (h : OnlyOpen n s) (rt : Runtime) (orch : RecoveryAgentOrchestrator)
    (caller : Caller) (executes : Bool) (c : RecoveryCase) (optimization : OptimizationResult) :
    Carries n caseId (ExecutionPasses rt orch caller executes caseId c n s optimization)
      (ReviveX.executeStage rt orch caller executes caseId c n optimization) s (OnlyOpen n)
      fun _ => True := by
  unfold ReviveX.executeStage ExecutionPasses
  cases optimization.selectedAction with
  | none => exact pure h (iff_of_true (fun _ hnone => by cases hnone) trivial)
  | some action =>
    cases executes with
    | false => exact pure h (iff_of_true (fun _ _ hfalse => by cases hfalse) trivial)
    | true =>
      have hthis : ∀ Q : RecoveryActionType → Prop,
          (∀ a, some action = some a → true = true → Q a) ↔ Q action := fun Q =>
        ⟨fun hall => hall action rfl rfl, fun hq a ha _ => Option.some.inj ha ▸ hq⟩
      rw [propext (hthis _)]
      have hkept := runsKept_frame.keeps_execute rt orch.tools (orch.executor caller)
        (selectedExecution rt.py orch.optimizer optimization caseId c n (orch.executor caller).now
          action)
      refine bind (addStep (I := fun s' => s' = s) rfl h orch.settings 6 "execute")
        fun _ s₁ _ hs₁ => ?_
      obtain rfl := hs₁
      refine bind (m := executeSelected rt orch caller caseId c n optimization action) ?_
        fun result s₂ _ h₂ => pure h₂ Iff.rfl
      refine bind (addTool h orch.settings _) fun _ s₂ _ hs₂ => ?_
      obtain rfl := hs₂
      exact of_kept hkept h fun _ s' hrun => h.congr (RunsKept.of_run hkept hrun)

theorem readCase (h : OnlyOpen n s) (i : ℕ) :
    Carries n caseId True (ReviveX.readCase i) s (OnlyOpen n) fun _ => True := by
  unfold ReviveX.readCase
  refine get_bind ?_
  cases s.cases.get? i with
  | none => exact .inl ⟨h, iff_of_true trivial fun _ hdomain => by cases hdomain⟩
  | some row => exact pure h Iff.rfl

/-- The try block of `run_case`. -/
theorem runStages (h : AtStage n caseId (· = c.status) s) (rt : Runtime)
    (orch : RecoveryAgentOrchestrator) (caller : Caller) (executes : Bool) :
    Carries n caseId (StagesPass rt orch caller executes caseId c n s)
      (ReviveX.runStages rt orch caller executes caseId c n) s (NoneOpen n) fun _ => True := by
  unfold ReviveX.runStages
  refine bind (decideStages h rt orch caller _) fun d s₁ hrun₁ h₁ => ?_
  rw [hrun₁]
  refine bind (executeStage h₁.onlyOpen rt orch caller executes c d.1) fun executed s₂ _ h₂ => ?_
  refine bind (readCase h₂ caseId) fun after s₃ _ h₃ => ?_
  split
  · refine .inl ⟨h₃, iff_of_true trivial fun e he => ?_⟩
    obtain rfl := Failure.domain.inj he
    rfl
  · exact ⟨h₃.complete _ _ _ _ _ (.inl rfl) _, Iff.rfl⟩

end Carries

/-! ## The run -/

/-- When `run_case` returns or raises a `DomainError`, every record it started is final. -/
def RecordsFinal (rt : Runtime) (orch : RecoveryAgentOrchestrator) (now : Time) (executes : Bool)
    (caseId : ℕ) (merchantId : Option ℕ) (s : Store) : Prop :=
  ∀ x s', (runCase rt orch now executes caseId merchantId).run s = (x, s') →
    (∀ f, x = .error f → f.commits = true) →
      ∀ i run, s.agentRuns.nextId ≤ i → s'.agentRuns.get? i = some run → run.Final

/-- The run is refused, or its stages pass. -/
def RunPasses (rt : Runtime) (orch : RecoveryAgentOrchestrator) (now : Time) (executes : Bool)
    (caseId : ℕ) (merchantId : Option ℕ) (s : Store) : Prop :=
  ∀ c, s.cases.get? caseId = some c → ¬ (merchantId.isSome ∧ merchantId ≠ some c.merchantId) →
    isTerminal c.status = false →
      StagesPass rt orch (agentCaller now) executes caseId c s.agentRuns.nextId
        (s.startRun now c.merchantId caseId .orchestrator)

theorem atStage_startRun (hrow : s.cases.get? caseId = some c) (now : Time) :
    AtStage s.agentRuns.nextId caseId (· = c.status)
      (s.startRun now c.merchantId caseId .orchestrator) where
  onlyOpen i hi := by
    rw [openRun_startRun]
    refine ⟨fun h => h.elim id fun hopen => ?_, .inl⟩
    obtain ⟨run, hrun, -⟩ := hopen
    have hlt := Table.lt_nextId hrun
    omega
  standing := ⟨c, hrow, rfl⟩

/-- What the handler does once the run's record is completed. -/
def closeAfter (caller : Caller) (caseId : ℕ) (c : RecoveryCase) (code : String) : Service Unit :=
  if limitCodes.contains code then do
    Service.recordAudit (agentAudit caller.now c.merchantId caseId .agentLimitExceeded)
    failClosed caller caseId
  else pure ()

theorem run_recordAgentError {e : DomainError} (he : e.cls = .agent) (caller : Caller)
    (caseId : ℕ) (c : RecoveryCase) (n : ℕ) (s : Store) :
    (recordAgentError caller caseId c n (.domain e)).run s =
      (closeAfter caller caseId c e.code).run
        (s.completeRun caller.now c.merchantId caseId n .orchestrator "DETERMINISTIC_FALLBACK"
          .failed (some e.message)) := by
  unfold recordAgentError
  dsimp only
  rw [if_pos he]
  rfl

theorem keeps_closeAfter (caller : Caller) (caseId : ℕ) (c : RecoveryCase) (code : String) :
    Session.Keeps RunsKept (closeAfter caller caseId c code) :=
  .ite (runsKept_frame.bind (runsKept_frame.keeps_recordAudit (by simp [agentAudit])) fun _ =>
    runsKept_frame.keeps_failClosed caller caseId) (runsKept_frame.keeps_pure ())

/-- The escalation from the policy check is legal. -/
theorem run_failClosed (hrow : s.cases.get? caseId = some c) (caller : Caller) :
    ((failClosed caller caseId).run s).1 = .ok () := by
  unfold failClosed
  rw [run_readCase_bind hrow, Session.run_ite]
  split
  · rename_i hstatus
    have hlegal : canTransition c.status .escalated = true := by
      rw [hstatus]
      decide
    obtain ⟨s', hmoved, -⟩ := transitionCase_run caller hrow hlegal
    rw [hmoved]
  · rfl

theorem run_closeAfter (hrow : s.cases.get? caseId = some c') (caller : Caller) (c : RecoveryCase)
    (code : String) : ((closeAfter caller caseId c code).run s).1 = .ok () := by
  unfold closeAfter
  rw [Session.run_ite]
  split
  · -- the audit row is written to another table than the case
    exact run_failClosed (s := { s with auditEvents := s.auditEvents.insert _ }) hrow caller
  · rfl

/-- After an agent error the run's own record is final, and the others are as they were. -/
theorem openRun_recordAgentError {e : DomainError} (he : e.cls = .agent) (caller : Caller)
    (c : RecoveryCase) (s : Store) (i : ℕ) :
    ((recordAgentError caller caseId c n (.domain e)).run s).2.OpenRun i ↔
      i ≠ n ∧ s.OpenRun i := by
  rw [run_recordAgentError he]
  have hkept := keeps_closeAfter caller caseId c e.code (s.completeRun caller.now c.merchantId
    caseId n .orchestrator "DETERMINISTIC_FALLBACK" .failed (some e.message))
  rw [Store.OpenRun.congr hkept, openRun_completeRun (.inr rfl)]

/-- A run that is not refused. -/
theorem run_runCase (hrow : s.cases.get? caseId = some c)
    (hmerchant : ¬ (merchantId.isSome ∧ merchantId ≠ some c.merchantId))
    (hopen : isTerminal c.status = false) :
    (runCase rt orch now executes caseId merchantId).run s =
      ((runStages rt orch (agentCaller now) executes caseId c s.agentRuns.nextId).onError
        (recordAgentError (agentCaller now) caseId c s.agentRuns.nextId)).run
          (s.startRun now c.merchantId caseId .orchestrator) := by
  unfold runCase
  rw [Session.run_bind_ok (run_lockRecoveryCase hrow), if_neg hmerchant, hopen,
    if_neg (by decide)]
  rfl

/-- A run that is refused leaves the store alone. -/
theorem run_runCase_refused
    (hrefused : ∀ c, s.cases.get? caseId = some c →
      ¬ (merchantId.isSome ∧ merchantId ≠ some c.merchantId) → isTerminal c.status = true) :
    ((runCase rt orch now executes caseId merchantId).run s).2 = s := by
  unfold runCase
  cases hrow : s.cases.get? caseId with
  | none =>
    have hlock : ∃ f, (lockRecoveryCase caseId).run s = (.error f, s) := by
      unfold lockRecoveryCase
      rw [Session.run_get_bind, hrow]
      exact ⟨_, rfl⟩
    obtain ⟨f, hlock⟩ := hlock
    rw [Session.run_bind_error hlock]
  | some c =>
    rw [Session.run_bind_ok (run_lockRecoveryCase hrow)]
    by_cases hmerchant : merchantId.isSome ∧ merchantId ≠ some c.merchantId
    · rw [if_pos hmerchant]
      rfl
    · rw [if_neg hmerchant, if_pos (hrefused c hrow hmerchant)]
      rfl

/-- A failure that is no agent error passes the handler by. -/
theorem run_recordAgentError_other {f : Failure} (h : ∀ e, f = .domain e → e.cls ≠ .agent)
    (caller : Caller) (caseId : ℕ) (c : RecoveryCase) (n : ℕ) (s : Store) :
    (recordAgentError caller caseId c n f).run s = (.ok (), s) := by
  cases f with
  | crash exception => rfl
  | domain e =>
    unfold recordAgentError
    dsimp only
    rw [if_neg (h e rfl)]
    rfl

/-- A committed failure of the try block leaves a record open, unless it is an agent error and
only the run's own record was. -/
theorem handler_leaves_open {e : DomainError} {s₀ s₁ : Store} {m : Service α}
    (hrun : m.run s₀ = (.error (.domain e), s₁))
    (hbreaks : (OnlyOpen n s₁ ∧ e.cls ≠ .agent) ∨ StageOpen n caseId s₁) (caller : Caller)
    (c : RecoveryCase) :
    ∃ s', (m.onError (recordAgentError caller caseId c n)).run s₀ = (.error (.domain e), s') ∧
      ∃ i, n ≤ i ∧ s'.OpenRun i := by
  have hstays : e.cls ≠ .agent → (recordAgentError caller caseId c n (.domain e)).run s₁ =
      (.ok (), s₁) := fun hother =>
    run_recordAgentError_other (fun e' he' => Failure.domain.inj he' ▸ hother) caller caseId c n s₁
  by_cases hagent : e.cls = .agent
  · obtain ⟨hcase, i, hi, hopen⟩ := hbreaks.resolve_left fun h => h.2 hagent
    obtain ⟨c', hrow⟩ := Option.isSome_iff_exists.mp hcase
    have hreturns : ((recordAgentError caller caseId c n (.domain e)).run s₁).1 = .ok () := by
      rw [run_recordAgentError hagent]
      have hrow' : (s₁.completeRun caller.now c.merchantId caseId n .orchestrator
          "DETERMINISTIC_FALLBACK" .failed (some e.message)).cases.get? caseId = some c' := hrow
      exact run_closeAfter hrow' caller c e.code
    refine ⟨_, Session.run_onError_error hrun (Session.run_of_result hreturns), i, hi.le, ?_⟩
    exact (openRun_recordAgentError hagent caller c s₁ i).mpr ⟨hi.ne', hopen⟩
  · refine ⟨s₁, Session.run_onError_error hrun (hstays hagent), ?_⟩
    rcases hbreaks with ⟨honly, -⟩ | ⟨-, i, hi, hopen⟩
    · exact ⟨n, le_rfl, (honly n le_rfl).mpr rfl⟩
    · exact ⟨i, hi.le, hopen⟩

/-- The outcome of the try block decides: a failure that is not handled leaves the run's own
record open, and that of a stage stays open whatever the handler does. -/
theorem noneOpen_iff {P : Prop} {s₀ : Store}
    (hstages : Carries n caseId P
      (runStages rt orch caller executes caseId c n) s₀ (NoneOpen n) fun _ => True) :
    (∀ x s', ((runStages rt orch caller executes caseId c n).onError
        (recordAgentError caller caseId c n)).run s₀ = (x, s') →
      (∀ f, x = .error f → f.commits = true) → NoneOpen n s') ↔ P := by
  unfold Carries Session.Spec at hstages
  rcases hrun : (runStages rt orch caller executes caseId c n).run s₀ with ⟨f | r, s₁⟩
  · rw [hrun] at hstages
    cases f with
    | crash exception =>
      have hP : P := hstages.elim (fun h => h.2.mpr fun e he => by cases he) fun h => h.2.mpr rfl
      refine iff_of_true (fun x s' hx hcommits => ?_) hP
      rw [Session.run_onError_error hrun (run_recordAgentError_other (fun e he => by cases he) ..)]
        at hx
      obtain ⟨rfl, -⟩ := Prod.mk.inj hx
      cases hcommits _ rfl
    | domain e =>
      -- the error is not the agent's own, or it is that of a stage: either way the handler leaves a
      -- record open
      have hleft : (OnlyOpen n s₁ ∧ e.cls ≠ .agent) ∨ StageOpen n caseId s₁ → ¬ P →
          ((∀ x s', ((runStages rt orch caller executes caseId c n).onError
            (recordAgentError caller caseId c n)).run s₀ = (x, s') →
              (∀ f, x = .error f → f.commits = true) → NoneOpen n s') ↔ P) := by
        intro hbreaks hP
        obtain ⟨s', hout, i, hi, hopen⟩ := handler_leaves_open hrun hbreaks caller c
        refine iff_of_false (fun hnone => hnone _ s' hout (fun f hf => ?_) i hi hopen) hP
        obtain rfl := Except.error.inj hf
        rfl
      rcases hstages with ⟨honly, hP⟩ | ⟨hstage, hP⟩
      · by_cases hagent : e.cls = .agent
        · refine iff_of_true (fun x s' hx _ i hi hopen => ?_)
            (hP.mpr fun e' he' => Failure.domain.inj he' ▸ hagent)
          have hstate : s' = ((recordAgentError caller caseId c n (.domain e)).run s₁).2 := by
            rw [Session.run_onError, hrun] at hx
            dsimp only at hx
            rcases hhandler : (recordAgentError caller caseId c n (.domain e)).run s₁ with
              ⟨f | _, s₂⟩ <;> rw [hhandler] at hx <;> exact (Prod.mk.inj hx).2.symm
          rw [hstate] at hopen
          obtain ⟨hne, hopen⟩ := (openRun_recordAgentError hagent caller c s₁ i).mp hopen
          exact hne ((honly i hi).mp hopen)
        · exact hleft (.inl ⟨honly, hagent⟩) fun hholds => hagent (hP.mp hholds e rfl)
      · exact hleft (.inr hstage) fun hholds => by cases hP.mp hholds
  · rw [hrun] at hstages
    rw [Session.run_onError_ok hrun]
    refine iff_of_true (fun x s' hx _ => ?_) (hstages.2.mpr trivial)
    obtain ⟨-, rfl⟩ := Prod.mk.inj hx
    exact hstages.1

/-- The records of a run are final unless one of its calls fails past them. -/
theorem recordsFinal_iff (rt : Runtime) (orch : RecoveryAgentOrchestrator) (now : Time)
    (executes : Bool) (caseId : ℕ) (merchantId : Option ℕ) (s : Store) :
    RecordsFinal rt orch now executes caseId merchantId s ↔
      RunPasses rt orch now executes caseId merchantId s := by
  have hnone : ∀ s', NoneOpen s.agentRuns.nextId s' ↔ ∀ i run, s.agentRuns.nextId ≤ i →
      s'.agentRuns.get? i = some run → run.Final := fun s' =>
    ⟨fun h i run hi hrun => by_contra fun hopen => h i hi ⟨run, hrun, hopen⟩,
      fun h i hi ⟨run, hrun, hopen⟩ => hopen (h i run hi hrun)⟩
  by_cases hstarts : ∃ c, s.cases.get? caseId = some c ∧
      ¬ (merchantId.isSome ∧ merchantId ≠ some c.merchantId) ∧ isTerminal c.status = false
  · obtain ⟨c, hrow, hmerchant, hopen⟩ := hstarts
    have hstages := noneOpen_iff (Carries.runStages (atStage_startRun hrow now) rt orch
      (agentCaller now) executes)
    unfold RecordsFinal
    rw [run_runCase hrow hmerchant hopen]
    simp only [← hnone]
    rw [hstages]
    refine ⟨fun h c' hrow' _ _ => ?_, fun h => h c hrow hmerchant hopen⟩
    obtain rfl := Option.some.inj (hrow.symm.trans hrow')
    exact h
  · refine iff_of_true (fun x s' hrun _ i run hi hget => ?_)
      fun c hrow hmerchant hopen => absurd ⟨c, hrow, hmerchant, hopen⟩ hstarts
    have hstate : ((runCase rt orch now executes caseId merchantId).run s).2 = s :=
      run_runCase_refused fun c hrow hmerchant => by
        by_contra hopen
        exact hstarts ⟨c, hrow, hmerchant, eq_false_of_ne_true hopen⟩
    rw [hrun] at hstate
    obtain rfl : s' = s := hstate
    have hlt := Table.lt_nextId hget
    omega

/-- `StubLlmClient`: every stage falls back on its rules. -/
def stubLlm : LlmSetup where
  client := { complete := fun _ _ => .error .caught }
  reader := diagnosisReader

/-- A case whose last verification found nothing. -/
def notRecoveredStore : Store :=
  { twoCasesStore with cases := ⟨[sampleCase 0 100000 .notRecovered]⟩ }

/-- The orchestrator on its defaults. -/
def stubOrchestrator : RecoveryAgentOrchestrator :=
  stubLlm.orchestrator (fun _ _ => .ok ())
    (({} : OptimizerSettings).optimizer {} "5" evenResolve) sampleService

/-- The first transition of the case is illegal, and its error passes the handler by. -/
theorem records_left_open :
    ¬ RecordsFinal sampleRuntime stubOrchestrator 0 true 0 none notRecoveredStore := by
  intro hfinal
  have hraised : Lib.raised? ((runCase sampleRuntime stubOrchestrator 0 true 0 none).run
      notRecoveredStore).1 = some (invalidTransitionError .notRecovered .triaged) := by
    decide +kernel
  have hrun := Session.run_of_result (Lib.raised?_eq_some.mp hraised)
  have hrecord : (((runCase sampleRuntime stubOrchestrator 0 true 0 none).run
      notRecoveredStore).2.agentRuns.get? 0).map (·.status) = some .running := by
    decide +kernel
  obtain ⟨run, hget, hstatus⟩ := Option.map_eq_some_iff.mp hrecord
  have hdone := (hfinal _ _ hrun (fun f hf => by rw [← Except.error.inj hf]; rfl) 0 run
    (Nat.zero_le _) hget).status
  rw [hstatus] at hdone
  revert hdone
  decide

end ReviveX
