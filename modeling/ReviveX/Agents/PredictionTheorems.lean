import ReviveX.Agents.Predictions
import ReviveX.Agents.ProposalTheorems
import ReviveX.Agents.RepricingTheorems

/-!
# Stored predictions

A run of the optimizer prices an action with an override, with the stored prediction while it
is fresh, or with what the model answers; the answer is stored rounded to six decimals, and the
next run inside the time to live prices the action with that (`run_resolveProbability_settled`).
A run of different actions leaves each of them settled so (`run_scorePredictions_ok`).
-/

namespace ReviveX

open Lib (Decimal Session)

variable {rows rows' : List ModelPrediction} {new row : ModelPrediction} {caseId : ℕ}
  {action : RecoveryActionType}

/-! ## The table -/

/-- The rows of an action of a case. -/
def rowsFor (rows : List ModelPrediction) (caseId : ℕ) (action : RecoveryActionType) :
    List ModelPrediction :=
  rows.filter fun row => row.recoveryCaseId = caseId && row.action = action

theorem mem_rowsFor : row ∈ rowsFor rows caseId action ↔
    row ∈ rows ∧ row.recoveryCaseId = caseId ∧ row.action = action := by
  unfold rowsFor
  rw [List.mem_filter, Bool.and_eq_true, decide_eq_true_eq, decide_eq_true_eq]

/-- The latest row of an action was written last. -/
theorem latestForAction_spec (h : latestForAction rows caseId action = some row) :
    row ∈ rowsFor rows caseId action ∧
      ∀ other ∈ rowsFor rows caseId action, other.updatedAt ≤ row.updatedAt := by
  obtain ⟨hmem, hbest⟩ := Lib.head?_insertionSort
    (fun row : ModelPrediction => OrderDual.toDual (toLex (row.updatedAt, row.createdAt))) h
  refine ⟨hmem, fun other hother => ?_⟩
  have hle : toLex (other.updatedAt, other.createdAt) ≤ toLex (row.updatedAt, row.createdAt) :=
    hbest other hother
  rcases Prod.Lex.le_iff.mp hle with hlt | ⟨heq, -⟩
  · exact hlt.le
  · exact heq.le

theorem latestForAction_isSome (h : row ∈ rowsFor rows caseId action) :
    ∃ latest, latestForAction rows caseId action = some latest := by
  have hmem := (List.mem_insertionSort fun a b : ModelPrediction =>
    toLex (b.updatedAt, b.createdAt) ≤ toLex (a.updatedAt, a.createdAt)).mpr h
  obtain ⟨latest, rest, hcons⟩ := List.exists_cons_of_ne_nil (List.ne_nil_of_mem hmem)
  refine ⟨latest, ?_⟩
  unfold rowsFor at hcons
  unfold latestForAction
  rw [hcons]
  rfl

/-- The rows of the other actions stay. -/
theorem rowsFor_upsert_other (rows : List ModelPrediction) (caseId : ℕ)
    (hother : new.action ≠ action) :
    rowsFor (upsertPrediction rows new) caseId action = rowsFor rows caseId action := by
  unfold upsertPrediction
  split
  · unfold rowsFor
    rw [List.filter_map]
    have hkept : (rows.filter ((fun row : ModelPrediction =>
        row.recoveryCaseId = caseId && row.action = action) ∘ fun row =>
          if row.fingerprint = new.fingerprint then
            { row with
              probability := new.probability
              source := new.source
              updatedAt := new.updatedAt }
          else row)) =
        rows.filter fun row => row.recoveryCaseId = caseId && row.action = action := by
      refine List.filter_congr fun row _ => ?_
      dsimp only [Function.comp]
      split <;> rfl
    rw [hkept]
    refine (List.map_congr_left fun row hrow => if_neg fun hsame => ?_).trans (List.map_id _)
    have haction : row.action = new.action := congrArg PredictionFingerprint.action hsame
    exact hother (haction.symm.trans (mem_rowsFor.mp hrow).2.2)
  · have hnone : decide (new.action = action) = false := decide_eq_false hother
    unfold rowsFor
    simp [hnone]

theorem latestForAction_upsert_other (hother : new.action ≠ action) :
    latestForAction (upsertPrediction rows new) caseId action =
      latestForAction rows caseId action := by
  have hrows := rowsFor_upsert_other rows caseId hother
  unfold rowsFor at hrows
  unfold latestForAction
  rw [hrows]

/-- A row with the content of another that was written. -/
def WrittenAs (new row : ModelPrediction) : Prop :=
  row.recoveryCaseId = new.recoveryCaseId ∧ row.action = new.action ∧
    row.probability = new.probability ∧ row.updatedAt = new.updatedAt

theorem of_mem_upsert (h : row ∈ upsertPrediction rows new) : row ∈ rows ∨ WrittenAs new row := by
  unfold upsertPrediction at h
  split at h
  · obtain ⟨old, hold, rfl⟩ := List.mem_map.mp h
    split
    · rename_i hsame
      have hcase : old.recoveryCaseId = new.recoveryCaseId :=
        congrArg PredictionFingerprint.recoveryCaseId hsame
      have haction : old.action = new.action := congrArg PredictionFingerprint.action hsame
      exact .inr ⟨hcase, haction, rfl, rfl⟩
    · exact .inl hold
  · rcases List.mem_append.mp h with hold | hnew
    · exact .inl hold
    · obtain rfl := List.mem_singleton.mp hnew
      exact .inr ⟨rfl, rfl, rfl, rfl⟩

theorem exists_mem_upsert (rows : List ModelPrediction) (new : ModelPrediction) :
    ∃ row ∈ upsertPrediction rows new, WrittenAs new row := by
  unfold upsertPrediction
  split
  · rename_i hany
    obtain ⟨old, hold, hsame⟩ := List.any_eq_true.mp hany
    have hprint : old.fingerprint = new.fingerprint := of_decide_eq_true hsame
    have hcase : old.recoveryCaseId = new.recoveryCaseId :=
      congrArg PredictionFingerprint.recoveryCaseId hprint
    have haction : old.action = new.action := congrArg PredictionFingerprint.action hprint
    refine ⟨_, List.mem_map_of_mem hold, ?_⟩
    rw [if_pos hprint]
    exact ⟨hcase, haction, rfl, rfl⟩
  · exact ⟨new, by simp, rfl, rfl, rfl, rfl⟩

/-- A row that is written after all of its action is the latest. -/
theorem latestForAction_upsert_self
    (hlater : ∀ row ∈ rowsFor rows new.recoveryCaseId new.action, row.updatedAt < new.updatedAt) :
    ∃ row, latestForAction (upsertPrediction rows new) new.recoveryCaseId new.action = some row ∧
      row.probability = new.probability ∧ row.updatedAt = new.updatedAt := by
  obtain ⟨written, hmem, hcase, haction, -, hupdated⟩ := exists_mem_upsert rows new
  have hwritten : written ∈
      rowsFor (upsertPrediction rows new) new.recoveryCaseId new.action :=
    mem_rowsFor.mpr ⟨hmem, hcase, haction⟩
  obtain ⟨row, hrow⟩ := latestForAction_isSome hwritten
  obtain ⟨hin, hbest⟩ := latestForAction_spec hrow
  obtain ⟨hin, hcase', haction'⟩ := mem_rowsFor.mp hin
  rcases of_mem_upsert hin with hold | hnew
  · have hbefore := hlater row (mem_rowsFor.mpr ⟨hold, hcase', haction'⟩)
    have hafter := hbest written hwritten
    rw [hupdated] at hafter
    exact absurd hbefore hafter.not_gt
  · exact ⟨row, hrow, hnew.2.2⟩

/-! ## The probability of an action -/

variable {source : PredictionSource} {answer answer' : Except (String × String) RecoveryProbability}
  {now now' : Time} {merchantId : ℕ} {quote : Option ProbabilityQuote}

/-- A prediction of the action is stored, and still fresh. -/
def StoredFresh (source : PredictionSource) (rows : List ModelPrediction) (caseId : ℕ)
    (action : RecoveryActionType) (now : Time) (row : ModelPrediction) : Prop :=
  latestForAction rows caseId action = some row ∧ now ≤ row.updatedAt + source.ttl

/-- The number that an action is priced with. -/
def quotedNumber (quote : Option ProbabilityQuote) : Option ℚ :=
  quote.map fun q => q.probability.val

/-- The number that an action is priced with in a run on the rows. -/
def quotedAt (source : PredictionSource) (answer : Except (String × String) RecoveryProbability)
    (now : Time) (merchantId caseId : ℕ) (rows : List ModelPrediction)
    (action : RecoveryActionType) : Option ℚ :=
  ((source.resolveProbability answer now merchantId caseId action).run
    rows).1.toOption.bind quotedNumber

theorem quotedAt_eq
    (h : (source.resolveProbability answer now merchantId caseId action).run rows =
      (.ok quote, rows')) :
    quotedAt source answer now merchantId caseId rows action = quotedNumber quote := by
  unfold quotedAt
  rw [h]
  rfl

/-- Of the rows the number depends on the latest one of the action. -/
theorem quotedAt_congr
    (h : latestForAction rows' caseId action = latestForAction rows caseId action) :
    quotedAt source answer now merchantId caseId rows' action =
      quotedAt source answer now merchantId caseId rows action := by
  -- a prediction inserts its row and answers with it, whatever the other rows are
  have hrefresh : ∀ refreshed, ((refreshProbability answer now merchantId caseId action
      refreshed).run rows').1 = ((refreshProbability answer now merchantId caseId action
        refreshed).run rows).1 := by
    intro refreshed
    unfold refreshProbability
    rw [Session.run_ofExcept_bind, Session.run_ofExcept_bind]
    cases predict answer now refreshed with
    | error e => rfl
    | ok predicted =>
      dsimp only
      unfold persistPrediction
      split <;> rfl
  have hasked : ∀ refreshed, ((some <$> refreshProbability answer now merchantId caseId action
      refreshed).run rows').1 = ((some <$> refreshProbability answer now merchantId caseId action
        refreshed).run rows).1 := by
    intro refreshed
    have hsame := hrefresh refreshed
    show (Session.run (_ >>= _) rows').1 = (Session.run (_ >>= _) rows).1
    rw [Session.run_bind, Session.run_bind]
    cases hrun : (refreshProbability answer now merchantId caseId action refreshed).run rows with
    | mk outcome last =>
      cases hrun' : (refreshProbability answer now merchantId caseId action
          refreshed).run rows' with
      | mk outcome' last' =>
        rw [hrun, hrun'] at hsame
        obtain rfl : outcome' = outcome := hsame
        cases outcome' <;> rfl
  unfold quotedAt
  congr 2
  unfold PredictionSource.resolveProbability
  cases source.probabilities with
  | some overrides =>
    dsimp only
    cases overrides action with
    | none => rfl
    | some value =>
      dsimp only
      rw [Session.run_ofExcept_bind, Session.run_ofExcept_bind]
      cases probabilityToDecimal value <;> rfl
  | none =>
    -- the stored number is looked for in the latest row only
    have hload : loadCached rows' caseId action now source.ttl =
        loadCached rows caseId action now source.ttl := by
      unfold loadCached
      rw [h]
    dsimp only
    rw [Session.run_get_bind, Session.run_get_bind, hload]
    cases loadCached rows caseId action now source.ttl with
    | none => exact hasked false
    | some cached =>
      dsimp only
      split
      · exact hasked true
      · rfl

theorem loadCached_eq (h : latestForAction rows caseId action = some row) (now ttl : Time) :
    loadCached rows caseId action now ttl = some
      { probability := row.probability
        modelVersion := row.modelVersion
        featureVersion := row.featureVersion
        source := mapPredictionSource row.source
        predictedAt := row.updatedAt
        stale := decide (ttl < now - row.updatedAt)
        refreshed := false } := by
  unfold loadCached
  rw [h]
  rfl

/-- Without overrides and with a fresh prediction stored, the latter is the answer. -/
theorem run_resolveProbability_fresh (hsource : source.probabilities = none)
    (h : StoredFresh source rows caseId action now row)
    (answer : Except (String × String) RecoveryProbability) (merchantId : ℕ) :
    ∃ quote, (source.resolveProbability answer now merchantId caseId action).run rows =
      (.ok quote, rows) ∧ quotedNumber quote = some row.probability.val := by
  obtain ⟨hlatest, hfresh⟩ := h
  have hnow : decide (source.ttl < now - row.updatedAt) = false := by
    rw [decide_eq_false_iff_not]
    have hle : now - row.updatedAt ≤ source.ttl := by linarith
    exact not_lt.mpr hle
  unfold PredictionSource.resolveProbability
  rw [hsource]
  dsimp only
  rw [Session.run_get_bind, loadCached_eq hlatest, hnow]
  exact ⟨_, rfl, rfl⟩

/-- What a new answer leaves in the table. -/
structure Refreshed (scored : RecoveryProbability) (now : Time) (caseId : ℕ)
    (action : RecoveryActionType) (new : ModelPrediction) : Prop where
  recoveryCaseId : new.recoveryCaseId = caseId
  action : new.action = action
  updatedAt : new.updatedAt = now
  probability : new.probability.val = roundSix scored.probability.value

theorem probabilityToDecimal_ok {q : ℚ} {p : Probability}
    (h : probabilityToDecimal (.finite q) = .ok p) : p.val = q := by
  unfold probabilityToDecimal at h
  dsimp only at h
  split at h
  · rw [← Except.ok.inj h]
  · cases h

theorem predict_ok {refreshed : Bool} {q : ProbabilityQuote} {scored : PyFloat}
    (h : predict answer now refreshed = .ok (q, scored)) :
    ∃ output, answer = .ok output ∧ q.probability.val = output.probability.text ∧
      scored = output.probability := by
  cases answer with
  | error e => cases h
  | ok output =>
    obtain ⟨p, hp, hquote⟩ := Lib.bind_eq_ok.mp h
    obtain ⟨rfl, rfl⟩ := Prod.mk.inj (Except.ok.inj hquote)
    exact ⟨output, rfl, probabilityToDecimal_ok hp, rfl⟩

theorem run_refreshProbability_ok {refreshed : Bool} {q : ProbabilityQuote}
    (h : (refreshProbability answer now merchantId caseId action refreshed).run rows =
      (.ok q, rows')) :
    ∃ scored new, answer = .ok scored ∧ q.probability.val = scored.probability.text ∧
      Refreshed scored now caseId action new ∧ rows' = upsertPrediction rows new := by
  unfold refreshProbability at h
  obtain ⟨⟨quote, scored⟩, rows₁, hpredict, h⟩ := Session.run_bind_eq_ok.mp h
  obtain ⟨hquote, rfl⟩ := Prod.mk.inj hpredict
  obtain ⟨output, rfl, hnumber, rfl⟩ := predict_ok hquote
  obtain ⟨u, rows₂, hpersist, h⟩ := Session.run_bind_eq_ok.mp h
  obtain ⟨hsame, rfl⟩ := Prod.mk.inj h
  obtain rfl := Except.ok.inj hsame
  unfold persistPrediction at hpersist
  split at hpersist
  · obtain ⟨-, rfl⟩ := Prod.mk.inj hpersist
    exact ⟨output, _, rfl, hnumber, ⟨rfl, rfl, rfl, rfl⟩, rfl⟩
  · cases (Prod.mk.inj hpersist).1

/-- Without overrides an action is priced with the fresh prediction stored for it, or, where
there is none, with what the model answers. -/
theorem run_resolveProbability_ok (hsource : source.probabilities = none)
    (h : (source.resolveProbability answer now merchantId caseId action).run rows =
      (.ok quote, rows')) :
    (∃ row, StoredFresh source rows caseId action now row ∧ rows' = rows ∧
      quotedNumber quote = some row.probability.val) ∨
    (∀ row, ¬ StoredFresh source rows caseId action now row) ∧
      ∃ scored new, answer = .ok scored ∧ quotedNumber quote = some scored.probability.text ∧
        Refreshed scored now caseId action new ∧ rows' = upsertPrediction rows new := by
  by_cases hfresh : ∃ row, StoredFresh source rows caseId action now row
  · obtain ⟨row, hrow⟩ := hfresh
    obtain ⟨quote', hrun, hnumber⟩ := run_resolveProbability_fresh hsource hrow answer merchantId
    obtain ⟨hquote, rfl⟩ := Prod.mk.inj (hrun.symm.trans h)
    obtain rfl := Except.ok.inj hquote
    exact .inl ⟨row, hrow, rfl, hnumber⟩
  · have hnone : ∀ row, ¬ StoredFresh source rows caseId action now row :=
      fun row hrow => hfresh ⟨row, hrow⟩
    -- asking the model stores its answer, whether or not a row is refreshed
    have hasked : ∀ refreshed, ((some <$> refreshProbability answer now merchantId caseId action
        refreshed).run rows = (.ok quote, rows')) →
        ∃ scored new, answer = .ok scored ∧ quotedNumber quote = some scored.probability.text ∧
          Refreshed scored now caseId action new ∧ rows' = upsertPrediction rows new := by
      intro refreshed hrun
      obtain ⟨q, rows₁, hrun₁, hend⟩ := Session.run_bind_eq_ok.mp hrun
      obtain ⟨hquote, rfl⟩ := Prod.mk.inj hend
      obtain rfl := Except.ok.inj hquote
      obtain ⟨scored, new, hanswer, hnumber, hnew, hrows⟩ := run_refreshProbability_ok hrun₁
      exact ⟨scored, new, hanswer, congrArg some hnumber, hnew, hrows⟩
    refine .inr ⟨hnone, ?_⟩
    unfold PredictionSource.resolveProbability at h
    rw [hsource] at h
    dsimp only at h
    rw [Session.run_get_bind] at h
    cases hlatest : latestForAction rows caseId action with
    | none =>
      have hload : loadCached rows caseId action now source.ttl = none := by
        unfold loadCached
        rw [hlatest]
        rfl
      rw [hload] at h
      exact hasked false h
    | some row =>
      -- the latest row is there, and too old
      have hstale : decide (source.ttl < now - row.updatedAt) = true := by
        have hlt : ¬ now ≤ row.updatedAt + source.ttl := fun hle => hnone row ⟨hlatest, hle⟩
        rw [decide_eq_true_eq]
        linarith [not_le.mp hlt]
      rw [loadCached_eq hlatest, hstale] at h
      exact hasked true h

/-! ### The run after it -/

/-- The second run falls inside the time to live of every prediction that the first one uses. -/
structure InsideTtl (source : PredictionSource) (rows : List ModelPrediction) (caseId : ℕ)
    (now now' : Time) : Prop where
  later : now ≤ now'
  within : now' ≤ now + source.ttl
  stored : ∀ action row, StoredFresh source rows caseId action now row →
    StoredFresh source rows caseId action now' row

/-- An action is priced with a number from what is stored, and nothing is written. -/
def Settles (source : PredictionSource) (now : Time) (merchantId caseId : ℕ)
    (action : RecoveryActionType) (rows : List ModelPrediction) (number : Option ℚ) : Prop :=
  ∀ answer, ∃ quote, (source.resolveProbability answer now merchantId caseId action).run rows =
    (.ok quote, rows) ∧ quotedNumber quote = number

/-- The number of an action in the run after one that priced it: the same, or what was stored
of the model's answer. -/
def Requotes (source : PredictionSource) (answer : Except (String × String) RecoveryProbability)
    (now : Time) (caseId : ℕ) (action : RecoveryActionType) (rows : List ModelPrediction)
    (number number' : Option ℚ) : Prop :=
  number' = number ∧ (source.probabilities = none →
      ∃ row, StoredFresh source rows caseId action now row) ∨
    source.probabilities = none ∧ (∀ row, ¬ StoredFresh source rows caseId action now row) ∧
      ∃ scored, answer = .ok scored ∧ number = some scored.probability.text ∧
        number' = some (roundSix scored.probability.value)

theorem Requotes.isSome {number number' : Option ℚ}
    (h : Requotes source answer now caseId action rows number number') :
    number'.isSome = number.isSome := by
  rcases h with ⟨rfl, -⟩ | ⟨-, -, scored, -, rfl, rfl⟩ <;> rfl

theorem Settles.of_fresh (hsource : source.probabilities = none)
    (h : StoredFresh source rows caseId action now row) :
    Settles source now merchantId caseId action rows (some row.probability.val) :=
  fun answer => run_resolveProbability_fresh hsource h answer merchantId

/-- With overrides the table is not read, nor is the clock. -/
theorem Settles.of_override {overrides : RecoveryActionType → Option Decimal}
    (hsource : source.probabilities = some overrides)
    (h : (source.resolveProbability answer now merchantId caseId action).run rows =
      (.ok quote, rows')) :
    rows' = rows ∧ ∀ now' rows, Settles source now' merchantId caseId action rows
      (quotedNumber quote) := by
  unfold PredictionSource.resolveProbability at h
  rw [hsource] at h
  dsimp only at h
  cases hvalue : overrides action with
  | none =>
    rw [hvalue] at h
    obtain ⟨hquote, rfl⟩ := Prod.mk.inj h
    obtain rfl := Except.ok.inj hquote
    refine ⟨rfl, fun now' rows answer => ⟨none, ?_, rfl⟩⟩
    unfold PredictionSource.resolveProbability
    rw [hsource]
    dsimp only
    rw [hvalue]
    rfl
  | some value =>
    rw [hvalue] at h
    dsimp only at h
    obtain ⟨p, rows₁, hp, h⟩ := Session.run_bind_eq_ok.mp h
    obtain ⟨hnumber, rfl⟩ := Prod.mk.inj hp
    obtain ⟨hquote, rfl⟩ := Prod.mk.inj h
    obtain rfl := Except.ok.inj hquote
    refine ⟨rfl, fun now' rows answer => ⟨some (.ofOverride p now'), ?_, rfl⟩⟩
    unfold PredictionSource.resolveProbability
    rw [hsource]
    dsimp only
    rw [hvalue]
    dsimp only
    rw [Session.run_ofExcept_bind, hnumber]
    rfl

/-- The reasons why an action is settled. -/
inductive Settled (source : PredictionSource) (now : Time) (merchantId caseId : ℕ)
    (action : RecoveryActionType) (rows : List ModelPrediction) (number : Option ℚ) : Prop
  | override (h : ∀ rows, Settles source now merchantId caseId action rows number)
  | stored (row : ModelPrediction) (hsource : source.probabilities = none)
      (hfresh : StoredFresh source rows caseId action now row)
      (hnumber : number = some row.probability.val)

theorem Settled.settles {number : Option ℚ}
    (h : Settled source now merchantId caseId action rows number) :
    Settles source now merchantId caseId action rows number := by
  cases h with
  | override hsettles => exact hsettles rows
  | stored row hsource hfresh hnumber =>
    rw [hnumber]
    exact .of_fresh hsource hfresh

/-- What is read of an action is its latest row. -/
theorem Settled.congr {number : Option ℚ}
    (hsame : latestForAction rows' caseId action = latestForAction rows caseId action)
    (h : Settled source now merchantId caseId action rows number) :
    Settled source now merchantId caseId action rows' number := by
  cases h with
  | override hsettles => exact .override hsettles
  | stored row hsource hfresh hnumber =>
    exact .stored row hsource ⟨hsame.trans hfresh.1, hfresh.2⟩ hnumber

theorem Requotes.congr {number number' : Option ℚ}
    (hsame : latestForAction rows' caseId action = latestForAction rows caseId action)
    (h : Requotes source answer now caseId action rows' number number') :
    Requotes source answer now caseId action rows number number' := by
  rcases h with ⟨heq, hfresh⟩ | ⟨hsource, hnone, hscored⟩
  · refine .inl ⟨heq, fun hsource => ?_⟩
    obtain ⟨row, hrow⟩ := hfresh hsource
    exact ⟨row, hsame.symm.trans hrow.1, hrow.2⟩
  · refine .inr ⟨hsource, fun row hrow => hnone row ⟨hsame.trans hrow.1, hrow.2⟩, hscored⟩

/-- What a run resolved is settled for the next one, and the other actions are left alone. -/
theorem run_resolveProbability_settled (httl : InsideTtl source rows caseId now now')
    (h : (source.resolveProbability answer now merchantId caseId action).run rows =
      (.ok quote, rows')) :
    (∃ number', Settled source now' merchantId caseId action rows' number' ∧
      Requotes source answer now caseId action rows (quotedNumber quote) number') ∧
    (∀ other, other ≠ action →
      latestForAction rows' caseId other = latestForAction rows caseId other) ∧
    InsideTtl source rows' caseId now now' := by
  cases hsource : source.probabilities with
  | some overrides =>
    obtain ⟨rfl, hsettles⟩ := Settles.of_override hsource h
    refine ⟨⟨_, .override (hsettles now'), .inl ⟨rfl, fun hnone => ?_⟩⟩, fun _ _ => rfl, httl⟩
    cases hsource.symm.trans hnone
  | none =>
    rcases run_resolveProbability_ok hsource h with ⟨row, hfresh, rfl, hnumber⟩ |
      ⟨hnone, scored, new, hanswer, hnumber, hnew, rfl⟩
    · exact ⟨⟨_, .stored row hsource (httl.stored action row hfresh) rfl,
        .inl ⟨hnumber.symm, fun _ => ⟨row, hfresh⟩⟩⟩, fun _ _ => rfl, httl⟩
    · obtain ⟨rfl, rfl, rfl, hrounded⟩ := hnew
      -- a stale row is older than the new one
      have hlater : ∀ row ∈ rowsFor rows new.recoveryCaseId new.action,
          row.updatedAt < new.updatedAt := by
        intro row hrow
        obtain ⟨latest, hlatest⟩ := latestForAction_isSome hrow
        have hle := (latestForAction_spec hlatest).2 row hrow
        have hstale : ¬ new.updatedAt ≤ latest.updatedAt + source.ttl :=
          fun hfresh => hnone latest ⟨hlatest, hfresh⟩
        have hpositive : new.updatedAt ≤ new.updatedAt + source.ttl :=
          httl.later.trans httl.within
        linarith [not_le.mp hstale]
      obtain ⟨row, hlatest, hstored, hupdated⟩ := latestForAction_upsert_self hlater
      have hfresh : StoredFresh source (upsertPrediction rows new) new.recoveryCaseId new.action
          now' row := by
        refine ⟨hlatest, ?_⟩
        rw [hupdated]
        exact httl.within
      have hframe : ∀ other, other ≠ new.action →
          latestForAction (upsertPrediction rows new) new.recoveryCaseId other =
            latestForAction rows new.recoveryCaseId other :=
        fun other hother => latestForAction_upsert_other (Ne.symm hother)
      refine ⟨⟨_, .stored row hsource hfresh rfl, .inr ⟨hsource, hnone, scored, hanswer, hnumber,
        ?_⟩⟩, hframe, httl.later, httl.within, fun other found hfound => ?_⟩
      · rw [hstored, hrounded]
      · by_cases hother : other = new.action
        · rw [hother] at hfound ⊢
          obtain rfl := Option.some.inj (hlatest.symm.trans hfound.1)
          exact hfresh
        · have hold : StoredFresh source rows new.recoveryCaseId other new.updatedAt found :=
            ⟨(hframe other hother).symm.trans hfound.1, hfound.2⟩
          exact ⟨hfound.1, (httl.stored other found hold).2⟩

/-! ## Scoring -/

variable {opt : PredictedOptimizer} {caller : Caller} {start s s' : Store} {ctx : PolicyContext}
  {actions : List RecoveryActionType} {scored : List CandidateAction}

/-- The candidate of an action that is priced with a number. -/
def PredictedOptimizer.candidateOf (opt : PredictedOptimizer) (ctx : PolicyContext)
    (action : RecoveryActionType) (number : Option ℚ) : Except Failure CandidateAction := do
  let _ ← opt.settings.costsFor action
  let (discountPercent, discountCost) ← (opt.quoted none).concession ctx.case action
  let evaluation ← evaluateAction ctx (candidateProposal action discountPercent discountCost)
  return {
    action
    probability := number
    discountPercent, discountCost
    allowed := number.isSome && evaluation.allowed
    requiresApproval := number.isSome && evaluation.requiresApproval && evaluation.allowed }

/-- What a candidate is made of. -/
theorem candidateOf_ok {number : Option ℚ} {candidate : CandidateAction} :
    opt.candidateOf ctx action number = .ok candidate ↔
      ∃ costs concession evaluation, opt.settings.costsFor action = .ok costs ∧
        (opt.quoted none).concession ctx.case action = .ok concession ∧
        evaluateAction ctx (candidateProposal action concession.1 concession.2) =
          .ok evaluation ∧
        candidate =
          { action
            probability := number
            discountPercent := concession.1
            discountCost := concession.2
            allowed := number.isSome && evaluation.allowed
            requiresApproval := number.isSome && evaluation.requiresApproval &&
              evaluation.allowed } := by
  unfold PredictedOptimizer.candidateOf
  constructor
  · intro h
    obtain ⟨costs, hcosts, h⟩ := Lib.bind_eq_ok.mp h
    obtain ⟨concession, hconcession, h⟩ := Lib.bind_eq_ok.mp h
    obtain ⟨evaluation, hevaluation, h⟩ := Lib.bind_eq_ok.mp h
    exact ⟨costs, concession, evaluation, hcosts, hconcession, hevaluation,
      (Except.ok.inj h).symm⟩
  · rintro ⟨costs, concession, evaluation, hcosts, hconcession, hevaluation, rfl⟩
    rw [hcosts, hconcession]
    dsimp only [bind, Except.bind]
    rw [hevaluation]
    rfl

theorem candidateOf_action {number : Option ℚ} {candidate : CandidateAction}
    (h : opt.candidateOf ctx action number = .ok candidate) : candidate.action = action := by
  obtain ⟨_, _, _, -, -, -, rfl⟩ := candidateOf_ok.mp h
  rfl

theorem resolveProbability_quoted (quote : Option ProbabilityQuote) (s : Store) :
    (opt.quoted quote).resolveProbability s caseId action =
      (opt.settings.costsFor action).map fun _ => quotedNumber quote := by
  have hbounds : (quotedNumber quote).any (fun p => p < 0 ∨ 1 < p) = false := by
    cases quote with
    | none => rfl
    | some q =>
      have hnot : ¬ (q.probability.val < 0 ∨ 1 < q.probability.val) := by
        obtain ⟨hlow, hhigh⟩ := q.probability.property
        push Not
        exact ⟨hlow, hhigh⟩
      exact decide_eq_false hnot
  show (if (quotedNumber quote).any (fun p => p < 0 ∨ 1 < p) = true then _ else _) = _
  rw [hbounds, if_neg (by simp)]
  cases opt.settings.costsFor action <;> rfl

theorem run_scoreCandidate_quoted (opt : PredictedOptimizer) (caller : Caller) (caseId : ℕ)
    (ctx : PolicyContext) (action : RecoveryActionType) (quote : Option ProbabilityQuote)
    (s : Store) :
    ∃ s', (scoreCandidate (opt.quoted quote) caller caseId ctx action).run s =
      (opt.candidateOf ctx action (quotedNumber quote), s') := by
  unfold scoreCandidate PredictedOptimizer.candidateOf
  rw [Session.run_get_bind, Session.run_ofExcept_bind, resolveProbability_quoted]
  cases opt.settings.costsFor action with
  | error e => exact ⟨s, rfl⟩
  | ok costs =>
    dsimp only [Except.map, bind, Except.bind]
    have hsame : (opt.quoted quote).concession ctx.case action =
        (opt.quoted none).concession ctx.case action := by cases action <;> rfl
    show ∃ s', (Session.ofExcept ((opt.quoted quote).concession ctx.case action) >>= _).run s = _
    rw [Session.run_ofExcept_bind, hsame]
    cases (opt.quoted none).concession ctx.case action with
    | error e => exact ⟨s, rfl⟩
    | ok concession =>
      obtain ⟨discountPercent, discountCost⟩ := concession
      dsimp only
      obtain ⟨s₁, hrun, -⟩ := run_evaluateAndPersist
        { caller with actorType := .system, actorId := none } caseId ctx
        (candidateProposal action discountPercent discountCost) s
      cases hevaluation : evaluateAction ctx
          (candidateProposal action discountPercent discountCost) with
      | error e =>
        rw [hevaluation] at hrun
        exact ⟨s₁, Session.run_bind_error hrun _⟩
      | ok evaluation =>
        rw [hevaluation] at hrun
        exact ⟨s₁, Session.run_bind_ok hrun _⟩

/-- One round: the action is resolved, and priced with its number. -/
theorem run_scorePredicted (opt : PredictedOptimizer) {quote : Option ProbabilityQuote} (s : Store)
    (h : (opt.source.resolveProbability (opt.source.predictor start caseId action) caller.now
      ctx.case.merchantId caseId action).run rows = (.ok quote, rows')) :
    ∃ s', (scorePredicted opt caller caseId start ctx action).run (s, rows) =
      (opt.candidateOf ctx action (quotedNumber quote), (s', rows')) := by
  obtain ⟨s', hscore⟩ := run_scoreCandidate_quoted opt caller caseId ctx action quote s
  refine ⟨s', ?_⟩
  unfold scorePredicted
  have hsecond : (Session.second (opt.source.resolveProbability
      (opt.source.predictor start caseId action) caller.now ctx.case.merchantId caseId
        action)).run (s, rows) = (.ok quote, (s, rows')) := by
    rw [Session.run_second, h]
  rw [Session.run_bind_ok hsecond, Session.run_first, hscore]

theorem run_scorePredicted_ok {candidate : CandidateAction}
    (h : (scorePredicted opt caller caseId start ctx action).run (s, rows) =
      (.ok candidate, (s', rows'))) :
    ∃ quote, (opt.source.resolveProbability (opt.source.predictor start caseId action) caller.now
        ctx.case.merchantId caseId action).run rows = (.ok quote, rows') ∧
      opt.candidateOf ctx action (quotedNumber quote) = .ok candidate := by
  cases hrun : (opt.source.resolveProbability (opt.source.predictor start caseId action)
      caller.now ctx.case.merchantId caseId action).run rows with
  | mk outcome rows₁ =>
    cases outcome with
    | error e =>
      have hsecond : (Session.second (opt.source.resolveProbability
          (opt.source.predictor start caseId action) caller.now ctx.case.merchantId caseId
            action)).run (s, rows) = (.error e, (s, rows₁)) := by
        rw [Session.run_second, hrun]
      unfold scorePredicted at h
      rw [Session.run_bind_error hsecond] at h
      cases (Prod.mk.inj h).1
    | ok quote =>
      obtain ⟨s₁, hscore⟩ := run_scorePredicted opt s hrun
      obtain ⟨hcandidate, hstate⟩ := Prod.mk.inj (hscore.symm.trans h)
      obtain ⟨-, rfl⟩ := Prod.mk.inj hstate
      exact ⟨quote, rfl, hcandidate⟩

/-- What the run after one that scored a candidate finds for it. -/
structure ScoredTwice (opt : PredictedOptimizer) (now now' : Time) (caseId : ℕ) (start : Store)
    (ctx : PolicyContext) (rows rows' : List ModelPrediction) (candidate : CandidateAction) :
    Prop where
  candidateOf : opt.candidateOf ctx candidate.action candidate.probability = .ok candidate
  quoted : quotedAt opt.source (opt.source.predictor start caseId candidate.action) now
    ctx.case.merchantId caseId rows candidate.action = candidate.probability
  settled : ∃ number', Settled opt.source now' ctx.case.merchantId caseId candidate.action rows'
      number' ∧
    Requotes opt.source (opt.source.predictor start caseId candidate.action) now caseId
      candidate.action rows candidate.probability number'

/-- A run of different actions leaves each of them settled for the next run. -/
theorem run_scorePredictions_ok (httl : InsideTtl opt.source rows caseId caller.now now')
    (hnodup : actions.Nodup)
    (h : (scorePredictions opt caller caseId start ctx actions).run (s, rows) =
      (.ok scored, (s', rows'))) :
    scored.map (·.action) = actions ∧
    (∀ candidate ∈ scored,
      ScoredTwice opt caller.now now' caseId start ctx rows rows' candidate) ∧
    ∀ other ∉ actions, latestForAction rows' caseId other = latestForAction rows caseId other := by
  -- the actions differ, so no later one writes the rows that an earlier one was settled by
  induction actions generalizing s rows scored with
  | nil =>
    obtain ⟨hscored, hstate⟩ := Prod.mk.inj h
    obtain rfl := Except.ok.inj hscored
    obtain ⟨-, rfl⟩ := Prod.mk.inj hstate
    exact ⟨rfl, fun _ hmem => absurd hmem List.not_mem_nil, fun _ _ => rfl⟩
  | cons action rest ih =>
    obtain ⟨candidate, ⟨s₁, rows₁⟩, hfirst, h⟩ := Session.run_bind_eq_ok.mp h
    obtain ⟨others, ⟨s₂, rows₂⟩, hrest, h⟩ := Session.run_bind_eq_ok.mp h
    obtain ⟨hscored, hstate⟩ := Prod.mk.inj h
    obtain rfl := Except.ok.inj hscored
    obtain ⟨rfl, rfl⟩ := Prod.mk.inj hstate
    obtain ⟨hnew, hnodup'⟩ := List.nodup_cons.mp hnodup
    obtain ⟨quote, hresolve, hcandidate⟩ := run_scorePredicted_ok hfirst
    obtain ⟨⟨number', hsettled, hrequotes⟩, hframe, httl₁⟩ :=
      run_resolveProbability_settled httl hresolve
    obtain ⟨hactions, hothers, hframe'⟩ := ih httl₁ hnodup' hrest
    have haction := candidateOf_action hcandidate
    obtain ⟨_, _, _, -, -, -, hmade⟩ := candidateOf_ok.mp hcandidate
    have hprobability : candidate.probability = quotedNumber quote := by rw [hmade]
    refine ⟨by rw [List.map_cons, haction, hactions], fun other hmem => ?_, fun other hnot => ?_⟩
    · rcases List.mem_cons.mp hmem with rfl | hmem
      · subst haction
        have hquoted := quotedAt_eq hresolve
        rw [← hprobability] at hcandidate hrequotes hquoted
        exact ⟨hcandidate, hquoted, number', hsettled.congr (hframe' _ hnew), hrequotes⟩
      · -- the first action is not scored again
        obtain ⟨hother, hquoted, number₁, hsettled₁, hrequotes₁⟩ := hothers other hmem
        have hin : other.action ∈ rest := hactions ▸ List.mem_map_of_mem hmem
        have hne : other.action ≠ action := fun heq => hnew (heq ▸ hin)
        exact ⟨hother, (quotedAt_congr (hframe _ hne)).symm.trans hquoted, number₁, hsettled₁,
          hrequotes₁.congr (hframe _ hne)⟩
    · obtain ⟨hne, hnot'⟩ := not_or.mp (List.mem_cons.not.mp hnot)
      exact (hframe' other hnot').trans (hframe other hne)

/-- A run of settled actions prices each of them with the number it is settled at. -/
theorem run_scorePredictions_settled {number : RecoveryActionType → Option ℚ} (s : Store)
    (h : ∀ action ∈ actions,
      Settles opt.source caller.now ctx.case.merchantId caseId action rows (number action)) :
    ∃ s', (scorePredictions opt caller caseId start ctx actions).run (s, rows) =
      (actions.mapM fun action => opt.candidateOf ctx action (number action), (s', rows)) := by
  -- a settled action leaves the rows as they are, and the next one finds them so
  induction actions generalizing s with
  | nil => exact ⟨s, rfl⟩
  | cons action rest ih =>
    obtain ⟨quote, hresolve, hnumber⟩ :=
      h action List.mem_cons_self (opt.source.predictor start caseId action)
    obtain ⟨s₁, hfirst⟩ := run_scorePredicted opt s hresolve
    obtain ⟨s₂, hrest⟩ := ih s₁ fun other hother => h other (List.mem_cons_of_mem action hother)
    rw [hnumber] at hfirst
    rw [List.mapM_cons]
    cases hcandidate : opt.candidateOf ctx action (number action) with
    | error e =>
      rw [hcandidate] at hfirst
      exact ⟨s₁, Session.run_bind_error hfirst _⟩
    | ok candidate =>
      rw [hcandidate] at hfirst
      cases hothers : rest.mapM fun action => opt.candidateOf ctx action (number action) with
      | error e =>
        rw [hothers] at hrest
        exact ⟨s₂, (Session.run_bind_ok hfirst _).trans (Session.run_bind_error hrest _)⟩
      | ok others =>
        rw [hothers] at hrest
        exact ⟨s₂, (Session.run_bind_ok hfirst _).trans (Session.run_bind_ok hrest _)⟩

/-! ## A run -/

variable {py : PyText} {c : RecoveryCase} {r : OptimizationResult}
  {candidates : Option (List String)}

/-- The optimizer writes its records: evaluations, decisions and audits. -/
def Advised (s s' : Store) : Prop :=
  s' = { s with
    policyEvaluations := s'.policyEvaluations
    decisions := s'.decisions
    auditEvents := s'.auditEvents }

namespace Advised

theorem refl (s : Store) : Advised s s := rfl

theorem trans {s s' s'' : Store} (h : Advised s s') (h' : Advised s' s'') : Advised s s'' := by
  unfold Advised at *
  rw [h', h]

theorem keeps_bind {α β : Type} {m : Service α} {f : α → Service β}
    (hm : Session.Keeps Advised m) (hf : ∀ a, Session.Keeps Advised (f a)) :
    Session.Keeps Advised (m >>= f) :=
  .bind (R := Advised) (fun _ _ _ => trans) hm hf

theorem keeps_modify {f : Store → Store} (h : ∀ s, Advised s (f s)) :
    Session.Keeps Advised (Session.modify f : Service Unit) := .modify h

theorem cases (h : Advised s s') : s'.cases = s.cases := by rw [h]

theorem buildPolicyContext (h : Advised s s') (cfg : Config) (caseId : ℕ) (c : RecoveryCase)
    (now : Time) :
    buildPolicyContext cfg s' caseId c now = buildPolicyContext cfg s caseId c now := by
  rw [h]
  rfl

theorem keeps_evaluateAndPersist (caller : Caller) (caseId : ℕ) (ctx : PolicyContext)
    (proposed : ProposedAction) :
    Session.Keeps Advised (evaluateAndPersist caller caseId ctx proposed) := by
  have hpersist : ∀ result, Session.Keeps Advised
      (persistPolicyEvaluation caller caseId ctx proposed result) := fun result =>
    keeps_bind (keeps_modify fun _ => rfl) fun _ => keeps_modify fun _ => rfl
  exact .ofExcept_bind refl fun result _ => keeps_bind (hpersist result) fun _ => .pure refl _

theorem keeps_scoreCandidate (opt : RecoveryOptimizer) (caller : Caller) (caseId : ℕ)
    (ctx : PolicyContext) (action : RecoveryActionType) :
    Session.Keeps Advised (scoreCandidate opt caller caseId ctx action) :=
  .get_bind fun _ => .ofExcept_bind refl fun _ _ => .ofExcept_bind refl fun _ _ =>
    keeps_bind (keeps_evaluateAndPersist _ _ _ _) fun _ => .pure refl _

theorem keeps_persistOptimizationDecision (caller : Caller) (caseId : ℕ) (c : RecoveryCase)
    (r : OptimizationResult) :
    Session.Keeps Advised (persistOptimizationDecision caller caseId c r) :=
  keeps_bind (keeps_modify fun _ => rfl) fun _ => keeps_modify fun _ => rfl

theorem keeps_scorePredictions (opt : PredictedOptimizer) (caller : Caller) (caseId : ℕ)
    (start : Store) (ctx : PolicyContext) (actions : List RecoveryActionType) :
    Session.Keeps (fun a b => Advised a.1 b.1)
      (scorePredictions opt caller caseId start ctx actions) := by
  have hbind : ∀ {α β : Type} {m : PredictionService α} {f : α → PredictionService β},
      Session.Keeps (fun a b => Advised a.1 b.1) m →
      (∀ a, Session.Keeps (fun a b => Advised a.1 b.1) (f a)) →
      Session.Keeps (fun a b => Advised a.1 b.1) (m >>= f) :=
    fun hm hf => .bind (R := fun a b : Store × List ModelPrediction => Advised a.1 b.1)
      (fun _ _ _ => trans) hm hf
  induction actions with
  | nil => exact .pure (fun a => refl a.1) _
  | cons action rest ih =>
    have hfirst : Session.Keeps (fun a b => Advised a.1 b.1)
        (scorePredicted opt caller caseId start ctx action) :=
      hbind (.second refl _) fun quote => .first (keeps_scoreCandidate _ _ _ _ _)
    exact hbind hfirst fun candidate => hbind ih fun others => .pure (fun a => refl a.1) _

end Advised

/-- What a run that returned went through. -/
structure OptimizedAs (opt : PredictedOptimizer) (py : PyText) (caller : Caller) (caseId : ℕ)
    (candidates : Option (List String)) (s s' : Store) (rows rows' : List ModelPrediction)
    (c : RecoveryCase) (ctx : PolicyContext) (actions : List RecoveryActionType)
    (r : OptimizationResult) : Prop where
  row : s.cases.get? caseId = some c
  context : buildPolicyContext { settings := opt.recovery, py } s caseId c caller.now = .ok ctx
  normalized : normalizeCandidates candidates = .ok actions
  scored : ∃ s₁, (scorePredictions opt caller caseId s ctx actions).run (s, rows) =
    (.ok r.candidateActions, (s₁, rows'))
  ranked : opt.settings.rankCandidates c r.candidateActions
    (ctx.suspicious || ctx.sourceMismatch) = .ok (r.selected, r.selectionReason)
  advised : Advised s s'

theorem optimizePredicted_ok
    (h : (optimizePredicted opt py caller caseId candidates).run (s, rows) =
      (.ok r, (s', rows'))) :
    ∃ c ctx actions,
      OptimizedAs opt py caller caseId candidates s s' rows rows' c ctx actions r := by
  unfold optimizePredicted at h
  rw [Session.run_get_bind] at h
  dsimp only at h
  cases hc : s.cases.get? caseId with
  | none =>
    rw [hc] at h
    cases (Prod.mk.inj h).1
  | some c =>
    rw [hc] at h
    dsimp only at h
    obtain ⟨ctx, st₀, hrun₀, h⟩ := Session.run_bind_eq_ok.mp h
    obtain ⟨hctx, rfl⟩ := Prod.mk.inj hrun₀
    obtain ⟨actions, st₁, hrun₁, h⟩ := Session.run_bind_eq_ok.mp h
    obtain ⟨hactions, rfl⟩ := Prod.mk.inj hrun₁
    obtain ⟨scored, ⟨s₂, rows₂⟩, hscored, h⟩ := Session.run_bind_eq_ok.mp h
    obtain ⟨⟨selected, reason⟩, st₃, hrun₃, h⟩ := Session.run_bind_eq_ok.mp h
    obtain ⟨hranked, rfl⟩ := Prod.mk.inj hrun₃
    obtain ⟨u, ⟨s₄, rows₄⟩, hpersist, h⟩ := Session.run_bind_eq_ok.mp h
    obtain ⟨hresult, hstate⟩ := Prod.mk.inj h
    obtain ⟨rfl, rfl⟩ := Prod.mk.inj hstate
    obtain rfl := Except.ok.inj hresult
    have hscores := Advised.keeps_scorePredictions opt caller caseId s ctx actions (s, rows)
    rw [hscored] at hscores
    have hdecides := (Advised.keeps_persistOptimizationDecision caller caseId c
      { candidateActions := scored, selected, selectionReason := reason }).first (s₂, rows₂)
    rw [hpersist] at hdecides
    have hrows : rows₂ = rows₄ := congrArg (fun x => x.2.2) hpersist
    subst hrows
    exact ⟨c, ctx, actions, hc, hctx, hactions, ⟨s₂, hscored⟩, hranked, hscores.trans hdecides⟩

/-- A run whose parts return. -/
theorem run_optimizePredicted {selected : Option CandidateAction} {reason : String} {s₁ : Store}
    (hrow : s.cases.get? caseId = some c)
    (hctx : buildPolicyContext { settings := opt.recovery, py } s caseId c caller.now = .ok ctx)
    (hactions : normalizeCandidates candidates = .ok actions)
    (hscored : (scorePredictions opt caller caseId s ctx actions).run (s, rows) =
      (.ok scored, (s₁, rows')))
    (hranked : opt.settings.rankCandidates c scored (ctx.suspicious || ctx.sourceMismatch) =
      .ok (selected, reason)) :
    ∃ s₂, (optimizePredicted opt py caller caseId candidates).run (s, rows) =
      (.ok { candidateActions := scored, selected, selectionReason := reason }, (s₂, rows')) := by
  unfold optimizePredicted
  rw [Session.run_get_bind]
  dsimp only
  rw [hrow]
  dsimp only
  rw [hctx, Session.run_ofExcept_bind]
  dsimp only
  rw [hactions, Session.run_ofExcept_bind]
  dsimp only
  rw [Session.run_bind_ok hscored, hranked, Session.run_ofExcept_bind]
  exact ⟨_, rfl⟩

end ReviveX
