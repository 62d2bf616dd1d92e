import ReviveX.Agents.RankingTheorems

/-!
# The choice, by its rule

`SelectionRule` says which candidate is to be chosen, without a sort. Candidates of different
actions have different tie keys, so the rule names at most one of them, and `select_action`
chooses it in whatever order the candidates come. The tie epsilon is a setting: one that does
not fit the digits of a context is raised when it is compared with a price.
-/

namespace ReviveX

open Lib (Decimal)

variable {candidates candidates' eligible : List PricedCandidate} {settings : OptimizerSettings}
  {epsilon : ℤ} {w : PricedCandidate}

/-! ## The rule -/

/-- The candidates of a pool whose value is within the tie epsilon of the greatest. -/
def NearBest (epsilon : ℤ) (pool : List PricedCandidate) (c : PricedCandidate) : Prop :=
  c ∈ pool ∧ ∀ b ∈ pool, b.expectedValue - c.expectedValue ≤ epsilon

/-- Some candidate is of the action. -/
def Offers (eligible : List PricedCandidate) (action : RecoveryActionType) : Prop :=
  ∃ c ∈ eligible, c.action = action

instance (eligible : List PricedCandidate) (action : RecoveryActionType) :
    Decidable (Offers eligible action) :=
  inferInstanceAs (Decidable (∃ c ∈ eligible, c.action = action))

/-- The control strategy of a case, among the actions that are eligible. -/
def controlStrategy (eligible : List PricedCandidate) (highRisk : Bool) :
    Option RecoveryActionType :=
  if highRisk = true ∧ Offers eligible .escalate then some .escalate
  else if Offers eligible .doNothing then some .doNothing
  else if Offers eligible .escalate then some .escalate
  else none

/-- What is to be chosen among the candidates. -/
structure SelectionRule (candidates : List PricedCandidate) (tieEpsilon : Decimal)
    (highRisk : Bool) (choice : Option PricedCandidate) : Prop where
  none_iff : choice = none ↔ ∀ c ∈ eligibleCandidates candidates,
    c.action.isIntervention = true ∧ c.expectedValue < 0
  eligible : ∀ w, choice = some w →
    w ∈ candidates ∧ w.allowed = true ∧ w.missingProbability = false ∧
      w.probability.isSome = true
  never_negative : ∀ w, choice = some w → w.action.isIntervention = true → 0 ≤ w.expectedValue
  /-- The first, by tie key, of the best interventions. -/
  intervention : profitable (eligibleCandidates candidates) ≠ [] →
    ∃ epsilon w, signedMoney tieEpsilon = .ok epsilon ∧ choice = some w ∧
      NearBest epsilon (profitable (eligibleCandidates candidates)) w ∧
      ∀ b, NearBest epsilon (profitable (eligibleCandidates candidates)) b → b ≠ w →
        w.tieKey < b.tieKey
  control : profitable (eligibleCandidates candidates) = [] →
    choice.map (·.action) = controlStrategy (eligibleCandidates candidates) highRisk

/-! ## Tie keys -/

/-- Candidates of different actions have different tie keys. -/
theorem tieKey_injective (hdistinct : (candidates.map (·.action)).Nodup) :
    ∀ a ∈ candidates, ∀ b ∈ candidates, a.tieKey = b.tieKey → a = b := by
  intro a ha b hb hkey
  have hrank : a.action.frictionRank = b.action.frictionRank :=
    congrArg (fun key => (ofLex key).1) hkey
  exact List.inj_on_of_nodup_map hdistinct ha hb (frictionRank_injective hrank)

theorem distinct_filter (hdistinct : (candidates.map (·.action)).Nodup)
    (p : PricedCandidate → Bool) : ((candidates.filter p).map (·.action)).Nodup :=
  hdistinct.sublist (List.filter_sublist.map _)

/-! ## Any order of the candidates -/

/-- The greatest value of a pool. -/
theorem firstOf_value (hperm : candidates.Perm candidates') {a b : PricedCandidate}
    (ha : firstOf (candidates.insertionSort fun a b => b.expectedValue ≤ a.expectedValue) = .ok a)
    (hb : firstOf (candidates'.insertionSort fun a b => b.expectedValue ≤ a.expectedValue) =
      .ok b) : a.expectedValue = b.expectedValue := by
  have hbest := Lib.head?_insertionSort
    (fun c : PricedCandidate => OrderDual.toDual c.expectedValue) (firstOf_eq_ok.mp ha)
  have hbest' := Lib.head?_insertionSort
    (fun c : PricedCandidate => OrderDual.toDual c.expectedValue) (firstOf_eq_ok.mp hb)
  have hle : b.expectedValue ≤ a.expectedValue := hbest.2 b (hperm.mem_iff.mpr hbest'.1)
  have hge : a.expectedValue ≤ b.expectedValue := hbest'.2 a (hperm.mem_iff.mp hbest.1)
  exact le_antisymm hge hle

theorem firstOf_congr {l l' : List PricedCandidate} (h : l.head? = l'.head?) :
    firstOf l = firstOf l' := by
  unfold firstOf
  rw [h]

theorem maxWithTies_perm (hdistinct : (candidates.map (·.action)).Nodup)
    (hperm : candidates.Perm candidates') (settings : OptimizerSettings) :
    maxWithTies candidates settings = maxWithTies candidates' settings := by
  by_cases hnil : candidates = []
  · subst hnil
    rw [List.nil_perm.mp hperm]
  have hranked : ∀ {l : List PricedCandidate}, l ≠ [] → ∃ best,
      firstOf (l.insertionSort fun a b => b.expectedValue ≤ a.expectedValue) = .ok best := by
    intro l hl
    obtain ⟨c, hc⟩ := List.exists_mem_of_ne_nil l hl
    have hsorted : c ∈ l.insertionSort fun a b => b.expectedValue ≤ a.expectedValue :=
      (List.mem_insertionSort _).mpr hc
    obtain ⟨best, -, hbest⟩ := firstOf_ok (List.ne_nil_of_mem hsorted)
    exact ⟨best, hbest⟩
  obtain ⟨best, hbest⟩ := hranked hnil
  obtain ⟨best', hbest'⟩ := hranked fun hnil' => hnil (List.perm_nil.mp (hnil' ▸ hperm))
  have hvalue := firstOf_value hperm hbest hbest'
  unfold maxWithTies
  dsimp only
  rw [hbest, hbest']
  cases signedMoney settings.tieEpsilon with
  | error f => rfl
  | ok epsilon =>
    -- the same candidates tie, in another order
    have hsort := List.perm_insertionSort
      (fun a b : PricedCandidate => b.expectedValue ≤ a.expectedValue)
    have htied := ((hsort candidates).trans (hperm.trans (hsort candidates').symm)).filter
      fun item => decide (best.expectedValue - item.expectedValue ≤ epsilon)
    have hmem : ∀ c, c ∈ (candidates.insertionSort fun a b =>
        b.expectedValue ≤ a.expectedValue).filter
          (fun item => decide (best.expectedValue - item.expectedValue ≤ epsilon)) →
        c ∈ candidates := by
      intro c hc
      exact (List.mem_insertionSort _).mp (List.mem_of_mem_filter hc)
    have hhead := Lib.head?_insertionSort_perm PricedCandidate.tieKey htied
      fun a ha b hb => tieKey_injective hdistinct a (hmem a ha) b (hmem b hb)
    show firstOf _ = firstOf _
    rw [← hvalue]
    exact firstOf_congr hhead

theorem selectControl_perm (hdistinct : (eligible.map (·.action)).Nodup)
    {eligible' : List PricedCandidate} (hperm : eligible.Perm eligible') (highRisk : Bool) :
    selectControl eligible highRisk = selectControl eligible' highRisk := by
  have hreverse : eligible.reverse.Perm eligible'.reverse :=
    (List.reverse_perm eligible).trans (hperm.trans (List.reverse_perm eligible').symm)
  have hnodup : (eligible.reverse.map (·.action)).Nodup := by
    rw [List.map_reverse]
    exact List.nodup_reverse.mpr hdistinct
  have hfind : ∀ action : RecoveryActionType,
      eligible.reverse.find? (·.action = action) = eligible'.reverse.find? (·.action = action) :=
    Lib.find?_perm_of_nodup hreverse hnodup
  unfold selectControl
  dsimp only
  rw [hfind .escalate, hfind .doNothing]

/-- The choice, and its reason, are the same in every order of the candidates. -/
theorem selectAction_perm (hdistinct : (candidates.map (·.action)).Nodup)
    (hperm : candidates.Perm candidates') (settings : OptimizerSettings)
    (suspicious sourceMismatch : Bool) :
    Ranking.selectAction candidates settings suspicious sourceMismatch =
      Ranking.selectAction candidates' settings suspicious sourceMismatch := by
  have heligible : (eligibleCandidates candidates).Perm (eligibleCandidates candidates') :=
    hperm.filter _
  have hprofitable : (profitable (eligibleCandidates candidates)).Perm
      (profitable (eligibleCandidates candidates')) := heligible.filter _
  have hdistinct₁ := distinct_filter hdistinct fun item =>
    item.allowed && !item.missingProbability && item.probability.isSome
  have hdistinct₂ := distinct_filter hdistinct₁ fun item =>
    item.action.isIntervention && decide (0 ≤ item.expectedValue)
  have hwinner := maxWithTies_perm hdistinct₂ hprofitable settings
  have hcontrol := selectControl_perm hdistinct₁ heligible (suspicious || sourceMismatch)
  have hempty : ∀ {l l' : List PricedCandidate}, l.Perm l' → l.isEmpty = l'.isEmpty := by
    intro l l' h
    cases l with
    | nil => rw [List.nil_perm.mp h]
    | cons c rest =>
      cases l' with
      | nil => exact absurd (List.perm_nil.mp h) (by simp)
      | cons c' rest' => rfl
  unfold profitable eligibleCandidates at hwinner hprofitable
  unfold eligibleCandidates at hcontrol heligible
  unfold Ranking.selectAction eligibleCandidates
  dsimp only
  rw [hempty heligible, hempty hprofitable, hwinner, hcontrol]

/-! ## The choice -/

theorem mem_profitable {c : PricedCandidate} : c ∈ profitable eligible ↔
    c ∈ eligible ∧ c.action.isIntervention = true ∧ 0 ≤ c.expectedValue := by
  unfold profitable
  rw [List.mem_filter, Bool.and_eq_true, decide_eq_true_eq]

/-- The last candidate of an action is found where there is one. -/
theorem find?_action (eligible : List PricedCandidate) (action : RecoveryActionType) :
    (∃ c, eligible.reverse.find? (·.action = action) = some c ∧ c.action = action ∧
      Offers eligible action) ∨
    eligible.reverse.find? (·.action = action) = none ∧ ¬ Offers eligible action := by
  cases hfind : eligible.reverse.find? (·.action = action) with
  | none =>
    refine .inr ⟨rfl, ?_⟩
    rintro ⟨c, hc, haction⟩
    have hother := List.find?_eq_none.mp hfind c (List.mem_reverse.mpr hc)
    exact hother (by simpa using haction)
  | some c =>
    have haction : c.action = action := by simpa using List.find?_some hfind
    have hmem : c ∈ eligible := List.mem_reverse.mp (List.mem_of_find?_eq_some hfind)
    exact .inl ⟨c, rfl, haction, c, hmem, haction⟩

/-- The control strategy that is found is the one that the rule names. -/
theorem selectControl_action (eligible : List PricedCandidate) (highRisk : Bool) :
    (selectControl eligible highRisk).1.map (·.action) = controlStrategy eligible highRisk := by
  unfold selectControl controlStrategy
  dsimp only
  rcases find?_action eligible .escalate with ⟨escalate, hescalate, haction, hoffer⟩ |
    ⟨hescalate, hoffer⟩ <;>
  rcases find?_action eligible .doNothing with ⟨nothing, hnothing, haction', hoffer'⟩ |
    ⟨hnothing, hoffer'⟩ <;>
  rw [hescalate, hnothing] <;>
  cases highRisk <;> simp [*]

theorem mem_of_selectControl {highRisk : Bool}
    (h : (selectControl eligible highRisk).1 = some w) :
    w ∈ eligible ∧ w.action.isIntervention = false := by
  have hboth : selectControl eligible highRisk = (some w, (selectControl eligible highRisk).2) :=
    Prod.ext h rfl
  obtain ⟨hmem, hkind, -⟩ := selectControl_spec hboth
  exact ⟨hmem, hkind⟩

/-- A control strategy is missing where no candidate is one. -/
theorem controlStrategy_eq_none {highRisk : Bool} :
    controlStrategy eligible highRisk = none ↔
      ∀ c ∈ eligible, c.action.isIntervention = true := by
  have hnone : controlStrategy eligible highRisk = none ↔
      ¬ Offers eligible .escalate ∧ ¬ Offers eligible .doNothing := by
    unfold controlStrategy
    by_cases hescalate : Offers eligible .escalate <;>
      by_cases hnothing : Offers eligible .doNothing <;>
      cases highRisk <;> simp [hescalate, hnothing]
  rw [hnone]
  constructor
  · rintro ⟨hescalate, hnothing⟩ c hc
    have hne : c.action ≠ .escalate := fun h => hescalate ⟨c, hc, h⟩
    have hne' : c.action ≠ .doNothing := fun h => hnothing ⟨c, hc, h⟩
    generalize c.action = action at *
    cases action <;> first | rfl | contradiction
  · intro hall
    constructor <;>
    · rintro ⟨c, hc, haction⟩
      have hkind := hall c hc
      rw [haction] at hkind
      cases hkind

/-- The choice obeys the rule, where the best interventions can be compared. -/
theorem selectAction_rule (settings : OptimizerSettings)
    (hdistinct : (candidates.map (·.action)).Nodup) (suspicious sourceMismatch : Bool)
    (hcomparable : profitable (eligibleCandidates candidates) = [] ∨
      ∃ epsilon, signedMoney settings.tieEpsilon = .ok epsilon ∧ 0 ≤ epsilon) :
    ∃ choice reason, Ranking.selectAction candidates settings suspicious sourceMismatch =
        .ok (choice, reason) ∧
      SelectionRule candidates settings.tieEpsilon (suspicious || sourceMismatch) choice := by
  unfold Ranking.selectAction
  dsimp only
  split
  · -- nobody is eligible
    rename_i hnobody
    have hnil : eligibleCandidates candidates = [] := List.isEmpty_iff.mp hnobody
    refine ⟨none, _, rfl, ?_, fun w hw => absurd hw.symm (Option.some_ne_none w),
      fun w hw => absurd hw.symm (Option.some_ne_none w), fun hsome => ?_, fun _ => ?_⟩
    · rw [hnil]
      simp
    · rw [hnil] at hsome
      exact absurd rfl hsome
    · rw [hnil]
      simp [controlStrategy, Offers]
  · split
    · -- no intervention is worth its costs
      rename_i hnone
      have hnil : profitable (eligibleCandidates candidates) = [] := List.isEmpty_iff.mp hnone
      have haction := selectControl_action (eligibleCandidates candidates)
        (suspicious || sourceMismatch)
      refine ⟨(selectControl (eligibleCandidates candidates) (suspicious || sourceMismatch)).1,
        _, rfl, ?_, fun w hw => ?_, fun w hw hkind => ?_, fun hsome => absurd hnil hsome,
        fun _ => haction⟩
      · rw [← Option.map_eq_none_iff, haction, controlStrategy_eq_none]
        refine forall₂_congr fun c hc => ?_
        have hloss : c.action.isIntervention = true → c.expectedValue < 0 := by
          intro hkind
          by_contra hvalue
          have hmem : c ∈ profitable (eligibleCandidates candidates) :=
            mem_profitable.mpr ⟨hc, hkind, not_lt.mp hvalue⟩
          rw [hnil] at hmem
          cases hmem
        exact ⟨fun hkind => ⟨hkind, hloss hkind⟩, And.left⟩
      · exact mem_eligibleCandidates.mp (mem_of_selectControl hw).1
      · exact absurd (hkind.symm.trans (mem_of_selectControl hw).2) (by simp)
    · rename_i hsome
      have hne : profitable (eligibleCandidates candidates) ≠ [] :=
        fun hnil => hsome (List.isEmpty_iff.mpr hnil)
      obtain ⟨epsilon, hepsilon, hnonneg⟩ := hcomparable.resolve_left hne
      obtain ⟨w, hw⟩ := maxWithTies_ok hne hepsilon hnonneg
      obtain ⟨hmem, hbest, hleast⟩ := maxWithTies_spec hepsilon hw
      obtain ⟨hin, hkind, hvalue⟩ := mem_profitable.mp hmem
      unfold profitable at hw
      rw [hw]
      refine ⟨some w, _, rfl, ?_, fun w' hw' => ?_, fun w' hw' _ => ?_, fun _ => ?_,
        fun hnil => absurd hnil hne⟩
      · refine iff_of_false nofun fun hall => ?_
        have hloss := (hall w hin).2
        omega
      · obtain rfl := Option.some.inj hw'
        exact mem_eligibleCandidates.mp hin
      · obtain rfl := Option.some.inj hw'
        exact hvalue
      · refine ⟨epsilon, w, hepsilon, rfl, ⟨hmem, hbest⟩, fun b hb hne' => ?_⟩
        have hle := hleast b hb.1 hb.2
        refine lt_of_le_of_ne hle fun hkey => hne' ?_
        have hb' := (mem_eligibleCandidates.mp (mem_profitable.mp hb.1).1).1
        have hw' := (mem_eligibleCandidates.mp hin).1
        exact (tieKey_injective hdistinct w hw' b hb' hkey).symm

/-- The best interventions cannot be compared without an epsilon. -/
theorem selectAction_raises {f : Failure} {suspicious sourceMismatch : Bool}
    (hne : profitable (eligibleCandidates candidates) ≠ [])
    (hraised : signedMoney settings.tieEpsilon = .error f) :
    Ranking.selectAction candidates settings suspicious sourceMismatch = .error f := by
  obtain ⟨c, hc⟩ := List.exists_mem_of_ne_nil _ hne
  have heligible : eligibleCandidates candidates ≠ [] :=
    List.ne_nil_of_mem (mem_profitable.mp hc).1
  have hsorted : c ∈ (profitable (eligibleCandidates candidates)).insertionSort
      fun a b => b.expectedValue ≤ a.expectedValue := (List.mem_insertionSort _).mpr hc
  obtain ⟨best, -, hbest⟩ := firstOf_ok (List.ne_nil_of_mem hsorted)
  have hwinner : maxWithTies (profitable (eligibleCandidates candidates)) settings =
      .error f := by
    unfold maxWithTies
    dsimp only
    rw [hbest, hraised]
    rfl
  unfold profitable at hwinner hne
  unfold Ranking.selectAction
  dsimp only
  rw [if_neg (by simpa using heligible), if_neg (by rwa [List.isEmpty_iff]), hwinner]
  rfl

/-- A tie epsilon that is not negative is not negative in paise. -/
theorem signedMoney_nonneg {value : Decimal} {m : ℤ}
    (hvalue : (Decimal.finite 0).gt? value = some false) (h : signedMoney value = .ok m) :
    0 ≤ m := by
  cases value with
  | nan => cases h
  | infinity negative => cases h
  | finite q =>
    have hq : 0 ≤ q := by
      have hnot : decide (q < 0) = false := Option.some.inj hvalue
      exact not_lt.mp (of_decide_eq_false hnot)
    unfold signedMoney at h
    dsimp only at h
    split at h
    · cases h
    · obtain rfl := Except.ok.inj h
      refine Decimal.le_roundHalfEven ?_
      push_cast
      positivity

/-- `select_action` obeys its rule, in every order of the candidates, for every tie epsilon that
can be told in paise; one that cannot is raised, where an intervention is to be compared. -/
theorem selectAction_specification (candidates : List PricedCandidate)
    (settings : OptimizerSettings) (suspicious sourceMismatch : Bool)
    (hdistinct : (candidates.map (·.action)).Nodup)
    (hnonneg : (Decimal.finite 0).gt? settings.tieEpsilon = some false) :
    ((profitable (eligibleCandidates candidates) = [] ∨
        ∃ epsilon, signedMoney settings.tieEpsilon = .ok epsilon) →
      ∃ choice reason, Ranking.selectAction candidates settings suspicious sourceMismatch =
          .ok (choice, reason) ∧
        SelectionRule candidates settings.tieEpsilon (suspicious || sourceMismatch) choice) ∧
    (∀ f, profitable (eligibleCandidates candidates) ≠ [] →
      signedMoney settings.tieEpsilon = .error f →
      Ranking.selectAction candidates settings suspicious sourceMismatch = .error f) ∧
    ∀ candidates', candidates.Perm candidates' →
      Ranking.selectAction candidates' settings suspicious sourceMismatch =
        Ranking.selectAction candidates settings suspicious sourceMismatch := by
  refine ⟨fun hcomparable => ?_, fun f hne hraised => ?_, fun candidates' hperm => ?_⟩
  · refine selectAction_rule _ hdistinct suspicious sourceMismatch (hcomparable.imp_right ?_)
    rintro ⟨epsilon, hepsilon⟩
    exact ⟨epsilon, hepsilon, signedMoney_nonneg hnonneg hepsilon⟩
  · exact selectAction_raises hne hraised
  · exact (selectAction_perm hdistinct hperm settings suspicious sourceMismatch).symm

/-! ## The same choice among other candidates -/

/-- An action whose candidate is near the best of the interventions that pay off. -/
def Leads (settings : OptimizerSettings) (candidates : List PricedCandidate)
    (action : RecoveryActionType) : Prop :=
  ∃ epsilon w, signedMoney settings.tieEpsilon = .ok epsilon ∧
    NearBest epsilon (profitable (eligibleCandidates candidates)) w ∧ w.action = action

theorem Leads.ne_nil {action : RecoveryActionType} (h : Leads settings candidates action) :
    profitable (eligibleCandidates candidates) ≠ [] := by
  obtain ⟨epsilon, w, -, hnear, -⟩ := h
  exact List.ne_nil_of_mem hnear.1

theorem Leads.isIntervention {action : RecoveryActionType}
    (h : Leads settings candidates action) : action.isIntervention = true := by
  obtain ⟨epsilon, w, -, hnear, rfl⟩ := h
  exact (mem_profitable.mp hnear.1).2.1

/-- An epsilon at which a candidate is near the best is not negative. -/
theorem Leads.comparable {action : RecoveryActionType} (h : Leads settings candidates action) :
    ∃ epsilon, signedMoney settings.tieEpsilon = .ok epsilon ∧ 0 ≤ epsilon := by
  obtain ⟨epsilon, w, hepsilon, hnear, -⟩ := h
  have hself := hnear.2 w hnear.1
  exact ⟨epsilon, hepsilon, by omega⟩

theorem isIntervention_controlStrategy {highRisk : Bool} {action : RecoveryActionType}
    (h : controlStrategy eligible highRisk = some action) : action.isIntervention = false := by
  unfold controlStrategy at h
  split at h
  · obtain rfl := Option.some.inj h
    rfl
  · split at h
    · obtain rfl := Option.some.inj h
      rfl
    · split at h
      · obtain rfl := Option.some.inj h
        rfl
      · cases h

/-- The choice is a control strategy, or the leading action of the least friction. -/
theorem selectAction_leads {choice : Option PricedCandidate} {reason : String}
    {suspicious sourceMismatch : Bool}
    (h : Ranking.selectAction candidates settings suspicious sourceMismatch =
      .ok (choice, reason)) :
    profitable (eligibleCandidates candidates) = [] ∧
      choice.map (·.action) =
        controlStrategy (eligibleCandidates candidates) (suspicious || sourceMismatch) ∨
    ∃ action, choice.map (·.action) = some action ∧ Leads settings candidates action ∧
      ∀ other, Leads settings candidates other → action.frictionRank ≤ other.frictionRank := by
  unfold Ranking.selectAction at h
  dsimp only at h
  split at h
  · rename_i hnobody
    have hnil : eligibleCandidates candidates = [] := List.isEmpty_iff.mp hnobody
    obtain rfl := (Prod.mk.inj (Except.ok.inj h)).1
    rw [hnil]
    exact .inl ⟨rfl, by simp [controlStrategy, Offers]⟩
  · split at h
    · rename_i hnone
      refine .inl ⟨List.isEmpty_iff.mp hnone, ?_⟩
      rw [← selectControl_action, Except.ok.inj h]
    · obtain ⟨w, hw, h⟩ := Lib.bind_eq_ok.mp h
      obtain rfl := (Prod.mk.inj (Except.ok.inj h)).1
      have hepsilon : ∃ epsilon, signedMoney settings.tieEpsilon = .ok epsilon := by
        unfold maxWithTies at hw
        obtain ⟨best, -, hw⟩ := Lib.bind_eq_ok.mp hw
        obtain ⟨epsilon, hepsilon, -⟩ := Lib.bind_eq_ok.mp hw
        exact ⟨epsilon, hepsilon⟩
      obtain ⟨epsilon, hepsilon⟩ := hepsilon
      obtain ⟨hmem, hbest, hleast⟩ := maxWithTies_spec hepsilon hw
      refine .inr ⟨w.action, rfl, ⟨epsilon, w, hepsilon, ⟨hmem, hbest⟩, rfl⟩, ?_⟩
      rintro other ⟨epsilon', b, hepsilon', hnear, rfl⟩
      obtain rfl := Except.ok.inj (hepsilon.symm.trans hepsilon')
      rcases Prod.Lex.le_iff.mp (hleast b hnear.1 hnear.2) with hlt | ⟨heq, -⟩
      · exact hlt.le
      · exact heq.le

/-- Other candidates do not matter for the choice: the interventions pay off for both lists or
for neither, and where an action leads in just one of them, one of less friction leads in
both. -/
structure Outranked (settings : OptimizerSettings) (candidates candidates' : List PricedCandidate) :
    Prop where
  contended : profitable (eligibleCandidates candidates') = [] ↔
    profitable (eligibleCandidates candidates) = []
  dominated : ∀ action,
    Xor (Leads settings candidates action) (Leads settings candidates' action) →
      ∃ best, Leads settings candidates best ∧ Leads settings candidates' best ∧
        best.frictionRank < action.frictionRank

/-- Of the same control strategies, the same action is chosen from other candidates exactly where
those do not matter. -/
theorem sameChoice_iff {choice : Option PricedCandidate} {reason : String}
    {suspicious sourceMismatch : Bool} (hdistinct : (candidates'.map (·.action)).Nodup)
    (hcontrol :
      controlStrategy (eligibleCandidates candidates') (suspicious || sourceMismatch) =
        controlStrategy (eligibleCandidates candidates) (suspicious || sourceMismatch))
    (h : Ranking.selectAction candidates settings suspicious sourceMismatch =
      .ok (choice, reason)) :
    (∃ choice' reason', Ranking.selectAction candidates' settings suspicious sourceMismatch =
        .ok (choice', reason') ∧ choice'.map (·.action) = choice.map (·.action)) ↔
      Outranked settings candidates candidates' := by
  constructor
  · rintro ⟨choice', reason', h', hsame⟩
    rcases selectAction_leads h with ⟨hnil, haction⟩ | ⟨action, haction, hleads, hleast⟩ <;>
      rcases selectAction_leads h' with ⟨hnil', haction'⟩ | ⟨action', haction', hleads', hleast'⟩
    · -- two control strategies
      refine ⟨iff_of_true hnil' hnil, fun action hone => ?_⟩
      rcases hone with ⟨hleads, -⟩ | ⟨hleads, -⟩
      · exact absurd hnil hleads.ne_nil
      · exact absurd hnil' hleads.ne_nil
    · rw [haction', haction] at hsame
      exact absurd hleads'.isIntervention (by simp [isIntervention_controlStrategy hsame.symm])
    · rw [haction', haction, hcontrol] at hsame
      exact absurd hleads.isIntervention (by simp [isIntervention_controlStrategy hsame])
    · -- one intervention: whoever leads in one list only has more friction
      obtain rfl : action' = action :=
        Option.some.inj (haction'.symm.trans (hsame.trans haction))
      refine ⟨iff_of_false hleads'.ne_nil hleads.ne_nil, fun other hone => ?_⟩
      refine ⟨action', hleads, hleads', lt_of_le_of_ne ?_ fun heq => ?_⟩
      · rcases hone with ⟨hother, -⟩ | ⟨hother, -⟩
        · exact hleast other hother
        · exact hleast' other hother
      · obtain rfl := frictionRank_injective heq
        rcases hone with ⟨-, hnot⟩ | ⟨-, hnot⟩
        · exact hnot hleads'
        · exact hnot hleads
  · rintro ⟨hcontended, hdominated⟩
    rcases selectAction_leads h with ⟨hnil, haction⟩ | ⟨action, haction, hleads, hleast⟩
    · -- neither list has an intervention to take, and the control strategies are the same
      obtain ⟨choice', reason', h', hrule⟩ := selectAction_rule settings hdistinct
        suspicious sourceMismatch (.inl (hcontended.mpr hnil))
      refine ⟨choice', reason', h', ?_⟩
      rw [hrule.control (hcontended.mpr hnil), hcontrol, haction]
    · obtain ⟨choice', reason', h', -⟩ := selectAction_rule settings hdistinct
        suspicious sourceMismatch (.inr hleads.comparable)
      refine ⟨choice', reason', h', ?_⟩
      rcases selectAction_leads h' with ⟨hnil', -⟩ | ⟨action', haction', hleads', hleast'⟩
      · exact absurd (hcontended.mp hnil') hleads.ne_nil
      · -- each of the two leads in both lists, so neither has more friction
        have hboth : Leads settings candidates' action := by
          by_contra hnot
          obtain ⟨best, hbest, -, hlt⟩ := hdominated action (.inl ⟨hleads, hnot⟩)
          exact absurd (hleast best hbest) hlt.not_ge
        have hboth' : Leads settings candidates action' := by
          by_contra hnot
          obtain ⟨best, -, hbest, hlt⟩ := hdominated action' (.inr ⟨hleads', hnot⟩)
          exact absurd (hleast' best hbest) hlt.not_ge
        have hsame : action' = action :=
          frictionRank_injective (le_antisymm (hleast' action hboth) (hleast action' hboth'))
        rw [haction', haction, hsame]

/-! ### A tie epsilon that does not fit -/

/-- A candidate for the examples, without costs. -/
def sampleCandidate (action : RecoveryActionType) (expectedValue : ℤ) : PricedCandidate where
  action := action
  probability := some (1 / 2)
  discountCost := 0
  discountPercent := none
  allowed := true
  requiresApproval := false
  interventionCost := 0
  communicationCost := 0
  riskPenalty := 0
  expectedRecovery := 0
  expectedValue := expectedValue

/-- A tie epsilon of 10^26 rupees: the only candidate cannot be chosen. -/
theorem hugeEpsilon_not_specification :
    (Decimal.finite 0).gt? (.finite (10 ^ 26)) = some false ∧
    ¬ ∃ choice reason, Ranking.selectAction [sampleCandidate .retryNow 100]
        { tieEpsilon := .finite (10 ^ 26) } false false = .ok (choice, reason) ∧
      SelectionRule [sampleCandidate .retryNow 100] (.finite (10 ^ 26)) false choice := by
  refine ⟨by decide +kernel, ?_⟩
  rintro ⟨choice, reason, hselected, -⟩
  have hraised : Lib.raised? (Ranking.selectAction [sampleCandidate .retryNow 100]
      { tieEpsilon := .finite (10 ^ 26) } false false) = some (.crash "InvalidOperation") := by
    decide +kernel
  rw [hselected] at hraised
  cases hraised

/-! ### A tie within the epsilon -/

/-- Two interventions four paise apart, one that loses money, one that is denied, and the two
controls. -/
def tiedCandidates : List PricedCandidate :=
  [sampleCandidate .retryNow 104, sampleCandidate .retryLater (-50),
    { sampleCandidate .sendReminder 900 with allowed := false }, sampleCandidate .doNothing 0,
    sampleCandidate .sendPaymentLink 100, sampleCandidate .escalate (-28000)]

/-- The candidates without the interventions that pay off. -/
def losingCandidates : List PricedCandidate :=
  [sampleCandidate .retryLater (-50), sampleCandidate .escalate (-28000),
    sampleCandidate .doNothing 0]

/-- An epsilon of five paise, rounded from 0.052 rupees. -/
def fivePaise : OptimizerSettings where
  tieEpsilon := .finite (52 / 1000)

/-- Among the tied the simpler one wins, below the best expected value; nothing to gain leaves
the control; the lists in reverse order choose the same; and where the epsilon does not fit the
digits, the comparison raises. -/
theorem selectAction_specification_tied :
    (∃ choice reason, Ranking.selectAction tiedCandidates fivePaise false false =
        .ok (choice, reason) ∧ choice.map (·.action) = some .sendPaymentLink ∧
      SelectionRule tiedCandidates fivePaise.tieEpsilon false choice) ∧
    (∃ choice reason, Ranking.selectAction losingCandidates fivePaise false false =
        .ok (choice, reason) ∧ choice.map (·.action) = some .doNothing ∧
      SelectionRule losingCandidates fivePaise.tieEpsilon false choice) ∧
    Ranking.selectAction tiedCandidates.reverse fivePaise false false =
      Ranking.selectAction tiedCandidates fivePaise false false ∧
    Ranking.selectAction losingCandidates.reverse fivePaise false false =
      Ranking.selectAction losingCandidates fivePaise false false ∧
    Ranking.selectAction tiedCandidates { tieEpsilon := .finite (10 ^ 26) } false false =
      .error (.crash "InvalidOperation") := by
  have hepsilon : ∃ epsilon, signedMoney fivePaise.tieEpsilon = .ok epsilon :=
    ⟨5, by decide +kernel⟩
  have htied := selectAction_specification tiedCandidates fivePaise false false (by decide)
    (by decide +kernel)
  have hlosing := selectAction_specification losingCandidates fivePaise false false (by decide)
    (by decide +kernel)
  have hhuge := selectAction_specification tiedCandidates { tieEpsilon := .finite (10 ^ 26) }
    false false (by decide) (by decide +kernel)
  obtain ⟨choice, reason, hchoice, hrule⟩ := htied.1 (.inr hepsilon)
  obtain ⟨control, controlReason, hcontrol, hcontrolRule⟩ := hlosing.1 (.inr hepsilon)
  have hlink : (Ranking.selectAction tiedCandidates fivePaise false false).toOption.map
      (·.1.map (·.action)) = some (some .sendPaymentLink) := by decide +kernel
  have hnothing : (Ranking.selectAction losingCandidates fivePaise false false).toOption.map
      (·.1.map (·.action)) = some (some .doNothing) := by decide +kernel
  have hprofitable : (profitable (eligibleCandidates tiedCandidates)).length = 2 := by
    decide +kernel
  rw [hchoice] at hlink
  rw [hcontrol] at hnothing
  refine ⟨⟨choice, reason, hchoice, Option.some.inj hlink, hrule⟩,
    ⟨control, controlReason, hcontrol, Option.some.inj hnothing, hcontrolRule⟩,
    htied.2.2 _ (List.reverse_perm _).symm, hlosing.2.2 _ (List.reverse_perm _).symm, ?_⟩
  refine hhuge.2.1 _ (fun hnil => ?_) (by decide +kernel)
  rw [hnil] at hprofitable
  cases hprofitable

end ReviveX
