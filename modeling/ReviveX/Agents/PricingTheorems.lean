import ReviveX.Agents.ChoiceTheorems

/-!
# Prices and choices grow with the probability

Rounding keeps the order of what is rounded, so a greater probability never lowers the price
of an action, and the sort that picks the winner is stable, so a winner that becomes better
stays the winner. An amount is rounded to paise before it is priced: what is expected of it is
bounded by the rounded amount.
-/

namespace ReviveX

open Lib (Decimal)

variable {p q : ℚ} {amount : Decimal} {m : Money} {costs : ActionCosts}
  {settings : OptimizerSettings} {w w' : PricedCandidate} {l₁ l₂ : List PricedCandidate}

/-! ## Prices -/

theorem finite_of_raiseMoney (hm : raiseMoney amount = .ok m) :
    ∃ a, amount = .finite a ∧ asMoney (.finite a) = some m := by
  have hmoney := raiseMoney_eq_ok.mp hm
  cases amount with
  | finite a => exact ⟨a, rfl, hmoney⟩
  | infinity negative => cases hmoney
  | nan => cases hmoney

/-- What is expected of an accepted amount lies between nothing and the rounded amount. -/
theorem expectedRecoveredRevenue_le (hp : 0 ≤ p ∧ p ≤ 1) (hm : raiseMoney amount = .ok m) :
    ∃ g : Money, expectedRecoveredRevenue p amount = .ok g ∧ g ≤ m := by
  obtain ⟨a, rfl, hmoney⟩ := finite_of_raiseMoney hm
  exact expectedRecoveredRevenue_ok hp hmoney

theorem probability_of_expectedRecoveredRevenue {g : Money}
    (h : expectedRecoveredRevenue p amount = .ok g) :
    (0 ≤ p ∧ p ≤ 1) ∧ ∃ m, raiseMoney amount = .ok m := by
  unfold expectedRecoveredRevenue at h
  split at h
  · cases h
  · rename_i hbounds
    obtain ⟨m, hm, -⟩ := Lib.bind_eq_ok.mp h
    push Not at hbounds
    exact ⟨hbounds, m, hm⟩

/-- An expected recovery is a rounded product. -/
theorem expectedRecoveredRevenue_product {g : Money} (hm : raiseMoney amount = .ok m)
    (h : expectedRecoveredRevenue p amount = .ok g) :
    ∃ r, Decimal.ofExact (p * ((m : ℚ) / 100)) = some (.finite r) ∧
      Decimal.roundHalfEven (r * 100) = g := by
  obtain ⟨hp, -⟩ := probability_of_expectedRecoveredRevenue h
  rw [expectedRecoveredRevenue_eq hp hm] at h
  have hmul : Decimal.mul? p m.toDecimal = Decimal.ofExact (p * ((m : ℚ) / 100)) := rfl
  rw [hmul] at h
  cases hproduct : Decimal.ofExact (p * ((m : ℚ) / 100)) with
  | none =>
    rw [hproduct] at h
    cases h
  | some d =>
    obtain ⟨r, rfl⟩ := Decimal.ofExact_finite hproduct
    rw [hproduct] at h
    exact ⟨r, rfl, (asMoney_finite.mp (raiseMoney_eq_ok.mp h)).1⟩

theorem expectedRecoveredRevenue_mono {g g' : Money} (hpq : p ≤ q)
    (h : expectedRecoveredRevenue p amount = .ok g)
    (h' : expectedRecoveredRevenue q amount = .ok g') : g ≤ g' := by
  obtain ⟨-, m, hm⟩ := probability_of_expectedRecoveredRevenue h
  obtain ⟨r, hr, hg⟩ := expectedRecoveredRevenue_product hm h
  obtain ⟨r', hr', hg'⟩ := expectedRecoveredRevenue_product hm h'
  have hproduct : p * ((m : ℚ) / 100) ≤ q * ((m : ℚ) / 100) :=
    mul_le_mul_of_nonneg_right hpq (by positivity)
  have hround := Decimal.ofExact_mono hproduct hr hr'
  have hpaise : Decimal.roundHalfEven (r * 100) ≤ Decimal.roundHalfEven (r' * 100) :=
    Decimal.roundHalfEven_mono (by linarith)
  rw [hg, hg'] at hpaise
  exact_mod_cast hpaise

theorem lessCost_mono {a b : ℚ} {x y : Decimal} {cost : Money} (h : a ≤ b)
    (hx : lessCost (.finite a) cost = .ok x) (hy : lessCost (.finite b) cost = .ok y) :
    ∃ a' b', x = .finite a' ∧ y = .finite b' ∧ a' ≤ b' := by
  have hfinite : ∀ {c : ℚ} {z : Decimal}, lessCost (.finite c) cost = .ok z →
      ∃ c', z = .finite c' ∧ Decimal.ofExact (c - (cost : ℚ) / 100) = some (.finite c') := by
    intro c z hz
    have hsub : (Decimal.ofExact (c - (cost : ℚ) / 100)).elim
        (Except.error (Failure.crash "Overflow")) Except.ok = .ok z := hz
    cases hexact : Decimal.ofExact (c - (cost : ℚ) / 100) with
    | none =>
      rw [hexact] at hsub
      cases hsub
    | some d =>
      rw [hexact] at hsub
      obtain rfl : d = z := Except.ok.inj hsub
      obtain ⟨c', rfl⟩ := Decimal.ofExact_finite hexact
      exact ⟨c', rfl, rfl⟩
  obtain ⟨a', rfl, ha'⟩ := hfinite hx
  obtain ⟨b', rfl, hb'⟩ := hfinite hy
  exact ⟨a', b', rfl, rfl, Decimal.ofExact_mono (by linarith) ha' hb'⟩

theorem signedMoney_mono {a b : ℚ} {v v' : ℤ} (h : a ≤ b) (hv : signedMoney (.finite a) = .ok v)
    (hv' : signedMoney (.finite b) = .ok v') : v ≤ v' := by
  have hround : ∀ {c : ℚ} {n : ℤ}, signedMoney (.finite c) = .ok n →
      n = Decimal.roundHalfEven (c * 100) := by
    intro c n hn
    unfold signedMoney at hn
    dsimp only at hn
    split at hn
    · cases hn
    · exact (Except.ok.inj hn).symm
  rw [hround hv, hround hv']
  exact Decimal.roundHalfEven_mono (by linarith)

/-- A greater probability never lowers a price. -/
theorem expectedNetRecovery_mono {v v' : ℤ} (hpq : p ≤ q)
    (h : expectedNetRecovery p amount costs = .ok v)
    (h' : expectedNetRecovery q amount costs = .ok v') : v ≤ v' := by
  unfold expectedNetRecovery at h h'
  obtain ⟨g, hg, h⟩ := Lib.bind_eq_ok.mp h
  obtain ⟨g', hg', h'⟩ := Lib.bind_eq_ok.mp h'
  have hexpected : (g : ℚ) / 100 ≤ (g' : ℚ) / 100 := by
    have hle : (g : ℚ) ≤ g' := by exact_mod_cast expectedRecoveredRevenue_mono hpq hg hg'
    linarith
  -- the four subtractions, one after the other
  obtain ⟨x₁, hx₁, h⟩ := Lib.bind_eq_ok.mp h
  obtain ⟨y₁, hy₁, h'⟩ := Lib.bind_eq_ok.mp h'
  obtain ⟨a₁, b₁, rfl, rfl, hle₁⟩ := lessCost_mono hexpected hx₁ hy₁
  obtain ⟨x₂, hx₂, h⟩ := Lib.bind_eq_ok.mp h
  obtain ⟨y₂, hy₂, h'⟩ := Lib.bind_eq_ok.mp h'
  obtain ⟨a₂, b₂, rfl, rfl, hle₂⟩ := lessCost_mono hle₁ hx₂ hy₂
  obtain ⟨x₃, hx₃, h⟩ := Lib.bind_eq_ok.mp h
  obtain ⟨y₃, hy₃, h'⟩ := Lib.bind_eq_ok.mp h'
  obtain ⟨a₃, b₃, rfl, rfl, hle₃⟩ := lessCost_mono hle₂ hx₃ hy₃
  obtain ⟨x₄, hx₄, h⟩ := Lib.bind_eq_ok.mp h
  obtain ⟨y₄, hy₄, h'⟩ := Lib.bind_eq_ok.mp h'
  obtain ⟨a₄, b₄, rfl, rfl, hle₄⟩ := lessCost_mono hle₃ hx₄ hy₄
  exact signedMoney_mono hle₄ h h'

/-! ## A candidate with a better price -/

/-- The same candidate under another probability, whose value is at least as great. -/
structure Raised (w w' : PricedCandidate) : Prop where
  same : ∃ probability recovery value, w' = { w with
    probability := some probability
    expectedRecovery := recovery
    expectedValue := value }
  value_le : w.expectedValue ≤ w'.expectedValue

namespace Raised

theorem action (h : Raised w w') : w'.action = w.action := by
  obtain ⟨_, _, _, rfl⟩ := h.same
  rfl

theorem tieKey (h : Raised w w') : w'.tieKey = w.tieKey := by
  obtain ⟨_, _, _, rfl⟩ := h.same
  rfl

theorem eligible (h : Raised w w') (heligible : w.allowed = true ∧ w.missingProbability = false) :
    w'.allowed = true ∧ w'.missingProbability = false ∧ w'.probability.isSome = true := by
  obtain ⟨_, _, _, rfl⟩ := h.same
  exact ⟨heligible.1, heligible.2, rfl⟩

/-- Pricing under a greater probability raises the candidate. -/
theorem of_quote {candidate : CandidateAction} (hpq : p ≤ q)
    (hprobability : candidate.probability = some p)
    (h : candidateFromQuote candidate amount costs = .ok w)
    (h' : candidateFromQuote { candidate with probability := some q } amount costs = .ok w') :
    Raised w w' := by
  obtain ⟨action, probability, discountCost, discountPercent, allowed, requiresApproval⟩ :=
    candidate
  obtain rfl : probability = some p := hprobability
  unfold candidateFromQuote at h h'
  obtain ⟨recovery, -, h⟩ := Lib.bind_eq_ok.mp h
  obtain ⟨value, hvalue, h⟩ := Lib.bind_eq_ok.mp h
  obtain ⟨recovery', -, h'⟩ := Lib.bind_eq_ok.mp h'
  obtain ⟨value', hvalue', h'⟩ := Lib.bind_eq_ok.mp h'
  obtain rfl := Except.ok.inj h
  obtain rfl := Except.ok.inj h'
  exact ⟨⟨q, recovery', value', rfl⟩, expectedNetRecovery_mono hpq hvalue hvalue'⟩

end Raised

/-! ## The winner without a tie epsilon -/

/-- Without a tie epsilon, the winner is the first by tie key among the best, which stay in
their order. -/
theorem maxWithTies_eq {pool : List PricedCandidate} (hpool : pool ≠ [])
    (hepsilon : signedMoney settings.tieEpsilon = .ok 0) :
    ∃ best ∈ pool, (∀ b ∈ pool, b.expectedValue ≤ best.expectedValue) ∧
      maxWithTies pool settings = firstOf ((pool.filter fun item =>
        decide (best.expectedValue ≤ item.expectedValue)).insertionSort
          fun a b => a.tieKey ≤ b.tieKey) := by
  obtain ⟨c, hc⟩ := List.exists_mem_of_ne_nil pool hpool
  have hsorted : c ∈ pool.insertionSort fun a b => b.expectedValue ≤ a.expectedValue :=
    (List.mem_insertionSort _).mpr hc
  obtain ⟨best, -, hbest⟩ := firstOf_ok (List.ne_nil_of_mem hsorted)
  obtain ⟨hmem, hgreatest⟩ := Lib.head?_insertionSort
    (fun c : PricedCandidate => OrderDual.toDual c.expectedValue) (firstOf_eq_ok.mp hbest)
  have hmax : ∀ b ∈ pool, b.expectedValue ≤ best.expectedValue := hgreatest
  refine ⟨best, hmem, hmax, ?_⟩
  have hfilter := Lib.filter_insertionSort (l := pool)
    (fun c : PricedCandidate => OrderDual.toDual c.expectedValue)
    (p := fun item => decide (best.expectedValue - item.expectedValue ≤ 0)) (by
      intro a ha b hb hbest' _
      have hle : b.expectedValue ≤ best.expectedValue := hmax b hb
      have hge : best.expectedValue - a.expectedValue ≤ 0 := of_decide_eq_true hbest'
      show b.expectedValue ≤ a.expectedValue
      omega)
  have hsame : pool.filter (fun item => decide (best.expectedValue - item.expectedValue ≤ 0)) =
      pool.filter fun item => decide (best.expectedValue ≤ item.expectedValue) := by
    refine List.filter_congr fun item _ => decide_eq_decide.mpr ?_
    omega
  rw [hsame] at hfilter
  unfold maxWithTies
  dsimp only
  rw [hbest, hepsilon, ← hfilter]
  rfl

/-- The winner of a pool is the best, and the first by tie key and position among the best. -/
theorem maxWithTies_append_iff (hepsilon : signedMoney settings.tieEpsilon = .ok 0)
    (hnew : w ∉ l₁) :
    maxWithTies (l₁ ++ w :: l₂) settings = .ok w ↔
      (∀ b ∈ l₁ ++ w :: l₂, b.expectedValue ≤ w.expectedValue) ∧
      (∀ b ∈ l₁, w.expectedValue ≤ b.expectedValue → w.tieKey < b.tieKey) ∧
      ∀ b ∈ l₂, w.expectedValue ≤ b.expectedValue → w.tieKey ≤ b.tieKey := by
  have hpool : l₁ ++ w :: l₂ ≠ [] := by simp
  obtain ⟨best, hmem, hmax, heq⟩ := maxWithTies_eq hpool hepsilon
  have hw : w.expectedValue ≤ best.expectedValue := hmax w (by simp)
  rw [heq, firstOf_eq_ok]
  constructor
  · intro hhead
    obtain ⟨hin, -⟩ := Lib.head?_insertionSort PricedCandidate.tieKey hhead
    have hbest : best.expectedValue ≤ w.expectedValue :=
      of_decide_eq_true (List.mem_filter.mp hin).2
    rw [List.filter_append, List.filter_cons_of_pos (by simpa using hbest)] at hhead
    obtain ⟨hbefore, hafter⟩ := Lib.of_head?_insertionSort_append PricedCandidate.tieKey hhead
      fun hold => hnew (List.mem_of_mem_filter hold)
    refine ⟨fun b hb => (hmax b hb).trans hbest, fun b hb hle => ?_, fun b hb hle => ?_⟩
    · exact hbefore b (List.mem_filter.mpr ⟨hb, by simpa using hle.trans' hbest⟩)
    · exact hafter b (List.mem_filter.mpr ⟨hb, by simpa using hle.trans' hbest⟩)
  · rintro ⟨hgreatest, hbefore, hafter⟩
    have hbest : best.expectedValue ≤ w.expectedValue := hgreatest best hmem
    rw [List.filter_append, List.filter_cons_of_pos (by simpa using hbest)]
    refine Lib.head?_insertionSort_append PricedCandidate.tieKey (fun b hb => ?_) fun b hb => ?_
    · obtain ⟨hb, hle⟩ := List.mem_filter.mp hb
      exact hbefore b hb (hw.trans (of_decide_eq_true hle))
    · obtain ⟨hb, hle⟩ := List.mem_filter.mp hb
      exact hafter b hb (hw.trans (of_decide_eq_true hle))

/-- A winner that is raised, where it stands, wins. -/
theorem maxWithTies_raised (hepsilon : signedMoney settings.tieEpsilon = .ok 0)
    (hraised : Raised w w') (hnew : w ∉ l₁)
    (h : maxWithTies (l₁ ++ w :: l₂) settings = .ok w) :
    maxWithTies (l₁ ++ w' :: l₂) settings = .ok w' := by
  have hvalue := hraised.value_le
  have hkey := hraised.tieKey
  obtain ⟨hgreatest, hbefore, hafter⟩ := (maxWithTies_append_iff hepsilon hnew).mp h
  have hold : w' ∉ l₁ := by
    intro hmem
    have hlt := hbefore w' hmem hvalue
    rw [hkey] at hlt
    exact lt_irrefl _ hlt
  refine (maxWithTies_append_iff hepsilon hold).mpr ⟨fun b hb => ?_, fun b hb hle => ?_,
    fun b hb hle => ?_⟩
  · rcases List.mem_append.mp hb with hb | hb
    · exact (hgreatest b (List.mem_append_left _ hb)).trans hvalue
    · rcases List.mem_cons.mp hb with rfl | hb
      · exact le_rfl
      · exact (hgreatest b (by simp [hb])).trans hvalue
  · rw [hkey]
    exact hbefore b hb (hvalue.trans hle)
  · rw [hkey]
    exact hafter b hb (hvalue.trans hle)

/-! ## The selected intervention -/

theorem selectAction_intervention_iff {candidates : List PricedCandidate}
    {suspicious sourceMismatch : Bool} (hkind : w.action.isIntervention = true) :
    (∃ reason, Ranking.selectAction candidates settings suspicious sourceMismatch =
      .ok (some w, reason)) ↔
    profitable (eligibleCandidates candidates) ≠ [] ∧
      maxWithTies (profitable (eligibleCandidates candidates)) settings = .ok w := by
  unfold Ranking.selectAction
  dsimp only
  split
  · rename_i hnobody
    have hnil : profitable (eligibleCandidates candidates) = [] := by
      rw [List.isEmpty_iff.mp hnobody]
      rfl
    refine iff_of_false ?_ fun h => h.1 hnil
    rintro ⟨reason, h⟩
    cases h
  · split
    · rename_i hnone
      have hnil : profitable (eligibleCandidates candidates) = [] := List.isEmpty_iff.mp hnone
      refine iff_of_false ?_ fun h => h.1 hnil
      rintro ⟨reason, h⟩
      have hcontrol : (selectControl (eligibleCandidates candidates)
          (suspicious || sourceMismatch)).1 = some w := congrArg Prod.fst (Except.ok.inj h)
      exact absurd (hkind.symm.trans (mem_of_selectControl hcontrol).2) (by simp)
    · rename_i hsome
      have hne : profitable (eligibleCandidates candidates) ≠ [] :=
        fun hnil => hsome (List.isEmpty_iff.mpr hnil)
      constructor
      · rintro ⟨reason, h⟩
        obtain ⟨winner, hwinner, h⟩ := Lib.bind_eq_ok.mp h
        obtain rfl : winner = w := Option.some.inj (congrArg Prod.fst (Except.ok.inj h))
        exact ⟨hne, hwinner⟩
      · rintro ⟨-, hwinner⟩
        unfold profitable at hwinner
        rw [hwinner]
        exact ⟨_, rfl⟩

theorem profitable_append (heligible : w.allowed = true ∧ w.missingProbability = false ∧
    w.probability.isSome = true) (hkind : w.action.isIntervention = true)
    (hvalue : 0 ≤ w.expectedValue) :
    profitable (eligibleCandidates (l₁ ++ w :: l₂)) =
      profitable (eligibleCandidates l₁) ++ w :: profitable (eligibleCandidates l₂) := by
  obtain ⟨hallowed, hpresent, hprobability⟩ := heligible
  unfold eligibleCandidates profitable
  rw [List.filter_append, List.filter_cons_of_pos (by simp [hallowed, hpresent, hprobability]),
    List.filter_append, List.filter_cons_of_pos (by simp [hkind, hvalue])]

/-- A selected intervention that is raised stays selected. -/
theorem selectAction_raised {suspicious sourceMismatch : Bool} {reason : String}
    (hepsilon : signedMoney settings.tieEpsilon = .ok 0) (hraised : Raised w w')
    (hnew : w ∉ l₁) (hkind : w.action.isIntervention = true)
    (h : Ranking.selectAction (l₁ ++ w :: l₂) settings suspicious sourceMismatch =
      .ok (some w, reason)) :
    ∃ reason', Ranking.selectAction (l₁ ++ w' :: l₂) settings suspicious sourceMismatch =
      .ok (some w', reason') := by
  obtain ⟨hne, hwinner⟩ := (selectAction_intervention_iff hkind).mp ⟨reason, h⟩
  have hmem : w ∈ profitable (eligibleCandidates (l₁ ++ w :: l₂)) :=
    (maxWithTies_spec hepsilon hwinner).1
  obtain ⟨hin, -, hvalue⟩ := mem_profitable.mp hmem
  obtain ⟨-, hallowed, hpresent, hprobability⟩ := mem_eligibleCandidates.mp hin
  have heligible' := hraised.eligible ⟨hallowed, hpresent⟩
  have hkind' : w'.action.isIntervention = true := by
    rw [hraised.action]
    exact hkind
  have hvalue' : 0 ≤ w'.expectedValue := hvalue.trans hraised.value_le
  rw [selectAction_intervention_iff hkind',
    profitable_append heligible' hkind' hvalue']
  rw [profitable_append ⟨hallowed, hpresent, hprobability⟩ hkind hvalue] at hwinner
  refine ⟨by simp, maxWithTies_raised hepsilon hraised (fun hold => hnew ?_) hwinner⟩
  exact (mem_eligibleCandidates.mp (mem_profitable.mp hold).1).1

/-- Prices grow with the probability, what is expected of an amount lies between nothing and
the amount in paise, and a selected intervention whose probability is raised stays selected
when there is no tie epsilon. -/
theorem pricing_monotone (hp : 0 ≤ p) (hpq : p ≤ q) (hq : q ≤ 1)
    (hm : raiseMoney amount = .ok m) (costs : ActionCosts)
    (hepsilon : settings.tieEpsilon = .finite 0) :
    (∃ g : Money, expectedRecoveredRevenue p amount = .ok g ∧ g ≤ m) ∧
    (∀ v v', expectedNetRecovery p amount costs = .ok v →
      expectedNetRecovery q amount costs = .ok v' → v ≤ v') ∧
    (∀ (candidate : CandidateAction) (w w' : PricedCandidate),
      candidate.probability = some p → candidateFromQuote candidate amount costs = .ok w →
      candidateFromQuote { candidate with probability := some q } amount costs = .ok w' →
      Raised w w') ∧
    ∀ (suspicious sourceMismatch : Bool) (l₁ l₂ : List PricedCandidate) (w w' : PricedCandidate)
      (reason : String), Raised w w' → w ∉ l₁ → w.action.isIntervention = true →
      Ranking.selectAction (l₁ ++ w :: l₂) settings suspicious sourceMismatch =
        .ok (some w, reason) →
      ∃ reason', Ranking.selectAction (l₁ ++ w' :: l₂) settings suspicious sourceMismatch =
        .ok (some w', reason') := by
  have hzero : signedMoney settings.tieEpsilon = .ok 0 := by
    rw [hepsilon]
    decide +kernel
  refine ⟨expectedRecoveredRevenue_le ⟨hp, hpq.trans hq⟩ hm, fun v v' hv hv' => ?_, ?_, ?_⟩
  · exact expectedNetRecovery_mono hpq hv hv'
  · intro candidate w w' hprobability hw hw'
    exact .of_quote hpq hprobability hw hw'
  · intro suspicious sourceMismatch l₁ l₂ w w' reason hraised hnew hkind h
    exact selectAction_raised hzero hraised hnew hkind h

/-! ### Half a paisa -/

/-- Of 1.5 paise, two are expected. -/
theorem subPaisa_exceeds_amount :
    ¬ ∀ (p a : ℚ) (g : Money), 0 ≤ p → p ≤ 1 → 0 ≤ a →
      expectedRecoveredRevenue p (.finite a) = .ok g → (g : ℚ) / 100 ≤ a := by
  intro hbound
  have hexpected : expectedRecoveredRevenue 1 (.finite (3 / 200)) = .ok 2 :=
    Lib.toOption_eq_some.mp (by decide +kernel)
  have hle := hbound 1 (3 / 200) 2 (by norm_num) (by norm_num) (by norm_num) hexpected
  norm_num at hle

theorem pricing_monotone_sample :
    (∃ g : Money, expectedRecoveredRevenue (1 / 2) (.finite 1000) = .ok g ∧ g ≤ 100000) ∧
    (∀ v v', expectedNetRecovery (1 / 2) (.finite 1000) (defaultCosts .retryNow) = .ok v →
      expectedNetRecovery (3 / 4) (.finite 1000) (defaultCosts .retryNow) = .ok v' → v ≤ v') ∧
    (∀ (candidate : CandidateAction) (w w' : PricedCandidate),
      candidate.probability = some (1 / 2) →
      candidateFromQuote candidate (.finite 1000) (defaultCosts .retryNow) = .ok w →
      candidateFromQuote { candidate with probability := some (3 / 4) } (.finite 1000)
        (defaultCosts .retryNow) = .ok w' → Raised w w') ∧
    ∀ (suspicious sourceMismatch : Bool) (l₁ l₂ : List PricedCandidate) (w w' : PricedCandidate)
      (reason : String), Raised w w' → w ∉ l₁ → w.action.isIntervention = true →
      Ranking.selectAction (l₁ ++ w :: l₂) { tieEpsilon := .finite 0 } suspicious
        sourceMismatch = .ok (some w, reason) →
      ∃ reason', Ranking.selectAction (l₁ ++ w' :: l₂) { tieEpsilon := .finite 0 } suspicious
        sourceMismatch = .ok (some w', reason') :=
  pricing_monotone (by norm_num) (by norm_num) (by norm_num)
    (raiseMoney_eq_ok.mpr (by decide +kernel)) (defaultCosts .retryNow) rfl

end ReviveX
