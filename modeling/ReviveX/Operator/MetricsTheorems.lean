import ReviveX.Operator.Metrics

/-!
# The two reports compared

The dashboard subtracts what was recovered from what is at risk and the analyst does not, and the
dashboard adds up every decision of the latest time of its case. So the two agree on the revenue
at risk while no open case is partially recovered, and a case is counted once while its latest
decisions do not tie.
-/

namespace ReviveX

open Lib (TiesSuperseded)

variable {s : Store} {decisions : List DecisionRecord} {mid : ℕ}

/-! ## Agreement -/

/-- One latest decision for every case of the merchant that has decisions. -/
structure OneLatestPerCase (decisions : List DecisionRecord) (mid : ℕ)
    (chosen : List DecisionRecord) : Prop where
  once : (chosen.map DecisionRecord.recoveryCaseId).Nodup
  latest : ∀ d ∈ chosen, d ∈ decisionsOf decisions mid ∧
    ∀ d' ∈ decisionsOf decisions mid, d'.recoveryCaseId = d.recoveryCaseId →
      d'.createdAt ≤ d.createdAt
  complete : ∀ d ∈ decisionsOf decisions mid, ∃ d' ∈ chosen,
    d'.recoveryCaseId = d.recoveryCaseId

/-- The reports give the same money, and the expected recovery adds up exactly one latest decision
of each case. -/
structure ReportsAgree (groups : UnorderedGroups) (s : Store) (decisions : List DecisionRecord)
    (mid : ℕ) : Prop where
  revenueAtRisk : (merchantAggregates groups s mid).revenueAtRisk =
    (commandCenterMetrics s decisions (some mid)).revenueAtRisk
  revenueRecovered : (merchantAggregates groups s mid).revenueRecovered =
    (commandCenterMetrics s decisions (some mid)).revenueRecovered
  openCases : (merchantAggregates groups s mid).openCases =
    (commandCenterMetrics s decisions (some mid)).activeCases
  expectedRecovery : ∃ chosen, OneLatestPerCase decisions mid chosen ∧
    (latestDecisions decisions mid).Perm chosen ∧
    (commandCenterMetrics s decisions (some mid)).expectedRecovery = totalExpectedValue chosen

/-- The rows on which the two reports agree. -/
structure RowsComparable (s : Store) (decisions : List DecisionRecord) (mid : ℕ) : Prop where
  /-- No open case is partially recovered. -/
  unpaid : ∀ c ∈ s.cases.rows, c.merchantId = mid → c.closedAt = none → c.amountRecovered = 0
  /-- No open case is marked as recovered. -/
  unmarked : ∀ c ∈ s.cases.rows, c.merchantId = mid → c.closedAt = none → c.status ≠ .recovered
  /-- Decisions of one case and one time are superseded by a later one. -/
  untied : TiesSuperseded DecisionRecord.recoveryCaseId DecisionRecord.createdAt
    (decisionsOf decisions mid)

/-! ## The three columns -/

theorem isOpenOf_iff {c : RecoveryCase} :
    c.isOpenOf mid = true ↔ c.merchantId = mid ∧ c.closedAt = none := by
  unfold RecoveryCase.isOpenOf
  rw [Bool.and_eq_true, decide_eq_true_eq, Option.isNone_iff_eq_none]

/-- The reports agree on the revenue at risk while nothing is recovered on open cases. -/
theorem revenueAtRisk_eq_iff (groups : UnorderedGroups) :
    (merchantAggregates groups s mid).revenueAtRisk =
        (commandCenterMetrics s decisions (some mid)).revenueAtRisk ↔
      ∀ c ∈ s.cases.rows, c.merchantId = mid → c.closedAt = none → c.amountRecovered = 0 := by
  have hcolumns : s.cases.sumWhere (·.isOpenOf mid) (·.amountAtRisk) =
      s.cases.sumWhere (·.isOpenOf mid) (fun c => c.amountAtRisk - c.amountRecovered) ↔
      ∀ c ∈ s.cases.rows, c.isOpenOf mid = true →
        c.amountAtRisk = c.amountAtRisk - c.amountRecovered :=
    s.cases.sumWhere_eq_iff _ fun c => Nat.sub_le _ _
  refine hcolumns.trans ?_
  constructor
  · intro h c hc hmerchant hopen
    have heq : c.amountAtRisk = c.amountAtRisk - c.amountRecovered :=
      h c hc (isOpenOf_iff.mpr ⟨hmerchant, hopen⟩)
    have hnone : ∀ n m : ℕ, m ≤ n → n = n - m → m = 0 := by
      intro n m hle hsub
      omega
    exact hnone _ _ c.recovered_le_at_risk heq
  · intro h c hc hopen
    obtain ⟨hmerchant, hclosed⟩ := isOpenOf_iff.mp hopen
    rw [h c hc hmerchant hclosed, Nat.sub_zero]

/-- The reports agree on the open cases while none of them is marked as recovered. -/
theorem openCases_eq_iff (groups : UnorderedGroups) :
    (merchantAggregates groups s mid).openCases =
        (commandCenterMetrics s decisions (some mid)).activeCases ↔
      ∀ c ∈ s.cases.rows, c.merchantId = mid → c.closedAt = none → c.status ≠ .recovered := by
  have hrows : (s.cases.count fun c => c.isOpenOf mid && c.status ≠ .recovered) =
      s.cases.count (·.isOpenOf mid) ↔
      ∀ c ∈ s.cases.rows, c.isOpenOf mid = true →
        (c.isOpenOf mid && decide (c.status ≠ .recovered)) = true :=
    s.cases.count_eq_iff fun c h => (Bool.and_eq_true _ _ ▸ h).1
  refine hrows.trans ?_
  constructor
  · intro h c hc hmerchant hopen
    have hboth := h c hc (isOpenOf_iff.mpr ⟨hmerchant, hopen⟩)
    rw [Bool.and_eq_true, decide_eq_true_eq] at hboth
    exact hboth.2
  · intro h c hc hopen
    obtain ⟨hmerchant, hclosed⟩ := isOpenOf_iff.mp hopen
    rw [Bool.and_eq_true, decide_eq_true_eq]
    exact ⟨hopen, h c hc hmerchant hclosed⟩

/-- A case is counted once while its latest decisions do not tie. -/
theorem oneLatestPerCase_iff :
    (∃ chosen, OneLatestPerCase decisions mid chosen ∧
      (latestDecisions decisions mid).Perm chosen ∧
      (commandCenterMetrics s decisions (some mid)).expectedRecovery =
        totalExpectedValue chosen) ↔
      TiesSuperseded DecisionRecord.recoveryCaseId DecisionRecord.createdAt
        (decisionsOf decisions mid) := by
  rw [← Lib.nodup_keys_joinLatest_iff]
  constructor
  · intro h
    obtain ⟨chosen, hchosen, hperm, -⟩ := h
    exact (hperm.map _).nodup_iff.mpr hchosen.once
  · intro h
    refine ⟨latestDecisions decisions mid, ⟨h, ?_, ?_⟩, List.Perm.refl _, rfl⟩
    · intro d hd
      exact Lib.mem_joinLatest.mp hd
    · intro d hd
      exact Lib.exists_mem_joinLatest hd

/-- The dashboard and the analyst report the same money, and no case is counted twice, exactly
when no open case of the merchant is partially recovered or marked as recovered and its latest
decisions do not tie. -/
theorem reportsAgree_iff (groups : UnorderedGroups) (s : Store)
    (decisions : List DecisionRecord) (mid : ℕ) :
    ReportsAgree groups s decisions mid ↔ RowsComparable s decisions mid := by
  constructor
  · intro h
    exact ⟨(revenueAtRisk_eq_iff groups).mp h.revenueAtRisk,
      (openCases_eq_iff groups).mp h.openCases, oneLatestPerCase_iff.mp h.expectedRecovery⟩
  · intro h
    exact ⟨(revenueAtRisk_eq_iff groups).mpr h.unpaid, rfl,
      (openCases_eq_iff groups).mpr h.unmarked, oneLatestPerCase_iff.mpr h.untied⟩

/-! ## A partial recovery and a tie -/

/-- A case of 1000 rupees after a partial capture of 400: it stays open, not recovered. -/
def partlyPaidStore : Store where
  cases := Lib.Table.insert .empty
    { sampleCase 0 100000 .notRecovered with
      amountRecovered := 40000
      recovered_le_at_risk := by decide }

/-- Two decisions on the case, recorded at the same time. -/
def tiedDecisions : List DecisionRecord :=
  [⟨0, 0, some 50000, 10⟩, ⟨0, 0, some 30000, 10⟩]

/-- The groups of an example have no order either. -/
def firstGroups : UnorderedGroups where
  first := List.head?
  first_mem _ _ h := List.mem_of_mem_head? h

/-- The analyst reports 1000 rupees at risk, the dashboard 600; and a case with two decisions at
the latest time is counted with both. -/
theorem reports_disagree :
    (merchantAggregates firstGroups partlyPaidStore 0).revenueAtRisk = 100000 ∧
      (commandCenterMetrics partlyPaidStore tiedDecisions (some 0)).revenueAtRisk = 60000 ∧
      (commandCenterMetrics partlyPaidStore tiedDecisions (some 0)).expectedRecovery = 80000 ∧
      ¬ ReportsAgree firstGroups partlyPaidStore tiedDecisions 0 := by
  have hanalyst : (merchantAggregates firstGroups partlyPaidStore 0).revenueAtRisk = 100000 := by
    decide +kernel
  have hdashboard : (commandCenterMetrics partlyPaidStore tiedDecisions (some 0)).revenueAtRisk =
      60000 := by decide +kernel
  refine ⟨hanalyst, hdashboard, by decide +kernel, ?_⟩
  intro h
  have hsame := h.revenueAtRisk
  rw [hanalyst, hdashboard] at hsame
  exact absurd hsame (by decide)

end ReviveX
