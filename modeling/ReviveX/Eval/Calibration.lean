import Mathlib.Data.List.Range
import Mathlib.Data.List.Sort
import Mathlib.Data.String.Basic
import ReviveX.Agents.Predictions
import ReviveX.Lib.Binary64
import ReviveX.Lib.Bins

/-!
# Calibration

`calibration_curve_points` compares the predictions of a model with what happened, in bins of
equal width whose edges are floats, and `action_breakdown` does so for each action. Both account
for every prediction exactly once.
-/

namespace ReviveX

open Lib (InInterval toBinary64 toBinary64_mono toBinary64_nonneg toBinary64_zero upperEdge)

/-! ## Bins -/

/-- `1.0 / n_bins`. From 2 ^ 1024 bins on, where Python raises its `OverflowError`, the model
goes on. -/
def binWidth (nBins : ℕ) : ℚ := toBinary64 (1 / toBinary64 nBins)

/-- `index * width`. -/
def binEdge (nBins index : ℕ) : ℚ := toBinary64 (toBinary64 index * binWidth nBins)

/-- `chosen`: the pairs of a bin. -/
def chosen (nBins : ℕ) (pairs : List (ℤ × ℚ)) (index : ℕ) : List (ℤ × ℚ) :=
  pairs.filter fun pair => InInterval (binEdge nBins) 1 nBins index pair.2

/-- `round(x, 6)` of a float. -/
def roundFloat (q : ℚ) : ℚ := toBinary64 (roundSix q)

/-- An entry of `bins`. -/
structure CalibrationBin where
  bin : ℕ
  lower : ℚ
  upper : ℚ
  count : ℕ
  meanPredicted : ℚ
  meanActual : ℚ
  absGap : ℚ
deriving DecidableEq

/-- The curve, or what the loop has of it: then `ece` and `max_abs` are not rounded. -/
structure CalibrationCurve where
  bins : List CalibrationBin := []
  ece : ℚ := 0
  maxAbsGap : ℚ := 0
deriving DecidableEq

section Curve

-- `sum` of floats, whose rounding depends on the version of Python
variable (sum : List ℚ → ℚ)

/-- `sum(p for _, p in pairs) / len(pairs)`. -/
def meanPredicted (pairs : List (ℤ × ℚ)) : ℚ :=
  toBinary64 (sum (pairs.map (·.2)) / toBinary64 pairs.length)

/-- `sum(y for y, _ in pairs) / len(pairs)`. -/
def meanActual (pairs : List (ℤ × ℚ)) : ℚ :=
  toBinary64 ((pairs.map (·.1)).sum / pairs.length)

/-- `abs(mean_p - mean_y)`. -/
def calibrationGap (pairs : List (ℤ × ℚ)) : ℚ :=
  |toBinary64 (meanPredicted sum pairs - meanActual pairs)|

/-- The entry of a bin. -/
def calibrationBin (nBins : ℕ) (pairs : List (ℤ × ℚ)) (index : ℕ) : CalibrationBin :=
  let members := chosen nBins pairs index
  { bin := index
    lower := binEdge nBins index
    upper := upperEdge (binEdge nBins) 1 nBins index
    count := members.length
    meanPredicted := roundFloat (meanPredicted sum members)
    meanActual := roundFloat (meanActual members)
    absGap := roundFloat (calibrationGap sum members) }

/-- One round of the loop: a bin without predictions is left out. -/
def calibrationRound (nBins : ℕ) (pairs : List (ℤ × ℚ)) (curve : CalibrationCurve)
    (index : ℕ) : CalibrationCurve :=
  let members := chosen nBins pairs index
  if members = [] then curve
  else
    let gap := calibrationGap sum members
    let share := toBinary64 (members.length / pairs.length)
    { bins := curve.bins ++ [calibrationBin sum nBins pairs index]
      ece := toBinary64 (curve.ece + toBinary64 (gap * share))
      maxAbsGap := max curve.maxAbsGap gap }

/-- The loop over the bins. -/
def calibrationLoop (nBins : ℕ) (pairs : List (ℤ × ℚ)) : CalibrationCurve :=
  (List.range nBins).foldl (calibrationRound sum nBins pairs) {}

/-- `calibration_curve_points`; `none` is the `ValueError` of lists of different lengths, or the
`ZeroDivisionError`. -/
def calibrationCurvePoints (yTrue : List ℤ) (yProb : List ℚ) (nBins : ℕ := 10) :
    Option CalibrationCurve :=
  if nBins = 0 ∨ yTrue.length ≠ yProb.length then none
  else
    let curve := calibrationLoop sum nBins (yTrue.zip yProb)
    some { curve with ece := roundFloat curve.ece, maxAbsGap := roundFloat curve.maxAbsGap }

/-! ## Actions -/

/-- An entry of the report of `action_breakdown`. -/
structure ActionBreakdown where
  action : String
  n : ℕ
  meanPredictedProbability : ℚ
  actualRecoveryRate : ℚ
  gap : ℚ
deriving DecidableEq

/-- The pairs of an action. -/
def pairsOf (rows : List (String × ℤ × ℚ)) (action : String) : List (String × ℤ × ℚ) :=
  rows.filter fun row => row.1 = action

/-- The entry of an action. -/
def breakdownOf (rows : List (String × ℤ × ℚ)) (action : String) : ActionBreakdown :=
  let pairs := (pairsOf rows action).map (·.2)
  let actual := meanActual pairs
  let predicted := meanPredicted sum pairs
  { action
    n := pairs.length
    meanPredictedProbability := roundFloat predicted
    actualRecoveryRate := roundFloat actual
    gap := roundFloat (toBinary64 (predicted - actual)) }

/-- `action_breakdown` of rows with their `action` and `recovered`. -/
def actionBreakdown (rows : List (String × ℤ)) (yProb : List ℚ) :
    Option (List ActionBreakdown) :=
  if rows.length ≠ yProb.length then none
  else
    let pairs := (rows.zip yProb).map fun row => (row.1.1, row.1.2, row.2)
    let actions := (pairs.map (·.1)).dedup.insertionSort (· ≤ ·)
    some (actions.map (breakdownOf sum pairs))

end Curve

/-! ## The edges -/

theorem binWidth_nonneg (nBins : ℕ) : 0 ≤ binWidth nBins :=
  toBinary64_nonneg (div_nonneg zero_le_one (toBinary64_nonneg (Nat.cast_nonneg nBins)))

theorem binEdge_zero (nBins : ℕ) : binEdge nBins 0 = 0 := by
  simp [binEdge]

/-- The edges do not fall, also once they are rounded. -/
theorem binEdge_mono (nBins : ℕ) {i j : ℕ} (h : i ≤ j) : binEdge nBins i ≤ binEdge nBins j := by
  have hindex : toBinary64 (i : ℚ) ≤ toBinary64 j :=
    toBinary64_mono (Nat.cast_nonneg i) (by exact_mod_cast h)
  apply toBinary64_mono
  · exact mul_nonneg (toBinary64_nonneg (Nat.cast_nonneg i)) (binWidth_nonneg nBins)
  · exact mul_le_mul_of_nonneg_right hindex (binWidth_nonneg nBins)

section Accounts

variable {sum : List ℚ → ℚ} {nBins : ℕ} {pairs : List (ℤ × ℚ)}

/-- Every probability falls into exactly one bin. -/
theorem existsUnique_chosen (hn : 0 < nBins) {pair : ℤ × ℚ} (hlow : 0 ≤ pair.2)
    (hhigh : pair.2 ≤ 1) :
    ∃! index, index ∈ List.range nBins ∧
      decide (InInterval (binEdge nBins) 1 nBins index pair.2) = true := by
  have hmono : ∀ i j, i ≤ j → j < nBins → binEdge nBins i ≤ binEdge nBins j :=
    fun i j hij _ => binEdge_mono nBins hij
  simpa [List.mem_range] using
    Lib.existsUnique_inInterval hn hmono ((binEdge_zero nBins).trans_le hlow) hhigh

theorem chosen_perm (hn : 0 < nBins) (hunit : ∀ pair ∈ pairs, 0 ≤ pair.2 ∧ pair.2 ≤ 1) :
    ((List.range nBins).flatMap (chosen nBins pairs)).Perm pairs :=
  Lib.flatMap_filter_perm List.nodup_range fun pair hpair =>
    existsUnique_chosen hn (hunit pair hpair).1 (hunit pair hpair).2

/-- The bins that the loop lists. -/
theorem foldl_calibrationRound_bins (indices : List ℕ) (curve : CalibrationCurve) :
    (indices.foldl (calibrationRound sum nBins pairs) curve).bins = curve.bins ++
      (indices.filter fun index => chosen nBins pairs index ≠ []).map
        (calibrationBin sum nBins pairs) := by
  -- on the bins that remain, for whatever the loop has listed before them
  induction indices generalizing curve with
  | nil => simp
  | cons index rest ih =>
    rw [List.foldl_cons, ih, List.filter_cons]
    unfold calibrationRound
    by_cases hempty : chosen nBins pairs index = []
    · simp [hempty]
    · simp [hempty]

theorem calibrationGap_nonneg (pairs : List (ℤ × ℚ)) : 0 ≤ calibrationGap sum pairs :=
  abs_nonneg _

theorem roundFloat_mono {q q' : ℚ} (hq : 0 ≤ q) (h : q ≤ q') : roundFloat q ≤ roundFloat q' := by
  have hscale : (0 : ℚ) ≤ 10 ^ 6 := by norm_num
  have hlow : (0 : ℤ) ≤ Lib.Decimal.roundHalfEven (q * 10 ^ 6) :=
    Lib.Decimal.le_roundHalfEven (by push_cast; exact mul_nonneg hq hscale)
  have hround := Lib.Decimal.roundHalfEven_mono (mul_le_mul_of_nonneg_right h hscale)
  apply toBinary64_mono
  · exact div_nonneg (by exact_mod_cast hlow) hscale
  · exact div_le_div_of_nonneg_right (by exact_mod_cast hround) hscale

/-- No listed gap is above the largest one. -/
theorem foldl_calibrationRound_gap (indices : List ℕ) {curve : CalibrationCurve}
    (h : 0 ≤ curve.maxAbsGap ∧ ∀ b ∈ curve.bins, b.absGap ≤ roundFloat curve.maxAbsGap) :
    ∀ b ∈ (indices.foldl (calibrationRound sum nBins pairs) curve).bins,
      b.absGap ≤ roundFloat (indices.foldl (calibrationRound sum nBins pairs) curve).maxAbsGap := by
  -- the largest gap only grows, so what was below it stays below it
  induction indices generalizing curve with
  | nil => exact h.2
  | cons index rest ih =>
    rw [List.foldl_cons]
    apply ih
    obtain ⟨hnonneg, hgaps⟩ := h
    unfold calibrationRound
    by_cases hempty : chosen nBins pairs index = []
    · simp only [hempty, if_true]
      exact ⟨hnonneg, hgaps⟩
    · simp only [hempty, if_false]
      refine ⟨hnonneg.trans (le_max_left _ _), fun b hb => ?_⟩
      rcases List.mem_append.mp hb with hb | hb
      · exact (hgaps b hb).trans (roundFloat_mono hnonneg (le_max_left _ _))
      · obtain rfl := List.mem_singleton.mp hb
        exact roundFloat_mono (calibrationGap_nonneg _) (le_max_right _ _)

theorem flatMap_filter_ne_nil {α β : Type*} [DecidableEq β] (f : α → List β) (xs : List α) :
    (xs.filter fun x => f x ≠ []).flatMap f = xs.flatMap f := by
  induction xs with
  | nil => rfl
  | cons x rest ih =>
    rw [List.filter_cons, List.flatMap_cons, ← ih]
    by_cases hempty : f x = []
    · simp [hempty]
    · simp [hempty]

/-- What a listed bin says of the predictions. -/
structure CalibrationBin.Describes (b : CalibrationBin) (nBins : ℕ) (pairs : List (ℤ × ℚ)) :
    Prop where
  bin : b.bin < nBins
  count : b.count = (chosen nBins pairs b.bin).length
  nonempty : 0 < b.count
  between : ∀ pair ∈ chosen nBins pairs b.bin, b.lower ≤ pair.2 ∧ pair.2 ≤ b.upper

theorem calibrationBin_describes {index : ℕ} (hindex : index < nBins)
    (hne : chosen nBins pairs index ≠ []) :
    (calibrationBin sum nBins pairs index).Describes nBins pairs where
  bin := hindex
  count := rfl
  nonempty := List.length_pos_iff.mpr hne
  between := by
    intro pair hpair
    obtain ⟨hlow, hhigh⟩ := of_decide_eq_true (List.mem_filter.mp hpair).2
    refine ⟨?_, hhigh⟩
    show binEdge nBins index ≤ pair.2
    split at hlow
    · exact hlow
    · exact hlow.le

variable (sum nBins pairs) in
theorem calibrationLoop_bins : (calibrationLoop sum nBins pairs).bins =
    ((List.range nBins).filter fun index => chosen nBins pairs index ≠ []).map
      (calibrationBin sum nBins pairs) :=
  (foldl_calibrationRound_bins (List.range nBins) {}).trans (List.nil_append _)

theorem calibrationLoop_describes :
    ∀ b ∈ (calibrationLoop sum nBins pairs).bins, b.Describes nBins pairs := by
  intro b hb
  rw [calibrationLoop_bins] at hb
  obtain ⟨index, hindex, rfl⟩ := List.mem_map.mp hb
  obtain ⟨hrange, hne⟩ := List.mem_filter.mp hindex
  exact calibrationBin_describes (List.mem_range.mp hrange) (of_decide_eq_true hne)

theorem calibrationLoop_gap : ∀ b ∈ (calibrationLoop sum nBins pairs).bins,
    b.absGap ≤ roundFloat (calibrationLoop sum nBins pairs).maxAbsGap :=
  foldl_calibrationRound_gap (List.range nBins) ⟨le_rfl, nofun⟩

theorem calibrationLoop_sorted :
    ((calibrationLoop sum nBins pairs).bins.map (·.bin)).Pairwise (· < ·) := by
  rw [calibrationLoop_bins, List.map_map]
  show (List.map id _).Pairwise (· < ·)
  rw [List.map_id]
  exact List.pairwise_lt_range.filter _

theorem calibrationLoop_perm (hn : 0 < nBins)
    (hunit : ∀ pair ∈ pairs, 0 ≤ pair.2 ∧ pair.2 ≤ 1) :
    ((calibrationLoop sum nBins pairs).bins.flatMap fun b => chosen nBins pairs b.bin).Perm
      pairs := by
  rw [calibrationLoop_bins, List.flatMap_map]
  show (List.flatMap (chosen nBins pairs) _).Perm pairs
  rw [flatMap_filter_ne_nil]
  exact chosen_perm hn hunit

theorem calibrationLoop_count (hn : 0 < nBins)
    (hunit : ∀ pair ∈ pairs, 0 ≤ pair.2 ∧ pair.2 ≤ 1) :
    ((calibrationLoop sum nBins pairs).bins.map (·.count)).sum = pairs.length := by
  have hlengths : (calibrationLoop sum nBins pairs).bins.map (·.count) =
      (calibrationLoop sum nBins pairs).bins.map fun b => (chosen nBins pairs b.bin).length :=
    List.map_congr_left fun b hb => (calibrationLoop_describes b hb).count
  rw [hlengths, ← List.length_flatMap, (calibrationLoop_perm hn hunit).length_eq]

/-- The curve accounts for every prediction once: the listed bins are in order and not empty, they
share out the predictions, and no gap is above the largest. -/
theorem calibration_accounts (sum : List ℚ → ℚ) (yTrue : List ℤ) (yProb : List ℚ) (nBins : ℕ)
    (hn : 0 < nBins) (hlength : yTrue.length = yProb.length)
    (hunit : ∀ p ∈ yProb, 0 ≤ p ∧ p ≤ 1) :
    ∃ curve, calibrationCurvePoints sum yTrue yProb nBins = some curve ∧
      (curve.bins.map (·.bin)).Pairwise (· < ·) ∧
      (∀ b ∈ curve.bins, b.Describes nBins (yTrue.zip yProb) ∧ b.absGap ≤ curve.maxAbsGap) ∧
      (curve.bins.flatMap fun b => chosen nBins (yTrue.zip yProb) b.bin).Perm (yTrue.zip yProb) ∧
      (curve.bins.map (·.count)).sum = yTrue.length := by
  have hpairs : ∀ pair ∈ yTrue.zip yProb, 0 ≤ pair.2 ∧ pair.2 ≤ 1 :=
    fun pair hpair => hunit pair.2 (List.of_mem_zip hpair).2
  have hcount : (yTrue.zip yProb).length = yTrue.length := by
    rw [List.length_zip]
    omega
  unfold calibrationCurvePoints
  rw [if_neg (by omega)]
  refine ⟨_, rfl, calibrationLoop_sorted, ?_, calibrationLoop_perm hn hpairs, ?_⟩
  · intro b hb
    exact ⟨calibrationLoop_describes b hb, calibrationLoop_gap b hb⟩
  · exact (calibrationLoop_count hn hpairs).trans hcount

/-- Two predictions on the edges, the upper one in the bin that it closes. -/
theorem calibration_accounts_edges :
    ∃ curve, calibrationCurvePoints List.sum [0, 1] [0, 1 / 2] 2 = some curve ∧
      (curve.bins.map (·.count)).sum = 2 := by
  obtain ⟨curve, hcurve, -, -, -, hcount⟩ :=
    calibration_accounts List.sum [0, 1] [0, 1 / 2] 2 (by decide) rfl (by
      intro p hp
      simp only [List.mem_cons, List.not_mem_nil, or_false] at hp
      rcases hp with rfl | rfl <;> norm_num)
  exact ⟨curve, hcurve, hcount⟩

end Accounts

/-! ## The report of the actions -/

/-- The names of a report: each once, in order. -/
theorem insertionSort_dedup_pairwise (actions : List String) :
    (actions.dedup.insertionSort (· ≤ ·)).Pairwise (· < ·) := by
  have hsorted := List.pairwise_insertionSort (· ≤ ·) actions.dedup
  have hnodup : List.Pairwise (· ≠ ·) _ :=
    (List.perm_insertionSort (· ≤ ·) actions.dedup).nodup_iff.mpr (List.nodup_dedup actions)
  exact (hsorted.and hnodup).imp fun h => lt_of_le_of_ne h.1 h.2

/-- The actions share out the rows. -/
theorem pairsOf_perm (rows : List (String × ℤ × ℚ)) :
    (((rows.map (·.1)).dedup.insertionSort (· ≤ ·)).flatMap (pairsOf rows)).Perm rows := by
  apply Lib.flatMap_filter_perm
  · exact (List.perm_insertionSort _ _).nodup_iff.mpr (List.nodup_dedup _)
  · -- a row belongs to its own action and to no other
    intro row hrow
    have hmem : row.1 ∈ (rows.map (·.1)).dedup.insertionSort (· ≤ ·) :=
      (List.mem_insertionSort _).mpr (List.mem_dedup.mpr (List.mem_map_of_mem hrow))
    refine ⟨row.1, ⟨hmem, decide_eq_true rfl⟩, ?_⟩
    rintro action ⟨-, haction⟩
    exact (of_decide_eq_true haction).symm

/-- The report accounts for every row once, and lists each action once, in order. -/
theorem actionBreakdown_accounts (sum : List ℚ → ℚ) (rows : List (String × ℤ)) (yProb : List ℚ)
    (hlength : rows.length = yProb.length) :
    ∃ report, actionBreakdown sum rows yProb = some report ∧
      (report.map (·.action)).Pairwise (· < ·) ∧ (report.map (·.n)).sum = rows.length := by
  have hcount : ((rows.zip yProb).map fun row => (row.1.1, row.1.2, row.2)).length =
      rows.length := by
    rw [List.length_map, List.length_zip]
    omega
  unfold actionBreakdown
  rw [if_neg (by omega)]
  refine ⟨_, rfl, ?_, ?_⟩
  · rw [List.map_map]
    show (List.map id _).Pairwise (· < ·)
    rw [List.map_id]
    exact insertionSort_dedup_pairwise _
  · rw [← hcount, ← (pairsOf_perm _).length_eq, List.length_flatMap, List.map_map]
    congr 1
    apply List.map_congr_left
    intro action _
    exact List.length_map _

end ReviveX
