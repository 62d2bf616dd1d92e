import ReviveX.Providers.Interventions
import ReviveX.Providers.LocalSimulation

/-!
# The chance of a capture

`capture_probability` in the decimal context: for integers in range it does not signal, it stays
between 0 and 0.80, and it neither falls with the attempts nor rises with the prior failures.
For integers of a usual size it is the exact number that the simulator of payments draws with.
-/

namespace ReviveX

open Lib (Decimal)
open Lib.Decimal (add? minus? mul? min? ofExact Exact Within exact_digits exact_units exact_zero
  within_ofExact within_some ofExact_finite ofExact_mono)

/-! ## The range of decimals -/

/-- The greatest power of ten that the decimal context represents. -/
@[irreducible] def decimalLimit : ℤ := 10 ^ 999999

theorem decimalLimit_cast : (decimalLimit : ℚ) = ((10 ^ 27 : ℤ) : ℚ) * 10 ^ (999972 : ℤ) := by
  have hten : (10 : ℚ) ≠ 0 := by norm_num
  unfold decimalLimit
  rw [Int.cast_pow, Int.cast_pow, Int.cast_ofNat, ← zpow_natCast, ← zpow_natCast,
    ← zpow_add₀ hten]
  rfl

theorem decimalLimit_ge : (100 : ℚ) ≤ decimalLimit := by
  have hpower : (1 : ℚ) ≤ 10 ^ (999972 : ℤ) := one_le_zpow₀ (by norm_num) (by norm_num)
  rw [decimalLimit_cast]
  generalize (10 : ℚ) ^ (999972 : ℤ) = unit at hpower ⊢
  push_cast
  linarith

/-- Simple multiples of the limit are exact. -/
theorem exact_limit {q : ℚ} (k : ℤ) (hq : q = k / 10 * decimalLimit) (hk : |k| < 100) :
    Exact q := by
  refine exact_units (k * 10 ^ 26) 999972 ?_ ?_ le_rfl
  · rw [hq, decimalLimit_cast]
    generalize (10 : ℚ) ^ (999972 : ℤ) = unit
    push_cast
    ring
  · rw [abs_mul, abs_of_pos (by norm_num : (0 : ℤ) < 10 ^ 26)]
    omega

/-! ## Chances of attempts -/

/-- The steps of a growing chance. -/
theorem growingChance_eq_some {base step cap q : ℚ} {attempts : ℤ}
    (h : growingChance base step cap attempts = some (.finite q)) :
    ∃ grown raw, ofExact (step * attempts) = some (.finite grown) ∧
      ofExact (base + grown) = some (.finite raw) ∧ q = min raw cap := by
  obtain ⟨grown, hgrown, h⟩ := Option.bind_eq_some_iff.mp h
  obtain ⟨grown, rfl⟩ := ofExact_finite hgrown
  obtain ⟨raw, hraw, h⟩ := Option.bind_eq_some_iff.mp h
  obtain ⟨raw, rfl⟩ := ofExact_finite hraw
  rw [Decimal.min?_finite] at h
  exact ⟨grown, raw, hgrown, hraw, (Decimal.finite.inj (Option.some.inj h)).symm⟩

/-- The steps of a wearing chance. -/
theorem wearingChance_eq_some {base step wear floor cap : ℚ} {attempts priorFail : ℤ}
    {d : Decimal} (h : wearingChance base step wear floor cap attempts priorFail = some d) :
    ∃ grown raw worn left, ofExact (step * attempts) = some (.finite grown) ∧
      ofExact (base + grown) = some (.finite raw) ∧
      ofExact (wear * priorFail) = some (.finite worn) ∧
      ofExact (raw - worn) = some (.finite left) ∧ d = .finite (min (max left floor) cap) := by
  obtain ⟨grown, hgrown, h⟩ := Option.bind_eq_some_iff.mp h
  obtain ⟨grown, rfl⟩ := ofExact_finite hgrown
  obtain ⟨raw, hraw, h⟩ := Option.bind_eq_some_iff.mp h
  obtain ⟨raw, rfl⟩ := ofExact_finite hraw
  obtain ⟨worn, hworn, h⟩ := Option.bind_eq_some_iff.mp h
  obtain ⟨worn, rfl⟩ := ofExact_finite hworn
  obtain ⟨left, hleft, h⟩ := Option.bind_eq_some_iff.mp h
  rw [Decimal.minus?_finite] at hleft
  obtain ⟨left, rfl⟩ := ofExact_finite hleft
  simp only [Decimal.max?_finite, Option.bind_eq_bind, Option.bind_some, Decimal.min?_finite] at h
  exact ⟨grown, raw, worn, left, hgrown, hraw, hworn, hleft, (Option.some.inj h).symm⟩

/-- A growing chance does not fall with the attempts. -/
theorem growingChance_mono {base step cap q q' : ℚ} {attempts attempts' : ℤ} (hstep : 0 ≤ step)
    (hle : attempts ≤ attempts')
    (h : growingChance base step cap attempts = some (.finite q))
    (h' : growingChance base step cap attempts' = some (.finite q')) : q ≤ q' := by
  obtain ⟨grown, raw, hgrown, hraw, rfl⟩ := growingChance_eq_some h
  obtain ⟨grown', raw', hgrown', hraw', rfl⟩ := growingChance_eq_some h'
  have hcast : (attempts : ℚ) ≤ attempts' := by exact_mod_cast hle
  have hgrown_le : grown ≤ grown' :=
    ofExact_mono (mul_le_mul_of_nonneg_left hcast hstep) hgrown hgrown'
  have hraw_le : raw ≤ raw' := ofExact_mono (by linarith) hraw hraw'
  exact min_le_min_right cap hraw_le

/-- A wearing chance neither falls with the attempts nor rises with the prior failures. -/
theorem wearingChance_mono {base step wear floor cap q q' : ℚ}
    {attempts attempts' priorFail priorFail' : ℤ} (hstep : 0 ≤ step) (hwear : 0 ≤ wear)
    (hle : attempts ≤ attempts') (hge : priorFail' ≤ priorFail)
    (h : wearingChance base step wear floor cap attempts priorFail = some (.finite q))
    (h' : wearingChance base step wear floor cap attempts' priorFail' = some (.finite q')) :
    q ≤ q' := by
  obtain ⟨grown, raw, worn, left, hgrown, hraw, hworn, hleft, hq⟩ := wearingChance_eq_some h
  obtain ⟨grown', raw', worn', left', hgrown', hraw', hworn', hleft', hq'⟩ :=
    wearingChance_eq_some h'
  have hcast : (attempts : ℚ) ≤ attempts' := by exact_mod_cast hle
  have hcast' : (priorFail' : ℚ) ≤ priorFail := by exact_mod_cast hge
  have hgrown_le : grown ≤ grown' :=
    ofExact_mono (mul_le_mul_of_nonneg_left hcast hstep) hgrown hgrown'
  have hraw_le : raw ≤ raw' := ofExact_mono (by linarith) hraw hraw'
  have hworn_le : worn' ≤ worn :=
    ofExact_mono (mul_le_mul_of_nonneg_left hcast' hwear) hworn' hworn
  have hleft_le : left ≤ left' := ofExact_mono (by linarith) hleft hleft'
  rw [Decimal.finite.inj hq, Decimal.finite.inj hq']
  exact min_le_min_right cap (max_le_max_right floor hleft_le)

/-- A growing chance of attempts in range is between its base and its cap. -/
theorem growingChance_within {base step cap : ℚ} {attempts : ℤ} (hexact : Exact base)
    (hcap : base ≤ cap) (hcap' : cap ≤ 1) (hstep : 0 ≤ step) (hstep' : step ≤ 1)
    (hattempts : 0 ≤ attempts) (hlimit : attempts ≤ decimalLimit) :
    Within base cap (growingChance base step cap attempts) := by
  have hnonneg : (0 : ℚ) ≤ attempts := by exact_mod_cast hattempts
  have hle : (attempts : ℚ) ≤ decimalLimit := by exact_mod_cast hlimit
  have hlarge := decimalLimit_ge
  have hgrown : Within 0 decimalLimit (mul? step (.finite attempts)) := by
    refine within_ofExact exact_zero (exact_limit 10 (by ring) (by norm_num)) ?_ ?_
    · positivity
    · nlinarith
  refine hgrown.bind fun grown hlow hhigh => ?_
  have hraw : Within base (2 * decimalLimit) (add? (.finite base) (.finite grown)) :=
    within_ofExact hexact (exact_limit 20 (by ring) (by norm_num)) (by linarith) (by linarith)
  refine hraw.bind fun raw hlow' hhigh' => ?_
  rw [Decimal.min?_finite]
  exact within_some (le_min hlow' hcap) (min_le_right _ _)

/-- A wearing chance is between its floor and its cap. -/
theorem wearingChance_range {base step wear floor cap : ℚ} {attempts priorFail : ℤ} {d : Decimal}
    (hcap : floor ≤ cap)
    (h : wearingChance base step wear floor cap attempts priorFail = some d) :
    ∃ q, d = .finite q ∧ floor ≤ q ∧ q ≤ cap := by
  obtain ⟨grown, raw, worn, left, -, -, -, -, rfl⟩ := wearingChance_eq_some h
  exact ⟨_, rfl, le_min (le_max_right _ _) hcap, min_le_right _ _⟩

/-- A wearing chance of attempts and failures in range does not signal. -/
theorem wearingChance_within {base step wear floor cap : ℚ} {attempts priorFail : ℤ}
    (hbase : 0 ≤ base) (hbase' : base ≤ 1) (hcap : floor ≤ cap) (hstep : 0 ≤ step)
    (hstep' : step ≤ 1) (hwear : 0 ≤ wear) (hwear' : wear ≤ 1) (hattempts : 0 ≤ attempts)
    (hlimit : attempts ≤ decimalLimit) (hprior : 0 ≤ priorFail)
    (hlimit' : priorFail ≤ decimalLimit) :
    Within floor cap (wearingChance base step wear floor cap attempts priorFail) := by
  have hnonneg : (0 : ℚ) ≤ attempts := by exact_mod_cast hattempts
  have hle : (attempts : ℚ) ≤ decimalLimit := by exact_mod_cast hlimit
  have hnonneg' : (0 : ℚ) ≤ priorFail := by exact_mod_cast hprior
  have hle' : (priorFail : ℚ) ≤ decimalLimit := by exact_mod_cast hlimit'
  have hlarge := decimalLimit_ge
  have hexact : Exact (decimalLimit : ℚ) := exact_limit 10 (by ring) (by norm_num)
  have hexact' : Exact (2 * decimalLimit : ℚ) := exact_limit 20 (by ring) (by norm_num)
  have hgrown : Within 0 decimalLimit (mul? step (.finite attempts)) := by
    refine within_ofExact exact_zero hexact ?_ ?_
    · positivity
    · nlinarith
  refine hgrown.bind fun grown hlow hhigh => ?_
  have hraw : Within 0 (2 * decimalLimit) (add? (.finite base) (.finite grown)) :=
    within_ofExact exact_zero hexact' (by linarith) (by linarith)
  refine hraw.bind fun raw hlow' hhigh' => ?_
  have hworn : Within 0 decimalLimit (mul? wear (.finite priorFail)) := by
    refine within_ofExact exact_zero hexact ?_ ?_
    · positivity
    · nlinarith
  refine hworn.bind fun worn hlow'' hhigh'' => ?_
  have hleft : Within (-decimalLimit) (2 * decimalLimit)
      (minus? (.finite raw) (.finite worn)) := by
    rw [Decimal.minus?_finite]
    exact within_ofExact (exact_limit (-10) (by push_cast; ring) (by norm_num)) hexact'
      (by linarith) (by linarith)
  refine hleft.bind fun left _ _ => ?_
  simp only [Decimal.max?_finite, Option.bind_eq_bind, Option.bind_some, Decimal.min?_finite]
  exact within_some (le_min (le_max_right _ _) hcap) (min_le_right _ _)

/-- `capture_probability` of integers in range is between 0 and 0.80. -/
theorem captureProbability?_within (reason : Option FailureReason)
    {attemptNumber priorFailures : ℤ} (hattempt : attemptNumber ≤ decimalLimit)
    (hprior : priorFailures ≤ decimalLimit) :
    Within 0 (80 / 100) (captureProbability? reason attemptNumber priorFailures) := by
  have hone : (1 : ℤ) ≤ decimalLimit := by
    have hlarge := decimalLimit_ge
    have hlarge' : (100 : ℤ) ≤ decimalLimit := by exact_mod_cast hlarge
    omega
  have hgrowing : ∀ {base step cap : ℚ} {attempts : ℤ}, Exact base → 0 ≤ base → base ≤ cap →
      cap ≤ 80 / 100 → 0 ≤ step → step ≤ 1 → 0 ≤ attempts → attempts ≤ decimalLimit →
      Within 0 (80 / 100) (growingChance base step cap attempts) := by
    intro base step cap attempts hexact hbase hcap hcap' hstep hstep' h h'
    exact (growingChance_within hexact hcap (by linarith) hstep hstep' h h').mono hbase hcap'
  have hwearing : ∀ {base step wear floor cap : ℚ}, 0 ≤ base → base ≤ 1 → 0 ≤ floor →
      floor ≤ cap → cap ≤ 80 / 100 → 0 ≤ step → step ≤ 1 → 0 ≤ wear → wear ≤ 1 →
      Within 0 (80 / 100) (wearingChance base step wear floor cap (max attemptNumber 1 - 1)
        (max priorFailures 0)) := by
    intro base step wear floor cap hbase hbase' hfloor hcap hcap' hstep hstep' hwear hwear'
    exact (wearingChance_within hbase hbase' hcap hstep hstep' hwear hwear' (by omega) (by omega)
      (by omega) (by omega)).mono hfloor hcap'
  have hunknown : Within 0 (80 / 100)
      (growingChance (15 / 100) (5 / 100) (50 / 100) (max attemptNumber 1)) :=
    hgrowing (exact_digits 15 2 (by norm_num) (by norm_num)) (by norm_num) (by norm_num)
      (by norm_num) (by norm_num) (by norm_num) (by omega) (by omega)
  cases reason with
  | none => exact hunknown
  | some reason =>
    cases reason with
    | customerCancelled => exact within_some le_rfl (by norm_num)
    | mandateFailure => exact within_some le_rfl (by norm_num)
    | expiredCard => exact within_some (by norm_num) (by norm_num)
    | temporaryBankError => apply hwearing <;> norm_num
    | insufficientFunds => apply hwearing <;> norm_num
    | networkTimeout =>
      exact hgrowing (exact_digits 20 2 (by norm_num) (by norm_num)) (by norm_num) (by norm_num)
        (by norm_num) (by norm_num) (by norm_num) (by omega) (by omega)
    | declined =>
      exact hgrowing (exact_digits 12 2 (by norm_num) (by norm_num)) (by norm_num) (by norm_num)
        (by norm_num) (by norm_num) (by norm_num) (by omega) (by omega)
    | unknown => exact hunknown

/-- `capture_probability` neither falls with the attempts nor rises with the prior failures. -/
theorem captureProbability?_mono (reason : Option FailureReason)
    {attemptNumber attemptNumber' priorFailures priorFailures' : ℤ} {q q' : ℚ}
    (hattempt : attemptNumber ≤ attemptNumber') (hprior : priorFailures' ≤ priorFailures)
    (h : captureProbability? reason attemptNumber priorFailures = some (.finite q))
    (h' : captureProbability? reason attemptNumber' priorFailures' = some (.finite q')) :
    q ≤ q' := by
  have hconstant : ∀ {x : Option Decimal}, x = some (.finite q) → x = some (.finite q') →
      q ≤ q' := by
    intro x hx hx'
    exact (Decimal.finite.inj (Option.some.inj (hx.symm.trans hx'))).le
  cases reason with
  | none => exact growingChance_mono (by norm_num) (by omega) h h'
  | some reason =>
    cases reason with
    | customerCancelled => exact hconstant h h'
    | mandateFailure => exact hconstant h h'
    | expiredCard => exact hconstant h h'
    | temporaryBankError =>
      exact wearingChance_mono (by norm_num) (by norm_num) (by omega) (by omega) h h'
    | insufficientFunds =>
      exact wearingChance_mono (by norm_num) (by norm_num) (by omega) (by omega) h h'
    | networkTimeout => exact growingChance_mono (by norm_num) (by omega) h h'
    | declined => exact growingChance_mono (by norm_num) (by omega) h h'
    | unknown => exact growingChance_mono (by norm_num) (by omega) h h'

/-! ## Exact chances -/

/-- A growing chance of a usual number of attempts is exact. -/
theorem growingChance_eq {base step cap : ℚ} {attempts : ℤ} (b s : ℕ) (hb : base = b / 10 ^ 2)
    (hs : step = s / 10 ^ 2) (hb' : b < 100) (hs' : s < 100) (hattempts : |attempts| < 10 ^ 20) :
    growingChance base step cap attempts = some (.finite (min (base + step * attempts) cap)) := by
  obtain ⟨hlow, hhigh⟩ := abs_lt.mp hattempts
  have hgrown : ofExact (step * attempts) = some (.finite (step * attempts)) := by
    refine exact_digits (s * attempts) 2 ?_ (abs_lt.mpr ⟨by nlinarith, by nlinarith⟩)
    rw [hs]
    push_cast
    ring
  have hraw : ofExact (base + step * attempts) = some (.finite (base + step * attempts)) := by
    refine exact_digits (b + s * attempts) 2 ?_ (abs_lt.mpr ⟨by nlinarith, by nlinarith⟩)
    rw [hb, hs]
    push_cast
    ring
  unfold growingChance
  simp only [Decimal.mul?_finite, hgrown, Decimal.add?_finite, hraw, Decimal.min?_finite,
    Option.bind_eq_bind, Option.bind_some]

/-- A wearing chance of usual numbers is exact. -/
theorem wearingChance_eq {base step wear floor cap : ℚ} {attempts priorFail : ℤ} (b s w : ℕ)
    (hb : base = b / 10 ^ 2) (hs : step = s / 10 ^ 2) (hw : wear = w / 10 ^ 2) (hb' : b < 100)
    (hs' : s < 100) (hw' : w < 100) (hattempts : |attempts| < 10 ^ 20)
    (hprior : |priorFail| < 10 ^ 20) :
    wearingChance base step wear floor cap attempts priorFail =
      some (.finite (min (max (base + step * attempts - wear * priorFail) floor) cap)) := by
  obtain ⟨hlow, hhigh⟩ := abs_lt.mp hattempts
  obtain ⟨hlow', hhigh'⟩ := abs_lt.mp hprior
  have hgrown : ofExact (step * attempts) = some (.finite (step * attempts)) := by
    refine exact_digits (s * attempts) 2 ?_ (abs_lt.mpr ⟨by nlinarith, by nlinarith⟩)
    rw [hs]
    push_cast
    ring
  have hraw : ofExact (base + step * attempts) = some (.finite (base + step * attempts)) := by
    refine exact_digits (b + s * attempts) 2 ?_ (abs_lt.mpr ⟨by nlinarith, by nlinarith⟩)
    rw [hb, hs]
    push_cast
    ring
  have hworn : ofExact (wear * priorFail) = some (.finite (wear * priorFail)) := by
    refine exact_digits (w * priorFail) 2 ?_ (abs_lt.mpr ⟨by nlinarith, by nlinarith⟩)
    rw [hw]
    push_cast
    ring
  have hleft : ofExact (base + step * attempts - wear * priorFail) =
      some (.finite (base + step * attempts - wear * priorFail)) := by
    refine exact_digits (b + s * attempts - w * priorFail) 2 ?_
      (abs_lt.mpr ⟨by nlinarith, by nlinarith⟩)
    rw [hb, hs, hw]
    push_cast
    ring
  unfold wearingChance
  simp only [Decimal.mul?_finite, hgrown, Decimal.add?_finite, hraw, hworn,
    Decimal.minus?_finite, hleft, Decimal.max?_finite, Decimal.min?_finite,
    Option.bind_eq_bind, Option.bind_some]

/-- For usual numbers, the chance in the decimal context is the exact one. -/
theorem captureProbability?_eq (reason : FailureReason) {attemptNumber priorFailures : ℤ}
    (hattempt : |attemptNumber| < 10 ^ 19) (hprior : |priorFailures| < 10 ^ 19) :
    captureProbability? (some reason) attemptNumber priorFailures =
      some (.finite (captureProbability reason.text attemptNumber priorFailures)) := by
  obtain ⟨hlow, hhigh⟩ := abs_lt.mp hattempt
  obtain ⟨hlow', hhigh'⟩ := abs_lt.mp hprior
  have hattempts : |max attemptNumber 1 - 1| < 10 ^ 20 := abs_lt.mpr ⟨by omega, by omega⟩
  have hattempts' : |max attemptNumber 1| < 10 ^ 20 := abs_lt.mpr ⟨by omega, by omega⟩
  have hfailures : |max priorFailures 0| < 10 ^ 20 := abs_lt.mpr ⟨by omega, by omega⟩
  unfold captureProbability? captureProbability
  cases reason with
  | customerCancelled => simp [FailureReason.text]
  | mandateFailure => simp [FailureReason.text]
  | expiredCard => simp [FailureReason.text]
  | temporaryBankError =>
    dsimp only
    rw [wearingChance_eq 25 15 3 (by norm_num) (by norm_num) (by norm_num) (by norm_num)
      (by norm_num) (by norm_num) hattempts hfailures]
    simp [FailureReason.text]
  | insufficientFunds =>
    dsimp only
    rw [wearingChance_eq 8 4 2 (by norm_num) (by norm_num) (by norm_num) (by norm_num)
      (by norm_num) (by norm_num) hattempts hfailures]
    simp [FailureReason.text]
  | networkTimeout =>
    dsimp only
    rw [growingChance_eq 20 15 (by norm_num) (by norm_num) (by norm_num) (by norm_num) hattempts]
    simp [FailureReason.text]
  | declined =>
    dsimp only
    rw [growingChance_eq 12 5 (by norm_num) (by norm_num) (by norm_num) (by norm_num) hattempts]
    simp [FailureReason.text]
  | unknown =>
    dsimp only
    rw [growingChance_eq 15 5 (by norm_num) (by norm_num) (by norm_num) (by norm_num) hattempts']
    simp [FailureReason.text]

end ReviveX
