import ReviveX.Providers.ScoreTheorems

/-!
# Simulated chances of recovery: range and order

Whatever the penalties add up to, `_clip_prob` leaves a number between 0 and 0.95, and a context
whose numbers stay within the range of decimals gets one for every action. The chance of a
capture does not fall with the attempts and does not rise with the prior failures. A payment
link, though, loses its lead over doing nothing when the penalty on attempts has used it up.
-/

namespace ReviveX

open Lib (Decimal)
open Lib.Decimal (add? minus? mul? times? div? over? min? max? gt? ofExact roundHalfEven Exact
  Within exact_digits exact_units exact_zero exact_one within_ofExact within_minus within_some
  ofExact_finite ofExact_mono)

/-! ## Clipping -/

/-- A probability in steps of a ten-thousandth. -/
def clipped (q : ℚ) : ℚ := (min 9500 (max 0 (roundHalfEven (q * 10 ^ 4))) : ℤ) / 10 ^ 4

theorem clipProb_finite (q : ℚ) : clipProb (.finite q) = some (.finite (clipped q)) := by
  unfold clipProb clipped
  simp only [Decimal.gt?_finite, Option.bind_eq_bind, Option.bind_some, decide_eq_true_eq]
  by_cases hneg : q < 0
  · have hround : roundHalfEven (q * 10 ^ 4) ≤ 0 :=
      Decimal.roundHalfEven_le (by push_cast; linarith)
    rw [if_pos hneg, max_eq_left hround]
    norm_num
  · rw [if_neg hneg]
    have hround : 0 ≤ roundHalfEven (q * 10 ^ 4) :=
      Decimal.le_roundHalfEven (by push_cast; linarith)
    by_cases hlarge : 95 / 100 < q
    · have hround' : 9500 ≤ roundHalfEven (q * 10 ^ 4) :=
        Decimal.le_roundHalfEven (by push_cast; linarith)
      rw [if_pos hlarge, max_eq_right hround, min_eq_left hround']
      norm_num
    · have hround' : roundHalfEven (q * 10 ^ 4) ≤ 9500 :=
        Decimal.roundHalfEven_le (by push_cast; linarith)
      rw [if_neg hlarge, max_eq_right hround, min_eq_right hround']
      rfl

theorem clipped_mem (q : ℚ) : 0 ≤ clipped q ∧ clipped q ≤ 95 / 100 := by
  have hscaled : ∀ n : ℤ, 0 ≤ n → n ≤ 9500 →
      0 ≤ (n : ℚ) / 10 ^ 4 ∧ (n : ℚ) / 10 ^ 4 ≤ 95 / 100 := by
    intro n hlow hhigh
    have hlow' : (0 : ℚ) ≤ n := by exact_mod_cast hlow
    have hhigh' : (n : ℚ) ≤ 9500 := by exact_mod_cast hhigh
    constructor
    · positivity
    · linarith
  exact hscaled _ (by omega) (by omega)

/-- Two clipped scores compare as the scores do at four decimals, as long as the lower one is
not above the cap. -/
theorem clipped_le_clipped_iff {q q' : ℚ} (hq : q ≤ 95 / 100) :
    clipped q ≤ clipped q' ↔ roundHalfEven (q * 10 ^ 4) ≤ 0 ∨
      roundHalfEven (q * 10 ^ 4) ≤ roundHalfEven (q' * 10 ^ 4) := by
  have hround : roundHalfEven (q * 10 ^ 4) ≤ 9500 :=
    Decimal.roundHalfEven_le (by push_cast; linarith)
  unfold clipped
  rw [div_le_div_iff_of_pos_right (by norm_num), Int.cast_le]
  omega

/-- What `_clip_prob` returns is a probability. -/
theorem clipProb_mem {value d : Decimal} (h : clipProb value = some d) :
    ∃ q, d = .finite q ∧ 0 ≤ q ∧ q ≤ 95 / 100 := by
  cases value with
  | nan => cases h
  | finite q =>
    rw [clipProb_finite] at h
    exact ⟨_, (Option.some.inj h).symm, clipped_mem q⟩
  | infinity negative =>
    cases negative with
    | true => exact ⟨0, (Option.some.inj h).symm, le_rfl, by norm_num⟩
    | false => exact ⟨95 / 100, (Option.some.inj h).symm, by norm_num, le_rfl⟩

/-! ## The range of the chances -/

/-- Every chance that is returned is between 0 and 0.95. -/
theorem interventionRecoveryProbability_range {context : InterventionContext}
    {action : RecoveryActionType} {d : Decimal}
    (h : interventionRecoveryProbability context action = some d) :
    ∃ q, d = .finite q ∧ 0 ≤ q ∧ q ≤ 95 / 100 := by
  obtain ⟨f, hf, h⟩ := Option.bind_eq_some_iff.mp h
  split at h
  · have hcent : ∀ {d : Decimal}, some (.finite (1 / 100)) = some d →
        ∃ q, d = .finite q ∧ 0 ≤ q ∧ q ≤ 95 / 100 := by
      rintro d hd
      exact ⟨1 / 100, (Option.some.inj hd).symm, by norm_num, by norm_num⟩
    cases action with
    | escalate =>
      obtain ⟨p, -, hp⟩ := Option.bind_eq_some_iff.mp h
      exact clipProb_mem hp
    | sendPaymentLink =>
      dsimp only [hardFailureProbability] at h
      split at h
      · obtain ⟨p, -, hp⟩ := Option.bind_eq_some_iff.mp h
        exact clipProb_mem hp
      · exact hcent h
    | retryNow => exact hcent h
    | retryLater => exact hcent h
    | sendReminder => exact hcent h
    | offerDiscount => exact hcent h
    | doNothing => exact hcent h
  · obtain ⟨p, -, hp⟩ := Option.bind_eq_some_iff.mp h
    exact clipProb_mem hp

theorem hardFailureProbability_isSome {f : InterventionFactors} (h : f.Bounded)
    (reason : Option FailureReason) (action : RecoveryActionType) :
    ∃ d, hardFailureProbability f reason action = some d := by
  have hscore : ∀ base share : ℚ, Exact base → base ≤ 1 → 0 ≤ share → share ≤ 1 →
      ∃ d, (f.hardFailureScore base share >>= fun p => clipProb p) = some d := by
    intro base share hexact hbase hshare hshare'
    obtain ⟨q, hq, -⟩ :=
      InterventionFactors.hardFailureScore_within h.success hexact hbase hshare hshare'
    exact ⟨_, Option.bind_eq_some_iff.mpr ⟨_, hq, clipProb_finite q⟩⟩
  cases action with
  | escalate =>
    exact hscore _ _ (exact_digits 4 2 (by norm_num) (by norm_num)) (by norm_num) (by norm_num)
      (by norm_num)
  | sendPaymentLink =>
    unfold hardFailureProbability
    by_cases hmandate : reason = some .mandateFailure
    · dsimp only
      rw [if_pos hmandate]
      exact hscore _ _ (exact_digits 3 2 (by norm_num) (by norm_num)) (by norm_num) (by norm_num)
        (by norm_num)
    · dsimp only
      rw [if_neg hmandate]
      exact ⟨_, rfl⟩
  | retryNow => exact ⟨_, rfl⟩
  | retryLater => exact ⟨_, rfl⟩
  | sendReminder => exact ⟨_, rfl⟩
  | offerDiscount => exact ⟨_, rfl⟩
  | doNothing => exact ⟨_, rfl⟩

/-- Every action on a context in range has a chance. -/
theorem interventionRecoveryProbability_isSome {context : InterventionContext}
    (h : context.InRange) (action : RecoveryActionType) :
    ∃ d, interventionRecoveryProbability context action = some d := by
  obtain ⟨f, hf, hbounded⟩ := h.factors
  suffices hrest : ∃ d, (if neverCapture context.failureReason then
      hardFailureProbability f context.failureReason action
      else context.score f action >>= fun p => clipProb p) = some d by
    obtain ⟨d, hd⟩ := hrest
    exact ⟨d, Option.bind_eq_some_iff.mpr ⟨f, hf, hd⟩⟩
  cases neverCapture context.failureReason with
  | true => exact hardFailureProbability_isSome hbounded _ _
  | false =>
    obtain ⟨q, hq, -⟩ := context.score_within hbounded action
    exact ⟨_, Option.bind_eq_some_iff.mpr ⟨_, hq, clipProb_finite q⟩⟩

/-- The chances of the simulator are probabilities: a context in range has one between 0 and 0.95
for every action, nothing else is ever returned for any context, and the chance of a capture is
between 0 and 0.80, does not fall with the attempts and does not rise with the prior failures. -/
theorem simulated_chances_are_probabilities :
    (∀ (context : InterventionContext) (action : RecoveryActionType), context.InRange →
      ∃ q, interventionRecoveryProbability context action = some (.finite q) ∧ 0 ≤ q ∧
        q ≤ 95 / 100) ∧
    (∀ (context : InterventionContext) (action : RecoveryActionType) (d : Decimal),
      interventionRecoveryProbability context action = some d →
      ∃ q, d = .finite q ∧ 0 ≤ q ∧ q ≤ 95 / 100) ∧
    (∀ (reason : Option FailureReason) (attemptNumber priorFailures : ℤ),
      attemptNumber ≤ decimalLimit → priorFailures ≤ decimalLimit →
      ∃ q, captureProbability? reason attemptNumber priorFailures = some (.finite q) ∧ 0 ≤ q ∧
        q ≤ 80 / 100) ∧
    (∀ (reason : Option FailureReason) (attemptNumber attemptNumber' priorFailures : ℤ)
      (q q' : ℚ), attemptNumber ≤ attemptNumber' →
      captureProbability? reason attemptNumber priorFailures = some (.finite q) →
      captureProbability? reason attemptNumber' priorFailures = some (.finite q') → q ≤ q') ∧
    (∀ (reason : Option FailureReason) (attemptNumber priorFailures priorFailures' : ℤ)
      (q q' : ℚ), priorFailures ≤ priorFailures' →
      captureProbability? reason attemptNumber priorFailures = some (.finite q) →
      captureProbability? reason attemptNumber priorFailures' = some (.finite q') → q' ≤ q) := by
  refine ⟨?_, ?_, ?_, ?_, ?_⟩
  · intro context action h
    obtain ⟨d, hd⟩ := interventionRecoveryProbability_isSome h action
    obtain ⟨q, rfl, hbounds⟩ := interventionRecoveryProbability_range hd
    exact ⟨q, hd, hbounds⟩
  · intro context action d h
    exact interventionRecoveryProbability_range h
  · intro reason attemptNumber priorFailures hattempt hprior
    exact captureProbability?_within reason hattempt hprior
  · intro reason attemptNumber attemptNumber' priorFailures q q' hle h h'
    exact captureProbability?_mono reason hle le_rfl h h'
  · intro reason attemptNumber priorFailures priorFailures' q q' hle h h'
    exact captureProbability?_mono reason le_rfl hle h' h

/-- A first attempt on a declined payment of a new customer. -/
def plainContext : InterventionContext where
  failureReason := some .declined
  attemptNumber := 1
  priorFailures := 0
  historicalSuccessRate := .finite 0
  historicalRecoveryRate := .finite 0
  communicationCount := 0
  previousDiscountUsage := .finite 0
  cartAgeHours := none
  customerLifetimeValue := .finite 0
  amount := .finite 1000
  hourOfDay := 12
  caseType := "FAILED_PAYMENT"

/-- The sixth attempt on a payment without funds, at night, after nine failures and nine
messages. -/
def wornContext : InterventionContext where
  failureReason := some .insufficientFunds
  attemptNumber := 6
  priorFailures := 9
  historicalSuccessRate := .finite 0
  historicalRecoveryRate := .finite 0
  communicationCount := 9
  previousDiscountUsage := .finite 1
  cartAgeHours := none
  customerLifetimeValue := .finite 0
  amount := .finite 1000
  hourOfDay := 3
  caseType := "FAILED_PAYMENT"

theorem wornContext_inRange : wornContext.InRange := by
  have hlarge := decimalLimit_ge
  have hlarge' : (100 : ℤ) ≤ decimalLimit := by exact_mod_cast hlarge
  refine ⟨nofun, nofun, nofun, nofun, nofun, nofun, ?_, ?_, ?_⟩
  · show (6 : ℤ) ≤ decimalLimit
    omega
  · show (9 : ℤ) ≤ decimalLimit
    omega
  · show (9 : ℤ) ≤ decimalLimit
    omega

/-- A retry has no chance after all penalties, and the chance of a capture grows up to its cap and
wears off with the failures. -/
theorem simulated_chances_are_probabilities_worn :
    (∃ q, interventionRecoveryProbability wornContext .retryNow = some (.finite q) ∧ 0 ≤ q ∧
      q ≤ 95 / 100) ∧
    interventionRecoveryProbability wornContext .retryNow = some (.finite 0) ∧
    (∃ first sixth worn : ℚ,
      captureProbability? (some .temporaryBankError) 1 0 = some (.finite first) ∧
      captureProbability? (some .temporaryBankError) 6 0 = some (.finite sixth) ∧
      captureProbability? (some .temporaryBankError) 6 9 = some (.finite worn) ∧
      first ≤ sixth ∧ worn ≤ sixth ∧ sixth = 80 / 100 ∧ worn = 73 / 100) := by
  obtain ⟨hcontexts, -, -, hattempts, hfailures⟩ := simulated_chances_are_probabilities
  have hfirst : captureProbability? (some .temporaryBankError) 1 0 =
      some (.finite (25 / 100)) := by
    rw [captureProbability?_eq _ (by norm_num) (by norm_num)]
    decide +kernel
  have hsixth : captureProbability? (some .temporaryBankError) 6 0 =
      some (.finite (80 / 100)) := by
    rw [captureProbability?_eq _ (by norm_num) (by norm_num)]
    decide +kernel
  have hworn : captureProbability? (some .temporaryBankError) 6 9 =
      some (.finite (73 / 100)) := by
    rw [captureProbability?_eq _ (by norm_num) (by norm_num)]
    decide +kernel
  exact ⟨hcontexts wornContext .retryNow wornContext_inRange, by decide +kernel, _, _, _, hfirst,
    hsixth, hworn, hattempts _ 1 6 0 _ _ (by norm_num) hfirst hsixth,
    hfailures _ 6 0 9 _ _ (by norm_num) hsixth hworn, rfl, rfl⟩

/-- An attempt number beyond the range of decimals. -/
@[irreducible] def hugeAttempt : ℤ := 10 ^ 1000002

theorem captureProbability?_huge {attempt : ℤ} (h : hugeAttempt ≤ attempt) :
    captureProbability? (some .unknown) attempt 0 = none := by
  have hcast : (hugeAttempt : ℚ) = 10 ^ 2 * 10 ^ (1000000 : ℤ) := by
    unfold hugeAttempt
    rw [Int.cast_pow, Int.cast_ofNat, ← zpow_natCast, ← zpow_natCast,
      ← zpow_add₀ (by norm_num)]
    rfl
  have hpower : (1 : ℚ) ≤ 10 ^ (1000000 : ℤ) := one_le_zpow₀ (by norm_num) (by norm_num)
  have hle : (hugeAttempt : ℚ) ≤ (max attempt 1 : ℤ) :=
    Int.cast_le.mpr (h.trans (le_max_left _ _))
  have hover : ofExact (5 / 100 * ((max attempt 1 : ℤ) : ℚ)) = none := by
    refine Decimal.ofExact_eq_none ?_
    rw [hcast] at hle
    generalize (10 : ℚ) ^ (1000000 : ℤ) = unit at hpower hle ⊢
    rw [abs_of_nonneg (by linarith)]
    linarith
  show (mul? (5 / 100) (.finite ((max attempt 1 : ℤ) : ℚ)) >>= _) = none
  rw [Decimal.mul?_finite, hover]
  rfl

/-- An attempt number out of range, or a lifetime value that is a NaN, raises a signal. -/
theorem simulated_chances_signal :
    captureProbability? (some .unknown) hugeAttempt 0 = none ∧
      interventionRecoveryProbability
        { plainContext with failureReason := some .unknown, attemptNumber := hugeAttempt }
        .retryNow = none ∧
      interventionRecoveryProbability { plainContext with customerLifetimeValue := .nan }
        .retryNow = none := by
  refine ⟨captureProbability?_huge le_rfl, ?_, ?_⟩
  · rw [Option.eq_none_iff_forall_ne_some]
    intro d hd
    obtain ⟨f, hf, -⟩ := Option.bind_eq_some_iff.mp hd
    obtain ⟨hretry, -⟩ := InterventionContext.factors_eq_some hf
    have hhuge := captureProbability?_huge (le_max_left hugeAttempt 1)
    exact nomatch hhuge.symm.trans hretry
  · rw [Option.eq_none_iff_forall_ne_some]
    intro d hd
    obtain ⟨f, hf, -⟩ := Option.bind_eq_some_iff.mp hd
    obtain ⟨-, -, -, -, -, hhigh, -⟩ := InterventionContext.factors_eq_some hf
    exact nomatch hhigh

end ReviveX
