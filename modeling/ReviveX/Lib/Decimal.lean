import Mathlib.Data.Int.Log
import Mathlib.Data.Rat.Floor
import Mathlib.Tactic.Linarith
import Mathlib.Tactic.Positivity

/-!
# Decimal numbers with signals

The part of the General Decimal Arithmetic that a Python program meets with the default
context: 28 significant digits, rounding half to even, and an exception (`none` here) for
an ordered comparison with a NaN, an invalid operation or an overflow.
-/

namespace Lib

inductive Decimal
  | finite (q : ℚ)
  | infinity (negative : Bool)
  | nan
deriving DecidableEq

namespace Decimal

/-- Round to the nearest integer, ties to the even one. -/
def roundHalfEven (q : ℚ) : ℤ :=
  let n := ⌊q⌋
  let rest := q - n
  if rest < 1 / 2 then n
  else if 1 / 2 < rest then n + 1
  else if n % 2 = 0 then n else n + 1

/-- The result of an exact operation, rounded to the context; `none` is the overflow. -/
def ofExact (q : ℚ) : Option Decimal :=
  if q = 0 then some (.finite 0)
  else
    let magnitude := Int.log 10 |q|
    if 999999 < magnitude then none
    else
      let unit : ℚ := 10 ^ (magnitude - 27)
      some (.finite (roundHalfEven (q / unit) * unit))

/-- `a > b`; a NaN signals. -/
def gt? : Decimal → Decimal → Option Bool
  | .nan, _ => none
  | _, .nan => none
  | .finite a, .finite b => some (decide (b < a))
  | .finite _, .infinity negative => some negative
  | .infinity negative, .finite _ => some !negative
  | .infinity a, .infinity b => some (!a && b)

/-- `a + b`. -/
def add? : Decimal → Decimal → Option Decimal
  | .nan, _ => some .nan
  | _, .nan => some .nan
  | .finite a, .finite b => ofExact (a + b)
  | .infinity a, .infinity b => if a = b then some (.infinity a) else none
  | .infinity a, .finite _ => some (.infinity a)
  | .finite _, .infinity b => some (.infinity b)

/-- `a - b` for finite numbers. -/
def sub? (a b : ℚ) : Option Decimal := ofExact (a - b)

/-- `q * b` for a finite first factor. -/
def mul? (q : ℚ) : Decimal → Option Decimal
  | .nan => some .nan
  | .finite b => ofExact (q * b)
  | .infinity negative =>
    if q = 0 then none else some (.infinity (negative ^^ decide (q < 0)))

/-- `a / q` for a finite divisor other than zero. -/
def div? (a : Decimal) (q : ℚ) : Option Decimal :=
  match a with
  | .nan => some .nan
  | .finite b => ofExact (b / q)
  | .infinity negative => some (.infinity (negative ^^ decide (q < 0)))

@[simp] theorem gt?_finite (a b : ℚ) :
    gt? (.finite a) (.finite b) = some (decide (b < a)) := rfl

/-- A product is finite only when its second factor is. -/
theorem finite_of_mul? {q r : ℚ} {d : Decimal} (h : mul? q d = some (.finite r)) :
    ∃ b, d = .finite b := by
  cases d with
  | nan => cases h
  | finite b => exact ⟨b, rfl⟩
  | infinity negative =>
    simp only [mul?] at h
    split at h <;> cases h

/-- A quotient is finite only when its dividend is. -/
theorem finite_of_div? {q r : ℚ} {d : Decimal} (h : div? d q = some (.finite r)) :
    ∃ b, d = .finite b := by
  cases d with
  | nan => cases h
  | finite b => exact ⟨b, rfl⟩
  | infinity negative => cases h

/-! ## Rounding -/

/-- A value rounds up to at most half a unit more. -/
theorem roundHalfEven_le_add_half (q : ℚ) : (roundHalfEven q : ℚ) ≤ q + 1 / 2 := by
  have hfloor : (⌊q⌋ : ℚ) ≤ q := Int.floor_le q
  unfold roundHalfEven
  dsimp only
  split
  · linarith
  · rename_i hhalf
    split
    · push_cast
      linarith
    · split
      · linarith
      · push_cast
        linarith

/-- A value rounds down to at most half a unit less. -/
theorem sub_half_le_roundHalfEven (q : ℚ) : q - 1 / 2 ≤ (roundHalfEven q : ℚ) := by
  have hfloor : q < ⌊q⌋ + 1 := Int.lt_floor_add_one q
  unfold roundHalfEven
  dsimp only
  split
  · linarith
  · split
    · push_cast
      linarith
    · rename_i hexceeds
      split
      · linarith
      · push_cast
        linarith

/-- A whole number below a value is below the rounded value. -/
theorem le_roundHalfEven {n : ℤ} {q : ℚ} (h : (n : ℚ) ≤ q) : n ≤ roundHalfEven q := by
  have hfloor : n ≤ ⌊q⌋ := Int.le_floor.mpr h
  unfold roundHalfEven
  dsimp only
  split
  · exact hfloor
  · split
    · omega
    · split <;> omega

/-- A whole number above a value is above the rounded value. -/
theorem roundHalfEven_le {n : ℤ} {q : ℚ} (h : q ≤ n) : roundHalfEven q ≤ n := by
  have hfloor : ⌊q⌋ ≤ n := Int.floor_le_iff.mpr (by linarith)
  by_cases hwhole : ⌊q⌋ = n
  · -- then the value is the whole number itself
    have hrest : q - ⌊q⌋ < 1 / 2 := by
      rw [hwhole]
      linarith
    unfold roundHalfEven
    dsimp only
    rw [if_pos hrest]
    exact hfloor
  · unfold roundHalfEven
    dsimp only
    split
    · exact hfloor
    · split
      · omega
      · split <;> omega

/-- A value rounds to at most a whole number when it is less than half above it, or half above
it and the number is even. -/
theorem roundHalfEven_le_iff {q : ℚ} {n : ℤ} :
    roundHalfEven q ≤ n ↔ q < n + 1 / 2 ∨ (q = n + 1 / 2 ∧ n % 2 = 0) := by
  by_cases hbelow : q ≤ n
  · refine iff_of_true (roundHalfEven_le hbelow) (.inl ?_)
    linarith
  · by_cases habove : (n : ℚ) + 1 ≤ q
    · refine iff_of_false ?_ ?_
      · have hle : n + 1 ≤ roundHalfEven q := le_roundHalfEven (by push_cast; exact habove)
        omega
      · rintro (hlt | ⟨heq, -⟩) <;> linarith
    · -- the whole number is the floor
      have hfloor : ⌊q⌋ = n := by
        rw [Int.floor_eq_iff]
        constructor <;> linarith
      unfold roundHalfEven
      dsimp only
      rw [hfloor]
      split
      · exact iff_of_true le_rfl (.inl (by linarith))
      · rename_i hhalf
        split
        · refine iff_of_false (by omega) ?_
          rintro (hlt | ⟨heq, -⟩) <;> linarith
        · rename_i htie
          have heq : q = n + 1 / 2 := by linarith
          split
          · rename_i heven
            exact iff_of_true le_rfl (.inr ⟨heq, heven⟩)
          · rename_i hodd
            refine iff_of_false (by omega) ?_
            rintro (hlt | ⟨-, heven⟩)
            · linarith
            · exact hodd heven

/-- A value rounds to at least a whole number when it is less than half below it, or half below
it and the number is even. -/
theorem le_roundHalfEven_iff {q : ℚ} {n : ℤ} :
    n ≤ roundHalfEven q ↔ n - 1 / 2 < q ∨ (q = n - 1 / 2 ∧ n % 2 = 0) := by
  have hbelow := roundHalfEven_le_iff (q := q) (n := n - 1)
  have hhalf : ((n - 1 : ℤ) : ℚ) + 1 / 2 = n - 1 / 2 := by
    push_cast
    ring
  rw [hhalf] at hbelow
  rw [← not_lt, ← Int.le_sub_one_iff, hbelow]
  generalize (n : ℚ) - 1 / 2 = half
  rcases lt_trichotomy q half with hlt | heq | hgt
  · exact iff_of_false (fun h => h (.inl hlt)) fun h =>
      h.elim hlt.not_gt fun heq => hlt.ne heq.1
  · subst heq
    have hparity : (n - 1) % 2 = 0 ↔ ¬ n % 2 = 0 := by omega
    simp only [lt_irrefl, true_and, false_or, hparity, not_not]
  · exact iff_of_true (fun h => h.elim hgt.not_gt fun heq => hgt.ne' heq.1) (.inl hgt)

@[simp] theorem roundHalfEven_intCast (n : ℤ) : roundHalfEven (n : ℚ) = n :=
  le_antisymm (roundHalfEven_le le_rfl) (le_roundHalfEven le_rfl)

/-- Rounding keeps the order. -/
theorem roundHalfEven_mono {q q' : ℚ} (h : q ≤ q') : roundHalfEven q ≤ roundHalfEven q' := by
  have hfloor : ⌊q⌋ ≤ ⌊q'⌋ := Int.floor_le_floor h
  rcases hfloor.lt_or_eq with hlt | heq
  · -- the whole numbers between them separate the rounded values
    have hup : roundHalfEven q ≤ ⌊q⌋ + 1 := by
      refine roundHalfEven_le ?_
      push_cast
      exact (Int.lt_floor_add_one q).le
    have hdown : ⌊q'⌋ ≤ roundHalfEven q' := le_roundHalfEven (Int.floor_le q')
    omega
  · unfold roundHalfEven
    dsimp only
    rw [← heq]
    have hrest : q - ⌊q⌋ ≤ q' - ⌊q⌋ := by linarith
    by_cases hbelow' : q' - ⌊q⌋ < 1 / 2
    · have hbelow : q - ⌊q⌋ < 1 / 2 := hrest.trans_lt hbelow'
      rw [if_pos hbelow, if_pos hbelow']
    · rw [if_neg hbelow']
      by_cases hbelow : q - ⌊q⌋ < 1 / 2
      · rw [if_pos hbelow]
        split
        · omega
        · split <;> omega
      · rw [if_neg hbelow]
        by_cases habove : 1 / 2 < q - ⌊q⌋
        · rw [if_pos habove, if_pos (habove.trans_le hrest)]
        · rw [if_neg habove]
          split
          · split <;> omega
          · rw [ite_self]

/-- The rounding error of an operation: half a unit in the last of 28 digits, and the order
of magnitude stays. -/
theorem ofExact_lower {q r : ℚ} (h : ofExact q = some (.finite r)) (hq : 0 < q) :
    q - 10 ^ (Int.log 10 q - 27) / 2 ≤ r ∧ (10 : ℚ) ^ Int.log 10 q ≤ r := by
  unfold ofExact at h
  rw [if_neg hq.ne', abs_of_pos hq] at h
  dsimp only at h
  split at h
  · cases h
  · have hr : roundHalfEven (q / 10 ^ (Int.log 10 q - 27)) * 10 ^ (Int.log 10 q - 27) = r :=
      Decimal.finite.inj (Option.some.inj h)
    have hunit : (0 : ℚ) < 10 ^ (Int.log 10 q - 27) := zpow_pos (by norm_num) _
    have hmagnitude : (10 : ℚ) ^ Int.log 10 q ≤ q := Int.zpow_log_le_self (by norm_num) hq
    have hsplit : (10 : ℚ) ^ Int.log 10 q = 10 ^ 27 * 10 ^ (Int.log 10 q - 27) := by
      rw [← zpow_natCast, ← zpow_add₀ (by norm_num)]
      congr 1
      norm_num
    refine ⟨?_, ?_⟩
    · have hhalf := sub_half_le_roundHalfEven (q / 10 ^ (Int.log 10 q - 27))
      have hscaled := mul_le_mul_of_nonneg_right hhalf hunit.le
      rw [sub_mul, div_mul_cancel₀ _ hunit.ne', hr] at hscaled
      linarith
    · have hdigits : ((10 ^ 27 : ℤ) : ℚ) ≤ q / 10 ^ (Int.log 10 q - 27) := by
        rw [le_div_iff₀ hunit, Int.cast_pow, Int.cast_ofNat, ← hsplit]
        exact hmagnitude
      have hrounded : ((10 ^ 27 : ℤ) : ℚ) ≤ roundHalfEven (q / 10 ^ (Int.log 10 q - 27)) :=
        Int.cast_le.mpr (le_roundHalfEven hdigits)
      have hscaled := mul_le_mul_of_nonneg_right hrounded hunit.le
      rw [hr, Int.cast_pow, Int.cast_ofNat, ← hsplit] at hscaled
      exact hscaled

/-- A sum that was rounded to at most `b` exceeds it by less than half a hundredth, when `b`
has at most 25 digits before the point. -/
theorem lt_of_ofExact_le {q r b : ℚ} (h : ofExact q = some (.finite r)) (hr : r ≤ b)
    (hq : 0 < q) (hb : b < 10 ^ 25) : q < b + 1 / 200 := by
  obtain ⟨herror, hmagnitude⟩ := ofExact_lower h hq
  by_cases hsmall : Int.log 10 q ≤ 24
  · -- the last of the 28 digits is at most a thousandth
    have hunit : (10 : ℚ) ^ (Int.log 10 q - 27) ≤ 10 ^ (-3 : ℤ) :=
      zpow_le_zpow_right₀ (by norm_num) (by omega)
    norm_num at hunit
    linarith
  · have hlarge : (10 : ℚ) ^ (25 : ℤ) ≤ 10 ^ Int.log 10 q :=
      zpow_le_zpow_right₀ (by norm_num) (by omega)
    norm_num at hlarge hb
    linarith

/-- A result that is far from an overflow is off by at most half the exact value. -/
theorem ofExact_of_lt {q : ℚ} (h : |q| < 10 ^ 100) :
    ∃ r, ofExact q = some (.finite r) ∧ |r - q| ≤ |q| / 2 := by
  by_cases hzero : q = 0
  · exact ⟨0, by simp [ofExact, hzero], by simp [hzero]⟩
  · have hpos : 0 < |q| := abs_pos.mpr hzero
    have hmagnitude : Int.log 10 |q| < 100 :=
      (Int.lt_zpow_iff_log_lt (by norm_num) hpos).mp (by exact_mod_cast h)
    have hunit : (0 : ℚ) < 10 ^ (Int.log 10 |q| - 27) := zpow_pos (by norm_num) _
    have hunit_le : (10 : ℚ) ^ (Int.log 10 |q| - 27) ≤ |q| :=
      calc (10 : ℚ) ^ (Int.log 10 |q| - 27) ≤ 10 ^ Int.log 10 |q| :=
            zpow_le_zpow_right₀ (by norm_num) (by omega)
        _ ≤ |q| := Int.zpow_log_le_self (by norm_num) hpos
    refine ⟨roundHalfEven (q / 10 ^ (Int.log 10 |q| - 27)) * 10 ^ (Int.log 10 |q| - 27), ?_, ?_⟩
    · unfold ofExact
      rw [if_neg hzero]
      dsimp only
      rw [if_neg (by omega)]
    · have hbelow := sub_half_le_roundHalfEven (q / 10 ^ (Int.log 10 |q| - 27))
      have habove := roundHalfEven_le_add_half (q / 10 ^ (Int.log 10 |q| - 27))
      have hbelow' := mul_le_mul_of_nonneg_right hbelow hunit.le
      have habove' := mul_le_mul_of_nonneg_right habove hunit.le
      rw [sub_mul, div_mul_cancel₀ _ hunit.ne'] at hbelow'
      rw [add_mul, div_mul_cancel₀ _ hunit.ne'] at habove'
      rw [abs_le]
      constructor <;> linarith

/-- A number with 28 digits. -/
def rounded (q : ℚ) : ℚ :=
  roundHalfEven (q / 10 ^ (Int.log 10 |q| - 27)) * 10 ^ (Int.log 10 |q| - 27)

theorem ofExact_eq_rounded {q : ℚ} (h : |q| < 10 ^ 100) :
    ofExact q = some (.finite (rounded q)) := by
  by_cases hzero : q = 0
  · have hround : roundHalfEven 0 = 0 := by decide +kernel
    simp [ofExact, rounded, hzero, hround]
  · have hmagnitude : Int.log 10 |q| < 100 :=
      (Int.lt_zpow_iff_log_lt (by norm_num) (abs_pos.mpr hzero)).mp (by exact_mod_cast h)
    unfold ofExact
    rw [if_neg hzero]
    dsimp only
    rw [if_neg (by omega)]
    rfl

theorem rounded_nonneg {q : ℚ} (h : 0 ≤ q) : 0 ≤ rounded q := by
  have hunit : (0 : ℚ) < 10 ^ (Int.log 10 |q| - 27) := zpow_pos (by norm_num) _
  have hround : (0 : ℤ) ≤ roundHalfEven (q / 10 ^ (Int.log 10 |q| - 27)) :=
    le_roundHalfEven (by push_cast; positivity)
  exact mul_nonneg (by exact_mod_cast hround) hunit.le

/-- A result below 28 digits with `d` of them after the point has at least those `d`. -/
theorem ofExact_eq_of_lt {q : ℚ} {d : ℕ} (hzero : q ≠ 0) (h : |q| * 10 ^ d < 10 ^ 28) :
    ∃ k : ℕ, ofExact q =
      some (.finite (roundHalfEven (q * 10 ^ d * 10 ^ k) / (10 ^ d * 10 ^ k))) := by
  have hpos : 0 < |q| := abs_pos.mpr hzero
  have hlt : |q| < 10 ^ (28 - d : ℤ) := by
    rw [zpow_sub₀ (by norm_num), zpow_natCast, lt_div_iff₀ (by positivity)]
    exact_mod_cast h
  have hmagnitude : Int.log 10 |q| < 28 - d :=
    (Int.lt_zpow_iff_log_lt (by norm_num) hpos).mp (by exact_mod_cast hlt)
  obtain ⟨k, hk⟩ : ∃ k : ℕ, Int.log 10 |q| = 27 - d - k :=
    ⟨(27 - d - Int.log 10 |q|).toNat, by omega⟩
  have hunit : (10 : ℚ) ^ (Int.log 10 |q| - 27) = (10 ^ d * 10 ^ k)⁻¹ := by
    rw [hk, show (27 - (d : ℤ) - k - 27) = -((d + k : ℕ) : ℤ) by push_cast; ring, zpow_neg,
      zpow_natCast, pow_add]
  refine ⟨k, ?_⟩
  unfold ofExact
  rw [if_neg hzero]
  dsimp only
  rw [if_neg (by omega), hunit, div_inv_eq_mul, ← mul_assoc, ← div_eq_mul_inv]

/-- A number of at most 28 digits is exact. -/
theorem ofExact_digits {n : ℤ} (d : ℕ) (h : |n| < 10 ^ 28) :
    ofExact ((n : ℚ) / 10 ^ d) = some (.finite ((n : ℚ) / 10 ^ d)) := by
  by_cases hzero : n = 0
  · simp [ofExact, hzero]
  · have hscale : (0 : ℚ) < 10 ^ d := by positivity
    have hlt : |(n : ℚ) / 10 ^ d| * 10 ^ d < 10 ^ 28 := by
      rw [abs_div, abs_of_pos hscale, div_mul_cancel₀ _ hscale.ne']
      exact_mod_cast h
    obtain ⟨k, hk⟩ := ofExact_eq_of_lt (by positivity) hlt
    have hwhole : (n : ℚ) / 10 ^ d * 10 ^ d * 10 ^ k = ((n * 10 ^ k : ℤ) : ℚ) := by
      rw [div_mul_cancel₀ _ hscale.ne']
      push_cast
      rfl
    rw [hk, hwhole, roundHalfEven_intCast]
    congr 2
    push_cast
    field_simp

theorem rounded_digits {n : ℤ} (d : ℕ) (h : |n| < 10 ^ 28) :
    rounded ((n : ℚ) / 10 ^ d) = n / 10 ^ d := by
  have hsmall : |(n : ℚ) / 10 ^ d| < 10 ^ 100 := by
    have hpow : (1 : ℚ) ≤ 10 ^ d := one_le_pow₀ (by norm_num)
    have hn : |(n : ℚ)| < 10 ^ 28 := by exact_mod_cast h
    rw [abs_div, abs_of_pos (zero_lt_one.trans_le hpow)]
    exact (div_le_self (abs_nonneg _) hpow).trans_lt (hn.trans (by norm_num))
  have hexact := (ofExact_eq_rounded hsmall).symm.trans (ofExact_digits d h)
  exact Decimal.finite.inj (Option.some.inj hexact)

theorem ofExact_intCast {n : ℤ} (h : |n| < 10 ^ 28) : ofExact (n : ℚ) = some (.finite n) := by
  have hexact := ofExact_digits 0 h
  rw [pow_zero, div_one] at hexact
  exact hexact

/-- Whole paise of at most 28 digits are exact. -/
theorem ofExact_paise {n : ℤ} (h : |n| < 10 ^ 28) :
    ofExact ((n : ℚ) / 100) = some (.finite ((n : ℚ) / 100)) := by
  have hexact := ofExact_digits 2 h
  norm_num at hexact
  exact hexact

/-- A result does not exceed whole paise that the exact value does not exceed. -/
theorem ofExact_le_paise {q : ℚ} {n : ℤ} (hq : 0 ≤ q) (hle : q ≤ (n : ℚ) / 100)
    (hn : n < 10 ^ 28) : ∃ r, ofExact q = some (.finite r) ∧ 0 ≤ r ∧ r ≤ (n : ℚ) / 100 := by
  by_cases hzero : q = 0
  · exact ⟨0, by simp [ofExact, hzero], le_rfl, hq.trans hle⟩
  · have hn' : (n : ℚ) < 10 ^ 28 := by exact_mod_cast hn
    have hlt : |q| * 10 ^ 2 < 10 ^ 28 := by
      rw [abs_of_nonneg hq]
      linarith
    obtain ⟨k, hk⟩ := ofExact_eq_of_lt hzero hlt
    have hscale : (0 : ℚ) < 10 ^ k := by positivity
    refine ⟨_, hk, ?_, ?_⟩
    · have hnonneg : (0 : ℤ) ≤ roundHalfEven (q * 10 ^ 2 * 10 ^ k) :=
        le_roundHalfEven (by push_cast; positivity)
      have hnonneg' : (0 : ℚ) ≤ roundHalfEven (q * 10 ^ 2 * 10 ^ k) := by exact_mod_cast hnonneg
      positivity
    · have hwhole : q * 10 ^ 2 * 10 ^ k ≤ ((n * 10 ^ k : ℤ) : ℚ) := by
        push_cast
        have hpaise : q * 10 ^ 2 ≤ n := by linarith
        exact mul_le_mul_of_nonneg_right hpaise hscale.le
      have hrounded : (roundHalfEven (q * 10 ^ 2 * 10 ^ k) : ℚ) ≤ n * 10 ^ k := by
        exact_mod_cast roundHalfEven_le hwhole
      rw [div_le_div_iff₀ (by positivity) (by norm_num)]
      nlinarith

/-! ## Order -/

theorem ofExact_zero : ofExact 0 = some (.finite 0) := if_pos rfl

/-- A result is finite. -/
theorem ofExact_finite {q : ℚ} {d : Decimal} (h : ofExact q = some d) : ∃ r, d = .finite r := by
  unfold ofExact at h
  split at h
  · exact ⟨0, (Option.some.inj h).symm⟩
  · dsimp only at h
    split at h
    · cases h
    · exact ⟨_, (Option.some.inj h).symm⟩

/-- What does not overflow at a greater value does not at a smaller one. -/
theorem ofExact_isSome_of_le {p q : ℚ} (hp : 0 ≤ p) (hle : p ≤ q)
    (h : (ofExact q).isSome = true) : ∃ r, ofExact p = some (.finite r) := by
  by_cases hzero : p = 0
  · exact ⟨0, if_pos hzero⟩
  · have hpos : 0 < p := lt_of_le_of_ne hp (Ne.symm hzero)
    have hlog : Int.log 10 |p| ≤ Int.log 10 |q| := by
      rw [abs_of_pos hpos, abs_of_pos (hpos.trans_le hle)]
      exact Int.log_mono_right hpos hle
    have hfits : ¬ 999999 < Int.log 10 |q| := by
      intro hover
      unfold ofExact at h
      rw [if_neg (hpos.trans_le hle).ne'] at h
      dsimp only at h
      rw [if_pos hover] at h
      cases h
    unfold ofExact
    rw [if_neg hzero]
    dsimp only
    rw [if_neg (by omega)]
    exact ⟨_, rfl⟩

/-- A result other than zero, in units of its last digit. -/
theorem ofExact_unit {q r : ℚ} (h : ofExact q = some (.finite r)) (hq : q ≠ 0) :
    r = roundHalfEven (q / 10 ^ (Int.log 10 |q| - 27)) * 10 ^ (Int.log 10 |q| - 27) := by
  unfold ofExact at h
  rw [if_neg hq] at h
  dsimp only at h
  split at h
  · cases h
  · exact (Decimal.finite.inj (Option.some.inj h)).symm

theorem eq_rounded {q r : ℚ} (h : ofExact q = some (.finite r)) : r = rounded q := by
  by_cases hzero : q = 0
  · have hround : roundHalfEven 0 = 0 := by decide +kernel
    rw [hzero, ofExact_zero] at h
    obtain rfl := Decimal.finite.inj (Option.some.inj h)
    simp [rounded, hzero, hround]
  · exact ofExact_unit h hzero

/-- A number of at least `10 ^ (-d)` is rounded to whole units of the digit `d + 27`. -/
theorem rounded_units {q : ℚ} {d : ℕ} (h : 1 ≤ |q| * 10 ^ d) :
    ∃ n : ℤ, rounded q = n / 10 ^ (d + 27) := by
  have hscale : (0 : ℚ) < 10 ^ d := by positivity
  have hpos : 0 < |q| := by
    by_contra hle
    have hzero : |q| = 0 := le_antisymm (not_lt.mp hle) (abs_nonneg q)
    rw [hzero, zero_mul] at h
    linarith
  have hlog : -(d : ℤ) ≤ Int.log 10 |q| := by
    rw [← Int.zpow_le_iff_le_log (by norm_num) hpos, zpow_neg]
    push_cast
    rw [zpow_natCast, inv_le_iff_one_le_mul₀ hscale]
    exact h
  obtain ⟨k, hk⟩ : ∃ k : ℕ, Int.log 10 |q| - 27 = k - (d + 27 : ℕ) :=
    ⟨(Int.log 10 |q| + d).toNat, by omega⟩
  have hunit : (10 : ℚ) ^ (Int.log 10 |q| - 27) = 10 ^ k / 10 ^ (d + 27) := by
    rw [hk, zpow_sub₀ (by norm_num), zpow_natCast, zpow_natCast]
  refine ⟨roundHalfEven (q / 10 ^ (Int.log 10 |q| - 27)) * 10 ^ k, ?_⟩
  unfold rounded
  generalize roundHalfEven (q / 10 ^ (Int.log 10 |q| - 27)) = n
  rw [hunit, Int.cast_mul, Int.cast_pow, Int.cast_ofNat, mul_div_assoc]

/-- A result stays on its side of a number that has a whole number of units. -/
theorem le_ofExact {q r : ℚ} {n : ℤ} (h : ofExact q = some (.finite r)) (hq : q ≠ 0)
    (hn : n * 10 ^ (Int.log 10 |q| - 27) ≤ q) : n * 10 ^ (Int.log 10 |q| - 27) ≤ r := by
  have hunit : (0 : ℚ) < 10 ^ (Int.log 10 |q| - 27) := zpow_pos (by norm_num) _
  have hle : n ≤ roundHalfEven (q / 10 ^ (Int.log 10 |q| - 27)) :=
    le_roundHalfEven ((le_div_iff₀ hunit).mpr hn)
  rw [ofExact_unit h hq]
  exact mul_le_mul_of_nonneg_right (by exact_mod_cast hle) hunit.le

theorem ofExact_le {q r : ℚ} {n : ℤ} (h : ofExact q = some (.finite r)) (hq : q ≠ 0)
    (hn : q ≤ n * 10 ^ (Int.log 10 |q| - 27)) : r ≤ n * 10 ^ (Int.log 10 |q| - 27) := by
  have hunit : (0 : ℚ) < 10 ^ (Int.log 10 |q| - 27) := zpow_pos (by norm_num) _
  have hle : roundHalfEven (q / 10 ^ (Int.log 10 |q| - 27)) ≤ n :=
    roundHalfEven_le ((div_le_iff₀ hunit).mpr hn)
  rw [ofExact_unit h hq]
  exact mul_le_mul_of_nonneg_right (by exact_mod_cast hle) hunit.le

/-- A power of ten in units that are 27 or 28 powers smaller. -/
theorem zpow_units (e : ℤ) : (10 : ℚ) ^ e = ((10 ^ 27 : ℤ) : ℚ) * 10 ^ (e - 27) ∧
    (10 : ℚ) ^ (e + 1) = ((10 ^ 28 : ℤ) : ℚ) * 10 ^ (e - 27) := by
  have hten : (10 : ℚ) ≠ 0 := by norm_num
  constructor
  · rw [Int.cast_pow, Int.cast_ofNat, ← zpow_natCast, ← zpow_add₀ hten]
    congr 1
    norm_num
  · rw [Int.cast_pow, Int.cast_ofNat, ← zpow_natCast, ← zpow_add₀ hten]
    congr 1
    push_cast
    ring

/-- The magnitude of a number other than zero. -/
theorem magnitude {q : ℚ} (hq : q ≠ 0) :
    (10 : ℚ) ^ Int.log 10 |q| ≤ |q| ∧ |q| ≤ 10 ^ (Int.log 10 |q| + 1) := by
  have hpos : 0 < |q| := abs_pos.mpr hq
  have hlow := Int.zpow_log_le_self (R := ℚ) (b := 10) (by norm_num) hpos
  have hhigh := Int.lt_zpow_succ_log_self (R := ℚ) (b := 10) (by norm_num) |q|
  push_cast at hlow hhigh
  exact ⟨hlow, hhigh.le⟩

/-- A positive result keeps the magnitude of the exact value, or is the next power of ten. -/
theorem ofExact_of_pos {q r : ℚ} (h : ofExact q = some (.finite r)) (hq : 0 < q) :
    (10 : ℚ) ^ Int.log 10 |q| ≤ r ∧ r ≤ 10 ^ (Int.log 10 |q| + 1) := by
  obtain ⟨hlow, hhigh⟩ := magnitude hq.ne'
  obtain ⟨hunit, hunit'⟩ := zpow_units (Int.log 10 |q|)
  have habs : |q| = q := abs_of_pos hq
  constructor
  · rw [hunit]
    refine le_ofExact h hq.ne' ?_
    rw [← hunit]
    linarith
  · rw [hunit']
    refine ofExact_le h hq.ne' ?_
    rw [← hunit']
    linarith

theorem ofExact_of_neg {q r : ℚ} (h : ofExact q = some (.finite r)) (hq : q < 0) :
    -10 ^ (Int.log 10 |q| + 1) ≤ r ∧ r ≤ -(10 : ℚ) ^ Int.log 10 |q| := by
  obtain ⟨hlow, hhigh⟩ := magnitude hq.ne
  obtain ⟨hunit, hunit'⟩ := zpow_units (Int.log 10 |q|)
  have habs : |q| = -q := abs_of_neg hq
  have hneg : ∀ n : ℤ, -((n : ℚ) * 10 ^ (Int.log 10 |q| - 27)) =
      ((-n : ℤ) : ℚ) * 10 ^ (Int.log 10 |q| - 27) := by
    intro n
    push_cast
    ring
  constructor
  · rw [hunit', hneg]
    refine le_ofExact h hq.ne ?_
    rw [← hneg, ← hunit']
    linarith
  · rw [hunit, hneg]
    refine ofExact_le h hq.ne ?_
    rw [← hneg, ← hunit]
    linarith

/-- A result has at most 28 digits. -/
theorem ofExact_units {q r : ℚ} (h : ofExact q = some (.finite r)) :
    ∃ k e : ℤ, r = k * 10 ^ e ∧ |k| < 10 ^ 28 ∧ e ≤ 999973 := by
  by_cases hq : q = 0
  · subst hq
    rw [ofExact_zero] at h
    exact ⟨0, 0, by simpa using (Decimal.finite.inj (Option.some.inj h)).symm, by norm_num,
      by norm_num⟩
  · -- a larger quotient would have been an overflow
    have hlog : Int.log 10 |q| ≤ 999999 := by
      by_contra hlarge
      unfold ofExact at h
      rw [if_neg hq] at h
      dsimp only at h
      rw [if_pos (by omega)] at h
      cases h
    have hunit : (0 : ℚ) < 10 ^ (Int.log 10 |q| - 27) := zpow_pos (by norm_num) _
    obtain ⟨hlow, hhigh⟩ : ((-10 ^ 28 : ℤ) : ℚ) ≤ q / 10 ^ (Int.log 10 |q| - 27) ∧
        q / 10 ^ (Int.log 10 |q| - 27) ≤ ((10 ^ 28 : ℤ) : ℚ) := by
      have hmagnitude := (magnitude hq).2
      rw [(zpow_units _).2] at hmagnitude
      obtain ⟨hneg, hpos⟩ := abs_le.mp hmagnitude
      refine ⟨(le_div_iff₀ hunit).mpr ?_, (div_le_iff₀ hunit).mpr hpos⟩
      push_cast at hneg ⊢
      linarith
    have hdown := le_roundHalfEven hlow
    have hup := roundHalfEven_le hhigh
    have hr := ofExact_unit h hq
    have hten : (10 : ℚ) ≠ 0 := by norm_num
    by_cases hlt : |roundHalfEven (q / 10 ^ (Int.log 10 |q| - 27))| < 10 ^ 28
    · exact ⟨_, _, hr, hlt, by omega⟩
    · -- a power of ten has fewer digits in the next unit
      have hpower : (10 : ℚ) ^ (28 : ℕ) * 10 ^ (Int.log 10 |q| - 27) =
          10 ^ (27 : ℕ) * 10 ^ (Int.log 10 |q| - 26) := by
        rw [show Int.log 10 |q| - 26 = Int.log 10 |q| - 27 + 1 by ring, zpow_add_one₀ hten]
        ring
      rcases le_or_gt 0 (roundHalfEven (q / 10 ^ (Int.log 10 |q| - 27))) with hnonneg | hneg
      · rw [abs_of_nonneg hnonneg] at hlt
        have heq : roundHalfEven (q / 10 ^ (Int.log 10 |q| - 27)) = 10 ^ 28 := by omega
        refine ⟨10 ^ 27, Int.log 10 |q| - 26, ?_, by norm_num, by omega⟩
        rw [hr, heq]
        push_cast
        exact hpower
      · rw [abs_of_neg hneg] at hlt
        have heq : roundHalfEven (q / 10 ^ (Int.log 10 |q| - 27)) = -10 ^ 28 := by omega
        refine ⟨-10 ^ 27, Int.log 10 |q| - 26, ?_, by norm_num, by omega⟩
        rw [hr, heq]
        push_cast
        linarith

/-- A number of at most 28 digits is its own result. -/
theorem ofExact_of_units {k e : ℤ} (hk : |k| < 10 ^ 28) (he : e ≤ 999972) :
    ofExact ((k : ℚ) * 10 ^ e) = some (.finite (k * 10 ^ e)) := by
  have hten : (10 : ℚ) ≠ 0 := by norm_num
  have hunit : (0 : ℚ) < 10 ^ e := zpow_pos (by norm_num) _
  by_cases hzero : k = 0
  · simp [hzero, ofExact]
  · have hne : (k : ℚ) * 10 ^ e ≠ 0 := mul_ne_zero (by exact_mod_cast hzero) hunit.ne'
    have hlt : |(k : ℚ) * 10 ^ e| < 10 ^ (e + 28) := by
      rw [abs_mul, abs_of_pos hunit, add_comm, zpow_add₀ hten]
      refine mul_lt_mul_of_pos_right ?_ hunit
      exact_mod_cast hk
    have hlog : Int.log 10 |(k : ℚ) * 10 ^ e| < e + 28 :=
      (Int.lt_zpow_iff_log_lt (by norm_num) (abs_pos.mpr hne)).mp (by exact_mod_cast hlt)
    -- the last of its digits is a whole number of units
    obtain ⟨n, hn⟩ : ∃ n : ℕ, e = Int.log 10 |(k : ℚ) * 10 ^ e| - 27 + n :=
      ⟨(e - (Int.log 10 |(k : ℚ) * 10 ^ e| - 27)).toNat, by omega⟩
    have hwhole : (k : ℚ) * 10 ^ e =
        ((k * 10 ^ n : ℤ) : ℚ) * 10 ^ (Int.log 10 |(k : ℚ) * 10 ^ e| - 27) := by
      conv_lhs => rw [hn, zpow_add₀ hten, zpow_natCast]
      push_cast
      ring
    have hunit' : (0 : ℚ) < 10 ^ (Int.log 10 |(k : ℚ) * 10 ^ e| - 27) := zpow_pos (by norm_num) _
    unfold ofExact
    rw [if_neg hne]
    dsimp only
    rw [if_neg (by omega), (eq_div_iff hunit'.ne').mpr hwhole.symm |>.symm,
      roundHalfEven_intCast, ← hwhole]

/-- A result stays exact when its point moves to the left. -/
theorem ofExact_shift {q r : ℚ} (h : ofExact q = some (.finite r)) (d : ℕ) :
    ofExact (r / 10 ^ (d + 1)) = some (.finite (r / 10 ^ (d + 1))) := by
  obtain ⟨k, e, rfl, hk, he⟩ := ofExact_units h
  have hshift : (k : ℚ) * 10 ^ e / 10 ^ (d + 1) = k * 10 ^ (e - (d + 1 : ℕ)) := by
    rw [zpow_sub₀ (by norm_num), zpow_natCast, mul_div_assoc]
  rw [hshift]
  exact ofExact_of_units hk (by omega)

/-- A hundredth of a result is exact. -/
theorem ofExact_hundredth {q r : ℚ} (h : ofExact q = some (.finite r)) :
    ofExact (r / 100) = some (.finite (r / 100)) := by
  have hshift := ofExact_shift h 1
  norm_num at hshift
  exact hshift

/-- Rounding to the context keeps the order. -/
theorem ofExact_mono {q q' r r' : ℚ} (h : q ≤ q') (hr : ofExact q = some (.finite r))
    (hr' : ofExact q' = some (.finite r')) : r ≤ r' := by
  have hzero : ∀ {q r : ℚ}, q = 0 → ofExact q = some (.finite r) → r = 0 := by
    rintro q r rfl hr
    rw [ofExact_zero] at hr
    exact (Decimal.finite.inj (Option.some.inj hr)).symm
  have hpower : ∀ e : ℤ, (0 : ℚ) < 10 ^ e := fun e => zpow_pos (by norm_num) e
  -- two results of one magnitude are rounded to the same unit
  have hsame : q ≠ 0 → q' ≠ 0 → Int.log 10 |q| = Int.log 10 |q'| → r ≤ r' := by
    intro hq hq' hlog
    have hunit := hpower (Int.log 10 |q| - 27)
    have hdiv : q / 10 ^ (Int.log 10 |q| - 27) ≤ q' / 10 ^ (Int.log 10 |q| - 27) :=
      div_le_div_of_nonneg_right h hunit.le
    have hrounded : (roundHalfEven (q / 10 ^ (Int.log 10 |q| - 27)) : ℚ) ≤
        roundHalfEven (q' / 10 ^ (Int.log 10 |q| - 27)) := by
      exact_mod_cast roundHalfEven_mono hdiv
    rw [ofExact_unit hr hq, ofExact_unit hr' hq', ← hlog]
    exact mul_le_mul_of_nonneg_right hrounded hunit.le
  rcases lt_trichotomy q 0 with hq | hq | hq
  · obtain ⟨hlow, hhigh⟩ := ofExact_of_neg hr hq
    have hr0 : r ≤ 0 := by linarith [hpower (Int.log 10 |q|)]
    rcases lt_trichotomy q' 0 with hq' | hq' | hq'
    · have habs : |q'| ≤ |q| := by
        rw [abs_of_neg hq, abs_of_neg hq']
        linarith
      have hlog : Int.log 10 |q'| ≤ Int.log 10 |q| := Int.log_mono_right (abs_pos.mpr hq'.ne) habs
      rcases hlog.lt_or_eq with hlt | heq
      · obtain ⟨hlow', -⟩ := ofExact_of_neg hr' hq'
        have hpowers : (10 : ℚ) ^ (Int.log 10 |q'| + 1) ≤ 10 ^ Int.log 10 |q| :=
          zpow_le_zpow_right₀ (by norm_num) (by omega)
        linarith
      · exact hsame hq.ne hq'.ne heq.symm
    · rw [hzero hq' hr']
      exact hr0
    · obtain ⟨hlow', -⟩ := ofExact_of_pos hr' hq'
      linarith [hpower (Int.log 10 |q'|)]
  · rw [hzero hq hr]
    rcases (hq ▸ h).lt_or_eq with hq' | hq'
    · obtain ⟨hlow', -⟩ := ofExact_of_pos hr' hq'
      linarith [hpower (Int.log 10 |q'|)]
    · rw [hzero hq'.symm hr']
  · have hq' : 0 < q' := hq.trans_le h
    have hlog : Int.log 10 |q| ≤ Int.log 10 |q'| := by
      refine Int.log_mono_right (abs_pos.mpr hq.ne') ?_
      rw [abs_of_pos hq, abs_of_pos hq']
      exact h
    rcases hlog.lt_or_eq with hlt | heq
    · obtain ⟨-, hhigh⟩ := ofExact_of_pos hr hq
      obtain ⟨hlow', -⟩ := ofExact_of_pos hr' hq'
      have hpowers : (10 : ℚ) ^ (Int.log 10 |q| + 1) ≤ 10 ^ Int.log 10 |q'| :=
        zpow_le_zpow_right₀ (by norm_num) (by omega)
      linarith
    · exact hsame hq.ne' hq'.ne' heq

/-- What is not exceeded by a number is above everything that the number is above. -/
theorem gt?_of_not_gt? {a b c : Decimal} (hgt : a.gt? c = some true) (hle : a.gt? b = some false) :
    b.gt? c = some true := by
  cases a <;> cases b <;> cases c <;> simp_all [gt?]
  linarith

theorem gt?_trans {a b c : Decimal} (hab : a.gt? b = some true) (hbc : b.gt? c = some true) :
    a.gt? c = some true := by
  cases a <;> cases b <;> cases c <;> simp_all [gt?]
  linarith

/-- The greater of two first summands gives the greater sum. -/
theorem add?_mono {q q' : ℚ} {a x x' : Decimal} (h : q ≤ q')
    (hx : add? (.finite q) a = some x) (hx' : add? (.finite q') a = some x') :
    x = .nan ∨ x.gt? x' = some false := by
  cases a with
  | nan => exact .inl (Option.some.inj hx).symm
  | infinity negative =>
    obtain rfl := Option.some.inj hx
    obtain rfl := Option.some.inj hx'
    cases negative <;> exact .inr rfl
  | finite c =>
    obtain ⟨r, rfl⟩ := ofExact_finite hx
    obtain ⟨r', rfl⟩ := ofExact_finite hx'
    have hle : r ≤ r' := ofExact_mono (by linarith) hx hx'
    right
    rw [gt?_finite, decide_eq_false (not_lt.mpr hle)]

end Decimal

end Lib
