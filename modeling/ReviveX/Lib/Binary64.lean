import ReviveX.Lib.Decimal

/-!
# Binary floating-point numbers

The conversion of an exact number to the nearest double: 53 significant bits, ties to the even
one, and subnormal numbers in steps of `2 ^ (-1074)`. Numbers beyond the largest double are not
treated. The conversion keeps the order, so a comparison that holds between two exact numbers
holds between their doubles.
-/

namespace Lib

/-- The exponent of the last of the 53 bits. -/
def binaryExponent (q : ℚ) : ℤ := max (Int.log 2 |q| - 52) (-1074)

/-- The nearest double. -/
def toBinary64 (q : ℚ) : ℚ :=
  Decimal.roundHalfEven (q / 2 ^ binaryExponent q) * 2 ^ binaryExponent q

theorem two_zpow_pos (e : ℤ) : (0 : ℚ) < 2 ^ e := zpow_pos (by norm_num) e

/-- A power of two in units that are `n` powers smaller. -/
theorem two_zpow_units (e : ℤ) (n : ℕ) : (2 : ℚ) ^ (e + n) = ((2 ^ n : ℤ) : ℚ) * 2 ^ e := by
  rw [zpow_add₀ (by norm_num), zpow_natCast, mul_comm]
  push_cast
  rfl

/-- A double stays on its side of a whole number of units. -/
theorem toBinary64_le {q : ℚ} {n : ℤ} (h : q ≤ n * 2 ^ binaryExponent q) :
    toBinary64 q ≤ n * 2 ^ binaryExponent q := by
  have hunit := two_zpow_pos (binaryExponent q)
  have hle : Decimal.roundHalfEven (q / 2 ^ binaryExponent q) ≤ n :=
    Decimal.roundHalfEven_le ((div_le_iff₀ hunit).mpr h)
  exact mul_le_mul_of_nonneg_right (by exact_mod_cast hle) hunit.le

theorem le_toBinary64 {q : ℚ} {n : ℤ} (h : n * 2 ^ binaryExponent q ≤ q) :
    n * 2 ^ binaryExponent q ≤ toBinary64 q := by
  have hunit := two_zpow_pos (binaryExponent q)
  have hle : n ≤ Decimal.roundHalfEven (q / 2 ^ binaryExponent q) :=
    Decimal.le_roundHalfEven ((le_div_iff₀ hunit).mpr h)
  exact mul_le_mul_of_nonneg_right (by exact_mod_cast hle) hunit.le

@[simp] theorem toBinary64_zero : toBinary64 0 = 0 := by decide +kernel

@[simp] theorem toBinary64_one : toBinary64 1 = 1 := by decide +kernel

theorem toBinary64_nonneg {q : ℚ} (h : 0 ≤ q) : 0 ≤ toBinary64 q := by
  have hle := le_toBinary64 (q := q) (n := 0) (by simpa using h)
  simpa using hle

theorem toBinary64_nonpos {q : ℚ} (h : q ≤ 0) : toBinary64 q ≤ 0 := by
  have hle := toBinary64_le (q := q) (n := 0) (by simpa using h)
  simpa using hle

theorem binaryExponent_mono {q q' : ℚ} (hq : 0 < q) (h : q ≤ q') :
    binaryExponent q ≤ binaryExponent q' := by
  have habs : |q| ≤ |q'| := by
    rw [abs_of_pos hq, abs_of_pos (hq.trans_le h)]
    exact h
  have hlog : Int.log 2 |q| ≤ Int.log 2 |q'| := Int.log_mono_right (abs_pos.mpr hq.ne') habs
  exact max_le_max (by omega) le_rfl

/-- Conversion keeps the order. -/
theorem toBinary64_mono {q q' : ℚ} (hq : 0 ≤ q) (h : q ≤ q') : toBinary64 q ≤ toBinary64 q' := by
  rcases hq.eq_or_lt with rfl | hpos
  · rw [toBinary64_zero]
    exact toBinary64_nonneg h
  · have hpos' : 0 < q' := hpos.trans_le h
    rcases (binaryExponent_mono hpos h).eq_or_lt with heq | hlt
    · -- both are rounded to the same unit
      have hunit := two_zpow_pos (binaryExponent q')
      have hround : Decimal.roundHalfEven (q / 2 ^ binaryExponent q') ≤
          Decimal.roundHalfEven (q' / 2 ^ binaryExponent q') :=
        Decimal.roundHalfEven_mono (div_le_div_of_nonneg_right h hunit.le)
      unfold toBinary64
      rw [heq]
      exact mul_le_mul_of_nonneg_right (by exact_mod_cast hround) hunit.le
    · -- a power of two separates them, a whole number of units of either
      have hexponent' : binaryExponent q' = Int.log 2 |q'| - 52 := by
        unfold binaryExponent at hlt ⊢
        omega
      have hlog : Int.log 2 |q| < Int.log 2 |q'| := by
        unfold binaryExponent at hlt
        omega
      obtain ⟨n, hn⟩ : ∃ n : ℕ, Int.log 2 |q'| = binaryExponent q + n :=
        ⟨(Int.log 2 |q'| - binaryExponent q).toNat, by omega⟩
      have hbelow : q ≤ 2 ^ Int.log 2 |q'| := by
        have hlt := (Int.lt_zpow_iff_log_lt (by norm_num) (abs_pos.mpr hpos.ne')).mpr hlog
        rw [abs_of_pos hpos] at hlt
        exact_mod_cast hlt.le
      have habove : (2 : ℚ) ^ Int.log 2 |q'| ≤ q' := by
        have hle := Int.zpow_log_le_self (R := ℚ) (b := 2) (by norm_num) (abs_pos.mpr hpos'.ne')
        rw [abs_of_pos hpos'] at hle ⊢
        exact_mod_cast hle
      have hunits := two_zpow_units (binaryExponent q) n
      have hunits' := two_zpow_units (binaryExponent q') 52
      rw [← hn] at hunits
      rw [show binaryExponent q' + (52 : ℕ) = Int.log 2 |q'| by push_cast; omega] at hunits'
      calc toBinary64 q
          ≤ ((2 ^ n : ℤ) : ℚ) * 2 ^ binaryExponent q :=
            toBinary64_le (by rw [← hunits]; exact hbelow)
        _ = ((2 ^ 52 : ℤ) : ℚ) * 2 ^ binaryExponent q' := by rw [← hunits, hunits']
        _ ≤ toBinary64 q' := le_toBinary64 (by rw [← hunits']; exact habove)

/-- A number from 1 on is off by at most its share of `2 ^ 52`. -/
theorem toBinary64_le_add {q : ℚ} (h : 1 ≤ q) : toBinary64 q ≤ q + q / 2 ^ 52 := by
  have hpos : 0 < q := zero_lt_one.trans_le h
  have hlog : 0 ≤ Int.log 2 |q| := by
    rw [abs_of_pos hpos, ← Int.zpow_le_iff_le_log (by norm_num) hpos]
    simpa using h
  have hexponent : binaryExponent q = Int.log 2 |q| - (52 : ℕ) := by
    unfold binaryExponent
    push_cast
    omega
  have hunit := two_zpow_pos (binaryExponent q)
  have hunit_le : (2 : ℚ) ^ binaryExponent q ≤ q / 2 ^ 52 := by
    have hle := Int.zpow_log_le_self (R := ℚ) (b := 2) (by norm_num) (abs_pos.mpr hpos.ne')
    rw [hexponent, zpow_sub₀ (by norm_num), zpow_natCast]
    refine div_le_div_of_nonneg_right ?_ (by positivity)
    rw [abs_of_pos hpos] at hle ⊢
    exact_mod_cast hle
  have hhalf := Decimal.roundHalfEven_le_add_half (q / 2 ^ binaryExponent q)
  have hscaled := mul_le_mul_of_nonneg_right hhalf hunit.le
  unfold toBinary64
  rw [add_mul, div_mul_cancel₀ _ hunit.ne'] at hscaled
  linarith

example : toBinary64 (1 / 10) = 3602879701896397 / 2 ^ 55 := by decide +kernel

/-- A rounded number has at most 53 significant bits. -/
theorem abs_roundHalfEven_le (q : ℚ) :
    |Decimal.roundHalfEven (q / 2 ^ binaryExponent q)| ≤ 2 ^ 53 := by
  have hunit := two_zpow_pos (binaryExponent q)
  have habs : |q| ≤ ((2 ^ 53 : ℤ) : ℚ) * 2 ^ binaryExponent q := by
    have hlt := (Int.lt_zpow_succ_log_self (b := 2) (by norm_num) |q|).le
    have hunits := two_zpow_units (binaryExponent q) 53
    rw [← hunits]
    refine hlt.trans (zpow_le_zpow_right₀ (by norm_num) ?_)
    unfold binaryExponent
    push_cast
    omega
  obtain ⟨hlow, hhigh⟩ := abs_le.mp habs
  rw [abs_le]
  constructor
  · refine Decimal.le_roundHalfEven ((le_div_iff₀ hunit).mpr ?_)
    push_cast at hlow ⊢
    linarith
  · exact Decimal.roundHalfEven_le ((div_le_iff₀ hunit).mpr hhigh)

/-- A whole number of units that are not smaller than its own is a double. -/
theorem toBinary64_of_units {q : ℚ} (n : ℤ) (h : q = n * 2 ^ binaryExponent q) :
    toBinary64 q = q := by
  apply le_antisymm
  · calc toBinary64 q ≤ n * 2 ^ binaryExponent q := toBinary64_le h.le
      _ = q := h.symm
  · calc q = n * 2 ^ binaryExponent q := h
      _ ≤ toBinary64 q := le_toBinary64 h.ge

/-- A number of 53 bits in units of a power of two is a double. -/
theorem toBinary64_of_bits {n e : ℤ} (hn : |n| < 2 ^ 53) (he : -1074 ≤ e) :
    toBinary64 (n * 2 ^ e) = n * 2 ^ e := by
  by_cases hzero : n = 0
  · rw [hzero, Int.cast_zero, zero_mul, toBinary64_zero]
  have hunit := two_zpow_pos e
  have hbits : |(n : ℚ)| < (2 ^ 53 : ℤ) := by exact_mod_cast hn
  have habs : |(n : ℚ) * 2 ^ e| = |(n : ℚ)| * 2 ^ e := by rw [abs_mul, abs_of_pos hunit]
  have hpos : (0 : ℚ) < |(n : ℚ) * 2 ^ e| := by
    rw [habs]
    exact mul_pos (abs_pos.mpr (by exact_mod_cast hzero)) hunit
  have hlog : Int.log 2 |(n : ℚ) * 2 ^ e| < e + 53 := by
    apply (Int.lt_zpow_iff_log_lt (by norm_num) hpos).mp
    rw [habs]
    calc |(n : ℚ)| * 2 ^ e < ((2 ^ 53 : ℤ) : ℚ) * 2 ^ e := mul_lt_mul_of_pos_right hbits hunit
      _ = _ := by exact_mod_cast (two_zpow_units e 53).symm
  -- the unit of the conversion divides the given one, so nothing is rounded
  have hle : binaryExponent ((n : ℚ) * 2 ^ e) ≤ e := by
    unfold binaryExponent
    omega
  obtain ⟨k, hk⟩ : ∃ k : ℕ, e = binaryExponent ((n : ℚ) * 2 ^ e) + k :=
    ⟨(e - binaryExponent ((n : ℚ) * 2 ^ e)).toNat, by omega⟩
  have hunits := two_zpow_units (binaryExponent ((n : ℚ) * 2 ^ e)) k
  rw [← hk] at hunits
  apply toBinary64_of_units (n * 2 ^ k)
  calc (n : ℚ) * 2 ^ e = n * (((2 ^ k : ℤ) : ℚ) * 2 ^ binaryExponent ((n : ℚ) * 2 ^ e)) := by
        rw [← hunits]
    _ = ((n * 2 ^ k : ℤ) : ℚ) * 2 ^ binaryExponent ((n : ℚ) * 2 ^ e) := by
        push_cast
        ring

/-- The conversion of a double is the double itself. -/
theorem toBinary64_idem (q : ℚ) : toBinary64 (toBinary64 q) = toBinary64 q := by
  have hlow : -1074 ≤ binaryExponent q := le_max_right _ _
  rcases (abs_roundHalfEven_le q).lt_or_eq with hlt | heq
  · exact toBinary64_of_bits hlt hlow
  · -- it was rounded up to the next power of two, a whole number of units twice as large
    obtain ⟨n, hn, hround⟩ : ∃ n : ℤ, |n| < 2 ^ 53 ∧
        Decimal.roundHalfEven (q / 2 ^ binaryExponent q) = n * 2 := by
      rcases abs_choice (Decimal.roundHalfEven (q / 2 ^ binaryExponent q)) with hsign | hsign
      · exact ⟨2 ^ 52, by norm_num, by omega⟩
      · exact ⟨-2 ^ 52, by norm_num, by omega⟩
    have hunits := two_zpow_units (binaryExponent q) 1
    have hq : toBinary64 q = n * 2 ^ (binaryExponent q + (1 : ℕ)) := by
      unfold toBinary64
      rw [hunits, hround]
      push_cast
      ring
    rw [hq]
    exact toBinary64_of_bits hn (by omega)

end Lib
