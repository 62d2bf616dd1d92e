import ReviveX.Lib.Decimal

/-!
# Formulas of decimals

The operations that a formula of decimals is written with, between decimals of any kind, and
the rules that bound a formula: a bound of at most 28 digits that the exact result keeps is kept
by the rounded one, so a formula whose exact results stay between such bounds does not signal.
-/

namespace Lib
namespace Decimal

/-! ## Operations -/

def neg : Decimal → Decimal
  | .finite q => .finite (-q)
  | .infinity negative => .infinity !negative
  | .nan => .nan

/-- `a - b`. -/
def minus? (a b : Decimal) : Option Decimal := add? a b.neg

/-- `a * b`. -/
def times? : Decimal → Decimal → Option Decimal
  | .finite q, b => mul? q b
  | a, .finite q => mul? q a
  | .infinity a, .infinity b => some (.infinity (a ^^ b))
  | .nan, _ => some .nan
  | _, .nan => some .nan

/-- `a / b`; a zero divisor and a quotient of infinities signal. -/
def over? : Decimal → Decimal → Option Decimal
  | .nan, _ => some .nan
  | _, .nan => some .nan
  | a, .finite q => if q = 0 then none else div? a q
  | .finite _, .infinity _ => some (.finite 0)
  | .infinity _, .infinity _ => none

/-- `min(a, b)`: the second where it is less. -/
def min? (a b : Decimal) : Option Decimal := (gt? a b).map fun greater => if greater then b else a

/-- `max(a, b)`: the second where it is greater. -/
def max? (a b : Decimal) : Option Decimal := (gt? b a).map fun greater => if greater then b else a

@[simp] theorem add?_finite (a b : ℚ) : add? (.finite a) (.finite b) = ofExact (a + b) := rfl

@[simp] theorem minus?_finite (a b : ℚ) : minus? (.finite a) (.finite b) = ofExact (a - b) :=
  congrArg ofExact (sub_eq_add_neg a b).symm

@[simp] theorem mul?_finite (a b : ℚ) : mul? a (.finite b) = ofExact (a * b) := rfl

@[simp] theorem times?_finite (a b : ℚ) : times? (.finite a) (.finite b) = ofExact (a * b) := rfl

@[simp] theorem min?_finite (a b : ℚ) :
    min? (.finite a) (.finite b) = some (.finite (min a b)) := by
  unfold min?
  rw [gt?_finite, Option.map_some]
  by_cases hlt : b < a
  · simp [hlt, min_eq_right hlt.le]
  · simp [hlt, min_eq_left (not_lt.mp hlt)]

@[simp] theorem max?_finite (a b : ℚ) :
    max? (.finite a) (.finite b) = some (.finite (max a b)) := by
  unfold max?
  rw [gt?_finite, Option.map_some]
  by_cases hlt : a < b
  · simp [hlt, max_eq_right hlt.le]
  · simp [hlt, max_eq_left (not_lt.mp hlt)]

/-! ## Exact numbers -/

/-- A number that the context keeps as it is. -/
def Exact (q : ℚ) : Prop := ofExact q = some (.finite q)

theorem exact_digits {q : ℚ} (n : ℤ) (d : ℕ) (hq : q = n / 10 ^ d) (hn : |n| < 10 ^ 28) :
    Exact q := by
  rw [hq]
  exact ofExact_digits d hn

theorem exact_zero : Exact 0 := ofExact_zero

theorem exact_one : Exact 1 := exact_digits 1 0 (by norm_num) (by norm_num)

/-- A small multiple of a power of ten in range is exact. -/
theorem exact_units {q : ℚ} (k e : ℤ) (hq : q = k * 10 ^ e) (hk : |k| < 10 ^ 28)
    (he : e ≤ 999972) : Exact q := by
  rw [hq]
  exact ofExact_of_units hk he

/-- An operation overflows where its exact result reaches the first power of ten out of range. -/
theorem ofExact_eq_none {q : ℚ} (h : (10 : ℚ) ^ (1000000 : ℤ) ≤ |q|) : ofExact q = none := by
  have hpos : (0 : ℚ) < |q| := (zpow_pos (by norm_num) _).trans_le h
  have hlog : (1000000 : ℤ) ≤ Int.log 10 |q| :=
    (Int.zpow_le_iff_le_log (by norm_num) hpos).mp (by exact_mod_cast h)
  unfold ofExact
  rw [if_neg (abs_pos.mp hpos)]
  dsimp only
  rw [if_pos (by omega)]

/-- What lies between two exact numbers does not overflow. -/
theorem ofExact_between {lo hi q : ℚ} (hlo : Exact lo) (hhi : Exact hi) (hle : lo ≤ q)
    (hge : q ≤ hi) : ∃ r, ofExact q = some (.finite r) ∧ lo ≤ r ∧ r ≤ hi := by
  have hlog : ∀ {b : ℚ}, Exact b → |q| ≤ |b| → q = 0 ∨ Int.log 10 |q| ≤ 999999 := by
    intro b hb hqb
    by_cases hq : q = 0
    · exact .inl hq
    · have hpos : 0 < |q| := abs_pos.mpr hq
      have hb0 : b ≠ 0 := abs_pos.mp (hpos.trans_le hqb)
      refine .inr ((Int.log_mono_right hpos hqb).trans ?_)
      by_contra hlarge
      unfold Exact ofExact at hb
      rw [if_neg hb0] at hb
      dsimp only at hb
      rw [if_pos (by omega)] at hb
      cases hb
  have hrange : q = 0 ∨ Int.log 10 |q| ≤ 999999 := by
    rcases le_total 0 q with hq | hq
    · exact hlog hhi (abs_le_abs_of_nonneg hq hge)
    · exact hlog hlo (abs_le_abs_of_nonpos hq hle)
  obtain ⟨r, hr⟩ : ∃ r, ofExact q = some (.finite r) := by
    rcases hrange with rfl | hmagnitude
    · exact ⟨0, ofExact_zero⟩
    · by_cases hq : q = 0
      · exact ⟨0, by rw [hq, ofExact_zero]⟩
      · unfold ofExact
        rw [if_neg hq]
        dsimp only
        rw [if_neg (by omega)]
        exact ⟨_, rfl⟩
  exact ⟨r, hr, ofExact_mono hle hlo hr, ofExact_mono hge hr hhi⟩

/-- A result stays on its side of an exact number. -/
theorem Exact.le_ofExact {lo q r : ℚ} (hlo : Exact lo) (hle : lo ≤ q)
    (h : ofExact q = some (.finite r)) : lo ≤ r := ofExact_mono hle hlo h

theorem Exact.ofExact_le {hi q r : ℚ} (hhi : Exact hi) (hge : q ≤ hi)
    (h : ofExact q = some (.finite r)) : r ≤ hi := ofExact_mono hge h hhi

/-! ## Bounded formulas -/

/-- A formula that does not signal, with a number between two bounds. -/
def Within (lo hi : ℚ) (x : Option Decimal) : Prop := ∃ q, x = some (.finite q) ∧ lo ≤ q ∧ q ≤ hi

theorem within_some {lo hi q : ℚ} (hlo : lo ≤ q) (hhi : q ≤ hi) :
    Within lo hi (some (.finite q)) := ⟨q, rfl, hlo, hhi⟩

theorem within_ofExact {lo hi q : ℚ} (hlo : Exact lo) (hhi : Exact hi) (hle : lo ≤ q)
    (hge : q ≤ hi) : Within lo hi (ofExact q) := ofExact_between hlo hhi hle hge

theorem within_minus {lo hi a b : ℚ} (hlo : Exact lo) (hhi : Exact hi) (hle : lo ≤ a - b)
    (hge : a - b ≤ hi) : Within lo hi (minus? (.finite a) (.finite b)) := by
  rw [minus?_finite]
  exact within_ofExact hlo hhi hle hge

/-- The rest of a formula is bounded for what its first part may be. -/
theorem Within.bind {lo hi lo' hi' : ℚ} {x : Option Decimal} {f : Decimal → Option Decimal}
    (hx : Within lo hi x) (hf : ∀ q, lo ≤ q → q ≤ hi → Within lo' hi' (f (.finite q))) :
    Within lo' hi' (x >>= f) := by
  obtain ⟨q, rfl, hlo, hhi⟩ := hx
  exact hf q hlo hhi

/-- The number that a bounded formula is. -/
theorem Within.value {lo hi : ℚ} {d : Decimal} (h : Within lo hi (some d)) :
    ∃ q, d = .finite q ∧ lo ≤ q ∧ q ≤ hi := by
  obtain ⟨q, hq, hbounds⟩ := h
  exact ⟨q, Option.some.inj hq, hbounds⟩

theorem Within.mono {lo hi lo' hi' : ℚ} {x : Option Decimal} (hx : Within lo hi x)
    (hlo : lo' ≤ lo) (hhi : hi ≤ hi') : Within lo' hi' x := by
  obtain ⟨q, rfl, hle, hge⟩ := hx
  exact ⟨q, rfl, hlo.trans hle, hge.trans hhi⟩

end Decimal
end Lib
