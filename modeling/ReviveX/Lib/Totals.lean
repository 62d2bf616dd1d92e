import Mathlib.Algebra.BigOperators.Group.List.Basic
import Mathlib.Tactic.Ring
import ReviveX.Lib.Decimal

/-!
# Totals of decimal numbers

`sum` over a list of decimal numbers, each addition rounded to the context. An operation on
numbers that are whole multiples of one last digit is exact as long as the result has at most
28 digits, and so is the total of a list.
-/

namespace Lib

namespace Decimal

/-- The number that an operation on numbers yields; none on an overflow. -/
def number? : Option Decimal → Option ℚ
  | some (.finite q) => some q
  | _ => none

/-- `sum(xs)`: from zero, left to right. -/
def sum? (xs : List ℚ) : Option ℚ :=
  xs.foldlM (fun total x => number? (add? (.finite total) (.finite x))) 0

/-- At most `bound` units of the `d`-th digit after the point. -/
def InUnits (d : ℕ) (bound : ℤ) (x : ℚ) : Prop := ∃ n : ℤ, |n| ≤ bound ∧ x = n / 10 ^ d

variable {d : ℕ} {b c : ℤ} {x y : ℚ}

theorem InUnits.bound_nonneg (hx : InUnits d b x) : 0 ≤ b := by
  obtain ⟨n, hn, -⟩ := hx
  exact (abs_nonneg n).trans hn

theorem InUnits.add (hx : InUnits d b x) (hy : InUnits d c y) : InUnits d (b + c) (x + y) := by
  obtain ⟨n, hn, rfl⟩ := hx
  obtain ⟨m, hm, rfl⟩ := hy
  refine ⟨n + m, (abs_add_le n m).trans (add_le_add hn hm), ?_⟩
  push_cast
  ring

theorem InUnits.sub (hx : InUnits d b x) (hy : InUnits d c y) : InUnits d (b + c) (x - y) := by
  obtain ⟨n, hn, rfl⟩ := hx
  obtain ⟨m, hm, rfl⟩ := hy
  refine ⟨n - m, (abs_sub n m).trans (add_le_add hn hm), ?_⟩
  push_cast
  ring

/-- Units of at most 28 digits are exact. -/
theorem InUnits.ofExact (hx : InUnits d b x) (hb : b < 10 ^ 28) :
    Decimal.ofExact x = some (.finite x) := by
  obtain ⟨n, hn, rfl⟩ := hx
  exact ofExact_digits d (hn.trans_lt hb)

theorem InUnits.add? (hx : InUnits d b x) (hy : InUnits d c y) (hb : b + c < 10 ^ 28) :
    number? (Decimal.add? (.finite x) (.finite y)) = some (x + y) := by
  show number? (Decimal.ofExact (x + y)) = _
  rw [(hx.add hy).ofExact hb]
  rfl

theorem InUnits.sub? (hx : InUnits d b x) (hy : InUnits d c y) (hb : b + c < 10 ^ 28) :
    number? (Decimal.sub? x y) = some (x - y) := by
  show number? (Decimal.ofExact (x - y)) = _
  rw [(hx.sub hy).ofExact hb]
  rfl

/-- The total of a list added to what was added before. -/
theorem foldlM_add? (xs : List ℚ) (hx : InUnits d c x) (hxs : ∀ y ∈ xs, InUnits d b y)
    (hb : c + xs.length * b < 10 ^ 28) :
    xs.foldlM (fun total y => number? (add? (.finite total) (.finite y))) x =
      some (x + xs.sum) ∧ InUnits d (c + xs.length * b) (x + xs.sum) := by
  -- `c` bounds what was added before; it grows by `b` with every entry
  induction xs generalizing x c with
  | nil => simpa using hx
  | cons y xs ih =>
    have hy := hxs y List.mem_cons_self
    have hlength : ((y :: xs).length : ℤ) * b = b + xs.length * b := by
      push_cast [List.length_cons]
      ring
    have hrest : 0 ≤ (xs.length : ℤ) * b := mul_nonneg (by omega) hy.bound_nonneg
    rw [hlength, ← add_assoc] at hb ⊢
    rw [List.foldlM_cons, hx.add? hy (by omega), List.sum_cons, ← add_assoc]
    exact ih (hx.add hy) (fun z hz => hxs z (List.mem_cons_of_mem y hz)) hb

/-- The total of a list is exact. -/
theorem sum?_exact {xs : List ℚ} (hxs : ∀ y ∈ xs, InUnits d b y)
    (hb : xs.length * b < 10 ^ 28) :
    sum? xs = some xs.sum ∧ InUnits d (xs.length * b) xs.sum := by
  have hzero : InUnits d 0 0 := ⟨0, le_rfl, by simp⟩
  have hfold := foldlM_add? xs hzero hxs (by rwa [zero_add])
  rw [zero_add, zero_add] at hfold
  exact hfold

end Decimal

end Lib
