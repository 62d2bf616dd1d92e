import ReviveX.Db.Models
import ReviveX.Lib.Decimal

/-!
# Money

`as_money` quantizes a decimal to whole paise. A money column is already quantized, so on
a stored amount it is the identity, and the amounts of the model are paise.
-/

namespace ReviveX

open Lib (Decimal)

/-- A stored amount as the decimal number of rupees the code computes with. -/
def Money.toDecimal (m : Money) : Decimal := .finite ((m : ℚ) / 100)

/-- `as_money`: round to the paisa, half to even; a NaN, an infinity, a value of more than
28 digits and a negative amount raise. -/
def asMoney : Decimal → Option Money
  | .finite q =>
    let paise := Decimal.roundHalfEven (q * 100)
    if paise < 0 ∨ (10 : ℤ) ^ 28 ≤ paise then none else some paise.toNat
  | .infinity _ => none
  | .nan => none

/-- Only a finite number is money. -/
theorem finite_of_asMoney {value : Decimal} {m : Money} (h : asMoney value = some m) :
    ∃ q, value = .finite q := by
  cases value with
  | finite q => exact ⟨q, rfl⟩
  | infinity negative => cases h
  | nan => cases h

theorem asMoney_finite {q : ℚ} {m : Money} :
    asMoney (.finite q) = some m ↔ Decimal.roundHalfEven (q * 100) = m ∧ (m : ℤ) < 10 ^ 28 := by
  unfold asMoney
  dsimp only
  split
  · simp only [reduceCtorEq, false_iff, not_and]
    intro hround
    omega
  · rename_i hbounds
    have hcast : ((Decimal.roundHalfEven (q * 100)).toNat = m) ↔
        Decimal.roundHalfEven (q * 100) = (m : ℤ) := by
      constructor
      · rintro rfl
        omega
      · intro hround
        omega
    rw [Option.some.injEq, hcast]
    constructor
    · intro hround
      exact ⟨hround, by omega⟩
    · exact And.left

/-- Whole paise are money already. -/
theorem asMoney_paise {m : Money} (h : (m : ℤ) < 10 ^ 28) :
    asMoney (.finite ((m : ℚ) / 100)) = some m := by
  have hwhole : (m : ℚ) / 100 * 100 = ((m : ℤ) : ℚ) := by
    push_cast
    ring
  rw [asMoney_finite, hwhole, Decimal.roundHalfEven_intCast]
  exact ⟨rfl, h⟩

/-- Money is near the value that it was rounded from. -/
theorem asMoney_close {q : ℚ} {m : Money} (h : asMoney (.finite q) = some m) :
    |q * 100 - m| ≤ 1 / 2 := by
  obtain ⟨hround, -⟩ := asMoney_finite.mp h
  have hbelow := Decimal.sub_half_le_roundHalfEven (q * 100)
  have habove := Decimal.roundHalfEven_le_add_half (q * 100)
  rw [hround] at hbelow habove
  push_cast at hbelow habove
  rw [abs_le]
  constructor <;> linarith

end ReviveX
