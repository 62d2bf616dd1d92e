import Mathlib.Algebra.Order.Group.Defs
import Mathlib.Data.List.Count

/-!
# Sliding windows

A limiter admits an event when fewer than `cap` events were admitted in the last `width`.
Then no closed window of that width holds more than `cap` of them, whatever the order in
which their times come.
-/

namespace Lib

variable {α : Type*} [LinearOrder α]

/-- How many of the times are not before `start`. -/
def countSince (times : List α) (start : α) : ℕ := times.countP (start ≤ ·)

theorem countSince_append (times : List α) (t start : α) :
    countSince (times ++ [t]) start = countSince times start + if start ≤ t then 1 else 0 := by
  unfold countSince
  rw [List.countP_append, List.countP_singleton]
  simp

theorem countSince_anti (times : List α) {start start' : α} (h : start ≤ start') :
    countSince times start' ≤ countSince times start := by
  unfold countSince
  refine List.countP_mono_left fun t _ ht => ?_
  rw [decide_eq_true_eq] at ht ⊢
  exact h.trans ht

variable [AddCommGroup α]

/-- How many of the times lie in the closed window of a width that begins at `start`. -/
def windowCount (width : α) (times : List α) (start : α) : ℕ :=
  times.countP fun t => start ≤ t ∧ t ≤ start + width

theorem windowCount_le_countSince (width : α) (times : List α) (start : α) :
    windowCount width times start ≤ countSince times start := by
  unfold windowCount countSince
  refine List.countP_mono_left fun t _ ht => ?_
  rw [decide_eq_true_eq] at ht ⊢
  exact ht.1

/-- One more event that the limiter admits. -/
theorem windowCount_append_le [IsOrderedAddMonoid α] {width t : α} {times : List α} {cap : ℕ}
    (hcap : ∀ start, windowCount width times start ≤ cap)
    (hbelow : countSince times (t - width) < cap) (start : α) :
    windowCount width (times ++ [t]) start ≤ cap := by
  have happend : windowCount width (times ++ [t]) start =
      windowCount width times start + if start ≤ t ∧ t ≤ start + width then 1 else 0 := by
    unfold windowCount
    rw [List.countP_append, List.countP_singleton]
    simp
  rw [happend]
  split
  · rename_i hinside
    -- everything in the window is counted when the event is admitted
    have hstart : t - width ≤ start := sub_le_iff_le_add.mpr hinside.2
    have hcounted : windowCount width times start ≤ countSince times (t - width) :=
      (windowCount_le_countSince width times start).trans (countSince_anti times hstart)
    omega
  · exact hcap start

end Lib
