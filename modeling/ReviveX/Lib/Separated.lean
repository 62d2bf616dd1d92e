import Mathlib.Tactic.Common

/-!
# Texts with a separator

A list that is cut at a separator determines the part before the first cut and the part after
the last one. The decimal text of a natural number holds digits only, so it can stand next to
any separator that is no digit.
-/

namespace Lib

variable {α : Type} {c : α} {xs xs' ys ys' : List α} {m n : ℕ} {separator : Char}

/-- The part before the first separator. -/
theorem cut_inj (h : c ∉ xs) (h' : c ∉ xs') (heq : xs ++ c :: ys = xs' ++ c :: ys') :
    xs = xs' ∧ ys = ys' := by
  induction xs generalizing xs' with
  | nil =>
    cases xs' with
    | nil => exact ⟨rfl, (List.cons.inj heq).2⟩
    | cons b xs' =>
      have hhead : c = b := (List.cons.inj heq).1
      exact absurd (hhead ▸ List.mem_cons_self) h'
  | cons a xs ih =>
    cases xs' with
    | nil =>
      have hhead : a = c := (List.cons.inj heq).1
      exact absurd (hhead ▸ List.mem_cons_self) h
    | cons b xs' =>
      have hparts := List.cons.inj heq
      have hrest := ih (fun hmem => h (.tail _ hmem)) (fun hmem => h' (.tail _ hmem)) hparts.2
      rw [hparts.1, hrest.1]
      exact ⟨rfl, hrest.2⟩

/-- The part after the last separator. -/
theorem cut_inj_right (h : c ∉ ys) (h' : c ∉ ys') (heq : xs ++ c :: ys = xs' ++ c :: ys') :
    xs = xs' ∧ ys = ys' := by
  have hreversed : ys.reverse ++ c :: xs.reverse = ys'.reverse ++ c :: xs'.reverse := by
    have hreverse := congrArg List.reverse heq
    simpa using hreverse
  have hparts := cut_inj (by simpa using h) (by simpa using h') hreversed
  exact ⟨List.reverse_inj.mp hparts.2, List.reverse_inj.mp hparts.1⟩

theorem toList_natText (n : ℕ) : (toString n).toList = Nat.toDigits 10 n := by
  show (Nat.repr n).toList = _
  exact String.toList_ofList

theorem natText_inj (h : toString m = toString n) : m = n := by
  have hdigits : Nat.toDigits 10 m = Nat.toDigits 10 n := by
    rw [← toList_natText, ← toList_natText, h]
  have hread := congrArg (Nat.ofDigitChars 10 · 0) hdigits
  simpa using hread

/-- A character that is no digit does not occur in the text of a number. -/
theorem notMem_natText (h : separator.isDigit = false) (n : ℕ) :
    separator ∉ (toString n).toList := by
  intro hmem
  rw [toList_natText] at hmem
  have hdigit := Nat.isDigit_of_mem_toDigits (by decide) (by decide) hmem
  rw [h] at hdigit
  cases hdigit

end Lib
