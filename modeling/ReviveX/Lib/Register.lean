import Mathlib.Data.List.Basic
import Mathlib.Data.List.Perm.Basic
import Mathlib.Order.Nat
import Mathlib.Tactic.Common

/-!
# Registers with precedence

A register holds at most one value. A write replaces the value unless the value has a higher
rank, so the rank that is reached does not depend on the order of the writes. Which value of
that rank is held does: it is the one written last, unless the rank has only one value.
-/

namespace Lib.Register

variable {α : Type*} (rank : α → ℕ)

/-- Write a value, unless a value of a higher rank is there. -/
def write : Option α → α → Option α
  | none, a => some a
  | some held, a => if rank a < rank held then some held else some a

/-- The rank that a register has reached; an empty one is below all others. -/
def level : Option α → ℕ
  | none => 0
  | some a => rank a + 1

theorem level_write (r : Option α) (a : α) :
    level rank (write rank r a) = max (level rank r) (rank a + 1) := by
  cases r with
  | none => simp [write, level]
  | some held =>
    unfold write
    dsimp only
    split <;> simp only [level] <;> omega

/-- A write never lowers the rank. -/
theorem level_le_write (r : Option α) (a : α) : level rank r ≤ level rank (write rank r a) := by
  rw [level_write]
  exact le_max_left _ _

/-- The rank after a list of writes. -/
theorem level_foldl (r : Option α) (l : List α) :
    level rank (l.foldl (write rank) r) =
      l.foldl (fun n a => max n (rank a + 1)) (level rank r) := by
  induction l generalizing r with
  | nil => rfl
  | cons a rest ih =>
    rw [List.foldl_cons, List.foldl_cons, ih, level_write]

theorem level_le_foldl (r : Option α) (l : List α) :
    level rank r ≤ level rank (l.foldl (write rank) r) := by
  induction l generalizing r with
  | nil => exact le_rfl
  | cons a rest ih => exact (level_le_write rank r a).trans (ih _)

/-- The rank does not depend on the order of the writes. -/
theorem level_foldl_perm (r : Option α) {l l' : List α} (h : l.Perm l') :
    level rank (l.foldl (write rank) r) = level rank (l'.foldl (write rank) r) := by
  have hcomm : RightCommutative fun (n : ℕ) (a : α) => max n (rank a + 1) :=
    ⟨fun n a b => by omega⟩
  rw [level_foldl, level_foldl, h.foldl_eq]

/-- The value that is held was there, or was written. -/
theorem foldl_mem (r : Option α) (l : List α) {a : α}
    (h : l.foldl (write rank) r = some a) : r = some a ∨ a ∈ l := by
  induction l generalizing r with
  | nil => exact .inl h
  | cons b rest ih =>
    rcases ih (write rank r b) h with hwrite | hmem
    · cases r with
      | none => exact .inr (by simp [write] at hwrite; simp [hwrite])
      | some held =>
        unfold write at hwrite
        dsimp only at hwrite
        split at hwrite
        · exact .inl hwrite
        · exact .inr (by simp [Option.some.inj hwrite])
    · exact .inr (List.mem_cons_of_mem b hmem)

/-- Everything written is at most the rank that is reached. -/
theorem rank_lt_level_foldl (r : Option α) {l : List α} {a : α} (h : a ∈ l) :
    rank a < level rank (l.foldl (write rank) r) := by
  induction l generalizing r with
  | nil => exact absurd h List.not_mem_nil
  | cons b rest ih =>
    rcases List.mem_cons.mp h with rfl | hrest
    · have hwrite := level_write rank r a
      have hle := level_le_foldl rank (write rank r a) rest
      rw [List.foldl_cons]
      omega
    · exact ih (write rank r b) hrest

/-- Where a rank has only one value from `top` on, the value does not depend on the order of
the writes either, once that rank is reached. -/
theorem foldl_eq_of_perm {top : ℕ} (hone : ∀ a b, top ≤ rank a → rank a = rank b → a = b)
    (r : Option α) {l l' : List α} (h : l.Perm l')
    (htop : top < level rank (l.foldl (write rank) r)) :
    l.foldl (write rank) r = l'.foldl (write rank) r := by
  have hlevel := level_foldl_perm rank r h
  rw [hlevel] at htop
  cases hl : l.foldl (write rank) r with
  | none =>
    rw [hl] at hlevel
    rw [← hlevel] at htop
    exact absurd htop (Nat.not_lt_zero _)
  | some a =>
    cases hl' : l'.foldl (write rank) r with
    | none =>
      rw [hl'] at htop
      exact absurd htop (Nat.not_lt_zero _)
    | some b =>
      rw [hl, hl'] at hlevel
      rw [hl'] at htop
      simp only [level] at hlevel htop
      have hsame : a = b := hone a b (by omega) (by omega)
      rw [hsame]

/-- Writes of the lowest rank only, into a register that holds no more: the last one stays. -/
theorem foldl_eq_getLast {r : Option α} {l : List α} (hr : level rank r ≤ 1)
    (hl : ∀ a ∈ l, rank a = 0) : l.foldl (write rank) r = l.getLast?.or r := by
  induction l generalizing r with
  | nil => simp
  | cons a rest ih =>
    have hzero : rank a = 0 := hl a List.mem_cons_self
    have hwrite : write rank r a = some a := by
      cases r with
      | none => rfl
      | some held =>
        have hheld : rank held = 0 := by
          simp only [level] at hr
          omega
        unfold write
        simp [hzero, hheld]
    rw [List.foldl_cons, hwrite, ih (by simp [level, hzero]) fun b hb =>
      hl b (List.mem_cons_of_mem a hb)]
    cases rest with
    | nil => rfl
    | cons b rest => simp [List.getLast?_cons]

end Lib.Register
