import Mathlib.Data.List.Perm.Basic
import Mathlib.Order.Lattice
import Mathlib.Data.Nat.Find
import Mathlib.Data.List.Nodup

/-!
# Bins

Elements that are shared out among bins. When every element is taken by exactly one of them, the
bins together hold the elements, each once. Intervals that are open below and closed above, one
beginning where the one before it ends, are such bins.
-/

namespace Lib

section Keys

variable {α κ : Type*} {takes : κ → α → Bool}

theorem flatMap_filter_singleton {keys : List κ} (hnodup : keys.Nodup) {a : α}
    (h : ∃! k, k ∈ keys ∧ takes k a = true) :
    (keys.flatMap fun k => [a].filter (takes k)) = [a] := by
  obtain ⟨k, ⟨hk, htakes⟩, hunique⟩ := h
  have hother : ∀ k' ∈ keys, k' ≠ k → [a].filter (takes k') = [] := by
    intro k' hk' hne
    have hfalse : takes k' a = false := by
      by_contra htrue
      exact hne (hunique k' ⟨hk', Bool.of_not_eq_false htrue⟩)
    rw [List.filter_singleton, hfalse]
    rfl
  clear hunique
  -- on the keys: the one that takes the element comes first, or later
  induction keys with
  | nil => cases hk
  | cons k' rest ih =>
    obtain ⟨hnot, hrest⟩ := List.nodup_cons.mp hnodup
    rw [List.flatMap_cons]
    rcases List.mem_cons.mp hk with rfl | hmem
    · -- no later bin takes the element again
      have hnil : (rest.flatMap fun k' => [a].filter (takes k')) = [] := by
        apply List.flatMap_eq_nil_iff.mpr
        intro k' hk'
        apply hother k' (List.mem_cons_of_mem _ hk')
        rintro rfl
        exact hnot hk'
      rw [hnil, List.filter_singleton, htakes]
      rfl
    · have hne : k' ≠ k := by
        rintro rfl
        exact hnot hmem
      rw [hother k' List.mem_cons_self hne, List.nil_append]
      exact ih hrest hmem fun k'' hk'' => hother k'' (List.mem_cons_of_mem _ hk'')

/-- Bins of which exactly one takes each element share the elements out. -/
theorem flatMap_filter_perm {keys : List κ} (hnodup : keys.Nodup) {xs : List α}
    (h : ∀ a ∈ xs, ∃! k, k ∈ keys ∧ takes k a = true) :
    (keys.flatMap fun k => xs.filter (takes k)).Perm xs := by
  -- the bins of the first element are put before those of the others
  induction xs with
  | nil => simp
  | cons a rest ih =>
    have hfirst := flatMap_filter_singleton hnodup (h a List.mem_cons_self)
    have hrest := ih fun b hb => h b (List.mem_cons_of_mem _ hb)
    have hsplit : (fun k => (a :: rest).filter (takes k)) =
        fun k => [a].filter (takes k) ++ rest.filter (takes k) := by
      funext k
      rw [← List.filter_append]
      rfl
    rw [hsplit]
    refine (List.flatMap_append_perm keys _ _).symm.trans ?_
    rw [hfirst]
    exact hrest.cons a

end Keys

/-! ## Intervals -/

section Intervals

variable {α : Type*} [LinearOrder α] {lo : ℕ → α} {top a : α} {n i j : ℕ}

/-- Where an interval ends: at the beginning of the next one, and the last one at the top. -/
def upperEdge (lo : ℕ → α) (top : α) (n i : ℕ) : α := if i + 1 = n then top else lo (i + 1)

/-- The first interval contains its lower end. -/
def InInterval (lo : ℕ → α) (top : α) (n i : ℕ) (a : α) : Prop :=
  (if i = 0 then lo i ≤ a else lo i < a) ∧ a ≤ upperEdge lo top n i

instance : Decidable (InInterval lo top n i a) := inferInstanceAs (Decidable (_ ∧ _))

/-- What is not above an interval that is not the last is not in a later one. -/
theorem not_inInterval_later (hmono : ∀ i j, i ≤ j → j < n → lo i ≤ lo j) (hij : i < j)
    (hj : j < n) (ha : a ≤ upperEdge lo top n i) : ¬ InInterval lo top n j a := by
  rintro ⟨hlow, -⟩
  rw [if_neg (by omega)] at hlow
  unfold upperEdge at ha
  rw [if_neg (by omega)] at ha
  exact absurd (ha.trans (hmono (i + 1) j (by omega) hj)) (not_le.mpr hlow)

/-- Between the first lower end and the top lies everything in exactly one interval. -/
theorem existsUnique_inInterval (hn : 0 < n) (hmono : ∀ i j, i ≤ j → j < n → lo i ≤ lo j)
    (hlow : lo 0 ≤ a) (hhigh : a ≤ top) : ∃! i, i < n ∧ InInterval lo top n i a := by
  have hlast : ∃ i, a ≤ upperEdge lo top n i := by
    refine ⟨n - 1, ?_⟩
    unfold upperEdge
    rw [if_pos (by omega)]
    exact hhigh
  -- the first interval that the element is not above
  have hfound := Nat.find_spec hlast
  have hfirst : ∀ j < Nat.find hlast, upperEdge lo top n j < a :=
    fun j hj => not_le.mp (Nat.find_min hlast hj)
  have hbelow : Nat.find hlast < n := by
    by_contra hlarge
    have hj := hfirst (n - 1) (by omega)
    unfold upperEdge at hj
    rw [if_pos (by omega)] at hj
    exact absurd hhigh (not_le.mpr hj)
  generalize Nat.find hlast = i at hfound hfirst hbelow
  have hin : InInterval lo top n i a := by
    refine ⟨?_, hfound⟩
    split
    · subst i
      exact hlow
    · have hbefore := hfirst (i - 1) (by omega)
      unfold upperEdge at hbefore
      rw [if_neg (by omega), Nat.sub_add_cancel (by omega)] at hbefore
      exact hbefore
  refine ⟨i, ⟨hbelow, hin⟩, ?_⟩
  rintro j ⟨hj, hin'⟩
  rcases lt_trichotomy i j with hlt | heq | hgt
  · exact absurd hin' (not_inInterval_later hmono hlt hj hin.2)
  · exact heq.symm
  · exact absurd hin (not_inInterval_later hmono hgt hbelow hin'.2)

end Intervals

end Lib
