import Mathlib.Tactic.Common

/-!
# Logs that only grow

`Grows P log log'`: entries were added to the end of a log, and all of them satisfy `P`.
What is known about the parts of a run is known about the whole, and back.
-/

namespace Lib

variable {α : Type} {P Q : α → Prop} {log log' log'' entries : List α} {a : α}

/-- The second log is the first one with entries added that satisfy `P`. -/
def Grows (P : α → Prop) (log log' : List α) : Prop :=
  ∃ added, log' = log ++ added ∧ ∀ a ∈ added, P a

namespace Grows

theorem refl (P : α → Prop) (log : List α) : Grows P log log :=
  ⟨[], (List.append_nil log).symm, fun _ ha => absurd ha List.not_mem_nil⟩

theorem of_eq (h : log' = log) : Grows P log log' := by
  rw [h]
  exact .refl P log

theorem append (h : ∀ a ∈ entries, P a) : Grows P log (log ++ entries) := ⟨entries, rfl, h⟩

theorem snoc (h : P a) : Grows P log (log ++ [a]) :=
  append fun _ ha => List.mem_singleton.mp ha ▸ h

theorem trans (h : Grows P log log') (h' : Grows P log' log'') : Grows P log log'' := by
  obtain ⟨added, rfl, hadded⟩ := h
  obtain ⟨added', rfl, hadded'⟩ := h'
  rw [List.append_assoc]
  refine append fun a ha => ?_
  rcases List.mem_append.mp ha with ha | ha
  · exact hadded a ha
  · exact hadded' a ha

theorem mono (h : Grows P log log') (hPQ : ∀ a, P a → Q a) : Grows Q log log' := by
  obtain ⟨added, rfl, hadded⟩ := h
  exact append fun a ha => hPQ a (hadded a ha)

/-- What was added satisfies the property, however it is written. -/
theorem added (h : Grows P log (log ++ entries)) : ∀ a ∈ entries, P a := by
  obtain ⟨added, heq, hadded⟩ := h
  obtain rfl := List.append_cancel_left heq
  exact hadded

theorem mem (h : Grows P log log') (ha : a ∈ log) : a ∈ log' := by
  obtain ⟨added, rfl, -⟩ := h
  exact List.mem_append_left _ ha

/-- In two steps, the log grew properly exactly where it did in both of them. -/
theorem trans_iff (h : Grows Q log log') (h' : Grows Q log' log'') :
    Grows P log log'' ↔ Grows P log log' ∧ Grows P log' log'' := by
  constructor
  · obtain ⟨added, rfl, -⟩ := h
    obtain ⟨added', rfl, -⟩ := h'
    intro hgrows
    rw [List.append_assoc] at hgrows
    have hboth := hgrows.added
    exact ⟨append fun a ha => hboth a (List.mem_append_left _ ha),
      append fun a ha => hboth a (List.mem_append_right _ ha)⟩
  · rintro ⟨hfirst, hsecond⟩
    exact hfirst.trans hsecond

/-- Steps that add nothing but entries with the property do not matter. -/
theorem around_iff {log₁ log₂ : List α} (hbefore : Grows P log log₁) (h : Grows Q log₁ log₂)
    (hafter : Grows P log₂ log'') (hPQ : ∀ a, P a → Q a) :
    Grows P log log'' ↔ Grows P log₁ log₂ := by
  rw [trans_iff (hbefore.mono hPQ) (h.trans (hafter.mono hPQ)), trans_iff h (hafter.mono hPQ)]
  exact ⟨fun hgrows => hgrows.2.1, fun hgrows => ⟨hbefore, hgrows, hafter⟩⟩

end Grows

/-! ## Entries that look back -/

/-- Entries were added one after the other, each in the right relation to the log before it. -/
inductive GrowsBy (R : List α → α → Prop) (log : List α) : List α → Prop
  | refl : GrowsBy R log log
  | snoc {log' : List α} {a : α} (before : GrowsBy R log log') (last : R log' a) :
      GrowsBy R log (log' ++ [a])

namespace GrowsBy

variable {R : List α → α → Prop}

theorem trans (h : GrowsBy R log log') (h' : GrowsBy R log' log'') : GrowsBy R log log'' := by
  induction h' with
  | refl => exact h
  | snoc before last ih => exact .snoc ih last

/-- Entries that are right after any log. -/
theorem of_grows (h : Grows P log log') (hR : ∀ log a, P a → R log a) : GrowsBy R log log' := by
  obtain ⟨added, rfl, hadded⟩ := h
  induction added generalizing log with
  | nil =>
    rw [List.append_nil]
    exact .refl
  | cons a rest ih =>
    have hrest : GrowsBy R (log ++ [a]) ((log ++ [a]) ++ rest) :=
      ih fun b hb => hadded b (List.mem_cons_of_mem _ hb)
    rw [List.append_assoc, List.singleton_append] at hrest
    exact (GrowsBy.snoc .refl (hR log a (hadded a List.mem_cons_self))).trans hrest

end GrowsBy

end Lib
