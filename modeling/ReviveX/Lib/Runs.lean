import Mathlib.Tactic.Common

/-!
# Runs of a labelled step relation

`Run step s labels s'`: the steps with these labels lead from `s` to `s'`. A condition on
the steps of a run is a smaller step relation, so "in every run whose steps meet `C`" is a
statement about `Run (Guarded step C)`.
-/

namespace Lib

variable {σ τ ι : Type}

/-- Finite runs, the last step outermost. -/
inductive Run (step : σ → ι → σ → Prop) (s : σ) : List ι → σ → Prop
  | nil : Run step s [] s
  | snoc {labels : List ι} {s' s'' : σ} {i : ι} (before : Run step s labels s')
      (last : step s' i s'') : Run step s (labels ++ [i]) s''

/-- The steps that meet a condition on the state before them. -/
def Guarded (step : σ → ι → σ → Prop) (C : σ → ι → Prop) (s : σ) (i : ι) (s' : σ) : Prop :=
  C s i ∧ step s i s'

namespace Run

variable {step step' : σ → ι → σ → Prop} {s s' s'' : σ} {labels labels' : List ι} {i : ι}

theorem single (h : step s i s') : Run step s [i] s' := .snoc .nil h

theorem trans (h : Run step s labels s') (h' : Run step s' labels' s'') :
    Run step s (labels ++ labels') s'' := by
  induction h' with
  | nil =>
    rw [List.append_nil]
    exact h
  | snoc _ last ih =>
    rw [← List.append_assoc]
    exact ih.snoc last

/-- What every step preserves holds after the run. -/
theorem invariant {P : σ → Prop} (hstep : ∀ s i s', P s → step s i s' → P s')
    (hrun : Run step s labels s') (hstart : P s) : P s' := by
  induction hrun with
  | nil => exact hstart
  | snoc _ last ih => exact hstep _ _ _ ih last

/-- A preorder that every step follows, under an invariant, relates the ends of the run. -/
theorem relates {P : σ → Prop} {R : σ → σ → Prop} (hrefl : ∀ s, R s s)
    (htrans : ∀ a b c, R a b → R b c → R a c)
    (hstep : ∀ s i s', P s → step s i s' → P s' ∧ R s s')
    (hrun : Run step s labels s') (hstart : P s) : R s s' := by
  have hkeep : ∀ s i s', P s → step s i s' → P s' := fun s i s' hs h => (hstep s i s' hs h).1
  induction hrun with
  | nil => exact hrefl s
  | snoc before last ih =>
    exact htrans _ _ _ ih (hstep _ _ _ (before.invariant hkeep hstart) last).2

/-- Fewer steps make fewer runs. -/
theorem mono (hstep : ∀ s i s', step s i s' → step' s i s') (hrun : Run step s labels s') :
    Run step' s labels s' := by
  induction hrun with
  | nil => exact .nil
  | snoc _ last ih => exact ih.snoc (hstep _ _ _ last)

/-- A relation between states that every step re-establishes, next to a second system
that follows the labels by a function. -/
theorem simulates {R : σ → τ → Prop} {follow : ι → τ → τ}
    (hstep : ∀ s i s' t, R s t → step s i s' → R s' (follow i t))
    (hrun : Run step s labels s') {t : τ} (hstart : R s t) :
    R s' (labels.foldl (fun t i => follow i t) t) := by
  induction hrun with
  | nil => exact hstart
  | snoc _ last ih =>
    rw [List.foldl_append]
    exact hstep _ _ _ _ ih last

/-! ### Following labels -/

/-- Every label meets the condition where `follow` has led to. -/
def Along (follow : σ → ι → σ) (C : σ → ι → Prop) : σ → List ι → Prop
  | _, [] => True
  | s, i :: rest => C s i ∧ Along follow C (follow s i) rest

instance decidableAlong (follow : σ → ι → σ) (C : σ → ι → Prop) [∀ s i, Decidable (C s i)] :
    ∀ (s : σ) (labels : List ι), Decidable (Along follow C s labels)
  | _, [] => .isTrue trivial
  | s, i :: rest =>
    have := decidableAlong follow C (follow s i) rest
    inferInstanceAs (Decidable (C s i ∧ _))

/-- A system that steps by a function runs along its labels. -/
theorem of_along {follow : σ → ι → σ} {C : σ → ι → Prop} (h : Along follow C s labels) :
    Run (Guarded (fun s i s' => s' = follow s i) C) s labels (labels.foldl follow s) := by
  induction labels generalizing s with
  | nil => exact .nil
  | cons i rest ih => exact (Run.single ⟨h.1, rfl⟩).trans (ih h.2)

end Run

end Lib
