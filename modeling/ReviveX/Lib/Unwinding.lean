import Mathlib.Data.List.Basic
import Mathlib.Tactic.Common

/-!
# Unwinding

A deterministic machine takes inputs, some of them hidden from an observer. When hidden inputs
keep a relation between the states of two machines, and visible inputs answer the same on
related states and keep them related, the observer cannot tell a run from the run without the
hidden inputs.
-/

namespace Lib

variable {σ ι ο : Type}

/-- The inputs with their outputs, and the state after them. -/
def outputs (step : σ → ι → ο × σ) : σ → List ι → List (ι × ο) × σ
  | s, [] => ([], s)
  | s, i :: rest =>
    let (o, s') := step s i
    let (os, s'') := outputs step s' rest
    ((i, o) :: os, s'')

theorem outputs_cons (step : σ → ι → ο × σ) (s : σ) (i : ι) (rest : List ι) :
    outputs step s (i :: rest) =
      ((i, (step s i).1) :: (outputs step (step s i).2 rest).1,
        (outputs step (step s i).2 rest).2) := rfl

/-- Hidden inputs do nothing to an observer, visible ones the same on related states. -/
structure Unwinding (step : σ → ι → ο × σ) (isHidden : ι → Bool) (P : ι → Prop)
    (R : σ → σ → Prop) : Prop where
  hidden : ∀ s t i, P i → isHidden i = true → R s t → R (step s i).2 t
  visible : ∀ s t i, P i → isHidden i = false → R s t →
    (step s i).1 = (step t i).1 ∧ R (step s i).2 (step t i).2

/-- The visible outputs of a run are those of the run without the hidden inputs, and the states
are related in the end. -/
theorem Unwinding.outputs {step : σ → ι → ο × σ} {isHidden : ι → Bool} {P : ι → Prop}
    {R : σ → σ → Prop} (h : Unwinding step isHidden P R) {s t : σ} (hst : R s t)
    {inputs : List ι} (hinputs : ∀ i ∈ inputs, P i) :
    (Lib.outputs step s inputs).1.filter (fun io => !isHidden io.1) =
        (Lib.outputs step t (inputs.filter fun i => !isHidden i)).1 ∧
      R (Lib.outputs step s inputs).2
        (Lib.outputs step t (inputs.filter fun i => !isHidden i)).2 := by
  -- a hidden input moves the first run alone, any other one moves both
  induction inputs generalizing s t with
  | nil => exact ⟨rfl, hst⟩
  | cons i rest ih =>
    have hi : P i := hinputs i (by simp)
    have hrest : ∀ j ∈ rest, P j := fun j hj => hinputs j (by simp [hj])
    cases hhidden : isHidden i with
    | true =>
      obtain ⟨hout, hend⟩ := ih (h.hidden s t i hi hhidden hst) hrest
      rw [List.filter_cons_of_neg (by simp [hhidden]), outputs_cons,
        List.filter_cons_of_neg (by simp [hhidden])]
      exact ⟨hout, hend⟩
    | false =>
      obtain ⟨hsame, hstep⟩ := h.visible s t i hi hhidden hst
      obtain ⟨hout, hend⟩ := ih hstep hrest
      rw [List.filter_cons_of_pos (by simp [hhidden]), outputs_cons, outputs_cons,
        List.filter_cons_of_pos (by simp [hhidden]), hout, hsame]
      exact ⟨rfl, hend⟩

end Lib
