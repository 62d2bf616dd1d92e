import ReviveX.Lib.Session

/-!
# Two sessions side by side

`Agree R V E m n`: from states related by `R`, the sessions `m` and `n` both raise, or they
return values related by `V` and leave states related by `R`; that only one of them raises
needs the excuse `E`. With `E = False` an observer of `V` cannot tell them apart, with
`E = True` only by a raise.
-/

namespace Lib

namespace Session

variable {σ ε α β γ δ : Type} {R : σ → σ → Prop} {E : Prop}

/-- Related values, two errors, or the excuse. -/
def Answers (V : α → β → Prop) (E : Prop) : Except ε α → Except ε β → Prop
  | .ok a, .ok b => V a b
  | .error _, .error _ => True
  | _, _ => E

theorem Answers.refl {V : α → α → Prop} (h : ∀ a, V a a) (x : Except ε α) : Answers V E x x := by
  cases x with
  | ok a => exact h a
  | error e => exact trivial

/-- What two outcomes have to do with each other. -/
def Outcomes (R : σ → σ → Prop) (V : α → β → Prop) (E : Prop) :
    Except ε α × σ → Except ε β × σ → Prop
  | (.ok a, s), (.ok b, t) => V a b ∧ R s t
  | (.error _, _), (.error _, _) => True
  | _, _ => E

/-- What is read off two values compares as they do. -/
theorem Outcomes.answers {V : α → β → Prop} {W : γ → δ → Prop} {m : Session σ ε α}
    {n : Session σ ε β} {f : α → γ} {g : β → δ} {s t : σ} (h : Outcomes R V E (m.run s) (n.run t))
    (hV : ∀ a b, V a b → W (f a) (g b)) :
    Answers W E ((m >>= fun a => pure (f a)).run s).1 ((n >>= fun b => pure (g b)).run t).1 := by
  rw [run_bind, run_bind]
  rcases hm : m.run s with ⟨e | a, s'⟩ <;> rcases hn : n.run t with ⟨e' | b, t'⟩ <;>
    rw [hm, hn] at h
  · exact trivial
  · exact h
  · exact h
  · exact hV a b h.1

/-- From related states, related outcomes. -/
def Agree (R : σ → σ → Prop) (V : α → β → Prop) (E : Prop) (m : Session σ ε α)
    (n : Session σ ε β) : Prop :=
  ∀ s t, R s t → Outcomes R V E (m.run s) (n.run t)

namespace Agree

variable {V : α → β → Prop} {W : γ → δ → Prop} {m : Session σ ε α} {n : Session σ ε β}

theorem pure {a : α} {b : β} (h : V a b) :
    Agree R V E (Pure.pure a : Session σ ε α) (Pure.pure b) := fun _ _ hR => ⟨h, hR⟩

theorem raise (e e' : ε) :
    Agree R V E (Session.raise e : Session σ ε α) (Session.raise e' : Session σ ε β) :=
  fun _ _ _ => trivial

theorem bind {f : α → Session σ ε γ} {g : β → Session σ ε δ} (hm : Agree R V E m n)
    (hf : ∀ a b, V a b → Agree R W E (f a) (g b)) : Agree R W E (m >>= f) (n >>= g) := by
  intro s t hR
  have hfirst := hm s t hR
  rw [run_bind, run_bind]
  rcases hmrun : m.run s with ⟨e | a, s'⟩ <;> rcases hnrun : n.run t with ⟨e' | b, t'⟩ <;>
    rw [hmrun, hnrun] at hfirst
  · exact trivial
  · -- only the first one raised
    dsimp only
    rcases (g b).run t' with ⟨e' | d, t''⟩
    · exact trivial
    · exact hfirst
  · dsimp only
    rcases (f a).run s' with ⟨e | c, s''⟩
    · exact trivial
    · exact hfirst
  · exact hf a b hfirst.1 s' t' hfirst.2

/-- What comes after reading the states may compare what it read. -/
theorem get_bind {f : σ → Session σ ε α} {g : σ → Session σ ε β}
    (h : ∀ s t, R s t → Agree R V E (f s) (g t)) :
    Agree R V E (Session.get >>= f) (Session.get >>= g) := fun s t hR => h s t hR s t hR

theorem modify {f g : σ → σ} (h : ∀ s t, R s t → R (f s) (g t)) :
    Agree R (fun _ _ => True) E (Session.modify f : Session σ ε Unit) (Session.modify g) :=
  fun s t hR => ⟨trivial, h s t hR⟩

theorem modifyGet {f : σ → α × σ} {g : σ → β × σ}
    (h : ∀ s t, R s t → V (f s).1 (g t).1 ∧ R (f s).2 (g t).2) :
    Agree R V E (Session.modifyGet f : Session σ ε α) (Session.modifyGet g) :=
  fun s t hR => h s t hR

/-- The same condition decides both. -/
theorem ite {c : Prop} [Decidable c] {m' : Session σ ε α} {n' : Session σ ε β}
    (hm : Agree R V E m n) (hm' : Agree R V E m' n') :
    Agree R V E (if c then m else m') (if c then n else n') := by
  split
  · exact hm
  · exact hm'

theorem ofExcept {x : Except ε α} {y : Except ε β} (h : Answers V E x y) :
    Agree R V E (Session.ofExcept x) (Session.ofExcept y) := by
  intro s t hR
  rw [run_ofExcept, run_ofExcept]
  rcases x with e | a <;> rcases y with e' | b
  · exact trivial
  · exact h
  · exact h
  · exact ⟨h, hR⟩

end Agree

end Session

end Lib
