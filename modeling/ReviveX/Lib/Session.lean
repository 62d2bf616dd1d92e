import Mathlib.Tactic.Common

/-!
# Sessions: stateful computations that keep their state when they raise

A `Session σ ε α` reads and writes a state `σ` and either returns an `α` or raises an
`ε`. Unlike a computation in a rolled-back transaction, the state written before a raise
is still there afterwards: the caller decides whether to keep it (`commit`) or to go back
to the state it started from (`transact`).

Facts about sessions compose along `>>=`:

- `Keeps R m`: every outcome of `m` is related by `R` to the state `m` started from;
- `Returns P m` and `Raises P m`: whatever `m` returns, or raises, satisfies `P`;
- `Spec m s Q E`: from the state `s`, `m` returns with `Q` or raises with `E`.
-/

namespace Lib

/-- A computation over the state `σ` that returns an `α` or raises an `ε`. -/
def Session (σ ε α : Type) := σ → Except ε α × σ

namespace Session

variable {σ ε α β : Type}

/-- Run a session from a state. -/
def run (m : Session σ ε α) (s : σ) : Except ε α × σ := m s

/-- Return a value and leave the state alone. -/
protected def pure (a : α) : Session σ ε α := fun s => (.ok a, s)

/-- Run `m`; when it returns, go on with its value, when it raises, stop there. -/
protected def bind (m : Session σ ε α) (f : α → Session σ ε β) : Session σ ε β := fun s =>
  match m s with
  | (.ok a, s') => f a s'
  | (.error e, s') => (.error e, s')

instance : Monad (Session σ ε) where
  pure := Session.pure
  bind := Session.bind

/-- Read the state. -/
def get : Session σ ε σ := fun s => (.ok s, s)

/-- Rewrite the state. -/
def modify (f : σ → σ) : Session σ ε Unit := fun s => (.ok (), f s)

/-- Rewrite the state and return an observation of the state before. -/
def modifyGet (f : σ → α × σ) : Session σ ε α := fun s => (.ok (f s).1, (f s).2)

/-- Stop with an error. -/
def raise (e : ε) : Session σ ε α := fun s => (.error e, s)

/-- Continue with the value of an `Except`, or raise its error. -/
def ofExcept (x : Except ε α) : Session σ ε α := fun s => (x, s)

/-- Run `m`; when it raises `e`, run `h e` and raise `e` again. -/
def onError (m : Session σ ε α) (h : ε → Session σ ε Unit) : Session σ ε α := fun s =>
  match m s with
  | (.ok a, s') => (.ok a, s')
  | (.error e, s') =>
    match h e s' with
    | (.ok (), s'') => (.error e, s'')
    | (.error e', s'') => (.error e', s'')

/-- Run `m`; when it raises `e`, go on with `h e` from the state at the raise. -/
def recover (m : Session σ ε α) (h : ε → Session σ ε α) : Session σ ε α := fun s =>
  match m s with
  | (.ok a, s') => (.ok a, s')
  | (.error e, s') => h e s'

/-- Keep the state of a session whose outcome `keep` accepts, and the state before it
otherwise. -/
def transact (keep : ε → Bool) (m : Session σ ε α) : Session σ ε α := fun s =>
  match m s with
  | (.ok a, s') => (.ok a, s')
  | (.error e, s') => (.error e, if keep e then s' else s)

/-- Run on the first half of the state. -/
def first {τ : Type} (m : Session σ ε α) : Session (σ × τ) ε α := fun s =>
  ((m s.1).1, (m s.1).2, s.2)

/-- Run on the second half of the state. -/
def second {τ : Type} (m : Session σ ε α) : Session (τ × σ) ε α := fun s =>
  ((m s.2).1, s.1, (m s.2).2)

/-! ## Running -/

@[simp] theorem run_pure (a : α) (s : σ) : (pure a : Session σ ε α).run s = (.ok a, s) := rfl

/-- A session whose result is known. -/
theorem run_of_result {m : Session σ ε α} {s : σ} {x : Except ε α} (h : (m.run s).1 = x) :
    m.run s = (x, (m.run s).2) := by
  rw [← h]

theorem run_bind (m : Session σ ε α) (f : α → Session σ ε β) (s : σ) :
    (m >>= f).run s = match m.run s with
      | (.ok a, s') => (f a).run s'
      | (.error e, s') => (.error e, s') := rfl

theorem run_bind_ok {m : Session σ ε α} {s s' : σ} {a : α} (h : m.run s = (.ok a, s'))
    (f : α → Session σ ε β) : (m >>= f).run s = (f a).run s' := by
  rw [run_bind, h]

theorem run_bind_error {m : Session σ ε α} {s s' : σ} {e : ε} (h : m.run s = (.error e, s'))
    (f : α → Session σ ε β) : (m >>= f).run s = (.error e, s') := by
  rw [run_bind, h]

/-- A sequence returned: both of its halves did. -/
theorem run_bind_eq_ok {m : Session σ ε α} {f : α → Session σ ε β} {s s' : σ} {b : β} :
    (m >>= f).run s = (.ok b, s') ↔
      ∃ a s₁, m.run s = (.ok a, s₁) ∧ (f a).run s₁ = (.ok b, s') := by
  rw [run_bind]
  rcases m.run s with ⟨e | a, s₁⟩
  · simp
  · simp

/-- A sequence ended in its first half, or in its second. -/
theorem run_bind_cases {m : Session σ ε α} {f : α → Session σ ε β} {s s' : σ} {x : Except ε β}
    (h : (m >>= f).run s = (x, s')) :
    (∃ e, m.run s = (.error e, s') ∧ x = .error e) ∨
      ∃ a s₁, m.run s = (.ok a, s₁) ∧ (f a).run s₁ = (x, s') := by
  rw [run_bind] at h
  rcases hm : m.run s with ⟨e | a, s₁⟩
  · rw [hm] at h
    obtain ⟨rfl, rfl⟩ := Prod.mk.inj h
    exact .inl ⟨e, rfl, rfl⟩
  · rw [hm] at h
    exact .inr ⟨a, s₁, rfl, h⟩

theorem bind_assoc {γ : Type} (m : Session σ ε α) (f : α → Session σ ε β)
    (g : β → Session σ ε γ) : m >>= f >>= g = m >>= fun a => f a >>= g := by
  funext s
  show (m >>= f >>= g).run s = (m >>= fun a => f a >>= g).run s
  rw [run_bind, run_bind, run_bind]
  rcases m.run s with ⟨e | a, s₁⟩ <;> rfl

@[simp] theorem run_get (s : σ) : (get : Session σ ε σ).run s = (.ok s, s) := rfl

@[simp] theorem run_modify (f : σ → σ) (s : σ) :
    (modify f : Session σ ε Unit).run s = (.ok (), f s) := rfl

@[simp] theorem run_raise (e : ε) (s : σ) :
    (raise e : Session σ ε α).run s = (.error e, s) := rfl

@[simp] theorem run_ofExcept (x : Except ε α) (s : σ) :
    (ofExcept x : Session σ ε α).run s = (x, s) := rfl

@[simp] theorem run_first {τ : Type} (m : Session σ ε α) (s : σ × τ) :
    m.first.run s = ((m.run s.1).1, (m.run s.1).2, s.2) := rfl

@[simp] theorem run_second {τ : Type} (m : Session σ ε α) (s : τ × σ) :
    m.second.run s = ((m.run s.2).1, s.1, (m.run s.2).2) := rfl

@[simp] theorem run_get_bind (f : σ → Session σ ε β) (s : σ) :
    (get >>= f).run s = (f s).run s := rfl

@[simp] theorem run_modify_bind (g : σ → σ) (f : Unit → Session σ ε β) (s : σ) :
    (modify g >>= f).run s = (f ()).run (g s) := rfl

@[simp] theorem run_modifyGet_bind (g : σ → α × σ) (f : α → Session σ ε β) (s : σ) :
    (modifyGet g >>= f).run s = (f (g s).1).run (g s).2 := rfl

@[simp] theorem run_pure_bind (a : α) (f : α → Session σ ε β) (s : σ) :
    ((pure a : Session σ ε α) >>= f).run s = (f a).run s := rfl

@[simp] theorem run_ite (c : Prop) [Decidable c] (m n : Session σ ε α) (s : σ) :
    (if c then m else n).run s = if c then m.run s else n.run s := by
  split <;> rfl

theorem run_ofExcept_bind (x : Except ε α) (f : α → Session σ ε β) (s : σ) :
    (ofExcept x >>= f).run s = match x with
      | .ok a => (f a).run s
      | .error e => (.error e, s) := by
  cases x <;> rfl

theorem run_onError_ok {m : Session σ ε α} {s s' : σ} {a : α} (h : m.run s = (.ok a, s'))
    (f : ε → Session σ ε Unit) : (m.onError f).run s = (.ok a, s') := by
  unfold run at h
  unfold onError run
  dsimp only
  rw [h]

theorem run_onError_error {m : Session σ ε α} {f : ε → Session σ ε Unit} {s s' s'' : σ} {e : ε}
    (h : m.run s = (.error e, s')) (hf : (f e).run s' = (.ok (), s'')) :
    (m.onError f).run s = (.error e, s'') := by
  unfold run at h hf
  unfold onError run
  dsimp only
  rw [h]
  dsimp only
  rw [hf]

theorem run_onError (m : Session σ ε α) (f : ε → Session σ ε Unit) (s : σ) :
    (m.onError f).run s = match m.run s with
      | (.ok a, s') => (.ok a, s')
      | (.error e, s') => match (f e).run s' with
        | (.ok _, s'') => (.error e, s'')
        | (.error e', s'') => (.error e', s'') := by
  rcases hm : m.run s with ⟨e | a, s₁⟩
  · unfold run at hm ⊢
    unfold onError
    dsimp only
    rw [hm]
    dsimp only
    rcases f e s₁ with ⟨e' | _, s₂⟩ <;> rfl
  · exact run_onError_ok hm f

/-- A session with an error handler returned, or raised and ran the handler. -/
theorem run_onError_cases {m : Session σ ε α} {f : ε → Session σ ε Unit} {s s' : σ}
    {x : Except ε α} (h : (m.onError f).run s = (x, s')) :
    (∃ a, m.run s = (.ok a, s') ∧ x = .ok a) ∨
      ∃ e e' s₁, m.run s = (.error e, s₁) ∧ x = .error e' ∧ ((f e).run s₁).2 = s' ∧
        (((f e).run s₁).1 = .ok () → e' = e) := by
  rw [run_onError] at h
  rcases hm : m.run s with ⟨e | a, s₁⟩
  · rw [hm] at h
    dsimp only at h
    rcases hf : (f e).run s₁ with ⟨e' | _, s₂⟩ <;> rw [hf] at h <;>
      obtain ⟨rfl, rfl⟩ := Prod.mk.inj h
    · exact .inr ⟨e, e', s₁, rfl, rfl, by rw [hf], fun hok => by rw [hf] at hok; cases hok⟩
    · exact .inr ⟨e, e, s₁, rfl, rfl, by rw [hf], fun _ => rfl⟩
  · rw [hm] at h
    obtain ⟨rfl, rfl⟩ := Prod.mk.inj h
    exact .inl ⟨a, rfl, rfl⟩

theorem run_recover_ok {m : Session σ ε α} {s s' : σ} {a : α} (h : m.run s = (.ok a, s'))
    (f : ε → Session σ ε α) : (m.recover f).run s = (.ok a, s') := by
  unfold run at h
  unfold recover run
  dsimp only
  rw [h]

theorem run_recover_error {m : Session σ ε α} {s s' : σ} {e : ε} (h : m.run s = (.error e, s'))
    (f : ε → Session σ ε α) : (m.recover f).run s = (f e).run s' := by
  unfold run at h
  unfold recover run
  dsimp only
  rw [h]

/-- A transaction ends in the state of the session, or raised and went back. -/
theorem transact_state (keep : ε → Bool) (m : Session σ ε α) (s : σ) :
    ((m.transact keep).run s).2 = (m.run s).2 ∨
      (∃ e, (m.run s).1 = .error e) ∧ ((m.transact keep).run s).2 = s := by
  unfold transact run
  dsimp only
  rcases m s with ⟨e | a, s'⟩
  · by_cases hkeep : keep e = true
    · exact .inl (by simp [hkeep])
    · exact .inr ⟨⟨e, rfl⟩, by simp [hkeep]⟩
  · exact .inl rfl

theorem run_transact_ok {keep : ε → Bool} {m : Session σ ε α} {s s' : σ} {a : α}
    (h : m.run s = (.ok a, s')) : (m.transact keep).run s = (.ok a, s') := by
  unfold run at h
  unfold transact run
  dsimp only
  rw [h]

theorem run_transact_error {keep : ε → Bool} {m : Session σ ε α} {s s' : σ} {e : ε}
    (h : m.run s = (.error e, s')) :
    (m.transact keep).run s = (.error e, if keep e then s' else s) := by
  unfold run at h
  unfold transact run
  dsimp only
  rw [h]

/-! ## Frame rules -/

/-- Whatever the outcome of `m`, its final state is related by `R` to its initial one. -/
def Keeps (R : σ → σ → Prop) (m : Session σ ε α) : Prop := ∀ s, R s (m.run s).2

section Keeps

variable {R : σ → σ → Prop}

/-- The state read between two halves of a session can be named. -/
theorem Keeps.bind (htrans : ∀ a b c, R a b → R b c → R a c) {m : Session σ ε α}
    {f : α → Session σ ε β} (hm : Keeps R m) (hf : ∀ a, Keeps R (f a)) : Keeps R (m >>= f) := by
  intro s
  have hms := hm s
  rw [run_bind]
  rcases h : m.run s with ⟨_ | a, s'⟩
  · rw [h] at hms
    exact hms
  · rw [h] at hms
    exact htrans _ _ _ hms (hf a s')

theorem Keeps.of_state_eq (hrefl : ∀ a, R a a) {m : Session σ ε α}
    (h : ∀ s, (m.run s).2 = s) : Keeps R m := by
  intro s
  rw [h s]
  exact hrefl s

theorem Keeps.pure (hrefl : ∀ a, R a a) (a : α) : Keeps R (Pure.pure a : Session σ ε α) :=
  .of_state_eq hrefl fun _ => rfl

theorem Keeps.raise (hrefl : ∀ a, R a a) (e : ε) : Keeps R (Session.raise e : Session σ ε α) :=
  .of_state_eq hrefl fun _ => rfl

theorem Keeps.ofExcept (hrefl : ∀ a, R a a) (x : Except ε α) :
    Keeps R (Session.ofExcept x : Session σ ε α) :=
  .of_state_eq hrefl fun _ => rfl

theorem Keeps.modify {f : σ → σ} (h : ∀ s, R s (f s)) :
    Keeps R (Session.modify f : Session σ ε Unit) := h

theorem Keeps.modifyGet {f : σ → α × σ} (h : ∀ s, R s (f s).2) :
    Keeps R (Session.modifyGet f : Session σ ε α) := h

/-- Reading the state before going on keeps whatever the continuation keeps. -/
theorem Keeps.get_bind {f : σ → Session σ ε β} (hf : ∀ s, Keeps R (f s)) :
    Keeps R (Session.get >>= f) := fun s => hf s s

/-- What comes after an `Except` may use its value. -/
theorem Keeps.ofExcept_bind (hrefl : ∀ a, R a a) {x : Except ε α} {f : α → Session σ ε β}
    (hf : ∀ a, x = .ok a → Keeps R (f a)) : Keeps R (Session.ofExcept x >>= f) := by
  intro s
  rw [run_ofExcept_bind]
  cases x with
  | error e => exact hrefl s
  | ok a => exact hf a rfl s

theorem Keeps.ite {c : Prop} [Decidable c] {m n : Session σ ε α} (hm : Keeps R m)
    (hn : Keeps R n) : Keeps R (if c then m else n) := by
  split
  · exact hm
  · exact hn

theorem Keeps.onError (htrans : ∀ a b c, R a b → R b c → R a c) {m : Session σ ε α}
    {h : ε → Session σ ε Unit} (hm : Keeps R m) (hh : ∀ e, Keeps R (h e)) :
    Keeps R (m.onError h) := by
  intro s
  have hms := hm s
  unfold Session.onError run
  rcases hr : m s with ⟨e | a, s'⟩
  · have hes := hh e s'
    simp only [run, hr] at hms hes ⊢
    rcases he : h e s' with ⟨e' | _, s''⟩
    all_goals
      rw [he] at hes
      exact htrans _ _ _ hms hes
  · simpa [run, hr] using hms

theorem Keeps.recover (htrans : ∀ a b c, R a b → R b c → R a c) {m : Session σ ε α}
    {h : ε → Session σ ε α} (hm : Keeps R m) (hh : ∀ e, Keeps R (h e)) :
    Keeps R (m.recover h) := by
  intro s
  have hms := hm s
  rcases hr : m.run s with ⟨e | a, s'⟩
  · rw [hr] at hms
    rw [run_recover_error hr]
    exact htrans _ _ _ hms (hh e s')
  · rw [hr] at hms
    rw [run_recover_ok hr]
    exact hms

theorem Keeps.transact (hrefl : ∀ a, R a a) {keep : ε → Bool} {m : Session σ ε α}
    (hm : Keeps R m) : Keeps R (m.transact keep) := by
  intro s
  have hms := hm s
  unfold Session.transact run
  rcases hr : m s with ⟨e | a, s'⟩
  · simp only [run, hr] at hms ⊢
    split
    · exact hms
    · exact hrefl s
  · simpa [run, hr] using hms

/-- What a session on half of the state keeps of that half. -/
theorem Keeps.first {τ : Type} {m : Session σ ε α} (hm : Keeps R m) :
    Keeps (fun s s' : σ × τ => R s.1 s'.1) m.first := fun s => hm s.1

/-- A session on the other half of the state leaves this half alone. -/
theorem Keeps.second {τ : Type} (hrefl : ∀ a, R a a) (m : Session τ ε α) :
    Keeps (fun s s' : σ × τ => R s.1 s'.1) m.second := fun s => hrefl s.1

end Keeps

/-! ## Returned values and errors -/

/-- Every value the session returns satisfies `P`. -/
def Returns (P : α → Prop) (m : Session σ ε α) : Prop :=
  ∀ s a s', m.run s = (.ok a, s') → P a

/-- Every error the session raises satisfies `P`. -/
def Raises (P : ε → Prop) (m : Session σ ε α) : Prop :=
  ∀ s e s', m.run s = (.error e, s') → P e

theorem Returns.pure {P : α → Prop} {a : α} (h : P a) :
    Returns P (Pure.pure a : Session σ ε α) := by
  intro s b s' hrun
  obtain ⟨rfl, -⟩ := Prod.mk.inj ((run_pure a s).symm.trans hrun) |>.imp_left Except.ok.inj
  exact h

theorem Returns.raise {P : α → Prop} (e : ε) : Returns P (Session.raise e : Session σ ε α) := by
  intro s a s' hrun
  exact absurd (congrArg Prod.fst hrun) (by simp)

theorem Returns.ofExcept (x : Except ε α) :
    Returns (fun a => x = .ok a) (Session.ofExcept x : Session σ ε α) := by
  intro s a s' hrun
  rw [run_ofExcept] at hrun
  exact (Prod.mk.inj hrun).1

/-- Only the end of a session returns its value. -/
theorem Returns.bind {P : β → Prop} {m : Session σ ε α} {f : α → Session σ ε β}
    (hf : ∀ a, Returns P (f a)) : Returns P (m >>= f) := by
  intro s b s' hrun
  rw [run_bind] at hrun
  rcases hm : m.run s with ⟨e | a, s₁⟩
  · rw [hm] at hrun
    exact absurd (congrArg Prod.fst hrun) (by simp)
  · rw [hm] at hrun
    exact hf a s₁ b s' hrun

/-- The end of a session may use what its beginning returned. -/
theorem Returns.bind_of {P : α → Prop} {Q : β → Prop} {m : Session σ ε α}
    {f : α → Session σ ε β} (hm : Returns P m) (hf : ∀ a, P a → Returns Q (f a)) :
    Returns Q (m >>= f) := by
  intro s b s' hrun
  rw [run_bind] at hrun
  rcases h : m.run s with ⟨e | a, s₁⟩
  · rw [h] at hrun
    exact absurd (congrArg Prod.fst hrun) (by simp)
  · rw [h] at hrun
    exact hf a (hm s a s₁ h) s₁ b s' hrun

theorem Returns.onError {P : α → Prop} {m : Session σ ε α} (hm : Returns P m)
    (h : ε → Session σ ε Unit) : Returns P (m.onError h) := by
  intro s a s' hrun
  rcases hr : m.run s with ⟨e | b, s₁⟩
  · unfold run at hr hrun
    unfold Session.onError at hrun
    rw [hr] at hrun
    dsimp only at hrun
    rcases he : h e s₁ with ⟨e' | _, s₂⟩
    all_goals
      rw [he] at hrun
      exact absurd (congrArg Prod.fst hrun) (by simp)
  · rw [run_onError_ok hr] at hrun
    obtain ⟨rfl, -⟩ := Prod.mk.inj hrun |>.imp_left Except.ok.inj
    exact hm s _ s₁ hr

section Raises

variable {P : ε → Prop}

theorem Raises.of_ok {m : Session σ ε α} (h : ∀ s, ∃ a s', m.run s = (.ok a, s')) :
    Raises P m := by
  intro s e s' hrun
  obtain ⟨a, s₁, hok⟩ := h s
  rw [hok] at hrun
  exact absurd (congrArg Prod.fst hrun) (by simp)

theorem Raises.pure (a : α) : Raises P (Pure.pure a : Session σ ε α) :=
  .of_ok fun s => ⟨a, s, rfl⟩

theorem Raises.modify (f : σ → σ) : Raises P (Session.modify f : Session σ ε Unit) :=
  .of_ok fun s => ⟨(), f s, rfl⟩

theorem Raises.modifyGet (f : σ → α × σ) : Raises P (Session.modifyGet f : Session σ ε α) :=
  .of_ok fun _ => ⟨_, _, rfl⟩

theorem Raises.raise {e : ε} (h : P e) : Raises P (Session.raise e : Session σ ε α) := by
  intro s e' s' hrun
  obtain ⟨rfl, -⟩ := Prod.mk.inj ((run_raise e s).symm.trans hrun) |>.imp_left Except.error.inj
  exact h

theorem Raises.get_bind {f : σ → Session σ ε β} (hf : ∀ s, Raises P (f s)) :
    Raises P (Session.get >>= f) := fun s => hf s s

theorem Raises.bind {m : Session σ ε α} {f : α → Session σ ε β} (hm : Raises P m)
    (hf : ∀ a, Raises P (f a)) : Raises P (m >>= f) := by
  intro s e s' hrun
  rw [run_bind] at hrun
  rcases h : m.run s with ⟨e' | a, s₁⟩
  · rw [h] at hrun
    obtain ⟨rfl, rfl⟩ := Prod.mk.inj hrun |>.imp_left Except.error.inj
    exact hm s _ _ h
  · rw [h] at hrun
    exact hf a s₁ e s' hrun

theorem Raises.ite {c : Prop} [Decidable c] {m n : Session σ ε α} (hm : Raises P m)
    (hn : Raises P n) : Raises P (if c then m else n) := by
  split
  · exact hm
  · exact hn

end Raises

/-! ## Outcome specifications -/

/-- From `s`, the session returns a value and a state in `Q`, or raises with `E`. -/
def Spec (m : Session σ ε α) (s : σ) (Q : α → σ → Prop) (E : ε → σ → Prop) : Prop :=
  match m.run s with
  | (.ok a, s') => Q a s'
  | (.error e, s') => E e s'

section Spec

variable {Q : α → σ → Prop} {E : ε → σ → Prop}

theorem Spec.bind {m : Session σ ε α} {f : α → Session σ ε β} {s : σ} {Q' : β → σ → Prop}
    (h : Spec m s (fun a s' => Spec (f a) s' Q' E) E) : Spec (m >>= f) s Q' E := by
  unfold Spec at h ⊢
  rw [run_bind]
  rcases hr : m.run s with ⟨_ | a, s'⟩ <;> rw [hr] at h <;> exact h

end Spec

end Session

end Lib
