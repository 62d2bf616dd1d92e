import Mathlib.Tactic.Common

/-!
# Computations that may raise

Three facts about `Except` that compose along `>>=`: what a computation that returned has
gone through (`bind_eq_ok`), what the errors of a computation have in common (`RaisesOnly`),
and whether it returns (`Yields`).
-/

namespace Lib

variable {ε α β : Type}

/-- A sequence returned: both of its halves did. -/
theorem bind_eq_ok {x : Except ε α} {f : α → Except ε β} {b : β} :
    (x >>= f) = .ok b ↔ ∃ a, x = .ok a ∧ f a = .ok b := by
  cases x with
  | error e => simp [bind, Except.bind]
  | ok a => simp [bind, Except.bind]

theorem map_eq_ok {x : Except ε α} {f : α → β} {b : β} :
    x.map f = .ok b ↔ ∃ a, x = .ok a ∧ f a = b := by
  cases x with
  | error e => simp [Except.map]
  | ok a => simp [Except.map]

theorem toOption_eq_some {x : Except ε α} {a : α} : x.toOption = some a ↔ x = .ok a := by
  cases x with
  | error e => simp [Except.toOption]
  | ok a => simp [Except.toOption]

/-- What a computation raised. -/
def raised? : Except ε α → Option ε
  | .error e => some e
  | .ok _ => none

theorem raised?_eq_some {x : Except ε α} {e : ε} : raised? x = some e ↔ x = .error e := by
  cases x with
  | error e' => simp [raised?]
  | ok a => simp [raised?]

/-- The value satisfies `next`, or the error is `allowed`. -/
def Passes (allowed : ε → Prop) (next : α → Prop) : Except ε α → Prop
  | .ok a => next a
  | .error e => allowed e

/-- A walk over a list in which every step returns. -/
theorem mapM_ok {f : α → Except ε β} {g : α → β} {l : List α} (h : ∀ a ∈ l, f a = .ok (g a)) :
    l.mapM f = .ok (l.map g) := by
  induction l with
  | nil => rfl
  | cons a rest ih =>
    have hrest := ih fun b hb => h b (List.mem_cons_of_mem a hb)
    rw [List.mapM_cons, h a List.mem_cons_self, hrest]
    rfl

/-- A walk over other elements, each of which leads to another answer. -/
theorem mapM_map {γ δ : Type} {f : α → Except ε β} {f' : γ → Except ε δ} {g : α → γ} {h : β → δ}
    {l : List α} (hstep : ∀ a ∈ l, f' (g a) = (f a).map h) :
    (l.map g).mapM f' = (l.mapM f).map (List.map h) := by
  induction l with
  | nil => rfl
  | cons a rest ih =>
    have hrest := ih fun b hb => hstep b (List.mem_cons_of_mem a hb)
    rw [List.map_cons, List.mapM_cons, List.mapM_cons, hstep a List.mem_cons_self, hrest]
    cases f a with
    | error e => rfl
    | ok b => cases rest.mapM f <;> rfl

/-- A walk over a list returned: every step did. -/
theorem of_mapM_ok {f : α → Except ε β} {l : List α} {bs : List β} (h : l.mapM f = .ok bs) {a : α}
    (ha : a ∈ l) : ∃ b, f a = .ok b := by
  induction l generalizing bs with
  | nil => cases ha
  | cons a' rest ih =>
    rw [List.mapM_cons] at h
    obtain ⟨b, hb, h⟩ := bind_eq_ok.mp h
    obtain ⟨bs', hbs, -⟩ := bind_eq_ok.mp h
    rcases List.mem_cons.mp ha with rfl | hrest
    · exact ⟨b, hb⟩
    · exact ih hbs hrest

/-- What a walk over a list returned: the answers of its elements. -/
theorem mem_mapM_ok {f : α → Except ε β} {l : List α} {bs : List β} (h : l.mapM f = .ok bs)
    {b : β} : b ∈ bs ↔ ∃ a ∈ l, f a = .ok b := by
  induction l generalizing bs with
  | nil =>
    obtain rfl : [] = bs := Except.ok.inj h
    simp
  | cons a rest ih =>
    rw [List.mapM_cons] at h
    obtain ⟨b', hb', h⟩ := bind_eq_ok.mp h
    obtain ⟨bs', hbs', h⟩ := bind_eq_ok.mp h
    obtain rfl := Except.ok.inj h
    have hsame : b = b' ↔ f a = .ok b := by
      rw [hb', Except.ok.injEq]
      exact eq_comm
    rw [List.mem_cons, ih hbs', hsame]
    simp only [List.mem_cons, or_and_right, exists_or, exists_eq_left]

/-- A walk over a list returns where every step does. -/
theorem exists_mapM_ok {f : α → Except ε β} {l : List α} (h : ∀ a ∈ l, ∃ b, f a = .ok b) :
    ∃ bs, l.mapM f = .ok bs := by
  induction l with
  | nil => exact ⟨[], rfl⟩
  | cons a rest ih =>
    obtain ⟨b, hb⟩ := h a List.mem_cons_self
    obtain ⟨bs, hbs⟩ := ih fun a' ha' => h a' (List.mem_cons_of_mem a ha')
    refine ⟨b :: bs, ?_⟩
    rw [List.mapM_cons, hb, hbs]
    rfl

/-- What the answers of a walk are about, element by element. -/
theorem map_mapM_ok {γ : Type} {f : α → Except ε β} {g : β → γ} {h : α → γ} {l : List α}
    {bs : List β} (habout : ∀ a b, f a = .ok b → g b = h a) (hwalk : l.mapM f = .ok bs) :
    bs.map g = l.map h := by
  induction l generalizing bs with
  | nil =>
    obtain rfl : [] = bs := Except.ok.inj hwalk
    rfl
  | cons a rest ih =>
    rw [List.mapM_cons] at hwalk
    obtain ⟨b, hb, hwalk⟩ := bind_eq_ok.mp hwalk
    obtain ⟨bs', hbs, hwalk⟩ := bind_eq_ok.mp hwalk
    obtain rfl := Except.ok.inj hwalk
    rw [List.map_cons, List.map_cons, habout a b hb, ih hbs]

/-- A walk with a state returned: every step did. -/
theorem of_foldlM_ok {f : β → α → Except ε β} {l : List α} {b b' : β}
    (h : l.foldlM f b = .ok b') {a : α} (ha : a ∈ l) : ∃ c c', f c a = .ok c' := by
  induction l generalizing b with
  | nil => cases ha
  | cons a' rest ih =>
    rw [List.foldlM_cons] at h
    obtain ⟨c, hc, h⟩ := bind_eq_ok.mp h
    rcases List.mem_cons.mp ha with rfl | hrest
    · exact ⟨b, c, hc⟩
    · exact ih h hrest

/-- Every error of the computation satisfies `P`. -/
def RaisesOnly (P : ε → Prop) (x : Except ε α) : Prop := ∀ e, x = .error e → P e

namespace RaisesOnly

variable {P : ε → Prop}

theorem ok (a : α) : RaisesOnly P (.ok a) := fun _ h => nomatch h

theorem error {e : ε} (h : P e) : RaisesOnly P (.error e : Except ε α) := by
  rintro e' ⟨⟩
  exact h

theorem bind {x : Except ε α} {f : α → Except ε β} (hx : RaisesOnly P x)
    (hf : ∀ a, RaisesOnly P (f a)) : RaisesOnly P (x >>= f) := by
  cases x with
  | error e => exact error (hx e rfl)
  | ok a => exact hf a

theorem ite {c : Prop} [Decidable c] {x y : Except ε α} (hx : RaisesOnly P x)
    (hy : RaisesOnly P y) : RaisesOnly P (if c then x else y) := by
  split
  · exact hx
  · exact hy

/-- An option read with an error for `none`. -/
theorem elim {γ : Type} {o : Option γ} {e : ε} {f : γ → Except ε α} (he : P e)
    (hf : ∀ a, RaisesOnly P (f a)) : RaisesOnly P (o.elim (.error e) f) := by
  cases o with
  | none => exact error he
  | some a => exact hf a

end RaisesOnly

/-- The computation returns. -/
def Yields (x : Except ε α) : Prop := ∃ a, x = .ok a

namespace Yields

theorem ok (a : α) : Yields (.ok a : Except ε α) := ⟨a, rfl⟩

theorem bind_iff {x : Except ε α} {f : α → Except ε β} :
    Yields (x >>= f) ↔ ∃ a, x = .ok a ∧ Yields (f a) := by
  unfold Yields
  simp only [bind_eq_ok]
  constructor
  · rintro ⟨b, a, hx, hf⟩
    exact ⟨a, hx, b, hf⟩
  · rintro ⟨a, hx, b, hf⟩
    exact ⟨b, a, hx, hf⟩

/-- A sequence whose second half returns or not, whatever the first returned. -/
theorem bind_and {x : Except ε α} {f : α → Except ε β} {P Q : Prop} (hx : Yields x ↔ P)
    (hf : ∀ a, Yields (f a) ↔ Q) : Yields (x >>= f) ↔ P ∧ Q := by
  rw [bind_iff, ← hx]
  constructor
  · rintro ⟨a, ha, h⟩
    exact ⟨⟨a, ha⟩, (hf a).mp h⟩
  · rintro ⟨⟨a, ha⟩, h⟩
    exact ⟨a, ha, (hf a).mpr h⟩

/-- A sequence whose second half always returns. -/
theorem bind_of {x : Except ε α} {f : α → Except ε β} {P : Prop} (hx : Yields x ↔ P)
    (hf : ∀ a, Yields (f a)) : Yields (x >>= f) ↔ P := by
  rw [bind_and hx fun a => iff_of_true (hf a) trivial, and_true]

theorem elim_iff {o : Option α} {e : ε} : Yields (o.elim (.error e) .ok) ↔ o.isSome = true := by
  unfold Yields
  cases o <;> simp

theorem not_iff {x : Except ε α} : ¬ Yields x ↔ ∃ e, x = .error e := by
  unfold Yields
  cases x <;> simp

end Yields

end Lib
