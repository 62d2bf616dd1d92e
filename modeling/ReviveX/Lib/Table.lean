import Mathlib.Algebra.Order.BigOperators.Group.List
import Mathlib.Algebra.Order.Group.Nat
import Mathlib.Algebra.GroupWithZero.Nat
import Mathlib.Data.List.Perm.Subperm
import Mathlib.Tactic.Common

/-!
# Tables of rows addressed by position

An append-only table: a row is addressed by the position at which it was inserted, so
an identifier is never reused and a row, once present, stays present. The only two
ways to change a table are

- `insert`, which appends a row and gives it the identifier `nextId`;
- `modify`, which rewrites the row of one identifier.

The lemmas say what each of them does to `get?`, the only observation the rest of a
development needs.
-/

namespace Lib

/-- A list of rows; the identifier of a row is its position. -/
structure Table (α : Type*) where
  rows : List α
deriving DecidableEq

namespace Table

variable {α : Type*}

/-- The table without rows. -/
def empty : Table α := ⟨[]⟩

/-- The row of identifier `i`. -/
def get? (t : Table α) (i : ℕ) : Option α := t.rows[i]?

/-- The identifier that the next inserted row receives. -/
def nextId (t : Table α) : ℕ := t.rows.length

/-- Append a row. -/
def insert (t : Table α) (a : α) : Table α := ⟨t.rows ++ [a]⟩

/-- Rewrite the row of identifier `i`; nothing happens when there is none. -/
def modify (t : Table α) (i : ℕ) (f : α → α) : Table α := ⟨t.rows.modify i f⟩

/-- The rows with their identifiers, oldest first. -/
def entries (t : Table α) : List (ℕ × α) := t.rows.zipIdx.map fun e => (e.2, e.1)

/-- The identifiers of the rows that satisfy `p`, oldest first. -/
def idsWhere (t : Table α) (p : α → Bool) : List ℕ :=
  (t.entries.filter fun e => p e.2).map Prod.fst

/-- The identifier of the oldest row that satisfies `p`. -/
def findId? (t : Table α) (p : α → Bool) : Option ℕ := (t.idsWhere p).head?

/-- The identifier of the newest row that satisfies `p`. -/
def findLastId? (t : Table α) (p : α → Bool) : Option ℕ := (t.idsWhere p).getLast?

/-- How many rows satisfy `p`. -/
def count (t : Table α) (p : α → Bool) : ℕ := t.rows.countP p

/-- Whether some row satisfies `p`. -/
def any (t : Table α) (p : α → Bool) : Bool := t.rows.any p

/-- The sum of `f` over the rows that satisfy `p`. -/
def sumWhere (t : Table α) (p : α → Bool) (f : α → ℕ) : ℕ := ((t.rows.filter p).map f).sum

/-- Write the row of an identifier, which is there or is the next one. -/
def put (t : Table α) (i : ℕ) (a : α) : Table α :=
  if i = t.nextId then t.insert a else t.modify i fun _ => a

/-! ## Observing inserts and updates -/

@[simp] theorem get?_empty (i : ℕ) : (empty : Table α).get? i = none := by
  simp [get?, empty]

theorem get?_insert (t : Table α) (a : α) (i : ℕ) :
    (t.insert a).get? i = if i = t.nextId then some a else t.get? i := by
  unfold get? insert nextId
  rcases Nat.lt_trichotomy i t.rows.length with h | h | h
  · rw [if_neg (by omega), List.getElem?_append_left h]
  · subst h
    simp
  · rw [if_neg (by omega), List.getElem?_append_right (by omega)]
    have hout : t.rows[i]? = none := List.getElem?_eq_none (by omega)
    rw [hout]
    exact List.getElem?_eq_none (by simp; omega)

@[simp] theorem get?_insert_nextId (t : Table α) (a : α) :
    (t.insert a).get? t.nextId = some a := by
  rw [get?_insert, if_pos rfl]

theorem get?_modify (t : Table α) (i j : ℕ) (f : α → α) :
    (t.modify i f).get? j = if i = j then (t.get? j).map f else t.get? j := by
  unfold get? modify
  rw [List.getElem?_modify]
  split <;> simp_all

@[simp] theorem get?_modify_self (t : Table α) (i : ℕ) (f : α → α) :
    (t.modify i f).get? i = (t.get? i).map f := by
  rw [get?_modify, if_pos rfl]

theorem get?_modify_ne (t : Table α) {i j : ℕ} (h : i ≠ j) (f : α → α) :
    (t.modify i f).get? j = t.get? j := by
  rw [get?_modify, if_neg h]

/-- A rewrite that changes nothing. -/
theorem modify_eq_self {t : Table α} {i : ℕ} {a : α} {f : α → α} (h : t.get? i = some a)
    (hf : f a = a) : t.modify i f = t := by
  obtain ⟨rows⟩ := t
  have hrows : rows.modify i f = rows := by
    refine List.ext_getElem? fun j => ?_
    rw [List.getElem?_modify]
    by_cases hj : i = j
    · subst hj
      have hrow : rows[i]? = some a := h
      simp [hrow, hf]
    · simp [hj]
  exact congrArg Table.mk hrows

/-- Only the row that is there is rewritten. -/
theorem modify_congr {t : Table α} {i : ℕ} {a : α} {f g : α → α} (h : t.get? i = some a)
    (hfg : f a = g a) : t.modify i f = t.modify i g := by
  refine congrArg Table.mk (List.ext_getElem? fun j => ?_)
  rw [List.getElem?_modify, List.getElem?_modify]
  by_cases hj : i = j
  · subst hj
    have hrow : t.rows[i]? = some a := h
    simp [hrow, hfg]
  · simp [hj]

theorem modify_modify (t : Table α) (i : ℕ) (f g : α → α) :
    (t.modify i f).modify i g = t.modify i fun a => g (f a) := by
  refine congrArg Table.mk (List.ext_getElem? fun j => ?_)
  show ((t.rows.modify i f).modify i g)[j]? = (t.rows.modify i fun a => g (f a))[j]?
  rw [List.getElem?_modify, List.getElem?_modify, List.getElem?_modify]
  cases t.rows[j]? with
  | none => rfl
  | some a =>
    by_cases hj : i = j
    · simp [hj]
    · simp [hj]

@[simp] theorem nextId_insert (t : Table α) (a : α) : (t.insert a).nextId = t.nextId + 1 := by
  simp [nextId, insert]

@[simp] theorem nextId_modify (t : Table α) (i : ℕ) (f : α → α) :
    (t.modify i f).nextId = t.nextId := by
  simp [nextId, modify]

/-- Rows sit below `nextId`. -/
theorem lt_nextId {t : Table α} {i : ℕ} {a : α} (h : t.get? i = some a) : i < t.nextId := by
  unfold get? at h
  exact (List.getElem?_eq_some_iff.mp h).1

@[simp] theorem get?_nextId (t : Table α) : t.get? t.nextId = none := by
  simp [get?, nextId]

/-- A row that is present is still there, unchanged, after an insert. -/
theorem get?_insert_of_some {t : Table α} {i : ℕ} {a : α} (h : t.get? i = some a) (b : α) :
    (t.insert b).get? i = some a := by
  rw [get?_insert, if_neg (by have := lt_nextId h; omega), h]

theorem put_nextId (t : Table α) (a : α) : t.put t.nextId a = t.insert a := if_pos rfl

theorem put_of_some {t : Table α} {i : ℕ} {a b : α} {f : α → α} (h : t.get? i = some a)
    (hf : f a = b) : t.put i b = t.modify i f := by
  have hne : i ≠ t.nextId := (lt_nextId h).ne
  unfold put
  rw [if_neg hne]
  exact modify_congr h hf.symm

/-- The row that was written is there, the others are as before. -/
theorem get?_put {t : Table α} {i : ℕ} (hi : i ≤ t.nextId) (a : α) (j : ℕ) :
    (t.put i a).get? j = if j = i then some a else t.get? j := by
  by_cases hnext : i = t.nextId
  · subst hnext
    rw [put_nextId, get?_insert]
  · have hrow : (t.get? i).isSome = true := by
      unfold get? nextId at *
      simp
      omega
    obtain ⟨b, hb⟩ := Option.isSome_iff_exists.mp hrow
    have hput : t.put i a = t.modify i fun _ => a := put_of_some hb rfl
    rw [hput, get?_modify]
    by_cases hj : j = i
    · subst hj
      simp [hb]
    · simp [hj, Ne.symm hj]

theorem nextId_put_le (t : Table α) (i : ℕ) (a : α) : t.nextId ≤ (t.put i a).nextId := by
  unfold put
  split
  · rw [nextId_insert]
    omega
  · rw [nextId_modify]

/-! ## Rows of a kind

`KeptWhere p t t'` is the frame condition of a write: whatever happened between the two
tables, the rows that satisfy `p` are the same. -/

/-- The rows that satisfy `p` are the same in both tables. -/
def KeptWhere (p : α → Prop) (t t' : Table α) : Prop :=
  ∀ i a, p a → (t'.get? i = some a ↔ t.get? i = some a)

section KeptWhere

variable {p q : α → Prop} {t t' t'' : Table α}

theorem KeptWhere.refl (p : α → Prop) (t : Table α) : KeptWhere p t t := fun _ _ _ => Iff.rfl

theorem KeptWhere.of_eq (h : t' = t) : KeptWhere p t t' := by
  subst h
  exact .refl p t'

theorem KeptWhere.trans (h : KeptWhere p t t') (h' : KeptWhere p t' t'') :
    KeptWhere p t t'' := fun i a hp => (h' i a hp).trans (h i a hp)

theorem KeptWhere.mono (h : KeptWhere p t t') (hpq : ∀ a, q a → p a) : KeptWhere q t t' :=
  fun i a hq => h i a (hpq a hq)

theorem KeptWhere.insert (t : Table α) {b : α} (hb : ¬ p b) : KeptWhere p t (t.insert b) := by
  intro i a hp
  rw [get?_insert]
  split
  · rename_i hi
    subst hi
    have hne : b ≠ a := by
      rintro rfl
      exact hb hp
    simp [hne]
  · exact Iff.rfl

/-- A rewrite of a row of the other kind, which stays of the other kind. -/
theorem KeptWhere.modify {i : ℕ} {f : α → α}
    (h : ∀ a, t.get? i = some a → ¬ p a ∧ ¬ p (f a)) : KeptWhere p t (t.modify i f) := by
  intro j a hp
  rw [get?_modify]
  split
  · rename_i hij
    subst hij
    cases hrow : t.get? i with
    | none => simp
    | some b =>
      obtain ⟨hbefore, hafter⟩ := h b hrow
      have hne : b ≠ a := by
        rintro rfl
        exact hbefore hp
      have hne' : f b ≠ a := by
        rintro rfl
        exact hafter hp
      simp [hne, hne']
  · exact Iff.rfl

end KeptWhere

/-! ## Aggregates

An update that an aggregate does not look at leaves the aggregate alone. -/

theorem count_insert (t : Table α) (a : α) (p : α → Bool) :
    (t.insert a).count p = t.count p + if p a then 1 else 0 := by
  simp [count, insert, List.countP_append, List.countP_cons]

theorem any_insert (t : Table α) (a : α) (p : α → Bool) :
    (t.insert a).any p = (t.any p || p a) := by
  simp [any, insert]

theorem sumWhere_insert (t : Table α) (a : α) (p : α → Bool) (f : α → ℕ) :
    (t.insert a).sumWhere p f = t.sumWhere p f + if p a then f a else 0 := by
  unfold sumWhere insert
  rw [List.filter_append, List.map_append, List.sum_append]
  by_cases hp : p a <;> simp [hp]

/-- Rewriting a row without changing its image leaves the images alone. -/
private theorem map_modify {β : Type*} (rows : List α) (i : ℕ) {f : α → α} {g : α → β}
    (h : ∀ a, g (f a) = g a) : (rows.modify i f).map g = rows.map g := by
  induction rows generalizing i with
  | nil => simp
  | cons a rest ih =>
    cases i with
    | zero => simp [h]
    | succ i => simp [ih]

theorem count_modify (t : Table α) (i : ℕ) {f : α → α} {p : α → Bool}
    (h : ∀ a, p (f a) = p a) : (t.modify i f).count p = t.count p := by
  have himage := congrArg (List.countP id) (map_modify t.rows i h)
  simpa [count, modify, List.countP_map] using himage

theorem any_modify (t : Table α) (i : ℕ) {f : α → α} {p : α → Bool}
    (h : ∀ a, p (f a) = p a) : (t.modify i f).any p = t.any p := by
  have himage := congrArg (List.any · id) (map_modify t.rows i h)
  simpa [any, modify, List.any_map] using himage

theorem sumWhere_modify (t : Table α) (i : ℕ) {f : α → α} {p : α → Bool} {g : α → ℕ}
    (hp : ∀ a, p (f a) = p a) (hg : ∀ a, g (f a) = g a) :
    (t.modify i f).sumWhere p g = t.sumWhere p g := by
  have himage := map_modify t.rows i (g := fun a => (p a, g a)) fun a => by rw [hp, hg]
  have hsum := congrArg (fun l => ((l.filter Prod.fst).map Prod.snd).sum) himage
  simpa [sumWhere, modify, List.filter_map, Function.comp_def] using hsum

/-- A sum over fewer rows is not greater. -/
theorem sumWhere_mono (t : Table α) {p q : α → Bool} (f : α → ℕ)
    (h : ∀ a, p a = true → q a = true) : t.sumWhere p f ≤ t.sumWhere q f := by
  have hsub : (t.rows.filter p).Sublist (t.rows.filter q) := List.monotone_filter_right _ h
  exact (hsub.map f).sum_le_sum fun _ _ => Nat.zero_le _

/-! ## Searching -/

theorem mem_entries {t : Table α} {i : ℕ} {a : α} :
    (i, a) ∈ t.entries ↔ t.get? i = some a := by
  simp only [entries, get?, List.mem_map, Prod.mk.injEq, Prod.exists]
  constructor
  · rintro ⟨b, j, hmem, rfl, rfl⟩
    exact List.mem_zipIdx_iff_getElem?.mp hmem
  · intro h
    exact ⟨a, i, List.mem_zipIdx_iff_getElem?.mpr h, rfl, rfl⟩

theorem ids_nodup (t : Table α) : (t.entries.map Prod.fst).Nodup := by
  have hids : t.entries.map Prod.fst = List.range' 0 t.rows.length := by
    unfold entries
    rw [List.map_map]
    exact List.zipIdx_map_snd 0 t.rows
  rw [hids]
  exact List.nodup_range'

theorem entries_nodup (t : Table α) : t.entries.Nodup :=
  List.Pairwise.of_map Prod.fst (fun _ _ hne heq => hne (congrArg Prod.fst heq)) t.ids_nodup

theorem idsWhere_nodup (t : Table α) (p : α → Bool) : (t.idsWhere p).Nodup := by
  unfold idsWhere
  exact t.ids_nodup.sublist (List.filter_sublist.map Prod.fst)

theorem mem_idsWhere {t : Table α} {p : α → Bool} {i : ℕ} :
    i ∈ t.idsWhere p ↔ ∃ a, t.get? i = some a ∧ p a = true := by
  simp only [idsWhere, List.mem_map, List.mem_filter, Prod.exists, exists_and_right,
    exists_eq_right]
  constructor
  · rintro ⟨a, hmem, hp⟩
    exact ⟨a, mem_entries.mp hmem, hp⟩
  · rintro ⟨a, hget, hp⟩
    exact ⟨a, mem_entries.mpr hget, hp⟩

/-- A found row exists and satisfies the predicate. -/
theorem get?_of_findId? {t : Table α} {p : α → Bool} {i : ℕ} (h : t.findId? p = some i) :
    ∃ a, t.get? i = some a ∧ p a = true :=
  mem_idsWhere.mp (List.mem_of_mem_head? h)

theorem get?_of_findLastId? {t : Table α} {p : α → Bool} {i : ℕ}
    (h : t.findLastId? p = some i) : ∃ a, t.get? i = some a ∧ p a = true :=
  mem_idsWhere.mp (List.mem_of_getLast? h)

theorem idsWhere_insert (t : Table α) (a : α) (p : α → Bool) :
    (t.insert a).idsWhere p = t.idsWhere p ++ if p a then [t.nextId] else [] := by
  unfold idsWhere entries insert nextId
  rw [List.zipIdx_append, List.map_append, List.filter_append, List.map_append]
  by_cases hp : p a <;> simp [hp]

theorem findId?_insert (t : Table α) (a : α) (p : α → Bool) :
    (t.insert a).findId? p = (t.findId? p).or (if p a then some t.nextId else none) := by
  unfold findId?
  rw [idsWhere_insert, List.head?_append]
  by_cases hp : p a <;> simp [hp]

/-- A row that was just inserted is the newest one. -/
theorem findLastId?_insert {t : Table α} {a : α} {p : α → Bool} (h : p a = true) :
    (t.insert a).findLastId? p = some t.nextId := by
  unfold findLastId?
  rw [idsWhere_insert, if_pos h, List.getLast?_append]
  rfl

/-- A rewrite that the predicate does not see finds the same rows. -/
theorem idsWhere_modify (t : Table α) (i : ℕ) {f : α → α} {p : α → Bool}
    (h : ∀ a, p (f a) = p a) : (t.modify i f).idsWhere p = t.idsWhere p := by
  have hids : ∀ t : Table α, t.idsWhere p =
      ((t.rows.map p).zipIdx.filter Prod.fst).map Prod.snd := by
    intro t
    unfold idsWhere entries
    rw [List.zipIdx_map, List.filter_map, List.filter_map, List.map_map, List.map_map]
    rfl
  rw [hids, hids]
  unfold modify
  rw [map_modify t.rows i h]

theorem findId?_modify (t : Table α) (i : ℕ) {f : α → α} {p : α → Bool}
    (h : ∀ a, p (f a) = p a) : (t.modify i f).findId? p = t.findId? p := by
  unfold findId?
  rw [idsWhere_modify t i h]

/-- Rewriting one row into one that the predicate does not tell from it. -/
theorem findId?_modify_const {t : Table α} {i : ℕ} {a b : α} {p : α → Bool}
    (h : t.get? i = some a) (hp : p b = p a) :
    (t.modify i fun _ => b).findId? p = t.findId? p := by
  have hcongr : t.modify i (fun _ => b) = t.modify i fun c => if p c = p b then b else c :=
    modify_congr h (by rw [if_pos hp.symm])
  rw [hcongr]
  refine findId?_modify t i fun c => ?_
  split
  · rename_i hsame
    exact hsame.symm
  · rfl

/-- As many identifiers as rows satisfy `p`. -/
theorem length_idsWhere (t : Table α) (p : α → Bool) : (t.idsWhere p).length = t.count p := by
  unfold idsWhere entries count
  rw [List.length_map, List.filter_map, List.length_map, ← List.countP_eq_length_filter]
  have himage : (t.rows.zipIdx.map Prod.fst) = t.rows := List.zipIdx_map_fst 0 t.rows
  conv_rhs => rw [← himage]
  rw [List.countP_map]
  rfl

theorem isEmpty_idsWhere (t : Table α) (p : α → Bool) :
    (t.idsWhere p).isEmpty = (t.rows.filter p).isEmpty := by
  have hlength : (t.idsWhere p).length = (t.rows.filter p).length := by
    rw [length_idsWhere, count, List.countP_eq_length_filter]
  rw [Bool.eq_iff_iff, List.isEmpty_iff_length_eq_zero, List.isEmpty_iff_length_eq_zero, hlength]

/-- Different rows that satisfy `p` are counted. -/
theorem length_le_count {t : Table α} {p : α → Bool} {ids : List ℕ} (hnodup : ids.Nodup)
    (h : ∀ i ∈ ids, ∃ a, t.get? i = some a ∧ p a = true) : ids.length ≤ t.count p := by
  rw [← length_idsWhere]
  have hsub : ids ⊆ t.idsWhere p := fun i hi => mem_idsWhere.mpr (h i hi)
  exact (hnodup.subperm hsub).length_le

/-! ## Comparing aggregates -/

/-- Totals of a column and of one that never exceeds it agree when the columns do. -/
theorem sum_map_eq_iff {rows : List α} {f g : α → ℕ} (h : ∀ a, g a ≤ f a) :
    (rows.map f).sum = (rows.map g).sum ↔ ∀ a ∈ rows, f a = g a := by
  induction rows with
  | nil => simp
  | cons a rows ih =>
    have hle : (rows.map g).sum ≤ (rows.map f).sum := List.sum_le_sum fun b _ => h b
    have ha := h a
    rw [List.map_cons, List.map_cons, List.sum_cons, List.sum_cons, List.forall_mem_cons, ← ih]
    omega

theorem sumWhere_eq_iff (t : Table α) (p : α → Bool) {f g : α → ℕ} (h : ∀ a, g a ≤ f a) :
    t.sumWhere p f = t.sumWhere p g ↔ ∀ a ∈ t.rows, p a = true → f a = g a := by
  unfold sumWhere
  rw [sum_map_eq_iff h]
  simp only [List.mem_filter, and_imp]

/-- A narrower condition counts the same rows when it holds of all of them. -/
theorem count_eq_iff (t : Table α) {p q : α → Bool} (h : ∀ a, q a = true → p a = true) :
    t.count q = t.count p ↔ ∀ a ∈ t.rows, p a = true → q a = true := by
  unfold count
  induction t.rows with
  | nil => simp
  | cons a rows ih =>
    have hle : rows.countP q ≤ rows.countP p := List.countP_mono_left fun b _ => h b
    have ha := h a
    rw [List.countP_cons, List.countP_cons, List.forall_mem_cons, ← ih]
    cases hq : q a with
    | true => simp [ha hq]
    | false =>
      cases hp : p a with
      | true =>
        simp only [Bool.false_eq_true, imp_false, not_true_eq_false, false_and, iff_false,
          if_true, if_false]
        omega
      | false => simp

end Table

end Lib
