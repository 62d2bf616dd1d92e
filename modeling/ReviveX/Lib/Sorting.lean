import Mathlib.Data.List.MinMax
import Mathlib.Data.List.Sort

/-!
# The best of a list

A stable sort puts a least element first, and a walk that keeps what exceeds everything before
it ends at the first of the greatest elements.
-/

namespace Lib

variable {α β : Type} [LinearOrder β] {l : List α}

/-- The head of a list that is sorted by a key has the least key. -/
theorem head?_insertionSort (key : α → β) {w : α}
    (h : (l.insertionSort fun a b => key a ≤ key b).head? = some w) :
    w ∈ l ∧ ∀ b ∈ l, key w ≤ key b := by
  have htotal : Std.Total fun a b : α => key a ≤ key b := ⟨fun a b => le_total (key a) (key b)⟩
  have htrans : IsTrans α fun a b => key a ≤ key b := ⟨fun _ _ _ => le_trans⟩
  have hsorted := List.pairwise_insertionSort (fun a b => key a ≤ key b) l
  obtain ⟨rest, hrest⟩ := List.head?_eq_some_iff.mp h
  rw [hrest, List.pairwise_cons] at hsorted
  have hmem : ∀ b, b ∈ l ↔ b ∈ w :: rest := by
    intro b
    rw [← hrest, List.mem_insertionSort]
  refine ⟨(hmem w).mpr List.mem_cons_self, fun b hb => ?_⟩
  rcases List.mem_cons.mp ((hmem b).mp hb) with rfl | hin
  · exact le_rfl
  · exact hsorted.1 b hin

/-- Where the keys tell the elements apart, the head does not depend on the list's order. -/
theorem head?_insertionSort_perm (key : α → β) {l' : List α} (hperm : l.Perm l')
    (hkey : ∀ a ∈ l, ∀ b ∈ l, key a = key b → a = b) :
    (l.insertionSort fun a b => key a ≤ key b).head? =
      (l'.insertionSort fun a b => key a ≤ key b).head? := by
  have hempty : ∀ {k : List α}, (k.insertionSort fun a b => key a ≤ key b).head? = none →
      ∀ a, a ∉ k := by
    intro k hnone a ha
    rw [List.head?_eq_none_iff] at hnone
    rw [← List.mem_insertionSort (fun a b => key a ≤ key b), hnone] at ha
    cases ha
  cases hw : (l.insertionSort fun a b => key a ≤ key b).head? with
  | none =>
    cases hw' : (l'.insertionSort fun a b => key a ≤ key b).head? with
    | none => rfl
    | some w' =>
      obtain ⟨hmem', -⟩ := head?_insertionSort key hw'
      exact absurd (hperm.mem_iff.mpr hmem') (hempty hw w')
  | some w =>
    obtain ⟨hmem, hleast⟩ := head?_insertionSort key hw
    cases hw' : (l'.insertionSort fun a b => key a ≤ key b).head? with
    | none => exact absurd (hperm.mem_iff.mp hmem) (hempty hw' w)
    | some w' =>
      obtain ⟨hmem', hleast'⟩ := head?_insertionSort key hw'
      have hin' : w' ∈ l := hperm.mem_iff.mpr hmem'
      have hin : w ∈ l' := hperm.mem_iff.mp hmem
      have hsame : key w = key w' := le_antisymm (hleast w' hin') (hleast' w hin)
      rw [hkey w hmem w' hin' hsame]

/-- Of equally good elements, a stable sort puts the first one in front. -/
theorem head?_insertionSort_append (key : α → β) {l₁ l₂ : List α} {w : α}
    (hbefore : ∀ a ∈ l₁, key w < key a) (hafter : ∀ a ∈ l₂, key w ≤ key a) :
    ((l₁ ++ w :: l₂).insertionSort fun a b => key a ≤ key b).head? = some w := by
  -- an element that is not as good goes behind the one in front
  induction l₁ with
  | nil =>
    have hfirst := List.insertionSort_cons_of_forall_rel (fun a b => key a ≤ key b) hafter
    rw [List.nil_append, hfirst]
    rfl
  | cons a rest ih =>
    have hlt : ¬ key a ≤ key w := not_le.mpr (hbefore a List.mem_cons_self)
    obtain ⟨tail, htail⟩ := List.head?_eq_some_iff.mp
      (ih fun b hb => hbefore b (List.mem_cons_of_mem a hb))
    rw [List.cons_append, List.insertionSort_cons, htail, List.orderedInsert_cons, if_neg hlt]
    rfl

/-- What was put in front is better than everything before it in the list, and as good as
everything after it. -/
theorem of_head?_insertionSort_append (key : α → β) {l₁ l₂ : List α} {w : α}
    (h : ((l₁ ++ w :: l₂).insertionSort fun a b => key a ≤ key b).head? = some w)
    (hnew : w ∉ l₁) :
    (∀ a ∈ l₁, key w < key a) ∧ ∀ a ∈ l₂, key w ≤ key a := by
  -- an element that is as good would have gone to the front
  induction l₁ with
  | nil =>
    obtain ⟨-, hleast⟩ := head?_insertionSort key h
    exact ⟨fun a ha => absurd ha List.not_mem_nil,
      fun a ha => hleast a (List.mem_cons_of_mem w ha)⟩
  | cons a rest ih =>
    have hne : w ≠ a := fun h => hnew (h ▸ List.mem_cons_self)
    have hnew' : w ∉ rest := fun h => hnew (List.mem_cons_of_mem a h)
    rw [List.cons_append, List.insertionSort_cons] at h
    cases hrest : (rest ++ w :: l₂).insertionSort fun a b => key a ≤ key b with
    | nil =>
      have hmem : w ∈ (rest ++ w :: l₂).insertionSort fun a b => key a ≤ key b :=
        (List.mem_insertionSort _).mpr (by simp)
      rw [hrest] at hmem
      cases hmem
    | cons b tail =>
      rw [hrest, List.orderedInsert_cons] at h
      split at h
      · exact absurd (Option.some.inj h).symm hne
      · rename_i hlt
        obtain rfl : b = w := Option.some.inj h
        obtain ⟨hbefore, hafter⟩ := ih (by rw [hrest]; rfl) hnew'
        refine ⟨fun c hc => ?_, hafter⟩
        rcases List.mem_cons.mp hc with rfl | hc
        · exact not_le.mp hlt
        · exact hbefore c hc

/-- A stable sort keeps the order of elements that are equally good. -/
theorem filter_insertionSort (key : α → β) {p : α → Bool}
    (hp : ∀ a ∈ l, ∀ b ∈ l, p a = true → p b = true → key a ≤ key b) :
    (l.insertionSort fun a b => key a ≤ key b).filter p = l.filter p := by
  have hpairwise : (l.filter p).Pairwise fun a b => key a ≤ key b := by
    refine List.pairwise_of_forall_mem_list fun a ha b hb => ?_
    obtain ⟨ha, hpa⟩ := List.mem_filter.mp ha
    obtain ⟨hb, hpb⟩ := List.mem_filter.mp hb
    exact hp a ha b hb hpa hpb
  have hsublist := (List.sublist_insertionSort hpairwise List.filter_sublist).filter p
  simp only [List.filter_filter, Bool.and_self] at hsublist
  have hlength := ((List.perm_insertionSort (fun a b => key a ≤ key b) l).filter p).length_eq
  exact (hsublist.eq_of_length hlength.symm).symm

/-- The element with a key, in a list whose elements have different keys. -/
theorem find?_eq_some_of_nodup {γ : Type} [DecidableEq γ] {key : α → γ}
    (hnodup : (l.map key).Nodup) {k : γ} {a : α} :
    l.find? (fun b => key b = k) = some a ↔ a ∈ l ∧ key a = k := by
  constructor
  · intro h
    exact ⟨List.mem_of_find?_eq_some h, by simpa using List.find?_some h⟩
  · rintro ⟨hmem, hk⟩
    cases hfound : l.find? (fun b => key b = k) with
    | none =>
      have hall := List.find?_eq_none.mp hfound a hmem
      exact absurd (by simpa using hk) hall
    | some b =>
      have hb : key b = k := by simpa using List.find?_some hfound
      have hmem' : b ∈ l := List.mem_of_find?_eq_some hfound
      rw [List.inj_on_of_nodup_map hnodup hmem' hmem (hb.trans hk.symm)]

/-- Such an element does not depend on the list's order. -/
theorem find?_perm_of_nodup {γ : Type} [DecidableEq γ] {key : α → γ} {l' : List α}
    (hperm : l.Perm l') (hnodup : (l.map key).Nodup) (k : γ) :
    l.find? (fun b => key b = k) = l'.find? (fun b => key b = k) := by
  have hnodup' : (l'.map key).Nodup := (hperm.map key).nodup_iff.mp hnodup
  refine Option.ext fun a => ?_
  rw [find?_eq_some_of_nodup hnodup,
    find?_eq_some_of_nodup hnodup', hperm.mem_iff]

/-- Keep what exceeds the best so far. -/
def exceed (value : α → β) (best : Option α × β) (a : α) : Option α × β :=
  if best.2 < value a then (some a, value a) else best

theorem foldl_exceed_some (value : α → β) (b : α) (l : List α) :
    (l.foldl (exceed value) (some b, value b)).1 = (b :: l).argmax value := by
  induction l generalizing b with
  | nil => rfl
  | cons a rest ih =>
    have hstep : (b :: a :: rest).argmax value =
        ((if value b < value a then a else b) :: rest).argmax value := by
      unfold List.argmax List.foldl
      show (rest.foldl _ (if value b < value a then some a else some b)) = _
      split <;> rfl
    rw [hstep, List.foldl_cons]
    unfold exceed
    dsimp only
    split
    · exact ih a
    · exact ih b

/-- From a bound below the first element, the walk ends at the first greatest element. -/
theorem foldl_exceed {value : α → β} {bound : β} {a : α} (h : bound < value a) :
    ((a :: l).foldl (exceed value) (none, bound)).1 = (a :: l).argmax value := by
  rw [List.foldl_cons]
  have hfirst : exceed value (none, bound) a = (some a, value a) := if_pos h
  rw [hfirst, foldl_exceed_some]

end Lib
