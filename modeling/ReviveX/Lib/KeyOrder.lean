import Mathlib.Data.List.Sort
import ReviveX.Lib.JsonText
import ReviveX.Lib.Redaction

/-!
# The order of keys

Two documents are `Reordered` when they differ in the order of their fields only. Sorting the
keys of documents whose names are unique makes exactly these equal, so canonical texts are equal
exactly for them.
-/

namespace Lib

namespace Json

/-- The same document up to the order of the fields, at any depth. -/
inductive Reordered : Json → Json → Prop
  | refl (j : Json) : Reordered j j
  | trans {j k l : Json} (h : Reordered j k) (h' : Reordered k l) : Reordered j l
  | perm {fields fields' : List (String × Json)} (h : fields.Perm fields') :
      Reordered (.obj fields) (.obj fields')
  | item {xs ys : List Json} {j k : Json} (h : Reordered j k) :
      Reordered (.arr (xs ++ j :: ys)) (.arr (xs ++ k :: ys))
  | field {xs ys : List (String × Json)} {name : String} {j k : Json} (h : Reordered j k) :
      Reordered (.obj (xs ++ (name, j) :: ys)) (.obj (xs ++ (name, k) :: ys))

theorem Reordered.symm {j k : Json} (h : Reordered j k) : Reordered k j := by
  induction h with
  | refl j => exact .refl j
  | trans _ _ ih ih' => exact .trans ih' ih
  | perm h => exact .perm h.symm
  | item _ ih => exact .item ih
  | field _ ih => exact .field ih

theorem Reordered.arr {f : Json → Json} (items : List Json) (h : ∀ j ∈ items, Reordered j (f j)) :
    Reordered (.arr items) (.arr (items.map f)) := by
  have hfrom : ∀ front : List Json,
      Reordered (.arr (front ++ items)) (.arr (front ++ items.map f)) := by
    induction items with
    | nil => exact fun front => .refl _
    | cons j rest ih =>
      intro front
      have hhead : Reordered (.arr (front ++ j :: rest)) (.arr (front ++ f j :: rest)) :=
        .item (h j List.mem_cons_self)
      have hrest := ih (fun k hk => h k (.tail _ hk)) (front ++ [f j])
      rw [List.append_assoc, List.append_assoc] at hrest
      exact hhead.trans hrest
  exact hfrom []

theorem Reordered.obj {f : Json → Json} (fields : List (String × Json))
    (h : ∀ field ∈ fields, Reordered field.2 (f field.2)) :
    Reordered (.obj fields) (.obj (fields.map fun field => (field.1, f field.2))) := by
  have hfrom : ∀ front : List (String × Json), Reordered (.obj (front ++ fields))
      (.obj (front ++ fields.map fun field => (field.1, f field.2))) := by
    induction fields with
    | nil => exact fun front => .refl _
    | cons field rest ih =>
      intro front
      have hhead : Reordered (.obj (front ++ field :: rest))
          (.obj (front ++ (field.1, f field.2) :: rest)) := .field (h field List.mem_cons_self)
      have hrest := ih (fun k hk => h k (.tail _ hk)) (front ++ [(field.1, f field.2)])
      rw [List.append_assoc, List.append_assoc] at hrest
      exact hhead.trans hrest
  exact hfrom []

/-! ## Sorting -/

/-- Fields in the order of their names. -/
def fieldLe (field other : String × Json) : Prop := field.1.toList ≤ other.1.toList

instance : DecidableRel fieldLe := fun field other =>
  inferInstanceAs (Decidable (field.1.toList ≤ other.1.toList))

instance : Std.Total fieldLe := ⟨fun field other => le_total field.1.toList other.1.toList⟩

instance : IsTrans (String × Json) fieldLe := ⟨fun _ _ _ => le_trans⟩

theorem insertField_eq (field : String × Json) (fields : List (String × Json)) :
    insertField field fields = fields.orderedInsert fieldLe field := by
  induction fields with
  | nil => rfl
  | cons other rest ih =>
    rw [insertField, List.orderedInsert_cons, ih]
    rfl

theorem sortKeys_arr (items : List Json) : sortKeys (.arr items) = .arr (items.map sortKeys) := by
  have hitems : sortKeys.sortItems items = items.map sortKeys := by
    induction items with
    | nil => rfl
    | cons j rest ih => rw [sortKeys.sortItems, ih, List.map_cons]
  rw [sortKeys, hitems]

theorem sortKeys_obj (fields : List (String × Json)) :
    sortKeys (.obj fields) =
      .obj ((fields.map fun field => (field.1, sortKeys field.2)).insertionSort fieldLe) := by
  have hfields : sortKeys.sortFields fields =
      (fields.map fun field => (field.1, sortKeys field.2)).insertionSort fieldLe := by
    induction fields with
    | nil => rfl
    | cons field rest ih =>
      rw [sortKeys.sortFields, ih, insertField_eq]
      rfl
  rw [sortKeys, hfields]

/-- Sorting only changes the order of the fields. -/
theorem reordered_sortKeys (j : Json) : Reordered j (sortKeys j) := by
  induction j using induct with
  | null | bool | int | float | str => exact .refl _
  | arr items ih =>
    rw [sortKeys_arr]
    exact .arr items ih
  | obj fields ih =>
    rw [sortKeys_obj]
    exact (Reordered.obj fields ih).trans (.perm (List.perm_insertionSort _ _).symm)

/-- No object repeats a name, at any depth. -/
def uniqueNames (j : Json) : Bool :=
  j.everywhere fun
    | .obj fields => (fields.map Prod.fst).Nodup
    | _ => true

theorem uniqueNames_arr {items : List Json} :
    uniqueNames (.arr items) = true ↔ ∀ j ∈ items, uniqueNames j = true := by
  unfold uniqueNames
  rw [everywhere_arr]
  exact and_iff_right rfl

theorem uniqueNames_obj {fields : List (String × Json)} :
    uniqueNames (.obj fields) = true ↔
      (fields.map Prod.fst).Nodup ∧ ∀ field ∈ fields, uniqueNames field.2 = true := by
  unfold uniqueNames
  rw [everywhere_obj, decide_eq_true_eq]

/-- What holds everywhere in a document does so in any order of the fields, if it does not look
at the order itself. -/
theorem everywhere_reordered {p : Json → Bool} (hp : ∀ {j k}, Reordered j k → p j = p k)
    {j k : Json} (h : Reordered j k) : everywhere p j = everywhere p k := by
  induction h with
  | refl j => rfl
  | trans _ _ ih ih' => exact ih.trans ih'
  | perm h =>
    rw [Bool.eq_iff_iff, everywhere_obj, everywhere_obj, hp (.perm h)]
    simp only [h.mem_iff]
  | item h ih =>
    rw [Bool.eq_iff_iff, everywhere_arr, everywhere_arr, hp (.item h), List.forall_mem_append,
      List.forall_mem_append, List.forall_mem_cons, List.forall_mem_cons, ih]
  | field h ih =>
    rw [Bool.eq_iff_iff, everywhere_obj, everywhere_obj, hp (.field h), List.forall_mem_append,
      List.forall_mem_append, List.forall_mem_cons, List.forall_mem_cons, ih]

theorem uniqueNames_reordered {j k : Json} (h : Reordered j k) :
    uniqueNames j = uniqueNames k := by
  apply everywhere_reordered ?_ h
  intro j k h
  induction h with
  | refl j => rfl
  | trans _ _ ih ih' => exact ih.trans ih'
  | perm h => exact decide_eq_decide.mpr (h.map Prod.fst).nodup_iff
  | item | field => simp

/-- Fields whose names are unique have one sorted order. -/
theorem insertionSort_perm {fields fields' : List (String × Json)} (h : fields.Perm fields')
    (hnodup : (fields.map Prod.fst).Nodup) :
    fields.insertionSort fieldLe = fields'.insertionSort fieldLe := by
  have hperm : (fields.insertionSort fieldLe).Perm (fields'.insertionSort fieldLe) :=
    (List.perm_insertionSort _ _).trans (h.trans (List.perm_insertionSort _ _).symm)
  apply hperm.eq_of_pairwise ?_ (List.pairwise_insertionSort _ _)
    (List.pairwise_insertionSort _ _)
  intro field other hfield hother hle hle'
  rw [List.mem_insertionSort] at hfield hother
  have hname : field.1 = other.1 := String.toList_inj.mp (le_antisymm hle hle')
  exact List.inj_on_of_nodup_map hnodup hfield (h.mem_iff.mpr hother) hname

/-- Documents that differ in the order of their fields are sorted alike. -/
theorem sortKeys_reordered {j k : Json} (h : Reordered j k) (hunique : uniqueNames j = true) :
    sortKeys j = sortKeys k := by
  induction h with
  | refl j => rfl
  | trans h _ ih ih' =>
    exact (ih hunique).trans (ih' (by rwa [← uniqueNames_reordered h]))
  | perm h =>
    rw [uniqueNames_obj] at hunique
    rw [sortKeys_obj, sortKeys_obj, insertionSort_perm (h.map _)]
    rw [List.map_map]
    exact hunique.1
  | item _ ih =>
    rw [uniqueNames_arr] at hunique
    rw [sortKeys_arr, sortKeys_arr, List.map_append, List.map_append, List.map_cons,
      List.map_cons, ih (hunique _ (by simp))]
  | @field xs ys name j k _ ih =>
    rw [uniqueNames_obj] at hunique
    have hvalue : sortKeys j = sortKeys k := ih (hunique.2 (name, j) (by simp))
    rw [sortKeys_obj, sortKeys_obj, List.map_append, List.map_append, List.map_cons,
      List.map_cons, hvalue]

/-! ## Canonical texts -/

theorem floatFree_reordered {j k : Json} (h : Reordered j k) : floatFree j = floatFree k := by
  apply everywhere_reordered ?_ h
  intro j k h
  induction h with
  | refl j => rfl
  | trans _ _ ih ih' => exact ih.trans ih'
  | perm | item | field => rfl

/-- The canonical text does not depend on the order of the fields. -/
theorem dumps_reordered (float : ℚ → List Char) {j k : Json} (h : Reordered j k)
    (hunique : uniqueNames j = true) : dumps float j = dumps float k := by
  rw [dumps, dumps, sortKeys_reordered h hunique]

/-- Documents without floats have the same canonical text exactly when they are the same up to
the order of their fields. -/
theorem dumps_eq_iff (float : ℚ → List Char) {j k : Json} (hunique : uniqueNames j = true)
    (hj : floatFree j = true) (hk : floatFree k = true) :
    dumps float j = dumps float k ↔ Reordered j k := by
  constructor
  · intro h
    have hsorted : sortKeys j = sortKeys k := by
      apply print_inj float ?_ ?_ h
      · rw [← floatFree_reordered (reordered_sortKeys j), hj]
      · rw [← floatFree_reordered (reordered_sortKeys k), hk]
    exact (reordered_sortKeys j).trans (hsorted ▸ (reordered_sortKeys k).symm)
  · intro h
    exact dumps_reordered float h hunique

/-- A filter of names does not depend on the order of the fields. -/
theorem Reordered.filterKeys (keep : String → Bool) {j k : Json} (h : Reordered j k) :
    Reordered (Json.filterKeys keep j) (Json.filterKeys keep k) := by
  induction h with
  | refl j => exact .refl _
  | trans _ _ ih ih' => exact ih.trans ih'
  | perm h =>
    rw [filterKeys_obj, filterKeys_obj]
    exact .perm ((h.filter _).map _)
  | item _ ih =>
    rw [filterKeys_arr, filterKeys_arr, List.map_append, List.map_append]
    exact .item ih
  | @field xs ys name j k _ ih =>
    rw [filterKeys_obj, filterKeys_obj, List.filter_append, List.filter_append, List.map_append,
      List.map_append, List.filter_cons, List.filter_cons]
    by_cases hkeep : keep name = true
    · rw [if_pos hkeep, if_pos hkeep]
      exact .field ih
    · rw [if_neg hkeep, if_neg hkeep]
      exact .refl _

theorem uniqueNames_filterKeys (keep : String → Bool) {j : Json} (h : uniqueNames j = true) :
    uniqueNames (Json.filterKeys keep j) = true := by
  induction j using induct with
  | null | bool | int | float | str => rfl
  | arr items ih =>
    rw [uniqueNames_arr] at h
    rw [filterKeys_arr, uniqueNames_arr, List.forall_mem_map]
    exact fun j hj => ih j hj (h j hj)
  | obj fields ih =>
    rw [uniqueNames_obj] at h
    rw [filterKeys_obj, uniqueNames_obj, List.forall_mem_map, List.map_map]
    refine ⟨h.1.sublist (List.filter_sublist.map Prod.fst), ?_⟩
    intro field hfield
    have hmem := (List.mem_filter.mp hfield).1
    exact ih field hmem (h.2 field hmem)

end Json

end Lib
