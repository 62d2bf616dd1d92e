import ReviveX.Lib.Documents

/-!
# Documents without some names

`RedactedTo keep given shown` says what a redaction is meant to do: no name that `keep` rejects
is left at any depth, and every entry that is reached by kept names alone is as it was.
`filterKeys` does so.
-/

namespace Lib

namespace Json

variable {keep : String → Bool}

/-! ## Names -/

/-- Every name of a document is kept, at every depth of objects and arrays. -/
def allKeys (keep : String → Bool) (j : Json) : Bool :=
  j.everywhere fun
    | .obj fields => fields.all fun field => keep field.1
    | _ => true

theorem allKeys_arr {items : List Json} :
    allKeys keep (.arr items) = true ↔ ∀ j ∈ items, allKeys keep j = true := by
  unfold allKeys
  rw [everywhere_arr]
  exact and_iff_right rfl

theorem allKeys_obj {fields : List (String × Json)} :
    allKeys keep (.obj fields) = true ↔
      ∀ field ∈ fields, keep field.1 = true ∧ allKeys keep field.2 = true := by
  unfold allKeys
  rw [everywhere_obj, List.all_eq_true, ← forall₂_and]

/-! ## The filter -/

theorem filterKeys_arr (keep : String → Bool) (items : List Json) :
    filterKeys keep (.arr items) = .arr (items.map (filterKeys keep)) := by
  have hitems : filterKeys.filterItems keep items = items.map (filterKeys keep) := by
    induction items with
    | nil => rfl
    | cons j rest ih => rw [filterKeys.filterItems, ih, List.map_cons]
  rw [filterKeys, hitems]

theorem filterKeys_obj (keep : String → Bool) (fields : List (String × Json)) :
    filterKeys keep (.obj fields) =
      .obj ((fields.filter fun field => keep field.1).map fun field =>
        (field.1, filterKeys keep field.2)) := by
  have hfields : filterKeys.filterFields keep fields =
      (fields.filter fun field => keep field.1).map fun field =>
        (field.1, filterKeys keep field.2) := by
    induction fields with
    | nil => rfl
    | cons field rest ih =>
      rw [filterKeys.filterFields]
      by_cases hkeep : keep field.1 = true
      · rw [if_pos hkeep, List.filter_cons, if_pos hkeep, List.map_cons, ih]
      · rw [if_neg hkeep, List.filter_cons, if_neg hkeep, ih]
  rw [filterKeys, hfields]

/-- No rejected name is left. -/
theorem allKeys_filterKeys (keep : String → Bool) (j : Json) :
    allKeys keep (filterKeys keep j) = true := by
  induction j using induct with
  | null | bool | int | float | str => rfl
  | arr items ih =>
    rw [filterKeys_arr, allKeys_arr]
    intro j hj
    obtain ⟨given, hgiven, rfl⟩ := List.mem_map.mp hj
    exact ih given hgiven
  | obj fields ih =>
    rw [filterKeys_obj, allKeys_obj]
    intro field hfield
    obtain ⟨given, hgiven, rfl⟩ := List.mem_map.mp hfield
    obtain ⟨hmem, hkeep⟩ := List.mem_filter.mp hgiven
    exact ⟨hkeep, ih given hmem⟩

/-- A document whose names are all kept stays as it is. -/
theorem filterKeys_of_allKeys {j : Json} (h : allKeys keep j = true) : filterKeys keep j = j := by
  induction j using induct with
  | null | bool | int | float | str => rfl
  | arr items ih =>
    rw [allKeys_arr] at h
    rw [filterKeys_arr, List.map_congr_left fun j hj => ih j hj (h j hj), List.map_id']
  | obj fields ih =>
    rw [allKeys_obj] at h
    rw [filterKeys_obj, List.filter_eq_self.mpr fun field hfield => (h field hfield).1]
    have hsame : ∀ field ∈ fields, (field.1, filterKeys keep field.2) = field := by
      intro field hfield
      rw [ih field hfield (h field hfield).2]
    rw [List.map_congr_left hsame, List.map_id']

theorem filterKeys_idem (keep : String → Bool) (j : Json) :
    filterKeys keep (filterKeys keep j) = filterKeys keep j :=
  filterKeys_of_allKeys (allKeys_filterKeys keep j)

/-! ## Entries -/

/-- A step down into a document. -/
inductive Step
  | index (i : ℕ)
  | field (name : String)

/-- The step goes through no rejected name. -/
def Step.kept (keep : String → Bool) : Step → Bool
  | .index _ => true
  | .field name => keep name

/-- The entry at the end of a path. -/
def lookup : List Step → Json → Option Json
  | [], j => some j
  | .index i :: path, .arr items => items[i]?.bind (lookup path)
  | .field name :: path, .obj fields => (get? fields name).bind (lookup path)
  | _ :: _, _ => none

/-- An entry apart from what lies below it: a value, the length of an array, or the kept names
of an object. -/
def outline (keep : String → Bool) : Json → Json
  | .arr items => .arr (items.map fun _ => .null)
  | .obj fields => .obj ((fields.filter fun field => keep field.1).map fun field =>
      (field.1, .null))
  | j => j

/-- The rejected names are gone at every depth, and all other entries are as they were. -/
structure RedactedTo (keep : String → Bool) (given shown : Json) : Prop where
  gone : allKeys keep shown = true
  preserved : ∀ path : List Step, path.all (Step.kept keep) = true →
    (lookup path shown).map (outline keep) = (lookup path given).map (outline keep)

theorem get?_map (f : Json → Json) (fields : List (String × Json)) (name : String) :
    get? (fields.map fun field => (field.1, f field.2)) name = (get? fields name).map f := by
  unfold get?
  rw [List.find?_map, Option.map_map, Option.map_map]
  rfl

/-- Below kept names the filter is found again. -/
theorem lookup_filterKeys {path : List Step} (h : path.all (Step.kept keep) = true) (j : Json) :
    lookup path (filterKeys keep j) = (lookup path j).map (filterKeys keep) := by
  induction path generalizing j with
  | nil => rfl
  | cons step path ih =>
    rw [List.all_cons, Bool.and_eq_true] at h
    cases step with
    | index i =>
      cases j with
      | arr items =>
        rw [filterKeys_arr]
        simp only [lookup, List.getElem?_map]
        cases items[i]? with
        | none => rfl
        | some j => exact ih h.2 j
      | null | bool | int | float | str | obj => rfl
    | field name =>
      cases j with
      | obj fields =>
        have hname : keep name = true := h.1
        rw [filterKeys_obj]
        simp only [lookup]
        rw [get?_map, get?_filter keep hname]
        cases get? fields name with
        | none => rfl
        | some j => exact ih h.2 j
      | null | bool | int | float | str | arr => rfl

theorem outline_filterKeys (keep : String → Bool) (j : Json) :
    outline keep (filterKeys keep j) = outline keep j := by
  cases j with
  | null | bool | int | float | str => rfl
  | arr items =>
    rw [filterKeys_arr, outline, outline, List.map_map]
    rfl
  | obj fields =>
    rw [filterKeys_obj]
    simp only [outline]
    rw [List.filter_map, List.map_map]
    have hkept : (fields.filter fun field => keep field.1).filter
        ((fun field => keep field.1) ∘ fun field => (field.1, filterKeys keep field.2)) =
          fields.filter fun field => keep field.1 := by
      rw [List.filter_filter]
      simp
    rw [hkept]
    rfl

/-- What the filter does. -/
theorem redactedTo_filterKeys (keep : String → Bool) (j : Json) :
    RedactedTo keep j (filterKeys keep j) := by
  refine ⟨allKeys_filterKeys keep j, ?_⟩
  intro path hpath
  rw [lookup_filterKeys hpath, Option.map_map]
  cases lookup path j with
  | none => rfl
  | some entry => exact congrArg some (outline_filterKeys keep entry)

end Json

end Lib
