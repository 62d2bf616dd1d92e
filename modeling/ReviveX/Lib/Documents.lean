import ReviveX.Lib.Json

/-!
# Induction over documents

The induction rule of JSON documents, and properties that hold of every part of a document.
-/

namespace Lib

namespace Json

variable {p : Json → Bool}

/-- Induction over documents. -/
theorem induct {motive : Json → Prop} (null : motive .null) (bool : ∀ b, motive (.bool b))
    (int : ∀ n, motive (.int n)) (float : ∀ q, motive (.float q)) (str : ∀ s, motive (.str s))
    (arr : ∀ items, (∀ j ∈ items, motive j) → motive (.arr items))
    (obj : ∀ fields, (∀ field ∈ fields, motive field.2) → motive (.obj fields)) (j : Json) :
    motive j := by
  refine @Json.rec motive (fun items => ∀ j ∈ items, motive j)
    (fun fields => ∀ field ∈ fields, motive field.2) (fun field => motive field.2)
    null bool int float str arr obj ?_ ?_ ?_ ?_ ?_ j
  · intro j hj
    cases hj
  · intro j rest hj hrest k hk
    rcases List.mem_cons.mp hk with rfl | hmem
    · exact hj
    · exact hrest k hmem
  · intro field hfield
    cases hfield
  · intro field rest hfield hrest other hother
    rcases List.mem_cons.mp hother with rfl | hmem
    · exact hfield
    · exact hrest other hmem
  · intro key j hj
    exact hj

/-- A property of every part of a document. -/
def everywhere (p : Json → Bool) : Json → Bool
  | .arr items => p (.arr items) && everyItem p items
  | .obj fields => p (.obj fields) && everyField p fields
  | j => p j
where
  everyItem (p : Json → Bool) : List Json → Bool
    | [] => true
    | j :: rest => everywhere p j && everyItem p rest
  everyField (p : Json → Bool) : List (String × Json) → Bool
    | [] => true
    | (_, j) :: rest => everywhere p j && everyField p rest

theorem everywhere_arr {items : List Json} :
    everywhere p (.arr items) = true ↔
      p (.arr items) = true ∧ ∀ j ∈ items, everywhere p j = true := by
  have hitems : everywhere.everyItem p items = true ↔ ∀ j ∈ items, everywhere p j = true := by
    induction items with
    | nil => simp [everywhere.everyItem]
    | cons j rest ih => rw [everywhere.everyItem, Bool.and_eq_true, ih, List.forall_mem_cons]
  rw [everywhere, Bool.and_eq_true, hitems]

theorem everywhere_obj {fields : List (String × Json)} :
    everywhere p (.obj fields) = true ↔
      p (.obj fields) = true ∧ ∀ field ∈ fields, everywhere p field.2 = true := by
  have hfields : everywhere.everyField p fields = true ↔
      ∀ field ∈ fields, everywhere p field.2 = true := by
    induction fields with
    | nil => simp [everywhere.everyField]
    | cons field rest ih =>
      rw [everywhere.everyField, Bool.and_eq_true, ih, List.forall_mem_cons]
  rw [everywhere, Bool.and_eq_true, hfields]

end Json

end Lib
