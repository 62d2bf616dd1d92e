import Mathlib.Data.List.Perm.Subperm
import Mathlib.Order.Lattice
import Mathlib.Tactic.Common

/-!
# Reading page by page

Pages of a sorted list by their number. The place of a row is how many rows come before it, and a
page holds the rows whose places are in its range. Between two pages the list may change: a reader
that asks for one page after the other until the total is covered has met every row that was
there at the beginning, as long as rows only move back.
-/

namespace Lib

variable {ι κ : Type} [LinearOrder κ] {key key' : ι → κ} {rows rows' : List ι} {i : ι}
  {size offset limit : ℕ}

/-! ## Places -/

/-- How many rows come before a row. -/
def place (key : ι → κ) (rows : List ι) (i : ι) : ℕ := rows.countP fun j => key j < key i

/-- `OFFSET … LIMIT …`. -/
def page (rows : List ι) (offset limit : ℕ) : List ι := (rows.drop offset).take limit

theorem place_lt_length (h : i ∈ rows) : place key rows i < rows.length := by
  have hself : ¬ key i < key i := lt_irrefl _
  apply Nat.lt_of_le_of_ne List.countP_le_length
  intro hall
  have hbefore := List.countP_eq_length.mp hall i h
  exact hself (of_decide_eq_true hbefore)

/-- A page of a strictly sorted list holds the rows whose places are in its range. -/
theorem mem_page (hsorted : rows.Pairwise fun i j => key i < key j) (h : i ∈ rows) :
    i ∈ page rows offset limit ↔
      offset ≤ place key rows i ∧ place key rows i < offset + limit := by
  unfold page place
  -- leaving out the first row lowers every later place, and the range of the page, by one
  induction rows generalizing offset limit with
  | nil => cases h
  | cons first rest ih =>
    obtain ⟨hfirst, hrest⟩ := List.pairwise_cons.mp hsorted
    rcases List.mem_cons.mp h with rfl | hlater
    · -- the first row has the place 0
      have hnone : (i :: rest).countP (fun j => key j < key i) = 0 := by
        rw [List.countP_eq_zero]
        intro j hj
        rcases List.mem_cons.mp hj with rfl | hmem
        · simp
        · simpa using (hfirst j hmem).le
      have hout : i ∉ rest := fun hmem => lt_irrefl _ (hfirst i hmem)
      rw [hnone]
      cases offset with
      | zero =>
        cases limit with
        | zero => simp
        | succ n => simp
      | succ n =>
        have hgone : i ∉ (rest.drop n).take limit := fun hmem =>
          hout (List.mem_of_mem_drop (List.mem_of_mem_take hmem))
        simpa using hgone
    · have hcount : (first :: rest).countP (fun j => key j < key i) =
          rest.countP (fun j => key j < key i) + 1 :=
        List.countP_cons_of_pos (by simpa using hfirst i hlater)
      have hne : i ≠ first := by
        rintro rfl
        exact lt_irrefl _ (hfirst i hlater)
      rw [hcount]
      cases offset with
      | zero =>
        cases limit with
        | zero => simp
        | succ n =>
          have hih : i ∈ (rest.drop 0).take n ↔ 0 ≤ rest.countP (fun j => key j < key i) ∧
              rest.countP (fun j => key j < key i) < 0 + n := ih hrest hlater
          simp only [List.drop_zero, List.take_succ_cons, List.mem_cons, hne, false_or] at hih ⊢
          rw [hih]
          omega
      | succ n =>
        have hih : i ∈ (rest.drop n).take limit ↔ n ≤ rest.countP (fun j => key j < key i) ∧
            rest.countP (fun j => key j < key i) < n + limit := ih hrest hlater
        rw [List.drop_succ_cons, hih]
        omega

/-- Rows that stay before another do not let it move up. -/
theorem place_mono (hnodup : rows.Nodup)
    (h : ∀ j ∈ rows, key j < key i → j ∈ rows' ∧ key' j < key' i) :
    place key rows i ≤ place key' rows' i := by
  unfold place
  rw [List.countP_eq_length_filter, List.countP_eq_length_filter]
  apply List.Subperm.length_le
  have hfiltered : (rows.filter fun j => decide (key j < key i)).Nodup := hnodup.filter _
  apply List.Nodup.subperm hfiltered
  intro j hj
  obtain ⟨hmem, hbefore⟩ := List.mem_filter.mp hj
  obtain ⟨hmem', hbefore'⟩ := h j hmem (of_decide_eq_true hbefore)
  exact List.mem_filter.mpr ⟨hmem', decide_eq_true hbefore'⟩

/-! ## A reader -/

/-- The pages that were read, and the total that came with the last one. -/
structure PageReader (ι : Type) where
  pages : List (List ι) := []
  total : Option ℕ := none

/-- The next page is read, of a list that is as long as the total that is told. -/
def PageReader.read (reader : PageReader ι) (size : ℕ) (rows : List ι) : PageReader ι where
  pages := reader.pages ++ [page rows (reader.pages.length * size) size]
  total := some rows.length

/-- The pages that were read cover the total. -/
def PageReader.Done (reader : PageReader ι) (size : ℕ) : Prop :=
  ∀ total, reader.total = some total → total ≤ reader.pages.length * size

/-- The row was read, or its place is behind the pages that were, which do not cover the total
then. -/
def PageReader.Meets (reader : PageReader ι) (size : ℕ) (key : ι → κ) (rows : List ι) (i : ι) :
    Prop :=
  (∃ p ∈ reader.pages, i ∈ p) ∨
    reader.pages.length * size ≤ place key rows i ∧
      ∀ total, reader.total = some total → reader.pages.length * size < total

variable {reader : PageReader ι}

theorem PageReader.meets_start (size : ℕ) (key : ι → κ) (rows : List ι) (i : ι) :
    ({} : PageReader ι).Meets size key rows i := by
  right
  refine ⟨?_, fun total htotal => by cases htotal⟩
  show 0 * size ≤ _
  omega

/-- The row does not move up. -/
theorem PageReader.Meets.mono (h : reader.Meets size key rows i)
    (hplace : place key rows i ≤ place key' rows' i) : reader.Meets size key' rows' i := by
  rcases h with hread | ⟨hbehind, htotal⟩
  · exact .inl hread
  · exact .inr ⟨hbehind.trans hplace, htotal⟩

/-- The next page is read. -/
theorem PageReader.Meets.read (h : reader.Meets size key rows i)
    (hsorted : rows.Pairwise fun i j => key i < key j) (hi : i ∈ rows) :
    (reader.read size rows).Meets size key rows i := by
  have hlength : (reader.read size rows).pages.length = reader.pages.length + 1 :=
    List.length_append
  rcases h with ⟨p, hp, hmem⟩ | ⟨hbehind, -⟩
  · exact .inl ⟨p, List.mem_append_left _ hp, hmem⟩
  · rcases Nat.lt_or_ge (place key rows i) (reader.pages.length * size + size) with hin | hout
    · left
      refine ⟨_, List.mem_append_right _ (List.mem_singleton_self _), ?_⟩
      exact (mem_page hsorted hi).mpr ⟨hbehind, hin⟩
    · right
      rw [hlength, Nat.succ_mul]
      refine ⟨hout, fun total htotal => ?_⟩
      obtain rfl := Option.some.inj htotal
      exact hout.trans_lt (place_lt_length hi)

/-- A reader that is done has read the row, once it has read anything. -/
theorem PageReader.Meets.done (h : reader.Meets size key rows i) (hdone : reader.Done size)
    (hstarted : reader.total.isSome = true) : ∃ p ∈ reader.pages, i ∈ p := by
  rcases h with hread | ⟨-, htotal⟩
  · exact hread
  · obtain ⟨total, hsome⟩ := Option.isSome_iff_exists.mp hstarted
    have hless := htotal total hsome
    have hcovered := hdone total hsome
    omega

end Lib
