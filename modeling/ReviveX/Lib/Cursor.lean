import Mathlib.Data.List.Perm.Subperm
import Mathlib.Order.Lattice
import Mathlib.Tactic.Common

/-!
# Reading by a cursor

A reader asks again and again for the rows after its cursor, gets at most `limit` of them in
the order of their keys, and moves the cursor to the key of the last one. It never gets a row
twice. It gets every row as long as the rows of one key are not cut apart by the limit
(`TiesFit`) and no row turns up behind the cursor (`Caught.grow`): then it has, at any time,
exactly the rows up to its cursor.
-/

namespace Lib

variable {α κ : Type} [LinearOrder κ] {key : α → κ} {limit : ℕ} {rows rows' sorted page : List α}
  {since : Option κ} {a b : α}

/-! ## Pages -/

/-- The row comes after the cursor; every row does when there is none. -/
def After (key : α → κ) (since : Option κ) (a : α) : Bool := since.all fun k => decide (k < key a)

/-- The rows after a cursor. -/
def due (key : α → κ) (rows : List α) (since : Option κ) : List α := rows.filter (After key since)

theorem mem_due : a ∈ due key rows since ↔ a ∈ rows ∧ After key since a = true := List.mem_filter

/-- The first `limit` rows after a cursor by their keys; rows of one key come in any order. -/
def IsPage (key : α → κ) (limit : ℕ) (rows : List α) (since : Option κ) (page : List α) : Prop :=
  ∃ sorted : List α, sorted.Perm (due key rows since) ∧
    sorted.Pairwise (fun a b => key a ≤ key b) ∧ page = sorted.take limit

/-- The rows of a key that begin among the first `limit` end among them. -/
def TiesFit (key : α → κ) (limit : ℕ) (rows : List α) : Prop :=
  ∀ k, rows.countP (fun a => key a < k) < limit → rows.countP (fun a => key a ≤ k) ≤ limit

/-- In a sorted list, the first rows are before those that follow. -/
theorem countP_lt_of_mem_take (hsorted : sorted.Pairwise fun a b => key a ≤ key b)
    (h : a ∈ sorted.take limit) : sorted.countP (fun b => key b < key a) < limit := by
  induction sorted generalizing limit with
  | nil => simp at h
  | cons x rest ih =>
    obtain ⟨hx, hrest⟩ := List.pairwise_cons.mp hsorted
    cases limit with
    | zero => simp at h
    | succ n =>
      rw [List.take_succ_cons] at h
      rcases List.mem_cons.mp h with rfl | hlater
      · have hnone : (a :: rest).countP (fun b => key b < key a) = 0 := by
          rw [List.countP_eq_zero]
          intro b hb
          rcases List.mem_cons.mp hb with rfl | hmem
          · simp
          · simpa using hx b hmem
        omega
      · have hcount := ih hrest hlater
        have hle : (x :: rest).countP (fun b => key b < key a) ≤
            rest.countP (fun b => key b < key a) + 1 := by
          rw [List.countP_cons]
          split <;> omega
        omega

/-- In a sorted list, the rows up to a key come first. -/
theorem mem_take_of_countP_le {k : κ} (hsorted : sorted.Pairwise fun a b => key a ≤ key b)
    (hfits : sorted.countP (fun a => key a ≤ k) ≤ limit) (h : b ∈ sorted) (hb : key b ≤ k) :
    b ∈ sorted.take limit := by
  induction sorted generalizing limit with
  | nil => cases h
  | cons x rest ih =>
    obtain ⟨hx, hrest⟩ := List.pairwise_cons.mp hsorted
    have hxk : key x ≤ k := by
      rcases List.mem_cons.mp h with rfl | hmem
      · exact hb
      · exact le_trans (hx b hmem) hb
    rw [List.countP_cons_of_pos (by simpa using hxk)] at hfits
    obtain ⟨n, rfl⟩ : ∃ n, limit = n + 1 := ⟨limit - 1, by omega⟩
    rw [List.take_succ_cons]
    rcases List.mem_cons.mp h with rfl | hmem
    · exact List.mem_cons_self
    · exact List.mem_cons_of_mem _ (ih hrest (by omega) hmem)

/-- With a row, a page has every due row up to its key. -/
theorem IsPage.closed (h : IsPage key limit rows since page)
    (hfits : TiesFit key limit (due key rows since)) (ha : a ∈ page)
    (hb : b ∈ due key rows since) (hle : key b ≤ key a) : b ∈ page := by
  obtain ⟨sorted, hperm, hsorted, rfl⟩ := h
  have hbefore := countP_lt_of_mem_take hsorted ha
  rw [hperm.countP_eq] at hbefore
  have hupto := hfits (key a) hbefore
  rw [← hperm.countP_eq] at hupto
  exact mem_take_of_countP_le hsorted hupto (hperm.mem_iff.mpr hb) hle

theorem IsPage.mem_due (h : IsPage key limit rows since page) (ha : a ∈ page) :
    a ∈ due key rows since := by
  obtain ⟨sorted, hperm, -, rfl⟩ := h
  exact hperm.mem_iff.mp (List.mem_of_mem_take ha)

theorem IsPage.nodup (h : IsPage key limit rows since page) (hrows : rows.Nodup) : page.Nodup := by
  obtain ⟨sorted, hperm, -, rfl⟩ := h
  have hdue : (due key rows since).Nodup := hrows.filter _
  exact (hperm.nodup_iff.mpr hdue).sublist (List.take_sublist limit sorted)

/-- The last row of a page has the greatest key. -/
theorem IsPage.le_last (h : IsPage key limit rows since page) {last : α}
    (hlast : page.getLast? = some last) (ha : a ∈ page) : key a ≤ key last := by
  obtain ⟨sorted, -, hsorted, rfl⟩ := h
  have hpage := hsorted.sublist (List.take_sublist limit sorted)
  obtain ⟨front, hfront⟩ := List.getLast?_eq_some_iff.mp hlast
  rw [hfront] at hpage ha
  rcases List.mem_append.mp ha with hmem | hmem
  · exact (List.pairwise_append.mp hpage).2.2 a hmem last (List.mem_singleton_self last)
  · rw [List.mem_singleton.mp hmem]

/-- A page is empty only when nothing is due. -/
theorem IsPage.ne_nil (h : IsPage key limit rows since page) (hlimit : 0 < limit)
    (ha : a ∈ due key rows since) : page ≠ [] := by
  obtain ⟨sorted, hperm, -, rfl⟩ := h
  have hmem := hperm.mem_iff.mpr ha
  intro hnil
  rcases List.take_eq_nil_iff.mp hnil with hzero | hempty
  · omega
  · rw [hempty] at hmem
    cases hmem

/-! ## Readers -/

/-- What a reader has received, and its cursor. -/
structure Reader (α κ : Type) where
  received : List α := []
  cursor : Option κ := none

/-- The cursor moves to the last row of a page. -/
def Reader.read (key : α → κ) (r : Reader α κ) (page : List α) : Reader α κ where
  received := r.received ++ page
  cursor := (page.getLast?.map key).or r.cursor

/-- The reader has every row up to its cursor, once, and no other. -/
structure Caught (key : α → κ) (rows : List α) (r : Reader α κ) : Prop where
  once : r.received.Nodup
  real : ∀ a ∈ r.received, a ∈ rows
  upTo : ∀ a ∈ rows, a ∈ r.received ↔ After key r.cursor a = false

namespace Caught

variable {r : Reader α κ}

theorem start (key : α → κ) (rows : List α) : Caught key rows {} where
  once := List.nodup_nil
  real := by simp
  upTo := by simp [After]

/-- New rows come after the cursor. -/
theorem grow (h : Caught key rows r) (hsub : ∀ a ∈ rows, a ∈ rows')
    (hnew : ∀ a ∈ rows', a ∈ rows ∨ After key r.cursor a = true) : Caught key rows' r where
  once := h.once
  real a ha := hsub a (h.real a ha)
  upTo a ha := by
    rcases hnew a ha with hold | hafter
    · exact h.upTo a hold
    · constructor
      · intro hreceived
        exact (h.upTo a (h.real a hreceived)).mp hreceived
      · intro hbefore
        rw [hafter] at hbefore
        cases hbefore

/-- Reading a page of rows whose keys are not cut apart. -/
theorem read (h : Caught key rows r) (hrows : rows.Nodup)
    (hfits : TiesFit key limit (due key rows r.cursor))
    (hpage : IsPage key limit rows r.cursor page) : Caught key rows (r.read key page) where
  once := by
    refine List.nodup_append.mpr ⟨h.once, hpage.nodup hrows, ?_⟩
    rintro a hreceived b hb rfl
    have hafter := (mem_due.mp (hpage.mem_due hb)).2
    rw [(h.upTo a (h.real a hreceived)).mp hreceived] at hafter
    cases hafter
  real a ha := by
    rcases List.mem_append.mp ha with hreceived | hread
    · exact h.real a hreceived
    · exact (mem_due.mp (hpage.mem_due hread)).1
  upTo a ha := by
    unfold Reader.read
    dsimp only
    -- an empty page leaves the cursor; another one moves it to the key of its last row
    cases hlast : page.getLast? with
    | none =>
      rw [List.getLast?_eq_none_iff.mp hlast, List.append_nil]
      exact h.upTo a ha
    | some last =>
      have hmem : last ∈ page := List.mem_of_getLast? hlast
      have hlastDue := (mem_due.mp (hpage.mem_due hmem)).2
      show a ∈ r.received ++ page ↔ (After key (some (key last)) a) = false
      have hcursor : After key (some (key last)) a = false ↔ key a ≤ key last := by
        simp [After]
      rw [hcursor, List.mem_append]
      constructor
      · rintro (hreceived | hread)
        · -- the last row is after the cursor, and the received one is not
          have hbefore := (h.upTo a ha).mp hreceived
          unfold After at hbefore hlastDue
          cases hsince : r.cursor with
          | none =>
            rw [hsince] at hbefore
            cases hbefore
          | some k =>
            rw [hsince] at hbefore hlastDue
            have hak : key a ≤ k := by simpa using hbefore
            have hkl : k < key last := by simpa using hlastDue
            exact le_trans hak (le_of_lt hkl)
        · exact hpage.le_last hlast hread
      · intro hle
        cases hafter : After key r.cursor a with
        | false => exact .inl ((h.upTo a ha).mpr hafter)
        | true => exact .inr (hpage.closed hfits hmem (mem_due.mpr ⟨ha, hafter⟩) hle)

/-- A reader with as many rows as there are has them all. -/
theorem complete (h : Caught key rows r) (hlength : rows.length ≤ r.received.length) :
    ∀ a ∈ rows, a ∈ r.received := by
  have hperm := (List.subperm_of_subset h.once h.real).perm_of_length_le hlength
  exact fun a ha => hperm.mem_iff.mpr ha

/-- A reader that lacks a row gets a row. -/
theorem progress (h : Caught key rows r) (hlimit : 0 < limit)
    (hpage : IsPage key limit rows r.cursor page) :
    (∀ a ∈ rows, a ∈ r.received) ∨ r.received.length < (r.read key page).received.length := by
  by_cases hall : ∀ a ∈ rows, a ∈ r.received
  · exact .inl hall
  · right
    push Not at hall
    obtain ⟨a, ha, hlacks⟩ := hall
    have hafter : After key r.cursor a = true := by
      cases hafter : After key r.cursor a with
      | true => rfl
      | false => exact absurd ((h.upTo a ha).mpr hafter) hlacks
    have hne := hpage.ne_nil hlimit (mem_due.mpr ⟨ha, hafter⟩)
    have hpos := List.length_pos_iff.mpr hne
    show r.received.length < (r.received ++ page).length
    rw [List.length_append]
    omega

end Caught

end Lib
