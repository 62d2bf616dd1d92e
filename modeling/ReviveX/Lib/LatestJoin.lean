import Mathlib.Data.List.Dedup
import Mathlib.Data.List.Pairwise
import Mathlib.Order.MinMax
import Mathlib.Order.Std

/-!
# Joining rows with the latest time of their key

The query that picks the latest row of every key by joining the rows with the greatest time of
each key. It returns the rows that are not older than another of their key. So it returns one row
of a key exactly when the rows of the greatest time do not tie.
-/

namespace Lib

variable {α κ τ : Type*} [DecidableEq κ] [LinearOrder τ] (key : α → κ) (time : α → τ)

/-- Every key of the rows with its greatest time. -/
def latestPerKey (rows : List α) : List (κ × τ) :=
  (rows.map key).dedup.filterMap fun k =>
    ((rows.filter fun a => key a = k).map time).max?.map fun t => (k, t)

/-- The rows joined with the greatest time of their key. -/
def joinLatest (rows : List α) : List α :=
  rows.flatMap fun a =>
    ((latestPerKey key time rows).filter fun l => l = (key a, time a)).map fun _ => a

/-- A row that is not older than another of its key. -/
def IsLatest (rows : List α) (a : α) : Prop := ∀ b ∈ rows, key b = key a → time b ≤ time a

instance (rows : List α) (a : α) : Decidable (IsLatest key time rows a) :=
  inferInstanceAs (Decidable (∀ b ∈ rows, key b = key a → time b ≤ time a))

variable {key time} {rows : List α}

theorem max?_eq_some_iff {times : List τ} {t : τ} :
    times.max? = some t ↔ t ∈ times ∧ ∀ u ∈ times, u ≤ t := by
  have : Std.LawfulOrderMax τ := .of_max_le_iff (fun _ _ _ => max_le_iff) max_choice
  exact List.max?_eq_some_iff

theorem mem_latestPerKey {a : α} (ha : a ∈ rows) :
    (key a, time a) ∈ latestPerKey key time rows ↔ IsLatest key time rows a := by
  have hmember : ∀ b : α, b ∈ rows ∧ key b = key a → time b ∈
      (rows.filter fun b => key b = key a).map time := by
    intro b hb
    exact List.mem_map_of_mem (List.mem_filter.mpr ⟨hb.1, decide_eq_true hb.2⟩)
  unfold latestPerKey
  simp only [List.mem_filterMap, List.mem_dedup, Option.map_eq_some_iff, Prod.mk.injEq,
    max?_eq_some_iff]
  constructor
  · intro h b hb hkey
    obtain ⟨k, -, t, ⟨-, hmax⟩, rfl, rfl⟩ := h
    exact hmax _ (hmember b ⟨hb, hkey⟩)
  · intro h
    refine ⟨key a, List.mem_map_of_mem ha, time a, ⟨hmember a ⟨ha, rfl⟩, ?_⟩, rfl, rfl⟩
    intro t ht
    obtain ⟨b, hb, rfl⟩ := List.mem_map.mp ht
    obtain ⟨hrow, hkey⟩ := List.mem_filter.mp hb
    exact h b hrow (of_decide_eq_true hkey)

theorem latestPerKey_nodup (rows : List α) : (latestPerKey key time rows).Nodup := by
  refine (List.nodup_dedup (rows.map key)).filterMap ?_
  intro k k' l hl hl'
  obtain ⟨t, -, rfl⟩ := Option.map_eq_some_iff.mp hl
  obtain ⟨t', -, heq⟩ := Option.map_eq_some_iff.mp hl'
  exact (congrArg Prod.fst heq).symm

theorem flatMap_if (p : α → Prop) [DecidablePred p] (rows : List α) :
    (rows.flatMap fun a => if p a then [a] else []) = rows.filter fun a => p a := by
  induction rows with
  | nil => rfl
  | cons a rows ih =>
    rw [List.flatMap_cons, ih]
    by_cases ha : p a
    · simp [ha]
    · simp [ha]

/-- The join returns the latest rows, each once. -/
theorem joinLatest_eq (rows : List α) :
    joinLatest key time rows = rows.filter fun a => IsLatest key time rows a := by
  have hrow : ∀ a ∈ rows,
      (((latestPerKey key time rows).filter fun l => l = (key a, time a)).map fun _ => a) =
        if IsLatest key time rows a then [a] else [] := by
    intro a ha
    rw [List.filter_eq]
    by_cases hlatest : IsLatest key time rows a
    · have hcount := List.count_eq_one_of_mem (latestPerKey_nodup rows)
        ((mem_latestPerKey ha).mpr hlatest)
      rw [hcount, if_pos hlatest]
      rfl
    · rw [List.count_eq_zero.mpr (fun hmem => hlatest ((mem_latestPerKey ha).mp hmem)),
        if_neg hlatest]
      rfl
  unfold joinLatest
  rw [List.flatMap_congr hrow, flatMap_if]

theorem mem_joinLatest {a : α} :
    a ∈ joinLatest key time rows ↔ a ∈ rows ∧ IsLatest key time rows a := by
  rw [joinLatest_eq, List.mem_filter, decide_eq_true_eq]

/-- Every key of the rows is in the join. -/
theorem exists_mem_joinLatest {a : α} (ha : a ∈ rows) :
    ∃ b ∈ joinLatest key time rows, key b = key a := by
  have hmember : time a ∈ (rows.filter fun b => key b = key a).map time :=
    List.mem_map_of_mem (List.mem_filter.mpr ⟨ha, decide_eq_true rfl⟩)
  obtain ⟨t, ht⟩ := Option.ne_none_iff_exists'.mp
    (mt List.max?_eq_none_iff.mp (List.ne_nil_of_mem hmember))
  obtain ⟨hmem, hmax⟩ := max?_eq_some_iff.mp ht
  obtain ⟨b, hb, rfl⟩ := List.mem_map.mp hmem
  obtain ⟨hrow, hkey⟩ := List.mem_filter.mp hb
  refine ⟨b, mem_joinLatest.mpr ⟨hrow, ?_⟩, of_decide_eq_true hkey⟩
  intro c hc hckey
  refine hmax _ (List.mem_map_of_mem (List.mem_filter.mpr ⟨hc, decide_eq_true ?_⟩))
  exact hckey.trans (of_decide_eq_true hkey)

/-- Rows of one key and one time are superseded by a later one. -/
def TiesSuperseded (key : α → κ) (time : α → τ) (rows : List α) : Prop :=
  rows.Pairwise fun a b => key a = key b → time a = time b →
    ∃ c ∈ rows, key c = key a ∧ time a < time c

/-- The join returns one row of each key exactly when no ties are left at the latest times. -/
theorem nodup_keys_joinLatest_iff :
    ((joinLatest key time rows).map key).Nodup ↔ TiesSuperseded key time rows := by
  rw [joinLatest_eq, List.Nodup, List.pairwise_map, List.pairwise_filter]
  simp only [decide_eq_true_eq]
  unfold TiesSuperseded
  constructor
  · intro h
    refine h.imp_of_mem ?_
    intro a b ha hb hne hkey htime
    by_contra hnone
    have hlatest : ∀ c ∈ rows, key c = key a → time c ≤ time a := by
      intro c hc hckey
      by_contra hlt
      exact hnone ⟨c, hc, hckey, not_le.mp hlt⟩
    refine hne hlatest ?_ hkey
    intro c hc hckey
    rw [← htime]
    exact hlatest c hc (hckey.trans hkey.symm)
  · intro h
    refine h.imp_of_mem ?_
    intro a b ha hb hsuperseded hlatest hlatest' hkey
    have htime : time a = time b :=
      le_antisymm (hlatest' a ha hkey) (hlatest b hb hkey.symm)
    obtain ⟨c, hc, hckey, hlt⟩ := hsuperseded hkey htime
    exact absurd (hlatest c hc hckey) (not_le.mpr hlt)

end Lib
