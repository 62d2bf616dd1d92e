import Mathlib.Data.List.DropRight
import Mathlib.Data.List.Infix
import Mathlib.Tactic.Common

/-!
# Markers in a text

The places where a marker stands in a list, and what is left of the list before and after the
first of them. A separator that does not occur in the marker splits the places in two groups.
-/

namespace Lib

variable {α : Type} {c : α} {marker xs : List α} {p : α → Bool}

/-- A marker does not reach over a separator that it does not hold. -/
theorem prefix_append_cons_iff (hc : c ∉ marker) (xs ys : List α) :
    marker <+: xs ++ c :: ys ↔ marker <+: xs := by
  constructor
  · intro h
    rcases Nat.lt_or_ge xs.length marker.length with hlong | hshort
    · have hcut : xs ++ [c] <+: xs ++ c :: ys := ⟨ys, by simp⟩
      have hwithin : xs ++ [c] <+: marker :=
        List.prefix_of_prefix_length_le hcut h (by simpa using Nat.succ_le_of_lt hlong)
      exact absurd (hwithin.subset (by simp)) hc
    · exact List.prefix_of_prefix_length_le h (List.prefix_append xs _) hshort
  · intro h
    exact h.trans (List.prefix_append xs _)

/-! ## Stripping -/

/-- `xs.strip()`: without the entries of a kind at both ends. -/
def strip (p : α → Bool) (xs : List α) : List α := (xs.dropWhile p).rdropWhile p

/-- Nothing is stripped where no entry is of the kind. -/
theorem strip_eq_self (h : ∀ a ∈ xs, p a = false) : strip p xs = xs := by
  have hpos : ∀ (hx : xs ≠ []), ¬ p (xs.getLast hx) = true := by
    intro hx
    rw [h _ (List.getLast_mem hx)]
    exact Bool.false_ne_true
  have hstart : xs.dropWhile p = xs := by
    rw [List.dropWhile_eq_self_iff]
    intro hlength
    rw [h _ (List.getElem_mem hlength)]
    exact Bool.false_ne_true
  unfold strip
  rw [hstart]
  exact List.rdropWhile_eq_self_iff.mpr hpos

/-- What stripping leaves does not start with an entry to strip. -/
theorem dropWhile_strip (p : α → Bool) (xs : List α) : (strip p xs).dropWhile p = strip p xs := by
  rw [List.dropWhile_eq_self_iff]
  intro hpos
  have hprefix : strip p xs <+: xs.dropWhile p := List.rdropWhile_prefix p _
  have hfirst := List.dropWhile_get_zero_not p xs (Nat.lt_of_lt_of_le hpos hprefix.length_le)
  rwa [List.get_eq_getElem, ← hprefix.getElem hpos] at hfirst

/-- A stripped list is found again between two entries that are stripped. -/
theorem strip_padded {a b : α} (ha : p a = true) (hb : p b = true) (xs : List α) :
    strip p (a :: (strip p xs ++ [b])) = strip p xs := by
  have hstart := dropWhile_strip p xs
  have hend : (strip p xs).rdropWhile p = strip p xs := List.rdropWhile_idempotent p _
  rw [strip, List.dropWhile_cons_of_pos ha]
  generalize strip p xs = stripped at hstart hend
  cases stripped with
  | nil => rw [List.nil_append, List.dropWhile_cons_of_pos hb]; rfl
  | cons x rest =>
    have hx : ¬ p x = true := by
      have hfirst := List.dropWhile_eq_self_iff.mp hstart (Nat.succ_pos _)
      exact hfirst
    rw [List.cons_append, List.dropWhile_cons_of_neg hx, ← List.cons_append,
      List.rdropWhile_concat_pos p _ _ hb, hend]

theorem infix_dropWhile_iff (hhead : ∀ a ∈ marker.head?, p a = false) (xs : List α) :
    marker <:+: xs.dropWhile p ↔ marker <:+: xs := by
  constructor
  · intro h
    exact h.trans (List.dropWhile_suffix p).isInfix
  · intro h
    induction xs with
    | nil => exact h
    | cons x xs ih =>
      by_cases hx : p x = true
      · rw [List.dropWhile_cons_of_pos hx]
        rcases List.infix_cons_iff.mp h with hhere | hlater
        · cases marker with
          | nil => exact List.nil_infix
          | cons a rest =>
            -- the marker starts with an entry that is not dropped
            have hstart : a = x := (List.cons_prefix_cons.mp hhere).1
            rw [← hstart, hhead a rfl] at hx
            cases hx
        · exact ih hlater
      · rwa [List.dropWhile_cons_of_neg hx]

/-- Stripping keeps every place of a marker whose ends are not stripped. -/
theorem infix_strip_iff (hhead : ∀ a ∈ marker.head?, p a = false)
    (hlast : ∀ a ∈ marker.getLast?, p a = false) (xs : List α) :
    marker <:+: strip p xs ↔ marker <:+: xs := by
  rw [strip, List.rdropWhile, ← List.reverse_infix, List.reverse_reverse, infix_dropWhile_iff,
    List.reverse_infix, infix_dropWhile_iff hhead]
  rwa [List.head?_reverse]

/-! ## Places of a marker -/

variable [DecidableEq α]

/-- The number of places where a marker starts. -/
def occurrences (marker : List α) : List α → ℕ
  | [] => 0
  | x :: xs => (if marker.isPrefixOf (x :: xs) then 1 else 0) + occurrences marker xs

/-- `text.partition(marker)`, where the marker occurs: the parts before and after its first
place. -/
def partitionAt (marker : List α) : List α → Option (List α × List α)
  | [] => none
  | x :: xs =>
    if marker.isPrefixOf (x :: xs) then some ([], (x :: xs).drop marker.length)
    else (partitionAt marker xs).map fun parts => (x :: parts.1, parts.2)

@[simp] theorem occurrences_nil (marker : List α) : occurrences marker [] = 0 := rfl

theorem occurrences_eq_zero_iff (hne : marker ≠ []) (xs : List α) :
    occurrences marker xs = 0 ↔ ¬ marker <:+: xs := by
  induction xs with
  | nil => simp [hne]
  | cons x xs ih =>
    rw [occurrences, List.infix_cons_iff, not_or, ← ih]
    by_cases hhere : marker <+: x :: xs <;> simp [hhere]

/-- No place starts at a separator. -/
theorem occurrences_separator (hne : marker ≠ []) (hc : c ∉ marker) (ys : List α) :
    occurrences marker (c :: ys) = occurrences marker ys := by
  have hother : ¬ marker <+: c :: ys := by
    have hnil := prefix_append_cons_iff hc [] ys
    rw [List.nil_append, List.prefix_nil] at hnil
    rw [hnil]
    exact hne
  rw [occurrences, if_neg (by simpa using hother), Nat.zero_add]

/-- The places before a separator and the places after it. -/
theorem occurrences_append_cons (hne : marker ≠ []) (hc : c ∉ marker) (xs ys : List α) :
    occurrences marker (xs ++ c :: ys) = occurrences marker xs + occurrences marker ys := by
  induction xs with
  | nil => simp [occurrences_separator hne hc]
  | cons x xs ih =>
    have hhere : marker.isPrefixOf (x :: (xs ++ c :: ys)) = marker.isPrefixOf (x :: xs) := by
      rw [Bool.eq_iff_iff, List.isPrefixOf_iff_prefix, List.isPrefixOf_iff_prefix,
        ← prefix_append_cons_iff hc (x :: xs) ys, List.cons_append]
    rw [List.cons_append, occurrences, occurrences, hhere, ih]
    omega

/-- A separator and a part without the marker come before its first place. -/
theorem partitionAt_append_cons (hne : marker ≠ []) (hc : c ∉ marker)
    (hxs : occurrences marker xs = 0) (ys : List α) :
    partitionAt marker (xs ++ c :: ys) =
      (partitionAt marker ys).map fun parts => (xs ++ c :: parts.1, parts.2) := by
  induction xs with
  | nil =>
    have hother : ¬ marker <+: c :: ys := by
      have hnil := prefix_append_cons_iff hc [] ys
      rw [List.nil_append, List.prefix_nil] at hnil
      rw [hnil]
      exact hne
    rw [List.nil_append, partitionAt, if_neg (by simpa using hother)]
    rfl
  | cons x xs ih =>
    rw [occurrences, Nat.add_eq_zero_iff] at hxs
    have hother : ¬ marker <+: x :: (xs ++ c :: ys) := by
      have hcons := prefix_append_cons_iff hc (x :: xs) ys
      rw [List.cons_append] at hcons
      rw [hcons]
      intro h
      rw [if_pos (by simpa using h)] at hxs
      omega
    rw [List.cons_append, partitionAt, if_neg (by simpa using hother), ih hxs.2, Option.map_map]
    rfl

/-- The marker is found where it stands first. -/
theorem partitionAt_marker (hne : marker ≠ []) (ys : List α) :
    partitionAt marker (marker ++ ys) = some ([], ys) := by
  cases marker with
  | nil => exact absurd rfl hne
  | cons a rest =>
    rw [List.cons_append, partitionAt, if_pos (by simp), ← List.cons_append, List.drop_left]

end Lib
