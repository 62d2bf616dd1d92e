import Mathlib.Data.Char
import Mathlib.Data.List.Lex
import Mathlib.Data.Rat.Defs
import Mathlib.Tactic.Common

/-!
# JSON documents

JSON values as a Python program sees them after parsing: integers and floats are two
kinds of number, and an object is a list of fields in order. A float is the rational its
shortest printed form denotes. `dumps` prints a document in its canonical form, keys
sorted and no spaces.
-/

namespace Lib

inductive Json
  | null
  | bool (b : Bool)
  | int (n : ℤ)
  | float (q : ℚ)
  | str (s : String)
  | arr (items : List Json)
  | obj (fields : List (String × Json))

namespace Json

/-- `dict.get(key)` on the fields of an object. -/
def get? (fields : List (String × Json)) (key : String) : Option Json :=
  (fields.find? fun field => field.1 = key).map Prod.snd

/-- A field whose name is kept is found as before. -/
theorem get?_filter (keep : String → Bool) {key : String} (hkeep : keep key = true)
    (fields : List (String × Json)) :
    get? (fields.filter fun field => keep field.1) key = get? fields key := by
  unfold get?
  induction fields with
  | nil => rfl
  | cons field rest ih =>
    rw [List.filter_cons, List.find?_cons]
    by_cases hfield : field.1 = key
    · simp [hfield, hkeep]
    · by_cases hkept : keep field.1 = true
      · simpa [hkept, hfield] using ih
      · simpa [hkept, hfield] using ih

theorem get?_append (fields fields' : List (String × Json)) (key : String) :
    get? (fields ++ fields') key = (get? fields key).or (get? fields' key) := by
  unfold get?
  rw [List.find?_append]
  cases fields.find? fun field => decide (field.1 = key) <;> rfl

@[simp] theorem get?_singleton (name : String) (value : Json) (key : String) :
    get? [(name, value)] key = if name = key then some value else none := by
  unfold get?
  by_cases h : name = key <;> simp [h]

/-- `data[key] = value`: in place when the key is there, else at the end. -/
def set : List (String × Json) → String → Json → List (String × Json)
  | [], key, value => [(key, value)]
  | field :: rest, key, value =>
    if field.1 = key then (key, value) :: rest else field :: set rest key value

theorem get?_set (fields : List (String × Json)) (key : String) (value : Json) (name : String) :
    get? (set fields key value) name = if key = name then some value else get? fields name := by
  induction fields with
  | nil => exact get?_singleton key value name
  | cons field rest ih =>
    unfold set
    by_cases hfield : field.1 = key
    · rw [if_pos hfield]
      unfold get?
      by_cases hname : key = name
      · simp [hname]
      · have hother : ¬ field.1 = name := by rwa [hfield]
        simp [hname, hother]
    · rw [if_neg hfield]
      unfold get? at ih ⊢
      by_cases hname : field.1 = name
      · have hother : ¬ key = name := by
          rw [← hname]
          exact Ne.symm hfield
        simp [hname, hother]
      · simpa [hname] using ih

/-- `data.update(changes)`. -/
def update (fields changes : List (String × Json)) : List (String × Json) :=
  changes.foldl (fun fields change => set fields change.1 change.2) fields

/-- A key that is not written is found as before. -/
theorem get?_update_of_notMem (fields : List (String × Json)) {changes : List (String × Json)}
    {name : String} (h : name ∉ changes.map Prod.fst) :
    get? (update fields changes) name = get? fields name := by
  unfold update
  induction changes generalizing fields with
  | nil => rfl
  | cons change rest ih =>
    rw [List.map_cons, List.mem_cons, not_or] at h
    rw [List.foldl_cons, ih _ h.2, get?_set, if_neg (Ne.symm h.1)]

/-- A key that is written once is found with its value. -/
theorem get?_update_of_mem (fields : List (String × Json)) {changes : List (String × Json)}
    {name : String} {value : Json} (hnodup : (changes.map Prod.fst).Nodup)
    (h : (name, value) ∈ changes) : get? (update fields changes) name = some value := by
  unfold update
  induction changes generalizing fields with
  | nil => cases h
  | cons change rest ih =>
    rw [List.map_cons, List.nodup_cons] at hnodup
    rw [List.foldl_cons]
    rcases List.mem_cons.mp h with hhere | hlater
    · subst hhere
      have hkept := get?_update_of_notMem (set fields name value) hnodup.1
      unfold update at hkept
      rw [hkept, get?_set, if_pos rfl]
    · exact ih _ hnodup.2 hlater

/-- A field of a dictionary, whose names are distinct, is found by its name. -/
theorem get?_of_mem {fields : List (String × Json)} {name : String} {value : Json}
    (hnodup : (fields.map Prod.fst).Nodup) (h : (name, value) ∈ fields) :
    get? fields name = some value := by
  unfold get?
  induction fields with
  | nil => cases h
  | cons field rest ih =>
    rw [List.map_cons, List.nodup_cons] at hnodup
    rcases List.mem_cons.mp h with rfl | hlater
    · simp
    · have hname : field.1 ≠ name := by
        intro heq
        rw [heq] at hnodup
        exact hnodup.1 (List.mem_map.mpr ⟨_, hlater, rfl⟩)
      simpa [hname] using ih hnodup.2 hlater

theorem get?_of_notMem {fields : List (String × Json)} {name : String}
    (h : name ∉ fields.map Prod.fst) : get? fields name = none := by
  unfold get?
  rw [Option.map_eq_none_iff, List.find?_eq_none]
  intro field hfield hname
  apply h
  rw [← of_decide_eq_true hname]
  exact List.mem_map_of_mem hfield

/-- A name is found with its change, and else as before. -/
theorem get?_update (fields : List (String × Json)) {changes : List (String × Json)}
    (hnodup : (changes.map Prod.fst).Nodup) (name : String) :
    get? (update fields changes) name = (get? changes name).or (get? fields name) := by
  by_cases h : name ∈ changes.map Prod.fst
  · obtain ⟨⟨name, value⟩, hchange, rfl⟩ := List.mem_map.mp h
    rw [get?_update_of_mem fields hnodup hchange, get?_of_mem hnodup hchange, Option.some_or]
  · rw [get?_update_of_notMem fields h, get?_of_notMem h, Option.none_or]

theorem mem_names_set {fields : List (String × Json)} {key name : String} {value : Json} :
    name ∈ (set fields key value).map Prod.fst ↔ name = key ∨ name ∈ fields.map Prod.fst := by
  induction fields with
  | nil => simp [set]
  | cons field rest ih =>
    unfold set
    by_cases hfield : field.1 = key
    · simp [hfield]
    · rw [if_neg hfield, List.map_cons, List.mem_cons, ih, List.map_cons, List.mem_cons]
      tauto

theorem nodup_set {fields : List (String × Json)} (h : (fields.map Prod.fst).Nodup)
    (key : String) (value : Json) : ((set fields key value).map Prod.fst).Nodup := by
  induction fields with
  | nil => simp [set]
  | cons field rest ih =>
    rw [List.map_cons, List.nodup_cons] at h
    unfold set
    by_cases hfield : field.1 = key
    · rw [if_pos hfield, List.map_cons, List.nodup_cons, ← hfield]
      exact h
    · rw [if_neg hfield, List.map_cons, List.nodup_cons, mem_names_set, not_or]
      exact ⟨⟨hfield, h.1⟩, ih h.2⟩

/-- The names of a dictionary stay distinct when it is updated. -/
theorem nodup_update {fields : List (String × Json)} (h : (fields.map Prod.fst).Nodup)
    (changes : List (String × Json)) : ((update fields changes).map Prod.fst).Nodup := by
  unfold update
  induction changes generalizing fields with
  | nil => exact h
  | cons change rest ih => exact ih (nodup_set h change.1 change.2)

/-- `{key: value for key, value in fields if keep(value)}`. -/
theorem get?_filter_value (keep : Json → Bool) {fields : List (String × Json)}
    (hnodup : (fields.map Prod.fst).Nodup) (name : String) :
    get? (fields.filter fun field => keep field.2) name = (get? fields name).filter keep := by
  induction fields with
  | nil => rfl
  | cons field rest ih =>
    rw [List.map_cons, List.nodup_cons] at hnodup
    have hrest := ih hnodup.2
    rw [List.filter_cons]
    by_cases hname : field.1 = name
    · have hout : get? (rest.filter fun field => keep field.2) name = none := by
        rw [hrest, get?_of_notMem (by rw [← hname]; exact hnodup.1), Option.filter_none]
      have hhere : get? (field :: rest) name = some field.2 := by simp [get?, hname]
      rw [hhere]
      by_cases hkeep : keep field.2 = true
      · rw [if_pos hkeep, Option.filter_some_pos hkeep]
        simp [get?, hname]
      · rw [if_neg hkeep, hout, Option.filter_some_neg (by simpa using hkeep)]
    · by_cases hkeep : keep field.2 = true
      · rw [if_pos hkeep]
        unfold get? at hrest ⊢
        simpa [hname] using hrest
      · rw [if_neg hkeep, hrest]
        unfold get?
        simp [hname]

/-- The string of an optional text, `null` when there is none. -/
def ofOption : Option String → Json
  | some s => .str s
  | none => .null

/-- Drop the fields whose name `keep` rejects, at every depth of objects and arrays. -/
def filterKeys (keep : String → Bool) : Json → Json
  | .arr items => .arr (filterItems keep items)
  | .obj fields => .obj (filterFields keep fields)
  | j => j
where
  filterItems (keep : String → Bool) : List Json → List Json
    | [] => []
    | j :: rest => filterKeys keep j :: filterItems keep rest
  filterFields (keep : String → Bool) : List (String × Json) → List (String × Json)
    | [] => []
    | (key, j) :: rest =>
      if keep key then (key, filterKeys keep j) :: filterFields keep rest
      else filterFields keep rest

/-! ## Canonical text -/

/-- Insert a field into fields sorted by name. -/
def insertField (field : String × Json) : List (String × Json) → List (String × Json)
  | [] => [field]
  | other :: rest =>
    if field.1.toList ≤ other.1.toList then field :: other :: rest
    else other :: insertField field rest

/-- Sort the fields of every object by name. -/
def sortKeys : Json → Json
  | .arr items => .arr (sortItems items)
  | .obj fields => .obj (sortFields fields)
  | j => j
where
  sortItems : List Json → List Json
    | [] => []
    | j :: rest => sortKeys j :: sortItems rest
  sortFields : List (String × Json) → List (String × Json)
    | [] => []
    | (key, j) :: rest => insertField (key, sortKeys j) (sortFields rest)

/-- A hexadecimal digit. -/
def hexDigit (n : ℕ) : Char := Char.ofNat (if n < 10 then 48 + n else 87 + n)

/-- The escape of a 16-bit code unit. -/
def escapeUnit (n : ℕ) : List Char :=
  "\\u".toList ++ [hexDigit (n / 4096 % 16), hexDigit (n / 256 % 16), hexDigit (n / 16 % 16),
    hexDigit (n % 16)]

/-- A character of a string in ASCII; above the basic plane it is a surrogate pair. -/
def escapeChar (c : Char) : List Char :=
  match c.toNat with
  | 34 => "\\\"".toList
  | 92 => "\\\\".toList
  | 8 => "\\b".toList
  | 9 => "\\t".toList
  | 10 => "\\n".toList
  | 12 => "\\f".toList
  | 13 => "\\r".toList
  | n =>
    if 32 ≤ n ∧ n ≤ 126 then [c]
    else if n < 65536 then escapeUnit n
    else escapeUnit (55296 + (n - 65536) / 1024) ++ escapeUnit (56320 + (n - 65536) % 1024)

/-- A string between quotes. -/
def quote (s : String) : List Char :=
  "\"".toList ++ s.toList.flatMap escapeChar ++ "\"".toList

/-- The text of a document, its fields in the order they stand. -/
def print (float : ℚ → List Char) : Json → List Char
  | .null => "null".toList
  | .bool true => "true".toList
  | .bool false => "false".toList
  | .int n => (toString n).toList
  | .float q => float q
  | .str s => quote s
  | .arr items => "[".toList ++ ",".toList.intercalate (printItems float items) ++ "]".toList
  | .obj fields =>
    "\x7b".toList ++ ",".toList.intercalate (printFields float fields) ++ "\x7d".toList
where
  printItems (float : ℚ → List Char) : List Json → List (List Char)
    | [] => []
    | j :: rest => print float j :: printItems float rest
  printFields (float : ℚ → List Char) : List (String × Json) → List (List Char)
    | [] => []
    | (key, j) :: rest =>
      (quote key ++ ":".toList ++ print float j) :: printFields float rest

/-- `json.dumps(value, sort_keys=True, separators=(",", ":"))`. -/
def dumps (float : ℚ → List Char) (j : Json) : List Char := print float j.sortKeys

end Json

end Lib
