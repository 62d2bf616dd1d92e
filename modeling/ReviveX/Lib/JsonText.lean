import ReviveX.Lib.Documents
import ReviveX.Lib.Separated

/-!
# Canonical JSON texts

The text of a document determines the document: every string reads back from its escapes, a
number ends where its digits do, and arrays and objects are put together from texts that end at
a comma or a closing bracket. Floats are left out, since their printing is a parameter.
-/

namespace Lib

namespace Json

/-! ## Strings -/

/-- The value of a hexadecimal digit. -/
def hexValue (c : Char) : ℕ := if c.toNat < 58 then c.toNat - 48 else c.toNat - 87

theorem hexValue_hexDigit : ∀ n < 16, hexValue (hexDigit n) = n := by decide

/-- The code unit at the start of a text. -/
def readUnit? : List Char → Option (ℕ × List Char)
  | _ :: _ :: a :: b :: c :: d :: rest =>
    some (hexValue a * 4096 + hexValue b * 256 + hexValue c * 16 + hexValue d, rest)
  | _ => none

theorem readUnit?_escapeUnit {n : ℕ} (h : n < 65536) (rest : List Char) :
    readUnit? (escapeUnit n ++ rest) = some (n, rest) := by
  have hread : readUnit? (escapeUnit n ++ rest) = some
      (hexValue (hexDigit (n / 4096 % 16)) * 4096 + hexValue (hexDigit (n / 256 % 16)) * 256 +
        hexValue (hexDigit (n / 16 % 16)) * 16 + hexValue (hexDigit (n % 16)), rest) := rfl
  have hdigit : ∀ m : ℕ, hexValue (hexDigit (m % 16)) = m % 16 := by
    intro m
    exact hexValue_hexDigit _ (Nat.mod_lt m (by decide))
  rw [hread, hdigit, hdigit, hdigit, hdigit]
  congr 2
  omega

/-- The character that a letter after a backslash stands for. -/
def unescapeLetter (c : Char) : Char :=
  if c = 'b' then Char.ofNat 8
  else if c = 't' then '\t'
  else if c = 'n' then '\n'
  else if c = 'f' then Char.ofNat 12
  else if c = 'r' then '\r'
  else c

/-- The character that the units at the start of a text stand for: one, or a surrogate pair. -/
def readEscape? (text : List Char) : Option (Char × List Char) :=
  (readUnit? text).bind fun high =>
    if 55296 ≤ high.1 ∧ high.1 < 56320 then
      (readUnit? high.2).map fun low =>
        (Char.ofNat (65536 + (high.1 - 55296) * 1024 + (low.1 - 56320)), low.2)
    else some (Char.ofNat high.1, high.2)

/-- The first character of a string's text, and the text after it. -/
def readChar? : List Char → Option (Char × List Char)
  | [] => none
  | c :: rest =>
    if c = '\\' then
      if rest.head? = some 'u' then readEscape? (c :: rest)
      else rest.head?.map fun letter => (unescapeLetter letter, rest.tail)
    else some (c, rest)

/-- The code points whose escape is a letter. -/
def shortEscapes : List ℕ := [34, 92, 8, 9, 10, 12, 13]

theorem escapeChar_other {c : Char} (h : c.toNat ∉ shortEscapes) :
    escapeChar c =
      if 32 ≤ c.toNat ∧ c.toNat ≤ 126 then [c]
      else if c.toNat < 65536 then escapeUnit c.toNat
      else escapeUnit (55296 + (c.toNat - 65536) / 1024) ++
        escapeUnit (56320 + (c.toNat - 65536) % 1024) := by
  simp only [shortEscapes, List.mem_cons, List.not_mem_nil, or_false, not_or] at h
  unfold escapeChar
  split <;> first | omega | rfl

/-- The units of a character above the ASCII range. -/
theorem readEscape?_units (c : Char) (rest : List Char) :
    readEscape? ((if c.toNat < 65536 then escapeUnit c.toNat
      else escapeUnit (55296 + (c.toNat - 65536) / 1024) ++
        escapeUnit (56320 + (c.toNat - 65536) % 1024)) ++ rest) = some (c, rest) := by
  have hvalid : c.toNat < 55296 ∨ 57343 < c.toNat ∧ c.toNat < 1114112 := c.valid
  unfold readEscape?
  by_cases hplane : c.toNat < 65536
  · have hsingle : ¬ (55296 ≤ c.toNat ∧ c.toNat < 56320) := by omega
    rw [if_pos hplane, readUnit?_escapeUnit hplane, Option.bind_some, if_neg hsingle,
      Char.ofNat_toNat]
  · have hhigh : 55296 + (c.toNat - 65536) / 1024 < 56320 := by omega
    have hlow : 56320 + (c.toNat - 65536) % 1024 < 65536 := by omega
    have hunits : 65536 + (55296 + (c.toNat - 65536) / 1024 - 55296) * 1024 +
        (56320 + (c.toNat - 65536) % 1024 - 56320) = c.toNat := by omega
    rw [if_neg hplane, List.append_assoc, readUnit?_escapeUnit (by omega), Option.bind_some,
      if_pos ⟨Nat.le_add_right _ _, hhigh⟩, readUnit?_escapeUnit hlow, Option.map_some]
    rw [hunits, Char.ofNat_toNat]

/-- A character reads back from its escape. -/
theorem readChar?_escapeChar (c : Char) (rest : List Char) :
    readChar? (escapeChar c ++ rest) = some (c, rest) := by
  by_cases hshort : c.toNat ∈ shortEscapes
  · have hcode : ∀ n ∈ shortEscapes,
        readChar? (escapeChar (Char.ofNat n) ++ rest) = some (Char.ofNat n, rest) := by
      intro n hn
      simp only [shortEscapes, List.mem_cons, List.not_mem_nil, or_false] at hn
      rcases hn with rfl | rfl | rfl | rfl | rfl | rfl | rfl <;> rfl
    have hread := hcode _ hshort
    rwa [Char.ofNat_toNat] at hread
  · rw [escapeChar_other hshort]
    by_cases hprinted : 32 ≤ c.toNat ∧ c.toNat ≤ 126
    · have hne : c ≠ '\\' := by
        rintro rfl
        exact hshort (by decide)
      rw [if_pos hprinted]
      show readChar? (c :: rest) = _
      rw [readChar?, if_neg hne]
    · rw [if_neg hprinted]
      have hunits := readEscape?_units c rest
      have hstart : ∃ tail, (if c.toNat < 65536 then escapeUnit c.toNat
          else escapeUnit (55296 + (c.toNat - 65536) / 1024) ++
            escapeUnit (56320 + (c.toNat - 65536) % 1024)) ++ rest = '\\' :: 'u' :: tail := by
        by_cases hplane : c.toNat < 65536
        · rw [if_pos hplane]
          exact ⟨_, rfl⟩
        · rw [if_neg hplane]
          exact ⟨_, rfl⟩
      obtain ⟨tail, htail⟩ := hstart
      rw [htail] at hunits ⊢
      rw [readChar?, if_pos rfl, List.head?_cons, if_pos rfl, hunits]

/-- No escape starts with the quotation mark that ends a string. -/
theorem escapeChar_cons (c : Char) : ∃ a tail, escapeChar c = a :: tail ∧ a ≠ '"' := by
  by_cases hquote : c = '"'
  · subst hquote
    exact ⟨_, _, rfl, by decide⟩
  · have hread := readChar?_escapeChar c []
    rw [List.append_nil] at hread
    cases htext : escapeChar c with
    | nil =>
      rw [htext] at hread
      cases hread
    | cons a tail =>
      refine ⟨a, tail, rfl, ?_⟩
      intro ha
      rw [htext, ha, readChar?, if_neg (by decide)] at hread
      have hsame := congrArg Prod.fst (Option.some.inj hread)
      exact hquote hsame.symm

/-- The characters of a string end at the first bare quotation mark. -/
theorem escaped_inj {s s' rest rest' : List Char}
    (h : s.flatMap escapeChar ++ '"' :: rest = s'.flatMap escapeChar ++ '"' :: rest') :
    s = s' ∧ rest = rest' := by
  have hstop : ∀ {c : Char} {s r r' : List Char},
      '"' :: r ≠ (c :: s).flatMap escapeChar ++ '"' :: r' := by
    intro c s r r' heq
    obtain ⟨a, tail, htext, ha⟩ := escapeChar_cons c
    rw [List.flatMap_cons, htext] at heq
    exact ha (List.cons.inj heq).1.symm
  induction s generalizing s' with
  | nil =>
    cases s' with
    | nil => exact ⟨rfl, (List.cons.inj h).2⟩
    | cons c s' => exact absurd h hstop
  | cons c s ih =>
    cases s' with
    | nil => exact absurd h.symm hstop
    | cons c' s' =>
      have hread := congrArg readChar? h
      rw [List.flatMap_cons, List.flatMap_cons, List.append_assoc, List.append_assoc,
        readChar?_escapeChar, readChar?_escapeChar] at hread
      obtain ⟨hc, hrest⟩ := Prod.mk.inj (Option.some.inj hread)
      obtain ⟨hs, hr⟩ := ih hrest
      exact ⟨by rw [hc, hs], hr⟩

theorem quote_append (s : String) (rest : List Char) :
    quote s ++ rest = '"' :: (s.toList.flatMap escapeChar ++ '"' :: rest) := by
  unfold quote
  simp

/-- A quoted string determines its characters and what follows it. -/
theorem quote_inj {s s' : String} {rest rest' : List Char}
    (h : quote s ++ rest = quote s' ++ rest') : s = s' ∧ rest = rest' := by
  rw [quote_append, quote_append] at h
  obtain ⟨hs, hrest⟩ := escaped_inj (List.cons.inj h).2
  exact ⟨String.toList_inj.mp hs, hrest⟩

/-! ## Numbers -/

/-- A part of one kind of entries ends where another kind starts. -/
theorem span_inj {α : Type} {p : α → Bool} {xs ys rest rest' : List α}
    (hxs : ∀ a ∈ xs, p a = true) (hys : ∀ a ∈ ys, p a = true)
    (hrest : ∀ a ∈ rest.head?, p a = false) (hrest' : ∀ a ∈ rest'.head?, p a = false)
    (h : xs ++ rest = ys ++ rest') : xs = ys ∧ rest = rest' := by
  have hspan : ∀ {zs tail : List α}, (∀ a ∈ zs, p a = true) →
      (∀ a ∈ tail.head?, p a = false) → (zs ++ tail).takeWhile p = zs := by
    intro zs tail hzs htail
    rw [List.takeWhile_append_of_pos hzs]
    cases tail with
    | nil => simp
    | cons a tail => simp [htail a rfl]
  have hsame := congrArg (List.takeWhile p) h
  rw [hspan hxs hrest, hspan hys hrest'] at hsame
  rw [hsame] at h
  exact ⟨hsame, List.append_cancel_left h⟩

/-- The characters of a whole number. -/
def isNumeral (c : Char) : Bool := c.isDigit || c = '-'

theorem toList_intText (n : ℤ) :
    (toString n).toList =
      if 0 ≤ n then Nat.toDigits 10 n.toNat else '-' :: Nat.toDigits 10 (-n).toNat := by
  rw [Int.toString_eq_repr, Int.repr_eq_if]
  by_cases hsign : 0 ≤ n
  · rw [if_pos hsign, if_pos hsign]
    exact toList_natText n.toNat
  · rw [if_neg hsign, if_neg hsign, String.toList_append]
    exact congrArg ('-' :: ·) (toList_natText (-n).toNat)

theorem isNumeral_of_mem {n : ℤ} : ∀ c ∈ (toString n).toList, isNumeral c = true := by
  have hdigits : ∀ {m : ℕ} {c : Char}, c ∈ Nat.toDigits 10 m → isNumeral c = true := by
    intro m c hc
    rw [isNumeral, Nat.isDigit_of_mem_toDigits (by decide) (by decide) hc, Bool.true_or]
  intro c hc
  rw [toList_intText] at hc
  by_cases hsign : 0 ≤ n
  · rw [if_pos hsign] at hc
    exact hdigits hc
  · rw [if_neg hsign] at hc
    rcases List.mem_cons.mp hc with rfl | hmem
    · rfl
    · exact hdigits hmem

theorem intText_inj {n m : ℤ} (h : (toString n).toList = (toString m).toList) : n = m := by
  have hminus : ∀ a b : ℕ, Nat.toDigits 10 a ≠ '-' :: Nat.toDigits 10 b := by
    intro a b heq
    have hmem : '-' ∈ Nat.toDigits 10 a := heq ▸ List.mem_cons_self
    have hdigit := Nat.isDigit_of_mem_toDigits (by decide) (by decide) hmem
    exact absurd hdigit (by decide)
  have hdigits : ∀ {a b : ℕ}, Nat.toDigits 10 a = Nat.toDigits 10 b → a = b := by
    intro a b heq
    rw [← toList_natText, ← toList_natText] at heq
    exact natText_inj (String.toList_inj.mp heq)
  rw [toList_intText, toList_intText] at h
  by_cases hn : 0 ≤ n <;> by_cases hm : 0 ≤ m
  · rw [if_pos hn, if_pos hm] at h
    have := hdigits h
    omega
  · rw [if_pos hn, if_neg hm] at h
    exact absurd h (hminus _ _)
  · rw [if_neg hn, if_pos hm] at h
    exact absurd h.symm (hminus _ _)
  · rw [if_neg hn, if_neg hm] at h
    have := hdigits (List.cons.inj h).2
    omega

/-! ## Lists of texts -/

/-- What may follow the text of a document inside another. -/
def Stops (rest : List Char) : Prop := ∀ c ∈ rest.head?, c = ',' ∨ c = ']' ∨ c = '\x7d'

theorem Stops.nil : Stops [] := by
  intro c hc
  cases hc

theorem Stops.cons {c : Char} (h : c = ',' ∨ c = ']' ∨ c = '\x7d') (rest : List Char) :
    Stops (c :: rest) := by
  intro a ha
  obtain rfl := Option.some.inj ha
  exact h

theorem Stops.not_isNumeral {rest : List Char} (h : Stops rest) :
    ∀ c ∈ rest.head?, isNumeral c = false := by
  intro c hc
  rcases h c hc with rfl | rfl | rfl <;> decide

variable {α : Type} {f : α → List Char} {close : Char}

theorem intercalate_cons (f : α → List Char) (x : α) (xs : List α) :
    ",".toList.intercalate ((x :: xs).map f) = f x ++ xs.flatMap fun x => ',' :: f x := by
  induction xs generalizing x with
  | nil => simp [List.intercalate]
  | cons y ys ih =>
    rw [List.map_cons, List.map_cons, List.intercalate_cons_cons, ← List.map_cons, ih,
      List.flatMap_cons]
    simp

/-- `f` prints texts that determine what they are printed from when they stop. -/
def Determines (f : α → List Char) (x y : α) : Prop :=
  ∀ rest rest', Stops rest → Stops rest' → f x ++ rest = f y ++ rest' → x = y ∧ rest = rest'

theorem stops_commas (hclose : close = ']' ∨ close = '\x7d') (f : α → List Char) (xs : List α)
    (rest : List Char) : Stops ((xs.flatMap fun x => ',' :: f x) ++ close :: rest) := by
  cases xs with
  | nil => exact Stops.cons (Or.inr hclose) rest
  | cons x xs => exact Stops.cons (Or.inl rfl) _

/-- The texts behind commas, up to the closing bracket. -/
theorem commas_inj (hclose : close = ']' ∨ close = '\x7d') {xs ys : List α}
    {rest rest' : List Char} (hinj : ∀ x ∈ xs, ∀ y ∈ ys, Determines f x y)
    (h : (xs.flatMap fun x => ',' :: f x) ++ close :: rest =
      (ys.flatMap fun y => ',' :: f y) ++ close :: rest') : xs = ys ∧ rest = rest' := by
  have hcomma : ',' ≠ close := by
    rcases hclose with rfl | rfl <;> decide
  -- on the first list: a comma or the closing bracket tells whether the other one ends too
  induction xs generalizing ys with
  | nil =>
    cases ys with
    | nil => exact ⟨rfl, (List.cons.inj h).2⟩
    | cons y ys => exact absurd (List.cons.inj h).1.symm hcomma
  | cons x xs ih =>
    cases ys with
    | nil => exact absurd (List.cons.inj h).1 hcomma
    | cons y ys =>
      rw [List.flatMap_cons, List.flatMap_cons, List.cons_append, List.cons_append,
        List.cons_append, List.cons_append, List.append_assoc, List.append_assoc] at h
      obtain ⟨hhead, htail⟩ := hinj x List.mem_cons_self y List.mem_cons_self _ _
        (stops_commas hclose f xs rest) (stops_commas hclose f ys rest') (List.cons.inj h).2
      obtain ⟨hxs, hrest⟩ := ih (fun x hx y hy => hinj x (.tail _ hx) y (.tail _ hy)) htail
      exact ⟨by rw [hhead, hxs], hrest⟩

/-- A bracketed list of texts determines its entries. -/
theorem bracketed_inj (hclose : close = ']' ∨ close = '\x7d') {xs ys : List α}
    {rest rest' : List Char} (hinj : ∀ x ∈ xs, ∀ y ∈ ys, Determines f x y)
    (hstart : ∀ x, x ∈ xs ∨ x ∈ ys → ∃ a tail, f x = a :: tail ∧ a ≠ close)
    (h : ",".toList.intercalate (xs.map f) ++ close :: rest =
      ",".toList.intercalate (ys.map f) ++ close :: rest') : xs = ys ∧ rest = rest' := by
  have hnonempty : ∀ {x : α} {zs r r' : List _}, (∃ a tail, f x = a :: tail ∧ a ≠ close) →
      close :: r ≠ ",".toList.intercalate ((x :: zs).map f) ++ close :: r' := by
    intro x zs r r' hx heq
    obtain ⟨a, tail, htext, ha⟩ := hx
    rw [intercalate_cons, htext] at heq
    exact ha (List.cons.inj heq).1.symm
  cases xs with
  | nil =>
    cases ys with
    | nil => exact ⟨rfl, (List.cons.inj h).2⟩
    | cons y ys => exact absurd h (hnonempty (hstart y (Or.inr List.mem_cons_self)))
  | cons x xs =>
    cases ys with
    | nil => exact absurd h.symm (hnonempty (hstart x (Or.inl List.mem_cons_self)))
    | cons y ys =>
      rw [intercalate_cons, intercalate_cons, List.append_assoc, List.append_assoc] at h
      obtain ⟨hhead, htail⟩ := hinj x List.mem_cons_self y List.mem_cons_self _ _
        (stops_commas hclose f xs rest) (stops_commas hclose f ys rest') h
      obtain ⟨hxs, hrest⟩ :=
        commas_inj hclose (fun x hx y hy => hinj x (.tail _ hx) y (.tail _ hy)) htail
      exact ⟨by rw [hhead, hxs], hrest⟩

/-! ## Documents -/

/-- A document without floats. -/
def floatFree (j : Json) : Bool :=
  j.everywhere fun
    | .float _ => false
    | _ => true

theorem floatFree_arr {items : List Json} :
    floatFree (.arr items) = true ↔ ∀ j ∈ items, floatFree j = true := by
  unfold floatFree
  rw [everywhere_arr]
  exact and_iff_right rfl

theorem floatFree_obj {fields : List (String × Json)} :
    floatFree (.obj fields) = true ↔ ∀ field ∈ fields, floatFree field.2 = true := by
  unfold floatFree
  rw [everywhere_obj]
  exact and_iff_right rfl

/-- The text of a field. -/
def printField (float : ℚ → List Char) (field : String × Json) : List Char :=
  quote field.1 ++ ":".toList ++ print float field.2

theorem print_arr (float : ℚ → List Char) (items : List Json) (rest : List Char) :
    print float (.arr items) ++ rest =
      '[' :: (",".toList.intercalate (items.map (print float)) ++ ']' :: rest) := by
  have hitems : print.printItems float items = items.map (print float) := by
    induction items with
    | nil => rfl
    | cons j rest ih => rw [print.printItems, ih, List.map_cons]
  rw [print, hitems]
  simp

theorem print_obj (float : ℚ → List Char) (fields : List (String × Json)) (rest : List Char) :
    print float (.obj fields) ++ rest =
      '\x7b' :: (",".toList.intercalate (fields.map (printField float)) ++ '\x7d' :: rest) := by
  have hfields : print.printFields float fields = fields.map (printField float) := by
    induction fields with
    | nil => rfl
    | cons field rest ih =>
      rw [print.printFields, ih, List.map_cons]
      rfl
  rw [print, hfields]
  simp

/-- The kind of document whose text starts with a character. -/
def kindOf (c : Char) : ℕ :=
  if c = '"' then 0 else if c = '[' then 1 else if c = '\x7b' then 2 else if c = 'n' then 3
  else if c = 't' then 4 else if c = 'f' then 5 else 6

/-- The kind of a document. -/
def kind : Json → ℕ
  | .str _ => 0
  | .arr _ => 1
  | .obj _ => 2
  | .null => 3
  | .bool true => 4
  | .bool false => 5
  | .int _ => 6
  | .float _ => 7

theorem kindOf_isNumeral {c : Char} (h : isNumeral c = true) : kindOf c = 6 := by
  have hne : ∀ d : Char, isNumeral d = false → c ≠ d := by
    rintro d hd rfl
    rw [h] at hd
    cases hd
  simp [kindOf, hne '"' (by decide), hne '[' (by decide), hne '\x7b' (by decide),
    hne 'n' (by decide), hne 't' (by decide), hne 'f' (by decide)]

/-- The first character of a text tells the kind of the document. -/
theorem print_cons (float : ℚ → List Char) {j : Json} (h : floatFree j = true) :
    ∃ c tail, print float j = c :: tail ∧ kindOf c = kind j ∧ c ≠ ']' := by
  cases j with
  | null => exact ⟨_, _, rfl, by decide, by decide⟩
  | bool b => cases b <;> exact ⟨_, _, rfl, by decide, by decide⟩
  | int n =>
    have hall := isNumeral_of_mem (n := n)
    cases htext : (toString n).toList with
    | nil =>
      rw [toList_intText] at htext
      split at htext
      · exact absurd htext Nat.toDigits_ne_nil
      · cases htext
    | cons c tail =>
      have hc : isNumeral c = true := hall c (htext ▸ List.mem_cons_self)
      refine ⟨c, tail, htext, kindOf_isNumeral hc, ?_⟩
      rintro rfl
      exact absurd hc (by decide)
  | float q => cases h
  | str s => exact ⟨'"', _, rfl, rfl, by decide⟩
  | arr items => exact ⟨'[', _, rfl, rfl, by decide⟩
  | obj fields => exact ⟨'\x7b', _, rfl, rfl, by decide⟩

theorem kind_eq (float : ℚ → List Char) {j j' : Json} {rest rest' : List Char}
    (hj : floatFree j = true) (hj' : floatFree j' = true)
    (h : print float j ++ rest = print float j' ++ rest') : kind j = kind j' := by
  obtain ⟨c, tail, htext, hkind, -⟩ := print_cons float hj
  obtain ⟨c', tail', htext', hkind', -⟩ := print_cons float hj'
  rw [htext, htext'] at h
  rw [← hkind, ← hkind', (List.cons.inj h).1]

/-- The text of a document without floats determines it, wherever the text stands. -/
theorem print_determines (float : ℚ → List Char) {j j' : Json} (hj : floatFree j = true)
    (hj' : floatFree j' = true) : Determines (print float) j j' := by
  -- on the first document: its first character tells the kind, so the second is of that kind
  induction j using induct generalizing j' with
  | null =>
    intro rest rest' _ _ h
    have hkind := kind_eq float hj hj' h
    cases j' with
    | null => exact ⟨rfl, List.append_cancel_left h⟩
    | bool b => cases b <;> cases hkind
    | int | float | str | arr | obj => cases hkind
  | bool b =>
    intro rest rest' _ _ h
    have hkind := kind_eq float hj hj' h
    cases j' with
    | bool b' =>
      cases b <;> cases b' <;> first
        | cases hkind; done
        | exact ⟨rfl, List.append_cancel_left h⟩
    | null | int | float | str | arr | obj => cases b <;> cases hkind
  | int n =>
    intro rest rest' hrest hrest' h
    have hkind := kind_eq float hj hj' h
    cases j' with
    | int m =>
      obtain ⟨htext, hsame⟩ := span_inj isNumeral_of_mem isNumeral_of_mem hrest.not_isNumeral
        hrest'.not_isNumeral h
      exact ⟨by rw [intText_inj htext], hsame⟩
    | bool b => cases b <;> cases hkind
    | null | float | str | arr | obj => cases hkind
  | float q => cases hj
  | str s =>
    intro rest rest' _ _ h
    have hkind := kind_eq float hj hj' h
    cases j' with
    | str s' =>
      obtain ⟨hs, hsame⟩ := quote_inj h
      exact ⟨by rw [hs], hsame⟩
    | bool b => cases b <;> cases hkind
    | null | int | float | arr | obj => cases hkind
  | arr items ih =>
    intro rest rest' _ _ h
    have hkind := kind_eq float hj hj' h
    cases j' with
    | arr items' =>
      rw [print_arr, print_arr] at h
      rw [floatFree_arr] at hj hj'
      have hstart : ∀ x, x ∈ items ∨ x ∈ items' →
          ∃ a tail, print float x = a :: tail ∧ a ≠ ']' := by
        intro x hx
        have hfree : floatFree x = true := hx.elim (hj x) (hj' x)
        obtain ⟨c, tail, htext, -, hc⟩ := print_cons float hfree
        exact ⟨c, tail, htext, hc⟩
      obtain ⟨hitems, hsame⟩ := bracketed_inj (Or.inl rfl)
        (fun x hx y hy => ih x hx (hj x hx) (hj' y hy)) hstart (List.cons.inj h).2
      exact ⟨by rw [hitems], hsame⟩
    | bool b => cases b <;> cases hkind
    | null | int | float | str | obj => cases hkind
  | obj fields ih =>
    intro rest rest' _ _ h
    have hkind := kind_eq float hj hj' h
    cases j' with
    | obj fields' =>
      rw [print_obj, print_obj] at h
      rw [floatFree_obj] at hj hj'
      have hfield : ∀ x ∈ fields, ∀ y ∈ fields', Determines (printField float) x y := by
        intro x hx y hy r r' hr hr' heq
        -- the name ends at its quotation mark, and the value after the colon by induction
        rw [printField, printField, List.append_assoc, List.append_assoc, List.append_assoc,
          List.append_assoc] at heq
        obtain ⟨hname, hvalue⟩ := quote_inj heq
        obtain ⟨hsame, hr⟩ := ih x hx (hj x hx) (hj' y hy) r r' hr hr'
          (List.append_cancel_left hvalue)
        exact ⟨Prod.ext hname hsame, hr⟩
      have hstart : ∀ x, x ∈ fields ∨ x ∈ fields' →
          ∃ a tail, printField float x = a :: tail ∧ a ≠ '\x7d' :=
        fun x _ => ⟨_, _, rfl, by decide⟩
      obtain ⟨hfields, hsame⟩ := bracketed_inj (Or.inr rfl) hfield hstart (List.cons.inj h).2
      exact ⟨by rw [hfields], hsame⟩
    | bool b => cases b <;> cases hkind
    | null | int | float | str | arr => cases hkind

theorem print_inj (float : ℚ → List Char) {j j' : Json} (hj : floatFree j = true)
    (hj' : floatFree j' = true) (h : print float j = print float j') : j = j' :=
  (print_determines float hj hj' [] [] Stops.nil Stops.nil (by rw [h])).1

end Json

end Lib
