import ReviveX.Domain.StorageTheorems
import ReviveX.Lib.KeyOrder
import ReviveX.Tools.KeyTheorems

/-!
# What a request hash stands for

`sanitize_payload` drops the sensitive names at every depth and nothing else. The names of the
tools' inputs are not among them and their values are texts, whole numbers and nulls, so the text
that is hashed determines the tool, the action and the input of a request, whatever the order of
the keys.
-/

namespace ReviveX

open Lib (Json)
open Lib.Json (RedactedTo Reordered allKeys floatFree uniqueNames)

variable {rt : Runtime} {tool tool' : ToolName} {action action' : Option String}
  {input input' payload dump : Payload} {name : String} {value : Json}

/-- The names that `sanitize_payload` is meant to leave. -/
def isPlainKey (rt : Runtime) (key : String) : Bool := !isSensitiveKey rt key

/-- The action that a request is hashed with. -/
def requestAction (tool : ToolName) (action : Option String) : String :=
  ((actionForTool tool).map (·.text)).getD ((givenText action).getD tool.text)

/-- An input of a tool as validation leaves it, its keys in any order. -/
def ValidInput (rt : Runtime) (tool : ToolName) (input : Payload) : Prop :=
  ∃ payload dump, validateInput rt tool payload = .ok dump ∧ dump.Perm input

/-- The documented behaviour of `str.lower` on names in lower-case letters and underscores. -/
def KeepsLowerNames (rt : Runtime) : Prop :=
  ∀ name, isLowerName name = true → rt.lower name = name.toList

/-- Sanitizing redacts, and the hashed text stands for the request. -/
structure CanonicalSound (rt : Runtime) : Prop where
  redacts : ∀ value, RedactedTo (isPlainKey rt) value (sanitizePayload rt value)
  idempotent : ∀ value,
    sanitizePayload rt (sanitizePayload rt value) = sanitizePayload rt value
  text_eq_iff : ∀ tool tool' action action' input input',
    ValidInput rt tool input → ValidInput rt tool' input' →
      (canonicalRequestText rt (hashPayload tool action input) =
          canonicalRequestText rt (hashPayload tool' action' input') ↔
        tool = tool' ∧ requestAction tool action = requestAction tool' action' ∧
          Reordered (.obj input) (.obj input'))
  orderFree : ∀ payload payload', uniqueNames (.obj payload) = true →
    Reordered (.obj payload) (.obj payload') →
      canonicalRequestText rt payload = canonicalRequestText rt payload'

/-! ## The names of a request -/

/-- No fragment of a sensitive name stands in a name. -/
def namesNothing (name : String) : Bool :=
  isLowerName name &&
    !sensitiveKeyFragments.any fun fragment => containsWord fragment.toList name.toList

theorem isPlainKey_of_namesNothing (hlower : KeepsLowerNames rt) (h : namesNothing name = true) :
    isPlainKey rt name = true := by
  rw [namesNothing, Bool.and_eq_true] at h
  rw [isPlainKey, isSensitiveKey, hlower name h.1]
  exact h.2

/-- The fields of the tools' inputs have ordinary names. -/
theorem inputModel_namesNothing (tool : ToolName) :
    ∀ field ∈ tool.spec.inputModel, namesNothing field.name = true := by
  cases tool <;> decide +kernel

/-! ## The values of an input -/

/-- A text, a whole number or null. -/
def IsPlainValue (value : Json) : Prop :=
  value = .null ∨ (∃ s, value = .str s) ∨ ∃ n, value = .int n

theorem FieldKind.isPlainValue_default {kind : FieldKind} (h : kind.default = some value) :
    IsPlainValue value := by
  cases kind <;> simp only [FieldKind.default, Option.some.injEq, reduceCtorEq] at h <;>
    subst h <;> simp [IsPlainValue]

theorem FieldKind.isPlainValue_convert {kind : FieldKind} {given : Json}
    (h : kind.convert rt given = some value) : IsPlainValue value := by
  cases kind <;> cases given <;>
    simp only [FieldKind.convert, Option.some.injEq, Option.map_eq_some_iff, reduceCtorEq] at h
  all_goals first
    | subst h
      simp [IsPlainValue]
    | obtain ⟨a, -, rfl⟩ := h
      simp [IsPlainValue]

/-- Every entry of a validated input is a field of the tool with such a value. -/
theorem readFields_isPlainValue {fields : List InputField}
    (h : readFields rt payload fields = some dump) :
    ∀ entry ∈ dump, IsPlainValue entry.2 := by
  induction fields generalizing dump with
  | nil =>
    obtain rfl := Option.some.inj h
    intro entry hentry
    cases hentry
  | cons field rest ih =>
    simp only [readFields, Option.bind_eq_bind, Option.bind_eq_some_iff] at h
    obtain ⟨value, hvalue, others, hothers, heq⟩ := h
    obtain rfl := Option.some.inj heq
    intro entry hentry
    rcases List.mem_cons.mp hentry with rfl | hmem
    · unfold InputField.read at hvalue
      cases hgiven : Json.get? payload field.name with
      | none =>
        rw [hgiven] at hvalue
        exact FieldKind.isPlainValue_default hvalue
      | some given =>
        rw [hgiven] at hvalue
        exact FieldKind.isPlainValue_convert hvalue
    · exact ih hothers entry hmem

/-- What the code relies on of a validated input. -/
structure PlainInput (rt : Runtime) (input : Payload) : Prop where
  plain : allKeys (isPlainKey rt) (.obj input) = true
  unique : uniqueNames (.obj input) = true
  floatFree : floatFree (.obj input) = true

theorem ValidInput.plainInput (hlower : KeepsLowerNames rt) (h : ValidInput rt tool input) :
    PlainInput rt input := by
  obtain ⟨payload, dump, hvalid, hperm⟩ := h
  have hnames := names_of_validateInput hvalid
  have hvalues : ∀ entry ∈ input, IsPlainValue entry.2 := by
    intro entry hentry
    exact readFields_isPlainValue (readFields_of_validateInput hvalid) entry
      (hperm.mem_iff.mpr hentry)
  refine ⟨Json.allKeys_obj.mpr ?_, Json.uniqueNames_obj.mpr ⟨?_, ?_⟩, Json.floatFree_obj.mpr ?_⟩
  · intro entry hentry
    have hname : entry.1 ∈ tool.spec.inputModel.map (·.name) := by
      rw [← hnames]
      exact List.mem_map_of_mem (hperm.mem_iff.mpr hentry)
    obtain ⟨field, hfield, heq⟩ := List.mem_map.mp hname
    refine ⟨heq ▸ isPlainKey_of_namesNothing hlower (inputModel_namesNothing tool field hfield), ?_⟩
    rcases hvalues entry hentry with hvalue | ⟨s, hvalue⟩ | ⟨n, hvalue⟩ <;> rw [hvalue] <;> rfl
  · rw [← (hperm.map Prod.fst).nodup_iff, hnames]
    exact inputModel_nodup tool
  · intro entry hentry
    rcases hvalues entry hentry with hvalue | ⟨s, hvalue⟩ | ⟨n, hvalue⟩ <;> rw [hvalue] <;> rfl
  · intro entry hentry
    rcases hvalues entry hentry with hvalue | ⟨s, hvalue⟩ | ⟨n, hvalue⟩ <;> rw [hvalue] <;> rfl

/-! ## The hashed document -/

theorem hashPayload_eq (tool : ToolName) (action : Option String) (input : Payload) :
    hashPayload tool action input =
      [("tool_name", .str tool.text), ("action", .str (requestAction tool action)),
        ("input", .obj input)] := rfl

/-- The document around an input is as plain as the input. -/
theorem plainInput_hashPayload (hlower : KeepsLowerNames rt) (h : PlainInput rt input) :
    PlainInput rt (hashPayload tool action input) := by
  have hkeys : ∀ name ∈ ["tool_name", "action", "input"], isPlainKey rt name = true := by
    intro name hname
    have hordinary : ∀ name ∈ ["tool_name", "action", "input"], namesNothing name = true := by
      decide +kernel
    exact isPlainKey_of_namesNothing hlower (hordinary name hname)
  rw [hashPayload_eq]
  have hnodup : ["tool_name", "action", "input"].Nodup := by decide
  refine ⟨Json.allKeys_obj.mpr ?_, Json.uniqueNames_obj.mpr ⟨hnodup, ?_⟩,
    Json.floatFree_obj.mpr ?_⟩
  · simp only [List.forall_mem_cons]
    exact ⟨⟨hkeys _ (by simp), rfl⟩, ⟨hkeys _ (by simp), rfl⟩, ⟨hkeys _ (by simp), h.plain⟩,
      nofun⟩
  · simp only [List.forall_mem_cons]
    exact ⟨rfl, rfl, h.unique, nofun⟩
  · simp only [List.forall_mem_cons]
    exact ⟨rfl, rfl, h.floatFree, nofun⟩

/-- The document with its keys sorted. -/
theorem sortKeys_hashPayload (tool : ToolName) (action : Option String) (input : Payload) :
    (Json.obj (hashPayload tool action input)).sortKeys =
      .obj [("action", .str (requestAction tool action)), ("input", (Json.obj input).sortKeys),
        ("tool_name", .str tool.text)] := by
  have hfirst : ∀ a input : Json, Json.insertField ("action", a) [("input", input)] =
      [("action", a), ("input", input)] := by
    have hle : "action".toList ≤ "input".toList := by decide +kernel
    intro a input
    exact if_pos hle
  have hlast : ∀ t a input : Json,
      Json.insertField ("tool_name", t) [("action", a), ("input", input)] =
        [("action", a), ("input", input), ("tool_name", t)] := by
    have haction : ¬ "tool_name".toList ≤ "action".toList := by decide +kernel
    have hinput : ¬ "tool_name".toList ≤ "input".toList := by decide +kernel
    intro t a input
    rw [Json.insertField, if_neg haction, Json.insertField, if_neg hinput]
    rfl
  rw [← hlast, ← hfirst]
  rfl

/-- Documents of requests are the same up to order when their entries are. -/
theorem hashPayload_reordered_iff (hlower : KeepsLowerNames rt) (h : PlainInput rt input) :
    Reordered (.obj (hashPayload tool action input)) (.obj (hashPayload tool' action' input')) ↔
      tool = tool' ∧ requestAction tool action = requestAction tool' action' ∧
        Reordered (.obj input) (.obj input') := by
  constructor
  · intro hsame
    have hsorted := Json.sortKeys_reordered hsame (plainInput_hashPayload hlower h).unique
    rw [sortKeys_hashPayload, sortKeys_hashPayload] at hsorted
    simp only [Json.obj.injEq, List.cons.injEq, Prod.mk.injEq, Json.str.injEq, true_and,
      and_true] at hsorted
    obtain ⟨haction, hinput, htool⟩ := hsorted
    have hfound := ToolName.ofText?_text tool
    rw [htool, ToolName.ofText?_text] at hfound
    refine ⟨(Option.some.inj hfound).symm, haction, ?_⟩
    have hback := (Json.reordered_sortKeys (.obj input')).symm
    rw [← hinput] at hback
    exact (Json.reordered_sortKeys (.obj input)).trans hback
  · intro hsame
    obtain ⟨rfl, haction, hinput⟩ := hsame
    rw [hashPayload_eq, hashPayload_eq, haction]
    have hfield : ∀ front : Payload, Reordered (.obj (front ++ [("input", .obj input)]))
        (.obj (front ++ [("input", .obj input')])) := fun front => .field hinput
    exact hfield [("tool_name", .str tool.text), ("action", .str (requestAction tool action'))]

theorem sanitizePayload_of_plain (h : PlainInput rt payload) :
    sanitizePayload rt (.obj payload) = .obj payload :=
  Json.filterKeys_of_allKeys h.plain

/-- Sanitizing a document redacts it, sanitizing it twice does nothing more, and the hashed text
tells tool, action and input apart, whatever the order of the keys. -/
theorem canonicalRequest_sound (hlower : KeepsLowerNames rt) : CanonicalSound rt where
  redacts value := Json.redactedTo_filterKeys _ value
  idempotent value := Json.filterKeys_idem _ value
  text_eq_iff tool tool' action action' input input' hvalid hvalid' := by
    have hplain := hvalid.plainInput hlower
    have hdocument : PlainInput rt (hashPayload tool action input) :=
      plainInput_hashPayload hlower hplain
    have hdocument' : PlainInput rt (hashPayload tool' action' input') :=
      plainInput_hashPayload hlower (hvalid'.plainInput hlower)
    unfold canonicalRequestText
    rw [sanitizePayload_of_plain hdocument, sanitizePayload_of_plain hdocument',
      Json.dumps_eq_iff _ hdocument.unique hdocument.floatFree hdocument'.floatFree,
      hashPayload_reordered_iff hlower hplain]
  orderFree payload payload' hunique hsame :=
    Json.dumps_reordered _ (hsame.filterKeys _) (Json.uniqueNames_filterKeys _ hunique)

/-! ## A runtime -/

theorem toLower_lowerName {c : Char} (h : (c.isLower || c = '_') = true) : c.toLower = c := by
  rw [Bool.or_eq_true, decide_eq_true_eq] at h
  rcases h with hlower | rfl
  · have hrange : (decide ('a'.val ≤ c.val) && decide (c.val ≤ 'z'.val)) = true := hlower
    rw [Bool.and_eq_true, decide_eq_true_eq, decide_eq_true_eq] at hrange
    apply dif_neg
    intro hupper
    exact absurd (UInt32.le_trans hrange.1 hupper.2) (by decide)
  · rfl

theorem sampleRuntime_keepsLowerNames : KeepsLowerNames sampleRuntime := by
  intro name h
  rw [isLowerName, List.all_eq_true] at h
  show name.toList.map Char.toLower = name.toList
  rw [List.map_congr_left fun c hc => toLower_lowerName (h c hc), List.map_id']

theorem canonicalRequest_sound_sample : CanonicalSound sampleRuntime :=
  canonicalRequest_sound sampleRuntime_keepsLowerNames

end ReviveX
