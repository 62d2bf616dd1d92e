import ReviveX.Agents.Security
import ReviveX.Domain.Ingestion
import ReviveX.Domain.OrderTheorems
import ReviveX.Lib.Redaction
import ReviveX.Tools.KeyTheorems

/-!
# What the filters of stored and shown documents leave

Both filters drop the blocked names they come to. `_safe_payload` looks at the top level only,
and `strip_secrets` goes into objects but not into arrays; they redact a document exactly when
the part they do not look at holds no blocked name.
-/

namespace ReviveX

open Lib (Json)
open Lib.Json (RedactedTo allKeys)

variable {env : EventText} {rt : Runtime} {payload : Payload}

/-! ## The stored payload -/

/-- The names that `_safe_payload` is meant to leave. -/
def isSafeKey (env : EventText) (key : String) : Bool :=
  !blockedPayloadKeys.contains (env.lower key)

/-- No blocked name stands below a name that is kept. -/
def SafeBelow (env : EventText) (payload : Payload) : Prop :=
  ∀ field ∈ payload, isSafeKey env field.1 = true → allKeys (isSafeKey env) field.2 = true

theorem safePayload_redacts_iff (env : EventText) (payload : Payload) :
    RedactedTo (isSafeKey env) (.obj payload) (.obj (safePayload env payload)) ↔
      SafeBelow env payload := by
  constructor
  · intro h field hfield hkept
    have hgone := Json.allKeys_obj.mp h.gone
    exact (hgone field (List.mem_filter.mpr ⟨hfield, hkept⟩)).2
  · intro h
    have hfilter : Json.filterKeys (isSafeKey env) (.obj payload) =
        .obj (safePayload env payload) := by
      have hsame : ∀ field ∈ payload.filter fun field => isSafeKey env field.1,
          (field.1, Json.filterKeys (isSafeKey env) field.2) = field := by
        intro field hfield
        obtain ⟨hmem, hkept⟩ := List.mem_filter.mp hfield
        rw [Json.filterKeys_of_allKeys (h field hmem hkept)]
      rw [Json.filterKeys_obj, List.map_congr_left hsame, List.map_id']
      rfl
    rw [← hfilter]
    exact Json.redactedTo_filterKeys _ _

/-! ## The shown document -/

/-- The names that `strip_secrets` is meant to leave. -/
def isPublicKey (rt : Runtime) (key : String) : Bool := !isSecretKey rt key

/-- No array that is reached by kept names holds a blocked name. -/
def arraysPublic (rt : Runtime) : Json → Bool
  | .arr items => allKeys (isPublicKey rt) (.arr items)
  | .obj fields => fieldsPublic rt fields
  | _ => true
where
  fieldsPublic (rt : Runtime) : Payload → Bool
    | [] => true
    | (key, value) :: rest =>
      (isSecretKey rt key || arraysPublic rt value) && fieldsPublic rt rest

theorem fieldsPublic_iff : arraysPublic.fieldsPublic rt payload = true ↔
    ∀ field ∈ payload, isPublicKey rt field.1 = true → arraysPublic rt field.2 = true := by
  induction payload with
  | nil => simp [arraysPublic.fieldsPublic]
  | cons field rest ih =>
    rw [arraysPublic.fieldsPublic, Bool.and_eq_true, ih, List.forall_mem_cons]
    cases hsecret : isSecretKey rt field.1 <;> simp [isPublicKey, hsecret]

/-- `strip_secrets` as one pass over the fields. -/
theorem stripSecrets_eq (rt : Runtime) (payload : Payload) :
    stripSecrets rt payload = (payload.filter fun field => isPublicKey rt field.1).map
      fun field => (field.1, stripSecrets.stripValue rt field.2) := by
  induction payload with
  | nil => rfl
  | cons field rest ih =>
    rw [stripSecrets, List.filter_cons]
    cases hsecret : isSecretKey rt field.1 <;> simp [isPublicKey, hsecret, ih]

/-- A value is left without a blocked name exactly when its arrays hold none. -/
theorem allKeys_stripValue_iff (rt : Runtime) (value : Json) :
    allKeys (isPublicKey rt) (stripSecrets.stripValue rt value) = true ↔
      arraysPublic rt value = true := by
  induction value using Json.induct with
  | null | bool | int | float | str => exact Iff.rfl
  | arr items => exact Iff.rfl
  | obj fields ih =>
    rw [stripSecrets.stripValue, stripSecrets_eq, Json.allKeys_obj, arraysPublic, fieldsPublic_iff]
    constructor
    · intro h field hfield hkept
      exact (ih field hfield).mp
        (h _ (List.mem_map_of_mem (List.mem_filter.mpr ⟨hfield, hkept⟩))).2
    · intro h field hfield
      obtain ⟨given, hgiven, rfl⟩ := List.mem_map.mp hfield
      obtain ⟨hmem, hkept⟩ := List.mem_filter.mp hgiven
      exact ⟨hkept, (ih given hmem).mpr (h given hmem hkept)⟩

/-- On such a value `strip_secrets` does what the filter of every depth does. -/
theorem stripValue_eq_filterKeys {value : Json} (h : arraysPublic rt value = true) :
    stripSecrets.stripValue rt value = Json.filterKeys (isPublicKey rt) value := by
  induction value using Json.induct with
  | null | bool | int | float | str => rfl
  | arr items => exact (Json.filterKeys_of_allKeys h).symm
  | obj fields ih =>
    rw [arraysPublic, fieldsPublic_iff] at h
    rw [stripSecrets.stripValue, stripSecrets_eq, Json.filterKeys_obj]
    congr 1
    apply List.map_congr_left
    intro field hfield
    obtain ⟨hmem, hkept⟩ := List.mem_filter.mp hfield
    rw [ih field hmem (h field hmem hkept)]

theorem stripSecrets_redacts_iff (rt : Runtime) (payload : Payload) :
    RedactedTo (isPublicKey rt) (.obj payload) (.obj (stripSecrets rt payload)) ↔
      arraysPublic rt (.obj payload) = true := by
  constructor
  · intro h
    exact (allKeys_stripValue_iff rt (.obj payload)).mp h.gone
  · intro h
    have hfilter := stripValue_eq_filterKeys h
    rw [stripSecrets.stripValue] at hfilter
    rw [hfilter]
    exact Json.redactedTo_filterKeys _ _

/-- The stored payload is redacted exactly when no blocked name stands below its top level, and
the shown document exactly when no array in it holds a blocked name. -/
theorem secretsRedacted_iff (env : EventText) (rt : Runtime) (payload : Payload) :
    (RedactedTo (isSafeKey env) (.obj payload) (.obj (safePayload env payload)) ↔
        SafeBelow env payload) ∧
      ((∃ shown, publicJson rt (some payload) = some shown ∧
          RedactedTo (isPublicKey rt) (.obj payload) (.obj shown)) ↔
        arraysPublic rt (.obj payload) = true) := by
  refine ⟨safePayload_redacts_iff env payload, ?_⟩
  rw [← stripSecrets_redacts_iff]
  constructor
  · intro h
    obtain ⟨shown, hshown, hredacts⟩ := h
    obtain rfl := Option.some.inj hshown
    exact hredacts
  · intro h
    exact ⟨_, rfl, h⟩

/-! ## A secret below the top level -/

/-- An event whose payload holds a secret in an object. -/
def nestedSecret : Payload := [("entity", .obj [("api_key", .str "k1")])]

/-- A document with a token in an array. -/
def listedSecret : Payload := [("items", .arr [.obj [("token", .str "t1")]])]

/-- The secret is stored, and the token is shown. -/
theorem nested_secrets_kept :
    safePayload sampleEventText nestedSecret = nestedSecret ∧
      publicJson sampleRuntime (some listedSecret) = some listedSecret ∧
      ¬ RedactedTo (isSafeKey sampleEventText) (.obj nestedSecret)
        (.obj (safePayload sampleEventText nestedSecret)) ∧
      ¬ RedactedTo (isPublicKey sampleRuntime) (.obj listedSecret)
        (.obj (stripSecrets sampleRuntime listedSecret)) := by
  refine ⟨rfl, rfl, ?_, ?_⟩
  · intro h
    have hgone : allKeys (isSafeKey sampleEventText)
        (.obj (safePayload sampleEventText nestedSecret)) = false := by decide +kernel
    rw [h.gone] at hgone
    cases hgone
  · intro h
    have hgone : allKeys (isPublicKey sampleRuntime)
        (.obj (stripSecrets sampleRuntime listedSecret)) = false := by decide +kernel
    rw [h.gone] at hgone
    cases hgone

end ReviveX
