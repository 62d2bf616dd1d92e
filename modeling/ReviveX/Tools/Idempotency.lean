import ReviveX.Tools.Schemas

/-!
# Idempotency keys

A key of a merchant is held by one request, recognised by the hash of its tool, action and
input. `beginIdempotentOperation` takes the key or finds it taken; the service completes
or fails the row when the request is over.
-/

namespace ReviveX

open Lib (Json Session)

/-! ## Request hashes -/

/-- `SENSITIVE_KEY_FRAGMENTS`. -/
def sensitiveKeyFragments : List String :=
  ["authorization", "secret", "api_key", "password", "card_number", "cvv", "pan", "token",
    "credential"]

/-- A key that `sanitize_payload` drops. -/
def isSensitiveKey (rt : Runtime) (key : String) : Bool :=
  sensitiveKeyFragments.any fun fragment => containsWord fragment.toList (rt.lower key)

/-- `sanitize_payload`. -/
def sanitizePayload (rt : Runtime) (value : Json) : Json :=
  value.filterKeys fun key => !isSensitiveKey rt key

/-- The text that `canonical_request_hash` digests. -/
def canonicalRequestText (rt : Runtime) (payload : Payload) : List Char :=
  (sanitizePayload rt (.obj payload)).dumps fun q => (rt.py.str (.float q)).toList

/-- `canonical_request_hash`. -/
def canonicalRequestHash (rt : Runtime) (payload : Payload) : ℕ :=
  rt.sha256 (canonicalRequestText rt payload)

/-! ## Taking a key -/

/-- `IDEMPOTENCY_TTL_HOURS`. -/
def idempotencyTtlHours : Time := 24

/-- `IdempotencyConflictError(key)`. -/
def idempotencyConflictError (key : String) : Failure :=
  .domain
    { cls := .idempotencyConflict
      code := "IDEMPOTENCY_KEY_CONFLICT"
      message := s!"Idempotency key {key} was reused with a different request payload" }

/-- `IdempotencyOutcome`. -/
structure IdempotencyOutcome where
  record : IdempotencyKey
  replay : Bool

/-- The row of a key. -/
def Store.idempotencyKey? (s : Store) (merchantId : ℕ) (key : String) : Option IdempotencyKey :=
  s.idempotencyKeys.lookup (merchantId, key)

/-- `begin_idempotent_operation`. -/
def beginIdempotentOperation (now : Time) (merchantId : ℕ) (key : String)
    (operation : ToolName) (requestHash : ℕ) : Service IdempotencyOutcome := do
  let s ← Session.get
  match s.idempotencyKey? merchantId key with
  | some existing =>
    if existing.requestHash ≠ requestHash then
      Session.raise (idempotencyConflictError key)
    else
      pure { record := existing, replay := true }
  | none =>
    let record : IdempotencyKey :=
      { operation, requestHash, expiresAt := some (now + idempotencyTtlHours * hour) }
    Service.putKey merchantId key record
    pure { record, replay := false }

/-! ## Finishing with a key -/

/-- `complete_idempotent_operation`. -/
def IdempotencyKey.complete (row : IdempotencyKey) (now : Time)
    (response : ToolExecutionResult) (responseReference : ℕ) : IdempotencyKey :=
  { row with
    status := .completed
    completedAt := some now
    responseReference := some responseReference
    result := some response }

/-- `fail_idempotent_operation`: a stored result stays. -/
def IdempotencyKey.fail (row : IdempotencyKey) (now : Time) (errorCode : String) :
    IdempotencyKey :=
  { row with status := .failed, completedAt := some now, errorCode := some errorCode }

/-- What a row of a matching request says to do. -/
inductive ReplayDecision
  /-- Return the stored result. -/
  | replay (result : ToolExecutionResult)
  /-- `IDEMPOTENCY_IN_PROGRESS`. -/
  | busy
  /-- Run the request. -/
  | proceed

/-- `_result_from_stored`, as `execute` returns it. -/
def resultFromStored (stored : ToolExecutionResult) : ToolExecutionResult :=
  { stored with output := some (stored.output.getD []), replayed := true }

/-- The replay branch of `execute`. -/
def IdempotencyKey.replayDecision (row : IdempotencyKey) (approvedExecution : Bool) :
    ReplayDecision :=
  match row.status, row.result with
  | .completed, some stored => .replay (resultFromStored stored)
  | .completed, none => .proceed
  | .inProgress, stored =>
    if approvedExecution then .proceed
    else match stored with
      | some stored => .replay (resultFromStored stored)
      | none => .busy
  | .failed, some stored => .replay (resultFromStored stored)
  | .failed, none => .proceed

end ReviveX
