import ReviveX.Domain.DeadLetterTheorems
import ReviveX.Lib.Cursor
import ReviveX.Operator.PolicySettings

/-!
# Timeline of a case

`case_timeline` lists the audit events of a case after a time, two hundred at most, and answers
with the time of the last one, from which a client asks again. The events of a transaction
become visible together when it commits, in whatever order transactions do; their times were
taken before.
-/

namespace ReviveX

open Lib (After Caught Guarded IsPage Reader Run Table TiesFit due)

/-! ## The query -/

/-- An audit event with its identifier. -/
abbrev TimelineEvent := ℕ × AuditEvent

/-- `created_at`. -/
def TimelineEvent.createdAt (e : TimelineEvent) : Time := e.2.createdAt

/-- The `limit` of `list_for_case_since`. -/
def timelineLimit : ℕ := 200

/-- The audit events of a case of a merchant. -/
def Store.caseEvents (s : Store) (merchantId caseId : ℕ) : List TimelineEvent :=
  s.auditEvents.entries.filter fun e => e.2.merchantId = merchantId && e.2.caseId = some caseId

/-- `list_for_case_since`: events of one time come in any order. -/
def ListForCaseSince (s : Store) (merchantId caseId : ℕ) (since : Option Time)
    (rows : List TimelineEvent) : Prop :=
  IsPage TimelineEvent.createdAt timelineLimit (s.caseEvents merchantId caseId) since rows

/-- `_require_case`, for a merchant that was named or not. -/
def requireCase (s : Store) (caseId : ℕ) (merchantId : Option ℕ) : Except Failure RecoveryCase :=
  match s.cases.get? caseId with
  | none =>
    .error (.domain
      { code := "RECOVERY_CASE_NOT_FOUND", message := "Recovery case was not found" })
  | some c =>
    if merchantId.isSome ∧ merchantId ≠ some c.merchantId then
      .error (.domain
        { code := "MERCHANT_MISMATCH", message := "Case does not belong to the given merchant" })
    else .ok c

/-- The answer of `case_timeline`. -/
structure TimelineAnswer where
  cursor : Option Time
  items : List TimelineEvent

/-- `case_timeline` may answer so. -/
structure CaseTimeline (s : Store) (caseId : ℕ) (merchantId : Option ℕ) (since : Option Time)
    (answer : TimelineAnswer) : Prop where
  items : ∃ c, requireCase s caseId merchantId = .ok c ∧
    ListForCaseSince s c.merchantId caseId since answer.items
  cursor : answer.cursor = (answer.items.getLast?.map TimelineEvent.createdAt).or since

end ReviveX
