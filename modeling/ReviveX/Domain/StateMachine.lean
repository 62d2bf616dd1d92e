import ReviveX.Db.Store

/-!
# The recovery state machine

The legal transitions of a recovery case, and `transition_case`, the only writer of the
columns `status`, `version` and `closed_at`. An illegal transition is recorded and raised.
-/

namespace ReviveX

open Lib (Session)

/-- `LEGAL_TRANSITIONS`. -/
def legalTransitions : List (RecoveryCaseStatus × RecoveryCaseStatus) :=
  [ (.detected, .triaged),
    (.triaged, .investigating),
    (.triaged, .scoring),
    (.investigating, .diagnosed),
    (.diagnosed, .scoring),
    (.scoring, .strategySelected),
    (.strategySelected, .policyCheck),
    (.policyCheck, .executing),
    (.policyCheck, .stopped),
    (.policyCheck, .escalated),
    (.policyCheck, .awaitingApproval),
    (.policyCheck, .retryScheduled),
    (.awaitingApproval, .executing),
    (.awaitingApproval, .stopped),
    (.awaitingApproval, .escalated),
    (.awaitingApproval, .policyCheck),
    (.executing, .actionCompleted),
    (.executing, .failed),
    (.actionCompleted, .verifying),
    (.verifying, .recovered),
    (.verifying, .notRecovered),
    (.verifying, .retryScheduled),
    (.notRecovered, .retryScheduled),
    (.notRecovered, .escalated),
    (.notRecovered, .stopped),
    (.failed, .retryScheduled),
    (.failed, .escalated),
    (.failed, .stopped),
    (.retryScheduled, .scoring),
    (.escalated, .stopped) ]

/-- `is_terminal`. -/
def isTerminal (status : RecoveryCaseStatus) : Bool := terminalRecoveryStatuses.contains status

/-- `can_transition`. -/
def canTransition (source target : RecoveryCaseStatus) : Bool :=
  legalTransitions.contains (source, target)

/-- `AUDIT_TYPE_FOR_TARGET`, with the default of its only reader. -/
def auditTypeForTarget : RecoveryCaseStatus → AuditEventType
  | .triaged => .caseTriaged
  | .investigating => .caseInvestigating
  | .diagnosed => .caseDiagnosed
  | .scoring => .recoveryScoringStarted
  | .strategySelected => .recoveryStrategySelected
  | .policyCheck => .recoveryPolicyChecked
  | .awaitingApproval => .approvalRequested
  | .executing => .recoveryExecutionStarted
  | .actionCompleted => .recoveryActionCompleted
  | .verifying => .recoveryVerificationStarted
  | .recovered => .recoveryVerified
  | .notRecovered => .recoveryVerificationFailed
  | .stopped => .recoveryCaseStopped
  | .escalated => .recoveryCaseEscalated
  | .failed => .recoveryExecutionStarted
  | .retryScheduled => .recoveryVerificationFailed
  | .detected => .paymentUpdated

/-- `InvalidTransitionError(source, target)`. -/
def invalidTransitionError (source target : RecoveryCaseStatus) : Failure :=
  .domain
    { cls := .invalidTransition
      code := "INVALID_STATE_TRANSITION"
      message := s!"Cannot transition recovery case from {source.text} to {target.text}" }

/-- Who calls a service, and when: the actor that audit rows name and the clock. -/
structure Caller where
  actorType : ActorType := .worker
  actorId : Option String := none
  now : Time

/-- The columns `transition_case` writes. -/
def RecoveryCase.moveTo (c : RecoveryCase) (target : RecoveryCaseStatus) (now : Time) :
    RecoveryCase :=
  { c with
    status := target
    version := c.version + 1
    closedAt := if isTerminal target then some now else none }

/-- `lock_recovery_case`: the row, or a `DomainError` when there is none. -/
def lockRecoveryCase (caseId : ℕ) : Service RecoveryCase := do
  let s ← Session.get
  match s.cases.get? caseId with
  | some c => pure c
  | none =>
    Session.raise <| .domain
      { code := "RECOVERY_CASE_NOT_FOUND"
        message := s!"Recovery case {caseId} was not found" }

/-- The current columns of a case that has been locked. -/
def readCase (caseId : ℕ) : Service RecoveryCase := do
  let s ← Session.get
  match s.cases.get? caseId with
  | some c => pure c
  | none => Session.raise (.crash "ObjectDeletedError")

/-- An audit row of a case. -/
def caseAudit (caller : Caller) (caseId : ℕ) (c : RecoveryCase) (eventType : AuditEventType)
    (action : String) (previousState newState : Option AuditState := none) : AuditEvent where
  merchantId := c.merchantId
  caseId := some caseId
  actorType := caller.actorType
  eventType := eventType
  action := action
  previousState := previousState
  newState := newState
  createdAt := caller.now

/-- `transition_case`. -/
def transitionCase (caller : Caller) (caseId : ℕ) (target : RecoveryCaseStatus) :
    Service Unit := do
  let c ← readCase caseId
  if canTransition c.status target then
    Service.modifyCase caseId fun c => c.moveTo target caller.now
    Service.recordAudit
      { caseAudit caller caseId c (auditTypeForTarget target) "transition"
          (some (.status c.status)) (some (.status target)) with
        version := some (c.version + 1) }
  else
    Service.recordAudit <|
      caseAudit caller caseId c .stateTransitionRejected "reject_transition"
        (some (.status c.status)) (some (.status target))
    Session.raise (invalidTransitionError c.status target)

end ReviveX
