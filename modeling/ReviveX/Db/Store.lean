import Mathlib.Data.List.AList
import ReviveX.Db.Models
import ReviveX.Lib.Decimal
import ReviveX.Lib.Session
import ReviveX.Lib.Table

/-!
# The store and its services

`Store` is the database. Idempotency keys are unique per merchant (an `AList`), every
other table is addressed by row identifiers.

The last field is a history that no modelled function reads: which approvals were
requested and decided, which handlers ran and what they asked a provider for. Statements
about runs read it; its entries keep the rows they are about, because the tables may
change afterwards.

A service call is a `Service`: it may raise a `DomainError`, after which the routes commit
what was written, or any other Python exception (`crash`), after which the transaction is
rolled back.
-/

namespace ReviveX

open Lib (Decimal Json Session Table)

/-! ## History -/

/-- A handler entered by the tool service, with what it was called for and on. -/
structure HandlerCall where
  merchantId : ℕ
  caseId : ℕ
  idempotencyKey : String
  requestHash : ℕ
  toolName : ToolName
  payload : Payload
  /-- The action row the run belongs to; read-only tools have none. -/
  actionId : Option ℕ
  /-- The `approval_id` argument when the execution was an approved one. -/
  approvalId : Option ℕ
  /-- The merchant's thresholds, the case row and the approvals, as the handler found them. -/
  highValueApprovalThreshold : Decimal
  mediumValueApprovalThreshold : Decimal
  case : RecoveryCase
  approvals : Table Approval
  now : Time

/-- A provider asked for money, with the rows that say what is still owed. -/
structure ProviderAsk where
  caseId : ℕ
  amount : Money
  case : RecoveryCase
  payments : Table Payment
  actions : Table RecoveryAction

inductive TraceEvent
  /-- An approval row was created for an action. -/
  | approvalRequested (approvalId caseId actionId : ℕ) (fingerprint : CaseFingerprint)
      (toolName : Option ToolName) (payload : Payload)
  /-- A human decided an approval. -/
  | approvalDecided (approvalId : ℕ) (status : ApprovalStatus)
  /-- A handler was entered. -/
  | handlerCalled (call : HandlerCall)
  /-- The handler of this call reported success, with the amount and the payment that its
  result names. -/
  | handlerSucceeded (call : HandlerCall) (amount : Option Money) (newPaymentId : Option ℕ)
  /-- A provider was asked to create a payment. -/
  | createPaymentAsked (ask : ProviderAsk)
  /-- A provider was asked to create a payment link. -/
  | createPaymentLinkAsked (ask : ProviderAsk)

/-! ## The store -/

structure Store where
  merchants : Table Merchant := .empty
  customers : Table Customer := .empty
  payments : Table Payment := .empty
  paymentAttempts : Table PaymentAttempt := .empty
  webhookEvents : Table WebhookEvent := .empty
  carts : Table Cart := .empty
  subscriptions : Table Subscription := .empty
  cases : Table RecoveryCase := .empty
  actions : Table RecoveryAction := .empty
  approvals : Table Approval := .empty
  idempotencyKeys : AList (fun _ : ℕ × String => IdempotencyKey) := ∅
  decisions : Table RecoveryDecision := .empty
  policyEvaluations : Table PolicyEvaluation := .empty
  agentRuns : Table AgentRun := .empty
  toolCalls : Table ToolCall := .empty
  notifications : Table Notification := .empty
  auditEvents : Table AuditEvent := .empty
  trace : List TraceEvent := []

/-! ## Failures -/

/-- The subclasses of `DomainError` that the code tells apart. -/
inductive ErrorClass
  | domain | invalidTransition | idempotencyConflict | toolValidation | agent
deriving DecidableEq, Repr

structure DomainError where
  cls : ErrorClass := .domain
  code : String
  message : String
  retryable : Bool := false
deriving DecidableEq, Repr

/-- Why a service call did not return. -/
inductive Failure
  | domain (e : DomainError)
  /-- Any exception that is not a `DomainError`. -/
  | crash (exception : String)
deriving DecidableEq, Repr

/-- The routes turn a `DomainError` into a response and commit; anything else rolls back. -/
def Failure.commits : Failure → Bool
  | .domain _ => true
  | .crash _ => false

/-- An exception after which the transaction is rolled back. -/
def Failure.RollsBack (f : Failure) : Prop := f.commits = false

/-- `ToolValidationError(code, message)`. -/
def toolValidationError (code message : String) : Failure :=
  .domain { cls := .toolValidation, code, message }

/-! ## Services -/

/-- A service call on the store. -/
abbrev Service := Session Store Failure

namespace Service

/-- Rewrite the case of identifier `caseId`. -/
def modifyCase (caseId : ℕ) (f : RecoveryCase → RecoveryCase) : Service Unit :=
  Session.modify fun s => { s with cases := s.cases.modify caseId f }

def modifyAction (actionId : ℕ) (f : RecoveryAction → RecoveryAction) : Service Unit :=
  Session.modify fun s => { s with actions := s.actions.modify actionId f }

def modifyApproval (approvalId : ℕ) (f : Approval → Approval) : Service Unit :=
  Session.modify fun s => { s with approvals := s.approvals.modify approvalId f }

/-- Insert an action and return its identifier. -/
def insertAction (a : RecoveryAction) : Service ℕ :=
  Session.modifyGet fun s => (s.actions.nextId, { s with actions := s.actions.insert a })

def insertApproval (a : Approval) : Service ℕ :=
  Session.modifyGet fun s => (s.approvals.nextId, { s with approvals := s.approvals.insert a })

def insertToolCall (c : ToolCall) : Service ℕ :=
  Session.modifyGet fun s => (s.toolCalls.nextId, { s with toolCalls := s.toolCalls.insert c })

def modifyToolCall (toolCallId : ℕ) (f : ToolCall → ToolCall) : Service Unit :=
  Session.modify fun s => { s with toolCalls := s.toolCalls.modify toolCallId f }

def insertDecision (d : RecoveryDecision) : Service Unit :=
  Session.modify fun s => { s with decisions := s.decisions.insert d }

def insertPolicyEvaluation (e : PolicyEvaluation) : Service Unit :=
  Session.modify fun s => { s with policyEvaluations := s.policyEvaluations.insert e }

/-- `record_audit`. -/
def recordAudit (e : AuditEvent) : Service Unit :=
  Session.modify fun s => { s with auditEvents := s.auditEvents.insert e }

/-- Write the idempotency key row of a merchant. -/
def putKey (merchantId : ℕ) (key : String) (row : IdempotencyKey) : Service Unit :=
  Session.modify fun s =>
    { s with idempotencyKeys := s.idempotencyKeys.insert (merchantId, key) row }

/-- Rewrite the idempotency key row of a merchant. -/
def modifyKey (merchantId : ℕ) (key : String) (f : IdempotencyKey → IdempotencyKey) :
    Service Unit :=
  Session.modify fun s =>
    match s.idempotencyKeys.lookup (merchantId, key) with
    | some row =>
      { s with idempotencyKeys := s.idempotencyKeys.insert (merchantId, key) (f row) }
    | none => s

/-- Append to the history. -/
def note (e : TraceEvent) : Service Unit :=
  Session.modify fun s => { s with trace := s.trace ++ [e] }

end Service

end ReviveX
