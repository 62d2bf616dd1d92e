import ReviveX.Agents.Predictions
import ReviveX.Db.Store
import ReviveX.Lib.Binary64
import ReviveX.Lib.LatestJoin

/-!
# Metrics of a merchant

Two reports over the same rows: `command_center_metrics` of the operator's dashboard and
`merchant_aggregates`, which the analyst agent answers from. A row that a query takes from an
unordered group is a parameter.
-/

namespace ReviveX

open Lib (Decimal joinLatest)

/-! ## Decisions -/

/-- A row of `recovery_decisions`, with what the dashboard reads of it. The expected value is in
paise. -/
structure DecisionRecord where
  merchantId : ℕ
  recoveryCaseId : ℕ
  selectedExpectedValue : Option ℤ
  createdAt : Time
deriving DecidableEq

/-- The decisions of a merchant. -/
def decisionsOf (decisions : List DecisionRecord) (merchantId : ℕ) : List DecisionRecord :=
  decisions.filter fun d => d.merchantId = merchantId

/-- The decisions of a merchant, joined with `_latest_decision_subquery`. -/
def latestDecisions (decisions : List DecisionRecord) (merchantId : ℕ) : List DecisionRecord :=
  joinLatest DecisionRecord.recoveryCaseId DecisionRecord.createdAt
    (decisionsOf decisions merchantId)

/-- `coalesce(sum(selected_expected_value), 0)`: a null does not count. -/
def totalExpectedValue (decisions : List DecisionRecord) : ℤ :=
  (decisions.map fun d => d.selectedExpectedValue.getD 0).sum

/-! ## The operator's dashboard -/

/-- The answer of `command_center_metrics`, amounts in paise. -/
structure CommandCenterMetrics where
  merchant : Option ℕ
  isPartial : Bool
  revenueAtRisk : ℕ
  revenueRecovered : ℕ
  expectedRecovery : ℤ
  recoveryRate : Option ℚ
  activeCases : ℕ
  pendingApprovals : ℕ
  failedActions : ℕ
  policyBlocks : ℕ
  currency : String

/-- The answer for no merchant. -/
def emptyMetrics : CommandCenterMetrics where
  merchant := none
  isPartial := true
  revenueAtRisk := 0
  revenueRecovered := 0
  expectedRecovery := 0
  recoveryRate := none
  activeCases := 0
  pendingApprovals := 0
  failedActions := 0
  policyBlocks := 0
  currency := "INR"

/-- A case of the merchant whose `closed_at` is null. -/
def RecoveryCase.isOpenOf (merchantId : ℕ) (c : RecoveryCase) : Bool :=
  c.merchantId = merchantId && c.closedAt.isNone

/-- `round(float(recovered) / float(closed), 6)`, unless no case is closed. -/
def closedRate (recovered closed : ℕ) : Option ℚ :=
  if closed = 0 then none
  else some (roundSix (Lib.toBinary64 ((recovered : ℚ) / closed)))

/-- `command_center_metrics` of a merchant that was found. -/
def merchantMetrics (s : Store) (decisions : List DecisionRecord) (mid : ℕ) :
    CommandCenterMetrics where
  merchant := some mid
  isPartial := false
  revenueAtRisk := s.cases.sumWhere (·.isOpenOf mid) fun c => c.amountAtRisk - c.amountRecovered
  revenueRecovered := s.cases.sumWhere (fun c => c.merchantId = mid) (·.amountRecovered)
  expectedRecovery := totalExpectedValue (latestDecisions decisions mid)
  recoveryRate :=
    closedRate (s.cases.count fun c => c.merchantId = mid && c.status = .recovered)
      (s.cases.count fun c =>
        c.merchantId = mid && c.status ∈ [.recovered, .notRecovered, .stopped])
  activeCases := s.cases.count (·.isOpenOf mid)
  pendingApprovals := s.approvals.count fun a => a.merchantId = mid && a.status = .pending
  failedActions := s.actions.count fun a => a.merchantId = mid && a.status = .failed
  policyBlocks := s.policyEvaluations.count fun p => p.merchantId = mid && !p.allowed
  currency := "INR"

/-- `command_center_metrics`, for the merchant that `resolve_merchant` has found, if any. -/
def commandCenterMetrics (s : Store) (decisions : List DecisionRecord)
    (merchantId : Option ℕ) : CommandCenterMetrics :=
  match merchantId with
  | none => emptyMetrics
  | some mid => merchantMetrics s decisions mid

/-! ## The analyst's aggregates -/

/-- The first row of groups that a query does not order any further. -/
structure UnorderedGroups where
  first : List String → Option String
  first_mem : ∀ groups group, first groups = some group → group ∈ groups

/-- The answer of `merchant_aggregates`, amounts in paise and the rate as a number. -/
structure MerchantAggregates where
  revenueAtRisk : ℕ
  revenueRecovered : ℕ
  openCases : ℕ
  /-- None is an exception of the decimal context. -/
  recoveryRate : Option Decimal
  topFailureReason : String
  topIntervention : String

/-- The values that occur most often. -/
def mostFrequent (values : List String) : List String :=
  values.dedup.filter fun value => ∀ other ∈ values, values.count other ≤ values.count value

/-- `(recovered / at_risk).quantize(Decimal("0.0001"))`, zero where nothing is at risk. -/
def aggregateRate (recovered atRisk : ℕ) : Option Decimal :=
  if atRisk = 0 then some (.finite 0)
  else do
    match ← Decimal.ofExact ((recovered : ℚ) / atRisk) with
    | .finite q => return .finite (Decimal.roundHalfEven (q * 10 ^ 4) / 10 ^ 4)
    | rate => return rate

/-- `merchant_aggregates`. -/
def merchantAggregates (groups : UnorderedGroups) (s : Store) (merchantId : ℕ) :
    MerchantAggregates :=
  let atRisk := s.cases.sumWhere (·.isOpenOf merchantId) (·.amountAtRisk)
  let recovered := s.cases.sumWhere (fun c => c.merchantId = merchantId) (·.amountRecovered)
  let failureCodes := (s.payments.rows.filter fun p => p.merchantId = merchantId).filterMap
    (·.failureCode)
  let actionTypes := (s.actions.rows.filter fun a => a.merchantId = merchantId).map
    (·.actionType.text)
  { revenueAtRisk := atRisk
    revenueRecovered := recovered
    openCases := s.cases.count fun c => c.isOpenOf merchantId && c.status ≠ .recovered
    recoveryRate := aggregateRate recovered atRisk
    topFailureReason := (groups.first (mostFrequent failureCodes)).getD ""
    topIntervention := (groups.first (mostFrequent actionTypes)).getD "" }

end ReviveX
