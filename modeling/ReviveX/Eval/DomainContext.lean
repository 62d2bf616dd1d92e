import ReviveX.Eval.ModelRegistry
import ReviveX.Operator.CasePages
import ReviveX.Tools.Handlers

/-!
# The context of a stored case

`case_context_from_domain` turns the rows of a case and of its customer into the `CaseContext`
that the model, or the rules that stand in for it, are asked about. Counts are divided and
instants are subtracted as floats, and the class validates what comes out.
-/

namespace ReviveX

open Lib (Decimal toBinary64)

/-! ## Validation -/

/-- `Field(ge=low)`; a NaN fails it. -/
def atLeast (low : ℚ) : Decimal → Bool
  | .finite q => low ≤ q
  | .infinity negative => !negative
  | .nan => false

/-- `Field(ge=0, le=1)`. -/
def inUnit : Decimal → Bool
  | .finite q => 0 ≤ q && q ≤ 1
  | _ => false

/-- The validation of a `CaseContext`. -/
def CaseContext.accepted (context : CaseContext) : Bool :=
  atLeast 0 context.amount.number && context.failureReason != "" &&
    decide (1 ≤ context.attemptNumber) && context.historicalSuccessRate.all inUnit &&
    context.historicalRecoveryRate.all inUnit &&
    context.customerLifetimeValue.all (atLeast 0 ·.number) &&
    context.daysSinceLastPurchase.all (atLeast 0 ·.number) &&
    context.cartAgeHours.all (atLeast 0 ·.number) &&
    context.cartValue.all (atLeast 0 ·.number) &&
    context.communicationCount.all (fun n => decide (0 ≤ n)) &&
    context.daysSinceLastContact.all (atLeast 0 ·.number) &&
    context.previousDiscountUsage.all inUnit &&
    context.hourOfDay.all (fun n => decide (0 ≤ n ∧ n ≤ 23)) &&
    context.dayOfWeek.all (fun n => decide (0 ≤ n ∧ n ≤ 6)) &&
    context.priorFailures.all (fun n => decide (0 ≤ n)) &&
    context.priorCaptures.all (fun n => decide (0 ≤ n))

/-! ## Rows as floats -/

/-- What a context holds besides the columns of the model: how `str` writes a float, and
`abandoned_at`, which is given when a cart is inserted. -/
structure DomainReader where
  print : ℚ → FloatText
  abandonedAt : ℕ → Option Time

/-- `float(amount)`. -/
def Money.float (m : Money) : ℚ := toBinary64 (m / 100)

/-- A share of a whole that may be empty. -/
def rate (part total : ℕ) : Option Decimal :=
  if total = 0 then none else some (.finite (toBinary64 (part / total)))

/-- `max((later - earlier).total_seconds() / unit, 0.0)`. -/
def elapsed (unit : ℚ) (earlier later : Time) : ℚ :=
  max (toBinary64 (toBinary64 ((later - earlier : ℤ) / 10 ^ 6) / unit)) 0

/-- `opened_at.hour`. -/
def hourOfDay (t : Time) : ℤ := t / hour % 24

/-- `opened_at.weekday()`: the first day of the epoch was a Thursday. -/
def weekday (t : Time) : ℤ := (t / (24 * hour) + 3) % 7

/-- The payments that a customer made. -/
def Store.customerPayments (s : Store) (merchantId customerId : ℕ) : List Payment :=
  s.payments.rows.filter fun p => p.merchantId = merchantId && p.customerId = customerId

/-- The notifications of a customer; each is sent at the instant it is created. -/
def Store.customerNotifications (s : Store) (merchantId customerId : ℕ) : List Notification :=
  s.notifications.rows.filter fun n => n.merchantId = merchantId && n.customerId = customerId

/-- What a context counts of a customer. -/
structure CustomerCounts where
  historicalSuccess : Option Decimal := none
  historicalRecovery : Option Decimal := none
  priorFailures : ℕ := 0
  priorCaptures : ℕ := 0
  daysSincePurchase : Option ℚ := none
  comms : ℕ := 0
  daysContact : Option ℚ := none

/-- The counts of a customer up to now; what they are compared with was opened at an instant. -/
def Store.customerCounts (s : Store) (merchantId customerId : ℕ) (openedAt : Option Time) :
    CustomerCounts :=
  let payments := s.customerPayments merchantId customerId
  let notifications := s.customerNotifications merchantId customerId
  let priorCaptures := payments.countP (·.status = .captured)
  let priorFailures := payments.countP (·.status = .failed)
  { historicalSuccess := rate priorCaptures (priorCaptures + priorFailures)
    historicalRecovery :=
      rate (payments.countP fun p => p.status = .captured && p.capturedAt.isSome) payments.length
    priorFailures, priorCaptures
    daysSincePurchase := do
      let lastCapture ← (payments.filterMap (·.capturedAt)).max?
      return elapsed 86400 lastCapture (← openedAt)
    comms := notifications.length
    daysContact := do
      let lastSent ← (notifications.map (·.createdAt)).max?
      return elapsed 86400 lastSent (← openedAt) }

/-! ## Contexts -/

/-- The arguments of `case_context_from_domain`. -/
structure DomainCase where
  merchantId : ℕ
  amount : Money
  failureReason : Option String
  attemptNumber : ℤ
  customerId : Option ℕ
  payment : Option Payment
  cartId : Option ℕ
  subscriptionId : Option ℕ
  lifetimeValue : Option Money
  openedAt : Option Time
  caseType : Option RecoveryCaseType

variable (reader : DomainReader) (s : Store) (args : DomainCase)

/-- The fields of the context, before they are validated. -/
def contextFields : CaseContext :=
  let counts := (args.customerId.map (s.customerCounts args.merchantId · args.openedAt)).getD {}
  let cart := args.cartId.bind fun cartId => (s.carts.get? cartId).map (cartId, ·)
  let sub := args.subscriptionId.bind s.subscriptions.get?
  { amount := reader.print args.amount.float
    failureReason := (args.failureReason.filter (· ≠ "")).getD "UNKNOWN"
    attemptNumber := max args.attemptNumber 1
    paymentMethod := args.payment.bind (·.paymentMethod)
    historicalSuccessRate := counts.historicalSuccess
    historicalRecoveryRate := counts.historicalRecovery
    customerLifetimeValue := args.lifetimeValue.map fun value => reader.print value.float
    daysSinceLastPurchase := counts.daysSincePurchase.map reader.print
    cartAgeHours := do
      let (cartId, _) ← cart
      return reader.print (elapsed 3600 (← reader.abandonedAt cartId) (← args.openedAt))
    cartValue := cart.map fun c => reader.print (Money.float c.2.total)
    subscriptionState := some ((sub.map (·.status.text)).getD "NONE")
    communicationCount := some counts.comms
    daysSinceLastContact := counts.daysContact.map reader.print
    hourOfDay := args.openedAt.map hourOfDay
    dayOfWeek := args.openedAt.map weekday
    caseType := args.caseType.map (·.text)
    priorFailures := some counts.priorFailures
    priorCaptures := some counts.priorCaptures }

/-- `case_context_from_domain`; `none` is the `ValidationError`. -/
def caseContextFromDomain : Option CaseContext :=
  let context := contextFields reader s args
  if context.accepted then some context else none

/-- What `optimize_case` asks `case_context_from_domain` about a case. -/
def Store.domainCase (c : RecoveryCase) : DomainCase where
  merchantId := c.merchantId
  amount := c.amountAtRisk
  failureReason := (c.paymentId.bind (s.getPayment c.merchantId)).bind (·.failureCode)
  attemptNumber := 1
  customerId := some c.customerId
  payment := c.paymentId.bind (s.getPayment c.merchantId)
  cartId := c.cartId
  subscriptionId := c.subscriptionId
  lifetimeValue := (s.getCustomer c.merchantId c.customerId).map (·.lifetimeValue)
  openedAt := some c.openedAt
  caseType := some c.caseType

/-- What `handle_calculate_recovery_probability` asks about it, with the number of an attempt; the
payment and the customer are looked up without the merchant. -/
def Store.toolCase (c : RecoveryCase) (attemptNumber : ℕ) : DomainCase where
  __ := s.domainCase c
  failureReason := (c.paymentId.bind s.payments.get?).bind (·.failureCode)
  attemptNumber := attemptNumber
  customerId := (s.customers.get? c.customerId).map fun _ => c.customerId
  payment := c.paymentId.bind s.payments.get?
  lifetimeValue := (s.customers.get? c.customerId).map (·.lifetimeValue)

/-! ## Predictions -/

/-- `predict_recovery_probability` of a valid request, where `loaded` is what `_load` finds and its
`none` the `InferenceError`. The `none` of the answer is an exception. -/
def predictRecoveryProbability {Model : Type} (kit : Toolkit Model CaseContext)
    (loaded : Option (LoadedBundle Model)) (request : PredictRequest) :
    Option PredictedProbability :=
  match loaded with
  | none => request.fallback
  | some bundle => request.answer kit bundle

/-- The answer with its probability as a float; a NaN compares with no decimal, so it raises. -/
def scoredOf (reader : DomainReader) (answer : PredictedProbability) :
    Option RecoveryProbability :=
  match answer.probability with
  | .finite value =>
    match (reader.print value).number with
    | .finite text => some {
        probability := { value, text }
        modelVersion := answer.modelVersion
        featureVersion := answer.featureVersion
        source := answer.source }
    | _ => none
  | _ => none

/-- `default_predictor`; the context is validated once more. -/
def defaultPredictor {Model : Type} (reader : DomainReader) (kit : Toolkit Model CaseContext)
    (loaded : Option (LoadedBundle Model)) (context : CaseContext)
    (action : RecoveryActionType) : Option RecoveryProbability :=
  if context.accepted then
    (predictRecoveryProbability kit loaded { context, action }).bind (scoredOf reader)
  else none

end ReviveX
