import ReviveX.Agents.Predictions
import ReviveX.Db.Enums
import ReviveX.Lib.Signals

/-!
# Simulated chances of recovery

`capture_probability` and `intervention_recovery_probability`: the chance that an attempt, or an
intervention, recovers a payment. Both are formulas in the default decimal context, so `none` is
a signal that the context raises: a NaN that is compared, an invalid operation or an overflow.
-/

namespace ReviveX

open Lib (Decimal)
open Lib.Decimal (add? minus? mul? times? div? over? min? max? gt?)

/-! ## Attempts -/

/-- `FailureReason`. -/
inductive FailureReason
  | temporaryBankError | insufficientFunds | expiredCard | declined | networkTimeout
  | mandateFailure | customerCancelled | unknown
deriving DecidableEq, Repr

/-- `str(FailureReason)`. -/
def FailureReason.text : FailureReason → String
  | .temporaryBankError => "TEMPORARY_BANK_ERROR"
  | .insufficientFunds => "INSUFFICIENT_FUNDS"
  | .expiredCard => "EXPIRED_CARD"
  | .declined => "DECLINED"
  | .networkTimeout => "NETWORK_TIMEOUT"
  | .mandateFailure => "MANDATE_FAILURE"
  | .customerCancelled => "CUSTOMER_CANCELLED"
  | .unknown => "UNKNOWN"

/-- `failure_reason in _NEVER_CAPTURE`. -/
def neverCapture : Option FailureReason → Bool
  | some .customerCancelled => true
  | some .mandateFailure => true
  | _ => false

/-- A chance that grows by a step with every attempt, up to a cap. -/
def growingChance (base step cap : ℚ) (attempts : ℤ) : Option Decimal := do
  let grown ← mul? step (.finite attempts)
  let raw ← add? (.finite base) grown
  min? raw (.finite cap)

/-- A chance that also wears off with every prior failure, down to a floor. -/
def wearingChance (base step wear floor cap : ℚ) (attempts priorFail : ℤ) : Option Decimal := do
  let grown ← mul? step (.finite attempts)
  let raw ← add? (.finite base) grown
  let worn ← mul? wear (.finite priorFail)
  let raw ← minus? raw worn
  let raw ← max? raw (.finite floor)
  min? raw (.finite cap)

/-- `capture_probability`, in the decimal context. -/
def captureProbability? (failureReason : Option FailureReason)
    (attemptNumber priorFailures : ℤ) : Option Decimal :=
  let attempt := max attemptNumber 1
  let priorFail := max priorFailures 0
  match failureReason with
  | some .customerCancelled => some (.finite 0)
  | some .mandateFailure => some (.finite 0)
  | some .expiredCard => some (.finite (2 / 100))
  | some .temporaryBankError =>
    wearingChance (25 / 100) (15 / 100) (3 / 100) (5 / 100) (80 / 100) (attempt - 1) priorFail
  | some .networkTimeout => growingChance (20 / 100) (15 / 100) (75 / 100) (attempt - 1)
  | some .insufficientFunds =>
    wearingChance (8 / 100) (4 / 100) (2 / 100) (2 / 100) (35 / 100) (attempt - 1) priorFail
  | some .declined => growingChance (12 / 100) (5 / 100) (40 / 100) (attempt - 1)
  | _ => growingChance (15 / 100) (5 / 100) (50 / 100) attempt

/-! ## Contexts -/

/-- The decimal number that `str` writes for a float. -/
structure FloatText where
  number : Decimal
  /-- No float reaches `10 ^ 309`. -/
  abs_lt : ∀ q, number = .finite q → |q| < 10 ^ 309

/-- `InterventionContext`. A rate is the value of its float; of the history, only the prior
failures are read. -/
structure InterventionContext where
  failureReason : Option FailureReason
  attemptNumber : ℤ
  priorFailures : ℤ
  historicalSuccessRate : Decimal
  historicalRecoveryRate : Decimal
  communicationCount : ℤ
  previousDiscountUsage : Decimal
  cartAgeHours : Option FloatText
  customerLifetimeValue : Decimal
  amount : Decimal
  hourOfDay : ℤ
  caseType : String

/-- `max(x, 0.0)`; a NaN stays. -/
def atLeastZero : Decimal → Decimal
  | .finite q => .finite (max q 0)
  | .infinity negative => if negative then .finite 0 else .infinity false
  | .nan => .nan

/-- `min(max(x, 0.0), 1.0)`. -/
def clampRate : Decimal → Decimal
  | .finite q => .finite (min (max q 0) 1)
  | .infinity negative => .finite (if negative then 0 else 1)
  | .nan => .nan

/-- `_dec`. -/
def dec : Decimal → Decimal
  | .finite q => .finite (roundSix q)
  | value => value

/-- `_clip_prob`. -/
def clipProb (value : Decimal) : Option Decimal := do
  if ← gt? (.finite 0) value then return .finite 0
  if ← gt? value (.finite (95 / 100)) then return .finite (95 / 100)
  match value with
  | .finite q => return .finite (Decimal.roundHalfEven (q * 10 ^ 4) / 10 ^ 4)
  | value => return value

/-! ## Factors -/

/-- The values that the formulas share. -/
structure InterventionFactors where
  retryBase : Decimal
  success : Decimal
  loyalty : Decimal
  fatigue : Decimal
  discountUsed : Decimal
  cartPen : Decimal
  attemptPen : Decimal
  highAmountPen : Decimal

namespace InterventionContext

/-- `success`. -/
def success (context : InterventionContext) : Decimal :=
  dec (clampRate context.historicalSuccessRate)

/-- `prior_recovery`. -/
def priorRecovery (context : InterventionContext) : Decimal :=
  dec (clampRate context.historicalRecoveryRate)

/-- `loyalty`. -/
def loyalty (context : InterventionContext) : Option Decimal := do
  let bySuccess ← mul? (12 / 100) context.success
  let byRecovery ← mul? (8 / 100) context.priorRecovery
  add? bySuccess byRecovery

/-- `fatigue`. -/
def fatigue (context : InterventionContext) : Option Decimal := do
  let share ← div? (.finite (max context.communicationCount 0 : ℤ)) 8
  min? (.finite 1) share

/-- `cart_pen`. -/
def cartPen (context : InterventionContext) : Option Decimal :=
  match context.cartAgeHours with
  | none => some (.finite 0)
  | some age => do
    let hours := atLeastZero age.number
    let months ← div? hours 720
    let scaled ← mul? (28 / 100) months
    min? (.finite (28 / 100)) scaled

/-- `attempt_pen`. -/
def attemptPen (context : InterventionContext) : Option Decimal :=
  mul? (45 / 1000) (.finite (max (max context.attemptNumber 1 - 1) 0 : ℤ))

/-- `amount_ratio`. -/
def amountRatio (context : InterventionContext) : Option Decimal := do
  let clv := context.customerLifetimeValue
  if ← gt? clv (.finite 0) then
    let ratio ← over? context.amount clv
    min? ratio (.finite 5)
  else return .finite 0

/-- `high_amount_pen`. -/
def highAmountPen (context : InterventionContext) : Option Decimal := do
  let ratio ← context.amountRatio
  let excess ← minus? ratio (.finite 1)
  let excess ← max? excess (.finite 0)
  mul? (4 / 100) excess

/-- `quiet_hour`. -/
def quietHour (context : InterventionContext) : Bool :=
  21 ≤ context.hourOfDay || context.hourOfDay < 8

/-- `abandoned`. -/
def abandoned (context : InterventionContext) : Bool := context.caseType = "ABANDONED_CHECKOUT"

/-- The part of `intervention_recovery_probability` before it looks at the action. -/
def factors (context : InterventionContext) : Option InterventionFactors := do
  let retryBase ← captureProbability? context.failureReason (max context.attemptNumber 1)
    context.priorFailures
  let loyalty ← context.loyalty
  let fatigue ← context.fatigue
  let cartPen ← context.cartPen
  let attemptPen ← context.attemptPen
  let highAmountPen ← context.highAmountPen
  return {
    retryBase, loyalty, fatigue, cartPen, attemptPen, highAmountPen
    success := context.success
    discountUsed := dec (clampRate context.previousDiscountUsage) }

end InterventionContext

/-! ## Scores -/

namespace InterventionFactors

variable (f : InterventionFactors) (reason : Option FailureReason) (abandoned : Bool)

/-- A score with a bonus where it applies. -/
def withBonus (p : Decimal) (bonus : ℚ) (applies : Bool) : Option Decimal :=
  if applies then add? p (.finite bonus) else some p

/-- A score with a deduction where it applies. -/
def withDeduction (p : Decimal) (deduction : ℚ) (applies : Bool) : Option Decimal :=
  if applies then minus? p (.finite deduction) else some p

/-- `RETRY_NOW`. -/
def retryNowScore : Option Decimal := do
  let p ← add? f.retryBase f.loyalty
  let p ← minus? p f.cartPen
  let p ← minus? p f.attemptPen
  let p ← minus? p f.highAmountPen
  match reason with
  | some .insufficientFunds => mul? (62 / 100) p
  | some .temporaryBankError =>
    let p ← add? p (.finite (10 / 100))
    min? (.finite (90 / 100)) p
  | some .networkTimeout =>
    let p ← add? p (.finite (6 / 100))
    min? (.finite (85 / 100)) p
  | some .expiredCard => min? p (.finite (6 / 100))
  | _ => return p

/-- `RETRY_LATER`. -/
def retryLaterScore : Option Decimal := do
  let p ← add? f.retryBase f.loyalty
  let p ← minus? p f.cartPen
  let lightPen ← mul? (2 / 100) f.attemptPen
  let p ← minus? p lightPen
  let p ← minus? p f.highAmountPen
  match reason with
  | some .insufficientFunds =>
    let p ← mul? (215 / 100) f.retryBase
    let p ← add? p f.loyalty
    let p ← minus? p f.cartPen
    min? (.finite (58 / 100)) p
  | some .temporaryBankError =>
    let p ← add? f.retryBase f.loyalty
    minus? p (.finite (3 / 100))
  | some .expiredCard => min? p (.finite (7 / 100))
  | _ => return p

/-- The score of a payment link where the failure reason has no formula of its own. -/
def plainLinkScore : Option Decimal := do
  let p ← add? (.finite (18 / 100)) f.loyalty
  let bySuccess ← mul? (8 / 100) f.success
  let p ← add? p bySuccess
  let p ← minus? p f.cartPen
  minus? p f.attemptPen

/-- What the failure reason makes of the score of a payment link. -/
def linkScoreFor (p : Decimal) : Option Decimal :=
  match reason with
  | some .expiredCard => do
    let bySuccess ← mul? (22 / 100) f.success
    let p ← add? (.finite (42 / 100)) bySuccess
    minus? p f.cartPen
  | some .declined => add? (.finite (22 / 100)) f.loyalty
  | some .temporaryBankError => do
    let p ← mul? (55 / 100) f.retryBase
    add? p (.finite (8 / 100))
  | _ => some p

/-- `SEND_PAYMENT_LINK`. -/
def sendPaymentLinkScore : Option Decimal := do
  let p ← f.plainLinkScore
  let p ← f.linkScoreFor reason p
  withBonus p (6 / 100) abandoned

/-- `SEND_REMINDER`. -/
def sendReminderScore (quietHour : Bool) : Option Decimal := do
  let bySuccess ← mul? (20 / 100) f.success
  let p ← add? (.finite (14 / 100)) bySuccess
  let byFatigue ← mul? (22 / 100) f.fatigue
  let p ← minus? p byFatigue
  let p ← minus? p f.cartPen
  let p ← minus? p f.attemptPen
  let p ← withDeduction p (5 / 100) quietHour
  let p ← withBonus p (4 / 100) abandoned
  match reason with
  | some .expiredCard => mul? (45 / 100) p
  | _ => return p

/-- `OFFER_DISCOUNT`. -/
def offerDiscountScore : Option Decimal := do
  let used ← mul? (70 / 100) f.discountUsed
  let novelty ← minus? (.finite 1) used
  let bySuccess ← mul? (16 / 100) f.success
  let p ← add? (.finite (20 / 100)) bySuccess
  let byNovelty ← mul? (8 / 100) novelty
  let p ← add? p byNovelty
  let p ← minus? p f.cartPen
  let p ← minus? p f.highAmountPen
  let p ← withBonus p (6 / 100) (reason = some .insufficientFunds)
  let p ← withBonus p (5 / 100) abandoned
  times? p novelty

/-- `DO_NOTHING`. -/
def doNothingScore : Option Decimal := do
  let bySuccess ← mul? (6 / 100) f.success
  let organic ← add? (.finite (25 / 1000)) bySuccess
  let byFatigue ← mul? (15 / 1000) f.fatigue
  let organic ← minus? organic byFatigue
  if abandoned then
    let byAge ← mul? (5 / 10) f.cartPen
    minus? organic byAge
  else return organic

/-- `ESCALATE`. -/
def escalateScore : Option Decimal := do
  let bySuccess ← mul? (12 / 100) f.success
  let assisted ← add? (.finite (8 / 100)) bySuccess
  let byFatigue ← mul? (3 / 100) f.fatigue
  minus? assisted byFatigue

/-- A base with a share of the success rate, for failures that no attempt captures. -/
def hardFailureScore (base share : ℚ) : Option Decimal := do
  let bySuccess ← mul? share f.success
  add? (.finite base) bySuccess

end InterventionFactors

/-- The branch of `_HARD_FAILURES`. -/
def hardFailureProbability (f : InterventionFactors) (reason : Option FailureReason) :
    RecoveryActionType → Option Decimal
  | .escalate => do clipProb (← f.hardFailureScore (4 / 100) (4 / 100))
  | .doNothing => some (.finite (1 / 100))
  | .sendPaymentLink =>
    if reason = some .mandateFailure then do
      clipProb (← f.hardFailureScore (3 / 100) (5 / 100))
    else some (.finite (1 / 100))
  | _ => some (.finite (1 / 100))

/-- The score of an action, before it is clipped. -/
def InterventionContext.score (context : InterventionContext) (f : InterventionFactors) :
    RecoveryActionType → Option Decimal
  | .retryNow => f.retryNowScore context.failureReason
  | .retryLater => f.retryLaterScore context.failureReason
  | .sendPaymentLink => f.sendPaymentLinkScore context.failureReason context.abandoned
  | .sendReminder =>
    f.sendReminderScore context.failureReason context.abandoned context.quietHour
  | .offerDiscount => f.offerDiscountScore context.failureReason context.abandoned
  | .doNothing => f.doNothingScore context.abandoned
  | .escalate => f.escalateScore

/-- `intervention_recovery_probability`. -/
def interventionRecoveryProbability (context : InterventionContext)
    (action : RecoveryActionType) : Option Decimal := do
  let f ← context.factors
  if neverCapture context.failureReason then
    hardFailureProbability f context.failureReason action
  else clipProb (← context.score f action)

end ReviveX
