import ReviveX.Db.Store
import ReviveX.Lib.Decimal
import ReviveX.Lib.Markers

/-!
# Recovery and policy configuration

`RecoverySettings` and the merge with a merchant's own settings document. How Python reads
numbers and instants from text is a parameter (`PyText`): nothing below depends on it.
-/

namespace ReviveX

open Lib (Json Decimal)

/-- Python's conversions between values and text: `str`, `int`, `Decimal`,
`datetime.isoformat` and `datetime.fromisoformat`, with `none` where one raises. -/
structure PyText where
  str : Json → String
  int : String → Option ℤ
  decimal : String → Option Decimal
  isoformat : Time → String
  fromisoformat : String → Option Time

/-- `c.isspace()`: what `strip` removes. -/
def isSpace (c : Char) : Bool :=
  let n := c.toNat
  (9 ≤ n && n ≤ 13) || (28 ≤ n && n ≤ 32) || n = 133 || n = 160 || n = 5760 ||
    (8192 ≤ n && n ≤ 8202) || n = 8232 || n = 8233 || n = 8239 || n = 8287 || n = 12288

/-- `not text.strip()`. -/
def isBlank (text : String) : Bool := text.toList.all isSpace

/-- `text.strip().lower()`, as characters. No letter outside ASCII has a lower case among the
letters of the words below, so that only the ASCII ones are mapped. -/
def stripLower (text : String) : List Char := (Lib.strip isSpace text.toList).map Char.toLower

/-- `str(value).strip().lower() in {"1", "true", "yes", "on"}`. -/
def saysYes (py : PyText) (value : Json) : Bool :=
  ["1", "true", "yes", "on"].any fun word => stripLower (py.str value) = word.toList

/-- `RecoverySettings`, with its defaults. -/
structure RecoverySettings where
  recoveryWindowHours : ℤ := 72
  recoveryOrderingGraceMinutes : ℤ := 60
  highValueApprovalThreshold : Decimal := .finite 25000
  mediumValueApprovalThreshold : Decimal := .finite 5000
  maxRetryAttempts : ℤ := 3
  maxDiscountPercent : Decimal := .finite 10
  maxDailyDiscountBudget : Decimal := .finite 5000
  maxCommunicationsPerDay : ℤ := 3
  quietHoursStart : ℤ := 21
  quietHoursEnd : ℤ := 8
  automaticRecoveryEnabled : Bool := true
  approvalTtlMinutes : ℤ := 60
  policyVersion : String := "policy-v1"

/-- `_policy_section`, also `_policy_dict`: the nested `policy` object, or the document. -/
def policySection (settings : Payload) : Payload :=
  match Json.get? settings "policy" with
  | some (.obj nested) => nested
  | _ => settings

/-- The value of a key, unless it is absent, `null` or the empty string. -/
def givenValue (data : Payload) (key : String) : Option Json :=
  match Json.get? data key with
  | none => none
  | some .null => none
  | some (.str "") => none
  | some raw => some raw

/-- `int(raw)`. -/
def pyInt (py : PyText) : Json → Option ℤ
  | .int n => some n
  | .bool b => some (if b then 1 else 0)
  | .float q => some (if 0 ≤ q then ⌊q⌋ else ⌈q⌉)
  | .str s => py.int s
  | _ => none

/-- `_int_value`. -/
def intValue (py : PyText) (data : Payload) (key : String) (default : ℤ) :
    Except Failure ℤ :=
  match givenValue data key with
  | none => .ok default
  | some raw => (pyInt py raw).elim (.error (.crash "ValueError")) .ok

/-- `_decimal_value`. -/
def decimalValue (py : PyText) (data : Payload) (key : String) (default : Decimal) :
    Except Failure Decimal :=
  match givenValue data key with
  | none => .ok default
  | some raw => (py.decimal (py.str raw)).elim (.error (.crash "InvalidOperation")) .ok

/-- `_bool_value`. -/
def boolValue (py : PyText) (data : Payload) (key : String) (default : Bool) : Bool :=
  match givenValue data key with
  | none => default
  | some (.bool b) => b
  | some raw => saysYes py raw

/-- Whether a JSON value counts as true in a Python condition. -/
def isTruthy : Json → Bool
  | .null => false
  | .bool b => b
  | .int n => n != 0
  | .float q => q != 0
  | .str s => s != ""
  | .arr items => !items.isEmpty
  | .obj fields => !fields.isEmpty

/-- A text that Python counts as true. -/
def givenText (text : Option String) : Option String := text.filter (· != "")

/-- `RecoverySettings.merge_merchant`: the merchant's policy section overrides a value it
names. -/
def RecoverySettings.mergeMerchant (py : PyText) (base : RecoverySettings)
    (settings : Payload) : Except Failure RecoverySettings := do
  let policy := policySection settings
  if policy.isEmpty then
    return base
  return {
    recoveryWindowHours :=
      ← intValue py policy "recovery_window_hours" base.recoveryWindowHours
    recoveryOrderingGraceMinutes :=
      ← intValue py policy "recovery_ordering_grace_minutes" base.recoveryOrderingGraceMinutes
    highValueApprovalThreshold :=
      ← decimalValue py policy "high_value_approval_threshold" base.highValueApprovalThreshold
    mediumValueApprovalThreshold :=
      ← decimalValue py policy "medium_value_approval_threshold"
        base.mediumValueApprovalThreshold
    maxRetryAttempts := ← intValue py policy "max_retry_attempts" base.maxRetryAttempts
    maxDiscountPercent :=
      ← decimalValue py policy "max_discount_percent" base.maxDiscountPercent
    maxDailyDiscountBudget :=
      ← decimalValue py policy "max_daily_discount_budget" base.maxDailyDiscountBudget
    maxCommunicationsPerDay :=
      ← intValue py policy "max_communications_per_day" base.maxCommunicationsPerDay
    quietHoursStart := ← intValue py policy "quiet_hours_start" base.quietHoursStart
    quietHoursEnd := ← intValue py policy "quiet_hours_end" base.quietHoursEnd
    automaticRecoveryEnabled :=
      boolValue py policy "automatic_recovery_enabled" base.automaticRecoveryEnabled
    approvalTtlMinutes := ← intValue py policy "approval_ttl_minutes" base.approvalTtlMinutes
    policyVersion :=
      match Json.get? policy "policy_version" with
      | some raw => if isTruthy raw then py.str raw else base.policyVersion
      | none => base.policyVersion }

end ReviveX
