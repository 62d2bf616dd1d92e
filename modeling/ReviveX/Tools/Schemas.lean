import ReviveX.Domain.Processor

/-!
# Tool schemas

The registry of the fifteen tools: the permission a tool requires, whether it has a side
effect, and the fields of its input. Inputs forbid unknown fields; what `model_dump`
returns has every field of the tool, in order, with its default filled in.
-/

namespace ReviveX

open Lib (Json)

/-! ## Names -/

/-- The name a tool is registered under. -/
def ToolName.text : ToolName → String
  | .getCustomerHistory => "get_customer_history"
  | .getPaymentDetails => "get_payment_details"
  | .getCartDetails => "get_cart_details"
  | .getSubscriptionDetails => "get_subscription_details"
  | .getRecoveryCase => "get_recovery_case"
  | .calculateRecoveryProbability => "calculate_recovery_probability"
  | .retryPayment => "retry_payment"
  | .scheduleRetry => "schedule_retry"
  | .createPaymentLink => "create_payment_link"
  | .sendNotification => "send_notification"
  | .offerDiscount => "offer_discount"
  | .checkPaymentStatus => "check_payment_status"
  | .checkSubscriptionStatus => "check_subscription_status"
  | .escalateToHuman => "escalate_to_human"
  | .pauseRecovery => "pause_recovery"

/-- The tools of `TOOL_SPECS`, in its order. -/
def toolNames : List ToolName :=
  [.getCustomerHistory, .getPaymentDetails, .getCartDetails, .getSubscriptionDetails,
    .getRecoveryCase, .calculateRecoveryProbability, .retryPayment, .scheduleRetry,
    .createPaymentLink, .sendNotification, .offerDiscount, .checkPaymentStatus,
    .checkSubscriptionStatus, .escalateToHuman, .pauseRecovery]

/-- `TOOL_SPECS.get(name)`. -/
def ToolName.ofText? (name : String) : Option ToolName :=
  toolNames.find? fun tool => tool.text = name

/-- `ACTION_BY_TOOL`, the inverse of `TOOL_BY_ACTION`. -/
def actionForTool : ToolName → Option RecoveryActionType
  | .retryPayment => some .retryNow
  | .scheduleRetry => some .retryLater
  | .createPaymentLink => some .sendPaymentLink
  | .sendNotification => some .sendReminder
  | .offerDiscount => some .offerDiscount
  | .escalateToHuman => some .escalate
  | .pauseRecovery => some .doNothing
  | _ => none

/-- `str(ToolPermission)`. -/
def ToolPermission.text : ToolPermission → String
  | .viewRecovery => "VIEW_RECOVERY"
  | .viewCustomer => "VIEW_CUSTOMER"
  | .viewPayment => "VIEW_PAYMENT"
  | .retryPayment => "RETRY_PAYMENT"
  | .createPaymentLink => "CREATE_PAYMENT_LINK"
  | .sendNotification => "SEND_NOTIFICATION"
  | .offerDiscount => "OFFER_DISCOUNT"
  | .escalate => "ESCALATE"
  | .approveRecoveryAction => "APPROVE_RECOVERY_ACTION"
  | .pauseRecovery => "PAUSE_RECOVERY"

/-! ## Inputs -/

/-- The type of an input field, with its default. -/
inductive FieldKind
  /-- `str | None = None` -/
  | optionalText
  /-- `int | None = None` -/
  | optionalInt
  /-- `str`, required -/
  | text
  /-- `NotificationChannel = NotificationChannel.EMAIL` -/
  | channel
deriving DecidableEq, Repr

structure InputField where
  name : String
  kind : FieldKind
deriving DecidableEq

/-- `ToolSpec`, the columns that the services read. -/
structure ToolSpec where
  requiredPermission : ToolPermission
  sideEffect : Bool
  inputModel : List InputField

/-- `TOOL_SPECS` and `INPUT_MODELS`. -/
def ToolName.spec : ToolName → ToolSpec
  | .getCustomerHistory => ⟨.viewCustomer, false, []⟩
  | .getPaymentDetails => ⟨.viewPayment, false, []⟩
  | .getCartDetails => ⟨.viewRecovery, false, []⟩
  | .getSubscriptionDetails => ⟨.viewRecovery, false, []⟩
  | .getRecoveryCase => ⟨.viewRecovery, false, []⟩
  | .calculateRecoveryProbability => ⟨.viewRecovery, false, [⟨"action", .optionalText⟩]⟩
  | .retryPayment => ⟨.retryPayment, true, [⟨"attempt_number", .optionalInt⟩]⟩
  | .scheduleRetry => ⟨.retryPayment, true, [⟨"scheduled_for", .text⟩]⟩
  | .createPaymentLink => ⟨.createPaymentLink, true, [⟨"description", .optionalText⟩]⟩
  | .sendNotification =>
    ⟨.sendNotification, true,
      [⟨"channel", .channel⟩, ⟨"subject", .optionalText⟩, ⟨"body_preview", .optionalText⟩]⟩
  | .offerDiscount => ⟨.offerDiscount, true, [⟨"discount_percent", .text⟩]⟩
  | .checkPaymentStatus => ⟨.viewPayment, false, [⟨"provider_payment_id", .optionalText⟩]⟩
  | .checkSubscriptionStatus => ⟨.viewRecovery, false, []⟩
  | .escalateToHuman => ⟨.escalate, true, [⟨"reason", .optionalText⟩]⟩
  | .pauseRecovery => ⟨.pauseRecovery, true, [⟨"reason", .optionalText⟩]⟩

/-- What the tool layer takes from Python and its packages besides `PyText`. -/
structure Runtime where
  py : PyText
  /-- `str(key).lower()`. -/
  lower : String → List Char
  /-- `str(Decimal(text))`. -/
  decimalText : String → String
  /-- How pydantic reads an `int` from a value that is not one, `none` where it refuses. -/
  laxInt : Json → Option ℤ
  /-- The SHA-256 digest of a text. -/
  sha256 : List Char → ℕ

/-- The default of a field, `none` for a required one. -/
def FieldKind.default : FieldKind → Option Json
  | .optionalText | .optionalInt => some .null
  | .text => none
  | .channel => some (.str NotificationChannel.email.text)

/-- The value of a given field, `none` for a `ValidationError`. -/
def FieldKind.convert (rt : Runtime) : FieldKind → Json → Option Json
  | .optionalText, .null => some .null
  | .optionalText, .str s => some (.str s)
  | .optionalText, _ => none
  | .optionalInt, .null => some .null
  | .optionalInt, .int n => some (.int n)
  | .optionalInt, value => (rt.laxInt value).map .int
  | .text, .str s => some (.str s)
  | .text, _ => none
  | .channel, .str s => (NotificationChannel.ofText? s).map fun c => .str c.text
  | .channel, _ => none

/-- The value of one field of the input. -/
def InputField.read (rt : Runtime) (payload : Payload) (field : InputField) : Option Json :=
  match Json.get? payload field.name with
  | none => field.kind.default
  | some value => field.kind.convert rt value

/-- The fields of a validated input, in the order of the model. -/
def readFields (rt : Runtime) (payload : Payload) : List InputField → Option Payload
  | [] => some []
  | field :: rest => do
    let value ← field.read rt payload
    let others ← readFields rt payload rest
    return (field.name, value) :: others

/-- `_validate_input`. -/
def validateInput (rt : Runtime) (tool : ToolName) (payload : Payload) :
    Except Failure Payload :=
  let refused := toolValidationError "INVALID_TOOL_INPUT"
    "Tool input failed schema validation; unsupported fields are rejected"
  if payload.all fun entry => tool.spec.inputModel.any fun field => field.name = entry.1 then
    (readFields rt payload tool.spec.inputModel).elim (.error refused) .ok
  else .error refused

/-! ## The registry -/

theorem ToolName.ofText?_text (tool : ToolName) : ToolName.ofText? tool.text = some tool := by
  cases tool <;> decide

/-- The two maps between actions and tools are inverse to each other. -/
theorem actionForTool_eq_some {tool : ToolName} {action : RecoveryActionType} :
    actionForTool tool = some action ↔ tool = toolByAction action := by
  cases tool <;> cases action <;> decide

@[simp] theorem actionForTool_toolByAction (action : RecoveryActionType) :
    actionForTool (toolByAction action) = some action := by
  cases action <;> rfl

/-- The tools with a side effect are the tools of an action. -/
theorem spec_sideEffect (tool : ToolName) :
    tool.spec.sideEffect = (actionForTool tool).isSome := by
  cases tool <;> rfl

/-- No two fields of an input share their name. -/
theorem inputModel_nodup (tool : ToolName) : (tool.spec.inputModel.map (·.name)).Nodup := by
  cases tool <;> decide

/-! ## Validating twice -/

variable {rt : Runtime} {payload : Payload} {field : InputField} {value : Json}

theorem FieldKind.convert_default {kind : FieldKind} (h : kind.default = some value) :
    kind.convert rt value = some value := by
  cases kind <;> simp only [FieldKind.default, Option.some.injEq, reduceCtorEq] at h <;>
    subst h <;> simp [FieldKind.convert]

theorem FieldKind.convert_convert {kind : FieldKind} {given : Json}
    (h : kind.convert rt given = some value) : kind.convert rt value = some value := by
  cases kind <;> cases given <;>
    simp only [FieldKind.convert, Option.some.injEq, Option.map_eq_some_iff, reduceCtorEq] at h
  all_goals first
    | subst h
      rfl
    | obtain ⟨a, -, rfl⟩ := h
      simp [FieldKind.convert]

/-- A field reads back the value it was dumped with. -/
theorem InputField.read_dumped {payload' : Payload} (h : field.read rt payload = some value)
    (hdumped : Json.get? payload' field.name = some value) :
    field.read rt payload' = some value := by
  unfold InputField.read at h ⊢
  rw [hdumped]
  split at h
  · exact FieldKind.convert_default h
  · exact FieldKind.convert_convert h

theorem readFields_names {fields : List InputField} {dump : Payload}
    (h : readFields rt payload fields = some dump) :
    dump.map Prod.fst = fields.map (·.name) := by
  induction fields generalizing dump with
  | nil =>
    obtain rfl := Option.some.inj h
    rfl
  | cons field rest ih =>
    simp only [readFields, Option.bind_eq_bind, Option.bind_eq_some_iff] at h
    obtain ⟨value, -, others, hothers, heq⟩ := h
    obtain rfl := Option.some.inj heq
    simp [ih hothers]

/-- The fields of an input read a dump back, when the dump starts with their values. -/
theorem readFields_dumped {fields : List InputField} {dump payload' : Payload}
    (h : readFields rt payload fields = some dump)
    (hdumped : ∀ key value, (key, value) ∈ dump → Json.get? payload' key = some value) :
    readFields rt payload' fields = some dump := by
  -- field by field: each value of the dump is found under the name of its field
  induction fields generalizing dump with
  | nil => exact h
  | cons field rest ih =>
    simp only [readFields, Option.bind_eq_bind, Option.bind_eq_some_iff] at h ⊢
    obtain ⟨value, hvalue, others, hothers, heq⟩ := h
    obtain rfl := Option.some.inj heq
    have hread := InputField.read_dumped hvalue (hdumped _ _ (List.mem_cons_self ..))
    have hrest := ih hothers fun key value hmem => hdumped key value (List.mem_cons_of_mem _ hmem)
    exact ⟨value, hread, others, hrest, rfl⟩

/-- In a document without repeated names, a field is found under its name. -/
theorem get?_of_mem {fields : Payload} (hnodup : (fields.map Prod.fst).Nodup) {key : String}
    (h : (key, value) ∈ fields) : Json.get? fields key = some value := by
  induction fields with
  | nil => exact absurd h (List.not_mem_nil)
  | cons entry rest ih =>
    rw [List.map_cons, List.nodup_cons] at hnodup
    unfold Json.get?
    rw [List.find?_cons]
    rcases List.mem_cons.mp h with rfl | hmem
    · simp
    · have hne : entry.1 ≠ key := by
        rintro rfl
        exact hnodup.1 (List.mem_map.mpr ⟨_, hmem, rfl⟩)
      have hrest := ih hnodup.2 hmem
      unfold Json.get? at hrest
      simp only [hne, decide_false]
      exact hrest

/-- What an accepted input was read from. -/
theorem readFields_of_validateInput {tool : ToolName} {dump : Payload}
    (h : validateInput rt tool payload = .ok dump) :
    readFields rt payload tool.spec.inputModel = some dump := by
  unfold validateInput at h
  by_cases hknown : payload.all fun entry =>
      tool.spec.inputModel.any fun field => field.name = entry.1
  · simp only [hknown, if_true] at h
    cases hread : readFields rt payload tool.spec.inputModel with
    | none =>
      rw [hread] at h
      cases h
    | some read =>
      rw [hread] at h
      rw [Except.ok.inj h]
  · simp only [hknown] at h
    cases h

/-- An accepted input has the fields of its tool. -/
theorem names_of_validateInput {tool : ToolName} {dump : Payload}
    (h : validateInput rt tool payload = .ok dump) :
    dump.map Prod.fst = tool.spec.inputModel.map (·.name) :=
  readFields_names (readFields_of_validateInput h)

/-- A validated input validates to itself. -/
theorem validateInput_validated {tool : ToolName} {dump : Payload}
    (h : validateInput rt tool payload = .ok dump) : validateInput rt tool dump = .ok dump := by
  have hnames := names_of_validateInput h
  have hnodup : (dump.map Prod.fst).Nodup := by
    rw [hnames]
    exact inputModel_nodup tool
  have hagain := readFields_dumped (readFields_of_validateInput h)
    fun key value hmem => get?_of_mem hnodup hmem
  have hall : (dump.all fun entry =>
      tool.spec.inputModel.any fun field => field.name = entry.1) = true := by
    rw [List.all_eq_true]
    intro entry hmem
    have hname : entry.1 ∈ tool.spec.inputModel.map (·.name) := by
      rw [← hnames]
      exact List.mem_map_of_mem hmem
    simpa using hname
  unfold validateInput
  rw [if_pos hall, hagain]
  rfl

end ReviveX
