import ReviveX.Domain.DenialTheorems
import ReviveX.Tools.RoundTripTheorems

/-!
# What an allowed discount costs

The policy engine compares the exact amount of a discount with what is left of the day's
budget; `handle_offer_discount` records the amount rounded to paise. The two agree where the
percentage is not negative and the rounding stays within the whole paise that are left.
-/

namespace ReviveX

open Lib (Decimal Json Session)

variable {rt : Runtime} {ctx : PolicyContext} {hctx : HandlerContext} {percent : Decimal}
  {s s' : Store} {result : HandlerResult} {r : PolicyEvaluationResult} {amount : Money}

/-! ## Bounds -/

/-- The proposal to offer a percentage. -/
def discountProposal (percent : Decimal) : ProposedAction where
  actionType := RecoveryActionType.offerDiscount.text
  discountPercent := some percent

/-- The tool offers a percentage of the amount that a policy context is about. -/
structure Offered (rt : Runtime) (ctx : PolicyContext) (hctx : HandlerContext)
    (percent : Decimal) : Prop where
  amountAtRisk : hctx.case.amountAtRisk = ctx.case.amountAtRisk
  accepted : ∃ payload, validateInput rt .offerDiscount payload = .ok hctx.payload
  proposal : proposedFromPayload rt .offerDiscount hctx.payload = .ok (discountProposal percent)

/-- `0 <= percent <= max_discount_percent`. -/
def PercentWithin (settings : RecoverySettings) (percent : Decimal) : Prop :=
  (Decimal.finite 0).gt? percent = some false ∧
    percent.gt? settings.maxDiscountPercent = some false

/-- A recorded discount is within the amount of the case and the budget of the day, and the
discount of the cart grew by it. -/
structure DiscountBounded (ctx : PolicyContext) (cartId : Option ℕ) (amount : Money)
    (s s' : Store) : Prop where
  amountAtRisk : amount ≤ ctx.case.amountAtRisk
  budget : NotAbove (.finite (((ctx.discountSpentToday : ℚ) + amount) / 100))
    ctx.settings.maxDailyDiscountBudget
  cart : ∀ i cart, cartId = some i → s.carts.get? i = some cart →
    ∃ cart', s'.carts.get? i = some cart' ∧ cart'.discount = cart.discount + amount

/-- `amount_at_risk * percent`, the discount in paise, exceeds the whole paise that the budget
of the day leaves by less than half a paisa, or by half a paisa if they are even. -/
def LeavesRoom (ctx : PolicyContext) (percent : Decimal) : Prop :=
  ∀ budget paise : ℚ, ctx.settings.maxDailyDiscountBudget = .finite budget →
    Decimal.mul? ((ctx.case.amountAtRisk : ℚ) / 100) percent = some (.finite paise) →
    paise < (⌊budget * 100⌋ - (ctx.discountSpentToday : ℤ) : ℤ) + 1 / 2 ∨
      (paise = (⌊budget * 100⌋ - (ctx.discountSpentToday : ℤ) : ℤ) + 1 / 2 ∧
        (⌊budget * 100⌋ - (ctx.discountSpentToday : ℤ)) % 2 = 0)

/-! ## The verdict -/

/-- An allowed percentage does not exceed the maximum. -/
theorem percent_within_of_allowed (h : evaluateAction ctx (discountProposal percent) = .ok r)
    (hallowed : r.allowed = true) : percent.gt? ctx.settings.maxDiscountPercent = some false := by
  have haction : RecoveryActionType.ofText? (discountProposal percent).actionType =
      some .offerDiscount := RecoveryActionType.ofText?_text .offerDiscount
  obtain ⟨value, restrictions, -, hrestrictions, -⟩ := evaluateAction_ok h haction
  have hnone := (allowed_iff h haction).mp hallowed
  rw [restrictionRules_eq, if_pos rfl] at hrestrictions
  obtain ⟨discount, hdiscount, -⟩ := Lib.bind_eq_ok.mp hrestrictions
  rw [discountRules_eq rfl] at hdiscount
  obtain ⟨tooLarge, htooLarge, -⟩ := Lib.bind_eq_ok.mp hdiscount
  have hlarge := exceeds_eq_ok.mp htooLarge
  cases tooLarge with
  | false => exact hlarge
  | true => exact absurd (.discount rfl (.tooLarge rfl hlarge)) hnone

/-! ## The recorded amount -/

theorem orCrash_eq_ok {α : Type} {exception : String} {x : Option α} {a : α} :
    (orCrash exception x).run s = (.ok a, s') ↔ x = some a ∧ s' = s := by
  unfold orCrash
  cases x with
  | none => simp
  | some b => simp [eq_comm]

/-- The recorded amount is the product of the amount and the percentage, in paise, rounded. -/
theorem discountAmount_eq {c : RecoveryCase} (h : discountAmount c percent = some amount) :
    ∃ q paise : ℚ, percent = .finite q ∧
      Decimal.mul? ((c.amountAtRisk : ℚ) / 100) percent = some (.finite paise) ∧
      Decimal.roundHalfEven paise = amount ∧ (amount : ℤ) < 10 ^ 28 := by
  unfold discountAmount at h
  obtain ⟨product, hproduct, hrest⟩ := Option.bind_eq_some_iff.mp h
  obtain ⟨quotient, hquotient, hmoney⟩ := Option.bind_eq_some_iff.mp hrest
  obtain ⟨rupees, rfl⟩ := finite_of_asMoney hmoney
  obtain ⟨paise, rfl⟩ := Decimal.finite_of_div? hquotient
  obtain ⟨q, rfl⟩ := Decimal.finite_of_mul? hproduct
  -- the division by a hundred is exact
  have hexact := Decimal.ofExact_hundredth hproduct
  have hrupees : paise / 100 = rupees :=
    Decimal.finite.inj (Option.some.inj (hexact.symm.trans hquotient))
  obtain ⟨hround, hlt⟩ := asMoney_finite.mp hmoney
  rw [← hrupees, div_mul_cancel₀ _ (by norm_num)] at hround
  exact ⟨q, paise, rfl, hproduct, hround, hlt⟩

/-- The discount of a cart grows by whole paise. -/
theorem discount_add {discount amount total : Money}
    (h : (discount.toDecimal.add? amount.toDecimal).bind asMoney = some total) :
    total = discount + amount := by
  obtain ⟨sum, hsum, htotal⟩ := Option.bind_eq_some_iff.mp h
  have hadd : Decimal.ofExact (((discount + amount : ℕ) : ℤ) / 100) = some sum := by
    rw [← hsum]
    unfold Money.toDecimal Decimal.add?
    congr 1
    push_cast
    ring
  by_cases hlt : (discount + amount : ℕ) < 10 ^ 28
  · have hexact := Decimal.ofExact_paise (n := (discount + amount : ℕ)) (by
      rw [abs_of_nonneg (by positivity)]
      exact_mod_cast hlt)
    rw [hexact] at hadd
    obtain rfl := Option.some.inj hadd
    have hmoney := asMoney_paise (m := (discount + amount : ℕ)) (by exact_mod_cast hlt)
    push_cast at hmoney htotal
    rw [hmoney] at htotal
    exact (Option.some.inj htotal).symm
  · -- a sum of more digits is no money
    obtain ⟨q, rfl⟩ := Decimal.ofExact_finite hadd
    have hlarge : ((10 ^ 26 : ℤ) : ℚ) ≤ q := by
      refine Decimal.ofExact_mono ?_ (Decimal.ofExact_intCast (by norm_num)) hadd
      have hle : (10 ^ 28 : ℚ) ≤ ((discount + amount : ℕ) : ℤ) := by
        exact_mod_cast not_lt.mp hlt
      rw [le_div_iff₀ (by norm_num)]
      push_cast at hle ⊢
      linarith
    have hround : (10 : ℤ) ^ 28 ≤ Decimal.roundHalfEven (q * 100) :=
      Decimal.le_roundHalfEven (by push_cast at hlarge ⊢; linarith)
    obtain ⟨hmoney, hbound⟩ := asMoney_finite.mp htotal
    omega

theorem discountCart_ok {cartId : Option ℕ}
    (h : (discountCart cartId amount).run s = (.ok (), s')) :
    ∀ i cart, cartId = some i → s.carts.get? i = some cart →
      ∃ cart', s'.carts.get? i = some cart' ∧ cart'.discount = cart.discount + amount := by
  rintro i cart rfl hcart
  unfold discountCart at h
  rw [Session.run_get_bind] at h
  simp only [Option.bind_some, hcart, Option.map_some] at h
  obtain ⟨total, s₁, hgrown, hwritten⟩ := Session.run_bind_eq_ok.mp h
  obtain ⟨htotal, rfl⟩ := orCrash_eq_ok.mp hgrown
  obtain rfl := (Prod.mk.inj hwritten).2
  refine ⟨{ cart with discount := total }, ?_, discount_add htotal⟩
  dsimp only
  rw [Lib.Table.get?_modify_self, hcart]
  rfl

/-! ## The handler -/

/-- An accepted input of the tool is a percentage. -/
theorem discountInput_of_validateInput {payload input : Payload}
    (h : validateInput rt .offerDiscount payload = .ok input) :
    ∃ text, input = [("discount_percent", .str text)] := by
  obtain ⟨value, hvalue, hothers⟩ := Option.bind_eq_some_iff.mp (readFields_of_validateInput h)
  obtain rfl := Option.some.inj hothers
  unfold InputField.read at hvalue
  dsimp only at hvalue
  split at hvalue
  · cases hvalue
  · rename_i given hgiven
    cases given with
    | str text =>
      obtain rfl := Option.some.inj hvalue
      exact ⟨text, rfl⟩
    | _ => cases hvalue

theorem proposedFromPayload_text (text : String) :
    proposedFromPayload rt .offerDiscount [("discount_percent", .str text)] =
      (rt.py.decimal (rt.py.str (.str text))).elim (.error (.crash "InvalidOperation"))
        fun percent => .ok (discountProposal percent) := by
  unfold proposedFromPayload
  have hget : Json.get? [("discount_percent", Json.str text)] "discount_percent" =
      some (.str text) := rfl
  rw [hget]
  dsimp only
  cases rt.py.decimal (rt.py.str (.str text)) <;> rfl

/-- The tool reads the percentage that the policy engine was asked about. -/
theorem Offered.decimal (h : Offered rt ctx hctx percent)
    (hstr : ∀ text, rt.py.str (.str text) = text) :
    rt.py.decimal ((textField hctx.payload "discount_percent").getD "") = some percent := by
  obtain ⟨payload, hpayload⟩ := h.accepted
  obtain ⟨text, htext⟩ := discountInput_of_validateInput hpayload
  have hproposal := h.proposal
  rw [htext] at hproposal ⊢
  rw [proposedFromPayload_text, hstr] at hproposal
  cases hread : rt.py.decimal text with
  | none =>
    rw [hread] at hproposal
    cases hproposal
  | some read =>
    rw [hread] at hproposal
    have hsame := congrArg ProposedAction.discountPercent (Except.ok.inj hproposal)
    exact hread.trans hsame

theorem handleOfferDiscount_ok (h : Offered rt ctx hctx percent)
    (hstr : ∀ text, rt.py.str (.str text) = text)
    (hrun : (handleOfferDiscount rt hctx).run s = (.ok result, s')) :
    ∃ amount, result.amount = some amount ∧ discountAmount ctx.case percent = some amount ∧
      (discountCart hctx.case.cartId amount).run s = (.ok (), s') := by
  unfold handleOfferDiscount at hrun
  dsimp only at hrun
  obtain ⟨read, s₁, hread, hrun⟩ := Session.run_bind_eq_ok.mp hrun
  obtain ⟨hdecimal, hs₁⟩ := orCrash_eq_ok.mp hread
  obtain ⟨amount, s₂, hamount, hrun⟩ := Session.run_bind_eq_ok.mp hrun
  obtain ⟨hamount, hs₂⟩ := orCrash_eq_ok.mp hamount
  obtain ⟨done, s₃, hcart, hrun⟩ := Session.run_bind_eq_ok.mp hrun
  obtain ⟨hresult, hs₃⟩ := Prod.mk.inj hrun
  rw [h.decimal hstr] at hdecimal
  rw [← Option.some.inj hdecimal] at hamount
  unfold discountAmount at hamount ⊢
  rw [h.amountAtRisk] at hamount
  rw [hs₂, hs₁, hs₃] at hcart
  refine ⟨amount, ?_, hamount, hcart⟩
  rw [← Except.ok.inj hresult]

/-! ## Bounded discounts -/

/-- The rounded amount of a percentage of at most a hundred is within the amount. -/
theorem roundHalfEven_percent_le {n : ℕ} {q paise : ℚ} (hq : q ≤ 100)
    (hn : (n : ℤ) < 10 ^ 28)
    (hpaise : Decimal.mul? ((n : ℚ) / 100) (.finite q) = some (.finite paise)) :
    Decimal.roundHalfEven paise ≤ n := by
  refine Decimal.roundHalfEven_le ?_
  have hexact : Decimal.ofExact ((n : ℤ) : ℚ) = some (.finite ((n : ℤ) : ℚ)) :=
    Decimal.ofExact_intCast (by rwa [abs_of_nonneg (by positivity)])
  refine Decimal.ofExact_mono ?_ hpaise hexact
  have hnonneg : (0 : ℚ) ≤ (n : ℚ) / 100 := by positivity
  calc (n : ℚ) / 100 * q ≤ (n : ℚ) / 100 * 100 := mul_le_mul_of_nonneg_left hq hnonneg
    _ = ((n : ℤ) : ℚ) := by
      push_cast
      ring

/-- Whole paise are within a budget when they are within its whole paise. -/
theorem within_budget_iff {spent amount : ℕ} {budget : ℚ} :
    NotAbove (.finite (((spent : ℚ) + amount) / 100)) (.finite budget) ↔
      (amount : ℤ) ≤ ⌊budget * 100⌋ - (spent : ℤ) := by
  unfold NotAbove
  rw [Decimal.gt?_finite, ne_eq, Option.some.injEq, decide_eq_true_eq, not_lt,
    div_le_iff₀ (by norm_num), le_sub_iff_add_le', Int.le_floor]
  push_cast
  exact Iff.rfl

/-- The exact amount of an allowed discount, on top of what was spent, was compared with the budget
of the day and found to be within it. -/
theorem projected_of_allowed (h : evaluateAction ctx (discountProposal percent) = .ok r)
    (hallowed : r.allowed = true) {paise : ℚ}
    (hpaise : Decimal.mul? ((ctx.case.amountAtRisk : ℚ) / 100) percent = some (.finite paise)) :
    ∃ sum, Decimal.ofExact ((ctx.discountSpentToday : ℚ) / 100 + paise / 100) =
        some (.finite sum) ∧
      (Decimal.finite sum).gt? ctx.settings.maxDailyDiscountBudget = some false := by
  obtain ⟨q, rfl⟩ := Decimal.finite_of_mul? hpaise
  obtain ⟨percent, product, quotient, projected, hpercent, hproduct, hquotient, hprojected,
    hunder⟩ := discount_within_of_allowed h (RecoveryActionType.ofText?_text .offerDiscount) rfl
      hallowed
  obtain rfl := Option.some.inj hpercent
  rw [hpaise] at hproduct
  obtain rfl := Option.some.inj hproduct
  obtain rfl := Option.some.inj ((Decimal.ofExact_hundredth hpaise).symm.trans hquotient)
  obtain ⟨sum, rfl⟩ := Decimal.ofExact_finite hprojected
  exact ⟨sum, hprojected, hunder⟩

/-- A recorded discount is bounded exactly when the budget leaves room for its rounding. -/
theorem discountBounded_iff (h : evaluateAction ctx (discountProposal percent) = .ok r)
    (hallowed : r.allowed = true) {m : ℚ}
    (hmax : ctx.settings.maxDiscountPercent = .finite m) (hm : m ≤ 100)
    (hamount : discountAmount ctx.case percent = some amount) {cartId : Option ℕ}
    (hcart : (discountCart cartId amount).run s = (.ok (), s')) :
    DiscountBounded ctx cartId amount s s' ↔ LeavesRoom ctx percent := by
  obtain ⟨q, paise, rfl, hpaise, hround, hlt⟩ := discountAmount_eq hamount
  have hq : q ≤ 100 := by
    have hwithin := percent_within_of_allowed h hallowed
    rw [hmax, Decimal.gt?_finite, Option.some.injEq, decide_eq_false_iff_not, not_lt] at hwithin
    exact hwithin.trans hm
  have hrisk : amount ≤ ctx.case.amountAtRisk := by
    by_cases hn : (ctx.case.amountAtRisk : ℤ) < 10 ^ 28
    · have hle := roundHalfEven_percent_le hq hn hpaise
      rw [hround] at hle
      exact_mod_cast hle
    · have hle : (amount : ℤ) ≤ ctx.case.amountAtRisk := by omega
      exact_mod_cast hle
  -- the day's budget is a number that the engine could compare with
  obtain ⟨sum, -, hunder⟩ := projected_of_allowed h hallowed hpaise
  cases hbudget : ctx.settings.maxDailyDiscountBudget with
  | nan =>
    rw [hbudget] at hunder
    cases hunder
  | infinity negative =>
    rw [hbudget] at hunder
    obtain rfl := Option.some.inj hunder
    refine iff_of_true ⟨hrisk, ?_, discountCart_ok hcart⟩ ?_
    · rw [hbudget]
      exact nofun
    · intro budget paise hfinite
      rw [hbudget] at hfinite
      cases hfinite
  | finite budget =>
    have hroom : (amount : ℤ) ≤ ⌊budget * 100⌋ - (ctx.discountSpentToday : ℤ) ↔
        LeavesRoom ctx (.finite q) := by
      rw [← hround, Decimal.roundHalfEven_le_iff]
      constructor
      · intro hrounds budget' paise' hbudget' hpaise'
        rw [hbudget] at hbudget'
        rw [hpaise] at hpaise'
        rw [← Decimal.finite.inj hbudget', ← Decimal.finite.inj (Option.some.inj hpaise')]
        exact hrounds
      · intro hroom
        exact hroom budget paise hbudget hpaise
    rw [← hroom]
    constructor
    · intro hbounded
      have hwithin := hbounded.budget
      rw [hbudget] at hwithin
      exact within_budget_iff.mp hwithin
    · intro hleft
      refine ⟨hrisk, ?_, discountCart_ok hcart⟩
      rw [hbudget]
      exact within_budget_iff.mpr hleft

/-- A budget of whole paise leaves room for the rounding of every allowed discount. -/
theorem leavesRoom_of_wholePaise (h : evaluateAction ctx (discountProposal percent) = .ok r)
    (hallowed : r.allowed = true) {b : ℤ} (hb : b < 10 ^ 27)
    (hbudget : ctx.settings.maxDailyDiscountBudget = .finite ((b : ℚ) / 100))
    (hnonneg : (Decimal.finite 0).gt? percent = some false) : LeavesRoom ctx percent := by
  intro budget paise hbudget' hpaise
  rw [hbudget] at hbudget'
  obtain rfl := Decimal.finite.inj hbudget'
  obtain ⟨q, rfl⟩ := Decimal.finite_of_mul? hpaise
  obtain ⟨sum, hprojected, hunder⟩ := projected_of_allowed h hallowed hpaise
  have hq : 0 ≤ q := by
    rw [Decimal.gt?_finite, Option.some.injEq, decide_eq_false_iff_not, not_lt] at hnonneg
    exact hnonneg
  have hpaise0 : 0 ≤ paise :=
    Decimal.ofExact_mono (mul_nonneg (by positivity) hq) Decimal.ofExact_zero hpaise
  have hsum : sum ≤ (b : ℚ) / 100 := by
    rw [hbudget, Decimal.gt?_finite, Option.some.injEq, decide_eq_false_iff_not, not_lt] at hunder
    exact hunder
  have hb' : (b : ℚ) < 10 ^ 27 := by exact_mod_cast hb
  have hwhole : ⌊(b : ℚ) / 100 * 100⌋ = b := by
    rw [div_mul_cancel₀ _ (by norm_num), Int.floor_intCast]
  rw [hwhole]
  push_cast
  have hspent : (0 : ℚ) ≤ (ctx.discountSpentToday : ℚ) := by positivity
  left
  rcases (add_nonneg (div_nonneg hspent (by norm_num)) (div_nonneg hpaise0 (by norm_num)) :
    (0 : ℚ) ≤ (ctx.discountSpentToday : ℚ) / 100 + paise / 100).lt_or_eq with hpos | hzero
  · have hless := Decimal.lt_of_ofExact_le hprojected hsum hpos (by linarith)
    linarith
  · have hsum0 : 0 ≤ sum := Decimal.ofExact_mono hzero.le Decimal.ofExact_zero hprojected
    linarith

/-- An allowed discount is bounded exactly when its percentage is not negative and, where the
handler records it, the budget of the day leaves room for its rounding. -/
theorem offered_bounded_iff (hoffered : Offered rt ctx hctx percent)
    (hstr : ∀ text, rt.py.str (.str text) = text)
    {m : ℚ} (hmax : ctx.settings.maxDiscountPercent = .finite m) (hm : m ≤ 100)
    (h : evaluateAction ctx (discountProposal percent) = .ok r) (hallowed : r.allowed = true)
    (s : Store) :
    (PercentWithin ctx.settings percent ∧
      ∀ result s', (handleOfferDiscount rt hctx).run s = (.ok result, s') →
        ∃ amount, result.amount = some amount ∧
          DiscountBounded ctx hctx.case.cartId amount s s') ↔
    ((Decimal.finite 0).gt? percent = some false ∧
      ∀ result s', (handleOfferDiscount rt hctx).run s = (.ok result, s') →
        LeavesRoom ctx percent) := by
  have hwithin := percent_within_of_allowed h hallowed
  constructor
  · rintro ⟨hpercent, hbounded⟩
    refine ⟨hpercent.1, fun result s' hrun => ?_⟩
    obtain ⟨amount, hrecorded, hamount, hcart⟩ := handleOfferDiscount_ok hoffered hstr hrun
    obtain ⟨amount', hrecorded', hdiscount⟩ := hbounded result s' hrun
    obtain rfl := Option.some.inj (hrecorded.symm.trans hrecorded')
    exact (discountBounded_iff h hallowed hmax hm hamount hcart).mp hdiscount
  · rintro ⟨hnonneg, hroom⟩
    refine ⟨⟨hnonneg, hwithin⟩, fun result s' hrun => ?_⟩
    obtain ⟨amount, hrecorded, hamount, hcart⟩ := handleOfferDiscount_ok hoffered hstr hrun
    exact ⟨amount, hrecorded,
      (discountBounded_iff h hallowed hmax hm hamount hcart).mpr (hroom result s' hrun)⟩

/-! ## Executions -/

variable {svc : ToolExecutionService} {caller : Caller} {args : ExecuteArgs}
  {request : ToolRequest} {verdict : ToolVerdict}

/-- The policy engine allows the percentage that a call names, of the case that it names. -/
structure AllowedOffer (rt : Runtime) (svc : ToolExecutionService) (caller : Caller)
    (args : ExecuteArgs) (s : Store) (c : RecoveryCase) (ctx : PolicyContext)
    (percent : Decimal) : Prop where
  named : ∃ input, validateInput rt .offerDiscount args.payload = .ok input ∧
    proposedFromPayload rt .offerDiscount input = .ok (discountProposal percent)
  row : s.cases.get? args.caseId = some c
  context : buildPolicyContext { settings := svc.settings, py := rt.py } s args.caseId c
    caller.now = .ok ctx
  allowed : ∃ r, evaluateAction ctx (discountProposal percent) = .ok r ∧ r.allowed = true

/-- A tool that is an action only runs once it is allowed. -/
theorem allowed_of_branch {action : RecoveryActionType}
    (haction : actionForTool request.tool = some action)
    (h : toolBranch request verdict.evaluation = .run) : verdict.evaluation.allowed = true := by
  unfold toolBranch at h
  rw [haction] at h
  dsimp only at h
  split at h
  · cases h
  · split at h
    · cases h
    · rename_i hallowed
      simpa using hallowed

/-- The handler of the tool is only entered on an offer that the policy engine allowed. -/
theorem HandlerEntered.offered {s₀ s₁ : Store} {c : RecoveryCase} (actionId : Option ℕ)
    (h : HandlerEntered rt svc caller request s₀ verdict s₁ c)
    (hadmitted : Admitted rt s args request) (htool : request.tool = .offerDiscount)
    (hsame : judgeTool rt svc caller.now s₀ request = judgeTool rt svc caller.now s request) :
    ∃ percent, AllowedOffer rt svc caller args s request.case verdict.ctx percent ∧
      Offered rt verdict.ctx (handlerContext request c actionId s₁) percent := by
  have haction : actionForTool request.tool = some .offerDiscount := by
    rw [htool]
    rfl
  have hvalidated := hadmitted.validated
  rw [htool] at hvalidated
  obtain ⟨text, htext⟩ := discountInput_of_validateInput hvalidated
  obtain ⟨proposed, hproposed, hcontext, hevaluated⟩ :=
    judgeTool_ok haction (hsame ▸ h.judged)
  have hcase : verdict.ctx.case = request.case := by
    obtain ⟨merchant, hof⟩ := contextOf_of_build hcontext
    exact hof.caseRow
  rw [hadmitted.args_eq] at hcontext
  -- the proposal is the one of the percentage that the tool was given
  obtain ⟨percent, rfl⟩ : ∃ percent, proposed = discountProposal percent := by
    have hread := hproposed
    rw [htext, proposedFromPayload_text] at hread
    cases hdecimal : rt.py.decimal (rt.py.str (.str text)) with
    | none =>
      rw [hdecimal] at hread
      cases hread
    | some percent =>
      rw [hdecimal] at hread
      exact ⟨percent, (Except.ok.inj hread).symm⟩
  have hproposed : proposedFromPayload rt .offerDiscount request.input =
      .ok (discountProposal percent) := hproposed
  refine ⟨percent, ⟨⟨_, hvalidated, hproposed⟩, hadmitted.row, hcontext, _, hevaluated,
    allowed_of_branch haction h.branch⟩, ?_, ⟨args.payload, hvalidated⟩, hproposed⟩
  rw [hcase]
  exact h.lifecycle.amountAtRisk

/-- An execution that enters the handler of the tool does so on an allowed offer, with the carts
that it found, and ends with the carts of the handler and its amount on the row of the action. -/
theorem execute_offers {r : ToolExecutionResult}
    (hrun : (execute rt svc caller args).run s = (.ok r, s'))
    (htool : resolveTool args.toolName args.action = .ok .offerDiscount)
    (hcalled : s'.handlerCalls ≠ s.handlerCalls) :
    ∃ c ctx percent hctx s₁ s₂ handled actionId row,
      AllowedOffer rt svc caller args s c ctx percent ∧ Offered rt ctx hctx percent ∧
        hctx.case.cartId = c.cartId ∧
        (handleOfferDiscount rt hctx).run s₁ = (.ok handled, s₂) ∧ s₁.carts = s.carts ∧
        s'.carts = s₂.carts ∧
        s'.actions.get? actionId = some (RecoveryAction.record row handled caller.now) := by
  have houtcome := execute_outcome rt svc caller args s
  rw [hrun] at houtcome
  cases houtcome with
  | replayed => exact absurd rfl hcalled
  | @ran request row s₀ _ x _ hadmits hholds hran hfinished =>
    have hadmitted := admitted_of_ok hadmits
    have htaken := keyTaken_eq s request caller.now
    have hentersNone : ¬ SameHandlers s s₀ := by
      intro hsame
      refine hcalled ?_
      rw [← hsame.calls]
      unfold Store.handlerCalls
      rw [hfinished.trace]
    have htrace : (s.keyTaken request caller.now).trace = s.trace := by rw [htaken]
    -- the other runs enter no handler
    cases hran with
    | refused => cases hfinished
    | crashed => cases hfinished
    | blocked hjudged hbranch hstatus hkept =>
      exact absurd (.of_eq (hkept.trace.trans htrace)) hentersNone
    | parked hjudged hbranch hstatus hkept =>
      have hasked := hkept.trace
      unfold Store.parked Store.withApproval at hasked
      dsimp only at hasked
      rw [htrace] at hasked
      exact absurd (.of_trace hasked rfl rfl) hentersNone
    | @handled verdict s₁ s₂ _ c handled _ hentered hhandled hstatus hkept =>
      have htool' : request.tool = .offerDiscount :=
        Except.ok.inj (hadmitted.resolved.symm.trans htool)
      have haction : actionForTool request.tool = some .offerDiscount := by
        rw [htool']
        rfl
      -- the verdict reads nothing of the key that was taken before it
      have hjudged : judgeTool rt svc caller.now (s.keyTaken request caller.now) request =
          judgeTool rt svc caller.now s request := by
        rw [htaken]
        rfl
      obtain ⟨percent, hallowed, hoffered⟩ := hentered.offered
        ((s.keyTaken request caller.now).startedId request) hadmitted htool' hjudged
      have hactions := (hentered.reached.reported hhandled).actions
      obtain ⟨row, hrow, -⟩ := handledActions_row (s.keyTaken request caller.now)
        verdict.evaluation.riskLevel handled caller.now haction
      have hbefore : s₁.carts = s.carts := by
        rw [hentered.started.store, htaken]
      cases hfinished with
      | returned hrecorded =>
        dsimp only at hrecorded
        have hcarts : s'.carts = s₀.carts := by
          rw [hrecorded]
          rfl
        have hcarts₀ : s₀.carts = s₂.carts := by
          rw [hkept.store]
          rfl
        rw [htool'] at hhandled
        refine ⟨request.case, verdict.ctx, percent, _, _, s₂, handled,
          (s.keyTaken request caller.now).upsertId request, row, hallowed, hoffered,
          hentered.lifecycle.cartId, hhandled, hbefore, hcarts.trans hcarts₀, ?_⟩
        have hactions' : s'.actions = s₀.actions := hrecorded.actions
        rw [hactions', hkept.actions, hactions]
        exact hrow

/-- An allowed discount is bounded exactly when its percentage is not negative and, where the
handler records it, the budget of the day leaves room for its rounding. That is so of every call
of the handler, and of every execution that enters it: it enters on an allowed offer, records
the rounded amount on the row of its action and grows the cart of the case. A budget of whole
paise always leaves the room. -/
theorem offerDiscount_bounded_iff (rt : Runtime) (hstr : ∀ text, rt.py.str (.str text) = text) :
    (∀ (ctx : PolicyContext) (hctx : HandlerContext) (percent : Decimal)
      (r : PolicyEvaluationResult) (m : ℚ) (s : Store), Offered rt ctx hctx percent →
      ctx.settings.maxDiscountPercent = .finite m → m ≤ 100 →
      evaluateAction ctx (discountProposal percent) = .ok r → r.allowed = true →
      ((PercentWithin ctx.settings percent ∧
        ∀ result s', (handleOfferDiscount rt hctx).run s = (.ok result, s') →
          ∃ amount, result.amount = some amount ∧
            DiscountBounded ctx hctx.case.cartId amount s s') ↔
      ((Decimal.finite 0).gt? percent = some false ∧
        ∀ result s', (handleOfferDiscount rt hctx).run s = (.ok result, s') →
          LeavesRoom ctx percent))) ∧
    (∀ (svc : ToolExecutionService) (caller : Caller) (args : ExecuteArgs) (s s' : Store)
      (r : ToolExecutionResult), (execute rt svc caller args).run s = (.ok r, s') →
      resolveTool args.toolName args.action = .ok .offerDiscount →
      s'.handlerCalls ≠ s.handlerCalls →
      ∃ c ctx percent amount actionId row, AllowedOffer rt svc caller args s c ctx percent ∧
        s'.actions.get? actionId = some row ∧ row.amount = some amount ∧
        discountAmount ctx.case percent = some amount ∧
        ∀ m, ctx.settings.maxDiscountPercent = .finite m → m ≤ 100 →
          (PercentWithin ctx.settings percent ∧ DiscountBounded ctx c.cartId amount s s' ↔
            (Decimal.finite 0).gt? percent = some false ∧ LeavesRoom ctx percent)) ∧
    ∀ (ctx : PolicyContext) (percent : Decimal) (r : PolicyEvaluationResult) (b : ℤ),
      evaluateAction ctx (discountProposal percent) = .ok r → r.allowed = true →
      ctx.settings.maxDailyDiscountBudget = .finite ((b : ℚ) / 100) → b < 10 ^ 27 →
      (Decimal.finite 0).gt? percent = some false → LeavesRoom ctx percent := by
  refine ⟨fun ctx hctx percent r m s hoffered hmax hm h hallowed =>
    offered_bounded_iff hoffered hstr hmax hm h hallowed s, ?_,
    fun ctx percent r b h hallowed hbudget hb hnonneg =>
      leavesRoom_of_wholePaise h hallowed hb hbudget hnonneg⟩
  intro svc caller args s s' r hrun htool hcalled
  obtain ⟨c, ctx, percent, hctx, s₁, s₂, handled, actionId, row, hallowed, hoffered, hcartId,
    hhandled, hbefore, hafter, hrow⟩ := execute_offers hrun htool hcalled
  obtain ⟨amount, hrecorded, hamount, hcart⟩ := handleOfferDiscount_ok hoffered hstr hhandled
  refine ⟨c, ctx, percent, amount, actionId, _, hallowed, hrow, ?_, hamount, fun m hmax hm => ?_⟩
  · show handled.amount.or row.amount = some amount
    rw [hrecorded]
    rfl
  · obtain ⟨verdict, hverdict, hpermits⟩ := hallowed.allowed
    have hbounded := discountBounded_iff hverdict hpermits hmax hm hamount hcart
    -- the handler saw the carts of the execution, and its own are what remains
    have hsame : DiscountBounded ctx c.cartId amount s s' ↔
        DiscountBounded ctx hctx.case.cartId amount s₁ s₂ := by
      constructor
      · rintro ⟨hrisk, hbudget, hgrown⟩
        refine ⟨hrisk, hbudget, ?_⟩
        rwa [hcartId, hbefore, ← hafter]
      · rintro ⟨hrisk, hbudget, hgrown⟩
        refine ⟨hrisk, hbudget, ?_⟩
        rwa [← hcartId, ← hbefore, hafter]
    rw [hsame, hbounded]
    have hwithin := percent_within_of_allowed hverdict hpermits
    exact ⟨fun h => ⟨h.1.1, h.2⟩, fun h => ⟨⟨h.1, hwithin⟩, h.2⟩⟩

/-! ### A surcharge and half a paisa -/

/-- A runtime that reads three percentages. -/
def discountRuntime : Runtime :=
  { sampleRuntime with
    py :=
      { wholeNumberText with
        decimal := fun text =>
          if text = "-5" then some (.finite (-5))
          else if text = "10" then some (.finite 10)
          else none } }

/-- The context of a case of ₹100.06 with a daily budget for discounts. -/
def budgetContext (budget : ℚ) : PolicyContext :=
  { samplePolicyContext { maxDailyDiscountBudget := .finite budget } with
    case := sampleCase 0 10006 .policyCheck }

/-- The tool is called with a percentage for the case of `budgetContext`. -/
def discountCall (text : String) : HandlerContext where
  caseId := 0
  case := sampleCase 0 10006 .policyCheck
  customer := none
  payment := none
  payload := [("discount_percent", .str text)]
  attemptNumber := 1
  idempotencyKey := "first"

theorem offered_discountCall {text : String} {percent : Decimal} {budget : ℚ}
    (h : discountRuntime.py.decimal text = some percent) :
    Offered discountRuntime (budgetContext budget) (discountCall text) percent where
  amountAtRisk := rfl
  accepted := ⟨[("discount_percent", .str text)], rfl⟩
  proposal := by
    change proposedFromPayload discountRuntime .offerDiscount [("discount_percent", .str text)] = _
    rw [proposedFromPayload_text]
    change (discountRuntime.py.decimal text).elim _ _ = _
    rw [h]
    rfl

/-- A negative percentage is allowed; a tenth of ₹100.06 fits a budget of ₹10.006 and is
recorded as ₹10.01. -/
theorem allowedDiscounts_unbounded :
    (Offered discountRuntime (budgetContext 5000) (discountCall "-5") (.finite (-5)) ∧
      (evaluateAction (budgetContext 5000) (discountProposal (.finite (-5)))).toOption.map
        (·.allowed) = some true ∧
      ¬ PercentWithin (budgetContext 5000).settings (.finite (-5))) ∧
    Offered discountRuntime (budgetContext (5003 / 500)) (discountCall "10") (.finite 10) ∧
      (evaluateAction (budgetContext (5003 / 500)) (discountProposal (.finite 10))).toOption.map
        (·.allowed) = some true ∧
      ∃ result s', (handleOfferDiscount discountRuntime (discountCall "10")).run {} =
          (.ok result, s') ∧ result.amount = some 1001 ∧
        ¬ DiscountBounded (budgetContext (5003 / 500)) none 1001 {} s' := by
  refine ⟨⟨offered_discountCall (by decide +kernel), by decide +kernel, ?_⟩,
    offered_discountCall (by decide +kernel), by decide +kernel, ?_⟩
  · rintro ⟨hnonneg, -⟩
    revert hnonneg
    decide +kernel
  · have hamount : ((handleOfferDiscount discountRuntime (discountCall "10")).run
        {}).1.toOption.map (·.amount) = some (some 1001) := by decide +kernel
    obtain ⟨result, hresult, hamount⟩ := Option.map_eq_some_iff.mp hamount
    refine ⟨result, _, Session.run_of_result (Lib.toOption_eq_some.mp hresult), hamount,
      fun hbounded => ?_⟩
    have hbudget := hbounded.budget
    revert hbudget
    unfold NotAbove
    decide +kernel

/-- A cart of ₹100.06 that was left, whose case is at the policy check. -/
def cartStore : Store where
  merchants := ⟨[{}]⟩
  customers := ⟨[{ merchantId := 0 }]⟩
  carts := ⟨[{ merchantId := 0, customerId := 0, total := 10006 }]⟩
  cases := ⟨[
    { sampleCase 0 10006 .policyCheck with
      paymentId := none
      cartId := some 0
      caseType := .abandonedCheckout
      has_subject := .inr (.inl rfl) }]⟩

/-- A tenth is offered for the case. -/
def tenthOffered : ExecuteArgs where
  caseId := 0
  toolName := some "offer_discount"
  payload := [("discount_percent", .str "10")]
  idempotencyKey := "first"

/-- What the engine allows of the offered tenth: a budget of ₹5000, an amount of ₹10.01. -/
theorem AllowedOffer.tenth {c : RecoveryCase} {ctx : PolicyContext} {percent : Decimal}
    (h : AllowedOffer discountRuntime sampleService noonCaller tenthOffered cartStore c ctx
      percent) :
    percent = .finite 10 ∧ ctx.settings.maxDiscountPercent = .finite 10 ∧
      ctx.settings.maxDailyDiscountBudget = .finite 5000 ∧
      discountAmount ctx.case (.finite 10) = some 1001 := by
  have hnamed : (validateInput discountRuntime .offerDiscount
      tenthOffered.payload).toOption.map (fun input =>
        (proposedFromPayload discountRuntime .offerDiscount input).toOption.map
          (·.discountPercent)) = some (some (some (.finite 10))) := by decide +kernel
  obtain ⟨input, hinput, hproposed⟩ := h.named
  rw [hinput] at hnamed
  replace hnamed := Option.some.inj hnamed
  dsimp only at hnamed
  rw [hproposed] at hnamed
  have hcontext : (cartStore.cases.get? 0).bind (fun c =>
      (buildPolicyContext { settings := sampleService.settings, py := discountRuntime.py } cartStore
        0 c noonCaller.now).toOption.map fun ctx => (ctx.settings.maxDiscountPercent,
          ctx.settings.maxDailyDiscountBudget, discountAmount ctx.case (.finite 10))) =
      some (.finite 10, .finite 5000, some 1001) := by decide +kernel
  have hrow : cartStore.cases.get? 0 = some c := h.row
  have hbuilt : buildPolicyContext { settings := sampleService.settings, py := discountRuntime.py }
      cartStore 0 c noonCaller.now = .ok ctx := h.context
  rw [hrow, Option.bind_some, hbuilt] at hcontext
  obtain ⟨hmax, hrest⟩ := Prod.mk.inj (Option.some.inj hcontext)
  obtain ⟨hbudget, hamount⟩ := Prod.mk.inj hrest
  exact ⟨Option.some.inj (Option.some.inj hnamed), hmax, hbudget, hamount⟩

/-- A tenth of ₹100.06 under the default budget is bounded, asked of the handler and executed. -/
theorem offerDiscount_bounded_iff_tenth :
    (∃ r, evaluateAction (budgetContext 5000) (discountProposal (.finite 10)) = .ok r ∧
      r.allowed = true ∧ PercentWithin (budgetContext 5000).settings (.finite 10) ∧
      ∀ result s', (handleOfferDiscount discountRuntime (discountCall "10")).run {} =
          (.ok result, s') →
        ∃ amount, result.amount = some amount ∧
          DiscountBounded (budgetContext 5000) (discountCall "10").case.cartId amount {} s') ∧
    ∃ r s', (execute discountRuntime sampleService noonCaller tenthOffered).run cartStore =
        (.ok r, s') ∧
      ∃ c ctx actionId row,
        AllowedOffer discountRuntime sampleService noonCaller tenthOffered cartStore c ctx
          (.finite 10) ∧
        s'.actions.get? actionId = some row ∧ row.amount = some 1001 ∧
        PercentWithin ctx.settings (.finite 10) ∧
        DiscountBounded ctx c.cartId 1001 cartStore s' := by
  have hiff := offerDiscount_bounded_iff discountRuntime fun _ => rfl
  constructor
  · have hverdict : (evaluateAction (budgetContext 5000)
      (discountProposal (.finite 10))).toOption.map (·.allowed) = some true := by decide +kernel
    obtain ⟨r, hr, hallowed⟩ := Option.map_eq_some_iff.mp hverdict
    have hr := Lib.toOption_eq_some.mp hr
    have hroom := hiff.2.2 (budgetContext 5000) (.finite 10) r 500000 hr hallowed
      (by decide +kernel) (by norm_num) (by decide +kernel)
    exact ⟨r, hr, hallowed, (hiff.1 _ _ _ r 10 {} (offered_discountCall (by decide +kernel)) rfl
      (by norm_num) hr hallowed).mpr ⟨by decide +kernel, fun _ _ _ => hroom⟩⟩
  · have hcalled : ((execute discountRuntime sampleService noonCaller tenthOffered).run
        cartStore).2.handlerCalls.length = 1 := by decide +kernel
    have hreturned : Lib.raised? ((execute discountRuntime sampleService noonCaller
        tenthOffered).run cartStore).1 = none := by decide +kernel
    rcases hrun : (execute discountRuntime sampleService noonCaller tenthOffered).run cartStore
      with ⟨f | r, s'⟩
    · rw [hrun] at hreturned
      cases hreturned
    · rw [hrun] at hcalled
      have hcalled : s'.handlerCalls ≠ cartStore.handlerCalls := by
        intro hsame
        rw [hsame] at hcalled
        exact absurd hcalled (by decide)
      obtain ⟨c, ctx, percent, amount, actionId, row, hoffer, hrow, hrecorded, hamount, hbounded⟩ :=
        hiff.2.1 _ _ _ _ _ _ hrun (by decide) hcalled
      obtain ⟨rfl, hmax, hbudget, htenth⟩ := hoffer.tenth
      obtain rfl := Option.some.inj (hamount.symm.trans htenth)
      obtain ⟨verdict, hverdict, hpermits⟩ := hoffer.allowed
      have hroom := hiff.2.2 ctx (.finite 10) verdict 500000 hverdict hpermits
        (by rw [hbudget]; decide +kernel) (by norm_num) (by decide +kernel)
      exact ⟨r, s', rfl, c, ctx, actionId, row, hoffer, hrow, hrecorded,
        (hbounded 10 hmax (by norm_num)).mpr ⟨by decide +kernel, hroom⟩⟩

end ReviveX
