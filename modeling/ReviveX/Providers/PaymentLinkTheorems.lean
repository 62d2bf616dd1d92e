import ReviveX.Eval.BatchComparison
import ReviveX.Providers.InterventionTheorems
import ReviveX.Providers.LinkScores

/-!
# A payment link against doing nothing

On one draw, a case should recover under a payment link whenever it recovers on its own. The
score of a link carries the penalty on attempts, which grows without a bound, and the organic
score does not. So the link keeps its lead exactly where its failure reason has a formula without
that penalty, or up to a number of attempts that the rest of the context sets.
-/

namespace ReviveX

open Lib (Decimal)
open Lib.Decimal (add? minus? mul? ofExact roundHalfEven Exact Within exact_digits exact_zero
  exact_one within_some ofExact_finite)

namespace InterventionContext

/-! ## Recovery on a draw -/

/-- A case of the context recovers under an action on the next draw. -/
def Recovers (context : InterventionContext) (amount : ℚ) (action : RecoveryActionType)
    (rng : Random) : Prop :=
  ∃ recovered status rng',
    (simulateOutcome context amount action).run rng = (.ok (true, recovered, status), rng')

variable {context : InterventionContext} {amount : ℚ} {rng : Random}

theorem recovers_iff {action : RecoveryActionType} {q : ℚ}
    (h : interventionRecoveryProbability context action = some (.finite q)) :
    context.Recovers amount action rng ↔ rng.draws 0 < Lib.toBinary64 q := by
  have hrun : (simulateOutcome context amount action).run rng =
      (.ok (decide (rng.draws 0 < Lib.toBinary64 q),
        (if decide (rng.draws 0 < Lib.toBinary64 q) then amount else 0),
        settledStatus (decide (rng.draws 0 < Lib.toBinary64 q)) action), rng.next) := by
    unfold simulateOutcome
    rw [h]
    rfl
  unfold Recovers
  rw [hrun]
  constructor
  · intro hrecovers
    obtain ⟨recovered, status, rng', hresult⟩ := hrecovers
    exact of_decide_eq_true (congrArg Prod.fst (Except.ok.inj (congrArg Prod.fst hresult)))
  · intro hdraw
    rw [decide_eq_true hdraw]
    exact ⟨_, _, _, rfl⟩

/-! ## The lead of a link -/

/-- A link has at least the chance of doing nothing, and so recovers on the same draws. -/
def LinkNeverLowers (context : InterventionContext) : Prop :=
  ∃ link nothing, interventionRecoveryProbability context .sendPaymentLink = some (.finite link) ∧
    interventionRecoveryProbability context .doNothing = some (.finite nothing) ∧
    nothing ≤ link ∧
    ∀ (amount : ℚ) (rng : Random), context.Recovers amount .doNothing rng →
      context.Recovers amount .sendPaymentLink rng

/-- The failure reasons whose links do not carry the penalty on attempts. -/
def linkFormulas : List (Option FailureReason) :=
  [some .expiredCard, some .declined, some .temporaryBankError]

/-- No operation on the numbers of the context signals on the way to the chance of a link. -/
def Unsignalled (context : InterventionContext) : Prop :=
  (interventionRecoveryProbability context .sendPaymentLink).isSome = true

/-- The number of attempts at which a link has come down to what doing nothing scores: between
two ten-thousandths, where the rounding decides. -/
def attemptBound (context : InterventionContext) : ℚ :=
  1 + (context.linkLead - (context.organicPoints - 1 / 2) / 10 ^ 4) / (45 / 1000)

/-- The attempts have not used up what a link adds, or doing nothing scores nothing. At the bound,
the score of a link is rounded to an even ten-thousandth. -/
def AttemptsCovered (context : InterventionContext) : Prop :=
  context.organicPoints ≤ 0 ∨ (max context.attemptNumber 1 : ℤ) < context.attemptBound ∨
    (max context.attemptNumber 1 : ℤ) = context.attemptBound ∧ context.organicPoints % 2 = 0

/-- Either the failure reason takes the penalty on attempts out of the score of a link, or the
attempts are covered. -/
def LinkCovered (context : InterventionContext) : Prop :=
  neverCapture context.failureReason = true ∨ context.failureReason ∈ linkFormulas ∨
    context.AttemptsCovered

variable {f : InterventionFactors}

/-- The factors that the two scores read, wherever they are defined. -/
theorem linkFactors (h : context.factors = some f)
    (hsuccess : context.historicalSuccessRate ≠ .nan)
    (hrecovery : context.historicalRecoveryRate ≠ .nan) :
    Within 0 1 (some f.success) ∧ Within 0 (20 / 100) (some f.loyalty) ∧
      Within 0 1 (some f.fatigue) ∧ Within 0 (28 / 100) (some f.cartPen) ∧
      ∃ q, f.attemptPen = .finite q ∧ 0 ≤ q := by
  obtain ⟨-, hloyalty, hfatigue, hcart, hattempt, -, hrate⟩ := factors_eq_some h
  obtain ⟨success, hvalue, hbounds⟩ := isRate_dec hsuccess
  refine ⟨⟨success, ?_, hbounds⟩, ?_, ?_, ?_, attemptPen_range hattempt⟩
  · rw [← hrate]
    exact congrArg some hvalue
  · rw [← hloyalty]
    exact loyalty_within (isRate_dec hsuccess) (isRate_dec hrecovery)
  · obtain ⟨q, hq, hrange⟩ := fatigue_range hfatigue
    exact ⟨q, congrArg some hq, hrange⟩
  · obtain ⟨q, hq, hrange⟩ := cartPen_range hcart
    exact ⟨q, congrArg some hq, hrange⟩

/-- The plain score of a link: between 0.18 and 0.46, less the two penalties. -/
theorem plainLinkScore_eq {cartPen attemptPen : ℚ}
    (hsuccess : Within 0 1 (some f.success)) (hloyalty : Within 0 (20 / 100) (some f.loyalty))
    (hcart : f.cartPen = .finite cartPen) (hattempt : f.attemptPen = .finite attemptPen) :
    ∃ bonus, 18 / 100 ≤ bonus ∧ bonus ≤ 46 / 100 ∧
      f.plainLinkScore =
        minus? (.finite bonus) (.finite cartPen) >>= fun p => minus? p (.finite attemptPen) := by
  obtain ⟨success, hsuccess, hsuccess0, hsuccess1⟩ := hsuccess.value
  obtain ⟨loyalty, hloyalty, hloyalty0, hloyalty1⟩ := hloyalty.value
  have hlow : Exact (18 / 100) := exact_digits 18 2 (by norm_num) (by norm_num)
  have hmiddle : Exact (38 / 100) := exact_digits 38 2 (by norm_num) (by norm_num)
  have hhigh : Exact (46 / 100) := exact_digits 46 2 (by norm_num) (by norm_num)
  have height : Exact (8 / 100) := exact_digits 8 2 (by norm_num) (by norm_num)
  obtain ⟨base, hbase, hbase0, hbase1⟩ : Within (18 / 100) (38 / 100)
      (add? (.finite (18 / 100)) (.finite loyalty)) :=
    Decimal.within_ofExact hlow hmiddle (by linarith) (by linarith)
  obtain ⟨bySuccess, hby, hby0, hby1⟩ : Within 0 (8 / 100) (mul? (8 / 100) (.finite success)) :=
    Decimal.within_ofExact exact_zero height (by linarith) (by linarith)
  obtain ⟨bonus, hbonus, hbonus0, hbonus1⟩ : Within (18 / 100) (46 / 100)
      (add? (.finite base) (.finite bySuccess)) :=
    Decimal.within_ofExact hlow hhigh (by linarith) (by linarith)
  refine ⟨bonus, hbonus0, hbonus1, ?_⟩
  unfold InterventionFactors.plainLinkScore
  rw [hsuccess, hloyalty, hcart, hattempt, hbase, hby]
  simp only [Option.bind_eq_bind, Option.bind_some, hbonus]

/-- A plain score that is defined is a number. -/
theorem plainLinkScore_finite {d : Decimal} (hsuccess : Within 0 1 (some f.success))
    (hloyalty : Within 0 (20 / 100) (some f.loyalty))
    (hcart : Within 0 (28 / 100) (some f.cartPen))
    (hattempt : ∃ q, f.attemptPen = .finite q ∧ 0 ≤ q)
    (h : f.plainLinkScore = some d) : ∃ q, d = .finite q := by
  obtain ⟨cartPen, hcart, -⟩ := hcart.value
  obtain ⟨attemptPen, hattempt, -⟩ := hattempt
  obtain ⟨bonus, -, -, hscore⟩ := plainLinkScore_eq hsuccess hloyalty hcart hattempt
  rw [hscore] at h
  obtain ⟨left, hleft, h⟩ := Option.bind_eq_some_iff.mp h
  rw [Decimal.minus?_finite] at hleft
  obtain ⟨left, rfl⟩ := ofExact_finite hleft
  rw [Decimal.minus?_finite] at h
  exact ofExact_finite h

/-- A score with a bonus is a number when the score is. -/
theorem withBonus_finite {q bonus : ℚ} {applies : Bool} {d : Decimal}
    (h : InterventionFactors.withBonus (.finite q) bonus applies = some d) :
    ∃ r, d = .finite r := by
  cases applies with
  | true => exact ofExact_finite h
  | false => exact ⟨q, (Option.some.inj h).symm⟩

/-- Outside of the formulas of their own, a link has its plain score. -/
theorem linkScoreFor_plain {reason : Option FailureReason} (h : reason ∉ linkFormulas)
    (p : Decimal) : f.linkScoreFor reason p = some p := by
  cases reason with
  | none => rfl
  | some reason =>
    cases reason with
    | expiredCard => exact absurd (by decide) h
    | declined => exact absurd (by decide) h
    | temporaryBankError => exact absurd (by decide) h
    | insufficientFunds => rfl
    | networkTimeout => rfl
    | mandateFailure => rfl
    | customerCancelled => rfl
    | unknown => rfl

/-- A formula of its own leaves a link with at least a tenth. -/
theorem linkScoreFor_own (h : context.factors = some f)
    (hsuccess : Within 0 1 (some f.success)) (hloyalty : Within 0 (20 / 100) (some f.loyalty))
    (hcart : Within 0 (28 / 100) (some f.cartPen)) (hown : context.failureReason ∈ linkFormulas)
    (p : Decimal) : Within (1 / 10) 2 (f.linkScoreFor context.failureReason p) := by
  obtain ⟨hretry, -⟩ := factors_eq_some h
  cases hreason : context.failureReason with
  | none =>
    rw [hreason] at hown
    exact absurd hown (by decide)
  | some reason =>
    rw [hreason] at hown hretry
    cases reason with
    | expiredCard => exact InterventionFactors.expiredLink_within hsuccess hcart
    | declined => exact InterventionFactors.declinedLink_within hloyalty
    | temporaryBankError =>
      -- the chance of a capture has a floor of 0.05
      obtain ⟨q, hq, hlow, hhigh⟩ := wearingChance_range (by norm_num) hretry
      have hretry' : Within (5 / 100) (80 / 100) (some f.retryBase) :=
        ⟨q, congrArg some hq, hlow, hhigh⟩
      have hshare : Exact (2 / 100) := exact_digits 2 2 (by norm_num) (by norm_num)
      have hbank := InterventionFactors.bankLink_within hretry' hshare
        (exact_digits 10 2 (by norm_num) (by norm_num)) (by norm_num)
      exact hbank.mono (by norm_num) le_rfl
    | insufficientFunds => exact absurd hown (by decide)
    | networkTimeout => exact absurd hown (by decide)
    | mandateFailure => exact absurd hown (by decide)
    | customerCancelled => exact absurd hown (by decide)
    | unknown => exact absurd hown (by decide)

/-- The chance of an action from the factors of the context. -/
theorem interventionRecoveryProbability_of_factors (h : context.factors = some f)
    (action : RecoveryActionType) :
    interventionRecoveryProbability context action =
      if neverCapture context.failureReason then
        hardFailureProbability f context.failureReason action
      else context.score f action >>= fun p => clipProb p := by
  unfold interventionRecoveryProbability
  rw [h]
  rfl

/-- A link whose chance is no less recovers on every draw that the case recovers on by itself. -/
theorem linkNeverLowers_of_le {link nothing : ℚ}
    (hlink : interventionRecoveryProbability context .sendPaymentLink = some (.finite link))
    (hnothing : interventionRecoveryProbability context .doNothing = some (.finite nothing))
    (hle : nothing ≤ link) : context.LinkNeverLowers := by
  refine ⟨link, nothing, hlink, hnothing, hle, ?_⟩
  intro amount rng hrecovers
  obtain ⟨q, hq, hnonneg, -⟩ := interventionRecoveryProbability_range hnothing
  obtain rfl := Decimal.finite.inj hq
  have hdraw := (recovers_iff hnothing).mp hrecovers
  exact (recovers_iff hlink).mpr (hdraw.trans_le (Lib.toBinary64_mono hnonneg hle))

/-- After a hard failure, a link has no less than the chance of doing nothing. -/
theorem linkNeverLowers_of_hardFailure (h : context.factors = some f)
    (hsuccess : Within 0 1 (some f.success)) (hhard : neverCapture context.failureReason = true) :
    context.LinkNeverLowers := by
  have hchance := interventionRecoveryProbability_of_factors h
  simp only [hhard, if_true] at hchance
  have hnothing : interventionRecoveryProbability context .doNothing =
      some (.finite (1 / 100)) := hchance .doNothing
  by_cases hmandate : context.failureReason = some .mandateFailure
  · have hscore : Within (3 / 100) 2 (f.hardFailureScore (3 / 100) (5 / 100)) :=
      InterventionFactors.hardFailureScore_within hsuccess
        (exact_digits 3 2 (by norm_num) (by norm_num)) (by norm_num) (by norm_num) (by norm_num)
    obtain ⟨q, hq, hlow, -⟩ := hscore
    have hlink : interventionRecoveryProbability context .sendPaymentLink =
        some (.finite (clipped q)) := by
      rw [hchance]
      unfold hardFailureProbability
      dsimp only
      rw [if_pos hmandate, hq]
      exact clipProb_finite q
    refine linkNeverLowers_of_le hlink hnothing ?_
    have hcent : clipped (1 / 100) = 1 / 100 := by
      unfold clipped
      rw [show (1 / 100 * 10 ^ 4 : ℚ) = ((100 : ℤ) : ℚ) by norm_num,
        Decimal.roundHalfEven_intCast]
      norm_num
    rw [← hcent]
    refine (clipped_le_clipped_iff (by norm_num)).mpr (.inr ?_)
    exact Decimal.roundHalfEven_mono (by linarith)
  · have hlink : interventionRecoveryProbability context .sendPaymentLink =
        some (.finite (1 / 100)) := by
      rw [hchance]
      unfold hardFailureProbability
      dsimp only
      rw [if_neg hmandate]
    exact linkNeverLowers_of_le hlink hnothing le_rfl

/-- The chance of doing nothing, where no hard failure decides it. -/
theorem doNothing_chance (h : context.factors = some f)
    (hsoft : neverCapture context.failureReason = false) (hsuccess : Within 0 1 (some f.success))
    (hfatigue : Within 0 1 (some f.fatigue)) (hcart : Within 0 (28 / 100) (some f.cartPen)) :
    ∃ organic, f.doNothingScore context.abandoned = some (.finite organic) ∧
      organic ≤ 85 / 1000 ∧
      interventionRecoveryProbability context .doNothing = some (.finite (clipped organic)) := by
  obtain ⟨organic, horganic, -, hhigh⟩ :=
    InterventionFactors.doNothingScore_within context.abandoned hsuccess hfatigue hcart
  refine ⟨organic, horganic, hhigh, ?_⟩
  rw [interventionRecoveryProbability_of_factors h, hsoft]
  exact Option.bind_eq_some_iff.mpr ⟨_, horganic, clipProb_finite organic⟩

/-- The chance of a link, where no hard failure decides it. -/
theorem sendPaymentLink_chance (h : context.factors = some f)
    (hsoft : neverCapture context.failureReason = false) {p own score : ℚ}
    (hplain : f.plainLinkScore = some (.finite p))
    (hown : f.linkScoreFor context.failureReason (.finite p) = some (.finite own))
    (hbonus : InterventionFactors.withBonus (.finite own) (6 / 100) context.abandoned =
      some (.finite score)) :
    interventionRecoveryProbability context .sendPaymentLink =
      some (.finite (clipped score)) := by
  rw [interventionRecoveryProbability_of_factors h, hsoft]
  refine Option.bind_eq_some_iff.mpr ⟨.finite score, ?_, clipProb_finite score⟩
  exact Option.bind_eq_some_iff.mpr ⟨_, hplain, Option.bind_eq_some_iff.mpr ⟨_, hown, hbonus⟩⟩

/-! ## The bound on attempts -/

/-- Above nothing, a link scores what doing nothing does, at four decimals, exactly where the
attempts are covered. -/
theorem attemptsCovered_iff (h : context.ClosedFactors f) {plain link : ℚ}
    (hplain : f.plainLinkScore = some (.finite plain))
    (hlink : InterventionFactors.withBonus (.finite plain) (6 / 100) context.abandoned =
      some (.finite link)) (htop : context.organicShare ≤ 85 / 1000) :
    (context.organicPoints ≤ 0 ∨ context.organicPoints ≤ roundHalfEven (link * 10 ^ 4)) ↔
      context.AttemptsCovered := by
  unfold AttemptsCovered
  refine or_congr_right' fun hpositive => ?_
  have hlow : (1 : ℚ) ≤ context.organicPoints := by exact_mod_cast (by omega)
  have hhigh : (context.organicPoints : ℚ) ≤ 850 := by
    have hround : context.organicPoints ≤ 850 :=
      Decimal.roundHalfEven_le (by push_cast; linarith)
    exact_mod_cast hround
  set mark := (context.organicPoints - 1 / 2 : ℚ) / 10 ^ 4 with hmark
  obtain ⟨habove, hat⟩ :=
    @link_reaches context f h plain link mark hplain hlink (by linarith) (by linarith)
  have hattempt : context.attemptPenalty =
      45 / 1000 * ((max context.attemptNumber 1 : ℤ) - 1) := by
    unfold attemptPenalty
    push_cast
    rfl
  have hbound : context.attemptBound = 1 + (context.linkLead - mark) / (45 / 1000) := rfl
  rw [Decimal.le_roundHalfEven_iff, hbound]
  generalize ((max context.attemptNumber 1 : ℤ) : ℚ) = attempts at hattempt ⊢
  have hscale : (context.linkLead - mark) / (45 / 1000) * (45 / 1000) = context.linkLead - mark :=
    div_mul_cancel₀ _ (by norm_num)
  generalize (context.linkLead - mark) / (45 / 1000) = room at hscale ⊢
  refine or_congr ?_ (and_congr_left' ?_)
  · rw [show (context.organicPoints - 1 / 2 : ℚ) < link * 10 ^ 4 ↔ mark < link by
      constructor <;> intro hlt <;> linarith, habove, hattempt]
    constructor <;> intro hlt <;> linarith
  · rw [show link * 10 ^ 4 = (context.organicPoints - 1 / 2 : ℚ) ↔ link = mark by
      constructor <;> intro heq <;> linarith, hat, hattempt]
    constructor <;> intro heq <;> linarith

/-- The chance of a link that signals nothing, where no hard failure decides it and the reason has
no formula of its own. -/
theorem plainLink_chance (h : context.factors = some f)
    (hsoft : neverCapture context.failureReason = false)
    (hformula : context.failureReason ∉ linkFormulas)
    (hsuccess : Within 0 1 (some f.success)) (hloyalty : Within 0 (20 / 100) (some f.loyalty))
    (hcart : Within 0 (28 / 100) (some f.cartPen))
    (hattempt : ∃ q, f.attemptPen = .finite q ∧ 0 ≤ q) (hquiet : context.Unsignalled) :
    ∃ plain link, f.plainLinkScore = some (.finite plain) ∧
      InterventionFactors.withBonus (.finite plain) (6 / 100) context.abandoned =
        some (.finite link) ∧
      interventionRecoveryProbability context .sendPaymentLink =
        some (.finite (clipped link)) := by
  obtain ⟨chance, hchance⟩ := Option.isSome_iff_exists.mp hquiet
  have hscore := hchance
  rw [interventionRecoveryProbability_of_factors h, hsoft, if_neg (by decide)] at hscore
  obtain ⟨score, hscore, -⟩ := Option.bind_eq_some_iff.mp hscore
  obtain ⟨plain, hplain, hscore⟩ := Option.bind_eq_some_iff.mp hscore
  obtain ⟨own, hown, hbonus⟩ := Option.bind_eq_some_iff.mp hscore
  obtain ⟨plain, rfl⟩ := plainLinkScore_finite hsuccess hloyalty hcart hattempt hplain
  obtain rfl : own = .finite plain :=
    Option.some.inj (hown.symm.trans (linkScoreFor_plain hformula (.finite plain)))
  obtain ⟨link, rfl⟩ := withBonus_finite hbonus
  exact ⟨plain, link, hplain, hbonus, sendPaymentLink_chance h hsoft hplain hown hbonus⟩

/-- The factors of a context that signals nothing. -/
theorem Unsignalled.factors (h : context.Unsignalled) : ∃ f, context.factors = some f := by
  obtain ⟨chance, hchance⟩ := Option.isSome_iff_exists.mp h
  obtain ⟨f, hf, -⟩ := Option.bind_eq_some_iff.mp hchance
  exact ⟨f, hf⟩

theorem InRange.unsignalled (h : context.InRange) : context.Unsignalled := by
  obtain ⟨chance, hchance⟩ := interventionRecoveryProbability_isSome h .sendPaymentLink
  exact Option.isSome_iff_exists.mpr ⟨chance, hchance⟩

/-- Without a formula of its own, a link keeps the lead exactly where the attempts are covered. -/
theorem linkNeverLowers_iff_attemptsCovered (hsuccess : context.historicalSuccessRate ≠ .nan)
    (hrecovery : context.historicalRecoveryRate ≠ .nan) (hquiet : context.Unsignalled)
    (hsoft : neverCapture context.failureReason = false)
    (hformula : context.failureReason ∉ linkFormulas) :
    context.LinkNeverLowers ↔ context.AttemptsCovered := by
  obtain ⟨f, hf⟩ := hquiet.factors
  have hclosed := factors_closed hf hsuccess hrecovery
  obtain ⟨hsuccess, hloyalty, hfatigue, hcart, hattempt⟩ := linkFactors hf hsuccess hrecovery
  obtain ⟨organic, horganic, htop, hnothing⟩ := doNothing_chance hf hsoft hsuccess hfatigue hcart
  obtain rfl := doNothingScore_closed hclosed horganic
  obtain ⟨plain, link, hplain, hbonus, hlink⟩ :=
    plainLink_chance hf hsoft hformula hsuccess hloyalty hcart hattempt hquiet
  have hle := @clipped_le_clipped_iff context.organicShare link (by linarith)
  rw [← attemptsCovered_iff hclosed hplain hbonus htop]
  constructor
  · intro h
    obtain ⟨chance, nothing, hchance, hnothing', hlead, -⟩ := h
    obtain rfl := Decimal.finite.inj (Option.some.inj (hlink.symm.trans hchance))
    obtain rfl := Decimal.finite.inj (Option.some.inj (hnothing.symm.trans hnothing'))
    exact hle.mp hlead
  · exact fun h => linkNeverLowers_of_le hlink hnothing (hle.mpr h)

/-- A formula of its own keeps the lead: at least a tenth against 0.085 at most. -/
theorem linkNeverLowers_of_own (hsuccess : context.historicalSuccessRate ≠ .nan)
    (hrecovery : context.historicalRecoveryRate ≠ .nan) (hquiet : context.Unsignalled)
    (hsoft : neverCapture context.failureReason = false)
    (hown : context.failureReason ∈ linkFormulas) : context.LinkNeverLowers := by
  obtain ⟨f, hf⟩ := hquiet.factors
  obtain ⟨hsuccess, hloyalty, hfatigue, hcart, hattempt⟩ := linkFactors hf hsuccess hrecovery
  obtain ⟨organic, horganic, htop, hnothing⟩ := doNothing_chance hf hsoft hsuccess hfatigue hcart
  obtain ⟨chance, hchance⟩ := Option.isSome_iff_exists.mp hquiet
  rw [interventionRecoveryProbability_of_factors hf, hsoft, if_neg (by decide)] at hchance
  obtain ⟨score, hscore, -⟩ := Option.bind_eq_some_iff.mp hchance
  obtain ⟨plain, hplain, -⟩ := Option.bind_eq_some_iff.mp hscore
  obtain ⟨plain, rfl⟩ := plainLinkScore_finite hsuccess hloyalty hcart hattempt hplain
  obtain ⟨own, hscoreFor, hlow, hhigh⟩ :=
    linkScoreFor_own hf hsuccess hloyalty hcart hown (.finite plain)
  have hbonus : Within (1 / 10) 3
      (InterventionFactors.withBonus (.finite own) (6 / 100) context.abandoned) :=
    InterventionFactors.withBonus_within _ (exact_digits 1 1 (by norm_num) (by norm_num))
      (exact_digits 3 0 (by norm_num) (by norm_num)) hlow hhigh (by norm_num) (by norm_num)
  obtain ⟨link, hlink, hlink0, -⟩ := hbonus
  refine linkNeverLowers_of_le (sendPaymentLink_chance hf hsoft hplain hscoreFor hlink) hnothing ?_
  refine (clipped_le_clipped_iff (by linarith)).mpr (.inr ?_)
  exact Decimal.roundHalfEven_mono (by linarith)

/-- Where nothing signals, a link keeps the lead exactly where it is covered. -/
theorem linkNeverLowers_iff_covered (hsuccess : context.historicalSuccessRate ≠ .nan)
    (hrecovery : context.historicalRecoveryRate ≠ .nan) (hquiet : context.Unsignalled) :
    context.LinkNeverLowers ↔ context.LinkCovered := by
  unfold LinkCovered
  cases hsoft : neverCapture context.failureReason with
  | true =>
    obtain ⟨f, hf⟩ := hquiet.factors
    obtain ⟨hsuccess, -⟩ := linkFactors hf hsuccess hrecovery
    exact iff_of_true (linkNeverLowers_of_hardFailure hf hsuccess hsoft) (.inl rfl)
  | false =>
    by_cases hformula : context.failureReason ∈ linkFormulas
    · exact iff_of_true (linkNeverLowers_of_own hsuccess hrecovery hquiet hsoft hformula)
        (.inr (.inl hformula))
    · rw [linkNeverLowers_iff_attemptsCovered hsuccess hrecovery hquiet hsoft hformula]
      simp [hformula]

theorem LinkNeverLowers.unsignalled (h : context.LinkNeverLowers) : context.Unsignalled := by
  obtain ⟨link, nothing, hlink, -⟩ := h
  exact Option.isSome_iff_exists.mpr ⟨_, hlink⟩

/-! ## Few and many attempts -/

/-- What doing nothing scores is 0.085 at most, and 0.01 at least if nothing was abandoned. -/
theorem organicShare_bounds (hf : context.factors = some f)
    (hsuccess : context.historicalSuccessRate ≠ .nan)
    (hrecovery : context.historicalRecoveryRate ≠ .nan) :
    context.organicShare ≤ 85 / 1000 ∧
      (context.abandoned = false → 1 / 100 ≤ context.organicShare) := by
  have hclosed := factors_closed hf hsuccess hrecovery
  obtain ⟨hsuccess, -, hfatigue, hcart, -⟩ := linkFactors hf hsuccess hrecovery
  obtain ⟨organic, horganic, hlow, hhigh⟩ :=
    InterventionFactors.doNothingScore_bounds context.abandoned hsuccess hfatigue hcart
  obtain rfl := doNothingScore_closed hclosed horganic
  refine ⟨hhigh, fun habandoned => ?_⟩
  rwa [habandoned, if_neg (by decide)] at hlow

/-- Up to the third attempt, the attempts are covered wherever the age of a cart does not count. -/
theorem attemptsCovered_early (hf : context.factors = some f)
    (hsuccess : context.historicalSuccessRate ≠ .nan)
    (hrecovery : context.historicalRecoveryRate ≠ .nan) (hage : context.cartAgeHours = none)
    (hattempts : context.attemptNumber ≤ 3) : context.AttemptsCovered := by
  obtain ⟨htop, -⟩ := organicShare_bounds hf hsuccess hrecovery
  have hpoints : context.organicPoints ≤ 850 :=
    Decimal.roundHalfEven_le (by push_cast; linarith)
  have hpoints' : (context.organicPoints : ℚ) ≤ 850 := by exact_mod_cast hpoints
  have hlead : 18 / 100 ≤ context.linkLead := by
    have hclosed := factors_closed hf hsuccess hrecovery
    obtain ⟨m, hm0, hm1, hm⟩ := hclosed.successDigits
    obtain ⟨n, hn0, hn1, hn⟩ := hclosed.recoveryDigits
    have hm0' : (0 : ℚ) ≤ m := by exact_mod_cast hm0
    have hn0' : (0 : ℚ) ≤ n := by exact_mod_cast hn0
    have hm1' : (m : ℚ) ≤ 10 ^ 6 := by exact_mod_cast hm1
    have hn1' : (n : ℚ) ≤ 10 ^ 6 := by exact_mod_cast hn1
    have hcart : context.cartPenalty = 0 := by
      unfold cartPenalty
      rw [hage]
    have hleft : 18 / 100 ≤ context.linkLeft := by
      have hexact : Exact (18 / 100) := exact_digits 18 2 (by norm_num) (by norm_num)
      unfold linkLeft
      rw [hm, hn, hcart]
      refine hexact.le_ofExact (by linarith) (Decimal.ofExact_eq_rounded ?_)
      rw [abs_lt]
      constructor <;> linarith
    unfold linkLead
    split <;> linarith
  have hcount : ((max context.attemptNumber 1 : ℤ) : ℚ) ≤ 3 := by
    exact_mod_cast (by omega : max context.attemptNumber 1 ≤ 3)
  refine .inr (.inl ?_)
  unfold attemptBound
  have hroom : (2 : ℚ) < (context.linkLead - (context.organicPoints - 1 / 2) / 10 ^ 4) /
      (45 / 1000) := by
    rw [lt_div_iff₀ (by norm_num)]
    linarith
  linarith

/-- From the twelfth attempt on, the attempts of a case that was not abandoned are not covered. -/
theorem not_attemptsCovered_late (hf : context.factors = some f)
    (hsuccess : context.historicalSuccessRate ≠ .nan)
    (hrecovery : context.historicalRecoveryRate ≠ .nan) (habandoned : context.abandoned = false)
    (hattempts : 12 ≤ context.attemptNumber) : ¬ context.AttemptsCovered := by
  have hbottom := (organicShare_bounds hf hsuccess hrecovery).2 habandoned
  have hpoints : 100 ≤ context.organicPoints :=
    Decimal.le_roundHalfEven (by push_cast; linarith)
  have hpoints' : (100 : ℚ) ≤ context.organicPoints := by exact_mod_cast hpoints
  obtain ⟨-, hleft, -⟩ := linkLeft_digits (factors_closed hf hsuccess hrecovery)
  have hcount : (12 : ℚ) ≤ (max context.attemptNumber 1 : ℤ) := by
    exact_mod_cast (by omega : 12 ≤ max context.attemptNumber 1)
  have hbound : context.attemptBound < 12 := by
    unfold attemptBound linkLead
    rw [habandoned, if_neg (by decide)]
    have hroom : (context.linkLeft + 0 - (context.organicPoints - 1 / 2) / 10 ^ 4) /
        (45 / 1000) < 11 := by
      rw [div_lt_iff₀ (by norm_num)]
      linarith
    linarith
  intro h
  rcases h with hnothing | hbelow | ⟨hat, -⟩
  · omega
  · linarith
  · linarith

end InterventionContext

/-- A payment link never lowers the simulated chance of recovery, and recovers on every draw that
doing nothing recovers on, exactly where nothing signals and the link is covered. Nothing signals
on a context in range. -/
theorem linkNeverLowers_iff (context : InterventionContext)
    (hsuccess : IsRate context.historicalSuccessRate)
    (hrecovery : IsRate context.historicalRecoveryRate) :
    (context.LinkNeverLowers ↔ context.Unsignalled ∧ context.LinkCovered) ∧
      (context.InRange → context.Unsignalled) := by
  have hnumber : ∀ {d : Decimal}, IsRate d → d ≠ .nan := by
    intro d hrate
    obtain ⟨q, hq, -⟩ := hrate
    rw [hq]
    exact nofun
  have hiff := InterventionContext.linkNeverLowers_iff_covered (hnumber hsuccess)
    (hnumber hrecovery)
  refine ⟨⟨fun h => ?_, fun h => (hiff h.1).mpr h.2⟩, InterventionContext.InRange.unsignalled⟩
  exact ⟨h.unsignalled, (hiff h.unsignalled).mp h⟩

/-- The sixth attempt on a payment that failed for a lack of funds. -/
def sixthAttempt : InterventionContext :=
  { plainContext with failureReason := some .insufficientFunds, attemptNumber := 6 }

/-- On the second attempt a link is covered, on the sixth it is not. -/
theorem linkNeverLowers_iff_sixth :
    InterventionContext.LinkNeverLowers { sixthAttempt with attemptNumber := 2 } ∧
      ¬ sixthAttempt.LinkNeverLowers := by
  have hrate : IsRate (.finite 0) := ⟨0, rfl, le_rfl, zero_le_one⟩
  constructor
  · refine (linkNeverLowers_iff { sixthAttempt with attemptNumber := 2 } hrate hrate).1.mpr ⟨?_, ?_⟩
    · unfold InterventionContext.Unsignalled
      decide +kernel
    · unfold InterventionContext.LinkCovered InterventionContext.AttemptsCovered
      decide +kernel
  · intro h
    have hcovered := ((linkNeverLowers_iff sixthAttempt hrate hrate).1.mp h).2
    revert hcovered
    unfold InterventionContext.LinkCovered InterventionContext.AttemptsCovered
    decide +kernel

/-- By then a link has no chance left, and doing nothing still has one in forty. -/
theorem sixthAttempt_link_lowers :
    1 ≤ sixthAttempt.attemptNumber ∧ IsRate sixthAttempt.historicalSuccessRate ∧
      IsRate sixthAttempt.historicalRecoveryRate ∧
      interventionRecoveryProbability sixthAttempt .sendPaymentLink = some (.finite 0) ∧
      interventionRecoveryProbability sixthAttempt .doNothing = some (.finite (25 / 1000)) ∧
      ¬ sixthAttempt.LinkNeverLowers := by
  have hlink : interventionRecoveryProbability sixthAttempt .sendPaymentLink =
      some (.finite 0) := by decide +kernel
  have hnothing : interventionRecoveryProbability sixthAttempt .doNothing =
      some (.finite (25 / 1000)) := by decide +kernel
  refine ⟨by decide, ⟨0, rfl, le_rfl, zero_le_one⟩, ⟨0, rfl, le_rfl, zero_le_one⟩, hlink,
    hnothing, ?_⟩
  intro h
  obtain ⟨link, nothing, hlink', hnothing', hle, -⟩ := h
  obtain rfl := Decimal.finite.inj (Option.some.inj (hlink.symm.trans hlink'))
  obtain rfl := Decimal.finite.inj (Option.some.inj (hnothing.symm.trans hnothing'))
  norm_num at hle

end ReviveX
