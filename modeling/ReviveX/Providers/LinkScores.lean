import ReviveX.Lib.Totals
import ReviveX.Providers.ScoreTheorems

/-!
# The scores of a link and of doing nothing in closed form

The factors that the two scores read are arithmetic of the context's numbers: the rates have six
digits, the penalty on attempts has three, and only the age of a cart makes the context round. So
the score of a link reaches a mark above zero exactly where the penalty on attempts leaves room
for the mark in what the link has after the cart.
-/

namespace ReviveX

open Lib (Decimal)
open Lib.Decimal (add? minus? mul? div? min? gt? ofExact roundHalfEven rounded Exact Within
  exact_digits exact_zero ofExact_finite)

namespace InterventionContext

/-! ## Arithmetic of a context -/

/-- The success rate, rounded to six digits. -/
def successShare (context : InterventionContext) : ℚ :=
  (Decimal.number? (some context.success)).getD 0

/-- The recovery rate, rounded to six digits. -/
def recoveryShare (context : InterventionContext) : ℚ :=
  (Decimal.number? (some context.priorRecovery)).getD 0

/-- Eight messages tire a customer out. -/
def fatigueShare (context : InterventionContext) : ℚ :=
  min 1 ((max context.communicationCount 0 : ℤ) / 8)

/-- What the age of the cart takes off: 0.28 a month, and no more. -/
def cartPenalty (context : InterventionContext) : ℚ :=
  match context.cartAgeHours with
  | none => 0
  | some age =>
    match age.number with
    | .finite hours => min (28 / 100) (rounded (28 / 100 * rounded (max hours 0 / 720)))
    | .infinity negative => if negative then 0 else 28 / 100
    | .nan => 0

/-- What every attempt after the first takes off. -/
def attemptPenalty (context : InterventionContext) : ℚ :=
  45 / 1000 * (max context.attemptNumber 1 - 1 : ℤ)

/-- What doing nothing scores. -/
def organicShare (context : InterventionContext) : ℚ :=
  let share := 25 / 1000 + 6 / 100 * context.successShare - 15 / 1000 * context.fatigueShare
  if context.abandoned then rounded (share - rounded (5 / 10 * context.cartPenalty)) else share

/-- What doing nothing scores, in ten-thousandths. -/
def organicPoints (context : InterventionContext) : ℤ :=
  roundHalfEven (context.organicShare * 10 ^ 4)

/-- What a link has after the cart. -/
def linkLeft (context : InterventionContext) : ℚ :=
  rounded (18 / 100 + 20 / 100 * context.successShare + 8 / 100 * context.recoveryShare -
    context.cartPenalty)

/-- What a link scores before the penalty on attempts. -/
def linkLead (context : InterventionContext) : ℚ :=
  context.linkLeft + if context.abandoned then 6 / 100 else 0

/-! ## Factors -/

/-- The factors that the two scores read. A penalty on attempts of 28 digits and more may be
rounded. -/
structure ClosedFactors (context : InterventionContext) (f : InterventionFactors) : Prop where
  successDigits : ∃ m : ℤ, 0 ≤ m ∧ m ≤ 10 ^ 6 ∧ context.successShare = m / 10 ^ 6
  recoveryDigits : ∃ m : ℤ, 0 ≤ m ∧ m ≤ 10 ^ 6 ∧ context.recoveryShare = m / 10 ^ 6
  success : f.success = .finite context.successShare
  loyalty : f.loyalty =
    .finite (12 / 100 * context.successShare + 8 / 100 * context.recoveryShare)
  fatigue : f.fatigue = .finite context.fatigueShare
  cartPen : f.cartPen = .finite context.cartPenalty
  attemptPen : ∃ a, f.attemptPen = .finite a ∧
    (a = context.attemptPenalty ∨ 1 ≤ a ∧ 1 ≤ context.attemptPenalty)

variable {context : InterventionContext} {f : InterventionFactors}

/-- What `_dec` leaves of a rate, in millionths. -/
theorem dec_rate_digits {d : Decimal} (h : d ≠ .nan) :
    ∃ m : ℤ, 0 ≤ m ∧ m ≤ 10 ^ 6 ∧ dec (clampRate d) = .finite (m / 10 ^ 6) := by
  have hround : ∀ q : ℚ, 0 ≤ q → q ≤ 1 →
      ∃ m : ℤ, 0 ≤ m ∧ m ≤ 10 ^ 6 ∧ dec (.finite q) = .finite (m / 10 ^ 6) := by
    intro q hlow hhigh
    refine ⟨roundHalfEven (q * 10 ^ 6), ?_, ?_, rfl⟩
    · exact Decimal.le_roundHalfEven (by push_cast; positivity)
    · exact Decimal.roundHalfEven_le (by push_cast; linarith)
  cases d with
  | nan => exact absurd rfl h
  | finite q => exact hround _ (le_min (le_max_right _ _) zero_le_one) (min_le_right _ _)
  | infinity negative =>
    cases negative with
    | true => exact hround 0 le_rfl zero_le_one
    | false => exact hround 1 zero_le_one le_rfl

/-- Two shares of rates and their sum are exact. -/
theorem ofExact_shares {a b : ℤ} {m n : ℤ} (ha : 0 ≤ a ∧ a ≤ 100) (hb : 0 ≤ b ∧ b ≤ 100)
    (hm : 0 ≤ m ∧ m ≤ 10 ^ 6) (hn : 0 ≤ n ∧ n ≤ 10 ^ 6) (c : ℤ) (hc : 0 ≤ c ∧ c ≤ 100) :
    ofExact ((c : ℚ) / 100 + (a : ℚ) / 100 * (m / 10 ^ 6) + (b : ℚ) / 100 * (n / 10 ^ 6)) =
      some (.finite ((c : ℚ) / 100 + (a : ℚ) / 100 * (m / 10 ^ 6) +
        (b : ℚ) / 100 * (n / 10 ^ 6))) := by
  have hdigits : (c : ℚ) / 100 + (a : ℚ) / 100 * (m / 10 ^ 6) + (b : ℚ) / 100 * (n / 10 ^ 6) =
      ((c * 10 ^ 6 + a * m + b * n : ℤ) : ℚ) / 10 ^ 8 := by
    push_cast
    ring
  have ham : a * m ≤ 100 * 10 ^ 6 := by nlinarith
  have hbn : b * n ≤ 100 * 10 ^ 6 := by nlinarith
  have ham0 : 0 ≤ a * m := mul_nonneg ha.1 hm.1
  have hbn0 : 0 ≤ b * n := mul_nonneg hb.1 hn.1
  rw [hdigits]
  refine Decimal.ofExact_digits 8 ?_
  rw [abs_lt]
  omega

theorem fatigue_closed {d : Decimal} (h : context.fatigue = some d) :
    d = .finite context.fatigueShare := by
  obtain ⟨share, hshare, h⟩ := Option.bind_eq_some_iff.mp h
  obtain ⟨share, rfl⟩ := ofExact_finite hshare
  rw [Decimal.min?_finite] at h
  obtain rfl := Option.some.inj h
  unfold fatigueShare
  set count := max context.communicationCount 0 with hcount
  have hshare' : ofExact ((count : ℚ) / 8) = some (.finite share) := hshare
  by_cases hfew : count < 8
  · -- eighths have three digits
    have hnonneg : 0 ≤ count := le_max_right _ _
    have hdigits : (count : ℚ) / 8 = ((125 * count : ℤ) : ℚ) / 10 ^ 3 := by
      push_cast
      ring
    have hexact : ofExact ((count : ℚ) / 8) = some (.finite ((count : ℚ) / 8)) := by
      rw [hdigits]
      refine Decimal.ofExact_digits 3 ?_
      rw [abs_lt]
      omega
    rw [Decimal.finite.inj (Option.some.inj (hshare'.symm.trans hexact))]
  · have hmany : (8 : ℚ) ≤ count := by exact_mod_cast not_lt.mp hfew
    have hone : 1 ≤ (count : ℚ) / 8 := by linarith
    have hone' : 1 ≤ share := Decimal.exact_one.le_ofExact hone hshare'
    rw [min_eq_left hone, min_eq_left hone']

theorem cartPen_closed {d : Decimal} (h : context.cartPen = some d) :
    d = .finite context.cartPenalty := by
  unfold cartPen at h
  unfold cartPenalty
  cases hage : context.cartAgeHours with
  | none =>
    rw [hage] at h
    exact (Option.some.inj h).symm
  | some age =>
    rw [hage] at h
    obtain ⟨months, hmonths, h⟩ := Option.bind_eq_some_iff.mp h
    obtain ⟨scaled, hscaled, h⟩ := Option.bind_eq_some_iff.mp h
    dsimp only
    cases hnumber : age.number with
    | nan =>
      rw [hnumber] at hmonths
      obtain rfl := Option.some.inj hmonths
      obtain rfl := Option.some.inj hscaled
      cases h
    | finite hours =>
      rw [hnumber] at hmonths
      obtain ⟨months, rfl⟩ := ofExact_finite hmonths
      obtain ⟨scaled, rfl⟩ := ofExact_finite hscaled
      rw [Decimal.min?_finite] at h
      rw [← Option.some.inj h, Decimal.eq_rounded hscaled, Decimal.eq_rounded hmonths]
    | infinity negative =>
      rw [hnumber] at hmonths
      cases negative with
      | true =>
        have hdiv : ofExact (0 / 720) = some months := hmonths
        rw [zero_div, Decimal.ofExact_zero] at hdiv
        obtain rfl := Option.some.inj hdiv
        have hmul : ofExact (28 / 100 * 0) = some scaled := hscaled
        rw [mul_zero, Decimal.ofExact_zero] at hmul
        obtain rfl := Option.some.inj hmul
        rw [Decimal.min?_finite] at h
        rw [← Option.some.inj h]
        norm_num
      | false =>
        have hdiv : some (Decimal.infinity (false ^^ decide ((720 : ℚ) < 0))) = some months :=
          hmonths
        rw [decide_eq_false (by norm_num)] at hdiv
        obtain rfl := Option.some.inj hdiv
        dsimp only [mul?] at hscaled
        rw [if_neg (by norm_num), decide_eq_false (by norm_num)] at hscaled
        obtain rfl := Option.some.inj hscaled
        exact (Option.some.inj h).symm

theorem attemptPen_closed {d : Decimal} (h : context.attemptPen = some d) :
    ∃ a, d = .finite a ∧ (a = context.attemptPenalty ∨ 1 ≤ a ∧ 1 ≤ context.attemptPenalty) := by
  have hcount : max (max context.attemptNumber 1 - 1) 0 = max context.attemptNumber 1 - 1 := by
    omega
  unfold attemptPen at h
  rw [hcount] at h
  unfold attemptPenalty
  set count := max context.attemptNumber 1 - 1 with hattempts
  have hnonneg : 0 ≤ count := by omega
  have hexact : ofExact (45 / 1000 * (count : ℚ)) = some d := h
  obtain ⟨a, rfl⟩ := ofExact_finite hexact
  refine ⟨a, rfl, ?_⟩
  by_cases hfew : count < 10 ^ 25
  · have hdigits : 45 / 1000 * (count : ℚ) = ((45 * count : ℤ) : ℚ) / 10 ^ 3 := by
      push_cast
      ring
    have hdigits' : ofExact (45 / 1000 * (count : ℚ)) =
        some (.finite (45 / 1000 * (count : ℚ))) := by
      rw [hdigits]
      refine Decimal.ofExact_digits 3 ?_
      rw [abs_lt]
      omega
    exact .inl (Decimal.finite.inj (Option.some.inj (hexact.symm.trans hdigits')))
  · have hmany : (10 ^ 25 : ℚ) ≤ count := by exact_mod_cast not_lt.mp hfew
    have hone : 1 ≤ 45 / 1000 * (count : ℚ) := by linarith
    exact .inr ⟨Decimal.exact_one.le_ofExact hone hexact, hone⟩

theorem factors_closed (h : context.factors = some f)
    (hsuccess : context.historicalSuccessRate ≠ .nan)
    (hrecovery : context.historicalRecoveryRate ≠ .nan) : context.ClosedFactors f := by
  obtain ⟨-, hloyalty, hfatigue, hcart, hattempt, -, hrate⟩ := factors_eq_some h
  obtain ⟨m, hm0, hm1, hm⟩ := dec_rate_digits hsuccess
  obtain ⟨n, hn0, hn1, hn⟩ := dec_rate_digits hrecovery
  have hs : context.success = .finite (m / 10 ^ 6) := hm
  have hr : context.priorRecovery = .finite (n / 10 ^ 6) := hn
  have hshare : context.successShare = m / 10 ^ 6 := by
    unfold successShare
    rw [hs]
    rfl
  have hshare' : context.recoveryShare = n / 10 ^ 6 := by
    unfold recoveryShare
    rw [hr]
    rfl
  refine ⟨⟨m, hm0, hm1, hshare⟩, ⟨n, hn0, hn1, hshare'⟩, ?_, ?_, fatigue_closed hfatigue,
    cartPen_closed hcart, attemptPen_closed hattempt⟩
  · rw [← hrate, hs, hshare]
  · have hbySuccess := ofExact_shares (a := 12) (b := 0) (m := m) (n := 0) (by norm_num)
      (by norm_num) ⟨hm0, hm1⟩ (by norm_num) 0 (by norm_num)
    have hbyRecovery := ofExact_shares (a := 0) (b := 8) (m := 0) (n := n) (by norm_num)
      (by norm_num) (by norm_num) ⟨hn0, hn1⟩ 0 (by norm_num)
    have hboth := ofExact_shares (a := 12) (b := 8) (m := m) (n := n) (by norm_num)
      (by norm_num) ⟨hm0, hm1⟩ ⟨hn0, hn1⟩ 0 (by norm_num)
    norm_num at hbySuccess hbyRecovery hboth
    unfold loyalty at hloyalty
    rw [hs, hr] at hloyalty
    norm_num at hloyalty
    rw [hbySuccess] at hloyalty
    norm_num at hloyalty
    rw [hbyRecovery] at hloyalty
    norm_num at hloyalty
    rw [hboth] at hloyalty
    rw [hshare, hshare']
    norm_num
    exact (Option.some.inj hloyalty).symm

/-! ## Scores -/

/-- What a link has left after the cart, and its plain score. -/
theorem plainLinkScore_closed (h : context.ClosedFactors f) {plain : ℚ}
    (hplain : f.plainLinkScore = some (.finite plain)) :
    ∃ a, (a = context.attemptPenalty ∨ 1 ≤ a ∧ 1 ≤ context.attemptPenalty) ∧
      ofExact (context.linkLeft - a) = some (.finite plain) := by
  obtain ⟨m, hm0, hm1, hm⟩ := h.successDigits
  obtain ⟨n, hn0, hn1, hn⟩ := h.recoveryDigits
  obtain ⟨a, ha, hpenalty⟩ := h.attemptPen
  refine ⟨a, hpenalty, ?_⟩
  have hbase := ofExact_shares (a := 12) (b := 8) (m := m) (n := n) (by norm_num) (by norm_num)
    ⟨hm0, hm1⟩ ⟨hn0, hn1⟩ 18 (by norm_num)
  have hbySuccess := ofExact_shares (a := 8) (b := 0) (m := m) (n := 0) (by norm_num)
    (by norm_num) ⟨hm0, hm1⟩ (by norm_num) 0 (by norm_num)
  have hlead := ofExact_shares (a := 20) (b := 8) (m := m) (n := n) (by norm_num) (by norm_num)
    ⟨hm0, hm1⟩ ⟨hn0, hn1⟩ 18 (by norm_num)
  rw [← hm, ← hn] at hbase hlead
  rw [← hm] at hbySuccess
  push_cast at hbase hlead hbySuccess
  rw [zero_div, zero_add, zero_mul, add_zero] at hbySuccess
  unfold InterventionFactors.plainLinkScore at hplain
  rw [h.success, h.loyalty, h.cartPen, ha] at hplain
  obtain ⟨p, hp, hplain⟩ := Option.bind_eq_some_iff.mp hplain
  rw [Decimal.add?_finite, ← add_assoc, hbase] at hp
  obtain rfl := Option.some.inj hp
  obtain ⟨p, hp, hplain⟩ := Option.bind_eq_some_iff.mp hplain
  rw [Decimal.mul?_finite, hbySuccess] at hp
  obtain rfl := Option.some.inj hp
  obtain ⟨p, hp, hplain⟩ := Option.bind_eq_some_iff.mp hplain
  rw [Decimal.add?_finite] at hp
  have hsum : 18 / 100 + 12 / 100 * context.successShare + 8 / 100 * context.recoveryShare +
      8 / 100 * context.successShare =
      18 / 100 + 20 / 100 * context.successShare + 8 / 100 * context.recoveryShare := by
    ring
  rw [hsum, hlead] at hp
  obtain rfl := Option.some.inj hp
  obtain ⟨left, hleft, hplain⟩ := Option.bind_eq_some_iff.mp hplain
  rw [Decimal.minus?_finite] at hleft
  obtain ⟨left, rfl⟩ := ofExact_finite hleft
  rw [Decimal.minus?_finite, Decimal.eq_rounded hleft] at hplain
  exact hplain

/-- The fatigue has three digits. -/
theorem fatigueShare_digits (context : InterventionContext) :
    ∃ n : ℤ, 0 ≤ n ∧ n ≤ 1000 ∧ context.fatigueShare = n / 10 ^ 3 := by
  unfold fatigueShare
  have hnonneg : 0 ≤ max context.communicationCount 0 := le_max_right _ _
  generalize max context.communicationCount 0 = count at hnonneg
  by_cases hfew : count < 8
  · have hfew' : (count : ℚ) ≤ 8 := by exact_mod_cast hfew.le
    refine ⟨125 * count, by omega, by omega, ?_⟩
    rw [min_eq_right (by linarith)]
    push_cast
    ring
  · have hmany : (8 : ℚ) ≤ count := by exact_mod_cast not_lt.mp hfew
    refine ⟨1000, by norm_num, le_rfl, ?_⟩
    rw [min_eq_left (by linarith)]
    norm_num

theorem doNothingScore_closed (h : context.ClosedFactors f) {organic : ℚ}
    (horganic : f.doNothingScore context.abandoned = some (.finite organic)) :
    organic = context.organicShare := by
  obtain ⟨m, hm0, hm1, hm⟩ := h.successDigits
  obtain ⟨n, hn0, hn1, hn⟩ := context.fatigueShare_digits
  -- every step of the sum has eight digits at most, so none is rounded
  have hdigits : ∀ (q : ℚ) (k : ℤ), q = (k : ℚ) / 10 ^ 8 → |k| < 10 ^ 28 →
      ofExact q = some (.finite q) := fun q k hq hk => exact_digits k 8 hq hk
  have hbySuccess := hdigits (6 / 100 * context.successShare) (6 * m) (by rw [hm]; push_cast; ring)
    (by rw [abs_lt]; omega)
  have hbase := hdigits (25 / 1000 + 6 / 100 * context.successShare) (2500000 + 6 * m)
    (by rw [hm]; push_cast; ring) (by rw [abs_lt]; omega)
  have hbyFatigue := hdigits (15 / 1000 * context.fatigueShare) (1500 * n)
    (by rw [hn]; push_cast; ring) (by rw [abs_lt]; omega)
  have hshare := hdigits
    (25 / 1000 + 6 / 100 * context.successShare - 15 / 1000 * context.fatigueShare)
    (2500000 + 6 * m - 1500 * n) (by rw [hm, hn]; push_cast; ring) (by rw [abs_lt]; omega)
  unfold InterventionFactors.doNothingScore at horganic
  rw [h.success, h.fatigue, h.cartPen] at horganic
  obtain ⟨p, hp, horganic⟩ := Option.bind_eq_some_iff.mp horganic
  rw [Decimal.mul?_finite, hbySuccess] at hp
  obtain rfl := Option.some.inj hp
  obtain ⟨p, hp, horganic⟩ := Option.bind_eq_some_iff.mp horganic
  rw [Decimal.add?_finite, hbase] at hp
  obtain rfl := Option.some.inj hp
  obtain ⟨p, hp, horganic⟩ := Option.bind_eq_some_iff.mp horganic
  rw [Decimal.mul?_finite, hbyFatigue] at hp
  obtain rfl := Option.some.inj hp
  obtain ⟨p, hp, horganic⟩ := Option.bind_eq_some_iff.mp horganic
  rw [Decimal.minus?_finite, hshare] at hp
  obtain rfl := Option.some.inj hp
  unfold organicShare
  cases habandoned : context.abandoned with
  | false =>
    rw [habandoned] at horganic
    exact (Decimal.finite.inj (Option.some.inj horganic)).symm
  | true =>
    rw [habandoned] at horganic
    obtain ⟨p, hp, horganic⟩ := Option.bind_eq_some_iff.mp horganic
    rw [Decimal.mul?_finite] at hp
    obtain ⟨byAge, rfl⟩ := ofExact_finite hp
    rw [Decimal.minus?_finite, Decimal.eq_rounded hp] at horganic
    exact Decimal.eq_rounded horganic

/-! ## Digits after the cart -/

/-- A number of few enough digits after the point is exact. -/
theorem exact_of_abs {q : ℚ} {n : ℤ} (d : ℕ) (hq : q = n / 10 ^ d) (h : |q| * 10 ^ d < 10 ^ 28) :
    Exact q := by
  have hscale : (0 : ℚ) < 10 ^ d := by positivity
  refine exact_digits n d hq ?_
  rw [hq, abs_div, abs_of_pos hscale, div_mul_cancel₀ _ hscale.ne'] at h
  exact_mod_cast h

/-- A result from a tenth on has 28 digits after the point. -/
theorem rounded_tenth {q : ℚ} (hq : |q| < 10 ^ 100) (h : 1 / 10 ≤ rounded q) :
    ∃ n : ℤ, rounded q = n / 10 ^ 28 := by
  by_cases hlarge : 1 ≤ |q| * 10 ^ 1
  · exact Decimal.rounded_units hlarge
  · -- less than a tenth is rounded to a tenth at most
    have htenth : Exact (1 / 10) := exact_digits 1 1 (by norm_num) (by norm_num)
    have hbelow := (abs_lt.mp (by linarith : |q| < 1 / 10)).2
    have heq := le_antisymm (htenth.ofExact_le hbelow.le (Decimal.ofExact_eq_rounded hq)) h
    exact ⟨10 ^ 27, by rw [heq]; norm_num⟩

/-- Where the penalty on the cart is large, it has 28 digits after the point. -/
theorem cartPenalty_digits (hpenalty : 1 / 10 ≤ context.cartPenalty) :
    ∃ n : ℤ, context.cartPenalty = n / 10 ^ 28 := by
  have hcap : ∃ n : ℤ, (28 / 100 : ℚ) = n / 10 ^ 28 := ⟨28 * 10 ^ 26, by norm_num⟩
  revert hpenalty
  unfold cartPenalty
  cases context.cartAgeHours with
  | none => norm_num
  | some age =>
    dsimp only
    cases age.number with
    | nan => norm_num
    | infinity negative =>
      cases negative with
      | true => norm_num
      | false => exact fun _ => hcap
    | finite hours =>
      dsimp only
      rcases min_choice (28 / 100) (rounded (28 / 100 * rounded (max hours 0 / 720))) with
        hmin | hmin <;> rw [hmin] <;> intro hpenalty
      · exact hcap
      · by_cases hlarge : 1 ≤ |28 / 100 * rounded (max hours 0 / 720)| * 10 ^ 1
        · exact Decimal.rounded_units hlarge
        · exact rounded_tenth (by linarith) hpenalty

theorem cartPenalty_range (context : InterventionContext) :
    0 ≤ context.cartPenalty ∧ context.cartPenalty ≤ 28 / 100 := by
  unfold cartPenalty
  cases context.cartAgeHours with
  | none => norm_num
  | some age =>
    dsimp only
    cases age.number with
    | nan => norm_num
    | infinity negative => cases negative <;> norm_num
    | finite hours =>
      refine ⟨le_min (by norm_num) (Decimal.rounded_nonneg ?_), min_le_left _ _⟩
      exact mul_nonneg (by norm_num) (Decimal.rounded_nonneg (by positivity))

/-- What a link has left after the cart has 29 digits after the point, and 28 from a tenth on. -/
theorem linkLeft_digits (h : context.ClosedFactors f) :
    -(1 / 10) ≤ context.linkLeft ∧ context.linkLeft ≤ 46 / 100 ∧
      (∃ n : ℤ, context.linkLeft = n / 10 ^ 29) ∧
      (1 / 10 ≤ context.linkLeft → ∃ n : ℤ, context.linkLeft = n / 10 ^ 28) := by
  obtain ⟨m, hm0, hm1, hm⟩ := h.successDigits
  obtain ⟨n, hn0, hn1, hn⟩ := h.recoveryDigits
  obtain ⟨hcart0, hcart1⟩ := context.cartPenalty_range
  -- the two shares have six digits, so the lead has eight
  have hlead : 18 / 100 + 20 / 100 * context.successShare + 8 / 100 * context.recoveryShare =
      ((18000000 + 20 * m + 8 * n : ℤ) : ℚ) / 10 ^ 8 := by
    rw [hm, hn]
    push_cast
    ring
  have hlow : ((18000000 : ℤ) : ℚ) ≤ ((18000000 + 20 * m + 8 * n : ℤ) : ℚ) :=
    Int.cast_le.mpr (by omega)
  have hhigh : ((18000000 + 20 * m + 8 * n : ℤ) : ℚ) ≤ ((46000000 : ℤ) : ℚ) :=
    Int.cast_le.mpr (by omega)
  unfold linkLeft
  rw [hlead]
  generalize 18000000 + 20 * m + 8 * n = k at hlow hhigh
  have hlead0 : (18 : ℚ) / 100 ≤ k / 10 ^ 8 := by
    push_cast at hlow
    linarith
  have hlead1 : (k : ℚ) / 10 ^ 8 ≤ 46 / 100 := by
    push_cast at hhigh
    linarith
  have hrange : |(k : ℚ) / 10 ^ 8 - context.cartPenalty| < 10 ^ 100 := by
    rw [abs_lt]
    constructor <;> linarith
  have hresult := Decimal.ofExact_eq_rounded hrange
  have htenth' : Exact (-(1 / 10)) := exact_digits (-1) 1 (by norm_num) (by norm_num)
  have hcap : Exact (46 / 100) := exact_digits 46 2 (by norm_num) (by norm_num)
  refine ⟨htenth'.le_ofExact (by linarith) hresult, hcap.ofExact_le (by linarith) hresult, ?_, ?_⟩
  · -- from a hundredth on the rounding leaves 29 digits
    by_cases hlarge : 1 ≤ |(k : ℚ) / 10 ^ 8 - context.cartPenalty| * 10 ^ 2
    · exact Decimal.rounded_units hlarge
    · -- the cart has taken off a tenth and more, and its digits are the ones that are left
      have hnear := abs_lt.mp (by linarith :
        |(k : ℚ) / 10 ^ 8 - context.cartPenalty| < 1 / 100)
      obtain ⟨c, hc⟩ := @cartPenalty_digits context (by linarith)
      have hdigits : (k : ℚ) / 10 ^ 8 - context.cartPenalty =
          ((k * 10 ^ 20 - c : ℤ) : ℚ) / 10 ^ 28 := by
        rw [hc]
        push_cast
        ring
      have hsmall : |k * 10 ^ 20 - c| < 10 ^ 28 := by
        rw [hdigits] at hnear
        generalize k * 10 ^ 20 - c = left at hnear
        have hcast : |(left : ℚ)| < 10 ^ 28 := by
          rw [abs_lt]
          constructor <;> linarith [hnear.1, hnear.2]
        exact_mod_cast hcast
      refine ⟨10 * (k * 10 ^ 20 - c), ?_⟩
      rw [hdigits, Decimal.rounded_digits 28 hsmall]
      push_cast
      ring
  · exact rounded_tenth hrange

/-! ## Marks -/

theorem attemptPenalty_nonneg (context : InterventionContext) : 0 ≤ context.attemptPenalty := by
  have hcount : (0 : ℚ) ≤ (max context.attemptNumber 1 - 1 : ℤ) := by
    exact_mod_cast (by omega : 0 ≤ max context.attemptNumber 1 - 1)
  unfold attemptPenalty
  positivity

/-- The penalty on attempts has three digits after the point. -/
theorem attemptPenalty_digits (context : InterventionContext) (d : ℕ) :
    ∃ k : ℤ, context.attemptPenalty = k / 10 ^ (d + 3) := by
  refine ⟨45 * (max context.attemptNumber 1 - 1) * 10 ^ d, ?_⟩
  unfold attemptPenalty
  rw [pow_add, eq_div_iff (by positivity)]
  push_cast
  ring

/-- What the penalty leaves has the digits of the lead, unless it is far below nothing. -/
theorem exact_left_sub_penalty {left : ℚ} {n : ℤ} (hle : left ≤ 46 / 100)
    (hn : left = n / 10 ^ 29) (hdigits : 1 / 10 ≤ left → ∃ n : ℤ, left = n / 10 ^ 28)
    (hnear : -(1 / 10) < left - context.attemptPenalty) :
    Exact (left - context.attemptPenalty) := by
  have hnonneg := context.attemptPenalty_nonneg
  by_cases hlarge : 1 / 10 ≤ left - context.attemptPenalty
  · obtain ⟨n, hn⟩ := hdigits (by linarith)
    obtain ⟨k, hk⟩ := context.attemptPenalty_digits 25
    refine exact_of_abs (n := n - k) 28 (by rw [hn, hk]; push_cast; ring) ?_
    rw [abs_of_nonneg (by linarith)]
    linarith
  · obtain ⟨k, hk⟩ := context.attemptPenalty_digits 26
    refine exact_of_abs (n := n - k) 29 (by rw [hn, hk]; push_cast; ring) ?_
    have hsmall : |left - context.attemptPenalty| < 1 / 10 := by
      rw [abs_lt]
      constructor <;> linarith
    linarith

/-- A link reaches a mark between nothing and a tenth exactly where the penalty on attempts leaves
room for it: whatever the context rounds off there is not in reach of the mark. -/
theorem link_reaches (h : context.ClosedFactors f) {plain link mark : ℚ}
    (hplain : f.plainLinkScore = some (.finite plain))
    (hlink : InterventionFactors.withBonus (.finite plain) (6 / 100) context.abandoned =
      some (.finite link)) (hmark0 : 0 < mark) (hmark1 : mark < 1 / 10) :
    (mark < link ↔ context.attemptPenalty < context.linkLead - mark) ∧
      (link = mark ↔ context.attemptPenalty = context.linkLead - mark) := by
  obtain ⟨a, ha, hplain⟩ := plainLinkScore_closed h hplain
  obtain ⟨hleft0, hleft1, ⟨n, hn⟩, hdigits⟩ := linkLeft_digits h
  unfold linkLead
  generalize context.linkLeft = left at hplain hleft0 hleft1 hn hdigits
  have htenth : Exact (1 / 10) := exact_digits 1 1 (by norm_num) (by norm_num)
  by_cases hfar : left - context.attemptPenalty ≤ -(1 / 10)
  · -- far below nothing, where a bonus does not help
    have hplain0 : plain ≤ -(1 / 10) := by
      have hexact : Exact (-(1 / 10)) := exact_digits (-1) 1 (by norm_num) (by norm_num)
      refine hexact.ofExact_le ?_ hplain
      rcases ha with rfl | ⟨ha, -⟩
      · exact hfar
      · linarith
    cases habandoned : context.abandoned with
    | false =>
      rw [habandoned] at hlink
      obtain rfl : plain = link := Decimal.finite.inj (Option.some.inj hlink)
      simp only [Bool.false_eq_true, if_false]
      exact ⟨iff_of_false (by linarith) (by linarith), iff_of_false (by linarith) (by linarith)⟩
    | true =>
      rw [habandoned] at hlink
      have hexact : Exact (-(4 / 100)) := exact_digits (-4) 2 (by norm_num) (by norm_num)
      have hlink0 : link ≤ -(4 / 100) := hexact.ofExact_le (by linarith) hlink
      simp only [if_true]
      exact ⟨iff_of_false (by linarith) (by linarith), iff_of_false (by linarith) (by linarith)⟩
  · obtain rfl : a = context.attemptPenalty := by
      rcases ha with rfl | ⟨-, hlarge⟩
      · rfl
      · linarith
    -- near the mark the difference has at most 28 digits, so it is exact
    have hnonneg := context.attemptPenalty_nonneg
    have hdifference := exact_left_sub_penalty hleft1 hn hdigits (not_le.mp hfar)
    obtain rfl : left - context.attemptPenalty = plain :=
      Decimal.finite.inj (Option.some.inj (hdifference.symm.trans hplain))
    cases habandoned : context.abandoned with
    | false =>
      rw [habandoned] at hlink
      obtain rfl := Decimal.finite.inj (Option.some.inj hlink)
      simp only [Bool.false_eq_true, if_false]
      constructor <;> constructor <;> intro hmark <;> linarith
    | true =>
      rw [habandoned] at hlink
      have hlink' : ofExact (left - context.attemptPenalty + 6 / 100) = some (.finite link) := hlink
      simp only [if_true]
      by_cases hlarge : 1 / 10 ≤ left - context.attemptPenalty + 6 / 100
      · -- both are beyond the mark
        have hlink0 := htenth.le_ofExact hlarge hlink'
        exact ⟨iff_of_true (by linarith) (by linarith), iff_of_false (by linarith) (by linarith)⟩
      · obtain ⟨k, hk⟩ := context.attemptPenalty_digits 26
        have hsum : Exact (left - context.attemptPenalty + 6 / 100) := by
          refine exact_of_abs (n := n - k + 6 * 10 ^ 27) 29 (by rw [hn, hk]; push_cast; ring) ?_
          have hnear : |left - context.attemptPenalty + 6 / 100| < 1 / 10 := by
            rw [abs_lt]
            constructor <;> linarith
          linarith
        obtain rfl := Decimal.finite.inj (Option.some.inj (hsum.symm.trans hlink'))
        constructor <;> constructor <;> intro hmark <;> linarith

end InterventionContext

end ReviveX
