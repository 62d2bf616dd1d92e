import ReviveX.Agents.PredictionTheorems
import ReviveX.Eval.DomainContext
import ReviveX.Eval.RegistryTheorems
import ReviveX.Providers.InterventionTheorems

/-!
# Every stored case has a probability

The context of a stored case passes the validation of its class and lies in the range of the
simulator's formulas, so the rules that stand in for a model have an answer for every action,
and with them the optimizer has a quote for every candidate.
-/

namespace ReviveX

open Lib (Decimal Session toBinary64 toBinary64_mono toBinary64_nonneg toBinary64_nonpos
  toBinary64_zero toBinary64_one toBinary64_idem)
open Lib.Decimal (over? gt?)

/-! ## Printed floats -/

/-- What `str` writes for a float that is not negative reads back as that float, and 0 and 1 are
written as they are. -/
structure DomainReader.PrintsFloats (reader : DomainReader) : Prop where
  reads : ∀ q : ℚ, 0 ≤ q → q ≤ 10 ^ 100 →
    ∃ r, (reader.print (toBinary64 q)).number = .finite r ∧ 0 ≤ r ∧ toBinary64 r = toBinary64 q
  zero : (reader.print 0).number = .finite 0
  one : (reader.print 1).number = .finite 1

section Printed

variable {reader : DomainReader}

theorem DomainReader.PrintsFloats.atLeast (h : reader.PrintsFloats) {q : ℚ} (hlow : 0 ≤ q)
    (hhigh : q ≤ 10 ^ 100) : atLeast 0 (reader.print (toBinary64 q)).number = true := by
  obtain ⟨r, hr, hpos, -⟩ := h.reads q hlow hhigh
  rw [hr]
  exact decide_eq_true hpos

/-- A probability is written as a probability. -/
theorem DomainReader.PrintsFloats.unit (h : reader.PrintsFloats) {q : ℚ} (hlow : 0 ≤ q)
    (hhigh : q ≤ 1) :
    ∃ r, (reader.print (toBinary64 q)).number = .finite r ∧ 0 ≤ r ∧ r ≤ 1 := by
  have hle : toBinary64 q ≤ 1 := by
    have hmono := toBinary64_mono hlow hhigh
    rwa [toBinary64_one] at hmono
  rcases hle.lt_or_eq with hlt | heq
  · obtain ⟨r, hr, hpos, hreads⟩ := h.reads q hlow (hhigh.trans (by norm_num))
    refine ⟨r, hr, hpos, ?_⟩
    by_contra hlarge
    -- a text above 1 would not read back as a float below 1
    have hmono := toBinary64_mono zero_le_one (not_le.mp hlarge).le
    rw [toBinary64_one, hreads] at hmono
    linarith
  · rw [heq]
    exact ⟨1, h.one, zero_le_one, le_rfl⟩

end Printed

/-! ## Numbers of a context -/

/-- A smallest unit of money is not lost. -/
theorem Money.float_pos {m : Money} (h : 0 < m) : 1 / 128 < m.float := by
  have hunit : (1 / 128 : ℚ) < toBinary64 (1 / 100) := by decide +kernel
  have hle : (1 / 100 : ℚ) ≤ m / 100 := by
    have : (1 : ℚ) ≤ m := by exact_mod_cast h
    linarith
  exact hunit.trans_le (toBinary64_mono (by norm_num) hle)

theorem rate_eq_some {part total : ℕ} {d : Decimal} (h : rate part total = some d) :
    0 < total ∧ d = .finite (toBinary64 (part / total)) := by
  unfold rate at h
  split at h
  · cases h
  · exact ⟨by omega, (Option.some.inj h).symm⟩

theorem rate_inUnit {part total : ℕ} (h : part ≤ total) :
    (rate part total).all inUnit = true := by
  rw [Option.all_eq_true]
  intro d hd
  obtain ⟨htotal, rfl⟩ := rate_eq_some hd
  have hpos : (0 : ℚ) < total := by exact_mod_cast htotal
  have hlow : (0 : ℚ) ≤ part / total := by positivity
  have hhigh : (part : ℚ) / total ≤ 1 := (div_le_one hpos).mpr (by exact_mod_cast h)
  have hmono := toBinary64_mono hlow hhigh
  rw [toBinary64_one] at hmono
  show (decide (0 ≤ toBinary64 (part / total)) && decide (toBinary64 (part / total) ≤ 1)) = true
  rw [decide_eq_true (toBinary64_nonneg hlow), decide_eq_true hmono]
  rfl

/-- A share grows with its part and falls with its whole, also once it is rounded. -/
theorem rate_le {part part' total total' : ℕ} {q q' : ℚ} (hpart : part ≤ part')
    (htotal : total' ≤ total) (h : rate part total = some (.finite q))
    (h' : rate part' total' = some (.finite q')) : q ≤ q' := by
  obtain ⟨hpos, hq⟩ := rate_eq_some h
  obtain ⟨hpos', hq'⟩ := rate_eq_some h'
  obtain rfl := Decimal.finite.inj hq
  obtain rfl := Decimal.finite.inj hq'
  apply toBinary64_mono (by positivity)
  apply div_le_div₀
  · positivity
  · exact_mod_cast hpart
  · exact_mod_cast hpos'
  · exact_mod_cast htotal

/-- An instant that a `datetime` can hold. -/
def IsInstant (t : Time) : Prop := -(10 ^ 18 : ℤ) ≤ t ∧ t ≤ (10 ^ 18 : ℤ)

/-- An elapsed time is a float that is not negative and not huge. -/
theorem elapsed_eq {unit : ℚ} {earlier later : Time} (hunit : 1 ≤ unit)
    (hearlier : IsInstant earlier) (hlater : IsInstant later) :
    ∃ q : ℚ, 0 ≤ q ∧ q ≤ 10 ^ 100 ∧ elapsed unit earlier later = toBinary64 q := by
  obtain ⟨hlow, hhigh⟩ := hearlier
  obtain ⟨hlow', hhigh'⟩ := hlater
  have hpos : 0 < unit := zero_lt_one.trans_le hunit
  unfold elapsed
  rcases le_total 0 (later - earlier) with hle | hle
  · have hseconds : (0 : ℚ) ≤ ((later - earlier : ℤ) : ℚ) / 10 ^ 6 :=
      div_nonneg (by exact_mod_cast hle) (by norm_num)
    have hbound : ((later - earlier : ℤ) : ℚ) / 10 ^ 6 ≤ 2 ^ 41 := by
      rw [div_le_iff₀ (by norm_num)]
      have hint : later - earlier ≤ 2 ^ 41 * 10 ^ 6 := by linarith
      exact_mod_cast hint
    have hfloat := toBinary64_mono hseconds hbound
    rw [show toBinary64 (2 ^ 41) = 2 ^ 41 by decide +kernel] at hfloat
    have hquotient := div_nonneg (toBinary64_nonneg hseconds) hpos.le
    refine ⟨_, hquotient, ?_, max_eq_left (toBinary64_nonneg hquotient)⟩
    calc toBinary64 (((later - earlier : ℤ) : ℚ) / 10 ^ 6) / unit
        ≤ toBinary64 (((later - earlier : ℤ) : ℚ) / 10 ^ 6) :=
          div_le_self (toBinary64_nonneg hseconds) hunit
      _ ≤ 2 ^ 41 := hfloat
      _ ≤ 10 ^ 100 := by norm_num
  · -- the later instant is the earlier one: nothing has elapsed
    have hseconds : ((later - earlier : ℤ) : ℚ) / 10 ^ 6 ≤ 0 :=
      div_nonpos_of_nonpos_of_nonneg (by exact_mod_cast hle) (by norm_num)
    have hquotient := div_nonpos_of_nonpos_of_nonneg (toBinary64_nonpos hseconds) hpos.le
    refine ⟨0, le_rfl, by norm_num, ?_⟩
    rw [toBinary64_zero]
    exact max_eq_right (toBinary64_nonpos hquotient)

/-! ## Contexts -/

/-- An amount that `NUMERIC(18, 2)` holds. -/
def Money.Fits (m : Money) : Prop := m < 10 ^ 18

theorem Money.Fits.le {m : Money} (h : m.Fits) : (m : ℚ) / 100 ≤ 10 ^ 100 := by
  have hle : (m : ℚ) ≤ 10 ^ 18 := by exact_mod_cast le_of_lt h
  linarith

/-- The tables hold no more than a database can, and so do the columns that a context reads. -/
structure DomainReader.Fits (reader : DomainReader) (s : Store) : Prop where
  payments : s.payments.rows.length < 2 ^ 63
  notifications : s.notifications.rows.length < 2 ^ 63
  capturedAt : ∀ p ∈ s.payments.rows, ∀ t ∈ p.capturedAt, IsInstant t
  sentAt : ∀ n ∈ s.notifications.rows, IsInstant n.createdAt
  abandonedAt : ∀ cartId, ∀ t ∈ reader.abandonedAt cartId, IsInstant t
  total : ∀ cart ∈ s.carts.rows, Money.Fits cart.total
  lifetimeValue : ∀ customer ∈ s.customers.rows, Money.Fits customer.lifetimeValue
  amountAtRisk : ∀ c ∈ s.cases.rows, Money.Fits c.amountAtRisk
  openedAt : ∀ c ∈ s.cases.rows, IsInstant c.openedAt

/-- The arguments come from columns. -/
structure DomainCase.Fits (args : DomainCase) : Prop where
  amount : args.amount.Fits
  lifetimeValue : ∀ value ∈ args.lifetimeValue, Money.Fits value
  openedAt : ∀ t ∈ args.openedAt, IsInstant t
  attemptNumber : args.attemptNumber < 2 ^ 63

section Context

variable {reader : DomainReader} {s : Store} {args : DomainCase}

theorem atLeast_printed_money (h : reader.PrintsFloats) {m : Money} (hm : m.Fits) :
    atLeast 0 (reader.print m.float).number = true :=
  h.atLeast (by positivity) hm.le

theorem atLeast_printed_elapsed (h : reader.PrintsFloats) {unit : ℚ} {earlier later : Time}
    (hunit : 1 ≤ unit) (hearlier : IsInstant earlier) (hlater : IsInstant later) :
    atLeast 0 (reader.print (elapsed unit earlier later)).number = true := by
  obtain ⟨q, hlow, hhigh, heq⟩ := elapsed_eq hunit hearlier hlater
  rw [heq]
  exact h.atLeast hlow hhigh

/-- What a context counts of a customer is in range. -/
structure CustomerCounts.Sound (reader : DomainReader) (counts : CustomerCounts) : Prop where
  success : counts.historicalSuccess.all inUnit = true
  recovery : counts.historicalRecovery.all inUnit = true
  recoveryLe : ∀ r q, counts.historicalRecovery = some (.finite r) →
    counts.historicalSuccess = some (.finite q) → r ≤ q
  failures : counts.priorFailures < 2 ^ 63
  comms : counts.comms < 2 ^ 63
  purchase : ∀ days ∈ counts.daysSincePurchase, atLeast 0 (reader.print days).number = true
  contact : ∀ days ∈ counts.daysContact, atLeast 0 (reader.print days).number = true

theorem CustomerCounts.Sound.empty : ({} : CustomerCounts).Sound reader where
  success := rfl
  recovery := rfl
  recoveryLe := nofun
  failures := by decide
  comms := by decide
  purchase := nofun
  contact := nofun

theorem mem_of_max? {times : List Time} {t : Time} (h : times.max? = some t) : t ∈ times :=
  (List.max?_eq_some_iff.mp h).1

/-- The days since the last of some instants. -/
theorem atLeast_printed_since (hprint : reader.PrintsFloats) {times : List Time}
    {openedAt : Option Time} (htimes : ∀ t ∈ times, IsInstant t)
    (hopened : ∀ t ∈ openedAt, IsInstant t) :
    ∀ days ∈ (times.max?.bind fun last => openedAt.bind fun opened =>
      some (elapsed 86400 last opened)), atLeast 0 (reader.print days).number = true := by
  intro days hdays
  obtain ⟨t, ht, hdays⟩ := Option.bind_eq_some_iff.mp hdays
  obtain ⟨opened, hopen, hdays⟩ := Option.bind_eq_some_iff.mp hdays
  obtain rfl := Option.some.inj hdays
  exact atLeast_printed_elapsed hprint (by norm_num) (htimes t (mem_of_max? ht))
    (hopened _ hopen)

theorem Store.customerCounts_sound (hprint : reader.PrintsFloats) (hfits : reader.Fits s)
    (merchantId customerId : ℕ) {openedAt : Option Time} (hopened : ∀ t ∈ openedAt, IsInstant t) :
    (s.customerCounts merchantId customerId openedAt).Sound reader := by
  have hpayments : (s.customerPayments merchantId customerId).length < 2 ^ 63 :=
    (List.length_filter_le _ _).trans_lt hfits.payments
  have hnotifications : (s.customerNotifications merchantId customerId).length < 2 ^ 63 :=
    (List.length_filter_le _ _).trans_lt hfits.notifications
  have hcaptured : ∀ p ∈ s.customerPayments merchantId customerId, ∀ t ∈ p.capturedAt,
      IsInstant t := fun p hp => hfits.capturedAt p (List.mem_of_mem_filter hp)
  have hsent : ∀ n ∈ s.customerNotifications merchantId customerId, IsInstant n.createdAt :=
    fun n hn => hfits.sentAt n (List.mem_of_mem_filter hn)
  unfold customerCounts
  generalize s.customerPayments merchantId customerId = payments at hpayments hcaptured
  generalize s.customerNotifications merchantId customerId = notifications at hnotifications hsent
  -- a payment that is captured at an instant is captured, and one that is captured has not failed
  have hpart : (payments.countP fun p => p.status = .captured && p.capturedAt.isSome) ≤
      payments.countP (·.status = .captured) := by
    apply List.countP_mono_left
    intro p _ hp
    exact (Bool.and_eq_true_iff.mp hp).1
  have hwhole : payments.countP (·.status = .captured) + payments.countP (·.status = .failed) ≤
      payments.length := by
    clear hpayments hcaptured hpart
    induction payments with
    | nil => exact le_rfl
    | cons p rest ih =>
      rw [List.countP_cons, List.countP_cons, List.length_cons]
      cases hstatus : p.status <;> simp <;> omega
  refine ⟨rate_inUnit (by omega), rate_inUnit (hpart.trans (by omega)), ?_, ?_, hnotifications,
    ?_, ?_⟩
  · intro r q hr hq
    exact rate_le hpart hwhole hr hq
  · show payments.countP (·.status = .failed) < 2 ^ 63
    omega
  · apply atLeast_printed_since hprint _ hopened
    intro t ht
    obtain ⟨p, hp, hpt⟩ := List.mem_filterMap.mp ht
    exact hcaptured p hp t hpt
  · apply atLeast_printed_since hprint _ hopened
    intro t ht
    obtain ⟨n, hn, rfl⟩ := List.mem_map.mp ht
    exact hsent n hn

variable (reader s args)

/-- The counts that a context is built from. -/
def contextCounts : CustomerCounts :=
  (args.customerId.map (s.customerCounts args.merchantId · args.openedAt)).getD {}

variable {reader s args}

theorem contextCounts_sound (hprint : reader.PrintsFloats) (hfits : reader.Fits s)
    (hargs : args.Fits) : (contextCounts s args).Sound reader := by
  unfold contextCounts
  cases args.customerId with
  | none => exact .empty
  | some customerId =>
    exact s.customerCounts_sound hprint hfits args.merchantId customerId hargs.openedAt

theorem hourOfDay_mem (t : Time) : 0 ≤ hourOfDay t ∧ hourOfDay t ≤ 23 := by
  unfold hourOfDay
  omega

theorem weekday_mem (t : Time) : 0 ≤ weekday t ∧ weekday t ≤ 6 := by
  unfold weekday
  omega

theorem failureReason_ne_empty (failureReason : Option String) :
    (failureReason.filter (· ≠ "")).getD "UNKNOWN" ≠ "" := by
  cases hreason : failureReason.filter (· ≠ "") with
  | none => decide
  | some reason =>
    have hne := (Option.filter_eq_some_iff.mp hreason).2
    exact of_decide_eq_true hne

/-- A context that is built from rows passes the validation. -/
theorem contextFields_accepted (hprint : reader.PrintsFloats) (hfits : reader.Fits s)
    (hargs : args.Fits) : (contextFields reader s args).accepted = true := by
  have hcounts := contextCounts_sound hprint hfits hargs
  have hcart : ∀ cart, (args.cartId.bind fun cartId => (s.carts.get? cartId).map (cartId, ·)) =
      some cart → Money.Fits cart.2.total := by
    intro cart hcart
    obtain ⟨cartId, -, hrow⟩ := Option.bind_eq_some_iff.mp hcart
    obtain ⟨row, hget, rfl⟩ := Option.map_eq_some_iff.mp hrow
    exact hfits.total row (List.mem_of_getElem? hget)
  unfold CaseContext.accepted
  simp only [Bool.and_eq_true, and_assoc]
  -- one check of the validation for each field that the context has, in the order of the source
  refine ⟨atLeast_printed_money hprint hargs.amount, ?_, ?_, hcounts.success, hcounts.recovery,
    ?_, ?_, ?_, ?_, ?_, ?_, rfl, ?_, ?_, ?_, ?_⟩
  · exact bne_iff_ne.mpr (failureReason_ne_empty _)
  · exact decide_eq_true (le_max_right _ _)
  · rw [Option.all_eq_true]
    intro value hvalue
    obtain ⟨m, hm, rfl⟩ := Option.map_eq_some_iff.mp hvalue
    exact atLeast_printed_money hprint (hargs.lifetimeValue m hm)
  · rw [Option.all_eq_true]
    intro days hdays
    obtain ⟨q, hq, rfl⟩ := Option.map_eq_some_iff.mp hdays
    exact hcounts.purchase q hq
  · rw [Option.all_eq_true]
    intro hours hhours
    obtain ⟨cart, -, hhours⟩ := Option.bind_eq_some_iff.mp hhours
    obtain ⟨abandoned, habandoned, hhours⟩ := Option.bind_eq_some_iff.mp hhours
    obtain ⟨opened, hopened, hhours⟩ := Option.bind_eq_some_iff.mp hhours
    obtain rfl := Option.some.inj hhours
    exact atLeast_printed_elapsed hprint (by norm_num)
      (hfits.abandonedAt cart.1 _ habandoned) (hargs.openedAt _ hopened)
  · rw [Option.all_eq_true]
    intro value hvalue
    obtain ⟨cart, hget, rfl⟩ := Option.map_eq_some_iff.mp hvalue
    exact atLeast_printed_money hprint (hcart cart hget)
  · exact decide_eq_true (Int.natCast_nonneg (contextCounts s args).comms)
  · rw [Option.all_eq_true]
    intro days hdays
    obtain ⟨q, hq, rfl⟩ := Option.map_eq_some_iff.mp hdays
    exact hcounts.contact q hq
  · rw [Option.all_eq_true]
    intro h hh
    obtain ⟨t, -, rfl⟩ := Option.map_eq_some_iff.mp hh
    exact decide_eq_true (hourOfDay_mem t)
  · rw [Option.all_eq_true]
    intro day hday
    obtain ⟨t, -, rfl⟩ := Option.map_eq_some_iff.mp hday
    exact decide_eq_true (weekday_mem t)
  · exact decide_eq_true (Int.natCast_nonneg (contextCounts s args).priorFailures)
  · exact decide_eq_true (Int.natCast_nonneg (contextCounts s args).priorCaptures)

/-- An amount that is not printed as zero is not printed as less than a smallest unit. -/
theorem le_printed_of_pos (hprint : reader.PrintsFloats) {value : Money} {v : ℚ}
    (hprinted : (reader.print value.float).number = .finite v)
    (hreads : toBinary64 v = value.float) (hv : 0 < v) : 1 / 128 ≤ v := by
  rcases Nat.eq_zero_or_pos value with hzero | hpos
  · -- zero is written as zero
    have hfloat : value.float = 0 := by
      unfold Money.float
      rw [hzero, Nat.cast_zero, zero_div, toBinary64_zero]
    rw [hfloat, hprint.zero] at hprinted
    exact absurd (Decimal.finite.inj hprinted) hv.ne
  · by_contra hlt
    have hmono := toBinary64_mono hv.le (not_le.mp hlt).le
    rw [hreads, show toBinary64 (1 / 128) = 1 / 128 by decide +kernel] at hmono
    exact absurd (Money.float_pos hpos) (not_lt.mpr hmono)

/-- The quotient of two amounts does not signal. -/
theorem over?_printed {amount value : Money} (hprint : reader.PrintsFloats) (hamount : amount.Fits)
    (hvalue : value.Fits)
    (hpositive : gt? (reader.print value.float).number (.finite 0) = some true) :
    ∃ d, over? (reader.print amount.float).number (reader.print value.float).number = some d ∧
      d ≠ .nan ∧ ∀ q, d = .finite q → 0 ≤ q := by
  obtain ⟨a, ha, ha0, -⟩ := hprint.reads (amount / 100) (by positivity) hamount.le
  obtain ⟨v, hv, hv0, hreads⟩ := hprint.reads (value / 100) (by positivity) hvalue.le
  have hlarge := (reader.print amount.float).abs_lt a ha
  have hprinted : (reader.print value.float).number = .finite v := hv
  have hprinted' : (reader.print amount.float).number = .finite a := ha
  rw [hprinted] at hpositive ⊢
  rw [hprinted']
  have hvpos : 0 < v := of_decide_eq_true (Option.some.inj hpositive)
  have hvlow : 1 / 128 ≤ v := le_printed_of_pos hprint hv hreads hvpos
  have hquotient : 0 ≤ a / v := div_nonneg ha0 hv0
  have hbound : a / v ≤ (128 : ℤ) * 10 ^ (309 : ℤ) := by
    rw [div_le_iff₀ hvpos]
    rw [abs_of_nonneg ha0] at hlarge
    have hpower : (10 : ℚ) ^ (309 : ℤ) = 10 ^ 309 := zpow_natCast 10 309
    rw [hpower]
    generalize (10 : ℚ) ^ 309 = power at hlarge ⊢
    push_cast
    nlinarith
  obtain ⟨d, hd, hlow, -⟩ := Decimal.ofExact_between Decimal.exact_zero
    (Decimal.exact_units 128 309 rfl (by norm_num) (by norm_num)) hquotient hbound
  refine ⟨.finite d, ?_, nofun, ?_⟩
  · show (if v = 0 then none else Decimal.ofExact (a / v)) = _
    rw [if_neg hvpos.ne', hd]
  · intro q hq
    obtain rfl := Decimal.finite.inj hq
    exact hlow

/-- Counts of rows are in the range of decimals. -/
theorem le_decimalLimit {n : ℤ} (h : n < 2 ^ 63) : n ≤ decimalLimit := by
  have hpower : (1 : ℚ) ≤ 10 ^ (999972 : ℤ) := one_le_zpow₀ (by norm_num) (by norm_num)
  have hlarge : ((2 ^ 63 : ℤ) : ℚ) ≤ decimalLimit := by
    rw [decimalLimit_cast]
    generalize (10 : ℚ) ^ (999972 : ℤ) = unit at hpower ⊢
    push_cast
    linarith
  have hle : (2 ^ 63 : ℤ) ≤ decimalLimit := by exact_mod_cast hlarge
  omega

theorem ne_nan_of_all_inUnit {d : Option Decimal} (h : d.all inUnit = true) :
    d.getD (.finite 0) ≠ .nan := by
  cases d with
  | none => nofun
  | some d =>
    rintro rfl
    cases h

theorem ne_nan_of_atLeast {low : ℚ} {d : Decimal} (h : atLeast low d = true) : d ≠ .nan := by
  rintro rfl
  cases h

/-- The rules that stand in for a model can be asked about the context. -/
theorem contextFields_inRange (hprint : reader.PrintsFloats) (hfits : reader.Fits s)
    (hargs : args.Fits) : (contextFields reader s args).intervention.InRange := by
  have hcounts := contextCounts_sound hprint hfits hargs
  have haccepted := contextFields_accepted hprint hfits hargs
  unfold CaseContext.accepted at haccepted
  simp only [Bool.and_eq_true, and_assoc] at haccepted
  obtain ⟨-, -, -, -, -, -, -, hage, -⟩ := haccepted
  have hlifetime : (contextFields reader s args).intervention.customerLifetimeValue =
      (args.lifetimeValue.map fun value => (reader.print value.float).number).getD
        (.finite 0) := by
    show ((args.lifetimeValue.map fun value => reader.print value.float).map
      (FloatText.number ·)).getD (.finite 0) = _
    rw [Option.map_map]
    rfl
  refine ⟨ne_nan_of_all_inUnit hcounts.success, ne_nan_of_all_inUnit hcounts.recovery, nofun, ?_,
    ?_, ?_, ?_, ?_, ?_⟩
  · intro hours hhours
    exact ne_nan_of_atLeast ((Option.all_eq_true _ _).mp hage hours hhours)
  · rw [hlifetime]
    cases hvalue : args.lifetimeValue with
    | none => nofun
    | some value =>
      exact ne_nan_of_atLeast (atLeast_printed_money hprint (hargs.lifetimeValue value hvalue))
  · rw [hlifetime]
    cases hvalue : args.lifetimeValue with
    | none => nofun
    | some value =>
      intro hpositive
      obtain ⟨d, hd, hnan, hlow⟩ :=
        over?_printed hprint hargs.amount (hargs.lifetimeValue value hvalue) hpositive
      refine ⟨d, hd, hnan, fun q hq => ?_⟩
      have hlarge := decimalLimit_ge
      have hq0 := hlow q hq
      linarith
  · show max args.attemptNumber 1 ≤ decimalLimit
    have hattempt := hargs.attemptNumber
    exact le_decimalLimit (by omega)
  · show ((contextCounts s args).priorFailures : ℤ) ≤ decimalLimit
    exact le_decimalLimit (by exact_mod_cast hcounts.failures)
  · show ((contextCounts s args).comms : ℤ) ≤ decimalLimit
    exact le_decimalLimit (by exact_mod_cast hcounts.comms)

end Context

/-! ## Answers -/

section Answers

variable {context : CaseContext} {action : RecoveryActionType}

variable (action) in
/-- The rules answer with a probability of at most 0.95. -/
theorem fallbackProbability_range (h : context.intervention.InRange) :
    ∃ q, fallbackProbability context action = some (.finite (toBinary64 q)) ∧ 0 ≤ q ∧
      q ≤ 95 / 100 := by
  obtain ⟨d, hd⟩ := interventionRecoveryProbability_isSome h action
  obtain ⟨q, rfl, hlow, hhigh⟩ := interventionRecoveryProbability_range hd
  refine ⟨q, ?_, hlow, hhigh⟩
  have hone := toBinary64_mono hlow (hhigh.trans (by norm_num : (95 / 100 : ℚ) ≤ 1))
  rw [toBinary64_one] at hone
  unfold fallbackProbability
  rw [hd, Option.map_some]
  show some (Decimal.finite (min (max (toBinary64 q) 0) 1)) = _
  rw [max_eq_left (toBinary64_nonneg hlow), min_eq_left hone]

theorem outsideUnit_eq_false {q : ℚ} : outsideUnit (.finite q) = false ↔ 0 ≤ q ∧ q ≤ 1 := by
  simp [outsideUnit, floatBelow, floatAbove]

variable (action) in
/-- The answer of the rules. -/
theorem fallback_answers (h : context.intervention.InRange) :
    ∃ q, ({ context, action } : PredictRequest).fallback = some {
        probability := .finite (toBinary64 q)
        modelVersion := fallbackVersion
        featureVersion := featureVersionText
        source := fallbackVersion } ∧ 0 ≤ q ∧ q ≤ 95 / 100 := by
  obtain ⟨q, hq, hlow, hhigh⟩ := fallbackProbability_range action h
  refine ⟨q, ?_, hlow, hhigh⟩
  have hone := toBinary64_mono hlow (hhigh.trans (by norm_num : (95 / 100 : ℚ) ≤ 1))
  rw [toBinary64_one] at hone
  have hinside := outsideUnit_eq_false.mpr ⟨toBinary64_nonneg hlow, hone⟩
  unfold PredictRequest.fallback
  simp [hq, hinside]

end Answers

/-! ## Quotes -/

section Quotes

variable {Model : Type} {reader : DomainReader} {kit : Toolkit Model CaseContext}
  {loaded : Option (LoadedBundle Model)} {context : CaseContext} {action : RecoveryActionType}

/-- A float that is not a NaN. -/
def IsNumber (d : Decimal) : Prop := d ≠ .nan ∧ ∀ q, d = .finite q → toBinary64 q = q

/-- A probability that a model or the rules answered becomes the probability that was scored. -/
theorem scored_of_answer (hprint : reader.PrintsFloats) {answer : PredictedProbability} {q : ℚ}
    (hanswer : answer.probability = .finite q) (hfloat : toBinary64 q = q) (hlow : 0 ≤ q)
    (hhigh : q ≤ 1) (haccepted : context.accepted = true)
    (h : predictRecoveryProbability kit loaded { context, action } = some answer) :
    ∃ text, 0 ≤ text ∧ text ≤ 1 ∧ defaultPredictor reader kit loaded context action = some {
      probability := { value := q, text }
      modelVersion := answer.modelVersion
      featureVersion := answer.featureVersion
      source := answer.source } := by
  obtain ⟨text, htext, hlow', hhigh'⟩ := hprint.unit hlow hhigh
  rw [hfloat] at htext
  refine ⟨text, hlow', hhigh', ?_⟩
  unfold defaultPredictor scoredOf
  simp [haccepted, h, hanswer, htext]

/-- There is no model, or the number it gives is no probability. -/
def OnRules (kit : Toolkit Model CaseContext) (loaded : Option (LoadedBundle Model))
    (context : CaseContext) (action : RecoveryActionType) : Prop :=
  ∀ bundle ∈ loaded, outsideUnit (kit.predictProba bundle.1 context action) = true

variable (action) in
/-- A valid request is answered with a float in the unit interval, unless the model answers a
NaN: with the model's number, or else by the rules. -/
theorem predictRecoveryProbability_answers (hrange : context.intervention.InRange)
    (hnumber : ∀ bundle ∈ loaded, IsNumber (kit.predictProba bundle.1 context action)) :
    ∃ answer p, predictRecoveryProbability kit loaded { context, action } = some answer ∧
      answer.probability = .finite p ∧ toBinary64 p = p ∧ 0 ≤ p ∧ p ≤ 1 ∧
      (OnRules kit loaded context action → answer.source = fallbackVersion ∧ p ≤ 95 / 100) ∧
      ∀ bundle ∈ loaded, outsideUnit (kit.predictProba bundle.1 context action) = false →
        kit.predictProba bundle.1 context action = .finite p := by
  obtain ⟨q, hfallback, hlow, hhigh⟩ := fallback_answers action hrange
  have hfloat_low := toBinary64_nonneg hlow
  have hfloat_high : toBinary64 q ≤ 95 / 100 :=
    (toBinary64_mono hlow hhigh).trans (by decide +kernel)
  have hfloat_one : toBinary64 q ≤ 1 := hfloat_high.trans (by norm_num)
  cases loaded with
  | none =>
    exact ⟨_, _, hfallback, rfl, toBinary64_idem q, hfloat_low, hfloat_one,
      fun _ => ⟨rfl, hfloat_high⟩, nofun⟩
  | some bundle =>
    obtain ⟨hnan, hfinite⟩ := hnumber bundle rfl
    unfold predictRecoveryProbability PredictRequest.answer
    dsimp only
    cases houtside : outsideUnit (kit.predictProba bundle.1 context action) with
    | true =>
      -- a number that is no probability is answered by the rules
      rw [if_pos rfl, hfallback]
      refine ⟨_, _, rfl, rfl, toBinary64_idem q, hfloat_low, hfloat_one,
        fun _ => ⟨rfl, hfloat_high⟩, fun bundle' hbundle' hinside => ?_⟩
      obtain rfl := Option.some.inj hbundle'
      cases houtside.symm.trans hinside
    | false =>
      rw [if_neg Bool.false_ne_true]
      cases hproba : kit.predictProba bundle.1 context action with
      | nan => exact absurd hproba hnan
      | infinity negative =>
        rw [hproba] at houtside
        cases negative <;> cases houtside
      | finite p =>
        rw [hproba] at houtside
        obtain ⟨hp, hp'⟩ := outsideUnit_eq_false.mp houtside
        refine ⟨_, p, rfl, rfl, hfinite p hproba, hp, hp', fun hrules => ?_,
          fun bundle' hbundle' _ => ?_⟩
        · have hrules := hrules bundle rfl
          rw [hproba, houtside] at hrules
          cases hrules
        · obtain rfl := Option.some.inj hbundle'
          exact hproba

variable (action) in
/-- The default predictor has a probability for every context in range, unless the model answers
a NaN. -/
theorem defaultPredictor_answers (hprint : reader.PrintsFloats)
    (haccepted : context.accepted = true) (hrange : context.intervention.InRange)
    (hnumber : ∀ bundle ∈ loaded, IsNumber (kit.predictProba bundle.1 context action)) :
    ∃ scored, defaultPredictor reader kit loaded context action = some scored ∧
      (0 ≤ scored.probability.value ∧ scored.probability.value ≤ 1) ∧
      (0 ≤ scored.probability.text ∧ scored.probability.text ≤ 1) ∧
      (OnRules kit loaded context action →
        scored.source = fallbackVersion ∧ scored.probability.value ≤ 95 / 100) ∧
      ∀ bundle ∈ loaded, outsideUnit (kit.predictProba bundle.1 context action) = false →
        kit.predictProba bundle.1 context action = .finite scored.probability.value := by
  obtain ⟨answer, p, hanswer, hproba, hfloat, hlow, hhigh, hrules, hmodel⟩ :=
    predictRecoveryProbability_answers action hrange hnumber
  obtain ⟨text, htext, htext', hscored⟩ :=
    scored_of_answer hprint hproba hfloat hlow hhigh haccepted hanswer
  exact ⟨_, hscored, ⟨hlow, hhigh⟩, ⟨htext, htext'⟩, hrules, hmodel⟩

/-- A probability that was scored is stored and quoted. -/
theorem refreshProbability_quotes {scored : RecoveryProbability}
    (hvalue : 0 ≤ scored.probability.value ∧ scored.probability.value ≤ 1)
    (htext : 0 ≤ scored.probability.text ∧ scored.probability.text ≤ 1)
    (rows : List ModelPrediction) (now : Time) (merchantId caseId : ℕ) (refreshed : Bool) :
    ∃ quote rows', (refreshProbability (.ok scored) now merchantId caseId action refreshed).run
      rows = (.ok quote, rows') := by
  obtain ⟨quote, hquote⟩ : ∃ quote,
      predict (.ok scored) now refreshed = .ok (quote, scored.probability) := by
    unfold predict probabilityToDecimal
    simp only [dif_pos htext]
    exact ⟨_, rfl⟩
  obtain ⟨rows', hpersist⟩ : ∃ rows', (persistPrediction now merchantId caseId action
      scored.probability.value quote.modelVersion quote.featureVersion
      (if quote.source = "MODEL" then "ml" else quote.source)).run rows = (.ok (), rows') := by
    unfold persistPrediction
    rw [dif_pos hvalue]
    exact ⟨_, rfl⟩
  refine ⟨quote, rows', ?_⟩
  unfold refreshProbability
  rw [hquote, Session.run_ofExcept_bind]
  exact Session.run_bind_ok hpersist _

/-- A probability has a quote, whatever predictions are stored. -/
theorem resolveProbability_returns {scored : RecoveryProbability}
    (hvalue : 0 ≤ scored.probability.value ∧ scored.probability.value ≤ 1)
    (htext : 0 ≤ scored.probability.text ∧ scored.probability.text ≤ 1)
    {source : PredictionSource} (hsource : source.probabilities = none)
    (rows : List ModelPrediction) (now : Time) (merchantId caseId : ℕ) :
    ∃ quote rows', (source.resolveProbability (.ok scored) now merchantId caseId action).run rows =
      (.ok (some quote), rows') := by
  have hrefresh : ∀ refreshed, ∃ quote rows',
      (some <$> refreshProbability (.ok scored) now merchantId caseId action refreshed).run rows =
        (.ok (some quote), rows') := by
    intro refreshed
    obtain ⟨quote, rows', hrun⟩ :=
      refreshProbability_quotes hvalue htext rows now merchantId caseId refreshed
    exact ⟨quote, rows', Session.run_bind_ok hrun _⟩
  unfold PredictionSource.resolveProbability
  rw [hsource]
  dsimp only
  rw [Session.run_get_bind]
  -- only a stored prediction that is fresh is quoted as it is
  cases loadCached rows caseId action now source.ttl with
  | none => exact hrefresh false
  | some cached =>
    dsimp only
    cases cached.stale with
    | true => exact hrefresh true
    | false => exact ⟨cached, rows, rfl⟩

/-- A quote is the fresh prediction that is stored, and where there is none the answer. -/
structure QuotesAnswer (source : PredictionSource) (rows : List ModelPrediction) (caseId : ℕ)
    (action : RecoveryActionType) (now : Time) (scored : RecoveryProbability)
    (quote : ProbabilityQuote) : Prop where
  stored : ∀ row, StoredFresh source rows caseId action now row →
    quote.probability = row.probability
  answered : (∀ row, ¬ StoredFresh source rows caseId action now row) →
    quote.probability.val = scored.probability.text

/-- A probability is quoted, unless a stored prediction is still fresh, which is quoted then. -/
theorem resolveProbability_quotes {scored : RecoveryProbability}
    (hvalue : 0 ≤ scored.probability.value ∧ scored.probability.value ≤ 1)
    (htext : 0 ≤ scored.probability.text ∧ scored.probability.text ≤ 1)
    {source : PredictionSource} (hsource : source.probabilities = none)
    (rows : List ModelPrediction) (now : Time) (merchantId caseId : ℕ) :
    ∃ quote rows', (source.resolveProbability (.ok scored) now merchantId caseId action).run rows =
      (.ok (some quote), rows') ∧ QuotesAnswer source rows caseId action now scored quote := by
  obtain ⟨quote, rows', hrun⟩ :=
    resolveProbability_returns hvalue htext hsource rows now merchantId caseId
  refine ⟨quote, rows', hrun, ?_⟩
  rcases run_resolveProbability_ok hsource hrun with ⟨row, hfresh, -, hnumber⟩ |
    ⟨hnone, scored', new, hanswer, hnumber, -⟩
  · have hquote : quote.probability = row.probability := Subtype.ext (Option.some.inj hnumber)
    refine ⟨fun row' hfresh' => ?_, fun hnone => absurd hfresh (hnone row)⟩
    obtain rfl := Option.some.inj (hfresh.1.symm.trans hfresh'.1)
    exact hquote
  · obtain rfl := Except.ok.inj hanswer
    exact ⟨fun row hfresh => absurd hfresh (hnone row), fun _ => Option.some.inj hnumber⟩

/-- What the optimizer and the probability tool ask about a stored case. -/
inductive Store.Asks (s : Store) (c : RecoveryCase) : DomainCase → Prop
  | optimizer : s.Asks c (s.domainCase c)
  | tool {attemptNumber : ℕ} (h : attemptNumber < 2 ^ 63) : s.Asks c (s.toolCase c attemptNumber)

theorem Store.Asks.fits {s : Store} {c : RecoveryCase} {caseId : ℕ} {args : DomainCase}
    (h : s.Asks c args) (hfits : reader.Fits s) (hc : s.cases.get? caseId = some c) :
    args.Fits := by
  have hmem : c ∈ s.cases.rows := List.mem_of_getElem? hc
  have hopened : ∀ t ∈ some c.openedAt, IsInstant t := by
    intro t ht
    obtain rfl := Option.some.inj ht
    exact hfits.openedAt c hmem
  cases h with
  | optimizer =>
    refine ⟨hfits.amountAtRisk c hmem, ?_, hopened, ?_⟩
    · intro value hvalue
      obtain ⟨customer, hcustomer, rfl⟩ := Option.map_eq_some_iff.mp hvalue
      have hrow := (Option.filter_eq_some_iff.mp hcustomer).1
      exact hfits.lifetimeValue customer (List.mem_of_getElem? hrow)
    · show (1 : ℤ) < 2 ^ 63
      norm_num
  | tool h =>
    refine ⟨hfits.amountAtRisk c hmem, ?_, hopened, ?_⟩
    · intro value hvalue
      obtain ⟨customer, hrow, rfl⟩ := Option.map_eq_some_iff.mp hvalue
      exact hfits.lifetimeValue customer (List.mem_of_getElem? hrow)
    · show ((_ : ℕ) : ℤ) < 2 ^ 63
      exact_mod_cast h

/-- The context of every stored case is valid, a customer recovers no larger share of the payments
than is captured, and every action is scored, by the model or, where its number is no probability,
by the rules; the score is quoted, unless a stored prediction is still fresh. -/
theorem storedCase_quoted (reader : DomainReader) (hprint : reader.PrintsFloats)
    (kit : Toolkit Model CaseContext) (loaded : Option (LoadedBundle Model))
    (hnumber : ∀ bundle ∈ loaded, ∀ context action,
      IsNumber (kit.predictProba bundle.1 context action))
    (s : Store) (hfits : reader.Fits s) (caseId : ℕ) (c : RecoveryCase)
    (hc : s.cases.get? caseId = some c) (args : DomainCase) (hargs : s.Asks c args) :
    ∃ context, caseContextFromDomain reader s args = some context ∧
      (∀ r q, context.historicalRecoveryRate = some (.finite r) →
        context.historicalSuccessRate = some (.finite q) → r ≤ q) ∧
      ∀ action, ∃ scored, defaultPredictor reader kit loaded context action = some scored ∧
        (OnRules kit loaded context action →
          scored.source = fallbackVersion ∧ scored.probability.value ≤ 95 / 100) ∧
        (∀ bundle ∈ loaded, outsideUnit (kit.predictProba bundle.1 context action) = false →
          kit.predictProba bundle.1 context action = .finite scored.probability.value) ∧
        ∀ source : PredictionSource, source.probabilities = none →
          ∀ rows now, ∃ quote rows',
            (source.resolveProbability (.ok scored) now c.merchantId caseId action).run rows =
              (.ok (some quote), rows') ∧
            QuotesAnswer source rows caseId action now scored quote := by
  have hargs' := hargs.fits hfits hc
  have haccepted := contextFields_accepted hprint hfits hargs'
  refine ⟨contextFields reader s args, ?_, ?_, ?_⟩
  · unfold caseContextFromDomain
    rw [if_pos haccepted]
  · intro r q hr hq
    exact (contextCounts_sound hprint hfits hargs').recoveryLe r q hr hq
  · intro action
    obtain ⟨scored, hscored, hvalue, htext, hrules, hmodel⟩ := defaultPredictor_answers action
      hprint haccepted (contextFields_inRange hprint hfits hargs')
      fun bundle hbundle => hnumber bundle hbundle _ action
    refine ⟨scored, hscored, hrules, hmodel, fun source hsource rows now => ?_⟩
    exact resolveProbability_quotes hvalue htext hsource rows now c.merchantId caseId

end Quotes

/-! ## A declined payment -/

/-- A printer that writes every digit of a float. -/
def exactReader : DomainReader where
  print x :=
    if h : |x| < 10 ^ 309 then ⟨.finite x, fun _ hq => Decimal.finite.inj hq ▸ h⟩
    else ⟨.nan, nofun⟩
  abandonedAt _ := none

theorem exactReader_print {x : ℚ} (h : |x| < 10 ^ 309) :
    (exactReader.print x).number = .finite x := by
  show (dite _ _ _ : FloatText).number = _
  rw [dif_pos h]

theorem exactReader_printsFloats : exactReader.PrintsFloats where
  reads q hlow hhigh := by
    have hfloat := toBinary64_mono hlow (hhigh.trans (by decide +kernel : (10 : ℚ) ^ 100 ≤ 2 ^ 333))
    rw [show toBinary64 (2 ^ 333) = 2 ^ 333 by decide +kernel] at hfloat
    have hlimit : (2 : ℚ) ^ 333 < 10 ^ 309 := by decide +kernel
    refine ⟨toBinary64 q, exactReader_print ?_, toBinary64_nonneg hlow, toBinary64_idem q⟩
    rw [abs_of_nonneg (toBinary64_nonneg hlow)]
    exact hfloat.trans_lt hlimit
  zero := exactReader_print (by decide +kernel)
  one := exactReader_print (by decide +kernel)

/-- A customer of 250.00 with a captured and a declined payment. -/
def declinedStore : Store where
  merchants := ⟨[{}]⟩
  customers := ⟨[{ merchantId := 0, lifetimeValue := 25000 }]⟩
  payments := ⟨[
    { merchantId := 0, customerId := 0, amount := 25000, status := .captured,
      capturedAt := some 0 },
    { merchantId := 0, customerId := 0, amount := 100000, status := .failed,
      failureCode := some "DECLINED" }]⟩
  cases := ⟨[sampleCase 1 100000 .detected]⟩

theorem declinedStore_fits : exactReader.Fits declinedStore where
  payments := by decide
  notifications := by decide
  capturedAt := by
    intro p hp t ht
    simp only [declinedStore, List.mem_cons, List.not_mem_nil, or_false] at hp
    rcases hp with rfl | rfl
    · obtain rfl := Option.some.inj ht
      exact ⟨by decide, by decide⟩
    · cases ht
  sentAt := nofun
  abandonedAt := nofun
  total := nofun
  lifetimeValue := by
    intro customer hcustomer
    obtain rfl := List.mem_singleton.mp hcustomer
    show 25000 < 10 ^ 18
    norm_num
  amountAtRisk := by
    intro c hc
    obtain rfl := List.mem_singleton.mp hc
    show 100000 < 10 ^ 18
    norm_num
  openedAt := by
    intro c hc
    obtain rfl := List.mem_singleton.mp hc
    exact ⟨by decide, by decide⟩

theorem sampleKit_isNumber (model : Bool) (context : CaseContext) (action : RecoveryActionType) :
    IsNumber (sampleKit.predictProba model context action) := by
  refine ⟨nofun, fun q hq => ?_⟩
  obtain rfl := Decimal.finite.inj hq
  cases model <;> decide +kernel

/-- No prediction is stored, and none is overridden. -/
def emptySource : PredictionSource where
  predictor _ _ _ := .error ("", "")

/-- The declined payment's case: a published model's chance of one half is quoted, and without a
model the rules answer. -/
theorem storedCase_quoted_declined :
    ∃ context, caseContextFromDomain exactReader declinedStore
        (declinedStore.domainCase (sampleCase 1 100000 .detected)) = some context ∧
      (∃ scored, defaultPredictor exactReader sampleKit (some (true, none)) context
          .sendPaymentLink = some scored ∧ scored.probability.value = 1 / 2 ∧
        ∃ quote rows', (emptySource.resolveProbability (.ok scored) 0 0 0 .sendPaymentLink).run [] =
            (.ok (some quote), rows') ∧ quote.probability.val = scored.probability.text) ∧
      ∃ scored, defaultPredictor exactReader sampleKit none context .sendPaymentLink =
        some scored ∧ scored.source = fallbackVersion ∧ scored.probability.value ≤ 95 / 100 := by
  have hasked : ∀ loaded : Option (LoadedBundle Bool), _ := fun loaded =>
    storedCase_quoted exactReader exactReader_printsFloats sampleKit loaded
      (fun bundle _ => sampleKit_isNumber bundle.1) declinedStore declinedStore_fits 0
      (sampleCase 1 100000 .detected) rfl _ .optimizer
  obtain ⟨context, hcontext, -, htrained⟩ := hasked (some (true, none))
  obtain ⟨context', hcontext', -, huntrained⟩ := hasked none
  obtain rfl := Option.some.inj (hcontext.symm.trans hcontext')
  obtain ⟨scored, hscored, -, hmodel, hquotes⟩ := htrained .sendPaymentLink
  obtain ⟨scored', hscored', hrules, -⟩ := huntrained .sendPaymentLink
  obtain ⟨quote, rows', hquote, hanswers⟩ := hquotes emptySource rfl [] 0
  have hhalf : Decimal.finite (1 / 2) = .finite scored.probability.value :=
    hmodel (true, none) rfl (show outsideUnit (.finite (1 / 2)) = false by decide +kernel)
  refine ⟨context, hcontext, ⟨scored, hscored, (Decimal.finite.inj hhalf).symm, quote, rows',
    hquote, hanswers.answered fun row hfresh => ?_⟩, scored', hscored', hrules nofun⟩
  cases hfresh.1

end ReviveX
