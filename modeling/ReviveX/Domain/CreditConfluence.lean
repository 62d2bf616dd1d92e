import Mathlib.Data.List.Nodup
import ReviveX.Domain.AttemptTheorems

/-!
# Attempts and orders

Two facts about the verification jobs of a customer:

- `attemptsKeepCredit`: attempts that leave the case open do not change what the
  verification of its own payment credits later;
- `ordersAgree`: jobs of which at most one per case is not such an attempt leave the same
  credits in every order.

Both are simulations: the runs are compared with the store they started from, in which
each job finds what it will find when its turn comes (`SameForCase`).
-/

namespace ReviveX

open Lib (Run Session Table)

variable {cfg : Config} {caller : Caller} {args : VerifyArgs} {s t : Store} {c c' : RecoveryCase}

/-- The credit of two rows is the same. -/
structure SameCredit (c c' : RecoveryCase) : Prop where
  amountRecovered : c'.amountRecovered = c.amountRecovered
  verifiedPaymentId : c'.verifiedPaymentId = c.verifiedPaymentId
  recovered : c'.status = .recovered ↔ c.status = .recovered

theorem mem_listThatCountedPayment {i merchantId paymentId : ℕ} :
    i ∈ s.listThatCountedPayment merchantId paymentId ↔
      ∃ d, s.cases.get? i = some d ∧ d.merchantId = merchantId ∧
        d.verifiedPaymentId = some paymentId ∧ 0 < d.amountRecovered := by
  unfold Store.listThatCountedPayment
  rw [Table.mem_idsWhere]
  simp [and_assoc]

/-- Rows that come from one row by the same decision have the same credit. -/
theorem CreditedRow.sameCredit {t : Store} {d c₁ c₂ : RecoveryCase}
    {reason : Option MismatchReason}
    (h₁ : CreditedRow cfg caller s args s.listThatCountedPayment c c₁)
    (h₂ : CreditedRow cfg caller t args t.listThatCountedPayment d c₂)
    (hrow : d = { c with lastMismatchReason := reason })
    (heq : creditedPayment cfg caller t args t.listThatCountedPayment d =
      creditedPayment cfg caller s args s.listThatCountedPayment c) : SameCredit c₁ c₂ := by
  subst hrow
  cases hcredited : creditedPayment cfg caller s args s.listThatCountedPayment c with
  | none =>
    obtain ⟨ha₁, hv₁, hr₁⟩ := h₁.uncredited hcredited
    obtain ⟨ha₂, hv₂, hr₂⟩ := h₂.uncredited (heq.trans hcredited)
    exact ⟨ha₂.trans ha₁.symm, hv₂.trans hv₁.symm, hr₂.trans hr₁.symm⟩
  | some resolved =>
    obtain ⟨paymentId, p⟩ := resolved
    obtain ⟨ha₁, hv₁, hr₁⟩ := h₁.credited hcredited
    obtain ⟨ha₂, hv₂, hr₂⟩ := h₂.credited (heq.trans hcredited)
    exact ⟨ha₂.trans ha₁.symm, hv₂.trans hv₁.symm, hr₂.trans hr₁.symm⟩

/-! ## Attempts before the capture is verified -/

/-- What happens to a case until the capture of its payment is verified. -/
inductive CaseEvent
  /-- A verification of the case. -/
  | attempt (caller : Caller) (args : VerifyArgs)
  /-- Payments arrive, or change their status. -/
  | payments (f : Table Payment → Table Payment)

/-- The events of a case; `allowed` says which attempts may occur. -/
inductive CaseStep (cfg : Config)
    (allowed : Caller → Store → VerifyArgs → RecoveryCase → Prop) (caseId : ℕ) (s : Store) :
    CaseEvent → Store → Prop
  | attempt {caller : Caller} {args : VerifyArgs} {c : RecoveryCase}
      (hcase : args.caseId = caseId) (hrow : s.cases.get? caseId = some c)
      (hallowed : allowed caller s args c) :
      CaseStep cfg allowed caseId s (.attempt caller args) ((verifyJob cfg caller args).run s).2
  | payments (f : Table Payment → Table Payment) :
      CaseStep cfg allowed caseId s (.payments f) { s with payments := f s.payments }

/-- The same event in the run without the attempts. -/
def CaseEvent.withoutAttempt : CaseEvent → Store → Store
  | .attempt _ _, s => s
  | .payments f, s => { s with payments := f s.payments }

/-- The call considers a payment that was captured in full, and nothing holds the case
back. -/
structure MatchesInFull (cfg : Config) (caller : Caller) (s : Store) (args : VerifyArgs)
    (c : RecoveryCase) (paymentId : ℕ) (p : Payment) : Prop where
  considers : Considers s args s.listThatCountedPayment c paymentId p
  matching : evaluateMismatch cfg.settings s args.caseId c paymentId p = none
  full : c.amountAtRisk ≤ p.amount
  notRecovered : c.status ≠ .recovered
  processed : processingRaises cfg s args.caseId c caller.now = none
  reaches : reachesVerifying cfg s args.caseId c caller.now = true

theorem MatchesInFull.credited {paymentId : ℕ} {p : Payment}
    (h : MatchesInFull cfg caller s args c paymentId p) :
    creditedPayment cfg caller s args s.listThatCountedPayment c = some (paymentId, p) :=
  creditedPayment_eq_some.mpr
    ⟨h.notRecovered, h.considers, h.matching, h.processed, .inr h.reaches⟩

/-- However many allowed attempts come first, a verification of the case leaves the credit
it would leave without them: when the payment matches in full then, the case is recovered
with the smaller of the captured amount and the amount at risk. -/
def AttemptsKeepCredit (cfg : Config)
    (allowed : Caller → Store → VerifyArgs → RecoveryCase → Prop) (s : Store) (caseId : ℕ) :
    Prop :=
  ∀ c events t caller args, s.cases.get? caseId = some c → args.caseId = caseId →
    Run (CaseStep cfg allowed caseId) s events t →
    ∃ c₁ c₂, ((verifyJob cfg caller args).run
        (events.foldl (fun s e => e.withoutAttempt s) s)).2.cases.get? caseId = some c₁ ∧
      ((verifyJob cfg caller args).run t).2.cases.get? caseId = some c₂ ∧ SameCredit c₁ c₂ ∧
      ∀ paymentId p,
        MatchesInFull cfg caller (events.foldl (fun s e => e.withoutAttempt s) s) args c
          paymentId p →
        c₂.status = .recovered ∧ c₂.amountRecovered = min p.amount c.amountAtRisk

/-- The store `t` of the run with attempts, next to the store `r` of the run without. -/
structure Attempted (caseId : ℕ) (c : RecoveryCase) (t r : Store) : Prop where
  before : r.cases.get? caseId = some c
  same : SameForCase caseId c r t
  others : ∀ j, j ≠ caseId → t.cases.get? j = r.cases.get? j

/-- An event keeps the two runs side by side. -/
theorem Attempted.step {caseId : ℕ} {e : CaseEvent} {r t' : Store}
    (h : Attempted caseId c t r)
    (hstep : CaseStep cfg (fun caller s args c => LeavesOpen cfg caller s args c) caseId t e t') :
    Attempted caseId c t' (e.withoutAttempt r) := by
  cases hstep with
  | attempt hcase hrow hopen =>
    subst hcase
    have hnoted := verifyJob_leavesOpen hrow hopen
    exact ⟨h.before, h.same.note hrow hnoted,
      fun j hj => (hnoted.others j hj).trans (h.others j hj)⟩
  | payments f =>
    have hsame := h.same
    exact
      { before := h.before
        same :=
          { merchants := hsame.merchants
            customers := hsame.customers
            payments := congrArg f hsame.payments
            notifications := hsame.notifications
            retryCount := hsame.retryCount
            discountSpentToday := hsame.discountSpentToday
            linkedViaAction := hsame.linkedViaAction
            row := hsame.row }
        others := h.others }

/-- The payment credited is the one of the run without attempts. -/
theorem Attempted.credited {r : Store} (h : Attempted args.caseId c t r)
    (caller : Caller) :
    ∃ reason, t.cases.get? args.caseId = some { c with lastMismatchReason := reason } ∧
      creditedPayment cfg caller t args t.listThatCountedPayment
          { c with lastMismatchReason := reason } =
        creditedPayment cfg caller r args r.listThatCountedPayment c := by
  obtain ⟨reason, hflag, hrow⟩ := h.same.row
  refine ⟨reason, hrow, h.same.creditedPayment hflag fun paymentId p _ => ?_⟩
  have hmember : ∀ i, i ≠ args.caseId → (i ∈ t.listThatCountedPayment c.merchantId paymentId ↔
      i ∈ r.listThatCountedPayment c.merchantId paymentId) := by
    intro i hi
    rw [mem_listThatCountedPayment, mem_listThatCountedPayment, h.others i hi]
  constructor
  · intro hcounted i hi
    by_contra hne
    exact hne (hcounted i ((hmember i hne).mpr hi))
  · intro hcounted i hi
    by_contra hne
    exact hne (hcounted i ((hmember i hne).mp hi))

/-- Attempts that leave the case open forfeit nothing. -/
theorem attemptsKeepCredit (cfg : Config) (s : Store) (caseId : ℕ) :
    AttemptsKeepCredit cfg (fun caller s args c => LeavesOpen cfg caller s args c) s caseId := by
  intro c events t caller args hcase hid hrun
  subst hid
  have hstart : Attempted args.caseId c s s := ⟨hcase, .refl hcase, fun _ _ => rfl⟩
  have hend := hrun.simulates (fun _ _ _ _ h hstep => h.step hstep) hstart
  obtain ⟨reason, hrow, hcredited⟩ := hend.credited caller
  obtain ⟨c₁, hafter₁, hrow₁⟩ := verifyTransaction_row cfg (fun _ => false) caller hend.before
  obtain ⟨c₂, hafter₂, hrow₂⟩ := verifyTransaction_row cfg (fun _ => false) caller hrow
  refine ⟨c₁, c₂, hafter₁, hafter₂, hrow₁.sameCredit hrow₂ rfl hcredited, ?_⟩
  intro paymentId p hfull
  obtain ⟨hamount, -, hstatus⟩ := hrow₂.credited (hcredited.trans hfull.credited)
  exact ⟨hstatus.mpr hfull.full, hamount⟩

/-! ## Orders of the queued jobs -/

/-- A queued verification job; an `attempt` is one that may not match. -/
inductive QueuedJob
  | evaluated (caller : Caller) (args : VerifyArgs)
  | attempt (caller : Caller) (args : VerifyArgs)

/-- The jobs of the queue that are not mere attempts. -/
def evaluatedJobs (jobs : List QueuedJob) : List (Caller × VerifyArgs) :=
  jobs.filterMap fun
    | .evaluated caller args => some (caller, args)
    | .attempt _ _ => none

/-- A job runs; `allowed` says which attempts may occur. -/
inductive JobStep (cfg : Config)
    (allowed : Caller → Store → VerifyArgs → RecoveryCase → Prop) (s : Store) :
    QueuedJob → Store → Prop
  | evaluated (caller : Caller) (args : VerifyArgs) :
      JobStep cfg allowed s (.evaluated caller args) ((verifyJob cfg caller args).run s).2
  | attempt {caller : Caller} {args : VerifyArgs} {c : RecoveryCase}
      (hrow : s.cases.get? args.caseId = some c) (hallowed : allowed caller s args c) :
      JobStep cfg allowed s (.attempt caller args) ((verifyJob cfg caller args).run s).2

/-- The payment a job would credit if it ran first. -/
def creditOf (cfg : Config) (s : Store) (job : Caller × VerifyArgs) : Option (ℕ × Payment) :=
  (s.cases.get? job.2.caseId).bind
    (creditedPayment cfg job.1 s job.2 s.listThatCountedPayment)

/-- The jobs of the queue that are not attempts are for different cases, would credit
different payments, and only cases without an amount. -/
structure Independent (cfg : Config) (s : Store) (jobs : List QueuedJob) : Prop where
  cases : ((evaluatedJobs jobs).map (·.2.caseId)).Nodup
  firstCredit : ∀ job ∈ evaluatedJobs jobs, ∀ c, s.cases.get? job.2.caseId = some c →
    (creditOf cfg s job).isSome → c.amountRecovered = 0
  payments : ∀ job ∈ evaluatedJobs jobs, ∀ job' ∈ evaluatedJobs jobs, ∀ paymentId p p',
    creditOf cfg s job = some (paymentId, p) → creditOf cfg s job' = some (paymentId, p') →
    job.2.caseId = job'.2.caseId

/-- Every order of an admissible queue leaves the same credits. -/
def OrdersAgree (cfg : Config)
    (allowed : Caller → Store → VerifyArgs → RecoveryCase → Prop)
    (admissible : Store → List QueuedJob → Prop) (s : Store) : Prop :=
  ∀ jobs jobs' t t', admissible s jobs → jobs.Perm jobs' →
    Run (JobStep cfg allowed) s jobs t → Run (JobStep cfg allowed) s jobs' t' →
    ∀ i c, s.cases.get? i = some c →
      ∃ c₁ c₂, t.cases.get? i = some c₁ ∧ t'.cases.get? i = some c₂ ∧ SameCredit c₁ c₂

/-- What became of the row `c` of the case `i` after the jobs `done`: its own job found
what it would have found at the start, or is still to come and will find it. -/
inductive RowAfter (cfg : Config) (s : Store) (done : List (Caller × VerifyArgs)) (t : Store)
    (i : ℕ) (c : RecoveryCase) : RecoveryCase → Prop
  | pending {c' : RecoveryCase} (untouched : ∀ job ∈ done, job.2.caseId ≠ i)
      (same : SameForCase i c s t) (row : t.cases.get? i = some c') : RowAfter cfg s done t i c c'
  | ran {c' : RecoveryCase} {job : Caller × VerifyArgs} (mem : job ∈ done)
      (caseId : job.2.caseId = i)
      (row : CreditedRow cfg job.1 s job.2 s.listThatCountedPayment c c') :
      RowAfter cfg s done t i c c'

/-- The store `t` after the jobs `done`, which ran from `s`. -/
structure JobsRun (cfg : Config) (s : Store) (done : List (Caller × VerifyArgs)) (t : Store) :
    Prop where
  rows : ∀ i c, s.cases.get? i = some c →
    ∃ c', t.cases.get? i = some c' ∧ RowAfter cfg s done t i c c'
  missing : ∀ i, s.cases.get? i = none → t.cases.get? i = none

namespace JobsRun

variable {done : List (Caller × VerifyArgs)} {t' : Store}

theorem refl (s : Store) : JobsRun cfg s [] s where
  rows _ c hcase := ⟨c, hcase, .pending (fun _ h => absurd h List.not_mem_nil) (.refl hcase) hcase⟩
  missing _ h := h

/-- The row the case had at the start. -/
theorem before (h : JobsRun cfg s done t) {i : ℕ} (hrow : t.cases.get? i = some c') :
    ∃ c, s.cases.get? i = some c ∧ RowAfter cfg s done t i c c' := by
  cases hcase : s.cases.get? i with
  | none =>
    rw [h.missing i hcase] at hrow
    cases hrow
  | some c =>
    obtain ⟨d, hd, hafter⟩ := h.rows i c hcase
    obtain rfl := Option.some.inj (hd.symm.trans hrow)
    exact ⟨c, rfl, hafter⟩

/-- A case that no job credited counts what it counted at the start. -/
theorem counted_of_uncredited {i merchantId paymentId : ℕ} (hcase : s.cases.get? i = some c)
    (hrow : t.cases.get? i = some c') (hmerchant : c'.merchantId = c.merchantId)
    (hamount : c'.amountRecovered = c.amountRecovered)
    (hverified : c'.verifiedPaymentId = c.verifiedPaymentId) :
    i ∈ t.listThatCountedPayment merchantId paymentId ↔
      i ∈ s.listThatCountedPayment merchantId paymentId := by
  rw [mem_listThatCountedPayment, mem_listThatCountedPayment, hcase, hrow]
  simp [hmerchant, hamount, hverified]

/-- A job that is still to come finds its payment counted elsewhere exactly when it would
have at the start. -/
theorem counted_iff (h : JobsRun cfg s done t) (job : Caller × VerifyArgs)
    (hcase : s.cases.get? job.2.caseId = some c)
    (hfirst : ∀ job' ∈ done, ∀ c, s.cases.get? job'.2.caseId = some c →
      (creditOf cfg s job').isSome → c.amountRecovered = 0)
    (hpayments : ∀ job' ∈ done, ∀ paymentId p p', creditOf cfg s job = some (paymentId, p) →
      creditOf cfg s job' = some (paymentId, p') → False)
    {paymentId : ℕ} {p : Payment} (hcreditable : Creditable cfg job.1 s job.2 c paymentId p) :
    (∀ i ∈ t.listThatCountedPayment c.merchantId paymentId, i = job.2.caseId) ↔
      ∀ i ∈ s.listThatCountedPayment c.merchantId paymentId, i = job.2.caseId := by
  constructor
  · intro hnone i hi
    obtain ⟨d, hd, -, -, hamount⟩ := mem_listThatCountedPayment.mp hi
    obtain ⟨d', hd', hafter⟩ := h.rows i d hd
    -- a job that ran without credit left the columns of the ledger alone; one with credit started
    -- from nothing recovered
    cases hafter with
    | pending untouched same row =>
      obtain ⟨reason, -, hget⟩ := same.row
      exact hnone i ((counted_of_uncredited hd hget rfl rfl rfl).mpr hi)
    | @ran job' mem caseId row =>
      subst caseId
      cases hcredited : creditedPayment cfg job'.1 s job'.2 s.listThatCountedPayment d with
      | none =>
        obtain ⟨hsame, hverified, -⟩ := row.uncredited hcredited
        exact hnone _
          ((counted_of_uncredited hd hd' row.claim.merchantId hsame hverified).mpr hi)
      | some resolved =>
        have hzero := hfirst job' mem d hd (by simp [creditOf, hd, hcredited])
        exact absurd hzero hamount.ne'
  · intro hnone i hi
    have hcredit : creditOf cfg s job = some (paymentId, p) := by
      unfold creditOf
      rw [hcase]
      exact creditedPayment_eq_some_iff.mpr ⟨hcreditable, hnone⟩
    obtain ⟨d', hd', -, hd'verified, -⟩ := mem_listThatCountedPayment.mp hi
    obtain ⟨d, hd, hafter⟩ := h.before hd'
    cases hafter with
    | pending untouched same row =>
      obtain ⟨reason, -, hget⟩ := same.row
      exact hnone i ((counted_of_uncredited hd hget rfl rfl rfl).mp hi)
    | @ran job' mem caseId row =>
      subst caseId
      cases hcredited : creditedPayment cfg job'.1 s job'.2 s.listThatCountedPayment d with
      | none =>
        obtain ⟨hsame, hverified, -⟩ := row.uncredited hcredited
        exact hnone _
          ((counted_of_uncredited hd hd' row.claim.merchantId hsame hverified).mp hi)
      | some resolved =>
        obtain ⟨paymentId', p'⟩ := resolved
        obtain ⟨-, hverified, -⟩ := row.credited hcredited
        obtain rfl := Option.some.inj (hverified.symm.trans hd'verified)
        exact (hpayments job' mem _ p p' hcredit (by simp [creditOf, hd, hcredited])).elim

/-- Rows of other cases go through a job. -/
theorem frame (h : JobsRun cfg s done t) {j : ℕ} (hframe : ProcessFrame j t t')
    (more : List (Caller × VerifyArgs)) (hmore : ∀ job ∈ more, job.2.caseId = j) {i : ℕ}
    (hne : i ≠ j) (hcase : s.cases.get? i = some c) :
    ∃ c', t'.cases.get? i = some c' ∧ RowAfter cfg s (done ++ more) t' i c c' := by
  obtain ⟨c', hrow, hafter⟩ := h.rows i c hcase
  have hrow' := (hframe.others i hne).trans hrow
  refine ⟨c', hrow', ?_⟩
  cases hafter with
  | pending untouched same row =>
    refine .pending (fun job hjob => ?_) (same.frame hne hframe) hrow'
    rcases List.mem_append.mp hjob with hdone | hnew
    · exact untouched job hdone
    · rw [hmore job hnew]
      exact hne.symm
  | ran mem caseId row => exact .ran (List.mem_append_left _ mem) caseId row

/-- An attempt that leaves its case open. -/
theorem attempt (h : JobsRun cfg s done t) (hrow : t.cases.get? args.caseId = some c)
    (hopen : LeavesOpen cfg caller t args c) :
    JobsRun cfg s done ((verifyJob cfg caller args).run t).2 := by
  have hnoted := verifyJob_leavesOpen hrow hopen
  have hframe : ProcessFrame args.caseId t ((verifyJob cfg caller args).run t).2 :=
    keeps_verifyTransaction cfg _ caller args t
  obtain ⟨reason, hflag, hrow'⟩ := hnoted.row
  constructor
  · intro i d hcase
    by_cases hid : i = args.caseId
    · subst hid
      obtain ⟨d', hd', hafter⟩ := h.rows _ d hcase
      obtain rfl := Option.some.inj (hd'.symm.trans hrow)
      refine ⟨_, hrow', ?_⟩
      cases hafter with
      | pending untouched same row => exact .pending untouched (same.note hrow hnoted) hrow'
      | ran mem caseId row =>
        have hclaim := row.claim
        exact .ran mem caseId
          ⟨⟨hclaim.merchantId, hclaim.customerId, hclaim.paymentId, hclaim.amountAtRisk,
            hclaim.currency, hclaim.openedAt⟩, row.credited, row.uncredited⟩
    · have hothers := h.frame hframe [] (fun _ h => absurd h List.not_mem_nil) hid hcase
      rwa [List.append_nil] at hothers
  · intro i hcase
    by_cases hid : i = args.caseId
    · subst hid
      rw [h.missing _ hcase] at hrow
      cases hrow
    · exact (hframe.others i hid).trans (h.missing i hcase)

/-- The job of a case, whose turn has come. -/
theorem evaluated (h : JobsRun cfg s done t)
    (hnew : ∀ job' ∈ done, job'.2.caseId ≠ args.caseId)
    (hfirst : ∀ job' ∈ done, ∀ c, s.cases.get? job'.2.caseId = some c →
      (creditOf cfg s job').isSome → c.amountRecovered = 0)
    (hpayments : ∀ job' ∈ done, ∀ paymentId p p',
      creditOf cfg s (caller, args) = some (paymentId, p) →
      creditOf cfg s job' = some (paymentId, p') → False) :
    JobsRun cfg s (done ++ [(caller, args)]) ((verifyJob cfg caller args).run t).2 := by
  have hframe : ProcessFrame args.caseId t ((verifyJob cfg caller args).run t).2 :=
    keeps_verifyTransaction cfg _ caller args t
  constructor
  · intro i c hcase
    by_cases hid : i = args.caseId
    · subst hid
      obtain ⟨c', hrow, hafter⟩ := h.rows _ c hcase
      cases hafter with
      | ran mem caseId row => exact absurd caseId (hnew _ mem)
      | pending untouched same row =>
        obtain ⟨reason, hflag, hget⟩ := same.row
        obtain ⟨c'', hafter', hcredited⟩ :=
          verifyTransaction_row cfg (fun _ => false) caller hget
        have hsame := same.creditedPayment hflag fun _ _ hcreditable =>
          h.counted_iff (caller, args) hcase hfirst hpayments hcreditable
        refine ⟨c'', hafter', .ran (List.mem_append_right _ (List.mem_singleton_self _)) rfl ?_⟩
        have hclaim := hcredited.claim
        exact
          { claim := ⟨hclaim.merchantId, hclaim.customerId, hclaim.paymentId,
              hclaim.amountAtRisk, hclaim.currency, hclaim.openedAt⟩
            credited := fun hsome => hcredited.credited (hsame.trans hsome)
            uncredited := fun hnone => hcredited.uncredited (hsame.trans hnone) }
    · exact h.frame hframe _ (fun job hjob => by rw [List.mem_singleton.mp hjob]) hid hcase
  · intro i hcase
    by_cases hid : i = args.caseId
    · subst hid
      have hstate := run_verifyTransaction_missing cfg (fun _ => false) caller (h.missing _ hcase)
      unfold verifyJob
      rw [hstate]
      exact h.missing _ hcase
    · exact (hframe.others i hid).trans (h.missing i hcase)

end JobsRun

theorem evaluatedJobs_append (jobs jobs' : List QueuedJob) :
    evaluatedJobs (jobs ++ jobs') = evaluatedJobs jobs ++ evaluatedJobs jobs' :=
  List.filterMap_append

/-- A run of an independent queue. -/
theorem jobsRun_of_run {jobs : List QueuedJob}
    (hrun : Run (JobStep cfg fun caller s args c => LeavesOpen cfg caller s args c) s jobs t)
    (hind : Independent cfg s jobs) : JobsRun cfg s (evaluatedJobs jobs) t := by
  -- a queue that is independent is so without its last job
  induction hrun with
  | nil => exact .refl s
  | @snoc jobs t t' job before last ih =>
    obtain ⟨hcases, hfirst, hpayments⟩ := hind
    rw [evaluatedJobs_append] at hcases hfirst hpayments ⊢
    have hleft : ∀ {job'}, job' ∈ evaluatedJobs jobs →
        job' ∈ evaluatedJobs jobs ++ evaluatedJobs [job] := List.mem_append_left _
    rw [List.map_append, List.nodup_append] at hcases
    have hprefix := ih ⟨hcases.1, fun _ h => hfirst _ (hleft h),
      fun _ h _ h' => hpayments _ (hleft h) _ (hleft h')⟩
    cases last with
    | attempt hrow hopen =>
      have hrest := hprefix.attempt hrow hopen
      exact (List.append_nil (evaluatedJobs jobs)).symm ▸ hrest
    | evaluated caller args =>
      have hnew : ∀ job' ∈ evaluatedJobs jobs, job'.2.caseId ≠ args.caseId := fun job' hjob' =>
        hcases.2.2 _ (List.mem_map_of_mem hjob') _ (List.mem_singleton_self _)
      exact hprefix.evaluated hnew (fun _ h => hfirst _ (hleft h)) fun job' hjob' _ _ _ h h' =>
        hnew job' hjob' (hpayments _ (List.mem_append_right _ (List.mem_singleton_self _)) _
          (hleft hjob') _ _ _ h h').symm

/-- Two rows that came from one row by the same independent queue have the same credit. -/
theorem RowAfter.sameCredit {done done' : List (Caller × VerifyArgs)} {t' : Store} {i : ℕ}
    {c₁ c₂ : RecoveryCase} (hrow : t.cases.get? i = some c₁) (hrow' : t'.cases.get? i = some c₂)
    (hnodup : (done.map (·.2.caseId)).Nodup) (hmem : ∀ job, job ∈ done' ↔ job ∈ done)
    (h : RowAfter cfg s done t i c c₁) (h' : RowAfter cfg s done' t' i c c₂) :
    SameCredit c₁ c₂ := by
  cases h with
  | pending untouched same row =>
    cases h' with
    | pending untouched' same' row' =>
      obtain ⟨reason, -, hget⟩ := same.row
      obtain ⟨reason', -, hget'⟩ := same'.row
      obtain rfl := Option.some.inj (hget.symm.trans hrow)
      obtain rfl := Option.some.inj (hget'.symm.trans hrow')
      exact ⟨rfl, rfl, Iff.rfl⟩
    | ran mem' caseId' row' => exact absurd caseId' (untouched _ ((hmem _).mp mem'))
  | @ran job mem caseId row =>
    cases h' with
    | pending untouched' same' row' => exact absurd caseId (untouched' _ ((hmem _).mpr mem))
    | @ran job' mem' caseId' row' =>
      obtain rfl : job' = job :=
        List.inj_on_of_nodup_map hnodup ((hmem _).mp mem') mem (caseId'.trans caseId.symm)
      have hrow : c = { c with lastMismatchReason := c.lastMismatchReason } := rfl
      exact row.sameCredit row' hrow rfl

/-- The credits do not depend on the order of an independent queue. -/
theorem ordersAgree (cfg : Config) (s : Store) :
    OrdersAgree cfg (fun caller s args c => LeavesOpen cfg caller s args c) (Independent cfg)
      s := by
  intro jobs jobs' t t' hind hperm hrun hrun' i c hcase
  have hevaluated : (evaluatedJobs jobs).Perm (evaluatedJobs jobs') := hperm.filterMap _
  have hmem : ∀ job, job ∈ evaluatedJobs jobs' ↔ job ∈ evaluatedJobs jobs :=
    fun _ => hevaluated.mem_iff.symm
  have hind' : Independent cfg s jobs' :=
    { cases := (hevaluated.map _).nodup_iff.mp hind.cases
      firstCredit := fun job hjob => hind.firstCredit job ((hmem job).mp hjob)
      payments := fun job hjob job' hjob' =>
        hind.payments job ((hmem job).mp hjob) job' ((hmem job').mp hjob') }
  obtain ⟨c₁, hrow₁, hafter₁⟩ := (jobsRun_of_run hrun hind).rows i c hcase
  obtain ⟨c₂, hrow₂, hafter₂⟩ := (jobsRun_of_run hrun' hind').rows i c hcase
  exact ⟨c₁, c₂, hrow₁, hrow₂, hafter₁.sameCredit hrow₁ hrow₂ hind.cases hmem hafter₂⟩

/-! ## Attempts forfeit nothing -/

/-- Attempts do not change what a case is credited later, and the order of the queued jobs
does not matter; `allowed` are the attempts, and `admissible` the queues. -/
structure NothingForfeited (cfg : Config)
    (allowed : Caller → Store → VerifyArgs → RecoveryCase → Prop)
    (admissible : Store → List QueuedJob → Prop) (s : Store) : Prop where
  attempts : ∀ caseId, AttemptsKeepCredit cfg allowed s caseId
  orders : OrdersAgree cfg allowed admissible s

/-- Nothing is forfeited as long as attempts leave their case open and the other jobs of a
queue are independent. -/
theorem nothingForfeited (cfg : Config) (s : Store) :
    NothingForfeited cfg (fun caller s args c => LeavesOpen cfg caller s args c)
      (Independent cfg) s :=
  ⟨attemptsKeepCredit cfg s, ordersAgree cfg s⟩

/-! ### A capture of another payment comes first -/

/-- A call that does not report a match. -/
def ReportsNoMatch (cfg : Config) (caller : Caller) (s : Store) (args : VerifyArgs)
    (_ : RecoveryCase) : Prop :=
  ∀ r s', (verifyCase cfg caller args).run s = (.ok r, s') → r.matched = false

/-- A case whose own payment of ₹1000 was captured, and a payment of ₹500 that the customer
made for something else. -/
def otherCaptureStore : Store where
  merchants := ⟨[{}]⟩
  customers := ⟨[{ merchantId := 0 }]⟩
  payments := ⟨[
    { merchantId := 0, customerId := 0, amount := 100000, status := .captured
      capturedAt := some 0 },
    { merchantId := 0, customerId := 0, amount := 50000, status := .captured
      capturedAt := some 0 }]⟩
  cases := ⟨[sampleCase 0 100000 .detected]⟩

/-- The store after a job for the case `0` and the given payment. -/
def afterJob (s : Store) (paymentId : ℕ) : Store :=
  ((verifyJob defaultConfig { now := 0 } { caseId := 0, paymentId := some paymentId }).run s).2

/-- Verifying the other payment first closes the case to its own. -/
theorem otherCapture_forfeits :
    ¬ NothingForfeited defaultConfig (ReportsNoMatch defaultConfig) (fun _ _ => True)
      otherCaptureStore := by
  intro hnothing
  have hattempt : (match ((verifyCase defaultConfig { now := 0 }
      { caseId := 0, paymentId := some 1 }).run otherCaptureStore).1 with
      | .ok r => r.matched
      | .error _ => false) = false := by decide +kernel
  have hwithout : ((afterJob otherCaptureStore 0).cases.get? 0).map (·.amountRecovered) =
      some 100000 := by decide +kernel
  have hwith : ((afterJob (afterJob otherCaptureStore 1) 0).cases.get? 0).map
      (·.amountRecovered) = some 0 := by decide +kernel
  have hrun : Run (CaseStep defaultConfig (ReportsNoMatch defaultConfig) 0) otherCaptureStore
      [.attempt { now := 0 } { caseId := 0, paymentId := some 1 }]
      (afterJob otherCaptureStore 1) := by
    refine .single (.attempt rfl rfl fun r s' hrun => ?_)
    rw [hrun] at hattempt
    exact hattempt
  obtain ⟨c₁, c₂, hrow₁, hrow₂, hsame, -⟩ := hnothing.attempts 0 _ _ _ { now := 0 }
    { caseId := 0, paymentId := some 0 } rfl rfl hrun
  change (afterJob otherCaptureStore 0).cases.get? 0 = some c₁ at hrow₁
  change (afterJob (afterJob otherCaptureStore 1) 0).cases.get? 0 = some c₂ at hrow₂
  rw [hrow₁, Option.map_some, Option.some.injEq] at hwithout
  rw [hrow₂, Option.map_some, Option.some.injEq] at hwith
  have hamount := hsame.amountRecovered
  rw [hwithout, hwith] at hamount
  exact absurd hamount (by decide)

end ReviveX
