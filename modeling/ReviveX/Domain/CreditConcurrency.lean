import Mathlib.Logic.Function.Basic
import ReviveX.Domain.CreditRuns

/-!
# Concurrent verifications

Transactions of `verify_case` on different cases, interleaved statement by statement under
read committed: a transaction locks the row of its case, reads the committed rows that
count its payment, writes its row, and commits. The lock covers the own row only, so the
read says nothing about a credit that another transaction is about to commit.

`neverCountedTwice`: as long as no transaction reads while another one stands between its
own read of the same payment and its commit, a payment is the verified payment of at most
one case in every committed state. `sharedOrder_countedTwice` is the interleaving that
breaks it otherwise.
-/

namespace ReviveX

open Lib (Guarded Run Session Table)

/-! ## Transactions -/

/-- How far a transaction has come. -/
inductive Phase
  /-- The row of the case is locked. -/
  | locked
  /-- `list_that_counted_payment` has been read. -/
  | read (listThatCountedPayment : ℕ → ℕ → List ℕ)
  /-- The row of the case has been written. -/
  | written (row : RecoveryCase)

/-- A running call of `verify_case`, with the row it locked. -/
structure Transaction where
  caller : Caller
  args : VerifyArgs
  row : RecoveryCase
  phase : Phase

/-- The payment the call verifies. -/
def Transaction.target (tx : Transaction) : Option ℕ := tx.args.paymentId.or tx.row.paymentId

/-- The call has read who counts its payment, and has not committed yet. -/
def Transaction.pastRead (tx : Transaction) : Prop := tx.phase ≠ .locked

/-- The committed store, and the transaction that holds the lock of each case. -/
structure Database where
  committed : Store
  holder : ℕ → Option Transaction := fun _ => none

namespace Database

/-- The holder of a case's lock changes. -/
def hold (db : Database) (caseId : ℕ) (tx : Option Transaction) : Database :=
  { db with holder := Function.update db.holder caseId tx }

/-- The row of a case is committed and its lock released. -/
def publish (db : Database) (caseId : ℕ) (row : RecoveryCase) : Database where
  committed :=
    { db.committed with cases := db.committed.cases.modify caseId fun _ => row }
  holder := Function.update db.holder caseId none

end Database

/-- The statements of the transactions. -/
inductive Statement
  | lock (caller : Caller) (args : VerifyArgs)
  | read (caseId : ℕ)
  | write (caseId : ℕ)
  | commit (caseId : ℕ)
  | abort (caseId : ℕ)
  /-- Anything else that happens to the database. -/
  | other

/-- One statement of one transaction. The rows that a transaction writes in other tables
are part of `other`, which may change them at any time. -/
inductive TransactionStep (cfg : Config) (db : Database) : Statement → Database → Prop
  | lock {caller : Caller} {args : VerifyArgs} {c : RecoveryCase}
      (hfree : db.holder args.caseId = none)
      (hrow : db.committed.cases.get? args.caseId = some c) :
      TransactionStep cfg db (.lock caller args)
        (db.hold args.caseId (some { caller, args, row := c, phase := .locked }))
  | read {caseId : ℕ} {tx : Transaction} (hholds : db.holder caseId = some tx)
      (hphase : tx.phase = .locked) :
      TransactionStep cfg db (.read caseId) (db.hold caseId
        (some { tx with phase := .read db.committed.listThatCountedPayment }))
  | write {caseId : ℕ} {tx : Transaction} {counted : ℕ → ℕ → List ℕ}
      {r : RecoveryMatchResult} {s' : Store} {c' : RecoveryCase}
      (hholds : db.holder caseId = some tx) (hphase : tx.phase = .read counted)
      (hrun : (verifyLocked cfg tx.caller tx.args counted tx.row).run db.committed = (.ok r, s'))
      (hrow : s'.cases.get? caseId = some c') :
      TransactionStep cfg db (.write caseId)
        (db.hold caseId (some { tx with phase := .written c' }))
  | commit {caseId : ℕ} {tx : Transaction} {c' : RecoveryCase}
      (hholds : db.holder caseId = some tx) (hphase : tx.phase = .written c') :
      TransactionStep cfg db (.commit caseId) (db.publish caseId c')
  | abort {caseId : ℕ} {tx : Transaction} (hholds : db.holder caseId = some tx) :
      TransactionStep cfg db (.abort caseId) (db.hold caseId none)
  | other {s' : Store} (hleaves : LeavesCredits db.committed s')
      (hlocked : ∀ i, db.holder i ≠ none → s'.cases.get? i = db.committed.cases.get? i) :
      TransactionStep cfg db .other { db with committed := s' }

/-- A transaction reads while no other one stands between its read of the same payment and
its commit; and only cases with an amount at risk are verified. -/
def Separated (db : Database) : Statement → Prop
  | .lock _ args => ∀ c, db.committed.cases.get? args.caseId = some c → 0 < c.amountAtRisk
  | .read caseId => ∀ tx, db.holder caseId = some tx →
      ∀ j tx', j ≠ caseId → db.holder j = some tx' → tx'.pastRead →
        ∀ paymentId, tx.target = some paymentId → tx'.target ≠ some paymentId
  | _ => True

/-! ## Counted once -/

/-- A payment is the verified payment of at most one case. -/
def CountedOnce (s : Store) : Prop :=
  ∀ i j c d paymentId, s.cases.get? i = some c → s.cases.get? j = some d →
    c.verifiedPaymentId = some paymentId → d.verifiedPaymentId = some paymentId → i = j

/-- A verified payment is one of the case's merchant, and the case holds an amount. -/
def VerifiedRecorded (s : Store) : Prop :=
  ∀ i c paymentId, s.cases.get? i = some c → c.verifiedPaymentId = some paymentId →
    0 < c.amountRecovered ∧
      ∃ p, s.payments.get? paymentId = some p ∧ p.merchantId = c.merchantId

/-- The written row counts the payment `target`, which no other case counts. -/
structure NewCredit (s : Store) (caseId : ℕ) (target : Option ℕ) (row c' : RecoveryCase) :
    Prop where
  amount : 0 < c'.amountRecovered
  exclusive : ∃ paymentId p, target = some paymentId ∧
    c'.verifiedPaymentId = some paymentId ∧ s.payments.get? paymentId = some p ∧
    p.merchantId = row.merchantId ∧
    ∀ j d, s.cases.get? j = some d → d.verifiedPaymentId = some paymentId → j = caseId

/-- What holds of a transaction that verifies the payment `target` on the locked `row`, in
the phase it has reached. -/
def PhaseInvariant (s : Store) (caseId : ℕ) (target : Option ℕ) (row : RecoveryCase) :
    Phase → Prop
  | .locked => True
  -- whoever counts the payment now was on the list
  | .read counted => ∀ j d paymentId, s.cases.get? j = some d →
      d.verifiedPaymentId = some paymentId → target = some paymentId →
      j ∈ counted d.merchantId paymentId
  | .written c' => c'.merchantId = row.merchantId ∧
      (c'.verifiedPaymentId = row.verifiedPaymentId ∧
        c'.amountRecovered = row.amountRecovered ∨ NewCredit s caseId target row c')

/-- What holds of every transaction. -/
structure TransactionInvariant (s : Store) (caseId : ℕ) (tx : Transaction) : Prop where
  ownCase : tx.args.caseId = caseId
  row : s.cases.get? caseId = some tx.row
  atRisk : 0 < tx.row.amountAtRisk
  phase : PhaseInvariant s caseId tx.target tx.row tx.phase

structure DatabaseInvariant (db : Database) : Prop where
  countedOnce : CountedOnce db.committed
  recorded : VerifiedRecorded db.committed
  transactions : ∀ i tx, db.holder i = some tx → TransactionInvariant db.committed i tx
  separated : ∀ i j tx tx' paymentId, i ≠ j → db.holder i = some tx → db.holder j = some tx' →
    tx.pastRead → tx'.pastRead → tx.target = some paymentId → tx'.target ≠ some paymentId

variable {cfg : Config} {db db' : Database} {caseId : ℕ} {tx : Transaction}

/-- The holder after a change of one lock. -/
theorem holder_hold {i : ℕ} {new : Option Transaction}
    (h : (db.hold caseId new).holder i = some tx) :
    i = caseId ∧ new = some tx ∨ i ≠ caseId ∧ db.holder i = some tx := by
  change Function.update db.holder caseId new i = some tx at h
  by_cases hid : i = caseId
  · subst hid
    rw [Function.update_self] at h
    exact .inl ⟨rfl, h⟩
  · rw [Function.update_of_ne hid] at h
    exact .inr ⟨hid, h⟩

/-- A change of one lock keeps the invariant, when the new holder satisfies it. -/
theorem DatabaseInvariant.hold (h : DatabaseInvariant db) (new : Option Transaction)
    (hnew : ∀ tx, new = some tx → TransactionInvariant db.committed caseId tx)
    (hseparated : ∀ tx j tx' paymentId, new = some tx → tx.pastRead → j ≠ caseId →
      db.holder j = some tx' → tx'.pastRead → tx.target = some paymentId →
      tx'.target ≠ some paymentId) : DatabaseInvariant (db.hold caseId new) where
  countedOnce := h.countedOnce
  recorded := h.recorded
  transactions i tx hholds := by
    rcases holder_hold hholds with ⟨rfl, heq⟩ | ⟨-, hold⟩
    · exact hnew tx heq
    · exact h.transactions i tx hold
  separated i j tx tx' paymentId hne hi hj hread hread' htarget := by
    rcases holder_hold hi with ⟨rfl, heq⟩ | ⟨hi', hold⟩
    · rcases holder_hold hj with ⟨rfl, -⟩ | ⟨hj', hold'⟩
      · exact absurd rfl hne
      · exact hseparated tx j tx' paymentId heq hread hj' hold' hread' htarget
    · rcases holder_hold hj with ⟨rfl, heq⟩ | ⟨hj', hold'⟩
      · intro htarget'
        exact hseparated tx' i tx paymentId heq hread' hi' hold hread htarget' htarget
      · exact h.separated i j tx tx' paymentId hne hold hold' hread hread' htarget

/-- Who counts the transaction's payment at its read is on the list. -/
theorem phaseInvariant_read {s : Store} (hrecorded : VerifiedRecorded s) :
    PhaseInvariant s caseId tx.target tx.row (.read s.listThatCountedPayment) := by
  intro j d paymentId hd hverified _
  obtain ⟨hamount, -⟩ := hrecorded j d paymentId hd hverified
  refine Table.mem_idsWhere.mpr ⟨d, hd, ?_⟩
  simp [hverified, hamount]

/-- What a transaction writes after its read. -/
theorem phaseInvariant_write {s s' : Store} {counted : ℕ → ℕ → List ℕ}
    {r : RecoveryMatchResult} {c' : RecoveryCase} (hrecorded : VerifiedRecorded s)
    (h : TransactionInvariant s caseId tx) (hphase : tx.phase = .read counted)
    (hrun : (verifyLocked cfg tx.caller tx.args counted tx.row).run s = (.ok r, s'))
    (hrow : s'.cases.get? caseId = some c') :
    PhaseInvariant s caseId tx.target tx.row (.written c') := by
  have hid := h.ownCase
  subst hid
  obtain ⟨d, hd, houtcome⟩ := verifyLocked_outcome cfg tx.caller tx.args counted h.row
  rw [hrun] at hd
  obtain rfl := Option.some.inj (hd.symm.trans hrow)
  have hcredit := houtcome.row
  refine ⟨hcredit.claim.merchantId, ?_⟩
  cases hcredited : creditedPayment cfg tx.caller s tx.args counted tx.row with
  | none =>
    obtain ⟨hamount, hverified, -⟩ := hcredit.uncredited hcredited
    exact .inl ⟨hverified, hamount⟩
  | some resolved =>
    obtain ⟨paymentId, p⟩ := resolved
    obtain ⟨-, hconsiders, hmatch, -, -⟩ := creditedPayment_eq_some.mp hcredited
    obtain ⟨hamount, hverified, -⟩ := hcredit.credited hcredited
    have hguards := PassesGuards.of_evaluate hmatch
    obtain ⟨-, -, hcountedOn⟩ := passesGuard_iff.mp hconsiders.passesGuard
    have hget := resolvePayment_get? hconsiders.resolved
    -- the payment was looked up by the target of the call or of the case
    have htarget : tx.target = some paymentId := by
      have hresolved := hconsiders.resolved
      unfold resolvePayment at hresolved
      simp only [Option.bind_eq_some_iff, Option.map_eq_some_iff, Prod.mk.injEq] at hresolved
      obtain ⟨_, htarget, _, -, rfl, -⟩ := hresolved
      exact htarget
    refine .inr ⟨?_, paymentId, p, htarget, hverified, hget, hguards.merchantId, ?_⟩
    · rw [hamount]
      exact lt_min hguards.positive h.atRisk
    · intro j e he heverified
      obtain ⟨-, q, hq, hmerchant⟩ := hrecorded j e paymentId he heverified
      obtain rfl := Option.some.inj (hget.symm.trans hq)
      have hread := h.phase
      rw [hphase] at hread
      -- the list that was read still has every case that is counted now
      have hlisted := hread j e paymentId he heverified htarget
      rw [← hmerchant, hguards.merchantId] at hlisted
      exact hcountedOn j hlisted

/-- The committed row of a case after another one, or itself, was published. -/
theorem get?_publish {c' d : RecoveryCase} {j : ℕ}
    (hrow : db.committed.cases.get? caseId = some tx.row)
    (h : (db.publish caseId c').committed.cases.get? j = some d) :
    j = caseId ∧ d = c' ∨ j ≠ caseId ∧ db.committed.cases.get? j = some d := by
  change (db.committed.cases.modify caseId fun _ => c').get? j = some d at h
  by_cases hid : j = caseId
  · subst hid
    rw [Table.get?_modify_self, hrow] at h
    exact .inl ⟨rfl, (Option.some.inj h).symm⟩
  · rw [Table.get?_modify_ne _ (Ne.symm hid)] at h
    exact .inr ⟨hid, h⟩

/-- A commit publishes a row whose credit is old, or new and exclusive. -/
theorem DatabaseInvariant.publish (h : DatabaseInvariant db) {c' : RecoveryCase}
    (hholds : db.holder caseId = some tx) (hphase : tx.phase = .written c') :
    DatabaseInvariant (db.publish caseId c') := by
  have htx := h.transactions caseId tx hholds
  have hwritten := htx.phase
  rw [hphase] at hwritten
  obtain ⟨hmerchant, hcredit⟩ := hwritten
  have hread : tx.pastRead := by
    unfold Transaction.pastRead
    rw [hphase]
    exact nofun
  -- a case other than `caseId` that has the verified payment of the new row
  have hforeign : ∀ j d paymentId, j ≠ caseId → db.committed.cases.get? j = some d →
      d.verifiedPaymentId = some paymentId → c'.verifiedPaymentId ≠ some paymentId := by
    intro j d paymentId hne hd hverified hverified'
    rcases hcredit with ⟨hsame, -⟩ | hnew
    · exact hne (h.countedOnce j caseId d tx.row paymentId hd htx.row hverified
        (hsame.symm.trans hverified'))
    · obtain ⟨paymentId', p, -, hpayment, -, -, hexclusive⟩ := hnew.exclusive
      obtain rfl := Option.some.inj (hpayment.symm.trans hverified')
      exact hne (hexclusive j d hd hverified)
  constructor
  · intro i j c d paymentId hi hj hc hd
    rcases get?_publish htx.row hi with ⟨rfl, rfl⟩ | ⟨hi', hold⟩
    · rcases get?_publish htx.row hj with ⟨rfl, rfl⟩ | ⟨hj', hold'⟩
      · rfl
      · exact absurd hc (hforeign j d paymentId hj' hold' hd)
    · rcases get?_publish htx.row hj with ⟨rfl, rfl⟩ | ⟨hj', hold'⟩
      · exact absurd hd (hforeign i c paymentId hi' hold hc)
      · exact h.countedOnce i j c d paymentId hold hold' hc hd
  · intro i c paymentId hi hc
    rcases get?_publish htx.row hi with ⟨rfl, rfl⟩ | ⟨-, hold⟩
    · rcases hcredit with ⟨hsame, hamount⟩ | hnew
      · obtain ⟨hpositive, p, hp, howned⟩ :=
          h.recorded i tx.row paymentId htx.row (hsame.symm.trans hc)
        exact ⟨by rwa [hamount], p, hp, howned.trans hmerchant.symm⟩
      · obtain ⟨paymentId', p, -, hpayment, hp, howned, -⟩ := hnew.exclusive
        obtain rfl := Option.some.inj (hpayment.symm.trans hc)
        exact ⟨hnew.amount, p, hp, howned.trans hmerchant.symm⟩
    · exact h.recorded i c paymentId hold hc
  · intro j tx' hj
    have hj' : j ≠ caseId ∧ db.holder j = some tx' := by
      rcases holder_hold (show (db.hold caseId none).holder j = some tx' from hj) with
        ⟨-, hnone⟩ | hother
      · cases hnone
      · exact hother
    obtain ⟨hne, hholds'⟩ := hj'
    have htx' := h.transactions j tx' hholds'
    have hrow' : (db.publish caseId c').committed.cases.get? j = some tx'.row := by
      change (db.committed.cases.modify caseId fun _ => c').get? j = some tx'.row
      rw [Table.get?_modify_ne _ (Ne.symm hne)]
      exact htx'.row
    refine ⟨htx'.ownCase, hrow', htx'.atRisk, ?_⟩
    have hphase' := htx'.phase
    -- a new credit of the published row is not of the payment of `tx'`
    have hapart : ∀ paymentId, tx'.pastRead → tx'.target = some paymentId →
        c'.verifiedPaymentId = some paymentId →
        tx.row.verifiedPaymentId = some paymentId := by
      intro paymentId hread' htarget' hverified
      rcases hcredit with ⟨hsame, -⟩ | hnew
      · exact hsame.symm.trans hverified
      · obtain ⟨paymentId', p, htarget, hpayment, -⟩ := hnew.exclusive
        obtain rfl := Option.some.inj (hpayment.symm.trans hverified)
        exact absurd htarget (h.separated j caseId tx' tx paymentId' hne hholds' hholds hread'
          hread htarget')
    cases hp : tx'.phase with
    | locked => trivial
    | read counted =>
      rw [hp] at hphase'
      intro k e paymentId he hverified htarget
      rcases get?_publish htx.row he with ⟨rfl, rfl⟩ | ⟨-, hold⟩
      · have hread' : tx'.pastRead := by
          unfold Transaction.pastRead
          rw [hp]
          exact nofun
        rw [hmerchant]
        exact hphase' k tx.row paymentId htx.row (hapart paymentId hread' htarget hverified)
          htarget
      · exact hphase' k e paymentId hold hverified htarget
    | written d' =>
      rw [hp] at hphase'
      obtain ⟨hmerchant', hcredit'⟩ := hphase'
      refine ⟨hmerchant', hcredit'.imp_right fun hnew => ⟨hnew.amount, ?_⟩⟩
      obtain ⟨paymentId, p, htarget, hpayment, hp', howned, hexclusive⟩ := hnew.exclusive
      refine ⟨paymentId, p, htarget, hpayment, hp', howned, fun k e he hverified => ?_⟩
      rcases get?_publish htx.row he with ⟨rfl, rfl⟩ | ⟨-, hold⟩
      · have hread' : tx'.pastRead := by
          unfold Transaction.pastRead
          rw [hp]
          exact nofun
        exact hexclusive k tx.row htx.row (hapart paymentId hread' htarget hverified)
      · exact hexclusive k e hold hverified
  · intro i j t t' paymentId hne hi hj
    rcases holder_hold (show (db.hold caseId none).holder i = some t from hi) with
      ⟨-, hnone⟩ | ⟨-, hi'⟩
    · cases hnone
    rcases holder_hold (show (db.hold caseId none).holder j = some t' from hj) with
      ⟨-, hnone⟩ | ⟨-, hj'⟩
    · cases hnone
    exact h.separated i j t t' paymentId hne hi' hj'

/-- A verified payment of the next store was one of the store before. -/
theorem LeavesCredits.verified {s s' : Store} (h : LeavesCredits s s') {i paymentId : ℕ}
    {c' : RecoveryCase} (hrow : s'.cases.get? i = some c')
    (hverified : c'.verifiedPaymentId = some paymentId) :
    ∃ c, s.cases.get? i = some c ∧ c.verifiedPaymentId = some paymentId ∧
      c'.merchantId = c.merchantId ∧ c'.amountRecovered = c.amountRecovered := by
  cases hcase : s.cases.get? i with
  | none =>
    obtain ⟨-, hnone⟩ := h.opened i c' hcase hrow
    rw [hnone] at hverified
    cases hverified
  | some c =>
    obtain ⟨d, hd, hmerchant, hamount, hsame⟩ := h.kept i c hcase
    obtain rfl := Option.some.inj (hd.symm.trans hrow)
    exact ⟨c, rfl, hsame.symm.trans hverified, hmerchant, hamount⟩

/-- What leaves the credits and the locked rows alone keeps the invariant. -/
theorem DatabaseInvariant.other (h : DatabaseInvariant db) {s' : Store}
    (hleaves : LeavesCredits db.committed s')
    (hlocked : ∀ i, db.holder i ≠ none → s'.cases.get? i = db.committed.cases.get? i) :
    DatabaseInvariant { db with committed := s' } := by
  constructor
  · intro i j c d paymentId hi hj hc hd
    obtain ⟨c₀, hc₀, hverified, -, -⟩ := hleaves.verified hi hc
    obtain ⟨d₀, hd₀, hverified', -, -⟩ := hleaves.verified hj hd
    exact h.countedOnce i j c₀ d₀ paymentId hc₀ hd₀ hverified hverified'
  · intro i c paymentId hi hc
    obtain ⟨c₀, hc₀, hverified, hmerchant, hamount⟩ := hleaves.verified hi hc
    obtain ⟨hpositive, p, hp, howned⟩ := h.recorded i c₀ paymentId hc₀ hverified
    obtain ⟨p', hp', howned'⟩ := hleaves.payments paymentId p hp
    exact ⟨by rwa [hamount], p', hp', howned'.trans (howned.trans hmerchant.symm)⟩
  · intro i t hi
    have ht := h.transactions i t hi
    have hrow : s'.cases.get? i = some t.row := by
      rw [hlocked i (by rw [hi]; exact Option.some_ne_none t)]
      exact ht.row
    refine ⟨ht.ownCase, hrow, ht.atRisk, ?_⟩
    have hphase := ht.phase
    cases hp : t.phase with
    | locked => trivial
    | read counted =>
      rw [hp] at hphase
      intro j d paymentId hd hverified htarget
      obtain ⟨d₀, hd₀, hverified', hmerchant, -⟩ := hleaves.verified hd hverified
      rw [hmerchant]
      exact hphase j d₀ paymentId hd₀ hverified' htarget
    | written c' =>
      rw [hp] at hphase
      obtain ⟨hmerchant, hcredit⟩ := hphase
      refine ⟨hmerchant, hcredit.imp_right fun hnew => ⟨hnew.amount, ?_⟩⟩
      obtain ⟨paymentId, p, htarget, hpayment, hget, howned, hexclusive⟩ := hnew.exclusive
      obtain ⟨p', hget', howned'⟩ := hleaves.payments paymentId p hget
      refine ⟨paymentId, p', htarget, hpayment, hget', howned'.trans howned,
        fun j d hd hverified => ?_⟩
      obtain ⟨d₀, hd₀, hverified', -, -⟩ := hleaves.verified hd hverified
      exact hexclusive j d₀ hd₀ hverified'
  · exact h.separated

/-- Every separated statement keeps the invariant. -/
theorem DatabaseInvariant.step {statement : Statement} (h : DatabaseInvariant db)
    (hstep : Guarded (TransactionStep cfg) Separated db statement db') :
    DatabaseInvariant db' := by
  obtain ⟨hseparated, hstep⟩ := hstep
  cases hstep with
  | lock hfree hrow =>
    refine h.hold _ (fun tx heq => ?_) (fun tx j tx' paymentId heq hread => ?_)
    · cases heq
      exact ⟨rfl, hrow, hseparated _ hrow, trivial⟩
    · cases heq
      exact absurd rfl hread
  | read hholds hphase =>
    have htx := h.transactions _ _ hholds
    refine h.hold _ (fun tx heq => ?_) (fun tx j tx' paymentId heq _ hne hj hread' => ?_)
    · cases heq
      exact ⟨htx.ownCase, htx.row, htx.atRisk, phaseInvariant_read h.recorded⟩
    · cases heq
      exact hseparated _ hholds j tx' hne hj hread' paymentId
  | @write caseId tx counted r s' c' hholds hphase hrun hrow =>
    have htx := h.transactions _ _ hholds
    have hread : tx.pastRead := by
      unfold Transaction.pastRead
      rw [hphase]
      exact nofun
    refine h.hold _ (fun t heq => ?_) (fun t j tx' paymentId heq _ hne hj hread' => ?_)
    · cases heq
      have hwritten := phaseInvariant_write h.recorded htx hphase hrun hrow
      exact ⟨htx.ownCase, htx.row, htx.atRisk, hwritten⟩
    · cases heq
      exact h.separated caseId j tx tx' paymentId (Ne.symm hne) hholds hj hread hread'
  | commit hholds hphase => exact h.publish hholds hphase
  | abort hholds => exact h.hold none (fun _ => nofun) fun _ _ _ _ => nofun
  | other hleaves hlocked => exact h.other hleaves hlocked

/-- Every committed state that the steps reach from `s` counts each payment once. -/
def NeverCountedTwice (step : Database → Statement → Database → Prop) (s : Store) : Prop :=
  ∀ statements db, Run step { committed := s } statements db → CountedOnce db.committed

/-- In every run whose statements are separated, a payment is the verified payment of at
most one case in every committed state. -/
theorem neverCountedTwice (cfg : Config) (s : Store) (honce : CountedOnce s)
    (hrecorded : VerifiedRecorded s) :
    NeverCountedTwice (Guarded (TransactionStep cfg) Separated) s := by
  intro statements db hrun
  have hstart : DatabaseInvariant { committed := s } :=
    ⟨honce, hrecorded, fun _ _ h => (nomatch h), fun _ _ _ _ _ _ h => (nomatch h)⟩
  have hend := hrun.invariant (fun _ _ _ h hstep => DatabaseInvariant.step h hstep) hstart
  exact hend.countedOnce

/-! ### Two cases of one order -/

/-- Two cases of one customer, whose failed payments share an order that was then paid. -/
def sharedOrderStore : Store where
  merchants := ⟨[{}]⟩
  customers := ⟨[{ merchantId := 0 }]⟩
  payments := ⟨[
    { merchantId := 0, customerId := 0, providerOrderId := some "order_1", amount := 100000
      status := .failed },
    { merchantId := 0, customerId := 0, providerOrderId := some "order_1", amount := 100000
      status := .failed },
    { merchantId := 0, customerId := 0, providerOrderId := some "order_1", amount := 100000
      status := .captured, capturedAt := some 0 }]⟩
  cases := ⟨[sampleCase 0 100000 .detected, sampleCase 1 100000 .detected]⟩

theorem neverCountedTwice_sharedOrder :
    NeverCountedTwice (Guarded (TransactionStep defaultConfig) Separated) sharedOrderStore := by
  have hnone : ∀ i c, sharedOrderStore.cases.get? i = some c → c.verifiedPaymentId = none := by
    intro i c hcase
    match i, hcase with
    | 0, hcase => cases hcase; rfl
    | 1, hcase => cases hcase; rfl
  refine neverCountedTwice _ _ ?_ ?_
  · intro i j c d paymentId hi hj hc hd
    exact absurd (hc.symm.trans (hnone i c hi)) (Option.some_ne_none _)
  · intro i c paymentId hi hc
    exact absurd (hc.symm.trans (hnone i c hi)) (Option.some_ne_none _)

/-- From the store in which nobody counts the payment, each transaction credits it. -/
theorem sharedOrder_write (caseId : ℕ) (h : caseId = 0 ∨ caseId = 1) :
    ∃ row r s' c', sharedOrderStore.cases.get? caseId = some row ∧
      (verifyLocked defaultConfig { now := 0 } { caseId := caseId, paymentId := some 2 }
        sharedOrderStore.listThatCountedPayment row).run sharedOrderStore = (.ok r, s') ∧
      s'.cases.get? caseId = some c' ∧ c'.verifiedPaymentId = some 2 := by
  have hverified : (match (verifyCase defaultConfig { now := 0 }
      { caseId := caseId, paymentId := some 2 }).run sharedOrderStore with
      | (.ok _, s') => (s'.cases.get? caseId).bind (·.verifiedPaymentId)
      | (.error _, _) => none) = some 2 := by
    rcases h with rfl | rfl <;> decide +kernel
  obtain ⟨row, hrow⟩ : ∃ row, sharedOrderStore.cases.get? caseId = some row := by
    rcases h with rfl | rfl <;> exact ⟨_, rfl⟩
  rw [run_verifyCase _ _ hrow] at hverified
  split at hverified
  · rename_i r s' hrun
    obtain ⟨c', hc', hpayment⟩ := Option.bind_eq_some_iff.mp hverified
    exact ⟨row, r, s', c', hrow, hrun, hc', hpayment⟩
  · cases hverified

/-- Both transactions read before either commits, and both cases count the payment. -/
theorem sharedOrder_countedTwice :
    ¬ NeverCountedTwice (TransactionStep defaultConfig) sharedOrderStore := by
  intro honce
  obtain ⟨row, r, s, c, hrow, hrun, hc, hverified⟩ := sharedOrder_write 0 (.inl rfl)
  obtain ⟨row', r', s', c', hrow', hrun', hc', hverified'⟩ := sharedOrder_write 1 (.inr rfl)
  have hstart : Run (TransactionStep defaultConfig) { committed := sharedOrderStore } []
      { committed := sharedOrderStore } := .nil
  have hlocked := (hstart.snoc (i := .lock { now := 0 } { caseId := 0, paymentId := some 2 })
    (.lock rfl hrow)).snoc (i := .lock { now := 0 } { caseId := 1, paymentId := some 2 })
    (.lock rfl hrow')
  have hread := (hlocked.snoc (i := .read 0) (.read rfl rfl)).snoc (i := .read 1) (.read rfl rfl)
  have hwritten := (hread.snoc (i := .write 0) (.write rfl rfl hrun hc)).snoc (i := .write 1)
    (.write rfl rfl hrun' hc')
  have hcommitted := (hwritten.snoc (i := .commit 0) (.commit rfl rfl)).snoc (i := .commit 1)
    (.commit rfl rfl)
  have hsame := honce _ _ hcommitted 0 1 c c' 2 rfl rfl hverified hverified'
  cases hsame

end ReviveX
