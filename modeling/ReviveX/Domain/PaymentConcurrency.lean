import ReviveX.Domain.OrderTheorems
import Mathlib.Logic.Function.Basic

/-!
# Concurrent events of one payment

`process_webhook_event` locks the row of its event, not the payment: it reads the payment,
then the highest attempt number, and writes both when it commits. Other transactions of the
payment may commit in between. A transaction that read its number before another one commits
runs into the uniqueness of attempt numbers and is retried; one that read the payment before
and its number after overwrites what was committed.

Below `PaymentView` is what is committed of the payment, `process` is one event alone, and an
`EventStep` is one statement of one of the transactions.
-/

namespace ReviveX

open Lib (Guarded Run Table)

/-! ## One event alone -/

/-- The row of a payment and its attempts, as they are committed. -/
structure PaymentView where
  row : Option Payment
  attempts : List PaymentAttempt
deriving DecidableEq

/-- What is committed of the payment of a key. -/
def Store.paymentView (s : Store) (key : ProviderKey) (paymentId : ℕ) : PaymentView where
  row := s.paymentRow key
  attempts := s.paymentAttempts.rows.filter fun a => a.paymentId = paymentId

/-- `next_attempt_number`, of the attempts that are committed. -/
def PaymentView.nextNumber (v : PaymentView) : ℤ :=
  (v.attempts.map (·.attemptNumber)).max?.getD 0 + 1

/-- The transaction of an event: its amount as it is stored, and the customer it resolves. -/
structure EventTransaction where
  event : DomainPaymentEvent
  amount : Money
  customerId : ℕ
  stored : storeAmount event.amount = .ok amount

namespace EventTransaction

/-- The row that the event inserts. -/
def inserted (t : EventTransaction) : Payment :=
  t.event.newPayment t.customerId t.event.status t.amount

/-- The row that the event makes of the row it read. -/
def computed (t : EventTransaction) (read : Payment) : Payment :=
  read.receive t.event t.event.status t.amount

/-- The attempt that the event adds. -/
def attempt (t : EventTransaction) (paymentId : ℕ) (number : ℤ) : PaymentAttempt :=
  t.event.attempt paymentId number t.event.status t.amount

end EventTransaction

/-- One event, run alone. -/
def PaymentView.process (paymentId : ℕ) (v : PaymentView) (t : EventTransaction) :
    PaymentView where
  row := some (v.row.elim t.inserted t.computed)
  attempts := v.attempts ++ [t.attempt paymentId v.nextNumber]

/-- This is what the service does to the payment of the event. -/
theorem EventApplied.paymentView {e : DomainPaymentEvent} {s s' : Store}
    (h : EventApplied e s s') :
    ∃ t : EventTransaction, t.event = e ∧
      (s.paymentOfKey e.key = none → resolveCustomer s e = .ok t.customerId) ∧
      ∃ i, i = (s.paymentOfKey e.key).getD s.payments.nextId ∧
        s'.paymentOfKey e.key = some i ∧
        s'.paymentView e.key i = (s.paymentView e.key i).process i t := by
  obtain ⟨amount, hamount, i, hattempts, hwritten⟩ := h.written
  have hfilter : ∀ a : PaymentAttempt, a.paymentId = i →
      (s.paymentAttempts.insert a).rows.filter (fun a => a.paymentId = i) =
        s.paymentAttempts.rows.filter (fun a => a.paymentId = i) ++ [a] := by
    intro a ha
    unfold Table.insert
    rw [List.filter_append, List.filter_singleton]
    simp [ha]
  -- the transaction reads the view, and found the payment or created it
  rcases hwritten with ⟨hfound, hpayments⟩ | ⟨hnone, hi, customerId, hcustomer, hpayments⟩
  · obtain ⟨p, hp, hrow, -⟩ := paymentRow_of_paymentOfKey hfound
    have hids : s'.paymentOfKey e.key = some i := by
      rw [paymentOfKey_eq, hpayments,
        Table.findId?_modify _ _ fun p => hasKey_receive p e e.status amount e.key,
        ← paymentOfKey_eq, hfound]
    refine ⟨⟨e, amount, 0, hamount⟩, rfl, ?_, i, by rw [hfound]; rfl, hids, ?_⟩
    · intro hnone
      rw [hnone] at hfound
      cases hfound
    · unfold Store.paymentView PaymentView.process
      rw [hattempts, hfilter _ rfl, hrow]
      unfold Store.paymentRow
      rw [hids, hpayments]
      simp only [Option.bind_some, Table.get?_modify_self, hp, Option.map_some, Option.elim_some]
      rfl
  · have hids : s'.paymentOfKey e.key = some i := by
      rw [paymentOfKey_eq, hpayments, Table.findId?_insert, hasKey_newPayment, ← paymentOfKey_eq,
        hnone, hi]
      simp
    have hrow : s.paymentRow e.key = none := by
      unfold Store.paymentRow
      rw [hnone]
      rfl
    refine ⟨⟨e, amount, customerId, hamount⟩, rfl, fun _ => hcustomer, i,
      by rw [hnone, hi]; rfl, hids, ?_⟩
    unfold Store.paymentView PaymentView.process
    rw [hattempts, hfilter _ rfl, hrow]
    unfold Store.paymentRow
    rw [hids, hpayments, hi]
    simp only [Option.bind_some, Table.get?_insert_nextId, Option.elim_none]
    rfl

/-! ## Statements -/

/-- A column is sent to the database when it changed since the row was read. -/
def column {α : Type} [DecidableEq α] (read computed current : α) : α :=
  if computed = read then current else computed

@[simp] theorem column_self {α : Type} [DecidableEq α] (read computed : α) :
    column read computed read = computed := by
  unfold column
  split
  · rename_i h
    exact h.symm
  · rfl

/-- The `UPDATE` of the payment: the columns that changed, on the row that is there now. -/
def EventTransaction.update (t : EventTransaction) (read current : Payment) : Payment :=
  { current with
    status := column read.status (t.computed read).status current.status
    providerOrderId :=
      column read.providerOrderId (t.computed read).providerOrderId current.providerOrderId
    failureCode := column read.failureCode (t.computed read).failureCode current.failureCode
    failedAt := column read.failedAt (t.computed read).failedAt current.failedAt
    capturedAt := column read.capturedAt (t.computed read).capturedAt current.capturedAt
    -- the amount is compared as it was sent, before it is rounded
    amount :=
      if t.event.status = .captured ∧ (read.amount : ℚ) ≠ t.event.amount * 100 then t.amount
      else current.amount
    paymentMethod :=
      column read.paymentMethod (t.computed read).paymentMethod current.paymentMethod }

/-- A whole number of paise is stored as it is. -/
theorem storeAmount_paise {q : ℚ} {amount n : ℕ} (h : storeAmount q = .ok amount)
    (hn : (n : ℚ) = q * 100) : amount = n := by
  have hq : 0 ≤ q := by
    have hpos : (0 : ℚ) ≤ n := Nat.cast_nonneg n
    linarith
  have hfloor : ⌊q * 100 + 1 / 2⌋ = (n : ℤ) := by
    rw [← hn, Int.floor_eq_iff]
    constructor
    · push_cast
      linarith
    · push_cast
      linarith
  unfold storeAmount at h
  dsimp only at h
  rw [if_pos hq, hfloor] at h
  split at h
  · cases h
  · split at h
    · cases h
    · have hsame := Except.ok.inj h
      simpa using hsame.symm

/-- On the row that was read, the `UPDATE` writes the row that was computed. -/
theorem EventTransaction.update_self (t : EventTransaction) (read : Payment) :
    t.update read read = t.computed read := by
  have hamount : (if t.event.status = .captured ∧ (read.amount : ℚ) ≠ t.event.amount * 100 then
      t.amount else read.amount) = (t.computed read).amount := by
    unfold EventTransaction.computed Payment.receive
    dsimp only
    by_cases hcaptured : t.event.status = .captured
    · by_cases hpaise : (read.amount : ℚ) = t.event.amount * 100
      · simp [hcaptured, hpaise, storeAmount_paise t.stored hpaise]
      · simp [hcaptured, hpaise]
    · simp [hcaptured]
  unfold EventTransaction.update
  simp only [column_self, hamount]
  rfl

/-- How far a transaction has come. -/
inductive EventStage
  | started
  /-- It has read the row of the payment, or that there is none. -/
  | read (row : Option Payment)
  /-- It has read the next attempt number. -/
  | numbered (row : Option Payment) (number : ℤ)
  | committed

/-- What is committed, the transactions, and the order in which they committed, which no
statement reads. -/
structure EventDatabase where
  view : PaymentView
  stage : ℕ → EventStage := fun _ => .started
  order : List ℕ := []

def EventDatabase.setStage (db : EventDatabase) (i : ℕ) (stage : EventStage) : EventDatabase :=
  { db with stage := Function.update db.stage i stage }

/-- The statements of the transactions that touch the payment. -/
inductive EventStatement
  | readPayment (i : ℕ)
  | readNumber (i : ℕ)
  | commit (i : ℕ)
  | rollback (i : ℕ)

/-- Payments are unique by their key, attempts by payment and number. -/
def PaymentView.Conflicts (v : PaymentView) (read : Option Payment) (number : ℤ) : Prop :=
  (read = none ∧ v.row ≠ none) ∨ ∃ a ∈ v.attempts, a.attemptNumber = number

/-- What a commit leaves: the inserted or updated row, and the attempt. -/
def PaymentView.write (paymentId : ℕ) (v : PaymentView) (t : EventTransaction)
    (read : Option Payment) (number : ℤ) : PaymentView where
  row :=
    match read with
    | none => some t.inserted
    | some read => v.row.map (t.update read)
  attempts := v.attempts ++ [t.attempt paymentId number]

/-- One statement of one transaction; reads see what is committed. The writes are flushed
before the commit, but until then no other transaction sees them, and the lock of the row and
the unique indexes keep the others from writing, so they take effect with the commit. A
conflict, like any other exception, rolls the transaction back, and it starts again. -/
inductive EventStep (transactions : ℕ → EventTransaction) (paymentId : ℕ) :
    EventDatabase → EventStatement → EventDatabase → Prop
  | readPayment {db : EventDatabase} {i : ℕ} (hstage : db.stage i = .started) :
      EventStep transactions paymentId db (.readPayment i) (db.setStage i (.read db.view.row))
  | readNumber {db : EventDatabase} {i : ℕ} {row : Option Payment}
      (hstage : db.stage i = .read row) :
      EventStep transactions paymentId db (.readNumber i)
        (db.setStage i (.numbered row db.view.nextNumber))
  | commit {db : EventDatabase} {i : ℕ} {row : Option Payment} {number : ℤ}
      (hstage : db.stage i = .numbered row number) (hunique : ¬ db.view.Conflicts row number) :
      EventStep transactions paymentId db (.commit i)
        { db.setStage i .committed with
          view := db.view.write paymentId (transactions i) row number
          order := db.order ++ [i] }
  | rollback {db : EventDatabase} {i : ℕ} (hstage : db.stage i ≠ .committed) :
      EventStep transactions paymentId db (.rollback i) (db.setStage i .started)

/-! ## Serial outcomes -/

/-- The transactions that committed, one after the other, leave what is committed; and a
transaction that would commit now has not read a row that was overwritten since. -/
structure SerialOutcome (transactions : ℕ → EventTransaction) (paymentId : ℕ)
    (start : PaymentView) (db : EventDatabase) : Prop where
  serial : ∃ order : List ℕ, order.Nodup ∧ (∀ i, i ∈ order ↔ db.stage i = .committed) ∧
    db.view = order.foldl (fun v i => v.process paymentId (transactions i)) start
  fresh : ∀ i read number, db.stage i = .numbered (some read) number →
    ¬ db.view.Conflicts (some read) number → db.view.row = some read

/-- Every state that the statements reach is the outcome of a serial execution. -/
def Serialisable (step : EventDatabase → EventStatement → EventDatabase → Prop)
    (transactions : ℕ → EventTransaction) (paymentId : ℕ) (start : PaymentView) : Prop :=
  ∀ statements db, Run step { view := start } statements db →
    SerialOutcome transactions paymentId start db

/-- When a transaction that found the payment reads its attempt number, the payment is still
the one it read: no other event of the payment has committed a change in between. -/
def RowStillRead (db : EventDatabase) : EventStatement → Prop
  | .readNumber i => ∀ read, db.stage i = .read (some read) → db.view.row = some read
  | _ => True

/-- A transaction with a number still stands on what is committed, or will conflict. -/
def StandsOrConflicts (v : PaymentView) : EventStage → Prop
  | .numbered row number => (v.row = row ∧ number = v.nextNumber) ∨ v.Conflicts row number
  | _ => True

structure EventInvariant (transactions : ℕ → EventTransaction) (paymentId : ℕ)
    (start : PaymentView) (db : EventDatabase) : Prop where
  nodup : db.order.Nodup
  committed : ∀ i, i ∈ db.order ↔ db.stage i = .committed
  view : db.view = db.order.foldl (fun v i => v.process paymentId (transactions i)) start
  stands : ∀ i, StandsOrConflicts db.view (db.stage i)

variable {transactions : ℕ → EventTransaction} {paymentId : ℕ} {start : PaymentView}
  {db db' : EventDatabase} {i : ℕ}

/-- A write into a view that the transaction stands on is the event run alone. -/
theorem PaymentView.write_eq_process {v : PaymentView} {t : EventTransaction}
    {row : Option Payment} {number : ℤ} (hrow : v.row = row) (hnumber : number = v.nextNumber) :
    v.write paymentId t row number = v.process paymentId t := by
  subst hrow hnumber
  unfold PaymentView.write PaymentView.process
  cases v.row with
  | none => rfl
  | some read => simp [t.update_self]

/-- Whoever stood on a view conflicts with the one that is committed over it. -/
theorem StandsOrConflicts.process {v : PaymentView} {stage : EventStage} (t : EventTransaction)
    (h : StandsOrConflicts v stage) : StandsOrConflicts (v.process paymentId t) stage := by
  cases stage with
  | numbered row number =>
    refine .inr ?_
    rcases h with ⟨-, hnumber⟩ | ⟨hnone, -⟩ | ⟨a, hmem, ha⟩
    · exact .inr ⟨t.attempt paymentId v.nextNumber, by simp [PaymentView.process],
        by rw [hnumber]; rfl⟩
    · exact .inl ⟨hnone, by simp [PaymentView.process]⟩
    · exact .inr ⟨a, by simp [PaymentView.process, hmem], ha⟩
  | _ => trivial

namespace EventInvariant

/-- A statement that commits nothing. -/
theorem setStage {stage : EventStage} (h : EventInvariant transactions paymentId start db)
    (hbefore : db.stage i ≠ .committed) (hafter : stage ≠ .committed)
    (hstands : StandsOrConflicts db.view stage) :
    EventInvariant transactions paymentId start (db.setStage i stage) where
  nodup := h.nodup
  committed j := by
    rw [show (db.setStage i stage).order = db.order from rfl, h.committed j]
    unfold EventDatabase.setStage
    by_cases hj : j = i
    · subst hj
      simp [hbefore, hafter]
    · simp [hj]
  view := h.view
  stands j := by
    show StandsOrConflicts db.view (Function.update db.stage i stage j)
    by_cases hj : j = i
    · subst hj
      rw [Function.update_self]
      exact hstands
    · rw [Function.update_of_ne hj]
      exact h.stands j

/-- A commit of a transaction that stands on what is committed. -/
theorem commit {row : Option Payment} {number : ℤ}
    (h : EventInvariant transactions paymentId start db)
    (hstage : db.stage i = .numbered row number) (hunique : ¬ db.view.Conflicts row number) :
    EventInvariant transactions paymentId start
      { db.setStage i .committed with
        view := db.view.write paymentId (transactions i) row number
        order := db.order ++ [i] } := by
  have hstands := h.stands i
  rw [hstage] at hstands
  obtain ⟨hrow, hnumber⟩ := hstands.resolve_right hunique
  have hnew : i ∉ db.order := by
    rw [h.committed i, hstage]
    exact nofun
  have hview : db.view.write paymentId (transactions i) row number =
      db.view.process paymentId (transactions i) := PaymentView.write_eq_process hrow hnumber
  rw [hview]
  refine ⟨?_, fun j => ?_, ?_, fun j => ?_⟩
  · exact List.nodup_append.mpr ⟨h.nodup, List.nodup_singleton i, by
      intro a ha b hb hab
      rw [List.mem_singleton.mp hb] at hab
      exact hnew (hab ▸ ha)⟩
  · show j ∈ db.order ++ [i] ↔ Function.update db.stage i .committed j = .committed
    by_cases hj : j = i
    · subst hj
      simp
    · rw [Function.update_of_ne hj, ← h.committed j]
      simp [hj]
  · show db.view.process paymentId (transactions i) = _
    rw [List.foldl_append, ← h.view]
    rfl
  · show StandsOrConflicts (db.view.process paymentId (transactions i))
      (Function.update db.stage i .committed j)
    by_cases hj : j = i
    · subst hj
      rw [Function.update_self]
      trivial
    · rw [Function.update_of_ne hj]
      exact (h.stands j).process _

/-- Every statement that finds the row it read keeps the invariant. -/
theorem step {statement : EventStatement} (h : EventInvariant transactions paymentId start db)
    (hstep : Guarded (EventStep transactions paymentId) RowStillRead db statement db') :
    EventInvariant transactions paymentId start db' := by
  obtain ⟨hread, hstep⟩ := hstep
  cases hstep with
  | readPayment hstage => exact h.setStage (by rw [hstage]; exact nofun) nofun trivial
  | readNumber hstage =>
    rename_i i row
    refine h.setStage (by rw [hstage]; exact nofun) nofun ?_
    by_cases hsame : db.view.row = row
    · exact .inl ⟨hsame, rfl⟩
    · -- a payment that was not there and is now conflicts by its key
      cases row with
      | none => exact .inr (.inl ⟨rfl, hsame⟩)
      | some read => exact absurd (hread read hstage) hsame
  | commit hstage hunique => exact h.commit hstage hunique
  | rollback hstage => exact h.setStage hstage nofun trivial

end EventInvariant

/-- In every run in which no other event of the payment commits between the two reads of a
transaction, the concurrent transactions are serialisable, in the order of their commits, and
none overwrites from a stale read. -/
theorem events_serialisable (transactions : ℕ → EventTransaction) (paymentId : ℕ)
    (start : PaymentView) :
    Serialisable (Guarded (EventStep transactions paymentId) RowStillRead) transactions paymentId
      start := by
  intro statements db hrun
  have hstart : EventInvariant transactions paymentId start { view := start } :=
    ⟨List.nodup_nil, fun i => by simp, rfl, fun _ => trivial⟩
  have hend := hrun.invariant (fun _ _ _ h hstep => EventInvariant.step h hstep) hstart
  refine ⟨⟨db.order, hend.nodup, hend.committed, hend.view⟩, ?_⟩
  intro i read number hstage hunique
  have hstands := hend.stands i
  rw [hstage] at hstands
  exact (hstands.resolve_right hunique).1

/-! ### A capture between the two reads of a failure -/

/-- The transaction of a report about the payment of ₹100. -/
def reportTransaction (eventType : DomainEventType) : EventTransaction where
  event := reportedEvent eventType
  amount := 10000
  customerId := 0
  stored := by
    have hfloor : ⌊(100 : ℚ) * 100 + 1 / 2⌋ = 10000 := by norm_num
    show storeAmount 100 = .ok 10000
    unfold storeAmount
    simp only [if_pos (show (0 : ℚ) ≤ 100 by norm_num), hfloor]
    rfl

/-- Transaction 0 processes a capture, every other one a failure. -/
def captureAndFailures (i : ℕ) : EventTransaction :=
  reportTransaction (if i = 0 then .paymentCaptured else .paymentFailed)

/-- The payment is created. -/
def createdView : PaymentView where
  row := some ((reportedEvent .paymentCreated).newPayment 0 .created 10000)
  attempts := []

/-- The failure reads the payment, the capture commits, and then the failure reads its
attempt number: both commit, and the capture is overwritten. -/
def overwrittenView : PaymentView :=
  let read := createdView.row
  let captured := createdView.write 0 (captureAndFailures 0) read createdView.nextNumber
  captured.write 0 (captureAndFailures 1) read captured.nextNumber

theorem staleFailure_run : ∃ statements stage,
    Run (EventStep captureAndFailures 0) { view := createdView } statements
      { view := overwrittenView, stage := stage, order := [0, 1] } ∧
    ∀ i, stage i = .committed ↔ i = 0 ∨ i = 1 := by
  have hstart : Run (EventStep captureAndFailures 0) { view := createdView } []
      { view := createdView } := .nil
  have hfailureRead := hstart.snoc (i := .readPayment 1) (.readPayment rfl)
  have hcaptureRead := (hfailureRead.snoc (i := .readPayment 0) (.readPayment rfl)).snoc
    (i := .readNumber 0) (.readNumber rfl)
  have hcaptured := hcaptureRead.snoc (i := .commit 0)
    (.commit rfl (by rintro (⟨hnone, -⟩ | ⟨a, hmem, -⟩) <;> contradiction))
  have hnumbered := hcaptured.snoc (i := .readNumber 1) (.readNumber rfl)
  have hoverwritten := hnumbered.snoc (i := .commit 1) (.commit rfl (by
    rintro (⟨hnone, -⟩ | ⟨a, hmem, ha⟩)
    · contradiction
    · obtain rfl := List.mem_singleton.mp hmem
      revert ha
      decide +kernel))
  refine ⟨_, _, hoverwritten, fun i => ?_⟩
  by_cases hone : i = 1
  · subst hone
    simp [EventDatabase.setStage]
  · by_cases hzero : i = 0
    · subst hzero
      simp [EventDatabase.setStage]
    · simp [EventDatabase.setStage, hone, hzero]

/-- Neither order of the two events leaves what the interleaving left: the payment is
`FAILED` after it was captured. -/
theorem staleFailure_not_serialisable :
    ¬ Serialisable (EventStep captureAndFailures 0) captureAndFailures 0 createdView := by
  intro hserialisable
  obtain ⟨statements, stage, hrun, hstage⟩ := staleFailure_run
  obtain ⟨order, hnodup, hcommitted, hview⟩ := (hserialisable statements _ hrun).serial
  have hmem : ∀ i, i ∈ order ↔ i = 0 ∨ i = 1 := fun i => (hcommitted i).trans (hstage i)
  have hperm : order.Perm [0, 1] :=
    (List.perm_ext_iff_of_nodup hnodup (by decide)).mpr fun i => by simp [hmem]
  match order, hperm.length_eq with
  | [a, b], _ =>
    have hne : a ≠ b := by simpa using hnodup
    have hcases : (a = 0 ∧ b = 1) ∨ (a = 1 ∧ b = 0) := by
      have ha := (hmem a).mp (by simp)
      have hb := (hmem b).mp (by simp)
      omega
    rcases hcases with ⟨rfl, rfl⟩ | ⟨rfl, rfl⟩
    · have hdiffers : overwrittenView ≠ [0, 1].foldl
          (fun v i => v.process 0 (captureAndFailures i)) createdView := by decide +kernel
      exact hdiffers hview
    · have hdiffers : overwrittenView ≠ [1, 0].foldl
          (fun v i => v.process 0 (captureAndFailures i)) createdView := by decide +kernel
      exact hdiffers hview

end ReviveX
