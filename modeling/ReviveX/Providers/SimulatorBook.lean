import ReviveX.Lib.Runs
import ReviveX.Providers.SimulationTheorems
import Mathlib.Logic.Function.Basic

/-!
# The memory of a simulator

A book of what the callers of one instance were told: payments and links as they were told last,
and the payments in the order they were made. Four dictionaries of the instance hold no more and no
less: every fetch answers from the book. Where the digest tells texts apart, a payment is what was
made, or its one refund.
-/

namespace ReviveX

open Lib (Run Session)

/-! ## Calls and the book -/

/-- A call that may write. -/
inductive SimulatorWrite
  | createOrder (request : CreateOrderRequest)
  | createPayment (request : CreatePaymentRequest)
  | refundPayment (providerPaymentId : String)
  | createPaymentLink (request : CreatePaymentLinkRequest)
  | cancelPaymentLink (providerPaymentLinkId : String)

/-- What the callers know. -/
structure SimulatorBook where
  /-- The orders that were made or named. -/
  orders : List String := []
  /-- The payments, as they were made. -/
  made : List PaymentSnapshot := []
  payment : String → Option PaymentSnapshot := fun _ => none
  link : String → Option PaymentLinkSnapshot := fun _ => none

namespace SimulatorBook

variable (book : SimulatorBook)

def noteOrder (order : OrderSnapshot) : SimulatorBook :=
  { book with orders := book.orders ++ [order.providerOrderId] }

def noteRefund (p : PaymentSnapshot) : SimulatorBook :=
  { book with payment := Function.update book.payment p.providerPaymentId (some p) }

def notePayment (p : PaymentSnapshot) : SimulatorBook :=
  { book.noteRefund p with
    orders := book.orders ++ p.providerOrderId.toList
    made := book.made ++ [p] }

def noteLink (link : PaymentLinkSnapshot) : SimulatorBook :=
  { book with link := Function.update book.link link.providerPaymentLinkId (some link) }

/-- The payments that were made for an order. -/
def madeFor (orderId : String) : List PaymentSnapshot :=
  book.made.filter fun p => p.providerOrderId = some orderId

/-- The payments of an order, as they were told last. -/
def paymentsOf (orderId : String) : List PaymentSnapshot :=
  (book.madeFor orderId).filterMap fun p => book.payment p.providerPaymentId

end SimulatorBook

/-- An instance and the book of its callers. -/
structure SimulatorWorld where
  sim : LocalSimulationProvider
  book : SimulatorBook := {}

/-- The instance after a call, and the answer noted. -/
def SimulatorWorld.after {α : Type} (w : SimulatorWorld)
    (result : Except ProviderError α × LocalSimulationProvider)
    (note : SimulatorBook → α → SimulatorBook) : SimulatorWorld where
  sim := result.2
  book :=
    match result.1 with
    | .ok answer => note w.book answer
    | .error _ => w.book

/-- A call, at the instant that `env` has. -/
def SimulatorWrite.perform (env : SimulatorRuntime) (w : SimulatorWorld) :
    SimulatorWrite → SimulatorWorld
  | .createOrder request =>
    w.after ((LocalSimulationProvider.createOrder env request).run w.sim) SimulatorBook.noteOrder
  | .createPayment request =>
    w.after ((LocalSimulationProvider.createPayment env request).run w.sim)
      SimulatorBook.notePayment
  | .refundPayment paymentId =>
    w.after ((LocalSimulationProvider.refundPayment env paymentId).run w.sim)
      SimulatorBook.noteRefund
  | .createPaymentLink request =>
    w.after ((LocalSimulationProvider.createPaymentLink env request).run w.sim)
      SimulatorBook.noteLink
  | .cancelPaymentLink linkId =>
    w.after ((LocalSimulationProvider.cancelPaymentLink linkId).run w.sim) SimulatorBook.noteLink

/-- The lock lets one call through after the other. -/
def SimulatorStep (env : SimulatorRuntime) (w : SimulatorWorld) (call : Time × SimulatorWrite)
    (w' : SimulatorWorld) : Prop :=
  w' = call.2.perform { env with now := call.1 } w

/-! ## What the dictionaries hold -/

namespace LocalSimulationProvider

/-- The order is in one of the dictionaries. -/
def Knows (sim : LocalSimulationProvider) (orderId : String) : Prop :=
  (sim.orders.lookup orderId).isSome = true ∨ (sim.orderPayments.lookup orderId).isSome = true

/-- The payments that are listed under an order. -/
def listed (sim : LocalSimulationProvider) (orderId : String) : List String :=
  (sim.orderPayments.lookup orderId).getD []

/-- What the making of an order does to an instance. -/
structure Ordered (sim sim' : LocalSimulationProvider) (orderId : String) : Prop where
  seed : sim'.seed = sim.seed
  sequence : sim.sequence ≤ sim'.sequence
  payments : sim'.payments = sim.payments
  paymentLinks : sim'.paymentLinks = sim.paymentLinks
  knows : ∀ o, sim'.Knows o ↔ sim.Knows o ∨ o = orderId
  listed : ∀ o, sim'.listed o = sim.listed o

end LocalSimulationProvider

open LocalSimulationProvider

variable {env : SimulatorRuntime} {sim sim' : LocalSimulationProvider} {w w' : SimulatorWorld}
  {book : SimulatorBook}

theorem lookup_insert_isSome {α : Type} (m : AList (fun _ : String => α)) (k k' : String) (a : α) :
    ((m.insert k a).lookup k').isSome = true ↔ (m.lookup k').isSome = true ∨ k' = k := by
  by_cases h : k' = k
  · rw [h, AList.lookup_insert]
    simp
  · rw [AList.lookup_insert_ne h]
    simp [h]

theorem lookup_listPayments (m : AList (fun _ : String => List String)) (o o' : String)
    (ids : List String) :
    ((listPayments m o ids).lookup o').getD [] =
      (m.lookup o').getD [] ++ if o' = o then ids else [] := by
  unfold listPayments
  by_cases h : o' = o
  · rw [h, AList.lookup_insert, if_pos rfl]
    rfl
  · rw [AList.lookup_insert_ne h, if_neg h, List.append_nil]

theorem createOrder_ordered (env : SimulatorRuntime) (request : CreateOrderRequest)
    (sim : LocalSimulationProvider) :
    ∃ order sim', (createOrder env request).run sim = (.ok order, sim') ∧
      Ordered sim sim' order.providerOrderId := by
  refine ⟨_, _, rfl, rfl, Nat.le_succ _, rfl, rfl, fun o => ?_, fun o => ?_⟩
  · show ((AList.insert _ _ sim.orders).lookup o).isSome = true ∨
      ((listPayments sim.orderPayments _ []).lookup o).isSome = true ↔ _
    unfold listPayments Knows
    rw [lookup_insert_isSome, lookup_insert_isSome]
    tauto
  · show ((listPayments sim.orderPayments _ []).lookup o).getD [] = _
    rw [lookup_listPayments]
    unfold listed
    split <;> simp

/-- The order of a payment is known from then on. -/
theorem orderOf_ordered (env : SimulatorRuntime) (request : CreatePaymentRequest)
    (sim : LocalSimulationProvider) :
    ∃ orderId sim', (LocalSimulationProvider.orderOf env request).run sim = (.ok orderId, sim') ∧
      Ordered sim sim' orderId := by
  unfold LocalSimulationProvider.orderOf
  cases request.providerOrderId with
  | none =>
    obtain ⟨order, sim', hrun, hordered⟩ := createOrder_ordered env
      { merchantReference := request.merchantReference
        amount := request.amount
        currency := request.currency
        customerReference := some request.customerReference } sim
    dsimp only
    rw [Session.run_bind_ok hrun]
    exact ⟨_, _, rfl, hordered⟩
  | some orderId =>
    refine ⟨orderId, _, rfl, ?_⟩
    dsimp only
    by_cases hknown : (sim.orders.lookup orderId).isSome = true
    · rw [if_pos hknown]
      refine ⟨rfl, le_rfl, rfl, rfl, fun o => ⟨.inl, ?_⟩, fun _ => rfl⟩
      rintro (h | rfl)
      · exact h
      · exact .inl hknown
    · rw [if_neg hknown]
      refine ⟨rfl, le_rfl, rfl, rfl, fun o => ?_, fun _ => rfl⟩
      show ((AList.insert _ _ sim.orders).lookup o).isSome = true ∨ _ ↔ _
      unfold Knows
      rw [lookup_insert_isSome]
      tauto

/-- What the making of a payment does to an instance. -/
structure PaymentMade (env : SimulatorRuntime) (sim sim' : LocalSimulationProvider)
    (r : ℕ) (p : PaymentSnapshot) (orderId : String) : Prop where
  seed : sim'.seed = sim.seed
  sequence : sim.sequence < sim'.sequence
  paymentId : p.providerPaymentId = deterministicPaymentId env sim.seed r (sim.sequence + 1)
  order : p.providerOrderId = some orderId
  payments : sim'.payments = sim.payments.insert p.providerPaymentId p
  paymentLinks : sim'.paymentLinks = sim.paymentLinks
  knows : ∀ o, sim'.Knows o ↔ sim.Knows o ∨ o = orderId
  listed : ∀ o, sim'.listed o = sim.listed o ++ if o = orderId then [p.providerPaymentId] else []

theorem createPayment_made (env : SimulatorRuntime) (request : CreatePaymentRequest)
    (sim : LocalSimulationProvider) :
    ∃ p sim' orderId, (createPayment env request).run sim = (.ok p, sim') ∧
      PaymentMade env sim sim' request.merchantReference p orderId := by
  obtain ⟨orderId, sim₁, hrun, hordered⟩ :=
    orderOf_ordered env request { sim with sequence := sim.sequence + 1 }
  have hsequence : sim.sequence + 1 ≤ sim₁.sequence := hordered.sequence
  unfold createPayment nextSequence
  rw [Session.run_modifyGet_bind, Session.run_get_bind, Session.run_bind_ok hrun]
  refine ⟨_, _, orderId, rfl, hordered.seed, hsequence, rfl, rfl, ?_, hordered.paymentLinks,
    fun o => ?_, fun o => ?_⟩
  · show AList.insert _ _ sim₁.payments = _
    rw [hordered.payments]
    rfl
  · have hknows : sim₁.Knows o ↔ sim.Knows o ∨ o = orderId := hordered.knows o
    show (sim₁.orders.lookup o).isSome = true ∨
      ((listPayments sim₁.orderPayments orderId _).lookup o).isSome = true ↔ _
    unfold listPayments
    unfold Knows at hknows ⊢
    rw [lookup_insert_isSome]
    tauto
  · have hlisted : sim₁.listed o = sim.listed o := hordered.listed o
    show ((listPayments sim₁.orderPayments orderId _).lookup o).getD [] = _
    rw [lookup_listPayments, ← hlisted]
    rfl

/-- A refund that goes through, or changes nothing. -/
theorem refundPayment_cases (env : SimulatorRuntime) (paymentId : String)
    (sim : LocalSimulationProvider) :
    (∃ p, sim.payments.lookup paymentId = some p ∧ isRefundable p.status = true ∧
      (refundPayment env paymentId).run sim = (.ok (refundSnapshot env p),
        { sim with payments := sim.payments.insert paymentId (refundSnapshot env p) })) ∨
      ∃ e, (refundPayment env paymentId).run sim = (.error e, sim) := by
  unfold refundPayment
  rw [Session.run_get_bind]
  cases hrow : sim.payments.lookup paymentId with
  | none => exact .inr ⟨_, rfl⟩
  | some p =>
    dsimp only
    rw [Session.run_ite]
    by_cases hrefundable : isRefundable p.status = true
    · rw [if_pos hrefundable]
      exact .inl ⟨p, rfl, hrefundable, rfl⟩
    · rw [if_neg hrefundable]
      exact .inr ⟨_, rfl⟩

theorem cancelPaymentLink_cases (linkId : String) (sim : LocalSimulationProvider) :
    (∃ link, sim.paymentLinks.lookup linkId = some link ∧
      (cancelPaymentLink linkId).run sim = (.ok { link with status := "CANCELLED" },
        { sim with
          paymentLinks := sim.paymentLinks.insert linkId { link with status := "CANCELLED" } })) ∨
      ∃ e, (cancelPaymentLink linkId).run sim = (.error e, sim) := by
  unfold cancelPaymentLink
  rw [Session.run_get_bind]
  cases hrow : sim.paymentLinks.lookup linkId with
  | none => exact .inr ⟨_, rfl⟩
  | some link => exact .inl ⟨link, rfl, rfl⟩

/-! ## The instance holds what is in the book -/

/-- The dictionaries hold what is in the book, under the names that it has there. -/
structure Remembers (sim : LocalSimulationProvider) (book : SimulatorBook) : Prop where
  orders : ∀ o, sim.Knows o ↔ o ∈ book.orders
  listed : ∀ o, sim.listed o = (book.madeFor o).map (·.providerPaymentId)
  payment : ∀ paymentId, sim.payments.lookup paymentId = book.payment paymentId
  link : ∀ linkId, sim.paymentLinks.lookup linkId = book.link linkId
  paymentNamed : ∀ paymentId p, book.payment paymentId = some p → p.providerPaymentId = paymentId
  linkNamed : ∀ linkId link, book.link linkId = some link → link.providerPaymentLinkId = linkId

theorem lookup_insert_update {α : Type} {m : AList (fun _ : String => α)} {f : String → Option α}
    (h : ∀ k, m.lookup k = f k) (k : String) (a : α) (k' : String) :
    (m.insert k a).lookup k' = Function.update f k (some a) k' := by
  by_cases hk : k' = k
  · rw [hk, AList.lookup_insert, Function.update_self]
  · rw [AList.lookup_insert_ne hk, Function.update_of_ne hk]
    exact h k'

/-- A dictionary whose entries have their own names keeps that when an entry is written under its
own name. -/
theorem named_update {α : Type} {name : α → String} {f : String → Option α}
    (h : ∀ k a, f k = some a → name a = k) (a : α) :
    ∀ k b, Function.update f (name a) (some a) k = some b → name b = k := by
  intro k b hb
  by_cases hk : k = name a
  · rw [hk, Function.update_self] at hb
    rw [hk, Option.some.inj hb]
  · rw [Function.update_of_ne hk] at hb
    exact h k b hb

theorem remembers_start (seed : ℤ) : Remembers (getPaymentProvider seed) {} where
  orders o := by
    show (AList.lookup o ∅).isSome = true ∨ (AList.lookup o ∅).isSome = true ↔ o ∈ []
    simp
  listed _ := rfl
  payment _ := rfl
  link _ := rfl
  paymentNamed _ _ h := by cases h
  linkNamed _ _ h := by cases h

theorem after_ok {α : Type} {result : Except ProviderError α × LocalSimulationProvider} {a : α}
    (h : result = (.ok a, sim')) (note : SimulatorBook → α → SimulatorBook) :
    w.after result note = ⟨sim', note w.book a⟩ := by
  rw [h]
  rfl

theorem after_error {α : Type} {result : Except ProviderError α × LocalSimulationProvider}
    {e : ProviderError} (h : result = (.error e, w.sim))
    (note : SimulatorBook → α → SimulatorBook) : w.after result note = w := by
  rw [h]
  rfl

namespace Remembers

theorem noteOrder (h : Remembers sim book) {order : OrderSnapshot}
    (hordered : Ordered sim sim' order.providerOrderId) :
    Remembers sim' (book.noteOrder order) where
  orders o := by
    show _ ↔ o ∈ book.orders ++ [order.providerOrderId]
    rw [hordered.knows, h.orders, List.mem_append, List.mem_singleton]
  listed o := (hordered.listed o).trans (h.listed o)
  payment paymentId := by
    rw [hordered.payments]
    exact h.payment paymentId
  link linkId := by
    rw [hordered.paymentLinks]
    exact h.link linkId
  paymentNamed := h.paymentNamed
  linkNamed := h.linkNamed

theorem notePayment (h : Remembers sim book) {r : ℕ} {p : PaymentSnapshot} {orderId : String}
    (hmade : PaymentMade env sim sim' r p orderId) : Remembers sim' (book.notePayment p) where
  orders o := by
    show _ ↔ o ∈ book.orders ++ p.providerOrderId.toList
    rw [hmade.knows, h.orders, hmade.order, List.mem_append]
    simp
  listed o := by
    show _ = ((book.made ++ [p]).filter fun q => q.providerOrderId = some o).map _
    rw [hmade.listed, h.listed, List.filter_append, List.map_append]
    congr 1
    by_cases ho : o = orderId
    · rw [if_pos ho]
      simp [hmade.order, ho]
    · rw [if_neg ho]
      simp [hmade.order, Ne.symm ho]
  payment paymentId := by
    rw [hmade.payments]
    exact lookup_insert_update h.payment _ p paymentId
  link linkId := by
    rw [hmade.paymentLinks]
    exact h.link linkId
  paymentNamed := named_update h.paymentNamed p
  linkNamed := h.linkNamed

theorem noteRefund (h : Remembers sim book) {p : PaymentSnapshot} :
    Remembers { sim with payments := sim.payments.insert p.providerPaymentId p }
      (book.noteRefund p) where
  orders := h.orders
  listed := h.listed
  payment paymentId := lookup_insert_update h.payment _ p paymentId
  link := h.link
  paymentNamed := named_update h.paymentNamed p
  linkNamed := h.linkNamed

theorem noteLink (h : Remembers sim book) {link : PaymentLinkSnapshot} {sequence : ℕ} :
    Remembers
      { sim with
        sequence
        paymentLinks := sim.paymentLinks.insert link.providerPaymentLinkId link }
      (book.noteLink link) where
  orders := h.orders
  listed := h.listed
  payment := h.payment
  link linkId := lookup_insert_update h.link _ link linkId
  paymentNamed := h.paymentNamed
  linkNamed := named_update h.linkNamed link

/-- Every call keeps it. -/
theorem perform (h : Remembers w.sim w.book) (call : SimulatorWrite) :
    Remembers (call.perform env w).sim (call.perform env w).book := by
  cases call with
  | createOrder request =>
    obtain ⟨order, sim', hrun, hordered⟩ := createOrder_ordered env request w.sim
    dsimp only [SimulatorWrite.perform]
    rw [after_ok hrun]
    exact h.noteOrder hordered
  | createPayment request =>
    obtain ⟨p, sim', orderId, hrun, hmade⟩ := createPayment_made env request w.sim
    dsimp only [SimulatorWrite.perform]
    rw [after_ok hrun]
    exact h.notePayment hmade
  | refundPayment paymentId =>
    dsimp only [SimulatorWrite.perform]
    rcases refundPayment_cases env paymentId w.sim with ⟨p, hrow, -, hrun⟩ | ⟨e, hrun⟩
    · have hname : (refundSnapshot env p).providerPaymentId = paymentId :=
        h.paymentNamed paymentId p ((h.payment paymentId).symm.trans hrow)
      rw [after_ok hrun, ← hname]
      exact h.noteRefund
    · rw [after_error hrun]
      exact h
  | createPaymentLink request =>
    dsimp only [SimulatorWrite.perform]
    rw [after_ok (show (createPaymentLink env request).run w.sim = (.ok _, _) from rfl)]
    exact h.noteLink
  | cancelPaymentLink linkId =>
    dsimp only [SimulatorWrite.perform]
    rcases cancelPaymentLink_cases linkId w.sim with ⟨link, hrow, hrun⟩ | ⟨e, hrun⟩
    · have hname : link.providerPaymentLinkId = linkId :=
        h.linkNamed linkId link ((h.link linkId).symm.trans hrow)
      have hcancelled := @noteLink w.sim w.book h { link with status := "CANCELLED" } w.sim.sequence
      rw [after_ok hrun, ← hname]
      exact hcancelled
    · rw [after_error hrun]
      exact h

end Remembers

/-! ## Payments are made once and refunded once -/

/-- A payment is as it was made, or its refund. -/
def PaymentSnapshot.OrRefunded (env : SimulatorRuntime) (p q : PaymentSnapshot) : Prop :=
  q = p ∨ isRefundable p.status = true ∧
    ∃ now, q = refundSnapshot { env with now } p

/-- Every payment that was made is there under an identifier of its own, as it was made or
refunded, and there are no others. -/
structure SimulatorBook.Accounts (env : SimulatorRuntime) (book : SimulatorBook) : Prop where
  distinct : (book.made.map (·.providerPaymentId)).Nodup
  current : ∀ p ∈ book.made, ∃ q, book.payment p.providerPaymentId = some q ∧ p.OrRefunded env q
  covered : ∀ paymentId q, book.payment paymentId = some q →
    ∃ p ∈ book.made, p.providerPaymentId = paymentId

/-- What holds in every state of a run. -/
structure SimulatorInvariant (env : SimulatorRuntime) (seed : ℤ) (w : SimulatorWorld) : Prop
    extends Remembers w.sim w.book, w.book.Accounts env where
  seed_eq : w.sim.seed = seed
  numbered : ∀ p ∈ w.book.made, ∃ r n, n ≤ w.sim.sequence ∧
    p.providerPaymentId = deterministicPaymentId env seed r n

namespace SimulatorInvariant

variable {seed : ℤ}

theorem start (env : SimulatorRuntime) (seed : ℤ) :
    SimulatorInvariant env seed { sim := getPaymentProvider seed } where
  toRemembers := remembers_start seed
  distinct := List.nodup_nil
  current _ hp := absurd hp List.not_mem_nil
  covered _ _ h := by cases h
  seed_eq := rfl
  numbered _ hp := absurd hp List.not_mem_nil

/-- Other calls leave the payments alone. -/
theorem quiet (h : SimulatorInvariant env seed w) (hremembers : Remembers w'.sim w'.book)
    (hmade : w'.book.made = w.book.made) (hpayment : w'.book.payment = w.book.payment)
    (hseed : w'.sim.seed = w.sim.seed) (hsequence : w.sim.sequence ≤ w'.sim.sequence) :
    SimulatorInvariant env seed w' where
  toRemembers := hremembers
  distinct := by
    rw [hmade]
    exact h.distinct
  current := by
    rw [hmade, hpayment]
    exact h.current
  covered := by
    rw [hmade, hpayment]
    exact h.covered
  seed_eq := hseed.trans h.seed_eq
  numbered p hp := by
    rw [hmade] at hp
    obtain ⟨r, n, hn, hid⟩ := h.numbered p hp
    exact ⟨r, n, hn.trans hsequence, hid⟩

/-- A payment is made under an identifier that no other one has. -/
theorem made (hdigest : Function.Injective env.digest) (h : SimulatorInvariant env seed w) {r : ℕ}
    {p : PaymentSnapshot} {orderId : String} (hmade : PaymentMade env w.sim sim' r p orderId) :
    SimulatorInvariant env seed ⟨sim', w.book.notePayment p⟩ := by
  have hnew : ∀ q ∈ w.book.made, q.providerPaymentId ≠ p.providerPaymentId := by
    intro q hq heq
    obtain ⟨r', n, hn, hid⟩ := h.numbered q hq
    rw [heq, hmade.paymentId, h.seed_eq] at hid
    -- its number is the next one
    have hnumber := (deterministicPaymentId_inj hdigest hid).2
    omega
  refine ⟨h.toRemembers.notePayment hmade, ⟨?_, ?_, ?_⟩, hmade.seed.trans h.seed_eq, ?_⟩
  · show ((w.book.made ++ [p]).map (·.providerPaymentId)).Nodup
    rw [List.map_append, List.nodup_append]
    refine ⟨h.distinct, List.nodup_cons.mpr ⟨List.not_mem_nil, List.nodup_nil⟩, ?_⟩
    intro a ha b hb hab
    obtain ⟨q, hq, rfl⟩ := List.mem_map.mp ha
    obtain rfl := List.mem_singleton.mp hb
    exact hnew q hq hab
  · intro q hq
    show ∃ q', Function.update w.book.payment p.providerPaymentId (some p) q.providerPaymentId =
      some q' ∧ _
    rcases List.mem_append.mp hq with hold | hlast
    · rw [Function.update_of_ne (hnew q hold)]
      exact h.current q hold
    · obtain rfl := List.mem_singleton.mp hlast
      rw [Function.update_self]
      exact ⟨q, rfl, .inl rfl⟩
  · intro paymentId q hq
    by_cases hid : paymentId = p.providerPaymentId
    · exact ⟨p, List.mem_append_right _ (List.mem_singleton_self p), hid.symm⟩
    · have hold : w.book.payment paymentId = some q := by
        rw [← hq]
        exact (Function.update_of_ne hid _ _).symm
      obtain ⟨q', hq', hname⟩ := h.covered paymentId q hold
      exact ⟨q', List.mem_append_left _ hq', hname⟩
  · intro q hq
    have hsequence := hmade.sequence
    rcases List.mem_append.mp hq with hold | hlast
    · obtain ⟨r', n, hn, hid⟩ := h.numbered q hold
      exact ⟨r', n, by show n ≤ sim'.sequence; omega, hid⟩
    · obtain rfl := List.mem_singleton.mp hlast
      refine ⟨r, w.sim.sequence + 1, hsequence, ?_⟩
      rw [hmade.paymentId, h.seed_eq]

/-- Only a payment that is as it was made can be refunded. -/
theorem refunded (h : SimulatorInvariant env seed w) {paymentId : String} {q : PaymentSnapshot}
    {now : Time} (hrow : w.book.payment paymentId = some q)
    (hrefundable : isRefundable q.status = true)
    (hremembers : Remembers w'.sim w'.book)
    (hbook : w'.book = w.book.noteRefund (refundSnapshot { env with now } q))
    (hseed : w'.sim.seed = w.sim.seed) (hsequence : w'.sim.sequence = w.sim.sequence) :
    SimulatorInvariant env seed w' := by
  have hname : q.providerPaymentId = paymentId := h.paymentNamed paymentId q hrow
  -- a payment is refunded once: one that can be refunded is still as it was made
  have hasMade : ∀ p ∈ w.book.made, p.providerPaymentId = paymentId → q = p := by
    intro p hp hid
    obtain ⟨q', hq', hcurrent⟩ := h.current p hp
    rw [hid, hrow] at hq'
    obtain rfl := Option.some.inj hq'
    rcases hcurrent with hsame | ⟨-, t, hrefund⟩
    · exact hsame
    · rw [hrefund] at hrefundable
      cases hrefundable
  have hpayment : w'.book.payment =
      Function.update w.book.payment paymentId (some (refundSnapshot { env with now } q)) := by
    rw [hbook, ← hname]
    rfl
  have hmade : w'.book.made = w.book.made := by
    rw [hbook]
    rfl
  refine ⟨hremembers, ⟨?_, ?_, ?_⟩, hseed.trans h.seed_eq, ?_⟩
  · rw [hmade]
    exact h.distinct
  · intro p hp
    rw [hmade] at hp
    rw [hpayment]
    by_cases hid : p.providerPaymentId = paymentId
    · obtain rfl := hasMade p hp hid
      rw [hid, Function.update_self]
      exact ⟨_, rfl, .inr ⟨hrefundable, now, rfl⟩⟩
    · rw [Function.update_of_ne hid]
      exact h.current p hp
  · intro k p hk
    rw [hmade]
    rw [hpayment] at hk
    by_cases hid : k = paymentId
    · exact h.covered k q (by rw [hid, hrow])
    · rw [Function.update_of_ne hid] at hk
      exact h.covered k p hk
  · intro p hp
    rw [hmade] at hp
    rw [hsequence]
    exact h.numbered p hp

/-- Every call keeps the invariant. -/
theorem perform (hdigest : Function.Injective env.digest) (h : SimulatorInvariant env seed w)
    (now : Time) (call : SimulatorWrite) :
    SimulatorInvariant env seed (call.perform { env with now } w) := by
  have hremembers : Remembers (call.perform { env with now } w).sim
      (call.perform { env with now } w).book := h.toRemembers.perform call
  cases call with
  | createOrder request =>
    obtain ⟨order, sim', hrun, hordered⟩ := createOrder_ordered { env with now } request w.sim
    dsimp only [SimulatorWrite.perform] at hremembers ⊢
    rw [after_ok hrun] at hremembers ⊢
    exact h.quiet hremembers rfl rfl hordered.seed hordered.sequence
  | createPayment request =>
    obtain ⟨p, sim', orderId, hrun, hmade⟩ := createPayment_made { env with now } request w.sim
    dsimp only [SimulatorWrite.perform]
    rw [after_ok hrun]
    exact h.made hdigest ⟨hmade.seed, hmade.sequence, hmade.paymentId, hmade.order, hmade.payments,
      hmade.paymentLinks, hmade.knows, hmade.listed⟩
  | refundPayment paymentId =>
    dsimp only [SimulatorWrite.perform] at hremembers ⊢
    rcases refundPayment_cases { env with now } paymentId w.sim with
      ⟨p, hrow, hrefundable, hrun⟩ | ⟨e, hrun⟩
    · rw [after_ok hrun] at hremembers ⊢
      exact h.refunded ((h.payment paymentId).symm.trans hrow) hrefundable hremembers rfl rfl rfl
    · rw [after_error hrun]
      exact h
  | createPaymentLink request =>
    have hrun : (createPaymentLink { env with now } request).run w.sim = (.ok _, _) := rfl
    dsimp only [SimulatorWrite.perform] at hremembers ⊢
    rw [after_ok hrun] at hremembers ⊢
    exact h.quiet hremembers rfl rfl rfl (Nat.le_succ _)
  | cancelPaymentLink linkId =>
    dsimp only [SimulatorWrite.perform] at hremembers ⊢
    rcases cancelPaymentLink_cases linkId w.sim with ⟨link, hrow, hrun⟩ | ⟨e, hrun⟩
    · rw [after_ok hrun] at hremembers ⊢
      exact h.quiet hremembers rfl rfl rfl le_rfl
    · rw [after_error hrun]
      exact h

end SimulatorInvariant

/-! ## Runs -/

/-- Every fetch answers from the book, and changes nothing. -/
structure AnswersFromBook (w : SimulatorWorld) : Prop where
  payment : ∀ paymentId, (fetchPayment paymentId).run w.sim =
    ((w.book.payment paymentId).elim (.error (providerNotFoundError "payment" paymentId)) .ok,
      w.sim)
  link : ∀ linkId, (fetchPaymentLink linkId).run w.sim =
    ((w.book.link linkId).elim (.error (providerNotFoundError "payment_link" linkId)) .ok, w.sim)
  order : ∀ orderId, (fetchOrderPayments orderId).run w.sim =
    (if orderId ∈ w.book.orders then .ok (w.book.paymentsOf orderId)
      else .error (providerNotFoundError "order" orderId), w.sim)

theorem Remembers.answers (h : Remembers w.sim w.book) : AnswersFromBook w where
  payment paymentId := by
    unfold fetchPayment
    rw [Session.run_get_bind, h.payment]
    cases w.book.payment paymentId with
    | _ => rfl
  link linkId := by
    unfold fetchPaymentLink
    rw [Session.run_get_bind, h.link]
    cases w.book.link linkId with
    | _ => rfl
  order orderId := by
    have hunknown : ((w.sim.orders.lookup orderId).isNone &&
        (w.sim.orderPayments.lookup orderId).isNone) = true ↔ orderId ∉ w.book.orders := by
      rw [← h.orders]
      unfold Knows
      cases w.sim.orders.lookup orderId <;> cases w.sim.orderPayments.lookup orderId <;> simp
    have hlisted := h.listed orderId
    unfold LocalSimulationProvider.listed at hlisted
    unfold fetchOrderPayments
    rw [Session.run_get_bind, Session.run_ite]
    by_cases hthere : orderId ∈ w.book.orders
    · rw [if_pos hthere, if_neg fun hnone => hunknown.mp hnone hthere]
      show (Except.ok (List.filterMap _ ((w.sim.orderPayments.lookup orderId).getD [])), _) = _
      rw [hlisted, List.filterMap_map]
      unfold SimulatorBook.paymentsOf
      congr 3
      funext p
      exact h.payment p.providerPaymentId
    · rw [if_neg hthere, if_pos (hunknown.mpr hthere)]
      rfl

/-- Texts are their own digests. -/
def transparentSimulation : SimulatorRuntime where
  digest := id
  uuid5 := id
  draw _ := 0
  float := id
  now := 0
  jsonTime _ := "1970-01-01T00:00:00Z"

/-- A captured payment of ₹499. -/
def capturedRequest : CreatePaymentRequest where
  merchantReference := 0
  amount := 49900
  currency := "INR"
  customerReference := 0
  providerOrderId := some "order_1"
  attemptNumber := 1
  lifetimeValue := 0
  intendedStatus := some "CAPTURED"
  failureReason := none
  originalProviderPaymentId := none
  idempotencyKey := "key"

def refundTwice : List (Time × SimulatorWrite) :=
  [(1, .createPayment capturedRequest), (2, .refundPayment "pay_sim_42:pay:0:1"),
    (3, .refundPayment "pay_sim_42:pay:0:1")]

def refundedWorld : SimulatorWorld :=
  refundTwice.foldl
    (fun w call => call.2.perform { transparentSimulation with now := call.1 } w)
    { sim := getPaymentProvider 42 }

end ReviveX
