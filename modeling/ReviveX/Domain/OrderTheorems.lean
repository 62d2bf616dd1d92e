import ReviveX.Domain.CreditSoundness
import ReviveX.Domain.PaymentTheorems
import ReviveX.Lib.Register
import ReviveX.Lib.Runs

/-!
# The order of the events of a payment

The status column is a register with precedence: `REFUNDED` above `CAPTURED` above all others.
Below `CAPTURED` the event that is processed last decides. The one write that is not a write
of that register is a capture on a refunded payment.
-/

namespace ReviveX

open Lib (Register.level Register.write Run Session Table)

/-! ## The register -/

/-- The precedence of a status. -/
def PaymentStatus.rank : PaymentStatus → ℕ
  | .refunded => 2
  | .captured => 1
  | _ => 0

/-- From `CAPTURED` on, a precedence has one status. -/
theorem rank_unique (a b : PaymentStatus) (htop : 1 ≤ a.rank) (h : a.rank = b.rank) : a = b := by
  cases a <;> cases b <;> simp_all [PaymentStatus.rank]

/-- The status of a payment after an event, whether it was there or not. -/
def receiveInto (held : Option PaymentStatus) (incoming : PaymentStatus) :
    Option PaymentStatus :=
  some (held.elim incoming (·.receive incoming))

/-- The status is one that events report. -/
def PaymentStatus.Reported (status : PaymentStatus) : Prop :=
  ∃ eventType : DomainEventType, eventType.status = status

theorem DomainPaymentEvent.reported (e : DomainPaymentEvent) : e.status.Reported :=
  ⟨e.eventType, rfl⟩

/-- Only a capture on a refunded payment is not a write of the register. -/
theorem receiveInto_eq_write {held : Option PaymentStatus} {incoming : PaymentStatus}
    (hincoming : incoming.Reported) (h : ¬ (held = some .refunded ∧ incoming = .captured)) :
    receiveInto held incoming = Register.write PaymentStatus.rank held incoming := by
  obtain ⟨eventType, rfl⟩ := hincoming
  cases held with
  | none => rfl
  | some status =>
    revert h
    cases status <;> cases eventType <;> decide

/-- No capture is processed after a refund. -/
def NoCaptureAfterRefund (start : Option PaymentStatus) (statuses : List PaymentStatus) : Prop :=
  (start.toList ++ statuses).Pairwise fun earlier later =>
    ¬ (earlier = .refunded ∧ later = .captured)

instance (start : Option PaymentStatus) (statuses : List PaymentStatus) :
    Decidable (NoCaptureAfterRefund start statuses) :=
  inferInstanceAs (Decidable (List.Pairwise _ _))

theorem NoCaptureAfterRefund.left {start : Option PaymentStatus}
    {before after : List PaymentStatus} (h : NoCaptureAfterRefund start (before ++ after)) :
    NoCaptureAfterRefund start before := by
  unfold NoCaptureAfterRefund at h ⊢
  rw [← List.append_assoc] at h
  exact (List.pairwise_append.mp h).1

/-- The status that is written stands for the events up to there. -/
theorem NoCaptureAfterRefund.step {start : Option PaymentStatus} {incoming : PaymentStatus}
    {rest : List PaymentStatus} (h : NoCaptureAfterRefund start (incoming :: rest)) :
    ¬ (start = some .refunded ∧ incoming = .captured) ∧
      NoCaptureAfterRefund (receiveInto start incoming) rest := by
  unfold NoCaptureAfterRefund at h ⊢
  cases start with
  | none =>
    refine ⟨by simp, ?_⟩
    simpa [receiveInto] using h
  | some held =>
    simp only [Option.toList_some, List.singleton_append, List.pairwise_cons,
      List.mem_cons, forall_eq_or_imp] at h
    obtain ⟨⟨hfirst, hheld⟩, hincoming, hrest⟩ := h
    refine ⟨fun hboth => hfirst ⟨Option.some.inj hboth.1, hboth.2⟩, ?_⟩
    have hwritten : held.receive incoming = held ∨ held.receive incoming = incoming := by
      cases held <;> cases incoming <;> decide
    simp only [receiveInto, Option.elim_some, Option.toList_some, List.singleton_append,
      List.pairwise_cons]
    refine ⟨fun later hlater => ?_, hrest⟩
    rcases hwritten with hsame | hnew
    · rw [hsame]
      exact hheld later hlater
    · rw [hnew]
      exact hincoming later hlater

theorem foldl_receiveInto {start : Option PaymentStatus} {statuses : List PaymentStatus}
    (hreported : ∀ status ∈ statuses, status.Reported) (h : NoCaptureAfterRefund start statuses) :
    statuses.foldl receiveInto start =
      statuses.foldl (Register.write PaymentStatus.rank) start := by
  -- `h` passes on to the events that are left, from the status that the first one writes
  induction statuses generalizing start with
  | nil => rfl
  | cons incoming rest ih =>
    obtain ⟨hfirst, hrest⟩ := h.step
    obtain ⟨hincoming, hreported⟩ := List.forall_mem_cons.mp hreported
    rw [List.foldl_cons, List.foldl_cons, ih hreported hrest,
      receiveInto_eq_write hincoming hfirst]

/-- The status after a list of events, whatever their order from `CAPTURED` on. -/
def finalStatus (start : Option PaymentStatus) (statuses : List PaymentStatus) :
    Option PaymentStatus :=
  if start = some .refunded ∨ .refunded ∈ statuses then some .refunded
  else if start = some .captured ∨ .captured ∈ statuses then some .captured
  else statuses.getLast?.or start

/-- A status that was there, or was written, is at most the one that is reached. -/
theorem rank_le_of_reached {start : Option PaymentStatus} {statuses : List PaymentStatus}
    {status : PaymentStatus} (h : start = some status ∨ status ∈ statuses) :
    status.rank <
      Register.level PaymentStatus.rank
        (statuses.foldl (Register.write PaymentStatus.rank) start) := by
  rcases h with rfl | hmem
  · exact Lib.Register.level_le_foldl PaymentStatus.rank (some status) statuses
  · exact Lib.Register.rank_lt_level_foldl PaymentStatus.rank start hmem

theorem foldl_write_eq_finalStatus (start : Option PaymentStatus)
    (statuses : List PaymentStatus) :
    statuses.foldl (Register.write PaymentStatus.rank) start = finalStatus start statuses := by
  have hmem : ∀ status, statuses.foldl (Register.write PaymentStatus.rank) start = some status →
      start = some status ∨ status ∈ statuses := fun _ =>
    Lib.Register.foldl_mem PaymentStatus.rank start statuses
  unfold finalStatus
  split
  · -- nothing is above `REFUNDED`
    rename_i hrefunded
    have hlevel := rank_le_of_reached hrefunded
    cases hfold : statuses.foldl (Register.write PaymentStatus.rank) start with
    | none => rw [hfold] at hlevel; simp [Register.level] at hlevel
    | some status =>
      rw [hfold] at hlevel
      cases status <;> simp_all [Register.level, PaymentStatus.rank]
  · rename_i hrefunded
    split
    · -- only `REFUNDED` is above `CAPTURED`
      rename_i hcaptured
      have hlevel := rank_le_of_reached hcaptured
      cases hfold : statuses.foldl (Register.write PaymentStatus.rank) start with
      | none => rw [hfold] at hlevel; simp [Register.level] at hlevel
      | some status =>
        have hreached := hmem status hfold
        rw [hfold] at hlevel
        have hne : status ≠ .refunded := by
          rintro rfl
          exact hrefunded hreached
        cases status <;> simp_all [Register.level, PaymentStatus.rank]
    · rename_i hcaptured
      -- the rest are of one rank, where the last write stays
      have hlow : ∀ status, start = some status ∨ status ∈ statuses → status.rank = 0 := by
        intro status hreached
        cases status with
        | refunded => exact absurd hreached hrefunded
        | captured => exact absurd hreached hcaptured
        | _ => rfl
      have hstart : Register.level PaymentStatus.rank start ≤ 1 := by
        cases hs : start with
        | none => simp [Register.level]
        | some status => simp [Register.level, hlow status (.inl hs)]
      exact Lib.Register.foldl_eq_getLast PaymentStatus.rank hstart fun status hmem =>
        hlow status (.inr hmem)

/-! ## Runs of events -/

variable {env : EventText} {key : ProviderKey} {s s' s'' s₁ s₂ : Store}
  {events events' : List DomainPaymentEvent}

/-- An event of the payment of the key is processed. -/
structure Delivers (env : EventText) (key : ProviderKey) (s : Store) (e : DomainPaymentEvent)
    (s' : Store) : Prop where
  ofKey : e.key = key
  processes : Processes env s e s'

/-- The status column folds over the events in the order they are processed. -/
theorem paymentStatus_run (h : Run (Delivers env key) s events s') :
    s'.paymentStatus key =
      (events.map (·.status)).foldl receiveInto (s.paymentStatus key) := by
  -- the last event meets the status that the run before it has folded
  induction h with
  | nil => rfl
  | snoc before last ih =>
    have hstatus := last.processes.applied.paymentStatus
    rw [last.ofKey] at hstatus
    rw [hstatus, ih, List.map_append, List.foldl_append]
    rfl

/-- Whatever the order, the events of a payment end in one status. -/
def OrderIndependent (env : EventText) (key : ProviderKey) (s : Store) : Prop :=
  ∀ events events' s₁ s₂, Run (Delivers env key) s events s₁ →
    Run (Delivers env key) s events' s₂ → events.Perm events' →
      s₁.paymentStatus key = s₂.paymentStatus key

/-! ### Two events below `CAPTURED` -/

/-- The only amount is "100" and the only name of a customer "0". -/
def sampleEventText : EventText where
  py :=
    { wholeNumberText with
      decimal := fun text => if text = "100" then some (.finite 100) else none }
  lower := id
  uuid := fun text => if text = "0" then some 0 else none
  uuidText := fun _ => "0"

/-- What the provider reports about a payment of ₹100. -/
def paymentReport (eventId eventType : String) : WebhookEvent where
  merchantId := 0
  provider := "SIMULATOR"
  eventId := eventId
  eventType := eventType
  payload := [("provider_payment_id", .str "pay_1"), ("amount", .str "100"),
    ("customer_id", .str "0")]
  receivedAt := 0

/-- The event that the report is read as. -/
def reportedEvent (eventType : DomainEventType) : DomainPaymentEvent where
  eventType := eventType
  provider := "SIMULATOR"
  merchantId := 0
  occurredAt := 0
  providerPaymentId := "pay_1"
  merchantReference := "0"
  amount := 100
  customerId := some 0

deriving instance DecidableEq for DomainPaymentEvent

/-- The payment that they are about. -/
def reportedKey : ProviderKey := ⟨0, "SIMULATOR", "pay_1"⟩

/-- A payment was authorized and failed; neither event is processed yet. -/
def unorderedStore : Store where
  merchants := ⟨[{}]⟩
  customers := ⟨[{ merchantId := 0 }]⟩
  webhookEvents := ⟨[paymentReport "evt_1" "payment.authorized",
    paymentReport "evt_2" "payment.failed"]⟩

/-- The call returns that its event was processed. -/
def returnsProcessed (s : Store) (webhookEventId : ℕ) : Bool :=
  match ((processWebhookEvent sampleEventText 0 webhookEventId).run s).1 with
  | .ok r => decide (r.status = .processed)
  | .error _ => false

/-- The store after an event. -/
def afterReport (s : Store) (webhookEventId : ℕ) : Store :=
  ((processWebhookEvent sampleEventText 0 webhookEventId).run s).2

theorem delivers_report {s : Store} {webhookEventId : ℕ} {e : DomainPaymentEvent}
    (hkey : e.key = reportedKey) (hevent : s.eventOf sampleEventText webhookEventId = some e)
    (hprocessed : returnsProcessed s webhookEventId = true) :
    Delivers sampleEventText reportedKey s e (afterReport s webhookEventId) :=
  ⟨hkey, .of_run hevent hprocessed⟩

/-- Two reports of the payment are processed one after the other. -/
theorem run_reports {s : Store} {first second : ℕ} {e e' : DomainPaymentEvent}
    (hkeys : e.key = reportedKey ∧ e'.key = reportedKey)
    (hevents : s.eventOf sampleEventText first = some e ∧
      (afterReport s first).eventOf sampleEventText second = some e')
    (hprocessed : returnsProcessed s first = true ∧
      returnsProcessed (afterReport s first) second = true) :
    Run (Delivers sampleEventText reportedKey) s [e, e']
      (afterReport (afterReport s first) second) :=
  (Run.single (delivers_report hkeys.1 hevents.1 hprocessed.1)).snoc
    (delivers_report hkeys.2 hevents.2 hprocessed.2)

/-- The payment ends in the status of the event that happens to be processed last. -/
theorem lowStatuses_not_orderIndependent :
    ¬ OrderIndependent sampleEventText reportedKey unorderedStore := by
  have hfailedLast : Run (Delivers sampleEventText reportedKey) unorderedStore
      [reportedEvent .paymentAuthorized, reportedEvent .paymentFailed]
      (afterReport (afterReport unorderedStore 0) 1) :=
    run_reports ⟨rfl, rfl⟩ (by decide +kernel) (by decide +kernel)
  have hauthorizedLast : Run (Delivers sampleEventText reportedKey) unorderedStore
      [reportedEvent .paymentFailed, reportedEvent .paymentAuthorized]
      (afterReport (afterReport unorderedStore 1) 0) :=
    run_reports ⟨rfl, rfl⟩ (by decide +kernel) (by decide +kernel)
  intro hindependent
  have hsame := hindependent _ _ _ _ hfailedLast hauthorizedLast (List.Perm.swap _ _ _)
  revert hsame
  decide +kernel

/-! ### From `CAPTURED` on -/

/-- The precedence that a payment has reached. -/
def Store.precedence (s : Store) (key : ProviderKey) : ℕ :=
  Register.level PaymentStatus.rank (s.paymentStatus key)

/-- Along every order of the events of a payment in which no capture is processed after a
refund, the status never falls; it ends in `REFUNDED` or `CAPTURED` as soon as one of them was
reached, the same in every order, and otherwise in the status of the last event. -/
theorem paymentStatus_orders (hrun₁ : Run (Delivers env key) s events s₁)
    (hrun₂ : Run (Delivers env key) s events' s₂) (hperm : events.Perm events')
    (hlate₁ : NoCaptureAfterRefund (s.paymentStatus key) (events.map (·.status)))
    (hlate₂ : NoCaptureAfterRefund (s.paymentStatus key) (events'.map (·.status))) :
    (∀ before after t, before ++ after = events → Run (Delivers env key) s before t →
        Run (Delivers env key) t after s₁ → t.precedence key ≤ s₁.precedence key) ∧
      s₁.paymentStatus key = finalStatus (s.paymentStatus key) (events.map (·.status)) ∧
      ((∃ status ∈ (s.paymentStatus key).toList ++ events.map (·.status),
          status = .captured ∨ status = .refunded) →
        s₁.paymentStatus key = s₂.paymentStatus key) := by
  have hfinal : ∀ {events t}, Run (Delivers env key) s events t →
      NoCaptureAfterRefund (s.paymentStatus key) (events.map (·.status)) →
      t.paymentStatus key = (events.map (·.status)).foldl
        (Register.write PaymentStatus.rank) (s.paymentStatus key) := by
    intro events t hrun hlate
    have hreported : ∀ status ∈ events.map (·.status), status.Reported := by
      simpa using fun e _ => e.reported
    rw [paymentStatus_run hrun, foldl_receiveInto hreported hlate]
  refine ⟨?_, ?_, ?_⟩
  · rintro before after t rfl hbefore -
    rw [List.map_append] at hlate₁
    have hend := hfinal hrun₁ (by rw [List.map_append]; exact hlate₁)
    unfold Store.precedence
    rw [hend, hfinal hbefore hlate₁.left, List.map_append, List.foldl_append]
    exact Lib.Register.level_le_foldl PaymentStatus.rank _ _
  · rw [hfinal hrun₁ hlate₁, foldl_write_eq_finalStatus]
  · rintro ⟨status, hmem, hstatus⟩
    have hreached : s.paymentStatus key = some status ∨ status ∈ events.map (·.status) := by
      simpa [Option.mem_toList] using hmem
    have hlevel := rank_le_of_reached hreached
    have htop : 1 ≤ status.rank := by rcases hstatus with rfl | rfl <;> decide
    rw [hfinal hrun₁ hlate₁, hfinal hrun₂ hlate₂]
    exact Lib.Register.foldl_eq_of_perm PaymentStatus.rank rank_unique _ (hperm.map _) (by omega)

/-- A payment was captured, and a failure of it is reported late. -/
def lateFailureStore : Store where
  merchants := ⟨[{}]⟩
  customers := ⟨[{ merchantId := 0 }]⟩
  webhookEvents := ⟨[paymentReport "evt_1" "payment.captured",
    paymentReport "evt_2" "payment.failed"]⟩

theorem paymentStatus_orders_lateFailure :
    (afterReport (afterReport lateFailureStore 0) 1).paymentStatus reportedKey =
        finalStatus (lateFailureStore.paymentStatus reportedKey) [.captured, .failed] ∧
      (afterReport (afterReport lateFailureStore 0) 1).paymentStatus reportedKey =
        (afterReport (afterReport lateFailureStore 1) 0).paymentStatus reportedKey := by
  have hfailedLast : Run (Delivers sampleEventText reportedKey) lateFailureStore
      [reportedEvent .paymentCaptured, reportedEvent .paymentFailed]
      (afterReport (afterReport lateFailureStore 0) 1) :=
    run_reports ⟨rfl, rfl⟩ (by decide +kernel) (by decide +kernel)
  have hcapturedLast : Run (Delivers sampleEventText reportedKey) lateFailureStore
      [reportedEvent .paymentFailed, reportedEvent .paymentCaptured]
      (afterReport (afterReport lateFailureStore 1) 0) :=
    run_reports ⟨rfl, rfl⟩ (by decide +kernel) (by decide +kernel)
  obtain ⟨-, hfinal, hsame⟩ := paymentStatus_orders hfailedLast hcapturedLast
    (List.Perm.swap _ _ _) (by decide +kernel) (by decide +kernel)
  exact ⟨hfinal, hsame ⟨.captured, by simp [reportedEvent, DomainPaymentEvent.status,
    DomainEventType.status], .inl rfl⟩⟩

end ReviveX
