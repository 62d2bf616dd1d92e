import ReviveX.Lib.Separated
import ReviveX.Providers.LocalSimulation
import Mathlib.Data.List.Nodup

/-!
# The identifiers of one simulator

An instance never gives a payment id twice: every identifier takes a number of its own from the
counter, be it of a payment, an order or a link. Two instances give the same ids, as both start
at the same number. Texts are told apart by the digest: it is assumed to be injective.
-/

namespace ReviveX

open Lib (Session)

variable {env : SimulatorRuntime} {kind : String} {seed : ℤ} {sim : LocalSimulationProvider}
  {r r' m n : ℕ}

/-! ## Texts -/

theorem idMaterial_toList (kind : String) (seed : ℤ) (r n : ℕ) :
    (idMaterial kind seed r n).toList =
      ((toString seed).toList ++ ':' :: kind.toList ++ ':' :: (toString r).toList) ++
        ':' :: (toString n).toList := by
  simp [idMaterial, String.toList_append]

/-- The material of an identifier names its resource and its number. -/
theorem idMaterial_inj (h : idMaterial kind seed r m = idMaterial kind seed r' n) :
    r = r' ∧ m = n := by
  have hlists := congrArg String.toList h
  rw [idMaterial_toList, idMaterial_toList] at hlists
  have hcolon : Char.isDigit ':' = false := rfl
  have hnumber := Lib.cut_inj_right (Lib.notMem_natText hcolon m) (Lib.notMem_natText hcolon n)
    hlists
  have hreference := Lib.cut_inj_right (Lib.notMem_natText hcolon r)
    (Lib.notMem_natText hcolon r') hnumber.1
  constructor
  · exact Lib.natText_inj (String.toList_inj.mp hreference.2)
  · exact Lib.natText_inj (String.toList_inj.mp hnumber.2)

theorem deterministicPaymentId_inj (hdigest : Function.Injective env.digest)
    (h : deterministicPaymentId env seed r m = deterministicPaymentId env seed r' n) :
    r = r' ∧ m = n := by
  unfold deterministicPaymentId at h
  exact idMaterial_inj (hdigest ((String.append_right_inj _).mp h))

/-- What the primary key of a payment is made from names its identifier at the provider. -/
theorem internalPaymentName_inj {merchantId merchantId' : ℕ}
    {provider paymentId paymentId' : String}
    (h : internalPaymentName merchantId provider paymentId =
      internalPaymentName merchantId' provider paymentId') : paymentId = paymentId' := by
  have hlists := congrArg String.toList h
  unfold internalPaymentName at hlists
  simp only [String.toList_append, List.append_assoc] at hlists
  have hcolon : Char.isDigit ':' = false := rfl
  have hmerchant := Lib.cut_inj (Lib.notMem_natText hcolon merchantId)
    (Lib.notMem_natText hcolon merchantId') hlists
  exact String.toList_inj.mp
    (List.append_cancel_left (List.append_cancel_left hmerchant.2))

/-- The internal identifier names the provider's one. -/
theorem internalPaymentUuid_inj (huuid : Function.Injective env.uuid5) {merchantId : ℕ}
    {merchantId' : ℕ} {provider paymentId paymentId' : String}
    (h : internalPaymentUuid env merchantId provider paymentId =
      internalPaymentUuid env merchantId' provider paymentId') : paymentId = paymentId' :=
  internalPaymentName_inj (huuid h)

/-! ## Calls -/

/-- A call of an instance. -/
inductive SimulatorCall
  | createOrder (request : CreateOrderRequest)
  | createPayment (request : CreatePaymentRequest)
  | createPaymentLink (request : CreatePaymentLinkRequest)
  | fetchPayment (providerPaymentId : String)
  | fetchOrderPayments (providerOrderId : String)

/-- The instance after a call. -/
def SimulatorCall.after (env : SimulatorRuntime) (sim : LocalSimulationProvider) :
    SimulatorCall → LocalSimulationProvider
  | .createOrder request => ((LocalSimulationProvider.createOrder env request).run sim).2
  | .createPayment request => ((LocalSimulationProvider.createPayment env request).run sim).2
  | .createPaymentLink request =>
    ((LocalSimulationProvider.createPaymentLink env request).run sim).2
  | .fetchPayment paymentId => ((LocalSimulationProvider.fetchPayment paymentId).run sim).2
  | .fetchOrderPayments orderId =>
    ((LocalSimulationProvider.fetchOrderPayments orderId).run sim).2

/-- The payment id that a call gives. -/
def SimulatorCall.paymentId? (env : SimulatorRuntime) (sim : LocalSimulationProvider) :
    SimulatorCall → Option String
  | .createPayment request =>
    match ((LocalSimulationProvider.createPayment env request).run sim).1 with
    | .ok snapshot => some snapshot.providerPaymentId
    | .error _ => none
  | _ => none

/-- The payment ids that an instance gives, in order. -/
def givenPaymentIds (env : SimulatorRuntime) (sim : LocalSimulationProvider) :
    List SimulatorCall → List String
  | [] => []
  | call :: calls =>
    (call.paymentId? env sim).toList ++ givenPaymentIds env (call.after env sim) calls

/-- The counter goes up, and the seed stays. -/
structure CounterAdvanced (sim sim' : LocalSimulationProvider) : Prop where
  seed : sim'.seed = sim.seed
  sequence : sim.sequence ≤ sim'.sequence

theorem keeps_orderOf (env : SimulatorRuntime) (request : CreatePaymentRequest)
    (sim : LocalSimulationProvider) :
    ∃ orderId sim', (LocalSimulationProvider.orderOf env request).run sim = (.ok orderId, sim') ∧
      CounterAdvanced sim sim' := by
  unfold LocalSimulationProvider.orderOf
  cases request.providerOrderId with
  | none => exact ⟨_, _, rfl, rfl, Nat.le_succ _⟩
  | some orderId =>
    refine ⟨orderId, _, rfl, ?_⟩
    dsimp only
    split
    · exact ⟨rfl, le_rfl⟩
    · exact ⟨rfl, le_rfl⟩

/-- A payment takes the next number; the order that it may need takes one after it. -/
theorem run_createPayment (env : SimulatorRuntime) (request : CreatePaymentRequest)
    (sim : LocalSimulationProvider) :
    ∃ snapshot sim', (LocalSimulationProvider.createPayment env request).run sim =
        (.ok snapshot, sim') ∧
      snapshot.provider = simulatorName ∧
      snapshot.providerPaymentId = deterministicPaymentId env sim.seed
        request.merchantReference (sim.sequence + 1) ∧
      sim'.payments.lookup snapshot.providerPaymentId = some snapshot ∧
      sim'.seed = sim.seed ∧ sim.sequence < sim'.sequence := by
  obtain ⟨orderId, self₁, hrun, hadvanced⟩ :=
    keeps_orderOf env request { sim with sequence := sim.sequence + 1 }
  have hsequence : sim.sequence + 1 ≤ self₁.sequence := hadvanced.sequence
  unfold LocalSimulationProvider.createPayment LocalSimulationProvider.nextSequence
  rw [Session.run_modifyGet_bind, Session.run_get_bind, Session.run_bind_ok hrun]
  exact ⟨_, _, rfl, rfl, rfl, AList.lookup_insert _, hadvanced.seed, hsequence⟩

theorem SimulatorCall.counterAdvanced (call : SimulatorCall) (env : SimulatorRuntime)
    (sim : LocalSimulationProvider) : CounterAdvanced sim (call.after env sim) := by
  cases call with
  | createOrder request => exact ⟨rfl, Nat.le_succ _⟩
  | createPayment request =>
    obtain ⟨snapshot, sim', hrun, -, -, -, hseed, hsequence⟩ := run_createPayment env request sim
    dsimp only [SimulatorCall.after]
    rw [hrun]
    exact ⟨hseed, hsequence.le⟩
  | createPaymentLink request => exact ⟨rfl, Nat.le_succ _⟩
  | fetchPayment paymentId =>
    have hkept : (SimulatorCall.fetchPayment paymentId).after env sim = sim := by
      dsimp only [SimulatorCall.after, LocalSimulationProvider.fetchPayment]
      rw [Session.run_get_bind]
      cases sim.payments.lookup paymentId <;> rfl
    rw [hkept]
    exact ⟨rfl, le_rfl⟩
  | fetchOrderPayments orderId =>
    have hkept : (SimulatorCall.fetchOrderPayments orderId).after env sim = sim := by
      dsimp only [SimulatorCall.after, LocalSimulationProvider.fetchOrderPayments]
      rw [Session.run_get_bind]
      split <;> rfl
    rw [hkept]
    exact ⟨rfl, le_rfl⟩

/-! ## One instance -/

/-- Every payment id of an instance has a number that the counter had not reached. -/
theorem givenPaymentIds_sequence (calls : List SimulatorCall) {paymentId : String}
    (h : paymentId ∈ givenPaymentIds env sim calls) :
    ∃ r n, sim.sequence < n ∧ paymentId = deterministicPaymentId env sim.seed r n := by
  -- every call leaves the counter where it was or moves it on, whatever it asks for
  induction calls generalizing sim with
  | nil => exact absurd h List.not_mem_nil
  | cons call calls ih =>
    have hadvanced := call.counterAdvanced env sim
    rcases List.mem_append.mp h with hfirst | hrest
    · cases call with
      | createPayment request =>
        obtain ⟨snapshot, sim', hrun, -, hid, -⟩ := run_createPayment env request sim
        dsimp only [SimulatorCall.paymentId?] at hfirst
        rw [hrun] at hfirst
        have heq : paymentId = snapshot.providerPaymentId := List.mem_singleton.mp hfirst
        exact ⟨request.merchantReference, sim.sequence + 1, Nat.lt_succ_self _, heq.trans hid⟩
      | createOrder _ | createPaymentLink _ | fetchPayment _ | fetchOrderPayments _ =>
        exact absurd hfirst List.not_mem_nil
    · obtain ⟨r, n, hlater, hid⟩ := ih hrest
      rw [hadvanced.seed] at hid
      exact ⟨r, n, hadvanced.sequence.trans_lt hlater, hid⟩

/-- One instance never gives a payment id twice. -/
theorem givenPaymentIds_nodup (hdigest : Function.Injective env.digest)
    (sim : LocalSimulationProvider) (calls : List SimulatorCall) :
    (givenPaymentIds env sim calls).Nodup := by
  -- the ids of the later calls have numbers above the one of the first call
  induction calls generalizing sim with
  | nil => exact List.nodup_nil
  | cons call calls ih =>
    have hrest := ih (call.after env sim)
    cases call with
    | createPayment request =>
      obtain ⟨snapshot, sim', hrun, -, hid, -, hseed, hcounter⟩ :=
        run_createPayment env request sim
      have hgiven : (SimulatorCall.createPayment request).paymentId? env sim =
          some snapshot.providerPaymentId := by
        dsimp only [SimulatorCall.paymentId?]
        rw [hrun]
      unfold givenPaymentIds
      rw [hgiven]
      refine List.nodup_cons.mpr ⟨fun hmem => ?_, hrest⟩
      obtain ⟨r, n, hlater, heq⟩ := givenPaymentIds_sequence calls hmem
      have hafter : (SimulatorCall.createPayment request).after env sim = sim' := by
        dsimp only [SimulatorCall.after]
        rw [hrun]
      rw [hafter] at hlater heq
      rw [hid, hseed] at heq
      -- the later payment has a later number
      have hnumber := (deterministicPaymentId_inj hdigest heq).2
      omega
    | createOrder _ | createPaymentLink _ | fetchPayment _ | fetchOrderPayments _ => exact hrest

/-! ## New instances -/

/-- A service that was constructed without a provider asks for payment number 1. -/
theorem default_createPayment (env : SimulatorRuntime) (settings : RecoverySettings)
    (predict : Store → ℕ → String → ℕ → Except String (Except (String × String) Payload))
    (request : CreatePaymentRequest) :
    ∃ snapshot, (ToolExecutionService.default env settings predict).provider.createPayment request =
        .ok snapshot ∧ snapshot.provider = simulatorName ∧
      snapshot.providerPaymentId =
        deterministicPaymentId env 42 request.merchantReference 1 := by
  obtain ⟨snapshot, sim', hrun, hname, hid, -⟩ :=
    run_createPayment env request (getPaymentProvider 42)
  exact ⟨snapshot, congrArg Prod.fst hrun, hname, hid⟩

end ReviveX
