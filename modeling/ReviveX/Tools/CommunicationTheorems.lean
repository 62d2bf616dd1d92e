import ReviveX.Lib.Window
import ReviveX.Tools.RowTheorems
import ReviveX.Tools.ScheduleTheorems

/-!
# The communication cap over schedules

The cap counts notifications of a customer in the last day; the actions it is meant for are
in the history. Only a reminder leaves a notification, so the two agree when no payment link
and no discount succeeds for the customer. Transactions of two cases of the customer may
both be evaluated before either commits, so the cap also needs that no communication of the
customer commits in between (`SerialReminders`).
-/

namespace ReviveX

open Lib (Guarded Run Session Table countSince windowCount)

variable {rt : Runtime} {svc : ToolExecutionService} {caller : Caller}
  {request : ToolRequest} {s s' : Store} {t : ToolTransaction} {M customerId : ℕ}
  {settings : RecoverySettings}

/-! ## Communications and notifications -/

/-- The tool of one of `COMMUNICATION_ACTIONS`. -/
def ToolName.communicates (tool : ToolName) : Bool :=
  (actionForTool tool).any communicationActions.contains

/-- The call was a communication with the customer of the merchant. -/
def HandlerCall.reaches (M customerId : ℕ) (call : HandlerCall) : Bool :=
  call.merchantId = M && call.case.customerId = customerId && call.toolName.communicates

/-- The successful communications with a customer. -/
def Store.communicationsWith (s : Store) (M customerId : ℕ) : List HandlerCall :=
  s.handlerSuccesses.filter (·.reaches M customerId)

/-- When they were executed. -/
def Store.communicationTimes (s : Store) (M customerId : ℕ) : List Time :=
  (s.communicationsWith M customerId).map (·.now)

/-- The notifications that the cap counts. -/
def Store.notificationsSince (s : Store) (M customerId : ℕ) (start : Time) : ℕ :=
  s.notifications.count fun n =>
    n.merchantId = M && n.customerId = customerId && decide (start ≤ n.createdAt) &&
      n.status != .cancelled

theorem communicationsLast24h_eq (s : Store) (M customerId : ℕ) (now : Time) :
    s.communicationsLast24h M customerId now =
      s.notificationsSince M customerId (now - 24 * hour) := rfl

theorem communicationsWith_eq (h : s'.handlerSuccesses = s.handlerSuccesses) :
    s'.communicationsWith M customerId = s.communicationsWith M customerId := by
  unfold Store.communicationsWith
  rw [h]

/-- Every communication with the customer has left a notification. -/
def Notified (M customerId : ℕ) (s : Store) : Prop :=
  ∀ start, countSince (s.communicationTimes M customerId) start ≤
    s.notificationsSince M customerId start

/-- No window of 24 hours holds more communications than the merchant allows. -/
def CommunicationBound (cfg : Config) (M customerId : ℕ) (s : Store) : Prop :=
  ∀ merchant merged, s.merchants.get? M = some merchant →
    cfg.settings.mergeMerchant cfg.py merchant.settings = .ok merged →
    ∀ start, windowCount (24 * hour) (s.communicationTimes M customerId) start ≤
      merged.maxCommunicationsPerDay.toNat

/-! ## What a handler adds -/

/-- A handler leaves the notifications, or adds the reminder of its customer. -/
theorem HandlerReturned.notifications {verdict : ToolVerdict} {c : RecoveryCase}
    {handled : HandlerResult} (h : HandlerReturned rt svc caller request s verdict c handled s') :
    (s'.notifications = s.notifications ∧
      (request.tool = .sendNotification → handled.success = false)) ∨
    ∃ n : Notification, s'.notifications = s.notifications.insert n ∧
      request.tool = .sendNotification ∧ n.merchantId = c.merchantId ∧
      n.createdAt = caller.now ∧ n.status = .sent ∧
      ∃ customer, request.customer = some (n.customerId, customer) := by
  obtain ⟨s₁, s₂, hran, hbefore, hafter⟩ := h.returned
  by_cases hreminder : request.tool = .sendNotification
  · rw [hreminder] at hran
    change (handleSendNotification _ _).run s₁ = _ at hran
    rcases run_handleSendNotification caller.now
        (handlerContext request c (s.startedId request) s₁) s₁ with
      ⟨-, r, hrun, hfailed⟩ | ⟨customerId, customer, r, hcustomer, hrun, -⟩
    · obtain ⟨hr, rfl⟩ := Prod.mk.inj (hrun.symm.trans hran)
      obtain rfl := Except.ok.inj hr
      exact .inl ⟨hafter.trans hbefore, fun _ => hfailed⟩
    · obtain ⟨-, rfl⟩ := Prod.mk.inj (hrun.symm.trans hran)
      refine .inr ⟨reminder (handlerContext request c (s.startedId request) s₁) customerId
        caller.now, ?_, hreminder, rfl, rfl, rfl, customer, hcustomer⟩
      rw [hafter, ← hbefore]
  · have hquiet := handlers_quiet rt svc caller.now
      (handlerContext request c (s.startedId request) s₁) s₁ hreminder
    rw [hran] at hquiet
    exact .inl ⟨hafter.trans (hquiet.notifications.trans hbefore), fun h => absurd h hreminder⟩

theorem notificationsSince_insert (s : Store) (n : Notification) (start : Time)
    (h : s'.notifications = s.notifications.insert n) :
    s.notificationsSince M customerId start ≤ s'.notificationsSince M customerId start ∧
      (n.merchantId = M → n.customerId = customerId → n.status = .sent → start ≤ n.createdAt →
        s.notificationsSince M customerId start + 1 ≤
          s'.notificationsSince M customerId start) := by
  unfold Store.notificationsSince
  rw [h, Table.count_insert]
  refine ⟨Nat.le_add_right _ _, fun hmerchant hcustomer hstatus hstart => ?_⟩
  rw [if_pos]
  simp [hmerchant, hcustomer, hstatus, hstart]

/-- What is written never lowers the count. -/
theorem Written.notificationsSince_le {verdict : ToolVerdict} {row : IdempotencyKey}
    (h : Written rt svc caller request verdict row s s') (M customerId : ℕ) (start : Time) :
    s.notificationsSince M customerId start ≤ s'.notificationsSince M customerId start := by
  have hsame : s'.notifications = s.notifications →
      s.notificationsSince M customerId start ≤ s'.notificationsSince M customerId start := by
    intro heq
    unfold Store.notificationsSince
    rw [heq]
  cases h with
  | refused happrovals hsame' => exact hsame hsame'.notifications
  | blocked hbranch hstatus hsame' => exact hsame hsame'.notifications
  | parked hbranch hstatus hsame' => exact hsame hsame'.notifications
  | handled hreturned hstatus hsame' =>
    rcases hreturned.notifications with ⟨heq, -⟩ | ⟨n, hinserted, -⟩
    · exact hsame heq
    · exact (notificationsSince_insert s n start hinserted).1

/-- The request is a communication with the customer of the merchant. -/
def ToolRequest.reaches (M customerId : ℕ) (request : ToolRequest) : Bool :=
  request.case.merchantId = M && request.case.customerId = customerId &&
    request.tool.communicates

theorem handlerCall_reaches {verdict : ToolVerdict} {c : RecoveryCase}
    (h : request.case.LifecycleOnly c) (s : Store) (caller : Caller) :
    (s.handlerCall caller request verdict c).reaches M customerId =
      request.reaches M customerId := by
  have hcustomer := h.customerId
  unfold HandlerCall.reaches ToolRequest.reaches Store.handlerCall handlerCall
  dsimp only
  rw [hcustomer]

/-- The communications after a success. -/
theorem HandlerSucceeded.communicationTimes {verdict : ToolVerdict} {c : RecoveryCase}
    {handled : HandlerResult}
    (h : HandlerSucceeded rt svc caller request verdict s c handled s') (M customerId : ℕ) :
    s'.communicationTimes M customerId = s.communicationTimes M customerId ++
      if request.reaches M customerId then [caller.now] else [] := by
  have hreaches : (s.handlerCall caller request verdict c).reaches M customerId =
      request.reaches M customerId := handlerCall_reaches h.returned.lifecycle s caller
  unfold Store.communicationTimes Store.communicationsWith
  rw [handlerSuccesses_eq_map, handlerSuccesses_eq_map, h.successes, List.map_append,
    List.filter_append, List.map_append]
  congr 1
  rw [List.map_singleton, List.filter_singleton, hreaches, cond_eq_ite]
  split <;> rfl

/-- A reminder that succeeds for the customer leaves its notification. -/
theorem HandlerSucceeded.notified {verdict : ToolVerdict} {c : RecoveryCase}
    {handled : HandlerResult} {row : IdempotencyKey}
    (h : HandlerSucceeded rt svc caller request verdict s c handled s')
    (hwritten : Written rt svc caller request verdict row s s')
    (hcustomer : ∀ i customer, request.customer = some (i, customer) →
      i = request.case.customerId)
    (hreminder : request.reaches M customerId = true → request.tool = .sendNotification)
    (hnotified : Notified M customerId s) : Notified M customerId s' := by
  intro start
  have hbefore := hnotified start
  have hgrows := hwritten.notificationsSince_le M customerId start
  rw [h.communicationTimes]
  by_cases hreaches : request.reaches M customerId = true
  · rw [if_pos hreaches, Lib.countSince_append]
    have hboth : (request.case.merchantId = M ∧ request.case.customerId = customerId) ∧
        request.tool.communicates = true := by
      simpa [ToolRequest.reaches] using hreaches
    rcases h.returned.notifications with ⟨-, hfailed⟩ |
      ⟨n, hinserted, -, hmerchant, hnow, hstatus, customer, hnamed⟩
    · have hsuccess := h.success
      rw [hfailed (hreminder hreaches)] at hsuccess
      cases hsuccess
    · have hmerchant' : n.merchantId = M := by
        rw [hmerchant, h.returned.lifecycle.merchantId]
        exact hboth.1.1
      have hcustomer' : n.customerId = customerId := by
        rw [hcustomer _ customer hnamed]
        exact hboth.1.2
      have hcounted := (notificationsSince_insert s n start hinserted).2 hmerchant' hcustomer'
        hstatus
      rw [hnow] at hcounted
      split
      · rename_i hstart
        have hone := hcounted hstart
        omega
      · omega
  · rw [if_neg hreaches, List.append_nil]
    omega

/-- A communication runs below the cap that its verdict was given under. -/
theorem countSince_lt_cap {verdict : ToolVerdict} {merchant : Merchant}
    {merged : RecoverySettings} {now : Time}
    (hnotified : Notified M customerId s) (hreaches : request.reaches M customerId = true)
    (hmerchant : s.merchants.get? M = some merchant)
    (hmerged : svc.settings.mergeMerchant rt.py merchant.settings = .ok merged)
    (hjudged : judgeTool rt svc now s request = .ok verdict)
    (hbranch : toolBranch request verdict.evaluation = .run) :
    countSince (s.communicationTimes M customerId) (now - 24 * hour) <
      merged.maxCommunicationsPerDay.toNat := by
  have hboth : (request.case.merchantId = M ∧ request.case.customerId = customerId) ∧
      request.tool.communicates = true := by
    simpa [ToolRequest.reaches] using hreaches
  obtain ⟨action, haction, hcommunication⟩ : ∃ action, actionForTool request.tool = some action ∧
      communicationActions.contains action = true := by
    have hany := hboth.2
    unfold ToolName.communicates at hany
    cases haction : actionForTool request.tool with
    | none =>
      rw [haction] at hany
      cases hany
    | some action =>
      rw [haction] at hany
      exact ⟨action, rfl, hany⟩
  have hallowed := (toolBranch_run hbranch haction).1
  obtain ⟨merchant', proposed, hverdict⟩ := judged_of_judgeTool haction hjudged
  have hcontext := hverdict.context
  have hmerchant' := hcontext.merchantRow
  rw [hboth.1.1] at hmerchant'
  obtain rfl := Option.some.inj (hmerchant'.symm.trans hmerchant)
  obtain rfl := Except.ok.inj (hcontext.merged.symm.trans hmerged)
  have hbelow := communications_lt_of_allowed hverdict.evaluated hverdict.action_eq
    hcommunication hallowed
  rw [hcontext.communicationsLast24h, hboth.1.1, hboth.1.2, communicationsLast24h_eq] at hbelow
  have hcounted := hnotified (now - 24 * hour)
  omega

/-! ## Schedules -/

/-- The communications with the customer are reminders, evaluated under the settings, and
none of them commits between the evaluation of another one and its writes. -/
def SerialReminders (settings : RecoverySettings) (M customerId : ℕ) (σ : Schedule) :
    ScheduleEvent → Prop
  | .write caseId => ∀ t, σ.running caseId = some t → t.request.reaches M customerId = true →
      t.svc.settings = settings ∧ t.request.tool = .sendNotification ∧
        σ.store.communicationTimes M customerId = t.read.communicationTimes M customerId
  | _ => True

/-- The cap holds, and every running transaction has read a store in which the
communications were accounted for. -/
structure CommunicationsCapped (rt : Runtime) (settings : RecoverySettings) (M customerId : ℕ)
    (σ : Schedule) : Prop where
  locked : σ.Locked rt
  notified : Notified M customerId σ.store
  bound : CommunicationBound { settings, py := rt.py } M customerId σ.store
  read : ∀ caseId t, σ.running caseId = some t →
    Notified M customerId t.read ∧ t.read.merchants = σ.store.merchants

theorem Notified.of_nothing (h : NothingSucceeded s s') (hnotified : Notified M customerId s) :
    Notified M customerId s' := by
  intro start
  have hbefore := hnotified start
  unfold Store.communicationTimes Store.notificationsSince at *
  rw [communicationsWith_eq h.handlerSuccesses, h.notifications]
  exact hbefore

theorem CommunicationBound.of_same {cfg : Config} (hmerchants : s'.merchants = s.merchants)
    (htimes : s'.communicationTimes M customerId = s.communicationTimes M customerId)
    (h : CommunicationBound cfg M customerId s) : CommunicationBound cfg M customerId s' := by
  intro merchant merged hmerchant hmerged start
  rw [hmerchants] at hmerchant
  rw [htimes]
  exact h merchant merged hmerchant hmerged start

theorem communicationTimes_eq (h : s'.successes = s.successes) :
    s'.communicationTimes M customerId = s.communicationTimes M customerId := by
  unfold Store.communicationTimes Store.communicationsWith
  rw [handlerSuccesses_eq_map, handlerSuccesses_eq_map, h]

/-- The writes of a transaction keep the cap. -/
theorem write_capped {caseId : ℕ} {σ : Schedule}
    (h : CommunicationsCapped rt settings M customerId σ)
    (ht : σ.running caseId = some t)
    (hserial : SerialReminders settings M customerId σ (.write caseId)) :
    Notified M customerId (committed (t.write rt) σ.store) ∧
      CommunicationBound { settings, py := rt.py } M customerId
        (committed (t.write rt) σ.store) := by
  obtain ⟨hcase, hrow⟩ := h.locked.row caseId t ht
  have hbegins := h.locked.began caseId t ht
  have hbase := base_nothingSucceeded t σ.store
  have hnotified := h.notified.of_nothing hbase
  have hbound := h.bound.of_same hbase.merchants (communicationTimes_eq hbase.successes)
  rcases write_written rt t (by rw [hcase]; exact hrow) with hsame | ⟨row, hwritten⟩
  · rw [hsame]
    exact ⟨h.notified, h.bound⟩
  · rcases hwritten.succeeded with ⟨hmerchants, hsuccesses⟩ | ⟨c, handled, hsucceeded⟩
    · have htimes : (committed (t.write rt) σ.store).communicationTimes M customerId =
          (t.base σ.store).communicationTimes M customerId := communicationTimes_eq hsuccesses
      refine ⟨fun start => ?_, hbound.of_same hmerchants htimes⟩
      have hbefore := hnotified start
      have hgrows := hwritten.notificationsSince_le M customerId start
      rw [htimes]
      omega
    · have hcustomer : ∀ i customer, t.request.customer = some (i, customer) →
          i = t.request.case.customerId := by
        intro i customer hnamed
        rw [(admitted_of_ok hbegins.admitted).customer] at hnamed
        obtain ⟨_, -, heq⟩ := Option.map_eq_some_iff.mp hnamed
        exact (congrArg Prod.fst heq).symm
      refine ⟨hsucceeded.notified hwritten hcustomer
        (fun hreaches => (hserial t ht hreaches).2.1) hnotified, ?_⟩
      intro merchant merged hmerchant hmerged start
      have hmerchants := hsucceeded.merchants.trans hbase.merchants
      rw [hmerchants] at hmerchant
      rw [hsucceeded.communicationTimes]
      by_cases hreaches : t.request.reaches M customerId = true
      · obtain ⟨hsettings, -, hsame⟩ := hserial t ht hreaches
        obtain ⟨hread, hreadMerchants⟩ := h.read caseId t ht
        have hbaseRead := base_nothingSucceeded t t.read
        subst hsettings
        rw [if_pos hreaches]
        -- what the verdict has counted is all that has been sent until now
        have hbelow := countSince_lt_cap (hread.of_nothing hbaseRead) hreaches
          (by rw [hbaseRead.merchants, hreadMerchants]; exact hmerchant) hmerged
          hbegins.judged hsucceeded.returned.branch
        have htimes : (t.base t.read).communicationTimes M customerId =
            (t.base σ.store).communicationTimes M customerId := by
          rw [communicationTimes_eq hbaseRead.successes, communicationTimes_eq hbase.successes,
            hsame]
        rw [htimes] at hbelow
        exact Lib.windowCount_append_le
          (hbound merchant merged (by rw [hbase.merchants]; exact hmerchant) hmerged) hbelow start
      · rw [if_neg hreaches, List.append_nil]
        exact hbound merchant merged (by rw [hbase.merchants]; exact hmerchant) hmerged start

theorem CommunicationsCapped.step {σ σ' : Schedule} {e : ScheduleEvent}
    {Other : Store → Store → Prop} (hother : ∀ s s', Other s s' → NothingSucceeded s s')
    (h : CommunicationsCapped rt settings M customerId σ)
    (hserial : SerialReminders settings M customerId σ e)
    (hstep : Schedule.Step rt Other σ e σ') :
    CommunicationsCapped rt settings M customerId σ' := by
  have hlocked := h.locked.step hstep
  have hmerchants := hstep.merchants h.locked hother
  cases e with
  | begin t =>
    obtain ⟨-, hbegins, rfl⟩ := hstep
    refine ⟨hlocked, h.notified, h.bound, fun caseId t' ht' => ?_⟩
    dsimp only at ht'
    rw [Function.update_apply] at ht'
    split at ht'
    · obtain rfl := Option.some.inj ht'
      rw [hbegins.read]
      exact ⟨h.notified, rfl⟩
    · exact h.read caseId t' ht'
  | write caseId =>
    obtain ⟨t, ht, rfl, -⟩ := hstep
    obtain ⟨hnotified, hbound⟩ := write_capped h ht hserial
    refine ⟨hlocked, hnotified, hbound, fun j t' ht' => ?_⟩
    obtain ⟨hread, hreadMerchants⟩ := h.read j t' (Schedule.running_of_ended ht')
    exact ⟨hread, hreadMerchants.trans hmerchants.symm⟩
  | abandon caseId =>
    subst hstep
    exact ⟨hlocked, h.notified, h.bound,
      fun j t' ht' => h.read j t' (Schedule.running_of_ended ht')⟩
  | call op =>
    obtain ⟨hearly, hcall, hrunning, -⟩ := hstep
    have hquiet := call_nothingSucceeded hother hearly hcall
    refine ⟨hlocked, h.notified.of_nothing hquiet,
      h.bound.of_same hquiet.merchants (communicationTimes_eq hquiet.successes), ?_⟩
    intro j t' ht'
    rw [hrunning] at ht'
    obtain ⟨hread, hreadMerchants⟩ := h.read j t' ht'
    exact ⟨hread, hreadMerchants.trans hmerchants.symm⟩

/-- In every schedule in which the communications with a customer are reminders that commit
one after the other, no window of 24 hours holds more of them than the merchant allows. -/
theorem communicationCap_run {σ σ' : Schedule} {events : List ScheduleEvent}
    {merchant : Merchant} {merged : RecoverySettings} (hstart : σ.store.trace = [])
    (hidle : ∀ caseId, σ.running caseId = none)
    (hrun : Run (Guarded (Schedule.Step rt NothingSucceeded)
      (SerialReminders settings M customerId)) σ events σ')
    (hmerchant : σ'.store.merchants.get? M = some merchant)
    (hmerged : settings.mergeMerchant rt.py merchant.settings = .ok merged) (start : Time) :
    windowCount (24 * hour) (σ'.store.communicationTimes M customerId) start ≤
      merged.maxCommunicationsPerDay.toNat := by
  have hnone : σ.store.communicationTimes M customerId = [] := by
    unfold Store.communicationTimes Store.communicationsWith Store.handlerSuccesses
    rw [hstart]
    rfl
  have hcapped : CommunicationsCapped rt settings M customerId σ := by
    refine ⟨.of_idle hidle, fun start => ?_, fun merchant merged _ _ start => ?_,
      fun caseId t ht => ?_⟩
    · rw [hnone]
      exact Nat.zero_le _
    · rw [hnone]
      exact Nat.zero_le _
    · rw [hidle caseId] at ht
      cases ht
  have hend := hrun.invariant (P := CommunicationsCapped rt settings M customerId)
    (fun _ _ _ hinv hstep => hinv.step (fun _ _ hquiet => hquiet) hstep.1 hstep.2) hcapped
  exact hend.bound merchant merged hmerchant hmerged start

/-! ### Two cases of one customer -/

/-- Two cases of a customer to whom one communication a day may be sent. -/
def oneReminderStore : Store :=
  { twoCasesStore with merchants := ⟨[{ settings := [("max_communications_per_day", .int 1)] }]⟩ }

/-- A reminder for a case, under its own key. -/
def reminderFor (caseId : ℕ) : ExecuteArgs where
  caseId := caseId
  toolName := some "send_notification"
  idempotencyKey := if caseId = 0 then "first" else "second"

/-- The reminder for the first case, evaluated before anything was sent. -/
def firstReminder : ToolTransaction :=
  (ToolTransaction.ofExecute? sampleRuntime sampleService noonCaller (reminderFor 0)
    oneReminderStore).get (by decide +kernel)

/-- The reminder for the second case, evaluated at the same time. -/
def secondReminder : ToolTransaction :=
  (ToolTransaction.ofExecute? sampleRuntime sampleService noonCaller (reminderFor 1)
    oneReminderStore).get (by decide +kernel)

theorem firstReminder_begins :
    firstReminder.Begins sampleRuntime oneReminderStore ∧ firstReminder.svc = sampleService :=
  begins_of_ofExecute? (Option.some_get _).symm

theorem secondReminder_begins :
    secondReminder.Begins sampleRuntime oneReminderStore ∧ secondReminder.svc = sampleService :=
  begins_of_ofExecute? (Option.some_get _).symm

/-- The first reminder was sent. -/
def remindedOnceStore : Store := committed (firstReminder.write sampleRuntime) oneReminderStore

/-- So was the second one. -/
def remindedTwiceStore : Store :=
  committed (secondReminder.write sampleRuntime) remindedOnceStore

/-- Nothing is running. -/
def oneReminderSchedule : Schedule where
  store := oneReminderStore
  running := fun _ => none

/-- Two reminders are sent where the merchant allows one. -/
theorem concurrentReminders_exceed_cap :
    Run (Schedule.Step sampleRuntime NothingSucceeded) oneReminderSchedule
        [.begin firstReminder, .begin secondReminder, .write 0, .write 1]
        { oneReminderSchedule with store := remindedTwiceStore } ∧
      (∃ merged, sampleService.settings.mergeMerchant sampleRuntime.py
        [("max_communications_per_day", .int 1)] = .ok merged ∧
          merged.maxCommunicationsPerDay = 1) ∧
      windowCount (24 * hour) (remindedTwiceStore.communicationTimes 0 0) (12 * hour) = 2 := by
  have hcase₁ : firstReminder.caseId = 0 := by decide +kernel
  have hcase₂ : secondReminder.caseId = 1 := by decide +kernel
  refine ⟨?_, ⟨_, rfl, rfl⟩, by decide +kernel⟩
  have hrow : remindedOnceStore.cases.get? 1 = oneReminderStore.cases.get? 1 := by
    decide +kernel
  have hrun : Run (Schedule.Step sampleRuntime NothingSucceeded) oneReminderSchedule
      [.begin firstReminder, .begin secondReminder, .write firstReminder.caseId,
        .write secondReminder.caseId]
      { oneReminderSchedule with store := remindedTwiceStore } :=
    Schedule.overlap firstReminder_begins.1 secondReminder_begins.1 (fun _ => rfl)
      (by rw [hcase₁, hcase₂]; decide) (by rw [hcase₂]; exact hrow)
  rw [hcase₁, hcase₂] at hrun
  exact hrun

/-! ### One reminder after the other -/

/-- A reminder that nobody accompanies reads what it finds when it writes. -/
theorem run_serialReminder {σ : Schedule} (h : t.Begins rt σ.store)
    (hidle : ∀ caseId, σ.running caseId = none) (hsettings : t.svc.settings = settings)
    (htool : t.request.tool = .sendNotification) :
    Run (Guarded (Schedule.Step rt NothingSucceeded) (SerialReminders settings M customerId)) σ
      [.begin t, .write t.caseId] { σ with store := committed (t.write rt) σ.store } := by
  have hserial : SerialReminders settings M customerId (σ.begun t) (.write t.caseId) := by
    intro t' ht' _
    have ht : (σ.begun t).running t.caseId = some t := Function.update_self _ _ _
    obtain rfl := Option.some.inj (ht.symm.trans ht')
    refine ⟨hsettings, htool, ?_⟩
    rw [h.read]
    rfl
  exact (Run.single ⟨trivial, Schedule.step_begin h (hidle t.caseId)⟩).snoc
    ⟨hserial, Schedule.step_write_alone t hidle⟩

/-- The reminder for the second case, evaluated after the first one was sent. -/
def laterReminder : ToolTransaction :=
  (ToolTransaction.ofExecute? sampleRuntime sampleService noonCaller (reminderFor 1)
    remindedOnceStore).get (by decide +kernel)

theorem laterReminder_begins :
    laterReminder.Begins sampleRuntime remindedOnceStore ∧ laterReminder.svc = sampleService :=
  begins_of_ofExecute? (Option.some_get _).symm

/-- The second reminder was refused. -/
def cappedReminderStore : Store :=
  committed (laterReminder.write sampleRuntime) remindedOnceStore

/-- Two calls of `execute` that do not overlap: the first reminder is sent, and the cap refuses
the second one. -/
theorem communicationCap_remindedOnce :
    remindedOnceStore = committed (execute sampleRuntime sampleService noonCaller
      (reminderFor 0)) oneReminderStore ∧
    cappedReminderStore = committed (execute sampleRuntime sampleService noonCaller
      (reminderFor 1)) remindedOnceStore ∧
    cappedReminderStore.actions.rows.map (·.status) = [.succeeded, .blocked] ∧
    windowCount (24 * hour) (cappedReminderStore.communicationTimes 0 0) 0 ≤ 1 := by
  obtain ⟨hfirst, hservice⟩ := firstReminder_begins
  obtain ⟨hlater, hservice'⟩ := laterReminder_begins
  have hrun : Run (Guarded (Schedule.Step sampleRuntime NothingSucceeded)
      (SerialReminders sampleService.settings 0 0)) oneReminderSchedule
      ([.begin firstReminder, .write firstReminder.caseId] ++
        [.begin laterReminder, .write laterReminder.caseId])
      { oneReminderSchedule with store := cappedReminderStore } :=
    (run_serialReminder (σ := oneReminderSchedule) hfirst (fun _ => rfl) (by rw [hservice])
      (by decide +kernel)).trans
      (run_serialReminder (σ := { oneReminderSchedule with store := remindedOnceStore }) hlater
        (fun _ => rfl) (by rw [hservice']) (by decide +kernel))
  have hmerchants : cappedReminderStore.merchants = oneReminderStore.merchants :=
    Schedule.run_merchants (fun _ _ hquiet => hquiet) (fun _ => rfl)
      (hrun.mono fun _ _ _ hstep => hstep.2)
  have hmerged : sampleService.settings.mergeMerchant sampleRuntime.py
      [("max_communications_per_day", .int 1)] = .ok { maxCommunicationsPerDay := 1 } := rfl
  exact ⟨committed_of_ofExecute? (Option.some_get _).symm,
    committed_of_ofExecute? (Option.some_get _).symm, by decide +kernel,
    communicationCap_run rfl (fun _ => rfl) hrun (by rw [hmerchants]; rfl) hmerged 0⟩

end ReviveX
