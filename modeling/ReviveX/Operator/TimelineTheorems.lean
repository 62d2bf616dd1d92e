import ReviveX.Operator.Timeline

/-!
# Polling a timeline

A client that polls `case_timeline` from the cursor of its last answer never gets an event
twice. It gets every event in the runs where no event is committed with a time that the cursor
has passed, and where no more events share a time than fit into an answer. Outside of them an
event is lost for good: it is not after the cursor, and the query asks for nothing else.
-/

namespace ReviveX

open Lib (After Caught Guarded IsPage Reader Run Table TiesFit due)

/-! ## Polling -/

/-- The database and a client of the timeline of a case. -/
structure TimelinePolling where
  store : Store
  client : Reader TimelineEvent Time := {}

inductive TimelineCall
  /-- A transaction commits, with these audit events. -/
  | commit (events : List AuditEvent)
  | poll

/-- The audit events of the case that are committed. -/
def TimelinePolling.events (w : TimelinePolling) (caseId : ℕ) : List TimelineEvent :=
  ((w.store.cases.get? caseId).map fun c => w.store.caseEvents c.merchantId caseId).getD []

/-- A commit adds its audit events and leaves the case with its merchant; a poll asks from the
cursor of the last answer. -/
inductive TimelineStep (caseId : ℕ) (merchantId : Option ℕ) :
    TimelinePolling → TimelineCall → TimelinePolling → Prop
  | commit {w : TimelinePolling} {events : List AuditEvent} {s' : Store}
      (haudits : s'.auditEvents.rows = w.store.auditEvents.rows ++ events)
      (hcase : (s'.cases.get? caseId).map (·.merchantId) =
        (w.store.cases.get? caseId).map (·.merchantId)) :
      TimelineStep caseId merchantId w (.commit events) { w with store := s' }
  | poll {w : TimelinePolling} {answer : TimelineAnswer}
      (hanswer : CaseTimeline w.store caseId merchantId w.client.cursor answer) :
      TimelineStep caseId merchantId w .poll
        { w with
          client := { received := w.client.received ++ answer.items, cursor := answer.cursor } }

/-- No event comes twice, and polling as often as there are events gets every one of them. -/
def TimelineDelivers (step : TimelinePolling → TimelineCall → TimelinePolling → Prop)
    (caseId : ℕ) (start : Store) : Prop :=
  ∀ calls w, Run step { store := start } calls w →
    w.client.received.Nodup ∧ (∀ e ∈ w.client.received, e ∈ w.events caseId) ∧
      ∀ n w', (w.events caseId).length ≤ n → Run step w (List.replicate n .poll) w' →
        ∀ e ∈ w.events caseId, e ∈ w'.client.received

/-- The events of the case that are committed are after the cursor; and when the client polls,
the events of no time are cut apart by the limit. -/
def TimelineKept (caseId : ℕ) (w : TimelinePolling) : TimelineCall → Prop
  | .commit events => ∀ e ∈ events, e.caseId = some caseId →
      ∀ since ∈ w.client.cursor, since < e.createdAt
  | .poll => TiesFit TimelineEvent.createdAt timelineLimit
      (due TimelineEvent.createdAt (w.events caseId) w.client.cursor)

variable {caseId : ℕ} {merchantId : Option ℕ} {w w' : TimelinePolling} {s s' : Store}
  {call : TimelineCall}

/-! ## Events -/

theorem mem_caseEvents {merchantId : ℕ} {e : TimelineEvent} :
    e ∈ s.caseEvents merchantId caseId ↔ s.auditEvents.get? e.1 = some e.2 ∧
      e.2.merchantId = merchantId ∧ e.2.caseId = some caseId := by
  unfold Store.caseEvents
  rw [List.mem_filter, ← Table.mem_entries]
  simp

theorem caseEvents_nodup (s : Store) (merchantId caseId : ℕ) :
    (s.caseEvents merchantId caseId).Nodup :=
  (Table.entries_nodup s.auditEvents).filter _

theorem events_nodup (w : TimelinePolling) (caseId : ℕ) : (w.events caseId).Nodup := by
  unfold TimelinePolling.events
  cases w.store.cases.get? caseId with
  | none => exact List.nodup_nil
  | some c => exact caseEvents_nodup w.store c.merchantId caseId

/-- A commit adds events, and only its own. -/
theorem mem_caseEvents_commit {merchantId : ℕ} {events : List AuditEvent} {e : TimelineEvent}
    (haudits : s'.auditEvents.rows = s.auditEvents.rows ++ events) :
    (e ∈ s.caseEvents merchantId caseId → e ∈ s'.caseEvents merchantId caseId) ∧
      (e ∈ s'.caseEvents merchantId caseId →
        e ∈ s.caseEvents merchantId caseId ∨ e.2 ∈ events ∧ e.2.caseId = some caseId) := by
  rw [mem_caseEvents, mem_caseEvents]
  unfold Table.get?
  rw [haudits, List.getElem?_append]
  constructor
  · rintro ⟨hrow, hcase⟩
    have hlt := (List.getElem?_eq_some_iff.mp hrow).1
    rw [if_pos hlt]
    exact ⟨hrow, hcase⟩
  · rintro ⟨hrow, hcase⟩
    split at hrow
    · exact .inl ⟨hrow, hcase⟩
    · exact .inr ⟨List.mem_of_getElem? hrow, hcase.2⟩

/-! ## Steps -/

/-- A commit whose events the cursor has not passed. -/
theorem events_commit {events : List AuditEvent}
    (haudits : s'.auditEvents.rows = w.store.auditEvents.rows ++ events)
    (hcase : (s'.cases.get? caseId).map (·.merchantId) =
      (w.store.cases.get? caseId).map (·.merchantId)) {e : TimelineEvent} :
    (e ∈ w.events caseId → e ∈ TimelinePolling.events { w with store := s' } caseId) ∧
      (e ∈ TimelinePolling.events { w with store := s' } caseId →
        e ∈ w.events caseId ∨ e.2 ∈ events ∧ e.2.caseId = some caseId) := by
  unfold TimelinePolling.events
  dsimp only
  cases hrow : w.store.cases.get? caseId with
  | none =>
    rw [hrow, Option.map_none, Option.map_eq_none_iff] at hcase
    rw [hcase]
    exact ⟨id, .inl⟩
  | some c =>
    rw [hrow] at hcase
    obtain ⟨c', hrow', hmerchant⟩ := Option.map_eq_some_iff.mp hcase
    rw [hrow']
    simp only [Option.map_some, Option.getD_some]
    rw [hmerchant]
    exact mem_caseEvents_commit haudits

/-- An answer is a page of the events of the case. -/
theorem CaseTimeline.page {since : Option Time} {answer : TimelineAnswer}
    (h : CaseTimeline w.store caseId merchantId since answer) :
    IsPage TimelineEvent.createdAt timelineLimit (w.events caseId) since answer.items := by
  obtain ⟨c, hcase, hitems⟩ := h.items
  have hrow : w.store.cases.get? caseId = some c := by
    unfold requireCase at hcase
    split at hcase
    · cases hcase
    · rename_i found hfound
      split at hcase
      · cases hcase
      · rw [hfound, Except.ok.inj hcase]
  unfold TimelinePolling.events
  rw [hrow]
  exact hitems

/-- The client reads a page. -/
theorem poll_client {answer : TimelineAnswer}
    (h : CaseTimeline w.store caseId merchantId w.client.cursor answer) :
    ({ received := w.client.received ++ answer.items, cursor := answer.cursor } :
      Reader TimelineEvent Time) = w.client.read TimelineEvent.createdAt answer.items := by
  rw [h.cursor]
  rfl

/-- The client has exactly the events up to its cursor. -/
def UpToDate (caseId : ℕ) (w : TimelinePolling) : Prop :=
  Caught TimelineEvent.createdAt (w.events caseId) w.client

theorem UpToDate.step (h : UpToDate caseId w)
    (hstep : Guarded (TimelineStep caseId merchantId) (TimelineKept caseId) w call w') :
    UpToDate caseId w' := by
  obtain ⟨hkept, hstep⟩ := hstep
  cases hstep with
  | commit haudits hcase =>
    refine Caught.grow h (fun e he => (events_commit haudits hcase).1 he) fun e he => ?_
    rcases (events_commit haudits hcase).2 he with hold | ⟨hnew, hcaseId⟩
    · exact .inl hold
    · right
      have hafter := hkept e.2 hnew hcaseId
      unfold After
      cases hcursor : w.client.cursor with
      | none => rfl
      | some since => exact decide_eq_true (hafter since hcursor)
  | poll hanswer =>
    unfold UpToDate
    rw [poll_client hanswer]
    exact h.read (events_nodup w caseId) hkept hanswer.page

/-- Polling on end: the events stay, and the client has them all or gets one more each time. -/
theorem UpToDate.polls (h : UpToDate caseId w) (n : ℕ)
    (hrun : Run (Guarded (TimelineStep caseId merchantId) (TimelineKept caseId)) w
      (List.replicate n .poll) w') :
    UpToDate caseId w' ∧ w'.events caseId = w.events caseId ∧
      ((∀ e ∈ w.events caseId, e ∈ w'.client.received) ∨ n ≤ w'.client.received.length) := by
  -- on the polls, the last one taken off: the run before it is one of fewer polls
  induction n generalizing w' with
  | zero =>
    generalize hcalls : List.replicate 0 TimelineCall.poll = calls at hrun
    cases hrun with
    | nil => exact ⟨h, rfl, .inr (Nat.zero_le _)⟩
    | snoc before last => simp at hcalls
  | succ n ih =>
    generalize hcalls : List.replicate (n + 1) TimelineCall.poll = calls at hrun
    cases hrun with
    | nil => simp at hcalls
    | snoc before last =>
      rename_i labels middle call
      rw [List.replicate_succ'] at hcalls
      obtain ⟨rfl, hcall⟩ := List.append_inj' hcalls rfl
      obtain rfl : TimelineCall.poll = call := List.singleton_inj.mp hcall
      obtain ⟨hmiddle, hevents, hprogress⟩ := ih before
      have hend := hmiddle.step last
      obtain ⟨-, hpoll⟩ := last
      cases hpoll with
      | poll hanswer =>
        refine ⟨hend, hevents, ?_⟩
        rw [poll_client hanswer]
        rcases hprogress with hall | hlength
        · exact .inl fun e he => List.mem_append_left _ (hall e he)
        · rcases Caught.progress hmiddle (by decide) hanswer.page with hall | hmore
          · rw [hevents] at hall
            exact .inl fun e he => List.mem_append_left _ (hall e he)
          · exact .inr (Nat.succ_le_of_lt (hlength.trans_lt hmore))

/-- In every run that keeps the condition, polling delivers every event once. -/
theorem timeline_delivers (caseId : ℕ) (merchantId : Option ℕ) (start : Store) :
    TimelineDelivers (Guarded (TimelineStep caseId merchantId) (TimelineKept caseId)) caseId
      start := by
  intro calls w hrun
  have hcaught : UpToDate caseId w :=
    hrun.invariant (P := UpToDate caseId) (fun _ _ _ h hstep => h.step hstep) (Caught.start _ _)
  refine ⟨hcaught.once, hcaught.real, fun n w' hn hpolls => ?_⟩
  obtain ⟨hend, hevents, hall | hlength⟩ := hcaught.polls n hpolls
  · exact hall
  · have hcomplete := hend.complete (by
      rw [hevents]
      omega)
    rw [hevents] at hcomplete
    exact hcomplete

/-! ### An event that commits late -/

/-- An event of the first case. -/
def eventAt (createdAt : Time) : AuditEvent where
  merchantId := 0
  caseId := some 0
  actorType := .worker
  eventType := .paymentUpdated
  createdAt := createdAt

/-- A case and its first events. -/
def timelineStore (events : List AuditEvent) : Store where
  cases := ⟨[sampleCase 0 100000 .detected]⟩
  auditEvents := ⟨events⟩

/-- Two transactions have written an event each, and the one that wrote first has committed
last. The client has asked in between. -/
def lateCommit : TimelinePolling where
  store := timelineStore [eventAt 2, eventAt 1]
  client := { received := [(0, eventAt 2)], cursor := some 2 }

theorem lateCommit_reached :
    ∃ calls, Run (TimelineStep 0 none) { store := timelineStore [] } calls lateCommit := by
  have hfirst : TimelineStep 0 none { store := timelineStore [] } (.commit [eventAt 2])
      { store := timelineStore [eventAt 2] } := .commit rfl rfl
  have hanswer : CaseTimeline (timelineStore [eventAt 2]) 0 none none
      { cursor := some 2, items := [(0, eventAt 2)] } :=
    { items := ⟨_, rfl, [(0, eventAt 2)], by decide, by decide, rfl⟩, cursor := rfl }
  have hsecond : TimelineStep 0 none
      { store := timelineStore [eventAt 2]
        client := { received := [(0, eventAt 2)], cursor := some 2 } } (.commit [eventAt 1])
      lateCommit := .commit rfl rfl
  exact ⟨_, ((Run.single hfirst).snoc (.poll hanswer)).snoc hsecond⟩

/-- From then on, the answers are empty. -/
theorem lateCommit_polls (n : ℕ) :
    Run (TimelineStep 0 none) lateCommit (List.replicate n .poll) lateCommit := by
  have hanswer : CaseTimeline lateCommit.store 0 none (some 2) { cursor := some 2, items := [] } :=
    { items := ⟨_, rfl, [], by decide, by decide, rfl⟩, cursor := rfl }
  induction n with
  | zero => exact .nil
  | succ n ih =>
    rw [List.replicate_succ']
    exact ih.snoc (.poll hanswer)

/-- The event is never delivered. -/
theorem timeline_loses : ¬ TimelineDelivers (TimelineStep 0 none) 0 (timelineStore []) := by
  intro hdelivers
  obtain ⟨calls, hreached⟩ := lateCommit_reached
  have hall := (hdelivers calls lateCommit hreached).2.2 2 lateCommit le_rfl (lateCommit_polls 2)
    (1, eventAt 1) (by decide)
  revert hall
  decide

end ReviveX
