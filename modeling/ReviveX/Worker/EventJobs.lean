import ReviveX.Domain.DispatchTheorems
import ReviveX.Domain.IngestionTheorems
import ReviveX.Domain.OrderTheorems
import ReviveX.Lib.Runs
import Mathlib.Logic.Function.Basic

/-!
# Acknowledged events

`ingest` inserts its row, puts the job on the queue and answers; the row is committed when the
request ends. Until then a worker does not find the row: the job fails, and once it has no
retries left `mark_dead_letter` finds no row either and the job is gone. A failed attempt with
retries left is put off by an interval, and the worker runs without the scheduler that would take
it back. In every run in which neither happens to an event that is owed, no job is lost and every
acknowledgement comes from the queue, a queued row that is still `RECEIVED` has a job.
-/

namespace ReviveX

open Lib (Guarded Run Session Table)

/-! ## Deliveries and jobs -/

/-- The transaction of one `ingest` call that stores its event. -/
inductive DeliveryPhase
  | absent
  /-- The row is inserted and not committed; `queued` is the answer so far. -/
  | inserted (queued : Bool)
  | committed (webhookEventId : ℕ) (queued : Bool)
  | rolledBack

/-- A job of the queue. -/
inductive EventJobPhase
  | absent
  /-- In the queue or being worked on, with these retries left. -/
  | waiting (retriesLeft : ℕ)
  /-- The last attempt failed, and the row is to be dead-lettered. -/
  | exhausted
  /-- An attempt failed, and the next one is put off by `Retry(interval=...)`. The worker runs
  `with_scheduler=False`, so nothing puts the job back on the queue. -/
  | scheduled (retriesLeft : ℕ)
  | finished

/-- The job is in the queue or being worked on. -/
def EventJobPhase.Live : EventJobPhase → Prop
  | .waiting _ | .exhausted => True
  | .absent | .scheduled _ | .finished => False

/-- The database, the deliveries and the jobs by number. -/
structure DeliverySystem where
  store : Store
  delivery : ℕ → DeliveryPhase := fun _ => .absent
  job : ℕ → EventJobPhase := fun _ => .absent

namespace DeliverySystem

def setDelivery (w : DeliverySystem) (k : ℕ) (phase : DeliveryPhase) : DeliverySystem :=
  { w with delivery := Function.update w.delivery k phase }

def setJob (w : DeliverySystem) (j : ℕ) (phase : EventJobPhase) : DeliverySystem :=
  { w with job := Function.update w.job j phase }

end DeliverySystem

/-- The row is there, and nothing has come of it yet. -/
def Store.IsReceived (s : Store) (i : ℕ) : Prop :=
  ∃ row, s.webhookEvents.get? i = some row ∧ row.status = .received

/-- The row is there. -/
def Store.IsThere (s : Store) (i : ℕ) : Prop := (s.webhookEvents.get? i).isSome = true

/-- The steps of the deliveries and of the workers. -/
inductive DeliveryLabel
  | insert (k : ℕ)
  | enqueue (k j : ℕ)
  | announce (k : ℕ)
  | commit (k : ℕ)
  | rollback (k : ℕ)
  | redeliver (j : ℕ)
  | process (j : ℕ)
  | fail (j : ℕ)
  | deadLetter (j : ℕ)
  | lose (j : ℕ)
  | others

/-- One step; job `j` carries the row of delivery `deliveryOf j`. -/
inductive DeliveryStep (env : EventText) (deliveryOf : ℕ → ℕ) :
    DeliverySystem → DeliveryLabel → DeliverySystem → Prop
  | insert {w : DeliverySystem} {k : ℕ} (hphase : w.delivery k = .absent) :
      DeliveryStep env deliveryOf w (.insert k) (w.setDelivery k (.inserted false))
  /-- `RedisEventQueue.enqueue_process_provider_event` succeeds; the answer will be `queued`. -/
  | enqueue {w : DeliverySystem} {k j : ℕ} (maxRetries : ℕ)
      (hphase : w.delivery k = .inserted false) (hjob : w.job j = .absent)
      (hdelivery : deliveryOf j = k) :
      DeliveryStep env deliveryOf w (.enqueue k j)
        ((w.setDelivery k (.inserted true)).setJob j (.waiting maxRetries))
  /-- `LoggingEventQueue.enqueue_process_provider_event`, without Redis: no job, and the same
  answer. -/
  | announce {w : DeliverySystem} {k : ℕ} (hphase : w.delivery k = .inserted false) :
      DeliveryStep env deliveryOf w (.announce k) (w.setDelivery k (.inserted true))
  /-- The same for a duplicate of a committed delivery. -/
  | announceAgain {w : DeliverySystem} {k i : ℕ} {queued : Bool}
      (hphase : w.delivery k = .committed i queued) :
      DeliveryStep env deliveryOf w (.announce k) (w.setDelivery k (.committed i true))
  /-- The request ends: what `ingest` did takes effect. -/
  | commit {w : DeliverySystem} {k : ℕ} {queued : Bool} {r : IngestResult} {s' : Store}
      (now : Time) (event : ProviderEvent) (merchantId : ℕ)
      (hphase : w.delivery k = .inserted queued)
      (hrun : (ingest env now queued event merchantId).run w.store = (.ok r, s'))
      (hnew : r.duplicate = false) :
      DeliveryStep env deliveryOf w (.commit k)
        { w.setDelivery k (.committed r.webhookEventId r.queued) with store := s' }
  | rollback {w : DeliverySystem} {k : ℕ} {queued : Bool}
      (hphase : w.delivery k = .inserted queued) :
      DeliveryStep env deliveryOf w (.rollback k) (w.setDelivery k .rolledBack)
  /-- A duplicate of a committed delivery is put on the queue again. -/
  | redeliver {w : DeliverySystem} {j i : ℕ} {queued : Bool} (maxRetries : ℕ)
      (hphase : w.delivery (deliveryOf j) = .committed i queued) (hjob : w.job j = .absent) :
      DeliveryStep env deliveryOf w (.redeliver j)
        ((w.setDelivery (deliveryOf j) (.committed i true)).setJob j (.waiting maxRetries))
  /-- The worker finds the row, and the job returns. -/
  | process {w : DeliverySystem} {j n i : ℕ} {queued : Bool} {r : ProcessingResult} {s' : Store}
      (now : Time) (hjob : w.job j = .waiting n)
      (hphase : w.delivery (deliveryOf j) = .committed i queued)
      (hrun : (processWebhookEvent env now i).run w.store = (.ok r, s')) :
      DeliveryStep env deliveryOf w (.process j) { w.setJob j .finished with store := s' }
  /-- The job raises, also when it does not find its row, and is rolled back. -/
  | fail {w : DeliverySystem} {j n : ℕ} (hjob : w.job j = .waiting n) :
      DeliveryStep env deliveryOf w (.fail j)
        (w.setJob j (match n with
          | 0 => .exhausted
          | retriesLeft + 1 => .scheduled retriesLeft))
  /-- `mark_dead_letter` of a row that it finds. -/
  | deadLetter {w : DeliverySystem} {j i : ℕ} {queued : Bool} (now : Time) (error : String)
      (hjob : w.job j = .exhausted)
      (hphase : w.delivery (deliveryOf j) = .committed i queued) :
      DeliveryStep env deliveryOf w (.deadLetter j)
        { w.setJob j .finished with store := ((markDeadLetter now i error).run w.store).2 }
  /-- `mark_dead_letter` of a row that is not there. -/
  | deadLetterNone {w : DeliverySystem} {j : ℕ} (hjob : w.job j = .exhausted)
      (hphase : ∀ i queued, w.delivery (deliveryOf j) ≠ .committed i queued) :
      DeliveryStep env deliveryOf w (.deadLetter j) (w.setJob j .finished)
  /-- The job ends without its dead-letter step: `mark_dead_letter` or its commit raises, or the
  worker is killed. -/
  | lose {w : DeliverySystem} {j : ℕ} (hjob : (w.job j).Live) :
      DeliveryStep env deliveryOf w (.lose j) (w.setJob j .finished)
  /-- Any other transaction; none makes a row `RECEIVED`, or deletes one. -/
  | others {w : DeliverySystem} (s' : Store)
      (hreceived : ∀ i, s'.IsReceived i → w.store.IsReceived i)
      (hthere : ∀ i, w.store.IsThere i → s'.IsThere i) :
      DeliveryStep env deliveryOf w .others { w with store := s' }

/-- A row that was acknowledged as queued and is still `RECEIVED` has a job. -/
def AcknowledgedHaveJobs (deliveryOf : ℕ → ℕ) (w : DeliverySystem) : Prop :=
  ∀ k i, w.delivery k = .committed i true → w.store.IsReceived i →
    ∃ j, deliveryOf j = k ∧ (w.job j).Live

/-- In every run, the acknowledged events are processable. -/
def NeverStrandsEvents (step : DeliverySystem → DeliveryLabel → DeliverySystem → Prop)
    (deliveryOf : ℕ → ℕ) (start : Store) : Prop :=
  ∀ labels w, Run step { store := start } labels w → AcknowledgedHaveJobs deliveryOf w

/-- The delivery was, or will be, answered as queued, and nothing has come of its row. -/
def DeliverySystem.Owes (w : DeliverySystem) (k : ℕ) : Prop :=
  w.delivery k = .inserted true ∨ ∃ i, w.delivery k = .committed i true ∧ w.store.IsReceived i

/-- Acknowledgements come from the Redis queue; while its event is owed, no attempt of a job fails
with retries left, no job is lost, and none dead-letters its row before the row is committed. -/
def SparesJobs (deliveryOf : ℕ → ℕ) (w : DeliverySystem) : DeliveryLabel → Prop
  | .announce _ => False
  | .fail j => w.job j = .waiting 0 ∨ ¬ w.Owes (deliveryOf j)
  | .lose j => ¬ w.Owes (deliveryOf j)
  | .deadLetter j => ∀ queued, w.delivery (deliveryOf j) ≠ .inserted queued
  | _ => True

/-! ## What the transactions do to rows that are `RECEIVED` -/

variable {env : EventText} {now : Time} {i k : ℕ} {s s' : Store}

/-- A write of one row. -/
theorem received_of_modify {row : WebhookEvent} (hdone : row.status ≠ .received)
    (htable : s'.webhookEvents = s.webhookEvents.modify i fun _ => row) (h : s'.IsReceived k) :
    s.IsReceived k ∧ k ≠ i := by
  obtain ⟨row', hrow', hreceived⟩ := h
  rw [htable, Table.get?_modify] at hrow'
  split at hrow'
  · rename_i hik
    subst hik
    obtain ⟨_, -, rfl⟩ := Option.map_eq_some_iff.mp hrow'
    exact absurd hreceived hdone
  · rename_i hik
    exact ⟨⟨row', hrow', hreceived⟩, Ne.symm hik⟩

theorem isThere_of_modify {row : WebhookEvent}
    (htable : s'.webhookEvents = s.webhookEvents.modify i fun _ => row) (h : s.IsThere k) :
    s'.IsThere k := by
  unfold Store.IsThere at h ⊢
  rw [htable, Table.get?_modify]
  split
  · rw [Option.isSome_map]
    exact h
  · exact h

/-- A row that is done with is not `RECEIVED`. -/
theorem received_of_settled {row : WebhookEvent} (hrow : s.webhookEvents.get? i = some row)
    (hsettled : row.status.isSettled = true) (h : s.IsReceived k) : k ≠ i := by
  rintro rfl
  obtain ⟨row', hrow', hreceived⟩ := h
  obtain rfl := Option.some.inj (hrow.symm.trans hrow')
  rw [hreceived] at hsettled
  cases hsettled

/-- A call of `process_webhook_event` that returns is done with its row. -/
theorem processWebhookEvent_received {r : ProcessingResult}
    (hrun : (processWebhookEvent env now i).run s = (.ok r, s')) (h : s'.IsReceived k) :
    s.IsReceived k ∧ k ≠ i := by
  have hout := webhookOutcome env now i s
  rw [hrun] at hout
  cases hout with
  | settled status hrow hsettled => exact ⟨h, received_of_settled hrow hsettled h⟩
  | deadLettered e audits hrow heligible hverdict hpermanent =>
    exact received_of_modify (by exact nofun) rfl h
  | processed audits hrow heligible hmerchant hread hdispatch =>
    exact received_of_modify (by exact nofun) rfl h

theorem processWebhookEvent_isThere {r : ProcessingResult}
    (hrun : (processWebhookEvent env now i).run s = (.ok r, s')) (h : s.IsThere k) :
    s'.IsThere k := by
  have hout := webhookOutcome env now i s
  rw [hrun] at hout
  cases hout with
  | settled status hrow hsettled => exact h
  | deadLettered e audits hrow heligible hverdict hpermanent => exact isThere_of_modify rfl h
  | processed audits hrow heligible hmerchant hread hdispatch => exact isThere_of_modify rfl h

/-- `mark_dead_letter` of a row that is there is done with it. -/
theorem markDeadLetter_cases (now : Time) (error : String) {row : WebhookEvent}
    (hrow : s.webhookEvents.get? i = some row) :
    (row.status.isSettled = true ∧ (markDeadLetter now i error).run s = (.ok (), s)) ∨
      ∃ row', row'.status = .deadLetter ∧
        ((markDeadLetter now i error).run s).2.webhookEvents =
          s.webhookEvents.modify i fun _ => row' := by
  unfold markDeadLetter
  rw [Session.run_get_bind, hrow]
  dsimp only
  rw [Session.run_ite]
  split
  · rename_i hsettled
    refine .inl ⟨?_, rfl⟩
    simpa [WebhookEventStatus.isSettled] using hsettled
  · have hwrite : s.webhookEvents.modify i (·.giveUp error) =
        s.webhookEvents.modify i fun _ => row.giveUp error := Table.modify_congr hrow rfl
    exact .inr ⟨row.giveUp error, rfl, hwrite⟩

/-! ## The invariant -/

/-- Whatever is owed has a job, and committed rows are there. -/
structure DeliveryInvariant (deliveryOf : ℕ → ℕ) (w : DeliverySystem) : Prop where
  jobs : ∀ k, w.Owes k → ∃ j, deliveryOf j = k ∧ (w.job j).Live
  rows : ∀ k i queued, w.delivery k = .committed i queued → w.store.IsThere i

variable {deliveryOf : ℕ → ℕ} {w w' : DeliverySystem} {label : DeliveryLabel}

namespace DeliveryInvariant

/-- A step after which no more is owed, and whoever is owed to keeps its jobs. -/
theorem keep (h : DeliveryInvariant deliveryOf w)
    (hjobs : ∀ k, w'.Owes k → w.Owes k ∧
      ∀ j, deliveryOf j = k → (w.job j).Live → (w'.job j).Live)
    (hrows : ∀ k i queued, w'.delivery k = .committed i queued → w'.store.IsThere i) :
    DeliveryInvariant deliveryOf w' where
  jobs k howes := by
    obtain ⟨howed, hlive⟩ := hjobs k howes
    obtain ⟨j, hj, hjob⟩ := h.jobs k howed
    exact ⟨j, hj, hlive j hj hjob⟩
  rows := hrows

/-- A job that is done with a committed delivery, whose row is not `RECEIVED` any more. -/
theorem finish {j i : ℕ} {queued : Bool} (h : DeliveryInvariant deliveryOf w)
    (hphase : w.delivery (deliveryOf j) = .committed i queued)
    (hreceived : ∀ k, s'.IsReceived k → w.store.IsReceived k ∧ k ≠ i)
    (hthere : ∀ k, w.store.IsThere k → s'.IsThere k) :
    DeliveryInvariant deliveryOf { w.setJob j .finished with store := s' } := by
  refine h.keep (fun k howes => ?_) fun k i queued hk => hthere i (h.rows k i queued hk)
  have hne : k ≠ deliveryOf j ∧ w.Owes k := by
    rcases howes with hinserted | ⟨i', hcommitted, hrow⟩
    · refine ⟨?_, .inl hinserted⟩
      rintro rfl
      have hsame := hphase.symm.trans hinserted
      cases hsame
    · obtain ⟨hbefore, hne⟩ := hreceived i' hrow
      refine ⟨?_, .inr ⟨i', hcommitted, hbefore⟩⟩
      rintro rfl
      have hsame := hphase.symm.trans hcommitted
      exact hne (DeliveryPhase.committed.inj hsame).1.symm
  refine ⟨hne.2, fun l hl hlive => ?_⟩
  have hlj : l ≠ j := by
    rintro rfl
    exact hne.1 hl.symm
  show EventJobPhase.Live (Function.update w.job j .finished l)
  rw [Function.update_of_ne hlj]
  exact hlive

/-- A step of one delivery that neither answers nor commits. -/
theorem setDelivery {k : ℕ} {phase : DeliveryPhase} (h : DeliveryInvariant deliveryOf w)
    (hphase : phase = .inserted false ∨ phase = .rolledBack) :
    DeliveryInvariant deliveryOf (w.setDelivery k phase) := by
  have hother : ∀ k' phase', Function.update w.delivery k phase k' = phase' →
      phase' ≠ .inserted false → phase' ≠ .rolledBack → w.delivery k' = phase' := by
    intro k' phase' hk' hinserted hrolledBack
    by_cases hkk : k' = k
    · subst hkk
      rw [Function.update_self] at hk'
      subst hk'
      rcases hphase with hphase | hphase
      · exact absurd hphase hinserted
      · exact absurd hphase hrolledBack
    · rwa [Function.update_of_ne hkk] at hk'
  refine h.keep (fun k' howes => ⟨?_, fun j _ hlive => hlive⟩) fun k' i queued hk' =>
    h.rows k' i queued (hother k' _ hk' nofun nofun)
  rcases howes with hinserted | ⟨i, hcommitted, hrow⟩
  · exact .inl (hother k' _ hinserted nofun nofun)
  · exact .inr ⟨i, hother k' _ hcommitted nofun nofun, hrow⟩

/-- A new job for a delivery. -/
theorem submit {j n : ℕ} {phase : DeliveryPhase} (h : DeliveryInvariant deliveryOf w)
    (hjob : w.job j = .absent)
    (hrows : ∀ i queued, phase = .committed i queued → w.store.IsThere i) :
    DeliveryInvariant deliveryOf
      ((w.setDelivery (deliveryOf j) phase).setJob j (.waiting n)) where
  jobs k howes := by
    show ∃ l, deliveryOf l = k ∧ EventJobPhase.Live (Function.update w.job j (.waiting n) l)
    by_cases hk : k = deliveryOf j
    · refine ⟨j, hk.symm, ?_⟩
      rw [Function.update_self]
      trivial
    · have howed : w.Owes k := by
        have hsame : Function.update w.delivery (deliveryOf j) phase k = w.delivery k :=
          Function.update_of_ne hk _ _
        rcases howes with hinserted | ⟨i, hcommitted, hrow⟩
        · exact .inl (hsame.symm.trans hinserted)
        · exact .inr ⟨i, hsame.symm.trans hcommitted, hrow⟩
      obtain ⟨l, hl, hlive⟩ := h.jobs k howed
      have hlj : l ≠ j := by
        rintro rfl
        rw [hjob] at hlive
        exact hlive
      refine ⟨l, hl, ?_⟩
      rw [Function.update_of_ne hlj]
      exact hlive
  rows k i queued hk := by
    have hk : Function.update w.delivery (deliveryOf j) phase k = .committed i queued := hk
    by_cases hkj : k = deliveryOf j
    · subst hkj
      rw [Function.update_self] at hk
      exact hrows i queued hk
    · rw [Function.update_of_ne hkj] at hk
      exact h.rows k i queued hk

/-- The commit of a delivery. -/
theorem commit {k : ℕ} {queued : Bool} {event : ProviderEvent} {merchantId : ℕ}
    {r : IngestResult} (h : DeliveryInvariant deliveryOf w)
    (hphase : w.delivery k = .inserted queued)
    (hrun : (ingest env now queued event merchantId).run w.store = (.ok r, s'))
    (hnew : r.duplicate = false) :
    DeliveryInvariant deliveryOf
      { w.setDelivery k (.committed r.webhookEventId r.queued) with store := s' } := by
  have hout := ingest_outcome env now queued event merchantId w.store
  rw [hrun] at hout
  cases hout with
  | duplicate hadmitted hfound hrow => cases hnew
  | stored hadmitted hvalid hmerchant hfresh hunique =>
    -- the insert takes a new id, so the rows that were there stay what they are
    have hkept : ∀ i, w.store.IsThere i →
        (w.store.webhookEvents.insert (event.row env merchantId now)).get? i =
          w.store.webhookEvents.get? i := by
      intro i hi
      obtain ⟨row, hrow⟩ := Option.isSome_iff_exists.mp hi
      rw [hrow]
      exact Table.get?_insert_of_some hrow _
    have hother : ∀ k', k' ≠ k → Function.update w.delivery k
        (.committed w.store.webhookEvents.nextId queued) k' = w.delivery k' :=
      fun k' hk => Function.update_of_ne hk _ _
    refine h.keep (fun k' howes => ⟨?_, fun j _ hlive => hlive⟩) fun k' i queued' hk' => ?_
    · by_cases hkk : k' = k
      · subst hkk
        have hself : Function.update w.delivery k'
            (.committed w.store.webhookEvents.nextId queued) k' = .committed _ queued :=
          Function.update_self _ _ _
        -- what the delivery owes now it owed when it was inserted
        rcases howes with hinserted | ⟨i, hcommitted, -⟩
        · have hsame := hself.symm.trans hinserted
          cases hsame
        · have hsame := hself.symm.trans hcommitted
          rw [(DeliveryPhase.committed.inj hsame).2] at hphase
          exact .inl hphase
      · rcases howes with hinserted | ⟨i, hcommitted, row, hrow, hreceived⟩
        · exact .inl ((hother k' hkk).symm.trans hinserted)
        · have hcommitted := (hother k' hkk).symm.trans hcommitted
          have hthere := hkept i (h.rows k' i true hcommitted)
          exact .inr ⟨i, hcommitted, row, hthere.symm.trans hrow, hreceived⟩
    · show ((w.store.webhookEvents.insert _).get? i).isSome = true
      by_cases hkk : k' = k
      · subst hkk
        have hself : Function.update w.delivery k'
            (.committed w.store.webhookEvents.nextId queued) k' = .committed _ queued :=
          Function.update_self _ _ _
        have hsame := hself.symm.trans hk'
        rw [← (DeliveryPhase.committed.inj hsame).1, Table.get?_insert_nextId]
        rfl
      · have hthere := h.rows k' i queued' ((hother k' hkk).symm.trans hk')
        rw [hkept i hthere]
        exact hthere

/-- A job moves on to a phase in which it is worked on, or nothing is owed for its delivery. -/
theorem moveJob {j : ℕ} {phase : EventJobPhase} (h : DeliveryInvariant deliveryOf w)
    (hphase : phase.Live ∨ ¬ w.Owes (deliveryOf j)) :
    DeliveryInvariant deliveryOf (w.setJob j phase) := by
  refine h.keep (fun k howes => ⟨howes, fun l hl hlive => ?_⟩) h.rows
  show EventJobPhase.Live (Function.update w.job j phase l)
  by_cases hlj : l = j
  · subst hlj
    rw [Function.update_self]
    exact hphase.resolve_right fun hnone => hnone (hl.symm ▸ howes)
  · rw [Function.update_of_ne hlj]
    exact hlive

/-- Every step that spares the jobs keeps the invariant. -/
theorem step (h : DeliveryInvariant deliveryOf w)
    (hstep : Guarded (DeliveryStep env deliveryOf) (SparesJobs deliveryOf) w label w') :
    DeliveryInvariant deliveryOf w' := by
  obtain ⟨hguard, hstep⟩ := hstep
  cases hstep with
  | insert hphase => exact h.setDelivery (.inl rfl)
  | enqueue maxRetries hphase hjob hdelivery =>
    subst hdelivery
    exact h.submit hjob fun i queued heq => nomatch heq
  | commit now event merchantId hphase hrun hnew => exact h.commit hphase hrun hnew
  | rollback hphase => exact h.setDelivery (.inr rfl)
  | redeliver maxRetries hphase hjob =>
    rename_i j i queued
    refine h.submit hjob fun i' queued' heq => ?_
    obtain ⟨rfl, -⟩ := DeliveryPhase.committed.inj heq
    exact h.rows (deliveryOf j) i queued hphase
  | process now hjob hphase hrun =>
    exact h.finish hphase (fun k hk => processWebhookEvent_received hrun hk)
      fun k hk => processWebhookEvent_isThere hrun hk
  | announce hphase => exact hguard.elim
  | announceAgain hphase => exact hguard.elim
  | fail hjob =>
    refine h.moveJob (hguard.imp_left fun hlast => ?_)
    obtain rfl := EventJobPhase.waiting.inj (hjob.symm.trans hlast)
    trivial
  | lose hjob => exact h.moveJob (.inr hguard)
  | deadLetter now error hjob hphase =>
    rename_i j i queued
    obtain ⟨row, hrow⟩ := Option.isSome_iff_exists.mp (h.rows _ i queued hphase)
    rcases markDeadLetter_cases now error hrow with ⟨hsettled, hsame⟩ | ⟨row', hdead, htable⟩
    · rw [hsame]
      exact h.finish hphase (fun k hk => ⟨hk, received_of_settled hrow hsettled hk⟩)
        fun k hk => hk
    · refine h.finish hphase (fun k hk => received_of_modify ?_ htable hk)
        fun k hk => isThere_of_modify htable hk
      rw [hdead]
      exact nofun
  | deadLetterNone hjob hphase =>
    refine h.moveJob (.inr ?_)
    rintro (hinserted | ⟨i, hcommitted, -⟩)
    · exact hguard true hinserted
    · exact hphase i true hcommitted
  | others s' hreceived hthere =>
    refine h.keep (fun k howes => ⟨?_, fun j _ hlive => hlive⟩)
      fun k i queued hk => hthere i (h.rows k i queued hk)
    rcases howes with hinserted | ⟨i, hcommitted, hrow⟩
    · exact .inl hinserted
    · exact .inr ⟨i, hcommitted, hreceived i hrow⟩

end DeliveryInvariant

/-- In every run whose steps spare the jobs, an acknowledged event that is still `RECEIVED` has a
job. -/
theorem acknowledged_have_jobs (env : EventText) (deliveryOf : ℕ → ℕ) (start : Store) :
    NeverStrandsEvents (Guarded (DeliveryStep env deliveryOf) (SparesJobs deliveryOf))
      deliveryOf start := by
  intro labels w hrun
  have hnone : ∀ k, ¬ DeliverySystem.Owes { store := start } k := by
    rintro k (hinserted | ⟨i, hcommitted, -⟩)
    · cases hinserted
    · cases hcommitted
  have hstart : DeliveryInvariant deliveryOf { store := start } :=
    ⟨fun k howes => absurd howes (hnone k), fun k i queued hk => nomatch hk⟩
  have hend := hrun.invariant (fun _ _ _ h hstep => h.step hstep) hstart
  exact fun k i hk hrow => hend.jobs k (.inr ⟨i, hk, hrow⟩)

/-- A first attempt that fails takes the only job of its row, however many retries it has. -/
theorem failedAttempt_strands {j n i : ℕ} (hjob : w.job j = .waiting (n + 1))
    (honly : ∀ l, deliveryOf l = deliveryOf j → (w.job l).Live → l = j)
    (hphase : w.delivery (deliveryOf j) = .committed i true) (hrow : w.store.IsReceived i) :
    DeliveryStep env deliveryOf w (.fail j) (w.setJob j (.scheduled n)) ∧
      ¬ AcknowledgedHaveJobs deliveryOf (w.setJob j (.scheduled n)) := by
  refine ⟨.fail hjob, fun h => ?_⟩
  obtain ⟨l, hl, hlive⟩ := h _ i hphase hrow
  have hlive : EventJobPhase.Live (Function.update w.job j (.scheduled n) l) := hlive
  by_cases hlj : l = j
  · rw [hlj, Function.update_self] at hlive
    exact hlive
  · rw [Function.update_of_ne hlj] at hlive
    exact hlj (honly l hl hlive)

/-! ### A worker that is faster than the commit -/

/-- A failure that the provider reports. -/
def acknowledgedFailure : ProviderEvent where
  provider := "SIMULATOR"
  eventId := "evt_3"
  eventType := "payment.failed"
  occurredAt := 0
  providerResourceId := "pay_1"
  payload := [("provider_payment_id", .str "pay_1"), ("amount", .str "100"),
    ("customer_id", .str "0")]
  merchantReference := "0"

/-- The job of a queue without retries runs and dead-letters before the row is committed. -/
theorem fastWorker_strands : ∃ labels w,
    Run (DeliveryStep sampleEventText id) { store := unorderedStore } labels w ∧
      w.delivery 0 = .committed 2 true ∧ w.store.IsReceived 2 ∧ ∀ j, ¬ (w.job j).Live := by
  have hingested : (ingest sampleEventText 0 true acknowledgedFailure 0).run unorderedStore =
      (.ok (storedResult true 2 acknowledgedFailure 0), _) :=
    Session.run_of_result (by decide +kernel)
  have hinserted : Run (DeliveryStep sampleEventText id) { store := unorderedStore }
      [.insert 0] _ := .single (.insert rfl)
  have hqueued := hinserted.snoc (i := .enqueue 0 0) (.enqueue 0 rfl rfl rfl)
  have hfailed := hqueued.snoc (i := .fail 0) (.fail rfl)
  have hdropped := hfailed.snoc (i := .deadLetter 0) (.deadLetterNone rfl (by
    intro i queued heq
    have heq : DeliveryPhase.inserted true = .committed i queued := heq
    cases heq))
  have hcommitted := hdropped.snoc (i := .commit 0)
    (.commit 0 acknowledgedFailure 0 rfl hingested rfl)
  refine ⟨_, _, hcommitted, rfl, ?_, ?_⟩
  · have hstatus : (((ingest sampleEventText 0 true acknowledgedFailure 0).run
        unorderedStore).2.webhookEvents.get? 2).map (·.status) = some .received := by
      decide +kernel
    obtain ⟨row, hrow, hreceived⟩ := Option.map_eq_some_iff.mp hstatus
    exact ⟨row, hrow, hreceived⟩
  · intro j
    by_cases hj : j = 0
    · subst hj
      exact id
    · simp [DeliverySystem.setJob, DeliverySystem.setDelivery, hj, EventJobPhase.Live]

theorem fastWorker_not_acknowledged :
    ¬ NeverStrandsEvents (DeliveryStep sampleEventText id) id unorderedStore := by
  intro hnever
  obtain ⟨labels, w, hrun, hcommitted, hreceived, hnone⟩ := fastWorker_strands
  obtain ⟨j, -, hlive⟩ := hnever labels w hrun 0 2 hcommitted hreceived
  exact hnone j hlive

end ReviveX
