import ReviveX.Worker.WebhookSteps

/-!
# Exactly-once webhook effects

In every run of deliveries, workers and dead-lettering, the payments, attempts and cases are
those of the events that were committed, dispatched once each in the order of their commits;
these are the rows that are `PROCESSED`. Two interleavings break this, and the theorem is
about the runs without them: a payment that another event changes between the two reads of a
worker, and a row that a worker processes between the two statements of `mark_dead_letter`.
-/

namespace ReviveX

open Lib (Guarded Run Session Table)

/-! ## Serial outcomes -/

/-- Dispatch the event of a row. -/
def Store.dispatchRow (env : EventText) (rows : Table WebhookEvent) (s : Store)
    (commit : ℕ × Time) : Store :=
  match rows.get? commit.1 with
  | none => s
  | some row =>
    match row.read env with
    | .error _ => s
    | .ok event => ((dispatch commit.2 commit.1 row.merchantId event).run s).2

/-- Dispatch the events of some rows, one after the other. -/
def Store.replay (env : EventText) (rows : Table WebhookEvent) (start : Store)
    (commits : List (ℕ × Time)) : Store :=
  commits.foldl (Store.dispatchRow env rows) start

/-- The row has a status. -/
def Store.HasStatus (s : Store) (i : ℕ) (status : WebhookEventStatus) : Prop :=
  ∃ row, s.webhookEvents.get? i = some row ∧ row.status = status

/-- The commits are of different rows, which are those that are processed now and were not at
the start, and their events alone account for the payments, the attempts and the cases. -/
structure ExactlyOnce (env : EventText) (start : Store) (commits : List (ℕ × Time)) (s : Store) :
    Prop where
  once : (commits.map Prod.fst).Nodup
  processed : ∀ i, i ∈ commits.map Prod.fst ↔
    s.HasStatus i .processed ∧ ¬ start.HasStatus i .processed
  effects : SameEffects (start.replay env s.webhookEvents commits) s

/-- `PROCESSED` and `DEAD_LETTER` are not left. -/
def SettledKept (s s' : Store) : Prop :=
  ∀ i status, status.isSettled = true → s.HasStatus i status → s'.HasStatus i status

/-- In every run, the effects are exactly once, and no row that is done with is touched. -/
def ExactlyOnceRuns (step : WebhookDatabase → WebhookStatement → WebhookDatabase → Prop)
    (env : EventText) (start : Store) : Prop :=
  ∀ statements db, Run step { store := start } statements db →
    ExactlyOnce env start (statements.filterMap WebhookStatement.committed) db.store ∧
      ∀ more db', Run step db more db' → SettledKept db.store db'.store

/-- When a worker that found its payment reads the attempt number, the payment is still the
one it read; and when `mark_dead_letter` writes its row, no worker has processed it since it
was read. -/
def Undisturbed (env : EventText) (db : WebhookDatabase) : WebhookStatement → Prop
  | .readNumber i => ∀ e f, db.stage i = .read (some f) → db.store.eventOf env i = some e →
      db.store.foundPayment e.key = some f
  | .markWrite i => ¬ db.store.HasStatus i .processed
  | _ => True

/-! ## Rows -/

/-- Rows stay the deliveries they are. -/
def RowsKept (rows rows' : Table WebhookEvent) : Prop :=
  ∀ i row, rows.get? i = some row → ∃ row', rows'.get? i = some row' ∧ row.SameDelivery row'

variable {env : EventText} {start s s' : Store} {db db' : WebhookDatabase} {i : ℕ}
  {commits : List (ℕ × Time)} {rows rows' : Table WebhookEvent}

theorem WebhookEvent.SameDelivery.refl (row : WebhookEvent) : row.SameDelivery row :=
  ⟨rfl, rfl, rfl, rfl, rfl, rfl⟩

theorem RowsKept.refl (rows : Table WebhookEvent) : RowsKept rows rows :=
  fun _ row h => ⟨row, h, .refl row⟩

theorem RowsKept.of_get? (h : ∀ i row, rows.get? i = some row → rows'.get? i = some row) :
    RowsKept rows rows' := fun i row hrow => ⟨row, h i row hrow, .refl row⟩

theorem RowsKept.modify {row row' : WebhookEvent} (hrow : rows.get? i = some row)
    (h : row.SameDelivery row') : RowsKept rows (rows.modify i fun _ => row') := by
  intro j old hold
  rw [Table.get?_modify]
  split
  · rename_i hij
    subst hij
    obtain rfl := Option.some.inj (hrow.symm.trans hold)
    exact ⟨row', by rw [hrow]; rfl, h⟩
  · exact ⟨old, hold, .refl old⟩

theorem eventOf_of_read {row : WebhookEvent} {e : DomainPaymentEvent}
    (hrow : s.webhookEvents.get? i = some row) (hread : row.read env = .ok (.payment e)) :
    s.eventOf env i = some e := by
  unfold WebhookEvent.read at hread
  unfold Store.eventOf
  rw [hrow, Option.bind_some, hread]

/-- A kept row is read as the same event. -/
theorem RowsKept.eventOf (h : RowsKept s.webhookEvents s'.webhookEvents) {row : WebhookEvent}
    (hrow : s.webhookEvents.get? i = some row) : s'.eventOf env i = s.eventOf env i := by
  obtain ⟨row', hrow', hsame⟩ := h i row hrow
  have hread := hsame.read env
  unfold WebhookEvent.read at hread
  unfold Store.eventOf
  rw [hrow, hrow', Option.bind_some, Option.bind_some, hread]

/-- The replay of kept rows. -/
theorem RowsKept.replay (h : RowsKept rows rows') (start : Store)
    (hrows : ∀ i ∈ commits.map Prod.fst, ∃ row, rows.get? i = some row) :
    start.replay env rows' commits = start.replay env rows commits := by
  -- a commit dispatches the same event from either row, so the stores agree before the next one
  induction commits generalizing start with
  | nil => rfl
  | cons commit rest ih =>
    obtain ⟨row, hrow⟩ := hrows commit.1 (by simp)
    obtain ⟨row', hrow', hsame⟩ := h commit.1 row hrow
    have hfirst : start.dispatchRow env rows' commit = start.dispatchRow env rows commit := by
      unfold Store.dispatchRow
      rw [hrow, hrow']
      dsimp only
      rw [hsame.read env, hsame.merchantId]
    unfold Store.replay
    rw [List.foldl_cons, List.foldl_cons, hfirst]
    exact ih _ fun i hi => hrows i (by simp [hi])

/-- Writing one row. -/
theorem hasStatus_withTrail {row row' : WebhookEvent}
    (hrow : s.webhookEvents.get? i = some row) (written : Store) (audits : Table AuditEvent)
    (j : ℕ) (status : WebhookEventStatus) :
    (written.withTrail (s.webhookEvents.modify i fun _ => row') audits).HasStatus j status ↔
      if j = i then row'.status = status else s.HasStatus j status := by
  unfold Store.HasStatus Store.withTrail
  dsimp only
  rw [Table.get?_modify]
  split
  · rename_i hij
    subst hij
    simp [hrow]
  · rename_i hij
    rw [if_neg (Ne.symm hij)]

theorem SettledKept.refl (s : Store) : SettledKept s s := fun _ _ _ h => h

theorem SettledKept.trans {s'' : Store} (h : SettledKept s s') (h' : SettledKept s' s'') :
    SettledKept s s'' := fun i status hsettled hs => h' i status hsettled (h i status hsettled hs)

/-- A row that was not done with may be written, and one that was not processed given up. -/
theorem SettledKept.withTrail {row row' : WebhookEvent}
    (hrow : s.webhookEvents.get? i = some row)
    (hopen : row.status = row'.status ∨ row.status.isSettled = false) (written : Store)
    (audits : Table AuditEvent) :
    SettledKept s (written.withTrail (s.webhookEvents.modify i fun _ => row') audits) := by
  intro j status hsettled hs
  rw [hasStatus_withTrail hrow]
  by_cases hj : j = i
  · subst hj
    obtain ⟨old, hold, hstatus⟩ := hs
    obtain rfl := Option.some.inj (hrow.symm.trans hold)
    rw [if_pos rfl]
    rcases hopen with hsame | hopen
    · rw [← hsame, hstatus]
    · rw [hstatus, hsettled] at hopen
      cases hopen
  · rw [if_neg hj]
    exact hs

/-- What an ingestion leaves alone: the tables of the effects, the rows that are there, and
who has any status but `RECEIVED`. -/
theorem Ingested.kept {now : Time} {enqueue : Bool} {event : ProviderEvent} {merchantId : ℕ}
    {result : Except Failure IngestResult}
    (h : Ingested env now enqueue event merchantId s result s') :
    SameEffects s s' ∧
      (∀ i row, s.webhookEvents.get? i = some row → s'.webhookEvents.get? i = some row) ∧
      ∀ i status, status ≠ .received → (s'.HasStatus i status ↔ s.HasStatus i status) := by
  cases h with
  | refused f hrefused => exact ⟨.refl s, fun _ _ h => h, fun _ _ _ => Iff.rfl⟩
  | duplicate hadmitted hfound hrow =>
    exact ⟨⟨⟨rfl, rfl, rfl⟩, rfl⟩, fun _ _ h => h, fun _ _ _ => Iff.rfl⟩
  | stored hadmitted hvalid hmerchant hnew hunique =>
    refine ⟨⟨⟨rfl, rfl, rfl⟩, rfl⟩, fun _ _ h => Table.get?_insert_of_some h _, ?_⟩
    intro i status hstatus
    unfold Store.HasStatus
    dsimp only
    rw [Table.get?_insert]
    split
    · rename_i hi
      subst hi
      have hne : (event.row env merchantId now).status ≠ status := hstatus.symm
      simp [hne]
    · exact Iff.rfl

/-! ## The invariant -/

/-- What holds in every state of an undisturbed run: the effects so far, a locked row is not
done with, and a worker that would commit now stands on what is committed. -/
structure WebhookInvariant (env : EventText) (start : Store) (commits : List (ℕ × Time))
    (db : WebhookDatabase) : Prop extends ExactlyOnce env start commits db.store where
  kept : SettledKept start db.store
  linked : AttemptsLinked db.store
  locked : ∀ i, db.stage i ≠ .idle →
    ∃ row, db.store.webhookEvents.get? i = some row ∧ row.status.isSettled = false
  stands : ∀ i e found number, db.stage i = .numbered found number →
    db.store.eventOf env i = some e →
    db.store.StandsOn e found number ∨ db.store.Conflicts e found number

namespace WebhookInvariant

/-- The rows of the commits are there. -/
theorem row_of_mem (h : WebhookInvariant env start commits db) :
    ∀ i ∈ commits.map Prod.fst, ∃ row, db.store.webhookEvents.get? i = some row := by
  intro i hi
  obtain ⟨⟨row, hrow, -⟩, -⟩ := (h.processed i).mp hi
  exact ⟨row, hrow⟩

/-- The row that a worker holds is not done with. -/
theorem unsettled {row : WebhookEvent} (h : WebhookInvariant env start commits db)
    (hactive : db.stage i ≠ .idle) (hrow : db.store.webhookEvents.get? i = some row) :
    row.status.isSettled = false := by
  obtain ⟨row', hrow', hopen⟩ := h.locked i hactive
  obtain rfl := Option.some.inj (hrow.symm.trans hrow')
  exact hopen

/-- A step that commits no event. -/
theorem quiet (h : WebhookInvariant env start commits db)
    (hkept : SettledKept db.store db'.store) (hsame : SameEffects db.store db'.store)
    (hrows : RowsKept db.store.webhookEvents db'.store.webhookEvents)
    (hstatus : ∀ i, db'.store.HasStatus i .processed ↔ db.store.HasStatus i .processed)
    (hlocked : ∀ i, db'.stage i ≠ .idle →
      ∃ row, db'.store.webhookEvents.get? i = some row ∧ row.status.isSettled = false)
    (hstage : ∀ i e found number, db'.stage i = .numbered found number →
      db'.store.eventOf env i = some e → db.stage i = .numbered found number ∨
        db.store.StandsOn e found number ∨ db.store.Conflicts e found number) :
    WebhookInvariant env start commits db' where
  once := h.once
  processed i := by rw [hstatus i, h.processed i]
  effects := by
    rw [hrows.replay start h.row_of_mem]
    exact h.effects.trans hsame
  kept := h.kept.trans hkept
  linked := by
    intro a ha
    rw [hsame.payments]
    rw [hsame.paymentAttempts] at ha
    exact h.linked a ha
  locked := hlocked
  stands i e found number hnumbered hevent := by
    have hbefore : db.store.StandsOn e found number ∨ db.store.Conflicts e found number := by
      rcases hstage i e found number hnumbered hevent with hold | hnow
      · obtain ⟨row, hrow, -⟩ := h.locked i (by rw [hold]; exact nofun)
        rw [hrows.eventOf hrow] at hevent
        exact h.stands i e found number hold hevent
      · exact hnow
    have hattempt : db'.store.attemptNumberOf found = db.store.attemptNumberOf found := by
      cases found with
      | none => rfl
      | some f => exact hsame.nextAttemptNumber f.1
    unfold Store.StandsOn Store.Conflicts at *
    rw [hsame.foundPayment, hsame.paymentOfKey, hsame.paymentAttempts, hattempt]
    exact hbefore

/-- A step of one worker that writes nothing. -/
theorem setStage {stage : WorkerStage} (h : WebhookInvariant env start commits db)
    (hlocked : stage ≠ .idle →
      ∃ row, db.store.webhookEvents.get? i = some row ∧ row.status.isSettled = false)
    (hstage : ∀ found number, stage = .numbered found number →
      ∀ e, db.store.eventOf env i = some e →
        db.store.StandsOn e found number ∨ db.store.Conflicts e found number) :
    WebhookInvariant env start commits (db.setStage i stage) := by
  have hother : ∀ j, j ≠ i → (db.setStage i stage).stage j = db.stage j := by
    intro j hj
    rw [setStage_stage, Function.update_of_ne hj]
  have hself : (db.setStage i stage).stage i = stage := by
    rw [setStage_stage, Function.update_self]
  refine h.quiet (.refl _) (.refl _) (.refl _) (fun _ => Iff.rfl) ?_ ?_
  · intro j hj
    by_cases hji : j = i
    · subst hji
      rw [hself] at hj
      exact hlocked hj
    · rw [hother j hji] at hj
      exact h.locked j hj
  · intro j e found number hnumbered hevent
    by_cases hji : j = i
    · subst hji
      rw [hself] at hnumbered
      exact .inr (hstage found number hnumbered e hevent)
    · rw [hother j hji] at hnumbered
      exact .inl hnumbered

/-- A step that gives up an event whose row no worker holds any more. -/
theorem giveUp {row row' : WebhookEvent} (h : WebhookInvariant env start commits db)
    (hrow : db.store.webhookEvents.get? i = some row) (hsame : row.SameDelivery row')
    (hopen : row.status ≠ .processed) (hafter : row'.status = .deadLetter)
    (audits : Table AuditEvent) (marking : List ℕ) :
    WebhookInvariant env start commits
      { store := db.store.withTrail (db.store.webhookEvents.modify i fun _ => row') audits
        stage := Function.update db.stage i .idle
        marking := marking } := by
  have hfree : ∀ j, Function.update db.stage i .idle j ≠ .idle →
      j ≠ i ∧ Function.update db.stage i .idle j = db.stage j := by
    intro j hj
    have hji : j ≠ i := by
      rintro rfl
      exact hj (Function.update_self j _ db.stage)
    exact ⟨hji, Function.update_of_ne hji _ db.stage⟩
  have hsettled : row.status = row'.status ∨ row.status.isSettled = false := by
    rw [hafter]
    by_cases hdead : row.status = .deadLetter
    · exact .inl hdead
    · exact .inr (isSettled_eq_false.mpr ⟨hopen, hdead⟩)
  refine h.quiet (.withTrail hrow hsettled _ _) ⟨⟨rfl, rfl, rfl⟩, rfl⟩ (.modify hrow hsame)
    ?_ ?_ ?_
  · intro j
    rw [hasStatus_withTrail hrow]
    by_cases hj : j = i
    · subst hj
      have hbefore : ¬ db.store.HasStatus j .processed := by
        rintro ⟨old, hold, hstatus⟩
        obtain rfl := Option.some.inj (hrow.symm.trans hold)
        exact hopen hstatus
      simp [hafter, hbefore]
    · rw [if_neg hj]
  · intro j hj
    obtain ⟨hji, hstage⟩ := hfree j hj
    obtain ⟨rowj, hrowj, hopen⟩ := h.locked j (by rw [← hstage]; exact hj)
    exact ⟨rowj, (Table.get?_modify_ne _ (Ne.symm hji) _).trans hrowj, hopen⟩
  · intro j e found number hnumbered hevent
    obtain ⟨-, hstage⟩ := hfree j (by
      show Function.update db.stage i .idle j ≠ .idle
      intro hidle
      have hnumbered : Function.update db.stage i .idle j = .numbered found number := hnumbered
      rw [hidle] at hnumbered
      cases hnumbered)
    exact .inl (hstage.symm.trans hnumbered)

/-- The commit of an event whose effect is that of its dispatch. -/
theorem commit {row : WebhookEvent} {event : NormalizedEvent} {now : Time} {written : Store}
    (h : WebhookInvariant env start commits db) (hactive : db.stage i ≠ .idle)
    (hrow : db.store.webhookEvents.get? i = some row) (hread : row.read env = .ok event)
    (hwritten : SameEffects ((dispatch now i row.merchantId event).run db.store).2 written)
    (hlinked : AttemptsLinked written)
    (hstands : ∀ j e found number, j ≠ i → db.stage j = .numbered found number →
      db.store.eventOf env j = some e → written.StandsOn e found number ∨
        written.Conflicts e found number)
    (audits : Table AuditEvent) :
    WebhookInvariant env start (commits ++ [(i, now)])
      { db.setStage i .idle with
        store := written.withTrail (db.store.webhookEvents.modify i fun _ => row.settle now)
          audits } := by
  have hopen := h.unsettled hactive hrow
  -- the worker holds the row, so no commit has settled it and the list stays without repetition
  have hunprocessed : ¬ db.store.HasStatus i .processed := by
    rintro ⟨row', hrow', hstatus⟩
    obtain rfl := Option.some.inj (hrow.symm.trans hrow')
    rw [hstatus] at hopen
    cases hopen
  have hnew : i ∉ commits.map Prod.fst := fun hi => hunprocessed ((h.processed i).mp hi).1
  have hkept : RowsKept db.store.webhookEvents
      (db.store.webhookEvents.modify i fun _ => row.settle now) :=
    .modify hrow ⟨rfl, rfl, rfl, rfl, rfl, rfl⟩
  have hsettled : SettledKept db.store (written.withTrail
      (db.store.webhookEvents.modify i fun _ => row.settle now) audits) :=
    .withTrail hrow (.inr hopen) written audits
  have hother : ∀ j, Function.update db.stage i .idle j ≠ .idle →
      j ≠ i ∧ Function.update db.stage i .idle j = db.stage j := by
    intro j hj
    have hji : j ≠ i := by
      rintro rfl
      exact hj (Function.update_self j _ db.stage)
    exact ⟨hji, Function.update_of_ne hji _ db.stage⟩
  refine ⟨⟨?_, ?_, ?_⟩, h.kept.trans hsettled, hlinked, ?_, ?_⟩
  · rw [List.map_append, List.nodup_append]
    refine ⟨h.once, List.nodup_singleton i, ?_⟩
    intro a ha b hb hab
    rw [hab, List.mem_singleton.mp hb] at ha
    exact hnew ha
  · intro j
    show j ∈ (commits ++ [(i, now)]).map Prod.fst ↔ (written.withTrail
      (db.store.webhookEvents.modify i fun _ => row.settle now) audits).HasStatus j .processed ∧ _
    rw [hasStatus_withTrail hrow]
    by_cases hj : j = i
    · subst hj
      have hstart : ¬ start.HasStatus j .processed :=
        fun hs => hunprocessed (h.kept j .processed rfl hs)
      simp [hstart, WebhookEvent.settle]
    · rw [if_neg hj, ← h.processed j]
      simp [hj]
  · -- replaying the earlier commits reads nothing of the row that this one settles
    have hbefore : start.replay env
        (db.store.webhookEvents.modify i fun _ => row.settle now) commits =
          start.replay env db.store.webhookEvents commits := hkept.replay start h.row_of_mem
    have hrow' : (db.store.webhookEvents.modify i fun _ => row.settle now).get? i =
        some (row.settle now) := by
      rw [Table.get?_modify_self, hrow]
      rfl
    have hsame : row.SameDelivery (row.settle now) := ⟨rfl, rfl, rfl, rfl, rfl, rfl⟩
    have hread' : (row.settle now).read env = .ok event := (hsame.read env).trans hread
    show SameEffects (start.replay env (db.store.webhookEvents.modify i fun _ => row.settle now)
      (commits ++ [(i, now)])) (written.withTrail _ audits)
    unfold Store.replay at hbefore ⊢
    rw [List.foldl_append, hbefore]
    show SameEffects (Store.dispatchRow env _ (start.replay env db.store.webhookEvents commits)
      (i, now)) (written.withTrail _ audits)
    unfold Store.dispatchRow
    dsimp only
    rw [hrow']
    dsimp only
    rw [hread']
    have hdispatch := h.effects.dispatch now i row.merchantId event
    exact (hdispatch.trans hwritten).trans ⟨⟨rfl, rfl, rfl⟩, rfl⟩
  · intro j hj
    -- another worker keeps its lock
    obtain ⟨hji, hstage⟩ := hother j hj
    obtain ⟨rowj, hrowj, hopenj⟩ := h.locked j (by rw [← hstage]; exact hj)
    exact ⟨rowj, (Table.get?_modify_ne _ (Ne.symm hji) _).trans hrowj, hopenj⟩
  · intro j e found number hnumbered hevent
    -- what another worker has read stands on, which is what the caller shows of the written store
    have hnumbered : Function.update db.stage i .idle j = .numbered found number := hnumbered
    obtain ⟨hji, hstage⟩ := hother j (by rw [hnumbered]; exact nofun)
    obtain ⟨rowj, hrowj, -⟩ := h.locked j (by rw [← hstage, hnumbered]; exact nofun)
    have hevent' : db.store.eventOf env j = some e := by
      rw [← hevent]
      let after := written.withTrail
        (db.store.webhookEvents.modify i fun _ => row.settle now) audits
      have hread : after.eventOf env j = db.store.eventOf env j := RowsKept.eventOf hkept hrowj
      exact hread.symm
    exact hstands j e found number hji (hstage.symm.trans hnumbered) hevent'

/-- An ingestion. -/
theorem ingested {now : Time} {enqueue : Bool} {event : ProviderEvent} {merchantId : ℕ}
    {result : Except Failure IngestResult} (h : WebhookInvariant env start commits db)
    (hingested : Ingested env now enqueue event merchantId db.store result s) :
    WebhookInvariant env start commits { db with store := s } ∧ SettledKept db.store s := by
  obtain ⟨hsame, hrows, hstatus⟩ := hingested.kept
  have hkept : SettledKept db.store s := by
    intro i status hsettled hs
    refine (hstatus i status ?_).mpr hs
    rintro rfl
    cases hsettled
  refine ⟨h.quiet hkept hsame (.of_get? hrows) (fun i => hstatus i _ nofun) ?_
    fun _ _ _ _ hnumbered _ => .inl hnumbered, hkept⟩
  intro i hi
  obtain ⟨row, hrow, hopen⟩ := h.locked i hi
  exact ⟨row, hrows i row hrow, hopen⟩

/-- The next attempt number of the payment that was read, when it is still the same. -/
theorem readNumber {found : Option (ℕ × Payment)} (h : WebhookInvariant env start commits db)
    (hstage : db.stage i = .read found)
    (hread : ∀ e f, db.stage i = .read (some f) → db.store.eventOf env i = some e →
      db.store.foundPayment e.key = some f) :
    WebhookInvariant env start commits
      (db.setStage i (.numbered found (db.store.attemptNumberOf found))) := by
  refine h.setStage (fun _ => h.locked i (by rw [hstage]; exact nofun)) ?_
  intro found' number hnumbered e hevent
  obtain ⟨rfl, rfl⟩ := WorkerStage.numbered.inj hnumbered
  cases found with
  | some f => exact .inl ⟨hread e f hstage hevent, rfl⟩
  | none =>
    -- a payment that was not there and is now conflicts by its key
    by_cases hnone : db.store.foundPayment e.key = none
    · exact .inl ⟨hnone, rfl⟩
    · exact .inr fun hkey => hnone (foundPayment_eq_none.mpr hkey)

/-- The commit of a payment event. -/
theorem commitPayment {row : WebhookEvent} {found : Option (ℕ × Payment)} {number : ℤ}
    {t : EventTransaction} (h : WebhookInvariant env start commits db)
    (hstage : db.stage i = .numbered found number)
    (hrow : db.store.webhookEvents.get? i = some row)
    (hread : row.read env = .ok (.payment t.event))
    (hcustomer : found = none → resolveCustomer db.store t.event = .ok t.customerId)
    (hunique : ¬ db.store.Conflicts t.event found number) (now : Time)
    (audits : Table AuditEvent) :
    WebhookInvariant env start (commits ++ [(i, now)])
      { db.setStage i .idle with
        store := (db.store.writeEvent now t found number).withTrail
          (db.store.webhookEvents.modify i fun _ => row.settle now) audits } := by
  have hevent := eventOf_of_read hrow hread
  have hstands := (h.stands i t.event found number hstage hevent).resolve_right hunique
  have heffect := StandsOn.effect hstands.1 hcustomer
  have hwritten : db.store.writeEvent now t found number =
      t.event.storeAfter db.store now (t.effect db.store found) db.store.auditEvents :=
    writeEvent_eq_storeAfter h.linked hstands
  have hactive : db.stage i ≠ .idle := by
    rw [hstage]
    exact nofun
  refine h.commit hactive hrow hread ?_ ?_ ?_ audits
  · obtain ⟨trail, hdispatch⟩ := run_dispatch now i row.merchantId t.event db.store
    rw [heffect] at hdispatch
    rw [hdispatch, hwritten]
    exact ⟨⟨rfl, rfl, rfl⟩, rfl⟩
  · rw [hwritten]
    exact h.linked.storeAfter heffect now _
  · intro j e found' number' hj hnumbered hevent'
    rw [hwritten]
    exact StandsOn.storeAfter heffect _ (h.stands j e found' number' hnumbered hevent')

/-- Every undisturbed statement keeps the invariant, and adds the event it commits. -/
theorem step {statement : WebhookStatement} (h : WebhookInvariant env start commits db)
    (hstep : Guarded (WebhookStep env) (Undisturbed env) db statement db') :
    WebhookInvariant env start (commits ++ statement.committed.toList) db' := by
  obtain ⟨hguard, hstep⟩ := hstep
  cases hstep with
  | ingest now enqueue event merchantId =>
    rw [show WebhookStatement.ingest.committed.toList = [] from rfl, List.append_nil]
    exact (h.ingested (ingest_outcome env now enqueue event merchantId db.store)).1
  | begin hstage hrow heligible =>
    rw [show (WebhookStatement.begin _).committed.toList = [] from rfl, List.append_nil]
    exact h.setStage (fun _ => ⟨_, hrow, heligible⟩) fun _ _ hnumbered => nomatch hnumbered
  | readPayment hstage hrow hmerchant hread =>
    rw [show (WebhookStatement.readPayment _).committed.toList = [] from rfl, List.append_nil]
    exact h.setStage (fun _ => h.locked _ (by rw [hstage]; exact nofun))
      fun _ _ hnumbered => nomatch hnumbered
  | readNumber hstage =>
    rw [show (WebhookStatement.readNumber _).committed.toList = [] from rfl, List.append_nil]
    exact h.readNumber hstage hguard
  | commit now t audits hstage hrow hread hcustomer hunique =>
    exact h.commitPayment hstage hrow hread hcustomer hunique now audits
  | commitUnknown now audits hstage hrow hread hmerchant =>
    rename_i i row event
    have hactive : db.stage i ≠ .idle := by
      rw [hstage]
      exact nofun
    exact h.commit hactive hrow hread ⟨⟨rfl, rfl, rfl⟩, rfl⟩ h.linked
      (fun j e found number _ => h.stands j e found number) audits
  | refuse e audits hstage hrow hpermanent =>
    rename_i i row
    rw [show (WebhookStatement.refuse _).committed.toList = [] from rfl, List.append_nil]
    have hopen := h.unsettled hstage hrow
    have hsame : row.SameDelivery (row.refuse e) := ⟨rfl, rfl, rfl, rfl, rfl, rfl⟩
    exact h.giveUp hrow hsame (isSettled_eq_false.mp hopen).1 rfl audits db.marking
  | rollback hstage =>
    rw [show (WebhookStatement.rollback _).committed.toList = [] from rfl, List.append_nil]
    exact h.setStage (fun hidle => absurd rfl hidle) fun _ _ hnumbered => nomatch hnumbered
  | markRead hrow heligible =>
    rw [show (WebhookStatement.markRead _).committed.toList = [] from rfl, List.append_nil]
    exact h.quiet (.refl _) (.refl _) (.refl _) (fun _ => Iff.rfl) h.locked
      fun _ _ _ _ hnumbered _ => .inl hnumbered
  | markWrite error audits hmarking hunlocked hrow =>
    rename_i i row
    rw [show (WebhookStatement.markWrite _).committed.toList = [] from rfl, List.append_nil]
    have hopen : row.status ≠ .processed := fun hprocessed => hguard ⟨row, hrow, hprocessed⟩
    have hsame : row.SameDelivery (row.giveUp error) := ⟨rfl, rfl, rfl, rfl, rfl, rfl⟩
    have hmarked := h.giveUp hrow hsame hopen rfl audits (db.marking.erase i)
    rw [← hunlocked, Function.update_eq_self] at hmarked
    exact hmarked

/-- No undisturbed statement touches a row that is done with. -/
theorem settledKept {statement : WebhookStatement} (h : WebhookInvariant env start commits db)
    (hstep : Guarded (WebhookStep env) (Undisturbed env) db statement db') :
    SettledKept db.store db'.store := by
  obtain ⟨hguard, hstep⟩ := hstep
  cases hstep with
  | ingest now enqueue event merchantId =>
    exact (h.ingested (ingest_outcome env now enqueue event merchantId db.store)).2
  | commit now t audits hstage hrow hread hcustomer hunique =>
    have hopen := h.unsettled (by rw [hstage]; exact nofun) hrow
    exact .withTrail hrow (.inr hopen) _ audits
  | commitUnknown now audits hstage hrow hread hmerchant =>
    have hopen := h.unsettled (by rw [hstage]; exact nofun) hrow
    exact .withTrail hrow (.inr hopen) _ audits
  | refuse e audits hstage hrow hpermanent =>
    exact .withTrail hrow (.inr (h.unsettled hstage hrow)) _ audits
  | markWrite error audits hmarking hunlocked hrow =>
    rename_i i row
    have hopen : row.status = (row.giveUp error).status ∨ row.status.isSettled = false := by
      by_cases hdead : row.status = .deadLetter
      · exact .inl hdead
      · refine .inr (isSettled_eq_false.mpr ⟨?_, hdead⟩)
        exact fun hprocessed => hguard ⟨row, hrow, hprocessed⟩
    exact .withTrail hrow hopen _ audits
  | _ => exact .refl db.store

end WebhookInvariant

/-- The invariant holds at the start. -/
theorem webhookInvariant_start (env : EventText) (hlinked : AttemptsLinked start) :
    WebhookInvariant env start [] { store := start } where
  once := List.nodup_nil
  processed i := by simp
  effects := .refl start
  kept := .refl start
  linked := hlinked
  locked i hi := absurd rfl hi
  stands i e found number hnumbered := nomatch hnumbered

/-- An undisturbed run adds the events that it commits, and leaves what is done with alone. -/
theorem WebhookInvariant.run {statements : List WebhookStatement}
    (h : WebhookInvariant env start commits db)
    (hrun : Run (Guarded (WebhookStep env) (Undisturbed env)) db statements db') :
    WebhookInvariant env start (commits ++ statements.filterMap WebhookStatement.committed) db' ∧
      SettledKept db.store db'.store := by
  -- the last statement extends the replay of the commits before it, or commits nothing
  induction hrun with
  | nil =>
    rw [List.filterMap_nil, List.append_nil]
    exact ⟨h, .refl db.store⟩
  | snoc _ last ih =>
    rename_i labels _ _ statement _
    obtain ⟨hinv, hkept⟩ := ih
    have hcommits : (labels ++ [statement]).filterMap WebhookStatement.committed =
        labels.filterMap WebhookStatement.committed ++ statement.committed.toList := by
      rw [List.filterMap_append]
      cases hlabel : statement.committed <;> simp [hlabel]
    rw [hcommits, ← List.append_assoc]
    exact ⟨hinv.step last, hkept.trans (hinv.settledKept last)⟩

/-- In every undisturbed run from a database whose attempts are of its payments, webhook
effects are exactly once. -/
theorem webhookEffects_exactlyOnce (env : EventText) (start : Store)
    (hlinked : AttemptsLinked start) :
    ExactlyOnceRuns (Guarded (WebhookStep env) (Undisturbed env)) env start := by
  intro statements db hrun
  have hend := ((webhookInvariant_start env hlinked).run hrun).1
  exact ⟨hend.toExactlyOnce, fun more db' hmore => (hend.run hmore).2⟩

theorem webhookEffects_exactlyOnce_lateFailure :
    ExactlyOnceRuns (Guarded (WebhookStep sampleEventText) (Undisturbed sampleEventText))
      sampleEventText lateFailureStore :=
  webhookEffects_exactlyOnce sampleEventText lateFailureStore fun _ ha => nomatch ha

/-- The statements of a worker that nothing comes between. -/
theorem transaction_statements {row : WebhookEvent} {t : EventTransaction}
    (hrow : s.webhookEvents.get? i = some row) (hopen : row.status.isSettled = false)
    (hmerchant : (s.merchants.get? row.merchantId).isSome = true)
    (hread : row.read env = .ok (.payment t.event))
    (hcustomer : s.foundPayment t.event.key = none →
      resolveCustomer s t.event = .ok t.customerId) (now : Time) (audits : Table AuditEvent) :
    ∃ statements, Run (Guarded (WebhookStep env) (Undisturbed env)) { store := s } statements
      { store := (s.writeEvent now t (s.foundPayment t.event.key)
          (s.attemptNumberOf (s.foundPayment t.event.key))).withTrail
            (s.webhookEvents.modify i fun _ => row.settle now) audits } ∧
      statements.filterMap WebhookStatement.committed = [(i, now)] := by
  let found := s.foundPayment t.event.key
  let number := s.attemptNumberOf found
  -- the one worker that is at work, at each of its stages
  let held (stage : WorkerStage) : WebhookDatabase :=
    { store := s, stage := Function.update (fun _ => .idle) i stage }
  have hself : ∀ stage, (held stage).stage i = stage := by
    intro stage
    show Function.update (fun _ : ℕ => WorkerStage.idle) i stage i = stage
    rw [Function.update_self]
  have hmoves : ∀ stage stage', (held stage).setStage i stage' = held stage' := by
    intro stage stage'
    show WebhookDatabase.mk s (Function.update (Function.update (fun _ => .idle) i stage) i stage')
      [] = _
    rw [Function.update_idem]
  have hfree : (held (.numbered found number)).setStage i .idle = { store := s } := by
    rw [hmoves]
    show WebhookDatabase.mk s (Function.update (fun _ => .idle) i .idle) [] = _
    rw [Function.update_eq_self]
  have hbegin : Guarded (WebhookStep env) (Undisturbed env) { store := s } (.begin i)
      (held .started) := ⟨trivial, .begin rfl hrow hopen⟩
  have hpayment : Guarded (WebhookStep env) (Undisturbed env) (held .started) (.readPayment i)
      (held (.read found)) := by
    rw [← hmoves .started (.read found)]
    exact ⟨trivial, .readPayment (hself _) hrow hmerchant hread⟩
  have hnumber : Guarded (WebhookStep env) (Undisturbed env) (held (.read found)) (.readNumber i)
      (held (.numbered found number)) := by
    rw [← hmoves (.read found) (.numbered found number)]
    refine ⟨fun e f hstage hevent => ?_, .readNumber (hself _)⟩
    obtain rfl := Option.some.inj ((eventOf_of_read hrow hread).symm.trans hevent)
    exact WorkerStage.read.inj ((hself _).symm.trans hstage)
  -- nothing came between reading and writing, so the write conflicts with nothing
  have hunique : ¬ s.Conflicts t.event found number := StandsOn.not_conflicts ⟨rfl, rfl⟩
  have hcommit : Guarded (WebhookStep env) (Undisturbed env) (held (.numbered found number))
      (.commit i now) _ :=
    ⟨trivial, .commit now t audits (hself _) hrow hread hcustomer hunique⟩
  rw [hfree] at hcommit
  exact ⟨_, (((Run.single hbegin).snoc hpayment).snoc hnumber).snoc hcommit, rfl⟩

/-- A worker that nothing comes between is `process_webhook_event`. -/
theorem processWebhookEvent_statements {now : Time} {r : ProcessingResult}
    (hlinked : AttemptsLinked s)
    (hrun : (processWebhookEvent env now i).run s = (.ok r, s')) (hstatus : r.status = .processed)
    (hopen : ∀ row, s.webhookEvents.get? i = some row → row.status.isSettled = false) :
    ∃ statements, Run (Guarded (WebhookStep env) (Undisturbed env)) { store := s } statements
        { store := s' } ∧ statements.filterMap WebhookStatement.committed = [(i, now)] := by
  have hout := webhookOutcome env now i s
  rw [hrun] at hout
  cases hout with
  | settled status hrow hsettled =>
    rw [hopen _ hrow] at hsettled
    cases hsettled
  | deadLettered e audits hrow heligible hverdict hpermanent => cases hstatus
  | processed audits hrow heligible hmerchant hread hdispatch =>
    rename_i row event followups s'
    have hbegun : Run (Guarded (WebhookStep env) (Undisturbed env)) { store := s } [.begin i]
        (WebhookDatabase.setStage { store := s } i .started) :=
      .single ⟨trivial, .begin rfl hrow heligible⟩
    cases event with
    | unknown event =>
      obtain ⟨-, rfl⟩ := Prod.mk.inj hdispatch
      have hcommit : Guarded (WebhookStep env) (Undisturbed env)
          (WebhookDatabase.setStage { store := s } i .started) (.commit i now) _ :=
        ⟨trivial, .commitUnknown now audits (Function.update_self i _ _) hrow hread hmerchant⟩
      have hend := hbegun.snoc hcommit
      unfold WebhookDatabase.setStage at hend
      rw [Function.update_idem, Function.update_eq_self] at hend
      exact ⟨_, hend, rfl⟩
    | payment e =>
      obtain ⟨trail, hwritten⟩ := run_dispatch now i row.merchantId e s
      rw [hdispatch] at hwritten
      cases heffect : e.effect s with
      | error f =>
        rw [heffect] at hwritten
        cases (Prod.mk.inj hwritten).1
      | ok effect =>
        rw [heffect] at hwritten
        -- the effect of a payment event is what one transaction on its payment does
        obtain ⟨t, rfl, hcustomer⟩ := transaction_of_effect heffect
        have heffect' := StandsOn.effect (t := t) rfl hcustomer
        obtain rfl := Except.ok.inj (heffect.symm.trans heffect')
        have hend := transaction_statements hrow heligible hmerchant hread hcustomer now audits
        rw [writeEvent_eq_storeAfter hlinked ⟨rfl, rfl⟩] at hend
        obtain ⟨-, rfl⟩ := Prod.mk.inj hwritten
        exact hend

/-! ### A duplicate that commits while its row is given up -/

/-- `mark_dead_letter` reads the row, another worker processes it, and the row is written. -/
theorem deadLetter_overwrites : ∃ statements db,
    Run (WebhookStep sampleEventText) { store := lateFailureStore } statements db ∧
      0 ∈ (statements.filterMap WebhookStatement.committed).map Prod.fst ∧
      ¬ db.store.HasStatus 0 .processed := by
  have hevent : lateFailureStore.eventOf sampleEventText 0 =
      some (reportTransaction .paymentCaptured).event := by decide +kernel
  obtain ⟨row, hrow, hread⟩ := eventOf_eq_some hevent
  obtain rfl : paymentReport "evt_1" "payment.captured" = row := Option.some.inj hrow
  have hcustomer : resolveCustomer lateFailureStore (reportTransaction .paymentCaptured).event =
      .ok 0 := by decide +kernel
  have hnone : lateFailureStore.paymentOfKey reportedKey = none := by decide +kernel
  have hmarked : Run (WebhookStep sampleEventText) { store := lateFailureStore }
      [.markRead 0] _ := .single (.markRead rfl rfl)
  have hbegun := hmarked.snoc (i := .begin 0) (.begin rfl rfl rfl)
  have hpayment := hbegun.snoc (i := .readPayment 0) (.readPayment rfl rfl rfl hread)
  have hnumbered := hpayment.snoc (i := .readNumber 0) (.readNumber rfl)
  have hcommitted := hnumbered.snoc (i := .commit 0 0)
    (.commit 0 (reportTransaction .paymentCaptured) lateFailureStore.auditEvents rfl rfl hread
      (fun _ => hcustomer) (by
        show ¬ lateFailureStore.Conflicts _ (lateFailureStore.foundPayment reportedKey) _
        rw [foundPayment_eq_none.mpr hnone]
        exact fun hconflict => hconflict hnone))
  have hwritten := hcommitted.snoc (i := .markWrite 0)
    (.markWrite "bounded retries exhausted" lateFailureStore.auditEvents
      (List.mem_singleton_self 0) rfl rfl)
  refine ⟨_, _, hwritten, by simp [WebhookStatement.committed], ?_⟩
  rintro ⟨row, hrow, hstatus⟩
  cases hrow
  cases hstatus

theorem deadLetter_not_exactlyOnce :
    ¬ ExactlyOnceRuns (WebhookStep sampleEventText) sampleEventText lateFailureStore := by
  intro honce
  obtain ⟨statements, db, hrun, hcommitted, hstatus⟩ := deadLetter_overwrites
  exact hstatus (((honce statements db hrun).1.processed 0).mp hcommitted).1

end ReviveX
