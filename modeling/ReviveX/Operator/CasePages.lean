import ReviveX.Lib.Pages
import ReviveX.System.ServiceCalls
import ReviveX.Tools.ReplayTheorems
import Mathlib.Data.List.Sort
import Mathlib.Data.Prod.Lex

/-!
# Pages of the case list

`list_cases` shows the cases of a merchant by offset and limit, while the services go on. A page
tells the total of its own moment. Columns that the model leaves out of a case row, and the order
of the identifiers and of texts, are parameters.
-/

namespace ReviveX

open Lib (PageReader Run Table page)

/-! ## The query -/

/-- `_CASE_SORTS`; a name that it does not have sorts like `created_at`. -/
inductive CaseSort
  | createdAt | amountAtRisk | amountRecovered | status | caseType | priority
deriving DecidableEq

def caseSortOf : String → CaseSort
  | "amount_at_risk" => .amountAtRisk
  | "amount_recovered" => .amountRecovered
  | "status" => .status
  | "case_type" => .caseType
  | "priority" => .priority
  | _ => .createdAt

def RecoveryCaseType.text : RecoveryCaseType → String
  | .failedPayment => "FAILED_PAYMENT"
  | .abandonedCheckout => "ABANDONED_CHECKOUT"
  | .subscriptionFailure => "SUBSCRIPTION_FAILURE"

/-- What the database sorts by besides the columns of the model: `created_at` and `priority`,
which are given when a case is inserted, the identifiers, and the collation of texts. -/
structure CaseColumns where
  createdAt : ℕ → Time
  priority : ℕ → ℤ
  uuid : ℕ → ℤ
  collate : String → ℤ
  uuid_injective : Function.Injective uuid

/-- The arguments of `list_cases`, for the merchant that was found. -/
structure CaseQuery where
  merchantId : ℕ
  status : Option String := none
  caseType : Option String := none
  minAmount : Option Money := none
  maxAmount : Option Money := none
  sort : String := "created_at"
  direction : String := "desc"
  pageSize : ℕ := 25

namespace CaseQuery

variable (columns : CaseColumns) (lower : String → String) (query : CaseQuery)

/-- The `WHERE` of `page_cases`. -/
def selects (c : RecoveryCase) : Bool :=
  c.merchantId = query.merchantId &&
    query.status.all (fun status => c.status.text = status) &&
    query.caseType.all (fun caseType => c.caseType.text = caseType) &&
    query.minAmount.all (fun amount => amount ≤ c.amountAtRisk) &&
    query.maxAmount.all (fun amount => c.amountAtRisk ≤ amount)

/-- The column that is sorted by. -/
def column (i : ℕ) (c : RecoveryCase) : ℤ :=
  match caseSortOf query.sort with
  | .createdAt => columns.createdAt i
  | .amountAtRisk => c.amountAtRisk
  | .amountRecovered => c.amountRecovered
  | .status => columns.collate c.status.text
  | .caseType => columns.collate c.caseType.text
  | .priority => columns.priority i

/-- The `ORDER BY` of `page_cases`: the column, and then the identifiers from the greatest. -/
def key (i : ℕ) (c : RecoveryCase) : ℤ ×ₗ ℤ :=
  let value := query.column columns i c
  toLex (if lower query.direction = "asc" then value else -value, -columns.uuid i)

/-- The rows that are selected, sorted. -/
def sorted (s : Store) : List (ℕ × RecoveryCase) :=
  (s.cases.entries.filter fun e => query.selects e.2).insertionSort fun e e' =>
    query.key columns lower e.1 e.2 ≤ query.key columns lower e'.1 e'.2

/-- `page_cases`: the page and the total. The code selects the total first and then the page; here
one state answers both. -/
def pageCases (s : Store) (offset limit : ℕ) : List (ℕ × RecoveryCase) × ℕ :=
  (page (query.sorted columns lower s) offset limit, s.cases.count query.selects)

end CaseQuery

/-- The answer of `list_cases`, with the cases of its items. -/
structure CaseListAnswer where
  items : List (ℕ × RecoveryCase)
  page : ℕ
  pageSize : ℕ
  total : ℕ

/-- `list_cases`. -/
def listCases (columns : CaseColumns) (lower : String → String) (s : Store) (query : CaseQuery)
    (page : ℕ) : CaseListAnswer :=
  let (items, total) :=
    query.pageCases columns lower s ((page - 1) * query.pageSize) query.pageSize
  { items, page, pageSize := query.pageSize, total }

/-! ## Reading the list -/

/-- The database and an operator who pages through the list. -/
structure CaseBrowsing where
  store : Store
  answers : List CaseListAnswer := []

inductive BrowseLabel
  | call (call : ServiceCall)
  /-- The page after the last one is asked for; no service commits between its two selects. -/
  | turn

/-- A call of a service, or the next page. -/
inductive BrowseStep (rt : Runtime) (columns : CaseColumns) (lower : String → String)
    (query : CaseQuery) : CaseBrowsing → BrowseLabel → CaseBrowsing → Prop
  | call {w : CaseBrowsing} {call : ServiceCall} {s' : Store}
      (hstep : CallStep rt w.store call s') :
      BrowseStep rt columns lower query w (.call call) { w with store := s' }
  | turn {w : CaseBrowsing} :
      BrowseStep rt columns lower query w .turn
        { w with
          answers := w.answers ++
            [listCases columns lower w.store query (w.answers.length + 1)] }

/-- The pages that were asked for reach up to the total that the last one told. -/
def CaseBrowsing.Complete (query : CaseQuery) (w : CaseBrowsing) : Prop :=
  ∃ answer, w.answers.getLast? = some answer ∧
    answer.total ≤ w.answers.length * query.pageSize

/-! ## Columns that stay -/

/-- The query reads columns that no service writes. -/
def CaseQuery.Settled (query : CaseQuery) : Prop :=
  query.status = none ∧ caseSortOf query.sort ≠ .status ∧
    caseSortOf query.sort ≠ .amountRecovered

/-- The columns of a case that identify it. -/
structure RecoveryCase.SameIdentity (c c' : RecoveryCase) : Prop where
  merchantId : c'.merchantId = c.merchantId
  caseType : c'.caseType = c.caseType
  amountAtRisk : c'.amountAtRisk = c.amountAtRisk

theorem sameIdentity_frame : VerificationFrame (CasesKept RecoveryCase.SameIdentity) :=
  .of_rows (fun _ => ⟨rfl, rfl, rfl⟩)
    (fun _ _ _ h h' => ⟨h'.merchantId.trans h.merchantId, h'.caseType.trans h.caseType,
      h'.amountAtRisk.trans h.amountAtRisk⟩)
    (fun _ _ _ _ => ⟨rfl, rfl, rfl⟩) fun _ _ h => ⟨h.merchantId, h.caseType, h.amountAtRisk⟩

theorem sameIdentity_webhookFrame : WebhookFrame (CasesKept RecoveryCase.SameIdentity) :=
  .of_rows (fun _ => ⟨rfl, rfl, rfl⟩)
    (fun _ _ _ h h' => ⟨h'.merchantId.trans h.merchantId, h'.caseType.trans h.caseType,
      h'.amountAtRisk.trans h.amountAtRisk⟩)
    fun _ _ _ _ => ⟨rfl, rfl, rfl⟩

variable {columns : CaseColumns} {lower : String → String} {query : CaseQuery} {rt : Runtime}
  {s s' : Store} {c c' : RecoveryCase} {i : ℕ}

/-- Such a query selects and sorts a case as before. -/
theorem CaseQuery.Settled.selects (hsettled : query.Settled) (h : c.SameIdentity c') :
    query.selects c' = query.selects c := by
  unfold CaseQuery.selects
  rw [hsettled.1, h.merchantId, h.caseType, h.amountAtRisk]
  simp only [Option.all_none]

theorem CaseQuery.Settled.key (hsettled : query.Settled) (h : c.SameIdentity c') (i : ℕ) :
    query.key columns lower i c' = query.key columns lower i c := by
  have hcolumn : query.column columns i c' = query.column columns i c := by
    obtain ⟨-, hstatus, hrecovered⟩ := hsettled
    unfold CaseQuery.column
    cases hsort : caseSortOf query.sort with
    | createdAt => rfl
    | amountAtRisk => simp only [h.amountAtRisk]
    | amountRecovered => exact absurd hsort hrecovered
    | status => exact absurd hsort hstatus
    | caseType => simp only [h.caseType]
    | priority => rfl
  unfold CaseQuery.key
  rw [hcolumn]

/-! ## The sorted list -/

/-- The identifiers of the sorted rows. -/
def CaseQuery.ids (columns : CaseColumns) (lower : String → String) (query : CaseQuery)
    (s : Store) : List ℕ :=
  (query.sorted columns lower s).map Prod.fst

/-- The key of the row of an identifier. -/
def CaseQuery.keyIn (columns : CaseColumns) (lower : String → String) (query : CaseQuery)
    (s : Store) (i : ℕ) : ℤ ×ₗ ℤ :=
  ((s.cases.get? i).map (query.key columns lower i)).getD (toLex (0, 0))

theorem keyIn_eq (h : s.cases.get? i = some c) :
    query.keyIn columns lower s i = query.key columns lower i c := by
  unfold CaseQuery.keyIn
  rw [h]
  rfl

theorem sorted_perm (s : Store) :
    (query.sorted columns lower s).Perm (s.cases.entries.filter fun e => query.selects e.2) :=
  List.perm_insertionSort _ _

theorem mem_sorted {e : ℕ × RecoveryCase} :
    e ∈ query.sorted columns lower s ↔
      s.cases.get? e.1 = some e.2 ∧ query.selects e.2 = true := by
  rw [(sorted_perm s).mem_iff, List.mem_filter, Table.mem_entries]

theorem mem_ids : i ∈ query.ids columns lower s ↔
    ∃ c, s.cases.get? i = some c ∧ query.selects c = true := by
  unfold CaseQuery.ids
  constructor
  · intro h
    obtain ⟨⟨j, c⟩, hmem, rfl⟩ := List.mem_map.mp h
    exact ⟨c, mem_sorted.mp hmem⟩
  · rintro ⟨c, hrow, hselects⟩
    exact List.mem_map.mpr ⟨(i, c), mem_sorted.mpr ⟨hrow, hselects⟩, rfl⟩

theorem ids_nodup (s : Store) : (query.ids columns lower s).Nodup := by
  have hperm : (query.ids columns lower s).Perm _ := (sorted_perm s).map Prod.fst
  exact hperm.nodup_iff.mpr (s.cases.ids_nodup.sublist (List.filter_sublist.map Prod.fst))

/-- The total is the length of the list. -/
theorem length_ids (s : Store) :
    (query.ids columns lower s).length = s.cases.count query.selects := by
  unfold CaseQuery.ids
  rw [List.length_map, (sorted_perm s).length_eq, ← Table.length_idsWhere]
  unfold Table.idsWhere
  rw [List.length_map]

/-- No two rows have one key. -/
theorem keyIn_injective {j : ℕ} (hi : i ∈ query.ids columns lower s)
    (hj : j ∈ query.ids columns lower s)
    (h : query.keyIn columns lower s i = query.keyIn columns lower s j) : i = j := by
  obtain ⟨c, hc, -⟩ := mem_ids.mp hi
  obtain ⟨c', hc', -⟩ := mem_ids.mp hj
  rw [keyIn_eq hc, keyIn_eq hc'] at h
  have hsecond : -columns.uuid i = -columns.uuid j := congrArg (fun k => (ofLex k).2) h
  exact columns.uuid_injective (neg_injective hsecond)

theorem ids_sorted (s : Store) : (query.ids columns lower s).Pairwise fun i j =>
    query.keyIn columns lower s i < query.keyIn columns lower s j := by
  have hle : (query.ids columns lower s).Pairwise fun i j =>
      query.keyIn columns lower s i ≤ query.keyIn columns lower s j := by
    unfold CaseQuery.ids
    rw [List.pairwise_map]
    have hpairs : (query.sorted columns lower s).Pairwise fun e e' =>
        query.key columns lower e.1 e.2 ≤ query.key columns lower e'.1 e'.2 :=
      List.pairwise_insertionSort _ _
    refine hpairs.imp_of_mem fun {e e'} he he' hkeys => ?_
    rw [keyIn_eq (mem_sorted.mp he).1, keyIn_eq (mem_sorted.mp he').1]
    exact hkeys
  refine (hle.and (ids_nodup s)).imp_of_mem fun {i j} hi hj h => ?_
  exact lt_of_le_of_ne h.1 fun heq => h.2 (keyIn_injective hi hj heq)

/-- The identifiers of a page are the page of the identifiers. -/
theorem map_page (s : Store) (offset limit : ℕ) :
    (page (query.sorted columns lower s) offset limit).map Prod.fst =
      page (query.ids columns lower s) offset limit := by
  unfold page CaseQuery.ids
  rw [List.map_take, List.map_drop]

/-! ## Runs -/

/-- What an operator has read, by identifiers. -/
def CaseBrowsing.reader (w : CaseBrowsing) : PageReader ℕ where
  pages := w.answers.map fun answer => answer.items.map Prod.fst
  total := w.answers.getLast?.map (·.total)

theorem reader_turn (w : CaseBrowsing) :
    CaseBrowsing.reader { w with
      answers := w.answers ++ [listCases columns lower w.store query (w.answers.length + 1)] } =
      w.reader.read query.pageSize (query.ids columns lower w.store) := by
  have hitems : (listCases columns lower w.store query (w.answers.length + 1)).items.map Prod.fst =
      page (query.ids columns lower w.store) (w.answers.length * query.pageSize)
        query.pageSize := by
    rw [← map_page]
    rfl
  unfold CaseBrowsing.reader PageReader.read
  rw [List.map_append, List.getLast?_concat, List.length_map, Option.map_some, List.map_singleton,
    hitems, length_ids]
  rfl

/-- A call leaves every case in the list, and lets none move up. -/
theorem place_callStep {call : ServiceCall} (hsettled : query.Settled)
    (hstep : CallStep rt s call s') (hi : i ∈ query.ids columns lower s) :
    i ∈ query.ids columns lower s' ∧
      Lib.place (query.keyIn columns lower s) (query.ids columns lower s) i ≤
        Lib.place (query.keyIn columns lower s') (query.ids columns lower s') i := by
  have hkept : CasesKept RecoveryCase.SameIdentity s s' :=
    sameIdentity_webhookFrame.callStep sameIdentity_frame.keeps_verifyCase hstep
  have hstays : ∀ j ∈ query.ids columns lower s, j ∈ query.ids columns lower s' ∧
      query.keyIn columns lower s' j = query.keyIn columns lower s j := by
    intro j hj
    obtain ⟨c, hc, hselects⟩ := mem_ids.mp hj
    obtain ⟨c', hc', hsame⟩ := hkept j c hc
    rw [keyIn_eq hc, keyIn_eq hc', hsettled.key hsame]
    exact ⟨mem_ids.mpr ⟨c', hc', (hsettled.selects hsame).trans hselects⟩, rfl⟩
  refine ⟨(hstays i hi).1, Lib.place_mono (ids_nodup s) fun j hj hbefore => ?_⟩
  rw [(hstays j hj).2, (hstays i hi).2]
  exact ⟨(hstays j hj).1, hbefore⟩

/-- Paging through the list by columns that stay, while any calls go on: only cases that the
query selects are shown, and when the pages reach up to the total, every case that was there when
the first page was asked for has been shown. -/
theorem caseList_complete (rt : Runtime) (columns : CaseColumns) (lower : String → String)
    (query : CaseQuery) (hsettled : query.Settled) (s : Store) (labels : List BrowseLabel)
    (w : CaseBrowsing)
    (hrun : Run (BrowseStep rt columns lower query) { store := s } labels w) :
    (∀ answer ∈ w.answers, ∀ e ∈ answer.items, query.selects e.2 = true) ∧
      (w.Complete query → ∀ i c, s.cases.get? i = some c → query.selects c = true →
        ∃ answer ∈ w.answers, i ∈ answer.items.map Prod.fst) := by
  constructor
  · refine hrun.invariant (P := fun w => ∀ answer ∈ w.answers, ∀ e ∈ answer.items,
      query.selects e.2 = true) ?_ (fun answer hanswer => by cases hanswer)
    rintro w label w' hshown hstep answer hanswer e he
    cases hstep with
    | call => exact hshown answer hanswer e he
    | turn =>
      rcases List.mem_append.mp hanswer with hbefore | hnew
      · exact hshown answer hbefore e he
      · obtain rfl := List.mem_singleton.mp hnew
        exact (mem_sorted.mp (List.mem_of_mem_drop (List.mem_of_mem_take he))).2
  · intro hcomplete i c hrow hselects
    have hmeets : i ∈ query.ids columns lower w.store ∧
        w.reader.Meets query.pageSize (query.keyIn columns lower w.store)
          (query.ids columns lower w.store) i := by
      -- no call moves the case up among the sorted ids, so no page that was shown passes over it
      refine hrun.invariant (P := fun w => i ∈ query.ids columns lower w.store ∧
        w.reader.Meets query.pageSize (query.keyIn columns lower w.store)
          (query.ids columns lower w.store) i) ?_
        ⟨mem_ids.mpr ⟨c, hrow, hselects⟩, PageReader.meets_start _ _ _ _⟩
      rintro w label w' ⟨hi, hmeets⟩ hstep
      cases hstep with
      | call hcall =>
        obtain ⟨hi', hplace⟩ := place_callStep hsettled hcall hi
        exact ⟨hi', hmeets.mono hplace⟩
      | turn =>
        rw [reader_turn]
        exact ⟨hi, hmeets.read (ids_sorted _) hi⟩
    obtain ⟨last, hlast, hcovered⟩ := hcomplete
    have htotal : w.reader.total = some last.total := by
      unfold CaseBrowsing.reader
      rw [hlast]
      rfl
    have hdone : w.reader.Done query.pageSize := by
      intro total hsome
      rw [htotal] at hsome
      obtain rfl := Option.some.inj hsome
      have hlength : w.reader.pages.length = w.answers.length := List.length_map _
      rw [hlength]
      exact hcovered
    obtain ⟨ids, hids, hi⟩ := hmeets.2.done hdone (by rw [htotal]; rfl)
    obtain ⟨answer, hanswer, rfl⟩ := List.mem_map.mp hids
    exact ⟨answer, hanswer, hi⟩

/-! ### A case that is processed between two pages -/

/-- Columns in the order of the identifiers. -/
def sampleColumns : CaseColumns where
  createdAt i := i
  priority _ := 0
  uuid i := i
  collate _ := 0
  uuid_injective _ _ h := Int.ofNat.inj h

/-- Two detected cases. -/
def twoDetectedStore : Store where
  merchants := ⟨[{}]⟩
  customers := ⟨[{ merchantId := 0 }]⟩
  cases := ⟨[sampleCase 0 100000 .detected, sampleCase 1 200000 .detected]⟩

/-- The newer case is processed. -/
def newerWalks : ServiceCall := .walkToPolicyCheck { now := 0 } 1

/-- The first page, the call, and the second page. -/
def twoPages (query : CaseQuery) : CaseBrowsing where
  store := newerWalks.after sampleRuntime twoDetectedStore
  answers := [listCases sampleColumns id twoDetectedStore query 1,
    listCases sampleColumns id (newerWalks.after sampleRuntime twoDetectedStore) query 2]

theorem run_twoPages (query : CaseQuery) :
    Run (BrowseStep sampleRuntime sampleColumns id query) { store := twoDetectedStore }
      [.turn, .call newerWalks, .turn] (twoPages query) := by
  have hfirst : Run (BrowseStep sampleRuntime sampleColumns id query)
      { store := twoDetectedStore } [.turn] _ := .single .turn
  exact (hfirst.snoc (.call (.inl rfl))).snoc .turn

theorem caseList_complete_twoPages :
    ∃ answer ∈ (twoPages { merchantId := 0, pageSize := 1 }).answers,
      0 ∈ answer.items.map Prod.fst := by
  have hsettled : CaseQuery.Settled { merchantId := 0, pageSize := 1 } :=
    ⟨rfl, by decide +kernel, by decide +kernel⟩
  obtain ⟨-, hshown⟩ := caseList_complete sampleRuntime sampleColumns id _ hsettled
    twoDetectedStore _ _ (run_twoPages _)
  exact hshown ⟨_, rfl, by decide +kernel⟩ 0 _ rfl (by decide +kernel)

/-- By status, the second page begins behind a case that has moved up, and does not show it. -/
theorem statusFilter_misses :
    ¬ ∀ labels w, Run (BrowseStep sampleRuntime sampleColumns id
        { merchantId := 0, status := some "DETECTED", pageSize := 1 })
        { store := twoDetectedStore } labels w →
      w.Complete { merchantId := 0, status := some "DETECTED", pageSize := 1 } →
        ∃ answer ∈ w.answers, 0 ∈ answer.items.map Prod.fst := by
  intro hall
  have hmissed : ¬ ∃ answer ∈
      (twoPages { merchantId := 0, status := some "DETECTED", pageSize := 1 }).answers,
      0 ∈ answer.items.map Prod.fst := by decide +kernel
  exact hmissed (hall _ _ (run_twoPages _) ⟨_, rfl, by decide +kernel⟩)

end ReviveX
