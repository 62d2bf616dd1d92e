import ReviveX.Eval.CustomerSplit
import Mathlib.Data.Finset.Card
import Mathlib.Tactic.Linarith

/-!
# What a customer split leaves in its buckets

The buckets are the rows of three disjoint sets of customers, in their order. With the default
ratios the three sets are inhabited from four customers on. Three customers are let in and then
turned away: two of them are for training and the third for validation.
-/

namespace ReviveX

/-! ## Sizes -/

/-- `int(x)` of a double that is not negative. -/
theorem truncate_of_nonneg {q : ℚ} (h : 0 ≤ q) : truncate q = ⌊q⌋ := if_pos h

theorem one_le_customerShare (count : ℕ) (ratio : ℚ) : 1 ≤ customerShare count ratio := by
  unfold customerShare
  omega

theorem defaultTrainRatio_bounds :
    69 / 100 ≤ defaultTrainRatio ∧ defaultTrainRatio ≤ 7001 / 10000 := by decide +kernel

/-- From four customers on, the share of the training set leaves at least two. -/
theorem customerShare_train_add_two_le {count : ℕ} (h : 4 ≤ count) :
    customerShare count defaultTrainRatio + 2 ≤ count := by
  obtain ⟨hlow, hhigh⟩ := defaultTrainRatio_bounds
  have hcount : (4 : ℚ) ≤ count := by exact_mod_cast h
  have hfour : Lib.toBinary64 4 = 4 := by decide +kernel
  have hdouble : 4 ≤ Lib.toBinary64 count := by
    rw [← hfour]
    exact Lib.toBinary64_mono (by norm_num) hcount
  have hdouble' := Lib.toBinary64_le_add (q := count) (by linarith)
  have hproduct : 1 ≤ Lib.toBinary64 count * defaultTrainRatio := by nlinarith
  have hproduct' := Lib.toBinary64_le_add hproduct
  have hscaled : Lib.toBinary64 count * defaultTrainRatio ≤ 7002 / 10000 * count := by
    nlinarith
  have hshare : Lib.toBinary64 (Lib.toBinary64 count * defaultTrainRatio) < count - 1 := by
    linarith
  have hnonneg : 0 ≤ Lib.toBinary64 (Lib.toBinary64 count * defaultTrainRatio) :=
    Lib.toBinary64_nonneg (by linarith)
  have hfloor : truncate (Lib.toBinary64 (Lib.toBinary64 count * defaultTrainRatio)) <
      (count : ℤ) - 1 := by
    rw [truncate_of_nonneg hnonneg, Int.floor_lt]
    push_cast
    exact hshare
  unfold customerShare
  omega

/-- From four customers on, no split is without a customer. -/
theorem splitSizes_default {count : ℕ} (h : 4 ≤ count) :
    1 ≤ (splitSizes count defaultTrainRatio defaultValRatio).1 ∧
      1 ≤ (splitSizes count defaultTrainRatio defaultValRatio).2 ∧
      (splitSizes count defaultTrainRatio defaultValRatio).1 +
        (splitSizes count defaultTrainRatio defaultValRatio).2 < count := by
  have htrain := one_le_customerShare count defaultTrainRatio
  have hval := one_le_customerShare count defaultValRatio
  have hrest := customerShare_train_add_two_le h
  unfold splitSizes
  dsimp only
  split
  · refine ⟨htrain, le_max_left _ _, ?_⟩
    show customerShare count defaultTrainRatio +
      max 1 (count - customerShare count defaultTrainRatio - 1) < count
    omega
  · rename_i hfits
    refine ⟨htrain, hval, ?_⟩
    show customerShare count defaultTrainRatio + customerShare count defaultValRatio < count
    omega

/-- Three customers are used up by training and validation. -/
theorem splitSizes_three : splitSizes 3 defaultTrainRatio defaultValRatio = (2, 1) := by
  decide +kernel

/-! ## Sets of customers -/

theorem sortedCustomers_perm (rows : List TrainingRow) :
    (sortedCustomers rows).Perm (rows.map TrainingRow.customerId).dedup :=
  List.perm_insertionSort _ _

/-- The number of different customers. -/
theorem length_sortedCustomers (rows : List TrainingRow) :
    (sortedCustomers rows).length = (rows.map TrainingRow.customerId).toFinset.card := by
  rw [(sortedCustomers_perm rows).length_eq, List.card_toFinset]

/-- The three slices are the customers, in their order. -/
theorem customerSets_append (customers : List String) (sizes : ℕ × ℕ) :
    (customerSets customers sizes).trainSet ++
      ((customerSets customers sizes).valSet ++ (customerSets customers sizes).testSet) =
        customers := by
  have hdrop : customers.drop (sizes.1 + sizes.2) = (customers.drop sizes.1).drop sizes.2 := by
    rw [List.drop_drop]
  unfold customerSets
  dsimp only
  rw [hdrop, List.take_append_drop, List.take_append_drop]

namespace CustomerSets

/-- Sets that share no customer. -/
structure Disjoint (sets : CustomerSets) : Prop where
  train_val : ∀ customer ∈ sets.trainSet, customer ∉ sets.valSet
  train_test : ∀ customer ∈ sets.trainSet, customer ∉ sets.testSet
  val_test : ∀ customer ∈ sets.valSet, customer ∉ sets.testSet

variable {sets : CustomerSets}

theorem Disjoint.overlap (h : sets.Disjoint) : sets.overlap = false := by
  unfold CustomerSets.overlap
  simp only [Bool.or_eq_false_iff, List.any_eq_false, decide_eq_true_eq]
  exact ⟨⟨h.train_val, h.train_test⟩, h.val_test⟩

theorem Disjoint.splitOf_train {customer : String} (h : customer ∈ sets.trainSet) :
    sets.splitOf customer = .train := if_pos h

theorem Disjoint.splitOf_val (h : sets.Disjoint) {customer : String}
    (hcustomer : customer ∈ sets.valSet) : sets.splitOf customer = .validation := by
  unfold splitOf
  rw [if_neg fun htrain => h.train_val customer htrain hcustomer, if_pos hcustomer]

theorem Disjoint.splitOf_test (h : sets.Disjoint) {customer : String}
    (hcustomer : customer ∈ sets.testSet) : sets.splitOf customer = .test := by
  unfold splitOf
  rw [if_neg fun htrain => h.train_test customer htrain hcustomer,
    if_neg fun hval => h.val_test customer hval hcustomer]

end CustomerSets

/-- Slices of different customers are disjoint. -/
theorem customerSets_disjoint {customers : List String} (h : customers.Nodup)
    (sizes : ℕ × ℕ) : (customerSets customers sizes).Disjoint := by
  rw [← customerSets_append customers sizes] at h
  obtain ⟨-, hrest, hne⟩ := List.nodup_append.mp h
  obtain ⟨-, -, hne'⟩ := List.nodup_append.mp hrest
  refine ⟨?_, ?_, ?_⟩
  · intro customer htrain hval
    exact hne customer htrain customer (List.mem_append_left _ hval) rfl
  · intro customer htrain htest
    exact hne customer htrain customer (List.mem_append_right _ htest) rfl
  · intro customer hval htest
    exact hne' customer hval customer htest rfl

/-! ## Buckets -/

@[simp] theorem Buckets.bucket_append (buckets : Buckets) (name name' : SplitName)
    (row : TrainingRow) :
    (buckets.append name row).bucket name' =
      buckets.bucket name' ++ if name = name' then [row] else [] := by
  cases name <;> cases name' <;> simp [Buckets.append, Buckets.bucket]

/-- What the loop over the rows adds to a bucket. -/
theorem bucket_fillBuckets (sets : CustomerSets) (buckets : Buckets) (rows : List TrainingRow)
    (name : SplitName) :
    (fillBuckets sets buckets rows).bucket name = buckets.bucket name ++
      (rows.filter fun row => sets.splitOf row.customerId = name).map (·.copied name) := by
  -- the buckets grow at their ends, so what they held before stays in front
  induction rows generalizing buckets with
  | nil => simp [fillBuckets]
  | cons row rows ih =>
    unfold fillBuckets
    rw [ih, Buckets.bucket_append, List.append_assoc]
    congr 1
    by_cases hname : sets.splitOf row.customerId = name
    · simp [hname]
    · simp [hname]

/-- What a split promises of its buckets. -/
structure Buckets.FairSplit (buckets : Buckets) (rows : List TrainingRow) : Prop where
  nonempty : ∀ name, buckets.bucket name ≠ []
  /-- Every row is in one bucket, and each bucket has its rows in their order. -/
  complete : ∃ side : TrainingRow → SplitName, ∀ name,
    buckets.bucket name = (rows.filter fun row => side row = name).map (·.copied name)
  /-- No customer has rows in two buckets. -/
  separate : ∀ name name', ∀ row ∈ buckets.bucket name, ∀ row' ∈ buckets.bucket name',
    row.customerId = row'.customerId → name = name'

/-- The split of a list of rows with the default ratios. -/
def SplitsFairly (random : Shuffler) (rows : List TrainingRow) (seed : ℤ) : Prop :=
  ∃ buckets, splitByCustomer random rows seed defaultTrainRatio defaultValRatio = .ok buckets ∧
    buckets.FairSplit rows

section split

variable {random : Shuffler} {rows : List TrainingRow} {seed : ℤ}

/-- The sets that a split works with. -/
def splitSets (random : Shuffler) (rows : List TrainingRow) (seed : ℤ) : CustomerSets :=
  customerSets (random.shuffle seed (sortedCustomers rows))
    (splitSizes (random.shuffle seed (sortedCustomers rows)).length defaultTrainRatio
      defaultValRatio)

theorem length_shuffle (random : Shuffler) (rows : List TrainingRow) (seed : ℤ) :
    (random.shuffle seed (sortedCustomers rows)).length = (sortedCustomers rows).length :=
  (random.perm seed _).length_eq

theorem splitSets_disjoint (random : Shuffler) (rows : List TrainingRow) (seed : ℤ) :
    (splitSets random rows seed).Disjoint := by
  refine customerSets_disjoint ?_ _
  rw [(random.perm seed _).nodup_iff, (sortedCustomers_perm rows).nodup_iff]
  exact List.nodup_dedup _

/-- Every customer of a set has a row. -/
theorem exists_row_of_mem {customer : String}
    (h : customer ∈ random.shuffle seed (sortedCustomers rows)) :
    ∃ row ∈ rows, row.customerId = customer := by
  rw [(random.perm seed _).mem_iff, (sortedCustomers_perm rows).mem_iff, List.mem_dedup,
    List.mem_map] at h
  exact h

/-- A bucket has a row when its set has a customer. -/
theorem bucket_ne_nil {sets : CustomerSets} {name : SplitName} {row : TrainingRow}
    (hrow : row ∈ rows) (hname : sets.splitOf row.customerId = name) :
    (fillBuckets sets {} rows).bucket name ≠ [] := by
  have hmem : row.copied name ∈ (fillBuckets sets {} rows).bucket name := by
    rw [bucket_fillBuckets]
    refine List.mem_append_right _ (List.mem_map_of_mem ?_)
    exact List.mem_filter.mpr ⟨hrow, decide_eq_true hname⟩
  exact List.ne_nil_of_mem hmem

/-- From four customers on, no bucket is empty. -/
theorem bucket_splitSets_ne_nil (h : 4 ≤ (sortedCustomers rows).length) (name : SplitName) :
    (fillBuckets (splitSets random rows seed) {} rows).bucket name ≠ [] := by
  have hdisjoint := splitSets_disjoint random rows seed
  obtain ⟨htrain, hval, hsum⟩ := splitSizes_default h
  rw [← length_shuffle random rows seed] at htrain hval hsum
  have hmember : ∀ {customers : List String},
      customers.Sublist (random.shuffle seed (sortedCustomers rows)) → 0 < customers.length →
      ∃ row ∈ rows, row.customerId ∈ customers := by
    intro customers hsub hlength
    obtain ⟨customer, hcustomer⟩ := List.exists_mem_of_length_pos hlength
    obtain ⟨row, hrow, rfl⟩ := exists_row_of_mem (hsub.subset hcustomer)
    exact ⟨row, hrow, hcustomer⟩
  have htrainRow : ∃ row ∈ rows, row.customerId ∈ (splitSets random rows seed).trainSet := by
    refine hmember (List.take_sublist _ _) ?_
    show 0 < (List.take _ (random.shuffle seed (sortedCustomers rows))).length
    rw [List.length_take]
    omega
  have hvalRow : ∃ row ∈ rows, row.customerId ∈ (splitSets random rows seed).valSet := by
    refine hmember ((List.take_sublist _ _).trans (List.drop_sublist _ _)) ?_
    show 0 < (List.take _ (List.drop _ (random.shuffle seed (sortedCustomers rows)))).length
    rw [List.length_take, List.length_drop]
    omega
  have htestRow : ∃ row ∈ rows, row.customerId ∈ (splitSets random rows seed).testSet := by
    refine hmember (List.drop_sublist _ _) ?_
    show 0 < (List.drop _ (random.shuffle seed (sortedCustomers rows))).length
    rw [List.length_drop]
    omega
  cases name with
  | train =>
    obtain ⟨row, hrow, hset⟩ := htrainRow
    exact bucket_ne_nil hrow (CustomerSets.Disjoint.splitOf_train hset)
  | validation =>
    obtain ⟨row, hrow, hset⟩ := hvalRow
    exact bucket_ne_nil hrow (hdisjoint.splitOf_val hset)
  | test =>
    obtain ⟨row, hrow, hset⟩ := htestRow
    exact bucket_ne_nil hrow (hdisjoint.splitOf_test hset)

/-- Buckets that the loop fills are fair when none is empty. -/
theorem fairSplit_fillBuckets (sets : CustomerSets)
    (h : ∀ name, (fillBuckets sets {} rows).bucket name ≠ []) :
    (fillBuckets sets {} rows).FairSplit rows := by
  have hbucket : ∀ name, (fillBuckets sets {} rows).bucket name =
      (rows.filter fun row => sets.splitOf row.customerId = name).map (·.copied name) := by
    intro name
    rw [bucket_fillBuckets]
    cases name <;> rfl
  have hside : ∀ name, ∀ row ∈ (fillBuckets sets {} rows).bucket name,
      sets.splitOf row.customerId = name := by
    intro name row hrow
    rw [hbucket] at hrow
    obtain ⟨original, horiginal, rfl⟩ := List.mem_map.mp hrow
    exact of_decide_eq_true (List.mem_filter.mp horiginal).2
  refine ⟨h, ⟨fun row => sets.splitOf row.customerId, hbucket⟩, ?_⟩
  intro name name' row hrow row' hrow' hcustomer
  rw [← hside name row hrow, ← hside name' row' hrow', hcustomer]

/-- From four customers on, a split succeeds and is fair. -/
theorem splitsFairly_of_four (random : Shuffler) (seed : ℤ)
    (h : 4 ≤ (sortedCustomers rows).length) : SplitsFairly random rows seed := by
  have hdisjoint := splitSets_disjoint random rows seed
  have hbuckets : ∀ name, (fillBuckets (splitSets random rows seed) {} rows).bucket name ≠ [] :=
    bucket_splitSets_ne_nil h
  refine ⟨fillBuckets (splitSets random rows seed) {} rows, ?_,
    fairSplit_fillBuckets _ hbuckets⟩
  have htest : (splitSets random rows seed).testSet ≠ [] := by
    obtain ⟨-, -, hsum⟩ := splitSizes_default h
    rw [← length_shuffle random rows seed] at hsum
    intro hempty
    have hlength := congrArg List.length hempty
    unfold splitSets customerSets at hlength
    rw [List.length_drop, List.length_nil] at hlength
    omega
  have hnone : ¬ ((fillBuckets (splitSets random rows seed) {} rows).train = [] ∨
      (fillBuckets (splitSets random rows seed) {} rows).validation = [] ∨
      (fillBuckets (splitSets random rows seed) {} rows).test = []) := by
    rintro (htrain | hval | htest)
    · exact hbuckets .train htrain
    · exact hbuckets .validation hval
    · exact hbuckets .test htest
  have hmany : ¬ (sortedCustomers rows).length < 3 := by omega
  unfold splitSets at hdisjoint htest hnone
  unfold splitByCustomer splitSets
  simp only [if_neg hmany, if_neg htest, hdisjoint.overlap, if_neg hnone]
  rfl

/-- Three customers leave none for the test set. -/
theorem splitByCustomer_three (random : Shuffler) (seed : ℤ)
    (h : (sortedCustomers rows).length = 3) :
    splitByCustomer random rows seed defaultTrainRatio defaultValRatio =
      .error ⟨"INVALID_SPLIT", "Held-out customer set is empty"⟩ := by
  have hlength : (random.shuffle seed (sortedCustomers rows)).length = 3 := by
    rw [length_shuffle, h]
  have htest : (splitSets random rows seed).testSet = [] := by
    unfold splitSets customerSets
    rw [hlength, splitSizes_three]
    exact List.drop_eq_nil_of_le hlength.le
  have hmany : ¬ (sortedCustomers rows).length < 3 := by omega
  unfold splitSets at htest
  unfold splitByCustomer
  simp only [if_neg hmany, if_pos htest]
  rfl

end split

/-- A split of at least three customers with the default ratios succeeds with fair buckets,
whatever the shuffle, exactly when there are not just three of them. -/
theorem splitsFairly_iff (random : Shuffler) (rows : List TrainingRow) (seed : ℤ)
    (h : 3 ≤ (rows.map TrainingRow.customerId).toFinset.card) :
    SplitsFairly random rows seed ↔ (rows.map TrainingRow.customerId).toFinset.card ≠ 3 := by
  rw [← length_sortedCustomers] at h ⊢
  constructor
  · intro hfair hthree
    obtain ⟨buckets, hbuckets, -⟩ := hfair
    rw [splitByCustomer_three random seed hthree] at hbuckets
    cases hbuckets
  · intro hne
    exact splitsFairly_of_four random seed (by omega)

/-- A row of a customer. -/
def rowOf (customerId : String) : TrainingRow where
  customerId := customerId
  split := none
  fields := []

/-- A shuffle that leaves the customers where they are. -/
def stillShuffler : Shuffler where
  shuffle _ customers := customers
  perm _ customers := List.Perm.refl customers

theorem splitsFairly_iff_four :
    3 ≤ (([rowOf "a", rowOf "b", rowOf "c", rowOf "d", rowOf "a"].map
      TrainingRow.customerId).toFinset.card) ∧
      (SplitsFairly stillShuffler [rowOf "a", rowOf "b", rowOf "c", rowOf "d", rowOf "a"] 42 ↔
        ([rowOf "a", rowOf "b", rowOf "c", rowOf "d", rowOf "a"].map
          TrainingRow.customerId).toFinset.card ≠ 3) :=
  ⟨by decide +kernel, splitsFairly_iff stillShuffler _ 42 (by decide +kernel)⟩

/-- Three customers pass the check and are turned away by the next one. -/
theorem three_customers_turned_away :
    ([rowOf "a", rowOf "b", rowOf "c"].map TrainingRow.customerId).toFinset.card = 3 ∧
      ¬ SplitsFairly stillShuffler [rowOf "a", rowOf "b", rowOf "c"] 42 := by
  have hcard : ([rowOf "a", rowOf "b", rowOf "c"].map TrainingRow.customerId).toFinset.card =
      3 := by decide +kernel
  refine ⟨hcard, ?_⟩
  intro hfair
  obtain ⟨buckets, hbuckets, -⟩ := hfair
  rw [← length_sortedCustomers] at hcard
  rw [splitByCustomer_three stillShuffler 42 hcard] at hbuckets
  cases hbuckets

end ReviveX
