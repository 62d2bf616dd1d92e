import ReviveX.Lib.Binary64
import ReviveX.Lib.Json
import Mathlib.Data.List.Dedup
import Mathlib.Data.List.Sort
import Mathlib.Order.Basic

/-!
# Splitting the rows of a training set by customer

`split_by_customer`: the customers are shuffled and cut into three sets, and every row goes to
the bucket of its customer. The ratios are doubles, and `random.Random(seed).shuffle` is a
parameter that permutes.
-/

namespace ReviveX

open Lib (Json)

/-- `ModelQualityError`. -/
structure ModelQualityError where
  code : String
  message : String
deriving DecidableEq

/-- A row of the data set: `str(row["customer_id"])`, the entry `"split"` if there is one, and the
other entries. -/
structure TrainingRow where
  customerId : String
  split : Option String
  fields : List (String × Json)

/-- The keys of the buckets. -/
inductive SplitName
  | train | validation | test
deriving DecidableEq, Repr

def SplitName.text : SplitName → String
  | .train => "train"
  | .validation => "validation"
  | .test => "test"

/-- A copy of the row that names its split. -/
def TrainingRow.copied (row : TrainingRow) (name : SplitName) : TrainingRow :=
  { row with split := some name.text }

/-- `random.Random(seed).shuffle`. -/
structure Shuffler where
  shuffle : ℤ → List String → List String
  perm : ∀ seed customers, (shuffle seed customers).Perm customers

/-- The dictionary of buckets. -/
structure Buckets where
  train : List TrainingRow := []
  validation : List TrainingRow := []
  test : List TrainingRow := []

namespace Buckets

def bucket (buckets : Buckets) : SplitName → List TrainingRow
  | .train => buckets.train
  | .validation => buckets.validation
  | .test => buckets.test

/-- `buckets[split].append(row)`. -/
def append (buckets : Buckets) (name : SplitName) (row : TrainingRow) : Buckets :=
  match name with
  | .train => { buckets with train := buckets.train ++ [row] }
  | .validation => { buckets with validation := buckets.validation ++ [row] }
  | .test => { buckets with test := buckets.test ++ [row] }

end Buckets

/-- `sorted({str(row["customer_id"]) for row in rows})`. -/
def sortedCustomers (rows : List TrainingRow) : List String :=
  (rows.map TrainingRow.customerId).dedup.insertionSort (· ≤ ·)

/-- `int(x)` of a double. -/
def truncate (q : ℚ) : ℤ := if 0 ≤ q then ⌊q⌋ else ⌈q⌉

/-- `max(1, int(count * ratio))`. -/
def customerShare (count : ℕ) (ratio : ℚ) : ℕ :=
  (max 1 (truncate (Lib.toBinary64 (Lib.toBinary64 count * ratio)))).toNat

/-- `n_train` and `n_val`. -/
def splitSizes (count : ℕ) (trainRatio valRatio : ℚ) : ℕ × ℕ :=
  let nTrain := customerShare count trainRatio
  let nVal := customerShare count valRatio
  if count ≤ nTrain + nVal then (nTrain, max 1 (count - nTrain - 1)) else (nTrain, nVal)

/-- The customers of the splits. -/
structure CustomerSets where
  trainSet : List String
  valSet : List String
  testSet : List String

/-- The slices of the shuffled customers. -/
def customerSets (customers : List String) (sizes : ℕ × ℕ) : CustomerSets where
  trainSet := customers.take sizes.1
  valSet := (customers.drop sizes.1).take sizes.2
  testSet := customers.drop (sizes.1 + sizes.2)

namespace CustomerSets

/-- `overlap`, when it is not empty. -/
def overlap (sets : CustomerSets) : Bool :=
  sets.trainSet.any (· ∈ sets.valSet) || sets.trainSet.any (· ∈ sets.testSet) ||
    sets.valSet.any (· ∈ sets.testSet)

/-- The split of a customer. -/
def splitOf (sets : CustomerSets) (customer : String) : SplitName :=
  if customer ∈ sets.trainSet then .train
  else if customer ∈ sets.valSet then .validation
  else .test

end CustomerSets

/-- The loop over the rows. -/
def fillBuckets (sets : CustomerSets) : Buckets → List TrainingRow → Buckets
  | buckets, [] => buckets
  | buckets, row :: rows =>
    let name := sets.splitOf row.customerId
    fillBuckets sets (buckets.append name (row.copied name)) rows

/-- `split_by_customer`. -/
def splitByCustomer (random : Shuffler) (rows : List TrainingRow) (seed : ℤ)
    (trainRatio valRatio : ℚ) : Except ModelQualityError Buckets := do
  let customers := sortedCustomers rows
  if customers.length < 3 then
    throw ⟨"INVALID_SPLIT", "Need at least 3 customers to split without leakage"⟩
  let rngCustomers := random.shuffle seed customers
  let sets := customerSets rngCustomers (splitSizes rngCustomers.length trainRatio valRatio)
  if sets.testSet = [] then throw ⟨"INVALID_SPLIT", "Held-out customer set is empty"⟩
  if sets.overlap then throw ⟨"INVALID_SPLIT", "Customer overlap across splits"⟩
  let buckets := fillBuckets sets {} rows
  if buckets.train = [] ∨ buckets.validation = [] ∨ buckets.test = [] then
    throw ⟨"INVALID_SPLIT", "A split received zero rows"⟩
  return buckets

/-- The default of `train_ratio`. -/
def defaultTrainRatio : ℚ := Lib.toBinary64 (70 / 100)

/-- The default of `val_ratio`. -/
def defaultValRatio : ℚ := Lib.toBinary64 (15 / 100)

end ReviveX
